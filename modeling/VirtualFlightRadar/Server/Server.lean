import VirtualFlightRadar.Cxx.Bytes
import VirtualFlightRadar.Cxx.Machine

/-!
# The server

`Server` keeps its connections in an array and their number in a counter of its own.  A handler on
the network thread admits the socket that was accepted last, `send` drops the connections it cannot
write to, and `stop` drops all of them.  Each of them holds the mutex while it works, so a run of the
server is a sequence of such calls.  What the network does in a call is an input of the step.
-/

open Cxx

namespace VirtualFlightRadar

/-- What a network call throws: the exception of the repository, or `boost::system::system_error`. -/
inductive NetException where
  | SocketException
  | system_error
  deriving DecidableEq, Repr

structure Connection where
  -- Accepted sockets are told apart by the order in which they were accepted.
  m_socket : Nat
  m_address : Bytes
  deriving DecidableEq

/-- What one call of the accept handler gets from the network: the error flag, and what
`remote_endpoint` returns or throws in the admission test, in the constructor of the connection and
in the line that logs a refusal. -/
structure Attempt where
  error : Bool := false
  currentAddress : Except NetException Bytes
  startAddress : Except NetException Bytes
  refusedAddress : Except NetException Bytes
  -- `m_socket.close()` throws a `system_error`
  closeFails : Bool := false

/-! ## The network interface -/

structure NetworkInterface where
  -- `m_acceptor.is_open()`
  acceptorOpen : Bool := true
  -- `m_socket.get().is_open()`
  socketOpen : Bool := false
  -- An accept is waiting for its callback.
  armed : Bool := false
  accepted : Nat := 0

namespace NetworkInterface

/-- The state in which the handler finds the interface.  `stop` closes the acceptor and the socket
together, so a socket that was accepted before is closed when the handler gets the mutex after it. -/
def handleAccept (this : NetworkInterface) (error : Bool) : NetworkInterface :=
  if error || !this.acceptorOpen then { this with armed := false, socketOpen := false }
  else { this with armed := false, socketOpen := true, accepted := this.accepted + 1 }

def onAccept (this : NetworkInterface) : NetworkInterface :=
  if this.acceptorOpen then { this with armed := true } else this

def stop (this : NetworkInterface) : NetworkInterface :=
  { this with acceptorOpen := false, socketOpen := false, armed := false }

def close (this : NetworkInterface) (closeFails : Bool) : Except NetException NetworkInterface :=
  if this.socketOpen && closeFails then .error .system_error
  else .ok { this with socketOpen := false }

/-- `m_socket.get_address()`, where `lookup` is the outcome of `remote_endpoint`. -/
def get_currentAddress (this : NetworkInterface) (lookup : Except NetException Bytes) :
    Except NetException Bytes :=
  if this.socketOpen then lookup else .error .SocketException

def startConnection (this : NetworkInterface) (lookup : Except NetException Bytes) :
    Except NetException Connection × NetworkInterface :=
  if this.socketOpen then
    -- The socket is moved into the connection before its address is looked up.  If that throws, the
    -- connection closes it on the way out.
    (lookup.map fun address => { m_socket := this.accepted, m_address := address },
      { this with socketOpen := false })
  else (.error .SocketException, this)

end NetworkInterface

/-! ## The connection table -/

structure Server where
  -- An array of `S_MAX_CLIENTS` pointers
  m_connections : List (Option Connection)
  m_activeConnections : UInt8 := 0
  m_running : Bool := true
  m_netInterface : NetworkInterface := { armed := true }

namespace Server

/-- A server after `run`, waiting for its first connection. -/
def started (S_MAX_CLIENTS : Nat) : Server :=
  { m_connections := List.replicate S_MAX_CLIENTS none }

def accept (this : Server) : Server :=
  { this with m_netInterface := this.m_netInterface.onAccept }

def stop (this : Server) : Server :=
  if this.m_running then
    { m_connections := this.m_connections.map fun _ => none
      m_activeConnections := 0
      m_running := false
      m_netInterface := this.m_netInterface.stop }
  else this

def isConnected (this : Server) (address : Bytes) : Bool :=
  this.m_connections.any fun it => it.any fun connection => connection.m_address == address

/-- The condition of the admission test; the address is only looked up if there is room. -/
def refuses (this : Server) (env : Attempt) : Except NetException Bool :=
  if this.m_activeConnections.toNat < this.m_connections.length then
    (this.m_netInterface.get_currentAddress env.currentAddress).map this.isConnected
  else .ok true

/-- The loop that looks for a free slot. -/
def place (this : Server) (env : Attempt) : Except NetException Unit × Server :=
  match this.m_connections.findIdx? Option.isNone with
  | none => (.ok (), this)
  | some i =>
      match this.m_netInterface.startConnection env.startAddress with
      | (.ok connection, netInterface) =>
          (.ok (), { this with
            m_netInterface := netInterface
            m_connections := this.m_connections.set i (some connection)
            m_activeConnections := this.m_activeConnections + 1 })
      | (.error e, netInterface) => (.error e, { this with m_netInterface := netInterface })

def refuse (this : Server) (env : Attempt) : Except NetException Unit × Server :=
  match this.m_netInterface.get_currentAddress env.refusedAddress with
  | .error e => (.error e, this)
  | .ok _ =>
      match this.m_netInterface.close env.closeFails with
      | .error e => (.error e, this)
      | .ok netInterface => (.ok (), { this with m_netInterface := netInterface })

/-- The `try` block of the handler. -/
def tryAdmit (this : Server) (env : Attempt) : Except NetException Unit × Server :=
  match this.refuses env with
  | .error e => (.error e, this)
  | .ok false => this.place env
  | .ok true => this.refuse env

/-- The `catch` clause, and `none` for an exception that gets past it. -/
def catchSocketException (env : Attempt) : Except NetException Unit × Server → Option Server
  | (.ok (), this) => some this
  | (.error .SocketException, this) =>
      match this.m_netInterface.close env.closeFails with
      | .ok netInterface => some { this with m_netInterface := netInterface }
      | .error _ => none
  | (.error .system_error, _) => none

/-- The handler is `noexcept`: `none` if an exception leaves it, which terminates the program. -/
def attemptConnection (this : Server) (env : Attempt) : Option Server :=
  let this := { this with m_netInterface := this.m_netInterface.handleAccept env.error }
  if env.error then some this.accept
  else (catchSocketException env (this.tryAdmit env)).map accept

end Server

/-! ## Sending -/

/-- What a write to a socket does. -/
inductive WriteOutcome where
  -- `!ec`
  | returned (written : Bool)
  | SocketException
  deriving DecidableEq, Repr

-- `Connection::write` catches the exception.
def Connection.write : WriteOutcome → Bool
  | .returned written => written
  | .SocketException => false

/-- A message that was handed to a socket. -/
structure Write where
  socket : Nat
  msg : Bytes
  deriving DecidableEq

namespace Server

/-- The loop of `send` over the slots, with the outcome of the write to each socket. -/
def sendAll (msg : Bytes) (outcome : Nat → WriteOutcome) :
    List (Option Connection) → UInt8 → List (Option Connection) × UInt8 × List Write
  | [], active => ([], active, [])
  | none :: rest, active =>
      let (rest, active, writes) := sendAll msg outcome rest active
      (none :: rest, active, writes)
  | some it :: rest, active =>
      if Connection.write (outcome it.m_socket) then
        let (rest, active, writes) := sendAll msg outcome rest active
        (some it :: rest, active, ⟨it.m_socket, msg⟩ :: writes)
      else
        let (rest, active, writes) := sendAll msg outcome rest (active - 1)
        (none :: rest, active, ⟨it.m_socket, msg⟩ :: writes)

def send (this : Server) (msg : Bytes) (outcome : Nat → WriteOutcome) : List Write × Server :=
  if msg = [] ∨ this.m_activeConnections = 0 then ([], this)
  else
    let (connections, active, writes) :=
      sendAll msg outcome this.m_connections this.m_activeConnections
    (writes, { this with m_connections := connections, m_activeConnections := active })

end Server

/-! ## Runs -/

inductive ServerOp where
  | attemptConnection (env : Attempt)
  | send (msg : Bytes) (outcome : Nat → WriteOutcome)
  | stop

namespace Server

/-- A call of a member, with the writes it does; undefined where the program terminates. -/
def step (this : Server) : ServerOp → Option (List Write × Server)
  | .attemptConnection env => (this.attemptConnection env).map fun this => ([], this)
  | .send msg outcome => some (this.send msg outcome)
  | .stop => some ([], this.stop)

end Server

end VirtualFlightRadar
