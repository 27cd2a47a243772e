import VirtualFlightRadar.Client.Connector
import VirtualFlightRadar.Cxx.Machine

/-!
# Clients

A client gives its connector one callback for each operation it starts.  One timer serves the
reconnect delay, the deadline of a sensor and the keep-alive of an APRS connection, and closing the
connection leaves callbacks behind that come later.  What the network does is which outstanding
operation calls back next, and with which error code.
-/

open Cxx

namespace VirtualFlightRadar

/-- Wait for (re-)connect timeout -/
def C_CON_WAIT_TIMEVAL : Nat := 120

def AC_BEACON_INT : Nat := 600

def WC_RCV_TIMEOUT : Nat := 5

inductive ClientClass where
  | SbsClient
  | GpsdClient
  | AprscClient
  | SensorClient
  deriving DecidableEq, Repr

inductive ClientState where
  | NONE
  | CONNECTING
  | RUNNING
  | STOPPING
  deriving DecidableEq, Repr

/-- The members that are bound as callbacks. -/
inductive ClientCallback where
  | handleConnect
  | handleLogin
  | handleWatch
  | handleTimedConnect
  | handleRead
  | checkDeadline
  | handleSendKeepAlive
  -- The lambdas of `handleSendKeepAlive` and of `GpsdClient::stop`
  | sentBeacon
  | stoppedWatch
  deriving DecidableEq, Repr

namespace ClientCallback

-- `m_timer.async_wait`
def isTimer : ClientCallback → Bool
  | .handleTimedConnect => true
  | .checkDeadline => true
  | .handleSendKeepAlive => true
  | _ => false

end ClientCallback

/-! ## The connector -/

/-- An operation that has not called back yet. -/
structure Operation where
  callback : ClientCallback
  -- How often the connection was closed before
  closes : Nat
  -- A timer wait that can only call back with an error
  cancelled : Bool := false

/-- What a `ConnectorImplBoost` has started. -/
structure Outstanding where
  operations : List Operation := []
  closes : Nat := 0
  -- `m_socket.is_open()`
  socketOpen : Bool := false

namespace Outstanding

def start (this : Outstanding) (callback : ClientCallback) : Outstanding :=
  { this with operations := this.operations ++ [{ callback := callback, closes := this.closes }] }

-- A new expiry time and `cancel` end the waits for the old one.
def cancelWaits (this : Outstanding) : Outstanding :=
  { this with operations := this.operations.map fun operation =>
      if operation.callback.isTimer then { operation with cancelled := true } else operation }

def resetTimer (this : Outstanding) (_timeout : Nat) : Outstanding := this.cancelWaits

def close (this : Outstanding) : Outstanding :=
  { this.cancelWaits with socketOpen := false, closes := this.closes + 1 }

-- No handler runs after `m_ioService.stop()`.
def stop (this : Outstanding) : Outstanding := this.close

def onConnect (this : Outstanding) (callback : ClientCallback) : Outstanding := this.start callback

def onRead (this : Outstanding) (callback : ClientCallback) : Outstanding :=
  if this.socketOpen then this.start callback else this

def onWrite (this : Outstanding) (callback : ClientCallback) : Outstanding :=
  if this.socketOpen then this.start callback else this

def onTimeout (this : Outstanding) (callback : ClientCallback) (timeout : Nat) : Outstanding :=
  let this := if timeout > 0 then this.resetTimer timeout else this
  this.start callback

end Outstanding

/-! ## The base class -/

structure Client where
  type : ClientClass
  m_state : ClientState := .NONE
  m_connector : Outstanding := {}

namespace Client

def connect (this : Client) : Client :=
  { this with m_state := .CONNECTING, m_connector := this.m_connector.onConnect .handleConnect }

def timedConnect (this : Client) : Client :=
  { this with
    m_connector := this.m_connector.onTimeout .handleTimedConnect C_CON_WAIT_TIMEVAL }

def reconnect (this : Client) : Client :=
  if this.m_state ≠ .STOPPING then
    timedConnect { this with m_state := .CONNECTING, m_connector := this.m_connector.close }
  else this

def stopBase (this : Client) : Client :=
  if this.m_state = .RUNNING ∨ this.m_state = .CONNECTING then
    { this with m_state := .STOPPING, m_connector := this.m_connector.stop }
  else this

def readBase (this : Client) : Client :=
  { this with m_connector := this.m_connector.onRead .handleRead }

/-! ## The members that are overridden -/

def stop (this : Client) : Client :=
  match this.type with
  | .GpsdClient =>
      if this.m_state = .RUNNING then
        stopBase { this with m_connector := this.m_connector.onWrite .stoppedWatch }
      else this.stopBase
  | _ => this.stopBase

def read (this : Client) : Client :=
  match this.type with
  | .SensorClient =>
      readBase { this with m_connector := this.m_connector.resetTimer WC_RCV_TIMEOUT }
  | _ => this.readBase

def sendKeepAlive (this : Client) : Client :=
  { this with m_connector := this.m_connector.onTimeout .handleSendKeepAlive AC_BEACON_INT }

/-- What `handleConnect` does with a connection. -/
def connected (this : Client) : Client :=
  match this.type with
  | .SbsClient => read { this with m_state := .RUNNING }
  | .GpsdClient => { this with m_connector := this.m_connector.onWrite .handleWatch }
  | .AprscClient => { this with m_connector := this.m_connector.onWrite .handleLogin }
  | .SensorClient =>
      read { this with
        m_state := .RUNNING
        m_connector := this.m_connector.onTimeout .checkDeadline WC_RCV_TIMEOUT }

/-! ## Callbacks -/

def handleConnect (this : Client) (error : ErrorCode) : Client :=
  if this.m_state = .CONNECTING then
    match error with
    | .SUCCESS => this.connected
    | .FAILURE => this.reconnect
  else this

def handleLogin (this : Client) (error : ErrorCode) : Client :=
  if this.m_state = .CONNECTING then
    match error with
    | .SUCCESS => (sendKeepAlive { this with m_state := .RUNNING }).read
    | .FAILURE => this.reconnect
  else this

def handleWatch (this : Client) (error : ErrorCode) : Client :=
  if this.m_state = .CONNECTING then
    match error with
    | .SUCCESS => read { this with m_state := .RUNNING }
    | .FAILURE => this.reconnect
  else this

-- The state is not looked at; `scheduleStop` stops a client that is not stopping already.
def handleTimedConnect (this : Client) (error : ErrorCode) : Client :=
  match error with
  | .SUCCESS => this.connect
  | .FAILURE => this.stop

/-- A response, with what `process` of each subscribed feed returns for it. -/
def handleRead (this : Client) (error : ErrorCode) (processed : List Bool) : Client :=
  if this.m_state = .RUNNING then
    match error with
    | .SUCCESS =>
        read (processed.foldl (fun this valid => if valid then this else this.stop) this)
    | .FAILURE => this.reconnect
  else this

def checkDeadline (this : Client) (error : ErrorCode) : Client :=
  if this.m_state = .RUNNING then
    match error with
    | .SUCCESS => this.reconnect
    | .FAILURE => { this with m_connector := this.m_connector.onTimeout .checkDeadline 0 }
  else this

def handleSendKeepAlive (this : Client) (error : ErrorCode) : Client :=
  if this.m_state = .RUNNING then
    match error with
    | .SUCCESS => sendKeepAlive { this with m_connector := this.m_connector.onWrite .sentBeacon }
    | .FAILURE => this.sendKeepAlive
  else this

def sentBeacon (this : Client) (error : ErrorCode) : Client :=
  if this.m_state = .RUNNING then
    match error with
    | .SUCCESS => this
    | .FAILURE => this.reconnect
  else this

def call (this : Client) (error : ErrorCode) (processed : List Bool) : ClientCallback → Client
  | .handleConnect => this.handleConnect error
  | .handleLogin => this.handleLogin error
  | .handleWatch => this.handleWatch error
  | .handleTimedConnect => this.handleTimedConnect error
  | .handleRead => this.handleRead error processed
  | .checkDeadline => this.checkDeadline error
  | .handleSendKeepAlive => this.handleSendKeepAlive error
  | .sentBeacon => this.sentBeacon error
  | .stoppedWatch => this

/-! ## Runs -/

/-- A client after `run`, with its first connect attempt. -/
def started (type : ClientClass) : Client := connect { type := type }

end Client

/-- A callback: which of the outstanding operations it belongs to, and what it brings. -/
structure Delivery where
  index : Nat
  error : ErrorCode
  processed : List Bool := []

namespace Client

/-- The callback leaves the outstanding operations, and a connect attempt that succeeds opens the
socket. -/
def finish (this : Client) (delivery : Delivery) (callback : ClientCallback) : Client :=
  { this with m_connector := { this.m_connector with
      operations := this.m_connector.operations.eraseIdx delivery.index
      socketOpen := this.m_connector.socketOpen ||
        (callback = .handleConnect && delivery.error = .SUCCESS) } }

/-- What the connector may deliver: a cancelled wait calls back with an error, and what was
outstanding at a `close` calls back before what was started after it. -/
def Deliverable (this : Client) (delivery : Delivery) (operation : Operation) : Prop :=
  (operation.cancelled = true → delivery.error = .FAILURE) ∧
    ∀ other ∈ this.m_connector.operations, operation.closes ≤ other.closes

instance (this : Client) (delivery : Delivery) (operation : Operation) :
    Decidable (this.Deliverable delivery operation) :=
  inferInstanceAs (Decidable (_ ∧ _))

/-- One callback before the client is stopped; undefined for what the connector does not do. -/
def step (this : Client) (delivery : Delivery) : Option (ClientCallback × Client) :=
  match this.m_connector.operations[delivery.index]? with
  | none => none
  | some operation =>
      if this.m_state ≠ .STOPPING ∧ this.Deliverable delivery operation then
        some (operation.callback, (this.finish delivery operation.callback).call delivery.error
          delivery.processed operation.callback)
      else none

end Client

end VirtualFlightRadar
