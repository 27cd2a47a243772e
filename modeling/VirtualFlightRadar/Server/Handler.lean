import VirtualFlightRadar.Server.Server

/-!
# The accept handler

The handler looks up addresses in three places, each of which may throw, and takes a slot, refuses
or gives up.  `attempted` says what one call can do; what holds over whole runs follows from it.
-/

open Cxx

namespace VirtualFlightRadar

/-! ## Slots -/

section Slots

variable {α β : Type}

/-- Writing a slot of a table leaves what is in front of it and behind it. -/
theorem exists_cut {l : List α} {i : Nat} {x : α} (h : l[i]? = some x) :
    ∃ front rest, l = front ++ x :: rest ∧ ∀ y, l.set i y = front ++ y :: rest := by
  obtain ⟨hlt, rfl⟩ := List.getElem?_eq_some_iff.mp h
  refine ⟨l.take i, l.drop (i + 1), ?_, fun y => ?_⟩
  · rw [List.getElem_cons_drop, List.take_append_drop]
  · rw [List.set_eq_take_append_cons_drop, if_pos hlt]

theorem findIdx?_isNone {l : List (Option α)} {i : Nat} (h : l.findIdx? Option.isNone = some i) :
    l[i]? = some none := by
  obtain ⟨hlt, hnone, -⟩ := List.findIdx?_eq_some_iff_getElem.mp h
  rw [List.getElem?_eq_getElem hlt, Option.isNone_iff_eq_none.mp hnone]

theorem findIdx?_of_countP {l : List (Option α)} (h : l.countP Option.isSome < l.length) :
    ∃ i, l.findIdx? Option.isNone = some i := by
  cases hfind : l.findIdx? Option.isNone with
  | some i => exact ⟨i, rfl⟩
  | none =>
      have hall : l.countP Option.isSome = l.length := by
        apply List.countP_eq_length.mpr
        intro x hx
        have hnot := List.findIdx?_eq_none_iff.mp hfind x hx
        rwa [Option.isNone_eq_false_iff] at hnot
      omega

/-- Filling a free slot adds its entry to those of the table. -/
theorem filterMap_set {l : List (Option α)} {i : Nat} (h : l[i]? = some none) (x : α) (f : α → β) :
    ((l.set i (some x)).filterMap (Option.map f)).Perm (f x :: l.filterMap (Option.map f)) := by
  obtain ⟨front, rest, hl, hset⟩ := exists_cut h
  have hsome : Option.map f (some x) = some (f x) := rfl
  have hnone : Option.map f none = none := rfl
  rw [hset, hl, List.filterMap_append, List.filterMap_append, List.filterMap_cons_some hsome,
    List.filterMap_cons_none hnone]
  exact List.perm_middle

theorem filterMap_of_none {l : List (Option α)} (h : ∀ it ∈ l, it = none) (f : α → β) :
    l.filterMap (Option.map f) = [] := by
  apply List.filterMap_eq_nil_iff.mpr
  intro it hit
  rw [h it hit]
  rfl

theorem countP_of_none {l : List (Option α)} (h : ∀ it ∈ l, it = none) :
    l.countP Option.isSome = 0 := by
  apply List.countP_eq_zero.mpr
  intro it hit
  rw [h it hit]
  exact Bool.false_ne_true

theorem countP_set {l : List (Option α)} {i : Nat} (h : l[i]? = some none) (x : α) :
    (l.set i (some x)).countP Option.isSome = l.countP Option.isSome + 1 := by
  obtain ⟨front, rest, hl, hset⟩ := exists_cut h
  rw [hset, hl, List.countP_append, List.countP_append, List.countP_cons_of_pos rfl,
    List.countP_cons_of_neg (by simp), Nat.add_assoc]

end Slots

/-! ## The accept handler -/

-- Only the exception of the repository is caught.
def NetException.caught : NetException → Bool
  | .SocketException => true
  | .system_error => false

/-- The call returns, or throws something that is caught. -/
def catchable : Except NetException Bytes → Bool
  | .error e => e.caught
  | .ok _ => true

namespace Server

/-- No call that the handler makes on its way throws anything but a `SocketException`. -/
def Quiet (this : Server) (env : Attempt) : Bool :=
  env.error || !this.m_netInterface.acceptorOpen ||
    if this.m_activeConnections.toNat < this.m_connections.length then
      match env.currentAddress with
      | .error e => e.caught && !env.closeFails
      | .ok address =>
          if this.isConnected address then catchable env.refusedAddress && !env.closeFails
          else catchable env.startAddress
    else catchable env.refusedAddress && !env.closeFails

/-- The interface after the handler: the socket is gone, and the next accept waits. -/
def rearmed (this : Server) (env : Attempt) : NetworkInterface :=
  { this.m_netInterface.handleAccept env.error with socketOpen := false }.onAccept

/-- What it takes to get into slot `i` of the table. -/
structure Admits (this : Server) (env : Attempt) (i : Nat) (connection : Connection) : Prop where
  error : env.error = false
  acceptorOpen : this.m_netInterface.acceptorOpen = true
  room : this.m_activeConnections.toNat < this.m_connections.length
  unknown : ∃ address, env.currentAddress = .ok address ∧ this.isConnected address = false
  address : env.startAddress = .ok connection.m_address
  socket : connection.m_socket = this.m_netInterface.accepted + 1
  slot : this.m_connections.findIdx? Option.isNone = some i

/-- Everything the handler can do: admit the socket, drop it, or end the program. -/
inductive Attempted (this : Server) (env : Attempt) : Option Server → Prop where
  | admitted (i : Nat) (connection : Connection) (hquiet : this.Quiet env = true)
      (h : Admits this env i connection) :
      Attempted this env (some { this with
        m_netInterface := this.rearmed env
        m_connections := this.m_connections.set i (some connection)
        m_activeConnections := this.m_activeConnections + 1 })
  | dropped (hquiet : this.Quiet env = true) (h : ∀ i connection, ¬ Admits this env i connection) :
      Attempted this env (some { this with m_netInterface := this.rearmed env })
  | terminated (hquiet : this.Quiet env = false) : Attempted this env none

section Handler

variable {this : Server} {env : Attempt}

theorem not_admits_of_error (h : env.error = true) (i : Nat) (connection : Connection) :
    ¬ Admits this env i connection := fun hadmits => by
  have herror := hadmits.error
  rw [h] at herror
  cases herror

/-- A socket that was closed by `stop` throws at its first use. -/
theorem attemptConnection_closed (herror : env.error = false)
    (hclosed : this.m_netInterface.acceptorOpen = false) :
    this.attemptConnection env = some { this with m_netInterface := this.rearmed env } := by
  unfold attemptConnection tryAdmit refuses refuse
  by_cases hroom : this.m_activeConnections.toNat < this.m_connections.length
  · simp [NetworkInterface.handleAccept, NetworkInterface.get_currentAddress,
      NetworkInterface.close, catchSocketException, herror, hclosed, hroom, Except.map, rearmed,
      accept]
  · simp [NetworkInterface.handleAccept, NetworkInterface.get_currentAddress,
      NetworkInterface.close, catchSocketException, herror, hclosed, hroom, rearmed, accept]

/-- The server without the socket it has accepted. -/
def withoutSocket (this : Server) : Server :=
  { this with m_netInterface := { this.m_netInterface with socketOpen := false } }

theorem catch_of_open (hopen : this.m_netInterface.socketOpen = true) {e : NetException} :
    catchSocketException env (.error e, this) =
      if e.caught && !env.closeFails then some this.withoutSocket else none := by
  cases e with
  | system_error => rfl
  | SocketException =>
      cases hfails : env.closeFails <;>
        simp [catchSocketException, NetworkInterface.close, hopen, hfails, NetException.caught,
          withoutSocket]

theorem catch_refuse (hopen : this.m_netInterface.socketOpen = true) :
    catchSocketException env (this.refuse env) =
      if catchable env.refusedAddress && !env.closeFails then some this.withoutSocket
      else none := by
  unfold refuse NetworkInterface.get_currentAddress
  rw [if_pos hopen]
  cases env.refusedAddress with
  | error e => exact catch_of_open hopen
  | ok address =>
      cases hfails : env.closeFails <;>
        simp [catchSocketException, NetworkInterface.close, hopen, catchable, withoutSocket]

theorem catch_place (this : Server) (env : Attempt)
    (hopen : this.m_netInterface.socketOpen = true) {i : Nat}
    (hslot : this.m_connections.findIdx? Option.isNone = some i) :
    catchSocketException env (this.place env) =
      match env.startAddress with
      | .ok address => some { this.withoutSocket with
          m_connections := this.m_connections.set i (some ⟨this.m_netInterface.accepted, address⟩)
          m_activeConnections := this.m_activeConnections + 1 }
      | .error .SocketException => some this.withoutSocket
      | .error .system_error => none := by
  unfold place NetworkInterface.startConnection
  rw [hslot, if_pos hopen]
  cases env.startAddress with
  | ok address => rfl
  | error e =>
      -- The socket was moved out already, so there is nothing left to close.
      cases e with
      | SocketException => rfl
      | system_error => rfl

/-- The state in which the handler of an accepted socket starts its work. -/
def opened (this : Server) : Server :=
  { this with m_netInterface := { this.m_netInterface with
      armed := false
      socketOpen := true
      accepted := this.m_netInterface.accepted + 1 } }

theorem attemptConnection_open (herror : env.error = false)
    (hopen : this.m_netInterface.acceptorOpen = true) :
    this.attemptConnection env =
      (catchSocketException env (this.opened.tryAdmit env)).map accept := by
  simp [attemptConnection, NetworkInterface.handleAccept, herror, hopen, opened]

theorem accept_opened_withoutSocket (herror : env.error = false)
    (hopen : this.m_netInterface.acceptorOpen = true) :
    this.opened.withoutSocket.accept = { this with m_netInterface := this.rearmed env } := by
  simp [accept, withoutSocket, opened, rearmed, NetworkInterface.handleAccept, herror, hopen]

/-- A way through the handler that ends without a connection. -/
theorem attempted_dropped (herror : env.error = false)
    (hopen : this.m_netInterface.acceptorOpen = true)
    (hno : ∀ i connection, ¬ Admits this env i connection)
    (hcatch : catchSocketException env (this.opened.tryAdmit env) =
      if this.Quiet env then some this.opened.withoutSocket else none) :
    Attempted this env (this.attemptConnection env) := by
  rw [attemptConnection_open herror hopen, hcatch]
  cases hquiet : this.Quiet env with
  | true =>
      simp only [if_true, Option.map_some, accept_opened_withoutSocket herror hopen]
      exact .dropped hquiet hno
  | false => exact .terminated hquiet

theorem quiet_open (herror : env.error = false)
    (hopen : this.m_netInterface.acceptorOpen = true) :
    this.Quiet env = if this.m_activeConnections.toNat < this.m_connections.length then
      match env.currentAddress with
      | .error e => e.caught && !env.closeFails
      | .ok address =>
          if this.isConnected address then catchable env.refusedAddress && !env.closeFails
          else catchable env.startAddress
    else catchable env.refusedAddress && !env.closeFails := by
  rw [Quiet, herror, hopen]
  rfl

theorem tryAdmit_opened (this : Server) (env : Attempt) : this.opened.tryAdmit env =
    match (if this.m_activeConnections.toNat < this.m_connections.length then
      env.currentAddress.map this.isConnected else .ok true) with
    | .error e => (.error e, this.opened)
    | .ok false => this.opened.place env
    | .ok true => this.opened.refuse env := rfl

/-- A way through the handler that starts a connection. -/
theorem attempted_place (herror : env.error = false)
    (hopen : this.m_netInterface.acceptorOpen = true)
    (hroom : this.m_activeConnections.toNat < this.m_connections.length) {address : Bytes}
    (hcurrent : env.currentAddress = .ok address) (hunknown : this.isConnected address = false)
    {i : Nat} (hslot : this.m_connections.findIdx? Option.isNone = some i) :
    Attempted this env (this.attemptConnection env) := by
  have hquiet := quiet_open herror hopen
  rw [if_pos hroom, hcurrent] at hquiet
  simp only [hunknown, Bool.false_eq_true, if_false] at hquiet
  have hplace := catch_place this.opened env rfl hslot
  have htry : this.opened.tryAdmit env = this.opened.place env := by
    rw [tryAdmit_opened, if_pos hroom, hcurrent]
    simp only [Except.map, hunknown]
  rw [← htry] at hplace
  cases hstart : env.startAddress with
  | ok started =>
      rw [hstart] at hquiet hplace
      have hrearmed : this.opened.withoutSocket.m_netInterface.onAccept = this.rearmed env :=
        congrArg m_netInterface (accept_opened_withoutSocket herror hopen)
      rw [attemptConnection_open herror hopen, hplace, Option.map_some, accept]
      simp only [hrearmed]
      exact .admitted i ⟨this.m_netInterface.accepted + 1, started⟩ hquiet
        ⟨herror, hopen, hroom, ⟨address, hcurrent, hunknown⟩, hstart, rfl, hslot⟩
  | error e =>
      rw [hstart] at hquiet hplace
      apply attempted_dropped herror hopen
      · intro i connection hadmits
        have hneed := hadmits.address
        rw [hstart] at hneed
        cases hneed
      · rw [hplace, hquiet]
        cases e with
        | SocketException => rfl
        | system_error => rfl

/-- With room in the table, the outcome of the first lookup decides. -/
theorem attempted_room (herror : env.error = false)
    (hopen : this.m_netInterface.acceptorOpen = true)
    (hroom : this.m_activeConnections.toNat < this.m_connections.length) {i : Nat}
    (hslot : this.m_connections.findIdx? Option.isNone = some i) :
    Attempted this env (this.attemptConnection env) := by
  have hsocket : this.opened.m_netInterface.socketOpen = true := rfl
  have hquiet := quiet_open herror hopen
  have htry := tryAdmit_opened this env
  rw [if_pos hroom] at hquiet htry
  cases hcurrent : env.currentAddress with
  | error e =>
      rw [hcurrent] at hquiet htry
      apply attempted_dropped herror hopen
      · intro i connection hadmits
        obtain ⟨address, haddress, -⟩ := hadmits.unknown
        rw [hcurrent] at haddress
        cases haddress
      · rw [htry, hquiet]
        exact catch_of_open hsocket
  | ok address =>
      rw [hcurrent] at hquiet htry
      cases hknown : this.isConnected address with
      | true =>
          simp only [Except.map, hknown, if_true] at hquiet htry
          apply attempted_dropped herror hopen
          · intro i connection hadmits
            obtain ⟨other, hother, hunknown⟩ := hadmits.unknown
            rw [hcurrent] at hother
            cases hother
            rw [hknown] at hunknown
            cases hunknown
          · rw [htry, hquiet]
            exact catch_refuse hsocket
      | false => exact attempted_place herror hopen hroom hcurrent hknown hslot

theorem attempted_full (herror : env.error = false)
    (hopen : this.m_netInterface.acceptorOpen = true)
    (hfull : ¬ this.m_activeConnections.toNat < this.m_connections.length) :
    Attempted this env (this.attemptConnection env) := by
  have hsocket : this.opened.m_netInterface.socketOpen = true := rfl
  have hquiet := quiet_open herror hopen
  have htry := tryAdmit_opened this env
  rw [if_neg hfull] at hquiet htry
  apply attempted_dropped herror hopen
  · exact fun i connection hadmits => hfull hadmits.room
  · rw [htry, hquiet]
    exact catch_refuse hsocket

/-- The handler does one of three things, as long as room in the counter means room in the table. -/
theorem attempted (env : Attempt)
    (hfree : this.m_activeConnections.toNat < this.m_connections.length →
      ∃ i, this.m_connections.findIdx? Option.isNone = some i) :
    Attempted this env (this.attemptConnection env) := by
  cases herror : env.error with
  | true =>
      have heq : this.attemptConnection env =
          some { this with m_netInterface := this.rearmed env } := by
        simp [attemptConnection, NetworkInterface.handleAccept, herror, rearmed, accept]
      rw [heq]
      exact .dropped (by simp [Quiet, herror]) (not_admits_of_error herror)
  | false =>
      cases hopen : this.m_netInterface.acceptorOpen with
      | false =>
          rw [attemptConnection_closed herror hopen]
          refine .dropped (by simp [Quiet, hopen]) fun i connection hadmits => ?_
          have hneed := hadmits.acceptorOpen
          rw [hopen] at hneed
          cases hneed
      | true =>
          by_cases hroom : this.m_activeConnections.toNat < this.m_connections.length
          · obtain ⟨i, hslot⟩ := hfree hroom
            exact attempted_room herror hopen hroom hslot
          · exact attempted_full herror hopen hroom

end Handler

theorem rearmed_fields (this : Server) (env : Attempt) :
    (this.rearmed env).socketOpen = false ∧
      (this.rearmed env).acceptorOpen = this.m_netInterface.acceptorOpen ∧
      (this.rearmed env).armed = this.m_netInterface.acceptorOpen ∧
      this.m_netInterface.accepted ≤ (this.rearmed env).accepted := by
  cases herror : env.error <;> cases hopen : this.m_netInterface.acceptorOpen <;>
    simp [rearmed, NetworkInterface.handleAccept, NetworkInterface.onAccept, herror, hopen]

end Server

end VirtualFlightRadar
