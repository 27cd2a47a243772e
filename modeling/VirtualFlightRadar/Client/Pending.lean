import VirtualFlightRadar.Client.Client

/-!
# The pending work of a client

A client that connects waits for one operation that takes it on; whatever else is outstanding is
left from connections it has closed, and every such callback finds a state in which it does nothing.
A client that runs has one read and, by its class, one wait for the deadline or the keep-alive.
-/

open Cxx

namespace VirtualFlightRadar

namespace ClientCallback

/-- The operations that take a connecting client on: the attempt, the login or watch request, and
the wait before the next attempt. -/
def connects : ClientCallback → Bool
  | .handleConnect => true
  | .handleLogin => true
  | .handleWatch => true
  | .handleTimedConnect => true
  | _ => false

/-- The operations of a connection. -/
def serves : ClientCallback → Bool
  | .handleRead => true
  | .checkDeadline => true
  | .handleSendKeepAlive => true
  | .sentBeacon => true
  | _ => false

end ClientCallback

/-- What a running client of a class always has outstanding, besides the beacons on their way. -/
def ClientClass.duties : ClientClass → List ClientCallback
  | .SbsClient => [.handleRead]
  | .GpsdClient => [.handleRead]
  | .AprscClient => [.handleSendKeepAlive, .handleRead]
  | .SensorClient => [.checkDeadline, .handleRead]

/-! ## What the members start -/

namespace Outstanding

def callbacks (this : Outstanding) : List ClientCallback := this.operations.map (·.callback)

/-- Every operation was started at some earlier close. -/
def Dated (this : Outstanding) : Prop :=
  ∀ operation ∈ this.operations, operation.closes ≤ this.closes

variable {this : Outstanding}

theorem callbacks_start (this : Outstanding) (callback : ClientCallback) :
    (this.start callback).callbacks = this.callbacks ++ [callback] := by
  simp [callbacks, start]

theorem callbacks_cancelWaits (this : Outstanding) :
    this.cancelWaits.callbacks = this.callbacks := by
  unfold callbacks cancelWaits
  rw [List.map_map]
  apply List.map_congr_left
  intro operation _
  simp only [Function.comp_apply]
  split <;> rfl

theorem Dated.start (h : this.Dated) (callback : ClientCallback) : (this.start callback).Dated := by
  intro operation hmem
  rcases List.mem_append.mp hmem with hold | hnew
  · exact h operation hold
  · rw [List.mem_singleton.mp hnew]
    exact le_refl _

theorem mem_cancelWaits {operation : Operation} (h : operation ∈ this.cancelWaits.operations) :
    ∃ old ∈ this.operations, operation.closes = old.closes ∧ operation.callback = old.callback := by
  obtain ⟨old, hmem, rfl⟩ := List.mem_map.mp h
  refine ⟨old, hmem, ?_⟩
  split
  · exact ⟨rfl, rfl⟩
  · exact ⟨rfl, rfl⟩

theorem Dated.cancelWaits (h : this.Dated) : this.cancelWaits.Dated := by
  intro operation hmem
  obtain ⟨old, hold, hcloses, -⟩ := mem_cancelWaits hmem
  rw [hcloses]
  exact h old hold

end Outstanding

/-! ## The invariant -/

namespace Client

/-- One operation takes the client on; the others are late ones of closed connections. -/
structure Connecting (this : Client) (operation : Operation) (late : List Operation) : Prop where
  state : this.m_state = .CONNECTING
  operations : this.m_connector.operations = late ++ [operation]
  closes : operation.closes = this.m_connector.closes
  connects : operation.callback.connects = true
  late : ∀ other ∈ late, other.closes < this.m_connector.closes ∧ other.callback.serves = true
  -- A request is only written on an open connection, by the class it belongs to.
  login : operation.callback = .handleLogin →
    this.type = .AprscClient ∧ this.m_connector.socketOpen = true
  watch : operation.callback = .handleWatch →
    this.type = .GpsdClient ∧ this.m_connector.socketOpen = true

/-- A connection is served by the duties of the class, where those in `owed` have called back and
are still to be started again. -/
structure Running (this : Client) (owed : List ClientCallback) : Prop where
  state : this.m_state = .RUNNING
  socketOpen : this.m_connector.socketOpen = true
  dated : this.m_connector.Dated
  work : ∃ beacons, (owed ++ this.m_connector.callbacks).Perm
    (this.type.duties ++ List.replicate beacons .sentBeacon)

def Pending (this : Client) : Prop :=
  (∃ operation late, this.Connecting operation late) ∨ this.Running [] ∨ this.m_state = .STOPPING

theorem started_pending (type : ClientClass) : (started type).Pending := by
  refine .inl ⟨{ callback := .handleConnect, closes := 0 }, [], ?_⟩
  exact ⟨rfl, rfl, rfl, rfl, by simp, by simp, by simp⟩

theorem finish_socketOpen {this : Client} (h : this.m_connector.socketOpen = true)
    (delivery : Delivery) (callback : ClientCallback) :
    (this.finish delivery callback).m_connector.socketOpen = true := by
  simp only [finish, h, Bool.true_or]

/-! ## Stopping -/

section Stopping

variable {this : Client}

theorem stop_state (h : this.m_state = .RUNNING ∨ this.m_state = .CONNECTING) :
    this.stop.m_state = .STOPPING := by
  have hbase : ∀ client : Client, client.m_state = this.m_state →
      client.stopBase.m_state = .STOPPING := by
    intro client hclient
    unfold stopBase
    rw [if_pos (by rw [hclient]; exact h)]
  unfold stop
  split
  · split
    · exact hbase _ rfl
    · exact hbase _ rfl
  · exact hbase _ rfl

theorem stop_of_stopping (h : this.m_state = .STOPPING) : this.stop = this := by
  have hbase : this.stopBase = this := by
    unfold stopBase
    rw [h, if_neg (by decide)]
  unfold stop
  split
  · rw [h, if_neg (by decide), hbase]
  · exact hbase

/-- What `process` returns for a response either leaves the client alone or stops it. -/
theorem foldl_stop (h : this.m_state = .RUNNING ∨ this.m_state = .STOPPING)
    (processed : List Bool) :
    processed.foldl (fun this valid => if valid then this else this.stop) this = this ∨
      (processed.foldl (fun this valid => if valid then this else this.stop) this).m_state =
        .STOPPING := by
  induction processed generalizing this with
  | nil => exact .inl rfl
  | cons valid processed ih =>
      cases valid with
      | true => exact ih h
      | false =>
          rw [List.foldl_cons, if_neg Bool.false_ne_true]
          rcases h with hrunning | hstopping
          · have hstop := stop_state (.inl hrunning)
            rcases ih (.inr hstop) with hsame | hstopped
            · right
              rw [hsame]
              exact hstop
            · exact .inr hstopped
          · rw [stop_of_stopping hstopping]
            exact ih (.inr hstopping)

theorem read_state (this : Client) : this.read.m_state = this.m_state := by
  unfold read
  split <;> rfl

end Stopping

/-! ## A connection -/

/-- Giving up a connection: what it has outstanding becomes late, and the wait for the next attempt
is the only operation that counts. -/
theorem reconnect_pending {this : Client} (hstate : this.m_state ≠ .STOPPING)
    (hdated : this.m_connector.Dated)
    (hserves : ∀ callback ∈ this.m_connector.callbacks, callback.serves = true) :
    this.reconnect.Pending := by
  refine .inl ⟨{ callback := .handleTimedConnect, closes := this.m_connector.closes + 1 },
    this.m_connector.close.cancelWaits.operations, ?_⟩
  unfold reconnect
  rw [if_pos hstate]
  refine ⟨rfl, rfl, rfl, rfl, fun other hmem => ?_, by simp, by simp⟩
  obtain ⟨closed, hclosed, hcloses, hcallback⟩ := Outstanding.mem_cancelWaits hmem
  obtain ⟨old, hold, hcloses', hcallback'⟩ := Outstanding.mem_cancelWaits hclosed
  rw [hcloses, hcallback, hcloses', hcallback']
  exact ⟨Nat.lt_succ_of_le (hdated old hold), hserves _ (List.mem_map_of_mem hold)⟩

namespace Running

variable {this : Client} {owed : List ClientCallback} {callback : ClientCallback}

theorem serves (h : this.Running owed) :
    ∀ callback ∈ this.m_connector.callbacks, callback.serves = true := by
  obtain ⟨beacons, hwork⟩ := h.work
  intro callback hmem
  have hwhole := hwork.mem_iff.mp (List.mem_append_right owed hmem)
  rcases List.mem_append.mp hwhole with hduty | hbeacon
  · revert hduty
    cases this.type <;> simp only [ClientClass.duties] <;> intro hduty <;> fin_cases hduty <;> rfl
  · rw [List.eq_of_mem_replicate hbeacon]
    rfl

/-- Starting an operation again pays for it. -/
theorem start (h : this.Running (callback :: owed)) :
    Running { this with m_connector := this.m_connector.start callback } owed := by
  obtain ⟨beacons, hwork⟩ := h.work
  refine ⟨h.state, h.socketOpen, h.dated.start callback, beacons, ?_⟩
  rw [Outstanding.callbacks_start, ← List.append_assoc]
  exact (List.perm_append_singleton _ _).trans hwork

theorem resetTimer (h : this.Running owed) (timeout : Nat) :
    Running { this with m_connector := this.m_connector.resetTimer timeout } owed := by
  refine ⟨h.state, h.socketOpen, h.dated.cancelWaits, ?_⟩
  simp only [Outstanding.resetTimer, Outstanding.callbacks_cancelWaits]
  exact h.work

theorem onTimeout (h : this.Running (callback :: owed)) (timeout : Nat) :
    Running { this with m_connector := this.m_connector.onTimeout callback timeout } owed := by
  unfold Outstanding.onTimeout
  split
  · exact (h.resetTimer timeout).start
  · exact h.start

theorem readBase (h : this.Running (.handleRead :: owed)) : this.readBase.Running owed := by
  unfold Client.readBase Outstanding.onRead
  rw [if_pos h.socketOpen]
  exact h.start

theorem read (h : this.Running (.handleRead :: owed)) : this.read.Running owed := by
  unfold Client.read
  split
  · exact (h.resetTimer WC_RCV_TIMEOUT).readBase
  · exact h.readBase

/-- The write of a beacon is outstanding besides the duties. -/
theorem writeBeacon (h : this.Running owed) :
    Running { this with m_connector := this.m_connector.onWrite .sentBeacon } owed := by
  obtain ⟨beacons, hwork⟩ := h.work
  have howed : this.Running (.sentBeacon :: owed) := by
    refine ⟨h.state, h.socketOpen, h.dated, beacons + 1, ?_⟩
    rw [List.replicate_succ]
    exact (hwork.cons _).trans List.perm_middle.symm
  unfold Outstanding.onWrite
  rw [if_pos h.socketOpen]
  exact howed.start

/-- A beacon that was sent is not owed. -/
theorem sentBeacon (h : this.Running [.sentBeacon]) : this.Running [] := by
  obtain ⟨beacons, hwork⟩ := h.work
  have hmem : ClientCallback.sentBeacon ∈
      this.type.duties ++ List.replicate beacons ClientCallback.sentBeacon :=
    hwork.mem_iff.mp List.mem_cons_self
  cases beacons with
  | zero =>
      revert hmem
      cases this.type <;> simp [ClientClass.duties]
  | succ beacons =>
      refine ⟨h.state, h.socketOpen, h.dated, beacons, ?_⟩
      apply List.Perm.cons_inv (a := .sentBeacon)
      refine hwork.trans ?_
      rw [List.replicate_succ]
      exact List.perm_middle

theorem reconnect (h : this.Running owed) : this.reconnect.Pending :=
  reconnect_pending (by rw [h.state]; decide) h.dated h.serves

/-- The callback of an operation owes it again. -/
theorem finish (h : this.Running []) {delivery : Delivery} {operation : Operation}
    (hop : this.m_connector.operations[delivery.index]? = some operation) :
    (this.finish delivery operation.callback).Running [operation.callback] := by
  obtain ⟨beacons, hwork⟩ := h.work
  obtain ⟨hlt, rfl⟩ := List.getElem?_eq_some_iff.mp hop
  refine ⟨h.state, finish_socketOpen h.socketOpen _ _, fun other hmem => ?_, beacons, ?_⟩
  · exact h.dated other (List.mem_of_mem_eraseIdx hmem)
  · have hperm := (List.getElem_cons_eraseIdx_perm hlt).map Operation.callback
    exact hperm.trans hwork

/-- A running client answers each of its own callbacks. -/
theorem call (h : this.Running [callback]) (hserves : callback.serves = true) (error : ErrorCode)
    (processed : List Bool) : (this.call error processed callback).Pending := by
  cases callback with
  | handleConnect | handleLogin | handleWatch | handleTimedConnect | stoppedWatch => cases hserves
  | handleRead =>
      simp only [Client.call, Client.handleRead, if_pos h.state]
      cases error with
      | FAILURE => exact h.reconnect
      | SUCCESS =>
          rcases foldl_stop (.inl h.state) processed with hsame | hstopped
          · rw [hsame]
            exact .inr (.inl h.read)
          · exact .inr (.inr ((read_state _).trans hstopped))
  | checkDeadline =>
      simp only [Client.call, Client.checkDeadline, if_pos h.state]
      cases error with
      | FAILURE => exact .inr (.inl (h.onTimeout 0))
      | SUCCESS => exact h.reconnect
  | handleSendKeepAlive =>
      simp only [Client.call, Client.handleSendKeepAlive, if_pos h.state]
      cases error with
      | FAILURE => exact .inr (.inl (h.onTimeout AC_BEACON_INT))
      | SUCCESS => exact .inr (.inl (h.writeBeacon.onTimeout AC_BEACON_INT))
  | sentBeacon =>
      simp only [Client.call, Client.sentBeacon, if_pos h.state]
      cases error with
      | FAILURE => exact h.reconnect
      | SUCCESS => exact .inr (.inl h.sentBeacon)

end Running

/-! ## Connecting -/

section Connecting

variable {this : Client} {callback : ClientCallback}

/-- With nothing outstanding, all duties of the class are owed. -/
theorem running_of_empty (hempty : this.m_connector.operations = [])
    (hopen : this.m_connector.socketOpen = true) {type : ClientClass} (htype : this.type = type) :
    Running { this with m_state := .RUNNING } type.duties := by
  subst htype
  refine ⟨rfl, hopen, ?_, 0, ?_⟩
  · simp [Outstanding.Dated, hempty]
  · simp [Outstanding.callbacks, hempty]

/-- A request written on a connection is the only operation that counts. -/
theorem request_pending (hstate : this.m_state = .CONNECTING)
    (hempty : this.m_connector.operations = []) (hopen : this.m_connector.socketOpen = true)
    (hconnects : callback.connects = true)
    (hlogin : callback = .handleLogin → this.type = .AprscClient)
    (hwatch : callback = .handleWatch → this.type = .GpsdClient) :
    Pending { this with m_connector := this.m_connector.onWrite callback } := by
  refine .inl ⟨{ callback := callback, closes := this.m_connector.closes }, [], ?_⟩
  unfold Outstanding.onWrite
  rw [if_pos hopen]
  refine ⟨hstate, ?_, rfl, hconnects, by simp, ?_, ?_⟩
  · simp only [Outstanding.start, hempty]
  · exact fun h => ⟨hlogin h, hopen⟩
  · exact fun h => ⟨hwatch h, hopen⟩

theorem connected_pending (hstate : this.m_state = .CONNECTING)
    (hempty : this.m_connector.operations = []) (hopen : this.m_connector.socketOpen = true) :
    this.connected.Pending := by
  have hrunning := @running_of_empty this hempty hopen
  unfold connected
  split
  case h_1 htype => exact .inr (.inl (hrunning htype).read)
  case h_2 htype => exact request_pending hstate hempty hopen rfl (by simp) (fun _ => htype)
  case h_3 htype => exact request_pending hstate hempty hopen rfl (fun _ => htype) (by simp)
  case h_4 htype => exact .inr (.inl ((hrunning htype).onTimeout WC_RCV_TIMEOUT).read)

/-- A callback that takes a connecting client on finds nothing else outstanding. -/
theorem call_connects (hstate : this.m_state = .CONNECTING)
    (hempty : this.m_connector.operations = []) (hconnects : callback.connects = true)
    {error : ErrorCode} (hopen : callback = .handleConnect → error = .SUCCESS →
      this.m_connector.socketOpen = true)
    (hlogin : callback = .handleLogin →
      this.type = .AprscClient ∧ this.m_connector.socketOpen = true)
    (hwatch : callback = .handleWatch →
      this.type = .GpsdClient ∧ this.m_connector.socketOpen = true)
    (processed : List Bool) : (this.call error processed callback).Pending := by
  have hreconnect : this.reconnect.Pending := by
    apply reconnect_pending
    · rw [hstate]
      decide
    · simp [Outstanding.Dated, hempty]
    · simp [Outstanding.callbacks, hempty]
  cases callback with
  | handleRead | checkDeadline | handleSendKeepAlive | sentBeacon | stoppedWatch => cases hconnects
  | handleConnect =>
      simp only [call, handleConnect, if_pos hstate]
      cases error with
      | FAILURE => exact hreconnect
      | SUCCESS => exact connected_pending hstate hempty (hopen rfl rfl)
  | handleLogin =>
      obtain ⟨htype, hsocket⟩ := hlogin rfl
      simp only [call, handleLogin, if_pos hstate]
      cases error with
      | FAILURE => exact hreconnect
      | SUCCESS =>
          have hrunning := running_of_empty hempty hsocket htype
          exact .inr (.inl (hrunning.onTimeout AC_BEACON_INT).read)
  | handleWatch =>
      obtain ⟨htype, hsocket⟩ := hwatch rfl
      simp only [call, handleWatch, if_pos hstate]
      cases error with
      | FAILURE => exact hreconnect
      | SUCCESS =>
          exact .inr (.inl (running_of_empty hempty hsocket htype).read)
  | handleTimedConnect =>
      cases error with
      | FAILURE => exact .inr (.inr (stop_state (.inr hstate)))
      | SUCCESS =>
          refine .inl ⟨{ callback := .handleConnect, closes := this.m_connector.closes }, [], ?_⟩
          refine ⟨rfl, ?_, rfl, rfl, by simp, by simp, by simp⟩
          simp only [call, Client.handleTimedConnect, connect, Outstanding.onConnect,
            Outstanding.start, hempty]

/-- Late callbacks do nothing to a client that does not run. -/
theorem call_late (hstate : this.m_state ≠ .RUNNING) (hserves : callback.serves = true)
    (error : ErrorCode) (processed : List Bool) : this.call error processed callback = this := by
  cases callback with
  | handleConnect | handleLogin | handleWatch | handleTimedConnect | stoppedWatch => cases hserves
  | handleRead => exact if_neg hstate
  | checkDeadline => exact if_neg hstate
  | handleSendKeepAlive => exact if_neg hstate
  | sentBeacon => exact if_neg hstate

end Connecting

/-! ## The class of a client -/

section Class

@[simp] theorem stop_type (this : Client) : this.stop.type = this.type := by
  unfold stop stopBase
  split
  · split
    · split <;> rfl
    · split <;> rfl
  · split <;> rfl

@[simp] theorem foldl_stop_type (this : Client) (processed : List Bool) :
    (processed.foldl (fun this valid => if valid then this else this.stop) this).type =
      this.type := by
  induction processed generalizing this with
  | nil => rfl
  | cons valid processed ih =>
      rw [List.foldl_cons, ih]
      split
      · rfl
      · exact stop_type this

@[simp] theorem read_type (this : Client) : this.read.type = this.type := by
  unfold read
  split <;> rfl

@[simp] theorem reconnect_type (this : Client) : this.reconnect.type = this.type := by
  unfold reconnect
  split <;> rfl

@[simp] theorem connected_type (this : Client) : this.connected.type = this.type := by
  unfold connected
  split
  · exact read_type _
  · rfl
  · rfl
  · exact read_type _

theorem call_type (this : Client) (error : ErrorCode) (processed : List Bool)
    (callback : ClientCallback) : (this.call error processed callback).type = this.type := by
  cases callback <;> cases error <;>
    simp only [call, handleConnect, handleLogin, handleWatch, handleTimedConnect, handleRead,
      checkDeadline, handleSendKeepAlive, sentBeacon] <;>
    (try split) <;> simp [sendKeepAlive, connect]

end Class

/-! ## Callbacks in any order -/

section Callbacks

variable {this this' : Client} {delivery : Delivery} {callback : ClientCallback}

theorem step_cases (h : this.step delivery = some (callback, this')) :
    ∃ operation, this.m_connector.operations[delivery.index]? = some operation ∧
      this.m_state ≠ .STOPPING ∧ this.Deliverable delivery operation ∧
      callback = operation.callback ∧
      this' = (this.finish delivery operation.callback).call delivery.error delivery.processed
        operation.callback := by
  unfold step at h
  split at h
  · cases h
  next operation hop =>
    split at h
    next hok =>
      cases h
      exact ⟨operation, hop, hok.1, hok.2, rfl, rfl⟩
    · cases h

/-- A late callback is dropped, and the client still waits for the same operation. -/
theorem Connecting.step_late {operation delivered : Operation} {late : List Operation}
    (h : this.Connecting operation late) (hlate : delivery.index < late.length)
    (hop : late[delivery.index]? = some delivered) :
    ((this.finish delivery delivered.callback).call delivery.error delivery.processed
      delivered.callback).Pending := by
  obtain ⟨-, hserves⟩ := h.late delivered (List.mem_of_getElem? hop)
  rw [call_late (by rw [Client.finish, h.state]; decide) hserves]
  refine .inl ⟨operation, late.eraseIdx delivery.index, ?_⟩
  refine ⟨h.state, ?_, h.closes, h.connects, ?_, ?_, ?_⟩
  · simp only [Client.finish, h.operations, List.eraseIdx_append_of_lt_length hlate]
  · exact fun other hother => h.late other (List.mem_of_mem_eraseIdx hother)
  · intro hcallback
    obtain ⟨htype, hsocket⟩ := h.login hcallback
    exact ⟨htype, finish_socketOpen hsocket delivery delivered.callback⟩
  · intro hcallback
    obtain ⟨htype, hsocket⟩ := h.watch hcallback
    exact ⟨htype, finish_socketOpen hsocket delivery delivered.callback⟩

/-- The operation that counts is delivered when no late one is left. -/
theorem Connecting.late_nil {operation : Operation} {late : List Operation}
    (h : this.Connecting operation late) (hdeliverable : this.Deliverable delivery operation) :
    late = [] := by
  apply List.eq_nil_iff_forall_not_mem.mpr
  intro other hother
  have hmem : other ∈ this.m_connector.operations := by
    rw [h.operations]
    exact List.mem_append_left _ hother
  have hle := hdeliverable.2 other hmem
  have hlt := (h.late other hother).1
  have hcloses := h.closes
  omega

theorem Connecting.step {operation delivered : Operation} {late : List Operation}
    (h : this.Connecting operation late)
    (hop : this.m_connector.operations[delivery.index]? = some delivered)
    (hdeliverable : this.Deliverable delivery delivered) :
    ((this.finish delivery delivered.callback).call delivery.error delivery.processed
      delivered.callback).Pending := by
  by_cases hlate : delivery.index < late.length
  · rw [h.operations, List.getElem?_append_left hlate] at hop
    exact h.step_late hlate hop
  · rw [h.operations, List.getElem?_append_right (Nat.le_of_not_lt hlate),
      List.getElem?_singleton] at hop
    have hindex : delivery.index - late.length = 0 := by
      by_contra hne
      rw [if_neg hne] at hop
      cases hop
    rw [if_pos hindex] at hop
    cases hop
    obtain rfl := h.late_nil hdeliverable
    have hzero : delivery.index = 0 := hindex
    apply call_connects
    · exact h.state
    · simp only [Client.finish, h.operations, hzero, List.nil_append, List.eraseIdx_cons_zero]
    · exact h.connects
    · intro hcallback herror
      simp only [Client.finish, hcallback, herror, decide_true, Bool.and_self, Bool.or_true]
    · intro hcallback
      obtain ⟨htype, hsocket⟩ := h.login hcallback
      exact ⟨htype, finish_socketOpen hsocket delivery operation.callback⟩
    · intro hcallback
      obtain ⟨htype, hsocket⟩ := h.watch hcallback
      exact ⟨htype, finish_socketOpen hsocket delivery operation.callback⟩

theorem step_pending (h : this.Pending) (hstep : this.step delivery = some (callback, this')) :
    this'.Pending := by
  obtain ⟨operation, hop, hstate, hdeliverable, -, rfl⟩ := step_cases hstep
  rcases h with ⟨awaited, late, hconnecting⟩ | hrunning | hstopping
  · exact hconnecting.step hop hdeliverable
  · have hserves : operation.callback.serves = true :=
      hrunning.serves _ (List.mem_map_of_mem (List.mem_of_getElem? hop))
    exact (hrunning.finish hop).call hserves delivery.error delivery.processed
  · exact absurd hstopping hstate

theorem run_pending {type : ClientClass} {deliveries : List Delivery}
    {called : List ClientCallback} {client : Client}
    (hrun : run step (started type) deliveries = some (called, client)) :
    client.type = type ∧ client.Pending := by
  refine run_history (fun _ client => client.type = type ∧ client.Pending)
    ?_ [] ⟨rfl, started_pending type⟩ (fun _ _ => trivial) hrun
  rintro - this delivery callback this' ⟨htype, hpending⟩ - hstep
  refine ⟨?_, step_pending hpending hstep⟩
  obtain ⟨operation, -, -, -, -, rfl⟩ := step_cases hstep
  rw [call_type]
  exact htype

/-! ## What is outstanding -/

theorem Connecting.countP_connects {operation : Operation} {late : List Operation}
    (h : this.Connecting operation late) :
    this.m_connector.callbacks.countP ClientCallback.connects = 1 := by
  have hlate : (late.map Operation.callback).countP ClientCallback.connects = 0 := by
    rw [List.countP_eq_zero]
    intro callback hmem
    obtain ⟨other, hother, rfl⟩ := List.mem_map.mp hmem
    have hserves := (h.late other hother).2
    revert hserves
    cases other.callback <;> decide
  unfold Outstanding.callbacks
  rw [h.operations, List.map_append, List.countP_append, hlate]
  exact (Nat.zero_add _).trans (List.countP_singleton.trans (if_pos h.connects))

theorem Running.count_callbacks (h : this.Running []) (hbeacon : callback ≠ .sentBeacon) :
    this.m_connector.callbacks.count callback = this.type.duties.count callback := by
  obtain ⟨beacons, hwork⟩ := h.work
  have hcount := hwork.count_eq callback
  have hbeacons : (List.replicate beacons ClientCallback.sentBeacon).count callback = 0 := by
    apply List.count_eq_zero.mpr
    intro hmem
    exact hbeacon (List.eq_of_mem_replicate hmem)
  rw [List.nil_append, List.count_append, hbeacons, Nat.add_zero] at hcount
  exact hcount

/-- Whatever the connector delivers, in any order and with any outcome, a client has one operation
outstanding for each thing it waits for, and no second one. -/
theorem pending_work (type : ClientClass) (deliveries : List Delivery)
    {called : List ClientCallback} {client : Client}
    (hrun : run step (started type) deliveries = some (called, client)) :
    (client.m_state = .CONNECTING →
      client.m_connector.callbacks.countP ClientCallback.connects = 1) ∧
    (client.m_state = .RUNNING →
      client.m_connector.callbacks.count .handleRead = 1 ∧
      (type = .SensorClient → client.m_connector.callbacks.count .checkDeadline = 1) ∧
      (type = .AprscClient → client.m_connector.callbacks.count .handleSendKeepAlive = 1)) := by
  obtain ⟨rfl, hpending⟩ := run_pending hrun
  rcases hpending with ⟨operation, late, hconnecting⟩ | hrunning | hstopping
  · refine ⟨fun _ => hconnecting.countP_connects, fun hstate => ?_⟩
    rw [hconnecting.state] at hstate
    cases hstate
  · refine ⟨fun hstate => ?_, fun _ => ⟨?_, fun htype => ?_, fun htype => ?_⟩⟩
    · rw [hrunning.state] at hstate
      cases hstate
    · rw [hrunning.count_callbacks (by decide)]
      cases client.type <;> rfl
    · rw [hrunning.count_callbacks (by decide), htype]
      rfl
    · rw [hrunning.count_callbacks (by decide), htype]
      rfl
  · constructor
    · intro hstate
      rw [hstopping] at hstate
      cases hstate
    · intro hstate
      rw [hstopping] at hstate
      cases hstate

-- A sensor connection that breaks and is made again; its wait for the deadline calls back late.
def brokenSensor : List Delivery :=
  [{ index := 0, error := .SUCCESS },
    { index := 0, error := .FAILURE },
    { index := 0, error := .SUCCESS, processed := [true] },
    { index := 1, error := .FAILURE },
    { index := 0, error := .FAILURE },
    { index := 0, error := .SUCCESS },
    { index := 0, error := .SUCCESS }]

theorem pending_work_brokenSensor :
    ∃ client, run step (started .SensorClient) brokenSensor =
      some ([.handleConnect, .checkDeadline, .handleRead, .handleRead, .checkDeadline,
        .handleTimedConnect, .handleConnect], client) ∧
      client.m_state = .RUNNING ∧ client.m_connector.callbacks.count .handleRead = 1 ∧
      client.m_connector.callbacks.count .checkDeadline = 1 := by
  refine ⟨{ type := .SensorClient, m_state := .RUNNING, m_connector := {
      operations := [{ callback := .checkDeadline, closes := 1, cancelled := true },
        { callback := .handleRead, closes := 1 }]
      closes := 1
      socketOpen := true } }, rfl, rfl, ?_⟩
  obtain ⟨hread, hdeadline, -⟩ := (pending_work .SensorClient brokenSensor rfl).2 rfl
  exact ⟨hread, hdeadline rfl⟩

end Callbacks

end Client

end VirtualFlightRadar
