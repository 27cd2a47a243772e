import Mathlib.Data.Set.Finite.Lemmas
import VirtualFlightRadar.Client.Pending
import VirtualFlightRadar.Cxx.Refinement

/-!
# Recovering a connection

A client that connects runs again soon after the network stops failing, whatever has failed before.
The late callbacks of closed connections come first and are dropped; then each callback takes it one
stage on.
-/

open Cxx

namespace VirtualFlightRadar

/-- The callbacks from here to a connection that is served -/
def ClientCallback.stage : ClientCallback → Nat
  | .handleTimedConnect => 3
  | .handleConnect => 2
  | .handleLogin => 1
  | .handleWatch => 1
  | _ => 0

namespace Client

/-- What a connecting client still has to be called before it runs. -/
def awaiting (this : Client) : Nat :=
  match this.m_connector.operations.getLast? with
  | some operation => this.m_connector.operations.length - 1 + operation.callback.stage
  | none => 0

/-- The operation that takes a connecting client on was started last and is not cancelled. -/
def Awake (this : Client) : Prop :=
  this.m_state = .CONNECTING → ∃ before operation,
    this.m_connector.operations = before ++ [operation] ∧ operation.cancelled = false

variable {this this' : Client} {operation delivered : Operation} {late : List Operation}
  {delivery : Delivery} {callback : ClientCallback}

theorem awaiting_append (h : this.m_connector.operations = late ++ [operation]) :
    this.awaiting = late.length + operation.callback.stage := by
  rw [awaiting, h, List.getLast?_concat, List.length_append, List.length_singleton,
    Nat.add_sub_cancel]

theorem awaiting_le (this : Client) : this.awaiting ≤ this.m_connector.operations.length + 2 := by
  unfold awaiting
  cases hlast : this.m_connector.operations.getLast? with
  | none => exact Nat.zero_le _
  | some operation =>
      have hlen : 0 < this.m_connector.operations.length := by
        apply List.length_pos_of_ne_nil
        intro hnil
        rw [hnil] at hlast
        cases hlast
      have hstage : operation.callback.stage ≤ 3 := by
        cases operation.callback <;> decide
      show this.m_connector.operations.length - 1 + operation.callback.stage ≤ _
      omega

/-- A pending client that connects has an operation that takes it on. -/
theorem Pending.connecting (h : this.Pending) (hstate : this.m_state = .CONNECTING) :
    ∃ operation late, this.Connecting operation late := by
  rcases h with ⟨operation, late, hconnecting⟩ | hrunning | hstopping
  · exact ⟨operation, late, hconnecting⟩
  · rw [hrunning.state] at hstate
    cases hstate
  · rw [hstopping] at hstate
    cases hstate

theorem Connecting.awaiting_pos (h : this.Connecting operation late) : 0 < this.awaiting := by
  have hconnects := h.connects
  have hstage : 0 < operation.callback.stage := by
    revert hconnects
    cases operation.callback <;> decide
  rw [awaiting_append h.operations]
  exact Nat.add_pos_right _ hstage

/-! ## One callback -/

/-- The callback that takes the client on is its only one. -/
theorem Connecting.awaited (h : this.Connecting operation late)
    (hop : this.m_connector.operations[delivery.index]? = some delivered)
    (hdeliverable : this.Deliverable delivery delivered) (hlate : ¬ delivery.index < late.length) :
    late = [] ∧ delivery.index = 0 ∧ delivered = operation := by
  rw [h.operations, List.getElem?_append_right (Nat.le_of_not_lt hlate),
    List.getElem?_singleton] at hop
  have hindex : delivery.index - late.length = 0 := by
    by_contra hne
    rw [if_neg hne] at hop
    cases hop
  rw [if_pos hindex] at hop
  cases hop
  obtain rfl := h.late_nil hdeliverable
  exact ⟨rfl, hindex, rfl⟩

/-- A late callback is only taken out of the list. -/
theorem Connecting.dropped (h : this.Connecting operation late)
    (hop : this.m_connector.operations[delivery.index]? = some delivered)
    (hlate : delivery.index < late.length) :
    let next := (this.finish delivery delivered.callback).call delivery.error delivery.processed
      delivered.callback
    next.m_state = .CONNECTING ∧
      next.m_connector.operations = late.eraseIdx delivery.index ++ [operation] := by
  rw [h.operations, List.getElem?_append_left hlate] at hop
  obtain ⟨-, hserves⟩ := h.late delivered (List.mem_of_getElem? hop)
  rw [call_late (by rw [Client.finish, h.state]; decide) hserves]
  refine ⟨h.state, ?_⟩
  simp only [Client.finish, h.operations, List.eraseIdx_append_of_lt_length hlate]

/-- With the callback, a client with an open connection runs, or waits for its request alone. -/
theorem connected_on (hstate : this.m_state = .CONNECTING)
    (hempty : this.m_connector.operations = []) (hopen : this.m_connector.socketOpen = true) :
    this.connected.m_state = .RUNNING ∨ (this.connected.m_state = .CONNECTING ∧
      ∃ request, this.connected.m_connector.operations = [request] ∧
        request.callback.stage = 1 ∧ request.cancelled = false) := by
  have hrequest (callback : ClientCallback) :
      (this.m_connector.onWrite callback).operations =
        [{ callback := callback, closes := this.m_connector.closes }] := by
    rw [Outstanding.onWrite, if_pos hopen, Outstanding.start, hempty]
    rfl
  unfold connected
  split
  · exact .inl (read_state _)
  · exact .inr ⟨hstate, _, hrequest .handleWatch, rfl, rfl⟩
  · exact .inr ⟨hstate, _, hrequest .handleLogin, rfl, rfl⟩
  · exact .inl (read_state _)

/-- A callback that succeeds takes the client one stage on. -/
theorem Connecting.takes_on (h : this.Connecting operation []) (hindex : delivery.index = 0)
    (herror : delivery.error = .SUCCESS) :
    let next := (this.finish delivery operation.callback).call delivery.error delivery.processed
      operation.callback
    next.m_state = .RUNNING ∨ (next.m_state = .CONNECTING ∧ ∃ request,
      next.m_connector.operations = [request] ∧
        request.callback.stage < operation.callback.stage ∧ request.cancelled = false) := by
  have hconnects := h.connects
  have hstate : (this.finish delivery operation.callback).m_state = .CONNECTING := h.state
  have hempty : (this.finish delivery operation.callback).m_connector.operations = [] := by
    simp only [Client.finish, h.operations, hindex, List.nil_append, List.eraseIdx_cons_zero]
  have hopen : operation.callback = .handleConnect →
      (this.finish delivery operation.callback).m_connector.socketOpen = true := by
    intro hcallback
    simp only [Client.finish, hcallback, herror, decide_true, Bool.and_self, Bool.or_true]
  rw [herror]
  generalize this.finish delivery operation.callback = client at hstate hempty hopen ⊢
  generalize operation.callback = callback at hconnects hopen ⊢
  cases callback with
  | handleRead | checkDeadline | handleSendKeepAlive | sentBeacon | stoppedWatch => cases hconnects
  | handleConnect =>
      simp only [call, handleConnect, if_pos hstate]
      rcases connected_on hstate hempty (hopen rfl) with hrunning | ⟨hconnecting, request, hon, hs, hc⟩
      · exact .inl hrunning
      · refine .inr ⟨hconnecting, request, hon, ?_, hc⟩
        rw [hs]
        decide
  | handleLogin =>
      simp only [call, handleLogin, if_pos hstate]
      exact .inl (read_state _)
  | handleWatch =>
      simp only [call, handleWatch, if_pos hstate]
      exact .inl (read_state _)
  | handleTimedConnect =>
      refine .inr ⟨rfl, { callback := .handleConnect, closes := client.m_connector.closes }, ?_,
        Nat.lt_succ_self 2, rfl⟩
      simp only [call, Client.handleTimedConnect, connect, Outstanding.onConnect,
        Outstanding.start, hempty, List.nil_append]

/-- Every callback brings a connecting client nearer to a connection, unless it fails. -/
theorem Connecting.nearer (h : this.Connecting operation late)
    (hstep : this.step delivery = some (callback, this'))
    (hok : callback.connects = true → delivery.error = .SUCCESS) :
    this'.m_state = .RUNNING ∨
      (this'.m_state = .CONNECTING ∧ this'.awaiting < this.awaiting) := by
  obtain ⟨delivered, hop, -, hdeliverable, rfl, rfl⟩ := step_cases hstep
  rw [awaiting_append h.operations]
  by_cases hlate : delivery.index < late.length
  · obtain ⟨hstate, hon⟩ := h.dropped hop hlate
    refine .inr ⟨hstate, ?_⟩
    rw [awaiting_append hon, List.length_eraseIdx_of_lt hlate]
    omega
  · obtain ⟨rfl, hindex, rfl⟩ := h.awaited hop hdeliverable hlate
    rcases h.takes_on hindex (hok h.connects) with hrunning | ⟨hstate, request, hon, hstage, -⟩
    · exact .inl hrunning
    · refine .inr ⟨hstate, ?_⟩
      rw [awaiting_append (hon.trans (List.nil_append [request]).symm)]
      exact Nat.add_lt_add_left hstage _

/-! ## The awaited operation -/

theorem awake_of_ne (h : this.m_state ≠ .CONNECTING) : this.Awake :=
  fun hconnecting => absurd hconnecting h

theorem Connecting.uncancelled (h : this.Connecting operation late) (hawake : this.Awake) :
    operation.cancelled = false := by
  obtain ⟨before, last, heq, hcancelled⟩ := hawake h.state
  rw [h.operations] at heq
  obtain ⟨-, hlast⟩ := List.append_inj' heq rfl
  rw [List.singleton_inj.mp hlast]
  exact hcancelled

/-- The wait for the next attempt has just been started. -/
theorem reconnect_awake (this : Client) : this.reconnect.Awake := by
  unfold reconnect
  split
  · exact fun _ => ⟨_, _, rfl, rfl⟩
  · rename_i hstopping
    apply awake_of_ne
    rw [not_not.mp hstopping]
    decide

theorem call_awake_failed (hstate : this.m_state = .CONNECTING)
    (hconnects : callback.connects = true) (processed : List Bool) :
    (this.call .FAILURE processed callback).Awake := by
  cases callback with
  | handleRead | checkDeadline | handleSendKeepAlive | sentBeacon | stoppedWatch => cases hconnects
  | handleConnect =>
      simp only [call, handleConnect, if_pos hstate]
      exact reconnect_awake this
  | handleLogin =>
      simp only [call, handleLogin, if_pos hstate]
      exact reconnect_awake this
  | handleWatch =>
      simp only [call, handleWatch, if_pos hstate]
      exact reconnect_awake this
  | handleTimedConnect =>
      apply awake_of_ne
      show this.stop.m_state ≠ .CONNECTING
      rw [stop_state (.inr hstate)]
      decide

theorem call_awake_running (hstate : this.m_state = .RUNNING) (hserves : callback.serves = true)
    (error : ErrorCode) (processed : List Bool) : (this.call error processed callback).Awake := by
  have hrunning (client : Client) (heq : client.m_state = this.m_state) : client.Awake := by
    apply awake_of_ne
    rw [heq, hstate]
    decide
  cases callback with
  | handleConnect | handleLogin | handleWatch | handleTimedConnect | stoppedWatch => cases hserves
  | handleRead =>
      simp only [call, handleRead, if_pos hstate]
      cases error with
      | FAILURE => exact reconnect_awake this
      | SUCCESS =>
          rcases foldl_stop (.inl hstate) processed with hsame | hstopped
          · rw [hsame]
            exact hrunning _ (read_state this)
          · apply awake_of_ne
            rw [read_state, hstopped]
            decide
  | checkDeadline =>
      simp only [call, checkDeadline, if_pos hstate]
      cases error with
      | FAILURE => exact hrunning _ rfl
      | SUCCESS => exact reconnect_awake this
  | handleSendKeepAlive =>
      simp only [call, handleSendKeepAlive, if_pos hstate]
      cases error with
      | FAILURE => exact hrunning _ rfl
      | SUCCESS => exact hrunning _ rfl
  | sentBeacon =>
      simp only [call, sentBeacon, if_pos hstate]
      cases error with
      | FAILURE => exact reconnect_awake this
      | SUCCESS => exact hrunning _ rfl

theorem step_awake (hpending : this.Pending) (hawake : this.Awake)
    (hstep : this.step delivery = some (callback, this')) : this'.Awake := by
  obtain ⟨delivered, hop, hstate, hdeliverable, -, rfl⟩ := step_cases hstep
  rcases hpending with ⟨operation, late, hconnecting⟩ | hrunning | hstopping
  · by_cases hlate : delivery.index < late.length
    · obtain ⟨-, hon⟩ := hconnecting.dropped hop hlate
      exact fun _ => ⟨_, operation, hon, hconnecting.uncancelled hawake⟩
    · obtain ⟨rfl, hindex, rfl⟩ := hconnecting.awaited hop hdeliverable hlate
      cases herror : delivery.error with
      | FAILURE => exact call_awake_failed (by exact hconnecting.state) hconnecting.connects _
      | SUCCESS =>
          rw [← herror]
          rcases hconnecting.takes_on hindex herror with hrunning | ⟨-, request, hon, -, hcancelled⟩
          · apply awake_of_ne
            rw [hrunning]
            decide
          · exact fun _ => ⟨[], request, hon, hcancelled⟩
  · have hserves : delivered.callback.serves = true :=
      hrunning.serves _ (List.mem_map_of_mem (List.mem_of_getElem? hop))
    exact call_awake_running (by exact hrunning.state) hserves _ _
  · exact absurd hstopping hstate

theorem run_awake {type : ClientClass} {deliveries : List Delivery}
    {called : List ClientCallback} {client : Client}
    (hrun : run step (started type) deliveries = some (called, client)) :
    client.Pending ∧ client.Awake :=
  run_history (fun _ client => client.Pending ∧ client.Awake)
    (fun _ _ _ _ _ hclient (_ : True) hstep =>
      ⟨step_pending hclient.1 hstep, step_awake hclient.1 hclient.2 hstep⟩)
    [] ⟨started_pending type, fun _ => ⟨[], _, rfl, rfl⟩⟩ (fun _ _ => trivial) hrun

/-! ## Runs -/

/-- The network does not fail: a callback that takes the client on brings no error. -/
def Works (delivery : Delivery) (callback : ClientCallback) : Prop :=
  callback.connects = true → delivery.error = .SUCCESS

/-- The oldest operation can call back. -/
theorem Connecting.moves (h : this.Connecting operation late)
    (hcancelled : operation.cancelled = false) :
    ∃ delivery callback this', this.step delivery = some (callback, this') ∧
      Works delivery callback := by
  obtain ⟨oldest, hmem, hleast⟩ := Set.exists_min_image {o | o ∈ this.m_connector.operations}
    Operation.closes (List.finite_toSet _) ⟨operation, by simp [h.operations]⟩
  obtain ⟨index, hindex⟩ := List.getElem?_of_mem hmem
  have hstate : this.m_state ≠ .STOPPING := by
    rw [h.state]
    decide
  have hstep (error : ErrorCode) (hok : oldest.cancelled = true → error = .FAILURE) :
      this.step ⟨index, error, []⟩ = some (oldest.callback,
        (this.finish ⟨index, error, []⟩ oldest.callback).call error [] oldest.callback) := by
    unfold Client.step
    rw [hindex]
    exact if_pos ⟨hstate, hok, hleast⟩
  have hlast : oldest ∈ late ++ [operation] := h.operations ▸ hmem
  rcases List.mem_append.mp hlast with hold | hawaited
  · obtain ⟨-, hserves⟩ := h.late oldest hold
    refine ⟨_, _, _, hstep .FAILURE fun _ => rfl, fun hconnects => ?_⟩
    revert hserves hconnects
    cases oldest.callback <;> simp [ClientCallback.serves, ClientCallback.connects]
  · obtain rfl := List.mem_singleton.mp hawaited
    refine ⟨_, _, _, hstep .SUCCESS fun heq => ?_, fun _ => rfl⟩
    rw [hcancelled] at heq
    cases heq

/-- While the client does not run, each callback of a working network brings it nearer. -/
theorem run_nearer {later : List Delivery} {called : List ClientCallback} (hpending : this.Pending)
    (hstate : this.m_state = .CONNECTING)
    (hrun : run step this later = some (called, this')) (hworks : List.Forall₂ Works later called) :
    later.length < this.awaiting ∨ ∃ front seen client, front <+: later ∧
      run step this front = some (seen, client) ∧ client.m_state = .RUNNING := by
  induction later generalizing this called with
  | nil =>
      obtain ⟨operation, late, hconnecting⟩ := hpending.connecting hstate
      exact .inl hconnecting.awaiting_pos
  | cons delivery later ih =>
      obtain ⟨callback, next, seen, hstep, hrest, rfl⟩ := run_cons hrun
      obtain ⟨hwork, hworks⟩ := List.forall₂_cons.mp hworks
      obtain ⟨operation, late, hconnecting⟩ := hpending.connecting hstate
      have hnext := step_pending hpending hstep
      rcases hconnecting.nearer hstep hwork with hruns | ⟨hconnects, hless⟩
      · exact .inr ⟨[delivery], _, next, ⟨later, rfl⟩, run_singleton hstep, hruns⟩
      · rcases ih hnext hconnects hrest hworks with hlen | ⟨front, called, client, hfront, hled, hruns⟩
        · left
          rw [List.length_cons]
          omega
        · exact .inr ⟨delivery :: front, _, client, List.cons_prefix_cons.mpr ⟨rfl, hfront⟩,
            run_append_some (run_singleton hstep) hled, hruns⟩

/-- In whatever state failures have left a connecting client, it can always be called back, and when
no attempt and no request fails any more it runs after at most one callback for each operation that
is outstanding and two more. -/
theorem recovers {type : ClientClass} {deliveries : List Delivery} {called : List ClientCallback}
    {client : Client} (hrun : run step (started type) deliveries = some (called, client))
    (hconnecting : client.m_state = .CONNECTING) :
    (∃ delivery callback client', client.step delivery = some (callback, client') ∧
      Works delivery callback) ∧
    ∀ later seen client', run step client later = some (seen, client') →
      List.Forall₂ Works later seen →
      client.m_connector.operations.length + 2 ≤ later.length →
      ∃ front seen' running, front <+: later ∧ run step client front = some (seen', running) ∧
        running.m_state = .RUNNING := by
  obtain ⟨hpending, hawake⟩ := run_awake hrun
  constructor
  · obtain ⟨operation, late, hawaits⟩ := hpending.connecting hconnecting
    exact hawaits.moves (hawaits.uncancelled hawake)
  · intro later seen client' hlater hworks hlen
    have hle := client.awaiting_le
    exact (run_nearer hpending hconnecting hlater hworks).resolve_left (by omega)

/-- A sensor connection that has broken while its wait for the deadline is still outstanding. -/
theorem recovers_brokenSensor : ∃ called client,
    run step (started .SensorClient) (brokenSensor.take 4) = some (called, client) ∧
      client.m_state = .CONNECTING ∧
      (∃ delivery callback client', client.step delivery = some (callback, client') ∧
        Works delivery callback) ∧
      ∀ later seen client', run step client later = some (seen, client') →
        List.Forall₂ Works later seen →
        client.m_connector.operations.length + 2 ≤ later.length →
        ∃ front seen' running, front <+: later ∧ run step client front = some (seen', running) ∧
          running.m_state = .RUNNING := by
  have hdefined : (run step (started .SensorClient) (brokenSensor.take 4)).any
      (fun (_, client) => decide (client.m_state = .CONNECTING)) = true := by
    decide +kernel
  obtain ⟨⟨called, client⟩, hrun, hstate⟩ := (Option.any_eq_true _ _).mp hdefined
  have hconnecting := of_decide_eq_true hstate
  exact ⟨called, client, hrun, hconnecting, recovers hrun hconnecting⟩

end Client

end VirtualFlightRadar
