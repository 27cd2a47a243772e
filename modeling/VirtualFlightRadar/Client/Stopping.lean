import VirtualFlightRadar.Client.Pending

/-!
# Stopping a client

A client is stopped from another thread than the one that runs its connector.  The mutex makes a
handler and `scheduleStop` follow one another, but a handler that the connector has called already
may get the mutex after `scheduleStop` had it.  Every handler looks at the state then, except the one
of the reconnect timer.
-/

open Cxx

namespace VirtualFlightRadar

/-- A handler that the connector has called. -/
structure Called where
  callback : ClientCallback
  error : ErrorCode
  processed : List Bool
  deriving DecidableEq

/-- A client between the thread that runs its connector and those that stop it. -/
structure ClientThreads where
  client : Client
  -- The handler that waits for `m_mutex`
  called : Option Called := none
  -- `m_ioService.stopped()`
  stopped : Bool := false
  -- `m_connector->run()` is over.
  returned : Bool := false

inductive ClientEvent where
  -- The connector calls the handler of an outstanding operation.
  | dispatch (delivery : Delivery)
  -- That handler gets the mutex.
  | locked
  -- Another thread gets it.
  | scheduleStop
  -- The end of `run`
  | returned

/-! ## Handlers of a stopping client -/

namespace Client

theorem stop_of_none {this : Client} (h : this.m_state = .NONE) : this.stop = this := by
  have hbase : this.stopBase = this := by
    unfold stopBase
    rw [h, if_neg (by decide)]
  unfold stop
  split
  · rw [h, if_neg (by decide), hbase]
  · exact hbase

/-- Every handler but the one of an expired reconnect timer leaves a stopping client alone. -/
theorem call_of_stopping {this : Client} (h : this.m_state = .STOPPING) {handler : Called}
    (hcalled : ¬ (handler.callback = .handleTimedConnect ∧ handler.error = .SUCCESS)) :
    this.call handler.error handler.processed handler.callback = this := by
  obtain ⟨callback, error, processed⟩ := handler
  have hconnecting : ¬ this.m_state = .CONNECTING := by
    rw [h]
    decide
  have hrunning : ¬ this.m_state = .RUNNING := by
    rw [h]
    decide
  cases callback with
  | handleConnect => exact if_neg hconnecting
  | handleLogin => exact if_neg hconnecting
  | handleWatch => exact if_neg hconnecting
  | handleTimedConnect =>
      cases error with
      | SUCCESS => exact absurd ⟨rfl, rfl⟩ hcalled
      | FAILURE => exact stop_of_stopping h
  | handleRead => exact if_neg hrunning
  | checkDeadline => exact if_neg hrunning
  | handleSendKeepAlive => exact if_neg hrunning
  | sentBeacon => exact if_neg hrunning
  | stoppedWatch => rfl

end Client

/-! ## Threads -/

namespace ClientThreads

def started (type : ClientClass) : ClientThreads where
  client := Client.started type

-- `stop` stops the connector when it sets the state.
def put (this : ClientThreads) (client : Client) : ClientThreads :=
  { this with client := client, stopped := this.stopped || client.m_state = .STOPPING }

/-- The connector may pick any operation and any error code; after `m_ioService.stop()` it picks
none.  Its `run` returns when it is stopped or has nothing left to do. -/
def next (this : ClientThreads) : ClientEvent → Option ClientThreads
  | .dispatch delivery =>
      match this.client.m_connector.operations[delivery.index]? with
      | none => none
      | some operation =>
          if this.called = none ∧ this.stopped = false ∧ this.returned = false then
            some { this with
              client := this.client.finish delivery operation.callback
              called := some ⟨operation.callback, delivery.error, delivery.processed⟩ }
          else none
  | .locked =>
      match this.called with
      | none => none
      | some handler => some (put { this with called := none }
          (this.client.call handler.error handler.processed handler.callback))
  | .scheduleStop => some (this.put this.client.stop)
  | .returned =>
      if this.called = none ∧ this.returned = false ∧
          (this.stopped = true ∨ this.client.m_connector.operations.isEmpty = true) then
        some { this with client := { this.client with m_state := .NONE }, returned := true }
      else none

/-- One event, and the state of the client after it. -/
def step (this : ClientThreads) (event : ClientEvent) : Option (ClientState × ClientThreads) :=
  (this.next event).map fun threads => (threads.client.m_state, threads)

/-- The handler of an expired reconnect timer waits for the mutex. -/
def TimedConnectCalled (this : ClientThreads) : Prop :=
  ∃ processed, this.called = some ⟨.handleTimedConnect, .SUCCESS, processed⟩

/-- No `scheduleStop` gets the mutex before such a handler. -/
def Clear (type : ClientClass) (events : List ClientEvent) : Prop :=
  ∀ before later, events = before ++ .scheduleStop :: later →
    ∀ states this, run step (started type) before = some (states, this) → ¬ this.TimedConnectCalled

/-! ## One step -/

section

variable {this this' : ClientThreads} {event : ClientEvent}

theorem next_cases (h : this.next event = some this') :
    (∃ delivery operation, event = .dispatch delivery ∧ this.called = none ∧ this.stopped = false ∧
      this.returned = false ∧ this' = { this with
        client := this.client.finish delivery operation
        called := some ⟨operation, delivery.error, delivery.processed⟩ }) ∨
    (∃ handler, event = .locked ∧ this.called = some handler ∧
      this' = put { this with called := none }
        (this.client.call handler.error handler.processed handler.callback)) ∨
    (event = .scheduleStop ∧ this' = this.put this.client.stop) ∨
    (event = .returned ∧ this.called = none ∧ this.returned = false ∧
      this' = { this with client := { this.client with m_state := .NONE }, returned := true }) := by
  cases event with
  | dispatch delivery =>
      rw [next] at h
      split at h
      next => cases h
      next operation hoperation =>
        split at h
        next hfree =>
          cases h
          exact .inl ⟨delivery, operation.callback, rfl, hfree.1, hfree.2.1, hfree.2.2, rfl⟩
        next => cases h
  | locked =>
      rw [next] at h
      split at h
      next => cases h
      next handler hcalled =>
        cases h
        exact .inr (.inl ⟨handler, rfl, hcalled, rfl⟩)
  | scheduleStop =>
      cases h
      exact .inr (.inr (.inl ⟨rfl, rfl⟩))
  | returned =>
      rw [next] at h
      split at h
      next hfree =>
        cases h
        exact .inr (.inr (.inr ⟨rfl, hfree.1, hfree.2.1, rfl⟩))
      next => cases h

/-- A stopping client has a stopped connector, and no handler that would connect it again. -/
structure Inv (this : ClientThreads) : Prop where
  stopped : this.client.m_state = .STOPPING →
    this.stopped = true ∧ this.returned = false ∧ ¬ this.TimedConnectCalled
  returned : this.returned = true → this.client.m_state = .NONE ∧ this.called = none

theorem started_inv (type : ClientClass) : (started type).Inv := by
  refine ⟨fun hstate => ?_, fun hreturned => ?_⟩
  · cases hstate
  · cases hreturned

theorem inv_put {client : Client} (hreturned : this.returned = false)
    (hcalled : ¬ this.TimedConnectCalled) : (this.put client).Inv := by
  refine ⟨fun hstate => ⟨?_, hreturned, hcalled⟩, fun hret => ?_⟩
  · change client.m_state = .STOPPING at hstate
    rw [put, hstate]
    exact Bool.or_true _
  · exact absurd (hret.symm.trans hreturned) (by decide)

/-- Where `scheduleStop` does not overtake the handler of the timer, that handler does not meet a
stopping client. -/
theorem next_inv (hinv : this.Inv) (hclear : event = .scheduleStop → ¬ this.TimedConnectCalled)
    (h : this.next event = some this') : this'.Inv := by
  rcases next_cases h with ⟨delivery, operation, rfl, -, hstopped, hreturned, rfl⟩ |
    ⟨handler, rfl, hcalled, rfl⟩ | ⟨rfl, rfl⟩ | ⟨rfl, hcalled, -, rfl⟩
  · refine ⟨fun hstate => ?_, fun hret => absurd (hret.symm.trans hreturned) (by decide)⟩
    exact absurd ((hinv.stopped hstate).1.symm.trans hstopped) (by decide)
  · apply inv_put
    · by_contra hret
      have hnone := (hinv.returned (Bool.eq_true_of_not_eq_false hret)).2
      rw [hcalled] at hnone
      cases hnone
    · rintro ⟨processed, hsome⟩
      cases hsome
  · by_cases hret : this.returned = true
    · obtain ⟨hnone, -⟩ := hinv.returned hret
      rw [Client.stop_of_none hnone]
      refine ⟨fun hstate => ?_, fun _ => hinv.returned hret⟩
      exact absurd (hnone.symm.trans hstate) (by decide)
    · exact inv_put (Bool.eq_false_of_not_eq_true hret) (hclear rfl)
  · refine ⟨fun hstate => ?_, fun _ => ⟨rfl, hcalled⟩⟩
    cases hstate

/-- A stopping client only changes when `run` ends. -/
theorem next_of_stopping (hinv : this.Inv) (hstate : this.client.m_state = .STOPPING)
    (h : this.next event = some this') :
    (event ≠ .returned ∧ this'.client = this.client) ∨
      (event = .returned ∧ this'.client = { this.client with m_state := .NONE } ∧
        this'.returned = true) := by
  obtain ⟨hstopped, -, htimed⟩ := hinv.stopped hstate
  rcases next_cases h with ⟨delivery, operation, rfl, -, hrunning, -⟩ |
    ⟨handler, rfl, hcalled, rfl⟩ | ⟨rfl, rfl⟩ | ⟨rfl, -, -, rfl⟩
  · exact absurd (hstopped.symm.trans hrunning) (by decide)
  · refine .inl ⟨by simp, Client.call_of_stopping hstate ?_⟩
    rintro ⟨hcallback, herror⟩
    exact htimed ⟨handler.processed, by rw [hcalled, ← hcallback, ← herror]⟩
  · exact .inl ⟨by simp, Client.stop_of_stopping hstate⟩
  · exact .inr ⟨rfl, rfl, rfl⟩

/-- After the end of `run` nothing happens to the client. -/
theorem next_of_returned (hinv : this.Inv) (hret : this.returned = true)
    (h : this.next event = some this') : this'.client = this.client ∧ this'.returned = true := by
  obtain ⟨hnone, hfree⟩ := hinv.returned hret
  rcases next_cases h with ⟨delivery, operation, rfl, -, -, hreturned, -⟩ |
    ⟨handler, rfl, hcalled, rfl⟩ | ⟨rfl, rfl⟩ | ⟨rfl, -, hreturned, -⟩
  · exact absurd (hret.symm.trans hreturned) (by decide)
  · rw [hfree] at hcalled
    cases hcalled
  · exact ⟨Client.stop_of_none hnone, hret⟩
  · exact absurd (hret.symm.trans hreturned) (by decide)

end

/-! ## Runs -/

theorem next_of_step {this this' : ClientThreads} {event : ClientEvent} {state : ClientState}
    (h : this.step event = some (state, this')) :
    this.next event = some this' ∧ state = this'.client.m_state := by
  obtain ⟨threads, hnext, heq⟩ := Option.map_eq_some_iff.mp h
  cases heq
  exact ⟨hnext, rfl⟩

/-- The invariant holds after every run in which no `scheduleStop` overtakes the timer. -/
theorem run_inv {type : ClientClass} {events : List ClientEvent} (hclear : Clear type events)
    {states : List ClientState} {this : ClientThreads}
    (hrun : run step (started type) events = some (states, this)) : this.Inv := by
  induction events using List.reverseRecOn generalizing states this with
  | nil =>
      cases hrun
      exact started_inv type
  | append_singleton events event ih =>
      obtain ⟨states', before, state, hbefore, hstep, rfl⟩ := run_concat hrun
      have hearlier : Clear type events := by
        rintro pre later rfl
        exact hclear pre (later ++ [event]) (by simp)
      apply next_inv (ih hearlier hbefore) _ (next_of_step hstep).1
      rintro rfl
      exact hclear events [] rfl states' before hbefore

theorem run_of_returned {this this' : ClientThreads} (hinv : this.Inv) (hret : this.returned = true)
    {events : List ClientEvent} {states : List ClientState}
    (hrun : run step this events = some (states, this')) : this'.client = this.client := by
  induction events generalizing this states with
  | nil =>
      cases hrun
      rfl
  | cons event events ih =>
      obtain ⟨state, middle, states', hstep, hrest, rfl⟩ := run_cons hrun
      obtain ⟨hnext, -⟩ := next_of_step hstep
      obtain ⟨hclient, hret'⟩ := next_of_returned hinv hret hnext
      have hfree : ¬ this.TimedConnectCalled := by
        rintro ⟨processed, hsome⟩
        rw [(hinv.returned hret).2] at hsome
        cases hsome
      rw [ih (next_inv hinv (fun _ => hfree) hnext) hret' hrest, hclient]

theorem run_of_stopping {this this' : ClientThreads} (hinv : this.Inv)
    (hstate : this.client.m_state = .STOPPING) {events : List ClientEvent}
    {states : List ClientState} (hrun : run step this events = some (states, this')) :
    (ClientEvent.returned ∉ events → this'.client = this.client) ∧
      (ClientEvent.returned ∈ events → this'.client = { this.client with m_state := .NONE }) := by
  induction events generalizing this states with
  | nil =>
      cases hrun
      exact ⟨fun _ => rfl, fun hmem => by cases hmem⟩
  | cons event events ih =>
      obtain ⟨state, middle, states', hstep, hrest, rfl⟩ := run_cons hrun
      obtain ⟨hnext, -⟩ := next_of_step hstep
      have hinv' := next_inv hinv (fun _ => (hinv.stopped hstate).2.2) hnext
      rcases next_of_stopping hinv hstate hnext with ⟨hne, hclient⟩ | ⟨rfl, hclient, hret⟩
      · obtain ⟨hstay, hend⟩ := ih hinv' (by rw [hclient, hstate]) hrest
        rw [hclient] at hstay hend
        simp only [List.mem_cons, hne.symm, false_or]
        exact ⟨hstay, hend⟩
      · refine ⟨fun hnone => absurd List.mem_cons_self hnone, fun _ => ?_⟩
        rw [run_of_returned hinv' hret hrest, hclient]

/-- A `scheduleStop` that overtakes the handler of the timer does not stop the client. -/
theorem next_of_overtaken {this : ClientThreads} (htimed : this.TimedConnectCalled)
    (hstate : this.client.m_state = .RUNNING ∨ this.client.m_state = .CONNECTING) :
    ∃ stopping connecting, this.step .scheduleStop = some (.STOPPING, stopping) ∧
      stopping.step .locked = some (.CONNECTING, connecting) ∧
      connecting.client.m_connector.callbacks =
        this.client.stop.m_connector.callbacks ++ [.handleConnect] := by
  obtain ⟨processed, hcalled⟩ := htimed
  refine ⟨this.put this.client.stop, put { this.put this.client.stop with called := none }
    this.client.stop.connect, ?_, ?_, ?_⟩
  · rw [step, next, Option.map_some]
    exact congrArg (fun state => some (state, _)) (Client.stop_state hstate)
  · have hput : (this.put this.client.stop).called =
        some ⟨.handleTimedConnect, .SUCCESS, processed⟩ := hcalled
    rw [step, next, hput]
    rfl
  · exact Outstanding.callbacks_start _ _

/-- Stopping is final in every run in which no `scheduleStop` gets the mutex before the handler of an
expired reconnect timer that waits for it: from the stop on the client does not change at all, and
starts nothing, until the end of `run` sets its state to `NONE`, and not after that either.  A
`scheduleStop` that does get the mutex before it is undone by it. -/
theorem stopping_final (type : ClientClass) {before : List ClientEvent} {states : List ClientState}
    {this : ClientThreads} (hbefore : run step (started type) before = some (states, this)) :
    (Clear type before → this.client.m_state = .STOPPING →
      ∀ later states' this', run step this later = some (states', this') →
        (ClientEvent.returned ∉ later → this'.client = this.client) ∧
          (ClientEvent.returned ∈ later → this'.client = { this.client with m_state := .NONE })) ∧
    (this.TimedConnectCalled →
      this.client.m_state = .RUNNING ∨ this.client.m_state = .CONNECTING →
        ∃ this', run step (started type)
            (before ++ [ClientEvent.scheduleStop] ++ [ClientEvent.locked]) =
          some (states ++ [ClientState.STOPPING] ++ [ClientState.CONNECTING], this') ∧
          this'.client.m_connector.callbacks =
            this.client.stop.m_connector.callbacks ++ [ClientCallback.handleConnect]) := by
  constructor
  · intro hclear hstate later states' this' hlater
    exact run_of_stopping (run_inv hclear hbefore) hstate hlater
  · intro htimed hstate
    obtain ⟨stopping, connecting, hstop, hconnect, hcallbacks⟩ := next_of_overtaken htimed hstate
    have hstopped := run_append_step hbefore hstop
    exact ⟨connecting, run_append_step hstopped hconnect, hcallbacks⟩

/-- A client whose first attempt fails is stopped while it waits for the next one. -/
theorem stopping_final_waiting :
    ∃ states this, run step (started .SbsClient)
      [.dispatch ⟨0, .FAILURE, []⟩, .locked, .scheduleStop] = some (states, this) ∧
      this.client.m_state = .STOPPING ∧
      ∀ later states' this', run step this later = some (states', this') →
        (ClientEvent.returned ∉ later → this'.client = this.client) ∧
          (ClientEvent.returned ∈ later → this'.client = { this.client with m_state := .NONE }) := by
  obtain ⟨states, this, hrun, hstate⟩ : ∃ states this, run step (started .SbsClient)
      [.dispatch ⟨0, .FAILURE, []⟩, .locked, .scheduleStop] = some (states, this) ∧
      this.client.m_state = .STOPPING := ⟨_, _, rfl, rfl⟩
  refine ⟨states, this, hrun, hstate, (stopping_final .SbsClient hrun).1 ?_ hstate⟩
  -- The only `scheduleStop` is the last event, and no handler has been called then.
  rintro pre later heq states' this' hpre ⟨processed, hcalled⟩
  rcases pre with _ | ⟨first, _ | ⟨second, _ | ⟨third, pre⟩⟩⟩
  · cases heq
  · cases heq
  · cases heq
    cases hpre
    cases hcalled
  · have hlen := congrArg List.length heq
    simp only [List.cons_append, List.length_cons, List.length_append, List.length_nil] at hlen
    omega

/-- The timer expires, `scheduleStop` gets the mutex before its handler, and the handler connects. -/
theorem not_stopping_final_overtaken :
    (run step (started .SbsClient) [.dispatch ⟨0, .FAILURE, []⟩, .locked,
      .dispatch ⟨0, .SUCCESS, []⟩, .scheduleStop, .locked]).map Prod.fst =
        some [.CONNECTING, .CONNECTING, .CONNECTING, .STOPPING, .CONNECTING] ∧
    (run step (started .SbsClient) [.dispatch ⟨0, .FAILURE, []⟩, .locked,
      .dispatch ⟨0, .SUCCESS, []⟩, .scheduleStop, .locked]).map
        (fun result => result.2.client.m_connector.callbacks) = some [.handleConnect] := by
  decide

end ClientThreads

end VirtualFlightRadar
