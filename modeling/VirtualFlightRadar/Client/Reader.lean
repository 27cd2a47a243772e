import VirtualFlightRadar.Client.ClientManager
import VirtualFlightRadar.Client.Stopping
import VirtualFlightRadar.Cxx.Refinement

/-!
# The loop over the feeds

`handleRead` gives a response to one feed after the other.  While the loop runs, the feeds of other
clients and the serving thread go on, but the handler holds the mutex of its client.  So the loop is
one step of the client as the other threads see it, with what `process` has returned as its input.
-/

open Cxx

namespace VirtualFlightRadar

/-- The loop of `handleRead`: what `process` returned so far, and the feeds that still come. -/
structure Visit where
  returned : List Bool := []
  remaining : List Nat

/-- A client with its feeds. -/
structure Reader where
  threads : ClientThreads
  m_feeds : List Nat
  -- The argument of the handler that was called last
  response : Bytes := []
  visiting : Option Visit := none

inductive ReaderEvent where
  | dispatch (index : Nat) (error : ErrorCode) (response : Bytes)
  -- The handler that was called gets the mutex.
  | locked
  -- The next feed has returned from `process`.
  | processed (valid : Bool)
  -- The loop is over.
  | finish
  | scheduleStop
  | returned

namespace Reader

def started (client : ManagedClient) : Reader where
  threads := .started client.type
  m_feeds := client.m_feeds

/-- `if (!it->process(response)) stop();` -/
def visited (this : ClientThreads) (valid : Bool) : ClientThreads :=
  if valid then this else this.put this.client.stop

/-- The handler reads a response: it has nothing else to wait for. -/
def Reads (this : Reader) : Prop :=
  (∃ processed, this.threads.called = some ⟨.handleRead, .SUCCESS, processed⟩) ∧
    this.threads.client.m_state = .RUNNING

def reads (this : Reader) : Bool :=
  match this.threads.called with
  | some handler => handler.callback == .handleRead && handler.error == .SUCCESS &&
      this.threads.client.m_state == .RUNNING
  | none => false

def next (this : Reader) : ReaderEvent → Option Reader
  | .dispatch index error response =>
      (this.threads.next (.dispatch ⟨index, error, []⟩)).map fun threads =>
        { this with threads := threads, response := response }
  | .locked =>
      match this.visiting with
      | some _ => none
      | none =>
          if this.reads then some { this with visiting := some { remaining := this.m_feeds } }
          else (this.threads.next .locked).map fun threads => { this with threads := threads }
  | .processed valid =>
      match this.visiting with
      | some ⟨returned, _ :: remaining⟩ =>
          some { this with
            threads := visited this.threads valid
            visiting := some ⟨returned ++ [valid], remaining⟩ }
      | _ => none
  | .finish =>
      match this.visiting with
      | some ⟨_, []⟩ =>
          some { this with
            threads := { this.threads with called := none }.put this.threads.client.read
            visiting := none }
      | _ => none
  | .scheduleStop =>
      match this.visiting with
      | some _ => none
      | none => (this.threads.next .scheduleStop).map fun threads => { this with threads := threads }
  | .returned =>
      (this.threads.next .returned).map fun threads => { this with threads := threads }

/-- What an event is seen to do. -/
structure ReaderOutput where
  -- The response whose loop starts
  line : Option Bytes := none
  -- A feed that is visited, with the response it processes
  visit : Option (Nat × Bytes) := none

def output (this : Reader) : ReaderEvent → ReaderOutput
  | .locked => { line := if this.reads then some this.response else none }
  | .processed _ => { visit := do return (← (← this.visiting).remaining.head?, this.response) }
  | _ => {}

def step (this : Reader) (event : ReaderEvent) : Option (ReaderOutput × Reader) :=
  (this.next event).map fun reader => (this.output event, reader)

/-! ## The loop -/

/-- What the loop has done to the client. -/
def stops (returned : List Bool) (client : Client) : Client :=
  returned.foldl (fun this valid => if valid then this else this.stop) client

theorem stops_concat (returned : List Bool) (valid : Bool) (client : Client) :
    stops (returned ++ [valid]) client =
      if valid then stops returned client else (stops returned client).stop := by
  unfold stops
  rw [List.foldl_append]
  rfl

/-- In the loop the client runs until a feed stops it. -/
theorem stops_state {client : Client} (h : client.m_state = .RUNNING) (returned : List Bool) :
    (stops returned client).m_state = .RUNNING ∨ (stops returned client).m_state = .STOPPING := by
  induction returned using List.reverseRecOn with
  | nil => exact .inl h
  | append_singleton returned valid ih =>
      rw [stops_concat]
      cases valid with
      | true => exact ih
      | false =>
          right
          show (stops returned client).stop.m_state = .STOPPING
          cases ih with
          | inl hrunning => exact Client.stop_state (.inl hrunning)
          | inr hstopping => rw [Client.stop_of_stopping hstopping, hstopping]

/-- The loop on the threads of a client: it stops the connector just if it stops the client. -/
theorem foldl_visited {threads : ClientThreads} (h : threads.client.m_state = .RUNNING)
    (returned : List Bool) : returned.foldl visited threads =
      { threads with
        client := stops returned threads.client
        stopped := threads.stopped || (stops returned threads.client).m_state = .STOPPING } := by
  induction returned using List.reverseRecOn with
  | nil =>
      have hnot : ¬ (stops [] threads.client).m_state = .STOPPING := by
        show ¬ threads.client.m_state = .STOPPING
        rw [h]
        decide
      rw [decide_eq_false hnot, Bool.or_false]
      rfl
  | append_singleton returned valid ih =>
      rw [List.foldl_append, ih, stops_concat]
      cases valid with
      | true => rfl
      | false =>
          have hstop : (stops returned threads.client).stop.m_state = .STOPPING := by
            cases stops_state h returned with
            | inl hrunning => exact Client.stop_state (.inl hrunning)
            | inr hstopping => rw [Client.stop_of_stopping hstopping, hstopping]
          simp [visited, ClientThreads.put, hstop]

/-- The end of the loop is the handler, called with what the feeds have returned. -/
theorem finish_eq_handleRead {threads : ClientThreads} (h : threads.client.m_state = .RUNNING)
    (returned : List Bool) :
    { returned.foldl visited threads with called := none }.put
        (returned.foldl visited threads).client.read =
      { threads with called := none }.put (threads.client.handleRead .SUCCESS returned) := by
  have hhandle : threads.client.handleRead .SUCCESS returned =
      (stops returned threads.client).read := by
    unfold Client.handleRead
    rw [if_pos h]
    rfl
  rw [foldl_visited h, hhandle]
  unfold ClientThreads.put
  simp only [Client.read_state, Bool.or_assoc, Bool.or_self]

theorem reads_iff (this : Reader) : this.reads = true ↔ this.Reads := by
  unfold reads Reads
  cases hcalled : this.threads.called with
  | none => simp
  | some handler =>
      obtain ⟨callback, error, processed⟩ := handler
      simp [and_assoc]

/-! ## The client without its loop -/

/-- The threads where the handler that was called is told what the feeds will return. -/
def withProcessed (processed : List Bool) (threads : ClientThreads) : ClientThreads :=
  { threads with called := threads.called.map fun handler => { handler with processed := processed } }

theorem withProcessed_none {threads : ClientThreads} (h : threads.called = none)
    (processed : List Bool) : withProcessed processed threads = threads := by
  unfold withProcessed
  rw [h, Option.map_none, ← h]

/-- The feeds in the loop, or those of the next response, will return `later`. -/
def Foretold (later : List Bool) (this : Reader) (threads : ClientThreads) : Prop :=
  match this.visiting with
  | none => threads = withProcessed later this.threads
  | some visit => ∃ before processed,
      before.called = some ⟨.handleRead, .SUCCESS, processed⟩ ∧
      before.client.m_state = .RUNNING ∧ this.threads = visit.returned.foldl visited before ∧
      threads = withProcessed (visit.returned ++ later) before

/-- An event as the other threads see it: the loop is over at once. -/
inductive Atomic : ReaderEvent → List ClientEvent → Prop where
  | dispatch (index : Nat) (error : ErrorCode) (response : Bytes) (processed : List Bool) :
      Atomic (.dispatch index error response) [.dispatch ⟨index, error, processed⟩]
  | locked : Atomic .locked [.locked]
  | loop : Atomic .locked []
  | processed (valid : Bool) : Atomic (.processed valid) []
  | finish : Atomic .finish [.locked]
  | scheduleStop : Atomic .scheduleStop [.scheduleStop]
  | returned : Atomic .returned [.returned]

/-- Where a loop ends, the handler has been called with the list that its feeds returned. -/
def Told (this : Reader) (threads : ClientThreads) : ReaderEvent → Prop
  | .finish => ∃ returned, this.visiting = some ⟨returned, []⟩ ∧
      threads.called = some ⟨.handleRead, .SUCCESS, returned⟩
  | _ => True

/-- Only the loop of `handleRead` looks at what the feeds return. -/
theorem call_of_not_reads {this : Reader} {handler : Called} (hcalled : this.threads.called = some handler)
    (h : ¬ this.Reads) (processed : List Bool) :
    this.threads.client.call handler.error processed handler.callback =
      this.threads.client.call handler.error handler.processed handler.callback := by
  obtain ⟨callback, error, old⟩ := handler
  cases callback with
  | handleRead =>
      show this.threads.client.handleRead error processed =
        this.threads.client.handleRead error old
      unfold Client.handleRead
      by_cases hrunning : this.threads.client.m_state = .RUNNING
      · rw [if_pos hrunning, if_pos hrunning]
        cases error with
        | SUCCESS => exact absurd ⟨⟨old, hcalled⟩, hrunning⟩ h
        | FAILURE => rfl
      · rw [if_neg hrunning, if_neg hrunning]
  | _ => rfl

theorem step_of_next {threads threads' : ClientThreads} {event : ClientEvent}
    (h : threads.next event = some threads') :
    run ClientThreads.step threads [event] = some ([threads'.client.m_state], threads') := by
  apply run_singleton
  rw [ClientThreads.step, h]
  rfl

/-! ### One event -/

section

variable {this this' : Reader} {threads threads' : ClientThreads} {later : List Bool}

theorem next_dispatch {index : Nat} {error : ErrorCode} {old : List Bool}
    (h : threads.next (.dispatch ⟨index, error, old⟩) = some threads') (processed : List Bool) :
    threads.next (.dispatch ⟨index, error, processed⟩) = some (withProcessed processed threads') ∧
      threads.called = none := by
  unfold ClientThreads.next at h ⊢
  simp only at h ⊢
  split at h
  next => cases h
  next operation hoperation =>
    split at h
    next hfree =>
      cases h
      refine ⟨?_, hfree.1⟩
      rw [if_pos hfree]
      rfl
    next => cases h

/-- A client that has called no handler is not in a loop. -/
theorem Foretold.idle (h : Foretold later this threads) (hcalled : this.threads.called = none) :
    this.visiting = none ∧ threads = this.threads := by
  unfold Foretold at h
  cases hvisiting : this.visiting with
  | none =>
      rw [hvisiting] at h
      exact ⟨rfl, h.trans (withProcessed_none hcalled later)⟩
  | some visit =>
      rw [hvisiting] at h
      obtain ⟨before, processed, hbefore, hrunning, hthreads, -⟩ := h
      rw [hthreads, foldl_visited hrunning, hbefore] at hcalled
      cases hcalled

theorem foretold_idle (hidle : this.visiting = none)
    (h : threads = withProcessed later this.threads) : Foretold later this threads := by
  unfold Foretold
  rw [hidle]
  exact h

theorem threads_of_idle (hidle : this.visiting = none) (h : Foretold later this threads) :
    threads = withProcessed later this.threads := by
  unfold Foretold at h
  rw [hidle] at h
  exact h

theorem foretold_dispatch {index : Nat} {error : ErrorCode} {response : Bytes}
    (h : this.next (.dispatch index error response) = some this') (later' : List Bool)
    (hforetold : Foretold later this threads) :
    ∃ states threads', run ClientThreads.step threads [.dispatch ⟨index, error, later'⟩] =
      some (states, threads') ∧ Foretold later' this' threads' := by
  obtain ⟨dispatched, hnext, rfl⟩ := Option.map_eq_some_iff.mp h
  obtain ⟨hprocessed, hcalled⟩ := next_dispatch hnext later'
  obtain ⟨hidle, rfl⟩ := hforetold.idle hcalled
  exact ⟨_, _, step_of_next hprocessed, foretold_idle hidle rfl⟩

theorem foretold_locked (h : this.next .locked = some this') (later' : List Bool)
    (hforetold : Foretold later' this threads) :
    ∃ ks states threads', Atomic .locked ks ∧
      run ClientThreads.step threads ks = some (states, threads') ∧
      Foretold later' this' threads' := by
  rw [next] at h
  split at h
  · cases h
  · rename_i hidle
    have hthreads := threads_of_idle hidle hforetold
    split at h
    · -- The loop starts; for the other threads the handler still waits.
      rename_i hreads
      cases h
      obtain ⟨⟨processed, hcalled⟩, hrunning⟩ := this.reads_iff.mp hreads
      exact ⟨[], [], threads, .loop, rfl, this.threads, processed, hcalled, hrunning, rfl, hthreads⟩
    · rename_i hreads
      obtain ⟨locked, hnext, rfl⟩ := Option.map_eq_some_iff.mp h
      have hnot : ¬ this.Reads := fun hr => hreads (this.reads_iff.mpr hr)
      have hstep : threads.next .locked = some locked := by
        rw [hthreads]
        unfold withProcessed ClientThreads.next at *
        cases hcalled : this.threads.called with
        | none =>
            rw [hcalled] at hnext
            cases hnext
        | some handler =>
            rw [hcalled] at hnext
            simp only [Option.map_some]
            rw [call_of_not_reads hcalled hnot]
            exact hnext
      have hlocked : locked.called = none := by
        rcases ClientThreads.next_cases hnext with ⟨delivery, operation, hno, -⟩ |
          ⟨handler, -, -, rfl⟩ | ⟨hno, -⟩ | ⟨hno, -⟩
        · cases hno
        · rfl
        · cases hno
        · cases hno
      refine ⟨_, _, _, .locked, step_of_next hstep, ?_⟩
      exact foretold_idle hidle (withProcessed_none hlocked later').symm

theorem foretold_processed {valid : Bool} (h : this.next (.processed valid) = some this')
    (later' : List Bool) (hforetold : Foretold (valid :: later') this threads) :
    Foretold later' this' threads := by
  rw [next] at h
  split at h
  · rename_i returned feed remaining hvisiting
    cases h
    unfold Foretold at hforetold ⊢
    rw [hvisiting] at hforetold
    obtain ⟨before, processed, hcalled, hrunning, hthreads, htold⟩ := hforetold
    refine ⟨before, processed, hcalled, hrunning, ?_, ?_⟩
    · rw [List.foldl_append, ← hthreads]
      rfl
    · rw [htold, List.append_assoc]
      rfl
  · cases h

theorem foretold_finish (h : this.next .finish = some this') (later' : List Bool)
    (hforetold : Foretold [] this threads) :
    ∃ states threads', Told this threads .finish ∧
      run ClientThreads.step threads [.locked] = some (states, threads') ∧
      Foretold later' this' threads' := by
  rw [next] at h
  split at h
  · rename_i returned hvisiting
    cases h
    unfold Foretold at hforetold
    rw [hvisiting] at hforetold
    obtain ⟨before, processed, hcalled, hrunning, hthreads, htold⟩ := hforetold
    have hwith : threads.called = some ⟨.handleRead, .SUCCESS, returned⟩ := by
      rw [htold, List.append_nil, withProcessed, hcalled]
      rfl
    have hstep : threads.next .locked = some ({ before with called := none }.put
        (before.client.handleRead .SUCCESS returned)) := by
      rw [htold, List.append_nil, withProcessed, hcalled]
      rfl
    refine ⟨_, _, ⟨returned, hvisiting, hwith⟩, step_of_next hstep, foretold_idle rfl ?_⟩
    rw [hthreads, finish_eq_handleRead hrunning]
    rfl
  · cases h

theorem foretold_scheduleStop (h : this.next .scheduleStop = some this') (later' : List Bool)
    (hforetold : Foretold later' this threads) :
    ∃ states threads', run ClientThreads.step threads [.scheduleStop] = some (states, threads') ∧
      Foretold later' this' threads' := by
  rw [next] at h
  split at h
  · cases h
  · rename_i hidle
    cases h
    have hthreads := threads_of_idle hidle hforetold
    refine ⟨_, _, step_of_next rfl, foretold_idle hidle ?_⟩
    rw [hthreads]
    rfl

theorem foretold_returned (h : this.next .returned = some this') (later' : List Bool)
    (hforetold : Foretold later this threads) :
    ∃ states threads', run ClientThreads.step threads [.returned] = some (states, threads') ∧
      Foretold later' this' threads' := by
  obtain ⟨ended, hnext, rfl⟩ := Option.map_eq_some_iff.mp h
  have hcalled : this.threads.called = none ∧ ended.called = none := by
    rcases ClientThreads.next_cases hnext with ⟨delivery, operation, hno, -⟩ | ⟨handler, hno, -⟩ |
      ⟨hno, -⟩ | ⟨-, hcalled, -, rfl⟩
    · cases hno
    · cases hno
    · cases hno
    · exact ⟨hcalled, hcalled⟩
  obtain ⟨hidle, rfl⟩ := hforetold.idle hcalled.1
  exact ⟨_, _, step_of_next hnext,
    foretold_idle hidle (withProcessed_none hcalled.2 later').symm⟩

/-- Whatever the feeds return later, an event is one of the client without its loop. -/
theorem foretold_step {event : ReaderEvent} (h : this.next event = some this')
    (later' : List Bool) : ∃ later, ∀ threads, Foretold later this threads →
      ∃ ks states threads', Atomic event ks ∧ Told this threads event ∧
        run ClientThreads.step threads ks = some (states, threads') ∧
        Foretold later' this' threads' := by
  cases event with
  | dispatch index error response =>
      refine ⟨[], fun threads hforetold => ?_⟩
      obtain ⟨states, threads', hrun, hnext⟩ := foretold_dispatch h later' hforetold
      exact ⟨_, states, threads', .dispatch index error response later', trivial, hrun, hnext⟩
  | locked =>
      refine ⟨later', fun threads hforetold => ?_⟩
      obtain ⟨ks, states, threads', hatomic, hrun, hnext⟩ := foretold_locked h later' hforetold
      exact ⟨ks, states, threads', hatomic, trivial, hrun, hnext⟩
  | processed valid =>
      refine ⟨valid :: later', fun threads hforetold => ?_⟩
      exact ⟨[], [], threads, .processed valid, trivial, rfl, foretold_processed h later' hforetold⟩
  | finish =>
      refine ⟨[], fun threads hforetold => ?_⟩
      obtain ⟨states, threads', htold, hrun, hnext⟩ := foretold_finish h later' hforetold
      exact ⟨_, states, threads', .finish, htold, hrun, hnext⟩
  | scheduleStop =>
      refine ⟨later', fun threads hforetold => ?_⟩
      obtain ⟨states, threads', hrun, hnext⟩ := foretold_scheduleStop h later' hforetold
      exact ⟨_, states, threads', .scheduleStop, trivial, hrun, hnext⟩
  | returned =>
      refine ⟨[], fun threads hforetold => ?_⟩
      obtain ⟨states, threads', hrun, hnext⟩ := foretold_returned h later' hforetold
      exact ⟨_, states, threads', .returned, trivial, hrun, hnext⟩

end

/-! ## Runs -/

theorem next_of_step {this this' : Reader} {event : ReaderEvent} {output : ReaderOutput}
    (h : this.step event = some (output, this')) :
    this.next event = some this' ∧ output = this.output event := by
  obtain ⟨reader, hnext, heq⟩ := Option.map_eq_some_iff.mp h
  cases heq
  exact ⟨hnext, rfl⟩

theorem withProcessed_self (threads : ClientThreads) :
    withProcessed ((threads.called.map (·.processed)).getD []) threads = threads := by
  obtain ⟨client, called, stopped, returned⟩ := threads
  cases called with
  | none => rfl
  | some handler => rfl

/-- At each event the parts of both runs before it reach states in which a loop that ends has been
told its list. -/
def ToldThroughout (client : ManagedClient) (events : List ReaderEvent)
    (kss : List (List ClientEvent)) : Prop :=
  ∀ front event back, events = front ++ event :: back → ∃ outputs this states threads,
    run step (started client) front = some (outputs, this) ∧
    run ClientThreads.step (.started client.type) (kss.take front.length).flatten =
      some (states, threads) ∧
    Told this threads event

/-- Every run of a client that visits its feeds one by one is a run of the client whose handler is a
single step, called with what the feeds return.  Between two responses both are in the same state;
in a loop, the client is what the feeds so far have made of the state before it; and where a loop
ends, the handler that waits was called with the list that the feeds of this loop returned. -/
theorem run_atomic (client : ManagedClient) {events : List ReaderEvent}
    {outputs : List ReaderOutput} {this : Reader}
    (hrun : run step (started client) events = some (outputs, this)) :
    ∃ kss states' threads, List.Forall₂ Atomic events kss ∧
      run ClientThreads.step (.started client.type) kss.flatten = some (states', threads) ∧
      (this.visiting = none → this.threads = threads) ∧
      (∀ visit, this.visiting = some visit →
        threads.called = some ⟨.handleRead, .SUCCESS, visit.returned⟩ ∧
        threads.client.m_state = .RUNNING ∧
        this.threads.client = stops visit.returned threads.client) ∧
      ToldThroughout client events kss := by
  have hrun_to (later' : List Bool) : ∃ kss states' threads, List.Forall₂ Atomic events kss ∧
      run ClientThreads.step (.started client.type) kss.flatten = some (states', threads) ∧
      Foretold later' this threads ∧
      ToldThroughout client events kss := by
    obtain ⟨later, hall⟩ := run_prophecy Atomic Told Foretold
      (fun s i o s' p' hstep => foretold_step (next_of_step hstep).1 p') hrun later'
    exact hall _ (foretold_idle rfl (withProcessed_none rfl later).symm)
  cases hvisiting : this.visiting with
  | none =>
      -- What the handler was called with is what the feeds will have returned.
      obtain ⟨kss, states', threads, hatomic, hthreads, hend, htold⟩ :=
        hrun_to ((this.threads.called.map (·.processed)).getD [])
      refine ⟨kss, states', threads, hatomic, hthreads, fun _ => ?_, fun visit hno => ?_, htold⟩
      · rw [threads_of_idle hvisiting hend, withProcessed_self]
      · cases hno
  | some visit =>
      obtain ⟨kss, states', threads, hatomic, hthreads, hend, htold⟩ := hrun_to []
      unfold Foretold at hend
      rw [hvisiting] at hend
      obtain ⟨before, processed, hcalled, hrunning, hvisits, hbefore⟩ := hend
      refine ⟨kss, states', threads, hatomic, hthreads, fun hno => ?_, fun visit' heq => ?_, htold⟩
      · cases hno
      · cases heq
        refine ⟨?_, ?_, ?_⟩
        · rw [hbefore, withProcessed, hcalled, List.append_nil]
          rfl
        · rw [hbefore]
          exact hrunning
        · rw [hvisits, foldl_visited hrunning, hbefore]
          rfl

/-- Two feeds take a response; the second of them stops the client while the next one is read. -/
def twoFeeds : List ReaderEvent :=
  [.dispatch 0 .SUCCESS [], .locked, .dispatch 0 .SUCCESS (str "A"), .locked, .processed true,
    .processed true, .finish, .dispatch 0 .SUCCESS (str "B"), .locked, .processed true,
    .processed false]

theorem run_atomic_two_feeds :
    ∃ outputs this, run step (started { type := .SbsClient, m_endpoint := ⟨[], []⟩, m_feeds := [0, 1] })
      twoFeeds = some (outputs, this) ∧
      ∃ kss states' threads, List.Forall₂ Atomic twoFeeds kss ∧
        run ClientThreads.step (.started .SbsClient) kss.flatten = some (states', threads) ∧
        (this.visiting = none → this.threads = threads) ∧
        (∀ visit, this.visiting = some visit →
          threads.called = some ⟨.handleRead, .SUCCESS, visit.returned⟩ ∧
          threads.client.m_state = .RUNNING ∧
          this.threads.client = stops visit.returned threads.client) ∧
        ToldThroughout { type := .SbsClient, m_endpoint := ⟨[], []⟩, m_feeds := [0, 1] } twoFeeds
          kss := by
  refine ⟨_, _, rfl, ?_⟩
  exact run_atomic { type := .SbsClient, m_endpoint := ⟨[], []⟩, m_feeds := [0, 1] } rfl

end Reader

end VirtualFlightRadar
