import VirtualFlightRadar.Client.Lines
import VirtualFlightRadar.Client.Subscription

/-!
# Stopping all clients

The manager runs each client in a thread of its own, which erases the client when `run` is over.
`stop` visits the clients with the mutex of the manager, so that none is erased meanwhile, and then
joins the threads.  A client whose thread has not come to `run` yet is given 100 ms, and left alone
after that.
-/

open Cxx

namespace VirtualFlightRadar

/-- The thread of a client. -/
inductive ClientThread where
  -- `Client::run` has not got the mutex of the client.
  | created (client : ManagedClient)
  | running (reader : Reader)
  -- The client is erased.
  | erased

/-- Where `ClientManager::stop` is. -/
inductive StopPhase where
  | serving
  -- In the loop, with the mutex of the manager
  | stopping (remaining : List Nat)
  | joining
  | joined

/-- The clients after `ClientManager::run`. -/
structure ClientGroup where
  threads : List ClientThread
  phase : StopPhase := .serving

inductive GroupEvent where
  | run (k : Nat)
  -- Anything that happens to a client but for `scheduleStop`
  | client (k : Nat) (event : ReaderEvent)
  | erase (k : Nat)
  -- A set keeps no order, so `stop` may visit the clients in any.
  | stop (order : List Nat)
  | scheduleStop
  | unlock
  | join

inductive GroupOutput where
  | quiet
  | client (k : Nat) (event : ReaderEvent) (output : Reader.ReaderOutput)
  -- The 100 ms are over, and the client has not begun.
  | missed (k : Nat)

/-- The event comes from the network. -/
def GroupEvent.external : GroupEvent → Bool
  | .client _ (.dispatch _ _ _) => true
  | _ => false

/-! ## One client -/

namespace Client

section

variable {this : Client}

/-- Of a client that has begun no handler makes one that has not. -/
theorem stop_begun (h : this.m_state ≠ .NONE) : this.stop.m_state = .STOPPING := by
  cases hstate : this.m_state with
  | NONE => exact absurd hstate h
  | CONNECTING => exact stop_state (.inr hstate)
  | RUNNING => exact stop_state (.inl hstate)
  | STOPPING => rw [stop_of_stopping hstate, hstate]

theorem reconnect_begun (h : this.m_state ≠ .NONE) : this.reconnect.m_state ≠ .NONE := by
  unfold reconnect
  split
  · show ClientState.CONNECTING ≠ .NONE
    decide
  · exact h

theorem connected_begun (h : this.m_state ≠ .NONE) : this.connected.m_state ≠ .NONE := by
  unfold connected
  split
  · rw [read_state]
    show ClientState.RUNNING ≠ .NONE
    decide
  · exact h
  · exact h
  · rw [read_state]
    show ClientState.RUNNING ≠ .NONE
    decide

theorem handleRead_begun (h : this.m_state ≠ .NONE) (error : ErrorCode) (processed : List Bool) :
    (this.handleRead error processed).m_state ≠ .NONE := by
  unfold handleRead
  split
  next hrunning =>
    cases error with
    | SUCCESS =>
        show (read _).m_state ≠ .NONE
        rw [read_state]
        cases foldl_stop (.inl hrunning) processed with
        | inl hsame =>
            rw [hsame]
            exact h
        | inr hstopped =>
            rw [hstopped]
            decide
    | FAILURE => exact reconnect_begun h
  next => exact h

theorem call_begun (h : this.m_state ≠ .NONE) (error : ErrorCode) (processed : List Bool)
    (callback : ClientCallback) : (this.call error processed callback).m_state ≠ .NONE := by
  have hstop : this.stop.m_state ≠ .NONE := by
    rw [stop_begun h]
    decide
  have hrunning : ∀ m_connector : Outstanding,
      (read { this with m_state := .RUNNING, m_connector := m_connector }).m_state ≠ .NONE := by
    intro m_connector
    rw [read_state]
    show ClientState.RUNNING ≠ .NONE
    decide
  cases callback with
  | handleConnect =>
      show (this.handleConnect error).m_state ≠ .NONE
      unfold handleConnect
      split
      · cases error with
        | SUCCESS => exact connected_begun h
        | FAILURE => exact reconnect_begun h
      · exact h
  | handleLogin =>
      show (this.handleLogin error).m_state ≠ .NONE
      unfold handleLogin
      split
      · cases error with
        | SUCCESS => exact hrunning _
        | FAILURE => exact reconnect_begun h
      · exact h
  | handleWatch =>
      show (this.handleWatch error).m_state ≠ .NONE
      unfold handleWatch
      split
      · cases error with
        | SUCCESS => exact hrunning _
        | FAILURE => exact reconnect_begun h
      · exact h
  | handleTimedConnect =>
      cases error with
      | SUCCESS =>
          show ClientState.CONNECTING ≠ .NONE
          decide
      | FAILURE => exact hstop
  | handleRead => exact handleRead_begun h error processed
  | checkDeadline =>
      show (this.checkDeadline error).m_state ≠ .NONE
      unfold checkDeadline
      split
      · cases error with
        | SUCCESS => exact reconnect_begun h
        | FAILURE => exact h
      · exact h
  | handleSendKeepAlive =>
      show (this.handleSendKeepAlive error).m_state ≠ .NONE
      unfold handleSendKeepAlive
      split
      · cases error with
        | SUCCESS => exact h
        | FAILURE => exact h
      · exact h
  | sentBeacon =>
      show (this.sentBeacon error).m_state ≠ .NONE
      unfold sentBeacon
      split
      · cases error with
        | SUCCESS => exact h
        | FAILURE => exact reconnect_begun h
      · exact h
  | stoppedWatch => exact h

end

end Client

namespace Reader

/-- What holds of a client in its thread. -/
structure Regular (this : Reader) : Prop where
  engaged : this.Engaged
  returned : this.threads.returned = true → this.threads.called = none
  begun : this.threads.returned = false → this.threads.client.m_state ≠ .NONE
  remaining : ∀ visit, this.visiting = some visit →
    visit.remaining.length ≤ this.m_feeds.length

/-- No handler is called any more. -/
def Settled (this : Reader) : Prop :=
  this.threads.stopped = true ∨ this.threads.returned = true

/-- The steps a handler takes that has been called. -/
def handling (this : Reader) : Nat :=
  match this.visiting with
  | some visit => visit.remaining.length + 1
  | none => if this.threads.called.isSome then this.m_feeds.length + 2 else 0

/-- The steps until the client is erased. -/
def work (this : Reader) : Nat :=
  this.handling + (if this.threads.returned then 0 else 1) + 1

theorem started_regular (client : ManagedClient) : (started client).Regular :=
  ⟨.of_idle rfl, fun _ => rfl, fun _ => nofun, nofun⟩

section

variable {this this' : Reader} {event : ReaderEvent}

theorem Regular.idle (h : this.Regular) (hreturned : this.threads.returned = true) :
    this.visiting = none := called_of_free h.engaged (h.returned hreturned)

theorem Regular.work_le (h : this.Regular) : this.work ≤ this.m_feeds.length + 4 := by
  have hhandling : this.handling ≤ this.m_feeds.length + 2 := by
    unfold handling
    split
    next visit hvisiting =>
      have hremaining := h.remaining visit hvisiting
      omega
    next =>
      split
      · exact Nat.le_refl _
      · exact Nat.zero_le _
  unfold work
  split <;> omega

theorem next_remaining (h : this.Regular) (hnext : this.next event = some this') :
    ∀ visit, this'.visiting = some visit → visit.remaining.length ≤ this'.m_feeds.length := by
  intro visit hvisit
  rw [next_feeds hnext]
  cases (next_loop h.engaged hnext).1 with
  | idle hvisiting hafter hquiet =>
      rw [hafter] at hvisit
      cases hvisit
  | begins hvisiting hreads hafter hresponse hline hseen =>
      rw [hafter] at hvisit
      cases hvisit
      exact Nat.le_refl _
  | visits returned valid n remaining hvisiting hafter hresponse hline hseen =>
      rw [hafter] at hvisit
      cases hvisit
      exact (Nat.le_succ _).trans (h.remaining _ hvisiting)
  | ends returned hvisiting hafter hquiet =>
      rw [hafter] at hvisit
      cases hvisit

theorem visited_returned (threads : ClientThreads) (valid : Bool) :
    (visited threads valid).returned = threads.returned := by
  unfold visited
  cases valid <;> rfl

theorem next_returned (h : this.Regular) (hnext : this.next event = some this')
    (hreturned : this'.threads.returned = true) : this'.threads.called = none := by
  cases event with
  | dispatch index error response =>
      obtain ⟨threads, hdispatch, rfl⟩ := Option.map_eq_some_iff.mp hnext
      rcases ClientThreads.next_cases hdispatch with ⟨delivery, operation, -, -, -, hruns, rfl⟩ |
        ⟨handler, hno, -⟩ | ⟨hno, -⟩ | ⟨hno, -⟩
      · exact absurd (hruns.symm.trans hreturned) (by decide)
      · cases hno
      · cases hno
      · cases hno
  | locked =>
      rw [next] at hnext
      split at hnext
      · cases hnext
      · split at hnext
        · cases hnext
          exact h.returned hreturned
        · obtain ⟨threads, hlocked, rfl⟩ := Option.map_eq_some_iff.mp hnext
          rcases ClientThreads.next_cases hlocked with ⟨delivery, operation, hno, -⟩ |
            ⟨handler, -, -, rfl⟩ | ⟨hno, -⟩ | ⟨hno, -⟩
          · cases hno
          · rfl
          · cases hno
          · cases hno
  | processed valid =>
      rw [next] at hnext
      split at hnext
      · rename_i returned n remaining hvisiting
        cases hnext
        change (visited this.threads valid).returned = true at hreturned
        rw [visited_returned] at hreturned
        rw [h.idle hreturned] at hvisiting
        cases hvisiting
      · cases hnext
  | finish =>
      rw [next] at hnext
      split at hnext
      · cases hnext
        rfl
      · cases hnext
  | scheduleStop =>
      rw [next] at hnext
      split at hnext
      · cases hnext
      · cases hnext
        exact h.returned hreturned
  | returned =>
      obtain ⟨threads, hend, rfl⟩ := Option.map_eq_some_iff.mp hnext
      rcases ClientThreads.next_cases hend with ⟨delivery, operation, hno, -⟩ | ⟨handler, hno, -⟩ |
        ⟨hno, -⟩ | ⟨-, hcalled, -, rfl⟩
      · cases hno
      · cases hno
      · cases hno
      · exact hcalled

theorem next_begun (h : this.Regular) (hnext : this.next event = some this')
    (hlives : this'.threads.returned = false) : this'.threads.client.m_state ≠ .NONE := by
  cases event with
  | dispatch index error response =>
      obtain ⟨threads, hdispatch, rfl⟩ := Option.map_eq_some_iff.mp hnext
      rcases ClientThreads.next_cases hdispatch with ⟨delivery, operation, -, -, -, hruns, rfl⟩ |
        ⟨handler, hno, -⟩ | ⟨hno, -⟩ | ⟨hno, -⟩
      · exact h.begun hruns
      · cases hno
      · cases hno
      · cases hno
  | locked =>
      rw [next] at hnext
      split at hnext
      · cases hnext
      · split at hnext
        · cases hnext
          exact h.begun hlives
        · obtain ⟨threads, hlocked, rfl⟩ := Option.map_eq_some_iff.mp hnext
          rcases ClientThreads.next_cases hlocked with ⟨delivery, operation, hno, -⟩ |
            ⟨handler, -, -, rfl⟩ | ⟨hno, -⟩ | ⟨hno, -⟩
          · cases hno
          · exact Client.call_begun (h.begun hlives) _ _ _
          · cases hno
          · cases hno
  | processed valid =>
      rw [next] at hnext
      split at hnext
      · cases hnext
        change (visited this.threads valid).returned = false at hlives
        rw [visited_returned] at hlives
        cases valid with
        | true => exact h.begun hlives
        | false =>
            show this.threads.client.stop.m_state ≠ .NONE
            rw [Client.stop_begun (h.begun hlives)]
            decide
      · cases hnext
  | finish =>
      rw [next] at hnext
      split at hnext
      · cases hnext
        show this.threads.client.read.m_state ≠ .NONE
        rw [Client.read_state]
        exact h.begun hlives
      · cases hnext
  | scheduleStop =>
      rw [next] at hnext
      split at hnext
      · cases hnext
      · cases hnext
        show this.threads.client.stop.m_state ≠ .NONE
        rw [Client.stop_begun (h.begun hlives)]
        decide
  | returned =>
      obtain ⟨threads, hend, rfl⟩ := Option.map_eq_some_iff.mp hnext
      rcases ClientThreads.next_cases hend with ⟨delivery, operation, hno, -⟩ | ⟨handler, hno, -⟩ |
        ⟨hno, -⟩ | ⟨-, -, -, rfl⟩
      · cases hno
      · cases hno
      · cases hno
      · cases hlives

theorem Regular.next (h : this.Regular) (hnext : this.next event = some this') : this'.Regular :=
  ⟨(next_loop h.engaged hnext).2, next_returned h hnext, next_begun h hnext, next_remaining h hnext⟩

theorem settled_put {threads : ClientThreads} (client : Client)
    (h : threads.stopped = true ∨ threads.returned = true) :
    (threads.put client).stopped = true ∨ (threads.put client).returned = true := by
  cases h with
  | inl hstopped => exact .inl (by rw [ClientThreads.put, hstopped, Bool.true_or])
  | inr hreturned => exact .inr hreturned

theorem work_lt (hreturned : this'.threads.returned = this.threads.returned)
    (h : this'.handling < this.handling) : this'.work < this.work := by
  unfold work
  rw [hreturned]
  omega

/-- A client that is stopped or has returned stays so, and has less and less to do. -/
theorem Settled.next (h : this.Settled) (hregular : this.Regular)
    (hnext : this.next event = some this') :
    this'.Settled ∧ (event ≠ .scheduleStop → this'.work < this.work) := by
  cases event with
  | dispatch index error response =>
      -- The connector has no more handlers to call.
      obtain ⟨threads, hdispatch, rfl⟩ := Option.map_eq_some_iff.mp hnext
      rcases ClientThreads.next_cases hdispatch with ⟨delivery, operation, -, -, hruns, hlives, -⟩ |
        ⟨handler, hno, -⟩ | ⟨hno, -⟩ | ⟨hno, -⟩
      · cases h with
        | inl hstopped => exact absurd (hstopped.symm.trans hruns) (by decide)
        | inr hreturned => exact absurd (hreturned.symm.trans hlives) (by decide)
      · cases hno
      · cases hno
      · cases hno
  | locked =>
      rw [Reader.next] at hnext
      split at hnext
      · cases hnext
      · rename_i hidle
        split at hnext
        · rename_i hreads
          cases hnext
          obtain ⟨⟨processed, hcalled⟩, -⟩ := this.reads_iff.mp hreads
          exact ⟨h, fun _ => work_lt rfl (by simp [handling, hidle, hcalled])⟩
        · obtain ⟨threads, hlocked, rfl⟩ := Option.map_eq_some_iff.mp hnext
          rcases ClientThreads.next_cases hlocked with ⟨delivery, operation, hno, -⟩ |
            ⟨handler, -, hcalled, rfl⟩ | ⟨hno, -⟩ | ⟨hno, -⟩
          · cases hno
          · exact ⟨settled_put _ h,
              fun _ => work_lt rfl (by simp [handling, hidle, hcalled, ClientThreads.put])⟩
          · cases hno
          · cases hno
  | processed valid =>
      rw [Reader.next] at hnext
      split at hnext
      · rename_i returned n remaining hvisiting
        cases hnext
        refine ⟨?_, fun _ => ?_⟩
        · cases valid with
          | true => exact h
          | false => exact settled_put _ h
        · exact work_lt (visited_returned _ valid) (by simp [handling, hvisiting])
      · cases hnext
  | finish =>
      rw [Reader.next] at hnext
      split at hnext
      · rename_i returned hvisiting
        cases hnext
        exact ⟨settled_put _ h,
          fun _ => work_lt rfl (by simp [handling, hvisiting, ClientThreads.put])⟩
      · cases hnext
  | scheduleStop =>
      rw [Reader.next] at hnext
      split at hnext
      · cases hnext
      · cases hnext
        exact ⟨settled_put _ h, fun hne => absurd rfl hne⟩
  | returned =>
      obtain ⟨threads, hend, rfl⟩ := Option.map_eq_some_iff.mp hnext
      rcases ClientThreads.next_cases hend with ⟨delivery, operation, hno, -⟩ | ⟨handler, hno, -⟩ |
        ⟨hno, -⟩ | ⟨-, hcalled, hlives, rfl⟩
      · cases hno
      · cases hno
      · cases hno
      · have hidle := called_of_free hregular.engaged hcalled
        refine ⟨.inr rfl, fun _ => ?_⟩
        simp [work, handling, hidle, hcalled, hlives]

/-- `scheduleStop` settles a client. -/
theorem settled_of_stop (h : this.Regular) (hnext : this.next .scheduleStop = some this') :
    this'.Settled := by
  rw [next] at hnext
  split at hnext
  · cases hnext
  · cases hnext
    cases hlives : this.threads.returned with
    | true => exact .inr hlives
    | false =>
        left
        show (this.threads.stopped || decide (this.threads.client.stop.m_state = .STOPPING)) = true
        rw [Client.stop_begun (h.begun hlives)]
        exact Bool.or_true _

/-- The handler of a running loop goes on without the network. -/
theorem loop_moves (h : this.visiting ≠ none) :
    ∃ event this', (∀ index error response, event ≠ .dispatch index error response) ∧
      event ≠ .scheduleStop ∧ this.next event = some this' := by
  cases hvisiting : this.visiting with
  | none => exact absurd hvisiting h
  | some visit =>
      obtain ⟨returned, remaining⟩ := visit
      cases remaining with
      | nil => exact ⟨.finish, _, (by rintro _ _ _ ⟨⟩), (by rintro ⟨⟩), by rw [next, hvisiting]⟩
      | cons n remaining =>
          exact ⟨.processed true, _, (by rintro _ _ _ ⟨⟩), (by rintro ⟨⟩), by rw [next, hvisiting]⟩

theorem stop_moves (h : this.visiting = none) : ∃ this', this.next .scheduleStop = some this' := by
  rw [next, h]
  exact ⟨_, rfl⟩

/-- A settled client goes on without the network until `run` is over. -/
theorem Settled.moves (h : this.Settled) (hlives : this.threads.returned = false) :
    ∃ event this', (∀ index error response, event ≠ .dispatch index error response) ∧
      event ≠ .scheduleStop ∧ this.next event = some this' := by
  by_cases hidle : this.visiting = none
  · cases hcalled : this.threads.called with
    | some handler =>
        have hlocked : ∃ this', this.next .locked = some this' := by
          rw [Reader.next, hidle]
          by_cases hreads : this.reads = true
          · exact ⟨_, if_pos hreads⟩
          · simp only
            rw [if_neg hreads, ClientThreads.next, hcalled]
            exact ⟨_, rfl⟩
        obtain ⟨this', hnext⟩ := hlocked
        exact ⟨.locked, this', (by rintro _ _ _ ⟨⟩), (by rintro ⟨⟩), hnext⟩
    | none =>
        have hstopped : this.threads.stopped = true := by
          cases h with
          | inl hstopped => exact hstopped
          | inr hreturned => exact absurd (hreturned.symm.trans hlives) (by decide)
        have hend : this.threads.next .returned = some { this.threads with
            client := { this.threads.client with m_state := .NONE }, returned := true } :=
          if_pos ⟨hcalled, hlives, .inl hstopped⟩
        exact ⟨.returned, _, (by rintro _ _ _ ⟨⟩), (by rintro ⟨⟩), by rw [Reader.next, hend]; rfl⟩
  · exact loop_moves hidle

end

end Reader

/-! ## The threads -/

namespace ClientThread

def isErased : ClientThread → Bool
  | .erased => true
  | _ => false

def Settled : ClientThread → Prop
  | .created _ => False
  | .running reader => reader.Settled
  | .erased => True

def work : ClientThread → Nat
  | .running reader => reader.work
  | _ => 0

/-- A bound on the work that a thread may still have. -/
def weight : ClientThread → Nat
  | .created client => client.m_feeds.length + 4
  | .running reader => reader.m_feeds.length + 4
  | .erased => 0

end ClientThread

namespace ClientGroup

def started (clients : List ManagedClient) : ClientGroup where
  threads := clients.map .created

def thread (this : ClientGroup) (k : Nat) : ClientThread := this.threads.getD k .erased

def put (this : ClientGroup) (k : Nat) (thread : ClientThread) : ClientGroup :=
  { this with threads := this.threads.set k thread }

/-- `m_clients` -/
def alive (this : ClientGroup) : List Nat :=
  (List.range this.threads.length).filter fun k => !(this.thread k).isErased

def step (this : ClientGroup) : GroupEvent → Option (GroupOutput × ClientGroup)
  | .run k =>
      match this.thread k with
      | .created client => some (.quiet, this.put k (.running (.started client)))
      | _ => none
  | .client _ .scheduleStop => none
  | .client k event =>
      match this.thread k with
      | .running reader => (reader.step event).map fun (output, reader) =>
          (.client k event output, this.put k (.running reader))
      | _ => none
  | .erase k =>
      match this.phase, this.thread k with
      -- The manager's mutex is taken.
      | .stopping _, _ => none
      | _, .running reader =>
          if reader.threads.returned then some (.quiet, this.put k .erased) else none
      | _, _ => none
  | .stop order =>
      match this.phase with
      | .serving =>
          if order.isPerm this.alive then some (.quiet, { this with phase := .stopping order })
          else none
      | _ => none
  | .scheduleStop =>
      match this.phase with
      | .stopping (k :: remaining) =>
          match this.thread k with
          | .created _ => some (.missed k, { this with phase := .stopping remaining })
          | .running reader => (reader.step .scheduleStop).map fun (output, reader) =>
              (.client k .scheduleStop output,
                { this.put k (.running reader) with phase := .stopping remaining })
          | .erased => none
      | _ => none
  | .unlock =>
      match this.phase with
      | .stopping [] => some (.quiet, { this with phase := .joining })
      | _ => none
  | .join =>
      match this.phase with
      | .joining =>
          if this.threads.all (·.isErased) then some (.quiet, { this with phase := .joined }) else none
      | _ => none

/-! ## One step -/

section

variable {this this' : ClientGroup} {event : GroupEvent} {output : GroupOutput}

inductive Stepped (this : ClientGroup) : GroupEvent → GroupOutput → ClientGroup → Prop where
  | run (k : Nat) (client : ManagedClient) (hthread : this.thread k = .created client) :
      Stepped this (.run k) .quiet (this.put k (.running (.started client)))
  | client (k : Nat) (event : ReaderEvent) (reader reader' : Reader)
      (hthread : this.thread k = .running reader) (hne : event ≠ .scheduleStop)
      (hnext : reader.next event = some reader') :
      Stepped this (.client k event) (.client k event (reader.output event))
        (this.put k (.running reader'))
  | erase (k : Nat) (reader : Reader) (hthread : this.thread k = .running reader)
      (hreturned : reader.threads.returned = true)
      (hfree : ∀ remaining, this.phase ≠ .stopping remaining) :
      Stepped this (.erase k) .quiet (this.put k .erased)
  | stop (order : List Nat) (hphase : this.phase = .serving) (horder : order.Perm this.alive) :
      Stepped this (.stop order) .quiet { this with phase := .stopping order }
  | missed (k : Nat) (remaining : List Nat) (client : ManagedClient)
      (hphase : this.phase = .stopping (k :: remaining)) (hthread : this.thread k = .created client) :
      Stepped this .scheduleStop (.missed k) { this with phase := .stopping remaining }
  | scheduleStop (k : Nat) (remaining : List Nat) (reader reader' : Reader)
      (hphase : this.phase = .stopping (k :: remaining)) (hthread : this.thread k = .running reader)
      (hnext : reader.next .scheduleStop = some reader') :
      Stepped this .scheduleStop (.client k .scheduleStop (reader.output .scheduleStop))
        { this.put k (.running reader') with phase := .stopping remaining }
  | unlock (hphase : this.phase = .stopping []) :
      Stepped this .unlock .quiet { this with phase := .joining }
  | join (hphase : this.phase = .joining) (hover : ∀ thread ∈ this.threads, thread = .erased) :
      Stepped this .join .quiet { this with phase := .joined }

theorem isErased_iff (thread : ClientThread) : thread.isErased = true ↔ thread = .erased := by
  cases thread <;> simp [ClientThread.isErased]

theorem stepped_of_step (h : this.step event = some (output, this')) :
    Stepped this event output this' := by
  cases event with
  | run k =>
      rw [step] at h
      split at h
      next client hthread =>
        cases h
        exact .run k client hthread
      next => cases h
  | client k event =>
      by_cases hne : event = .scheduleStop
      · rw [hne, step] at h
        cases h
      · rw [step.eq_3 _ _ _ hne] at h
        split at h
        next reader hthread =>
          obtain ⟨⟨seen, reader'⟩, hstep, heq⟩ := Option.map_eq_some_iff.mp h
          obtain ⟨hnext, rfl⟩ := Reader.next_of_step hstep
          cases heq
          exact .client k event reader reader' hthread hne hnext
        next => cases h
  | erase k =>
      rw [step] at h
      split at h
      next => cases h
      next reader hthread hfree =>
        split at h
        next hreturned =>
          cases h
          exact .erase k reader hthread hreturned hfree
        next => cases h
      next => cases h
  | stop order =>
      rw [step] at h
      split at h
      next hphase =>
        split at h
        next horder =>
          cases h
          exact .stop order hphase (List.isPerm_iff.mp horder)
        next => cases h
      next => cases h
  | scheduleStop =>
      rw [step] at h
      split at h
      next k remaining hphase =>
        split at h
        next client hthread =>
          cases h
          exact .missed k remaining client hphase hthread
        next reader hthread =>
          obtain ⟨⟨seen, reader'⟩, hstep, heq⟩ := Option.map_eq_some_iff.mp h
          obtain ⟨hnext, rfl⟩ := Reader.next_of_step hstep
          cases heq
          exact .scheduleStop k remaining reader reader' hphase hthread hnext
        next => cases h
      next => cases h
  | unlock =>
      rw [step] at h
      split at h
      next hphase =>
        cases h
        exact .unlock hphase
      next => cases h
  | join =>
      rw [step] at h
      split at h
      next hphase =>
        split at h
        next hover =>
          cases h
          refine .join hphase fun thread hmem => ?_
          exact (isErased_iff thread).mp (List.all_eq_true.mp hover thread hmem)
        next => cases h
      next => cases h

/-! ### Threads -/

theorem thread_put (k : Nat) (thread : ClientThread) (hk : k < this.threads.length) (j : Nat) :
    (this.put k thread).thread j = if k = j then thread else this.thread j := by
  unfold ClientGroup.thread put
  rw [List.getD_eq_getElem?_getD, List.getElem?_set]
  by_cases heq : k = j
  · rw [if_pos heq, if_pos heq, if_pos (heq ▸ hk)]
    rfl
  · rw [if_neg heq, if_neg heq, ← List.getD_eq_getElem?_getD]

/-- A thread that is not over has a client of the group. -/
theorem lt_of_thread {k : Nat} (h : this.thread k ≠ .erased) : k < this.threads.length := by
  by_contra hge
  apply h
  unfold ClientGroup.thread
  rw [List.getD_eq_getElem?_getD, List.getElem?_eq_none (by omega)]
  rfl

theorem lt_of_running {k : Nat} {reader : Reader} (h : this.thread k = .running reader) :
    k < this.threads.length := lt_of_thread (by rw [h]; nofun)

theorem mem_alive (k : Nat) : k ∈ this.alive ↔ this.thread k ≠ .erased := by
  unfold alive
  rw [List.mem_filter, List.mem_range, Bool.not_eq_true', ← Bool.not_eq_true, isErased_iff]
  exact ⟨fun h => h.2, fun h => ⟨lt_of_thread h, h⟩⟩

theorem sum_map_set {α : Type*} (f : α → Nat) (b d : α) {l : List α} {k : Nat} (hk : k < l.length) :
    ((l.set k b).map f).sum + f (l.getD k d) = (l.map f).sum + f b := by
  induction l generalizing k with
  | nil => cases hk
  | cons a l ih =>
      cases k with
      | zero =>
          simp only [List.set_cons_zero, List.map_cons, List.sum_cons, List.getD_cons_zero]
          omega
      | succ k =>
          have hlater := ih (Nat.lt_of_succ_lt_succ hk)
          simp only [List.set_cons_succ, List.map_cons, List.sum_cons, List.getD_cons_succ]
          omega

/-! ### The invariant -/

/-- What holds of the threads in each phase, when no client has been missed. -/
def Ready (thread : Nat → ClientThread) : StopPhase → Prop
  | .serving => True
  | .stopping remaining =>
      (∀ k ∈ remaining, thread k ≠ .erased) ∧ ∀ k, k ∉ remaining → (thread k).Settled
  | .joining => ∀ k, (thread k).Settled
  | .joined => ∀ k, thread k = .erased

structure Inv (bound : Nat) (this : ClientGroup) : Prop where
  regular : ∀ k reader, this.thread k = .running reader → reader.Regular
  ready : Ready this.thread this.phase
  weight : (this.threads.map ClientThread.weight).sum ≤ bound

variable {bound : Nat}

theorem started_inv (clients : List ManagedClient) :
    (started clients).Inv (clients.map fun client => client.m_feeds.length + 4).sum := by
  refine ⟨fun k reader h => ?_, trivial, ?_⟩
  · unfold ClientGroup.thread started at h
    rw [List.getD_eq_getElem?_getD, List.getElem?_map] at h
    cases hk : clients[k]? with
    | none =>
        rw [hk] at h
        cases h
    | some client =>
        rw [hk] at h
        cases h
  · rw [started, List.map_map]
    exact Nat.le_refl _

theorem Inv.mono (hinv : this.Inv bound) {larger : Nat} (h : bound ≤ larger) : this.Inv larger :=
  ⟨hinv.regular, hinv.ready, hinv.weight.trans h⟩

/-- A thread goes on. -/
theorem Inv.put (hinv : this.Inv bound) {k : Nat} {thread : ClientThread}
    (halive : this.thread k ≠ .erased)
    (hregular : ∀ reader, thread = .running reader → reader.Regular)
    (hsettled : (this.thread k).Settled → thread.Settled)
    (hover : ∀ remaining, this.phase = .stopping remaining → thread ≠ .erased)
    (hweight : thread.weight ≤ (this.thread k).weight) : (this.put k thread).Inv bound := by
  have hthread := thread_put k thread (lt_of_thread halive)
  have hstays (j : Nat) (h : (this.thread j).Settled) : ((this.put k thread).thread j).Settled := by
    rw [hthread]
    split
    next heq => exact hsettled (heq ▸ h)
    next => exact h
  refine ⟨fun j reader h => ?_, ?_, ?_⟩
  · rw [hthread] at h
    split at h
    next => exact hregular reader h
    next => exact hinv.regular j reader h
  · have hready := hinv.ready
    show Ready (this.put k thread).thread this.phase
    cases hphase : this.phase with
    | serving => trivial
    | stopping remaining =>
        rw [hphase] at hready
        refine ⟨fun j hj => ?_, fun j hj => hstays j (hready.2 j hj)⟩
        rw [hthread]
        split
        next => exact hover remaining hphase
        next => exact hready.1 j hj
    | joining =>
        rw [hphase] at hready
        exact fun j => hstays j (hready j)
    | joined =>
        rw [hphase] at hready
        exact absurd (hready k) halive
  · have hsum := sum_map_set ClientThread.weight thread .erased (lt_of_thread halive)
    have hold := hinv.weight
    change _ + (this.thread k).weight = _ at hsum
    show ((this.threads.set k thread).map ClientThread.weight).sum ≤ bound
    omega

theorem Inv.client (hinv : this.Inv bound) {k : Nat} {reader reader' : Reader} {event : ReaderEvent}
    (hthread : this.thread k = .running reader) (hnext : reader.next event = some reader') :
    (this.put k (.running reader')).Inv bound := by
  have hregular := hinv.regular k reader hthread
  refine hinv.put (by rw [hthread]; nofun) (fun later heq => ?_) (fun hsettled => ?_)
    (fun remaining _ => nofun) ?_
  · cases heq
    exact hregular.next hnext
  · rw [hthread] at hsettled
    exact (Reader.Settled.next hsettled hregular hnext).1
  · rw [hthread]
    show reader'.m_feeds.length + 4 ≤ reader.m_feeds.length + 4
    rw [Reader.next_feeds hnext]

theorem Inv.step (hinv : this.Inv bound) (h : this.step event = some (output, this'))
    (hmissed : ∀ k, output ≠ .missed k) : this'.Inv bound := by
  cases stepped_of_step h with
  | run k client hthread =>
      refine hinv.put (by rw [hthread]; nofun) (fun reader heq => ?_) (fun hsettled => ?_)
        (fun remaining _ => nofun) ?_
      · cases heq
        exact Reader.started_regular client
      · rw [hthread] at hsettled
        exact hsettled.elim
      · rw [hthread]
        exact Nat.le_refl _
  | client k event reader reader' hthread hne hnext => exact hinv.client hthread hnext
  | erase k reader hthread hreturned hfree =>
      exact hinv.put (by rw [hthread]; nofun) (fun reader => nofun) (fun _ => trivial)
        (fun remaining hphase => absurd hphase (hfree remaining)) (Nat.zero_le _)
  | stop order hphase horder =>
      refine ⟨hinv.regular, ⟨fun k hk => ?_, fun k hk => ?_⟩, hinv.weight⟩
      · exact (mem_alive k).mp (horder.mem_iff.mp hk)
      · have hover : this.thread k = .erased := by
          by_contra halive
          exact hk (horder.mem_iff.mpr ((mem_alive k).mpr halive))
        show (this.thread k).Settled
        rw [hover]
        trivial
  | missed k remaining client hphase hthread => exact absurd rfl (hmissed k)
  | scheduleStop k remaining reader reader' hphase hthread hnext =>
      have hput := hinv.client hthread hnext
      have hready : Ready (this.put k (.running reader')).thread this.phase := hput.ready
      rw [hphase] at hready
      refine ⟨hput.regular, ⟨fun j hj => hready.1 j (List.mem_cons_of_mem k hj), fun j hj => ?_⟩,
        hput.weight⟩
      -- Client `k` is stopped now; the others that do not remain were before.
      by_cases heq : k = j
      · show ((this.put k (.running reader')).thread j).Settled
        rw [thread_put _ _ (lt_of_running hthread), if_pos heq]
        exact Reader.settled_of_stop (hinv.regular k reader hthread) hnext
      · apply hready.2 j
        rw [List.mem_cons]
        exact fun hmem => hmem.elim (fun hself => heq hself.symm) hj
  | unlock hphase =>
      have hready := hinv.ready
      rw [hphase] at hready
      exact ⟨hinv.regular, fun k => hready.2 k List.not_mem_nil, hinv.weight⟩
  | join hphase hover =>
      refine ⟨hinv.regular, fun k => ?_, hinv.weight⟩
      show this.thread k = .erased
      by_contra halive
      apply halive
      unfold ClientGroup.thread
      rw [List.getD_eq_getElem?_getD, List.getElem?_eq_getElem (lt_of_thread halive)]
      exact hover _ (List.getElem_mem _)

/-! ### Progress -/

/-- The steps until `join_all` is over. -/
def work (this : ClientGroup) : Nat :=
  (this.threads.map ClientThread.work).sum + match this.phase with | .joining => 1 | _ => 0

theorem work_put {k : Nat} {thread : ClientThread} (halive : this.thread k ≠ .erased)
    (h : thread.work < (this.thread k).work) : (this.put k thread).work < this.work := by
  have hsum := sum_map_set ClientThread.work thread .erased (lt_of_thread halive)
  change _ + (this.thread k).work = _ at hsum
  unfold work
  show ((this.threads.set k thread).map ClientThread.work).sum + _ < _
  simp only [put]
  omega

theorem work_le_weight {thread : ClientThread}
    (h : ∀ reader, thread = .running reader → reader.Regular) : thread.work ≤ thread.weight := by
  cases thread with
  | created client => exact Nat.zero_le _
  | running reader => exact (h reader rfl).work_le
  | erased => exact Nat.le_refl _

theorem Inv.work_le (hinv : this.Inv bound) : this.work ≤ bound + 1 := by
  have hsum : (this.threads.map ClientThread.work).sum ≤
      (this.threads.map ClientThread.weight).sum := by
    apply List.sum_le_sum
    intro thread hmem
    obtain ⟨k, hk⟩ := List.mem_iff_getElem?.mp hmem
    have hthread : this.thread k = thread := by
      unfold ClientGroup.thread
      rw [List.getD_eq_getElem?_getD, hk]
      rfl
    exact work_le_weight fun reader heq => hinv.regular k reader (hthread.trans heq)
  have hweight := hinv.weight
  unfold work
  split <;> omega

/-- While `stop` joins the threads every step leaves less to do. -/
theorem work_step (hinv : this.Inv bound) (hphase : this.phase = .joining ∨ this.phase = .joined)
    (h : this.step event = some (output, this')) :
    this'.work < this.work ∧ (this'.phase = .joining ∨ this'.phase = .joined) ∧
      ∀ k, output ≠ .missed k := by
  have hsettled (k : Nat) : (this.thread k).Settled := by
    have hready := hinv.ready
    cases hphase with
    | inl hjoining =>
        rw [hjoining] at hready
        exact hready k
    | inr hjoined =>
        rw [hjoined] at hready
        rw [hready k]
        trivial
  cases stepped_of_step h with
  | run k client hthread =>
      have hno := hsettled k
      rw [hthread] at hno
      exact hno.elim
  | client k event reader reader' hthread hne hnext =>
      have hreader := hsettled k
      rw [hthread] at hreader
      refine ⟨work_put (by rw [hthread]; nofun) ?_, hphase, nofun⟩
      rw [hthread]
      exact (Reader.Settled.next hreader (hinv.regular k reader hthread) hnext).2 hne
  | erase k reader hthread hreturned hfree =>
      refine ⟨work_put (by rw [hthread]; nofun) ?_, hphase, nofun⟩
      rw [hthread]
      exact Nat.succ_pos _
  | stop order hserving horder =>
      rw [hserving] at hphase
      cases hphase with
      | inl hno => cases hno
      | inr hno => cases hno
  | missed k remaining client hstopping hthread =>
      rw [hstopping] at hphase
      cases hphase with
      | inl hno => cases hno
      | inr hno => cases hno
  | scheduleStop k remaining reader reader' hstopping hthread hnext =>
      rw [hstopping] at hphase
      cases hphase with
      | inl hno => cases hno
      | inr hno => cases hno
  | unlock hstopping =>
      rw [hstopping] at hphase
      cases hphase with
      | inl hno => cases hno
      | inr hno => cases hno
  | join hjoining hover =>
      refine ⟨?_, .inr rfl, nofun⟩
      unfold work
      rw [hjoining]
      exact Nat.lt_succ_self _

theorem length_le_work {events : List GroupEvent} {outputs : List GroupOutput}
    (hinv : this.Inv bound) (hphase : this.phase = .joining ∨ this.phase = .joined)
    (hrun : run step this events = some (outputs, this')) : events.length ≤ this.work := by
  induction events generalizing this outputs with
  | nil => exact Nat.zero_le _
  | cons event events ih =>
      obtain ⟨output, middle, outputs', hstep, hrest, rfl⟩ := run_cons hrun
      obtain ⟨hless, hlater, hmissed⟩ := work_step hinv hphase hstep
      have hrest := ih (hinv.step hstep hmissed) hlater hrest
      rw [List.length_cons]
      omega

/-- A client in its thread goes on without the network. -/
theorem client_moves {k : Nat} {reader : Reader} (hthread : this.thread k = .running reader)
    (h : ∃ event reader', (∀ index error response, event ≠ .dispatch index error response) ∧
      event ≠ .scheduleStop ∧ reader.next event = some reader') :
    ∃ event output this', event.external = false ∧ this.step event = some (output, this') := by
  obtain ⟨event, reader', hdispatch, hne, hnext⟩ := h
  refine ⟨.client k event, .client k event (reader.output event), this.put k (.running reader'),
    ?_, ?_⟩
  · cases event with
    | dispatch index error response => exact absurd rfl (hdispatch index error response)
    | _ => rfl
  · rw [step.eq_3 _ _ _ hne, hthread]
    simp only [Reader.step, hnext, Option.map_some]

/-- Until `stop` is over, the program itself can always take a step. -/
theorem Inv.moves (hinv : this.Inv bound) (hphase : this.phase ≠ .joined) :
    ∃ event output this', event.external = false ∧ this.step event = some (output, this') := by
  have hready := hinv.ready
  cases hcase : this.phase with
  | serving =>
      refine ⟨.stop this.alive, .quiet, { this with phase := .stopping this.alive }, rfl, ?_⟩
      rw [ClientGroup.step, hcase]
      exact if_pos (List.isPerm_iff.mpr (.refl _))
  | stopping remaining =>
      cases remaining with
      | nil => exact ⟨.unlock, .quiet, { this with phase := .joining }, rfl, by rw [ClientGroup.step, hcase]⟩
      | cons k remaining =>
          rw [hcase] at hready
          cases hthread : this.thread k with
          | created client =>
              exact ⟨.scheduleStop, .missed k, { this with phase := .stopping remaining }, rfl,
                by simp only [ClientGroup.step, hcase, hthread]⟩
          | running reader =>
              -- `scheduleStop` has to wait for the loop of the client.
              by_cases hidle : reader.visiting = none
              · obtain ⟨reader', hnext⟩ := Reader.stop_moves hidle
                refine ⟨.scheduleStop, .client k .scheduleStop (reader.output .scheduleStop),
                  { this.put k (.running reader') with phase := .stopping remaining }, rfl, ?_⟩
                simp only [ClientGroup.step, hcase, hthread, Reader.step, hnext, Option.map_some]
              · exact client_moves hthread (Reader.loop_moves hidle)
          | erased => exact absurd hthread (hready.1 k List.mem_cons_self)
  | joining =>
      rw [hcase] at hready
      by_cases hover : this.threads.all (·.isErased) = true
      · refine ⟨.join, .quiet, { this with phase := .joined }, rfl, ?_⟩
        rw [ClientGroup.step, hcase]
        exact if_pos hover
      · obtain ⟨k, hk⟩ : ∃ k, this.thread k ≠ .erased := by
          by_contra hall
          apply hover
          rw [List.all_eq_true]
          intro thread hmem
          obtain ⟨k, hk⟩ := List.mem_iff_getElem?.mp hmem
          rw [isErased_iff]
          by_contra hne
          refine hall ⟨k, ?_⟩
          unfold ClientGroup.thread
          rw [List.getD_eq_getElem?_getD, hk]
          exact hne
        have hsettled := hready k
        cases hthread : this.thread k with
        | created client =>
            rw [hthread] at hsettled
            exact hsettled.elim
        | running reader =>
            rw [hthread] at hsettled
            cases hreturned : reader.threads.returned with
            | true =>
                refine ⟨.erase k, .quiet, this.put k .erased, rfl, ?_⟩
                simp only [ClientGroup.step, hcase, hthread, hreturned, if_true]
            | false => exact client_moves hthread (Reader.Settled.moves hsettled hreturned)
        | erased => exact absurd hthread hk
  | joined => exact absurd hcase hphase

end

/-! ## What the clients have read -/

def readerSeen (k : Nat) : GroupOutput → Option (ReaderEvent × Reader.ReaderOutput)
  | .client l event output => if l = k then some (event, output) else none
  | _ => none

/-- What has happened to client `k`. -/
def readerInputs (k : Nat) (outputs : List GroupOutput) : List ReaderEvent :=
  inputsOf (fun output => (readerSeen k output).toList) outputs

def readerOutputs (k : Nat) (outputs : List GroupOutput) : List Reader.ReaderOutput :=
  outputsOf (fun output => (readerSeen k output).toList) outputs

/-- The thread has made the run that is seen of its client. -/
def Made (client : ManagedClient) (inputs : List ReaderEvent)
    (outputs : List Reader.ReaderOutput) : ClientThread → Prop
  | .created created => created = client ∧ inputs = [] ∧ outputs = []
  | .running reader => run Reader.step (.started client) inputs = some (outputs, reader)
  | .erased => ∃ reader, run Reader.step (.started client) inputs = some (outputs, reader) ∧
      reader.threads.returned = true

section

variable {this this' : ClientGroup} {event : GroupEvent} {output : GroupOutput}
  {outputs : List GroupOutput} {k : Nat} {client : ManagedClient}

theorem readerInputs_concat : readerInputs k (outputs ++ [output]) =
    readerInputs k outputs ++ ((readerSeen k output).toList).map Prod.fst := inputsOf_concat ..

theorem readerOutputs_concat : readerOutputs k (outputs ++ [output]) =
    readerOutputs k outputs ++ ((readerSeen k output).toList).map Prod.snd := outputsOf_concat ..

theorem made_unseen {thread : ClientThread}
    (h : Made client (readerInputs k outputs) (readerOutputs k outputs) thread)
    (hseen : readerSeen k output = none) :
    Made client (readerInputs k (outputs ++ [output])) (readerOutputs k (outputs ++ [output]))
      thread := by
  rw [readerInputs_concat, readerOutputs_concat, hseen]
  simp only [Option.toList_none, List.map_nil, List.append_nil]
  exact h

/-- A client that takes a step. -/
theorem made_client {l : Nat} {reader reader' : Reader} {event : ReaderEvent}
    (hthread : this.thread l = .running reader) (hnext : reader.next event = some reader')
    (h : Made client (readerInputs k outputs) (readerOutputs k outputs) (this.thread k)) :
    let seen := outputs ++ [.client l event (reader.output event)]
    Made client (readerInputs k seen) (readerOutputs k seen)
      ((this.put l (.running reader')).thread k) := by
  intro seen
  rw [thread_put _ _ (lt_of_running hthread)]
  by_cases heq : l = k
  · subst heq
    rw [if_pos rfl, readerInputs_concat, readerOutputs_concat]
    simp only [readerSeen, if_true]
    rw [hthread] at h
    have hstep : reader.step event = some (reader.output event, reader') := by
      rw [Reader.step, hnext]
      rfl
    exact run_append_step h hstep
  · rw [if_neg heq]
    exact made_unseen h (if_neg heq)

theorem made_step (h : this.step event = some (output, this'))
    (hmade : Made client (readerInputs k outputs) (readerOutputs k outputs) (this.thread k)) :
    Made client (readerInputs k (outputs ++ [output])) (readerOutputs k (outputs ++ [output]))
      (this'.thread k) := by
  cases stepped_of_step h with
  | run l created hthread =>
      apply made_unseen _ rfl
      rw [thread_put _ _ (lt_of_thread (by rw [hthread]; nofun))]
      split
      next heq =>
        subst heq
        rw [hthread] at hmade
        obtain ⟨rfl, hinputs, houtputs⟩ := hmade
        show run Reader.step _ _ = _
        rw [hinputs, houtputs]
        rfl
      next => exact hmade
  | client l event reader reader' hthread hne hnext => exact made_client hthread hnext hmade
  | erase l reader hthread hreturned hfree =>
      apply made_unseen _ rfl
      rw [thread_put _ _ (lt_of_running hthread)]
      split
      next heq =>
        subst heq
        rw [hthread] at hmade
        exact ⟨reader, hmade, hreturned⟩
      next => exact hmade
  | stop order hphase horder => exact made_unseen hmade rfl
  | missed l remaining created hphase hthread => exact made_unseen hmade rfl
  | scheduleStop l remaining reader reader' hphase hthread hnext =>
      exact made_client hthread hnext hmade
  | unlock hphase => exact made_unseen hmade rfl
  | join hphase hover => exact made_unseen hmade rfl

theorem run_made {clients : List ManagedClient} (hk : clients[k]? = some client)
    {events : List GroupEvent} (hrun : run step (started clients) events = some (outputs, this)) :
    Made client (readerInputs k outputs) (readerOutputs k outputs) (this.thread k) := by
  have hinit : Made client (readerInputs k []) (readerOutputs k []) ((started clients).thread k) := by
    have hthread : (started clients).thread k = .created client := by
      unfold ClientGroup.thread started
      rw [List.getD_eq_getElem?_getD, List.getElem?_map, hk]
      rfl
    rw [hthread]
    exact ⟨rfl, rfl, rfl⟩
  exact run_history (fun outputs later =>
      Made client (readerInputs k outputs) (readerOutputs k outputs) (later.thread k))
    (fun _ _ _ _ _ hmade (_ : True) hstep => made_step hstep hmade) [] hinit (fun _ _ => trivial)
    hrun

/-- A client whose `run` is over has given all it has read to all of its feeds. -/
theorem complete_of_returned (hnodup : client.m_feeds.Nodup) {inputs : List ReaderEvent}
    {seen : List Reader.ReaderOutput} {reader : Reader}
    (hrun : run Reader.step (.started client) inputs = some (seen, reader))
    (hreturned : reader.threads.returned = true) {n : Nat} (hn : n ∈ client.m_feeds) :
    Reader.visitsOf n seen = Reader.linesOf seen := by
  have hlog := Reader.Log.run hnodup hrun
  have hregular := (run_all Reader.Regular (fun _ => True)
    (fun _ _ _ _ h hstep => ⟨trivial, h.next (Reader.next_of_step hstep).1⟩)
    (Reader.started_regular client) hrun).2
  have hstep := hlog.inStep
  unfold Reader.InStep at hstep
  rw [hregular.idle hreturned] at hstep
  exact hstep n (hlog.feeds ▸ hn)

end

/-! ## Runs -/

section

variable {boost : BoostHash} {set : ClientManager.ClientSet boost}

theorem length_subscribeAll (set : ClientManager.ClientSet boost) (feeds : List Feed) :
    (ClientManager.subscribeAll set feeds).length ≤ feeds.length := by
  induction feeds using List.reverseRecOn with
  | nil => exact Nat.le_refl _
  | append_singleton feeds feed ih =>
      rw [ClientManager.subscribeAll_concat, List.length_append, List.length_singleton]
      rcases ClientManager.subscribe_cases set (ClientManager.subscribeAll set feeds) feeds.length
        feed with ⟨it, old, heq, -⟩ | ⟨heq, -⟩
      · rw [heq, List.length_modify]
        omega
      · rw [heq, List.length_modify, List.length_append, List.length_singleton]
        omega

theorem sum_weights (set : ClientManager.ClientSet boost) (feeds : List Feed) :
    ((ClientManager.subscribeAll set feeds).map fun client => client.m_feeds.length + 4).sum ≤
      5 * feeds.length := by
  have hsum (clients : List ManagedClient) :
      (clients.map fun client => client.m_feeds.length + 4).sum =
        (clients.flatMap (·.m_feeds)).length + 4 * clients.length := by
    induction clients with
    | nil => rfl
    | cons client clients ih =>
        rw [List.map_cons, List.sum_cons, ih, List.flatMap_cons, List.length_append, List.length_cons]
        omega
  have hfeeds := (ClientManager.subscribeAll_feeds set feeds).length_eq
  have hclients := length_subscribeAll set feeds
  rw [List.length_range] at hfeeds
  rw [hsum, hfeeds]
  omega

/-- If no client is still to begin when it is its turn, `stop` returns: until then the program can
always take a step, whatever the network does, and when the loop over the clients is over there are
at most five steps left for each feed.  A stop that is undone by the handler of an expired timer
makes no difference to that.  Every client that is gone by then, or before, has given each response
it has read to each of its feeds. -/
theorem stop_returns (feeds : List Feed) {events : List GroupEvent} {outputs : List GroupOutput}
    {this : ClientGroup}
    (hrun : run step (started (ClientManager.subscribeAll set feeds)) events =
      some (outputs, this)) (hbegun : ∀ k, GroupOutput.missed k ∉ outputs) :
    (this.phase ≠ .joined →
      ∃ event output this', event.external = false ∧ this.step event = some (output, this')) ∧
    (this.phase = .joining → ∀ later outputs' this', run step this later = some (outputs', this') →
      later.length ≤ 5 * feeds.length + 1 ∧
      ((∀ event, event.external = false → this'.step event = none) → this'.phase = .joined)) ∧
    ∀ (k : Nat) (client : ManagedClient),
      (ClientManager.subscribeAll set feeds)[k]? = some client → this.thread k = .erased →
        ∀ n ∈ client.m_feeds, Reader.visitsOf n (readerOutputs k outputs) =
          Reader.linesOf (readerOutputs k outputs) := by
  have hinv : this.Inv (5 * feeds.length) := by
    have hall := run_history (fun outputs later => (∀ k, GroupOutput.missed k ∉ outputs) →
        Inv (5 * feeds.length) later)
      (fun outputs later event output next hlater (_ : True) hstep hnone =>
        (hlater fun k hk => hnone k (List.mem_append_left _ hk)).step hstep
          fun k heq => hnone k (List.mem_append_right _ (List.mem_singleton.mpr heq.symm)))
      [] (fun _ => (started_inv _).mono (sum_weights set feeds)) (fun _ _ => trivial) hrun
    exact hall hbegun
  refine ⟨hinv.moves, fun hphase later outputs' this' hlater => ⟨?_, fun hstuck => ?_⟩,
    fun k client hk herased n hn => ?_⟩
  · exact (length_le_work hinv (.inl hphase) hlater).trans hinv.work_le
  · obtain ⟨-, hend, -⟩ := run_all (fun later => Inv (5 * feeds.length) later ∧
        (later.phase = .joining ∨ later.phase = .joined)) (fun _ => True)
      (fun later event output next hlater hstep => by
        obtain ⟨-, hnext, hmissed⟩ := work_step hlater.1 hlater.2 hstep
        exact ⟨trivial, hlater.1.step hstep hmissed, hnext⟩) ⟨hinv, .inl hphase⟩ hlater
    by_contra hne
    obtain ⟨event, output, next, hinternal, hstep⟩ := hend.moves hne
    rw [hstuck event hinternal] at hstep
    cases hstep
  · have hmade := run_made hk hrun
    rw [herased] at hmade
    obtain ⟨reader, hreader, hreturned⟩ := hmade
    exact complete_of_returned (ClientManager.feeds_nodup (List.mem_of_getElem? hk)) hreader
      hreturned hn

end

/-- Two feeds of one client, which is stopped while it reads. -/
theorem stop_returns_two_feeds :
    ∃ outputs this, run step
      (started (ClientManager.subscribeAll
        (.preferring fun _ => false : ClientManager.ClientSet ClientManager.boostHash)
        [{ protocol := .SENSOR, endpoint := ⟨[], []⟩ }, { protocol := .SENSOR, endpoint := ⟨[], []⟩ }]))
      [.run 0, .client 0 (.dispatch 0 .SUCCESS []), .client 0 .locked, .stop [0],
        .client 0 (.dispatch 1 .SUCCESS (str "A")), .scheduleStop, .unlock] =
        some (outputs, this) ∧ this.phase = .joining ∧
      ∀ later outputs' this', run step this later = some (outputs', this') →
        later.length ≤ 11 ∧
        ((∀ event, event.external = false → this'.step event = none) → this'.phase = .joined) := by
  obtain ⟨outputs, this, hrun, hphase, hbegun⟩ : ∃ outputs this, run step
      (started (ClientManager.subscribeAll
        (.preferring fun _ => false : ClientManager.ClientSet ClientManager.boostHash)
        [{ protocol := .SENSOR, endpoint := ⟨[], []⟩ }, { protocol := .SENSOR, endpoint := ⟨[], []⟩ }]))
      [.run 0, .client 0 (.dispatch 0 .SUCCESS []), .client 0 .locked, .stop [0],
        .client 0 (.dispatch 1 .SUCCESS (str "A")), .scheduleStop, .unlock] =
        some (outputs, this) ∧ this.phase = .joining ∧ ∀ k, GroupOutput.missed k ∉ outputs :=
    ⟨_, _, rfl, rfl, by simp⟩
  exact ⟨outputs, this, hrun, hphase, (stop_returns _ hrun hbegun).2.1 hphase⟩

end ClientGroup

end VirtualFlightRadar
