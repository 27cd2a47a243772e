import VirtualFlightRadar.Client.Reader

/-!
# The lines a client gives to its feeds

Every feed of a client processes every response the client reads, once, and in the order in which
they are read.  When a feed has stopped the client, the feeds behind it still process the response of
that loop, and no other one follows.
-/

open Cxx

namespace VirtualFlightRadar

namespace Reader

/-- The responses whose loops have started. -/
def linesOf (outputs : List ReaderOutput) : List Bytes := outputs.filterMap (·.line)

def visitOf (n : Nat) (output : ReaderOutput) : Option Bytes :=
  match output.visit with
  | some (feed, response) => if feed = n then some response else none
  | none => none

theorem visitOf_none {output : ReaderOutput} (h : output.visit = none) (n : Nat) :
    visitOf n output = none := by
  unfold visitOf
  rw [h]

theorem visitOf_some {output : ReaderOutput} {m : Nat} {response : Bytes}
    (h : output.visit = some (m, response)) (n : Nat) :
    visitOf n output = if m = n then some response else none := by
  unfold visitOf
  rw [h]

/-- The responses that a feed has processed. -/
def visitsOf (n : Nat) (outputs : List ReaderOutput) : List Bytes := outputs.filterMap (visitOf n)

theorem linesOf_concat (outputs : List ReaderOutput) (output : ReaderOutput) :
    linesOf (outputs ++ [output]) = linesOf outputs ++ output.line.toList := by
  rw [linesOf, List.filterMap_append]
  cases hline : output.line with
  | none => rw [List.filterMap_cons_none hline]; rfl
  | some line => rw [List.filterMap_cons_some hline]; rfl

theorem visitsOf_concat (n : Nat) (outputs : List ReaderOutput) (output : ReaderOutput) :
    visitsOf n (outputs ++ [output]) = visitsOf n outputs ++ (visitOf n output).toList := by
  rw [visitsOf, List.filterMap_append]
  cases hvisit : visitOf n output with
  | none => rw [List.filterMap_cons_none hvisit]; rfl
  | some response => rw [List.filterMap_cons_some hvisit]; rfl

/-- An output in which no feed is visited and no loop starts. -/
def Quiet (output : ReaderOutput) : Prop := output.line = none ∧ output.visit = none

theorem Quiet.linesOf {output : ReaderOutput} (h : Quiet output) (outputs : List ReaderOutput) :
    Reader.linesOf (outputs ++ [output]) = Reader.linesOf outputs := by
  rw [linesOf_concat, h.1]
  exact List.append_nil _

theorem Quiet.visitsOf {output : ReaderOutput} (h : Quiet output) (n : Nat)
    (outputs : List ReaderOutput) :
    Reader.visitsOf n (outputs ++ [output]) = Reader.visitsOf n outputs := by
  rw [visitsOf_concat, visitOf_none h.2]
  exact List.append_nil _

/-! ## One event -/

/-- What an event does to the loop of a client. -/
inductive Loop (this : Reader) (event : ReaderEvent) (this' : Reader) : Prop where
  | idle (hvisiting : this.visiting = none) (hafter : this'.visiting = none)
      (hquiet : Quiet (this.output event))
  | begins (hvisiting : this.visiting = none) (hreads : this.Reads)
      (hafter : this'.visiting = some { remaining := this.m_feeds })
      (hresponse : this'.response = this.response)
      (hline : (this.output event).line = some this.response)
      (hvisit : (this.output event).visit = none)
  | visits (returned : List Bool) (valid : Bool) (n : Nat) (remaining : List Nat)
      (hvisiting : this.visiting = some ⟨returned, n :: remaining⟩)
      (hafter : this'.visiting = some ⟨returned ++ [valid], remaining⟩)
      (hresponse : this'.response = this.response)
      (hline : (this.output event).line = none)
      (hvisit : (this.output event).visit = some (n, this.response))
  | ends (returned : List Bool) (hvisiting : this.visiting = some ⟨returned, []⟩)
      (hafter : this'.visiting = none) (hquiet : Quiet (this.output event))

/-- In a loop: the handler it belongs to still counts as called, and nobody else changes the state of
the client. -/
structure Engaged (this : Reader) : Prop where
  called : this.visiting ≠ none → this.threads.called ≠ none
  state : this.visiting ≠ none →
    this.threads.client.m_state = .RUNNING ∨ this.threads.client.m_state = .STOPPING

theorem Engaged.of_idle {this : Reader} (h : this.visiting = none) : this.Engaged :=
  ⟨fun hne => absurd h hne, fun hne => absurd h hne⟩

section

variable {this this' : Reader} {event : ReaderEvent}

theorem called_visited (threads : ClientThreads) (valid : Bool) :
    (visited threads valid).called = threads.called := by
  unfold visited
  cases valid <;> rfl

theorem stop_stopping {client : Client} (h : client.m_state = .RUNNING ∨ client.m_state = .STOPPING) :
    client.stop.m_state = .STOPPING := by
  cases h with
  | inl hrunning => exact Client.stop_state (.inl hrunning)
  | inr hstopping => rw [Client.stop_of_stopping hstopping, hstopping]

theorem state_visited {threads : ClientThreads}
    (h : threads.client.m_state = .RUNNING ∨ threads.client.m_state = .STOPPING) (valid : Bool) :
    (visited threads valid).client.m_state = .RUNNING ∨
      (visited threads valid).client.m_state = .STOPPING := by
  cases valid with
  | true => exact h
  | false => exact .inr (stop_stopping h)

theorem next_feeds (h : this.next event = some this') : this'.m_feeds = this.m_feeds := by
  unfold next at h
  split at h
  · obtain ⟨threads, -, rfl⟩ := Option.map_eq_some_iff.mp h
    rfl
  · split at h
    · cases h
    · split at h
      · cases h
        rfl
      · obtain ⟨threads, -, rfl⟩ := Option.map_eq_some_iff.mp h
        rfl
  · split at h
    · cases h
      rfl
    · cases h
  · split at h
    · cases h
      rfl
    · cases h
  · split at h
    · cases h
    · obtain ⟨threads, -, rfl⟩ := Option.map_eq_some_iff.mp h
      rfl
  · obtain ⟨threads, -, rfl⟩ := Option.map_eq_some_iff.mp h
    rfl

/-- While the loop runs, neither the connector calls a handler nor does `run` end. -/
theorem called_of_free (h : this.Engaged) (hcalled : this.threads.called = none) :
    this.visiting = none := by
  by_contra hne
  exact h.called hne hcalled

theorem next_loop (hengaged : this.Engaged) (h : this.next event = some this') :
    Loop this event this' ∧ this'.Engaged := by
  cases event with
  | dispatch index error response =>
      obtain ⟨threads, hnext, rfl⟩ := Option.map_eq_some_iff.mp h
      have hidle := called_of_free hengaged (next_dispatch hnext []).2
      exact ⟨.idle hidle hidle ⟨rfl, rfl⟩, .of_idle hidle⟩
  | locked =>
      rw [next] at h
      split at h
      · cases h
      · rename_i hidle
        split at h
        · rename_i hreads
          cases h
          obtain ⟨⟨processed, hcalled⟩, hrunning⟩ := this.reads_iff.mp hreads
          refine ⟨.begins hidle (this.reads_iff.mp hreads) rfl rfl ?_ rfl, fun _ => ?_, fun _ => ?_⟩
          · show (if this.reads then some this.response else none) = some this.response
            rw [if_pos hreads]
          · show this.threads.called ≠ none
            rw [hcalled]
            exact Option.some_ne_none _
          · exact .inl hrunning
        · rename_i hreads
          obtain ⟨threads, hnext, rfl⟩ := Option.map_eq_some_iff.mp h
          refine ⟨.idle hidle hidle ⟨?_, rfl⟩, .of_idle hidle⟩
          show (if this.reads then some this.response else none) = none
          rw [if_neg hreads]
  | processed valid =>
      rw [next] at h
      split at h
      · rename_i returned n remaining hvisiting
        cases h
        have hloop : this.visiting ≠ none := by
          rw [hvisiting]
          exact Option.some_ne_none _
        refine ⟨.visits returned valid n remaining hvisiting rfl rfl rfl ?_, fun _ => ?_, fun _ => ?_⟩
        · show (do return (← (← this.visiting).remaining.head?, this.response)) = _
          rw [hvisiting]
          rfl
        · show (visited this.threads valid).called ≠ none
          rw [called_visited]
          exact hengaged.called hloop
        · exact state_visited (hengaged.state hloop) valid
      · cases h
  | finish =>
      rw [next] at h
      split at h
      · rename_i returned hvisiting
        cases h
        exact ⟨.ends returned hvisiting rfl ⟨rfl, rfl⟩, .of_idle rfl⟩
      · cases h
  | scheduleStop =>
      rw [next] at h
      split at h
      · cases h
      · rename_i hidle
        cases h
        exact ⟨.idle hidle hidle ⟨rfl, rfl⟩, .of_idle hidle⟩
  | returned =>
      obtain ⟨threads, hnext, rfl⟩ := Option.map_eq_some_iff.mp h
      have hcalled : this.threads.called = none := by
        rcases ClientThreads.next_cases hnext with ⟨delivery, operation, hno, -⟩ |
          ⟨handler, hno, -⟩ | ⟨hno, -⟩ | ⟨-, hcalled, -⟩
        · cases hno
        · cases hno
        · cases hno
        · exact hcalled
      have hidle := called_of_free hengaged hcalled
      exact ⟨.idle hidle hidle ⟨rfl, rfl⟩, .of_idle hidle⟩

end

/-! ## Every feed, every line -/

/-- The feeds are at the same line, but for those that the running loop has still to visit, which
are one line behind. -/
def InStep (outputs : List ReaderOutput) (this : Reader) : Prop :=
  match this.visiting with
  | none => ∀ n ∈ this.m_feeds, visitsOf n outputs = linesOf outputs
  | some visit => ∃ earlier done, linesOf outputs = earlier ++ [this.response] ∧
      this.m_feeds = done ++ visit.remaining ∧
      (∀ n ∈ done, visitsOf n outputs = linesOf outputs) ∧
      ∀ n ∈ visit.remaining, visitsOf n outputs = earlier

theorem inStep_next {this this' : Reader} {event : ReaderEvent} {outputs : List ReaderOutput}
    (hnodup : this.m_feeds.Nodup) (hengaged : this.Engaged) (h : this.next event = some this')
    (hstep : InStep outputs this) : InStep (outputs ++ [this.output event]) this' := by
  have hfeeds := next_feeds h
  unfold InStep at hstep ⊢
  cases (next_loop hengaged h).1 with
  | idle hvisiting hafter hquiet =>
      rw [hvisiting] at hstep
      rw [hafter, hfeeds, hquiet.linesOf]
      intro n hn
      rw [hquiet.visitsOf]
      exact hstep n hn
  | begins hvisiting hreads hafter hresponse hline hvisit =>
      rw [hvisiting] at hstep
      rw [hafter, hfeeds, hresponse, linesOf_concat, hline]
      refine ⟨linesOf outputs, [], rfl, rfl, fun n hn => ?_, fun n hn => ?_⟩
      · cases hn
      · rw [visitsOf_concat, visitOf_none hvisit, Option.toList_none, List.append_nil]
        exact hstep n hn
  | visits returned valid n remaining hvisiting hafter hresponse hline hvisit =>
      rw [hvisiting] at hstep
      obtain ⟨earlier, done, hlines, hsplit, hdone, hremaining⟩ := hstep
      rw [hafter, hfeeds, hresponse, linesOf_concat, hline]
      simp only [Option.toList_none, List.append_nil]
      rw [hsplit, List.nodup_append, List.nodup_cons] at hnodup
      obtain ⟨-, ⟨hnew, -⟩, hapart⟩ := hnodup
      -- A feed other than the one that is visited sees nothing.
      have hother (m : Nat) (hne : n ≠ m) :
          visitsOf m (outputs ++ [this.output event]) = visitsOf m outputs := by
        rw [visitsOf_concat, visitOf_some hvisit, if_neg hne]
        exact List.append_nil _
      refine ⟨earlier, done ++ [n], hlines, ?_, fun m hm => ?_, fun m hm => ?_⟩
      · rw [hsplit, List.append_assoc]
        rfl
      · cases List.mem_append.mp hm with
        | inl hold =>
            rw [hother m fun heq => hapart m hold n List.mem_cons_self heq.symm]
            exact hdone m hold
        | inr hself =>
            obtain rfl := List.mem_singleton.mp hself
            rw [visitsOf_concat, visitOf_some hvisit, hlines, hremaining m List.mem_cons_self,
              if_pos rfl]
            rfl
      · rw [hother m fun heq => hnew (heq ▸ hm)]
        exact hremaining m (List.mem_cons_of_mem n hm)
  | ends returned hvisiting hafter hquiet =>
      rw [hvisiting] at hstep
      obtain ⟨earlier, done, hlines, hsplit, hdone, -⟩ := hstep
      rw [hafter, hfeeds, hquiet.linesOf, hsplit, List.append_nil]
      intro n hn
      rw [hquiet.visitsOf]
      exact hdone n hn

/-! ## After a stop -/

/-- The connector is stopped, and no handler waits but the one of the running loop. -/
structure Halted (this : Reader) : Prop where
  stopped : this.threads.stopped = true
  free : this.visiting = none → this.threads.called = none

section

variable {this this' : Reader} {event : ReaderEvent}

/-- A feed that returns `false` halts the client. -/
theorem halted_of_false (hengaged : this.Engaged) (h : this.next (.processed false) = some this') :
    this'.Halted := by
  rw [next] at h
  split at h
  · rename_i returned n remaining hvisiting
    cases h
    have hstop := stop_stopping (hengaged.state (by rw [hvisiting]; exact Option.some_ne_none _))
    refine ⟨?_, fun hno => ?_⟩
    · show (this.threads.stopped || decide (this.threads.client.stop.m_state = .STOPPING)) = true
      rw [hstop]
      exact Bool.or_true _
    · cases hno
  · cases h

/-- A client that is halted stays so, and no loop starts. -/
theorem Halted.next (hhalted : this.Halted) (h : this.next event = some this') :
    this'.Halted ∧ (this.output event).line = none ∧ this'.response = this.response := by
  obtain ⟨hstopped, hfree⟩ := hhalted
  cases event with
  | dispatch index error response =>
      obtain ⟨threads, hnext, rfl⟩ := Option.map_eq_some_iff.mp h
      rcases ClientThreads.next_cases hnext with ⟨delivery, operation, -, -, hrunning, -⟩ |
        ⟨handler, hno, -⟩ | ⟨hno, -⟩ | ⟨hno, -⟩
      · exact absurd (hstopped.symm.trans hrunning) (by decide)
      · cases hno
      · cases hno
      · cases hno
  | locked =>
      -- Nothing is called that could get the mutex.
      rw [Reader.next] at h
      split at h
      · cases h
      · rename_i hidle
        have hcalled := hfree hidle
        have hreads : this.reads = false := by
          unfold reads
          rw [hcalled]
        rw [hreads] at h
        obtain ⟨threads, hnext, rfl⟩ := Option.map_eq_some_iff.mp h
        rw [ClientThreads.next, hcalled] at hnext
        cases hnext
  | processed valid =>
      rw [Reader.next] at h
      split at h
      · cases h
        refine ⟨⟨?_, fun hno => ?_⟩, rfl, rfl⟩
        · cases valid with
          | true => exact hstopped
          | false =>
              show (this.threads.stopped || _) = true
              rw [hstopped, Bool.true_or]
        · cases hno
      · cases h
  | finish =>
      rw [Reader.next] at h
      split at h
      · cases h
        refine ⟨⟨?_, fun _ => rfl⟩, rfl, rfl⟩
        show (this.threads.stopped || _) = true
        rw [hstopped, Bool.true_or]
      · cases h
  | scheduleStop =>
      rw [Reader.next] at h
      split at h
      · cases h
      · rename_i hidle
        cases h
        refine ⟨⟨?_, fun _ => hfree hidle⟩, rfl, rfl⟩
        show (this.threads.stopped || _) = true
        rw [hstopped, Bool.true_or]
  | returned =>
      obtain ⟨threads, hnext, rfl⟩ := Option.map_eq_some_iff.mp h
      rcases ClientThreads.next_cases hnext with ⟨delivery, operation, hno, -⟩ | ⟨handler, hno, -⟩ |
        ⟨hno, -⟩ | ⟨-, hcalled, -, rfl⟩
      · cases hno
      · cases hno
      · cases hno
      · exact ⟨⟨hstopped, fun _ => hcalled⟩, rfl, rfl⟩

end

/-! ## Runs -/

/-- What holds of a client and what is seen of it. -/
structure Log (client : ManagedClient) (outputs : List ReaderOutput) (this : Reader) : Prop where
  feeds : this.m_feeds = client.m_feeds
  engaged : this.Engaged
  inStep : InStep outputs this
  foreign : ∀ n, n ∉ client.m_feeds → visitsOf n outputs = []

/-- Only feeds of the client are visited. -/
theorem visit_mem {this this' : Reader} {event : ReaderEvent} {outputs : List ReaderOutput}
    (hengaged : this.Engaged) (hstep : InStep outputs this) (h : this.next event = some this')
    {n : Nat} (hn : n ∉ this.m_feeds) : visitOf n (this.output event) = none := by
  cases (next_loop hengaged h).1 with
  | idle hvisiting hafter hquiet => exact visitOf_none hquiet.2 n
  | begins hvisiting hreads hafter hresponse hline hvisit => exact visitOf_none hvisit n
  | visits returned valid m remaining hvisiting hafter hresponse hline hvisit =>
      unfold InStep at hstep
      rw [hvisiting] at hstep
      obtain ⟨earlier, done, -, hsplit, -, -⟩ := hstep
      rw [visitOf_some hvisit, if_neg]
      rintro rfl
      apply hn
      rw [hsplit]
      exact List.mem_append_right _ List.mem_cons_self
  | ends returned hvisiting hafter hquiet => exact visitOf_none hquiet.2 n

theorem Log.run {client : ManagedClient} (hnodup : client.m_feeds.Nodup) {events : List ReaderEvent}
    {outputs : List ReaderOutput} {this : Reader}
    (hrun : run step (started client) events = some (outputs, this)) : Log client outputs this := by
  have hinit : Log client [] (started client) :=
    ⟨rfl, .of_idle rfl, fun n hn => rfl, fun n hn => rfl⟩
  refine run_history (Log client) (fun outputs this event output this' hlog (_ : True) hstep => ?_)
    [] hinit (fun _ _ => trivial) hrun
  obtain ⟨hnext, rfl⟩ := next_of_step hstep
  refine ⟨(next_feeds hnext).trans hlog.feeds, (next_loop hlog.engaged hnext).2,
    inStep_next (hlog.feeds ▸ hnodup) hlog.engaged hnext hlog.inStep, fun n hn => ?_⟩
  rw [visitsOf_concat, hlog.foreign n hn,
    visit_mem hlog.engaged hlog.inStep hnext (hlog.feeds ▸ hn)]
  rfl

/-- A visit gets the response of the client. -/
theorem visit_response {this : Reader} {event : ReaderEvent} {n : Nat} {response : Bytes}
    (h : (this.output event).visit = some (n, response)) : response = this.response := by
  cases event with
  | processed valid =>
      rw [output] at h
      simp only [Option.bind_eq_bind, Option.bind_eq_some_iff] at h
      obtain ⟨visit, -, m, -, heq⟩ := h
      cases heq
      rfl
  | _ => cases h

/-- From the halt on no loop starts, and the feeds that are still visited get the same response. -/
theorem Halted.run {this this' : Reader} (hhalted : this.Halted) {events : List ReaderEvent}
    {outputs : List ReaderOutput} (hrun : run step this events = some (outputs, this')) :
    (∀ output ∈ outputs, output.line = none ∧
      ∀ n response, output.visit = some (n, response) → response = this.response) ∧
    this'.Halted ∧ this'.response = this.response := by
  refine run_all (fun later => Halted later ∧ later.response = this.response) _
    (fun later event output next hlater hstep => ?_) ⟨hhalted, rfl⟩ hrun
  obtain ⟨hlate, hresponse⟩ := hlater
  obtain ⟨hnext, rfl⟩ := next_of_step hstep
  obtain ⟨hhalted', hline, hresponse'⟩ := hlate.next hnext
  refine ⟨⟨hline, fun n response hvisit => ?_⟩, hhalted', hresponse'.trans hresponse⟩
  exact (visit_response hvisit).trans hresponse

end Reader

end VirtualFlightRadar
