import VirtualFlightRadar.Client.Lines
import VirtualFlightRadar.Client.Subscription
import VirtualFlightRadar.System.System

/-!
# From the clients to the feeds

Every feed is with one client and processes every line that client reads, once and in order,
whatever the other threads do meanwhile.  No visit of a feed is ever undefined.
-/

open Cxx

namespace VirtualFlightRadar

namespace System

open ClientManager Reader

variable {boost : BoostHash} {set : ClientSet boost} {env : Installation}

/-! ## The updates of the stores -/

/-- The line of some feed asks for the update. -/
def Delivered (env : Installation) (o : Observed) (act : Act) : Prop :=
  ∃ k n feed reading valid event, o = .processed k n reading valid (some (act, event)) ∧
    env.feeds[n]? = some feed ∧ feed.act env.parsers reading = some act

section

variable {s s' : System} {o : Observed} {event : SystemEvent}

/-- The serving thread reads the stores; what is written comes from a line. -/
theorem step_act (h : s.step env event = some (o, s')) {act : Act} {shown : Event}
    (hseen : vfrbSeen o = some (act, shown)) :
    (act.serving = true ∧ o = .served act shown) ∨ act = .send ∨ Delivered env o act := by
  cases step_cases h with
  | served act' event vfrb hserving hstep =>
      cases hseen
      exact .inl ⟨hserving, rfl⟩
  | sent outcome event vfrb writes m_server hstep hsend =>
      cases hseen
      exact .inr (.inl rfl)
  | server op writes m_server hop hstep => cases hseen
  | client k event output reader reader' hevent hk hstep => cases hseen
  | processed k clock utc reader reader' n feed valid vfrb hprocessed =>
      have hstored := DataFeed.process_stored (m := env.m) hprocessed.process
      rw [vfrbSeen] at hseen
      rw [hseen] at hstored ⊢
      exact .inr (.inr ⟨k, n, feed, _, valid, shown, rfl, hprocessed.subscribed, hstored.1⟩)

theorem serving_fresh {act : Act} (h : act.serving = true) : act.Fresh := by
  cases act with
  | updateAircraft aircraft => cases h
  | _ => exact trivial

theorem updates_fresh {act : Act} (h : DataFeed.Updates act) : act.Fresh := by
  cases act with
  | updateAircraft aircraft => exact h
  | _ => exact trivial

theorem Delivered.updates {act : Act} (h : Delivered env o act) : DataFeed.Updates act := by
  obtain ⟨k, n, feed, reading, valid, event, -, -, hact⟩ := h
  exact DataFeed.updates_of_act hact

/-- What is seen of the stores at a step, as the runs of the stores have it. -/
def Sourced (env : Installation) (o : Observed) : Prop :=
  ∀ act shown, vfrbSeen o = some (act, shown) →
    (act.serving = true ∧ o = .served act shown) ∨ act = .send ∨ Delivered env o act

end

section

variable {s s' : System} {events : List SystemEvent} {os : List Observed}

theorem run_sourced (hrun : run (step env) s events = some (os, s')) : ∀ o ∈ os, Sourced env o :=
  (run_all (fun _ => True) (Sourced env)
    (fun _ _ _ _ _ hstep => ⟨fun _ _ hseen => step_act hstep hseen, trivial⟩) trivial hrun).1

theorem mem_actsOf {act : Act} (h : act ∈ actsOf os) :
    ∃ o ∈ os, ∃ shown, vfrbSeen o = some (act, shown) := by
  unfold actsOf inputsOf at h
  obtain ⟨⟨_, shown⟩, hmem, rfl⟩ := List.mem_map.mp h
  obtain ⟨o, ho, hseen⟩ := List.mem_flatMap.mp hmem
  exact ⟨o, ho, shown, Option.mem_toList.mp hseen⟩

theorem acts_fresh (hrun : run (step env) s events = some (os, s')) :
    ∀ act ∈ actsOf os, act.Fresh := by
  intro act hact
  obtain ⟨o, ho, shown, hseen⟩ := mem_actsOf hact
  rcases run_sourced hrun o ho act shown hseen with hserved | rfl | hdelivered
  · exact serving_fresh hserved.1
  · exact trivial
  · exact updates_fresh hdelivered.updates

/-- The stores keep their invariant. -/
theorem run_stores (hrun : run (step env) (started set env) events = some (os, s)) :
    VFRB.Inv env.m env.maxDistance (History.ofEvents (storeEventsOf os)) s.vfrb :=
  run_history (fun events s => VFRB.Inv env.m env.maxDistance (History.ofEvents events) s)
    (fun events s act event s' hinv hact hstep => by
      rw [History.ofEvents_concat]
      exact hinv.step hact hstep)
    [] (VFRB.Inv.init env.m env.maxDistance env.atmPressure env.position env.groundMode env.utc)
    (acts_fresh hrun) (run_vfrb hrun)

/-! ## The clients -/

/-- The feeds of client `k`, as they were subscribed. -/
abbrev subscribed (set : ClientSet boost) (env : Installation) : List ManagedClient :=
  subscribeAll set (env.feeds.map (·.toFeed))

/-- A client of the running program, with the run that is seen of it. -/
structure Reached (set : ClientSet boost) (env : Installation) (os : List Observed) (k : Nat)
    (client : ManagedClient) (reader : Reader) : Prop where
  entry : (subscribed set env)[k]? = some client
  run : run Reader.step (Reader.started client) (readerEventsOf k os) =
    some (readerOutputsOf k os, reader)

theorem run_started {k : Nat} {client : ManagedClient}
    (hrun : run (step env) (started set env) events = some (os, s))
    (hclient : (subscribed set env)[k]? = some client) :
    ∃ reader, s.m_clients[k]? = some reader ∧ Reached set env os k client reader := by
  have hk : (started set env).m_clients[k]? = some (Reader.started client) := by
    show ((subscribed set env).map Reader.started)[k]? = _
    rw [List.getElem?_map, hclient]
    rfl
  obtain ⟨reader, hreader, hend⟩ := run_reader hk hrun
  exact ⟨reader, hend, hclient, hreader⟩

theorem run_reached {k : Nat} {reader : Reader}
    (hrun : run (step env) (started set env) events = some (os, s))
    (hk : s.m_clients[k]? = some reader) : ∃ client, Reached set env os k client reader := by
  have hinit : (started set env).m_clients.length = (subscribed set env).length := List.length_map _
  have hlength : s.m_clients.length = (subscribed set env).length :=
    (run_all (fun s => s.m_clients.length = (subscribed set env).length) (fun _ => True)
      (fun _ _ _ _ hs hstep => ⟨trivial, (step_length hstep).trans hs⟩) hinit hrun).2
  obtain ⟨client, hclient⟩ : ∃ client, (subscribed set env)[k]? = some client := by
    rw [← Option.isSome_iff_exists, isSome_getElem?, ← hlength]
    exact (List.getElem?_eq_some_iff.mp hk).1
  obtain ⟨reader', hreader', hreached⟩ := run_started hrun hclient
  cases hk.symm.trans hreader'
  exact ⟨client, hreached⟩

theorem Reached.log {k : Nat} {client : ManagedClient} {reader : Reader}
    (h : Reached set env os k client reader) : Log client (readerOutputsOf k os) reader :=
  .run (feeds_nodup (List.mem_of_getElem? h.entry)) h.run

end

/-! ## Visits -/

/-- The lines that feed `n` has processed, whichever client visited it. -/
def processedBy (n : Nat) (os : List Observed) : List Bytes :=
  os.filterMap fun o => match o with
    | .processed _ m reading _ _ => if m = n then some reading.response else none
    | _ => none

/-- The lines that client `k` has read for its feeds. -/
def linesRead (k : Nat) (os : List Observed) : List Bytes := linesOf (readerOutputsOf k os)

theorem readerOutputsOf_cons (k : Nat) (o : Observed) (os : List Observed) :
    readerOutputsOf k (o :: os) =
      (readerSeen k o).toList.map Prod.snd ++ readerOutputsOf k os :=
  outputsOf_cons (fun o => (readerSeen k o).toList) o os

/-- The lines of a feed are those of the one client that visits it. -/
theorem processedBy_eq {k n : Nat} {os : List Observed}
    (hclient : ∀ l reading valid stored, Observed.processed l n reading valid stored ∈ os → l = k)
    (hquiet : ∀ o ∈ os, ∀ l event output, o = .client l event output → output.visit = none) :
    processedBy n os = visitsOf n (readerOutputsOf k os) := by
  induction os with
  | nil => rfl
  | cons o os ih =>
      have hrest := ih (fun l reading valid stored hmem => hclient l reading valid stored
        (List.mem_cons_of_mem o hmem)) (fun o' ho' => hquiet o' (List.mem_cons_of_mem o ho'))
      rw [readerOutputsOf_cons, visitsOf, List.filterMap_append]
      show processedBy n (o :: os) = _ ++ visitsOf n (readerOutputsOf k os)
      rw [← hrest]
      cases o with
      | processed l m reading valid stored =>
          by_cases hm : m = n
          · subst hm
            obtain rfl := hclient l reading valid stored List.mem_cons_self
            rw [readerSeen, if_pos rfl]
            simp [processedBy, visitOf]
          · by_cases hl : l = k
            · rw [readerSeen, if_pos hl]
              simp [processedBy, visitOf, hm]
            · rw [readerSeen, if_neg hl]
              simp [processedBy, hm]
      | client l event output =>
          have hnone := hquiet _ List.mem_cons_self l event output rfl
          by_cases hl : l = k
          · rw [readerSeen, if_pos hl]
            simp [processedBy, visitOf, hnone]
          · rw [readerSeen, if_neg hl]
            simp [processedBy]
      | served act event => simp [processedBy, readerSeen]
      | sent event op writes => simp [processedBy, readerSeen]
      | server op writes => simp [processedBy, readerSeen]

section

variable {s s' : System} {events : List SystemEvent} {os : List Observed}

/-- Feeds are visited by `process` alone. -/
theorem run_quiet (hrun : run (step env) s events = some (os, s')) :
    ∀ o ∈ os, ∀ l event output, o = .client l event output → output.visit = none := by
  refine (run_all (fun _ => True) _ (fun s event o s' _ hstep => ⟨?_, trivial⟩) trivial hrun).1
  rintro l event output rfl
  cases step_cases hstep with
  | client _ _ _ reader reader' hevent hk hreader =>
      obtain ⟨-, rfl⟩ := Reader.next_of_step hreader
      cases event with
      | processed valid => cases hevent
      | _ => rfl

theorem mem_readerOutputsOf {k n : Nat} {reading : Reading} {valid : Bool}
    {stored : Option (Act × Event)} (hmem : .processed k n reading valid stored ∈ os) :
    { visit := some (n, reading.response) } ∈ readerOutputsOf k os := by
  refine List.mem_map.mpr ⟨(.processed valid, { visit := some (n, reading.response) }), ?_, rfl⟩
  refine List.mem_flatMap.mpr ⟨_, hmem, Option.mem_toList.mpr ?_⟩
  rw [readerSeen, if_pos rfl]

/-- A feed that was visited is one of the client that visited it. -/
theorem processed_mem (hrun : run (step env) (started set env) events = some (os, s)) {k n : Nat}
    {reading : Reading} {valid : Bool} {stored : Option (Act × Event)}
    (hmem : .processed k n reading valid stored ∈ os) {client : ManagedClient}
    (hclient : (subscribed set env)[k]? = some client) : n ∈ client.m_feeds := by
  obtain ⟨reader, -, hreached⟩ := run_started hrun hclient
  by_contra hn
  have hnone := hreached.log.foreign n hn
  have hvisit : reading.response ∈ visitsOf n (readerOutputsOf k os) := by
    refine List.mem_filterMap.mpr ⟨_, mem_readerOutputsOf hmem, ?_⟩
    rw [visitOf_some rfl, if_pos rfl]
  rw [hnone] at hvisit
  cases hvisit

/-- The clients that visit feeds exist. -/
theorem processed_client (hrun : run (step env) (started set env) events = some (os, s)) :
    ∀ o ∈ os, ∀ k n reading valid stored, o = .processed k n reading valid stored →
      ∃ client, (subscribed set env)[k]? = some client := by
  have hinit : (started set env).m_clients.length = (subscribed set env).length := List.length_map _
  refine (run_all (fun s => s.m_clients.length = (subscribed set env).length) _
    (fun s event o s' hs hstep => ⟨?_, (step_length hstep).trans hs⟩) hinit hrun).1
  rintro k n reading valid stored rfl
  cases step_cases hstep with
  | processed _ clock utc reader reader' _ feed _ vfrb hprocessed =>
      rw [← Option.isSome_iff_exists, isSome_getElem?, ← hs]
      exact (List.getElem?_eq_some_iff.mp hprocessed.client).1

theorem visitor (hrun : run (step env) (started set env) events = some (os, s)) {k n : Nat}
    {reading : Reading} {valid : Bool} {stored : Option (Act × Event)}
    (hmem : .processed k n reading valid stored ∈ os) :
    ∃ client, (subscribed set env)[k]? = some client ∧ n ∈ client.m_feeds := by
  obtain ⟨client, hclient⟩ := processed_client hrun _ hmem k n reading valid stored rfl
  exact ⟨client, hclient, processed_mem hrun hmem hclient⟩

/-! ## An airfield -/

/-- Two feeds of a GPS receiver, and the two of a weather station -/
def airfield : Installation where
  m := .atOrigin
  parsers := { boost := .byChoices, s_maxHeight := 0 }
  feeds := [{ type := .GpsFeed, m_priority := 0, endpoint := ⟨str "receiver", []⟩ },
    { type := .GpsFeed, m_priority := 1, endpoint := ⟨str "receiver", []⟩ },
    { type := .WindFeed, m_priority := 0, endpoint := ⟨str "station", []⟩ },
    { type := .AtmosphereFeed, m_priority := 0, endpoint := ⟨str "station", []⟩ }]
  maxDistance := 0
  atmPressure := 1013.25
  position := {}
  groundMode := true
  utc := ⟨0, 0, 12, 1, 0, 100⟩

def clients : ClientSet boostHash := .preferring fun _ => false

/-- The receiver has a good fix. -/
def goodFix : List SystemEvent := [.client 0 (.dispatch 0 .SUCCESS []), .client 0 .locked,
  .client 0 (.dispatch 0 .SUCCESS []), .client 0 .locked,
  .client 0 (.dispatch 0 .SUCCESS
    (str "$GPGGA,183552,5000.0466,N,00815.7555,E,1,07,1,105,M,48.0,M,,*4B")), .client 0 .locked]

/-- The weather station reports the wind. -/
def wind : List SystemEvent := [.client 1 (.dispatch 0 .SUCCESS []), .client 1 .locked,
  .client 1 (.dispatch 1 .SUCCESS (str "$WIMWV,242.8,R,6.9,N,A*20")), .client 1 .locked,
  .process 1 ⟨0, 0⟩ airfield.utc]

theorem run_wind : (run (step airfield) (started clients airfield) wind).isSome = true := by
  decide +kernel

/-- The loop over the feeds of the receiver starts. -/
theorem run_goodFix : ∃ os s reader,
    run (step airfield) (started clients airfield) goodFix = some (os, s) ∧
      s.m_clients[0]? = some reader ∧ reader.visiting = some ⟨[], [0, 1]⟩ := by
  have hdefined : (run (step airfield) (started clients airfield) goodFix).any (fun (_, s) =>
      s.m_clients[0]?.any fun reader => reader.visiting.any fun visit =>
        visit.returned = [] && visit.remaining = [0, 1]) = true := by
    decide +kernel
  obtain ⟨⟨os, s⟩, hrun, hclient⟩ := (Option.any_eq_true _ _).mp hdefined
  obtain ⟨reader, hreader, hvisit⟩ := (Option.any_eq_true _ _).mp hclient
  obtain ⟨⟨returned, remaining⟩, hvisiting, hnext⟩ := (Option.any_eq_true _ _).mp hvisit
  rw [Bool.and_eq_true, decide_eq_true_iff, decide_eq_true_iff] at hnext
  obtain ⟨rfl, rfl⟩ := hnext
  exact ⟨os, s, reader, hrun, hreader, hvisiting⟩

/-- The visit of a feed has returned `false`. -/
def halts (k n : Nat) : Observed → Bool
  | .processed l m _ valid _ => l == k && m == n && !valid
  | _ => false

/-- In ground mode the first feed stops the client, and the second still gets the line. -/
theorem goodFix_halts : ∃ os s reading stored s₁ os' s₂,
    run (step airfield) (started clients airfield) goodFix = some (os, s) ∧
      s.step airfield (.process 0 ⟨0, 0⟩ airfield.utc) =
        some (.processed 0 0 reading false stored, s₁) ∧
      run (step airfield) s₁ [.process 0 ⟨0, 0⟩ airfield.utc] = some (os', s₂) := by
  have hdefined : (run (step airfield) (started clients airfield) goodFix).any (fun (_, s) =>
      (s.step airfield (.process 0 ⟨0, 0⟩ airfield.utc)).any fun (o, s₁) =>
        halts 0 0 o && (run (step airfield) s₁ [.process 0 ⟨0, 0⟩ airfield.utc]).isSome) = true := by
    decide +kernel
  obtain ⟨⟨os, s⟩, hrun, hstep⟩ := (Option.any_eq_true _ _).mp hdefined
  obtain ⟨⟨o, s₁⟩, hstop, hlater⟩ := (Option.any_eq_true _ _).mp hstep
  rw [Bool.and_eq_true, Option.isSome_iff_exists] at hlater
  obtain ⟨hhalts, ⟨os', s₂⟩, hrun'⟩ := hlater
  cases o with
  | processed k n reading valid stored =>
      simp only [halts, Bool.and_eq_true, beq_iff_eq, Bool.not_eq_true'] at hhalts
      obtain ⟨⟨rfl, rfl⟩, rfl⟩ := hhalts
      exact ⟨os, s, reading, stored, s₁, os', s₂, hrun, hstop, hrun'⟩
  | _ => cases hhalts

/-! ## Every line at every feed -/

/-- In every run, each feed is with exactly one client and has processed exactly the lines that this
client has read, in their order and each of them once.  Only the line of a running loop may still
be ahead of it. -/
theorem lines_reach_feeds (hrun : run (step env) (started set env) events = some (os, s)) {n : Nat}
    (hn : n < env.feeds.length) : ∃ k reader, s.m_clients[k]? = some reader ∧
      (∀ l other, s.m_clients[l]? = some other → (n ∈ other.m_feeds ↔ l = k)) ∧
      ((reader.visiting = none ∧ processedBy n os = linesRead k os) ∨
        ∃ visit, reader.visiting = some visit ∧
          linesRead k os = processedBy n os ++ if n ∈ visit.remaining then [reader.response] else []) := by
  have hlength : n < (env.feeds.map (·.toFeed)).length := by
    rw [List.length_map]
    exact hn
  obtain ⟨k, client, hclient, hmem⟩ := client_exists set hlength
  obtain ⟨reader, hreader, hreached⟩ := run_started hrun hclient
  have hlog := hreached.log
  have hprocessed : processedBy n os = visitsOf n (readerOutputsOf k os) := by
    apply processedBy_eq _ (run_quiet hrun)
    intro l reading valid stored ho
    obtain ⟨other, hother, hn'⟩ := visitor hrun ho
    exact client_unique hother hclient hn' hmem
  refine ⟨k, reader, hreader, fun l other hl => ?_, ?_⟩
  · obtain ⟨owner, howner⟩ := run_reached hrun hl
    rw [howner.log.feeds]
    constructor
    · exact fun hn' => client_unique howner.entry hclient hn' hmem
    · rintro rfl
      cases hclient.symm.trans howner.entry
      exact hmem
  · have hstep := hlog.inStep
    unfold InStep at hstep
    rw [hprocessed]
    cases hvisiting : reader.visiting with
    | none =>
        rw [hvisiting] at hstep
        exact .inl ⟨rfl, hstep n (hlog.feeds ▸ hmem)⟩
    | some visit =>
        rw [hvisiting] at hstep
        obtain ⟨earlier, done, hlines, hsplit, hdone, hremaining⟩ := hstep
        refine .inr ⟨visit, rfl, ?_⟩
        by_cases hahead : n ∈ visit.remaining
        · rw [if_pos hahead, hremaining n hahead]
          exact hlines
        · have hmine : n ∈ done ++ visit.remaining := by
            rw [← hsplit, hlog.feeds]
            exact hmem
          rw [if_neg hahead, List.append_nil,
            hdone n ((List.mem_append.mp hmine).resolve_right hahead)]
          rfl

/-- The line has reached the wind feed, but not the atmosphere feed. -/
theorem lines_reach_feeds_airfield : ∃ os s,
    run (step airfield) (started clients airfield) wind = some (os, s) ∧
      ∃ k reader, s.m_clients[k]? = some reader ∧
        (∀ l other, s.m_clients[l]? = some other → (3 ∈ other.m_feeds ↔ l = k)) ∧
        ((reader.visiting = none ∧ processedBy 3 os = linesRead k os) ∨
          ∃ visit, reader.visiting = some visit ∧ linesRead k os =
            processedBy 3 os ++ if 3 ∈ visit.remaining then [reader.response] else []) := by
  obtain ⟨⟨os, s⟩, hrun⟩ := Option.isSome_iff_exists.mp run_wind
  exact ⟨os, s, hrun, lines_reach_feeds hrun (by decide)⟩

/-- Where a loop has a feed to visit, the visit is defined: the feed exists, and its store does not
fail. -/
theorem visit_defined (hrun : run (step env) (started set env) events = some (os, s)) {k n : Nat}
    {reader : Reader} (hk : s.m_clients[k]? = some reader) {returned : List Bool} {rest : List Nat}
    (hvisiting : reader.visiting = some ⟨returned, n :: rest⟩) (clock : DateTime) (utc : Tm) :
    ∃ valid stored s', s.step env (.process k clock utc) =
      some (.processed k n ⟨clock, utc, reader.response⟩ valid stored, s') := by
  obtain ⟨client, hreached⟩ := run_reached hrun hk
  have hstep := hreached.log.inStep
  unfold InStep at hstep
  rw [hvisiting] at hstep
  obtain ⟨earlier, done, -, hsplit, -, -⟩ := hstep
  have hmem : n ∈ client.m_feeds := by
    rw [← hreached.log.feeds, hsplit]
    exact List.mem_append_right _ List.mem_cons_self
  have hlt := feed_lt (List.mem_of_getElem? hreached.entry) hmem
  rw [List.length_map] at hlt
  obtain ⟨valid, vfrb, hprocess⟩ := DataFeed.process_defined env.parsers env.feeds[n]
    ⟨clock, utc, reader.response⟩ (run_stores hrun).rep
  obtain ⟨reader', hnext⟩ : ∃ reader', reader.next (.processed valid) = some reader' := by
    rw [Reader.next, hvisiting]
    exact ⟨_, rfl⟩
  refine ⟨valid, env.feeds[n].stored env.m env.parsers ⟨clock, utc, reader.response⟩ s.vfrb,
    { s with vfrb := vfrb, m_clients := s.m_clients.set k reader' }, ?_⟩
  rw [step, process, hk]
  simp only [Option.bind_eq_bind, Option.bind_some, hvisiting, List.head?_cons,
    List.getElem?_eq_getElem hlt, hprocess, hnext]
  rfl

/-- The first visit of the loop over the feeds of the receiver -/
theorem visit_defined_airfield : ∃ os s reader,
    run (step airfield) (started clients airfield) goodFix = some (os, s) ∧
      s.m_clients[0]? = some reader ∧
      ∃ valid stored s', s.step airfield (.process 0 ⟨0, 0⟩ airfield.utc) =
        some (.processed 0 0 ⟨⟨0, 0⟩, airfield.utc, reader.response⟩ valid stored, s') := by
  obtain ⟨os, s, reader, hrun, hreader, hvisiting⟩ := run_goodFix
  exact ⟨os, s, reader, hrun, hreader, visit_defined hrun hreader hvisiting _ _⟩

/-- A feed that returns `false` halts its client, for the rest of the run. -/
theorem halted_after (hrun : run (step env) (started set env) events = some (os, s))
    {event : SystemEvent} {k n : Nat} {reading : Reading} {stored : Option (Act × Event)}
    {s₁ : System} (hstop : s.step env event = some (.processed k n reading false stored, s₁))
    {later : List SystemEvent} {os' : List Observed} {s₂ : System}
    (hlater : run (step env) s₁ later = some (os', s₂)) :
    ∀ output ∈ readerOutputsOf k os', output.line = none ∧
      ∀ m response, output.visit = some (m, response) → response = reading.response := by
  cases step_cases hstop with
  | processed _ clock utc reader reader' _ feed _ vfrb hprocessed =>
      obtain ⟨client, hreached⟩ := run_reached hrun hprocessed.client
      have hhalted := halted_of_false hreached.log.engaged hprocessed.next
      have hresponse : reader'.response = reader.response := by
        obtain ⟨returned, rest, hvisiting⟩ := hprocessed.visiting
        have hnext := hprocessed.next
        rw [Reader.next, hvisiting] at hnext
        cases hnext
        rfl
      obtain ⟨last, hreader, -⟩ := run_reader
        (getElem?_set_some hprocessed.client hprocessed.client) hlater
      rw [if_pos rfl] at hreader
      intro output hmem
      obtain ⟨hline, hvisit⟩ := (hhalted.run hreader).1 output hmem
      exact ⟨hline, fun m response hseen => (hvisit m response hseen).trans hresponse⟩

/-- Once a feed has returned `false`, its client reads no line any more, and the feeds that are
still visited get the line of that loop. -/
theorem no_line_after_stop (hrun : run (step env) (started set env) events = some (os, s))
    {event : SystemEvent} {k n : Nat} {reading : Reading} {stored : Option (Act × Event)}
    {s₁ : System} (hstop : s.step env event = some (.processed k n reading false stored, s₁))
    {later : List SystemEvent} {os' : List Observed} {s₂ : System}
    (hlater : run (step env) s₁ later = some (os', s₂)) :
    linesRead k os' = [] ∧ ∀ m reading' valid stored',
      .processed k m reading' valid stored' ∈ os' → reading'.response = reading.response := by
  have hall := halted_after hrun hstop hlater
  constructor
  · exact List.filterMap_eq_nil_iff.mpr fun output hmem => (hall output hmem).1
  · intro m reading' valid stored' hmem
    exact (hall _ (mem_readerOutputsOf hmem)).2 m _ rfl

/-- The second feed of the receiver is visited after the first has stopped the client. -/
theorem no_line_after_stop_airfield : ∃ os s reading stored s₁ os' s₂,
    run (step airfield) (started clients airfield) goodFix = some (os, s) ∧
      s.step airfield (.process 0 ⟨0, 0⟩ airfield.utc) =
        some (.processed 0 0 reading false stored, s₁) ∧
      run (step airfield) s₁ [.process 0 ⟨0, 0⟩ airfield.utc] = some (os', s₂) ∧
      linesRead 0 os' = [] ∧ ∀ m reading' valid stored',
        .processed 0 m reading' valid stored' ∈ os' → reading'.response = reading.response := by
  obtain ⟨os, s, reading, stored, s₁, os', s₂, hrun, hstop, hlater⟩ := goodFix_halts
  exact ⟨os, s, reading, stored, s₁, os', s₂, hrun, hstop, hlater,
    no_line_after_stop hrun hstop hlater⟩

end

end System

end VirtualFlightRadar
