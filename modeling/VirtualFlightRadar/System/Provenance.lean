import Mathlib
import VirtualFlightRadar.System.GroundMode

/-!
# Where a message comes from

A message is the reports of the aircrafts, the two sentences of the own position and one sentence of
each sensor at most.  Whatever the threads do, all of it goes back to lines that the feeds have
processed before, or to the configuration.
-/

open Cxx
open scoped Computability

namespace VirtualFlightRadar

/-- All of the fix but what the stores keep of every object. -/
def GpsPosition.Repeats (this fix : GpsPosition) : Prop :=
  ∃ toObject, this = { fix with toObject := toObject }

theorem GpsData.processPosition_repeats {this : GpsData} {fix : GpsPosition} (utc : Tm)
    (h : this.m_position.Repeats fix) : (this.processPosition utc).m_position.Repeats fix := by
  obtain ⟨toObject, heq⟩ := h
  rw [processPosition_position, heq]
  exact ⟨_, rfl⟩

namespace System

section

variable (env : Installation) (os : List Observed)

/-- A feed has processed a line that its parser turns into the update. -/
def FromLine (act : Act) : Prop :=
  ∃ k n feed reading valid stored, .processed k n reading valid stored ∈ os ∧
    env.feeds[n]? = some feed ∧ feed.act env.parsers reading = some act

/-- The configured position, and the fixes of the lines. -/
def fixes : Set GpsPosition :=
  {fix | fix = env.position ∨ ∃ utc, FromLine env os (.updateGps utc fix)}

def pressures : Set Double :=
  {atmPress | atmPress = env.atmPressure ∨
    ∃ x, FromLine env os (.updateAtmosphere x) ∧ atmPress = x.m_pressure}

/-- The reports of the aircrafts of the lines, relative to a known position and pressure. -/
def reports : Language UInt8 :=
  {text | ∃ x fix atmPress, FromLine env os (.updateAircraft x) ∧ fix ∈ fixes env os ∧
    atmPress ∈ pressures env os ∧
    text = AircraftProcessor.report env.m env.maxDistance fix.m_position atmPress x}

/-- The two sentences of a known fix, at a time that the serving thread has read. -/
def positions : Language UInt8 :=
  {text | ∃ utc event fix, .served (.serializeGps utc) event ∈ os ∧ fix ∈ fixes env os ∧
    text = GpsProcessor.sentenceGPGGA utc fix ++ GpsProcessor.sentenceGPRMC utc fix}

/-- The lines that feeds of the class have accepted. -/
def forwarded (type : FeedClass) : Language UInt8 :=
  {line | ∃ k n feed reading valid stored act, .processed k n reading valid stored ∈ os ∧
    env.feeds[n]? = some feed ∧ feed.type = type ∧ feed.act env.parsers reading = some act ∧
    line = reading.response}

def messages : Language UInt8 :=
  (reports env os)∗ * positions env os * (1 + forwarded env os .AtmosphereFeed) *
    (1 + forwarded env os .WindFeed)

/-- What a message is made of by the time the thread gets there. -/
def upTo : Serve → Language UInt8
  | .arguments _ _ => ⊤
  | .aircrafts => 1
  | .gps => (reports env os)∗
  | .atmosphere => (reports env os)∗ * positions env os
  | .wind => (reports env os)∗ * positions env os * (1 + forwarded env os .AtmosphereFeed)
  | .send => messages env os

/-- An aircraft as its line gave it, or with a report that was made of it. -/
def Tracked (a : Aircraft) : Prop :=
  (a.Fresh ∧ FromLine env os (.updateAircraft a)) ∨
    (a.m_updateAge ≠ 0 ∧ a.m_serialized ∈ reports env os)

structure Traced (s : VFRB) : Prop where
  aircrafts : ∀ a ∈ s.m_aircraftData.m_container, Tracked env os a
  position : ∃ fix ∈ fixes env os, s.m_gpsData.m_position.Repeats fix
  pressure : s.m_atmosphereData.get_atmPressure ∈ pressures env os
  atmosphere : s.m_atmosphereData.m_atmosphere.m_serialized ∈
    1 + forwarded env os .AtmosphereFeed
  wind : s.m_windData.m_wind.m_serialized ∈ 1 + forwarded env os .WindFeed
  arguments : ∀ position atmPress, s.serve = .arguments position atmPress →
    (∀ p, position = some p → ∃ fix ∈ fixes env os, p = fix.m_position) ∧
      ∀ p, atmPress = some p → p ∈ pressures env os
  message : s.message ∈ upTo env os s.serve

end

end System

namespace DataFeed

variable {parsers : Parsers} {this : DataFeed} {reading : Reading}

/-- The sensor feeds forward their lines as they are. -/
theorem wind_of_act {x : Wind} (h : this.act parsers reading = some (.updateWind x)) :
    this.type = .WindFeed ∧ x.m_serialized = reading.response := by
  unfold act at h
  cases htype : this.type with
  | WindFeed =>
      rw [htype] at h
      obtain ⟨hvalid, heq⟩ := unpackedAct_eq h
      obtain ⟨-, hunpack⟩ := WindParser.unpack_true hvalid
      cases heq
      exact ⟨rfl, by rw [hunpack]⟩
  | _ =>
      rw [htype] at h
      obtain ⟨-, heq⟩ := unpackedAct_eq h
      cases heq

theorem atmosphere_of_act {x : Atmosphere}
    (h : this.act parsers reading = some (.updateAtmosphere x)) :
    this.type = .AtmosphereFeed ∧ x.m_serialized = reading.response := by
  unfold act at h
  cases htype : this.type with
  | AtmosphereFeed =>
      rw [htype] at h
      obtain ⟨hvalid, heq⟩ := unpackedAct_eq h
      obtain ⟨-, pressure, hunpack⟩ := AtmosphereParser.unpack_true hvalid
      cases heq
      exact ⟨rfl, by rw [hunpack]⟩
  | _ =>
      rw [htype] at h
      obtain ⟨-, heq⟩ := unpackedAct_eq h
      cases heq

end DataFeed

namespace System

variable {env : Installation} {os : List Observed}

theorem forwarded_wind {x : Wind} (h : FromLine env os (.updateWind x)) :
    x.m_serialized ∈ forwarded env os .WindFeed := by
  obtain ⟨k, n, feed, reading, valid, stored, hmem, hfeed, hact⟩ := h
  obtain ⟨htype, hline⟩ := DataFeed.wind_of_act hact
  exact ⟨k, n, feed, reading, valid, stored, _, hmem, hfeed, htype, hact, hline⟩

theorem forwarded_atmosphere {x : Atmosphere} (h : FromLine env os (.updateAtmosphere x)) :
    x.m_serialized ∈ forwarded env os .AtmosphereFeed := by
  obtain ⟨k, n, feed, reading, valid, stored, hmem, hfeed, hact⟩ := h
  obtain ⟨htype, hline⟩ := DataFeed.atmosphere_of_act hact
  exact ⟨k, n, feed, reading, valid, stored, _, hmem, hfeed, htype, hact, hline⟩

/-! ## One aircraft -/

/-- The first tick makes the report of the aircraft as it came; later ones keep it. -/
theorem Tracked.tick {a a' : Aircraft} (h : Tracked env os a) (hage : a.m_updateAge.toNat < 120)
    {fix : GpsPosition} (hfix : fix ∈ fixes env os) {atmPress : Double}
    (hpress : atmPress ∈ pressures env os)
    (htick : Pass.tick env.m env.maxDistance fix.m_position atmPress a = some a') :
    Tracked env os a' := by
  have hsucc : (Pass.age a).m_updateAge.toNat = a.m_updateAge.toNat + 1 := by
    rw [Pass.age_updateAge, UInt32.toNat_add]
    change (a.m_updateAge.toNat + 1) % 2 ^ 32 = a.m_updateAge.toNat + 1
    omega
  have haged : (Pass.age a).m_updateAge ≠ 0 := by
    intro hzero
    rw [hzero] at hsucc
    cases hsucc
  unfold Pass.tick at htick
  split at htick
  · cases htick
  · split at htick
    · rename_i hone
      cases htick
      right
      refine ⟨haged, ?_⟩
      rw [hone] at hsucc
      have hzero : a.m_updateAge = 0 := UInt32.toNat_inj.mp (Nat.succ.inj hsucc.symm)
      cases h with
      | inl hfresh =>
          refine ⟨a, fix, atmPress, hfresh.2, hfix, hpress, ?_⟩
          unfold Pass.age
          rw [if_neg]
          · rfl
          · show ¬ a.m_updateAge + 1 = 4
            rw [hzero]
            decide
      | inr hreported => exact absurd hzero hreported.1
    · rename_i hone
      cases htick
      right
      cases h with
      | inl hfresh =>
          refine absurd ?_ hone
          rw [Pass.age_updateAge, hfresh.1.age]
          rfl
      | inr hreported =>
          refine ⟨haged, ?_⟩
          have hkept : (Pass.age a).m_serialized = a.m_serialized := by
            unfold Pass.age
            simp only
            split <;> rfl
          rw [hkept]
          exact hreported.2

theorem Tracked.serialized {a : Aircraft} (h : Tracked env os a) :
    a.m_serialized ∈ (reports env os)∗ := by
  cases h with
  | inl hfresh =>
      rw [hfresh.1.serialized]
      exact Language.nil_mem_kstar _
  | inr hreported => exact le_kstar (a := reports env os) hreported.2

theorem Traced.reports {s : VFRB} (h : Traced env os s) :
    s.m_aircraftData.get_serialized [] ∈ (reports env os)∗ := by
  rw [AircraftData.get_serialized_eq, List.nil_append, List.flatMap_def, ← kstar_idem]
  apply Language.join_mem_kstar
  intro text htext
  obtain ⟨a, ha, rfl⟩ := List.mem_map.mp htext
  split
  · exact (h.aircrafts a ha).serialized
  · exact Language.nil_mem_kstar _

/-! ## The stores -/

section

variable {s s' : VFRB} {event : Event}

theorem Traced.init (os : List Observed) : Traced env os
    (.ofConfig env.maxDistance env.atmPressure env.position env.groundMode env.utc) where
  aircrafts := fun a ha => absurd ha (by simp [VFRB.ofConfig, AircraftData.ofMaxDist])
  position := ⟨env.position, .inl rfl, GpsData.processPosition_repeats env.utc ⟨_, rfl⟩⟩
  pressure := .inl rfl
  atmosphere := .inl rfl
  wind := .inl rfl
  arguments := by
    intro position atmPress heq
    cases heq
    exact ⟨fun _ heq => (Option.some_ne_none _ heq.symm).elim,
      fun _ heq => (Option.some_ne_none _ heq.symm).elim⟩
  message := trivial

/-- The steps of the thread that change nothing but the message and how far it is. -/
theorem Traced.advance (h : Traced env os s) (haircraft : s'.m_aircraftData = s.m_aircraftData)
    (hgps : ∀ fix, s.m_gpsData.m_position.Repeats fix → s'.m_gpsData.m_position.Repeats fix)
    (hatmosphere : s'.m_atmosphereData.m_atmosphere.m_serialized =
      s.m_atmosphereData.m_atmosphere.m_serialized)
    (hpressure : s'.m_atmosphereData.get_atmPressure = s.m_atmosphereData.get_atmPressure)
    (hwind : s'.m_windData.m_wind.m_serialized ∈ 1 + forwarded env os .WindFeed)
    (harguments : ∀ position atmPress, s'.serve = .arguments position atmPress →
      position = none ∧ atmPress = none)
    (hmessage : s'.message ∈ upTo env os s'.serve) : Traced env os s' := by
  refine ⟨?_, ?_, ?_, ?_, hwind, ?_, hmessage⟩
  · rw [haircraft]
    exact h.aircrafts
  · obtain ⟨fix, hfix, hposition⟩ := h.position
    exact ⟨fix, hfix, hgps fix hposition⟩
  · rw [hpressure]
    exact h.pressure
  · rw [hatmosphere]
    exact h.atmosphere
  · intro position atmPress heq
    obtain ⟨rfl, rfl⟩ := harguments position atmPress heq
    exact ⟨fun _ heq => (Option.some_ne_none _ heq.symm).elim,
      fun _ heq => (Option.some_ne_none _ heq.symm).elim⟩

theorem Traced.get_position (h : Traced env os s)
    (hstep : s.step env.m .get_position = some (event, s')) : Traced env os s' := by
  cases VFRB.step_cases hstep with
  | get_position atmPress hserve =>
      refine ⟨h.aircrafts, h.position, h.pressure, h.atmosphere, h.wind, ?_, trivial⟩
      intro position press heq
      cases heq
      refine ⟨?_, (h.arguments none atmPress hserve).2⟩
      intro p hp
      cases hp
      obtain ⟨fix, hfix, toObject, hposition⟩ := h.position
      exact ⟨fix, hfix, by rw [GpsData.get_position, hposition]⟩

theorem Traced.get_atmPressure (h : Traced env os s)
    (hstep : s.step env.m .get_atmPressure = some (event, s')) : Traced env os s' := by
  cases VFRB.step_cases hstep with
  | get_atmPressure position hserve =>
      refine ⟨h.aircrafts, h.position, h.pressure, h.atmosphere, h.wind, ?_, trivial⟩
      intro position' press heq
      cases heq
      refine ⟨(h.arguments position none hserve).1, ?_⟩
      intro p hp
      cases hp
      exact h.pressure

theorem Traced.processAircrafts {seen : History} (h : Traced env os s)
    (hinv : VFRB.Inv env.m env.maxDistance seen s)
    (hstep : s.step env.m .processAircrafts = some (event, s')) : Traced env os s' := by
  cases VFRB.step_cases hstep with
  | processAircrafts position atmPress hserve =>
      obtain ⟨hposition, hpressure⟩ := h.arguments (some position) (some atmPress) hserve
      obtain ⟨fix, hfix, rfl⟩ := hposition position rfl
      refine ⟨?_, h.position, h.pressure, h.atmosphere, h.wind, (by rintro _ _ ⟨⟩), rfl⟩
      intro a' ha'
      rw [(hinv.rep.processAircrafts env.m fix.m_position atmPress).1, hinv.config,
        List.mem_filterMap] at ha'
      obtain ⟨a, ha, htick⟩ := ha'
      exact (h.aircrafts a ha).tick (hinv.ages a ha) hfix (hpressure atmPress rfl) htick

theorem Traced.updateAircraft {seen : History} {x : Aircraft} (h : Traced env os s)
    (hinv : VFRB.Inv env.m env.maxDistance seen s) (hx : x.Fresh)
    (hline : FromLine env os (.updateAircraft x))
    (hstep : s.step env.m (.updateAircraft x) = some (event, s')) : Traced env os s' := by
  cases VFRB.step_cases hstep with
  | updateAircraft x accepted d hupdate =>
      refine ⟨?_, h.position, h.pressure, h.atmosphere, h.wind, h.arguments, h.message⟩
      intro a ha
      rcases (hinv.rep.update_subset hx hupdate).2.2 a ha with rfl | hold
      · exact .inl ⟨hx, hline⟩
      · exact h.aircrafts a hold

theorem Traced.updateGps {utc : Tm} {x : GpsPosition} (h : Traced env os s)
    (hlock : s.m_gpsData.m_positionLocked = false) (hline : FromLine env os (.updateGps utc x))
    (hstep : s.step env.m (.updateGps utc x) = some (event, s')) : Traced env os s' := by
  cases hstep
  refine ⟨h.aircrafts, ?_, h.pressure, h.atmosphere, h.wind, h.arguments, h.message⟩
  cases hcan : x.canUpdate s.m_gpsData.m_position with
  | false =>
      rw [GpsData.update_refused hlock utc hcan]
      exact h.position
  | true =>
      rw [GpsData.update_accepted hlock utc hcan]
      exact ⟨x, .inr ⟨utc, hline⟩, GpsData.processPosition_repeats utc ⟨_, rfl⟩⟩

theorem Traced.updateAtmosphere {x : Atmosphere} (h : Traced env os s)
    (hline : FromLine env os (.updateAtmosphere x))
    (hstep : s.step env.m (.updateAtmosphere x) = some (event, s')) : Traced env os s' := by
  cases hstep
  have hforwarded := forwarded_atmosphere hline
  have hstored : (s.m_atmosphereData.update x).2.get_atmPressure ∈ pressures env os ∧
      (s.m_atmosphereData.update x).2.m_atmosphere.m_serialized ∈
        1 + forwarded env os .AtmosphereFeed := by
    rw [AtmosphereData.update_eq]
    split
    · exact ⟨.inr ⟨x, hline, rfl⟩, .inr hforwarded⟩
    · exact ⟨h.pressure, h.atmosphere⟩
  exact ⟨h.aircrafts, h.position, hstored.1, hstored.2, h.wind, h.arguments, h.message⟩

theorem Traced.updateWind {x : Wind} (h : Traced env os s)
    (hline : FromLine env os (.updateWind x))
    (hstep : s.step env.m (.updateWind x) = some (event, s')) : Traced env os s' := by
  cases hstep
  have hforwarded := forwarded_wind hline
  refine ⟨h.aircrafts, h.position, h.pressure, h.atmosphere, ?_, h.arguments, h.message⟩
  show (s.m_windData.update x).2.m_wind.m_serialized ∈ _
  rw [WindData.update_eq]
  split
  · exact .inr hforwarded
  · exact h.wind

/-- What a step of the stores is given. -/
structure Supplied (env : Installation) (os : List Observed) (act : Act) : Prop where
  fresh : act.Fresh
  line : DataFeed.Updates act → FromLine env os act
  time : ∀ utc, act = .serializeGps utc → ∃ event, .served (.serializeGps utc) event ∈ os

theorem Traced.step {seen : History} {act : Act} (h : Traced env os s)
    (hinv : VFRB.Inv env.m env.maxDistance seen s) (hlock : s.m_gpsData.m_positionLocked = false)
    (hact : Supplied env os act) (hstep : s.step env.m act = some (event, s')) :
    Traced env os s' := by
  have hmessage := h.message
  cases VFRB.step_cases hstep with
  | get_position _ _ => exact h.get_position hstep
  | get_atmPressure _ _ => exact h.get_atmPressure hstep
  | processAircrafts _ _ _ => exact h.processAircrafts hinv hstep
  | serializeAircrafts hserve =>
      refine h.advance rfl (fun _ hfix => hfix) rfl rfl h.wind (by rintro _ _ ⟨⟩) ?_
      show s.m_aircraftData.get_serialized s.message ∈ _
      rw [hinv.cleared hserve]
      exact h.reports
  | serializeGps utc hserve =>
      rw [hserve] at hmessage
      refine h.advance rfl ?_ rfl rfl h.wind (by rintro _ _ ⟨⟩) ?_
      · intro fix hfix
        obtain ⟨toObject, heq⟩ := GpsData.processPosition_repeats utc hfix
        refine ⟨toObject.incr, ?_⟩
        show { (s.m_gpsData.processPosition utc).m_position with
          toObject := (s.m_gpsData.processPosition utc).m_position.toObject.incr } = _
        rw [heq]
      · show (s.m_gpsData.get_serialized utc s.message).1 ∈ _
        rw [GpsData.get_serialized_message]
        apply Language.append_mem_mul hmessage
        obtain ⟨fix, hfix, toObject, hposition⟩ := h.position
        obtain ⟨event, hserved⟩ := hact.time utc rfl
        refine ⟨utc, event, fix, hserved, hfix, ?_⟩
        rw [hposition]
        rfl
  | serializeAtmosphere hserve =>
      rw [hserve] at hmessage
      refine h.advance rfl (fun _ hfix => hfix) rfl rfl h.wind (by rintro _ _ ⟨⟩) ?_
      exact Language.append_mem_mul hmessage h.atmosphere
  | serializeWind hserve =>
      rw [hserve] at hmessage
      refine h.advance rfl (fun _ hfix => hfix) rfl rfl (.inl rfl) (by rintro _ _ ⟨⟩) ?_
      exact Language.append_mem_mul hmessage h.wind
  | send hserve =>
      refine h.advance rfl (fun _ hfix => hfix) rfl rfl h.wind ?_ trivial
      intro position atmPress heq
      cases heq
      exact ⟨rfl, rfl⟩
  | updateAircraft x _ _ _ => exact h.updateAircraft hinv hact.fresh (hact.line hact.fresh) hstep
  | updateGps utc x => exact h.updateGps hlock (hact.line trivial) hstep
  | updateAtmosphere x => exact h.updateAtmosphere (hact.line trivial) hstep
  | updateWind x => exact h.updateWind (hact.line trivial) hstep

end

/-! ## The messages -/

section

open ClientManager

variable {boost : BoostHash} {set : ClientSet boost} {s s' : System} {events : List SystemEvent}

theorem run_supplied (hrun : run (step env) (started set env) events = some (os, s)) :
    ∀ act ∈ actsOf os, Supplied env os act := by
  intro act hact
  have hfresh := acts_fresh hrun act hact
  obtain ⟨o, ho, shown, hseen⟩ := mem_actsOf hact
  rcases run_sourced hrun o ho act shown hseen with ⟨hserving, rfl⟩ | rfl | hdelivered
  · refine ⟨hfresh, fun hupdates => absurd hupdates ?_, ?_⟩
    · cases act with
      | updateAircraft x => cases hserving
      | updateGps utc x => cases hserving
      | updateAtmosphere x => cases hserving
      | updateWind x => cases hserving
      | _ => exact id
    · rintro utc rfl
      exact ⟨shown, ho⟩
  · exact ⟨hfresh, fun hupdates => absurd hupdates id, (by rintro _ ⟨⟩)⟩
  · have hupdates := hdelivered.updates
    obtain ⟨k, n, feed, reading, valid, event, rfl, hfeed, hline⟩ := hdelivered
    refine ⟨hfresh, fun _ => ⟨k, n, feed, reading, valid, _, ho, hfeed, hline⟩, ?_⟩
    rintro utc rfl
    exact absurd hupdates id

theorem run_traced (hrun : run (step env) (started set env) events = some (os, s)) :
    Traced env os s.vfrb := by
  refine (run_history (fun events s => VFRB.Inv env.m env.maxDistance (History.ofEvents events) s ∧
    s.m_gpsData.m_positionLocked = false ∧ Traced env os s) ?_ []
    ⟨VFRB.Inv.init env.m env.maxDistance env.atmPressure env.position env.groundMode env.utc, rfl,
      .init os⟩ (run_supplied hrun) (run_vfrb hrun)).2.2
  intro seen s act event s' ⟨hinv, hlock, htraced⟩ hact hstep
  refine ⟨?_, (VFRB.step_gpsData hstep).1.trans hlock, htraced.step hinv hlock hact hstep⟩
  rw [History.ofEvents_concat]
  exact hinv.step hact.fresh hstep

theorem Traced.sent (h : Traced env os s.vfrb) {event : SystemEvent} {shown : Event}
    {message : Bytes} {outcome : Nat → WriteOutcome} {writes : List Write}
    (hsent : s.step env event = some (.sent shown (.send message outcome) writes, s')) :
    message ∈ messages env os := by
  have hmessage := h.message
  cases step_cases hsent with
  | sent _ _ vfrb _ m_server hstep hsend =>
      cases VFRB.step_cases hstep with
      | send hserve =>
          rw [hserve] at hmessage
          exact hmessage

/-- The serving thread builds a message. -/
def building : List SystemEvent := [.serve .get_position, .serve .get_atmPressure,
  .serve .processAircrafts, .serve .serializeAircrafts, .serve (.serializeGps airfield.utc),
  .serve .serializeAtmosphere, .serve .serializeWind]

/-- The message is built and sent once the wind is known. -/
theorem windSent : ∃ os s shown message writes s',
    run (step airfield) (started clients airfield) (wind ++ building) = some (os, s) ∧
      s.step airfield (.send fun _ => .returned true) =
        some (.sent shown (.send message fun _ => .returned true) writes, s') := by
  have hdefined : (run (step airfield) (started clients airfield) (wind ++ building)).any
      (fun (_, s) => (s.step airfield (.send fun _ => .returned true)).isSome) = true := by
    decide +kernel
  obtain ⟨⟨os, s⟩, hrun, hsent⟩ := (Option.any_eq_true _ _).mp hdefined
  obtain ⟨⟨o, s'⟩, hsend⟩ := Option.isSome_iff_exists.mp hsent
  obtain ⟨⟨shown, vfrb⟩, hstep, heq⟩ := Option.map_eq_some_iff.mp hsend
  cases heq
  exact ⟨os, s, shown, s.vfrb.message, _, _, hrun, hsend⟩

/-- Every message goes back to lines that were processed before it, and to the configuration: first
reports of aircrafts relative to known positions and pressures, then one fix in two sentences, then
a line of an atmosphere feed and one of a wind feed, or none. -/
theorem message_sources (hrun : run (step env) (started set env) events = some (os, s))
    {event : SystemEvent} {shown : Event} {message : Bytes} {outcome : Nat → WriteOutcome}
    {writes : List Write}
    (hsent : s.step env event = some (.sent shown (.send message outcome) writes, s')) :
    message ∈ messages env os := (run_traced hrun).sent hsent

theorem message_sources_airfield : ∃ os s shown message writes s',
    run (step airfield) (started clients airfield) (wind ++ building) = some (os, s) ∧
      s.step airfield (.send fun _ => .returned true) =
        some (.sent shown (.send message fun _ => .returned true) writes, s') ∧
      message ∈ messages airfield os := by
  obtain ⟨os, s, shown, message, writes, s', hrun, hsent⟩ := windSent
  exact ⟨os, s, shown, message, writes, s', hrun, hsent, message_sources hrun hsent⟩

end

end System

end VirtualFlightRadar
