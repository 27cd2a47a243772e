import VirtualFlightRadar.Data.AircraftMessage
import VirtualFlightRadar.Data.GpsData
import VirtualFlightRadar.Data.SensorData

/-!
# The serving thread

`VFRB::serve` builds one message a cycle from the four stores while the feeds update them.  Every
call of a store is one step, under the mutex of that store; between two steps of the thread any
updates may happen.  The own position is read in one step, the aircrafts are processed relative to
it in another, and the GPS sentences are made from the position at a third.
-/

open Cxx

namespace VirtualFlightRadar

/-- Where the serving thread is in its cycle. -/
inductive Serve where
  -- The two arguments of `processAircrafts` are evaluated in an unspecified order.
  | arguments (position : Option Position) (atmPress : Option Double)
  | aircrafts
  | gps
  | atmosphere
  | wind
  | send
  deriving DecidableEq

structure VFRB where
  m_aircraftData : AircraftData
  m_atmosphereData : AtmosphereData
  m_gpsData : GpsData
  m_windData : WindData := {}
  serve : Serve := .arguments none none
  message : Bytes := []

/-- One atomic step of the serving thread or of a feed. -/
inductive Act where
  | get_position
  | get_atmPressure
  | processAircrafts
  | serializeAircrafts
  | serializeGps (utc : Tm)
  | serializeAtmosphere
  | serializeWind
  | send
  | updateAircraft (aircraft : Aircraft)
  | updateGps (utc : Tm) (position : GpsPosition)
  | updateAtmosphere (atmosphere : Atmosphere)
  | updateWind (wind : Wind)

/-- Aircrafts come as the feeds build them. -/
def Act.Fresh : Act → Prop
  | .updateAircraft aircraft => aircraft.Fresh
  | _ => True

/-- What a step is seen to do. -/
inductive Event where
  | positionRead (position : Position)
  | pressureRead (atmPress : Double)
  | processed
  | aircraftsReported (aircrafts : List Aircraft)
  | gpsReported (position : GpsPosition)
  | sensorReported
  | sent (message : Bytes)
  | gpsUpdated (outcome : Except GpsDataException Bool)
  | updated (accepted : Bool)

namespace VFRB

def ofConfig (maxDistance : Int32) (atmPressure : Double) (position : GpsPosition)
    (groundMode : Bool) (utc : Tm) : VFRB where
  m_aircraftData := .ofMaxDist maxDistance
  m_atmosphereData := { m_atmosphere := { m_pressure := atmPressure } }
  m_gpsData := .ofPosition position groundMode utc

def step (m : Libm) (s : VFRB) : Act → Option (Event × VFRB)
  | .get_position =>
      match s.serve with
      | .arguments none atmPress =>
          -- a copy, taken under the mutex of the store
          let position := s.m_gpsData.get_position
          some (.positionRead position, { s with serve := .arguments (some position) atmPress })
      | _ => none
  | .get_atmPressure =>
      match s.serve with
      | .arguments position none =>
          let atmPress := s.m_atmosphereData.get_atmPressure
          some (.pressureRead atmPress, { s with serve := .arguments position (some atmPress) })
      | _ => none
  | .processAircrafts =>
      match s.serve with
      | .arguments (some position) (some atmPress) =>
          -- `message.clear()` came first in the cycle; nothing reads the message before this.
          some (.processed, { s with
            m_aircraftData := s.m_aircraftData.processAircrafts (processOf m) position atmPress
            serve := .aircrafts
            message := [] })
      | _ => none
  | .serializeAircrafts =>
      match s.serve with
      | .aircrafts =>
          let reported := s.m_aircraftData.m_container.filter (·.m_updateAge < OBJ_OUTDATED)
          some (.aircraftsReported reported, { s with
            message := s.m_aircraftData.get_serialized s.message
            serve := .gps })
      | _ => none
  | .serializeGps utc =>
      match s.serve with
      | .gps =>
          let serialized := s.m_gpsData.get_serialized utc s.message
          some (.gpsReported s.m_gpsData.m_position, { s with
            message := serialized.1
            m_gpsData := serialized.2
            serve := .atmosphere })
      | _ => none
  | .serializeAtmosphere =>
      match s.serve with
      | .atmosphere =>
          let serialized := s.m_atmosphereData.get_serialized s.message
          some (.sensorReported, { s with
            message := serialized.1
            m_atmosphereData := serialized.2
            serve := .wind })
      | _ => none
  | .serializeWind =>
      match s.serve with
      | .wind =>
          let serialized := s.m_windData.get_serialized s.message
          some (.sensorReported, { s with
            message := serialized.1
            m_windData := serialized.2
            serve := .send })
      | _ => none
  | .send =>
      match s.serve with
      | .send => some (.sent s.message, { s with serve := .arguments none none })
      | _ => none
  -- A feed updates its store whatever the serving thread is at.
  | .updateAircraft aircraft =>
      (s.m_aircraftData.update aircraft).map fun updated =>
        (.updated updated.1, { s with m_aircraftData := updated.2 })
  | .updateGps utc position =>
      let updated := s.m_gpsData.update utc position
      some (.gpsUpdated updated.1, { s with m_gpsData := updated.2 })
  | .updateAtmosphere atmosphere =>
      let updated := s.m_atmosphereData.update atmosphere
      some (.updated updated.1, { s with m_atmosphereData := updated.2 })
  | .updateWind wind =>
      let updated := s.m_windData.update wind
      some (.updated updated.1, { s with m_windData := updated.2 })

/-- Everything a step can do. -/
inductive Stepped (m : Libm) (s : VFRB) : Act → Event → VFRB → Prop where
  | get_position (atmPress : Option Double) (hserve : s.serve = .arguments none atmPress) :
      Stepped m s .get_position (.positionRead s.m_gpsData.get_position)
        { s with serve := .arguments (some s.m_gpsData.get_position) atmPress }
  | get_atmPressure (position : Option Position) (hserve : s.serve = .arguments position none) :
      Stepped m s .get_atmPressure (.pressureRead s.m_atmosphereData.get_atmPressure)
        { s with serve := .arguments position (some s.m_atmosphereData.get_atmPressure) }
  | processAircrafts (position : Position) (atmPress : Double)
      (hserve : s.serve = .arguments (some position) (some atmPress)) :
      Stepped m s .processAircrafts .processed { s with
        m_aircraftData := s.m_aircraftData.processAircrafts (processOf m) position atmPress
        serve := .aircrafts
        message := [] }
  | serializeAircrafts (hserve : s.serve = .aircrafts) :
      Stepped m s .serializeAircrafts
        (.aircraftsReported (s.m_aircraftData.m_container.filter (·.m_updateAge < OBJ_OUTDATED)))
        { s with message := s.m_aircraftData.get_serialized s.message, serve := .gps }
  | serializeGps (utc : Tm) (hserve : s.serve = .gps) :
      Stepped m s (.serializeGps utc) (.gpsReported s.m_gpsData.m_position) { s with
        message := (s.m_gpsData.get_serialized utc s.message).1
        m_gpsData := (s.m_gpsData.get_serialized utc s.message).2
        serve := .atmosphere }
  | serializeAtmosphere (hserve : s.serve = .atmosphere) :
      Stepped m s .serializeAtmosphere .sensorReported { s with
        message := (s.m_atmosphereData.get_serialized s.message).1
        m_atmosphereData := (s.m_atmosphereData.get_serialized s.message).2
        serve := .wind }
  | serializeWind (hserve : s.serve = .wind) :
      Stepped m s .serializeWind .sensorReported { s with
        message := (s.m_windData.get_serialized s.message).1
        m_windData := (s.m_windData.get_serialized s.message).2
        serve := .send }
  | send (hserve : s.serve = .send) :
      Stepped m s .send (.sent s.message) { s with serve := .arguments none none }
  | updateAircraft (x : Aircraft) (accepted : Bool) (d : AircraftData)
      (hupdate : s.m_aircraftData.update x = some (accepted, d)) :
      Stepped m s (.updateAircraft x) (.updated accepted) { s with m_aircraftData := d }
  | updateGps (utc : Tm) (x : GpsPosition) :
      Stepped m s (.updateGps utc x) (.gpsUpdated (s.m_gpsData.update utc x).1)
        { s with m_gpsData := (s.m_gpsData.update utc x).2 }
  | updateAtmosphere (x : Atmosphere) :
      Stepped m s (.updateAtmosphere x) (.updated (s.m_atmosphereData.update x).1)
        { s with m_atmosphereData := (s.m_atmosphereData.update x).2 }
  | updateWind (x : Wind) :
      Stepped m s (.updateWind x) (.updated (s.m_windData.update x).1)
        { s with m_windData := (s.m_windData.update x).2 }

theorem step_cases {m : Libm} {s s' : VFRB} {act : Act} {event : Event}
    (h : s.step m act = some (event, s')) : Stepped m s act event s' := by
  cases act with
  | get_position =>
      rw [step] at h
      split at h
      · rename_i atmPress hserve
        cases h
        exact .get_position atmPress hserve
      · cases h
  | get_atmPressure =>
      rw [step] at h
      split at h
      · rename_i position hserve
        cases h
        exact .get_atmPressure position hserve
      · cases h
  | processAircrafts =>
      rw [step] at h
      split at h
      · rename_i position atmPress hserve
        cases h
        exact .processAircrafts position atmPress hserve
      · cases h
  | serializeAircrafts =>
      rw [step] at h
      split at h
      · rename_i hserve
        cases h
        exact .serializeAircrafts hserve
      · cases h
  | serializeGps utc =>
      rw [step] at h
      split at h
      · rename_i hserve
        cases h
        exact .serializeGps utc hserve
      · cases h
  | serializeAtmosphere =>
      rw [step] at h
      split at h
      · rename_i hserve
        cases h
        exact .serializeAtmosphere hserve
      · cases h
  | serializeWind =>
      rw [step] at h
      split at h
      · rename_i hserve
        cases h
        exact .serializeWind hserve
      · cases h
  | send =>
      rw [step] at h
      split at h
      · rename_i hserve
        cases h
        exact .send hserve
      · cases h
  | updateAircraft x =>
      obtain ⟨⟨accepted, d⟩, hupdate, heq⟩ := Option.map_eq_some_iff.mp h
      cases heq
      exact .updateAircraft x accepted d hupdate
  | updateGps utc x =>
      cases h
      exact .updateGps utc x
  | updateAtmosphere x =>
      cases h
      exact .updateAtmosphere x
  | updateWind x =>
      cases h
      exact .updateWind x

end VFRB

/-! ## What the messages refer to -/

/-- A result of `get_position`, and whether another position was stored since. -/
structure Read where
  position : Position
  moved : Bool := false

/-- The results of `get_position`, latest first, and the aircrafts serialized last. -/
structure History where
  reads : List Read := []
  reported : List Aircraft := []

namespace History

def observe (h : History) : Event → History
  | .positionRead position => { h with reads := { position := position } :: h.reads }
  | .gpsUpdated outcome =>
      -- From here on no earlier read is known to be the stored position.
      if GpsData.accepted outcome then
        { h with reads := h.reads.map fun r => { r with moved := true } }
      else h
  | .aircraftsReported aircrafts => { h with reported := aircrafts }
  | _ => h

def ofEvents (events : List Event) : History := events.foldl observe {}

theorem ofEvents_concat (events : List Event) (event : Event) :
    ofEvents (events ++ [event]) = (ofEvents events).observe event := by
  rw [ofEvents, List.foldl_append]
  rfl

end History

/-- The report of an aircraft that is not outdated was computed relative to the position that was
read as many cycles ago as the aircraft was not updated. -/
def RelativeTo (m : Libm) (maxDist : Int32) (reads : List Read) (a : Aircraft) : Prop :=
  a.m_updateAge.toNat < 4 → a.m_serialized ≠ [] →
    1 ≤ a.m_updateAge.toNat ∧ ∃ r atmPress, reads[a.m_updateAge.toNat - 1]? = some r ∧
      a.m_serialized = AircraftProcessor.report m maxDist r.position atmPress a

namespace RelativeTo

variable {m : Libm} {maxDist : Int32} {reads : List Read}

theorem fresh {x : Aircraft} (hx : x.Fresh) : RelativeTo m maxDist reads x :=
  fun _ hne => absurd hx.serialized hne

theorem map {a : Aircraft} (h : RelativeTo m maxDist reads a) (f : Read → Read)
    (hf : ∀ r, (f r).position = r.position) : RelativeTo m maxDist (reads.map f) a := by
  intro hage hne
  obtain ⟨hpos, r, atmPress, hget, hser⟩ := h hage hne
  refine ⟨hpos, f r, atmPress, ?_, ?_⟩
  · rw [List.getElem?_map, hget]
    rfl
  · rw [hf, hser]

/-- Before a pass the latest read is the one the pass refers to; behind it stand those of the
earlier cycles. -/
theorem tick {a a' : Aircraft} (h : RelativeTo m maxDist reads a)
    (hage : a.m_updateAge.toNat < 120) {r : Read} {atmPress : Double}
    (htick : Pass.tick m maxDist r.position atmPress a = some a') :
    RelativeTo m maxDist (r :: reads) a' ∧ a'.m_updateAge.toNat < 120 := by
  have hsucc : (Pass.age a).m_updateAge.toNat = a.m_updateAge.toNat + 1 := by
    rw [Pass.age_updateAge, UInt32.toNat_add]
    change (a.m_updateAge.toNat + 1) % 2 ^ 32 = a.m_updateAge.toNat + 1
    omega
  unfold Pass.tick at htick
  split at htick
  · cases htick
  · rename_i hdel
    rw [ge_iff_le, UInt32.le_iff_toNat_le, hsucc, not_le] at hdel
    change a.m_updateAge.toNat + 1 < 120 at hdel
    split at htick
    · -- The first tick computes the report relative to the read of this cycle.
      rename_i hone
      cases htick
      refine ⟨?_, by rw [hsucc]; exact hdel⟩
      intro _ _
      have hage1 : (Pass.age a).m_updateAge.toNat = 1 := by rw [hone]; rfl
      refine ⟨le_of_eq hage1.symm, r, atmPress, ?_, rfl⟩
      rw [hage1]
      rfl
    · -- A later tick keeps the report, and the read it refers to is one place further back.
      rename_i hone
      cases htick
      refine ⟨?_, by rw [hsucc]; exact hdel⟩
      intro hlt hne
      rw [hsucc] at hlt ⊢
      -- Below the threshold ageing only counts, so the report is still the one of this aircraft.
      have haged : Pass.age a = { a with toObject := a.toObject.incr } := by
        unfold Pass.age
        rw [if_neg]
        intro h4
        change a.m_updateAge + 1 = AC_NO_FLARM_THRESHOLD at h4
        rw [← Pass.age_updateAge, ← UInt32.toNat_inj, hsucc] at h4
        change a.m_updateAge.toNat + 1 = 4 at h4
        omega
      rw [haged] at hne ⊢
      obtain ⟨hpos, r', atmPress', hget, hser⟩ := h (by omega) hne
      refine ⟨by omega, r', atmPress', ?_, hser⟩
      rw [show a.m_updateAge.toNat + 1 - 1 = a.m_updateAge.toNat - 1 + 1 by omega,
        List.getElem?_cons_succ, hget]

end RelativeTo

namespace VFRB

-- The position of the current cycle is read and the aircrafts are not yet processed.
def pendingRead : Serve → Bool
  | .arguments (some _) _ => true
  | _ => false

/-- The reads of the cycles that have processed the aircrafts. -/
def settledReads (s : VFRB) (h : History) : List Read :=
  if pendingRead s.serve then h.reads.tail else h.reads

structure Inv (m : Libm) (maxDist : Int32) (h : History) (s : VFRB) : Prop where
  rep : s.m_aircraftData.RepInv
  config : s.m_aircraftData.m_processor.m_maxDistance = maxDist
  -- what ties the reads to the position that is serialized later
  same : ∀ r ∈ h.reads, r.moved = false → r.position = s.m_gpsData.get_position
  pending : ∀ position atmPress, s.serve = .arguments (some position) atmPress →
    ∃ r, h.reads.head? = some r ∧ r.position = position
  -- ages do not wrap around
  ages : ∀ a ∈ s.m_aircraftData.m_container, a.m_updateAge.toNat < 120
  relative : ∀ a ∈ s.m_aircraftData.m_container, RelativeTo m maxDist (s.settledReads h) a
  cleared : s.serve = .aircrafts → s.message = []
  reported : s.serve = .gps → s.message = h.reported.flatMap (·.m_serialized) ∧
    ∀ a ∈ h.reported, a.m_updateAge < OBJ_OUTDATED ∧ RelativeTo m maxDist h.reads a

namespace Inv

variable {m : Libm} {maxDist : Int32} {h : History} {s s' : VFRB}

theorem init (m : Libm) (maxDist : Int32) (atmPressure : Double) (position : GpsPosition)
    (groundMode : Bool) (utc : Tm) :
    Inv m maxDist {} (ofConfig maxDist atmPressure position groundMode utc) where
  rep := .empty maxDist
  config := rfl
  same := fun r hr => absurd hr (by simp)
  pending := fun position atmPress heq => by cases heq
  ages := fun a ha => absurd ha (by simp [ofConfig, AircraftData.ofMaxDist])
  relative := fun a ha => absurd ha (by simp [ofConfig, AircraftData.ofMaxDist])
  cleared := fun heq => by cases heq
  reported := fun heq => by cases heq

theorem get_position (hinv : Inv m maxDist h s) {event : Event}
    (hstep : s.step m .get_position = some (event, s')) : Inv m maxDist (h.observe event) s' := by
  cases step_cases hstep with
  | get_position atmPress hserve =>
      refine ⟨hinv.rep, hinv.config, ?_, ?_, hinv.ages, ?_, ?_, ?_⟩
      · intro r hr hmoved
        rcases List.mem_cons.mp hr with rfl | hold
        · rfl
        · exact hinv.same r hold hmoved
      · intro position press heq
        cases heq
        exact ⟨_, rfl, rfl⟩
      · -- The new read stands before the settled ones until the pass.
        have hrel := hinv.relative
        rw [settledReads, hserve] at hrel
        exact hrel
      · intro heq
        cases heq
      · intro heq
        cases heq

theorem get_atmPressure (hinv : Inv m maxDist h s) {event : Event}
    (hstep : s.step m .get_atmPressure = some (event, s')) : Inv m maxDist (h.observe event) s' := by
  cases step_cases hstep with
  | get_atmPressure position hserve =>
      refine ⟨hinv.rep, hinv.config, hinv.same, ?_, hinv.ages, ?_, ?_, ?_⟩
      · intro q press heq
        cases heq
        exact hinv.pending q none hserve
      · have hrel := hinv.relative
        rw [settledReads, hserve] at hrel
        cases position with
        | none => exact hrel
        | some q => exact hrel
      · intro heq
        cases heq
      · intro heq
        cases heq

theorem processAircrafts (hinv : Inv m maxDist h s) {event : Event}
    (hstep : s.step m .processAircrafts = some (event, s')) :
    Inv m maxDist (h.observe event) s' := by
  cases step_cases hstep with
  | processAircrafts position atmPress hserve =>
      obtain ⟨r, hhead, hposition⟩ := hinv.pending position (some atmPress) hserve
      obtain ⟨hcontainer, hconfig, hrep⟩ :=
        hinv.rep.processAircrafts m position atmPress
      have hticked (a' : Aircraft) (ha' : a' ∈ (s.m_aircraftData.processAircrafts (processOf m)
          position atmPress).m_container) :
          RelativeTo m maxDist h.reads a' ∧ a'.m_updateAge.toNat < 120 := by
        rw [hcontainer, hinv.config, List.mem_filterMap] at ha'
        obtain ⟨a, ha, htick⟩ := ha'
        -- The pending read is settled by this pass.
        have hrel := hinv.relative a ha
        rw [settledReads, hserve] at hrel
        rw [← hposition] at htick
        rw [← List.cons_head?_tail hhead]
        exact hrel.tick (hinv.ages a ha) htick
      refine ⟨hrep, hconfig.trans hinv.config, hinv.same, ?_, ?_, ?_, ?_, ?_⟩
      · intro q press heq
        cases heq
      · intro a' ha'
        exact (hticked a' ha').2
      · intro a' ha'
        exact (hticked a' ha').1
      · intro _
        rfl
      · intro heq
        cases heq

theorem serializeAircrafts (hinv : Inv m maxDist h s) {event : Event}
    (hstep : s.step m .serializeAircrafts = some (event, s')) :
    Inv m maxDist (h.observe event) s' := by
  cases step_cases hstep with
  | serializeAircrafts hserve =>
      have hrel := hinv.relative
      rw [settledReads, hserve] at hrel
      refine ⟨hinv.rep, hinv.config, hinv.same, ?_, hinv.ages, hrel, ?_, ?_⟩
      · intro q press heq
        cases heq
      · intro heq
        cases heq
      · intro _
        constructor
        · -- The message was empty, so it holds the reports and nothing else.
          change s.m_aircraftData.get_serialized s.message = _
          rw [AircraftData.get_serialized_eq, hinv.cleared hserve, List.nil_append]
          exact AircraftData.flatMap_messageOf _
        · intro a ha
          rw [History.observe, List.mem_filter, decide_eq_true_eq] at ha
          exact ⟨ha.2, hrel a ha.1⟩

/-- A step past the aircrafts that leaves them and the own position alone. -/
theorem advance (hinv : Inv m maxDist h s) (haircraft : s'.m_aircraftData = s.m_aircraftData)
    (hgps : s'.m_gpsData.get_position = s.m_gpsData.get_position)
    (hsettled : s.settledReads h = h.reads)
    (hnext : s'.serve ∈ [Serve.atmosphere, .wind, .send, .arguments none none]) :
    Inv m maxDist h s' := by
  have hsettled' : s'.settledReads h = h.reads := by
    unfold settledReads
    simp only [List.mem_cons, List.not_mem_nil, or_false] at hnext
    rcases hnext with heq | heq | heq | heq <;> rw [heq] <;> rfl
  refine ⟨by rw [haircraft]; exact hinv.rep, by rw [haircraft]; exact hinv.config, ?_, ?_, ?_, ?_,
    ?_, ?_⟩
  · intro r hr hmoved
    rw [hgps]
    exact hinv.same r hr hmoved
  · intro q press heq
    rw [heq] at hnext
    simp at hnext
  · rw [haircraft]
    exact hinv.ages
  · rw [haircraft, hsettled', ← hsettled]
    exact hinv.relative
  · intro heq
    rw [heq] at hnext
    simp at hnext
  · intro heq
    rw [heq] at hnext
    simp at hnext

/-- An update that leaves the aircrafts and the own position alone. -/
theorem frame (hinv : Inv m maxDist h s) (haircraft : s'.m_aircraftData = s.m_aircraftData)
    (hgps : s'.m_gpsData.get_position = s.m_gpsData.get_position) (hserve : s'.serve = s.serve)
    (hmessage : s'.message = s.message) : Inv m maxDist h s' := by
  refine ⟨by rw [haircraft]; exact hinv.rep, by rw [haircraft]; exact hinv.config, ?_, ?_, ?_, ?_,
    ?_, ?_⟩
  · intro r hr hmoved
    rw [hgps]
    exact hinv.same r hr hmoved
  · rw [hserve]
    exact hinv.pending
  · rw [haircraft]
    exact hinv.ages
  · rw [haircraft, settledReads, hserve]
    exact hinv.relative
  · rw [hserve, hmessage]
    exact hinv.cleared
  · rw [hserve, hmessage]
    exact hinv.reported

theorem updateAircraft (hinv : Inv m maxDist h s) {x : Aircraft} (hx : x.Fresh) {event : Event}
    (hstep : s.step m (.updateAircraft x) = some (event, s')) :
    Inv m maxDist (h.observe event) s' := by
  cases step_cases hstep with
  | updateAircraft x accepted d hupdate =>
      obtain ⟨hrep, hprocessor, hmem⟩ := hinv.rep.update_subset hx hupdate
      refine ⟨hrep, ?_, hinv.same, hinv.pending, ?_, ?_, hinv.cleared, hinv.reported⟩
      · exact (congrArg AircraftProcessor.m_maxDistance hprocessor).trans hinv.config
      · intro a ha
        rcases hmem a ha with rfl | hold
        · rw [hx.age]
          decide
        · exact hinv.ages a hold
      · intro a ha
        rcases hmem a ha with rfl | hold
        · -- A fresh report has no string yet.
          exact RelativeTo.fresh hx
        · exact hinv.relative a hold

theorem updateGps (hinv : Inv m maxDist h s) {utc : Tm} {x : GpsPosition} {event : Event}
    (hstep : s.step m (.updateGps utc x) = some (event, s')) :
    Inv m maxDist (h.observe event) s' := by
  cases hstep
  cases haccepted : GpsData.accepted (s.m_gpsData.update utc x).1 with
  | false =>
      simp only [History.observe, haccepted, Bool.false_eq_true, if_false]
      rw [GpsData.update_not_accepted haccepted]
      exact hinv.frame rfl rfl rfl rfl
  | true =>
      -- Every earlier read is out of date now, and nothing else looks at the position.
      simp only [History.observe, haccepted, if_true]
      refine ⟨hinv.rep, hinv.config, ?_, ?_, hinv.ages, ?_, hinv.cleared, ?_⟩
      · intro r hr hmoved
        obtain ⟨r', -, rfl⟩ := List.mem_map.mp hr
        cases hmoved
      · intro q press heq
        obtain ⟨r, hhead, hposition⟩ := hinv.pending q press heq
        refine ⟨{ r with moved := true }, ?_, hposition⟩
        simp only [List.head?_map, hhead, Option.map_some]
      · intro a ha
        have hrel := (hinv.relative a ha).map (fun r => { r with moved := true }) (fun r => rfl)
        unfold settledReads at hrel ⊢
        cases hpending : pendingRead s.serve with
        | true =>
            rw [hpending, if_pos rfl, List.map_tail] at hrel
            exact hrel
        | false =>
            rw [hpending] at hrel
            exact hrel
      · intro heq
        obtain ⟨hmessage, hreported⟩ := hinv.reported heq
        refine ⟨hmessage, ?_⟩
        intro a ha
        exact ⟨(hreported a ha).1, (hreported a ha).2.map _ (fun r => rfl)⟩

theorem step (hinv : Inv m maxDist h s) {act : Act} (hact : act.Fresh) {event : Event}
    (hstep : s.step m act = some (event, s')) : Inv m maxDist (h.observe event) s' := by
  -- The steps behind the aircrafts all start where no read is pending.
  have hadvance {serve : Serve} (hserve : s.serve = serve) (hsettled : pendingRead serve = false) :
      s.settledReads h = h.reads := by
    rw [settledReads, hserve, hsettled]
    rfl
  cases step_cases hstep with
  | get_position _ _ => exact hinv.get_position hstep
  | get_atmPressure _ _ => exact hinv.get_atmPressure hstep
  | processAircrafts _ _ _ => exact hinv.processAircrafts hstep
  | serializeAircrafts _ => exact hinv.serializeAircrafts hstep
  | serializeGps utc hserve =>
      exact hinv.advance rfl (GpsData.get_serialized_position s.m_gpsData utc s.message)
        (hadvance hserve rfl) (by simp)
  | serializeAtmosphere hserve =>
      exact hinv.advance rfl rfl (hadvance hserve rfl) (by simp)
  | serializeWind hserve =>
      exact hinv.advance rfl rfl (hadvance hserve rfl) (by simp)
  | send hserve =>
      exact hinv.advance rfl rfl (hadvance hserve rfl) (by simp)
  | updateAircraft x _ _ _ => exact hinv.updateAircraft hact hstep
  | updateGps utc x => exact hinv.updateGps hstep
  | updateAtmosphere x => exact hinv.frame rfl rfl rfl rfl
  | updateWind x => exact hinv.frame rfl rfl rfl rfl

end Inv

/-- In every run, each report in a message of age one, two or three was computed relative to the
position that `get_position` returned in this cycle, the last one or the one before, and that is the
position of the GGA sentence in the message unless another one was stored in between. -/
theorem message_relative (m : Libm) (maxDist : Int32) (atmPressure : Double)
    (position : GpsPosition) (groundMode : Bool) (utc₀ : Tm) (acts : List Act)
    (hfresh : ∀ act ∈ acts, act.Fresh) (utc : Tm) (events : List Event) (s : VFRB)
    (hrun : run (step m) (ofConfig maxDist atmPressure position groundMode utc₀)
      (acts ++ [.serializeGps utc]) = some (events, s)) :
    ∃ p, events.getLast? = some (.gpsReported p) ∧
      s.message = (History.ofEvents events).reported.flatMap (·.m_serialized) ++
        (GpsProcessor.sentenceGPGGA utc p ++ GpsProcessor.sentenceGPRMC utc p) ∧
      ∀ a ∈ (History.ofEvents events).reported, a.m_serialized ≠ [] →
        a.m_updateAge ∈ [1, 2, 3] ∧
        ∃ r atmPress, (History.ofEvents events).reads[a.m_updateAge.toNat - 1]? = some r ∧
          a.m_serialized = AircraftProcessor.report m maxDist r.position atmPress a ∧
          (r.moved = false → r.position = p.m_position) := by
  obtain ⟨before, s₁, event, hbefore, hlast, rfl⟩ := run_concat hrun
  have hinv : Inv m maxDist (History.ofEvents before) s₁ :=
    run_history (fun events s => Inv m maxDist (History.ofEvents events) s)
      (fun events s act event s' hinv hact hstep => by
        rw [History.ofEvents_concat]
        exact hinv.step hact hstep)
      [] (Inv.init m maxDist atmPressure position groundMode utc₀) hfresh hbefore
  simp only [step] at hlast
  split at hlast
  · rename_i hserve
    cases hlast
    obtain ⟨hmessage, hreported⟩ := hinv.reported hserve
    refine ⟨s₁.m_gpsData.m_position, by simp, ?_, ?_⟩
    · rw [History.ofEvents_concat]
      change (s₁.m_gpsData.get_serialized utc s₁.message).1 = _
      rw [GpsData.get_serialized_message, hmessage]
      rfl
    · intro a ha hne
      rw [History.ofEvents_concat] at ha ⊢
      obtain ⟨hage, hrel⟩ := hreported a ha
      rw [UInt32.lt_iff_toNat_lt] at hage
      change a.m_updateAge.toNat < 4 at hage
      obtain ⟨hpos, r, atmPress, hget, hser⟩ := hrel hage hne
      refine ⟨?_, r, atmPress, hget, hser, hinv.same r (List.mem_of_getElem? hget)⟩
      simp only [List.mem_cons, List.not_mem_nil, or_false, ← UInt32.toNat_inj]
      change a.m_updateAge.toNat = 1 ∨ a.m_updateAge.toNat = 2 ∨ a.m_updateAge.toNat = 3
      omega
  · cases hlast

/-- Two cycles with one aircraft.  Between them the own position rises by a hundred meters. -/
def twoCycles (utc : Tm) : List Act :=
  [.updateAircraft
      { m_id := str "AA", m_targetType := .FLARM, m_timeStamp := { m_value := 5, m_day := 1 } },
    .get_position, .get_atmPressure, .processAircrafts, .serializeAircrafts, .serializeGps utc,
    .serializeAtmosphere, .serializeWind, .send,
    .updateGps utc
      { m_position := { altitude := 100 }, m_timeStamp := { m_value := 5, m_day := 1 } },
    .get_position, .get_atmPressure, .processAircrafts, .serializeAircrafts]

theorem message_relative_two_cycles :
    ∃ events s, run (step .atOrigin) (ofConfig 0 1013.25 {} false ⟨0, 0, 12, 1, 0, 100⟩)
        (twoCycles ⟨0, 0, 12, 1, 0, 100⟩ ++ [.serializeGps ⟨1, 0, 12, 1, 0, 100⟩]) =
        some (events, s) ∧
      ∃ p, events.getLast? = some (.gpsReported p) ∧
        s.message = (History.ofEvents events).reported.flatMap (·.m_serialized) ++
          (GpsProcessor.sentenceGPGGA ⟨1, 0, 12, 1, 0, 100⟩ p ++
            GpsProcessor.sentenceGPRMC ⟨1, 0, 12, 1, 0, 100⟩ p) ∧
        ∀ a ∈ (History.ofEvents events).reported, a.m_serialized ≠ [] →
          a.m_updateAge ∈ [1, 2, 3] ∧
          ∃ r atmPress, (History.ofEvents events).reads[a.m_updateAge.toNat - 1]? = some r ∧
            a.m_serialized = AircraftProcessor.report .atOrigin 0 r.position atmPress a ∧
            (r.moved = false → r.position = p.m_position) := by
  have hdefined : (run (step .atOrigin) (ofConfig 0 1013.25 {} false ⟨0, 0, 12, 1, 0, 100⟩)
      (twoCycles ⟨0, 0, 12, 1, 0, 100⟩ ++ [.serializeGps ⟨1, 0, 12, 1, 0, 100⟩])).isSome = true := by
    decide
  obtain ⟨⟨events, s⟩, hrun⟩ := Option.isSome_iff_exists.mp hdefined
  have hfresh : ∀ act ∈ twoCycles ⟨0, 0, 12, 1, 0, 100⟩, act.Fresh := by
    simp only [twoCycles, List.forall_mem_cons]
    exact ⟨⟨rfl, rfl⟩, trivial, trivial, trivial, trivial, trivial, trivial, trivial, trivial,
      trivial, trivial, trivial, trivial, trivial, by simp⟩
  exact ⟨events, s, hrun, message_relative _ _ _ _ _ _ _ hfresh _ events s hrun⟩

/-! ### One message, one reference position -/

/-- Every report in a message was computed relative to the position of the GGA sentence in it. -/
def OnePosition (m : Libm) (maxDist : Int32) (events : List Event) : Prop :=
  ∀ before p rest, events = before ++ .gpsReported p :: rest →
    ∀ a ∈ (History.ofEvents before).reported, a.m_serialized ≠ [] →
      ∃ atmPress, a.m_serialized = AircraftProcessor.report m maxDist p.m_position atmPress a

def gpsPosition : Event → Option Position
  | .gpsReported p => some p.m_position
  | _ => none

-- The height of a FLARM target is relative to the own altitude, not to the pressure.
theorem report_flarm (m : Libm) (maxDist : Int32) (ref : Position) (p q : Double) {a : Aircraft}
    (h : a.m_targetType = .FLARM) :
    AircraftProcessor.report m maxDist ref p a = AircraftProcessor.report m maxDist ref q a := by
  unfold AircraftProcessor.report AircraftProcessor.calculateRelPosition
  simp only [h, reduceCtorEq, if_false]

/-- The second message repeats the report that the first cycle computed, hundred meters lower. -/
theorem not_onePosition_two_cycles :
    ∃ events s, run (step .atOrigin) (ofConfig 0 1013.25 {} false ⟨0, 0, 12, 1, 0, 100⟩)
        (twoCycles ⟨0, 0, 12, 1, 0, 100⟩ ++ [.serializeGps ⟨1, 0, 12, 1, 0, 100⟩]) =
        some (events, s) ∧ ¬ OnePosition .atOrigin 0 events := by
  have heval : (run (step .atOrigin) (ofConfig 0 1013.25 {} false ⟨0, 0, 12, 1, 0, 100⟩)
      (twoCycles ⟨0, 0, 12, 1, 0, 100⟩ ++ [.serializeGps ⟨1, 0, 12, 1, 0, 100⟩])).map
      (fun r => (r.1.getLast?.bind gpsPosition, (History.ofEvents r.1.dropLast).reported)) =
      some (some { altitude := 100 },
        [{ m_id := str "AA", m_targetType := .FLARM, m_updateAge := 2
           m_timeStamp := { m_value := 5, m_day := 1 }
           m_serialized :=
             str "$PFLAU,,,,1,0,0,0,0,0,AA*4f\r\n$PFLAA,0,0,0,0,1,AA,,,,,8*7f\r\n" }]) := by
    decide +kernel
  obtain ⟨⟨events, s⟩, hrun, hpair⟩ := Option.map_eq_some_iff.mp heval
  simp only [Prod.mk.injEq, Option.bind_eq_some_iff] at hpair
  obtain ⟨⟨event, hlast, hposition⟩, hreported⟩ := hpair
  refine ⟨events, s, hrun, ?_⟩
  intro hone
  cases event with
  | gpsReported p =>
      have hsplit : events = events.dropLast ++ [.gpsReported p] :=
        (List.dropLast_append_getLast? _ hlast).symm
      have hreport := hone _ p [] hsplit
      rw [hreported] at hreport
      obtain ⟨atmPress, hser⟩ := hreport _ (List.mem_singleton_self _) (by decide)
      rw [Option.some.inj hposition, report_flarm _ _ _ atmPress 1013.25 rfl] at hser
      revert hser
      decide +kernel
  | _ => cases hposition

end VFRB

end VirtualFlightRadar
