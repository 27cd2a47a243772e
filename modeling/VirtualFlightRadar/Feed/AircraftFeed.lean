import VirtualFlightRadar.Data.AircraftMessage
import VirtualFlightRadar.Feed.AprsParser
import VirtualFlightRadar.Feed.SbsParser

/-!
# The feeds of the aircraft store

`AprscFeed` and `SbsFeed` give every line to their parser and an accepted aircraft to the store.
The height filter is in the parsers, the distance filter in the processor, whose result the store
keeps until the next accepted report.
-/

open Cxx

namespace VirtualFlightRadar

/-- `if (s_parser.unpack(response, ac)) m_data->update(std::move(ac)); return true;` -/
def processUnpacked (unpacked : Bool × Aircraft) (data : AircraftData) :
    Option (Bool × AircraftData) :=
  match unpacked with
  | (true, ac) => (data.update ac).map fun (_, data) => (true, data)
  | (false, _) => some (true, data)

def AprscFeed.process (boost : BoostRegex) (clock : DateTime) (s_maxHeight : Int32)
    (priority : UInt32) (response : Bytes) (data : AircraftData) : Option (Bool × AircraftData) :=
  processUnpacked (AprsParser.unpack boost clock s_maxHeight response (.ofPriority priority)) data

def SbsFeed.process (clock : DateTime) (s_maxHeight : Int32) (priority : UInt32)
    (response : Bytes) (data : AircraftData) : Option (Bool × AircraftData) :=
  processUnpacked (SbsParser.unpack clock s_maxHeight response (.ofPriority priority)) data

/-! ## Runs of feeds and serving thread -/

/-- A line for a feed of some priority, with the clock its parser reads, or a call of the serving
thread. -/
inductive AircraftFeedOp where
  | aprsc (clock : DateTime) (priority : UInt32) (response : Bytes)
  | sbs (clock : DateTime) (priority : UInt32) (response : Bytes)
  | processAircrafts (position : Position) (atmPress : Double)
  | get_serialized (dest : Bytes)

inductive AircraftFeedResult where
  | processed (valid : Bool)
  | done
  | serialized (dest : Bytes)

namespace AircraftFeed

def step (m : Libm) (boost : BoostRegex) (maxHeight : Int32) (d : AircraftData) :
    AircraftFeedOp → Option (AircraftFeedResult × AircraftData)
  | .aprsc clock priority response =>
      (AprscFeed.process boost clock maxHeight priority response d).map fun (valid, d) =>
        (.processed valid, d)
  | .sbs clock priority response =>
      (SbsFeed.process clock maxHeight priority response d).map fun (valid, d) =>
        (.processed valid, d)
  | .processAircrafts position atmPress =>
      some (.done, d.processAircrafts (processOf m) position atmPress)
  | .get_serialized dest => some (.serialized (d.get_serialized dest), d)

/-- The report an aircraft carries was built by a call of `processAircrafts` in the run, from the
aircraft that was stored at that time. -/
structure BuiltIn (m : Libm) (boost : BoostRegex) (maxHeight maxDist : Int32)
    (ops : List AircraftFeedOp) (a : Aircraft) : Prop where
  call : ∃ pre position atmPress post results d, ∃ stored ∈ d.m_container,
    ops = pre ++ .processAircrafts position atmPress :: post ∧
    run (step m boost maxHeight) (.ofMaxDist maxDist) pre = some (results, d) ∧
    stored.m_id = a.m_id ∧ stored.m_position = a.m_position ∧
    a.m_serialized =
      AircraftProcessor.report m maxDist position atmPress (Pass.age stored) ∧
    (AircraftProcessor.calculateRelPosition m position atmPress (Pass.age stored)).m_distance ≤
      maxDist

structure Filtered (m : Libm) (boost : BoostRegex) (maxHeight maxDist : Int32)
    (ops : List AircraftFeedOp) (d : AircraftData) : Prop where
  rep : d.RepInv
  config : d.m_processor.m_maxDistance = maxDist
  height : ∀ a ∈ d.m_container, a.m_position.altitude ≤ maxHeight
  built : ∀ a ∈ d.m_container, a.m_serialized ≠ [] → BuiltIn m boost maxHeight maxDist ops a

variable {m : Libm} {boost : BoostRegex} {maxHeight maxDist : Int32} {ops : List AircraftFeedOp}
  {d : AircraftData}

theorem BuiltIn.extend {a a' : Aircraft} (h : BuiltIn m boost maxHeight maxDist ops a)
    (op : AircraftFeedOp) (hid : a'.m_id = a.m_id) (hposition : a'.m_position = a.m_position)
    (hserialized : a'.m_serialized = a.m_serialized) :
    BuiltIn m boost maxHeight maxDist (ops ++ [op]) a' := by
  obtain ⟨pre, position, atmPress, post, results, d, stored, hmem, hops, hrun, hid', hposition',
    hreport, hdistance⟩ := h.call
  refine ⟨⟨pre, position, atmPress, post ++ [op], results, d, stored, hmem, ?_, hrun,
    hid'.trans hid.symm, hposition'.trans hposition.symm, hserialized.trans hreport, hdistance⟩⟩
  rw [hops, List.append_assoc, List.cons_append]

theorem Filtered.same (h : Filtered m boost maxHeight maxDist ops d) (op : AircraftFeedOp) :
    Filtered m boost maxHeight maxDist (ops ++ [op]) d :=
  ⟨h.rep, h.config, h.height, fun a ha hne => (h.built a ha hne).extend op rfl rfl rfl⟩

/-- The aircraft of an accepted line, in the state a feed hands it over. -/
structure Accepted (maxHeight : Int32) (a : Aircraft) : Prop where
  fresh : a.Fresh
  height : a.m_position.altitude ≤ maxHeight

theorem Accepted.of_toObject {priority : UInt32} {a : Aircraft}
    (hobject : a.toObject = (Aircraft.ofPriority priority).toObject)
    (hheight : a.m_position.altitude ≤ maxHeight) : Accepted maxHeight a :=
  ⟨⟨by rw [hobject]; rfl, by rw [hobject]; rfl⟩, hheight⟩

theorem accepted_aprsc (boost : BoostRegex) (clock : DateTime) (maxHeight : Int32)
    (priority : UInt32) (response : Bytes)
    (h : (AprsParser.unpack boost clock maxHeight response (.ofPriority priority)).1 = true) :
    Accepted maxHeight
      (AprsParser.unpack boost clock maxHeight response (.ofPriority priority)).2 := by
  obtain ⟨hheight, hobject, -⟩ := AprsParser.unpack_true (Prod.ext h rfl)
  exact .of_toObject hobject hheight

theorem accepted_sbs (clock : DateTime) (maxHeight : Int32) (priority : UInt32) (response : Bytes)
    (h : (SbsParser.unpack clock maxHeight response (.ofPriority priority)).1 = true) :
    Accepted maxHeight (SbsParser.unpack clock maxHeight response (.ofPriority priority)).2 := by
  obtain ⟨hheight, timeStamp, position, hunpacked⟩ := SbsParser.unpack_true (Prod.ext h rfl)
  have hobject := congrArg Aircraft.toObject hunpacked
  exact .of_toObject hobject hheight

theorem Filtered.processUnpacked (h : Filtered m boost maxHeight maxDist ops d)
    (op : AircraftFeedOp) {unpacked : Bool × Aircraft}
    (haccepted : unpacked.1 = true → Accepted maxHeight unpacked.2) :
    ∃ d', processUnpacked unpacked d = some (true, d') ∧
      Filtered m boost maxHeight maxDist (ops ++ [op]) d' := by
  obtain ⟨valid, x⟩ := unpacked
  cases valid with
  | false => exact ⟨d, rfl, h.same op⟩
  | true =>
      obtain ⟨hfresh, hheight⟩ := haccepted rfl
      obtain ⟨accepted, d', hupdate, -⟩ := h.rep.update_mem hfresh
      obtain ⟨hrep, hprocessor, hsubset⟩ := h.rep.update_subset hfresh hupdate
      refine ⟨d', ?_, hrep, by rw [hprocessor]; exact h.config, fun a ha => ?_,
        fun a ha hne => ?_⟩
      · rw [VirtualFlightRadar.processUnpacked, hupdate]
        rfl
      · rcases hsubset a ha with rfl | hold
        · exact hheight
        · exact h.height a hold
      · rcases hsubset a ha with rfl | hold
        · -- A new report has no string yet.
          exact absurd hfresh.serialized hne
        · exact (h.built a hold hne).extend op rfl rfl rfl

theorem tick_cases {position : Position} {atmPress : Double} {a a' : Aircraft}
    (h : Pass.tick m maxDist position atmPress a = some a') :
    a' = { Pass.age a with
        m_serialized := AircraftProcessor.report m maxDist position atmPress (Pass.age a) } ∨
      a' = Pass.age a := by
  unfold Pass.tick at h
  split at h
  · cases h
  · split at h
    · exact .inl (Option.some.inj h).symm
    · exact .inr (Option.some.inj h).symm

theorem age_fields (a : Aircraft) : (Pass.age a).m_position = a.m_position ∧
    (Pass.age a).m_serialized = a.m_serialized := by
  unfold Pass.age
  simp only
  split
  · exact ⟨rfl, rfl⟩
  · exact ⟨rfl, rfl⟩

theorem distance_of_report {position : Position} {atmPress : Double} {a : Aircraft}
    (h : AircraftProcessor.report m maxDist position atmPress a ≠ []) :
    (AircraftProcessor.calculateRelPosition m position atmPress a).m_distance ≤ maxDist := by
  unfold AircraftProcessor.report at h
  simp only at h
  split at h
  next hwithin => exact hwithin
  next => exact absurd rfl h

theorem Filtered.processAircrafts (h : Filtered m boost maxHeight maxDist ops d)
    {results : List AircraftFeedResult}
    (hrun : run (step m boost maxHeight) (.ofMaxDist maxDist) ops = some (results, d))
    (position : Position) (atmPress : Double) :
    Filtered m boost maxHeight maxDist (ops ++ [.processAircrafts position atmPress])
      (d.processAircrafts (processOf m) position atmPress) := by
  obtain ⟨hcontainer, hconfig, hrep⟩ := h.rep.processAircrafts m position atmPress
  rw [h.config] at hcontainer
  refine ⟨hrep, hconfig.trans h.config, fun a ha => ?_, fun a ha hne => ?_⟩
  · rw [hcontainer, List.mem_filterMap] at ha
    obtain ⟨b, hb, htick⟩ := ha
    have hposition : a.m_position = b.m_position := by
      rcases tick_cases htick with rfl | rfl
      · exact (age_fields b).1
      · exact (age_fields b).1
    rw [hposition]
    exact h.height b hb
  · rw [hcontainer, List.mem_filterMap] at ha
    obtain ⟨b, hb, htick⟩ := ha
    rcases tick_cases htick with rfl | rfl
    · -- This is the call that builds the report.
      exact ⟨ops, position, atmPress, [], results, d, b, hb, rfl, hrun, (Pass.age_id b).symm,
        (age_fields b).1.symm, rfl, distance_of_report hne⟩
    · rw [(age_fields b).2] at hne
      exact (h.built b hb hne).extend _ (Pass.age_id b) (age_fields b).1 (age_fields b).2

theorem Filtered.step (h : Filtered m boost maxHeight maxDist ops d)
    {results : List AircraftFeedResult}
    (hrun : run (step m boost maxHeight) (.ofMaxDist maxDist) ops = some (results, d))
    (op : AircraftFeedOp) :
    ∃ result d', AircraftFeed.step m boost maxHeight d op = some (result, d') ∧
      Filtered m boost maxHeight maxDist (ops ++ [op]) d' := by
  cases op with
  | aprsc clock priority response =>
      obtain ⟨d', hprocess, hnext⟩ := h.processUnpacked (.aprsc clock priority response)
        (accepted_aprsc boost clock maxHeight priority response)
      refine ⟨.processed true, d', ?_, hnext⟩
      rw [AircraftFeed.step, AprscFeed.process, hprocess]
      rfl
  | sbs clock priority response =>
      obtain ⟨d', hprocess, hnext⟩ := h.processUnpacked (.sbs clock priority response)
        (accepted_sbs clock maxHeight priority response)
      refine ⟨.processed true, d', ?_, hnext⟩
      rw [AircraftFeed.step, SbsFeed.process, hprocess]
      rfl
  | processAircrafts position atmPress =>
      exact ⟨.done, _, rfl, h.processAircrafts hrun position atmPress⟩
  | get_serialized dest => exact ⟨.serialized _, d, rfl, h.same _⟩

/-- In every run of feeds of one maximum height on a store of one maximum distance, whatever the
lines are: no stored aircraft is too high, and every report a message holds was built by a call of
`processAircrafts` for an aircraft within the distance. -/
theorem filters_never_bypassed (m : Libm) (boost : BoostRegex) (maxHeight maxDist : Int32)
    (ops : List AircraftFeedOp) :
    ∃ results d, run (AircraftFeed.step m boost maxHeight) (.ofMaxDist maxDist) ops =
        some (results, d) ∧
      (∀ a ∈ d.m_container, a.m_position.altitude ≤ maxHeight) ∧
      ∀ dest, d.get_serialized dest = dest ++ d.m_container.flatMap AircraftData.messageOf ∧
        ∀ a ∈ d.m_container, AircraftData.messageOf a ≠ [] →
          AircraftData.messageOf a = a.m_serialized ∧
          BuiltIn m boost maxHeight maxDist ops a := by
  have hinit : Filtered m boost maxHeight maxDist [] (.ofMaxDist maxDist) := by
    refine ⟨.empty maxDist, rfl, fun a ha => ?_, fun a ha => ?_⟩
    · exact absurd ha (by simp [AircraftData.ofMaxDist])
    · exact absurd ha (by simp [AircraftData.ofMaxDist])
  obtain ⟨results, d, hrun, hfiltered⟩ := run_provenance (Filtered m boost maxHeight maxDist) hinit
    (fun ops results d op hrun h => h.step hrun op) ops
  refine ⟨results, d, hrun, hfiltered.height, fun dest => ⟨d.get_serialized_eq dest, ?_⟩⟩
  intro a ha hne
  unfold AircraftData.messageOf at hne ⊢
  split at hne
  next hage =>
    rw [if_pos hage]
    exact ⟨rfl, hfiltered.built a ha hne⟩
  next => exact absurd rfl hne

end AircraftFeed

end VirtualFlightRadar
