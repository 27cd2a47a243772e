import VirtualFlightRadar.Data.AircraftIndex

/-!
# The aircraft store as a map with ages

`AircraftSpec` says what the store is for: for every present id the last accepted report and the
number of ticks since, in the order of insertion.  The store refines it: the aircraft in the vector
is `Entry.stored`, a function of the entry, so every call of a run returns what the specification
returns.
-/

open Cxx

namespace VirtualFlightRadar

/-! ## A pass with the processor of the store -/

/-- What the reports of a pass depend on. -/
structure RefersTo (p : AircraftProcessor) (maxDist : Int32) (ref : Position) (atmPress : Double) :
    Prop where
  maxDistance : p.m_maxDistance = maxDist
  refPosition : p.m_refPosition = ref
  refAtmPressure : p.m_refAtmPressure = atmPress

namespace Pass

/-- A pass over one aircraft, from the reference alone. -/
def tick (m : Libm) (maxDist : Int32) (ref : Position) (atmPress : Double) (a : Aircraft) :
    Option Aircraft :=
  if (age a).m_updateAge ≥ AC_DELETE_THRESHOLD then none
  -- Only the first tick computes a report; later ones keep the string.
  else if (age a).m_updateAge = 1 then
    some { age a with
      m_serialized := AircraftProcessor.report m maxDist ref atmPress (age a) }
  else some (age a)

theorem visit_processOf {m : Libm} {maxDist : Int32} {ref : Position} {atmPress : Double}
    {p : AircraftProcessor} (h : RefersTo p maxDist ref atmPress) (a : Aircraft) :
    (visit (processOf m) p a).2 = tick m maxDist ref atmPress a ∧
      RefersTo (visit (processOf m) p a).1 maxDist ref atmPress := by
  obtain ⟨hser, hmax, hpos, hpress⟩ := AircraftProcessor.process_spec m p (age a)
  unfold visit tick
  simp only
  split
  · exact ⟨rfl, h⟩
  · split
    · simp only [processOf, hser, h.maxDistance, h.refPosition, h.refAtmPressure]
      exact ⟨trivial, hmax.trans h.maxDistance, hpos.trans h.refPosition,
        hpress.trans h.refAtmPressure⟩
    · exact ⟨rfl, h⟩

theorem sweep_processOf {m : Libm} {maxDist : Int32} {ref : Position} {atmPress : Double}
    {p : AircraftProcessor} (h : RefersTo p maxDist ref atmPress) (container : List Aircraft) :
    (sweep (processOf m) p container).2 = container.filterMap (tick m maxDist ref atmPress) ∧
      RefersTo (sweep (processOf m) p container).1 maxDist ref atmPress := by
  induction container generalizing p with
  | nil => exact ⟨rfl, h⟩
  | cons a rest ih =>
      obtain ⟨hkept, hp⟩ := visit_processOf (m := m) h a
      obtain ⟨hrest, hp'⟩ := ih hp
      refine ⟨?_, hp'⟩
      rw [List.filterMap_cons]
      simp only [sweep, hkept, hrest]
      cases tick m maxDist ref atmPress a <;> rfl

theorem tick_id {m : Libm} {maxDist : Int32} {ref : Position} {atmPress : Double}
    {a a' : Aircraft} (h : tick m maxDist ref atmPress a = some a') : a'.m_id = a.m_id := by
  unfold tick at h
  split at h
  · cases h
  · split at h <;> cases h <;> exact age_id a

end Pass

/-- The vector after `processAircrafts`, in a state with a sound index. -/
theorem AircraftData.RepInv.processAircrafts {d : AircraftData} (h : d.RepInv) (m : Libm)
    (ref : Position) (atmPress : Double) :
    (d.processAircrafts (processOf m) ref atmPress).m_container =
        d.m_container.filterMap (Pass.tick m d.m_processor.m_maxDistance ref atmPress) ∧
      (d.processAircrafts (processOf m) ref atmPress).m_processor.m_maxDistance =
        d.m_processor.m_maxDistance ∧
      (d.processAircrafts (processOf m) ref atmPress).RepInv := by
  obtain ⟨hcontainer, hproc, hinv, -⟩ := h.pass (processOf m) ref atmPress
  obtain ⟨hsweep, hrefers⟩ := Pass.sweep_processOf (m := m)
    (⟨rfl, rfl, rfl⟩ : RefersTo (d.m_processor.referTo ref atmPress) d.m_processor.m_maxDistance
      ref atmPress) d.m_container
  refine ⟨hcontainer.trans hsweep, ?_, hinv⟩
  exact (congrArg AircraftProcessor.m_maxDistance hproc).trans hrefers.maxDistance

theorem AircraftData.get_serialized_eq (d : AircraftData) (dest : Bytes) :
    d.get_serialized dest = dest ++ d.m_container.flatMap fun a =>
      if a.m_updateAge < OBJ_OUTDATED then a.m_serialized else [] := by
  unfold get_serialized
  induction d.m_container generalizing dest with
  | nil => simp
  | cons a rest ih => rw [List.foldl_cons, ih, List.flatMap_cons, List.append_assoc]

/-! ## The specification -/

/-- A present id: its last accepted report, the ticks since, and the arguments of the first tick. -/
structure Entry where
  report : Aircraft
  ticks : Nat := 0
  reference : Option (Position × Double) := none

namespace Entry

def accepts (e : Entry) (x : Aircraft) : Bool :=
  x.m_timeStamp.gt e.report.m_timeStamp &&
    (decide (4 ≤ e.ticks) || e.report.m_targetType == .TRANSPONDER || x.m_targetType == .FLARM) &&
    (decide (e.report.m_lastPriority ≤ x.m_lastPriority) || decide (4 ≤ e.ticks))

def tick (ref : Position) (atmPress : Double) (e : Entry) : Option Entry :=
  -- `none` for the tick that removes the entry
  if e.ticks + 1 = 120 then none
  else some { e with
    ticks := e.ticks + 1
    reference := if e.ticks = 0 then some (ref, atmPress) else e.reference }

/-- The string `AircraftProcessor::process` computed for the report at its first tick. -/
def serialized (m : Libm) (maxDist : Int32) (e : Entry) : Bytes :=
  match e.reference with
  | some (ref, atmPress) => AircraftProcessor.report m maxDist ref atmPress e.report
  | none => []

def message (m : Libm) (maxDist : Int32) (e : Entry) : Bytes :=
  if 1 ≤ e.ticks ∧ e.ticks < 4 then e.serialized m maxDist else []

end Entry

structure AircraftSpec where
  entries : Map Bytes Entry := Map.empty
  order : List Bytes := []

namespace AircraftSpec

def update (s : AircraftSpec) (x : Aircraft) : Bool × AircraftSpec :=
  match s.entries x.m_id with
  | none =>
      (true, { entries := s.entries.set x.m_id { report := x }, order := s.order ++ [x.m_id] })
  | some e =>
      if e.accepts x then (true, { s with entries := s.entries.set x.m_id { report := x } })
      else (false, s)

def processAircrafts (s : AircraftSpec) (ref : Position) (atmPress : Double) : AircraftSpec where
  entries := fun id => (s.entries id).bind (Entry.tick ref atmPress)
  order := s.order.filter fun id => ((s.entries id).bind (Entry.tick ref atmPress)).isSome

def get_serialized (m : Libm) (maxDist : Int32) (s : AircraftSpec) (dest : Bytes) : Bytes :=
  dest ++ s.order.flatMap fun id =>
    match s.entries id with
    | some e => e.message m maxDist
    | none => []

def step (m : Libm) (maxDist : Int32) (s : AircraftSpec) : AircraftOp → AircraftResult × AircraftSpec
  | .update x => let (accepted, s) := s.update x; (.updated accepted, s)
  | .processAircrafts ref atmPress => (.processed, s.processAircrafts ref atmPress)
  | .get_serialized dest => (.serialized (s.get_serialized m maxDist dest), s)

end AircraftSpec

/-! ## The aircraft of an entry -/

namespace Entry

def stored (m : Libm) (maxDist : Int32) (e : Entry) : Aircraft :=
  -- The store forgets that a report came from FLARM once it is outdated; the entry does not.
  { e.report with
    m_updateAge := UInt32.ofNat e.ticks
    m_serialized := e.serialized m maxDist
    m_targetType := if 4 ≤ e.ticks then .TRANSPONDER else e.report.m_targetType }

structure WF (e : Entry) : Prop where
  ticks_lt : e.ticks < 120
  reference : e.reference = none ↔ e.ticks = 0

theorem WF.new (x : Aircraft) : WF { report := x } := ⟨Nat.zero_lt_succ _, by simp⟩

theorem stored_fresh (m : Libm) (maxDist : Int32) {x : Aircraft} (h : x.Fresh) :
    stored m maxDist { report := x } = x := by
  obtain ⟨hage, hser⟩ := h
  -- Without ticks `stored` writes the age and the string that a fresh report already has.
  obtain ⟨⟨prio, age, ser⟩, _⟩ := x
  cases hage
  cases hser
  rfl

theorem toNat_ticks {e : Entry} (h : e.WF) : (UInt32.ofNat e.ticks).toNat = e.ticks :=
  UInt32.toNat_ofNat_of_lt' (lt_trans h.ticks_lt (by decide))

theorem toNat_ticks_succ {e : Entry} (h : e.WF) : (UInt32.ofNat e.ticks + 1).toNat = e.ticks + 1 := by
  have hlt := h.ticks_lt
  rw [UInt32.toNat_add, toNat_ticks h]
  change (e.ticks + 1) % 2 ^ 32 = e.ticks + 1
  omega

/-- `Aircraft::canUpdate` decides as the specification does. -/
theorem canUpdate_stored {m : Libm} {maxDist : Int32} {e : Entry} (h : e.WF) (x : Aircraft) :
    x.canUpdate (e.stored m maxDist) = e.accepts x := by
  have hage : decide ((e.stored m maxDist).m_updateAge ≥ OBJ_OUTDATED) = decide (4 ≤ e.ticks) := by
    have hticks : (e.stored m maxDist).m_updateAge.toNat = e.ticks := toNat_ticks h
    rw [decide_eq_decide, ge_iff_le, UInt32.le_iff_toNat_le, hticks]
    exact Iff.rfl
  have htarget : ((e.stored m maxDist).m_targetType == TargetType.TRANSPONDER) =
      (decide (4 ≤ e.ticks) || e.report.m_targetType == .TRANSPONDER) := by
    by_cases h4 : 4 ≤ e.ticks <;> simp [stored, h4]
  unfold Aircraft.canUpdate Object.canUpdate accepts
  rw [htarget, hage]
  rfl

/-- A pass over the stored aircraft stores the ticked entry. -/
theorem age_stored (m : Libm) (maxDist : Int32) {e : Entry} (h : e.WF) :
    Pass.age (e.stored m maxDist) =
      { e.report with
        m_updateAge := UInt32.ofNat (e.ticks + 1)
        m_serialized := e.serialized m maxDist
        m_targetType := if 4 ≤ e.ticks + 1 then .TRANSPONDER else e.report.m_targetType } := by
  have hofNat : UInt32.ofNat (e.ticks + 1) = UInt32.ofNat e.ticks + 1 := by
    rw [UInt32.ofNat_add]
    rfl
  have h4 : UInt32.ofNat e.ticks + 1 = AC_NO_FLARM_THRESHOLD ↔ e.ticks + 1 = 4 := by
    rw [← UInt32.toNat_inj, toNat_ticks_succ h]
    exact Iff.rfl
  unfold Pass.age stored Object.incr
  simp only [h4, hofNat]
  -- The demotion fires on one tick and stays, as the entry's bound says from then on.
  by_cases heq : e.ticks + 1 = 4
  · rw [if_pos heq, if_pos (by omega : 4 ≤ e.ticks + 1)]
  · rw [if_neg heq]
    by_cases hge : 4 ≤ e.ticks
    · rw [if_pos hge, if_pos (by omega : 4 ≤ e.ticks + 1)]
    · rw [if_neg hge, if_neg (by omega : ¬ 4 ≤ e.ticks + 1)]

theorem tick_stored {m : Libm} {maxDist : Int32} {e : Entry} (h : e.WF) (ref : Position)
    (atmPress : Double) :
    Pass.tick m maxDist ref atmPress (e.stored m maxDist) =
      (e.tick ref atmPress).map (stored m maxDist) := by
  have hlt := h.ticks_lt
  have haged := age_stored m maxDist h
  have hage : (Pass.age (e.stored m maxDist)).m_updateAge.toNat = e.ticks + 1 := by
    rw [Pass.age_updateAge]
    exact toNat_ticks_succ h
  have hdel : (Pass.age (e.stored m maxDist)).m_updateAge ≥ AC_DELETE_THRESHOLD ↔
      e.ticks + 1 = 120 := by
    rw [ge_iff_le, UInt32.le_iff_toNat_le, hage]
    change 120 ≤ e.ticks + 1 ↔ _
    omega
  have hone : (Pass.age (e.stored m maxDist)).m_updateAge = 1 ↔ e.ticks = 0 := by
    rw [← UInt32.toNat_inj, hage]
    change e.ticks + 1 = 1 ↔ _
    omega
  unfold Pass.tick tick
  simp only [hdel, hone]
  by_cases h120 : e.ticks + 1 = 120
  · rw [if_pos h120, if_pos h120]
    rfl
  · rw [if_neg h120, if_neg h120]
    by_cases h0 : e.ticks = 0
    · -- The first tick: the report is computed, and it does not read what the store changed.
      simp only [h0, if_true, Option.map_some, haged]
      rfl
    · simp only [h0, if_false, Option.map_some, haged]
      rfl

theorem WF.tick {e e' : Entry} (h : e.WF) {ref : Position} {atmPress : Double}
    (ht : e.tick ref atmPress = some e') : e'.WF ∧ e'.report = e.report := by
  have hlt := h.ticks_lt
  unfold Entry.tick at ht
  split at ht
  · cases ht
  · rename_i h120
    cases ht
    refine ⟨⟨by simp only; omega, ?_⟩, rfl⟩
    by_cases h0 : e.ticks = 0
    · simp [h0]
    · simp [h0, h.reference]

theorem message_stored {m : Libm} {maxDist : Int32} {e : Entry} (h : e.WF) :
    (if (e.stored m maxDist).m_updateAge < OBJ_OUTDATED then (e.stored m maxDist).m_serialized
      else []) = e.message m maxDist := by
  have hlt : (e.stored m maxDist).m_updateAge < OBJ_OUTDATED ↔ e.ticks < 4 := by
    have hticks : (e.stored m maxDist).m_updateAge.toNat = e.ticks := toNat_ticks h
    rw [UInt32.lt_iff_toNat_lt, hticks]
    exact Iff.rfl
  simp only [hlt, message]
  by_cases h0 : e.ticks = 0
  · -- No tick yet: the age would allow a report, but there is none.
    simp [stored, serialized, h.reference.mpr h0, h0]
  · by_cases h4 : e.ticks < 4
    · rw [if_pos h4, if_pos ⟨by omega, h4⟩]
      rfl
    · rw [if_neg h4, if_neg (fun hc => h4 hc.2)]

end Entry

/-! ## The simulation -/

-- Only `update` brings an object from outside.
def AircraftOp.Fresh : AircraftOp → Prop
  | .update x => x.Fresh
  | .processAircrafts .. => True
  | .get_serialized _ => True

/-- The state of the store and the state of the specification after the same calls. -/
structure Refines (m : Libm) (maxDist : Int32) (d : AircraftData) (s : AircraftSpec) : Prop where
  rep : d.RepInv
  config : d.m_processor.m_maxDistance = maxDist
  order : s.order = ids d.m_container
  stored : ∀ a ∈ d.m_container, ∃ e, s.entries a.m_id = some e ∧ e.WF ∧ a = e.stored m maxDist
  absent : ∀ id ∉ s.order, s.entries id = none

namespace Refines

variable {m : Libm} {maxDist : Int32} {d : AircraftData} {s : AircraftSpec}

theorem empty (m : Libm) (maxDist : Int32) : Refines m maxDist (.ofMaxDist maxDist) {} where
  rep := .empty maxDist
  config := rfl
  order := rfl
  stored := fun a ha => absurd ha (by simp [AircraftData.ofMaxDist])
  absent := fun _ _ => rfl

theorem assign_eq {stored x : Aircraft} (hid : stored.m_id = x.m_id) (hx : x.Fresh) :
    stored.assign x = x := by
  obtain ⟨hage, -⟩ := hx
  obtain ⟨⟨prio, age, ser⟩, _⟩ := x
  cases hage
  -- `assign` copies everything but the id, which is the same, and sets the age to zero.
  unfold Aircraft.assign
  rw [hid]
  rfl

theorem insert (h : Refines m maxDist d s) {x : Aircraft} (hx : x.Fresh)
    (hnone : d.m_index x.m_id = none) :
    Refines m maxDist (d.insert x)
      { entries := s.entries.set x.m_id { report := x }, order := s.order ++ [x.m_id] } := by
  have hnew : x.m_id ∉ ids d.m_container := Indexed.notMem h.rep hnone
  refine ⟨(h.rep.update_new hnone).2, h.config, ?_, fun a ha => ?_, fun id hid => ?_⟩
  · simp only [AircraftData.insert, ids, List.map_append, List.map_cons, List.map_nil]
    rw [h.order]
    rfl
  · rcases List.mem_append.mp ha with hold | hlast
    · have hne : a.m_id ≠ x.m_id := fun heq => hnew (heq ▸ List.mem_map_of_mem hold)
      obtain ⟨e, he, hrest⟩ := h.stored a hold
      exact ⟨e, (Map.set_of_ne _ _ hne).trans he, hrest⟩
    · rw [List.mem_singleton.mp hlast]
      exact ⟨_, Map.set_self .., .new x, (Entry.stored_fresh m maxDist hx).symm⟩
  · rw [List.mem_append, List.mem_singleton, not_or] at hid
    exact (Map.set_of_ne _ _ hid.2).trans (h.absent id hid.1)

theorem replace (h : Refines m maxDist d s) {x stored : Aircraft} {i : Nat} (hx : x.Fresh)
    (hget : d.m_container[i]? = some stored) (hid : stored.m_id = x.m_id)
    (hrep : AircraftData.RepInv { d with m_container := d.m_container.set i x }) :
    Refines m maxDist { d with m_container := d.m_container.set i x }
      { s with entries := s.entries.set x.m_id { report := x } } := by
  refine ⟨hrep, h.config, by rw [ids_set hget hid.symm]; exact h.order, fun a ha => ?_,
    fun id hnot => ?_⟩
  · rcases mem_set_of_nodup h.rep.nodup hget ha with rfl | ⟨hold, hne⟩
    · exact ⟨_, Map.set_self .., .new a, (Entry.stored_fresh m maxDist hx).symm⟩
    · obtain ⟨e, he, hrest⟩ := h.stored a hold
      exact ⟨e, (Map.set_of_ne _ _ (hid ▸ hne)).trans he, hrest⟩
  · have hne : id ≠ x.m_id := by
      intro heq
      apply hnot
      rw [heq, ← hid, h.order]
      exact List.mem_map_of_mem (List.mem_of_getElem? hget)
    exact (Map.set_of_ne _ _ hne).trans (h.absent id hnot)

theorem update (h : Refines m maxDist d s) {x : Aircraft} (hx : x.Fresh) :
    ∃ d', d.update x = some ((s.update x).1, d') ∧ Refines m maxDist d' (s.update x).2 := by
  cases hi : d.m_index x.m_id with
  | none =>
      have hentry : s.entries x.m_id = none := by
        apply h.absent
        rw [h.order]
        exact Indexed.notMem h.rep hi
      unfold AircraftSpec.update
      rw [hentry]
      exact ⟨_, (h.rep.update_new hi).1, h.insert hx hi⟩
  | some i =>
      obtain ⟨stored, hget, hid, hupdate, hrep⟩ := h.rep.update_known hi
      obtain ⟨e, hentry, hwf, heq⟩ := h.stored stored (List.mem_of_getElem? hget)
      have hcan : x.canUpdate stored = e.accepts x := by rw [heq, Entry.canUpdate_stored hwf]
      have htry : tryUpdate stored x = if e.accepts x then (true, x) else (false, stored) := by
        rw [← hcan, ← assign_eq hid hx]
        rfl
      rw [hid] at hentry
      unfold AircraftSpec.update
      rw [hentry, hupdate, htry]
      rw [htry] at hrep
      cases haccept : e.accepts x with
      | true =>
          -- The age is zero again and the old string is gone.
          rw [haccept] at hrep
          simp only [haccept, if_true]
          exact ⟨_, rfl, h.replace hx hget hid hrep⟩
      | false =>
          -- A refused update writes the stored aircraft back.
          have hset : d.m_container.set i stored = d.m_container := by
            obtain ⟨hlt, hstored⟩ := List.getElem?_eq_some_iff.mp hget
            rw [← hstored]
            exact List.set_getElem_self hlt
          simp only [haccept, Bool.false_eq_true, if_false, hset]
          exact ⟨_, rfl, h⟩

theorem ids_filterMap {f : Aircraft → Option Aircraft} {keep : Bytes → Bool}
    {container : List Aircraft}
    (hid : ∀ a ∈ container, ∀ a', f a = some a' → a'.m_id = a.m_id)
    (hkeep : ∀ a ∈ container, (f a).isSome = keep a.m_id) :
    ids (container.filterMap f) = (ids container).filter keep := by
  induction container with
  | nil => rfl
  | cons a rest ih =>
      have hrest := ih (fun b hb => hid b (by simp [hb])) (fun b hb => hkeep b (by simp [hb]))
      have hka := hkeep a (by simp)
      have hida := hid a (by simp)
      simp only [ids, List.map_cons, List.filterMap_cons, List.filter_cons] at hrest ⊢
      cases hf : f a with
      | none =>
          rw [hf] at hka
          simp only [← hka, Option.isSome_none, Bool.false_eq_true, if_false, hrest]
      | some a' =>
          rw [hf] at hka
          simp only [← hka, Option.isSome_some, if_true, List.map_cons, hrest, hida a' hf]

theorem processAircrafts (h : Refines m maxDist d s) (ref : Position) (atmPress : Double) :
    Refines m maxDist (d.processAircrafts (processOf m) ref atmPress)
      (s.processAircrafts ref atmPress) := by
  obtain ⟨hcontainer, hconfig, hrep⟩ := h.rep.processAircrafts m ref atmPress
  rw [h.config] at hcontainer hconfig
  have hticked : ∀ a ∈ d.m_container, Pass.tick m maxDist ref atmPress a =
      ((s.entries a.m_id).bind (Entry.tick ref atmPress)).map (Entry.stored m maxDist) := by
    intro a ha
    obtain ⟨e, hentry, hwf, heq⟩ := h.stored a ha
    rw [hentry, Option.bind_some, heq]
    exact Entry.tick_stored hwf ref atmPress
  refine ⟨hrep, hconfig, ?_, fun a' ha' => ?_, fun id hid => ?_⟩
  · -- The vector and the order drop the same ids.
    rw [hcontainer]
    change s.order.filter _ = _
    rw [h.order]
    refine (ids_filterMap (fun a _ a' hkept => Pass.tick_id hkept) fun a ha => ?_).symm
    rw [hticked a ha, Option.isSome_map]
  · rw [hcontainer, List.mem_filterMap] at ha'
    obtain ⟨a, ha, hkept⟩ := ha'
    have hid := Pass.tick_id hkept
    obtain ⟨e, hentry, hwf, heq⟩ := h.stored a ha
    rw [hticked a ha, hentry, Option.bind_some, Option.map_eq_some_iff] at hkept
    obtain ⟨e', htick, rfl⟩ := hkept
    refine ⟨e', ?_, (hwf.tick htick).1, rfl⟩
    change (s.entries _).bind _ = some e'
    rw [hid, hentry, Option.bind_some, htick]
  · -- An id is absent because this tick removed it or because it was absent before.
    change (s.entries id).bind _ = none
    by_cases hmem : id ∈ s.order
    · have hnone := hid
      simp only [AircraftSpec.processAircrafts, List.mem_filter, hmem, true_and,
        Option.not_isSome_iff_eq_none] at hnone
      exact hnone
    · rw [h.absent id hmem]
      rfl

theorem get_serialized (h : Refines m maxDist d s) (dest : Bytes) :
    d.get_serialized dest = s.get_serialized m maxDist dest := by
  rw [AircraftData.get_serialized_eq, AircraftSpec.get_serialized, h.order, ids, List.flatMap_map]
  congr 1
  apply List.flatMap_congr
  intro a ha
  obtain ⟨e, hentry, hwf, heq⟩ := h.stored a ha
  rw [hentry]
  simp only
  rw [heq, Entry.message_stored hwf]

theorem step (h : Refines m maxDist d s) {op : AircraftOp} (hop : op.Fresh) :
    ∃ d', d.step (processOf m) op = some ((s.step m maxDist op).1, d') ∧
      Refines m maxDist d' (s.step m maxDist op).2 := by
  cases op with
  | update x =>
      obtain ⟨d', hupdate, hd'⟩ := h.update hop
      exact ⟨d', by rw [AircraftData.step, hupdate]; rfl, hd'⟩
  | processAircrafts ref atmPress => exact ⟨_, rfl, h.processAircrafts ref atmPress⟩
  | get_serialized dest =>
      refine ⟨d, ?_, h⟩
      rw [AircraftData.step, h.get_serialized dest]
      rfl

end Refines

/-- Every run of the store, from the empty one and with reports as the feeds build them, returns
call by call what the specification returns, and ends in a state that refines its state. -/
theorem AircraftData.run_refines_spec (m : Libm) (maxDist : Int32) (ops : List AircraftOp)
    (hfresh : ∀ op ∈ ops, op.Fresh) :
    ∃ d, run (step (processOf m)) (ofMaxDist maxDist) ops =
        some ((trace (AircraftSpec.step m maxDist) {} ops).1, d) ∧
      Refines m maxDist d (trace (AircraftSpec.step m maxDist) {} ops).2 := by
  refine run_of_simulation (Refines m maxDist) ?_ (Refines.empty m maxDist) ops hfresh
  intro d s op h hop
  exact h.step hop

/-- An aircraft at the own position: a second report of the same time is refused, and the first is
what the message holds. -/
theorem AircraftData.run_refines_spec_at_origin :
    ∃ d, run (step (processOf .atOrigin)) (ofMaxDist 0)
      [.update { m_id := str "AA", m_timeStamp := { m_value := 5, m_day := 1 } },
        .update { m_id := str "AA", m_timeStamp := { m_value := 5, m_day := 1 } },
        .processAircrafts {} 1013.25, .get_serialized []] =
      some ([.updated true, .updated false, .processed,
        .serialized (str "$PFLAU,,,,1,0,0,0,0,0,AA*4f\r\n$PFLAA,0,0,0,0,1,AA,,,,,8*7f\r\n")], d) := by
  obtain ⟨d, hrun, -⟩ := run_refines_spec .atOrigin 0
    [.update { m_id := str "AA", m_timeStamp := { m_value := 5, m_day := 1 } },
      .update { m_id := str "AA", m_timeStamp := { m_value := 5, m_day := 1 } },
      .processAircrafts {} 1013.25, .get_serialized []]
    (by simp only [List.forall_mem_cons]; exact ⟨⟨rfl, rfl⟩, ⟨rfl, rfl⟩, trivial, trivial, by simp⟩)
  refine ⟨d, hrun.trans (congrArg (fun results => some (results, d)) ?_)⟩
  decide +kernel

end VirtualFlightRadar
