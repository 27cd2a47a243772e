import VirtualFlightRadar.Data.AircraftIndex

/-!
# Ages of a pass whose processor throws

The exceptions of a pass are an input of it: `throws` chooses the aircrafts whose report fails, by
their ids, which are distinct.  The handler of `processAircrafts` leaves the cursor where it is and
the age already counted, so the next round counts the same tick again.
-/

open Cxx

namespace VirtualFlightRadar

/-- The processor of the store, where `process` throws for the chosen aircrafts and leaves its own
members as they were `abandoned`. -/
def throwingFor (m : Libm) (throws : Bytes → Bool)
    (abandoned : AircraftProcessor → Aircraft → AircraftProcessor) : Process :=
  fun processor aircraft =>
    if throws aircraft.m_id then (abandoned processor aircraft, none)
    else processOf m processor aircraft

namespace Pass

/-- The id and the age a pass leaves of an aircraft it does not delete. -/
def agedBy (throws : Bytes → Bool) (aircraft : Aircraft) : Option (Bytes × UInt32) :=
  if aircraft.m_updateAge + 1 ≥ AC_DELETE_THRESHOLD then none
  else if aircraft.m_updateAge = 0 ∧ throws aircraft.m_id = true then some (aircraft.m_id, 2)
  else some (aircraft.m_id, aircraft.m_updateAge + 1)

section

variable (m : Libm) (throws : Bytes → Bool)
  (abandoned : AircraftProcessor → Aircraft → AircraftProcessor)

theorem add_one_eq_one_iff (age : UInt32) : age + 1 = 1 ↔ age = 0 := by
  rw [← UInt32.toNat_inj, ← UInt32.toNat_inj, UInt32.toNat_add]
  have hlt := age.toNat_lt
  show (age.toNat + 1) % 2 ^ 32 = 1 ↔ age.toNat = 0
  omega

theorem visit_aged (processor : AircraftProcessor) (aircraft : Aircraft) :
    (visit (throwingFor m throws abandoned) processor aircraft).2.map
      (fun kept => (kept.m_id, kept.m_updateAge)) = agedBy throws aircraft := by
  unfold visit agedBy
  simp only [age_updateAge]
  by_cases hdel : aircraft.m_updateAge + 1 ≥ AC_DELETE_THRESHOLD
  · rw [if_pos hdel, if_pos hdel]
    rfl
  · rw [if_neg hdel, if_neg hdel]
    by_cases hzero : aircraft.m_updateAge = 0
    · -- The one tick that calls the processor
      have hone : aircraft.m_updateAge + 1 = 1 := (add_one_eq_one_iff _).mpr hzero
      rw [if_pos hone]
      by_cases hthrows : throws aircraft.m_id = true
      · have htwo : (age (age aircraft)).m_updateAge = 2 :=
          age_age_updateAge (by rw [age_updateAge, hone])
        rw [if_pos ⟨hzero, hthrows⟩]
        unfold throwingFor
        rw [age_id, if_pos hthrows]
        simp only [Option.map_some, age_id, htwo]
      · rw [if_neg (fun h => hthrows h.2)]
        unfold throwingFor
        rw [age_id, if_neg hthrows]
        rfl
    · have hone : aircraft.m_updateAge + 1 ≠ 1 := mt (add_one_eq_one_iff _).mp hzero
      rw [if_neg hone, if_neg (fun h => hzero h.1)]
      simp only [Option.map_some, age_id, age_updateAge]

theorem sweep_aged (processor : AircraftProcessor) (container : List Aircraft) :
    (sweep (throwingFor m throws abandoned) processor container).2.map
      (fun kept => (kept.m_id, kept.m_updateAge)) = container.filterMap (agedBy throws) := by
  induction container generalizing processor with
  | nil => rfl
  | cons aircraft rest ih =>
      have hvisit := visit_aged m throws abandoned processor aircraft
      simp only [sweep, List.map_append, ih]
      cases hkept : (visit (throwingFor m throws abandoned) processor aircraft).2 with
      | none =>
          rw [hkept] at hvisit
          rw [List.filterMap_cons_none hvisit.symm]
          rfl
      | some kept =>
          rw [hkept] at hvisit
          rw [List.filterMap_cons_some hvisit.symm]
          rfl

end

theorem agedBy_id {throws : Bytes → Bool} {aircraft : Aircraft} {id : Bytes} {age : UInt32}
    (h : agedBy throws aircraft = some (id, age)) : aircraft.m_id = id := by
  unfold agedBy at h
  split at h
  · cases h
  · split at h
    · exact (Prod.mk.inj (Option.some.inj h)).1
    · exact (Prod.mk.inj (Option.some.inj h)).1

theorem agedBy_throw {throws : Bytes → Bool} {aircraft : Aircraft}
    (hzero : aircraft.m_updateAge = 0) (hthrows : throws aircraft.m_id = true) :
    agedBy throws aircraft = some (aircraft.m_id, 2) := by
  unfold agedBy
  rw [if_neg (by rw [hzero]; decide), if_pos ⟨hzero, hthrows⟩]

theorem toNat_add_one {age : UInt32} (h : age.toNat + 1 < 2 ^ 32) :
    (age + 1).toNat = age.toNat + 1 := by
  rw [UInt32.toNat_add]
  show (age.toNat + 1) % 2 ^ 32 = age.toNat + 1
  omega

/-- Without a throw the tick is counted once. -/
theorem agedBy_once {throws : Bytes → Bool} {aircraft : Aircraft}
    (hlt : aircraft.m_updateAge.toNat + 1 < 2 ^ 32)
    (hquiet : aircraft.m_updateAge = 0 → throws aircraft.m_id = false) :
    agedBy throws aircraft =
      if AC_DELETE_THRESHOLD.toNat ≤ aircraft.m_updateAge.toNat + 1 then none
      else some (aircraft.m_id, aircraft.m_updateAge + 1) := by
  have hthreshold : aircraft.m_updateAge + 1 ≥ AC_DELETE_THRESHOLD ↔
      AC_DELETE_THRESHOLD.toNat ≤ aircraft.m_updateAge.toNat + 1 := by
    rw [ge_iff_le, UInt32.le_iff_toNat_le, toNat_add_one hlt]
  have hno : ¬ (aircraft.m_updateAge = 0 ∧ throws aircraft.m_id = true) := by
    intro h
    rw [hquiet h.1] at h
    exact Bool.false_ne_true h.2
  unfold agedBy
  rw [if_neg hno]
  by_cases hdel : AC_DELETE_THRESHOLD.toNat ≤ aircraft.m_updateAge.toNat + 1
  · rw [if_pos (hthreshold.mpr hdel), if_pos hdel]
  · rw [if_neg (mt hthreshold.mp hdel), if_neg hdel]

/-- The last age of the counter goes back to zero, so its aircraft is kept. -/
theorem agedBy_wrap {throws : Bytes → Bool} {aircraft : Aircraft}
    (hwrap : ¬ aircraft.m_updateAge.toNat + 1 < 2 ^ 32) :
    agedBy throws aircraft = some (aircraft.m_id, 0) := by
  have hlt := aircraft.m_updateAge.toNat_lt
  have hmax : aircraft.m_updateAge.toNat = 2 ^ 32 - 1 := by omega
  have hage : aircraft.m_updateAge = 4294967295 := by
    apply UInt32.toNat_inj.mp
    rw [hmax]
    rfl
  unfold agedBy
  rw [hage, if_neg (by decide), if_neg (fun h => absurd h.1 (by decide))]
  rfl

end Pass

namespace AircraftData

/-- A pass ends, counts one tick for every aircraft, deletes exactly those that thereby reach the
threshold, and leaves the index of what is left. -/
structure AgesOnce (process : Process) (d : AircraftData) (position : Position)
    (atmPress : Double) : Prop where
  ends : (d.pass process position atmPress).running = false
  aged : ∀ a ∈ d.m_container, a.m_updateAge.toNat + 1 < AC_DELETE_THRESHOLD.toNat →
    ∃ b ∈ (d.processAircrafts process position atmPress).m_container,
      b.m_id = a.m_id ∧ b.m_updateAge.toNat = a.m_updateAge.toNat + 1
  deleted : ∀ a ∈ d.m_container, AC_DELETE_THRESHOLD.toNat ≤ a.m_updateAge.toNat + 1 →
    a.m_id ∉ ids (d.processAircrafts process position atmPress).m_container
  present : ids (d.processAircrafts process position atmPress).m_container ⊆ ids d.m_container
  index : (d.processAircrafts process position atmPress).RepInv

section

variable (m : Libm) (throws : Bytes → Bool)
  (abandoned : AircraftProcessor → Aircraft → AircraftProcessor) {d : AircraftData}
  (position : Position) (atmPress : Double)

/-- An aircraft is left by the pass exactly where the pass kept it of one that was there. -/
theorem RepInv.left_iff (h : d.RepInv) (id : Bytes) (age : UInt32) :
    (∃ b ∈ (d.processAircrafts (throwingFor m throws abandoned) position atmPress).m_container,
      b.m_id = id ∧ b.m_updateAge = age) ↔
      ∃ a ∈ d.m_container, Pass.agedBy throws a = some (id, age) := by
  have hleft : (d.processAircrafts (throwingFor m throws abandoned) position atmPress).m_container =
      (Pass.sweep (throwingFor m throws abandoned) (d.m_processor.referTo position atmPress)
        d.m_container).2 := (h.pass _ _ _).1
  rw [← List.mem_filterMap, ← Pass.sweep_aged m throws abandoned
    (d.m_processor.referTo position atmPress), ← hleft, List.mem_map]
  simp only [Prod.mk.injEq]

theorem RepInv.eq_of_id (h : d.RepInv) {a b : Aircraft} (ha : a ∈ d.m_container)
    (hb : b ∈ d.m_container) (hid : a.m_id = b.m_id) : a = b :=
  List.inj_on_of_nodup_map h.nodup ha hb hid

theorem mem_ids {container : List Aircraft} {id : Bytes} :
    id ∈ ids container ↔ ∃ b ∈ container, b.m_id = id := List.mem_map

theorem RepInv.left_id (h : d.RepInv) {id : Bytes}
    (hid : id ∈ ids (d.processAircrafts (throwingFor m throws abandoned) position
      atmPress).m_container) :
    ∃ a ∈ d.m_container, a.m_id = id ∧ ∃ age, Pass.agedBy throws a = some (id, age) := by
  obtain ⟨b, hb, hid⟩ := mem_ids.mp hid
  obtain ⟨a, ha, haged⟩ := (h.left_iff m throws abandoned position atmPress id b.m_updateAge).mp
    ⟨b, hb, hid, rfl⟩
  exact ⟨a, ha, Pass.agedBy_id haged, b.m_updateAge, haged⟩

theorem RepInv.agesOnce (h : d.RepInv)
    (hlt : ∀ a ∈ d.m_container, a.m_updateAge.toNat + 1 < 2 ^ 32)
    (hquiet : ∀ a ∈ d.m_container, a.m_updateAge = 0 → throws a.m_id = false) :
    AgesOnce (throwingFor m throws abandoned) d position atmPress := by
  have honce (a : Aircraft) (ha : a ∈ d.m_container) :=
    Pass.agedBy_once (hlt a ha) (hquiet a ha)
  constructor
  · exact (h.pass_at _ position atmPress).1.not_running
  · intro a ha hkept
    have haged := honce a ha
    rw [if_neg (by omega)] at haged
    obtain ⟨b, hb, hid, hage⟩ := (h.left_iff m throws abandoned position atmPress _ _).mpr
      ⟨a, ha, haged⟩
    refine ⟨b, hb, hid, ?_⟩
    rw [hage, Pass.toNat_add_one (hlt a ha)]
  · intro a ha hdel hid
    obtain ⟨a', ha', hid', age, haged⟩ := h.left_id m throws abandoned position atmPress hid
    have hsame : a' = a := h.eq_of_id ha' ha hid'
    rw [hsame, honce a ha, if_pos hdel] at haged
    cases haged
  · intro id hid
    obtain ⟨a, ha, hid, -⟩ := h.left_id m throws abandoned position atmPress hid
    exact mem_ids.mpr ⟨a, ha, hid⟩
  · exact (h.pass _ position atmPress).2.2.1

theorem AgesOnce.quiet (h : d.RepInv)
    (hages : AgesOnce (throwingFor m throws abandoned) d position atmPress) {a : Aircraft}
    (ha : a ∈ d.m_container) (hzero : a.m_updateAge = 0) : throws a.m_id = false := by
  by_contra hthrows
  rw [Bool.not_eq_false] at hthrows
  obtain ⟨b, hb, hid, hage⟩ := hages.aged a ha (by rw [hzero]; decide)
  -- What the pass kept under this id is of the age two.
  obtain ⟨a', ha', haged⟩ := (h.left_iff m throws abandoned position atmPress a.m_id
    b.m_updateAge).mp ⟨b, hb, hid, rfl⟩
  have hsame : a' = a := h.eq_of_id ha' ha (Pass.agedBy_id haged)
  rw [hsame, Pass.agedBy_throw hzero hthrows] at haged
  have htwo : (2 : UInt32) = b.m_updateAge := (Prod.mk.inj (Option.some.inj haged)).2
  rw [← htwo, hzero] at hage
  exact absurd hage (by decide)

theorem AgesOnce.not_wrapped (h : d.RepInv)
    (hages : AgesOnce (throwingFor m throws abandoned) d position atmPress) {a : Aircraft}
    (ha : a ∈ d.m_container) : a.m_updateAge.toNat + 1 < 2 ^ 32 := by
  by_contra hwrap
  have hdel : AC_DELETE_THRESHOLD.toNat ≤ a.m_updateAge.toNat + 1 := by
    show 120 ≤ a.m_updateAge.toNat + 1
    omega
  obtain ⟨b, hb, hid, -⟩ := (h.left_iff m throws abandoned position atmPress a.m_id 0).mpr
    ⟨a, ha, Pass.agedBy_wrap hwrap⟩
  exact hages.deleted a ha hdel (mem_ids.mpr ⟨b, hb, hid⟩)

end

/-- A pass counts its tick once exactly where the processor throws for no aircraft in its first
tick, and no counter is at its last value. -/
theorem agesOnce_iff_quiet (m : Libm) (throws : Bytes → Bool)
    (abandoned : AircraftProcessor → Aircraft → AircraftProcessor) (d : AircraftData)
    (h : d.RepInv) (position : Position) (atmPress : Double) :
    AgesOnce (throwingFor m throws abandoned) d position atmPress ↔
      ∀ a ∈ d.m_container, a.m_updateAge.toNat + 1 < 2 ^ 32 ∧
        (a.m_updateAge = 0 → throws a.m_id = false) := by
  constructor
  · intro hages a ha
    exact ⟨hages.not_wrapped m throws abandoned position atmPress h ha,
      hages.quiet m throws abandoned position atmPress h ha⟩
  · intro hall
    exact h.agesOnce m throws abandoned position atmPress (fun a ha => (hall a ha).1)
      (fun a ha => (hall a ha).2)

theorem insert_repInv (maxDist : Int32) (aircraft : Aircraft) :
    ((ofMaxDist maxDist).insert aircraft).RepInv :=
  ((RepInv.empty maxDist).update_new rfl).2

/-- An aircraft at its fourth tick, for which the processor would throw: it is not called. -/
theorem agesOnce_iff_quiet_fourth :
    AgesOnce (throwingFor .atOrigin (fun _ => true) (fun processor _ => processor))
      ((ofMaxDist 0).insert { m_id := str "AA", m_updateAge := 3 }) {} 1013.25 := by
  refine (agesOnce_iff_quiet .atOrigin (fun _ => true) (fun processor _ => processor)
    ((ofMaxDist 0).insert { m_id := str "AA", m_updateAge := 3 }) (insert_repInv 0 _) {}
    1013.25).mpr ?_
  intro a ha
  rw [List.mem_singleton.mp ha]
  exact ⟨by decide, fun hzero => absurd hzero (by decide)⟩

/-- A new aircraft whose report fails is of the age two after one pass. -/
theorem not_agesOnce_new :
    ((ofMaxDist 0).insert { m_id := str "AA" }).RepInv ∧
      (((ofMaxDist 0).insert { m_id := str "AA" }).processAircrafts
        (throwingFor .atOrigin (fun _ => true) (fun processor _ => processor)) {}
        1013.25).m_container.map (fun a => (a.m_id, a.m_updateAge)) = [(str "AA", 2)] ∧
      ¬ AgesOnce (throwingFor .atOrigin (fun _ => true) (fun processor _ => processor))
        ((ofMaxDist 0).insert { m_id := str "AA" }) {} 1013.25 := by
  have hleft : (((ofMaxDist 0).insert { m_id := str "AA" }).processAircrafts
      (throwingFor .atOrigin (fun _ => true) (fun processor _ => processor)) {}
      1013.25).m_container.map (fun a => (a.m_id, a.m_updateAge)) = [(str "AA", 2)] := by
    decide +kernel
  refine ⟨insert_repInv 0 _, hleft, fun hages => ?_⟩
  obtain ⟨b, hb, -, hage⟩ := hages.aged { m_id := str "AA" } (List.mem_singleton.mpr rfl)
    (by decide)
  have htwo := List.mem_map_of_mem (f := fun a : Aircraft => (a.m_id, a.m_updateAge)) hb
  rw [hleft, List.mem_singleton] at htwo
  rw [(Prod.mk.inj htwo).2] at hage
  exact absurd hage (by decide)

end AircraftData

end VirtualFlightRadar
