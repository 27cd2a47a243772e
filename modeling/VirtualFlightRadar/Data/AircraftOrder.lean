import VirtualFlightRadar.Data.AircraftIndex

/-!
# The order of equal-rank reports

Updates do not commute in general: one that is accepted sets the bar for the next.  Among reports
of one priority and one target type only the time stamp decides once the first was accepted, so the
record of an id is the newest report, in whatever order they came.
-/

open Cxx

namespace VirtualFlightRadar

/-! ## The record of an id -/

namespace AircraftData

def record (d : AircraftData) (id : Bytes) : Option Aircraft :=
  d.m_container.find? fun a => a.m_id = id

/-- What an update does to the record of its id. -/
def receive : Option Aircraft → Aircraft → Option Aircraft
  | none, x => some x
  | some stored, x => some (tryUpdate stored x).2

/-- The index leads to the record. -/
theorem RepInv.record_eq {d : AircraftData} (h : d.RepInv) (id : Bytes) :
    d.record id = (d.m_index id).bind (d.m_container[·]?) := by
  cases hi : d.m_index id with
  | none =>
      have hnot := Indexed.notMem h hi
      apply List.find?_eq_none.mpr
      intro a ha hid
      exact hnot (of_decide_eq_true hid ▸ List.mem_map_of_mem ha)
  | some i =>
      obtain ⟨stored, hget, hid⟩ := h.find hi
      have hmem := List.mem_of_getElem? hget
      obtain ⟨a, ha⟩ : ∃ a, d.record id = some a :=
        Option.isSome_iff_exists.mp (List.find?_isSome.mpr ⟨stored, hmem, decide_eq_true hid⟩)
      have haid : a.m_id = id := by
        have hfound := List.find?_some ha
        exact of_decide_eq_true hfound
      -- The ids are distinct.
      have heq : a = stored :=
        List.inj_on_of_nodup_map h.nodup (List.mem_of_find?_eq_some ha) hmem (haid.trans hid.symm)
      rw [Option.bind_some, hget, ← heq]
      exact ha

theorem RepInv.update_record {d : AircraftData} (h : d.RepInv) (x : Aircraft) :
    ∃ accepted d', d.update x = some (accepted, d') ∧ d'.RepInv ∧
      ∀ id, d'.record id = if x.m_id = id then receive (d.record id) x else d.record id := by
  cases hi : d.m_index x.m_id with
  | none =>
      obtain ⟨hupdate, hrep⟩ := h.update_new hi
      refine ⟨_, _, hupdate, hrep, fun id => ?_⟩
      have happend : (d.insert x).record id =
          (d.record id).or (if x.m_id = id then some x else none) := by
        rw [record, AircraftData.insert, List.find?_append, List.find?_singleton]
        simp only [decide_eq_true_eq]
        rfl
      rw [happend]
      by_cases hid : x.m_id = id
      · have hnone : d.record id = none := by rw [h.record_eq, ← hid, hi]; rfl
        rw [hnone, if_pos hid, if_pos hid]
        rfl
      · rw [if_neg hid, if_neg hid, Option.or_none]
  | some i =>
      obtain ⟨stored, hget, hid, hupdate, hrep⟩ := h.update_known hi
      refine ⟨_, _, hupdate, hrep, fun id => ?_⟩
      rw [hrep.record_eq, h.record_eq]
      by_cases hx : x.m_id = id
      · rw [if_pos hx, ← hx, hi, Option.bind_some, Option.bind_some, hget,
          List.getElem?_set_self (List.getElem?_eq_some_iff.mp hget).1]
        rfl
      · rw [if_neg hx]
        cases hj : d.m_index id with
        | none => rfl
        | some j =>
            obtain ⟨other, hother, hotherId⟩ := h.find hj
            have hne : i ≠ j := by
              rintro rfl
              rw [hget] at hother
              exact hx (hid.symm.trans ((congrArg Aircraft.m_id (Option.some.inj hother)).trans
                hotherId))
            rw [Option.bind_some, Option.bind_some, List.getElem?_set_ne hne]

/-- A run of updates folds the reports of each id into its record. -/
theorem RepInv.updates_record {d : AircraftData} (h : d.RepInv) (process : Process)
    (updates : List Aircraft) :
    ∃ results d', run (AircraftData.step process) d (updates.map .update) = some (results, d') ∧
      ∀ id, d'.record id =
        (updates.filter fun x => x.m_id = id).foldl receive (d.record id) := by
  induction updates generalizing d with
  | nil => exact ⟨[], d, rfl, fun id => rfl⟩
  | cons x updates ih =>
      obtain ⟨accepted, d₁, hupdate, hrep₁, hrecord⟩ := h.update_record x
      obtain ⟨results, d', hrun, hrest⟩ := ih hrep₁
      refine ⟨.updated accepted :: results, d', ?_, fun id => ?_⟩
      · rw [List.map_cons, run, AircraftData.step, hupdate]
        simp only [Option.map_some, hrun]
      · rw [hrest id, hrecord id, List.filter_cons]
        by_cases hid : x.m_id = id
        · rw [if_pos hid, if_pos (decide_eq_true hid), List.foldl_cons]
        · rw [if_neg hid, if_neg (by simpa using hid)]

end AircraftData

/-! ## Reports of one rank -/

/-- What the reports of a list have in common, as feeds of one kind and priority build them. -/
structure Ranked (priority : UInt32) (type : TargetType) (x : Aircraft) : Prop where
  priority : x.m_lastPriority = priority
  targetType : x.m_targetType = type
  age : x.m_updateAge = 0

namespace Ranked

variable {priority : UInt32} {type : TargetType} {x y stored : Aircraft}

/-- A stored report of the same rank only asks for a newer time stamp. -/
theorem canUpdate_same (hx : Ranked priority type x) (hy : Ranked priority type y) :
    x.canUpdate y = x.m_timeStamp.gt y.m_timeStamp := by
  have htype : (y.m_targetType == .TRANSPONDER || x.m_targetType == .FLARM) = true := by
    rw [hx.targetType, hy.targetType]
    cases type <;> rfl
  have hprio : x.toObject.canUpdate y.toObject = true := by
    rw [Object.canUpdate, hx.priority, hy.priority, Bool.or_eq_true]
    exact .inl (decide_eq_true UInt32.le_rfl)
  rw [Aircraft.canUpdate, htype, hprio, Bool.and_true, Bool.and_true]

/-- What any other stored aircraft asks besides is the same for all reports of a rank. -/
def admits (priority : UInt32) (type : TargetType) (stored : Aircraft) : Bool :=
  (stored.m_targetType == .TRANSPONDER || type == .FLARM) &&
    (decide (priority ≥ stored.m_lastPriority) || decide (stored.m_updateAge ≥ OBJ_OUTDATED))

theorem canUpdate_stored (hx : Ranked priority type x) (stored : Aircraft) :
    x.canUpdate stored =
      (x.m_timeStamp.gt stored.m_timeStamp && admits priority type stored) := by
  rw [Aircraft.canUpdate, Object.canUpdate, hx.priority, hx.targetType, Bool.and_assoc]
  rfl

theorem assign (hx : Ranked priority type x) : Ranked priority type (stored.assign x) :=
  ⟨hx.priority, hx.targetType, rfl⟩

theorem assign_self (hx : Ranked priority type x) (hid : stored.m_id = x.m_id) :
    stored.assign x = x := by
  have hage := hx.age
  obtain ⟨⟨prio, age, ser⟩, _⟩ := x
  cases hage
  unfold Aircraft.assign
  rw [hid]
  rfl

theorem tryUpdate_eq (stored x : Aircraft) :
    (tryUpdate stored x).2 = if x.canUpdate stored then stored.assign x else stored := by
  unfold tryUpdate
  change (if x.canUpdate stored = true then _ else _ : Bool × Aircraft).2 = _
  split <;> rfl

/-- Over a report of the same rank the newer one stays. -/
theorem tryUpdate_same (hx : Ranked priority type x) (hy : Ranked priority type y)
    (hid : x.m_id = y.m_id) :
    (tryUpdate x y).2 = if y.m_timeStamp.gt x.m_timeStamp then y else x := by
  rw [tryUpdate_eq, hy.canUpdate_same hx, hy.assign_self hid]

theorem tryUpdate_assign (hx : Ranked priority type x) (hy : Ranked priority type y) :
    (tryUpdate (stored.assign x) y).2 =
      if y.m_timeStamp.gt x.m_timeStamp then stored.assign y else stored.assign x := by
  rw [tryUpdate_eq, hy.canUpdate_same hx.assign]
  rfl

/-- The newer of two reports is the one that ends up stored, if any of them does. -/
theorem tryUpdate_comm (hx : Ranked priority type x) (hy : Ranked priority type y)
    (hne : x.m_timeStamp ≠ y.m_timeStamp) (stored : Aircraft) :
    (tryUpdate (tryUpdate stored x).2 y).2 = (tryUpdate (tryUpdate stored y).2 x).2 := by
  have htotal : y.m_timeStamp.gt x.m_timeStamp = !x.m_timeStamp.gt y.m_timeStamp :=
    TimeStamp.gt_eq_not hne
  have hstep (z : Aircraft) (hz : Ranked priority type z) : (tryUpdate stored z).2 =
      if z.m_timeStamp.gt stored.m_timeStamp && admits priority type stored then stored.assign z
      else stored := by
    rw [tryUpdate_eq, hz.canUpdate_stored]
  cases hadmits : admits priority type stored with
  | false =>
      have hkeep (z : Aircraft) (hz : Ranked priority type z) :
          (tryUpdate stored z).2 = stored := by
        rw [hstep z hz, hadmits, Bool.and_false]
        rfl
      rw [hkeep x hx, hkeep y hy, hkeep x hx]
  | true =>
      rw [hstep x hx, hstep y hy, hadmits, Bool.and_true, Bool.and_true]
      cases hxs : x.m_timeStamp.gt stored.m_timeStamp with
      | false =>
          cases hys : y.m_timeStamp.gt stored.m_timeStamp with
          | false =>
              change (tryUpdate stored y).2 = (tryUpdate stored x).2
              rw [hstep x hx, hstep y hy, hxs, hys]
              rfl
          | true =>
              -- `y` is newer than what `x` could not replace.
              change (tryUpdate stored y).2 = (tryUpdate (stored.assign y) x).2
              have hyx := TimeStamp.gt_of_not_gt hys hxs
              rw [hstep y hy, hys, hadmits, hy.tryUpdate_assign hx]
              rw [htotal, Bool.not_eq_true'] at hyx
              rw [hyx]
              rfl
      | true =>
          cases hys : y.m_timeStamp.gt stored.m_timeStamp with
          | false =>
              change (tryUpdate (stored.assign x) y).2 = (tryUpdate stored x).2
              have hxy := TimeStamp.gt_of_not_gt hxs hys
              rw [hstep x hx, hxs, hadmits, hx.tryUpdate_assign hy, htotal, hxy]
              rfl
          | true =>
              change (tryUpdate (stored.assign x) y).2 = (tryUpdate (stored.assign y) x).2
              rw [hx.tryUpdate_assign hy, hy.tryUpdate_assign hx, htotal]
              cases x.m_timeStamp.gt y.m_timeStamp <;> rfl

theorem receive_comm (hx : Ranked priority type x) (hy : Ranked priority type y)
    (hid : x.m_id = y.m_id) (hne : x.m_timeStamp ≠ y.m_timeStamp) (r : Option Aircraft) :
    AircraftData.receive (AircraftData.receive r x) y =
      AircraftData.receive (AircraftData.receive r y) x := by
  cases r with
  | none =>
      -- The first report of an unknown id is always taken.
      change some (tryUpdate x y).2 = some (tryUpdate y x).2
      rw [hx.tryUpdate_same hy hid, hy.tryUpdate_same hx hid.symm, TimeStamp.gt_eq_not hne]
      cases x.m_timeStamp.gt y.m_timeStamp <;> rfl
  | some stored => exact congrArg some (hx.tryUpdate_comm hy hne stored)

end Ranked

namespace AircraftData

/-- From every reachable state, two orders of the same reports of one rank, with different time
stamps for each id, leave the same record for every id. -/
theorem record_of_permuted_updates (process : Process) (maxDist : Int32) (ops : List AircraftOp)
    (xs ys : List Aircraft) (hperm : xs.Perm ys) (priority : UInt32) (type : TargetType)
    (hranked : ∀ x ∈ xs, Ranked priority type x)
    (hstamps : xs.Pairwise fun x y => x.m_id = y.m_id → x.m_timeStamp ≠ y.m_timeStamp) :
    ∃ results d resultsX dx resultsY dy,
      run (step process) (ofMaxDist maxDist) ops = some (results, d) ∧
      run (step process) d (xs.map .update) = some (resultsX, dx) ∧
      run (step process) d (ys.map .update) = some (resultsY, dy) ∧
      ∀ id, dx.record id = dy.record id := by
  obtain ⟨results, d, hrun, hinv⟩ := run_invariant RepInv
    (fun d op h => RepInv.step h process op) (RepInv.empty maxDist) ops
  obtain ⟨resultsX, dx, hrunX, hx⟩ := hinv.updates_record process xs
  obtain ⟨resultsY, dy, hrunY, hy⟩ := hinv.updates_record process ys
  refine ⟨results, d, resultsX, dx, resultsY, dy, hrun, hrunX, hrunY, fun id => ?_⟩
  rw [hx id, hy id]
  apply (hperm.filter _).foldl_eq'
  intro x hxmem y hymem r
  obtain ⟨hxs, hxid⟩ := List.mem_filter.mp hxmem
  obtain ⟨hys, hyid⟩ := List.mem_filter.mp hymem
  have hid : x.m_id = y.m_id := (of_decide_eq_true hxid).trans (of_decide_eq_true hyid).symm
  by_cases heq : x = y
  · rw [heq]
  · have hsymm : Std.Symm fun x y : Aircraft => x.m_id = y.m_id → x.m_timeStamp ≠ y.m_timeStamp :=
      ⟨fun a b h he => (h he.symm).symm⟩
    exact (hranked x hxs).receive_comm (hranked y hys) hid
      (hstamps.forall hxs hys heq hid) r

/-- Two reports of one aircraft, with another aircraft between them. -/
theorem record_of_permuted_updates_two :
    ∃ results d resultsX dx resultsY dy,
      run (step (processOf .atOrigin)) (ofMaxDist 0) [.processAircrafts {} 1013.25] =
        some (results, d) ∧
      run (step (processOf .atOrigin)) d
        [.update { m_id := str "AA", m_timeStamp := { m_value := 5, m_day := 1 } },
          .update { m_id := str "BB", m_timeStamp := { m_value := 5, m_day := 1 } },
          .update { m_id := str "AA", m_timeStamp := { m_value := 6, m_day := 1 } }] =
        some (resultsX, dx) ∧
      run (step (processOf .atOrigin)) d
        [.update { m_id := str "AA", m_timeStamp := { m_value := 6, m_day := 1 } },
          .update { m_id := str "AA", m_timeStamp := { m_value := 5, m_day := 1 } },
          .update { m_id := str "BB", m_timeStamp := { m_value := 5, m_day := 1 } }] =
        some (resultsY, dy) ∧
      ∀ id, dx.record id = dy.record id :=
  record_of_permuted_updates (processOf .atOrigin) 0 [.processAircrafts {} 1013.25]
    [{ m_id := str "AA", m_timeStamp := { m_value := 5, m_day := 1 } },
      { m_id := str "BB", m_timeStamp := { m_value := 5, m_day := 1 } },
      { m_id := str "AA", m_timeStamp := { m_value := 6, m_day := 1 } }]
    [{ m_id := str "AA", m_timeStamp := { m_value := 6, m_day := 1 } },
      { m_id := str "AA", m_timeStamp := { m_value := 5, m_day := 1 } },
      { m_id := str "BB", m_timeStamp := { m_value := 5, m_day := 1 } }]
    (by decide +kernel) 0 .TRANSPONDER
    (by
      simp only [List.forall_mem_cons]
      exact ⟨⟨rfl, rfl, rfl⟩, ⟨rfl, rfl, rfl⟩, ⟨rfl, rfl, rfl⟩, by simp⟩)
    (by decide)

end AircraftData

end VirtualFlightRadar
