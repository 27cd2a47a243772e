import VirtualFlightRadar.Data.AircraftSpec

/-!
# Aircrafts in a message

The serving thread processes the store and then serializes it, in two critical sections.  An update
that a feed gets accepted between them replaces the processed string by the empty one of the new
report, so the aircraft is missing from the message of that cycle.
-/

open Cxx

namespace VirtualFlightRadar

namespace AircraftData

def messageOf (a : Aircraft) : Bytes := if a.m_updateAge < OBJ_OUTDATED then a.m_serialized else []

/-- What an id adds to a message. -/
def contribution (d : AircraftData) (id : Bytes) : Bytes :=
  (d.m_container.filter fun a => a.m_id = id).flatMap messageOf

theorem flatMap_messageOf (container : List Aircraft) :
    container.flatMap messageOf =
      (container.filter (·.m_updateAge < OBJ_OUTDATED)).flatMap (·.m_serialized) := by
  induction container with
  | nil => rfl
  | cons a rest ih =>
      rw [List.flatMap_cons, ih, List.filter_cons, messageOf]
      by_cases hage : a.m_updateAge < OBJ_OUTDATED
      · simp [hage]
      · simp [hage]

theorem RepInv.contribution_eq {d : AircraftData} (h : d.RepInv) {a : Aircraft}
    (ha : a ∈ d.m_container) : d.contribution a.m_id = messageOf a := by
  have hnodup : (d.m_container.map (·.m_id)).Nodup := h.nodup
  -- The ids are distinct, so `a` is the only aircraft with its id.
  have hfilter : d.m_container.filter (fun b => b.m_id = a.m_id) = [a] := by
    obtain ⟨front, rest, hsplit⟩ := List.append_of_mem ha
    rw [hsplit, List.map_append, List.map_cons, List.nodup_middle, List.nodup_cons,
      List.mem_append, not_or] at hnodup
    have hother (l : List Aircraft) (hl : a.m_id ∉ l.map (·.m_id)) :
        l.filter (fun b => b.m_id = a.m_id) = [] := by
      rw [List.filter_eq_nil_iff]
      intro b hb heq
      exact hl (of_decide_eq_true heq ▸ List.mem_map_of_mem hb)
    rw [hsplit, List.filter_append, List.filter_cons_of_pos (by simp), hother front hnodup.1.1,
      hother rest hnodup.1.2]
    rfl
  rw [contribution, hfilter, List.flatMap_singleton]

/-- A message is the contributions of the ids in the order of the vector. -/
theorem RepInv.get_serialized_contribution {d : AircraftData} (h : d.RepInv) (dest : Bytes) :
    d.get_serialized dest = dest ++ (ids d.m_container).flatMap d.contribution := by
  rw [get_serialized_eq, ids, List.flatMap_map]
  congr 1
  apply List.flatMap_congr
  intro a ha
  exact (h.contribution_eq ha).symm

/-! ## Updates between the two sections -/

/-- An update replaces the aircraft it is accepted for and keeps every other one. -/
theorem RepInv.update_mem {d : AircraftData} (h : d.RepInv) {x : Aircraft} (hx : x.Fresh) :
    ∃ accepted d', d.update x = some (accepted, d') ∧ d'.RepInv ∧
      ∀ a ∈ d.m_container, if x.m_id = a.m_id ∧ x.canUpdate a = true then x ∈ d'.m_container
        else a ∈ d'.m_container := by
  cases hi : d.m_index x.m_id with
  | none =>
      obtain ⟨hupdate, hrep⟩ := h.update_new hi
      refine ⟨true, _, hupdate, hrep, ?_⟩
      intro a ha
      have hne : x.m_id ≠ a.m_id := by
        intro heq
        apply Indexed.notMem h hi
        rw [heq]
        exact List.mem_map_of_mem ha
      rw [if_neg (fun hc => hne hc.1)]
      exact List.mem_append_left _ ha
  | some i =>
      obtain ⟨stored, hget, hid, hupdate, hrep⟩ := h.update_known hi
      refine ⟨_, _, hupdate, hrep, ?_⟩
      have hlt : i < d.m_container.length := (List.getElem?_eq_some_iff.mp hget).1
      have hnew : (tryUpdate stored x).2 ∈ d.m_container.set i (tryUpdate stored x).2 :=
        List.mem_set hlt _
      intro a ha
      by_cases heq : x.m_id = a.m_id
      · -- The ids are distinct, so this is the aircraft the index points at.
        have hstored : stored = a :=
          List.inj_on_of_nodup_map h.nodup (List.mem_of_getElem? hget) ha (hid.trans heq)
        subst hstored
        cases hcan : x.canUpdate stored with
        | true =>
            have htry : tryUpdate stored x = (true, x) := by
              rw [← Refines.assign_eq hid hx]
              exact if_pos hcan
            rw [if_pos ⟨heq, rfl⟩]
            rw [htry] at hnew ⊢
            exact hnew
        | false =>
            have htry : tryUpdate stored x = (false, stored) :=
              if_neg (Bool.eq_false_iff.mp hcan)
            rw [if_neg (fun hc => by simp at hc)]
            rw [htry] at hnew ⊢
            exact hnew
      · -- Another id stands at another position, which `set` leaves alone.
        rw [if_neg (fun hc => heq hc.1)]
        obtain ⟨j, hj⟩ := List.getElem?_of_mem ha
        have hij : i ≠ j := by
          intro hij
          rw [← hij, hget] at hj
          exact heq (hid.symm.trans (congrArg Aircraft.m_id (Option.some.inj hj)))
        apply List.mem_of_getElem? (i := j)
        rw [List.getElem?_set_ne hij, hj]

/-- An update adds nothing but the report it comes with. -/
theorem RepInv.update_subset {d : AircraftData} (h : d.RepInv) {x : Aircraft} (hx : x.Fresh)
    {accepted : Bool} {d' : AircraftData} (hupdate : d.update x = some (accepted, d')) :
    d'.RepInv ∧ d'.m_processor = d.m_processor ∧
      ∀ a ∈ d'.m_container, a = x ∨ a ∈ d.m_container := by
  cases hi : d.m_index x.m_id with
  | none =>
      obtain ⟨heq, hrep⟩ := h.update_new hi
      rw [heq] at hupdate
      cases hupdate
      refine ⟨hrep, rfl, ?_⟩
      intro a ha
      rcases List.mem_append.mp ha with hold | hlast
      · exact .inr hold
      · exact .inl (List.mem_singleton.mp hlast)
  | some i =>
      obtain ⟨stored, hget, hid, heq, hrep⟩ := h.update_known hi
      rw [heq] at hupdate
      cases hupdate
      refine ⟨hrep, rfl, ?_⟩
      intro a ha
      rcases List.mem_or_eq_of_mem_set ha with hold | hnew
      · exact .inr hold
      · rw [hnew]
        unfold tryUpdate
        split
        · exact .inl (Refines.assign_eq hid hx)
        · exact .inr (List.mem_of_getElem? hget)

/-- A run of updates: an aircraft stays while no update for its id is accepted, and after the first
accepted one its id has an empty report. -/
theorem RepInv.updates_mem {d : AircraftData} (h : d.RepInv) (process : Process)
    {updates : List Aircraft} (hfresh : ∀ x ∈ updates, x.Fresh) :
    ∃ results d', run (AircraftData.step process) d (updates.map .update) = some (results, d') ∧
      d'.RepInv ∧ ∀ a ∈ d.m_container,
        ((∀ x ∈ updates, x.m_id = a.m_id → x.canUpdate a = false) → a ∈ d'.m_container) ∧
        ((∃ x ∈ updates, x.m_id = a.m_id ∧ x.canUpdate a = true) ∨ a.m_serialized = [] →
          ∃ b ∈ d'.m_container, b.m_id = a.m_id ∧ b.m_serialized = []) := by
  -- The second half also starts from an empty report, which is what the induction gets after the
  -- first accepted update.
  induction updates generalizing d with
  | nil =>
      refine ⟨[], d, rfl, h, ?_⟩
      intro a ha
      refine ⟨fun _ => ha, ?_⟩
      rintro (⟨x, hx, -⟩ | hempty)
      · exact absurd hx (by simp)
      · exact ⟨a, ha, rfl, hempty⟩
  | cons x updates ih =>
      have hx : x.Fresh := hfresh x (by simp)
      obtain ⟨accepted, d₁, hupdate, hrep₁, hmem⟩ := h.update_mem hx
      obtain ⟨results, d', hrun, hrep', hkeep⟩ := ih hrep₁ (fun y hy => hfresh y (by simp [hy]))
      refine ⟨.updated accepted :: results, d', ?_, hrep', ?_⟩
      · rw [List.map_cons, run, AircraftData.step, hupdate]
        simp only [Option.map_some, hrun]
      · intro a ha
        have hstep := hmem a ha
        by_cases hacc : x.m_id = a.m_id ∧ x.canUpdate a = true
        · -- `x` was stored over `a`, with its empty string.
          rw [if_pos hacc] at hstep
          constructor
          · intro hall
            have hno := hall x (by simp) hacc.1
            rw [hacc.2] at hno
            cases hno
          · intro _
            obtain ⟨b, hb, hid, hempty⟩ := (hkeep x hstep).2 (.inr hx.serialized)
            exact ⟨b, hb, hid.trans hacc.1, hempty⟩
        · -- `a` is still there for the remaining updates.
          rw [if_neg hacc] at hstep
          constructor
          · intro hall
            exact (hkeep a hstep).1 (fun y hy => hall y (by simp [hy]))
          · rintro (⟨y, hy, hid, hcan⟩ | hempty)
            · rcases List.mem_cons.mp hy with rfl | hy'
              · exact absurd ⟨hid, hcan⟩ hacc
              · exact (hkeep a hstep).2 (.inl ⟨y, hy', hid, hcan⟩)
            · exact (hkeep a hstep).2 (.inr hempty)

/-- In every reachable state and for all updates between the two sections of a cycle: an id with a
report right after `processAircrafts` is in the message if and only if none of the updates for it
is one that `canUpdate` accepts over the stored aircraft. -/
theorem contribution_ne_nil_iff (process : Process) (maxDist : Int32) (ops : List AircraftOp)
    (position : Position) (atmPress : Double) (updates : List Aircraft)
    (hfresh : ∀ x ∈ updates, x.Fresh) (dest : Bytes) :
    ∃ results d results' d',
      run (step process) (ofMaxDist maxDist) (ops ++ [.processAircrafts position atmPress]) =
        some (results, d) ∧
      run (step process) d (updates.map .update) = some (results', d') ∧
      d'.get_serialized dest = dest ++ (ids d'.m_container).flatMap d'.contribution ∧
      ∀ a ∈ d.m_container, a.m_serialized ≠ [] → a.m_updateAge < OBJ_OUTDATED →
        (d'.contribution a.m_id ≠ [] ↔
          ∀ x ∈ updates, x.m_id = a.m_id → x.canUpdate a = false) := by
  obtain ⟨results, d, hrun, hrep⟩ := run_invariant RepInv
    (fun d op h => RepInv.step h process op) (RepInv.empty maxDist)
    (ops ++ [.processAircrafts position atmPress])
  obtain ⟨results', d', hrun', hrep', hkeep⟩ := hrep.updates_mem process hfresh
  refine ⟨results, d, results', d', hrun, hrun', hrep'.get_serialized_contribution dest, ?_⟩
  intro a ha hreport hage
  constructor
  · intro hcontribution x hx hid
    rw [← Bool.not_eq_true]
    intro hcan
    -- The accepted update left an empty report, which contributes nothing.
    obtain ⟨b, hb, hbid, hempty⟩ := (hkeep a ha).2 (.inl ⟨x, hx, hid, hcan⟩)
    apply hcontribution
    rw [← hbid, hrep'.contribution_eq hb, messageOf, hempty, ite_self]
  · intro hall
    rw [hrep'.contribution_eq ((hkeep a ha).1 hall), messageOf, if_pos hage]
    exact hreport

/-- Between the sections, a report of another aircraft and one that is not newer. -/
theorem contribution_ne_nil_iff_at_origin :
    ∃ results d results' d',
      run (step (processOf .atOrigin)) (ofMaxDist 0)
        ([.update { m_id := str "AA", m_timeStamp := { m_value := 5, m_day := 1 } }] ++
          [.processAircrafts {} 1013.25]) = some (results, d) ∧
      run (step (processOf .atOrigin)) d
        ([{ m_id := str "BB", m_timeStamp := { m_value := 6, m_day := 1 } },
          { m_id := str "AA", m_timeStamp := { m_value := 5, m_day := 1 } }].map .update) =
        some (results', d') ∧
      d'.get_serialized [] = [] ++ (ids d'.m_container).flatMap d'.contribution ∧
      ∀ a ∈ d.m_container, a.m_serialized ≠ [] → a.m_updateAge < OBJ_OUTDATED →
        (d'.contribution a.m_id ≠ [] ↔
          ∀ x ∈ [({ m_id := str "BB", m_timeStamp := { m_value := 6, m_day := 1 } } : Aircraft),
              { m_id := str "AA", m_timeStamp := { m_value := 5, m_day := 1 } }],
            x.m_id = a.m_id → x.canUpdate a = false) :=
  contribution_ne_nil_iff (processOf .atOrigin) 0
    [.update { m_id := str "AA", m_timeStamp := { m_value := 5, m_day := 1 } }] {} 1013.25
    [{ m_id := str "BB", m_timeStamp := { m_value := 6, m_day := 1 } },
      { m_id := str "AA", m_timeStamp := { m_value := 5, m_day := 1 } }]
    (by simp only [List.forall_mem_cons]; exact ⟨⟨rfl, rfl⟩, ⟨rfl, rfl⟩, by simp⟩) []

/-- A newer report between the sections: the aircraft has a report of age one when it is processed,
and the message of the cycle is empty. -/
theorem dropped_by_newer_report :
    (run (step (processOf .atOrigin)) (ofMaxDist 0)
      [.update { m_id := str "AA", m_timeStamp := { m_value := 5, m_day := 1 } },
        .processAircrafts {} 1013.25]).map
      (fun s => s.2.m_container.map fun a => (a.m_id, a.m_updateAge, a.m_serialized)) =
      some [(str "AA", 1,
        str "$PFLAU,,,,1,0,0,0,0,0,AA*4f\r\n$PFLAA,0,0,0,0,1,AA,,,,,8*7f\r\n")] ∧
    (run (step (processOf .atOrigin)) (ofMaxDist 0)
      [.update { m_id := str "AA", m_timeStamp := { m_value := 5, m_day := 1 } },
        .processAircrafts {} 1013.25,
        .update { m_id := str "AA", m_timeStamp := { m_value := 6, m_day := 1 } },
        .get_serialized []]).map (·.1) =
      some [.updated true, .processed, .updated true, .serialized []] := by
  constructor
  · decide +kernel
  · decide

end AircraftData

end VirtualFlightRadar
