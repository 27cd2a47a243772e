import VirtualFlightRadar.Data.AircraftData

/-!
# The index of the aircraft store

At the head of every round of `processAircrafts` the vector is a finished part `front`, which the
cursor has passed, and a part `rest` that is still to visit.  Once something was deleted, the index
is only right for `front` and for the element under the cursor; behind it positions are stale.
`Pass.At` is this invariant, and a whole pass leaves the index of the swept vector.
-/

open Cxx

namespace VirtualFlightRadar

def ids (container : List Aircraft) : List Bytes := container.map (·.m_id)

theorem ids_set {container : List Aircraft} {i : Nat} {stored aircraft : Aircraft}
    (hget : container[i]? = some stored) (hid : aircraft.m_id = stored.m_id) :
    ids (container.set i aircraft) = ids container := by
  have hmap : (ids container)[i]? = some aircraft.m_id := by
    rw [ids, List.getElem?_map, hget, hid]
    rfl
  obtain ⟨hlt, hkey⟩ := List.getElem?_eq_some_iff.mp hmap
  rw [ids, List.map_set, ← hkey]
  exact List.set_getElem_self hlt

namespace Pass

structure At (s : Pass) (front rest : List Aircraft) : Prop where
  container : s.m_container = front ++ rest
  it : s.it = front.length
  index : s.index = front.length
  indexed : Indexed (if s.del then front.length + 1 else (front ++ rest).length)
    (ids (front ++ rest)) s.m_index
  caught : .indexAt ∉ s.caught

theorem getElem?_cursor (front rest : List Aircraft) : (front ++ rest)[front.length]? = rest.head? := by
  rw [List.getElem?_append_right (le_refl _), Nat.sub_self, List.head?_eq_getElem?]

theorem At.cursor {s : Pass} {front rest : List Aircraft} (h : At s front rest) :
    s.m_container[s.it]? = rest.head? := by
  rw [h.container, h.it, getElem?_cursor]

theorem repair_m_processor (s : Pass) : s.repair.m_processor = s.m_processor := by
  unfold repair
  split
  · split <;> rfl
  · rfl

/-- The repair at the end of a round writes the one position that the invariant still misses. -/
theorem At.ofRepair {s : Pass} {front rest : List Aircraft} (hc : s.m_container = front ++ rest)
    (hit : s.it = front.length) (hindex : s.index = front.length)
    (hind : Indexed (if s.del then front.length else (front ++ rest).length)
      (ids (front ++ rest)) s.m_index) (hcaught : .indexAt ∉ s.caught) :
    At s.repair front rest := by
  have hcursor : s.m_container[s.it]? = rest.head? := by rw [hc, hit, getElem?_cursor]
  unfold repair
  rw [hcursor]
  cases hdel : s.del with
  | false =>
      -- Nothing was deleted yet, so every position is still right.
      rw [hdel] at hind
      exact ⟨hc, hit, hindex, by rw [hdel]; exact hind, hcaught⟩
  | true =>
      rw [hdel, if_pos rfl] at hind
      cases rest with
      | nil =>
          -- The cursor is at the end.
          change At s front []
          refine ⟨hc, hit, hindex, ?_, hcaught⟩
          exact hind.extend (by simp [ids]) _
      | cons aircraft rest =>
          have hkey : (ids (front ++ aircraft :: rest))[front.length]? = some aircraft.m_id := by
            rw [ids, List.getElem?_map, getElem?_cursor]
            rfl
          -- The key is in the index, so `at` does not throw.
          obtain ⟨hsome, hnext⟩ := hind.repair hkey
          obtain ⟨i, hi⟩ := Option.isSome_iff_exists.mp hsome
          simp only [List.head?_cons, hi]
          refine ⟨hc, hit, hindex, ?_, hcaught⟩
          change Indexed (front.length + 1) _ (s.m_index.set aircraft.m_id s.index)
          rw [hindex]
          exact hnext

/-- A round that moves on, with the aircraft under the cursor replaced by one of the same id. -/
theorem At.advance {s : Pass} {front rest : List Aircraft} {aircraft kept : Aircraft}
    (h : At s front (aircraft :: rest)) (hid : kept.m_id = aircraft.m_id)
    (processor : AircraftProcessor) :
    At (repair { s with
      m_processor := processor
      m_container := s.m_container.set s.it kept
      it := s.it + 1
      index := s.index + 1 }) (front ++ [kept]) rest := by
  have hids : ids (front ++ [kept] ++ rest) = ids (front ++ aircraft :: rest) := by
    simp only [ids, List.map_append, List.map_cons, hid, List.append_assoc,
      List.singleton_append]
  have hlen : (front ++ [kept] ++ rest).length = (front ++ aircraft :: rest).length := by simp
  apply At.ofRepair
  · simp only [h.container, h.it, List.set_append_right _ _ (le_refl _), Nat.sub_self,
      List.set_cons_zero, List.append_assoc, List.singleton_append]
  · simp only [h.it, List.length_append, List.length_singleton]
  · simp only [h.index, List.length_append, List.length_singleton]
  · rw [hids, hlen, List.length_append, List.length_singleton]
    exact h.indexed
  · exact h.caught

theorem At.delete {s : Pass} {front rest : List Aircraft} {aircraft : Aircraft}
    (h : At s front (aircraft :: rest)) :
    At (repair { s with
      del := true
      m_index := s.m_index.erase aircraft.m_id
      m_container := s.m_container.eraseIdx s.it }) front rest := by
  apply At.ofRepair
  · simp only [h.container, h.it, List.eraseIdx_append_of_length_le (le_refl _), Nat.sub_self,
      List.eraseIdx_cons_zero]
  · exact h.it
  · exact h.index
  · -- Whatever was known before, the positions in front of the cursor stay known.
    have hfront : Indexed (ids front).length (ids front ++ aircraft.m_id :: ids rest) s.m_index := by
      have hind := h.indexed
      simp only [ids, List.map_append, List.map_cons, List.length_map] at hind ⊢
      apply hind.mono
      split
      · omega
      · simp
    have herase := hfront.erase
    simp only [ids, List.length_map] at herase
    simpa only [if_pos, ids, List.map_append] using herase
  · exact h.caught

/-- A round in which the processor throws: the cursor stays, and the aircraft is one older. -/
theorem At.throw {s : Pass} {front rest : List Aircraft} {aircraft aged : Aircraft}
    (h : At s front (aircraft :: rest)) (hid : aged.m_id = aircraft.m_id)
    (processor : AircraftProcessor) :
    At { s with
      m_processor := processor
      m_container := s.m_container.set s.it aged
      caught := .process :: s.caught } front (aged :: rest) := by
  have hids : ids (front ++ aged :: rest) = ids (front ++ aircraft :: rest) := by
    simp only [ids, List.map_append, List.map_cons, hid]
  have hlen : (front ++ aged :: rest).length = (front ++ aircraft :: rest).length := by simp
  constructor
  · simp only [h.container, h.it, List.set_append_right _ _ (le_refl _), Nat.sub_self,
      List.set_cons_zero]
  · exact h.it
  · exact h.index
  · rw [hids, hlen]
    exact h.indexed
  · simp only [List.mem_cons, not_or]
    exact ⟨by decide, h.caught⟩

/-! ## A whole pass -/

theorem body_delete (process : Process) {s : Pass} {front rest : List Aircraft}
    {aircraft : Aircraft} (h : At s front (aircraft :: rest))
    (hdel : (age aircraft).m_updateAge ≥ AC_DELETE_THRESHOLD) :
    At (body process s) front rest ∧ (body process s).m_processor = s.m_processor := by
  unfold body
  simp only [h.cursor, List.head?_cons, hdel, if_true, repair_m_processor, and_true, age_id]
  exact h.delete

theorem body_keep (process : Process) {s : Pass} {front rest : List Aircraft}
    {aircraft : Aircraft} (h : At s front (aircraft :: rest))
    (hdel : ¬ (age aircraft).m_updateAge ≥ AC_DELETE_THRESHOLD)
    (hone : (age aircraft).m_updateAge ≠ 1) :
    At (body process s) (front ++ [age aircraft]) rest ∧
      (body process s).m_processor = s.m_processor := by
  unfold body
  simp only [h.cursor, List.head?_cons, hdel, hone, if_false, repair_m_processor, and_true]
  exact h.advance (age_id aircraft) s.m_processor

theorem body_process (process : Process) {s : Pass} {front rest : List Aircraft}
    {aircraft : Aircraft} {processor : AircraftProcessor} {serialized : Bytes}
    (h : At s front (aircraft :: rest))
    (hdel : ¬ (age aircraft).m_updateAge ≥ AC_DELETE_THRESHOLD)
    (hone : (age aircraft).m_updateAge = 1)
    (hprocess : process s.m_processor (age aircraft) = (processor, some serialized)) :
    At (body process s) (front ++ [{ age aircraft with m_serialized := serialized }]) rest ∧
      (body process s).m_processor = processor := by
  have hid : ({ age aircraft with m_serialized := serialized } : Aircraft).m_id = aircraft.m_id :=
    age_id aircraft
  unfold body
  rw [h.cursor]
  simp only [List.head?_cons]
  rw [if_neg hdel, if_pos hone, hprocess]
  exact ⟨h.advance hid processor, repair_m_processor _⟩

theorem body_throw (process : Process) {s : Pass} {front rest : List Aircraft}
    {aircraft : Aircraft} {processor : AircraftProcessor} (h : At s front (aircraft :: rest))
    (hdel : ¬ (age aircraft).m_updateAge ≥ AC_DELETE_THRESHOLD)
    (hone : (age aircraft).m_updateAge = 1)
    (hprocess : process s.m_processor (age aircraft) = (processor, none)) :
    At (body process s) front (age aircraft :: rest) ∧
      (body process s).m_processor = processor := by
  unfold body
  rw [h.cursor]
  simp only [List.head?_cons]
  rw [if_neg hdel, if_pos hone, hprocess]
  exact ⟨h.throw (age_id aircraft) processor, rfl⟩

theorem At.running {s : Pass} {front rest : List Aircraft} {aircraft : Aircraft}
    (h : At s front (aircraft :: rest)) : s.running = true := by
  rw [Pass.running, h.container, h.it, decide_eq_true_eq]
  simp

theorem At.not_running {s : Pass} {front : List Aircraft} (h : At s front []) :
    s.running = false := by
  rw [Pass.running, h.container, h.it, decide_eq_false_iff_not]
  simp

/-- Two rounds are enough for the aircraft under the cursor. -/
theorem visit_rounds (process : Process) {s : Pass} {front rest : List Aircraft}
    {aircraft : Aircraft} (h : At s front (aircraft :: rest)) (fuel : Nat) :
    ∃ s' fuel', fuel ≤ fuel' ∧
      whileLoop running (body process) (fuel + 2) s = whileLoop running (body process) fuel' s' ∧
      At s' (front ++ (visit process s.m_processor aircraft).2.toList) rest ∧
      s'.m_processor = (visit process s.m_processor aircraft).1 := by
  have hround : whileLoop running (body process) (fuel + 2) s =
      whileLoop running (body process) (fuel + 1) (body process s) :=
    whileLoop_round (fuel + 1) h.running
  unfold visit
  simp only
  by_cases hdel : (age aircraft).m_updateAge ≥ AC_DELETE_THRESHOLD
  · obtain ⟨hat, hproc⟩ := body_delete process h hdel
    simp only [hdel, if_true, Option.toList_none, List.append_nil]
    exact ⟨_, fuel + 1, by omega, hround, hat, hproc⟩
  · rw [if_neg hdel]
    by_cases hone : (age aircraft).m_updateAge = 1
    · rw [if_pos hone]
      rcases hp : process s.m_processor (age aircraft) with ⟨processor, result⟩
      cases result with
      | some serialized =>
          obtain ⟨hat, hproc⟩ := body_process process h hdel hone hp
          exact ⟨_, fuel + 1, by omega, hround, hat, hproc⟩
      | none =>
          -- The cursor stays; the second round finds age two and moves on.
          obtain ⟨hthrow, hproc⟩ := body_throw process h hdel hone hp
          have htwo := age_age_updateAge hone
          obtain ⟨hat, hproc'⟩ := body_keep process hthrow (by rw [htwo]; decide)
            (by rw [htwo]; decide)
          refine ⟨_, fuel, le_refl _, ?_, hat, hproc'.trans hproc⟩
          rw [hround, whileLoop_round fuel hthrow.running]
    · obtain ⟨hat, hproc⟩ := body_keep process h hdel hone
      rw [if_neg hone]
      exact ⟨_, fuel + 1, by omega, hround, hat, hproc⟩

/-- The loop stops at the end of the vector, with the swept vector and its index. -/
theorem whileLoop_sweep (process : Process) (rest : List Aircraft) {s : Pass}
    {front : List Aircraft} (h : At s front rest) {fuel : Nat} (hfuel : 2 * rest.length ≤ fuel) :
    At (whileLoop running (body process) fuel s)
      (front ++ (sweep process s.m_processor rest).2) [] ∧
    (whileLoop running (body process) fuel s).m_processor =
      (sweep process s.m_processor rest).1 := by
  -- The induction is on what is left to visit; the invariant moves its split with the cursor.
  induction rest generalizing s front fuel with
  | nil =>
      rw [whileLoop_exit fuel h.not_running]
      exact ⟨by simpa [sweep] using h, rfl⟩
  | cons aircraft rest ih =>
      rw [List.length_cons] at hfuel
      obtain ⟨s', fuel', hle, hloop, hat, hproc⟩ := visit_rounds process h (fuel - 2)
      rw [show fuel - 2 + 2 = fuel by omega] at hloop
      obtain ⟨hend, hproc'⟩ := ih hat (by omega : 2 * rest.length ≤ fuel')
      rw [hloop]
      rw [hproc] at hend hproc'
      refine ⟨?_, hproc'⟩
      rw [List.append_assoc] at hend
      exact hend

end Pass

/-! ## The representation invariant -/

/-- An input of the store's run: one call of a member. -/
inductive AircraftOp where
  | update (aircraft : Aircraft)
  | processAircrafts (position : Position) (atmPress : Double)
  | get_serialized (dest : Bytes)

/-- What the call returns. -/
inductive AircraftResult where
  | updated (accepted : Bool)
  | processed
  | serialized (dest : Bytes)
  deriving DecidableEq

namespace AircraftData

def step (process : Process) (d : AircraftData) : AircraftOp → Option (AircraftResult × AircraftData)
  | .update aircraft => (d.update aircraft).map fun (accepted, d) => (.updated accepted, d)
  | .processAircrafts position atmPress =>
      some (.processed, d.processAircrafts process position atmPress)
  | .get_serialized dest => some (.serialized (d.get_serialized dest), d)

/-- The ids are distinct, and the index maps exactly them, each to its position. -/
def RepInv (d : AircraftData) : Prop :=
  Indexed (ids d.m_container).length (ids d.m_container) d.m_index

theorem RepInv.empty (maxDist : Int32) : RepInv (ofMaxDist maxDist) := Indexed.empty

theorem tryUpdate_id {stored aircraft : Aircraft} :
    (tryUpdate stored aircraft).2.m_id = stored.m_id := by
  unfold tryUpdate
  split <;> rfl

/-- The index entry `update` follows points at an aircraft with the updated id. -/
theorem RepInv.find {d : AircraftData} (h : d.RepInv) {id : Bytes} {i : Nat}
    (hi : d.m_index id = some i) : ∃ stored, d.m_container[i]? = some stored ∧ stored.m_id = id := by
  have hget := Indexed.find h hi
  rw [ids, List.getElem?_map, Option.map_eq_some_iff] at hget
  exact hget

theorem RepInv.update_known {d : AircraftData} (h : d.RepInv) {aircraft : Aircraft} {i : Nat}
    (hi : d.m_index aircraft.m_id = some i) :
    ∃ stored, d.m_container[i]? = some stored ∧ stored.m_id = aircraft.m_id ∧
      d.update aircraft = some ((tryUpdate stored aircraft).1,
        { d with m_container := d.m_container.set i (tryUpdate stored aircraft).2 }) ∧
      RepInv { d with m_container := d.m_container.set i (tryUpdate stored aircraft).2 } := by
  obtain ⟨stored, hget, hid⟩ := h.find hi
  refine ⟨stored, hget, hid, ?_, ?_⟩
  · simp only [AircraftData.update, hi, hget]
  · -- Neither an accepted nor a refused report changes the id at a position.
    unfold RepInv
    rw [ids_set hget tryUpdate_id]
    exact h

theorem RepInv.update_new {d : AircraftData} (h : d.RepInv) {aircraft : Aircraft}
    (hnone : d.m_index aircraft.m_id = none) :
    d.update aircraft = some (true, d.insert aircraft) ∧ RepInv (d.insert aircraft) := by
  refine ⟨by simp only [AircraftData.update, hnone], ?_⟩
  have hpush := Indexed.push h hnone
  unfold RepInv AircraftData.insert
  simp only [ids, List.map_append, List.map_cons, List.map_nil, List.length_append,
    List.length_map, List.length_singleton] at hpush ⊢
  exact hpush

/-- A pass gets to the end of the vector with the invariant of its loop. -/
theorem RepInv.pass_at {d : AircraftData} (h : d.RepInv) (process : Process) (position : Position)
    (atmPress : Double) :
    Pass.At (d.pass process position atmPress)
        (Pass.sweep process (d.m_processor.referTo position atmPress) d.m_container).2 [] ∧
      (d.pass process position atmPress).m_processor =
        (Pass.sweep process (d.m_processor.referTo position atmPress) d.m_container).1 := by
  have hstart : Pass.At { m_processor := d.m_processor.referTo position atmPress
                          m_container := d.m_container
                          m_index := d.m_index } [] d.m_container := by
    refine ⟨rfl, rfl, rfl, ?_, by simp⟩
    simpa [RepInv, ids] using h
  exact Pass.whileLoop_sweep process d.m_container hstart (le_refl _)

/-- A pass sweeps the vector, leaves a complete index and never misses a key in it. -/
theorem RepInv.pass {d : AircraftData} (h : d.RepInv) (process : Process) (position : Position)
    (atmPress : Double) :
    (d.pass process position atmPress).m_container =
        (Pass.sweep process (d.m_processor.referTo position atmPress) d.m_container).2 ∧
      (d.pass process position atmPress).m_processor =
        (Pass.sweep process (d.m_processor.referTo position atmPress) d.m_container).1 ∧
      (d.processAircrafts process position atmPress).RepInv ∧
      .indexAt ∉ (d.pass process position atmPress).caught := by
  obtain ⟨hend, hproc⟩ := h.pass_at process position atmPress
  have hcontainer := hend.container
  rw [List.append_nil] at hcontainer
  refine ⟨hcontainer, hproc, ?_, hend.caught⟩
  -- At the end of the vector the known part of the index is all of it.
  have hindexed := hend.indexed
  rw [List.append_nil, ← hcontainer] at hindexed
  refine Indexed.extend hindexed ?_ _
  rw [ids, List.length_map]
  split <;> omega

theorem RepInv.step {d : AircraftData} (h : d.RepInv) (process : Process) (op : AircraftOp) :
    ∃ result d', d.step process op = some (result, d') ∧ d'.RepInv := by
  cases op with
  | update aircraft =>
      cases hi : d.m_index aircraft.m_id with
      | none =>
          obtain ⟨hupdate, hinv⟩ := h.update_new hi
          exact ⟨_, _, by rw [AircraftData.step, hupdate]; rfl, hinv⟩
      | some i =>
          obtain ⟨stored, -, -, hupdate, hinv⟩ := h.update_known hi
          exact ⟨_, _, by rw [AircraftData.step, hupdate]; rfl, hinv⟩
  | processAircrafts position atmPress =>
      exact ⟨_, _, rfl, (h.pass process position atmPress).2.2.1⟩
  | get_serialized dest => exact ⟨_, _, rfl, h⟩

/-- In every reachable state the index is exact, so `update` stays in the bounds of the vector and
hits the aircraft it means, and a pass never misses a key, whichever aircrafts it deletes and
whichever calls of the processor throw. -/
theorem index_exact_of_reachable (process : Process) (maxDist : Int32) (ops : List AircraftOp) :
    ∃ results d, run (step process) (ofMaxDist maxDist) ops = some (results, d) ∧
      (d.m_container.map (·.m_id)).Nodup ∧
      (∀ id, (d.m_index id).isSome ↔ ∃ a ∈ d.m_container, a.m_id = id) ∧
      (∀ i a, d.m_container[i]? = some a → d.m_index a.m_id = some i) ∧
      (∀ aircraft : Aircraft, ∀ i, d.m_index aircraft.m_id = some i →
        ∃ stored, d.m_container[i]? = some stored ∧ stored.m_id = aircraft.m_id) ∧
      (∀ position atmPress, .indexAt ∉ (d.pass process position atmPress).caught) := by
  obtain ⟨results, d, hrun, hinv⟩ := run_invariant RepInv
    (fun d op h => RepInv.step h process op) (RepInv.empty maxDist) ops
  refine ⟨results, d, hrun, hinv.nodup, fun id => ?_, fun i a hi => ?_,
    fun aircraft i hi => hinv.find hi, fun position atmPress =>
      (hinv.pass process position atmPress).2.2.2⟩
  · rw [hinv.dom, ids, List.mem_map]
  · have hget : (ids d.m_container)[i]? = some a.m_id := by
      rw [ids, List.getElem?_map, hi]
      rfl
    exact hinv.pos i a.m_id hget (List.getElem?_eq_some_iff.mp hget).1

end AircraftData

end VirtualFlightRadar
