import Mathlib.Tactic

/-!
# Loops and runs

A `while` loop with a bound on its rounds, and runs of a step function over a list of inputs.  A
step may be undefined; the rules for runs say that an invariant, or a simulation by a total
specification, keeps every step of a run defined.
-/

namespace Cxx

/-! ## Loops -/

/-- `while (cond) body`, for at most `fuel` rounds. -/
def whileLoop {σ : Type*} (cond : σ → Bool) (body : σ → σ) : Nat → σ → σ
  | 0, s => s
  | fuel + 1, s => if cond s then whileLoop cond body fuel (body s) else s

theorem whileLoop_exit {σ : Type*} {cond : σ → Bool} {body : σ → σ} {s : σ} (fuel : Nat)
    (h : cond s = false) : whileLoop cond body fuel s = s := by
  cases fuel with
  | zero => rfl
  | succ fuel => rw [whileLoop, h]; rfl

theorem whileLoop_round {σ : Type*} {cond : σ → Bool} {body : σ → σ} {s : σ} (fuel : Nat)
    (h : cond s = true) : whileLoop cond body (fuel + 1) s = whileLoop cond body fuel (body s) := by
  rw [whileLoop, h]
  rfl

/-! ## Runs -/

section Runs

variable {σ τ ι ο : Type*}

/-- The outputs and the last state of a run, if every step is defined. -/
def run (step : σ → ι → Option (ο × σ)) : σ → List ι → Option (List ο × σ)
  | s, [] => some ([], s)
  | s, i :: is =>
      match step s i with
      | none => none
      | some (o, s') => (run step s' is).map fun (os, s'') => (o :: os, s'')

/-- The outputs and the last state of a run of a total step function. -/
def trace (step : τ → ι → ο × τ) : τ → List ι → List ο × τ
  | t, [] => ([], t)
  | t, i :: is =>
      let (o, t') := step t i
      let (os, t'') := trace step t' is
      (o :: os, t'')

/-- What every step on an input with `ok` preserves holds after every run over such inputs. -/
theorem trace_invariant {step : τ → ι → ο × τ} {ok : ι → Prop} (I : τ → Prop)
    (hstep : ∀ t i, I t → ok i → I (step t i).2) {t : τ} (ht : I t) (is : List ι)
    (hok : ∀ i ∈ is, ok i) : I (trace step t is).2 := by
  induction is generalizing t with
  | nil => exact ht
  | cons i is ih =>
      apply ih (hstep t i ht (hok i List.mem_cons_self))
      intro j hj
      exact hok j (List.mem_cons_of_mem i hj)

/-- An invariant that keeps every step on an input with `ok` defined holds after every run over such
inputs, and every such run is defined. -/
theorem run_invariant_of {step : σ → ι → Option (ο × σ)} {ok : ι → Prop} (I : σ → Prop)
    (hstep : ∀ s i, I s → ok i → ∃ o s', step s i = some (o, s') ∧ I s') {s : σ} (hs : I s)
    (is : List ι) (hok : ∀ i ∈ is, ok i) : ∃ os s', run step s is = some (os, s') ∧ I s' := by
  induction is generalizing s with
  | nil => exact ⟨[], s, rfl, hs⟩
  | cons i is ih =>
      obtain ⟨o, s', hi, hs'⟩ := hstep s i hs (hok i List.mem_cons_self)
      obtain ⟨os, s'', his, hs''⟩ := ih hs' (fun j hj => hok j (List.mem_cons_of_mem i hj))
      refine ⟨o :: os, s'', ?_, hs''⟩
      rw [run, hi]
      simp only [his, Option.map_some]

theorem run_invariant {step : σ → ι → Option (ο × σ)} (I : σ → Prop)
    (hstep : ∀ s i, I s → ∃ o s', step s i = some (o, s') ∧ I s') {s : σ} (hs : I s)
    (is : List ι) : ∃ os s', run step s is = some (os, s') ∧ I s' :=
  run_invariant_of I (fun s i h (_ : True) => hstep s i h) hs is (fun _ _ => trivial)

/-- The first step of a run. -/
theorem run_cons {step : σ → ι → Option (ο × σ)} {s s'' : σ} {i : ι} {is : List ι} {os : List ο}
    (hrun : run step s (i :: is) = some (os, s'')) :
    ∃ o s' os', step s i = some (o, s') ∧ run step s' is = some (os', s'') ∧ os = o :: os' := by
  rw [run] at hrun
  cases hi : step s i with
  | none =>
      rw [hi] at hrun
      cases hrun
  | some next =>
      rw [hi] at hrun
      simp only [Option.map_eq_some_iff, Prod.mk.injEq, Prod.exists] at hrun
      obtain ⟨os', s', hrest, rfl, rfl⟩ := hrun
      exact ⟨next.1, next.2, os', rfl, hrest, rfl⟩

theorem run_concat {step : σ → ι → Option (ο × σ)} {s s'' : σ} {is : List ι} {i : ι} {os : List ο}
    (hrun : run step s (is ++ [i]) = some (os, s'')) :
    ∃ os' s' o, run step s is = some (os', s') ∧ step s' i = some (o, s'') ∧ os = os' ++ [o] := by
  -- Only the last step is split off; a run whose first step is undefined has no outputs at all.
  induction is generalizing s os with
  | nil =>
      obtain ⟨o, s', os', hi, hrest, rfl⟩ := run_cons hrun
      cases hrest
      exact ⟨[], s, o, rfl, hi, rfl⟩
  | cons j is ih =>
      obtain ⟨o, s₁, os₁, hj, hrest, rfl⟩ := run_cons hrun
      obtain ⟨os', s', o', his, hi, rfl⟩ := ih hrest
      refine ⟨o :: os', s', o', ?_, hi, rfl⟩
      rw [run, hj]
      simp only [his, Option.map_some]

theorem run_append_step {step : σ → ι → Option (ο × σ)} {s s' s'' : σ} {is : List ι} {i : ι}
    {os : List ο} {o : ο} (hrun : run step s is = some (os, s')) (hi : step s' i = some (o, s'')) :
    run step s (is ++ [i]) = some (os ++ [o], s'') := by
  induction is generalizing s os with
  | nil =>
      cases hrun
      rw [List.nil_append, run, hi]
      rfl
  | cons j is ih =>
      obtain ⟨o', s₁, os', hj, hrest, rfl⟩ := run_cons hrun
      rw [List.cons_append, run, hj]
      simp only [ih hrest, Option.map_some]
      rfl

/-- A relation between the inputs so far and the state, kept by every step from a reached state,
where every step is defined. -/
theorem run_provenance {step : σ → ι → Option (ο × σ)} {s : σ} (I : List ι → σ → Prop)
    (hinit : I [] s)
    (hstep : ∀ is os s' i, run step s is = some (os, s') → I is s' →
      ∃ o s'', step s' i = some (o, s'') ∧ I (is ++ [i]) s'') (is : List ι) :
    ∃ os s', run step s is = some (os, s') ∧ I is s' := by
  induction is using List.reverseRecOn with
  | nil => exact ⟨[], s, rfl, hinit⟩
  | append_singleton is i ih =>
      obtain ⟨os, s', hrun, hI⟩ := ih
      obtain ⟨o, s'', hi, hI'⟩ := hstep is os s' i hrun hI
      exact ⟨os ++ [o], s'', run_append_step hrun hi, hI'⟩

/-- A relation between what was put out so far and the state, kept by every step that is taken. -/
theorem run_history {step : σ → ι → Option (ο × σ)} {ok : ι → Prop} (I : List ο → σ → Prop)
    (hstep : ∀ os s i o s', I os s → ok i → step s i = some (o, s') → I (os ++ [o]) s') {s : σ}
    (before : List ο) (hs : I before s) {is : List ι} (hok : ∀ i ∈ is, ok i) {os : List ο} {s' : σ}
    (hrun : run step s is = some (os, s')) : I (before ++ os) s' := by
  induction is generalizing s before os with
  | nil =>
      cases hrun
      rw [List.append_nil]
      exact hs
  | cons i is ih =>
      obtain ⟨o, s₁, os', hi, hrest, rfl⟩ := run_cons hrun
      -- The output of this step belongs to what the rest of the run has behind it.
      have hnext := hstep before s i o s₁ hs (hok i List.mem_cons_self) hi
      have hend := ih (before ++ [o]) hnext (fun j hj => hok j (List.mem_cons_of_mem i hj)) hrest
      rw [List.append_assoc] at hend
      exact hend

/-- A run whose inputs all satisfy `ok` gives the outputs of a specification that simulates it. -/
theorem run_of_simulation {step : σ → ι → Option (ο × σ)} {spec : τ → ι → ο × τ} {ok : ι → Prop}
    (R : σ → τ → Prop)
    (hstep : ∀ s t i, R s t → ok i → ∃ s', step s i = some ((spec t i).1, s') ∧ R s' (spec t i).2)
    {s : σ} {t : τ} (hR : R s t) (is : List ι) (hok : ∀ i ∈ is, ok i) :
    ∃ s', run step s is = some ((trace spec t is).1, s') ∧ R s' (trace spec t is).2 := by
  induction is generalizing s t with
  | nil => exact ⟨s, rfl, hR⟩
  | cons i is ih =>
      obtain ⟨s', hi, hR'⟩ := hstep s t i hR (hok i (by simp))
      obtain ⟨s'', his, hR''⟩ := ih hR' (fun j hj => hok j (by simp [hj]))
      refine ⟨s'', ?_, hR''⟩
      rw [run, hi]
      simp only [his, Option.map_some]
      rfl

/-- A simulation that only holds while the cost of the inputs stays below a bound. -/
theorem trace_of_simulation {step : σ → ι → ο × σ} {spec : τ → ι → ο × τ} (cost : ι → Nat)
    {bound : Nat} (R : Nat → σ → τ → Prop)
    (hstep : ∀ n s t i, R n s t → n + cost i < bound →
      (step s i).1 = (spec t i).1 ∧ R (n + cost i) (step s i).2 (spec t i).2)
    {n : Nat} {s : σ} {t : τ} (hR : R n s t) (is : List ι)
    (hcost : n + (is.map cost).sum < bound) :
    (trace step s is).1 = (trace spec t is).1 ∧
      R (n + (is.map cost).sum) (trace step s is).2 (trace spec t is).2 := by
  induction is generalizing n s t with
  | nil => exact ⟨rfl, hR⟩
  | cons i is ih =>
      rw [List.map_cons, List.sum_cons, ← Nat.add_assoc] at hcost ⊢
      obtain ⟨hout, hR'⟩ := hstep n s t i hR (by omega)
      obtain ⟨houts, hend⟩ := ih hR' hcost
      exact ⟨congrArg₂ List.cons hout houts, hend⟩

end Runs

end Cxx
