import VirtualFlightRadar.Cxx.Machine

/-!
# Refinement of runs

One machine refines another if each of its steps is a run of the other between related states.  What
a step is in the other machine is read off its output, so that the runs of the parts of a system come
from one run of the whole.  Where a step of the other machine says early what is only found out
later, the relation has an index for what is still to come, and a run fixes it from its end.
-/

namespace Cxx

variable {σ τ ι κ ο π ρ : Type*}

/-! ## Runs one after the other -/

theorem run_append {step : σ → ι → Option (ο × σ)} {s s' : σ} {is : List ι} {os : List ο}
    (hrun : run step s is = some (os, s')) (later : List ι) :
    run step s (is ++ later) =
      (run step s' later).map fun (os', s'') => (os ++ os', s'') := by
  induction is generalizing s os with
  | nil =>
      cases hrun
      rw [List.nil_append]
      cases run step s' later <;> rfl
  | cons i is ih =>
      obtain ⟨o, s₁, os₁, hi, hrest, rfl⟩ := run_cons hrun
      rw [List.cons_append, run, hi]
      simp only [ih hrest]
      cases run step s' later <;> rfl

theorem run_append_some {step : σ → ι → Option (ο × σ)} {s s' s'' : σ} {is later : List ι}
    {os os' : List ο} (hrun : run step s is = some (os, s'))
    (hlater : run step s' later = some (os', s'')) :
    run step s (is ++ later) = some (os ++ os', s'') := by
  rw [run_append hrun, hlater]
  rfl

theorem run_singleton {step : σ → ι → Option (ο × σ)} {s s' : σ} {i : ι} {o : ο}
    (h : step s i = some (o, s')) : run step s [i] = some ([o], s') := by
  rw [run, h]
  rfl

/-- What every step shows, where the states have an invariant. -/
theorem run_all {step : σ → ι → Option (ο × σ)} (I : σ → Prop) (P : ο → Prop)
    (hstep : ∀ s i o s', I s → step s i = some (o, s') → P o ∧ I s') {s s' : σ} (hs : I s)
    {is : List ι} {os : List ο} (hrun : run step s is = some (os, s')) : (∀ o ∈ os, P o) ∧ I s' := by
  induction is generalizing s os with
  | nil =>
      cases hrun
      exact ⟨fun o ho => absurd ho List.not_mem_nil, hs⟩
  | cons i is ih =>
      obtain ⟨o, s₁, os₁, hi, hrest, rfl⟩ := run_cons hrun
      obtain ⟨ho, hs₁⟩ := hstep s i o s₁ hs hi
      obtain ⟨hos, hs'⟩ := ih hs₁ hrest
      exact ⟨List.forall_mem_cons.mpr ⟨ho, hos⟩, hs'⟩

/-- An output of a run is put out by a step from the state that the part of the run before it
reaches. -/
theorem run_split {step : σ → ι → Option (ο × σ)} {s s' : σ} {is : List ι} {front back : List ο}
    {o : ο} (hrun : run step s is = some (front ++ o :: back, s')) :
    ∃ is₁ s₁ i s₂, run step s is₁ = some (front, s₁) ∧ step s₁ i = some (o, s₂) := by
  induction front generalizing s is with
  | nil =>
      cases is with
      | nil => cases hrun
      | cons i is =>
          obtain ⟨first, s₁, rest, hi, -, heq⟩ := run_cons hrun
          cases heq
          exact ⟨[], s, i, s₁, rfl, hi⟩
  | cons first front ih =>
      cases is with
      | nil => cases hrun
      | cons i is =>
          obtain ⟨first', s₁, rest, hi, hrest, heq⟩ := run_cons hrun
          cases heq
          obtain ⟨is₁, s₂, j, s₃, hbefore, hj⟩ := ih hrest
          refine ⟨i :: is₁, s₂, j, s₃, ?_, hj⟩
          rw [run, hi]
          simp only [hbefore, Option.map_some]

/-! ## Forward -/

section Forward

variable {step : σ → ι → Option (ο × σ)} {part : τ → κ → Option (π × τ)}

/-- What the outputs say that the other machine has been given. -/
def inputsOf (seen : ο → List (κ × π)) (os : List ο) : List κ := (os.flatMap seen).map Prod.fst

def outputsOf (seen : ο → List (κ × π)) (os : List ο) : List π := (os.flatMap seen).map Prod.snd

theorem outputsOf_cons (seen : ο → List (κ × π)) (o : ο) (os : List ο) :
    outputsOf seen (o :: os) = (seen o).map Prod.snd ++ outputsOf seen os := by
  rw [outputsOf, List.flatMap_cons, List.map_append]
  rfl

theorem inputsOf_concat (seen : ο → List (κ × π)) (os : List ο) (o : ο) :
    inputsOf seen (os ++ [o]) = inputsOf seen os ++ (seen o).map Prod.fst := by
  rw [inputsOf, List.flatMap_append, List.flatMap_singleton, List.map_append]
  rfl

theorem outputsOf_concat (seen : ο → List (κ × π)) (os : List ο) (o : ο) :
    outputsOf seen (os ++ [o]) = outputsOf seen os ++ (seen o).map Prod.snd := by
  rw [outputsOf, List.flatMap_append, List.flatMap_singleton, List.map_append]
  rfl

/-- A run of the one machine is a run of the other with the inputs and outputs that are seen of it.
-/
theorem run_refines (seen : ο → List (κ × π)) (R : σ → τ → Prop)
    (hstep : ∀ s t i o s', R s t → step s i = some (o, s') → ∃ t',
      run part t ((seen o).map Prod.fst) = some ((seen o).map Prod.snd, t') ∧ R s' t')
    {s s' : σ} {t : τ} (hR : R s t) {is : List ι} {os : List ο}
    (hrun : run step s is = some (os, s')) :
    ∃ t', run part t (inputsOf seen os) = some (outputsOf seen os, t') ∧ R s' t' := by
  induction is generalizing s t os with
  | nil =>
      cases hrun
      exact ⟨t, rfl, hR⟩
  | cons i is ih =>
      obtain ⟨o, s₁, os₁, hi, hrest, rfl⟩ := run_cons hrun
      obtain ⟨t₁, hfirst, hR₁⟩ := hstep s t i o s₁ hR hi
      obtain ⟨t', hlater, hR'⟩ := ih hR₁ hrest
      refine ⟨t', ?_, hR'⟩
      have hinputs : inputsOf seen (o :: os₁) = (seen o).map Prod.fst ++ inputsOf seen os₁ := by
        rw [inputsOf, List.flatMap_cons, List.map_append]
        rfl
      rw [hinputs, outputsOf_cons]
      exact run_append_some hfirst hlater

/-- A part is left alone, or takes the step that is seen of it. -/
def PartStep (part : τ → κ → Option (π × τ)) (t t' : τ) : Option (κ × π) → Prop
  | none => t' = t
  | some (k, p) => part t k = some (p, t')

theorem PartStep.run {t t' : τ} {seen : Option (κ × π)} (h : PartStep part t t' seen) :
    Cxx.run part t (seen.toList.map Prod.fst) = some (seen.toList.map Prod.snd, t') := by
  cases seen with
  | none =>
      have heq : t' = t := h
      rw [heq]
      rfl
  | some taken => exact run_singleton h

/-- A part that is there before a run is there after it, and has made the run that is seen of it. -/
theorem run_part (part : τ → κ → Option (π × τ)) (seen : ο → Option (κ × π)) (R : σ → τ → Prop)
    (hstep : ∀ s t i o s', R s t → step s i = some (o, s') →
      ∃ t', PartStep part t t' (seen o) ∧ R s' t')
    {s s' : σ} {t : τ} (hR : R s t) {is : List ι} {os : List ο}
    (hrun : run step s is = some (os, s')) :
    ∃ t', run part t (inputsOf (fun o => (seen o).toList) os) =
      some (outputsOf (fun o => (seen o).toList) os, t') ∧ R s' t' := by
  apply run_refines (fun o => (seen o).toList) R _ hR hrun
  intro s t i o s' hR hi
  obtain ⟨t', hpart, hR'⟩ := hstep s t i o s' hR hi
  exact ⟨t', hpart.run, hR'⟩

end Forward

/-! ## An abstract machine -/

/-- A total machine gives the answers to a run, while the cost of its inputs stays below a bound. -/
theorem run_answers {step : σ → ι → Option (ο × σ)} {spec : τ → ι → π × τ} {ok : ι → Prop}
    (answer : ο → π) (cost : ι → Nat) {bound : Nat} (R : Nat → σ → τ → Prop)
    (hstep : ∀ n s t i o s', R n s t → ok i → n + cost i < bound → step s i = some (o, s') →
      answer o = (spec t i).1 ∧ R (n + cost i) s' (spec t i).2)
    {n : Nat} {s s' : σ} {t : τ} (hR : R n s t) {is : List ι} (hok : ∀ i ∈ is, ok i)
    (hcost : n + (is.map cost).sum < bound) {os : List ο} (hrun : run step s is = some (os, s')) :
    os.map answer = (trace spec t is).1 ∧
      R (n + (is.map cost).sum) s' (trace spec t is).2 := by
  induction is generalizing n s t os with
  | nil =>
      cases hrun
      exact ⟨rfl, hR⟩
  | cons i is ih =>
      obtain ⟨o, s₁, os₁, hi, hrest, rfl⟩ := run_cons hrun
      have hsum : n + ((i :: is).map cost).sum = n + cost i + (is.map cost).sum := by
        rw [List.map_cons, List.sum_cons, Nat.add_assoc]
      rw [hsum] at hcost ⊢
      obtain ⟨ho, hR₁⟩ := hstep n s t i o s₁ hR (hok i List.mem_cons_self) (by omega) hi
      obtain ⟨hos, hR'⟩ := ih hR₁ (fun j hj => hok j (List.mem_cons_of_mem i hj)) hcost hrest
      exact ⟨congrArg₂ List.cons ho hos, hR'⟩

/-! ## With a prophecy -/

/-- The relation is indexed by what is still to come.  For every index after a step there is one
before it, for which the step is a run of the other machine; so there is one for a whole run.  `P`
is what each step of the run shows of the two states that it starts from. -/
theorem run_prophecy {step : σ → ι → Option (ο × σ)} {part : τ → κ → Option (π × τ)}
    (E : ι → List κ → Prop) (P : σ → τ → ι → Prop) (R : ρ → σ → τ → Prop)
    (hstep : ∀ s i o s' p', step s i = some (o, s') → ∃ p, ∀ t, R p s t →
      ∃ ks os' t', E i ks ∧ P s t i ∧ run part t ks = some (os', t') ∧ R p' s' t')
    {s s' : σ} {is : List ι} {os : List ο} (hrun : run step s is = some (os, s')) (p' : ρ) :
    ∃ p, ∀ t, R p s t → ∃ kss os' t',
      List.Forall₂ E is kss ∧ run part t kss.flatten = some (os', t') ∧ R p' s' t' ∧
        ∀ front i back, is = front ++ i :: back → ∃ os₁ s₁ os₂ t₁,
          run step s front = some (os₁, s₁) ∧
          run part t (kss.take front.length).flatten = some (os₂, t₁) ∧ P s₁ t₁ i := by
  induction is generalizing s os with
  | nil =>
      cases hrun
      refine ⟨p', fun t hR => ⟨[], [], t, .nil, rfl, hR, fun front i back hno => ?_⟩⟩
      exact absurd hno.symm (List.append_ne_nil_of_right_ne_nil front (List.cons_ne_nil i back))
  | cons i is ih =>
      obtain ⟨o, s₁, os₁, hi, hrest, rfl⟩ := run_cons hrun
      obtain ⟨p₁, hlater⟩ := ih hrest
      obtain ⟨p, hfirst⟩ := hstep s i o s₁ p₁ hi
      refine ⟨p, fun t hR => ?_⟩
      obtain ⟨ks, os₂, t₁, hE, hP, hks, hR₁⟩ := hfirst t hR
      obtain ⟨kss, os₃, t', hEs, hkss, hR', hshown⟩ := hlater t₁ hR₁
      refine ⟨ks :: kss, os₂ ++ os₃, t', .cons hE hEs, run_append_some hks hkss, hR', ?_⟩
      intro front j back heq
      cases front with
      | nil =>
          cases heq
          exact ⟨[], s, [], t, rfl, rfl, hP⟩
      | cons first front =>
          cases heq
          obtain ⟨os₄, s₂, os₅, t₂, hs₂, ht₂, hP₂⟩ := hshown front j back rfl
          refine ⟨o :: os₄, s₂, os₂ ++ os₅, t₂, ?_, run_append_some hks ht₂, hP₂⟩
          rw [run, hi]
          simp only [hs₂, Option.map_some]

end Cxx
