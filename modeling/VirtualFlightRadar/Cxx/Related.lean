import VirtualFlightRadar.Cxx.Captures
import VirtualFlightRadar.Cxx.Digits
import Mathlib.Data.List.Forall2

/-!
# Matches of related texts

Where no class of an expression tells related characters apart, texts that are related character by
character match alike, and with related captures.  The texts may go on differently as soon as a
character follows that the expression does not take.  Letters in the two cases are such a relation
for every expression that ignores case.
-/

namespace Cxx

namespace Regex

variable {α : Type}

/-- The character classes of an expression. -/
def classes : Regex α → List (α → Bool)
  | .empty => []
  | .eos => []
  | .chars p _ _ _ => [p]
  | .seq q r => q.classes ++ r.classes
  | .opt r => r.classes
  | .group _ r => r.classes

def Respects (R : α → α → Prop) (r : Regex α) : Prop :=
  ∀ p ∈ r.classes, ∀ b b', R b b' → p b = p b'

/-- No class of the expression has the first character of the text. -/
def Stops (r : Regex α) (s : List α) : Prop := ∀ p ∈ r.classes, ∀ b ∈ s.head?, p b = false

def RelCaptures (R : α → α → Prop) (c c' : Captures α) : Prop := ∀ n, List.Forall₂ R (c n) (c' n)

variable {R : α → α → Prop} {p : α → Bool} {y y' : List α}

theorem Rel.or {a a' b b' : Option (Captures α)} (ha : Option.Rel (RelCaptures R) a a')
    (hb : Option.Rel (RelCaptures R) b b') : Option.Rel (RelCaptures R) (a.or b) (a'.or b') := by
  cases ha with
  | some h => exact .some h
  | none => exact hb

section

variable (hp : ∀ b b', R b b' → p b = p b') (hy : ∀ b ∈ y.head?, p b = false)
  (hy' : ∀ b ∈ y'.head?, p b = false) {k k' : List α → Option (Captures α)}
  (hk : ∀ x x', List.Forall₂ R x x' → Option.Rel (RelCaptures R) (k (x ++ y)) (k' (x' ++ y')))

include hp hy hy' hk

theorem exactly_rel (n : Nat) {x x' : List α} (hx : List.Forall₂ R x x') :
    Option.Rel (RelCaptures R) (exactly p k n (x ++ y)) (exactly p k' n (x' ++ y')) := by
  have hstop : ∀ (k : List α → Option (Captures α)) (n : Nat) {t : List α},
      (∀ b ∈ t.head?, p b = false) → exactly p k (n + 1) t = none := by
    intro k n t ht
    cases t with
    | nil => rfl
    | cons b t => rw [exactly, ht b rfl, if_neg Bool.false_ne_true]
  induction n generalizing x x' with
  | zero => exact hk x x' hx
  | succ n ih =>
      cases hx with
      | nil =>
          rw [List.nil_append, List.nil_append, hstop k n hy, hstop k' n hy']
          exact .none
      | cons hb hx =>
          rw [List.cons_append, List.cons_append, exactly, exactly, hp _ _ hb]
          split
          · exact ih hx
          · exact .none

theorem upTo_rel (lazy : Bool) (n : Nat) {x x' : List α} (hx : List.Forall₂ R x x') :
    Option.Rel (RelCaptures R) (upTo p lazy k n (x ++ y)) (upTo p lazy k' n (x' ++ y')) := by
  have hstop : ∀ (k : List α → Option (Captures α)) (n : Nat) {t : List α},
      (∀ b ∈ t.head?, p b = false) → upTo p lazy k n t = k t := by
    intro k n t ht
    cases n with
    | zero => rfl
    | succ n =>
        cases t with
        | nil => rfl
        | cons b t =>
            rw [upTo, ht b rfl, if_neg Bool.false_ne_true]
            cases lazy
            · rfl
            · exact Option.or_none
  induction n generalizing x x' with
  | zero => exact hk x x' hx
  | succ n ih =>
      cases hx with
      | nil =>
          rw [List.nil_append, List.nil_append, hstop k _ hy, hstop k' _ hy']
          exact hk [] [] .nil
      | cons hb hx =>
          have hstay := hk _ _ (List.Forall₂.cons hb hx)
          have hmore := ih hx
          rw [List.cons_append, List.cons_append, upTo, upTo, hp _ _ hb]
          rw [List.cons_append, List.cons_append] at hstay
          cases lazy
          · exact Rel.or (by split <;> [exact hmore; exact .none]) hstay
          · exact Rel.or hstay (by split <;> [exact hmore; exact .none])

end

theorem RelCaptures.update {c c' : Captures α} (hc : RelCaptures R c c') {a a' : List α}
    (ha : List.Forall₂ R a a') (n : Nat) :
    RelCaptures R (Function.update c n a) (Function.update c' n a') := by
  intro m
  by_cases hm : m = n
  · subst hm
    rw [Function.update_self, Function.update_self]
    exact ha
  · rw [Function.update_of_ne hm, Function.update_of_ne hm]
    exact hc m

/-- What a group has captured when a rest is left. -/
theorem take_rest (x z y : List α) :
    (x ++ y).take ((x ++ y).length - (z ++ y).length) = x.take (x.length - z.length) := by
  rw [List.length_append, List.length_append, Nat.add_sub_add_right,
    List.take_append_of_le_length (Nat.sub_le _ _)]

theorem matchAt_rel {r : Regex α} (hr : Respects R r) (hy : Stops r y) (hy' : Stops r y')
    (hlen : y.length = y'.length) {x x' : List α} (hx : List.Forall₂ R x x') {c c' : Captures α}
    (hc : RelCaptures R c c') {k k' : Cont α}
    (hk : ∀ x x' c c', List.Forall₂ R x x' → RelCaptures R c c' →
      Option.Rel (RelCaptures R) (k (x ++ y) c) (k' (x' ++ y') c')) :
    Option.Rel (RelCaptures R) (matchAt r (x ++ y) c k) (matchAt r (x' ++ y') c' k') := by
  induction r generalizing x x' c c' k k' with
  | empty => exact hk x x' c c' hx hc
  | eos =>
      have hempty : (x ++ y).isEmpty = (x' ++ y').isEmpty := by
        rw [Bool.eq_iff_iff, List.isEmpty_iff_length_eq_zero, List.isEmpty_iff_length_eq_zero,
          List.length_append, List.length_append, hx.length_eq, hlen]
      rw [matchAt, matchAt, hempty]
      split
      · exact hk x x' c c' hx hc
      · exact .none
  | chars p min max lazy =>
      have hp := hr p (List.mem_singleton_self p)
      have hstop := hy p (List.mem_singleton_self p)
      have hstop' := hy' p (List.mem_singleton_self p)
      rw [matchAt, matchAt]
      apply exactly_rel hp hstop hstop' _ min hx
      intro x x' hx
      -- Without a bound both sides count the same number of characters.
      have hcount : (x' ++ y').length = (x ++ y).length := by
        rw [List.length_append, List.length_append, hx.length_eq, hlen]
      simp only [hcount]
      exact upTo_rel hp hstop hstop' (fun x x' hx => hk x x' c c' hx hc) lazy _ hx
  | seq q r ihq ihr =>
      have hq : Respects R q := fun p hp => hr p (List.mem_append_left _ hp)
      have hr' : Respects R r := fun p hp => hr p (List.mem_append_right _ hp)
      apply ihq hq (fun p hp => hy p (List.mem_append_left _ hp))
        (fun p hp => hy' p (List.mem_append_left _ hp)) hx hc
      intro x x' c c' hx hc
      exact ihr hr' (fun p hp => hy p (List.mem_append_right _ hp))
        (fun p hp => hy' p (List.mem_append_right _ hp)) hx hc hk
  | opt r ih => exact Rel.or (ih hr hy hy' hx hc hk) (hk x x' c c' hx hc)
  | group n r ih =>
      apply ih hr hy hy' hx hc
      intro z z' c c' hz hc
      rw [take_rest, take_rest, ← hx.length_eq, ← hz.length_eq]
      exact hk z z' _ _ hz (hc.update (List.forall₂_take _ hx) n)

theorem matchAt_concat_append {rs rs' : List (Regex α)} (s : List α) (c : Captures α) (k : Cont α) :
    matchAt (concat (rs ++ rs')) s c k =
      matchAt (concat rs) s c fun s c => matchAt (concat rs') s c k := by
  induction rs generalizing s c with
  | nil => rfl
  | cons r rs ih =>
      rw [List.cons_append, concat, concat, matchAt, matchAt]
      congr
      funext s c
      exact ih s c

theorem matchAll_rel {r : Regex α} (hr : Respects R r) {s s' : List α} (hs : List.Forall₂ R s s') :
    Option.Rel (RelCaptures R) (matchAll r s) (matchAll r s') := by
  have hstop : Stops r [] := by
    intro p _ b hb
    cases hb
  unfold matchAll
  rw [← List.append_nil s, ← List.append_nil s']
  apply matchAt_rel hr hstop hstop rfl hs fun _ => .nil
  intro x x' c c' hx hc
  cases hx with
  | nil => exact .some hc
  | cons hb hx => exact .none

end Regex

/-! ## Letter case -/

/-- The texts differ in the case of their letters only. -/
def SameLetters (s s' : Bytes) : Prop := s.map toLower = s'.map toLower

def isLetter (b : UInt8) : Bool := isUpper b || isLower b

def swapCase (b : UInt8) : UInt8 := if isUpper b then toLower b else toUpper b

/-- What the two cases of a byte are, gone through once for all of them. -/
theorem cases_of_byte : ∀ b : UInt8,
    toLower (swapCase b) = toLower b ∧ (swapCase b = b ↔ isLetter b = false) ∧
    (b = toLower b ∨ b = toUpper (toLower b)) ∧
    (isLetter b = true → swapCase (toLower b) = toUpper (toLower b) ∧
      swapCase (toUpper (toLower b)) = toLower b ∧ toLower b ≠ toUpper (toLower b)) ∧
    digitVal (toLower b) = digitVal b := by
  decide +kernel

theorem toLower_swapCase (b : UInt8) : toLower (swapCase b) = toLower b := (cases_of_byte b).1

theorem swapCase_eq_self (b : UInt8) : swapCase b = b ↔ isLetter b = false := (cases_of_byte b).2.1

theorem digitVal_toLower (b : UInt8) : digitVal (toLower b) = digitVal b :=
  (cases_of_byte b).2.2.2.2

/-- Of a letter in its two cases, exactly one is the given one. -/
theorem swapCase_eq_iff {b n : UInt8} (hn : isLetter n = true) (h : toLower b = toLower n) :
    swapCase b = n ↔ b ≠ n := by
  obtain ⟨-, -, hn, hswap, -⟩ := cases_of_byte n
  obtain ⟨hlower, hupper, hne⟩ := hswap ‹_›
  have hb := (cases_of_byte b).2.2.1
  rw [h] at hb
  clear hswap h
  generalize toLower n = l at hb hn hlower hupper hne
  rcases hb with rfl | rfl
  · rw [hlower]
    rcases hn with rfl | rfl
    · simp [hne.symm]
    · simp [hne]
  · rw [hupper]
    rcases hn with rfl | rfl
    · simp [hne.symm]
    · simp [hne]

theorem sameLetters_swapCase (s : Bytes) : SameLetters s (s.map swapCase) := by
  unfold SameLetters
  rw [List.map_map]
  exact List.map_congr_left fun b _ => (toLower_swapCase b).symm

theorem SameLetters.eq {s s' : Bytes} (h : SameLetters s s') (hs : ∀ b ∈ s, isLetter b = false) :
    s' = s := by
  induction s generalizing s' with
  | nil => exact List.map_eq_nil_iff.mp h.symm
  | cons b s ih =>
      obtain ⟨b', t, rfl, hb, ht⟩ := List.map_eq_cons_iff.mp h.symm
      obtain ⟨hupper, hlower⟩ := Bool.or_eq_false_iff.mp (hs b List.mem_cons_self)
      rw [eq_of_toLower_eq hlower hupper hb,
        ih ht.symm fun c hc => hs c (List.mem_cons_of_mem b hc)]

theorem natVal_sameLetters {s s' : Bytes} (h : SameLetters s s') (base : Nat) :
    natVal base s = natVal base s' := by
  have hlower : ∀ s : Bytes, natVal base (s.map toLower) = natVal base s := by
    intro s
    unfold natVal
    rw [List.foldl_map]
    simp only [digitVal_toLower]
  rw [← hlower s, h, hlower s']

theorem forall₂_sameLetters {s s' : Bytes} :
    List.Forall₂ (fun b b' => toLower b = toLower b') s s' ↔ SameLetters s s' := by
  unfold SameLetters
  rw [← List.forall₂_eq_eq_eq, List.forall₂_map_left_iff, List.forall₂_map_right_iff]

theorem forall₂_swapCase {s s' : Bytes} :
    List.Forall₂ (fun b b' => swapCase b = b') s s' ↔ s.map swapCase = s' := by
  rw [← List.forall₂_eq_eq_eq, List.forall₂_map_left_iff]

namespace Regex

/-- No class of the expression tells a letter from the same one in the other case. -/
def CaseBlind (r : Regex UInt8) : Prop :=
  ∀ b, isUpper b = true → (r.classes.all fun p => p (toLower b) == p b) = true

variable {r : Regex UInt8} {s s' : Bytes} {c c' : Captures UInt8}

theorem CaseBlind.respects (hr : CaseBlind r) {R : UInt8 → UInt8 → Prop}
    (hR : ∀ b b', R b b' → toLower b = toLower b') : Respects R r := by
  intro p hp b b' hb
  have hlower : ∀ b, p (toLower b) = p b := by
    intro b
    cases hb : isUpper b with
    | true => exact beq_iff_eq.mp (List.all_eq_true.mp (hr b hb) p hp)
    | false => rw [toLower, hb, if_neg Bool.false_ne_true]
  rw [← hlower b, ← hlower b', hR b b' hb]

theorem CaseBlind.respects_swapCase (hr : CaseBlind r) :
    Respects (fun b b' => swapCase b = b') r := by
  apply hr.respects
  rintro b b' rfl
  exact (toLower_swapCase b).symm

theorem some_of_rel {R : UInt8 → UInt8 → Prop} {o o' : Option (Captures UInt8)}
    (h : Option.Rel (RelCaptures R) o o') (ho : o = some c) :
    ∃ c', o' = some c' ∧ RelCaptures R c c' := by
  subst ho
  obtain @⟨_, c', hc⟩ := h
  exact ⟨c', rfl, hc⟩

theorem CaseBlind.matchAll (hr : CaseBlind r) (hs : SameLetters s s')
    (h : r.matchAll s = some c) :
    ∃ c', r.matchAll s' = some c' ∧ ∀ n, SameLetters (c n) (c' n) := by
  obtain ⟨c', hmatch, hc⟩ := some_of_rel
    (matchAll_rel (hr.respects fun _ _ hb => hb) (forall₂_sameLetters.mpr hs)) h
  exact ⟨c', hmatch, fun n => forall₂_sameLetters.mp (hc n)⟩

theorem CaseBlind.matchAll_swapCase (hr : CaseBlind r) (h : r.matchAll s = some c) :
    ∃ c', r.matchAll (s.map swapCase) = some c' ∧ ∀ n, (c n).map swapCase = c' n := by
  obtain ⟨c', hmatch, hc⟩ := some_of_rel
    (matchAll_rel hr.respects_swapCase (forall₂_swapCase.mpr rfl)) h
  exact ⟨c', hmatch, fun n => forall₂_swapCase.mp (hc n)⟩

/-- Groups that take no letters capture the same in both cases. -/
theorem captures_eq {ns : List Nat} (h : r.matchAll s = some c)
    (hns : ∀ b, isLetter b = true → (ns.all fun n => !(r.bodies n).any (accepts b)) = true)
    (hc : ∀ n, SameLetters (c n) (c' n)) : ∀ n ∈ ns, c' n = c n := by
  intro n hn
  apply (hc n).eq
  intro b hb
  by_contra hletter
  have hnone := List.all_eq_true.mp (hns b (Bool.eq_true_of_not_eq_false hletter)) n hn
  rw [List.any_eq_true.mpr (accepts_of_matchAll h b hb)] at hnone
  cases hnone

end Regex

end Cxx
