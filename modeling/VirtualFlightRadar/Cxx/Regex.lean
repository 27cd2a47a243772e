import VirtualFlightRadar.Cxx.Bytes
import Mathlib.Logic.Function.Basic

/-!
# Regular expressions with captures

Perl expressions in which only character classes are repeated.  `matchAt` is the backtracking match:
it tries the choices of an expression in their order, hands what is left to a continuation, and goes
on with the next choice when the continuation fails.  A match is the first choice that works, so the
captures depend on the order.

`Picks` says that a choice comes before every other one that could work, and `Fails` that there is
none, both for every continuation.  They compose along an expression from its end to its start.
-/

namespace Cxx

/-- An expression over characters of a type. -/
inductive Regex (α : Type) where
  | empty
  -- `$`.  In a match of the whole text it can only be at the end.
  | eos
  -- Between `min` and `max` characters of a class, as few or as many as possible first.
  | chars (p : α → Bool) (min : Nat) (max : Option Nat) (lazy : Bool)
  | seq (q r : Regex α)
  -- `(?:r)?`
  | opt (r : Regex α)
  -- The capture group of a number.
  | group (n : Nat) (r : Regex α)

/-- The text of each group, empty for one that did not take part. -/
abbrev Captures (α : Type) := Nat → List α

namespace Regex

variable {α : Type}

def one (p : α → Bool) : Regex α := .chars p 1 (some 1) false
def times (p : α → Bool) (n : Nat) : Regex α := .chars p n (some n) false
def between (p : α → Bool) (min max : Nat) : Regex α := .chars p min (some max) false
def plus (p : α → Bool) : Regex α := .chars p 1 none false
def plusLazy (p : α → Bool) : Regex α := .chars p 1 none true
def starLazy (p : α → Bool) : Regex α := .chars p 0 none true

def concat : List (Regex α) → Regex α
  | [] => .empty
  | r :: rs => .seq r (concat rs)

/-- What a match hands on: the rest of the text and the captures so far. -/
abbrev Cont (α : Type) := List α → Captures α → Option (Captures α)

def exactly (p : α → Bool) (k : List α → Option (Captures α)) : Nat → List α → Option (Captures α)
  | 0, s => k s
  | _ + 1, [] => none
  | n + 1, b :: s => if p b then exactly p k n s else none

/-- At most `n` more characters of a class. -/
def upTo (p : α → Bool) (lazy : Bool) (k : List α → Option (Captures α)) :
    Nat → List α → Option (Captures α)
  | 0, s => k s
  | _ + 1, [] => k []
  | n + 1, b :: s =>
      -- stop first, or go on first
      if lazy then (k (b :: s)).or (if p b then upTo p lazy k n s else none)
      else (if p b then upTo p lazy k n s else none).or (k (b :: s))

def matchAt : Regex α → List α → Captures α → Cont α → Option (Captures α)
  | .empty, s, c, k => k s c
  | .eos, s, c, k => if s.isEmpty then k s c else none
  | .chars p min max lazy, s, c, k =>
      -- Without a maximum the text itself is the bound.
      exactly p (fun s => upTo p lazy (fun s => k s c) (match max with
        | some max => max - min
        | none => s.length) s) min s
  | .seq q r, s, c, k => matchAt q s c fun s c => matchAt r s c k
  -- A Perl `?` tries its expression before it tries nothing.
  | .opt r, s, c, k => (matchAt r s c k).or (k s c)
  | .group n r, s, c, k =>
      -- What is gone from the text when the group closes is what it has captured.
      matchAt r s c fun rest c => k rest (Function.update c n (s.take (s.length - rest.length)))

theorem exactly_zero (p : α → Bool) (k : List α → Option (Captures α)) (s : List α) :
    exactly p k 0 s = k s := rfl

theorem exactly_cons (p : α → Bool) (k : List α → Option (Captures α)) (n : Nat) (b : α)
    (s : List α) : exactly p k (n + 1) (b :: s) = if p b then exactly p k n s else none := rfl

theorem upTo_zero (p : α → Bool) (lazy : Bool) (k : List α → Option (Captures α)) (s : List α) :
    upTo p lazy k 0 s = k s := rfl

theorem upTo_cons (p : α → Bool) (lazy : Bool) (k : List α → Option (Captures α)) (n : Nat) (b : α)
    (s : List α) : upTo p lazy k (n + 1) (b :: s) =
      if lazy then (k (b :: s)).or (if p b then upTo p lazy k n s else none)
      else (if p b then upTo p lazy k n s else none).or (k (b :: s)) := rfl

section

variable (s : List α) (c : Captures α) (k : Cont α)

theorem matchAt_chars (p : α → Bool) (min : Nat) (max : Option Nat) (lazy : Bool) :
    matchAt (.chars p min max lazy) s c k =
      exactly p (fun s => upTo p lazy (fun s => k s c) (match max with
        | some max => max - min
        | none => s.length) s) min s := rfl

theorem matchAt_seq (q r : Regex α) :
    matchAt (.seq q r) s c k = matchAt q s c fun s c => matchAt r s c k := rfl

theorem matchAt_concat_eos : matchAt (concat [.eos]) [] c k = k [] c := rfl

theorem matchAt_opt (r : Regex α) :
    matchAt (.opt r) s c k = (matchAt r s c k).or (k s c) := rfl

theorem matchAt_group (n : Nat) (r : Regex α) :
    matchAt (.group n r) s c k = matchAt r s c fun rest c =>
      k rest (Function.update c n (s.take (s.length - rest.length))) := rfl

end

/-- A match of the whole text. -/
def matchAll (r : Regex α) (s : List α) : Option (Captures α) :=
  matchAt r s (fun _ => []) fun rest c => if rest.isEmpty then some c else none

/-! ## Choices that come first -/

/-- The first choice of the expression that can work leaves `rest` and the captures `c'`. -/
def Picks (r : Regex α) (s : List α) (c : Captures α) (rest : List α) (c' : Captures α) : Prop :=
  ∀ k x, k rest c' = some x → matchAt r s c k = some x

/-- No choice of the expression works. -/
def Fails (r : Regex α) (s : List α) (c : Captures α) : Prop := ∀ k, matchAt r s c k = none

variable {p : α → Bool} {q r : Regex α} {s t rest : List α} {c c' : Captures α}

theorem Picks.matchAll (h : Picks r s (fun _ => []) [] c') : matchAll r s = some c' := h _ c' rfl

theorem Picks.empty : Picks .empty s c s c := fun _ _ hk => hk

theorem Picks.seq {c₁ : Captures α} {s₁ : List α} (hq : Picks q s c s₁ c₁)
    (hr : Picks r s₁ c₁ rest c') : Picks (.seq q r) s c rest c' := by
  intro k x hk
  exact hq _ x (hr k x hk)

theorem Picks.seq_assoc {t : Regex α} (h : Picks (.seq q (.seq r t)) s c rest c') :
    Picks (.seq (.seq q r) t) s c rest c' := h

theorem Fails.seq (h : Fails q s c) : Fails (.seq q r) s c := fun _ => h _

theorem Fails.seq_assoc {t : Regex α} (h : Fails (.seq q (.seq r t)) s c) :
    Fails (.seq (.seq q r) t) s c := h

theorem Picks.eos : Picks .eos [] c [] c := fun _ _ hk => hk

theorem Fails.eos (hs : s ≠ []) : Fails .eos s c := by
  intro k
  cases s with
  | nil => exact absurd rfl hs
  | cons b s => rfl

theorem Picks.group {n : Nat} {a : List α} (h : Picks r (a ++ s) c s c') :
    Picks (.group n r) (a ++ s) c s (Function.update c' n a) := by
  intro k x hk
  apply h
  rw [List.length_append, Nat.add_sub_cancel, List.take_left]
  exact hk

/-! ### Optional parts -/

theorem Picks.seq_opt (h : Picks (.seq q r) s c rest c') :
    Picks (.seq (.opt q) r) s c rest c' := by
  intro k x hk
  have hq := h k x hk
  rw [matchAt_seq] at hq
  rw [matchAt_seq, matchAt_opt]
  rw [hq]
  rfl

theorem Picks.seq_opt_of_fails (hq : Fails (.seq q r) s c) (hr : Picks r s c rest c') :
    Picks (.seq (.opt q) r) s c rest c' := by
  intro k x hk
  have hnone := hq k
  rw [matchAt_seq] at hnone
  rw [matchAt_seq, matchAt_opt]
  rw [hnone]
  exact hr k x hk

theorem Fails.seq_opt (hq : Fails (.seq q r) s c) (hr : Fails r s c) :
    Fails (.seq (.opt q) r) s c := by
  intro k
  have hnone := hq k
  rw [matchAt_seq] at hnone
  rw [matchAt_seq, matchAt_opt]
  rw [hnone]
  exact hr k

theorem Picks.opt (h : Picks r s c rest c') : Picks (.opt r) s c rest c' := by
  intro k x hk
  rw [matchAt_opt]
  rw [h k x hk]
  rfl

theorem Picks.opt_of_fails (h : Fails r s c) : Picks (.opt r) s c s c := by
  intro k x hk
  rw [matchAt_opt]
  rw [h k]
  exact hk

/-! ### Characters -/

theorem exactly_append (k : List α → Option (Captures α)) {a : List α}
    (ha : ∀ b ∈ a, p b = true) (s : List α) : exactly p k a.length (a ++ s) = k s := by
  induction a with
  | nil => rfl
  | cons b a ih =>
      rw [List.length_cons, List.cons_append, exactly_cons, if_pos (ha b List.mem_cons_self)]
      exact ih fun b' hb' => ha b' (List.mem_cons_of_mem b hb')

theorem Picks.times {a : List α} {n : Nat} (hlen : a.length = n) (ha : ∀ b ∈ a, p b = true) :
    Picks (Regex.times p n) (a ++ s) c s c := by
  intro k x hk
  subst hlen
  rw [Regex.times, matchAt_chars, exactly_append _ ha]
  simp only [Nat.sub_self]
  exact hk

theorem Picks.one {b : α} (hb : p b = true) : Picks (Regex.one p) (b :: s) c s c :=
  Picks.times (a := [b]) rfl (by simpa using hb)

theorem Fails.one {b : α} (hb : p b = false) : Fails (Regex.one p) (b :: s) c := by
  intro k
  simp [Regex.one, matchAt_chars, exactly_cons, hb]

theorem upTo_greedy (k : List α → Option (Captures α)) {a : List α} {n : Nat}
    (ha : ∀ b ∈ a, p b = true) (hn : a.length ≤ n) (hs : n = a.length ∨ ∀ b ∈ s.head?, p b = false)
    {x : Captures α} (hk : k s = some x) : upTo p false k n (a ++ s) = some x := by
  induction a generalizing n with
  | nil =>
      cases n with
      | zero => exact hk
      | succ n =>
          cases s with
          | nil => exact hk
          | cons b s =>
              -- There is room for more, but the next character is not in the class.
              have hb : p b = false := (hs.resolve_left (by simp)) b rfl
              simp [upTo_cons, hb, hk]
  | cons b a ih =>
      cases n with
      | zero => exact absurd hn (by simp)
      | succ n =>
          have hrec : upTo p false k n (a ++ s) = some x := by
            apply ih (fun b' hb' => ha b' (List.mem_cons_of_mem b hb'))
            · exact Nat.le_of_succ_le_succ hn
            · exact hs.imp_left Nat.succ.inj
          simp [upTo_cons, ha b List.mem_cons_self, hrec]

theorem Picks.greedy {a : List α} {min : Nat} {max : Option Nat} (ha : ∀ b ∈ a, p b = true)
    (hmin : min ≤ a.length)
    (hmax : max = some a.length ∨ (max = none ∧ ∀ b ∈ s.head?, p b = false)) :
    Picks (.chars p min max false) (a ++ s) c s c := by
  intro k x hk
  -- The first `min` characters are not up to choice.
  obtain ⟨a₁, a₂, rfl, rfl⟩ : ∃ a₁ a₂, a = a₁ ++ a₂ ∧ a₁.length = min :=
    ⟨a.take min, a.drop min, (List.take_append_drop min a).symm, List.length_take_of_le hmin⟩
  have ha₁ : ∀ b ∈ a₁, p b = true := fun b hb => ha b (List.mem_append_left a₂ hb)
  have ha₂ : ∀ b ∈ a₂, p b = true := fun b hb => ha b (List.mem_append_right a₁ hb)
  rw [matchAt_chars, List.append_assoc, exactly_append _ ha₁]
  apply upTo_greedy _ ha₂ _ _ hk
  · rcases hmax with rfl | ⟨rfl, -⟩
    · simp
    · simp
  · rcases hmax with rfl | ⟨rfl, hs⟩
    · left
      simp
    · exact .inr hs

/-! ### As few characters as possible -/

theorem upTo_lazy (k : List α → Option (Captures α)) {a : List α} (ha : ∀ b ∈ a, p b = true)
    {x : Captures α} (hk : k s = some x)
    (hfirst : ∀ a₁ a₂, a = a₁ ++ a₂ → k (a₂ ++ s) = none ∨ k (a₂ ++ s) = some x) {n : Nat}
    (hn : a.length ≤ n) : upTo p true k n (a ++ s) = some x := by
  induction a generalizing n with
  | nil =>
      cases n with
      | zero => exact hk
      | succ n =>
          cases s with
          | nil => exact hk
          | cons b s => simp [upTo_cons, hk]
  | cons b a ih =>
      cases n with
      | zero => exact absurd hn (by simp)
      | succ n =>
          have hrec : upTo p true k n (a ++ s) = some x := by
            apply ih (fun b' hb' => ha b' (List.mem_cons_of_mem b hb'))
            · intro a₁ a₂ heq
              exact hfirst (b :: a₁) a₂ (by rw [heq]; rfl)
            · exact Nat.le_of_succ_le_succ hn
          rcases hfirst [] (b :: a) rfl with hnone | hsome
          · -- Stopping here fails, so one more character is taken.
            rw [List.cons_append] at hnone
            simp [upTo_cons, hnone, ha b List.mem_cons_self, hrec]
          · -- Stopping here gives the same captures already.
            rw [List.cons_append] at hsome
            simp [upTo_cons, hsome]

theorem upTo_lazy_none (k : List α → Option (Captures α))
    (hnone : ∀ a b, s = a ++ b → (∀ x ∈ a, p x = true) → k b = none) (n : Nat) :
    upTo p true k n s = none := by
  induction s generalizing n with
  | nil =>
      cases n with
      | zero => exact hnone [] [] rfl (by simp)
      | succ n => exact hnone [] [] rfl (by simp)
  | cons b s ih =>
      have hhere : k (b :: s) = none := hnone [] (b :: s) rfl (by simp)
      cases n with
      | zero => exact hhere
      | succ n =>
          rw [upTo_cons, if_pos rfl, hhere, Option.none_or]
          split
          · rename_i hb
            apply ih
            intro a t heq ha
            apply hnone (b :: a) t (by rw [heq]; rfl)
            intro y hy
            rcases List.mem_cons.mp hy with rfl | hy
            · exact hb
            · exact ha y hy
          · rfl

/-- A lazy repetition stops at the first place where the continuation works. -/
theorem matchAt_plusLazy (k : Cont α) {a : List α} (ha : ∀ b ∈ a, p b = true) (hne : a ≠ [])
    {x : Captures α} (hk : k s c = some x)
    (hfirst : ∀ a₁ a₂, a = a₁ ++ a₂ → a₁ ≠ [] → k (a₂ ++ s) c = none ∨ k (a₂ ++ s) c = some x) :
    matchAt (plusLazy p) (a ++ s) c k = some x := by
  cases a with
  | nil => exact absurd rfl hne
  | cons b a =>
      have ha' : ∀ b' ∈ a, p b' = true := fun b' hb' => ha b' (List.mem_cons_of_mem b hb')
      rw [plusLazy, matchAt_chars, List.cons_append, exactly_cons, if_pos (ha b List.mem_cons_self)]
      apply upTo_lazy (fun s => k s c) ha' hk
      · intro a₁ a₂ heq
        exact hfirst (b :: a₁) a₂ (by rw [heq]; rfl) (by simp)
      · simp

theorem matchAt_plusLazy_none (k : Cont α)
    (hnone : ∀ a b, s = a ++ b → a ≠ [] → (∀ x ∈ a, p x = true) → k b c = none) :
    matchAt (plusLazy p) s c k = none := by
  cases s with
  | nil => rfl
  | cons b s =>
      rw [plusLazy, matchAt_chars, exactly_cons]
      split
      · rename_i hb
        apply upTo_lazy_none
        intro a t heq ha
        apply hnone (b :: a) t (by rw [heq]; rfl) (by simp)
        intro y hy
        rcases List.mem_cons.mp hy with rfl | hy
        · exact hb
        · exact ha y hy
      · rfl

theorem Picks.plusLazy_seq {a : List α} (ha : ∀ b ∈ a, p b = true) (hne : a ≠ [])
    (hr : Picks r s c rest c')
    (hfirst : ∀ a₁ a₂, a = a₁ ++ a₂ → a₁ ≠ [] →
      Fails r (a₂ ++ s) c ∨ Picks r (a₂ ++ s) c rest c') :
    Picks (.seq (plusLazy p) r) (a ++ s) c rest c' := by
  intro k x hk
  rw [matchAt_seq]
  apply matchAt_plusLazy _ ha hne (hr k x hk)
  intro a₁ a₂ heq hne₁
  rcases hfirst a₁ a₂ heq hne₁ with hfail | hpick
  · exact .inl (hfail k)
  · exact .inr (hpick k x hk)

theorem Fails.plusLazy_seq
    (hnone : ∀ a b, s = a ++ b → a ≠ [] → (∀ x ∈ a, p x = true) → Fails r b c) :
    Fails (.seq (plusLazy p) r) s c := by
  intro k
  rw [matchAt_seq]
  apply matchAt_plusLazy_none
  intro a b heq hne ha
  exact hnone a b heq hne ha k

/-- A single character is enough where the rest then matches. -/
theorem Picks.plusLazy_one {b : α} (hb : p b = true) (hr : Picks r s c rest c') :
    Picks (.seq (plusLazy p) r) (b :: s) c rest c' := by
  apply Picks.plusLazy_seq (a := [b]) (by simpa using hb) (by simp) hr
  intro a₁ a₂ heq hne₁
  cases a₁ with
  | nil => exact absurd rfl hne₁
  | cons b' a₁ =>
      cases a₁ with
      | nil =>
          cases heq
          exact .inr hr
      | cons b'' a₁ => cases heq

/-- A group that ends in a lazy repetition: what follows must not start inside of it. -/
theorem Picks.group_plusLazy_seq {n : Nat} {c₁ : Captures α} {a d : List α}
    (hq : Picks q (a ++ (d ++ s)) c (d ++ s) c₁) (hd : ∀ b ∈ d, p b = true) (hne : d ≠ [])
    (hr : Picks r s (Function.update c₁ n (a ++ d)) rest c')
    (hfail : ∀ b t c, p b = true → Fails r (b :: t) c) :
    Picks (.seq (.group n (.seq q (Regex.plusLazy p))) r) (a ++ (d ++ s)) c rest c' := by
  intro k x hk
  have hcut : (a ++ (d ++ s)).take ((a ++ (d ++ s)).length - s.length) = a ++ d := by
    rw [← List.append_assoc, List.length_append, Nat.add_sub_cancel, List.take_left]
  rw [matchAt_seq, matchAt_group, matchAt_seq]
  apply hq
  apply matchAt_plusLazy _ hd hne
  · simp only [hcut]
    exact hr k x hk
  · intro d₁ d₂ heq _
    cases d₂ with
    | nil =>
        right
        simp only [List.nil_append, hcut]
        exact hr k x hk
    | cons b d₂ =>
        -- The group would close too early, before a character of its own class.
        left
        exact hfail b (d₂ ++ s) _ (hd b (by simp [heq])) k

/-- A lazy group at the end takes the whole rest. -/
theorem Picks.plusLazy_group_eos {n : Nat} (hs : ∀ b ∈ s, p b = true) (hne : s ≠ []) :
    Picks (concat [.group n (Regex.plusLazy p), .eos]) s c [] (Function.update c n s) := by
  intro k x hk
  have hend := matchAt_plusLazy (p := p) (s := []) (c := c) (a := s) (x := x)
    (fun rest c => matchAt (concat [.eos]) rest
      (Function.update c n ((s ++ []).take ((s ++ []).length - rest.length))) k) hs hne
    (by simpa [matchAt_concat_eos] using hk)
    (by
      intro a₁ a₂ heq _
      cases a₂ with
      | nil => exact .inr (by simpa [matchAt_concat_eos] using hk)
      | cons b a₂ => exact .inl rfl)
  rw [List.append_nil] at hend
  exact hend

/-- An optional lazy repetition at the end takes whatever is left. -/
theorem Picks.rest_eos (hs : ∀ b ∈ s, p b = true) :
    Picks (concat [.opt (Regex.plusLazy p), .eos]) s c [] c := by
  have heos : Picks (concat [.eos]) ([] : List α) c [] c := Picks.eos.seq Picks.empty
  by_cases hne : s = []
  · -- Nothing is left, and the repetition needs a character.
    subst hne
    apply Picks.seq_opt_of_fails _ heos
    intro k
    rfl
  · apply Picks.seq_opt
    have hpick := Picks.plusLazy_seq (s := []) (a := s) (c := c) hs hne heos
      (by
        intro a₁ a₂ _ _
        cases a₂ with
        | nil => exact .inr heos
        | cons b a₂ => exact .inl (Fails.eos (by simp)).seq)
    rw [List.append_nil] at hpick
    exact hpick

theorem Picks.starLazy_eos (hs : ∀ b ∈ s, p b = true) :
    Picks (concat [starLazy p, .eos]) s c [] c := by
  intro k x hk
  have hend := upTo_lazy (p := p) (s := []) (a := s) (x := x) (n := s.length)
    (fun s => matchAt (concat [.eos]) s c k) hs hk
    (by
      intro a₁ a₂ _
      cases a₂ with
      | nil => exact .inr hk
      | cons b a₂ => exact .inl rfl)
    (le_refl _)
  rw [List.append_nil] at hend
  exact hend

structure Run (p : α → Bool) (n : Nat) (s : List α) : Prop where
  length : s.length = n
  all : ∀ b ∈ s, p b = true

theorem Run.ne_nil {n : Nat} {a : List α} (h : Run p n a) (hn : 0 < n) : a ≠ [] := by
  intro hnil
  have hlen := h.length
  rw [hnil, List.length_nil] at hlen
  omega

theorem Run.append {m n k : Nat} {a b : List α} (ha : Run p m a) (hb : Run p n b)
    (hk : m + n = k) : Run p k (a ++ b) where
  length := by rw [List.length_append, ha.length, hb.length, hk]
  all := List.forall_mem_append.mpr ⟨ha.all, hb.all⟩

theorem Picks.run {a : List α} {n : Nat} (h : Run p n a) :
    Picks (Regex.times p n) (a ++ s) c s c := Picks.times h.length h.all

/-- A text starts with `n` characters of a class. -/
def startsRun (p : α → Bool) (n : Nat) (s : List α) : Bool :=
  (s.take n).length == n && (s.take n).all p

theorem startsRun_add (m n : Nat) :
    startsRun p (m + n) s = (startsRun p m s && startsRun p n (s.drop m)) := by
  have hm : (s.take m).length ≤ m := List.length_take_le m s
  have hn : ((s.drop m).take n).length ≤ n := List.length_take_le n _
  have hlen : ((s.take m ++ (s.drop m).take n).length == m + n) =
      ((s.take m).length == m && ((s.drop m).take n).length == n) := by
    rw [Bool.eq_iff_iff, Bool.and_eq_true, beq_iff_eq, beq_iff_eq, beq_iff_eq, List.length_append]
    omega
  rw [startsRun, List.take_add, hlen, List.all_append, startsRun, startsRun]
  ac_rfl

theorem matchAt_times (n : Nat) (k : Cont α) :
    matchAt (Regex.times p n) s c k = if startsRun p n s then k (s.drop n) c else none := by
  split
  next h =>
    simp only [startsRun, Bool.and_eq_true, beq_iff_eq, List.all_eq_true] at h
    simp only [Regex.times, matchAt_chars, Nat.sub_self]
    have hexact := exactly_append (fun s => k s c) h.2 (s.drop n)
    rw [List.take_append_drop, h.1] at hexact
    exact hexact
  next h =>
    simp only [Regex.times, matchAt_chars]
    induction n generalizing s with
    | zero => simp [startsRun] at h
    | succ n ih =>
        cases s with
        | nil => rfl
        | cons b s =>
            rw [exactly_cons]
            split
            next hb =>
              rw [Nat.sub_self] at ih ⊢
              apply ih
              simpa [startsRun, hb] using h
            next => rfl

theorem Fails.group_times_seq {m n : Nat}
    (h : startsRun p n s = true → ∀ c, Fails r (s.drop n) c) :
    Fails (.seq (.group m (Regex.times p n)) r) s c := by
  intro k
  rw [matchAt_seq, matchAt_group, matchAt_times]
  split
  next hrun => exact h hrun _ k
  next => rfl

/-! ### Words, without regard to case -/

def eqNoCase (a b : UInt8) : Bool := toLower a == toLower b

theorem eqNoCase_of_ne {a b : UInt8} (hlower : isLower a = false) (hupper : isUpper a = false)
    (h : b ≠ a) : eqNoCase a b = false := by
  rw [eqNoCase, beq_eq_false_iff_ne]
  intro heq
  exact h (eq_of_toLower_eq hlower hupper heq.symm)

/-- A class of an expression that ignores case. -/
def icase (p : UInt8 → Bool) (b : UInt8) : Bool := p (toLower b) || p (toUpper b)

def word (text : Bytes) : Regex UInt8 := concat (text.map fun b => one (eqNoCase b))

theorem icase_of {p : UInt8 → Bool} {b : UInt8} (h : p b = true) : icase p b = true := by
  have hcase : ∀ b : UInt8, toLower b = b ∨ toUpper b = b := by decide +kernel
  rcases hcase b with hlower | hupper
  · rw [icase, hlower, h, Bool.true_or]
  · rw [icase, hupper, h, Bool.or_true]

/-- A text starts with a word in any letter case. -/
def startsWord (text s : Bytes) : Bool := (s.take text.length).map toLower == text.map toLower

theorem matchAt_word (text : Bytes) {s : Bytes} {c : Captures UInt8} (k : Cont UInt8) :
    matchAt (word text) s c k = if startsWord text s then k (s.drop text.length) c else none := by
  induction text generalizing s with
  | nil => rfl
  | cons a text ih =>
      have hcons : word (a :: text) = .seq (one (eqNoCase a)) (word text) := rfl
      rw [hcons, matchAt_seq, one, matchAt_chars]
      cases s with
      | nil => rfl
      | cons b s =>
          simp only [exactly_cons, exactly_zero, upTo_zero, Nat.sub_self, ih, eqNoCase, startsWord, List.length_cons,
            List.take_succ_cons, List.map_cons, List.cons_beq_cons, List.drop_succ_cons,
            Bool.and_eq_true, beq_iff_eq]
          by_cases hab : toLower a = toLower b
          · simp [hab]
          · simp [hab, Ne.symm hab]

theorem Fails.word_seq {text s : Bytes} {r : Regex UInt8} {c : Captures UInt8}
    (h : startsWord text s = true → Fails r (s.drop text.length) c) :
    Fails (.seq (Regex.word text) r) s c := by
  intro k
  rw [matchAt_seq, matchAt_word]
  split
  next hword => exact h hword k
  next => rfl

theorem Picks.word (text : Bytes) {s : Bytes} {c : Captures UInt8} :
    Picks (word text) (text ++ s) c s c := by
  induction text with
  | nil => exact Picks.empty
  | cons b text ih =>
      have hb : eqNoCase b b = true := beq_self_eq_true _
      exact (Picks.one hb).seq ih

theorem Fails.word {a b : UInt8} {text s : Bytes} {c : Captures UInt8} (h : eqNoCase a b = false) :
    Fails (Regex.word (a :: text)) (b :: s) c :=
  (Fails.one h).seq

end Regex

end Cxx
