import Mathlib.Data.FinEnum
import Mathlib.Data.List.TakeWhile
import Mathlib.Tactic

/-!
# Byte strings

A `std::string` is a list of bytes, and so is a `char` array.  This file has the character classes
of the C locale, the members of `std::string` that scan or cut a string, and the facts about them
that the proofs over concrete sentence formats need.
-/

namespace Cxx

abbrev Bytes := List UInt8

/-- The exceptions below `std::logic_error` that the string functions throw. -/
inductive StdError where
  | invalid_argument
  | out_of_range
  deriving DecidableEq, Repr

/-- A computation that may throw, taken apart at its first step. -/
theorem bind_eq_ok {ε α β : Type} {x : Except ε α} {f : α → Except ε β} {b : β} :
    x >>= f = .ok b ↔ ∃ a, x = .ok a ∧ f a = .ok b := by
  cases x with
  | error e => simp [bind, Except.bind]
  | ok a => simp [bind, Except.bind]

def ch (c : Char) : UInt8 := c.toUInt8

def str (s : String) : Bytes := s.toList.map ch

-- A text is gone through and not the 256 bytes.
instance (priority := 2000) (s : Bytes) (p : UInt8 → Prop) [DecidablePred p] :
    Decidable (∀ b ∈ s, p b) := List.decidableBAll p s

/-! ## Character classes of the C locale -/

def isDigit (b : UInt8) : Bool := ch '0' ≤ b && b ≤ ch '9'

def isSpace (b : UInt8) : Bool := b == ch ' ' || (9 ≤ b && b ≤ 13)

def isUpper (b : UInt8) : Bool := ch 'A' ≤ b && b ≤ ch 'Z'

def isLower (b : UInt8) : Bool := ch 'a' ≤ b && b ≤ ch 'z'

def toLower (b : UInt8) : UInt8 := if isUpper b then b + 32 else b

def toUpper (b : UInt8) : UInt8 := if isLower b then b - 32 else b

/-- Only a letter has another byte of the same lower case. -/
theorem eq_of_toLower_eq {a b : UInt8} (hlower : isLower a = false) (hupper : isUpper a = false)
    (h : toLower b = toLower a) : b = a := by
  have hletter : ∀ b : UInt8, isUpper b = true → isLower (toLower b) = true := by decide +kernel
  have hself : toLower a = a := by rw [toLower, hupper, if_neg Bool.false_ne_true]
  rw [hself] at h
  cases hb : isUpper b with
  | true =>
      -- A letter becomes a letter, and `a` is none.
      rw [← h, hletter b hb] at hlower
      cases hlower
  | false =>
      rw [toLower, hb, if_neg Bool.false_ne_true] at h
      exact h

/-! ## Scanning and cutting -/

/-- `s.substr(pos, len)`. -/
def substr (s : Bytes) (pos len : Nat) : Except StdError Bytes :=
  if pos ≤ s.length then .ok ((s.drop pos).take len) else .error .out_of_range

/-- `s.find(c, pos)`, with `none` for `npos`. -/
def find (c : UInt8) (s : Bytes) (pos : Nat) : Option Nat :=
  ((s.drop pos).findIdx? (· == c)).map (pos + ·)

/-- `s.rfind(c)`, with `none` for `npos`. -/
def rfind (c : UInt8) : Bytes → Option Nat
  | [] => none
  | b :: s =>
      match rfind c s with
      | some i => some (i + 1)
      | none => if b = c then some 0 else none

/-- Field `n` of a comma-separated text, empty if there are not so many. -/
def field (s : Bytes) (n : Nat) : Bytes := (s.splitOn (ch ',')).getD n []

/-- The text of a zero-terminated array, as `c_str()` arguments and `append(char*)` read it. -/
def cstr (s : Bytes) : Bytes := s.takeWhile (· != 0)

theorem findIdx?_cut {c : UInt8} {s : Bytes} {i : Nat} (h : s.findIdx? (· == c) = some i) :
    s.take i = s.takeWhile (· != c) ∧ s.drop (i + 1) = (s.dropWhile (· != c)).drop 1 := by
  induction s generalizing i with
  | nil => simp at h
  | cons b s ih =>
      rw [List.findIdx?_cons] at h
      by_cases hb : b = c
      · simp only [hb, beq_self_eq_true, if_true, Option.some.injEq] at h
        simp [hb, ← h]
      · have hbeq : (b == c) = false := beq_eq_false_iff_ne.mpr hb
        have hbne : (b != c) = true := bne_iff_ne.mpr hb
        simp only [hbeq, Bool.false_eq_true, if_false, Option.map_eq_some_iff] at h
        obtain ⟨j, hj, rfl⟩ := h
        obtain ⟨htake, hdrop⟩ := ih hj
        simp only [List.take_succ_cons, List.drop_succ_cons, List.takeWhile_cons,
          List.dropWhile_cons, hbne, if_true, htake, hdrop, and_self]

/-- What a `find` from `pos` separates: the bytes up to the found one, and those behind it. -/
theorem find_cut {c : UInt8} {s : Bytes} {pos i : Nat} (h : find c s pos = some i) :
    (s.drop pos).take (i - pos) = (s.drop pos).takeWhile (· != c) ∧
      s.drop (i + 1) = ((s.drop pos).dropWhile (· != c)).drop 1 := by
  obtain ⟨k, hk, rfl⟩ := Option.map_eq_some_iff.mp h
  obtain ⟨htake, hdrop⟩ := findIdx?_cut hk
  refine ⟨?_, ?_⟩
  · rw [Nat.add_sub_cancel_left, htake]
  · rw [← hdrop, List.drop_drop, Nat.add_assoc]

theorem field_zero {a : Bytes} (s : Bytes) (ha : ch ',' ∉ a) : field (a ++ ch ',' :: s) 0 = a := by
  rw [field, List.splitOn_append_cons_self_of_not_mem ha]
  rfl

theorem field_succ {a : Bytes} (s : Bytes) (n : Nat) (ha : ch ',' ∉ a) :
    field (a ++ ch ',' :: s) (n + 1) = field s n := by
  rw [field, List.splitOn_append_cons_self_of_not_mem ha]
  rfl

theorem rfind_eq_none {c : UInt8} {s : Bytes} (h : c ∉ s) : rfind c s = none := by
  induction s with
  | nil => rfl
  | cons b s ih =>
      simp only [List.mem_cons, not_or] at h
      rw [rfind, ih h.2]
      simp only [Ne.symm h.1, if_false]

theorem rfind_append_cons {c : UInt8} (a : Bytes) {s : Bytes} (h : c ∉ s) :
    rfind c (a ++ c :: s) = some a.length := by
  induction a with
  | nil =>
      rw [List.nil_append, rfind, rfind_eq_none h]
      simp only [if_true, List.length_nil]
  | cons b a ih =>
      rw [List.cons_append, rfind, ih]
      rfl

/-- Cutting the middle part out of three. -/
theorem substr_append {a b : Bytes} (c : Bytes) {pos len : Nat} (ha : a.length = pos)
    (hb : b.length = len) : substr (a ++ (b ++ c)) pos len = .ok b := by
  subst ha hb
  unfold substr
  rw [if_pos (by simp), List.drop_left, List.take_left]

theorem cstr_eq_self {s : Bytes} (h : (0 : UInt8) ∉ s) : cstr s = s := by
  unfold cstr
  rw [List.takeWhile_eq_self_iff]
  intro b hb
  have hne : b ≠ 0 := fun he => h (he ▸ hb)
  simp [hne]

theorem zero_notMem_cstr (s : Bytes) : (0 : UInt8) ∉ cstr s := fun hmem =>
  absurd (List.mem_takeWhile_imp hmem) (by decide)

theorem cstr_subset (s : Bytes) : cstr s ⊆ s := (List.takeWhile_prefix _).subset

theorem cstr_append_zero (s t : Bytes) : cstr (s ++ 0 :: t) = cstr s := by
  unfold cstr
  induction s with
  | nil => simp
  | cons b s ih =>
      rw [List.cons_append, List.takeWhile_cons, List.takeWhile_cons, ih]

end Cxx
