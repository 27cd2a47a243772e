import Mathlib.Tactic

/-!
# Sets with a hasher and a comparator

A `std::unordered_set` takes a new element for a stored one if their hash values are the same and the
comparator, called with the new one first, says that they are equal.  Where the comparator is no
equivalence several stored elements may do, and which one is found is left open.
-/

namespace Cxx

variable {α : Type*} {hash : α → UInt64} {equals : α → α → Bool}

/-- How a set with its elements in some order finds the one that a new element is taken for. -/
structure UnorderedSet (hash : α → UInt64) (equals : α → α → Bool) where
  find : List α → α → Option Nat
  found : ∀ s x k, find s x = some k →
    ∃ y, s[k]? = some y ∧ hash x = hash y ∧ equals x y = true
  missing : ∀ s x, find s x = none → ∀ y ∈ s, hash x = hash y → equals x y = false

namespace UnorderedSet

/-- `insert(x).first`, as a position, and the elements after it -/
def insert (set : UnorderedSet hash equals) (s : List α) (x : α) : Nat × List α :=
  match set.find s x with
  | some k => (k, s)
  | none => (s.length, s ++ [x])

theorem insert_cases (set : UnorderedSet hash equals) (s : List α) (x : α) :
    (∃ k y, set.find s x = some k ∧ set.insert s x = (k, s) ∧ s[k]? = some y ∧ hash x = hash y ∧
      equals x y = true) ∨
    (set.insert s x = (s.length, s ++ [x]) ∧ ∀ y ∈ s, hash x = hash y → equals x y = false) := by
  unfold insert
  cases hfind : set.find s x with
  | none => exact .inr ⟨rfl, set.missing s x hfind⟩
  | some k =>
      obtain ⟨y, hy, hhash, hequals⟩ := set.found s x k hfind
      exact .inl ⟨k, y, rfl, rfl, hy, hhash, hequals⟩

/-- The set that takes the first element in its order, but one with `p` before any other. -/
def preferring (p : α → Bool) : UnorderedSet hash equals where
  find s x := (s.findIdx? fun y => p y && (hash x == hash y && equals x y)).or
    (s.findIdx? fun y => hash x == hash y && equals x y)
  found := by
    intro s x k h
    rcases Option.or_eq_some_iff.mp h with hfirst | ⟨-, hsecond⟩
    · obtain ⟨hlt, hk, -⟩ := List.findIdx?_eq_some_iff_getElem.mp hfirst
      simp only [Bool.and_eq_true, beq_iff_eq] at hk
      exact ⟨s[k], List.getElem?_eq_getElem hlt, hk.2⟩
    · obtain ⟨hlt, hk, -⟩ := List.findIdx?_eq_some_iff_getElem.mp hsecond
      simp only [Bool.and_eq_true, beq_iff_eq] at hk
      exact ⟨s[k], List.getElem?_eq_getElem hlt, hk⟩
  missing := by
    intro s x h y hy hhash
    obtain ⟨-, hnone⟩ := Option.or_eq_none_iff.mp h
    have hfalse := List.findIdx?_eq_none_iff.mp hnone y hy
    rwa [hhash, beq_self_eq_true, Bool.true_and] at hfalse

theorem preferring_insert {p : α → Bool} {s : List α} {x y : α} (hy : y ∈ s) (hp : p y = true)
    (hhash : hash x = hash y) (hequals : equals x y = true) :
    ∃ k z, (preferring p : UnorderedSet hash equals).insert s x = (k, s) ∧ s[k]? = some z ∧
      p z = true := by
  cases hfind : s.findIdx? fun y => p y && (hash x == hash y && equals x y) with
  | none =>
      have hfalse := List.findIdx?_eq_none_iff.mp hfind y hy
      rw [hp, hhash, hequals, beq_self_eq_true] at hfalse
      cases hfalse
  | some k =>
      obtain ⟨hlt, hk, -⟩ := List.findIdx?_eq_some_iff_getElem.mp hfind
      simp only [Bool.and_eq_true, beq_iff_eq] at hk
      refine ⟨k, s[k], ?_, List.getElem?_eq_getElem hlt, hk.1⟩
      unfold insert preferring
      simp only [hfind, Option.some_or]

end UnorderedSet

end Cxx
