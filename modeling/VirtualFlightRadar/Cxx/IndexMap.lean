import Mathlib.Data.List.Nodup
import Mathlib.Logic.Function.Basic
import Mathlib.Tactic

/-!
# A sequence with an index of its keys

A finite map is the function of its lookups.  `Indexed k keys index` says that `index` has exactly
the given keys and knows the first `k` positions of them; a pass that removes elements repairs the
index one position at a time.
-/

namespace Cxx

/-- `std::unordered_map`: what `find` returns for every key. -/
abbrev Map (κ ν : Type*) := κ → Option ν

namespace Map

variable {κ ν : Type*} [DecidableEq κ]

def empty : Map κ ν := fun _ => none

/-- `m[k] = v` -/
def set (m : Map κ ν) (k : κ) (v : ν) : Map κ ν := Function.update m k (some v)

def erase (m : Map κ ν) (k : κ) : Map κ ν := Function.update m k none

/-- `insert({k, v})`, which leaves a present key alone. -/
def insert (m : Map κ ν) (k : κ) (v : ν) : Map κ ν := if (m k).isSome then m else m.set k v

theorem set_self (m : Map κ ν) (k : κ) (v : ν) : m.set k v k = some v := Function.update_self ..

theorem set_of_ne (m : Map κ ν) {k l : κ} (v : ν) (h : l ≠ k) : m.set k v l = m l :=
  Function.update_of_ne h ..

theorem erase_self (m : Map κ ν) (k : κ) : m.erase k k = none := Function.update_self ..

theorem erase_of_ne (m : Map κ ν) {k l : κ} (h : l ≠ k) : m.erase k l = m l :=
  Function.update_of_ne h ..

end Map

variable {κ : Type*}

/-- Where keys are distinct, an element of an updated list is the new one or has another key than
the one it replaced. -/
theorem mem_set_of_nodup {α : Type*} {key : α → κ} {l : List α} {i : Nat} {a b v : α}
    (h : (l.map key).Nodup) (ha : l[i]? = some a) (hb : b ∈ l.set i v) :
    b = v ∨ b ∈ l ∧ key b ≠ key a := by
  obtain ⟨j, hj⟩ := List.getElem?_of_mem hb
  rw [List.getElem?_set] at hj
  by_cases hij : i = j
  · rw [if_pos hij] at hj
    split at hj
    · exact .inl (Option.some.inj hj).symm
    · cases hj
  · -- Another position of the list, so by distinctness another key
    rw [if_neg hij] at hj
    refine .inr ⟨List.mem_of_getElem? hj, fun heq => hij ?_⟩
    have hlt : i < (l.map key).length := by
      rw [List.length_map]
      exact (List.getElem?_eq_some_iff.mp ha).1
    refine (List.getElem?_inj hlt h).mp ?_
    rw [List.getElem?_map, List.getElem?_map, ha, hj, Option.map_some, Option.map_some, heq]

structure Indexed (k : Nat) (keys : List κ) (index : Map κ Nat) : Prop where
  nodup : keys.Nodup
  dom : ∀ key, (index key).isSome ↔ key ∈ keys
  pos : ∀ i key, keys[i]? = some key → i < k → index key = some i

namespace Indexed

variable {k : Nat} {keys : List κ} {index : Map κ Nat}

theorem empty : Indexed k ([] : List κ) Map.empty :=
  ⟨List.nodup_nil, fun key => by simp [Map.empty], fun i key h => by simp at h⟩

theorem mono {j : Nat} (h : Indexed k keys index) (hj : j ≤ k) : Indexed j keys index :=
  ⟨h.nodup, h.dom, fun i key hi hlt => h.pos i key hi (by omega)⟩

theorem extend (h : Indexed k keys index) (hk : keys.length ≤ k) (j : Nat) :
    Indexed j keys index :=
  -- Past the end of the keys there is nothing left to know.
  ⟨h.nodup, h.dom, fun i key hi _ =>
    h.pos i key hi (lt_of_lt_of_le (List.getElem?_eq_some_iff.mp hi).1 hk)⟩

theorem find (h : Indexed keys.length keys index) {key : κ} {i : Nat} (hi : index key = some i) :
    keys[i]? = some key := by
  have hmem : key ∈ keys := (h.dom key).mp (by rw [hi]; rfl)
  -- The key stands somewhere, and the index knows that position and no other.
  obtain ⟨j, hj, hkey⟩ := List.getElem_of_mem hmem
  have hget : keys[j]? = some key := by rw [List.getElem?_eq_getElem hj, hkey]
  have heq := h.pos j key hget hj
  rw [hi, Option.some.injEq] at heq
  rw [heq, hget]

theorem notMem (h : Indexed k keys index) {key : κ} (hnone : index key = none) : key ∉ keys :=
  fun hmem => by
    have hsome := (h.dom key).mpr hmem
    rw [hnone] at hsome
    exact absurd hsome (by simp)

variable [DecidableEq κ]

theorem push (h : Indexed keys.length keys index) {key : κ} (hnone : index key = none) :
    Indexed (keys.length + 1) (keys ++ [key]) (index.insert key keys.length) := by
  have hmem := h.notMem hnone
  have hinsert : index.insert key keys.length = index.set key keys.length := by
    rw [Map.insert, hnone]
    rfl
  rw [hinsert]
  refine ⟨h.nodup.append (List.nodup_singleton key) (by simpa using hmem), fun l => ?_,
    fun i l hi _ => ?_⟩
  · by_cases hl : l = key
    · simp [hl, Map.set_self]
    · rw [Map.set_of_ne _ _ hl, h.dom, List.mem_append, List.mem_singleton]
      simp [hl]
  · by_cases hi' : i < keys.length
    · rw [List.getElem?_append_left hi'] at hi
      have hne : l ≠ key := fun he => hmem (he ▸ List.mem_of_getElem? hi)
      rw [Map.set_of_ne _ _ hne]
      exact h.pos i l hi hi'
    · -- the pushed key
      have hlt := (List.getElem?_eq_some_iff.mp hi).1
      rw [List.length_append, List.length_singleton] at hlt
      have heq : i = keys.length := by omega
      rw [heq, List.getElem?_concat_length, Option.some.injEq] at hi
      rw [← hi, heq, Map.set_self]

/-- Removing the key behind the known positions. -/
theorem erase {key : κ} {front rest : List κ} (h : Indexed front.length (front ++ key :: rest) index) :
    Indexed front.length (front ++ rest) (index.erase key) := by
  have hsub : (front ++ rest).Sublist (front ++ key :: rest) :=
    (List.Sublist.refl front).append (List.sublist_cons_self key rest)
  have hnot : key ∉ front ++ rest := by
    have hnd := h.nodup
    rw [List.nodup_middle, List.nodup_cons] at hnd
    exact hnd.1
  refine ⟨h.nodup.sublist hsub, fun l => ?_, fun i l hi hlt => ?_⟩
  · by_cases hl : l = key
    · rw [hl, Map.erase_self]
      simpa using hnot
    · rw [Map.erase_of_ne _ hl, h.dom]
      simp [hl]
  · rw [List.getElem?_append_left hlt] at hi
    have hne : l ≠ key := fun he => hnot (List.mem_append_left _ (he ▸ List.mem_of_getElem? hi))
    rw [Map.erase_of_ne _ hne]
    exact h.pos i l (by rw [List.getElem?_append_left hlt]; exact hi) hlt

/-- The key at the first unknown position is in the index, and writing its position there makes one
more position known. -/
theorem repair (h : Indexed k keys index) {key : κ} (hk : keys[k]? = some key) :
    (index key).isSome ∧ Indexed (k + 1) keys (index.set key k) := by
  have hmem : key ∈ keys := List.mem_of_getElem? hk
  refine ⟨(h.dom key).mpr hmem, h.nodup, fun l => ?_, fun i l hi hlt => ?_⟩
  · by_cases hl : l = key
    · simp [hl, Map.set_self, hmem]
    · rw [Map.set_of_ne _ _ hl, h.dom]
  · by_cases hl : l = key
    · -- The keys are distinct, so only position `k` holds this one.
      have hik : i = k :=
        (List.getElem?_inj (List.getElem?_eq_some_iff.mp hi).1 h.nodup).mp
          (by rw [hi, hk, hl])
      rw [hl, hik, Map.set_self]
    · have hne : i ≠ k := fun he => hl (by rw [he, hk] at hi; exact (Option.some.inj hi).symm)
      rw [Map.set_of_ne _ _ hl]
      exact h.pos i l hi (by omega)

end Indexed

end Cxx
