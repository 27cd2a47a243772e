import Mathlib.Data.Nat.Digits.Lemmas
import VirtualFlightRadar.Cxx.Bytes

/-!
# Numerals

Digits and numerals of a base up to sixteen, as `printf` writes them and the `strto` functions read
them.  The positional value is a left fold; `Nat.digits` supplies the numeral.
-/

namespace Cxx

/-- The value of a digit of any base up to 36, and 36 for a byte that is no digit. -/
def digitVal (b : UInt8) : Nat :=
  if isDigit b then b.toNat - 48
  else if isLower (toLower b) then (toLower b).toNat - 87
  else 36

/-- The digit `printf` writes for a value below sixteen. -/
def digitChar (d : Nat) : UInt8 := if d < 10 then UInt8.ofNat (48 + d) else UInt8.ofNat (87 + d)

def isXDigit (b : UInt8) : Bool := digitVal b < 16

/-- The value of a digit string, most significant digit first. -/
def natVal (base : Nat) (s : Bytes) : Nat := s.foldl (fun a b => a * base + digitVal b) 0

def numeral (base n : Nat) : Bytes :=
  -- `Nat.digits` has the least significant digit first and no digit for zero.
  if n = 0 then [digitChar 0] else ((Nat.digits base n).map digitChar).reverse

def padLeft (width : Nat) (c : UInt8) (s : Bytes) : Bytes :=
  List.replicate (width - s.length) c ++ s

/-- The numeral of `n` filled with zeros on the left, the conversion `%0<width>d` of a natural. -/
def zeroPad (width n : Nat) : Bytes := padLeft width (ch '0') (numeral 10 n)

theorem isDigit_eq_digitVal : ∀ b : UInt8, isDigit b = decide (digitVal b < 10) := by
  decide +kernel

theorem digitVal_digitChar (d : Nat) (h : d < 16) : digitVal (digitChar d) = d := by
  interval_cases d <;> decide

/-! ## Positional value -/

theorem natVal_nil (base : Nat) : natVal base [] = 0 := rfl

theorem natVal_concat (base : Nat) (s : Bytes) (b : UInt8) :
    natVal base (s ++ [b]) = natVal base s * base + digitVal b := by
  simp only [natVal, List.foldl_append, List.foldl_cons, List.foldl_nil]

theorem natVal_append (base : Nat) (s t : Bytes) :
    natVal base (s ++ t) = natVal base s * base ^ t.length + natVal base t := by
  induction t using List.reverseRecOn with
  | nil => simp [natVal_nil]
  | append_singleton t b ih =>
      rw [← List.append_assoc, natVal_concat, ih, natVal_concat, List.length_append,
        List.length_singleton, pow_succ]
      ring

theorem natVal_replicate_zero (base k : Nat) : natVal base (List.replicate k (ch '0')) = 0 := by
  induction k with
  | zero => rfl
  | succ k ih =>
      rw [List.replicate_succ', natVal_concat, ih, Nat.zero_mul]
      rfl

theorem natVal_padLeft (base width : Nat) (s : Bytes) :
    natVal base (padLeft width (ch '0') s) = natVal base s := by
  rw [padLeft, natVal_append, natVal_replicate_zero]
  omega

theorem natVal_eq_zero {base : Nat} (hbase : 0 < base) (s : Bytes) :
    natVal base s = 0 ↔ ∀ b ∈ s, digitVal b = 0 := by
  induction s using List.reverseRecOn with
  | nil => simp [natVal_nil]
  | append_singleton s b ih =>
      rw [natVal_concat, Nat.add_eq_zero_iff, Nat.mul_eq_zero, or_iff_left hbase.ne', ih,
        List.forall_mem_append, List.forall_mem_singleton]

theorem natVal_digits_pos {s : Bytes} (h : ∀ b ∈ s, isDigit b = true) :
    s.any (· != ch '0') = true ↔ 0 < natVal 10 s := by
  have hzero : ∀ b : UInt8, isDigit b = true → (b != ch '0') = decide (digitVal b ≠ 0) := by
    decide +kernel
  rw [Nat.pos_iff_ne_zero, ne_eq, natVal_eq_zero (by omega), List.any_eq_true]
  simp only [not_forall, exists_prop]
  constructor
  · intro hex
    obtain ⟨b, hb, hne⟩ := hex
    rw [hzero b (h b hb), decide_eq_true_eq] at hne
    exact ⟨b, hb, hne⟩
  · intro hex
    obtain ⟨b, hb, hne⟩ := hex
    refine ⟨b, hb, ?_⟩
    rw [hzero b (h b hb), decide_eq_true_eq]
    exact hne

/-- A digit string reads below `base ^ length`. -/
theorem natVal_lt (base : Nat) (s : Bytes) (h : ∀ b ∈ s, digitVal b < base) :
    natVal base s < base ^ s.length := by
  induction s using List.reverseRecOn with
  | nil => simp [natVal_nil]
  | append_singleton s b ih =>
      have hs := ih (fun c hc => h c (by simp [hc]))
      have hd := h b (by simp)
      rw [natVal_concat, List.length_append, List.length_singleton, pow_succ]
      calc natVal base s * base + digitVal b
          < natVal base s * base + base := by omega
        _ = (natVal base s + 1) * base := by ring
        _ ≤ base ^ s.length * base := Nat.mul_le_mul_right _ hs

theorem natVal_digits (base : Nat) (hb : base ≤ 16) (ds : List Nat) (h : ∀ d ∈ ds, d < base) :
    natVal base (ds.map digitChar).reverse = Nat.ofDigits base ds := by
  induction ds with
  | nil => rfl
  | cons d ds ih =>
      have hd : d < 16 := lt_of_lt_of_le (h d (by simp)) hb
      rw [List.map_cons, List.reverse_cons, natVal_concat, ih (fun e he => h e (by simp [he])),
        digitVal_digitChar d hd, Nat.ofDigits_cons]
      change Nat.ofDigits base ds * base + d = d + base * Nat.ofDigits base ds
      ring

theorem natVal_numeral (base n : Nat) (hlo : 2 ≤ base) (hhi : base ≤ 16) :
    natVal base (numeral base n) = n := by
  unfold numeral
  split
  next hn =>
    rw [hn, ← List.nil_append [digitChar 0], natVal_concat, natVal_nil, Nat.zero_mul]
    rfl
  next hn =>
    rw [natVal_digits base hhi _ (fun d hd => Nat.digits_lt_base (by omega) hd),
      Nat.ofDigits_digits]

/-! ## Shape of a numeral -/

theorem numeral_ne_nil (base n : Nat) : numeral base n ≠ [] := by
  unfold numeral
  split
  next => simp
  next hn =>
    rw [ne_eq, List.reverse_eq_nil_iff, List.map_eq_nil_iff, Nat.digits_eq_nil_iff_eq_zero]
    exact hn

theorem digitVal_of_mem_numeral {base n : Nat} {b : UInt8} (hlo : 2 ≤ base) (hhi : base ≤ 16)
    (h : b ∈ numeral base n) : digitVal b < base := by
  unfold numeral at h
  split at h
  next =>
    rw [List.mem_singleton] at h
    rw [h, digitVal_digitChar 0 (by omega)]
    omega
  next =>
    rw [List.mem_reverse, List.mem_map] at h
    obtain ⟨d, hd, rfl⟩ := h
    have hlt := Nat.digits_lt_base (by omega : 1 < base) hd
    rw [digitVal_digitChar d (by omega)]
    exact hlt

theorem numeral_length_le (base n width : Nat) (hlo : 2 ≤ base) (hw : 0 < width)
    (h : n < base ^ width) : (numeral base n).length ≤ width := by
  unfold numeral
  split
  next => exact hw
  next hn =>
    rw [List.length_reverse, List.length_map, Nat.length_digits base n (by omega) hn]
    exact Nat.log_lt_of_lt_pow hn h

theorem zeroPad_zero (n : Nat) : zeroPad 0 n = numeral 10 n := by simp [zeroPad, padLeft]

theorem zeroPad_length {width n : Nat} (hw : 0 < width) (h : n < 10 ^ width) :
    (zeroPad width n).length = width := by
  have hl := numeral_length_le 10 n width (by omega) hw h
  rw [zeroPad, padLeft, List.length_append, List.length_replicate]
  omega

theorem natVal_zeroPad (width n : Nat) : natVal 10 (zeroPad width n) = n := by
  rw [zeroPad, natVal_padLeft, natVal_numeral 10 n (by omega) (by omega)]

theorem isDigit_of_mem_numeral {n : Nat} {b : UInt8} (h : b ∈ numeral 10 n) :
    isDigit b = true := by
  rw [isDigit_eq_digitVal, decide_eq_true_eq]
  exact digitVal_of_mem_numeral (by omega) (by omega) h

theorem isDigit_of_mem_zeroPad {width n : Nat} {b : UInt8} (h : b ∈ zeroPad width n) :
    isDigit b = true := by
  rw [zeroPad, padLeft, List.mem_append] at h
  rcases h with h | h
  · rw [List.eq_of_mem_replicate h]
    rfl
  · exact isDigit_of_mem_numeral h

end Cxx
