import VirtualFlightRadar.Cxx.Printf

/-!
# Reading back what was printed

The conversions of `std::snprintf`, undone by those of the standard library: an integer comes back
whole, a number with a fixed number of decimals comes back rounded to them.
-/

namespace Cxx

/-! ## Blanks -/

section

variable (base width : Nat) (s : Bytes)

theorem dropWhile_isSpace_padLeft :
    (padLeft width (ch ' ') s).dropWhile isSpace = s.dropWhile isSpace := by
  apply List.dropWhile_append_of_pos
  intro b hb
  rw [List.eq_of_mem_replicate hb]
  rfl

theorem stoi_padLeft : stoi base (padLeft width (ch ' ') s) = stoi base s := by
  unfold stoi
  rw [dropWhile_isSpace_padLeft]

theorem stod_padLeft : stod (padLeft width (ch ' ') s) = stod s := by
  unfold stod stodIdx
  simp only [dropWhile_isSpace_padLeft]
  cases readDouble ((s.dropWhile isSpace).drop (readSign (s.dropWhile isSpace)).2) with
  | none => rfl
  | some value =>
      simp only
      split
      · rfl
      · rfl

end

/-! ## Integers -/

theorem stoi_minus {s : Bytes} (hs : s ≠ []) (hd : ∀ b ∈ s, digitVal b < 10)
    (hle : natVal 10 s ≤ 2 ^ 31) : stoi 10 (ch '-' :: s) = .ok (-(natVal 10 s : Int)) := by
  have hread : readInteger 10 s = s := by
    rw [readInteger, if_neg (fun h => absurd h.1 (by decide))]
    exact takeWhile_all fun b hb => decide_eq_true (hd b hb)
  have hsign : readSign (ch '-' :: s) = (true, 1) := rfl
  unfold stoi
  rw [dropWhile_isSpace_cons (by decide)]
  simp only [hsign, List.drop_one, List.tail_cons, hread]
  rw [if_neg hs]
  simp only [if_true]
  rw [if_pos (by omega)]

/-- The digits of an integer, with leading zeros. -/
theorem zeroPad_digits (width n : Nat) : zeroPad width n ≠ [] ∧
    (∀ b ∈ zeroPad width n, digitVal b < 10) ∧ natVal 10 (zeroPad width n) = n := by
  refine ⟨?_, ?_, natVal_zeroPad width n⟩
  · exact List.append_ne_nil_of_right_ne_nil _ (numeral_ne_nil 10 n)
  · intro b hb
    rw [← decide_eq_true_eq (p := digitVal b < 10), ← isDigit_eq_digitVal]
    exact isDigit_of_mem_zeroPad hb

theorem stoi_signed (width : Nat) {n : Int} (hlo : -2 ^ 31 ≤ n) (hhi : n < 2 ^ 31) :
    stoi 10 ((if n < 0 then [ch '-'] else []) ++ zeroPad width n.natAbs) = .ok n := by
  obtain ⟨hne, hdigits, hval⟩ := zeroPad_digits width n.natAbs
  by_cases hneg : n < 0
  · rw [if_pos hneg, List.singleton_append, stoi_minus hne hdigits (by omega), hval]
    congr 1
    omega
  · rw [if_neg hneg, List.nil_append, stoi_digits (by omega) hne hdigits (by omega), hval]
    congr 1
    omega

/-- An `int` is read back from `%d`, with any width and flag. -/
theorem stoi_fmtInt (zero : Bool) (width : Nat) {n : Int} (hlo : -2 ^ 31 ≤ n) (hhi : n < 2 ^ 31) :
    stoi 10 (fmtInt zero width n) = .ok n := by
  unfold fmtInt
  cases zero with
  | true => exact stoi_signed _ hlo hhi
  | false =>
      simp only [Bool.false_eq_true, if_false]
      rw [stoi_padLeft, ← zeroPad_zero]
      exact stoi_signed 0 hlo hhi

theorem stoi_fmtHexUpper (n : UInt8) : stoi 16 (fmtHexUpper n) = .ok n.toNat := by
  revert n
  decide +kernel

/-! ## Decimals -/

/-- A number at the precision it is printed with. -/
def Double.rounded (prec : Nat) : Double → Double
  | .fin q => .fin (if q < 0 then -(roundEven (|q| * 10 ^ prec) / 10 ^ prec)
      else roundEven (|q| * 10 ^ prec) / 10 ^ prec)
  | x => x

theorem padLeft_append_right (width : Nat) (c : UInt8) (s t : Bytes) :
    padLeft width c (s ++ t) = padLeft (width - t.length) c s ++ t := by
  unfold padLeft
  rw [List.length_append, List.append_assoc,
    show width - (s.length + t.length) = width - t.length - s.length by omega]

/-- The digits of `%.<prec>lf` are two digit fields around the point. -/
theorem padLeft_fixedDigits (width : Nat) {prec : Nat} (hprec : 0 < prec) (n : Nat) : ∃ k,
    padLeft width (ch '0') (fixedDigits prec n) =
      zeroPad k (n / 10 ^ prec) ++ ch '.' :: zeroPad prec (n % 10 ^ prec) := by
  rw [fixedDigits, if_neg (by omega), padLeft_append_right]
  exact ⟨_, rfl⟩

theorem stod_fixedDigits (neg : Bool) (width : Nat) {prec n : Nat} (hprec : 0 < prec)
    (hlen : prec ≤ 300) (hmax : (n : ℚ) / 10 ^ prec ≤ Double.dblMax) :
    stod ((if neg then [ch '-'] else []) ++ padLeft width (ch '0') (fixedDigits prec n)) =
      .ok (.fin (if neg then -((n : ℚ) / 10 ^ prec) else n / 10 ^ prec)) := by
  obtain ⟨k, htext⟩ := padLeft_fixedDigits width hprec n
  have hip : ∀ b ∈ zeroPad k (n / 10 ^ prec), isDigit b = true := fun b hb => isDigit_of_mem_zeroPad hb
  have hfp : ∀ b ∈ zeroPad prec (n % 10 ^ prec), isDigit b = true :=
    fun b hb => isDigit_of_mem_zeroPad hb
  have hne : zeroPad k (n / 10 ^ prec) ≠ [] := (zeroPad_digits k _).1
  have hfpLen : (zeroPad prec (n % 10 ^ prec)).length ≤ 300 := by
    rw [zeroPad_length hprec (Nat.mod_lt _ (by positivity))]
    exact hlen
  have hval := decimalVal_fixed prec n k hprec
  rw [htext, ← hval]
  rw [← hval] at hmax
  cases neg with
  | true =>
      exact stod_sign true (isDecimal_point hip hfp) (readReal_point hne hip hfp)
        (rangeError_decimalVal hfpLen hmax)
  | false => exact stod_point hne hip hfp hfpLen hmax

theorem exists_dblMax : ∃ most : Int, (most : ℚ) = Double.dblMax := by
  have hmost (k : Nat) : ∃ most : Int, (most : ℚ) = (2 ^ 53 - 1) * 2 ^ k := by
    refine ⟨(2 ^ 53 - 1) * 2 ^ k, ?_⟩
    push_cast
    ring
  exact hmost 971

/-- A number is read back from `%<width>.<prec>lf`, rounded to the decimals that were printed. -/
theorem stod_fmtFixed (zero : Bool) (width : Nat) {prec : Nat} (hprec : 0 < prec)
    (hlen : prec ≤ 300) {x : Double} (hx : x.InRange) :
    stod (fmtFixed zero width prec x) = .ok (x.rounded prec) := by
  cases x with
  | fin q =>
      have hnonneg : 0 ≤ roundEven (|q| * 10 ^ prec) := roundEven_nonneg (by positivity)
      have hcast : ((roundEven (|q| * 10 ^ prec)).toNat : ℚ) = roundEven (|q| * 10 ^ prec) := by
        exact_mod_cast Int.toNat_of_nonneg hnonneg
      have hmax : ((roundEven (|q| * 10 ^ prec)).toNat : ℚ) / 10 ^ prec ≤ Double.dblMax := by
        obtain ⟨most, hmost⟩ := exists_dblMax
        rw [hcast, div_le_iff₀ (by positivity), ← hmost]
        have hle : |q| * 10 ^ prec ≤ (most * 10 ^ prec : Int) := by
          push_cast
          rw [hmost]
          exact mul_le_mul_of_nonneg_right (hx q rfl) (by positivity)
        exact_mod_cast roundEven_le hle
      have hread (width : Nat) := stod_fixedDigits (decide (q < 0)) width hprec hlen hmax
      simp only [decide_eq_true_eq, hcast] at hread
      unfold fmtFixed
      cases zero with
      | true => exact hread _
      | false =>
          simp only [Bool.false_eq_true, if_false]
          rw [stod_padLeft]
          have hdigits := hread 0
          rw [padLeft, Nat.zero_sub, List.replicate_zero, List.nil_append] at hdigits
          exact hdigits
  | inf neg =>
      unfold fmtFixed
      rw [stod_padLeft]
      cases neg with
      | true => rfl
      | false => rfl
  | nan =>
      unfold fmtFixed
      rw [stod_padLeft]
      rfl

end Cxx
