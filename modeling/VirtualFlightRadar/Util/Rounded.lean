import VirtualFlightRadar.Cxx.Binary64
import VirtualFlightRadar.Util.Math

/-!
# Conversions in binary64

The conversions round every product and sum.  Which values a cast takes, and how far a coordinate is
off, follows from the bounds of one rounding.
-/

open Cxx

namespace VirtualFlightRadar.Math.Rounded

attribute [local instance] Rounding.binary64

/-! ## Rounded casts -/

theorem half_eq : (0.5 : Double) = .fin (1 / 2) := by decide +kernel

theorem feet_eq : FEET_2_M = .fin (5490788665690109 / 2 ^ 54) := by decide +kernel

theorem doubleToIntDefined_fin (q : ℚ) : DoubleToIntDefined (.fin q) ↔
    -(2 ^ 31 + 1 / 2 - 1 / 2 ^ 22) < q ∧ q < 2 ^ 31 - 1 / 2 - 1 / 2 ^ 23 := by
  have hge : Double.fin q ≥ 0 ↔ 0 ≤ q := Double.fin_le 0 q
  unfold DoubleToIntDefined
  rw [half_eq, Double.add_eq_round, Double.sub_eq_round]
  by_cases h : 0 ≤ q
  · rw [if_pos (hge.mpr h), toInt32Defined_round_of_nonneg (by linarith)]
    constructor
    · intro hlt
      exact ⟨by linarith, by linarith⟩
    · rintro ⟨-, hlt⟩
      linarith
  · rw [if_neg fun hle => h (hge.mp hle), toInt32Defined_round_of_nonpos (by linarith)]
    constructor
    · intro hlt
      exact ⟨by linarith, by linarith⟩
    · rintro ⟨hlt, -⟩
      linarith

/-- The bounds are the same before the number is rounded. -/
theorem nearest_bounds_iff (q : ℚ) :
    -(2 ^ 31 + 1 / 2 - 1 / 2 ^ 22) < nearest q ∧ nearest q < 2 ^ 31 - 1 / 2 - 1 / 2 ^ 23 ↔
      -(2 ^ 31 + 1 / 2 - 1 / 2 ^ 22) < q ∧ q < 2 ^ 31 - 1 / 2 - 1 / 2 ^ 23 := by
  have hlo : nearest (-q) < 2 ^ 31 + 1 / 2 - 1 / 2 ^ 22 ↔ -q < 2 ^ 31 + 1 / 2 - 1 / 2 ^ 22 := by
    apply nearest_lt_iff_of_even (k := 31) (n := 2 ^ 52 + 2 ^ 20)
    all_goals norm_num
  have hhi : nearest q < 2 ^ 31 - 1 / 2 - 1 / 2 ^ 23 ↔ q < 2 ^ 31 - 1 / 2 - 1 / 2 ^ 23 := by
    apply nearest_lt_iff_of_even (k := 30) (n := 2 ^ 53 - 2 ^ 21)
    all_goals norm_num
  rw [hhi, neg_lt, ← nearest_neg, hlo, neg_lt]

theorem doubleToIntDefined_round (q : ℚ) : DoubleToIntDefined (Rounding.round q) ↔
    -(2 ^ 31 + 1 / 2 - 1 / 2 ^ 22) < q ∧ q < 2 ^ 31 - 1 / 2 - 1 / 2 ^ 23 := by
  rw [← nearest_bounds_iff]
  by_cases h : |nearest q| < 2 ^ 1024
  · rw [show Rounding.round q = Double.fin (nearest q) from if_pos h, doubleToIntDefined_fin]
  · rw [show Rounding.round q = Double.inf (decide (q < 0)) from if_neg h]
    refine iff_of_false (fun hdefined => ?_) ?_
    · cases DoubleToIntDefined.isFinite hdefined
    · rintro ⟨hlo, hhi⟩
      have hle : (2 : ℚ) ^ 32 ≤ 2 ^ 1024 := pow_le_pow_right₀ (by norm_num) (by norm_num)
      refine h (lt_of_lt_of_le ?_ hle)
      rw [abs_lt]
      constructor <;> linarith

/-- The feet are rounded when they are read, and their meters again. -/
theorem doubleToIntDefined_feet (feet : ℚ) :
    DoubleToIntDefined (.fin (nearest feet) * FEET_2_M) ↔
      -(14775589332083567 / 2 ^ 21) < feet ∧ feet ≤ 14775589325203149 / 2 ^ 21 := by
  have hfactor : (0 : ℚ) < 5490788665690109 / 2 ^ 54 := by norm_num
  have hlo : nearest (-feet) < (2 ^ 31 + 1 / 2 - 1 / 2 ^ 22) / (5490788665690109 / 2 ^ 54) ↔
      -feet < 14775589332083567 / 2 ^ 21 := by
    apply nearest_lt_iff_of_even (k := 32) (n := 7387794666041784)
    all_goals norm_num
  have hhi : nearest feet < (2 ^ 31 - 1 / 2 - 1 / 2 ^ 23) / (5490788665690109 / 2 ^ 54) ↔
      feet ≤ 14775589325203149 / 2 ^ 21 := by
    apply nearest_lt_iff_of_odd (k := 32) (n := 7387794662601575)
    all_goals norm_num
  rw [feet_eq, Double.mul_eq_round, doubleToIntDefined_round, ← lt_div_iff₀ hfactor, hhi, neg_lt,
    ← neg_mul, ← lt_div_iff₀ hfactor, ← nearest_neg, hlo, neg_lt]

theorem doubleToInt_of_nonneg {q : ℚ} (h : 0 ≤ q) :
    doubleToInt (.fin q) = (Rounding.round (q + 1 / 2)).toInt32 := by
  have hge : Double.fin q ≥ 0 := (Double.fin_le 0 q).mpr h
  unfold doubleToInt
  rw [if_pos hge, half_eq, Double.add_eq_round]

theorem doubleToInt_nonneg {q : ℚ} (h : 0 ≤ q) (hdefined : DoubleToIntDefined (.fin q)) :
    0 ≤ (doubleToInt (.fin q)).toInt := by
  have hge : Double.fin q ≥ 0 := (Double.fin_le 0 q).mpr h
  have hnonneg : 0 ≤ nearest (q + 1 / 2) := nearest_nonneg (by linarith)
  have hfloor : 0 ≤ ⌊nearest (q + 1 / 2)⌋ := Int.floor_nonneg.mpr hnonneg
  unfold DoubleToIntDefined at hdefined
  rw [if_pos hge, half_eq, Double.add_eq_round] at hdefined
  rw [doubleToInt_of_nonneg h]
  by_cases hfinite : |nearest (q + 1 / 2)| < 2 ^ 1024
  · rw [show Rounding.round (q + 1 / 2) = Double.fin (nearest (q + 1 / 2)) from if_pos hfinite]
      at hdefined ⊢
    have hlt := hdefined.2
    rw [Double.trunc_of_nonneg hnonneg] at hlt
    rw [Double.toInt32_fin (Double.trunc_of_nonneg hnonneg) (by omega) hlt,
      Double.int32_toInt_ofInt (by omega) hlt]
    exact hfloor
  · rw [show Rounding.round (q + 1 / 2) = Double.inf (decide (q + 1 / 2 < 0)) from if_neg hfinite]
      at hdefined
    exact hdefined.elim

/-! ## Six digits of feet -/

section

variable {feet : Nat}

theorem meters_inRange (h : feet < 10 ^ 6) :
    (0 : ℚ) ≤ feet * 0.3048 ∧ (feet : ℚ) * 0.3048 ≤ feet * (5490788665690109 / 2 ^ 54) ∧
      (feet : ℚ) * (5490788665690109 / 2 ^ 54) ≤ feet * 0.3048 + 1 / 2 ^ 34 ∧
      (feet : ℚ) * 0.3048 < 10 ^ 6 / 3 := by
  have hlt : (feet : ℚ) < 10 ^ 6 := by exact_mod_cast h
  have hfeet : (0 : ℚ) ≤ feet := Nat.cast_nonneg feet
  exact ⟨by positivity, mul_le_mul_of_nonneg_left (by norm_num) hfeet, by linarith, by linarith⟩

theorem abs_meters_lt (h : feet < 10 ^ 6) :
    |(feet : ℚ) * (5490788665690109 / 2 ^ 54)| < 2 ^ (19 : Int) := by
  obtain ⟨hlo, hle, hhi, hlt⟩ := meters_inRange h
  rw [abs_of_nonneg (hlo.trans hle)]
  norm_num at hhi hlt ⊢
  linarith

theorem abs_rounded_lt (h : feet < 10 ^ 6) :
    |nearest (feet * (5490788665690109 / 2 ^ 54)) + 1 / 2| < 2 ^ (20 : Int) := by
  have hle := abs_nearest_le (by norm_num) (abs_meters_lt h).le
  have hadd := abs_add_le (nearest (feet * (5490788665690109 / 2 ^ 54))) (1 / 2)
  norm_num at hle hadd ⊢
  linarith

/-- What the meters are rounded to is half a double, so their own rounding does not pass it. -/
theorem floor_meters_le (h : feet < 10 ^ 6) : (⌊(feet : ℚ) * 0.3048 + 1 / 2⌋ : ℚ) ≤
    nearest (nearest (feet * (5490788665690109 / 2 ^ 54)) + 1 / 2) := by
  obtain ⟨hlo, hle, -, hlt⟩ := meters_inRange h
  have hfloor := Int.floor_le ((feet : ℚ) * 0.3048 + 1 / 2)
  generalize ⌊(feet : ℚ) * 0.3048 + 1 / 2⌋ = n at hfloor ⊢
  rcases lt_or_ge n 1 with hn | hn
  · have hnonpos : (n : ℚ) ≤ 0 := by exact_mod_cast Int.lt_add_one_iff.mp hn
    refine hnonpos.trans (nearest_nonneg ?_)
    linarith [nearest_nonneg (hlo.trans hle)]
  · have hmax : n < 2 ^ 20 := by
      have hcast : (n : ℚ) < 2 ^ 20 := by
        norm_num at hlt ⊢
        linarith
      exact_mod_cast hcast
    have hhalf : IsDouble (n - 1 / 2) := by
      refine ⟨2 * n - 1, -1, ?_, by norm_num, ?_⟩
      · rw [abs_lt]
        omega
      · rw [zpow_neg_one]
        push_cast
        ring
    have hint : IsDouble n := by
      apply IsDouble.intCast
      rw [abs_lt]
      omega
    have hmeters := hhalf.le_nearest (q := feet * (5490788665690109 / 2 ^ 54)) (by linarith)
    exact hint.le_nearest (by linarith)

/-- The exact meters are multiples of 1/1250, and rounding changes them by less. -/
theorem meters_lt_floor (h : feet < 10 ^ 6) :
    nearest (nearest (feet * (5490788665690109 / 2 ^ 54)) + 1 / 2) <
      ⌊(feet : ℚ) * 0.3048 + 1 / 2⌋ + 1 := by
  obtain ⟨-, -, hle, -⟩ := meters_inRange h
  have hfloor := Int.lt_floor_add_one ((feet : ℚ) * 0.3048 + 1 / 2)
  generalize ⌊(feet : ℚ) * 0.3048 + 1 / 2⌋ = n at hfloor ⊢
  have hgap : (feet : ℚ) * 0.3048 + 1 / 2 + 1 / 1250 ≤ n + 1 := by
    have hscaled : (381 * feet + 625 : ℚ) < 1250 * n + 1250 := by linarith
    have hint : (381 * feet + 625 : Int) < 1250 * n + 1250 := by exact_mod_cast hscaled
    have hsucc : (381 * feet + 625 + 1 : ℚ) ≤ 1250 * n + 1250 := by exact_mod_cast hint
    linarith
  have hproduct := nearest_sub_le_of_lt (abs_meters_lt h) (by norm_num)
  have hsum := nearest_sub_le_of_lt (abs_rounded_lt h) (by norm_num)
  rw [abs_le] at hproduct hsum
  norm_num at hproduct hsum hle
  linarith [hproduct.2, hsum.2]

theorem doubleToInt_meters (h : feet < 10 ^ 6) :
    DoubleToIntDefined (.fin feet * FEET_2_M) ∧
      (doubleToInt (.fin feet * FEET_2_M)).toInt = ⌊(feet : ℚ) * 0.3048 + 1 / 2⌋ ∧
      0 ≤ ⌊(feet : ℚ) * 0.3048 + 1 / 2⌋ ∧ ⌊(feet : ℚ) * 0.3048 + 1 / 2⌋ < 2 ^ 31 := by
  obtain ⟨hlo, hle, hhi, hlt⟩ := meters_inRange h
  have hnonneg : 0 ≤ nearest (feet * (5490788665690109 / 2 ^ 54)) :=
    nearest_nonneg (hlo.trans hle)
  have hfloor : 0 ≤ ⌊(feet : ℚ) * 0.3048 + 1 / 2⌋ := Int.floor_nonneg.mpr (by linarith)
  have hmax : ⌊(feet : ℚ) * 0.3048 + 1 / 2⌋ < 2 ^ 31 := by
    rw [Int.floor_lt]
    norm_num at hlt ⊢
    linarith
  rw [feet_eq, Double.mul_eq_round]
  refine ⟨?_, ?_, hfloor, hmax⟩
  · rw [doubleToIntDefined_round]
    norm_num at hhi hlt ⊢
    exact ⟨by linarith, by linarith⟩
  · have htrunc : Double.trunc (nearest (nearest (feet * (5490788665690109 / 2 ^ 54)) + 1 / 2)) =
        ⌊(feet : ℚ) * 0.3048 + 1 / 2⌋ := by
      rw [Double.trunc_of_nonneg (nearest_nonneg (by linarith)), Int.floor_eq_iff]
      exact ⟨floor_meters_le h, meters_lt_floor h⟩
    rw [round_of_le (by norm_num) (abs_meters_lt h).le, doubleToInt_of_nonneg hnonneg,
      round_of_le (by norm_num) (abs_rounded_lt h).le, Double.toInt32_fin htrunc (by omega) hmax,
      Double.int32_toInt_ofInt (by omega) hmax]

end

/-! ## Degrees and minutes -/

/-- Every operation but the floor is rounded. -/
theorem dmToDeg_fin {q : ℚ} (h : |q| ≤ 2 ^ (1000 : Int)) :
    let y := |nearest (q / 100)|
    dmToDeg (.fin q) =
      .fin (nearest (⌊y⌋ + nearest (nearest (nearest (y - ⌊y⌋) * 100) / 60))) := by
  intro y
  have hscaled : |q / 100| ≤ 2 ^ (1000 : Int) := by
    rw [abs_div]
    exact (div_le_self (abs_nonneg q) (by norm_num)).trans h
  have hdegrees : y ≤ 2 ^ (1000 : Int) := abs_nearest_le (by norm_num) hscaled
  have hnonneg : 0 ≤ y := abs_nonneg _
  -- The minutes are small.
  have hrest : |y - ⌊y⌋| ≤ 2 ^ (0 : Int) := by
    rw [abs_of_nonneg (sub_nonneg.mpr (Int.floor_le y)), zpow_zero]
    linarith [Int.lt_floor_add_one y]
  have hrest' := abs_nearest_le (by norm_num) hrest
  have hhundred : |nearest (y - ⌊y⌋) * 100| ≤ 2 ^ (7 : Int) := by
    rw [abs_mul]
    norm_num at hrest' ⊢
    linarith
  have hhundred' := abs_nearest_le (by norm_num) hhundred
  have hminutes : |nearest (nearest (y - ⌊y⌋) * 100) / 60| ≤ 2 ^ (7 : Int) := by
    rw [abs_div]
    exact (div_le_self (abs_nonneg _) (by norm_num)).trans hhundred'
  have hminutes' := abs_nearest_le (by norm_num) hminutes
  have hsum : |⌊y⌋ + nearest (nearest (nearest (y - ⌊y⌋) * 100) / 60)| ≤ 2 ^ (1001 : Int) := by
    have hfloor : |(⌊y⌋ : ℚ)| ≤ 2 ^ (1000 : Int) := by
      rw [abs_of_nonneg (by exact_mod_cast Int.floor_nonneg.mpr hnonneg)]
      exact (Int.floor_le y).trans hdegrees
    have hseven : (2 : ℚ) ^ (7 : Int) ≤ 2 ^ (1000 : Int) := two_zpow_le (by norm_num)
    have hsucc : (2 : ℚ) ^ (1001 : Int) = 2 ^ (1000 : Int) * 2 := zpow_add_one₀ (by norm_num) 1000
    calc _ ≤ _ := abs_add_le _ _
      _ ≤ 2 ^ (1000 : Int) + 2 ^ (1000 : Int) := add_le_add hfloor (hminutes'.trans hseven)
      _ = 2 ^ (1001 : Int) := by rw [hsucc, mul_two]
  unfold dmToDeg
  simp only [Double.ofNat_eq]
  rw [Double.div_eq_round q (by norm_num), round_of_le (by norm_num) hscaled, Double.abs_fin,
    Double.floor_fin, Double.sub_eq_round, round_of_le (by norm_num) hrest, Double.mul_eq_round,
    round_of_le (by norm_num) hhundred, Double.div_eq_round _ (by norm_num),
    round_of_le (by norm_num) hminutes, Double.add_eq_round, round_of_le (by norm_num) hsum]

/-- The minutes of a double that has so many degrees: their hundredths are multiplied and divided
again. -/
theorem minutes_near {r : ℚ} (hlo : 0 ≤ r) (hhi : r < 1) :
    r * 100 / 60 - 1 / 2 ^ 45 ≤ nearest (nearest (nearest r * 100) / 60) ∧
      nearest (nearest (nearest r * 100) / 60) ≤ r * 100 / 60 + 1 / 2 ^ 45 := by
  have hrest := nearest_bounds (k := 0) hlo (by rwa [zpow_zero]) (by norm_num)
  have hrest' := nearest_nonneg hlo
  generalize nearest r = z at *
  norm_num at hrest
  have hscaled := nearest_bounds (q := z * 100) (k := 7) (by linarith)
    (by norm_num; linarith [hrest.2]) (by norm_num)
  have hscaled' := nearest_nonneg (q := z * 100) (by linarith)
  generalize nearest (z * 100) = w at *
  norm_num at hscaled
  have hminutes := nearest_bounds (q := w / 60) (k := 1) (by linarith)
    (by norm_num; linarith [hrest.2, hscaled.2]) (by norm_num)
  generalize nearest (w / 60) = v at *
  norm_num at hminutes
  constructor <;> linarith [hrest.1, hrest.2, hscaled.1, hscaled.2, hminutes.1, hminutes.2]

/-- The degrees are a `double`, so rounding does not pass them when a text is read, nor when it is
divided by a hundred. -/
theorem degrees_near {deg : Nat} {min : ℚ} (hdeg : deg < 2 ^ 8) (hlo : 0 ≤ min) (hhi : min ≤ 60) :
    |nearest (deg * 100 + min)| ≤ 2 ^ (15 : Int) ∧
      deg ≤ nearest (nearest (deg * 100 + min) / 100) ∧
      |nearest (nearest (deg * 100 + min) / 100) - (deg + min / 100)| ≤ 1 / 2 ^ 44 := by
  have hnonneg : (0 : ℚ) ≤ deg := Nat.cast_nonneg deg
  have hlt : (deg : ℚ) + 1 ≤ 2 ^ 8 := by exact_mod_cast hdeg
  have hdouble : IsDouble (deg : ℚ) := by
    apply IsDouble.intCast (n := deg)
    rw [abs_of_nonneg (Int.natCast_nonneg deg)]
    omega
  have hdouble' : IsDouble (deg * 100 : ℚ) := by
    have hint : IsDouble ((deg * 100 : Int) : ℚ) := by
      apply IsDouble.intCast
      rw [abs_of_nonneg (by positivity)]
      omega
    push_cast at hint
    exact hint
  have hread := nearest_bounds (q := deg * 100 + min) (k := 15) (by linarith)
    (by norm_num at hlt ⊢; linarith) (by norm_num)
  have hread' := hdouble'.le_nearest (q := deg * 100 + min) (by linarith)
  generalize nearest (deg * 100 + min) = x at *
  norm_num at hread
  have hscaled := nearest_bounds (q := x / 100) (k := 8) (by linarith)
    (by norm_num at hlt ⊢; linarith [hread.2]) (by norm_num)
  have hscaled' := hdouble.le_nearest (q := x / 100) (by linarith)
  norm_num at hscaled
  refine ⟨?_, hscaled', ?_⟩
  · rw [abs_of_nonneg (by linarith)]
    norm_num at hlt ⊢
    linarith [hread.2]
  · norm_num [abs_le]
    constructor <;> linarith [hread.1, hread.2, hscaled.1, hscaled.2]

/-- Degrees and minutes that a text denotes are read apart again. -/
theorem dmToDeg_near {deg : Nat} {min : ℚ} (hdeg : deg < 2 ^ 8) (hlo : 0 ≤ min) (hhi : min ≤ 60) :
    ∃ d, dmToDeg (.fin (nearest (deg * 100 + min))) = .fin d ∧
      |d - (deg + min / 60)| ≤ 1 / 2 ^ 32 := by
  have hnonneg : (0 : ℚ) ≤ deg := Nat.cast_nonneg deg
  have hlt : (deg : ℚ) + 1 ≤ 2 ^ 8 := by exact_mod_cast hdeg
  obtain ⟨hread, hdegrees, hnear⟩ := degrees_near hdeg hlo hhi
  have hbound : (2 : ℚ) ^ (15 : Int) ≤ 2 ^ (1000 : Int) := two_zpow_le (by norm_num)
  rw [dmToDeg_fin (hread.trans hbound)]
  generalize nearest (nearest (deg * 100 + min) / 100) = y at *
  norm_num [abs_le] at hnear
  have hrest : y - deg < 1 := by linarith [hnear.2]
  have hfloor : ⌊y⌋ = deg := by
    rw [Int.floor_eq_iff]
    push_cast
    constructor <;> linarith
  simp only [abs_of_nonneg (hnonneg.trans hdegrees), hfloor, Int.cast_natCast]
  have hminutes := minutes_near (sub_nonneg.mpr hdegrees) hrest
  have hminutes' : 0 ≤ nearest (nearest (nearest (y - deg) * 100) / 60) := by
    apply nearest_nonneg
    refine div_nonneg (nearest_nonneg (mul_nonneg (nearest_nonneg ?_) ?_)) ?_
    · exact sub_nonneg.mpr hdegrees
    · norm_num
    · norm_num
  generalize nearest (nearest (nearest (y - deg) * 100) / 60) = v at *
  norm_num at hminutes
  have hsum := nearest_bounds (q := deg + v) (k := 9) (by linarith)
    (by norm_num at hlt ⊢; linarith [hminutes.2, hnear.2]) (by norm_num)
  norm_num at hsum
  refine ⟨_, rfl, ?_⟩
  norm_num [abs_le]
  constructor <;>
    linarith [hnear.1, hnear.2, hminutes.1, hminutes.2, hsum.1, hsum.2]

end VirtualFlightRadar.Math.Rounded
