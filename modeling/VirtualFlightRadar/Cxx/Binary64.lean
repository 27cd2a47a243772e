import Mathlib.Data.Int.Log
import VirtualFlightRadar.Cxx.Number

/-!
# Rounding to binary64

The nearest number with 53 significant bits, ties to even.  Which numbers stay below a bound when
they are rounded can be told from the number alone: the first that does not is half a place below
the bound.
-/

namespace Cxx

/-- The exponent of the last place of a number: 52 places behind its first, unless it is
subnormal. -/
def lastPlace (q : ℚ) : Int := max (Int.log 2 |q| - 52) (-1074)

/-- The nearest multiple of the last place, ties to even. -/
def nearest (q : ℚ) : ℚ := roundEven (q / 2 ^ lastPlace q) * 2 ^ lastPlace q

/-- A number that rounds beyond the largest `double` becomes an infinity. -/
@[reducible] def Rounding.binary64 : Rounding where
  round q := if |nearest q| < 2 ^ 1024 then .fin (nearest q) else .inf (decide (q < 0))

/-- The finite values of a `double`. -/
def IsDouble (q : ℚ) : Prop := ∃ m e : Int, |m| < 2 ^ 53 ∧ -1074 ≤ e ∧ q = m * 2 ^ e

variable {q b : ℚ} {n k : Int}

/-! ## Integers -/

theorem le_roundEven (h : n ≤ q) : n ≤ roundEven q := by
  have hfloor : n ≤ ⌊q⌋ := Int.le_floor.mpr h
  unfold roundEven
  split <;> omega

theorem roundEven_neg (q : ℚ) : roundEven (-q) = -roundEven q := by
  have hlo := Int.floor_le q
  have hhi := Int.lt_floor_add_one q
  by_cases hint : (⌊q⌋ : ℚ) = q
  · rw [← hint, ← Int.cast_neg, roundEven_intCast, roundEven_intCast]
  · have hlt : (⌊q⌋ : ℚ) < q := lt_of_le_of_ne hlo hint
    have hfloor : ⌊-q⌋ = -⌊q⌋ - 1 := by
      rw [Int.floor_eq_iff]
      push_cast
      constructor <;> linarith
    unfold roundEven
    rw [hfloor]
    push_cast
    -- The remainders add up to one, and of the two neighbours one is even.
    split
    next h =>
      rw [if_neg]
      · omega
      · rintro (hhalf | ⟨hhalf, heven⟩)
        · rcases h with h | h
          · linarith
          · linarith [h.1]
        · rcases h with h | h
          · linarith
          · omega
    next h =>
      rw [not_or, not_and_or] at h
      rw [if_pos]
      · omega
      · by_cases hhalf : q - ⌊q⌋ = 1 / 2
        · refine .inr ⟨hhalf, ?_⟩
          have hodd := h.2.resolve_left fun hne => hne (by linarith)
          omega
        · left
          have hge := not_lt.mp h.1
          exact lt_of_le_of_ne (by linarith) hhalf

/-- Below an odd number the last tie rounds down. -/
theorem roundEven_lt_iff_odd (hn : n % 2 = 1) : roundEven q < n ↔ q ≤ n - 1 / 2 := by
  have heven : (1 - n) % 2 = 0 := by omega
  have hneg := roundEven_lt_iff (q := -q) heven
  rw [roundEven_neg] at hneg
  push_cast at hneg
  constructor
  · intro h
    by_contra hgt
    have hlt := hneg.mpr (by linarith)
    omega
  · intro h
    by_contra hge
    have hlt := hneg.mp (by omega)
    linarith

theorem roundEven_mono {q r : ℚ} (h : q ≤ r) : roundEven q ≤ roundEven r := by
  have hround := roundEven_sub_le q
  have hround' := roundEven_sub_le r
  by_contra hlt
  have hle : (roundEven r : ℚ) + 1 ≤ roundEven q := by exact_mod_cast not_le.mp hlt
  -- Both are as far from their integers as they can be, so they are one tie.
  have hqr : q = r := by
    rw [abs_le] at hround hround'
    linarith [hround.2, hround'.1]
  exact hlt (le_of_eq (congrArg roundEven hqr))

/-! ## Places -/

theorem lastPlace_neg (q : ℚ) : lastPlace (-q) = lastPlace q := by
  rw [lastPlace, abs_neg, lastPlace]

theorem two_zpow_pos (k : Int) : (0 : ℚ) < 2 ^ k := zpow_pos (by norm_num) k

theorem two_zpow_le {k l : Int} (h : k ≤ l) : (2 : ℚ) ^ k ≤ 2 ^ l :=
  zpow_le_zpow_right₀ (by norm_num) h

/-- A power of two is a whole number of smaller ones. -/
theorem two_zpow_div {k l : Int} (h : l ≤ k) : ∃ n : Int, (n : ℚ) = 2 ^ k / 2 ^ l := by
  refine ⟨2 ^ (k - l).toNat, ?_⟩
  rw [← zpow_sub₀ (by norm_num : (2 : ℚ) ≠ 0)]
  conv_rhs => rw [← Int.toNat_of_nonneg (sub_nonneg.mpr h), zpow_natCast]
  push_cast
  rfl

theorem log_lt_of_lt (h : |q| < 2 ^ k) (hq : q ≠ 0) : Int.log 2 |q| < k :=
  (Int.lt_zpow_iff_log_lt (by norm_num) (abs_pos.mpr hq)).mp (by exact_mod_cast h)

theorem log_eq (hlo : 2 ^ k ≤ q) (hhi : q < 2 ^ (k + 1)) : Int.log 2 |q| = k := by
  have hpos : 0 < q := (two_zpow_pos k).trans_le hlo
  have hne : q ≠ 0 := hpos.ne'
  rw [← abs_of_pos hpos] at hlo hhi
  have hlt := log_lt_of_lt hhi hne
  have hle : k ≤ Int.log 2 |q| :=
    (Int.zpow_le_iff_le_log (by norm_num) (abs_pos.mpr hne)).mp (by exact_mod_cast hlo)
  omega

/-! ## The nearest number -/

theorem nearest_zero : nearest 0 = 0 := by
  rw [nearest, zero_div, show roundEven 0 = 0 from roundEven_intCast 0, Int.cast_zero, zero_mul]

theorem nearest_neg (q : ℚ) : nearest (-q) = -nearest q := by
  rw [nearest, nearest, lastPlace_neg, neg_div, roundEven_neg, Int.cast_neg, neg_mul]

/-- Rounding changes a number by half a place at most. -/
theorem nearest_sub_le (q : ℚ) : |nearest q - q| ≤ 2 ^ lastPlace q / 2 := by
  have hpos := two_zpow_pos (lastPlace q)
  have hround := roundEven_sub_le (q / 2 ^ lastPlace q)
  have heq : nearest q - q =
      (roundEven (q / 2 ^ lastPlace q) - q / 2 ^ lastPlace q) * 2 ^ lastPlace q := by
    rw [sub_mul, div_mul_cancel₀ _ hpos.ne', nearest]
  rw [heq, abs_mul, abs_of_pos hpos]
  calc _ ≤ 1 / 2 * 2 ^ lastPlace q := mul_le_mul_of_nonneg_right hround hpos.le
    _ = 2 ^ lastPlace q / 2 := by ring

theorem nearest_sub_le_of_lt (h : |q| < 2 ^ k) (hk : -1021 ≤ k) :
    |nearest q - q| ≤ 2 ^ (k - 54) := by
  by_cases hq : q = 0
  · rw [hq, nearest_zero, sub_zero, abs_zero]
    exact (two_zpow_pos _).le
  · have hlog := log_lt_of_lt h hq
    have hplace : lastPlace q ≤ k - 53 := by
      unfold lastPlace
      omega
    have hhalf : (2 : ℚ) ^ (k - 53) / 2 = 2 ^ (k - 54) := by
      rw [show k - 54 = k - 53 - 1 by ring, zpow_sub_one₀ (by norm_num), div_eq_mul_inv]
    refine (nearest_sub_le q).trans ?_
    rw [← hhalf]
    linarith [two_zpow_le hplace]

theorem nearest_bounds (hlo : 0 ≤ q) (hhi : q < 2 ^ k) (hk : -1021 ≤ k) :
    q - 2 ^ (k - 54) ≤ nearest q ∧ nearest q ≤ q + 2 ^ (k - 54) := by
  rw [← abs_of_nonneg hlo] at hhi
  have hround := nearest_sub_le_of_lt hhi hk
  rw [abs_le] at hround
  constructor <;> linarith [hround.1, hround.2]

/-- What a `double` can hold is not changed. -/
theorem IsDouble.nearest_eq (h : IsDouble q) : nearest q = q := by
  obtain ⟨m, e, hm, he, rfl⟩ := h
  by_cases hq : (m : ℚ) * 2 ^ e = 0
  · rw [hq, nearest_zero]
  · have hlt : |(m : ℚ) * 2 ^ e| < 2 ^ (53 + e) := by
      have hcast : |(m : ℚ)| < 2 ^ (53 : Int) := by exact_mod_cast hm
      rw [abs_mul, abs_of_pos (two_zpow_pos e), zpow_add₀ (by norm_num)]
      exact mul_lt_mul_of_pos_right hcast (two_zpow_pos e)
    have hlog := log_lt_of_lt hlt hq
    have hplace : lastPlace (m * 2 ^ e) ≤ e := by
      unfold lastPlace
      omega
    obtain ⟨n, hn⟩ := two_zpow_div hplace
    have hwhole : (m : ℚ) * 2 ^ e / 2 ^ lastPlace (m * 2 ^ e) = (m * n : Int) := by
      rw [mul_div_assoc, ← hn]
      push_cast
      rfl
    rw [nearest, hwhole, roundEven_intCast, ← hwhole, div_mul_cancel₀ _ (two_zpow_pos _).ne']

theorem IsDouble.intCast {n : Int} (h : |n| < 2 ^ 53) : IsDouble n :=
  ⟨n, 0, h, by omega, by rw [zpow_zero, mul_one]⟩

/-- The part of a positive number behind the point has no more places. -/
theorem IsDouble.sub_floor (h : IsDouble q) (hq : 0 ≤ q) : IsDouble (q - ⌊q⌋) := by
  obtain ⟨m, e, hm, he, rfl⟩ := h
  by_cases hwhole : 0 ≤ e
  · obtain ⟨n, hn⟩ := two_zpow_div hwhole
    rw [zpow_zero, div_one] at hn
    have hint : (m : ℚ) * 2 ^ e = (m * n : Int) := by
      rw [← hn]
      push_cast
      rfl
    rw [hint, Int.floor_intCast, sub_self]
    exact ⟨0, 0, by norm_num, by omega, by norm_num⟩
  · obtain ⟨n, hn⟩ := two_zpow_div (not_le.mp hwhole).le
    have hpos := two_zpow_pos e
    have hone : (n : ℚ) * 2 ^ e = 1 := by
      rw [hn, zpow_zero, div_mul_cancel₀ _ hpos.ne']
    have hrest : (m : ℚ) * 2 ^ e - ⌊(m : ℚ) * 2 ^ e⌋ =
        (m - ⌊(m : ℚ) * 2 ^ e⌋ * n : Int) * 2 ^ e := by
      push_cast
      rw [sub_mul, mul_assoc, hone, mul_one]
    -- It is neither negative nor greater than the number.
    have hfloor : (0 : ℚ) ≤ ⌊(m : ℚ) * 2 ^ e⌋ := by
      exact_mod_cast Int.floor_nonneg.mpr hq
    have hlo := sub_nonneg.mpr (Int.floor_le ((m : ℚ) * 2 ^ e))
    have hhi := sub_le_self ((m : ℚ) * 2 ^ e) hfloor
    rw [hrest] at hlo hhi
    have hnonneg := nonneg_of_mul_nonneg_left hlo hpos
    have hle := le_of_mul_le_mul_right hhi hpos
    norm_cast at hnonneg hle
    refine ⟨_, e, ?_, he, hrest⟩
    rw [abs_lt] at hm ⊢
    omega

/-! ## Numbers that stay below a bound -/

/-- In its binade a number is rounded to a whole number of places. -/
theorem nearest_of_log (hk : -1022 ≤ k) (h : Int.log 2 |q| = k) :
    nearest q = roundEven (q / 2 ^ (k - 52)) * 2 ^ (k - 52) := by
  have hplace : lastPlace q = k - 52 := by
    unfold lastPlace
    omega
  rw [nearest, hplace]

theorem nearest_le_two_zpow (hk : -1074 ≤ k) (h : q ≤ 2 ^ k) : nearest q ≤ 2 ^ k := by
  have hpos := two_zpow_pos (lastPlace q)
  by_cases hq : 0 < q
  · have hplace : lastPlace q ≤ k := by
      have hlog : Int.log 2 |q| < k + 1 := by
        apply log_lt_of_lt _ hq.ne'
        rw [abs_of_pos hq, zpow_add_one₀ (by norm_num)]
        linarith [two_zpow_pos k]
      unfold lastPlace
      omega
    obtain ⟨n, hn⟩ := two_zpow_div hplace
    have hle : roundEven (q / 2 ^ lastPlace q) ≤ n := by
      apply roundEven_le
      rw [hn]
      exact div_le_div_of_nonneg_right h hpos.le
    rw [← div_mul_cancel₀ (2 ^ k) hpos.ne', ← hn]
    exact mul_le_mul_of_nonneg_right (by exact_mod_cast hle) hpos.le
  · have hle : roundEven (q / 2 ^ lastPlace q) ≤ 0 := by
      apply roundEven_le
      exact div_nonpos_of_nonpos_of_nonneg (not_lt.mp hq) hpos.le
    have hnonpos : nearest q ≤ 0 :=
      mul_nonpos_of_nonpos_of_nonneg (by exact_mod_cast hle) hpos.le
    exact hnonpos.trans (two_zpow_pos k).le

theorem two_zpow_le_nearest (hk : -1074 ≤ k) (h : 2 ^ k ≤ q) : 2 ^ k ≤ nearest q := by
  have hpos := two_zpow_pos (lastPlace q)
  have hq : 0 < q := (two_zpow_pos k).trans_le h
  -- The first place of the number is a whole number of last ones.
  have hlog : k ≤ Int.log 2 |q| := by
    rw [abs_of_pos hq]
    exact (Int.zpow_le_iff_le_log (by norm_num) hq).mp (by exact_mod_cast h)
  have hfirst : (2 : ℚ) ^ Int.log 2 |q| ≤ q := by
    rw [abs_of_pos hq]
    exact_mod_cast Int.zpow_log_le_self (by norm_num) hq
  have hplace : lastPlace q ≤ Int.log 2 |q| := by
    unfold lastPlace
    omega
  obtain ⟨n, hn⟩ := two_zpow_div hplace
  have hle : n ≤ roundEven (q / 2 ^ lastPlace q) := by
    apply le_roundEven
    rw [hn]
    exact div_le_div_of_nonneg_right hfirst hpos.le
  calc (2 : ℚ) ^ k ≤ 2 ^ Int.log 2 |q| := two_zpow_le hlog
    _ = n * 2 ^ lastPlace q := by rw [hn, div_mul_cancel₀ _ hpos.ne']
    _ ≤ nearest q := mul_le_mul_of_nonneg_right (by exact_mod_cast hle) hpos.le

theorem nearest_nonneg (h : 0 ≤ q) : 0 ≤ nearest q := by
  have hpos := two_zpow_pos (lastPlace q)
  exact mul_nonneg (by exact_mod_cast roundEven_nonneg (div_nonneg h hpos.le)) hpos.le

theorem nearest_mono_of_pos {r : ℚ} (hq : 0 < q) (h : q ≤ r) : nearest q ≤ nearest r := by
  have hr : 0 < r := hq.trans_le h
  have hlog : Int.log 2 |q| ≤ Int.log 2 |r| := by
    rw [abs_of_pos hq, abs_of_pos hr]
    exact Int.log_mono_right hq h
  by_cases hplace : lastPlace q = lastPlace r
  · have hpos := two_zpow_pos (lastPlace r)
    have hround := roundEven_mono (div_le_div_of_nonneg_right h hpos.le)
    rw [nearest, nearest, hplace]
    exact mul_le_mul_of_nonneg_right (by exact_mod_cast hround) hpos.le
  · -- The first place of the greater number lies between them.
    obtain ⟨k, hk⟩ : ∃ k, Int.log 2 |r| = k := ⟨_, rfl⟩
    unfold lastPlace at hplace
    rw [hk] at hlog hplace
    have hlt : Int.log 2 |q| < k := by omega
    rw [abs_of_pos hq] at hlt
    rw [abs_of_pos hr] at hk
    have hbelow : q < 2 ^ k := by exact_mod_cast (Int.lt_zpow_iff_log_lt (by norm_num) hq).mpr hlt
    have habove : 2 ^ k ≤ r := by
      rw [← hk]
      exact_mod_cast Int.zpow_log_le_self (by norm_num) hr
    exact (nearest_le_two_zpow (by omega) hbelow.le).trans (two_zpow_le_nearest (by omega) habove)

theorem nearest_mono {r : ℚ} (h : q ≤ r) : nearest q ≤ nearest r := by
  rcases lt_or_ge 0 q with hq | hq
  · exact nearest_mono_of_pos hq h
  · rcases le_or_gt 0 r with hr | hr
    · have hneg := nearest_nonneg (neg_nonneg.mpr hq)
      rw [nearest_neg] at hneg
      linarith [nearest_nonneg hr]
    · have hneg := nearest_mono_of_pos (neg_pos.mpr hr) (neg_le_neg h)
      rw [nearest_neg, nearest_neg] at hneg
      linarith

/-- Rounding does not pass a `double`. -/
theorem IsDouble.le_nearest (hb : IsDouble b) (h : b ≤ q) : b ≤ nearest q := by
  rw [← hb.nearest_eq]
  exact nearest_mono h

theorem IsDouble.nearest_le (hb : IsDouble b) (h : q ≤ b) : nearest q ≤ b := by
  rw [← hb.nearest_eq]
  exact nearest_mono h

/-- A number rounds to less than a bound if it rounds to fewer places than the bound has. -/
theorem nearest_lt_iff (hk : -1022 ≤ k) (hlo : 2 ^ k < b) (hhi : b ≤ 2 ^ (k + 1)) :
    nearest q < b ↔ roundEven (q / 2 ^ (k - 52)) < ⌈b / 2 ^ (k - 52)⌉ := by
  have hpos := two_zpow_pos (k - 52)
  have hplaces (l : Nat) : (2 : ℚ) ^ (k - 52 + l) / 2 ^ (k - 52) = ((2 ^ l : Int) : ℚ) := by
    rw [zpow_add₀ (by norm_num), mul_div_cancel_left₀ _ hpos.ne']
    push_cast
    rfl
  have hfirst : (2 : ℚ) ^ k / 2 ^ (k - 52) = ((2 ^ 52 : Int) : ℚ) := by
    rw [← hplaces 52]
    congr 2
    omega
  have hnext : (2 : ℚ) ^ (k + 1) / 2 ^ (k - 52) = ((2 ^ 53 : Int) : ℚ) := by
    rw [← hplaces 53]
    congr 2
    omega
  rcases lt_or_ge q (2 ^ k) with hlt | hge
  · -- below the binade of the bound
    refine iff_of_true ((nearest_le_two_zpow (by omega) hlt.le).trans_lt hlo) ?_
    have hle : roundEven (q / 2 ^ (k - 52)) ≤ 2 ^ 52 := by
      apply roundEven_le
      rw [← hfirst]
      exact div_le_div_of_nonneg_right hlt.le hpos.le
    have hceil : 2 ^ 52 < ⌈b / 2 ^ (k - 52)⌉ := by
      rw [Int.lt_ceil, ← hfirst]
      exact div_lt_div_of_pos_right hlo hpos
    exact hle.trans_lt hceil
  · rcases lt_or_ge q (2 ^ (k + 1)) with hlt | hge'
    · rw [nearest_of_log hk (log_eq hge hlt), Int.lt_ceil, lt_div_iff₀ hpos]
    · -- above it
      refine iff_of_false ?_ ?_
      · exact not_lt.mpr (hhi.trans (two_zpow_le_nearest (by omega) hge'))
      · rw [not_lt]
        have hceil : ⌈b / 2 ^ (k - 52)⌉ ≤ 2 ^ 53 := by
          rw [Int.ceil_le, ← hnext]
          exact div_le_div_of_nonneg_right hhi hpos.le
        refine hceil.trans (le_roundEven ?_)
        rw [← hnext]
        exact div_le_div_of_nonneg_right hge' hpos.le

theorem nearest_lt_iff_of_even {v : ℚ} (hk : -1022 ≤ k) (hlo : 2 ^ k < b) (hhi : b ≤ 2 ^ (k + 1))
    (hn : ⌈b / 2 ^ (k - 52)⌉ = n) (heven : n % 2 = 0) (hv : (n - 1 / 2) * 2 ^ (k - 52) = v) :
    nearest q < b ↔ q < v := by
  rw [nearest_lt_iff hk hlo hhi, hn, roundEven_lt_iff heven, div_lt_iff₀ (two_zpow_pos _), hv]

theorem nearest_lt_iff_of_odd {v : ℚ} (hk : -1022 ≤ k) (hlo : 2 ^ k < b) (hhi : b ≤ 2 ^ (k + 1))
    (hn : ⌈b / 2 ^ (k - 52)⌉ = n) (hodd : n % 2 = 1) (hv : (n - 1 / 2) * 2 ^ (k - 52) = v) :
    nearest q < b ↔ q ≤ v := by
  rw [nearest_lt_iff hk hlo hhi, hn, roundEven_lt_iff_odd hodd, div_le_iff₀ (two_zpow_pos _), hv]

theorem abs_nearest (q : ℚ) : |nearest q| = nearest |q| := by
  rcases le_total 0 q with h | h
  · rw [abs_of_nonneg h, abs_of_nonneg (nearest_nonneg h)]
  · rw [abs_of_nonpos h, ← abs_neg, ← nearest_neg, abs_of_nonneg (nearest_nonneg (by linarith))]

theorem abs_nearest_le (hk : -1074 ≤ k) (h : |q| ≤ 2 ^ k) : |nearest q| ≤ 2 ^ k := by
  rw [abs_nearest]
  exact nearest_le_two_zpow hk h

/-! ## Doubles -/

/-- Half a place beyond the largest `double` the numbers become infinite. -/
theorem abs_nearest_lt_iff : |nearest q| < 2 ^ 1024 ↔ |q| < Double.dblMax + 2 ^ 970 := by
  have hbound : (2 : ℚ) ^ 1024 = 2 ^ ((1023 : Int) + 1) := (zpow_natCast 2 1024).symm
  have hplace : (2 : ℚ) ^ ((1023 : Int) - 52) = 2 ^ 971 := zpow_natCast 2 971
  have hpos : (0 : ℚ) < 2 ^ 971 := by positivity
  have hplaces : (2 : ℚ) ^ 1024 / 2 ^ 971 = ((2 ^ 53 : Int) : ℚ) := by
    rw [show (1024 : Nat) = 53 + 971 from rfl, pow_add, mul_div_cancel_right₀ _ hpos.ne']
    push_cast
    rfl
  have hlast : Double.dblMax + 2 ^ 970 = (((2 ^ 53 : Int) : ℚ) - 1 / 2) * 2 ^ 971 := by
    have htwice : (2 : ℚ) ^ 971 = 2 * 2 ^ 970 := pow_succ' 2 970
    rw [Double.dblMax, htwice]
    generalize (2 : ℚ) ^ 970 = ulp
    push_cast
    ring
  rw [abs_nearest, hlast, ← div_lt_iff₀ hpos, ← roundEven_lt_iff (by decide), hbound,
    nearest_lt_iff (by omega) (zpow_lt_zpow_right₀ (by norm_num) (by omega)) le_rfl, hplace,
    ← hbound, hplaces, Int.ceil_intCast]

theorem round_binary64 (h : |q| < Double.dblMax + 2 ^ 970) :
    Rounding.binary64.round q = .fin (nearest q) :=
  if_pos (abs_nearest_lt_iff.mpr h)

theorem round_of_le (hk : k ≤ 1023) (h : |q| ≤ 2 ^ k) :
    Rounding.binary64.round q = .fin (nearest q) := by
  have hle : |nearest q| ≤ 2 ^ (1023 : Int) := abs_nearest_le (by omega) (h.trans (two_zpow_le hk))
  have hlt : (2 : ℚ) ^ (1023 : Int) < 2 ^ (1024 : Int) :=
    zpow_lt_zpow_right₀ (by norm_num) (by omega)
  exact if_pos (hle.trans_lt (by exact_mod_cast hlt))

theorem IsDouble.round_eq (h : IsDouble q) (hk : k ≤ 1023) (hle : |q| ≤ 2 ^ k) :
    Rounding.binary64.round q = .fin q := by
  rw [round_of_le hk hle, h.nearest_eq]

/-! ## Casts -/

theorem abs_lt_of_trunc {y : ℚ} (hlo : -2 ^ 31 ≤ Double.trunc y) (hhi : Double.trunc y < 2 ^ 31) :
    |y| < 2 ^ 31 + 1 := by
  have hlo' : (-2 ^ 31 : ℚ) ≤ Double.trunc y := by exact_mod_cast hlo
  have hhi' : (Double.trunc y : ℚ) < 2 ^ 31 := by exact_mod_cast hhi
  unfold Double.trunc at hlo' hhi'
  split at hlo'
  next h =>
    rw [if_pos h] at hhi'
    rw [abs_of_nonneg h]
    have hfloor : ⌊y⌋ < 2 ^ 31 := by exact_mod_cast hhi'
    have hlt := Int.lt_floor_add_one y
    linarith
  next h =>
    rw [abs_of_neg (not_le.mp h)]
    have hlt := Int.ceil_lt_add_one y
    linarith

/-- An infinity is as much out of range as the number it stands for. -/
theorem toInt32Defined_round (q : ℚ) : (Rounding.binary64.round q).ToInt32Defined ↔
    -2 ^ 31 ≤ Double.trunc (nearest q) ∧ Double.trunc (nearest q) < 2 ^ 31 := by
  by_cases h : |nearest q| < 2 ^ 1024
  · rw [show Rounding.binary64.round q = .fin (nearest q) from if_pos h]
    exact Iff.rfl
  · rw [show Rounding.binary64.round q = .inf (decide (q < 0)) from if_neg h]
    refine iff_of_false id ?_
    rintro ⟨hlo, hhi⟩
    have hpow : (2 : ℚ) ^ 31 + 1 ≤ 2 ^ 32 := by norm_num
    have hle : (2 : ℚ) ^ 32 ≤ 2 ^ 1024 := pow_le_pow_right₀ (by norm_num) (by norm_num)
    exact h ((abs_lt_of_trunc hlo hhi).trans_le (hpow.trans hle))

theorem toInt32Defined_round_of_nonneg (h : 0 ≤ q) :
    (Rounding.binary64.round q).ToInt32Defined ↔ q < 2 ^ 31 - 1 / 2 ^ 23 := by
  have hfloor : 0 ≤ ⌊nearest q⌋ := Int.floor_nonneg.mpr (nearest_nonneg h)
  have hlt : nearest q < 2 ^ 31 ↔ q < 2 ^ 31 - 1 / 2 ^ 23 := by
    apply nearest_lt_iff_of_even (k := 30) (n := 2 ^ 53)
    all_goals norm_num
  rw [toInt32Defined_round, Double.trunc_of_nonneg (nearest_nonneg h), and_iff_right (by omega),
    Int.floor_lt, ← hlt]
  push_cast
  exact Iff.rfl

theorem toInt32Defined_round_of_nonpos (h : q ≤ 0) :
    (Rounding.binary64.round q).ToInt32Defined ↔ -(2 ^ 31 + 1 - 1 / 2 ^ 22) < q := by
  have hneg : 0 ≤ nearest (-q) := nearest_nonneg (by linarith)
  rw [nearest_neg] at hneg
  have htrunc : Double.trunc (nearest q) = ⌈nearest q⌉ := by
    unfold Double.trunc
    split
    next hge =>
      rw [le_antisymm (by linarith) hge, Int.floor_zero, Int.ceil_zero]
    next => rfl
  have hceil : ⌈nearest q⌉ ≤ 0 := Int.ceil_le.mpr (by push_cast; linarith)
  have hlt : nearest (-q) < 2 ^ 31 + 1 ↔ -q < 2 ^ 31 + 1 - 1 / 2 ^ 22 := by
    apply nearest_lt_iff_of_even (k := 31) (n := 2 ^ 52 + 2 ^ 21)
    all_goals norm_num
  rw [toInt32Defined_round, htrunc, and_iff_left (by omega), Int.le_ceil_iff, neg_lt, ← hlt,
    nearest_neg]
  push_cast
  constructor
  · intro h
    linarith
  · intro h
    linarith

/-! ## Texts -/

/-- The number that a text is read as before it is rounded. -/
def Denotes (s : Bytes) (q : ℚ) : Prop := @stod .exact s = .ok (.fin q)

/-- A text that denotes a number is read as the nearest one. -/
theorem stod_nearest {s : Bytes} (h : Denotes s q) :
    @stod .binary64 s = .ok (.fin (nearest q)) := by
  rw [@stod_eq_round .binary64, h]
  exact congrArg Except.ok (round_binary64 (stod_abs_lt h))

theorem stod_natCast {s : Bytes} {n : Nat} (h : Denotes s n) (hn : n < 2 ^ 53) :
    @stod .binary64 s = .ok (.fin n) := by
  have hint : IsDouble ((n : Int) : ℚ) := by
    apply IsDouble.intCast
    rw [abs_of_nonneg (Int.natCast_nonneg n)]
    exact_mod_cast hn
  have hround := hint.nearest_eq
  rw [Int.cast_natCast] at hround
  rw [stod_nearest h, hround]

/-- A text that is read is read exactly, then rounded. -/
theorem exact_of_stod {s : Bytes} {x : Double} (h : @stod .binary64 s = .ok x) :
    ∃ y, @stod .exact s = .ok y ∧ x = @Double.round .binary64 y := by
  rw [@stod_eq_round .binary64] at h
  cases hexact : @stod .exact s with
  | error e =>
      rw [hexact] at h
      cases h
  | ok y =>
      rw [hexact] at h
      exact ⟨y, rfl, (Except.ok.inj h).symm⟩

theorem stod_isFinite_binary64 {s : Bytes} {x : Double} (h : @stod .binary64 s = .ok x) :
    x.isFinite = !spellsWord s := by
  obtain ⟨y, hexact, rfl⟩ := exact_of_stod h
  rw [← stod_isFinite hexact]
  cases y with
  | fin q =>
      have hround : Rounding.binary64.round q = .fin (nearest q) :=
        round_binary64 (stod_abs_lt hexact)
      show (Rounding.binary64.round q).isFinite = true
      rw [hround]
      rfl
  | inf neg => rfl
  | nan => rfl

end Cxx
