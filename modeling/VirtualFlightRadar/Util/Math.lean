import VirtualFlightRadar.Cxx.Double
import VirtualFlightRadar.Cxx.Bytes

/-!
# Unit conversions, angles and the NMEA checksum

The transcendental functions of the C library are a parameter: no result depends on their values.
-/

open Cxx

namespace VirtualFlightRadar

/-- The functions of `<cmath>` that a rational model cannot compute. -/
structure Libm where
  sin : Double → Double
  cos : Double → Double
  acos : Double → Double
  sqrt : Double → Double
  atan2 : Double → Double → Double
  pow : Double → Double → Double
  fmod : Double → Double → Double

/-- Functions that are exact where a reference position and an aircraft at latitude and longitude
zero need them. -/
def Libm.atOrigin : Libm where
  sin x := x
  cos _ := 1
  acos _ := 355 / 113
  sqrt x := x
  atan2 y _ := y
  pow x _ := x
  fmod x y := x - (x / y).floor * y

namespace Math

-- knots to m/s
def KTS_2_MS [Rounding] : Double := 0.514444
-- m/s to km/h
def MS_2_KMH [Rounding] : Double := 3.6
-- fpm to m/s
def FPM_2_MS [Rounding] : Double := 0.00508
-- feet to m
def FEET_2_M [Rounding] : Double := 0.3048

def PI [Rounding] (m : Libm) : Double := m.acos (-1.0)

def radian [Rounding] (m : Libm) (degree : Double) : Double := degree * PI m / 180.0

def degree [Rounding] (m : Libm) (radian : Double) : Double := radian * 180.0 / PI m

def doubleToInt [Rounding] (value : Double) : Int32 :=
  -- The cast rounds towards zero, so halves go away from it.
  if value ≥ 0 then (value + 0.5).toInt32 else (value - 0.5).toInt32

/-- The cast of `doubleToInt` is defined. -/
def DoubleToIntDefined [Rounding] (value : Double) : Prop :=
  if value ≥ 0 then (value + 0.5).ToInt32Defined else (value - 0.5).ToInt32Defined

/-- Convert ( degree, minute-as-decimal ) to degree. -/
def dmToDeg [Rounding] (degMin : Double) : Double :=
  -- The sign is lost here; callers put it back from the direction letter.
  let absDm := (degMin / 100).abs
  let d := absDm.floor
  let m := (absDm - d) * 100 / 60
  d + m

/-- Height difference from QNE to pressure in meters with the ICAO height formula. -/
def icaoHeight [Rounding] (m : Libm) (pressure : Double) : Int32 :=
  doubleToInt (288.15 * (1 - m.pow (pressure / 1013.25) 0.190295) / 0.0065)

/-- The loop of `checksum` from its second byte on.  A `char` above 127 is negative, so the cast to
`int` extends its sign. -/
def checksumFrom (csum : Int32) : Bytes → Int32
  | [] => csum
  | b :: s =>
      if b = ch '*' ∨ b = 0 then csum else checksumFrom (csum ^^^ b.toInt8.toInt32) s

/-- Compute checksum of nmea string; the leading `$` is not included. -/
def checksum (sentence : Bytes) (length : Nat) : Int32 :=
  checksumFrom 0 ((sentence.take length).drop 1)

/-! ## Rounding -/

theorem half_eq : (0.5 : Double) = .fin (1 / 2) := by
  change Double.fin (0.5 : ℚ) = .fin (1 / 2)
  norm_num

theorem doubleToInt_of_nonneg {q : ℚ} (h : 0 ≤ q) (hlt : ⌊q + 1 / 2⌋ < 2 ^ 31) :
    doubleToInt (.fin q) = Int32.ofInt ⌊q + 1 / 2⌋ := by
  have hnonneg : 0 ≤ q + 1 / 2 := by linarith
  have hfloor : 0 ≤ ⌊q + 1 / 2⌋ := Int.floor_nonneg.mpr hnonneg
  have hge : Double.fin q ≥ 0 := (Double.fin_le 0 q).mpr h
  unfold doubleToInt
  rw [if_pos hge, half_eq, Double.fin_add]
  exact Double.toInt32_fin (Double.trunc_of_nonneg hnonneg) (by omega) hlt

theorem doubleToInt_natCast {n : Nat} (h : n < 2 ^ 31) :
    doubleToInt (.fin n) = Int32.ofInt n := by
  have hfloor : ⌊(n : ℚ) + 1 / 2⌋ = n := by
    rw [Int.floor_eq_iff]
    push_cast
    constructor <;> linarith
  rw [doubleToInt_of_nonneg (by positivity) (by rw [hfloor]; exact_mod_cast h), hfloor]

theorem DoubleToIntDefined.isFinite [Rounding] {x : Double} (h : DoubleToIntDefined x) :
    x.isFinite = true := by
  unfold DoubleToIntDefined at h
  split at h
  · exact Double.isFinite_of_add h.isFinite
  · exact Double.isFinite_of_add (y := -0.5) h.isFinite

/-! ## Degrees and minutes -/

/-- Degrees and minutes below 100 written as one number are read apart again. -/
theorem dmToDeg_fin {deg : Nat} {min : ℚ} (hlo : 0 ≤ min) (hhi : min < 100) :
    dmToDeg (.fin (deg * 100 + min)) = .fin (deg + min / 60) := by
  -- Below a hundred the minutes do not reach the degrees.
  have habs : |(deg * 100 + min) / 100| = deg + min / 100 := by
    rw [abs_of_nonneg (by positivity)]
    ring
  have hfloor : ⌊(deg : ℚ) + min / 100⌋ = deg := by
    rw [Int.floor_eq_iff]
    push_cast
    constructor
    · linarith
    · linarith
  unfold dmToDeg
  simp only [Double.ofNat_eq]
  rw [Double.fin_div _ (by norm_num), Double.abs_fin, habs, Double.floor_fin, hfloor,
    Double.fin_sub, Double.fin_mul, Double.fin_div _ (by norm_num), Double.fin_add]
  congr 1
  push_cast
  ring

/-! ## Checksum -/

theorem checksumFrom_append_star (csum : Int32) (s t : Bytes) :
    checksumFrom csum (s ++ ch '*' :: t) = checksumFrom csum s := by
  induction s generalizing csum with
  | nil => simp [checksumFrom]
  | cons b s ih => simp only [List.cons_append, checksumFrom, ih]

theorem checksumFrom_append_zero (csum : Int32) (s t : Bytes) :
    checksumFrom csum (s ++ 0 :: t) = checksumFrom csum s := by
  induction s generalizing csum with
  | nil => simp [checksumFrom]
  | cons b s ih => simp only [List.cons_append, checksumFrom, ih]

/-- A byte that the checksum takes in and that a `char` holds as a positive number. -/
def isPlain (b : UInt8) : Bool := b != ch '*' && b != 0 && b < 128

theorem isPlain_toLower : ∀ b : UInt8, isPlain (toLower b) = isPlain b := by decide +kernel

def xorAll (s : Bytes) : UInt8 := s.foldl (· ^^^ ·) 0

/-- Signs extend to the exclusive or: its upper bits are those of the sign of the result. -/
theorem checksumFrom_xor {s : Bytes} (h : ∀ b ∈ s, ¬ (b = ch '*' ∨ b = 0)) (x : UInt8) :
    checksumFrom x.toInt8.toInt32 s = (s.foldl (· ^^^ ·) x).toInt8.toInt32 := by
  induction s generalizing x with
  | nil => rfl
  | cons b s ih =>
      have hb := h b List.mem_cons_self
      have hxor : x.toInt8.toInt32 ^^^ b.toInt8.toInt32 = (x ^^^ b).toInt8.toInt32 := by
        rw [UInt8.toInt8_xor, Int8.toInt32_xor]
      rw [checksumFrom, if_neg hb, hxor, ih (fun b' hb' => h b' (List.mem_cons_of_mem b hb')),
        List.foldl_cons]

theorem checksumFrom_plain {s : Bytes} (h : ∀ b ∈ s, isPlain b = true) (x : UInt8) :
    checksumFrom x.toInt8.toInt32 s = (s.foldl (· ^^^ ·) x).toInt8.toInt32 := by
  apply checksumFrom_xor
  intro b hb
  have hplain := h b hb
  simp only [isPlain, Bool.and_eq_true, bne_iff_ne] at hplain
  exact not_or.mpr hplain.1

theorem foldl_xor_lt {s : Bytes} (h : ∀ b ∈ s, isPlain b = true) {x : UInt8}
    (hx : x.toNat < 128) : (s.foldl (· ^^^ ·) x).toNat < 128 := by
  induction s generalizing x with
  | nil => exact hx
  | cons b s ih =>
      have hb : b.toNat < 128 := by
        have hplain := h b List.mem_cons_self
        simp only [isPlain, Bool.and_eq_true, decide_eq_true_eq] at hplain
        exact UInt8.lt_iff_toNat_lt.mp hplain.2
      rw [List.foldl_cons]
      apply ih (fun b' hb' => h b' (List.mem_cons_of_mem b hb'))
      rw [UInt8.toNat_xor]
      exact Nat.xor_lt_two_pow (n := 7) hx hb

theorem xorAll_lt {s : Bytes} (h : ∀ b ∈ s, isPlain b = true) : (xorAll s).toNat < 128 :=
  foldl_xor_lt h (by decide)

theorem foldl_xor (s : Bytes) (x : UInt8) : s.foldl (· ^^^ ·) x = x ^^^ xorAll s := by
  induction s generalizing x with
  | nil => exact (UInt8.xor_zero).symm
  | cons b s ih =>
      have hcons : xorAll (b :: s) = 0 ^^^ b ^^^ xorAll s := ih (0 ^^^ b)
      rw [List.foldl_cons, ih, hcons, UInt8.zero_xor, UInt8.xor_assoc]

theorem xorAll_append (s t : Bytes) : xorAll (s ++ t) = xorAll s ^^^ xorAll t := by
  rw [xorAll, List.foldl_append, foldl_xor t]
  rfl

theorem xorAll_cons (b : UInt8) (s : Bytes) : xorAll (b :: s) = b ^^^ xorAll s := by
  rw [xorAll, List.foldl_cons, foldl_xor, UInt8.zero_xor]

/-- Exclusive or is a group: a single byte that differs makes a difference. -/
theorem xorAll_replaced {a c : Bytes} {x y : UInt8}
    (h : xorAll (a ++ x :: c) = xorAll (a ++ y :: c)) : x = y := by
  rw [xorAll_append, xorAll_append, xorAll_cons, xorAll_cons, UInt8.xor_right_inj,
    UInt8.xor_left_inj] at h
  exact h

/-- The checksum of a sentence is the exclusive or of the bytes between `$` and `*`. -/
theorem checksum_sentence {body : Bytes} (h : ∀ b ∈ body, isPlain b = true) (rest : Bytes) :
    checksumFrom 0 (body ++ ch '*' :: rest) = (xorAll body).toInt8.toInt32 := by
  rw [checksumFrom_append_star]
  exact checksumFrom_plain h 0

end Math

end VirtualFlightRadar
