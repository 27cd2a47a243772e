import VirtualFlightRadar.Cxx.Number

/-!
# `std::snprintf`

The conversions of integers and doubles, and writing formatted text into a `char` array.  Doubles
are rounded to the printed decimals with ties to even, as the exact value of a `double` is.
-/

namespace Cxx

/-! ## Conversions -/

/-- `%<width>d` and, with the zero flag, `%0<width>d`. -/
def fmtInt (zero : Bool) (width : Nat) (n : Int) : Bytes :=
  let sign := if n < 0 then [ch '-'] else []
  let digits := numeral 10 n.natAbs
  if zero then sign ++ padLeft (width - sign.length) (ch '0') digits
  else padLeft width (ch ' ') (sign ++ digits)

/-- `%0<width>x` of the unsigned reading of an `int`. -/
def fmtHex (width : Nat) (n : UInt32) : Bytes := padLeft width (ch '0') (numeral 16 n.toNat)

/-- `%1hhX` -/
def fmtHexUpper (n : UInt8) : Bytes := (numeral 16 n.toNat).map toUpper

/-- The digits of `n / 10 ^ prec` with `prec` decimals. -/
def fixedDigits (prec n : Nat) : Bytes :=
  if prec = 0 then numeral 10 n
  else numeral 10 (n / 10 ^ prec) ++ ch '.' :: zeroPad prec (n % 10 ^ prec)

/-- `%<width>.<prec>lf` and, with the zero flag, `%0<width>.<prec>lf`. -/
def fmtFixed (zero : Bool) (width prec : Nat) : Double → Bytes
  | .fin q =>
      -- The sign is printed for a number that rounds to zero too; a zero itself has none here.
      let sign := if q < 0 then [ch '-'] else []
      let digits := fixedDigits prec (roundEven (|q| * 10 ^ prec)).toNat
      if zero then sign ++ padLeft (width - sign.length) (ch '0') digits
      else padLeft width (ch ' ') (sign ++ digits)
  -- The zero flag does not apply to these.
  | .inf neg => padLeft width (ch ' ') (str (if neg then "-inf" else "inf"))
  | .nan => padLeft width (ch ' ') (str "nan")

/-! ## Character arrays -/

/-- A `char[size]`. -/
structure CharArray (size : Nat) where
  bytes : Bytes
  length_eq : bytes.length = size

/-- `std::snprintf(array, sizeof(array), …)` for the formatted `text`: the array gets the text, cut
to leave room for the terminating zero, and keeps its old bytes behind that zero. -/
def CharArray.snprintf {n : Nat} (array : CharArray (n + 1)) (text : Bytes) : CharArray (n + 1) where
  bytes := text.take n ++ 0 :: array.bytes.drop ((text.take n).length + 1)
  length_eq := by
    have hle : (text.take n).length ≤ n := List.length_take_le n text
    rw [List.length_append, List.length_cons, List.length_drop, array.length_eq]
    omega

def CharArray.zeros (n : Nat) : CharArray n := ⟨List.replicate n 0, List.length_replicate⟩

theorem CharArray.cstr_snprintf {n : Nat} (array : CharArray (n + 1)) (text : Bytes) :
    cstr (array.snprintf text).bytes = cstr (text.take n) :=
  cstr_append_zero _ _

/-! ## Shape of the conversions -/

theorem padLeft_append {width : Nat} {c : UInt8} (s t : Bytes) :
    padLeft (width + t.length) c (s ++ t) = padLeft width c s ++ t := by
  rw [padLeft, padLeft, List.length_append, List.append_assoc,
    show width + t.length - (s.length + t.length) = width - s.length by omega]

theorem fmtInt_of_nonneg {width : Nat} {n : Int} (h : 0 ≤ n) :
    fmtInt true width n = zeroPad width n.toNat := by
  unfold fmtInt zeroPad
  rw [if_neg (not_lt.mpr h), show n.natAbs = n.toNat by omega]
  rfl

theorem fmtInt_blank_of_nonneg {n : Int} (h : 0 ≤ n) : fmtInt false 0 n = numeral 10 n.toNat := by
  unfold fmtInt
  rw [if_neg (not_lt.mpr h), show n.natAbs = n.toNat by omega]
  simp [padLeft]

theorem fmtFixed_blank_of_nonneg {prec : Nat} (hp : 0 < prec) {q : ℚ} (h : 0 ≤ q) :
    fmtFixed false 0 prec (.fin q) =
      numeral 10 ((roundEven (q * 10 ^ prec)).toNat / 10 ^ prec) ++
        ch '.' :: zeroPad prec ((roundEven (q * 10 ^ prec)).toNat % 10 ^ prec) := by
  have hprec : prec ≠ 0 := by omega
  simp only [fmtFixed, fixedDigits, if_neg hprec]
  rw [if_neg (not_lt.mpr h), abs_of_nonneg h]
  simp [padLeft]

theorem fmtFixed_of_nonneg {width prec : Nat} {q : ℚ} (h : 0 ≤ q) :
    fmtFixed true width prec (.fin q) =
      padLeft width (ch '0') (fixedDigits prec (roundEven (q * 10 ^ prec)).toNat) := by
  simp only [fmtFixed]
  rw [if_neg (not_lt.mpr h), abs_of_nonneg h]
  rfl

/-- With `prec > 0` decimals and room for `width` integer digits, the text is two digit fields
around the point. -/
theorem fmtFixed_point {width prec : Nat} (hp : 0 < prec) {q : ℚ} (h : 0 ≤ q) :
    fmtFixed true (width + (prec + 1)) prec (.fin q) =
      zeroPad width ((roundEven (q * 10 ^ prec)).toNat / 10 ^ prec) ++
        ch '.' :: zeroPad prec ((roundEven (q * 10 ^ prec)).toNat % 10 ^ prec) := by
  have hlen : (zeroPad prec ((roundEven (q * 10 ^ prec)).toNat % 10 ^ prec)).length = prec :=
    zeroPad_length hp (Nat.mod_lt _ (by positivity))
  -- The zeros go to the integer digits, because the decimals have their full width already.
  rw [fmtFixed_of_nonneg h, fixedDigits, if_neg (by omega)]
  conv_rhs => rw [zeroPad, ← padLeft_append, List.length_cons, hlen]

theorem decimalVal_fixed (prec n width : Nat) (hp : 0 < prec) :
    decimalVal (zeroPad width (n / 10 ^ prec)) (zeroPad prec (n % 10 ^ prec)) = n / 10 ^ prec := by
  have hpow : (10 : ℚ) ^ prec ≠ 0 := by positivity
  have hdiv : (n : ℚ) = 10 ^ prec * (n / 10 ^ prec : Nat) + (n % 10 ^ prec : Nat) := by
    exact_mod_cast (Nat.div_add_mod n (10 ^ prec)).symm
  rw [decimalVal_eq, natVal_zeroPad, natVal_zeroPad,
    zeroPad_length hp (Nat.mod_lt _ (by positivity))]
  rw [eq_div_iff hpow, hdiv]
  field_simp

/-! ## Bytes and lengths of the conversions -/

/-- The bytes that a conversion of a number can write. -/
def isConverted (b : UInt8) : Bool :=
  isDigit b || isLower b || isUpper b || b == ch '-' || b == ch '.' || b == ch ' '

theorem isConverted_of_digitVal : ∀ b : UInt8, digitVal b < 16 → isConverted b = true := by
  decide +kernel

theorem isConverted_toUpper : ∀ b : UInt8, digitVal b < 16 → isConverted (toUpper b) = true := by
  decide +kernel

theorem isConverted_numeral {base n : Nat} (hlo : 2 ≤ base) (hhi : base ≤ 16) :
    ∀ b ∈ numeral base n, isConverted b = true := by
  intro b hb
  have hdigit := digitVal_of_mem_numeral hlo hhi hb
  exact isConverted_of_digitVal b (by omega)

theorem isConverted_padLeft {width : Nat} {c : UInt8} {s : Bytes} (hc : isConverted c = true)
    (hs : ∀ b ∈ s, isConverted b = true) : ∀ b ∈ padLeft width c s, isConverted b = true := by
  intro b hb
  rcases List.mem_append.mp hb with hpad | hmem
  · rw [List.eq_of_mem_replicate hpad]
    exact hc
  · exact hs b hmem

theorem isConverted_zeroPad (width n : Nat) : ∀ b ∈ zeroPad width n, isConverted b = true :=
  isConverted_padLeft (by decide) (isConverted_numeral (by omega) (by omega))

theorem padLeft_length (width : Nat) (c : UInt8) (s : Bytes) :
    (padLeft width c s).length = max width s.length := by
  rw [padLeft, List.length_append, List.length_replicate]
  omega

-- Both forms of a signed conversion are a sign and digits, filled to the width.
theorem isConverted_signed (zero neg : Bool) (width : Nat) {digits : Bytes}
    (hdigits : ∀ b ∈ digits, isConverted b = true) :
    let sign := if neg then [ch '-'] else []
    ∀ b ∈ (if zero then sign ++ padLeft (width - sign.length) (ch '0') digits
      else padLeft width (ch ' ') (sign ++ digits)), isConverted b = true := by
  intro sign
  have hsign : ∀ b ∈ sign, isConverted b = true := by
    cases neg
    · exact fun b hb => absurd hb (by simp [sign])
    · exact fun b hb => by rw [List.mem_singleton.mp hb]; decide
  cases zero
  · exact isConverted_padLeft (by decide) (List.forall_mem_append.mpr ⟨hsign, hdigits⟩)
  · exact List.forall_mem_append.mpr ⟨hsign, isConverted_padLeft (by decide) hdigits⟩

theorem signed_length_le (zero neg : Bool) (width : Nat) {k : Nat} {digits : Bytes}
    (hdigits : digits.length ≤ k) :
    let sign := if neg then [ch '-'] else []
    (if zero then sign ++ padLeft (width - sign.length) (ch '0') digits
      else padLeft width (ch ' ') (sign ++ digits)).length ≤ max width (k + 1) := by
  intro sign
  have hsign : sign.length ≤ 1 := by cases neg <;> simp [sign]
  cases zero
  · simp only [Bool.false_eq_true, if_false, padLeft_length, List.length_append]
    omega
  · simp only [if_true, padLeft_length, List.length_append]
    omega

theorem isConverted_fmtInt (zero : Bool) (width : Nat) (n : Int) :
    ∀ b ∈ fmtInt zero width n, isConverted b = true := by
  have h := isConverted_signed zero (decide (n < 0)) width
    (isConverted_numeral (n := n.natAbs) (by omega) (by omega : 10 ≤ 16))
  simpa only [fmtInt, decide_eq_true_eq] using h

theorem fmtInt_length_le (zero : Bool) (width : Nat) {n : Int} (hn : n.natAbs < 10 ^ 10) :
    (fmtInt zero width n).length ≤ max width 11 := by
  have h := signed_length_le zero (decide (n < 0)) width
    (numeral_length_le 10 n.natAbs 10 (by omega) (by omega) hn)
  simpa only [fmtInt, decide_eq_true_eq] using h

theorem isConverted_fmtHexUpper (n : UInt8) : ∀ b ∈ fmtHexUpper n, isConverted b = true := by
  intro b hb
  obtain ⟨c, hc, rfl⟩ := List.mem_map.mp hb
  exact isConverted_toUpper c (digitVal_of_mem_numeral (by omega) (by omega) hc)

theorem fmtHexUpper_length_le (n : UInt8) : (fmtHexUpper n).length ≤ 2 := by
  have hlt := n.toNat_lt
  rw [fmtHexUpper, List.length_map]
  exact numeral_length_le 16 n.toNat 2 (by omega) (by omega) (by omega)

theorem isConverted_fixedDigits (prec n : Nat) :
    ∀ b ∈ fixedDigits prec n, isConverted b = true := by
  unfold fixedDigits
  split
  · exact isConverted_numeral (by omega) (by omega)
  · rw [List.forall_mem_append, List.forall_mem_cons]
    exact ⟨isConverted_numeral (by omega) (by omega), by decide, isConverted_zeroPad _ _⟩

theorem fixedDigits_length_le {prec n k : Nat} (hn : n ≤ 10 ^ k * 10 ^ prec) :
    (fixedDigits prec n).length ≤ k + 1 + (prec + 1) := by
  have hpow : 0 < 10 ^ prec := by positivity
  have hint : n / 10 ^ prec < 10 ^ (k + 1) := by
    have hdiv : n / 10 ^ prec ≤ 10 ^ k := Nat.div_le_of_le_mul (by rw [Nat.mul_comm]; exact hn)
    have hlt : 10 ^ k < 10 ^ (k + 1) := Nat.pow_lt_pow_right (by omega) (by omega)
    omega
  have hlen := numeral_length_le 10 (n / 10 ^ prec) (k + 1) (by omega) (by omega) hint
  unfold fixedDigits
  split
  next hzero =>
    rw [hzero, pow_zero, Nat.div_one] at hlen
    omega
  next hprec =>
    rw [List.length_append, List.length_cons,
      zeroPad_length (by omega) (Nat.mod_lt n hpow)]
    omega

theorem isConverted_fmtFixed (zero : Bool) (width prec : Nat) (x : Double) :
    ∀ b ∈ fmtFixed zero width prec x, isConverted b = true := by
  cases x with
  | fin q =>
      have h := isConverted_signed zero (decide (q < 0)) width
        (isConverted_fixedDigits prec (roundEven (|q| * 10 ^ prec)).toNat)
      simpa only [fmtFixed, decide_eq_true_eq] using h
  | inf neg =>
      apply isConverted_padLeft (by decide)
      cases neg <;> decide
  | nan => exact isConverted_padLeft (by decide) (by decide)

theorem fmtFixed_length_le (zero : Bool) (width prec : Nat) {x : Double} {k : Nat} (hk : 4 ≤ k)
    (hx : ∀ q, x = .fin q → |q| ≤ 10 ^ k) :
    (fmtFixed zero width prec x).length ≤ max width (k + prec + 3) := by
  cases x with
  | fin q =>
      -- The rounded value is at most the bound, which is an integer with these decimals.
      have hround : (roundEven (|q| * 10 ^ prec)).toNat ≤ 10 ^ k * 10 ^ prec := by
        have hle : |q| * 10 ^ prec ≤ ((10 ^ k * 10 ^ prec : Int) : ℚ) := by
          push_cast
          exact mul_le_mul_of_nonneg_right (hx q rfl) (by positivity)
        have hint := roundEven_le hle
        rw [Int.toNat_le]
        exact_mod_cast hint
      have h := signed_length_le zero (decide (q < 0)) width
        (fixedDigits_length_le hround)
      simp only [decide_eq_true_eq] at h
      simp only [fmtFixed]
      omega
  | inf neg =>
      rw [fmtFixed, padLeft_length]
      have hlen : (str (if neg then "-inf" else "inf")).length ≤ 4 := by cases neg <;> decide
      omega
  | nan =>
      rw [fmtFixed, padLeft_length, show (str "nan").length = 3 from rfl]
      omega

end Cxx
