import VirtualFlightRadar.Cxx.Digits
import VirtualFlightRadar.Cxx.Double

/-!
# `std::stoi`, `std::stoul` and `std::stod`

All of them skip white space, take an optional sign and convert the longest prefix that is a number; what
follows it is ignored.  The grammar of `stod` has decimal and hexadecimal numbers with an optional
exponent, infinities and NaN.
-/

namespace Cxx

-- Whether a minus sign was read, and the number of bytes of the sign
def readSign : Bytes → Bool × Nat
  | [] => (false, 0)
  | c :: _ => if c = ch '-' then (true, 1) else (false, if c = ch '+' then 1 else 0)

def startsWithNoCase (p s : Bytes) : Bool := (s.take p.length).map toLower == p

/-! ## Integers -/

/-- The digits `strtol` converts; in base sixteen they may follow `0x`. -/
def readInteger (base : Nat) (s : Bytes) : Bytes :=
  -- `0x` counts only if a digit follows it; otherwise the zero is all there is.
  if base = 16 ∧ startsWithNoCase (str "0x") s ∧ ((s.drop 2).takeWhile isXDigit ≠ []) then
    (s.drop 2).takeWhile isXDigit
  else s.takeWhile (digitVal · < base)

/-- `std::stoi(s, nullptr, base)`. -/
def stoi (base : Nat) (s : Bytes) : Except StdError Int :=
  let s := s.dropWhile isSpace
  let (neg, k) := readSign s
  let digits := readInteger base (s.drop k)
  let value : Int := if neg then -(natVal base digits : Int) else natVal base digits
  -- `strtol` reads a `long`; `stoi` then checks the range of `int`.
  if digits = [] then .error .invalid_argument
  else if -2 ^ 31 ≤ value ∧ value < 2 ^ 31 then .ok value
  else .error .out_of_range

/-- `std::stoul(s)`, where `unsigned long` has 64 bits. -/
def stoul (s : Bytes) : Except StdError UInt64 :=
  let s := s.dropWhile isSpace
  let (neg, k) := readSign s
  let digits := readInteger 10 (s.drop k)
  if digits = [] then .error .invalid_argument
  else if natVal 10 digits < 2 ^ 64 then
    -- The range is checked for the digits; a minus sign then negates the unsigned number.
    let value := UInt64.ofNat (natVal 10 digits)
    .ok (if neg then -value else value)
  else .error .out_of_range

/-! ## Doubles -/

/-- The integer and fraction digits of a mantissa and its length, zero if there is no digit. -/
def readMantissa (digit : UInt8 → Bool) (s : Bytes) : Bytes × Bytes × Nat :=
  let ip := s.takeWhile digit
  match s.dropWhile digit with
  | [] => (ip, [], ip.length)
  | c :: rest =>
      let fp := rest.takeWhile digit
      -- A point needs a digit on one of its sides.
      if c = ch '.' ∧ ¬ (ip = [] ∧ fp = []) then (ip, fp, ip.length + 1 + fp.length)
      else (ip, [], ip.length)

/-- An exponent and its length; without a digit there is none. -/
def readExponent (mark : UInt8) : Bytes → Int × Nat
  | [] => (0, 0)
  | m :: rest =>
      let (neg, k) := readSign rest
      let digits := (rest.drop k).takeWhile isDigit
      if toLower m = mark ∧ digits ≠ [] then
        (if neg then -(natVal 10 digits : Int) else natVal 10 digits, 1 + k + digits.length)
      else (0, 0)

/-- An unsigned number in `base` with an exponent of `expBase`, and its length. -/
def readReal (base expBase : Nat) (digit : UInt8 → Bool) (mark : UInt8) (s : Bytes) :
    Option (ℚ × Nat) :=
  let (ip, fp, n) := readMantissa digit s
  if n = 0 then none
  else
    let (e, k) := readExponent mark (s.drop n)
    some (natVal base (ip ++ fp) / (base : ℚ) ^ fp.length * (expBase : ℚ) ^ e, n + k)

/-- The optional `(n-char-sequence)` after `nan`. -/
def readPayload : Bytes → Nat
  | [] => 0
  | c :: rest =>
      let chars := rest.takeWhile fun b =>
        isDigit b || isLower (toLower b) || b == ch '_'
      if c = ch '(' ∧ (rest.drop chars.length).head? = some (ch ')') then chars.length + 2 else 0

/-- What `strtod` reads after the sign: the value and its length. -/
def readDouble (s : Bytes) : Option (Double × Nat) :=
  if startsWithNoCase (str "infinity") s then some (.inf false, 8)
  else if startsWithNoCase (str "inf") s then some (.inf false, 3)
  else if startsWithNoCase (str "nan") s then some (.nan, 3 + readPayload (s.drop 3))
  else
    match startsWithNoCase (str "0x") s, readReal 16 2 isXDigit (ch 'p') (s.drop 2) with
    | true, some (q, n) => some (.fin q, n + 2)
    | _, _ => (readReal 10 10 isDigit (ch 'e') s).map fun (q, n) => (.fin q, n)

/-- `strtod` reports `ERANGE`: the magnitude rounds beyond the largest `double`, or below the least
normal one and is not a multiple of the least number there is. -/
def rangeError : Double → Bool
  | .fin q => (|q| < 1 / 2 ^ 1022 - 1 / 2 ^ 1076 ∧ (|q| * 2 ^ 1074).den ≠ 1) ∨
      Double.dblMax + 2 ^ 970 ≤ |q|
  | _ => false

/-- `std::stod(s, &idx)`, with the index. -/
def stodIdx [Rounding] (s : Bytes) : Except StdError (Double × Nat) :=
  let blanks := s.takeWhile isSpace
  let body := s.dropWhile isSpace
  let (neg, k) := readSign body
  match readDouble (body.drop k) with
  | none => .error .invalid_argument
  | some (v, n) =>
      if rangeError v then .error .out_of_range
      else .ok ((if neg then -v else v).round, blanks.length + k + n)

/-- `std::stod(s)`. -/
def stod [Rounding] (s : Bytes) : Except StdError Double := (stodIdx s).map Prod.fst

/-- A text is converted exactly, then rounded. -/
theorem stod_eq_round [r : Rounding] (s : Bytes) :
    @stod r s = (@stod .exact s).map (@Double.round r) := by
  unfold stod stodIdx
  simp only [Double.round_exact]
  generalize readDouble _ = read
  cases read with
  | none => rfl
  | some result =>
      obtain ⟨v, n⟩ := result
      simp only
      split
      · rfl
      · rfl

/-! ## Reading whole digit strings -/

theorem takeWhile_all {p : UInt8 → Bool} {s : Bytes} (h : ∀ b ∈ s, p b = true) :
    s.takeWhile p = s :=
  List.takeWhile_eq_self_iff.mpr h

theorem dropWhile_all {p : UInt8 → Bool} {s : Bytes} (h : ∀ b ∈ s, p b = true) :
    s.dropWhile p = [] :=
  List.dropWhile_eq_nil_iff.mpr h

theorem startsWithNoCase_eq_false {p s : Bytes} {c : UInt8} (hc : c ∈ p)
    (h : ∀ b ∈ s, toLower b ≠ c) : startsWithNoCase p s = false := by
  unfold startsWithNoCase
  rw [beq_eq_false_iff_ne]
  intro he
  rw [← he, List.mem_map] at hc
  obtain ⟨b, hb, hbc⟩ := hc
  exact h b (List.mem_of_mem_take hb) hbc

/-- No white space and no sign stands before a digit of any base. -/
theorem xdigit_plain : ∀ b : UInt8, isXDigit b = true →
    isSpace b = false ∧ b ≠ ch '-' ∧ b ≠ ch '+' ∧ toLower b ≠ ch 'x' := by
  decide +kernel

theorem dropWhile_isSpace_cons {b : UInt8} {s : Bytes} (h : isSpace b = false) :
    (b :: s).dropWhile isSpace = b :: s := by
  rw [List.dropWhile_cons, h]
  rfl

theorem readSign_cons {b : UInt8} {s : Bytes} (hm : b ≠ ch '-') (hp : b ≠ ch '+') :
    readSign (b :: s) = (false, 0) := by
  rw [readSign, if_neg hm, if_neg hp]

/-- A nonempty string of digits converts to its value. -/
theorem stoi_digits {base : Nat} (hbase : base ≤ 16) {s : Bytes} (hs : s ≠ [])
    (hd : ∀ b ∈ s, digitVal b < base) (hlt : natVal base s < 2 ^ 31) :
    stoi base s = .ok (natVal base s) := by
  have hx : ∀ b ∈ s, isXDigit b = true := fun b hb =>
    decide_eq_true (lt_of_lt_of_le (hd b hb) hbase)
  -- There is no `x` in the string, so all of it is taken.
  have hread : readInteger base s = s := by
    unfold readInteger
    rw [startsWithNoCase_eq_false (c := ch 'x') (by decide) (fun b hb => (xdigit_plain b (hx b hb)).2.2.2),
      if_neg (by simp)]
    exact takeWhile_all (fun b hb => decide_eq_true (hd b hb))
  obtain ⟨b, t, rfl⟩ := List.exists_cons_of_ne_nil hs
  have hb := xdigit_plain b (hx b (by simp))
  unfold stoi
  simp only [dropWhile_isSpace_cons hb.1, readSign_cons hb.2.1 hb.2.2.1, List.drop_zero, hread]
  rw [if_neg (by simp)]
  simp only [Bool.false_eq_true, if_false]
  rw [if_pos (by omega)]

-- The bytes of decimal numbers
def isNumeric (b : UInt8) : Bool :=
  isDigit b || b == ch '.' || b == ch '+' || b == ch '-' || toLower b == ch 'e'

theorem isNumeric_plain : ∀ b : UInt8, isNumeric b = true →
    isSpace b = false ∧ toLower b ≠ ch 'i' ∧ toLower b ≠ ch 'n' ∧ toLower b ≠ ch 'x' := by
  decide +kernel

/-- Without the letters of the other forms only the decimal one is left. -/
theorem readDouble_numeric {s : Bytes} (h : ∀ b ∈ s, isNumeric b = true) :
    readDouble s = (readReal 10 10 isDigit (ch 'e') s).map fun (q, n) => (.fin q, n) := by
  have hi : ∀ b ∈ s, toLower b ≠ ch 'i' := fun b hb => (isNumeric_plain b (h b hb)).2.1
  have hn : ∀ b ∈ s, toLower b ≠ ch 'n' := fun b hb => (isNumeric_plain b (h b hb)).2.2.1
  have hx : ∀ b ∈ s, toLower b ≠ ch 'x' := fun b hb => (isNumeric_plain b (h b hb)).2.2.2
  unfold readDouble
  rw [startsWithNoCase_eq_false (by decide) hi, startsWithNoCase_eq_false (by decide) hi,
    startsWithNoCase_eq_false (by decide) hn, startsWithNoCase_eq_false (by decide) hx]
  simp only [Bool.false_eq_true, if_false]

-- The bytes of a decimal number without sign and exponent
def isDecimal (b : UInt8) : Bool := isDigit b || b == ch '.'

theorem isDecimal_plain : ∀ b : UInt8, isDecimal b = true →
    isSpace b = false ∧ b ≠ ch '-' ∧ b ≠ ch '+' := by
  decide +kernel

theorem readDouble_decimal {s : Bytes} (h : ∀ b ∈ s, isDecimal b = true) :
    readDouble s = (readReal 10 10 isDigit (ch 'e') s).map fun (q, n) => (.fin q, n) := by
  have hnumeric : ∀ b : UInt8, isDecimal b = true → isNumeric b = true := by decide +kernel
  exact readDouble_numeric fun b hb => hnumeric b (h b hb)

/-- The rational a decimal text with integer digits `ip` and fraction digits `fp` denotes. -/
def decimalVal (ip fp : Bytes) : ℚ := natVal 10 (ip ++ fp) / 10 ^ fp.length

theorem readReal_digits {ip : Bytes} (hne : ip ≠ []) (hip : ∀ b ∈ ip, isDigit b = true) :
    readReal 10 10 isDigit (ch 'e') ip = some (decimalVal ip [], ip.length) := by
  unfold readReal readMantissa
  rw [dropWhile_all hip, takeWhile_all hip]
  simp only [List.length_eq_zero_iff, hne, if_false, List.drop_length, readExponent, zpow_zero,
    mul_one, Nat.add_zero, decimalVal, Nat.cast_ofNat]

theorem readReal_point {ip fp : Bytes} (hne : ip ≠ []) (hip : ∀ b ∈ ip, isDigit b = true)
    (hfp : ∀ b ∈ fp, isDigit b = true) :
    readReal 10 10 isDigit (ch 'e') (ip ++ ch '.' :: fp) =
      some (decimalVal ip fp, (ip ++ ch '.' :: fp).length) := by
  have htake : (ip ++ ch '.' :: fp).takeWhile isDigit = ip := by
    rw [List.takeWhile_append_of_pos hip, List.takeWhile_cons_of_neg (by decide), List.append_nil]
  have hdrop : (ip ++ ch '.' :: fp).dropWhile isDigit = ch '.' :: fp := by
    rw [List.dropWhile_append_of_pos hip, List.dropWhile_cons_of_neg (by decide)]
  have hlen : ip.length + 1 + fp.length = (ip ++ ch '.' :: fp).length := by
    simp only [List.length_append, List.length_cons]
    omega
  unfold readReal readMantissa
  rw [htake, hdrop]
  simp only [takeWhile_all hfp, hne, false_and, not_false_eq_true, and_self, if_true, hlen,
    List.drop_length, readExponent, zpow_zero, mul_one, Nat.add_zero, decimalVal, Nat.cast_ofNat]
  rw [if_neg (by rw [← hlen]; omega)]

theorem decimalVal_eq (ip fp : Bytes) :
    decimalVal ip fp = natVal 10 ip + natVal 10 fp / 10 ^ fp.length := by
  have hpow : (10 : ℚ) ^ fp.length ≠ 0 := by positivity
  rw [decimalVal, natVal_append]
  push_cast
  field_simp

theorem decimalVal_nil (ip : Bytes) : decimalVal ip [] = natVal 10 ip := by
  simp [decimalVal]

theorem decimalVal_lt {ip fp : Bytes} (hip : ∀ b ∈ ip, isDigit b = true)
    (hfp : ∀ b ∈ fp, isDigit b = true) : decimalVal ip fp < 10 ^ ip.length := by
  have hlt : natVal 10 (ip ++ fp) < 10 ^ (ip ++ fp).length := by
    apply natVal_lt
    intro b hb
    rw [← decide_eq_true_eq (p := digitVal b < 10), ← isDigit_eq_digitVal]
    exact (List.mem_append.mp hb).elim (hip b) (hfp b)
  rw [decimalVal, div_lt_iff₀ (by positivity), ← pow_add, ← List.length_append]
  exact_mod_cast hlt

theorem ten_pow_le_two_pow : (10 : ℚ) ^ 300 ≤ 2 ^ 1000 := by
  rw [show 300 = 3 * 100 by rfl, pow_mul, show 1000 = 10 * 100 by rfl, pow_mul]
  exact pow_le_pow_left₀ (by norm_num) (by norm_num) 100

theorem two_pow_le_dblMax : (2 : ℚ) ^ 1000 ≤ Double.dblMax := by
  rw [show 1000 = 29 + 971 by rfl, pow_add, Double.dblMax]
  exact mul_le_mul_of_nonneg_right (by norm_num) (by positivity)

theorem dblMax_lt_ten_pow : Double.dblMax < 10 ^ 400 := by
  have hpow : (2 : ℚ) ^ 1024 ≤ 10 ^ 400 := by
    calc (2 : ℚ) ^ 1024 ≤ 2 ^ (3 * 400) := pow_le_pow_right₀ (by norm_num) (by norm_num)
      _ = (2 ^ 3) ^ 400 := pow_mul _ _ _
      _ ≤ 10 ^ 400 := pow_le_pow_left₀ (by norm_num) (by norm_num) 400
  have hlt : Double.dblMax < 2 ^ 53 * 2 ^ 971 :=
    mul_lt_mul_of_pos_right (by norm_num) (by positivity)
  rw [← pow_add] at hlt
  exact hlt.trans_le hpow

theorem rangeError_decimalVal {ip fp : Bytes} (hlen : fp.length ≤ 300)
    (hmax : decimalVal ip fp ≤ Double.dblMax) : rangeError (.fin (decimalVal ip fp)) = false := by
  have hnonneg : 0 ≤ decimalVal ip fp := by unfold decimalVal; positivity
  simp only [rangeError, abs_of_nonneg hnonneg]
  rw [decide_eq_false_iff_not, not_or]
  have hulp : (0 : ℚ) < 2 ^ 970 := by positivity
  refine ⟨fun ⟨hsmall, hden⟩ => ?_, not_le.mpr (lt_of_le_of_lt hmax (lt_add_of_pos_right _ hulp))⟩
  -- The least nonzero value has numerator one.
  have hnat : natVal 10 (ip ++ fp) ≠ 0 := fun h0 => hden (by rw [decimalVal, h0]; simp)
  have hone : (1 : ℚ) ≤ natVal 10 (ip ++ fp) := by exact_mod_cast Nat.one_le_iff_ne_zero.mpr hnat
  have hpow : (10 : ℚ) ^ fp.length ≤ 10 ^ 300 := pow_le_pow_right₀ (by norm_num) hlen
  have hlow : 1 / (10 : ℚ) ^ 300 ≤ decimalVal ip fp := by
    rw [decimalVal]
    exact div_le_div₀ (by positivity) hone (by positivity) hpow
  have hgap : (1 : ℚ) / 2 ^ 1022 ≤ 1 / 10 ^ 300 :=
    one_div_le_one_div_of_le (by positivity)
      (ten_pow_le_two_pow.trans (pow_le_pow_right₀ (by norm_num) (by norm_num)))
  have hpos : (0 : ℚ) < 1 / 2 ^ 1076 := by positivity
  exact absurd (hsmall.trans (sub_lt_self _ hpos)) (not_lt.mpr (hgap.trans hlow))

theorem stod_of_readReal {s : Bytes} {q : ℚ} {n : Nat} (hs : ∀ b ∈ s, isDecimal b = true)
    (hread : readReal 10 10 isDigit (ch 'e') s = some (q, n))
    (hrange : rangeError (.fin q) = false) : stod s = .ok (.fin q) := by
  cases s with
  | nil => simp [readReal, readMantissa] at hread
  | cons b t =>
      have hb := isDecimal_plain b (hs b (by simp))
      unfold stod stodIdx
      simp only [dropWhile_isSpace_cons hb.1, readSign_cons hb.2.1 hb.2.2, List.drop_zero,
        readDouble_decimal hs, hread, Option.map_some, hrange, Bool.false_eq_true, if_false,
        Except.map, Double.round_exact]

theorem stod_sign {s : Bytes} {q : ℚ} {n : Nat} (neg : Bool) (hs : ∀ b ∈ s, isDecimal b = true)
    (hread : readReal 10 10 isDigit (ch 'e') s = some (q, n))
    (hrange : rangeError (.fin q) = false) :
    stod ((if neg then ch '-' else ch '+') :: s) = .ok (.fin (if neg then -q else q)) := by
  unfold stod stodIdx
  cases neg
  · rw [dropWhile_isSpace_cons (by decide)]
    simp only [Bool.false_eq_true, if_false, readSign, show ch '+' ≠ ch '-' by decide, if_true,
      List.drop_one, List.tail_cons, readDouble_decimal hs, hread, Option.map_some, hrange,
      Except.map, Double.round_exact]
  · rw [dropWhile_isSpace_cons (by decide)]
    simp only [if_true, readSign, List.drop_one, List.tail_cons, readDouble_decimal hs, hread,
      Option.map_some, hrange, Bool.false_eq_true, if_false, Except.map, Double.neg_fin,
      Double.round_exact]

theorem isDecimal_digits {s : Bytes} (h : ∀ b ∈ s, isDigit b = true) :
    ∀ b ∈ s, isDecimal b = true := fun b hb => by
  rw [isDecimal, h b hb]
  rfl

theorem isDecimal_point {ip fp : Bytes} (hip : ∀ b ∈ ip, isDigit b = true)
    (hfp : ∀ b ∈ fp, isDigit b = true) : ∀ b ∈ ip ++ ch '.' :: fp, isDecimal b = true := by
  intro b hb
  rw [List.mem_append, List.mem_cons] at hb
  rcases hb with hb | rfl | hb
  · exact isDecimal_digits hip b hb
  · rfl
  · exact isDecimal_digits hfp b hb

theorem decimalVal_le_dblMax {ip fp : Bytes} (hip : ∀ b ∈ ip, isDigit b = true)
    (hfp : ∀ b ∈ fp, isDigit b = true) (hlen : ip.length ≤ 300) :
    decimalVal ip fp ≤ Double.dblMax := by
  have hlt := decimalVal_lt hip hfp
  have hpow : (10 : ℚ) ^ ip.length ≤ 10 ^ 300 := pow_le_pow_right₀ (by norm_num) hlen
  exact hlt.le.trans (hpow.trans (ten_pow_le_two_pow.trans two_pow_le_dblMax))

/-- A digit string of ordinary length converts to its value. -/
theorem stod_digits {s : Bytes} (hne : s ≠ []) (hs : ∀ b ∈ s, isDigit b = true)
    (hlen : s.length ≤ 300) : stod s = .ok (.fin (natVal 10 s)) := by
  have hmax : decimalVal s [] ≤ Double.dblMax := decimalVal_le_dblMax hs (by simp) hlen
  rw [← decimalVal_nil]
  exact stod_of_readReal (isDecimal_digits hs) (readReal_digits hne hs)
    (rangeError_decimalVal (by simp) hmax)

theorem stod_sign_digits {s : Bytes} (neg : Bool) (hne : s ≠ [])
    (hs : ∀ b ∈ s, isDigit b = true) (hlen : s.length ≤ 300) :
    stod ((if neg then ch '-' else ch '+') :: s) =
      .ok (.fin (if neg then -(natVal 10 s : ℚ) else natVal 10 s)) := by
  have hmax : decimalVal s [] ≤ Double.dblMax := decimalVal_le_dblMax hs (by simp) hlen
  rw [← decimalVal_nil]
  exact stod_sign neg (isDecimal_digits hs) (readReal_digits hne hs)
    (rangeError_decimalVal (by simp) hmax)

/-- A decimal text below the largest `double` converts to its value. -/
theorem stod_point {ip fp : Bytes} (hne : ip ≠ []) (hip : ∀ b ∈ ip, isDigit b = true)
    (hfp : ∀ b ∈ fp, isDigit b = true) (hlen : fp.length ≤ 300)
    (hmax : decimalVal ip fp ≤ Double.dblMax) :
    stod (ip ++ ch '.' :: fp) = .ok (.fin (decimalVal ip fp)) :=
  stod_of_readReal (isDecimal_point hip hfp) (readReal_point hne hip hfp)
    (rangeError_decimalVal hlen hmax)

/-! ## Numbers below zero -/

/-- The text is a number below zero: a minus sign, behind white space, and digits that are not all
zero. -/
def isMinus (s : Bytes) : Bool :=
  let s := s.dropWhile isSpace
  s.head? == some (ch '-') && (s.tail.takeWhile isDigit).any (· != ch '0')

theorem readInteger_ten (s : Bytes) : readInteger 10 s = s.takeWhile isDigit := by
  have hdigit : (fun b => decide (digitVal b < 10)) = isDigit :=
    funext fun b => (isDigit_eq_digitVal b).symm
  unfold readInteger
  rw [if_neg (by simp), hdigit]

theorem stoi_value {s : Bytes} {n : Int} {neg : Bool} {k : Nat}
    (hsign : readSign (s.dropWhile isSpace) = (neg, k)) (h : stoi 10 s = .ok n) :
    n = if neg then -(natVal 10 (((s.dropWhile isSpace).drop k).takeWhile isDigit) : Int)
      else natVal 10 (((s.dropWhile isSpace).drop k).takeWhile isDigit) := by
  unfold stoi at h
  simp only [hsign, readInteger_ten] at h
  generalize ((s.dropWhile isSpace).drop k).takeWhile isDigit = digits at h ⊢
  generalize (if neg then -(natVal 10 digits : Int) else natVal 10 digits) = value at h ⊢
  by_cases hnil : digits = []
  · rw [if_pos hnil] at h
    cases h
  · rw [if_neg hnil] at h
    by_cases hrange : -2 ^ 31 ≤ value ∧ value < 2 ^ 31
    · rw [if_pos hrange] at h
      exact (Except.ok.inj h).symm
    · rw [if_neg hrange] at h
      cases h

theorem stoi_neg_iff {s : Bytes} {n : Int} (h : stoi 10 s = .ok n) :
    n < 0 ↔ isMinus s = true := by
  obtain ⟨neg, k, hsign⟩ : ∃ neg k, readSign (s.dropWhile isSpace) = (neg, k) := ⟨_, _, rfl⟩
  have hvalue := stoi_value hsign h
  unfold isMinus
  simp only
  generalize s.dropWhile isSpace = t at hsign hvalue ⊢
  have hpos := natVal_digits_pos (s := t.tail.takeWhile isDigit) fun b hb => List.mem_takeWhile_imp hb
  by_cases hminus : t.head? = some (ch '-')
  · have hread : readSign t = (true, 1) := by
      cases t with
      | nil => cases hminus
      | cons c t => rw [readSign, if_pos (Option.some.inj hminus)]
    rw [hread] at hsign
    cases hsign
    rw [if_pos rfl, List.drop_one] at hvalue
    rw [hminus, beq_self_eq_true, Bool.true_and, hpos]
    omega
  · have hread : (readSign t).1 = false := by
      cases t with
      | nil => rfl
      | cons c t => rw [readSign, if_neg fun hc => hminus (congrArg some hc)]
    rw [hsign] at hread
    cases hread
    rw [if_neg (by decide)] at hvalue
    rw [beq_eq_false_iff_ne.mpr hminus, Bool.false_and, Bool.false_eq_true, iff_false]
    omega

/-! ## Finite numbers -/

/-- The text spells an infinity or NaN, behind white space and a sign. -/
def spellsWord (s : Bytes) : Bool :=
  let s := s.dropWhile isSpace
  let s := s.drop (readSign s).2
  startsWithNoCase (str "inf") s || startsWithNoCase (str "nan") s

theorem startsWithNoCase_append {p q s : Bytes} (h : startsWithNoCase (p ++ q) s = true) :
    startsWithNoCase p s = true := by
  rw [startsWithNoCase, beq_iff_eq] at h ⊢
  have htake := congrArg (List.take p.length) h
  rw [List.take_left, ← List.map_take, List.take_take, List.length_append,
    Nat.min_eq_left (by omega)] at htake
  exact htake

theorem readDouble_isFinite {s : Bytes} {x : Double} {n : Nat} (h : readDouble s = some (x, n)) :
    x.isFinite = !(startsWithNoCase (str "inf") s || startsWithNoCase (str "nan") s) := by
  unfold readDouble at h
  split at h
  next hword =>
    have hinf : startsWithNoCase (str "inf") s = true :=
      startsWithNoCase_append (q := str "inity") hword
    cases h
    rw [hinf]
    rfl
  next =>
    split at h
    next hinf =>
      cases h
      rw [hinf]
      rfl
    next hinf =>
      rw [Bool.not_eq_true] at hinf
      split at h
      next hnan =>
        cases h
        rw [hnan, Bool.or_true]
        rfl
      next hnan =>
        rw [Bool.not_eq_true] at hnan
        rw [hinf, hnan]
        split at h
        next => cases h; rfl
        next =>
          obtain ⟨⟨q, k⟩, hreal, heq⟩ := Option.map_eq_some_iff.mp h
          cases heq
          rfl

/-- Whether `stod` returns a finite number can be seen from the first letters. -/
theorem stod_isFinite {s : Bytes} {x : Double} (h : stod s = .ok x) :
    x.isFinite = !spellsWord s := by
  unfold stod stodIdx at h
  simp only [Double.round_exact] at h
  split at h
  next => cases h
  next v n hread =>
    have hfinite := readDouble_isFinite hread
    split at h
    next => cases h
    next =>
      cases h
      simp only
      split
      · rw [Double.isFinite_neg]
        exact hfinite
      · exact hfinite

/-- What rounds to an infinity is an error. -/
theorem stod_abs_lt {s : Bytes} {q : ℚ} (h : stod s = .ok (.fin q)) :
    |q| < Double.dblMax + 2 ^ 970 := by
  have hrange : ∀ p, rangeError (.fin p) = false → |p| < Double.dblMax + 2 ^ 970 := by
    intro p hp
    simp only [rangeError, decide_eq_false_iff_not, not_or, not_le] at hp
    exact hp.2
  unfold stod stodIdx at h
  simp only [Double.round_exact] at h
  split at h
  next => cases h
  next v n hread =>
    split at h
    next => cases h
    next herror =>
      rw [Bool.not_eq_true] at herror
      rw [Except.map, Except.ok.injEq] at h
      cases v with
      | fin p =>
          split at h
          next =>
            cases h
            rw [abs_neg]
            exact hrange _ herror
          next =>
            cases h
            exact hrange _ herror
      | inf neg => split at h <;> cases h
      | nan => split at h <;> cases h

theorem stod_abs_le {s : Bytes} {q : ℚ} (h : stod s = .ok (.fin q)) : |q| ≤ 2 * Double.dblMax := by
  have hulp : (2 : ℚ) ^ 970 ≤ Double.dblMax :=
    (pow_le_pow_right₀ (by norm_num) (by norm_num)).trans two_pow_le_dblMax
  linarith [stod_abs_lt h]

theorem stod_decimal {s : Bytes} {x : Double} (hs : ∀ b ∈ s, isDecimal b = true)
    (h : stod s = .ok x) : ∃ q, x = .fin q ∧ 0 ≤ q := by
  have hblank : s.dropWhile isSpace = s := by
    cases s with
    | nil => rfl
    | cons b t => exact dropWhile_isSpace_cons (isDecimal_plain b (hs b List.mem_cons_self)).1
  have hsign : readSign s = (false, 0) := by
    cases s with
    | nil => rfl
    | cons b t =>
        have hb := isDecimal_plain b (hs b List.mem_cons_self)
        exact readSign_cons hb.2.1 hb.2.2
  unfold stod stodIdx at h
  simp only [hblank, hsign, List.drop_zero, readDouble_decimal hs, Double.round_exact] at h
  split at h
  next => cases h
  next v n hread =>
    obtain ⟨⟨q, k⟩, hreal, heq⟩ := Option.map_eq_some_iff.mp hread
    cases heq
    split at h
    next => cases h
    next =>
      cases h
      refine ⟨q, rfl, ?_⟩
      unfold readReal at hreal
      simp only at hreal
      split at hreal
      next => cases hreal
      next =>
        cases hreal
        positivity

/-! ## Conversions stay within their text -/

theorem length_le_of_startsWithNoCase {p s : Bytes} (h : startsWithNoCase p s = true) :
    p.length ≤ s.length := by
  have hlen := congrArg List.length (beq_iff_eq.mp h)
  rw [List.length_map, List.length_take] at hlen
  omega

theorem readSign_le (s : Bytes) : (readSign s).2 ≤ s.length := by
  cases s with
  | nil => exact le_refl 0
  | cons b s =>
      rw [readSign, List.length_cons]
      split
      · exact Nat.le_add_left 1 _
      · split <;> omega

theorem readMantissa_le (digit : UInt8 → Bool) (s : Bytes) :
    (readMantissa digit s).2.2 ≤ s.length := by
  have hcut := congrArg List.length (List.takeWhile_append_dropWhile (p := digit) (l := s))
  rw [List.length_append] at hcut
  unfold readMantissa
  simp only
  split
  next =>
    simp only
    omega
  next c rest hrest =>
    have hfp := (List.takeWhile_prefix (p := digit) (l := rest)).length_le
    rw [hrest, List.length_cons] at hcut
    split <;> simp only <;> omega

theorem readExponent_le (mark : UInt8) (s : Bytes) : (readExponent mark s).2 ≤ s.length := by
  cases s with
  | nil => exact le_refl 0
  | cons m s =>
      have hsign := readSign_le s
      have hdigits :=
        (List.takeWhile_prefix (p := isDigit) (l := s.drop (readSign s).2)).length_le
      rw [List.length_drop] at hdigits
      rw [readExponent, List.length_cons]
      simp only
      split <;> simp only <;> omega

theorem readReal_le {base expBase : Nat} {digit : UInt8 → Bool} {mark : UInt8} {s : Bytes} {q : ℚ}
    {n : Nat} (h : readReal base expBase digit mark s = some (q, n)) : n ≤ s.length := by
  obtain ⟨ip, fp, m, hm⟩ : ∃ ip fp m, readMantissa digit s = (ip, fp, m) := ⟨_, _, _, rfl⟩
  obtain ⟨e, k, hk⟩ : ∃ e k, readExponent mark (s.drop m) = (e, k) := ⟨_, _, rfl⟩
  have hmantissa := readMantissa_le digit s
  have hexponent := readExponent_le mark (s.drop m)
  rw [hm] at hmantissa
  rw [hk, List.length_drop] at hexponent
  unfold readReal at h
  rw [hm] at h
  simp only [hk] at h
  split at h
  · cases h
  · cases h
    simp only at hmantissa hexponent
    omega

theorem readPayload_le (s : Bytes) : readPayload s ≤ s.length := by
  cases s with
  | nil => exact le_refl 0
  | cons c s =>
      rw [readPayload, List.length_cons]
      split
      next hclosed =>
        -- The closing bracket stands behind the characters.
        by_contra hlong
        rw [List.drop_of_length_le (by omega)] at hclosed
        exact absurd hclosed.2 (by simp)
      next => exact Nat.zero_le _

theorem readDouble_le {s : Bytes} {x : Double} {n : Nat} (h : readDouble s = some (x, n)) :
    n ≤ s.length := by
  unfold readDouble at h
  split at h
  next hword =>
    cases h
    exact length_le_of_startsWithNoCase hword
  next =>
    split at h
    next hword =>
      cases h
      exact length_le_of_startsWithNoCase hword
    next =>
      split at h
      next hword =>
        cases h
        have hthree : 3 ≤ s.length := length_le_of_startsWithNoCase hword
        have hpayload := readPayload_le (s.drop 3)
        rw [List.length_drop] at hpayload
        omega
      next =>
        split at h
        next q k hword hhex =>
          cases h
          have htwo : 2 ≤ s.length := length_le_of_startsWithNoCase hword
          have hk := readReal_le hhex
          rw [List.length_drop] at hk
          omega
        next =>
          obtain ⟨⟨q, k⟩, hreal, heq⟩ := Option.map_eq_some_iff.mp h
          cases heq
          exact readReal_le hreal

theorem stodIdx_le {s : Bytes} {x : Double} {n : Nat} (h : stodIdx s = .ok (x, n)) :
    n ≤ s.length := by
  have hcut := congrArg List.length (List.takeWhile_append_dropWhile (p := isSpace) (l := s))
  have hsign := readSign_le (s.dropWhile isSpace)
  rw [List.length_append] at hcut
  unfold stodIdx at h
  simp only at h
  split at h
  · cases h
  · rename_i v k hread
    have hk := readDouble_le hread
    rw [List.length_drop] at hk
    split at h
    · cases h
    · cases h
      omega

end Cxx
