import VirtualFlightRadar.Cxx.Number

/-!
# Decimal numbers as texts

The decimal numbers of the grammar of `strtod` as a type of their own: sign, digits around a point,
exponent.  `stodIdx` reads such a text up to its end.  The other way round, a text that it reads up to
its end is a decimal number unless it starts with white space or is hexadecimal, infinite or NaN, and
the bytes of the text tell these apart.
-/

namespace Cxx

def IsSign (s : Bytes) : Prop := s = [] ∨ s = str "+" ∨ s = str "-"

structure Decimal where
  sign : Bytes
  ip : Bytes
  fp : Bytes
  dot : Bool
  mark : UInt8
  expSign : Bytes
  -- no digits for no exponent
  expDigits : Bytes
  sign_form : IsSign sign
  ip_digits : ∀ b ∈ ip, isDigit b = true
  fp_digits : ∀ b ∈ fp, isDigit b = true
  some_digit : ip ++ fp ≠ []
  fp_nil : dot = false → fp = []
  mark_eq : toLower mark = ch 'e'
  expSign_form : IsSign expSign
  exp_digits : ∀ b ∈ expDigits, isDigit b = true

namespace Decimal

def mantissa (d : Decimal) : Bytes := d.ip ++ (if d.dot then ch '.' :: d.fp else [])

def exponent (d : Decimal) : Bytes :=
  if d.expDigits = [] then [] else d.mark :: (d.expSign ++ d.expDigits)

def text (d : Decimal) : Bytes := d.sign ++ (d.mantissa ++ d.exponent)

def exp (d : Decimal) : Int :=
  if d.expSign = str "-" then -(natVal 10 d.expDigits : Int) else natVal 10 d.expDigits

def magnitude (d : Decimal) : ℚ := natVal 10 (d.ip ++ d.fp) / 10 ^ d.fp.length * 10 ^ d.exp

def value (d : Decimal) : ℚ := if d.sign = str "-" then -d.magnitude else d.magnitude

end Decimal

/-- The whole text is a decimal number. -/
def DecimalText (s : Bytes) : Prop := ∃ d : Decimal, d.text = s

theorem isNumeric_of_isDigit : ∀ b : UInt8, isDigit b = true → isNumeric b = true := by
  decide +kernel

theorem isNumeric_of_mark : ∀ b : UInt8, toLower b = ch 'e' →
    isNumeric b = true ∧ isDigit b = false ∧ b ≠ ch '.' := by
  decide +kernel

theorem isDigit_unsigned : ∀ b : UInt8, isDigit b = true → b ≠ ch '-' ∧ b ≠ ch '+' := by
  decide +kernel

theorem IsSign.numeric {s : Bytes} (h : IsSign s) : ∀ b ∈ s, isNumeric b = true := by
  rcases h with rfl | rfl | rfl <;> decide

theorem takeWhile_isSpace_numeric {s : Bytes} (h : ∀ b ∈ s, isNumeric b = true) :
    s.takeWhile isSpace = [] := by
  cases s with
  | nil => rfl
  | cons b s =>
      have hb := (isNumeric_plain b (h b List.mem_cons_self)).1
      exact List.takeWhile_cons_of_neg (by rw [hb]; decide)

theorem dropWhile_isSpace_numeric {s : Bytes} (h : ∀ b ∈ s, isNumeric b = true) :
    s.dropWhile isSpace = s := by
  have hcut := List.takeWhile_append_dropWhile (p := isSpace) (l := s)
  rw [takeWhile_isSpace_numeric h] at hcut
  exact hcut

theorem readSign_append {sign t : Bytes} (hsign : IsSign sign)
    (ht : ∀ b ∈ t.head?, b ≠ ch '-' ∧ b ≠ ch '+') :
    readSign (sign ++ t) = (decide (sign = str "-"), sign.length) := by
  rcases hsign with rfl | rfl | rfl
  · cases t with
    | nil => rfl
    | cons b t =>
        have hb := ht b rfl
        exact readSign_cons hb.1 hb.2
  · rfl
  · rfl

theorem exists_sign (s : Bytes) : ∃ sign, IsSign sign ∧ s = sign ++ s.drop (readSign s).2 ∧
    readSign s = (decide (sign = str "-"), sign.length) := by
  cases s with
  | nil => exact ⟨[], .inl rfl, rfl, rfl⟩
  | cons b s =>
      by_cases hm : b = ch '-'
      · subst hm
        exact ⟨str "-", .inr (.inr rfl), rfl, rfl⟩
      · by_cases hp : b = ch '+'
        · subst hp
          exact ⟨str "+", .inr (.inl rfl), rfl, rfl⟩
        · rw [readSign_cons hm hp]
          exact ⟨[], .inl rfl, rfl, rfl⟩

namespace Decimal

variable (d : Decimal)

theorem numeric : ∀ b ∈ d.mantissa ++ d.exponent, isNumeric b = true := by
  have hip : ∀ b ∈ d.ip, isNumeric b = true := fun b hb => isNumeric_of_isDigit b (d.ip_digits b hb)
  have hfp : ∀ b ∈ d.fp, isNumeric b = true := fun b hb => isNumeric_of_isDigit b (d.fp_digits b hb)
  have hexp : ∀ b ∈ d.expDigits, isNumeric b = true :=
    fun b hb => isNumeric_of_isDigit b (d.exp_digits b hb)
  have hmark := (isNumeric_of_mark d.mark d.mark_eq).1
  unfold mantissa exponent
  rw [List.forall_mem_append, List.forall_mem_append]
  refine ⟨⟨hip, ?_⟩, ?_⟩
  · split
    · exact List.forall_mem_cons.mpr ⟨by decide, hfp⟩
    · simp
  · split
    · simp
    · rw [List.forall_mem_cons, List.forall_mem_append]
      exact ⟨hmark, d.expSign_form.numeric, hexp⟩

theorem text_numeric : ∀ b ∈ d.text, isNumeric b = true :=
  List.forall_mem_append.mpr ⟨d.sign_form.numeric, d.numeric⟩

-- A mantissa starts with a digit or the point.
theorem head?_unsigned : ∀ b ∈ (d.mantissa ++ d.exponent).head?, b ≠ ch '-' ∧ b ≠ ch '+' := by
  intro b hb
  unfold mantissa at hb
  cases hip : d.ip with
  | cons c ip =>
      rw [hip] at hb
      cases hb
      exact isDigit_unsigned _ (d.ip_digits _ (by rw [hip]; exact List.mem_cons_self))
  | nil =>
      have hdot : d.dot = true := by
        by_contra hdot
        apply d.some_digit
        rw [hip, d.fp_nil (Bool.not_eq_true _ ▸ hdot)]
        rfl
      rw [hip, hdot] at hb
      cases hb
      decide

theorem readMantissa_append {t : Bytes} (ht : ∀ b ∈ t.head?, isDigit b = false ∧ b ≠ ch '.') :
    readMantissa isDigit (d.mantissa ++ t) = (d.ip, d.fp, d.mantissa.length) := by
  have htake : t.takeWhile isDigit = [] := by
    cases t with
    | nil => rfl
    | cons b t => exact List.takeWhile_cons_of_neg (by rw [(ht b rfl).1]; decide)
  have hdrop : t.dropWhile isDigit = t := by
    cases t with
    | nil => rfl
    | cons b t => exact List.dropWhile_cons_of_neg (by rw [(ht b rfl).1]; decide)
  unfold mantissa readMantissa
  cases hdot : d.dot with
  | false =>
      have hfp := d.fp_nil hdot
      simp only [Bool.false_eq_true, if_false, List.append_nil]
      rw [List.takeWhile_append_of_pos d.ip_digits, List.dropWhile_append_of_pos d.ip_digits, htake,
        hdrop, List.append_nil, hfp]
      cases t with
      | nil => rfl
      | cons b t => simp only [(ht b rfl).2, false_and, if_false]
  | true =>
      have hdigit : ¬ (d.ip = [] ∧ d.fp = []) := by
        rintro ⟨hip, hfp⟩
        exact d.some_digit (by rw [hip, hfp]; rfl)
      have hlen : d.ip.length + 1 + d.fp.length = (d.ip ++ ch '.' :: d.fp).length := by
        rw [List.length_append, List.length_cons]
        omega
      simp only [if_true, List.append_assoc, List.cons_append]
      rw [List.takeWhile_append_of_pos d.ip_digits, List.dropWhile_append_of_pos d.ip_digits,
        List.takeWhile_cons_of_neg (by decide), List.dropWhile_cons_of_neg (by decide),
        List.append_nil]
      simp only [List.takeWhile_append_of_pos d.fp_digits, htake, List.append_nil, hdigit,
        not_false_eq_true, and_self, if_true, hlen]

theorem readExponent_exponent : readExponent (ch 'e') d.exponent =
    (if d.expDigits = [] then 0 else d.exp, d.exponent.length) := by
  unfold exponent
  by_cases hexp : d.expDigits = []
  · rw [if_pos hexp, if_pos hexp]
    rfl
  · have hhead : ∀ b ∈ d.expDigits.head?, b ≠ ch '-' ∧ b ≠ ch '+' := by
      intro b hb
      exact isDigit_unsigned b (d.exp_digits b (List.mem_of_mem_head? hb))
    rw [if_neg hexp, if_neg hexp, readExponent]
    simp only [readSign_append d.expSign_form hhead, List.drop_left, takeWhile_all d.exp_digits,
      d.mark_eq, ne_eq, hexp, not_false_eq_true, and_self, if_true, decide_eq_true_eq, exp,
      List.length_cons, List.length_append]
    rw [show 1 + d.expSign.length + d.expDigits.length =
      d.expSign.length + d.expDigits.length + 1 by omega]

theorem exp_eq_zero (h : d.expDigits = []) : d.exp = 0 := by
  rw [exp, h]
  simp [natVal_nil]

theorem head?_exponent : ∀ b ∈ d.exponent.head?, isDigit b = false ∧ b ≠ ch '.' := by
  intro b hb
  unfold exponent at hb
  split at hb
  · cases hb
  · cases hb
    exact (isNumeric_of_mark d.mark d.mark_eq).2

theorem mantissa_ne_nil : d.mantissa ≠ [] := by
  intro hnil
  rw [mantissa, List.append_eq_nil_iff] at hnil
  cases hdot : d.dot with
  | false =>
      apply d.some_digit
      rw [hnil.1, d.fp_nil hdot]
      rfl
  | true =>
      rw [hdot] at hnil
      cases hnil.2

theorem readReal_text : readReal 10 10 isDigit (ch 'e') (d.mantissa ++ d.exponent) =
    some (d.magnitude, (d.mantissa ++ d.exponent).length) := by
  have hne : d.mantissa.length ≠ 0 := fun h => d.mantissa_ne_nil (List.length_eq_zero_iff.mp h)
  have hexp : (if d.expDigits = [] then 0 else d.exp) = d.exp := by
    split
    · rw [d.exp_eq_zero ‹_›]
    · rfl
  unfold readReal
  simp only [d.readMantissa_append d.head?_exponent, hne, if_false, List.drop_left,
    d.readExponent_exponent, hexp, List.length_append, magnitude, Nat.cast_ofNat]

theorem readDouble_text : readDouble (d.mantissa ++ d.exponent) =
    some (.fin d.magnitude, (d.mantissa ++ d.exponent).length) := by
  rw [readDouble_numeric d.numeric, d.readReal_text]
  rfl

/-- A decimal number is read up to its end. -/
theorem stodIdx_text : stodIdx d.text =
    if rangeError (.fin d.magnitude) then .error .out_of_range
    else .ok (.fin d.value, d.text.length) := by
  have htake : d.text.takeWhile isSpace = [] := takeWhile_isSpace_numeric d.text_numeric
  have hdrop : d.text.dropWhile isSpace = d.text := dropWhile_isSpace_numeric d.text_numeric
  have hsign : readSign d.text = (decide (d.sign = str "-"), d.sign.length) :=
    readSign_append d.sign_form d.head?_unsigned
  have hrest : d.text.drop d.sign.length = d.mantissa ++ d.exponent := List.drop_left
  unfold stodIdx
  simp only [htake, hdrop, hsign, hrest, d.readDouble_text]
  split
  · rfl
  · simp only [decide_eq_true_eq, List.length_nil, Nat.zero_add, text, List.length_append, value]
    split
    · rfl
    · rfl

end Decimal

/-! ## What is read is a number -/

theorem readMantissa_cut {s ip fp : Bytes} {n : Nat} (h : readMantissa isDigit s = (ip, fp, n)) :
    (∀ b ∈ ip, isDigit b = true) ∧ (∀ b ∈ fp, isDigit b = true) ∧
      ∃ dot rest, (dot = false → fp = []) ∧ (n ≠ 0 → ip ++ fp ≠ []) ∧
        s = (ip ++ (if dot then ch '.' :: fp else [])) ++ rest ∧
        n = (ip ++ (if dot then ch '.' :: fp else [])).length := by
  have hcut := List.takeWhile_append_dropWhile (p := isDigit) (l := s)
  have hdigits : ∀ (t : Bytes), ∀ b ∈ t.takeWhile isDigit, isDigit b = true :=
    fun t b hb => List.mem_takeWhile_imp hb
  unfold readMantissa at h
  split at h
  next hrest =>
    cases h
    rw [hrest] at hcut
    refine ⟨hdigits s, by simp, false, [], fun _ => rfl, ?_, ?_, ?_⟩
    · simp
    · simpa using hcut.symm
    · simp
  next c rest hrest =>
    simp only at h
    rw [hrest] at hcut
    split at h
    next hpoint =>
      cases h
      refine ⟨hdigits s, hdigits rest, true, rest.dropWhile isDigit, by simp, fun _ hnil => ?_,
        ?_, ?_⟩
      · exact hpoint.2 (List.append_eq_nil_iff.mp hnil)
      · rw [if_pos rfl, List.append_assoc, List.cons_append, List.takeWhile_append_dropWhile,
          ← hpoint.1, hcut]
      · simp only [if_true, List.length_append, List.length_cons]
        omega
    next =>
      cases h
      refine ⟨hdigits s, by simp, false, c :: rest, fun _ => rfl, ?_, ?_, ?_⟩
      · simp
      · simpa using hcut.symm
      · simp

theorem readExponent_cut (s : Bytes) : ∃ mark sign digits rest, toLower mark = ch 'e' ∧
    IsSign sign ∧ (∀ b ∈ digits, isDigit b = true) ∧
      s = (if digits = [] then [] else mark :: (sign ++ digits)) ++ rest ∧
      (readExponent (ch 'e') s).2 = (if digits = [] then [] else mark :: (sign ++ digits)).length := by
  have hnone : ∃ mark sign digits rest, toLower mark = ch 'e' ∧
      IsSign sign ∧ (∀ b ∈ digits, isDigit b = true) ∧
      s = (if digits = [] then [] else mark :: (sign ++ digits)) ++ rest ∧
      0 = (if digits = [] then [] else mark :: (sign ++ digits)).length :=
    ⟨ch 'e', [], [], s, by decide, .inl rfl, by simp, by simp, by simp⟩
  cases s with
  | nil => exact hnone
  | cons m s =>
      rw [readExponent]
      simp only
      split
      next hexp =>
        obtain ⟨sign, hsign, hcut, hread⟩ := exists_sign s
        rw [hread] at hexp hcut ⊢
        refine ⟨m, sign, (s.drop sign.length).takeWhile isDigit,
          (s.drop sign.length).dropWhile isDigit, hexp.1, hsign,
          fun b hb => List.mem_takeWhile_imp hb, ?_, ?_⟩
        · rw [if_neg hexp.2, List.cons_append, List.append_assoc, List.takeWhile_append_dropWhile,
            ← hcut]
        · change 1 + sign.length + ((s.drop sign.length).takeWhile isDigit).length = _
          rw [if_neg hexp.2, List.length_cons, List.length_append]
          omega
      next => exact hnone

theorem decimalText_of_readReal {sign body : Bytes} {q : ℚ} {n : Nat} (hsign : IsSign sign)
    (h : readReal 10 10 isDigit (ch 'e') body = some (q, n)) (hn : n = body.length) :
    DecimalText (sign ++ body) := by
  unfold readReal at h
  obtain ⟨ip, fp, m, hm⟩ : ∃ ip fp m, readMantissa isDigit body = (ip, fp, m) := ⟨_, _, _, rfl⟩
  obtain ⟨hip, hfp, dot, rest, hdot, hdigit, hbody, hlen⟩ := readMantissa_cut hm
  rw [hm] at h
  simp only at h
  split at h
  next => cases h
  next hne =>
    have hdrop : body.drop m = rest := by
      rw [hbody, hlen]
      exact List.drop_left
    rw [hdrop] at h
    obtain ⟨mark, expSign, expDigits, rest', hmark, hexpSign, hexp, hrest, hlen'⟩ :=
      readExponent_cut rest
    rw [Option.some.injEq, Prod.mk.injEq] at h
    -- Both parts together are as long as the text, so nothing is left.
    have hend : rest' = [] := by
      have htotal := congrArg List.length hbody
      have htail := congrArg List.length hrest
      rw [List.length_append] at htotal htail
      apply List.length_eq_zero_iff.mp
      omega
    refine ⟨⟨sign, ip, fp, dot, mark, expSign, expDigits, hsign, hip, hfp, hdigit hne, hdot, hmark,
      hexpSign, hexp⟩, ?_⟩
    rw [Decimal.text, Decimal.mantissa, Decimal.exponent, hbody, hrest, hend, List.append_nil]

/-- A text that is read up to its end and has no byte of the other forms is a decimal number. -/
theorem decimalText_of_stodIdx {s : Bytes} {x : Double} (hs : ∀ b ∈ s, isNumeric b = true)
    (h : stodIdx s = .ok (x, s.length)) : DecimalText s := by
  obtain ⟨sign, hsign, hcut, hread⟩ := exists_sign s
  rw [hread] at hcut
  have hbody : ∀ b ∈ s.drop sign.length, isNumeric b = true :=
    fun b hb => hs b (List.mem_of_mem_drop hb)
  unfold stodIdx at h
  simp only [takeWhile_isSpace_numeric hs, dropWhile_isSpace_numeric hs, hread,
    readDouble_numeric hbody] at h
  generalize s.drop sign.length = body at hcut h
  subst hcut
  split at h
  next => cases h
  next y n hy =>
    split at h
    · cases h
    · obtain ⟨⟨q, m⟩, hreal, hqm⟩ := Option.map_eq_some_iff.mp hy
      cases hqm
      rw [Except.ok.injEq, Prod.mk.injEq, List.length_nil, Nat.zero_add, List.length_append] at h
      exact decimalText_of_readReal hsign hreal (Nat.add_left_cancel h.2)

end Cxx
