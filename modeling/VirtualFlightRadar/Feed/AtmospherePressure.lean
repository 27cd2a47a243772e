import VirtualFlightRadar.Cxx.Decimal
import VirtualFlightRadar.Feed.SensorParser
import Mathlib.Data.List.DropRight

/-!
# The pressure of an atmosphere sentence

A sentence gives the pressure in bars in the field before a field `B`.  The parser does not look at
fields: it takes the first letter `B` of the line, skips the byte in front of it, and reads what stands
there from behind the last comma.
-/

open Cxx

namespace VirtualFlightRadar

namespace AtmosphereParser

/-! ## The fields of a sentence -/

/-- The fields before the `*`. -/
def fields (s : Bytes) : List Bytes := (s.takeWhile (· != ch '*')).splitOn (ch ',')

/-- Field `n` is a decimal number and `B` follows it. -/
def PressureAt (s : Bytes) (n : Nat) (d : Decimal) : Prop :=
  (fields s)[n]? = some d.text ∧ (fields s)[n + 1]? = some (str "B")

/-- The pressure in the sense of the sentence format. -/
def FirstPressure (s : Bytes) (d : Decimal) : Prop :=
  ∃ n, PressureAt s n d ∧ ∀ m < n, ∀ e, ¬ PressureAt s m e

/-- The pressure is extracted exactly. -/
structure Exact (s : Bytes) (atmosphere : Atmosphere) : Prop where
  accepted_iff : (unpack s atmosphere).1 = true ↔ ∃ d, FirstPressure s d
  pressure : ∀ d, FirstPressure s d →
    (unpack s atmosphere).2.m_pressure = .fin (1000 * d.value)
  unchanged : (¬ ∃ d, FirstPressure s d) → (unpack s atmosphere).2 = atmosphere

/-! ## What is read -/

-- The text behind the last comma
def lastField (s : Bytes) : Bytes := s.rtakeWhile (· != ch ',')

/-- The text in front of the first letter `B`, without the byte directly before it, from behind the
last comma.  There is none if the line has no `B` or starts with it. -/
def textInFront (s : Bytes) : Option Bytes :=
  let front := s.takeWhile (· != ch 'B')
  if ch 'B' ∈ s ∧ front ≠ [] then some (lastField front.dropLast) else none

/-- `stod` reads the text up to its end. -/
def ReadAs (text : Bytes) (x : Double) : Prop := stodIdx text = .ok (x, text.length)

theorem lastField_append {a b : Bytes} (h : ch ',' ∉ b) : lastField (a ++ ch ',' :: b) = b := by
  have hall : ∀ c ∈ b.reverse, (c != ch ',') = true := fun c hc =>
    bne_iff_ne.mpr fun he => h (he ▸ List.mem_reverse.mp hc)
  rw [lastField, List.rtakeWhile, List.reverse_append, List.reverse_cons, List.append_assoc,
    List.takeWhile_append_of_pos hall, List.singleton_append, List.takeWhile_cons_of_neg (by decide),
    List.append_nil, List.reverse_reverse]

theorem lastField_eq_self {s : Bytes} (h : ch ',' ∉ s) : lastField s = s := by
  rw [lastField, List.rtakeWhile_eq_self_iff]
  intro c hc
  exact bne_iff_ne.mpr fun he => h (he ▸ hc)

/-- What `find_last_of(',') + 1` cuts off. -/
theorem drop_rfind (s : Bytes) : ∃ k, k ≤ s.length ∧ s.drop k = lastField s ∧
    (rfind (ch ',') s = none ∧ k = 0 ∨ ∃ i, rfind (ch ',') s = some i ∧ k = i + 1) := by
  by_cases hmem : ch ',' ∈ s
  · obtain ⟨b, a, heq, hb⟩ := List.eq_append_cons_of_mem (List.mem_reverse.mpr hmem)
    have hs : s = a.reverse ++ ch ',' :: b.reverse := by
      rw [← List.reverse_reverse s, heq]
      simp
    have hb' : ch ',' ∉ b.reverse := fun h => hb (List.mem_reverse.mp h)
    refine ⟨a.reverse.length + 1, ?_, ?_, ?_⟩
    · rw [hs, List.length_append, List.length_cons]
      omega
    · rw [hs, lastField_append hb', ← List.singleton_append, ← List.append_assoc]
      exact List.drop_left' (by simp)
    · exact .inr ⟨a.reverse.length, by rw [hs, rfind_append_cons _ hb'], rfl⟩
  · exact ⟨0, Nat.zero_le _, (lastField_eq_self hmem).symm, .inl ⟨rfind_eq_none hmem, rfl⟩⟩

theorem find_first (c : UInt8) (s : Bytes) :
    find c s 0 = if c ∈ s then some (s.takeWhile (· != c)).length else none := by
  unfold find
  rw [List.drop_zero]
  split
  next hmem =>
    obtain ⟨a, b, rfl, ha⟩ := List.eq_append_cons_of_mem hmem
    have hall : ∀ x ∈ a, (x != c) = true := fun x hx => bne_iff_ne.mpr fun he => ha (he ▸ hx)
    have hnone : a.findIdx? (· == c) = none := by
      rw [List.findIdx?_eq_none_iff]
      exact fun x hx => beq_eq_false_iff_ne.mpr fun he => ha (he ▸ hx)
    rw [List.takeWhile_append_of_pos hall, List.takeWhile_cons_of_neg (by simp), List.append_nil,
      List.findIdx?_append, hnone, List.findIdx?_cons, beq_self_eq_true]
    simp
  next hmem =>
    have hnone : s.findIdx? (· == c) = none := by
      rw [List.findIdx?_eq_none_iff]
      exact fun x hx => beq_eq_false_iff_ne.mpr fun he => hmem (he ▸ hx)
    rw [hnone]
    rfl

theorem sizeSub_of_le {a b : Nat} (hb : b ≤ a) (ha : a < 2 ^ 64) : sizeSub a b = a - b := by
  unfold sizeSub
  omega

/-- The text that is converted and the length that is expected of it, when the `B` stands at
`tmpB + 1` or, by wrap-around, far behind the line. -/
theorem pressureField_eq {s : Bytes} {tmpB : Nat} (hlt : tmpB < 2 ^ 64)
    (hB : sizeSub ((find (ch 'B') s 0).getD (2 ^ 64 - 1)) 1 = tmpB) :
    ∃ k, k ≤ (s.take tmpB).length ∧ (s.take tmpB).drop k = lastField (s.take tmpB) ∧
      pressureField s = .ok (lastField (s.take tmpB), tmpB - k) := by
  obtain ⟨k, hk, hdrop, hrfind⟩ := drop_rfind (s.take tmpB)
  refine ⟨k, hk, hdrop, ?_⟩
  rw [List.length_take] at hk
  obtain ⟨hkB, hks⟩ := le_min_iff.mp hk
  have hsub : sizeSub tmpB k = tmpB - k := sizeSub_of_le hkB hlt
  have hcut : substr s k (tmpB - k) = .ok (lastField (s.take tmpB)) := by
    rw [substr, if_pos hks, ← List.drop_take, hdrop]
  unfold pressureField
  rcases hrfind with ⟨hnone, rfl⟩ | ⟨i, hsome, rfl⟩
  · simp only [hB, hnone, hsub, hcut]
    rfl
  · simp only [hB, hsome, hsub, hcut]
    rfl

theorem take_of_prefix {a s : Bytes} (h : a <+: s) : s.take (a.length - 1) = a.dropLast := by
  obtain ⟨rest, rfl⟩ := h
  rw [List.take_append_of_le_length (Nat.sub_le _ 1), List.dropLast_eq_take]

theorem pressureField_of_text {s text : Bytes} (hlen : s.length < 2 ^ 63)
    (h : textInFront s = some text) : pressureField s = .ok (text, text.length) := by
  unfold textInFront at h
  simp only at h
  split at h
  next hB =>
    obtain ⟨hmem, hne⟩ := hB
    have hcut := List.takeWhile_prefix (p := (· != ch 'B')) (l := s)
    have hle := hcut.length_le
    have hpos := List.length_pos_iff.mpr hne
    have hfront := take_of_prefix hcut
    have hpos' : sizeSub ((find (ch 'B') s 0).getD (2 ^ 64 - 1)) 1 =
        (s.takeWhile (· != ch 'B')).length - 1 := by
      rw [find_first, if_pos hmem, Option.getD_some]
      exact sizeSub_of_le hpos (by omega)
    obtain ⟨k, hk, hdrop, hfield⟩ := pressureField_eq (by omega) hpos'
    rw [hfront] at hk hdrop hfield
    cases h
    rw [hfield, ← hdrop, List.length_drop, List.length_dropLast]
  next => cases h

/-- Without a `B` that something stands in front of, the expected length wraps around. -/
theorem pressureField_of_none {s : Bytes} (hlen : s.length < 2 ^ 63) (h : textInFront s = none) :
    ∃ text n, pressureField s = .ok (text, n) ∧ text.length < n := by
  have hwrap : ∃ tmpB, sizeSub ((find (ch 'B') s 0).getD (2 ^ 64 - 1)) 1 = tmpB ∧
      2 ^ 64 - 2 ≤ tmpB ∧ tmpB < 2 ^ 64 := by
    rw [find_first]
    unfold textInFront at h
    simp only at h
    split at h
    next => cases h
    next hB =>
      by_cases hmem : ch 'B' ∈ s
      · have hfront : s.takeWhile (· != ch 'B') = [] := by
          by_contra hne
          exact hB ⟨hmem, hne⟩
        rw [if_pos hmem, hfront]
        exact ⟨2 ^ 64 - 1, by decide, by decide, by decide⟩
      · rw [if_neg hmem]
        exact ⟨2 ^ 64 - 2, by decide, by decide, by decide⟩
  obtain ⟨tmpB, hB, hlow, hhigh⟩ := hwrap
  obtain ⟨k, hk, hdrop, hfield⟩ := pressureField_eq hhigh hB
  rw [List.take_of_length_le (by omega)] at hk hdrop hfield
  refine ⟨_, _, hfield, ?_⟩
  rw [← hdrop, List.length_drop]
  omega

/-- A text is read up to its end in front of the first `B`. -/
def FrontRead (s : Bytes) (x : Double) : Prop := ∃ text, textInFront s = some text ∧ ReadAs text x

section

variable {s : Bytes} (hlen : s.length < 2 ^ 63) (hcheck : ChecksumMatches s)
  (hmda : str "MDA" <:+: s)

include hlen hcheck hmda

theorem unpack_of_frontRead {x : Double} (h : FrontRead s x) (atmosphere : Atmosphere) :
    unpack s atmosphere =
      (true, { atmosphere with m_serialized := s, m_pressure := x * 1000.0 }) := by
  obtain ⟨text, htext, hread⟩ := h
  have hparse : parsePressure s = .ok (some (x * 1000.0)) := by
    unfold parsePressure
    rw [pressureField_of_text hlen htext]
    simp only [bind, Except.bind]
    rw [hread]
    simp only [if_true]
    rfl
  unfold unpack
  rw [hcheck]
  simp only [hmda, and_self, if_true, hparse]

theorem unpack_of_not_frontRead (h : ∀ x, ¬ FrontRead s x) (atmosphere : Atmosphere) :
    unpack s atmosphere = (false, atmosphere) := by
  have hparse : ∀ pressure, parsePressure s ≠ .ok (some pressure) := by
    intro pressure hsome
    unfold parsePressure at hsome
    cases htext : textInFront s with
    | none =>
        obtain ⟨text, n, hfield, hlt⟩ := pressureField_of_none hlen htext
        rw [hfield] at hsome
        simp only [bind, Except.bind] at hsome
        cases hidx : stodIdx text with
        | error e =>
            rw [hidx] at hsome
            cases hsome
        | ok v =>
            have hle := stodIdx_le hidx
            rw [hidx] at hsome
            simp only at hsome
            rw [if_neg (by omega)] at hsome
            cases hsome
    | some text =>
        rw [pressureField_of_text hlen htext] at hsome
        simp only [bind, Except.bind] at hsome
        cases hidx : stodIdx text with
        | error e =>
            rw [hidx] at hsome
            cases hsome
        | ok v =>
            rw [hidx] at hsome
            simp only at hsome
            split at hsome
            next heq => exact h v.1 ⟨text, htext, by rw [ReadAs, hidx, ← heq]⟩
            next => cases hsome
  unfold unpack
  rw [hcheck]
  simp only [hmda, and_self, if_true]
  cases hresult : parsePressure s with
  | error e => rfl
  | ok result =>
      cases result with
      | none => rfl
      | some pressure => exact absurd hresult (hparse pressure)

end

/-! ## When that is the pressure -/

theorem rangeError_neg (q : ℚ) : rangeError (.fin (-q)) = rangeError (.fin q) := by
  simp only [rangeError, abs_neg]

theorem rangeError_of_stodIdx {text : Bytes} {q : ℚ} {n : Nat} (h : stodIdx text = .ok (.fin q, n)) :
    rangeError (.fin q) = false := by
  unfold stodIdx at h
  simp only [Double.round_exact] at h
  split at h
  · cases h
  · rename_i v k hread
    split at h
    next => cases h
    next hrange =>
      rw [Bool.not_eq_true] at hrange
      injection h with hpair
      rw [Prod.mk.injEq] at hpair
      have hvalue := hpair.1
      split at hvalue
      · have hv : v = .fin (-q) := by
          cases v with
          | fin r =>
              rw [Double.neg_fin, Double.fin.injEq] at hvalue
              rw [← hvalue, neg_neg]
          | inf neg => cases hvalue
          | nan => cases hvalue
        rwa [hv, rangeError_neg] at hrange
      · rwa [hvalue] at hrange

/-- A number that is in range is read as its value. -/
theorem readAs_decimal {d : Decimal} (h : rangeError (.fin d.value) = false) :
    ReadAs d.text (.fin d.value) := by
  have hrange : rangeError (.fin d.magnitude) = false := by
    unfold Decimal.value at h
    split at h
    · rwa [rangeError_neg] at h
    · exact h
  rw [ReadAs, d.stodIdx_text, hrange, if_neg Bool.false_ne_true]

theorem FirstPressure.text_eq {s : Bytes} {d e : Decimal} (hd : FirstPressure s d)
    (he : FirstPressure s e) : d.text = e.text := by
  obtain ⟨n, hn, hfirst⟩ := hd
  obtain ⟨m, hm, hfirst'⟩ := he
  obtain rfl : n = m := by
    rcases Nat.lt_trichotomy n m with hlt | heq | hgt
    · exact absurd hn (hfirst' n hlt d)
    · exact heq
    · exact absurd hm (hfirst m hgt e)
  exact Option.some.inj (hn.1.symm.trans hm.1)

/-- Two numbers with the same text have the same value if one of them is in range. -/
theorem value_unique {d e : Decimal} (htext : d.text = e.text)
    (h : rangeError (.fin d.value) = false) : d.value = e.value := by
  have hd : stodIdx d.text = .ok (.fin d.value, d.text.length) := readAs_decimal h
  have he := e.stodIdx_text
  rw [← htext, hd] at he
  split at he
  · cases he
  · injection he with hpair
    rw [Prod.mk.injEq, Double.fin.injEq] at hpair
    exact hpair.1

theorem thousand_eq : (1000.0 : Double) = .fin 1000 := by
  change Double.fin (OfScientific.ofScientific 10000 true 1) = .fin 1000
  norm_num

theorem fin_of_thousand {x : Double} {q : ℚ} (h : x * 1000.0 = .fin (1000 * q)) : x = .fin q := by
  rw [thousand_eq] at h
  cases x with
  | fin r =>
      rw [Double.fin_mul, Double.fin.injEq] at h
      rw [Double.fin.injEq]
      linarith
  | inf neg =>
      change (if (1000 : ℚ) = 0 then Double.nan else .inf _) = _ at h
      rw [if_neg (by norm_num)] at h
      cases h
  | nan => cases h

theorem exact_of_read {s : Bytes} (hlen : s.length < 2 ^ 63) (hcheck : ChecksumMatches s)
    (hmda : str "MDA" <:+: s) {d : Decimal} (hd : FirstPressure s d)
    (hread : FrontRead s (.fin d.value)) (atmosphere : Atmosphere) : Exact s atmosphere := by
  have hunpack := unpack_of_frontRead hlen hcheck hmda hread atmosphere
  refine ⟨?_, fun e he => ?_, fun hnone => absurd ⟨d, hd⟩ hnone⟩
  · rw [hunpack]
    exact iff_of_true rfl ⟨d, hd⟩
  · obtain ⟨text, -, htext⟩ := hread
    rw [hunpack, ← value_unique (hd.text_eq he) (rangeError_of_stodIdx htext)]
    change Double.fin d.value * 1000.0 = _
    rw [thousand_eq, Double.fin_mul, mul_comm]

/-! ## A pressure field with the first letter `B` -/

theorem mem_of_mem_splitOn {c b : UInt8} {s field : Bytes} (hfield : field ∈ s.splitOn c)
    (hb : b ∈ field) : b ∈ s := by
  induction s generalizing field with
  | nil =>
      rw [List.splitOn_nil, List.mem_singleton] at hfield
      rwa [hfield] at hb
  | cons x s ih =>
      rw [List.splitOn_cons_eq_if_modifyHead] at hfield
      split at hfield
      · rcases List.mem_cons.mp hfield with rfl | hfield
        · cases hb
        · exact List.mem_cons_of_mem x (ih hfield hb)
      · cases hsplit : s.splitOn c with
        | nil => exact absurd hsplit (List.splitOn_ne_nil c s)
        | cons first rest =>
            rw [hsplit, List.modifyHead_cons, List.mem_cons] at hfield
            rcases hfield with rfl | hfield
            · rcases List.mem_cons.mp hb with rfl | hb
              · exact List.mem_cons_self
              · exact List.mem_cons_of_mem x (ih (by rw [hsplit]; exact List.mem_cons_self) hb)
            · exact List.mem_cons_of_mem x
                (ih (by rw [hsplit]; exact List.mem_cons_of_mem first hfield) hb)

theorem numeric_plain : ∀ b : UInt8, isNumeric b = true →
    b ≠ ch 'B' ∧ b ≠ ch ',' ∧ b ≠ ch '*' := by
  decide +kernel

section

variable {front rest : Bytes} (d : Decimal) (hfront : ∀ b ∈ front, b ≠ ch 'B' ∧ b ≠ ch '*')

include hfront

theorem textInFront_field :
    textInFront (front ++ ch ',' :: (d.text ++ ch ',' :: ch 'B' :: rest)) = some d.text := by
  have hnumber : ∀ b ∈ d.text, b ≠ ch 'B' ∧ b ≠ ch ',' ∧ b ≠ ch '*' :=
    fun b hb => numeric_plain b (d.text_numeric b hb)
  have hall : ∀ b ∈ (front ++ ch ',' :: d.text) ++ [ch ','], (b != ch 'B') = true := by
    simp only [List.forall_mem_append, List.forall_mem_cons, bne_iff_ne]
    exact ⟨⟨fun b hb => (hfront b hb).1, by decide, fun b hb => (hnumber b hb).1⟩, by decide,
      fun _ h => absurd h List.not_mem_nil⟩
  have hs : front ++ ch ',' :: (d.text ++ ch ',' :: ch 'B' :: rest) =
      ((front ++ ch ',' :: d.text) ++ [ch ',']) ++ ch 'B' :: rest := by
    simp
  unfold textInFront
  rw [hs, List.takeWhile_append_of_pos hall, List.takeWhile_cons_of_neg (by decide), List.append_nil]
  simp only
  rw [if_pos ⟨by simp, by simp⟩, List.dropLast_concat,
    lastField_append fun hmem => (hnumber _ hmem).2.1 rfl]

theorem firstPressure_field (hrest : ∀ b ∈ rest.head?, b = ch ',' ∨ b = ch '*') :
    FirstPressure (front ++ ch ',' :: (d.text ++ ch ',' :: ch 'B' :: rest)) d := by
  have hnumber : ∀ b ∈ d.text, b ≠ ch 'B' ∧ b ≠ ch ',' ∧ b ≠ ch '*' :=
    fun b hb => numeric_plain b (d.text_numeric b hb)
  have hlast : ∃ more, (ch 'B' :: rest.takeWhile (· != ch '*')).splitOn (ch ',') =
      str "B" :: more := by
    cases rest with
    | nil => exact ⟨[], by decide⟩
    | cons b rest =>
        rcases hrest b rfl with rfl | rfl
        · have hcomma : ch ',' ∉ str "B" := by decide
          refine ⟨(rest.takeWhile (· != ch '*')).splitOn (ch ','), ?_⟩
          rw [List.takeWhile_cons_of_pos (by decide)]
          exact List.splitOn_append_cons_self_of_not_mem hcomma _
        · refine ⟨[], ?_⟩
          rw [List.takeWhile_cons_of_neg (by decide)]
          decide
  obtain ⟨more, hmore⟩ := hlast
  have hfields : fields (front ++ ch ',' :: (d.text ++ ch ',' :: ch 'B' :: rest)) =
      front.splitOn (ch ',') ++ d.text :: str "B" :: more := by
    have hfrontAll : ∀ b ∈ front, (b != ch '*') = true := fun b hb => bne_iff_ne.mpr (hfront b hb).2
    have hnumberAll : ∀ b ∈ d.text, (b != ch '*') = true :=
      fun b hb => bne_iff_ne.mpr (hnumber b hb).2.2
    rw [fields, List.takeWhile_append_of_pos hfrontAll, List.takeWhile_cons_of_pos (by decide),
      List.takeWhile_append_of_pos hnumberAll, List.takeWhile_cons_of_pos (by decide),
      List.takeWhile_cons_of_pos (by decide), List.splitOn_append_cons_self,
      List.splitOn_append_cons_self_of_not_mem fun hmem => (hnumber _ hmem).2.1 rfl, hmore]
  refine ⟨(front.splitOn (ch ',')).length, ⟨?_, ?_⟩, ?_⟩
  · rw [hfields, List.getElem?_append_right (le_refl _), Nat.sub_self]
    rfl
  · rw [hfields, List.getElem?_append_right (Nat.le_add_right _ 1), Nat.add_sub_cancel_left]
    rfl
  · rintro m hm e ⟨-, hB⟩
    have hletter : ch 'B' ∈ str "B" := by decide
    rw [hfields] at hB
    rcases Nat.lt_or_ge (m + 1) (front.splitOn (ch ',')).length with hlt | hge
    · rw [List.getElem?_append_left hlt] at hB
      exact (hfront _ (mem_of_mem_splitOn (List.mem_of_getElem? hB) hletter)).1 rfl
    · obtain heq : m + 1 = (front.splitOn (ch ',')).length := by omega
      rw [heq, List.getElem?_append_right (le_refl _), Nat.sub_self, List.getElem?_cons_zero,
        Option.some.injEq] at hB
      rw [← hB] at hletter
      exact (hnumber _ hletter).1 rfl

/-- A line whose first letter `B` is a pressure field is understood. -/
theorem exact_of_first_letter (hrest : ∀ b ∈ rest.head?, b = ch ',' ∨ b = ch '*')
    (hrange : rangeError (.fin d.value) = false) {s : Bytes}
    (hs : s = front ++ ch ',' :: (d.text ++ ch ',' :: ch 'B' :: rest)) (hlen : s.length < 2 ^ 63)
    (hcheck : ChecksumMatches s) (hmda : str "MDA" <:+: s) (atmosphere : Atmosphere) :
    Exact s atmosphere := by
  apply exact_of_read hlen hcheck hmda (d := d)
  · rw [hs]
    exact firstPressure_field d hfront hrest
  · rw [hs]
    exact ⟨d.text, textInFront_field d hfront, readAs_decimal hrange⟩

end

/-- The pressure is extracted exactly where the text in front of the first letter `B` is a number that
says the same as the pressure field, or where there is neither a pressure field nor such a number. -/
theorem exact_iff {s : Bytes} (hlen : s.length < 2 ^ 63) (hcheck : ChecksumMatches s)
    (hmda : str "MDA" <:+: s) (atmosphere : Atmosphere) :
    Exact s atmosphere ↔ (∃ d, FirstPressure s d ∧ FrontRead s (.fin d.value)) ∨
      ((¬ ∃ d, FirstPressure s d) ∧ ∀ x, ¬ FrontRead s x) := by
  constructor
  · intro hexact
    by_cases hfield : ∃ d, FirstPressure s d
    · left
      obtain ⟨d, hd⟩ := hfield
      have haccepted := hexact.accepted_iff.mpr ⟨d, hd⟩
      obtain ⟨x, hx⟩ : ∃ x, FrontRead s x := by
        by_contra hnone
        rw [unpack_of_not_frontRead hlen hcheck hmda (not_exists.mp hnone)] at haccepted
        cases haccepted
      have hpressure := hexact.pressure d hd
      rw [unpack_of_frontRead hlen hcheck hmda hx] at hpressure
      obtain rfl := fin_of_thousand hpressure
      exact ⟨d, hd, hx⟩
    · right
      refine ⟨hfield, fun x hx => hfield (hexact.accepted_iff.mp ?_)⟩
      rw [unpack_of_frontRead hlen hcheck hmda hx]
  · rintro (⟨d, hd, hread⟩ | ⟨hnone, hread⟩)
    · exact exact_of_read hlen hcheck hmda hd hread atmosphere
    · have hunpack := unpack_of_not_frontRead hlen hcheck hmda hread atmosphere
      refine ⟨?_, fun e he => absurd ⟨e, he⟩ hnone, fun _ => ?_⟩
      · rw [hunpack]
        exact iff_of_false Bool.false_ne_true hnone
      · rw [hunpack]

/-- `1.0091` -/
def testPressure : Decimal where
  sign := []
  ip := str "1"
  fp := str "0091"
  dot := true
  mark := ch 'e'
  expSign := []
  expDigits := []
  sign_form := .inl rfl
  ip_digits := by decide
  fp_digits := by decide
  some_digit := by decide
  fp_nil := fun h => by cases h
  mark_eq := by decide
  expSign_form := .inl rfl
  exp_digits := fun _ h => absurd h List.not_mem_nil

/-- The sentence of the tests. -/
theorem exact_test : Exact (str "$WIMDA,29.7987,I,1.0091,B,14.8,C,,,,,,,,,,,,,,*3E\r\n") {} := by
  have hs : str "$WIMDA,29.7987,I,1.0091,B,14.8,C,,,,,,,,,,,,,,*3E\r\n" =
      str "$WIMDA,29.7987,I" ++ ch ',' :: (testPressure.text ++ ch ',' :: ch 'B' ::
        str ",14.8,C,,,,,,,,,,,,,,*3E\r\n") := by
    decide
  have hfront : ∀ b ∈ str "$WIMDA,29.7987,I", b ≠ ch 'B' ∧ b ≠ ch '*' := by decide
  have hrest : ∀ b ∈ (str ",14.8,C,,,,,,,,,,,,,,*3E\r\n").head?, b = ch ',' ∨ b = ch '*' := by
    decide +kernel
  apply (exact_iff (by decide) (by unfold ChecksumMatches; decide)
    (by decide) {}).mpr
  refine .inl ⟨testPressure, ?_, testPressure.text, ?_, readAs_decimal (by decide +kernel)⟩
  · rw [hs]
    exact firstPressure_field testPressure hfront hrest
  · rw [hs]
    exact textInFront_field testPressure hfront

/-- A talker with a `B` in its name makes a good sentence be rejected, and a number that goes over
into the letter is taken without its last byte. -/
theorem not_exact_other_letter :
    let talker := str "$BNMDA,29.7987,I,1.0091,B,14.8,C*2C"
    let joined := str "$WIMDA,29.7987,I,1.00915B*77"
    (ChecksumMatches talker ∧ str "MDA" <:+: talker ∧ ¬ Exact talker {}) ∧
      (ChecksumMatches joined ∧ str "MDA" <:+: joined ∧ ¬ Exact joined {}) := by
  refine ⟨⟨by unfold ChecksumMatches; decide, by decide, ?_⟩,
    by unfold ChecksumMatches; decide, by decide, ?_⟩
  · intro hexact
    have hfirst : FirstPressure (str "$BNMDA,29.7987,I,1.0091,B,14.8,C*2C") testPressure := by
      refine ⟨3, ⟨by decide, by decide⟩, fun m hm e he => ?_⟩
      have hB : ∀ m < 3, (fields (str "$BNMDA,29.7987,I,1.0091,B,14.8,C*2C"))[m + 1]? ≠
          some (str "B") := by
        decide
      exact hB m hm he.2
    exact absurd (hexact.accepted_iff.mpr ⟨testPressure, hfirst⟩) (by decide)
  · intro hexact
    obtain ⟨d, n, hat, -⟩ := hexact.accepted_iff.mp (by decide +kernel)
    have hnone : str "B" ∉ fields (str "$WIMDA,29.7987,I,1.00915B*77") := by decide
    exact hnone (List.mem_of_getElem? hat.2)

end AtmosphereParser

end VirtualFlightRadar
