import VirtualFlightRadar.Cxx.Related
import VirtualFlightRadar.Feed.Parser

/-!
# The side of a coordinate

A coordinate is digits and a direction letter.  The letter is compared with the capital one, so its
case decides about the sign of every coordinate that is not zero.
-/

open Cxx

namespace VirtualFlightRadar

/-! ## Coordinates that are zero -/

theorem decimalVal_eq_zero {whole frac : Bytes} :
    decimalVal whole frac = 0 ↔ ∀ b ∈ whole ++ frac, digitVal b = 0 := by
  have hpow : (10 : ℚ) ^ frac.length ≠ 0 := by positivity
  rw [decimalVal, div_eq_zero_iff, or_iff_left hpow, Nat.cast_eq_zero]
  exact natVal_eq_zero (by omega) _

/-- Degrees are zero only where degrees and minutes are. -/
theorem dmToDeg_eq_zero {q : ℚ} (hq : 0 ≤ q) :
    ∃ d, Math.dmToDeg (.fin q) = .fin d ∧ (d = 0 ↔ q = 0) := by
  have hpos : 0 ≤ q / 100 := by positivity
  have hfloor : (0 : ℚ) ≤ ⌊q / 100⌋ := by exact_mod_cast Int.floor_nonneg.mpr hpos
  have hrest : 0 ≤ q / 100 - ⌊q / 100⌋ := sub_nonneg.mpr (Int.floor_le _)
  refine ⟨⌊q / 100⌋ + (q / 100 - ⌊q / 100⌋) * 100 / 60, ?_, ?_⟩
  · unfold Math.dmToDeg
    simp only [Double.ofNat_eq]
    rw [Double.fin_div _ (by norm_num), Double.abs_fin, abs_of_nonneg hpos, Double.floor_fin,
      Double.fin_sub, Double.fin_mul, Double.fin_div _ (by norm_num), Double.fin_add]
  · constructor
    · intro hd
      linarith
    · rintro rfl
      simp

/-- Digits with a point between them. -/
def IsCoordinate (text : Bytes) : Prop :=
  ∃ n m whole frac, 0 < n ∧ n ≤ 300 ∧ m ≤ 300 ∧ Regex.Run isDigit n whole ∧
    Regex.Run isDigit m frac ∧ text = whole ++ (str "." ++ frac)

def IsZero (text : Bytes) : Prop := ∀ b ∈ text, b = ch '0' ∨ b = ch '.'

theorem isZero_iff {whole frac : Bytes} (hwhole : ∀ b ∈ whole, isDigit b = true)
    (hfrac : ∀ b ∈ frac, isDigit b = true) :
    IsZero (whole ++ (str "." ++ frac)) ↔ ∀ b ∈ whole ++ frac, digitVal b = 0 := by
  have hdigit : ∀ b : UInt8, isDigit b = true → (b = ch '0' ∨ b = ch '.' ↔ digitVal b = 0) := by
    decide +kernel
  have hpoint : ∀ b ∈ str ".", b = ch '0' ∨ b = ch '.' := by decide
  unfold IsZero
  simp only [List.forall_mem_append]
  constructor
  · rintro ⟨hw, -, hf⟩
    exact ⟨fun b hb => (hdigit b (hwhole b hb)).mp (hw b hb),
      fun b hb => (hdigit b (hfrac b hb)).mp (hf b hb)⟩
  · rintro ⟨hw, hf⟩
    exact ⟨fun b hb => (hdigit b (hwhole b hb)).mpr (hw b hb), hpoint,
      fun b hb => (hdigit b (hfrac b hb)).mpr (hf b hb)⟩

theorem IsCoordinate.degree {text : Bytes} (h : IsCoordinate text) :
    ∃ q d, stod text = .ok (.fin q) ∧ Math.dmToDeg (.fin q) = .fin d ∧ (d = 0 ↔ IsZero text) := by
  obtain ⟨n, m, whole, frac, hpos, hn, hm, hwhole, hfrac, rfl⟩ := h
  have hnonneg : 0 ≤ decimalVal whole frac := by
    unfold decimalVal
    positivity
  obtain ⟨d, hd, hzero⟩ := dmToDeg_eq_zero hnonneg
  refine ⟨_, d, stod_coordinate hpos hn hm hwhole hfrac, hd, ?_⟩
  rw [hzero, decimalVal_eq_zero, isZero_iff hwhole.all hfrac.all]

open Regex in
theorem takes_coordinate {n lo hi : Nat} {text t : Bytes} {c c' : Captures UInt8} (hn : 0 < n)
    (hn' : n ≤ 300) (hhi : lo + (hi - lo) ≤ 300)
    (h : Takes (concat [times isDigit n, word (str "."), between isDigit lo hi]) (text ++ t) c t c') :
    IsCoordinate text := by
  obtain ⟨t₁, c₁, ⟨-, whole, hs, hwhole, hmin, hmax⟩, t₂, c₂, hpoint, t₃, c₃, hfrac, rfl, rfl⟩ := h
  obtain ⟨rfl, a, rfl, ha⟩ := takes_word.mp hpoint
  obtain ⟨rfl, frac, rfl, hdigits, -, hlen⟩ := hfrac
  have hle := hmax n rfl
  have hle' := hlen hi rfl
  have ha' : a = str "." := SameLetters.eq (s := str ".") ha.symm (by decide)
  refine ⟨n, frac.length, whole, frac, hn, hn', by omega, ⟨by omega, hwhole⟩, ⟨rfl, hdigits⟩, ?_⟩
  rw [← List.append_assoc, ← List.append_assoc] at hs
  rw [List.append_cancel_right hs, ha', List.append_assoc]

open Regex in
/-- A captured coordinate that converts has its digits. -/
theorem coordinate_of_capture [Rounding] {r : Regex UInt8} {n w lo hi : Nat} (hw : 0 < w) (hw' : w ≤ 300)
    (hhi : lo + (hi - lo) ≤ 300)
    (hbodies : r.bodies n = [concat [times isDigit w, word (str "."), between isDigit lo hi]])
    {s : Bytes} {c : Captures UInt8} (h : r.matchAll s = some c) {x : Double}
    (hstod : stod (c n) = .ok x) : IsCoordinate (c n) := by
  rcases capture_of_matchAll (n := n) h with hnil | ⟨q, hq, t, c₁, c₂, htakes⟩
  · rw [hnil] at hstod
    cases hstod
  · rw [hbodies, List.mem_singleton] at hq
    subst hq
    exact takes_coordinate hw hw' hhi htakes

/-! ## Directions -/

/-- The letter case of the direction does not matter: it does not name the side whose sign is
negative, or the coordinate is zero. -/
def SideFree (negative : UInt8) (direction coordinate : Bytes) : Prop :=
  SameLetters direction [negative] → IsZero coordinate

theorem sideFree_of_ne {negative : UInt8} {direction coordinate : Bytes}
    (h : direction.map toLower ≠ [toLower negative]) : SideFree negative direction coordinate :=
  fun hside => absurd hside h

section

variable {negative : UInt8} {direction coordinate : Bytes} (hcoordinate : IsCoordinate coordinate)
  {x : Double} (hx : stod coordinate = .ok x)

include hcoordinate hx

theorem SideFree.signed (h : SideFree negative direction coordinate) {direction' : Bytes}
    (hletters : SameLetters direction direction') :
    signed direction' [negative] (Math.dmToDeg x) = signed direction [negative] (Math.dmToDeg x) := by
  obtain ⟨q, d, hq, hd, hzero⟩ := hcoordinate.degree
  obtain rfl := Except.ok.inj (hx.symm.trans hq)
  unfold VirtualFlightRadar.signed
  rw [hd]
  by_cases hside : SameLetters direction [negative]
  · have hneg : -Double.fin d = Double.fin d := by
      rw [hzero.mpr (h hside), Double.neg_fin, neg_zero]
    simp only [hneg, ite_self]
  · rw [if_neg, if_neg]
    · rintro rfl
      exact hside rfl
    · rintro rfl
      exact hside hletters

/-- The capital letter and the small one are taken for different sides. -/
theorem sideFree_of_signed (hletter : isLetter negative = true)
    (h : signed (direction.map swapCase) [negative] (Math.dmToDeg x) =
      signed direction [negative] (Math.dmToDeg x)) : SideFree negative direction coordinate := by
  obtain ⟨q, d, hq, hd, hzero⟩ := hcoordinate.degree
  obtain rfl := Except.ok.inj (hx.symm.trans hq)
  intro hside
  obtain ⟨b, rfl, hb⟩ := List.map_eq_singleton_iff.mp hside
  have hneg : -Double.fin d = Double.fin d := by
    unfold signed at h
    rw [List.map_singleton, hd] at h
    simp only [List.cons.injEq, and_true, swapCase_eq_iff hletter hb] at h
    by_cases heq : b = negative
    · rw [if_neg (not_not.mpr heq), if_pos heq] at h
      exact h.symm
    · rwa [if_pos heq, if_neg heq] at h
  rw [Double.neg_fin, Double.fin.injEq] at hneg
  exact hzero.mp (by linarith)

end

theorem str_S : str "S" = [ch 'S'] := rfl

theorem str_W : str "W" = [ch 'W'] := rfl

theorem stoi_hexPair {hh : Bytes} (h : Regex.Run (Regex.icase isHexUpper) 2 hh) :
    stoi 16 hh = .ok (natVal 16 hh) := by
  have hdigit : ∀ b : UInt8, Regex.icase isHexUpper b = true → digitVal b < 16 := by
    decide +kernel
  have hall : ∀ b ∈ hh, digitVal b < 16 := fun b hb => hdigit b (h.all b hb)
  have hlt := natVal_lt 16 hh hall
  rw [h.length] at hlt
  exact stoi_digits (by omega) (h.ne_nil (by omega)) hall (by omega)

end VirtualFlightRadar
