import VirtualFlightRadar.Cxx.Regex
import VirtualFlightRadar.Cxx.Printf
import VirtualFlightRadar.Util.Math

/-! What the parsers share: the regex library, and the sign of a coordinate. -/

open Cxx

namespace VirtualFlightRadar

/-- `boost::regex_match` with an expression in Perl syntax: it matches a whole text, and of all ways
to do so it takes the one that comes first in the order of the choices. -/
structure BoostRegex where
  regex_match : Regex UInt8 → Bytes → Option (Captures UInt8)
  perl : ∀ re s, regex_match re s = re.matchAll s

def BoostRegex.byChoices : BoostRegex := ⟨Regex.matchAll, fun _ _ => rfl⟩

-- [0-9A-F]
def isHexUpper (b : UInt8) : Bool := isDigit b || (ch 'A' ≤ b && b ≤ ch 'F')

/-- `if (direction.compare(negative) == 0) degree = -degree;` -/
def signed (direction negative : Bytes) (degree : Double) : Double :=
  if direction = negative then -degree else degree

theorem run_zeroPad {width n : Nat} (hw : 0 < width) (h : n < 10 ^ width) :
    Regex.Run isDigit width (zeroPad width n) where
  length := zeroPad_length hw h
  all _ hb := isDigit_of_mem_zeroPad hb

theorem run_HHMMSS {h m s : Nat} (hh : h < 24) (hm : m < 60) (hs : s < 60) :
    Regex.Run isDigit 6 (zeroPad 2 h ++ (zeroPad 2 m ++ zeroPad 2 s)) := by
  have hms : Regex.Run isDigit 4 (zeroPad 2 m ++ zeroPad 2 s) :=
    (run_zeroPad (by omega) (by omega)).append (run_zeroPad (by omega) (by omega)) rfl
  exact (run_zeroPad (by omega) (by omega)).append hms rfl

theorem stod_zeroPad {width n : Nat} (hw : 0 < width) (hwidth : width ≤ 300) (h : n < 10 ^ width) :
    stod (zeroPad width n) = .ok (.fin n) := by
  have hrun : Regex.Run isDigit width (zeroPad width n) := run_zeroPad hw h
  rw [stod_digits (hrun.ne_nil hw) hrun.all (by rw [hrun.length]; exact hwidth), natVal_zeroPad]

/-- The text of a coordinate, with a fixed number of digits around the point. -/
theorem stod_coordinate {n m : Nat} {whole frac : Bytes} (hpos : 0 < n) (hn : n ≤ 300)
    (hm : m ≤ 300) (hwhole : Regex.Run isDigit n whole) (hfrac : Regex.Run isDigit m frac) :
    stod (whole ++ (str "." ++ frac)) = .ok (.fin (decimalVal whole frac)) := by
  apply stod_point (hwhole.ne_nil hpos) hwhole.all hfrac.all
  · rw [hfrac.length]
    exact hm
  · apply decimalVal_le_dblMax hwhole.all hfrac.all
    rw [hwhole.length]
    exact hn

theorem decimalVal_degMin {width prec deg min : Nat} (hp : 0 < prec) (hmin : min < 100 * 10 ^ prec) :
    decimalVal (zeroPad width deg ++ zeroPad 2 (min / 10 ^ prec)) (zeroPad prec (min % 10 ^ prec)) =
      deg * 100 + min / 10 ^ prec := by
  have hpow : 0 < 10 ^ prec := by positivity
  have hlen : (zeroPad 2 (min / 10 ^ prec)).length = 2 :=
    zeroPad_length (by omega) (by rw [Nat.div_lt_iff_lt_mul hpow]; exact hmin)
  have hfixed := decimalVal_fixed prec min 2 hp
  rw [decimalVal_eq] at hfixed ⊢
  rw [← hfixed, natVal_append, hlen, natVal_zeroPad width]
  push_cast
  ring

/-- Degrees and minutes, printed with `prec` decimals of the minutes, are read as they are. -/
theorem dmToDeg_text {width prec deg min : Nat} (hp : 0 < prec) (hmin : min < 100 * 10 ^ prec) :
    Math.dmToDeg (.fin (decimalVal (zeroPad width deg ++ zeroPad 2 (min / 10 ^ prec))
      (zeroPad prec (min % 10 ^ prec)))) = .fin (deg + min / 10 ^ prec / 60) := by
  have hlt : (min : ℚ) / 10 ^ prec < 100 := by
    rw [div_lt_iff₀ (by positivity)]
    exact_mod_cast hmin
  rw [decimalVal_degMin hp hmin, Math.dmToDeg_fin (by positivity) hlt]

-- The direction letter of a coordinate gives its sign back.
theorem signed_ofBool {neg : Bool} {positive negative : UInt8} (hne : positive ≠ negative) (q : ℚ) :
    signed [if neg then negative else positive] [negative] (.fin q) =
      .fin (if neg then -q else q) := by
  cases neg
  · simp [signed, hne]
  · simp [signed]

end VirtualFlightRadar
