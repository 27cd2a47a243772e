import VirtualFlightRadar.Feed.GpsRoundTrip
import VirtualFlightRadar.Feed.Sentence
import VirtualFlightRadar.Util.Rounded

/-!
# The minutes of both sentences

The degrees are the floor of a coordinate, the minutes are rounded when they are printed, with four
decimals in one sentence and two in the other.  Right below a full degree the minutes round up to
sixty, and nothing carries them over.  The product they are computed by is rounded before, which
moves that boundary, so the arithmetic of this module is that of binary64.
-/

open Cxx

namespace VirtualFlightRadar

attribute [local instance] Rounding.binary64

namespace GpsProcessor

/-- `width` digits of degrees and minutes below sixty with `prec` decimals. -/
def isDegMin (width prec : Nat) (s : Bytes) : Bool :=
  (s.take width).all isDigit && ((s.drop width).take 2).all isDigit &&
    (s.drop (width + 2)).take 1 == str "." && (s.drop (width + 3)).all isDigit &&
    s.length == width + 3 + prec && natVal 10 ((s.drop width).take 2) < 60

/-- A coordinate as the parser reads it from its field and the direction behind it. -/
def decode (text direction negative : Bytes) : Except StdError Double :=
  (stod text).map fun degMin => signed direction negative (Math.dmToDeg degMin)

/-- Two fields with a direction each denote coordinates that differ by at most so many minutes. -/
def Within (bound : ℚ) (negative text direction text' direction' : Bytes) : Prop :=
  ∃ x y : ℚ, decode text direction negative = .ok (.fin x) ∧
    decode text' direction' negative = .ok (.fin y) ∧ |x - y| * 60 ≤ bound

/-- The coordinates of a GGA and an RMC sentence of one report are well-formed and agree. -/
structure WellPrinted (gga rmc : Bytes) : Prop where
  latitude : isDegMin 2 4 (field gga 2) = true
  longitude : isDegMin 3 4 (field gga 4) = true
  latitude' : isDegMin 2 2 (field rmc 3) = true
  longitude' : isDegMin 3 2 (field rmc 5) = true
  latitudes : Within 0.00505 (str "S") (field gga 2) (field gga 3) (field rmc 3) (field rmc 4)
  longitudes : Within 0.00505 (str "W") (field gga 4) (field gga 5) (field rmc 5) (field rmc 6)

/-! ## One coordinate -/

/-- The minutes that `evalPosition` computes.  What remains without the degrees is exact. -/
def roundedMinutes (q : ℚ) : ℚ := nearest (60 * (q - ⌊q⌋))

theorem roundedMinutes_bounds (q : ℚ) : 0 ≤ roundedMinutes q ∧ roundedMinutes q ≤ 60 := by
  obtain ⟨hlo, hhi⟩ := minutes_bounds q
  have hsixty : IsDouble ((60 : Int) : ℚ) := IsDouble.intCast (by decide)
  exact ⟨nearest_nonneg hlo, hsixty.nearest_le hhi⟩

theorem evalPosition_minutes {q : ℚ} (hq : IsDouble q) (h : 0 ≤ q) :
    (60.0 * (Double.fin q - (Double.fin q).floor.abs)).abs = .fin (roundedMinutes q) := by
  have hsixty : (60.0 : Double) = .fin 60 := by decide +kernel
  have hfloor : (0 : ℚ) ≤ ⌊q⌋ := by exact_mod_cast Int.floor_nonneg.mpr h
  obtain ⟨hlo, hhi⟩ := minutes_bounds q
  have hrest : |q - ⌊q⌋| ≤ 2 ^ (0 : Int) := by
    rw [abs_of_nonneg (by linarith), zpow_zero]
    linarith
  have hproduct : |60 * (q - ⌊q⌋)| ≤ 2 ^ (6 : Int) := by
    have hsixtyFour : (60 : ℚ) ≤ 2 ^ (6 : Int) := by norm_num
    rw [abs_of_nonneg hlo]
    exact hhi.trans hsixtyFour
  rw [hsixty, Double.floor_fin, Double.abs_fin, abs_of_nonneg hfloor, Double.sub_eq_round,
    (hq.sub_floor h).round_eq (by norm_num) hrest, Double.mul_eq_round,
    round_of_le (by norm_num) hproduct, Double.abs_fin, abs_of_nonneg (nearest_nonneg hlo)]
  rfl

/-- Degrees and minutes as they are printed, the minutes in the unit of their last decimal. -/
def degMin (width prec deg min : Nat) : Bytes :=
  zeroPad width deg ++ (zeroPad 2 (min / 10 ^ prec) ++ (str "." ++ zeroPad prec (min % 10 ^ prec)))

def coordinate (width prec : Nat) (q : ℚ) : Bytes :=
  degMin width prec (degrees q) (minutesAt prec (roundedMinutes q))

section

variable {width prec deg min : Nat}

theorem run_minutes (h : min ≤ 60 * 10 ^ prec) :
    Regex.Run isDigit 2 (zeroPad 2 (min / 10 ^ prec)) := by
  apply run_zeroPad (by omega)
  rw [Nat.div_lt_iff_lt_mul (by positivity)]
  have hpow : 0 < 10 ^ prec := by positivity
  omega

theorem run_decimals (hp : 0 < prec) : Regex.Run isDigit prec (zeroPad prec (min % 10 ^ prec)) :=
  run_zeroPad hp (Nat.mod_lt _ (by positivity))

/-- The minutes of a coordinate are all that can be wrong with it. -/
theorem isDegMin_degMin (hw : 0 < width) (hdeg : deg < 10 ^ width) (hp : 0 < prec)
    (hmin : min ≤ 60 * 10 ^ prec) :
    isDegMin width prec (degMin width prec deg min) = true ↔ min < 60 * 10 ^ prec := by
  have hd : Regex.Run isDigit width (zeroPad width deg) := run_zeroPad hw hdeg
  have hm : Regex.Run isDigit 2 (zeroPad 2 (min / 10 ^ prec)) := run_minutes hmin
  have hf : Regex.Run isDigit prec (zeroPad prec (min % 10 ^ prec)) := run_decimals hp
  have hval : natVal 10 (zeroPad 2 (min / 10 ^ prec)) = min / 10 ^ prec := natVal_zeroPad 2 _
  have hlt : min / 10 ^ prec < 60 ↔ min < 60 * 10 ^ prec :=
    Nat.div_lt_iff_lt_mul (by positivity)
  rw [← hlt, ← hval, degMin]
  generalize zeroPad width deg = d at hd ⊢
  generalize zeroPad 2 (min / 10 ^ prec) = m at hm ⊢
  generalize zeroPad prec (min % 10 ^ prec) = f at hf ⊢
  have htake : (d ++ (m ++ (str "." ++ f))).take width = d := List.take_left' hd.length
  have hdrop : (d ++ (m ++ (str "." ++ f))).drop width = m ++ (str "." ++ f) :=
    List.drop_left' hd.length
  have hmin : (m ++ (str "." ++ f)).take 2 = m := List.take_left' hm.length
  have hpoint : (d ++ (m ++ (str "." ++ f))).drop (width + 2) = str "." ++ f := by
    rw [← List.drop_drop, hdrop]
    exact List.drop_left' hm.length
  have hfrac : (d ++ (m ++ (str "." ++ f))).drop (width + 3) = f := by
    rw [show width + 3 = width + 2 + 1 by rfl, ← List.drop_drop, hpoint]
    rfl
  have hlen : (d ++ (m ++ (str "." ++ f))).length = width + 3 + prec := by
    simp only [List.length_append, hd.length, hm.length, hf.length]
    rw [show (str ".").length = 1 from rfl]
    omega
  have hone : (str "." ++ f).take 1 = str "." := rfl
  unfold isDegMin
  rw [htake, hdrop, hmin, hpoint, hfrac, hlen, hone, List.all_eq_true.mpr hd.all,
    List.all_eq_true.mpr hm.all, List.all_eq_true.mpr hf.all]
  simp

/-- Reading them is not exact, but the printed decimals are far coarser. -/
theorem decode_degMin (hw : 0 < width) (hwidth : width ≤ 200) (hdeg : deg < 10 ^ width)
    (hdeg' : deg < 2 ^ 8) (hp : 0 < prec) (hprec : prec ≤ 200) (hmin : min ≤ 60 * 10 ^ prec)
    {direction negative : UInt8} (hne : direction ≠ negative) :
    ∃ x, decode (degMin width prec deg min) [direction] [negative] = .ok (.fin x) ∧
      |x - (deg + min / 10 ^ prec / 60)| ≤ 1 / 2 ^ 32 := by
  have hpow : 0 < 10 ^ prec := by positivity
  have hd : Regex.Run isDigit width (zeroPad width deg) := run_zeroPad hw hdeg
  have hf : Regex.Run isDigit prec (zeroPad prec (min % 10 ^ prec)) := run_decimals hp
  have hdenotes : Denotes _ _ := stod_coordinate (by omega) (by omega) (by omega)
    (hd.append (run_minutes hmin) rfl) hf
  rw [List.append_assoc, decimalVal_degMin hp (by omega)] at hdenotes
  have hsixty : (min : ℚ) / 10 ^ prec ≤ 60 := by
    rw [div_le_iff₀ (by positivity)]
    exact_mod_cast hmin
  obtain ⟨x, hx, hnear⟩ := Math.Rounded.dmToDeg_near hdeg' (by positivity) hsixty
  refine ⟨x, ?_, hnear⟩
  rw [decode, degMin, stod_nearest hdenotes, Except.map, hx, signed, if_neg]
  intro heq
  exact hne (List.singleton_inj.mp heq)

variable {q : ℚ}

theorem coordinate_minutes_le : minutesAt prec (roundedMinutes q) ≤ 60 * 10 ^ prec :=
  minutesAt_le prec (roundedMinutes_bounds q).2

theorem coordinate_append (hq : IsDouble q) (h : 0 ≤ q) (width : Nat) (hp : 0 < prec)
    (rest : Bytes) :
    fmtFixed true width 0 (Double.fin q).floor.abs ++ (fmtFixed true (2 + (prec + 1)) prec
      (60.0 * (Double.fin q - (Double.fin q).floor.abs)).abs ++ rest) =
      coordinate width prec q ++ rest := by
  rw [evalPosition_minutes hq h, coordinate_text_at h (roundedMinutes_bounds q).1 width hp,
    coordinate, degMin]
  simp only [List.append_assoc]

theorem comma_notMem_coordinate : ch ',' ∉ coordinate width prec q := by
  have hconverted : ∀ {s : Bytes}, (∀ b ∈ s, isConverted b = true) → ch ',' ∉ s :=
    fun h hmem => absurd (h _ hmem) (by decide)
  rw [coordinate, degMin, List.mem_append, List.mem_append, List.mem_append, not_or, not_or, not_or]
  exact ⟨hconverted (isConverted_zeroPad _ _), hconverted (isConverted_zeroPad _ _), by decide,
    hconverted (isConverted_zeroPad _ _)⟩

/-- The minutes stay below sixty up to half of their last decimal. -/
theorem minutesAt_lt_iff {min : ℚ} (h : 0 ≤ min) :
    minutesAt prec min < 60 * 10 ^ prec ↔ min < 60 - 1 / 2 / 10 ^ prec := by
  have hpow : (0 : ℚ) < 10 ^ prec := by positivity
  have heven : ((60 * 10 ^ prec : Nat) : Int) % 2 = 0 := by
    push_cast
    omega
  have hscale : min < 60 - 1 / 2 / 10 ^ prec ↔
      min * 10 ^ prec < (60 - 1 / 2 / 10 ^ prec) * 10 ^ prec :=
    (mul_lt_mul_iff_left₀ hpow).symm
  rw [← Int.ofNat_lt, minutesAt_eq prec h, roundEven_lt_iff heven, hscale, sub_mul,
    div_mul_cancel₀ _ hpow.ne']
  push_cast
  rfl

/-- The last double below 59.995 is printed as 59.99; half of its place further the product rounds
to the next one. -/
theorem roundedMinutes_lt_iff :
    roundedMinutes q < 59.995 ↔ 60 * (q - ⌊q⌋) < 16887091227755807 / 2 ^ 48 := by
  apply nearest_lt_iff_of_even (k := 5) (n := 8443545613877904)
  all_goals norm_num

end

/-! ## The fields of the sentences -/

/-- The coordinates and their directions, as they stand in both sentences. -/
def coordinates (prec : Nat) (latitude longitude : ℚ) (rest : Bytes) : Bytes :=
  coordinate 2 prec latitude ++ ch ',' :: ([ch 'N'] ++ ch ',' ::
    (coordinate 3 prec longitude ++ ch ',' :: ([ch 'E'] ++ ch ',' :: rest)))

theorem field_coordinates (prec : Nat) (latitude longitude : ℚ) (rest : Bytes) :
    let s := coordinates prec latitude longitude rest
    field s 0 = coordinate 2 prec latitude ∧ field s 1 = [ch 'N'] ∧
      field s 2 = coordinate 3 prec longitude ∧ field s 3 = [ch 'E'] := by
  intro s
  unfold s coordinates
  have hnorth : ch ',' ∉ [ch 'N'] := by decide
  have heast : ch ',' ∉ [ch 'E'] := by decide
  refine ⟨field_zero _ comma_notMem_coordinate, ?_, ?_, ?_⟩
  · rw [field_succ _ _ comma_notMem_coordinate, field_zero _ hnorth]
  · rw [field_succ _ _ comma_notMem_coordinate, field_succ _ _ hnorth,
      field_zero _ comma_notMem_coordinate]
  · rw [field_succ _ _ comma_notMem_coordinate, field_succ _ _ hnorth,
      field_succ _ _ comma_notMem_coordinate, field_zero _ heast]

/-- `hhmmss` -/
def time (utc : Tm) : Bytes :=
  fmtInt true 2 utc.tm_hour ++ (fmtInt true 2 utc.tm_min ++ fmtInt true 2 utc.tm_sec)

theorem comma_notMem_time (utc : Tm) : ch ',' ∉ time utc := by
  have hconverted (n : Int) : ch ',' ∉ fmtInt true 2 n :=
    fun hmem => absurd (isConverted_fmtInt true 2 n _ hmem) (by decide)
  rw [time, List.mem_append, List.mem_append, not_or, not_or]
  exact ⟨hconverted _, hconverted _, hconverted _⟩

section

variable {latitude longitude : ℚ}

theorem textGPGGA_coordinates (utc : Tm) (position : GpsPosition) (hlat : 0 ≤ latitude)
    (hlon : 0 ≤ longitude) (hlatDouble : IsDouble latitude) (hlonDouble : IsDouble longitude) :
    ∃ rest,
    (evalPosition {} (.fin latitude) (.fin longitude)).textGPGGA position utc =
      str "$GPGGA" ++ ch ',' :: (time utc ++ ch ',' :: coordinates 4 latitude longitude rest) := by
  have hhead : str "$GPGGA," = str "$GPGGA" ++ [ch ','] := by decide
  have hone : str ",1," = [ch ','] ++ str "1," := by decide
  have hcomma : str "," = [ch ','] := by decide
  have hsn : ¬ Double.fin latitude < 0 := Double.not_fin_lt_zero hlat
  have hew : ¬ Double.fin longitude < 0 := Double.not_fin_lt_zero hlon
  have htext (width : Nat) {q : ℚ} (hq : IsDouble q) (h : 0 ≤ q) (rest : Bytes) : fmtFixed true width 0
      (Double.fin q).floor.abs ++ (fmtFixed true 7 4
        (60.0 * (Double.fin q - (Double.fin q).floor.abs)).abs ++ rest) =
      coordinate width 4 q ++ rest := coordinate_append hq h width (Nat.succ_pos 3) rest
  refine ⟨str "1," ++ zeroPad 2 position.m_nrOfSatellites.toNat ++ str ",1," ++
    fmtInt false 0 position.m_position.altitude.toInt ++ str ",M," ++
    fmtFixed false 0 1 position.m_geoid ++ str ",M,,*", ?_⟩
  unfold textGPGGA evalPosition coordinates time
  simp only [if_neg hsn, if_neg hew, hhead, hone, hcomma, List.append_assoc, List.cons_append,
    List.nil_append, htext 2 hlatDouble hlat,
    htext 3 hlonDouble hlon]

theorem textGPRMC_coordinates (utc : Tm) (hlat : 0 ≤ latitude) (hlon : 0 ≤ longitude)
    (hlatDouble : IsDouble latitude) (hlonDouble : IsDouble longitude) : ∃ rest,
    (evalPosition {} (.fin latitude) (.fin longitude)).textGPRMC utc =
      str "$GPRMC" ++ ch ',' :: (time utc ++ ch ',' :: (str "A" ++ ch ',' ::
        coordinates 2 latitude longitude rest)) := by
  have hhead : str "$GPRMC," = str "$GPRMC" ++ [ch ','] := by decide
  have hactive : str ",A," = [ch ','] ++ (str "A" ++ [ch ',']) := by decide
  have hcourse : str ",0,0," = [ch ','] ++ str "0,0," := by decide
  have hcomma : str "," = [ch ','] := by decide
  have hsn : ¬ Double.fin latitude < 0 := Double.not_fin_lt_zero hlat
  have hew : ¬ Double.fin longitude < 0 := Double.not_fin_lt_zero hlon
  have htext (width : Nat) {q : ℚ} (hq : IsDouble q) (h : 0 ≤ q) (rest : Bytes) : fmtFixed true width 0
      (Double.fin q).floor.abs ++ (fmtFixed true 5 2
        (60.0 * (Double.fin q - (Double.fin q).floor.abs)).abs ++ rest) =
      coordinate width 2 q ++ rest := coordinate_append hq h width (Nat.succ_pos 1) rest
  refine ⟨str "0,0," ++ fmtInt true 2 utc.tm_mday ++ fmtInt true 2 (utc.tm_mon + 1) ++
    fmtInt true 2 (utc.tm_year - 100) ++ str ",001.0,W*", ?_⟩
  unfold textGPRMC evalPosition coordinates time
  simp only [if_neg hsn, if_neg hew, hhead, hactive, hcourse, hcomma, List.append_assoc,
    List.cons_append, List.nil_append, htext 2 hlatDouble hlat,
    htext 3 hlonDouble hlon]

/-- The printed text is followed by the checksum. -/
theorem sentence_append {commas : Nat} {body text : Bytes} (h : Text commas 2200 body)
    (htext : text = ch '$' :: (body ++ [ch '*'])) :
    ∃ rest, Processor.sentence text = text ++ rest := by
  have hlen := h.length
  rw [htext, Processor.sentence_plain h.plain (by omega)]
  exact ⟨Processor.csumDigits (Math.xorAll body) ++ str "\r\n", by simp⟩

theorem coordinates_append (prec : Nat) (rest rest' : Bytes) :
    coordinates prec latitude longitude rest ++ rest' =
      coordinates prec latitude longitude (rest ++ rest') := by
  unfold coordinates
  simp only [List.append_assoc, List.cons_append]

theorem abs_roundedMinutes_le {q : ℚ} (hq : IsDouble q) (h : 0 ≤ q) :
    ∀ p, (60.0 * (Double.fin q - (Double.fin q).floor.abs)).abs = .fin p → |p| ≤ 10 ^ 403 := by
  intro p hp
  rw [evalPosition_minutes hq h] at hp
  cases hp
  obtain ⟨hlo, hhi⟩ := roundedMinutes_bounds q
  obtain ⟨hpow, hone⟩ := ten_pow_403
  rw [abs_of_nonneg hlo, hpow]
  generalize (10 : ℚ) ^ 400 = bound at hone ⊢
  linarith

/-- Where the coordinates stand in the two sentences. -/
theorem sentences_coordinates {utc : Tm} (hutc : utc.InRange) {position : GpsPosition}
    (hgeoid : position.m_geoid.InRange) (hlat : position.m_position.latitude = .fin latitude)
    (hlon : position.m_position.longitude = .fin longitude) (hlatDouble : IsDouble latitude)
    (hlonDouble : IsDouble longitude) (hlat' : 0 ≤ latitude ∧ latitude < 90)
    (hlon' : 0 ≤ longitude ∧ longitude < 180) :
    (∃ rest, ∀ n, field (sentenceGPGGA utc position) (n + 2) =
      field (coordinates 4 latitude longitude rest) n) ∧
    (∃ rest, ∀ n, field (sentenceGPRMC utc position) (n + 3) =
      field (coordinates 2 latitude longitude rest) n) := by
  have hrange : ∀ {q : ℚ}, 0 ≤ q → q < 180 → (Double.fin q).InRange := by
    intro q hq hlt
    apply inRange_of_le
    rw [abs_of_nonneg hq]
    linarith
  have hcoordinates : Coordinates (evalPosition {} (.fin latitude) (.fin longitude)) := by
    constructor
    · apply text_direction <;> constructor <;> decide
    · apply text_direction <;> constructor <;> decide
    · exact abs_degrees_le (hrange hlat'.1 (by linarith [hlat'.2]))
    · exact abs_roundedMinutes_le hlatDouble hlat'.1
    · exact abs_degrees_le (hrange hlon'.1 hlon'.2)
    · exact abs_roundedMinutes_le hlonDouble hlon'.1
  have htime := comma_notMem_time utc
  constructor
  · obtain ⟨body, hbody, htext⟩ := textGPGGA_body hcoordinates
      (AircraftProcessor.inRange_le_pow hgeoid) hutc
    obtain ⟨back, hback⟩ := sentence_append htext hbody
    obtain ⟨rest, hrest⟩ := textGPGGA_coordinates utc position hlat'.1 hlon'.1 hlatDouble hlonDouble
    refine ⟨rest ++ back, fun n => ?_⟩
    unfold sentenceGPGGA
    simp only [hlat, hlon]
    rw [hback, hrest, List.append_assoc, List.cons_append, field_succ _ _ (by decide),
      List.append_assoc, List.cons_append, field_succ _ _ htime, coordinates_append]
  · obtain ⟨body, hbody, htext⟩ := textGPRMC_body hcoordinates hutc
    obtain ⟨back, hback⟩ := sentence_append htext hbody
    obtain ⟨rest, hrest⟩ := textGPRMC_coordinates utc hlat'.1 hlon'.1 hlatDouble hlonDouble
    refine ⟨rest ++ back, fun n => ?_⟩
    unfold sentenceGPRMC
    simp only [hlat, hlon]
    rw [hback, hrest, List.append_assoc, List.cons_append, field_succ _ _ (by decide),
      List.append_assoc, List.cons_append, field_succ _ _ htime, List.append_assoc,
      List.cons_append, field_succ _ _ (by decide), coordinates_append]

/-- Two and four decimals of the same minutes differ by fifty units of the fourth. -/
theorem minutesAt_sub_minutesAt_le {min : ℚ} (h : 0 ≤ min) :
    |(minutesAt 4 min : ℚ) / 10 ^ 4 - minutesAt 2 min / 10 ^ 2| ≤ 0.005 := by
  have hgga := minutesAt_sub_le 4 h
  have hrmc := minutesAt_sub_le 2 h
  generalize minutesAt 4 min = m at hgga ⊢
  generalize minutesAt 2 min = n at hrmc ⊢
  rw [abs_le] at hgga hrmc ⊢
  norm_num at hgga hrmc ⊢
  -- Both are whole numbers of that unit.
  have hlo : (100 * n : ℚ) < m + 51 := by linarith [hgga.1, hrmc.2]
  have hhi : (m : ℚ) < 100 * n + 51 := by linarith [hgga.2, hrmc.1]
  have hlo' : 100 * n ≤ m + 50 := Nat.lt_succ_iff.mp (by exact_mod_cast hlo)
  have hhi' : m ≤ 100 * n + 50 := Nat.lt_succ_iff.mp (by exact_mod_cast hhi)
  have hlo'' : (100 * n : ℚ) ≤ m + 50 := by exact_mod_cast hlo'
  have hhi'' : (m : ℚ) ≤ 100 * n + 50 := by exact_mod_cast hhi'
  constructor <;> linarith

theorem within_coordinate {width : Nat} {q : ℚ} (hw : 0 < width) (hwidth : width ≤ 200)
    (hdeg : degrees q < 10 ^ width) (hdeg' : degrees q < 2 ^ 8) {direction negative : UInt8}
    (hne : direction ≠ negative) :
    Within 0.00505 [negative] (coordinate width 4 q) [direction] (coordinate width 2 q)
      [direction] := by
  have hle (prec : Nat) : minutesAt prec (roundedMinutes q) ≤ 60 * 10 ^ prec :=
    coordinate_minutes_le
  obtain ⟨x, hx, hgga⟩ := decode_degMin hw hwidth hdeg hdeg' (by omega) (by omega) (hle 4) hne
  obtain ⟨y, hy, hrmc⟩ := decode_degMin hw hwidth hdeg hdeg' (by omega) (by omega) (hle 2) hne
  refine ⟨x, y, hx, hy, ?_⟩
  have hmin := minutesAt_sub_minutesAt_le (roundedMinutes_bounds q).1
  rw [← le_div_iff₀ (by norm_num)]
  rw [abs_le] at hgga hrmc hmin ⊢
  norm_num at hgga hrmc hmin ⊢
  constructor <;> linarith [hgga.1, hgga.2, hrmc.1, hrmc.2, hmin.1, hmin.2]

theorem isDegMin_coordinate {width : Nat} {q : ℚ} (hw : 0 < width) (hdeg : degrees q < 10 ^ width)
    {prec : Nat} (hp : 0 < prec) :
    isDegMin width prec (coordinate width prec q) = true ↔
      roundedMinutes q < 60 - 1 / 2 / 10 ^ prec := by
  rw [coordinate, isDegMin_degMin hw hdeg hp coordinate_minutes_le,
    minutesAt_lt_iff (roundedMinutes_bounds q).1]

/-- One coordinate is printed well in both sentences exactly if its minutes do not round up to
sixty with two decimals. -/
theorem isDegMin_both {width : Nat} {q : ℚ} (hw : 0 < width) (hdeg : degrees q < 10 ^ width) :
    isDegMin width 4 (coordinate width 4 q) = true ∧ isDegMin width 2 (coordinate width 2 q) = true ↔
      60 * (q - ⌊q⌋) < 16887091227755807 / 2 ^ 48 := by
  rw [← roundedMinutes_lt_iff, isDegMin_coordinate hw hdeg (by omega),
    isDegMin_coordinate hw hdeg (by omega)]
  norm_num
  intro h
  linarith

/-- The minutes of both coordinates do not round up to sixty in the sentence with fewer decimals, or
the report is not well-formed.  The product of the minutes with sixty is rounded first, so the
bound is a little above 59.995. -/
theorem wellPrinted_iff (this : GpsProcessor) {utc : Tm} (hutc : utc.InRange)
    {position : GpsPosition} (hgeoid : position.m_geoid.InRange)
    (hlat : position.m_position.latitude = .fin latitude)
    (hlon : position.m_position.longitude = .fin longitude) (hlatDouble : IsDouble latitude)
    (hlonDouble : IsDouble longitude) (hlat' : 0 ≤ latitude ∧ latitude < 90)
    (hlon' : 0 ≤ longitude ∧ longitude < 180) :
    (this.process utc position).2.m_serialized =
      sentenceGPGGA utc position ++ sentenceGPRMC utc position ∧
    (WellPrinted (sentenceGPGGA utc position) (sentenceGPRMC utc position) ↔
      60 * (latitude - ⌊latitude⌋) < 16887091227755807 / 2 ^ 48 ∧
        60 * (longitude - ⌊longitude⌋) < 16887091227755807 / 2 ^ 48) := by
  have hdegLat : degrees latitude ≤ 90 := degrees_le hlat'.1 (by exact_mod_cast hlat'.2.le)
  have hdegLon : degrees longitude ≤ 180 := degrees_le hlon'.1 (by exact_mod_cast hlon'.2.le)
  obtain ⟨⟨rest, hgga⟩, ⟨rest', hrmc⟩⟩ :=
    sentences_coordinates hutc hgeoid hlat hlon hlatDouble hlonDouble hlat' hlon'
  obtain ⟨hlat4, hnorth4, hlon4, heast4⟩ := field_coordinates 4 latitude longitude rest
  obtain ⟨hlat2, hnorth2, hlon2, heast2⟩ := field_coordinates 2 latitude longitude rest'
  rw [← hgga] at hlat4 hnorth4 hlon4 heast4
  rw [← hrmc] at hlat2 hnorth2 hlon2 heast2
  refine ⟨by rw [process_position], ?_⟩
  have hwidthLat : degrees latitude < 10 ^ 2 := by omega
  have hwidthLon : degrees longitude < 10 ^ 3 := by omega
  rw [← isDegMin_both (by omega) hwidthLat, ← isDegMin_both (by omega) hwidthLon, ← hlat4, ← hlat2,
    ← hlon4, ← hlon2]
  constructor
  · rintro ⟨hlatGga, hlonGga, hlatRmc, hlonRmc, -, -⟩
    exact ⟨⟨hlatGga, hlatRmc⟩, ⟨hlonGga, hlonRmc⟩⟩
  · rintro ⟨⟨hlatGga, hlatRmc⟩, ⟨hlonGga, hlonRmc⟩⟩
    refine ⟨hlatGga, hlonGga, hlatRmc, hlonRmc, ?_, ?_⟩
    · rw [hlat4, hnorth4, hlat2, hnorth2]
      exact within_coordinate (by omega) (by omega) (by omega) (by omega) (by decide)
    · rw [hlon4, heast4, hlon2, heast2]
      exact within_coordinate (by omega) (by omega) (by omega) (by omega) (by decide)

/-- Noon at 49 and a half degrees north. -/
theorem wellPrinted_half : WellPrinted
    (sentenceGPGGA ⟨0, 0, 12, 1, 0, 100⟩ { m_position := { latitude := .fin (99 / 2) } })
    (sentenceGPRMC ⟨0, 0, 12, 1, 0, 100⟩ { m_position := { latitude := .fin (99 / 2) } }) := by
  have hfloor : ⌊(99 / 2 : ℚ)⌋ = 49 := by norm_num [Int.floor_eq_iff]
  refine (wellPrinted_iff {} (by unfold Tm.InRange; decide) (inRange_of_le (by norm_num)) rfl rfl
    ⟨99, -1, by decide, by decide, by norm_num⟩ ⟨0, 0, by decide, by decide, by norm_num⟩
    (by norm_num) (by norm_num)).2.mpr ⟨?_, by norm_num⟩
  rw [hfloor]
  norm_num

/-- A meter below the fiftieth degree the minutes with two decimals are sixty. -/
theorem not_wellPrinted_below_fifty :
    field (sentenceGPRMC ⟨0, 0, 12, 1, 0, 100⟩ { m_position := { latitude := 49.99999 } }) 3 =
      str "4960.00" ∧
    ¬ WellPrinted
      (sentenceGPGGA ⟨0, 0, 12, 1, 0, 100⟩ { m_position := { latitude := 49.99999 } })
      (sentenceGPRMC ⟨0, 0, 12, 1, 0, 100⟩ { m_position := { latitude := 49.99999 } }) := by
  have hfield : field (sentenceGPRMC ⟨0, 0, 12, 1, 0, 100⟩
      { m_position := { latitude := 49.99999 } }) 3 = str "4960.00" := by
    decide +kernel
  refine ⟨hfield, fun h => ?_⟩
  have hmin := h.latitude'
  rw [hfield] at hmin
  exact absurd hmin (by decide)

end

end GpsProcessor

end VirtualFlightRadar
