import VirtualFlightRadar.Feed.LetterCase
import VirtualFlightRadar.Feed.SbsFields
import VirtualFlightRadar.Util.Rounded

/-!
# Altitudes in the range of an `int32`

The three parsers read an altitude from very different texts: six digits of feet, whatever `stod`
makes of a field, and any number of digits.  They all round it into an `int32`, and the processor
subtracts the altitude of the own position from the one of a FLARM target.

A bound of the range is reached by numbers that only rounding takes there, so the arithmetic of this
module is that of binary64, and a condition is about the number a text denotes.
-/

open Cxx

namespace VirtualFlightRadar

attribute [local instance] Rounding.binary64

def Fits (n : Int) : Prop := -2 ^ 31 ≤ n ∧ n < 2 ^ 31

/-! ## The texts of the altitudes -/

def AprsParser.altitudeText (boost : BoostRegex) (sentence : Bytes) : Bytes :=
  (boost.regex_match s_APRS_RE sentence).elim [] fun groups => groups RE_APRS_ALT

def SbsParser.altitudeText (sentence : Bytes) : Bytes := lineField sentence SBS_FIELD_ALT

def GpsParser.altitudeText (boost : BoostRegex) (sentence : Bytes) : Bytes :=
  (boost.regex_match s_GPGGA_RE sentence).elim [] fun groups => groups RE_GGA_ALT

/-- A sentence that its parser accepts, with the clock it reads and the aircraft it fills. -/
inductive Report (boost : BoostRegex) (s_maxHeight : Int32) where
  | aprs (clock : DateTime) (sentence : Bytes) (aircraft : Aircraft)
      (accepted : (AprsParser.unpack boost clock s_maxHeight sentence aircraft).1 = true)
  | sbs (clock : DateTime) (sentence : Bytes) (aircraft : Aircraft)
      (accepted : (SbsParser.unpack clock s_maxHeight sentence aircraft).1 = true)

/-- The own position: the configured one, or that of an accepted sentence. -/
inductive Reference (boost : BoostRegex) where
  | fallback (position : Position)
  | gps (clock : DateTime) (sentence : Bytes) (position : GpsPosition)
      (accepted : (GpsParser.unpack boost clock sentence position).1 = true)

variable {boost : BoostRegex} {s_maxHeight : Int32}

namespace Report

def aircraft : Report boost s_maxHeight → Aircraft
  | .aprs clock sentence aircraft _ =>
      (AprsParser.unpack boost clock s_maxHeight sentence aircraft).2
  | .sbs clock sentence aircraft _ => (SbsParser.unpack clock s_maxHeight sentence aircraft).2

def altitudeText : Report boost s_maxHeight → Bytes
  | .aprs _ sentence _ _ => AprsParser.altitudeText boost sentence
  | .sbs _ sentence _ _ => SbsParser.altitudeText sentence

/-- What the parser gives to `doubleToInt`. -/
def altitude (report : Report boost s_maxHeight) : Except StdError Double := do
  let feet ← stod report.altitudeText
  return feet * Math.FEET_2_M

end Report

/-- The altitude comes from a cast that is defined, and the coordinates are finite. -/
structure InRange (altitude : Except StdError Double) (position : Position) : Prop where
  cast : ∃ value, altitude = .ok value ∧ position.altitude = Math.doubleToInt value ∧
    Math.DoubleToIntDefined value
  latitude : position.latitude.isFinite = true
  longitude : position.longitude.isFinite = true

namespace Reference

def position : Reference boost → Position
  | .fallback position => position
  | .gps clock sentence position _ => (GpsParser.unpack boost clock sentence position).2.m_position

/-- Nothing is converted for the configured position. -/
def InRange : Reference boost → Prop
  | .fallback _ => True
  | .gps clock sentence position accepted =>
      VirtualFlightRadar.InRange (stod (GpsParser.altitudeText boost sentence))
        (Reference.gps clock sentence position accepted).position

end Reference

/-- A report meets the own position in the processor, which subtracts the altitudes unless the
target is a transponder. -/
structure AltitudesInRange (report : Report boost s_maxHeight) (reference : Reference boost) :
    Prop where
  own : reference.InRange
  reported : InRange report.altitude report.aircraft.m_position
  difference : report.aircraft.m_targetType ≠ .TRANSPONDER →
    Fits (report.aircraft.m_position.altitude.toInt - reference.position.altitude.toInt)

/-! ## What bounds them -/

/-- The text is a number of feet whose meters round into an `int32`.  The factor is a little more
than 0.3048, and both bounds lie halfway between two doubles. -/
def FeetInRange (text : Bytes) : Prop :=
  ∃ feet : ℚ, Denotes text feet ∧ -(14775589332083567 / 2 ^ 21) < feet ∧
    feet ≤ 14775589325203149 / 2 ^ 21

/-- Six digits of feet are always in range; a field that `stod` reads has to be, and the coordinates
must not be spelled as an infinity or NaN. -/
def Report.Bounded : Report boost s_maxHeight → Prop
  | .aprs _ _ _ _ => True
  | .sbs _ sentence _ _ => FeetInRange (SbsParser.altitudeText sentence) ∧
      spellsWord (SbsParser.lineField sentence SbsParser.SBS_FIELD_LAT) = false ∧
      spellsWord (SbsParser.lineField sentence SbsParser.SBS_FIELD_LON) = false

-- Half a meter is added before the cast, and from this bound on the sum rounds up to 2^31.
def Reference.Bounded : Reference boost → Prop
  | .fallback _ => True
  | .gps _ sentence _ _ => ∃ meters : ℚ, Denotes (GpsParser.altitudeText boost sentence) meters ∧
      meters < 2 ^ 31 - 1 / 2 - 1 / 2 ^ 23

/-- A configured altitude may be so far below the sea that a report is out of reach. -/
def DifferenceBounded : Report boost s_maxHeight → Reference boost → Prop
  | .aprs _ sentence _ _, .fallback position => ∃ feet : ℚ,
      Denotes (AprsParser.altitudeText boost sentence) feet ∧
        ⌊feet * 0.3048 + 1 / 2⌋ - position.altitude.toInt < 2 ^ 31
  | _, _ => True

/-! ## Coordinates -/

theorem signed_isFinite (direction negative : Bytes) (x : Double) :
    (signed direction negative x).isFinite = x.isFinite := by
  unfold signed
  by_cases h : direction = negative
  · rw [if_pos h, Double.isFinite_neg]
  · rw [if_neg h]

theorem IsCoordinate.denotes {text : Bytes} (h : IsCoordinate text) :
    ∃ q, Denotes text q ∧ |q| ≤ 2 ^ (1000 : Int) := by
  obtain ⟨n, m, whole, frac, hpos, hn, hm, hwhole, hfrac, rfl⟩ := h
  have hnonneg : 0 ≤ decimalVal whole frac := by
    unfold decimalVal
    positivity
  refine ⟨_, stod_coordinate hpos hn hm hwhole hfrac, ?_⟩
  rw [abs_of_nonneg hnonneg]
  have hlt := decimalVal_lt hwhole.all hfrac.all
  have hpow : (10 : ℚ) ^ whole.length ≤ 10 ^ 300 :=
    pow_le_pow_right₀ (by norm_num) (by rw [hwhole.length]; exact hn)
  exact hlt.le.trans (hpow.trans ten_pow_le_two_pow)

/-- The text is too short for a number whose degrees are not finite. -/
theorem IsCoordinate.isFinite {text : Bytes} (h : IsCoordinate text) {x : Double}
    (hx : stod text = .ok x) : (Math.dmToDeg x).isFinite = true := by
  obtain ⟨q, hq, hle⟩ := h.denotes
  rw [Except.ok.inj (hx.symm.trans (stod_nearest hq)),
    Math.Rounded.dmToDeg_fin (abs_nearest_le (by norm_num) hle)]
  rfl

/-! ## Reports -/

namespace AprsParser

/-- The altitude is six digits, and the coordinates are digits. -/
theorem unpack_altitude {clock : DateTime} {sentence : Bytes} {aircraft : Aircraft}
    (h : (unpack boost clock s_maxHeight sentence aircraft).1 = true) :
    ∃ feet : Nat, feet < 10 ^ 6 ∧ Denotes (altitudeText boost sentence) feet ∧
      (unpack boost clock s_maxHeight sentence aircraft).2.m_position.altitude =
        Math.doubleToInt (.fin feet * Math.FEET_2_M) ∧
      (unpack boost clock s_maxHeight sentence aircraft).2.m_position.latitude.isFinite = true ∧
      (unpack boost clock s_maxHeight sentence aircraft).2.m_position.longitude.isFinite = true ∧
      (unpack boost clock s_maxHeight sentence aircraft).2.m_targetType = .FLARM := by
  obtain ⟨groups, comGroups, lat, lon, alt, hread⟩ := unpack_reads (Prod.ext h rfl)
  have htext : altitudeText boost sentence = groups RE_APRS_ALT := by
    rw [altitudeText, hread.fields]
    rfl
  have hmatch := hread.fields
  rw [boost.perl] at hmatch
  have halt := hread.altText
  rcases Regex.run_of_capture (n := RE_APRS_ALT) (m := 6) (p := isDigit) rfl hmatch with hnil | hrun
  · rw [hnil] at halt
    cases halt
  · have hdenotes : Denotes (groups RE_APRS_ALT) (natVal 10 (groups RE_APRS_ALT)) :=
      stod_digits (hrun.ne_nil (by omega)) hrun.all (by rw [hrun.length]; omega)
    have hlt := natVal_lt 10 (groups RE_APRS_ALT) fun b hb =>
      of_decide_eq_true ((isDigit_eq_digitVal b).symm.trans (hrun.all b hb))
    rw [hrun.length] at hlt
    have hvalue := stod_natCast hdenotes (hlt.trans (by norm_num))
    refine ⟨natVal 10 (groups RE_APRS_ALT), hlt, by rwa [htext], ?_, ?_, ?_, hread.target⟩
    · rw [hread.position, Except.ok.inj (halt.symm.trans hvalue)]
    · rw [hread.position, signed_isFinite]
      exact (lat_isCoordinate hmatch hread.latText).isFinite hread.latText
    · rw [hread.position, signed_isFinite]
      exact (lon_isCoordinate hmatch hread.lonText).isFinite hread.lonText

end AprsParser

theorem Report.altitude_eq {report : Report boost s_maxHeight} {feet : Double}
    (h : stod report.altitudeText = .ok feet) : report.altitude = .ok (feet * Math.FEET_2_M) := by
  unfold Report.altitude
  rw [h]
  rfl

theorem Report.aprs_inRange (clock : DateTime) (sentence : Bytes) (aircraft : Aircraft)
    (accepted : (AprsParser.unpack boost clock s_maxHeight sentence aircraft).1 = true) :
    InRange (Report.aprs clock sentence aircraft accepted).altitude
      (Report.aprs clock sentence aircraft accepted).aircraft.m_position := by
  obtain ⟨feet, hlt, hfeet, haltitude, hlat, hlon, -⟩ := AprsParser.unpack_altitude accepted
  obtain ⟨hdefined, -⟩ := Math.Rounded.doubleToInt_meters hlt
  have hvalue := stod_natCast hfeet (hlt.trans (by norm_num))
  exact ⟨⟨_, Report.altitude_eq hvalue, haltitude, hdefined⟩, hlat, hlon⟩

/-- The meters of a number of feet are in range only if it is finite. -/
theorem feetInRange_iff {text : Bytes} {feet : Double} (h : stod text = .ok feet) :
    FeetInRange text ↔ Math.DoubleToIntDefined (feet * Math.FEET_2_M) := by
  obtain ⟨exact, hexact, rfl⟩ := exact_of_stod h
  unfold FeetInRange Denotes
  rw [hexact]
  cases exact with
  | fin q =>
      rw [Except.ok.inj (h.symm.trans (stod_nearest hexact)), Math.Rounded.doubleToIntDefined_feet]
      constructor
      · rintro ⟨feet, hfeet, hbounds⟩
        rwa [Double.fin.inj (Except.ok.inj hfeet)]
      · intro hbounds
        exact ⟨q, rfl, hbounds⟩
  | inf neg =>
      have hinf : ∀ neg, (Double.inf neg * Math.FEET_2_M).isFinite = false := by decide +kernel
      refine iff_of_false ?_ fun hdefined => ?_
      · rintro ⟨feet, hfeet, -⟩
        cases hfeet
      · have hfinite : (Double.inf neg * Math.FEET_2_M).isFinite = true :=
          Math.DoubleToIntDefined.isFinite hdefined
        rw [hinf neg] at hfinite
        cases hfinite
  | nan =>
      refine iff_of_false ?_ fun hdefined => ?_
      · rintro ⟨feet, hfeet, -⟩
        cases hfeet
      · cases Math.DoubleToIntDefined.isFinite hdefined

theorem Report.sbs_inRange_iff (clock : DateTime) (sentence : Bytes) (aircraft : Aircraft)
    (accepted : (SbsParser.unpack clock s_maxHeight sentence aircraft).1 = true) :
    let report : Report boost s_maxHeight := .sbs clock sentence aircraft accepted
    InRange report.altitude report.aircraft.m_position ↔ report.Bounded := by
  obtain ⟨-, -, timeStamp, feet, lat, lon, -, hfeet, hlat, hlon, -, haircraft⟩ :=
    SbsParser.unpack_iff_lineFields.mp (SbsParser.eq_of_accepted accepted)
  intro report
  have hposition : report.aircraft.m_position =
      ⟨lat, lon, Math.doubleToInt (feet * Math.FEET_2_M)⟩ := congrArg Aircraft.m_position haircraft
  have haltitude : report.altitude = .ok (feet * Math.FEET_2_M) := Report.altitude_eq hfeet
  have hlatitude := stod_isFinite_binary64 hlat
  have hlongitude := stod_isFinite_binary64 hlon
  rw [haltitude, hposition]
  show _ ↔ FeetInRange (SbsParser.lineField sentence 11) ∧
    spellsWord (SbsParser.lineField sentence 14) = false ∧
    spellsWord (SbsParser.lineField sentence 15) = false
  rw [feetInRange_iff hfeet]
  constructor
  · rintro ⟨⟨value, hvalue, -, hdefined⟩, hfiniteLat, hfiniteLon⟩
    rw [← Except.ok.inj hvalue] at hdefined
    rw [hlatitude, Bool.not_eq_true'] at hfiniteLat
    rw [hlongitude, Bool.not_eq_true'] at hfiniteLon
    exact ⟨hdefined, hfiniteLat, hfiniteLon⟩
  · rintro ⟨hdefined, hwordLat, hwordLon⟩
    refine ⟨⟨_, rfl, rfl, hdefined⟩, ?_, ?_⟩
    · rw [hlatitude, hwordLat]
      rfl
    · rw [hlongitude, hwordLon]
      rfl

/-! ## The own position -/

/-- An altitude of digits is not negative, but there is no end to it. -/
theorem GpsParser.unpack_altitude {clock : DateTime} {sentence : Bytes} {position : GpsPosition}
    (h : (unpack boost clock sentence position).1 = true) :
    ∃ meters : ℚ, 0 ≤ meters ∧ Denotes (altitudeText boost sentence) meters ∧
      (unpack boost clock sentence position).2.m_position.altitude =
        Math.doubleToInt (.fin (nearest meters)) ∧
      (unpack boost clock sentence position).2.m_position.latitude.isFinite = true ∧
      (unpack boost clock sentence position).2.m_position.longitude.isFinite = true := by
  obtain ⟨-, groups, hmatch, hparsed⟩ := unpack_true_iff.mp (Prod.ext h rfl)
  obtain ⟨lat, lon, alt, hlat, hlon, halt, hposition⟩ := parsePosition_reads hparsed
  have htext : altitudeText boost sentence = groups RE_GGA_ALT := by
    rw [altitudeText, boost.perl, hmatch]
    rfl
  have hdecimal : ∀ b ∈ groups RE_GGA_ALT, isDecimal b = true := by
    have hbytes : ∀ b : UInt8, ∀ q ∈ s_GPGGA_RE.bodies RE_GGA_ALT, q.accepts b = true →
        isDecimal b = true := by decide +kernel
    intro b hb
    obtain ⟨q, hq, hb⟩ := Regex.accepts_of_matchAll hmatch b hb
    exact hbytes b q hq hb
  obtain ⟨exact, hexact, -⟩ := exact_of_stod halt
  obtain ⟨meters, rfl, hnonneg⟩ := stod_decimal hdecimal hexact
  refine ⟨meters, hnonneg, by rwa [htext], ?_, ?_, ?_⟩
  · rw [hposition, Except.ok.inj (halt.symm.trans (stod_nearest hexact))]
  · rw [hposition, signed_isFinite]
    exact (lat_isCoordinate hmatch hlat).isFinite hlat
  · rw [hposition, signed_isFinite]
    exact (lon_isCoordinate hmatch hlon).isFinite hlon

theorem doubleToIntDefined_meters {meters : ℚ} (h : 0 ≤ meters) :
    Math.DoubleToIntDefined (.fin (nearest meters)) ↔ meters < 2 ^ 31 - 1 / 2 - 1 / 2 ^ 23 := by
  rw [Math.Rounded.doubleToIntDefined_fin, Math.Rounded.nearest_bounds_iff,
    and_iff_right (by linarith)]

theorem Reference.inRange_iff (reference : Reference boost) :
    reference.InRange ↔ reference.Bounded := by
  cases reference with
  | fallback position => exact Iff.rfl
  | gps clock sentence position accepted =>
      obtain ⟨meters, hnonneg, hmeters, haltitude, hlat, hlon⟩ :=
        GpsParser.unpack_altitude accepted
      have hstod := stod_nearest hmeters
      have hdefined := doubleToIntDefined_meters hnonneg
      constructor
      · rintro ⟨⟨value, hvalue, -, hcast⟩, -, -⟩
        rw [Except.ok.inj (hvalue.symm.trans hstod), hdefined] at hcast
        exact ⟨meters, hmeters, hcast⟩
      · rintro ⟨q, hq, hlt⟩
        rw [Double.fin.inj (Except.ok.inj (hq.symm.trans hmeters)), ← hdefined] at hlt
        exact ⟨⟨.fin (nearest meters), hstod, haltitude, hlt⟩, hlat, hlon⟩

/-- The altitude of a position that is in range is not negative. -/
theorem Reference.gps_altitude (clock : DateTime) (sentence : Bytes) (position : GpsPosition)
    (accepted : (GpsParser.unpack boost clock sentence position).1 = true)
    (h : (Reference.gps clock sentence position accepted).Bounded) :
    0 ≤ (Reference.gps clock sentence position accepted).position.altitude.toInt := by
  obtain ⟨meters, hnonneg, hmeters, haltitude, -, -⟩ := GpsParser.unpack_altitude accepted
  obtain ⟨q, hq, hlt⟩ := h
  rw [Double.fin.inj (Except.ok.inj (hq.symm.trans hmeters)),
    ← doubleToIntDefined_meters hnonneg] at hlt
  show 0 ≤ (GpsParser.unpack boost clock sentence position).2.m_position.altitude.toInt
  rw [haltitude]
  exact Math.Rounded.doubleToInt_nonneg (nearest_nonneg hnonneg) hlt

/-! ## Both of them -/

theorem Report.inRange_iff (report : Report boost s_maxHeight) :
    InRange report.altitude report.aircraft.m_position ↔ report.Bounded := by
  cases report with
  | aprs clock sentence aircraft accepted =>
      exact iff_of_true (Report.aprs_inRange clock sentence aircraft accepted) trivial
  | sbs clock sentence aircraft accepted =>
      exact Report.sbs_inRange_iff clock sentence aircraft accepted

theorem Report.aprs_altitude (clock : DateTime) (sentence : Bytes) (aircraft : Aircraft)
    (accepted : (AprsParser.unpack boost clock s_maxHeight sentence aircraft).1 = true) :
    ∃ feet : ℚ, Denotes (AprsParser.altitudeText boost sentence) feet ∧
      (Report.aprs clock sentence aircraft accepted).aircraft.m_position.altitude.toInt =
        ⌊feet * 0.3048 + 1 / 2⌋ ∧
      0 ≤ ⌊feet * 0.3048 + 1 / 2⌋ ∧ ⌊feet * 0.3048 + 1 / 2⌋ < 2 ^ 31 := by
  obtain ⟨feet, hlt, hfeet, haltitude, -⟩ := AprsParser.unpack_altitude accepted
  obtain ⟨-, hround, hbounds⟩ := Math.Rounded.doubleToInt_meters hlt
  refine ⟨feet, hfeet, ?_, hbounds⟩
  show (AprsParser.unpack boost clock s_maxHeight sentence aircraft).2.m_position.altitude.toInt = _
  rw [haltitude, hround]

theorem difference_iff (report : Report boost s_maxHeight) {reference : Reference boost}
    (h : reference.Bounded) :
    (report.aircraft.m_targetType ≠ .TRANSPONDER →
      Fits (report.aircraft.m_position.altitude.toInt - reference.position.altitude.toInt)) ↔
      DifferenceBounded report reference := by
  cases report with
  | sbs clock sentence aircraft accepted =>
      obtain ⟨-, timeStamp, position, haircraft⟩ :=
        SbsParser.unpack_true (SbsParser.eq_of_accepted accepted)
      have htarget : (SbsParser.unpack clock s_maxHeight sentence aircraft).2.m_targetType =
          .TRANSPONDER := by rw [haircraft]
      exact iff_of_true (fun hne => absurd htarget hne) (by cases reference <;> trivial)
  | aprs clock sentence aircraft accepted =>
      obtain ⟨-, -, -, -, -, -, htarget⟩ := AprsParser.unpack_altitude accepted
      have hflarm : (Report.aprs clock sentence aircraft accepted).aircraft.m_targetType ≠
          .TRANSPONDER := by
        show (AprsParser.unpack boost clock s_maxHeight sentence aircraft).2.m_targetType ≠ _
        rw [htarget]
        decide
      obtain ⟨feet, hfeet, haltitude, hlo, hhi⟩ :=
        Report.aprs_altitude clock sentence aircraft accepted
      rw [haltitude, forall_prop_of_true hflarm]
      cases reference with
      | fallback position =>
          have hmax : position.altitude.toInt < 2 ^ 31 := Int32.toInt_lt position.altitude
          show Fits (_ - position.altitude.toInt) ↔ ∃ feet : ℚ, _
          constructor
          · intro hfits
            exact ⟨feet, hfeet, hfits.2⟩
          · rintro ⟨q, hq, hlt⟩
            rw [Double.fin.inj (Except.ok.inj (hq.symm.trans hfeet))] at hlt
            exact ⟨by omega, hlt⟩
      | gps clock' sentence' position accepted' =>
          have hnonneg := Reference.gps_altitude clock' sentence' position accepted' h
          have hmax := Int32.toInt_lt
            (Reference.gps clock' sentence' position accepted').position.altitude
          refine iff_of_true ⟨?_, ?_⟩ trivial
          · omega
          · omega

/-- For every report and every own position, the casts and the difference of the altitudes are in
range and the coordinates are finite exactly where the texts that no expression bounds are. -/
theorem altitudesInRange_iff (boost : BoostRegex) (s_maxHeight : Int32)
    (report : Report boost s_maxHeight) (reference : Reference boost) :
    AltitudesInRange report reference ↔
      reference.Bounded ∧ report.Bounded ∧ DifferenceBounded report reference := by
  constructor
  · rintro ⟨hown, hreported, hdifference⟩
    have hbounded := reference.inRange_iff.mp hown
    exact ⟨hbounded, report.inRange_iff.mp hreported, (difference_iff report hbounded).mp hdifference⟩
  · rintro ⟨hbounded, hreported, hdifference⟩
    exact ⟨reference.inRange_iff.mpr hbounded, report.inRange_iff.mpr hreported,
      (difference_iff report hbounded).mpr hdifference⟩

/-- A line with an altitude beyond every range, one with a latitude that is no number, a position
with too many digits, and a configured altitude that is too low for a report from the ground. -/
theorem not_altitudesInRange :
    let tooHigh := str "MSG,3,,,AAAAAA,,,20:11:30.772,,,,1e12,,,49.000000,8.000000,"
    let noNumber := str "MSG,3,,,AAAAAA,,,20:11:30.772,,,,1000,,,nan,8.000000,"
    let report := str "FLRAAAAAA>APRS,qAS,XXXX:/200131h4900.00N/00800.00E'000/000/A=000000 id0A123456"
    let sentence := str "$GPGGA,183552,5000.0466,N,00815.7555,E,1,05,1,99999999999,M,48.0,M,,*44"
    (∃ accepted, ¬ AltitudesInRange (.sbs ⟨0, 0⟩ tooHigh {} accepted : Report .byChoices 400)
      (.fallback {})) ∧
    (∃ accepted, ¬ AltitudesInRange (.sbs ⟨0, 0⟩ noNumber {} accepted : Report .byChoices 400)
      (.fallback {})) ∧
    (∃ accepted accepted', ¬ AltitudesInRange
      (.aprs ⟨0, 0⟩ report {} accepted : Report .byChoices 400)
      (.gps ⟨0, 0⟩ sentence {} accepted')) ∧
    (∃ accepted, ¬ AltitudesInRange (.aprs ⟨0, 0⟩ report {} accepted : Report .byChoices 400)
      (.fallback { altitude := -2147483648 })) := by
  intro tooHigh noNumber report sentence
  refine ⟨⟨by decide +kernel, ?_⟩, ⟨by decide +kernel, ?_⟩,
    ⟨by decide +kernel, by decide +kernel, ?_⟩, ⟨by decide +kernel, ?_⟩⟩
  · intro h
    obtain ⟨⟨feet, hfeet, -, hlt⟩, -⟩ := (Report.inRange_iff _).mp h.reported
    have hvalue : Denotes (SbsParser.altitudeText tooHigh) (10 ^ 12) := by
      unfold Denotes
      decide +kernel
    rw [Double.fin.inj (Except.ok.inj (hfeet.symm.trans hvalue))] at hlt
    norm_num at hlt
  · intro h
    obtain ⟨-, hlatitude, -⟩ := (Report.inRange_iff _).mp h.reported
    exact absurd hlatitude (by decide +kernel)
  · intro h
    obtain ⟨meters, hmeters, hlt⟩ := (Reference.inRange_iff _).mp h.own
    have hvalue : Denotes (GpsParser.altitudeText .byChoices sentence) 99999999999 := by
      unfold Denotes
      decide +kernel
    rw [Double.fin.inj (Except.ok.inj (hmeters.symm.trans hvalue))] at hlt
    norm_num at hlt
  · intro h
    have hfits := h.difference (by decide +kernel)
    exact absurd hfits.2 (by decide +kernel)

end VirtualFlightRadar
