import VirtualFlightRadar.Data.GpsProcessor
import VirtualFlightRadar.Feed.GpsParser

/-!
# The own position, written and read again

The processor writes degrees and minutes, the parser reads them.  On the northern and eastern half
both agree; south and west of zero the processor takes the absolute value of the floor and then
subtracts it, so what it writes are not minutes.
-/

open Cxx

namespace VirtualFlightRadar

namespace GpsProcessor

/-- A triple of degrees, minutes and direction is a way to write the coordinate: the minutes are
minutes, and the parser reads the coordinate back. -/
def Encodes (deg min : Double) (direction negative : UInt8) (coordinate : Double) : Prop :=
  0 ≤ min ∧ min < 60 ∧ signed [direction] [negative] (Math.dmToDeg (deg * 100 + min)) = coordinate

instance (deg min : Double) (direction negative : UInt8) (coordinate : Double) :
    Decidable (Encodes deg min direction negative coordinate) :=
  inferInstanceAs (Decidable (_ ∧ _ ∧ _))

/-- What `evalPosition` computes for one coordinate. -/
theorem encodes_iff (q : ℚ) {positive negative : UInt8} (hne : positive ≠ negative) :
    Encodes (Double.fin q).floor.abs (60.0 * (Double.fin q - (Double.fin q).floor.abs)).abs
      (if Double.fin q < 0 then negative else positive) negative (.fin q) ↔ 0 ≤ q := by
  simp only [Double.floor_fin, Double.abs_fin, Double.fin_sub, sixty_eq, Double.fin_mul, Encodes]
  have hlo := Int.floor_le q
  have hhi := Int.lt_floor_add_one q
  constructor
  · rintro ⟨-, hmin, -⟩
    by_contra hneg
    -- The degrees are at least one and are subtracted from a negative number.
    have hfloor : (⌊q⌋ : ℚ) < 0 := lt_of_le_of_lt hlo (not_le.mp hneg)
    rw [abs_of_neg hfloor] at hmin
    have hone : (⌊q⌋ : ℚ) ≤ -1 := by
      have : ⌊q⌋ < 0 := by exact_mod_cast hfloor
      exact_mod_cast (by omega : ⌊q⌋ ≤ -1)
    rw [abs_of_neg (by linarith)] at hmin
    have hlt := (Double.fin_lt _ _).mp hmin
    push_cast at hlt
    linarith [not_le.mp hneg]
  · intro h
    obtain ⟨deg, hdeg⟩ : ∃ deg : Nat, ⌊q⌋ = deg := Int.eq_ofNat_of_zero_le (Int.floor_nonneg.mpr h)
    rw [hdeg] at hlo hhi ⊢
    push_cast at hlo hhi ⊢
    rw [Nat.abs_cast, abs_of_nonneg (by linarith), if_neg (Double.not_fin_lt_zero h)]
    refine ⟨(Double.fin_le _ _).mpr (by push_cast; linarith),
      (Double.fin_lt _ _).mpr (by push_cast; linarith), ?_⟩
    have hcoded : Double.fin deg * 100 + Double.fin (60 * (q - deg)) =
        .fin (deg * 100 + 60 * (q - deg)) := rfl
    rw [hcoded, Math.dmToDeg_fin (by linarith) (by linarith), signed, if_neg]
    · congr 1
      ring
    · intro heq
      exact hne (List.singleton_inj.mp heq)

/-- The coordinates after `evalPosition` are a way to write the position. -/
def EncodesPosition (this : GpsProcessor) (latitude longitude : Double) : Prop :=
  Encodes this.m_degLatitude this.m_minLatitude this.m_directionSN (ch 'S') latitude ∧
    Encodes this.m_degLongitude this.m_minLongitude this.m_directionEW (ch 'W') longitude

instance (this : GpsProcessor) (latitude longitude : Double) :
    Decidable (this.EncodesPosition latitude longitude) :=
  inferInstanceAs (Decidable (_ ∧ _))

/-- Exactly the positions that are neither south of the equator nor west of Greenwich are written
so that they can be read. -/
theorem evalPosition_encodes_iff (this : GpsProcessor) (latitude longitude : ℚ) :
    (this.evalPosition (.fin latitude) (.fin longitude)).EncodesPosition (.fin latitude)
      (.fin longitude) ↔ 0 ≤ latitude ∧ 0 ≤ longitude := by
  unfold EncodesPosition evalPosition
  simp only
  rw [encodes_iff latitude (by decide), encodes_iff longitude (by decide)]

/-- Sydney: 34 degrees and 4050 minutes. -/
theorem evalPosition_not_encodes_sydney :
    ¬ (evalPosition {} (-33.5) 151.25).EncodesPosition (-33.5) 151.25 := by
  decide +kernel

/-! ## The printed fields -/

def degrees (q : ℚ) : Nat := ⌊q⌋.toNat

/-- The printed ten-thousandths of a minute.  There can be 600000 of them. -/
def minutes (q : ℚ) : Nat := (roundEven (60 * (q - ⌊q⌋) * 10 ^ 4)).toNat

theorem degrees_eq {q : ℚ} (h : 0 ≤ q) : ((degrees q : Nat) : ℚ) = ⌊q⌋ := by
  have hfloor : ((degrees q : Nat) : Int) = ⌊q⌋ := Int.toNat_of_nonneg (Int.floor_nonneg.mpr h)
  exact_mod_cast hfloor

theorem degrees_le {q : ℚ} {n : Nat} (h : 0 ≤ q) (hq : q ≤ n) : degrees q ≤ n := by
  have hle : ((degrees q : Nat) : ℚ) ≤ n := by
    rw [degrees_eq h]
    exact (Int.floor_le q).trans hq
  exact_mod_cast hle

/-- Minutes printed with `prec` decimals, in the unit of the last one. -/
def minutesAt (prec : Nat) (min : ℚ) : Nat := (roundEven (min * 10 ^ prec)).toNat

section

variable {min : ℚ} (prec : Nat)

theorem minutesAt_eq (h : 0 ≤ min) : (minutesAt prec min : Int) = roundEven (min * 10 ^ prec) :=
  Int.toNat_of_nonneg (roundEven_nonneg (mul_nonneg h (by positivity)))

theorem minutesAt_le (h : min ≤ 60) : minutesAt prec min ≤ 60 * 10 ^ prec := by
  have hle : roundEven (min * 10 ^ prec) ≤ ((60 * 10 ^ prec : Nat) : Int) := by
    apply roundEven_le
    push_cast
    exact mul_le_mul_of_nonneg_right h (by positivity)
  unfold minutesAt
  omega

theorem minutesAt_sub_le (h : 0 ≤ min) :
    |(minutesAt prec min : ℚ) / 10 ^ prec - min| ≤ 1 / 2 / 10 ^ prec := by
  -- half of the last decimal
  have hround := roundEven_sub_le (min * 10 ^ prec)
  have hpow : (0 : ℚ) < 10 ^ prec := by positivity
  have hcast : (minutesAt prec min : ℚ) = roundEven (min * 10 ^ prec) := by
    exact_mod_cast minutesAt_eq prec h
  have hdiv : (minutesAt prec min : ℚ) / 10 ^ prec - min =
      (roundEven (min * 10 ^ prec) - min * 10 ^ prec) / 10 ^ prec := by
    rw [hcast]
    field_simp
  rw [hdiv, abs_div, abs_of_pos hpow]
  exact div_le_div_of_nonneg_right hround hpow.le

end

theorem minutes_bounds (q : ℚ) : 0 ≤ 60 * (q - ⌊q⌋) ∧ 60 * (q - ⌊q⌋) ≤ 60 := by
  have hlo := Int.floor_le q
  have hhi := Int.lt_floor_add_one q
  constructor <;> linarith

theorem minutes_le (q : ℚ) : minutes q ≤ 600000 := minutesAt_le 4 (minutes_bounds q).2

/-- What is printed for one coordinate: digits of degrees and minutes around a point. -/
theorem coordinate_text_at {q min : ℚ} (h : 0 ≤ q) (hmin : 0 ≤ min) (width : Nat) {prec : Nat}
    (hp : 0 < prec) (rest : Bytes) :
    fmtFixed true width 0 (Double.fin q).floor.abs ++
      (fmtFixed true (2 + (prec + 1)) prec (.fin min) ++ rest) =
      zeroPad width (degrees q) ++ (zeroPad 2 (minutesAt prec min / 10 ^ prec) ++
        (str "." ++ (zeroPad prec (minutesAt prec min % 10 ^ prec) ++ rest))) := by
  have hfloor : (0 : ℚ) ≤ ⌊q⌋ := by exact_mod_cast Int.floor_nonneg.mpr h
  rw [Double.floor_fin, Double.abs_fin, abs_of_nonneg hfloor, fmtFixed_of_nonneg hfloor,
    fmtFixed_point hp hmin, pow_zero, mul_one, roundEven_intCast, List.append_assoc]
  rfl

theorem coordinate_text {q : ℚ} (h : 0 ≤ q) (width : Nat) (rest : Bytes) :
    fmtFixed true width 0 (Double.fin q).floor.abs ++
      (fmtFixed true 7 4 (60.0 * (Double.fin q - (Double.fin q).floor.abs)).abs ++ rest) =
      zeroPad width (degrees q) ++ (zeroPad 2 (minutes q / 10 ^ 4) ++
        (str "." ++ (zeroPad 4 (minutes q % 10 ^ 4) ++ rest))) := by
  have hfloor : (0 : ℚ) ≤ ⌊q⌋ := by exact_mod_cast Int.floor_nonneg.mpr h
  have hmin := (minutes_bounds q).1
  have hvalue : (60.0 * (Double.fin q - (Double.fin q).floor.abs)).abs =
      .fin (60 * (q - ⌊q⌋)) := by
    rw [sixty_eq, Double.floor_fin, Double.abs_fin, abs_of_nonneg hfloor, Double.fin_sub,
      Double.fin_mul, Double.abs_fin, abs_of_nonneg hmin]
  rw [hvalue]
  exact coordinate_text_at h hmin width (Nat.succ_pos 3) rest

theorem coordinate_sub_le {q : ℚ} (h : 0 ≤ q) :
    |degrees q + minutes q / 10 ^ 4 / 60 - q| * 60 ≤ 0.00005 := by
  have hmin : |(minutes q : ℚ) / 10 ^ 4 - 60 * (q - ⌊q⌋)| ≤ 1 / 2 / 10 ^ 4 :=
    minutesAt_sub_le 4 (minutes_bounds q).1
  rw [← degrees_eq h] at hmin
  rw [← le_div_iff₀ (by norm_num)]
  rw [abs_le] at hmin ⊢
  constructor <;> linarith [hmin.1, hmin.2]

/-! ## The round trip -/

/-- A fix that is neither south of the equator nor west of Greenwich, and a time of day. -/
structure Fix where
  position : GpsPosition
  utc : Tm
  latitude : ℚ
  longitude : ℚ
  geoid : ℚ
  latitude_eq : position.m_position.latitude = .fin latitude
  longitude_eq : position.m_position.longitude = .fin longitude
  geoid_eq : position.m_geoid = .fin geoid
  latitude_range : 0 ≤ latitude ∧ latitude ≤ 90
  longitude_range : 0 ≤ longitude ∧ longitude ≤ 180
  -- every finite double
  geoid_range : 0 ≤ geoid ∧ geoid ≤ Double.dblMax
  altitude_nonneg : 0 ≤ position.m_position.altitude.toInt
  satellites_lt : position.m_nrOfSatellites.toNat < 100
  hour_range : 0 ≤ utc.tm_hour ∧ utc.tm_hour < 24
  minute_range : 0 ≤ utc.tm_min ∧ utc.tm_min < 60
  second_range : 0 ≤ utc.tm_sec ∧ utc.tm_sec < 60

namespace Fix

/-- The printed tenths of the geoid separation. -/
def tenths (f : Fix) : Nat := (roundEven (f.geoid * 10 ^ 1)).toNat

theorem tenths_eq (f : Fix) : (f.tenths : ℚ) = roundEven (f.geoid * 10 ^ 1) := by
  have hnonneg : 0 ≤ roundEven (f.geoid * 10 ^ 1) := by
    apply roundEven_nonneg
    linarith [f.geoid_range.1]
  have hint : (f.tenths : Int) = roundEven (f.geoid * 10 ^ 1) := Int.toNat_of_nonneg hnonneg
  exact_mod_cast hint

theorem tenths_le (f : Fix) : (f.tenths : ℚ) / 10 ^ 1 ≤ Double.dblMax := by
  -- The largest double is an integer, so rounding does not pass it.
  obtain ⟨n, hn⟩ := Double.dblMax_eq_intCast
  have hround : roundEven (f.geoid * 10 ^ 1) ≤ n * 10 := by
    apply roundEven_le
    have hle := f.geoid_range.2
    push_cast
    linarith
  have hcast : (roundEven (f.geoid * 10 ^ 1) : ℚ) ≤ n * 10 := by exact_mod_cast hround
  rw [f.tenths_eq, hn, div_le_iff₀ (by norm_num), pow_one]
  rwa [pow_one] at hcast

theorem tenths_sub_le (f : Fix) : |(f.tenths : ℚ) / 10 ^ 1 - f.geoid| ≤ 0.05 := by
  have hround := roundEven_sub_le (f.geoid * 10 ^ 1)
  rw [f.tenths_eq]
  rw [abs_le] at hround ⊢
  constructor <;> linarith [hround.1, hround.2]

/-- The sentence of the fix, in the fields of the expression. -/
def gga (f : Fix) : GpsParser.Gga where
  time := zeroPad 2 f.utc.tm_hour.toNat ++
    (zeroPad 2 f.utc.tm_min.toNat ++ zeroPad 2 f.utc.tm_sec.toNat)
  lat := zeroPad 2 (degrees f.latitude) ++ zeroPad 2 (minutes f.latitude / 10 ^ 4)
  latFrac := zeroPad 4 (minutes f.latitude % 10 ^ 4)
  ns := ch 'N'
  lon := zeroPad 3 (degrees f.longitude) ++ zeroPad 2 (minutes f.longitude / 10 ^ 4)
  lonFrac := zeroPad 4 (minutes f.longitude % 10 ^ 4)
  ew := ch 'E'
  sats := zeroPad 2 f.position.m_nrOfSatellites.toNat
  alt := numeral 10 f.position.m_position.altitude.toInt.toNat
  geoid := numeral 10 (f.tenths / 10 ^ 1)
  geoidFrac := zeroPad 1 (f.tenths % 10 ^ 1)
  time_run := by
    have hh := f.hour_range
    have hm := f.minute_range
    have hs := f.second_range
    exact run_HHMMSS (by omega) (by omega) (by omega)
  lat_run := by
    have hdeg := degrees_le (n := 90) f.latitude_range.1 f.latitude_range.2
    have hmin := minutes_le f.latitude
    exact (run_zeroPad (by omega) (by omega)).append (run_zeroPad (by omega) (by omega)) rfl
  latFrac_run := run_zeroPad (by omega) (Nat.mod_lt _ (by omega))
  ns_mem := Or.inl rfl
  lon_run := by
    have hdeg := degrees_le (n := 180) f.longitude_range.1 f.longitude_range.2
    have hmin := minutes_le f.longitude
    exact (run_zeroPad (by omega) (by omega)).append (run_zeroPad (by omega) (by omega)) rfl
  lonFrac_run := run_zeroPad (by omega) (Nat.mod_lt _ (by omega))
  ew_mem := Or.inl rfl
  sats_run := run_zeroPad (by omega) f.satellites_lt
  alt_digits := ⟨numeral_ne_nil _ _, fun _ hb => isDigit_of_mem_numeral hb⟩
  geoid_digits := ⟨numeral_ne_nil _ _, fun _ hb => isDigit_of_mem_numeral hb⟩
  geoidFrac_digits := by
    have hrun : Regex.Run isDigit 1 (zeroPad 1 (f.tenths % 10 ^ 1)) :=
      run_zeroPad (by omega) (Nat.mod_lt _ (by omega))
    exact ⟨hrun.ne_nil Nat.one_pos, hrun.all⟩

/-- The processor prints that sentence. -/
theorem textGPGGA_eq (f : Fix) (this : GpsProcessor) :
    (this.evalPosition f.position.m_position.latitude
      f.position.m_position.longitude).textGPGGA f.position f.utc =
      ch '$' :: (f.gga.body ++ [ch '*']) := by
  have hhead : str "$GPGGA," = ch '$' :: str "GPGGA," := by decide
  have htail : str ",M,,*" = str ",M,," ++ [ch '*'] := by decide
  have hpoint : ∀ s : Bytes, ch '.' :: s = str "." ++ s := fun _ => rfl
  have hsn : ¬ Double.fin f.latitude < 0 := Double.not_fin_lt_zero f.latitude_range.1
  have hew : ¬ Double.fin f.longitude < 0 := Double.not_fin_lt_zero f.longitude_range.1
  -- Both sides are the same pieces in the same order once the conversions are spelled out.
  unfold textGPGGA evalPosition GpsParser.Gga.body gga
  simp only [f.latitude_eq, f.longitude_eq, f.geoid_eq, if_neg hsn, if_neg hew, hhead, htail,
    fmtInt_of_nonneg f.hour_range.1, fmtInt_of_nonneg f.minute_range.1,
    fmtInt_of_nonneg f.second_range.1, fmtInt_blank_of_nonneg f.altitude_nonneg,
    fmtFixed_blank_of_nonneg (Nat.one_pos) f.geoid_range.1, List.append_assoc, hpoint,
    coordinate_text f.latitude_range.1, coordinate_text f.longitude_range.1]
  rfl

theorem alt_length_le (f : Fix) : f.gga.alt.length ≤ 10 := by
  have hlt := f.position.m_position.altitude.toInt_lt
  apply numeral_length_le 10 _ 10 (by omega) (by omega)
  omega

-- The largest double has 309 digits; a rough bound is enough for the array.
theorem geoid_length_le (f : Fix) : f.gga.geoid.length ≤ 400 := by
  apply numeral_length_le 10 _ 400 (by omega) (by omega)
  have hle : ((f.tenths / 10 ^ 1 : Nat) : ℚ) ≤ f.tenths / 10 ^ 1 := by
    exact_mod_cast Nat.cast_div_le
  have hlt := (hle.trans f.tenths_le).trans_lt dblMax_lt_ten_pow
  exact_mod_cast hlt

theorem geoidFrac_length (f : Fix) : f.gga.geoidFrac.length = 1 :=
  zeroPad_length (by omega) (Nat.mod_lt _ (by omega))

theorem body_fits (f : Fix) : f.gga.body.length + 2 ≤ 4095 := by
  have halt := f.alt_length_le
  have hgeoid := f.geoid_length_le
  rw [f.gga.body_length, f.geoidFrac_length]
  omega

theorem sentence_eq (f : Fix) (this : GpsProcessor) :
    Processor.sentence ((this.evalPosition f.position.m_position.latitude
      f.position.m_position.longitude).textGPGGA f.position f.utc) = f.gga.sentence := by
  rw [f.textGPGGA_eq, Processor.sentence_plain f.gga.body_plain f.body_fits]
  rfl

/-- The position the parser makes of the sentence. -/
def parsed (f : Fix) (clock : DateTime) (target : GpsPosition) : GpsPosition :=
  let value : Int := f.utc.tm_hour * 3600000 + f.utc.tm_min * 60000 + f.utc.tm_sec * 1000
  { target with
    m_position := {
      latitude := .fin (degrees f.latitude + minutes f.latitude / 10 ^ 4 / 60)
      longitude := .fin (degrees f.longitude + minutes f.longitude / 10 ^ 4 / 60)
      altitude := f.position.m_position.altitude }
    m_timeStamp := {
      m_value := value
      m_day := if value ≥ clock.now then clock.day - 1 else clock.day }
    m_fixQuality := 1
    m_nrOfSatellites := f.position.m_nrOfSatellites
    m_dilution := 1
    m_geoid := .fin (f.tenths / 10 ^ 1) }

/-! ### The fields of the sentence, read back -/

theorem stod_altitude (f : Fix) : stod f.gga.alt =
    .ok (.fin f.position.m_position.altitude.toInt.toNat) := by
  rw [stod_digits f.gga.alt_digits.1 f.gga.alt_digits.2 (f.alt_length_le.trans (by omega))]
  rw [gga, natVal_numeral 10 _ (by omega) (by omega)]

theorem stod_geoid (f : Fix) :
    stod (f.gga.geoid ++ (str "." ++ f.gga.geoidFrac)) = .ok (.fin (f.tenths / 10 ^ 1)) := by
  have hval : decimalVal f.gga.geoid f.gga.geoidFrac = f.tenths / 10 ^ 1 := by
    have hfixed := decimalVal_fixed 1 f.tenths 0 (by omega)
    rw [zeroPad_zero] at hfixed
    exact hfixed
  rw [← hval]
  apply stod_point f.gga.geoid_digits.1 f.gga.geoid_digits.2 f.gga.geoidFrac_digits.2
  · rw [f.geoidFrac_length]
    omega
  · rw [hval]
    exact f.tenths_le

theorem make_time (f : Fix) (clock : DateTime) (target : GpsPosition) :
    TimeStamp.make clock f.gga.time .HHMMSS = .ok (f.parsed clock target).m_timeStamp := by
  have hh := f.hour_range
  have hm := f.minute_range
  have hs := f.second_range
  have hmake := TimeStamp.make_HHMMSS clock (h := f.utc.tm_hour.toNat)
    (m := f.utc.tm_min.toNat) (s := f.utc.tm_sec.toNat) (by omega) (by omega) (by omega)
  rw [Int.toNat_of_nonneg hh.1, Int.toNat_of_nonneg hm.1, Int.toNat_of_nonneg hs.1] at hmake
  exact hmake

-- The altitude is printed as an integer, read as a double and rounded.
theorem doubleToInt_altitude (f : Fix) :
    Math.doubleToInt (.fin f.position.m_position.altitude.toInt.toNat) =
      f.position.m_position.altitude := by
  have hlt := f.position.m_position.altitude.toInt_lt
  have hnonneg := f.altitude_nonneg
  rw [Math.doubleToInt_natCast (by omega), Int.toNat_of_nonneg hnonneg, Int32.ofInt_toInt]

theorem signed_latitude (f : Fix) :
    signed [ch 'N'] (str "S") (Math.dmToDeg (.fin (decimalVal f.gga.lat f.gga.latFrac))) =
      .fin (degrees f.latitude + minutes f.latitude / 10 ^ 4 / 60) := by
  have hlt := minutes_le f.latitude
  rw [signed, if_neg (by decide)]
  exact dmToDeg_text (by omega) (by omega)

theorem signed_longitude (f : Fix) :
    signed [ch 'E'] (str "W") (Math.dmToDeg (.fin (decimalVal f.gga.lon f.gga.lonFrac))) =
      .fin (degrees f.longitude + minutes f.longitude / 10 ^ 4 / 60) := by
  have hlt := minutes_le f.longitude
  rw [signed, if_neg (by decide)]
  exact dmToDeg_text (by omega) (by omega)

theorem ofInt_satellites (n : UInt8) : UInt8.ofInt (n.toNat : Int) = n := by
  have hlt := n.toNat_lt
  have hmod : ((n.toNat : Int) % 2 ^ 8).toNat = n.toNat := by omega
  rw [UInt8.ofInt, hmod, UInt8.ofNat_toNat]

open GpsParser in
theorem parsePosition_gga (f : Fix) (clock : DateTime) (target : GpsPosition) :
    (parsePosition clock f.gga.groups).run.run target = (.ok true, f.parsed clock target) := by
  have hlat : stod (f.gga.groups RE_GGA_LAT) = .ok (.fin (decimalVal f.gga.lat f.gga.latFrac)) :=
    stod_coordinate (by omega) (by omega) (by omega) f.gga.lat_run f.gga.latFrac_run
  have hlon : stod (f.gga.groups RE_GGA_LON) = .ok (.fin (decimalVal f.gga.lon f.gga.lonFrac)) :=
    stod_coordinate (by omega) (by omega) (by omega) f.gga.lon_run f.gga.lonFrac_run
  have halt : stod (f.gga.groups RE_GGA_ALT) =
      .ok (.fin f.position.m_position.altitude.toInt.toNat) := f.stod_altitude
  have hgeoid : stod (f.gga.groups RE_GGA_GEOID) = .ok (.fin (f.tenths / 10 ^ 1)) := f.stod_geoid
  have htime : TimeStamp.make clock (f.gga.groups RE_GGA_TIME) .HHMMSS =
      .ok (f.parsed clock target).m_timeStamp := f.make_time clock target
  have hsats : stoi 10 (f.gga.groups RE_GGA_SAT) = .ok f.position.m_nrOfSatellites.toNat :=
    TimeStamp.stoi_zeroPad 2 (by have := f.satellites_lt; omega)
  have hdil : stod (f.gga.groups RE_GGA_DIL) = .ok 1 := by
    change stod (str "1") = .ok 1
    decide +kernel
  have hfix : stoi 10 (f.gga.groups RE_GGA_FIX) = .ok 1 := by
    change stoi 10 (str "1") = .ok 1
    decide
  have hnorth : f.gga.groups RE_GGA_LAT_DIR = [ch 'N'] := rfl
  have heast : f.gga.groups RE_GGA_LON_DIR = [ch 'E'] := rfl
  rw [parsePosition_of_fields hlat hlon halt htime hfix hsats hdil hgeoid, hnorth, heast,
    f.doubleToInt_altitude, f.signed_latitude, f.signed_longitude, ofInt_satellites]
  rfl

end Fix

/-- Whatever the processor holds from earlier calls and whatever the target of the parser holds,
the sentence of a fix is accepted and gives the fix back up to the printed decimals. -/
theorem appendGPGGA_unpack (f : Fix) (this : GpsProcessor) (boost : BoostRegex) (clock : DateTime)
    (target : GpsPosition) :
    ∃ sentence parsed,
      ((this.evalPosition f.position.m_position.latitude
        f.position.m_position.longitude).appendGPGGA f.position f.utc).m_processed =
        this.m_processed ++ sentence ∧
      GpsParser.unpack boost clock sentence target = (true, parsed) ∧
      parsed.m_position.altitude = f.position.m_position.altitude ∧
      parsed.m_nrOfSatellites = f.position.m_nrOfSatellites ∧
      (∃ latitude, parsed.m_position.latitude = .fin latitude ∧
        |latitude - f.latitude| * 60 ≤ 0.00005) ∧
      (∃ longitude, parsed.m_position.longitude = .fin longitude ∧
        |longitude - f.longitude| * 60 ≤ 0.00005) ∧
      (∃ geoid, parsed.m_geoid = .fin geoid ∧ |geoid - f.geoid| ≤ 0.05) ∧
      parsed.m_timeStamp.m_value =
        f.utc.tm_hour * 3600000 + f.utc.tm_min * 60000 + f.utc.tm_sec * 1000 := by
  refine ⟨f.gga.sentence, f.parsed clock target, ?_, ?_, rfl, rfl,
    ⟨_, rfl, coordinate_sub_le f.latitude_range.1⟩, ⟨_, rfl, coordinate_sub_le f.longitude_range.1⟩,
    ⟨_, rfl, f.tenths_sub_le⟩, rfl⟩
  · rw [appendGPGGA_processed, f.sentence_eq]
    rfl
  · rw [f.gga.unpack_sentence, f.parsePosition_gga]

example : Nonempty Fix := ⟨{
  position := { m_position := { latitude := .fin 47, longitude := .fin 8, altitude := 500 }
                m_geoid := .fin 48 }
  utc := { tm_sec := 59, tm_min := 59, tm_hour := 23, tm_mday := 1, tm_mon := 0, tm_year := 118 }
  latitude := 47
  longitude := 8
  geoid := 48
  latitude_eq := rfl
  longitude_eq := rfl
  geoid_eq := rfl
  latitude_range := by norm_num
  longitude_range := by norm_num
  geoid_range := by decide +kernel
  altitude_nonneg := by decide
  satellites_lt := by decide
  hour_range := by decide
  minute_range := by decide
  second_range := by decide }⟩

end GpsProcessor

end VirtualFlightRadar
