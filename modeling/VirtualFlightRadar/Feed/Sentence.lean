import VirtualFlightRadar.Data.GpsProcessor
import VirtualFlightRadar.Feed.AprsParser
import VirtualFlightRadar.Feed.GpsParser

/-!
# Sentences that verify

The texts of the processors are a `$`, a body of printable characters and a `*`.  A body that fits
the buffer makes a sentence with two checksum digits, which the receive check of the parsers
accepts.
-/

open Cxx

namespace VirtualFlightRadar

-- Printable ASCII other than `*` and `$`
def isText (b : UInt8) : Bool := 32 ≤ b && b ≤ 126 && b != ch '*' && b != ch '$'

/-- A part of a body, with the number of its commas and a bound on its length. -/
structure Text (commas len : Nat) (s : Bytes) : Prop where
  all : ∀ b ∈ s, isText b = true
  count : s.count (ch ',') = commas
  length : s.length ≤ len

namespace Text

variable {commas commas' len len' : Nat} {s t : Bytes}

theorem append (hs : Text commas len s) (ht : Text commas' len' t) :
    Text (commas + commas') (len + len') (s ++ t) where
  all := List.forall_mem_append.mpr ⟨hs.all, ht.all⟩
  count := by rw [List.count_append, hs.count, ht.count]
  length := by
    have hlen := hs.length
    have hlen' := ht.length
    rw [List.length_append]
    omega

theorem mono (hs : Text commas len s) (hlen : len ≤ len') : Text commas len' s :=
  ⟨hs.all, hs.count, hs.length.trans hlen⟩

theorem isText_of_isConverted : ∀ b : UInt8, isConverted b = true →
    isText b = true ∧ b ≠ ch ',' := by
  decide +kernel

theorem ofConverted (h : ∀ b ∈ s, isConverted b = true) (hlen : s.length ≤ len) :
    Text 0 len s where
  all b hb := (isText_of_isConverted b (h b hb)).1
  count := List.count_eq_zero_of_not_mem fun hmem => (isText_of_isConverted _ (h _ hmem)).2 rfl
  length := hlen

theorem comma : Text 1 1 (str ",") := by constructor <;> decide

theorem fmtInt (zero : Bool) (width : Nat) (hwidth : width ≤ 11) {n : Int}
    (hn : n.natAbs < 10 ^ 10) : Text 0 11 (fmtInt zero width n) := by
  have hlen := fmtInt_length_le zero width hn
  exact .ofConverted (isConverted_fmtInt zero width n) (by omega)

theorem fmtInt32 (zero : Bool) (width : Nat) (hwidth : width ≤ 11) (n : Int32) :
    Text 0 11 (Cxx.fmtInt zero width n.toInt) := by
  have hlo := n.le_toInt
  have hhi := n.toInt_lt
  exact fmtInt zero width hwidth (by omega)

theorem numeral {n : Nat} (hn : n < 1000) : Text 0 3 (Cxx.numeral 10 n) :=
  .ofConverted (isConverted_numeral (by omega) (by omega))
    (numeral_length_le 10 n 3 (by omega) (by omega) hn)

theorem fmtFixed (zero : Bool) (width prec : Nat) {k : Nat} {x : Double} (hk : 4 ≤ k)
    (hwidth : width ≤ k + prec + 3) (hx : ∀ q, x = .fin q → |q| ≤ 10 ^ k) :
    Text 0 (k + prec + 3) (fmtFixed zero width prec x) := by
  have hlen := fmtFixed_length_le zero width prec hk hx
  exact .ofConverted (isConverted_fmtFixed zero width prec x) (by omega)

theorem isPlain_of_isText : ∀ b : UInt8, isText b = true → Math.isPlain b = true := by
  decide +kernel

theorem plain (hs : Text commas len s) : ∀ b ∈ s, Math.isPlain b = true :=
  fun b hb => isPlain_of_isText b (hs.all b hb)

end Text

/-! ## The receive check -/

/-- `$`, a body, `*`, two hexadecimal digits and CRLF, with the checksum the parsers compare. -/
def Verifies (s : Bytes) : Prop :=
  ∃ body hh, s = ch '$' :: (body ++ ch '*' :: (hh ++ str "\r\n")) ∧
    ch '$' ∉ body ∧ ch '*' ∉ body ∧ hh.length = 2 ∧ (∀ b ∈ hh, isXDigit b = true) ∧
    GpsParser.checksumField s = .ok (Math.checksum s s.length).toInt

theorem verifies_of_text {commas len : Nat} {body : Bytes} (h : Text commas len body)
    (hlen : len + 2 ≤ 4095) : Verifies (Processor.sentence (ch '$' :: (body ++ [ch '*']))) := by
  have hfit : body.length + 2 ≤ 4095 := by
    have hle := h.length
    omega
  have hdollar : ch '$' ∉ body := fun hmem => absurd (h.all _ hmem) (by decide)
  have hstar : ch '*' ∉ body := fun hmem => absurd (h.all _ hmem) (by decide)
  obtain ⟨hcount, hdigits, -⟩ := GpsParser.csumDigits_spec (Math.xorAll_lt h.plain)
  rw [Processor.sentence_plain h.plain hfit]
  exact ⟨body, _, rfl, hdollar, hstar, hcount, fun b hb => decide_eq_true (hdigits b hb),
    GpsParser.checksumField_sentence h.plain⟩

/-! ## Aircraft reports -/

namespace AircraftProcessor

/-- What stands between `$` and the id in a PFLAU text. -/
def frontPFLAU (rel : RelPosition) : Bytes :=
  str "PFLAU,,,,1,0," ++ (fmtD (Math.doubleToInt rel.m_relBearing) ++ (str ",0," ++
    (fmtD rel.m_relVertical ++ (str "," ++ (fmtD rel.m_distance ++ str ",")))))

def frontPFLAA (rel : RelPosition) (aircraft : Aircraft) : Bytes :=
  str "PFLAA,0," ++ (fmtD rel.m_relNorth ++ (str "," ++ (fmtD rel.m_relEast ++ (str "," ++
    (fmtD rel.m_relVertical ++ (str "," ++
      ((if aircraft.m_fullInfo then numeral 10 aircraft.m_idType.raw.toNat else str "1") ++
        str ",")))))))

/-- What stands between the id and `*` in a PFLAA text. -/
def backPFLAA (aircraft : Aircraft) : Bytes :=
  str "," ++ ((if aircraft.m_fullInfo then
      fmtInt true 3 (Math.doubleToInt aircraft.m_movement.heading).toInt ++ (str ",," ++
        (fmtD (Math.doubleToInt (aircraft.m_movement.gndSpeed * Math.MS_2_KMH)) ++ (str "," ++
          fmtFixed false 3 1 aircraft.m_movement.climbRate)))
    else str ",,,") ++ (str "," ++ fmtHexUpper aircraft.m_aircraftType.raw))

theorem textPFLAU_eq (rel : RelPosition) (aircraft : Aircraft) :
    textPFLAU rel aircraft =
      ch '$' :: (frontPFLAU rel ++ cstr aircraft.m_id ++ [ch '*']) := by
  have hhead : str "$PFLAU,,,,1,0," = ch '$' :: str "PFLAU,,,,1,0," := by decide
  have hstar : str "*" = [ch '*'] := by decide
  unfold textPFLAU frontPFLAU
  rw [hhead, hstar]
  simp only [List.append_assoc, List.cons_append]

theorem textPFLAA_eq (rel : RelPosition) (aircraft : Aircraft) :
    textPFLAA rel aircraft =
      ch '$' :: (frontPFLAA rel aircraft ++ cstr aircraft.m_id ++ backPFLAA aircraft ++
        [ch '*']) := by
  have hhead : str "$PFLAA,0," = ch '$' :: str "PFLAA,0," := by decide
  have hstar : str "*" = [ch '*'] := by decide
  have hone : str ",1," = str "," ++ (str "1" ++ str ",") := by decide
  have hcommas : str ",,,,," = str "," ++ (str ",,," ++ str ",") := by decide
  unfold textPFLAA frontPFLAA backPFLAA
  rw [hhead, hstar, hone, hcommas]
  split <;> simp only [List.append_assoc, List.cons_append]

theorem text_frontPFLAU (rel : RelPosition) : Text 10 51 (frontPFLAU rel) := by
  have hhead : Text 6 13 (str "PFLAU,,,,1,0,") := by constructor <;> decide
  have hzero : Text 2 3 (str ",0,") := by constructor <;> decide
  have hnumber (n : Int32) : Text 0 11 (fmtD n) := .fmtInt32 false 0 (by omega) n
  exact hhead.append ((hnumber _).append (hzero.append ((hnumber _).append (Text.comma.append
    ((hnumber _).append .comma)))))

theorem text_frontPFLAA (rel : RelPosition) (aircraft : Aircraft) :
    Text 6 48 (frontPFLAA rel aircraft) := by
  have hhead : Text 2 8 (str "PFLAA,0,") := by constructor <;> decide
  have hnumber (n : Int32) : Text 0 11 (fmtD n) := .fmtInt32 false 0 (by omega) n
  have hidType : Text 0 3 (if aircraft.m_fullInfo then numeral 10 aircraft.m_idType.raw.toNat
      else str "1") := by
    split
    · have hlt := aircraft.m_idType.raw.toNat_lt
      exact .numeral (by omega)
    · constructor <;> decide
  exact hhead.append ((hnumber _).append (Text.comma.append ((hnumber _).append
    (Text.comma.append ((hnumber _).append (Text.comma.append (hidType.append .comma)))))))

theorem inRange_le_pow {x : Double} (h : x.InRange) : ∀ q, x = .fin q → |q| ≤ 10 ^ 400 :=
  fun q hq => (h q hq).trans dblMax_lt_ten_pow.le

theorem text_backPFLAA {aircraft : Aircraft} (hclimb : aircraft.m_movement.climbRate.InRange) :
    Text 5 433 (backPFLAA aircraft) := by
  have htype : Text 0 2 (fmtHexUpper aircraft.m_aircraftType.raw) :=
    .ofConverted (isConverted_fmtHexUpper _) (fmtHexUpper_length_le _)
  have hmovement : Text 3 429 (if aircraft.m_fullInfo then
      fmtInt true 3 (Math.doubleToInt aircraft.m_movement.heading).toInt ++ (str ",," ++
        (fmtD (Math.doubleToInt (aircraft.m_movement.gndSpeed * Math.MS_2_KMH)) ++ (str "," ++
          fmtFixed false 3 1 aircraft.m_movement.climbRate)))
      else str ",,,") := by
    split
    · have hcommas : Text 2 2 (str ",,") := by constructor <;> decide
      -- The climb rate is the only number that is printed as a double, with up to 400 digits.
      have hclimbRate := Text.fmtFixed false 3 1 (by omega) (by omega)
        (inRange_le_pow hclimb)
      exact (Text.fmtInt32 true 3 (by omega) _).append (hcommas.append
        ((Text.fmtInt32 false 0 (by omega) _).append (Text.comma.append hclimbRate)))
    · have hcommas : Text 3 3 (str ",,,") := by constructor <;> decide
      exact hcommas.mono (by omega)
  exact Text.comma.append (hmovement.append (Text.comma.append htype))

end AircraftProcessor

/-! ## GPS sentences -/

/-- Every member of a `std::tm` is an `int`. -/
def Tm.InRange (utc : Tm) : Prop :=
  ∀ n ∈ [utc.tm_sec, utc.tm_min, utc.tm_hour, utc.tm_mday, utc.tm_mon, utc.tm_year],
    -2 ^ 31 ≤ n ∧ n < 2 ^ 31

namespace GpsProcessor

/-- What `evalPosition` leaves in the members that the texts print. -/
structure Coordinates (this : GpsProcessor) : Prop where
  directionSN : Text 0 1 [this.m_directionSN]
  directionEW : Text 0 1 [this.m_directionEW]
  degLatitude : ∀ q, this.m_degLatitude = .fin q → |q| ≤ 10 ^ 403
  minLatitude : ∀ q, this.m_minLatitude = .fin q → |q| ≤ 10 ^ 403
  degLongitude : ∀ q, this.m_degLongitude = .fin q → |q| ≤ 10 ^ 403
  minLongitude : ∀ q, this.m_minLongitude = .fin q → |q| ≤ 10 ^ 403

theorem abs_floor_le (q : ℚ) : |(⌊q⌋ : ℚ)| ≤ |q| + 1 := by
  have hlo := Int.floor_le q
  have hhi := Int.lt_floor_add_one q
  have hself := le_abs_self q
  have hneg := neg_abs_le q
  rw [abs_le]
  constructor <;> linarith

theorem ten_pow_403 : (10 : ℚ) ^ 403 = 1000 * 10 ^ 400 ∧ (1 : ℚ) ≤ 10 ^ 400 := by
  refine ⟨?_, one_le_pow₀ (by norm_num)⟩
  rw [show 403 = 3 + 400 by rfl, pow_add]
  norm_num

theorem abs_degrees_le {x : Double} (h : x.InRange) : ∀ q, x.floor.abs = .fin q → |q| ≤ 10 ^ 403 := by
  intro q hq
  cases x with
  | fin p =>
      have hp := AircraftProcessor.inRange_le_pow h p rfl
      have hfloor := abs_floor_le p
      obtain ⟨hpow, hone⟩ := ten_pow_403
      cases hq
      rw [abs_abs, hpow]
      generalize (10 : ℚ) ^ 400 = bound at hp hone ⊢
      linarith
  | inf neg => cases hq
  | nan => cases hq

theorem abs_minutes_le {x : Double} (h : x.InRange) :
    ∀ q, (60.0 * (x - x.floor.abs)).abs = .fin q → |q| ≤ 10 ^ 403 := by
  intro q hq
  cases x with
  | fin p =>
      have hp := AircraftProcessor.inRange_le_pow h p rfl
      have hfloor := abs_floor_le p
      obtain ⟨hpow, hone⟩ := ten_pow_403
      rw [sixty_eq, Double.floor_fin, Double.abs_fin, Double.fin_sub, Double.fin_mul,
        Double.abs_fin] at hq
      cases hq
      have hsub := abs_sub p (abs (⌊p⌋ : ℚ))
      rw [abs_abs] at hsub
      rw [abs_abs, abs_mul, abs_of_nonneg (by norm_num : (0 : ℚ) ≤ 60), hpow]
      generalize (10 : ℚ) ^ 400 = bound at hp hone ⊢
      linarith
  -- Infinite and undefined coordinates stay so.
  | inf neg =>
      rw [sixty_eq] at hq
      cases neg <;> cases hq
  | nan => cases hq

theorem text_direction (c : Prop) [Decidable c] {x y : UInt8} (hx : Text 0 1 [x])
    (hy : Text 0 1 [y]) : Text 0 1 [if c then x else y] := by
  split
  · exact hx
  · exact hy

theorem coordinates_evalPosition {latitude longitude : Double} (hlat : latitude.InRange)
    (hlon : longitude.InRange) : Coordinates (evalPosition {} latitude longitude) where
  directionSN := by
    apply text_direction
    · constructor <;> decide
    · constructor <;> decide
  directionEW := by
    apply text_direction
    · constructor <;> decide
    · constructor <;> decide
  degLatitude := abs_degrees_le hlat
  minLatitude := abs_minutes_le hlat
  degLongitude := abs_degrees_le hlon
  minLongitude := abs_minutes_le hlon

theorem textGPGGA_body {this : GpsProcessor} (h : Coordinates this) {position : GpsPosition}
    (hgeoid : ∀ q, position.m_geoid = .fin q → |q| ≤ 10 ^ 400) {utc : Tm} (hutc : utc.InRange) :
    ∃ body, this.textGPGGA position utc = ch '$' :: (body ++ [ch '*']) ∧ Text 14 2200 body := by
  have hhead : Text 1 6 (str "GPGGA,") := by constructor <;> decide
  have hone : Text 2 3 (str ",1,") := by constructor <;> decide
  have hmeter : Text 2 3 (str ",M,") := by constructor <;> decide
  have htail : Text 3 4 (str ",M,,") := by constructor <;> decide
  have htime (n : Int) (hn : -2 ^ 31 ≤ n ∧ n < 2 ^ 31) : Text 0 11 (fmtInt true 2 n) :=
    .fmtInt true 2 (by omega) (by omega)
  have hsats : Text 0 3 (zeroPad 2 position.m_nrOfSatellites.toNat) := by
    have hlt := position.m_nrOfSatellites.toNat_lt
    have hlen := numeral_length_le 10 position.m_nrOfSatellites.toNat 3 (by omega) (by omega)
      (by omega)
    refine .ofConverted (isConverted_zeroPad _ _) ?_
    rw [zeroPad, padLeft_length]
    omega
  have hbody := hhead.append ((htime utc.tm_hour (hutc _ (by simp))).append
    ((htime utc.tm_min (hutc _ (by simp))).append ((htime utc.tm_sec (hutc _ (by simp))).append
    (Text.comma.append ((Text.fmtFixed true 2 0 (by omega) (by omega) h.degLatitude).append
    ((Text.fmtFixed true 7 4 (by omega) (by omega) h.minLatitude).append
    (Text.comma.append (h.directionSN.append (Text.comma.append
    ((Text.fmtFixed true 3 0 (by omega) (by omega) h.degLongitude).append
    ((Text.fmtFixed true 7 4 (by omega) (by omega) h.minLongitude).append
    (Text.comma.append (h.directionEW.append (hone.append (hsats.append (hone.append
    ((Text.fmtInt32 false 0 (by omega) position.m_position.altitude).append (hmeter.append
    ((Text.fmtFixed false 0 1 (by omega) (by omega) hgeoid).append htail)))))))))))))))))))
  refine ⟨_, ?_, hbody.mono (by omega)⟩
  have hdollar : str "$GPGGA," = ch '$' :: str "GPGGA," := by decide
  have hstar : str ",M,,*" = str ",M,," ++ [ch '*'] := by decide
  unfold textGPGGA
  rw [hdollar, hstar]
  simp only [List.append_assoc, List.cons_append]

theorem textGPRMC_body {this : GpsProcessor} (h : Coordinates this) {utc : Tm}
    (hutc : utc.InRange) :
    ∃ body, this.textGPRMC utc = ch '$' :: (body ++ [ch '*']) ∧ Text 11 2200 body := by
  have hhead : Text 1 6 (str "GPRMC,") := by constructor <;> decide
  have hactive : Text 2 3 (str ",A,") := by constructor <;> decide
  have hcourse : Text 3 5 (str ",0,0,") := by constructor <;> decide
  have htail : Text 2 8 (str ",001.0,W") := by constructor <;> decide
  have hint (n : Int) (hn : -2 ^ 32 < n ∧ n < 2 ^ 32) : Text 0 11 (fmtInt true 2 n) :=
    .fmtInt true 2 (by omega) (by omega)
  have hsec := hutc utc.tm_sec (by simp)
  have hmin := hutc utc.tm_min (by simp)
  have hhour := hutc utc.tm_hour (by simp)
  have hmday := hutc utc.tm_mday (by simp)
  have hmon := hutc utc.tm_mon (by simp)
  have hyear := hutc utc.tm_year (by simp)
  have hbody := hhead.append ((hint utc.tm_hour (by omega)).append
    ((hint utc.tm_min (by omega)).append ((hint utc.tm_sec (by omega)).append
    (hactive.append ((Text.fmtFixed true 2 0 (by omega) (by omega) h.degLatitude).append
    ((Text.fmtFixed true 5 2 (by omega) (by omega) h.minLatitude).append
    (Text.comma.append (h.directionSN.append (Text.comma.append
    ((Text.fmtFixed true 3 0 (by omega) (by omega) h.degLongitude).append
    ((Text.fmtFixed true 5 2 (by omega) (by omega) h.minLongitude).append
    (Text.comma.append (h.directionEW.append (hcourse.append
    ((hint utc.tm_mday (by omega)).append ((hint (utc.tm_mon + 1) (by omega)).append
    ((hint (utc.tm_year - 100) (by omega)).append htail)))))))))))))))))
  refine ⟨_, ?_, hbody.mono (by omega)⟩
  have hdollar : str "$GPRMC," = ch '$' :: str "GPRMC," := by decide
  have hstar : str ",001.0,W*" = str ",001.0,W" ++ [ch '*'] := by decide
  unfold textGPRMC
  rw [hdollar, hstar]
  simp only [List.append_assoc, List.cons_append]

end GpsProcessor

/-! ## Every sentence verifies -/

/-- A printable character that a field can hold. -/
def isIdChar (b : UInt8) : Bool := isText b && b != ch ','

theorem text_id {id : Bytes} (hid : ∀ b ∈ id, isIdChar b = true) (hlen : id.length ≤ 1000) :
    Text 0 1000 (cstr id) := by
  have hzero : (0 : UInt8) ∉ id := fun hmem => absurd (hid 0 hmem) (by decide)
  have hplain : ∀ b ∈ id, isText b = true ∧ b ≠ ch ',' := fun b hb => by
    have hchar := hid b hb
    rwa [isIdChar, Bool.and_eq_true, bne_iff_ne] at hchar
  rw [cstr_eq_self hzero]
  exact ⟨fun b hb => (hplain b hb).1,
    List.count_eq_zero_of_not_mem fun hmem => (hplain _ hmem).2 rfl, hlen⟩

/-- What the sentences of an aircraft need to verify. -/
structure Printable (x : Aircraft) : Prop where
  id : ∀ b ∈ x.m_id, isIdChar b = true
  length : x.m_id.length ≤ 1000
  climbRate : x.m_movement.climbRate.InRange

theorem isIdChar_of_isHexUpper : ∀ b : UInt8, Regex.icase isHexUpper b = true →
    isIdChar b = true := by
  decide +kernel

namespace AircraftProcessor

theorem verifies_report {aircraft : Aircraft} (hid : ∀ b ∈ aircraft.m_id, isIdChar b = true)
    (hlen : aircraft.m_id.length ≤ 1000) (hclimb : aircraft.m_movement.climbRate.InRange)
    (rel : RelPosition) :
    Verifies (Processor.sentence (textPFLAU rel aircraft)) ∧
      Verifies (Processor.sentence (textPFLAA rel aircraft)) := by
  have hbody := text_id hid hlen
  rw [textPFLAU_eq, textPFLAA_eq]
  exact ⟨verifies_of_text ((text_frontPFLAU rel).append hbody) (by omega),
    verifies_of_text (((text_frontPFLAA rel aircraft).append hbody).append
      (text_backPFLAA hclimb)) (by omega)⟩

end AircraftProcessor

/-- The geoid separation need not be in the range of doubles, if only the text fits. -/
theorem GpsProcessor.verifies_texts {position : GpsPosition} {utc : Tm}
    (hlat : position.m_position.latitude.InRange) (hlon : position.m_position.longitude.InRange)
    (hgeoid : ∀ q, position.m_geoid = .fin q → |q| ≤ 10 ^ 400) (hutc : utc.InRange) :
    Verifies (sentenceGPGGA utc position) ∧ Verifies (sentenceGPRMC utc position) := by
  have hcoordinates := coordinates_evalPosition hlat hlon
  obtain ⟨gga, hgga, htextGga⟩ := textGPGGA_body hcoordinates hgeoid hutc
  obtain ⟨rmc, hrmc, htextRmc⟩ := textGPRMC_body hcoordinates hutc
  unfold sentenceGPGGA sentenceGPRMC
  simp only [hgga, hrmc]
  exact ⟨verifies_of_text htextGga (by omega), verifies_of_text htextRmc (by omega)⟩

theorem GpsProcessor.verifies_sentences {position : GpsPosition} {utc : Tm}
    (hlat : position.m_position.latitude.InRange) (hlon : position.m_position.longitude.InRange)
    (hgeoid : position.m_geoid.InRange) (hutc : utc.InRange) :
    Verifies (sentenceGPGGA utc position) ∧ Verifies (sentenceGPRMC utc position) :=
  verifies_texts hlat hlon (AircraftProcessor.inRange_le_pow hgeoid) hutc

/-- Whatever a processor holds from earlier calls, it makes exactly two sentences of an aircraft
within its distance or of a position, from the object and the reference alone, and each of them
verifies.  The ids of APRS reports are among those that are asked for. -/
theorem processed_verifies (m : Libm) (this : AircraftProcessor) (aircraft : Aircraft)
    (hid : ∀ b ∈ aircraft.m_id, isIdChar b = true) (hlen : aircraft.m_id.length ≤ 1000)
    (hclimb : aircraft.m_movement.climbRate.InRange) (gps : GpsProcessor) (utc : Tm)
    (hutc : utc.InRange) (position : GpsPosition)
    (hlat : position.m_position.latitude.InRange) (hlon : position.m_position.longitude.InRange)
    (hgeoid : position.m_geoid.InRange) :
    (∀ rel : RelPosition,
      rel = AircraftProcessor.calculateRelPosition m this.m_refPosition this.m_refAtmPressure
        aircraft → rel.m_distance ≤ this.m_maxDistance →
      (this.process m aircraft).2.m_serialized =
        Processor.sentence (AircraftProcessor.textPFLAU rel aircraft) ++
          Processor.sentence (AircraftProcessor.textPFLAA rel aircraft)) ∧
    (∀ rel : RelPosition,
      Verifies (Processor.sentence (AircraftProcessor.textPFLAU rel aircraft)) ∧
        Verifies (Processor.sentence (AircraftProcessor.textPFLAA rel aircraft))) ∧
    (gps.process utc position).2.m_serialized =
      GpsProcessor.sentenceGPGGA utc position ++ GpsProcessor.sentenceGPRMC utc position ∧
    (Verifies (GpsProcessor.sentenceGPGGA utc position) ∧
      Verifies (GpsProcessor.sentenceGPRMC utc position)) ∧
    (∀ boost clock s_maxHeight sentence report report',
      AprsParser.unpack boost clock s_maxHeight sentence report = (true, report') →
      (∀ b ∈ report'.m_id, isIdChar b = true) ∧ report'.m_id.length ≤ 1000) := by
  refine ⟨fun rel hrel hwithin => ?_, AircraftProcessor.verifies_report hid hlen hclimb, ?_,
    GpsProcessor.verifies_sentences hlat hlon hgeoid hutc, ?_⟩
  · rw [(AircraftProcessor.process_spec m this aircraft).1]
    simp only [AircraftProcessor.report, ← hrel, hwithin, if_true]
  · rw [GpsProcessor.process_position]
  · intro boost clock s_maxHeight sentence report report' haccepted
    obtain ⟨-, -, comment, comGroups, hcomment, hreport⟩ := AprsParser.unpack_true haccepted
    have hrun := AprsParser.run_comment_id hcomment
    rw [hreport, hrun.length]
    exact ⟨fun b hb => isIdChar_of_isHexUpper b (hrun.all b hb), by omega⟩

theorem inRange_of_le {q : ℚ} (h : |q| ≤ 2 ^ 10) : (Double.fin q).InRange := by
  intro p hp
  cases hp
  have hpow : (2 : ℚ) ^ 10 ≤ 2 ^ 1000 := pow_le_pow_right₀ (by norm_num) (by norm_num)
  exact h.trans (hpow.trans two_pow_le_dblMax)

/-- A full report of an aircraft at the own position, and the own position at noon. -/
theorem processed_verifies_at_origin :
    ((AircraftProcessor.ofMaxDistance 0).process .atOrigin
      { m_id := str "DD1234", m_fullInfo := true,
        m_movement := {
          gndSpeed := 10, heading := 90, climbRate := .fin (-5 / 2) } }).2.m_serialized =
        str "$PFLAU,,,,1,0,0,0,0,0,DD1234*4b\r\n$PFLAA,0,0,0,0,1,DD1234,090,,36,-2.5,8*43\r\n" ∧
      Verifies (GpsProcessor.sentenceGPGGA ⟨0, 0, 12, 1, 0, 100⟩ {}) := by
  have h := processed_verifies .atOrigin (.ofMaxDistance 0)
    { m_id := str "DD1234", m_fullInfo := true,
      m_movement := { gndSpeed := 10, heading := 90, climbRate := .fin (-5 / 2) } }
    (by decide) (by decide) (inRange_of_le (by norm_num [abs_div]))
    {} ⟨0, 0, 12, 1, 0, 100⟩ (by unfold Tm.InRange; decide) {} (inRange_of_le (by norm_num))
    (inRange_of_le (by norm_num)) (inRange_of_le (by norm_num))
  refine ⟨(h.1 _ rfl (by decide +kernel)).trans ?_, h.2.2.2.1.1⟩
  decide +kernel

end VirtualFlightRadar
