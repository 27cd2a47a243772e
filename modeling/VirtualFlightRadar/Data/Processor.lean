import VirtualFlightRadar.Cxx.Printf
import VirtualFlightRadar.Util.Math
import VirtualFlightRadar.Object.Aircraft

/-!
# Processors

A processor formats sentences into one `char` array that it reuses for every sentence and for the
checksum text.  `sentence` is what one such round appends; it does not depend on the bytes an
earlier round left in the array.
-/

open Cxx

namespace VirtualFlightRadar

/-- `Processor<T>`, without the member the concrete class overrides. -/
structure Processor where
  -- The internal buffer for format strings
  m_buffer : CharArray 4096 := .zeros 4096
  -- Processing string
  m_processed : Bytes := []

namespace Processor

def finishSentence (this : Processor) : Processor :=
  -- The checksum is taken of the array before the array is overwritten with its text.
  let csum := Math.checksum this.m_buffer.bytes 4096
  let buffer := this.m_buffer.snprintf (fmtHex 2 csum.toUInt32 ++ str "\r\n")
  { m_buffer := buffer, m_processed := this.m_processed ++ cstr buffer.bytes }

/-- The body shared by all `append` members: format, append the array, finish. -/
def append (this : Processor) (text : Bytes) : Processor :=
  let buffer := this.m_buffer.snprintf text
  finishSentence { m_buffer := buffer, m_processed := this.m_processed ++ cstr buffer.bytes }

def checksumText (text : Bytes) : Bytes :=
  fmtHex 2 (Math.checksumFrom 0 ((text.take 4095).drop 1)).toUInt32 ++ str "\r\n"

/-- A formatted text, cut to the array, with its checksum and CRLF. -/
def sentence (text : Bytes) : Bytes := cstr (text.take 4095) ++ checksumText text

theorem fmtHex_length_le (n : UInt32) : (fmtHex 2 n).length ≤ 8 := by
  have hlen := numeral_length_le 16 n.toNat 8 (by omega) (by omega)
    (by have := n.toNat_lt; omega)
  rw [fmtHex, padLeft, List.length_append, List.length_replicate]
  omega

theorem zero_notMem_checksumText (text : Bytes) : (0 : UInt8) ∉ checksumText text := by
  unfold checksumText fmtHex padLeft
  rw [List.mem_append, List.mem_append, not_or, not_or]
  refine ⟨⟨fun h => ?_, fun h => ?_⟩, by decide⟩
  · exact absurd (List.eq_of_mem_replicate h) (by decide)
  · have hd := digitVal_of_mem_numeral (by omega) (by omega) h
    exact absurd hd (by decide)

theorem checksumText_length_lt (text : Bytes) : (checksumText text).length < 4095 := by
  have hlen := fmtHex_length_le (Math.checksumFrom 0 ((text.take 4095).drop 1)).toUInt32
  rw [checksumText, List.length_append, show (str "\r\n").length = 2 from rfl]
  omega

/-- One round appends the sentence of its text, whatever the array held before. -/
theorem append_processed (this : Processor) {text : Bytes} (hne : text ≠ []) :
    (this.append text).m_processed = this.m_processed ++ sentence text := by
  obtain ⟨c, t, rfl⟩ := List.exists_cons_of_ne_nil hne
  -- The checksum stops at the zero behind the text, so it does not read the old bytes.
  have hcsum : Math.checksum (this.m_buffer.snprintf (c :: t)).bytes 4096 =
      Math.checksumFrom 0 (((c :: t).take 4095).drop 1) := by
    have hlen := (this.m_buffer.snprintf (c :: t)).length_eq
    rw [Math.checksum, List.take_of_length_le (le_of_eq hlen)]
    simp only [CharArray.snprintf, List.take_succ_cons, List.cons_append, List.drop_one,
      List.tail_cons]
    exact Math.checksumFrom_append_zero _ _ _
  have htext : cstr ((checksumText (c :: t)).take 4095) = checksumText (c :: t) := by
    rw [List.take_of_length_le (checksumText_length_lt _).le,
      cstr_eq_self (zero_notMem_checksumText _)]
  simp only [append, finishSentence, hcsum, CharArray.cstr_snprintf, sentence]
  rw [List.append_assoc]
  exact congrArg (fun s => this.m_processed ++ (cstr ((c :: t).take 4095) ++ s)) htext

/-- The two digits of a checksum. -/
def csumDigits (x : UInt8) : Bytes := fmtHex 2 x.toInt8.toInt32.toUInt32

/-- A text without zeros that fits the array is appended whole, with the exclusive or of the bytes
between `$` and `*` behind it. -/
theorem sentence_plain {body : Bytes} (h : ∀ b ∈ body, Math.isPlain b = true)
    (hlen : body.length + 2 ≤ 4095) :
    sentence (ch '$' :: (body ++ [ch '*'])) =
      ch '$' :: (body ++ ch '*' :: (csumDigits (Math.xorAll body) ++ str "\r\n")) := by
  have htake : (ch '$' :: (body ++ [ch '*'])).take 4095 = ch '$' :: (body ++ [ch '*']) := by
    apply List.take_of_length_le
    simp only [List.length_cons, List.length_append, List.length_nil]
    omega
  have hzero : (0 : UInt8) ∉ ch '$' :: (body ++ [ch '*']) := by
    simp only [List.mem_cons, List.mem_append, List.not_mem_nil, or_false, not_or]
    refine ⟨by decide, fun hmem => ?_, by decide⟩
    exact absurd (h 0 hmem) (by decide)
  rw [sentence, checksumText, htake, cstr_eq_self hzero, List.drop_one, List.tail_cons,
    Math.checksum_sentence h]
  simp [csumDigits]

end Processor

/-! ## Aircraft -/

structure RelPosition where
  m_relBearing : Double := 0
  m_absBearing : Double := 0
  -- Relative distance in northern direction; m
  m_relNorth : Int32 := 0
  -- Relative distance in eastern direction; m
  m_relEast : Int32 := 0
  m_relVertical : Int32 := 0
  -- Distance between Aircraft and refered position; m
  m_distance : Int32 := 0

structure AircraftProcessor extends Processor where
  m_maxDistance : Int32
  m_refPosition : Position := {}
  m_refAtmPressure : Double := 1013.25
  rel : RelPosition := {}

namespace AircraftProcessor

def ofMaxDistance (maxDist : Int32) : AircraftProcessor := { m_maxDistance := maxDist }

def referTo (this : AircraftProcessor) (position : Position) (atmPress : Double) :
    AircraftProcessor :=
  { this with m_refPosition := position, m_refAtmPressure := atmPress }

def ofInt32 (n : Int32) : Double := .fin n.toInt

def calculateRelPosition (m : Libm) (ref : Position) (atmPress : Double) (aircraft : Aircraft) :
    RelPosition :=
  let refRadLatitude := Math.radian m ref.latitude
  let refRadLongitude := Math.radian m ref.longitude
  let aircraftRadLongitude := Math.radian m aircraft.m_position.longitude
  let aircraftRadLatitude := Math.radian m aircraft.m_position.latitude
  let lonDistance := aircraftRadLongitude - refRadLongitude
  let latDistance := aircraftRadLatitude - refRadLatitude
  -- haversine
  let a := m.pow (m.sin (latDistance / 2)) 2 +
    m.cos refRadLatitude * m.cos aircraftRadLatitude * m.pow (m.sin (lonDistance / 2)) 2
  let distance := Math.doubleToInt (6371000 * (2 * m.atan2 (m.sqrt a) (m.sqrt (1 - a))))
  let relBearing := Math.degree m (m.atan2
    (m.sin (aircraftRadLongitude - refRadLongitude) * m.cos aircraftRadLatitude)
    (m.cos refRadLatitude * m.sin aircraftRadLatitude -
      m.sin refRadLatitude * m.cos aircraftRadLatitude *
        m.cos (aircraftRadLongitude - refRadLongitude)))
  let absBearing := m.fmod (relBearing + 360) 360
  { m_relBearing := relBearing
    m_absBearing := absBearing
    m_relNorth := Math.doubleToInt (m.cos (Math.radian m absBearing) * ofInt32 distance)
    m_relEast := Math.doubleToInt (m.sin (Math.radian m absBearing) * ofInt32 distance)
    -- A transponder reports its pressure altitude.
    m_relVertical :=
      if aircraft.m_targetType = .TRANSPONDER then
        aircraft.m_position.altitude - Math.icaoHeight m atmPress
      else aircraft.m_position.altitude - ref.altitude
    m_distance := distance }

-- `%d`
def fmtD (n : Int32) : Bytes := fmtInt false 0 n.toInt

def textPFLAU (rel : RelPosition) (aircraft : Aircraft) : Bytes :=
  str "$PFLAU,,,,1,0," ++ fmtD (Math.doubleToInt rel.m_relBearing) ++ str ",0," ++
    fmtD rel.m_relVertical ++ str "," ++ fmtD rel.m_distance ++ str "," ++
    cstr aircraft.m_id ++ str "*"

def textPFLAA (rel : RelPosition) (aircraft : Aircraft) : Bytes :=
  if aircraft.m_fullInfo then
    str "$PFLAA,0," ++ fmtD rel.m_relNorth ++ str "," ++ fmtD rel.m_relEast ++ str "," ++
      fmtD rel.m_relVertical ++ str "," ++ numeral 10 aircraft.m_idType.raw.toNat ++ str "," ++
      cstr aircraft.m_id ++ str "," ++
      fmtInt true 3 (Math.doubleToInt aircraft.m_movement.heading).toInt ++ str ",," ++
      fmtD (Math.doubleToInt (aircraft.m_movement.gndSpeed * Math.MS_2_KMH)) ++ str "," ++
      fmtFixed false 3 1 aircraft.m_movement.climbRate ++ str "," ++
      fmtHexUpper aircraft.m_aircraftType.raw ++ str "*"
  else
    str "$PFLAA,0," ++ fmtD rel.m_relNorth ++ str "," ++ fmtD rel.m_relEast ++ str "," ++
      fmtD rel.m_relVertical ++ str ",1," ++ cstr aircraft.m_id ++ str ",,,,," ++
      fmtHexUpper aircraft.m_aircraftType.raw ++ str "*"

def appendPFLAU (this : AircraftProcessor) (aircraft : Aircraft) : AircraftProcessor :=
  { this with toProcessor := this.toProcessor.append (textPFLAU this.rel aircraft) }

def appendPFLAA (this : AircraftProcessor) (aircraft : Aircraft) : AircraftProcessor :=
  { this with toProcessor := this.toProcessor.append (textPFLAA this.rel aircraft) }

def process (m : Libm) (this : AircraftProcessor) (aircraft : Aircraft) :
    AircraftProcessor × Aircraft :=
  let this := { this with
    rel := calculateRelPosition m this.m_refPosition this.m_refAtmPressure aircraft
    m_processed := [] }
  if this.rel.m_distance ≤ this.m_maxDistance then
    -- Moving `m_processed` into the aircraft leaves it empty.
    let this := (this.appendPFLAU aircraft).appendPFLAA aircraft
    ({ this with m_processed := [] }, { aircraft with m_serialized := this.m_processed })
  else (this, { aircraft with m_serialized := [] })

/-! ### The report of an aircraft -/

/-- The string `process` computes for an aircraft, from the reference alone. -/
def report (m : Libm) (maxDist : Int32) (ref : Position) (atmPress : Double)
    (aircraft : Aircraft) : Bytes :=
  let rel := calculateRelPosition m ref atmPress aircraft
  if rel.m_distance ≤ maxDist then
    Processor.sentence (textPFLAU rel aircraft) ++ Processor.sentence (textPFLAA rel aircraft)
  else []

theorem textPFLAU_ne_nil (rel : RelPosition) (aircraft : Aircraft) :
    textPFLAU rel aircraft ≠ [] := by
  unfold textPFLAU
  exact List.append_ne_nil_of_right_ne_nil _ (by decide)

theorem textPFLAA_ne_nil (rel : RelPosition) (aircraft : Aircraft) :
    textPFLAA rel aircraft ≠ [] := by
  unfold textPFLAA
  split <;> exact List.append_ne_nil_of_right_ne_nil _ (by decide)

/-- `process` stores the report and keeps the configuration of the processor. -/
theorem process_spec (m : Libm) (this : AircraftProcessor) (aircraft : Aircraft) :
    (this.process m aircraft).2 = { aircraft with
      m_serialized := report m this.m_maxDistance this.m_refPosition this.m_refAtmPressure aircraft } ∧
    (this.process m aircraft).1.m_maxDistance = this.m_maxDistance ∧
    (this.process m aircraft).1.m_refPosition = this.m_refPosition ∧
    (this.process m aircraft).1.m_refAtmPressure = this.m_refAtmPressure := by
  unfold process report
  simp only
  split
  · simp only [appendPFLAU, appendPFLAA, Processor.append_processed _ (textPFLAU_ne_nil _ _),
      Processor.append_processed _ (textPFLAA_ne_nil _ _), List.nil_append, and_self]
  · simp only [and_self]

end AircraftProcessor

end VirtualFlightRadar
