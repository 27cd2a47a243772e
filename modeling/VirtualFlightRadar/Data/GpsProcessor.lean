import VirtualFlightRadar.Data.Processor

/-!
# The own position as NMEA sentences

`GpsProcessor` splits the coordinates into degrees and minutes and formats a GGA and an RMC
sentence from them.  The time of day comes from `std::gmtime`; it is a parameter here.
-/

open Cxx

namespace VirtualFlightRadar

/-- The fields of `std::tm` that are printed. -/
structure Tm where
  tm_sec : Int
  tm_min : Int
  tm_hour : Int
  tm_mday : Int
  tm_mon : Int
  tm_year : Int

structure GpsProcessor extends Processor where
  m_directionSN : UInt8 := ch 'x'
  m_directionEW : UInt8 := ch 'x'
  m_degLatitude : Double := 0
  m_degLongitude : Double := 0
  m_minLatitude : Double := 0
  m_minLongitude : Double := 0

namespace GpsProcessor

def evalPosition [Rounding] (this : GpsProcessor) (latitude longitude : Double) : GpsProcessor :=
  let degLatitude := latitude.floor.abs
  let degLongitude := longitude.floor.abs
  { this with
    m_directionSN := if latitude < 0 then ch 'S' else ch 'N'
    m_directionEW := if longitude < 0 then ch 'W' else ch 'E'
    m_degLatitude := degLatitude
    m_minLatitude := (60.0 * (latitude - degLatitude)).abs
    m_degLongitude := degLongitude
    m_minLongitude := (60.0 * (longitude - degLongitude)).abs }

-- The fix quality and the dilution are printed as the constant 1.
def textGPGGA (this : GpsProcessor) (position : GpsPosition) (utc : Tm) : Bytes :=
  str "$GPGGA," ++ fmtInt true 2 utc.tm_hour ++ fmtInt true 2 utc.tm_min ++
    fmtInt true 2 utc.tm_sec ++ str "," ++
    fmtFixed true 2 0 this.m_degLatitude ++ fmtFixed true 7 4 this.m_minLatitude ++ str "," ++
    [this.m_directionSN] ++ str "," ++
    fmtFixed true 3 0 this.m_degLongitude ++ fmtFixed true 7 4 this.m_minLongitude ++ str "," ++
    [this.m_directionEW] ++ str ",1," ++ zeroPad 2 position.m_nrOfSatellites.toNat ++ str ",1," ++
    fmtInt false 0 position.m_position.altitude.toInt ++ str ",M," ++
    fmtFixed false 0 1 position.m_geoid ++ str ",M,,*"

def textGPRMC (this : GpsProcessor) (utc : Tm) : Bytes :=
  str "$GPRMC," ++ fmtInt true 2 utc.tm_hour ++ fmtInt true 2 utc.tm_min ++
    fmtInt true 2 utc.tm_sec ++ str ",A," ++
    fmtFixed true 2 0 this.m_degLatitude ++ fmtFixed true 5 2 this.m_minLatitude ++ str "," ++
    [this.m_directionSN] ++ str "," ++
    fmtFixed true 3 0 this.m_degLongitude ++ fmtFixed true 5 2 this.m_minLongitude ++ str "," ++
    [this.m_directionEW] ++ str ",0,0," ++ fmtInt true 2 utc.tm_mday ++
    fmtInt true 2 (utc.tm_mon + 1) ++ fmtInt true 2 (utc.tm_year - 100) ++ str ",001.0,W*"

def appendGPGGA (this : GpsProcessor) (position : GpsPosition) (utc : Tm) : GpsProcessor :=
  { this with toProcessor := this.toProcessor.append (this.textGPGGA position utc) }

def appendGPRMC (this : GpsProcessor) (utc : Tm) : GpsProcessor :=
  { this with toProcessor := this.toProcessor.append (this.textGPRMC utc) }

def process [Rounding] (this : GpsProcessor) (utc : Tm) (position : GpsPosition) :
    GpsProcessor × GpsPosition :=
  let this := this.evalPosition position.m_position.latitude position.m_position.longitude
  let this := { this with m_processed := [] }
  let this := (this.appendGPGGA position utc).appendGPRMC utc
  -- The string is moved into the position, which leaves the member empty.
  ({ this with m_processed := [] }, { position with m_serialized := this.m_processed })

theorem sixty_eq : (60.0 : Double) = .fin 60 := by
  change Double.fin (60.0 : ℚ) = .fin 60
  norm_num

/-- The GGA sentence of a position, from the position and the time alone. -/
def sentenceGPGGA [Rounding] (utc : Tm) (position : GpsPosition) : Bytes :=
  let coordinates := evalPosition {} position.m_position.latitude position.m_position.longitude
  Processor.sentence (coordinates.textGPGGA position utc)

def sentenceGPRMC [Rounding] (utc : Tm) (position : GpsPosition) : Bytes :=
  let coordinates := evalPosition {} position.m_position.latitude position.m_position.longitude
  Processor.sentence (coordinates.textGPRMC utc)

theorem textGPGGA_ne_nil (this : GpsProcessor) (position : GpsPosition) (utc : Tm) :
    this.textGPGGA position utc ≠ [] := by
  unfold textGPGGA
  exact List.append_ne_nil_of_right_ne_nil _ (by decide)

theorem textGPRMC_ne_nil (this : GpsProcessor) (utc : Tm) : this.textGPRMC utc ≠ [] := by
  unfold textGPRMC
  exact List.append_ne_nil_of_right_ne_nil _ (by decide)

theorem appendGPGGA_processed (this : GpsProcessor) (position : GpsPosition) (utc : Tm) :
    (this.appendGPGGA position utc).m_processed =
      this.m_processed ++ Processor.sentence (this.textGPGGA position utc) :=
  Processor.append_processed _ (textGPGGA_ne_nil this position utc)

theorem appendGPRMC_processed (this : GpsProcessor) (utc : Tm) :
    (this.appendGPRMC utc).m_processed =
      this.m_processed ++ Processor.sentence (this.textGPRMC utc) :=
  Processor.append_processed _ (textGPRMC_ne_nil this utc)

-- The texts read the six coordinate members and nothing else, and `evalPosition` writes all six.
theorem textGPGGA_evalPosition [Rounding] (this : GpsProcessor) (processed : Bytes)
    (latitude longitude : Double) (position : GpsPosition) (utc : Tm) :
    textGPGGA { this.evalPosition latitude longitude with m_processed := processed } position utc =
      textGPGGA (evalPosition {} latitude longitude) position utc := by
  unfold textGPGGA evalPosition
  simp only

theorem textGPRMC_evalPosition [Rounding] (this : GpsProcessor) (processed : Bytes)
    (latitude longitude : Double) (position : GpsPosition) (utc : Tm) :
    textGPRMC (appendGPGGA { this.evalPosition latitude longitude with m_processed := processed }
      position utc) utc = textGPRMC (evalPosition {} latitude longitude) utc := by
  unfold textGPRMC appendGPGGA evalPosition
  simp only

/-- `process` only writes the serialized string, whatever an earlier call left in the members. -/
theorem process_position [Rounding] (this : GpsProcessor) (utc : Tm) (position : GpsPosition) :
    (this.process utc position).2 =
      { position with
        m_serialized := sentenceGPGGA utc position ++ sentenceGPRMC utc position } := by
  unfold process sentenceGPGGA sentenceGPRMC
  simp only [appendGPRMC_processed, appendGPGGA_processed, textGPGGA_evalPosition,
    textGPRMC_evalPosition, List.nil_append]

-- From here on `process_position` is all there is to know about a call.
attribute [irreducible] process

end GpsProcessor

end VirtualFlightRadar
