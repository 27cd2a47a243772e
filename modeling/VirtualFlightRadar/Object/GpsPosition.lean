import VirtualFlightRadar.Object.Object

/-! Positions on earth, and the GPS fixes that carry them. -/

open Cxx

namespace VirtualFlightRadar

structure Position where
  -- Latitude; deg
  latitude : Double := 0
  -- Longitude; deg
  longitude : Double := 0
  -- Altitude; m
  altitude : Int32 := 0
  deriving DecidableEq

structure GpsPosition extends Object where
  m_position : Position := {}
  -- The geoid separation
  m_geoid : Double := 0
  m_timeStamp : TimeStamp := {}
  m_dilution : Double := 0
  m_nrOfSatellites : UInt8 := 1
  m_fixQuality : Int8 := 5
  deriving DecidableEq

namespace GpsPosition

def ofPriority (priority : UInt32) : GpsPosition := { m_lastPriority := priority }

def ofPosition (position : Position) (geoid : Double) : GpsPosition :=
  { m_position := position, m_geoid := geoid }

def assign (other : GpsPosition) : GpsPosition where
  toObject := other.toObject.assign
  m_position := other.m_position
  m_timeStamp := other.m_timeStamp
  m_nrOfSatellites := other.m_nrOfSatellites
  m_fixQuality := other.m_fixQuality
  m_geoid := other.m_geoid
  m_dilution := other.m_dilution

def canUpdate (this other : GpsPosition) : Bool :=
  this.m_timeStamp.gt other.m_timeStamp && this.toObject.canUpdate other.toObject

instance : Updatable GpsPosition := ⟨fun _ other => other.assign, canUpdate⟩

end GpsPosition

end VirtualFlightRadar
