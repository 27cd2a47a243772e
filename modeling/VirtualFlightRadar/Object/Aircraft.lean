import VirtualFlightRadar.Object.GpsPosition

/-! Aircraft reports. -/

open Cxx

namespace VirtualFlightRadar

-- Indicate a value is not available.
def A_VALUE_NA : Double := -1024.0

structure Movement where
  -- Speed over ground; m/s
  gndSpeed : Double := A_VALUE_NA
  -- Heading; deg [0-359]
  heading : Double := A_VALUE_NA
  -- Climb rate; m/s
  climbRate : Double := A_VALUE_NA
  deriving DecidableEq

inductive TargetType where
  | FLARM
  | TRANSPONDER
  deriving DecidableEq, Repr

/-- `enum class AircraftType : std::uint8_t`.  An enumeration with a fixed underlying type holds
every value of it: the code 14, which has no name, reaches it through a cast. -/
structure AircraftType where
  raw : UInt8
  deriving DecidableEq, Repr

namespace AircraftType

def UNKNOWN : AircraftType := ⟨0⟩
def POWERED_AIRCRAFT : AircraftType := ⟨8⟩
def STATIC_OBJECT : AircraftType := ⟨15⟩

end AircraftType

/-- `enum class IdType : std::uint8_t` -/
structure IdType where
  raw : UInt8
  deriving DecidableEq, Repr

namespace IdType

def RANDOM : IdType := ⟨0⟩
def ICAO : IdType := ⟨1⟩
def OGN : IdType := ⟨3⟩

end IdType

structure Aircraft extends Object where
  m_id : Bytes := []
  m_idType : IdType := .ICAO
  m_aircraftType : AircraftType := .POWERED_AIRCRAFT
  m_targetType : TargetType := .TRANSPONDER
  m_position : Position := {}
  m_movement : Movement := {}
  m_timeStamp : TimeStamp := {}
  m_fullInfo : Bool := false
  deriving DecidableEq

namespace Aircraft

def ofPriority (priority : UInt32) : Aircraft := { m_lastPriority := priority }

def assign (this other : Aircraft) : Aircraft where
  toObject := other.toObject.assign
  -- not assigned: the store updates an aircraft with one of the same id
  m_id := this.m_id
  m_idType := other.m_idType
  m_aircraftType := other.m_aircraftType
  m_targetType := other.m_targetType
  m_position := other.m_position
  m_movement := other.m_movement
  m_timeStamp := other.m_timeStamp
  m_fullInfo := other.m_fullInfo

def canUpdate (this other : Aircraft) : Bool :=
  this.m_timeStamp.gt other.m_timeStamp &&
    -- a transponder report does not replace one of a FLARM
    (other.m_targetType == .TRANSPONDER || this.m_targetType == .FLARM) &&
    this.toObject.canUpdate other.toObject

instance : Updatable Aircraft := ⟨assign, canUpdate⟩

def set_aircraftType (this : Aircraft) (type : AircraftType) : Aircraft :=
  { this with
    m_aircraftType := if type.raw > AircraftType.STATIC_OBJECT.raw then .UNKNOWN else type }

def set_idType (this : Aircraft) (type : IdType) : Aircraft :=
  { this with m_idType := if type.raw > IdType.OGN.raw then .RANDOM else type }

/-- A report as the feeds build it: age zero and nothing serialized yet. -/
structure Fresh (a : Aircraft) : Prop where
  age : a.m_updateAge = 0
  serialized : a.m_serialized = []

end Aircraft

end VirtualFlightRadar
