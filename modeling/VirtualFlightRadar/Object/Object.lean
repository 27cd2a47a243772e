import VirtualFlightRadar.Object.TimeStamp

/-!
# Objects

The base class of everything a feed delivers and a store keeps, with the two classes that add
little to it.  `assign` and `canUpdate` are virtual: `Updatable` supplies the members of the
concrete class, and the casts between classes succeed because every store gets its own class.
-/

open Cxx

namespace VirtualFlightRadar

-- Times until aircraft is outdated
def OBJ_OUTDATED : UInt32 := 4

structure Object where
  -- Got last update with this priority.
  m_lastPriority : UInt32 := 0
  -- Times processed without update.
  m_updateAge : UInt32 := 0
  -- The string representation of this Objects data.
  m_serialized : Bytes := []
  deriving DecidableEq

namespace Object

def assign (other : Object) : Object where
  m_serialized := other.m_serialized
  m_lastPriority := other.m_lastPriority
  m_updateAge := 0

def canUpdate (this other : Object) : Bool :=
  -- `other` is the stored object: an outdated one is replaced whatever the priorities are.
  this.m_lastPriority ≥ other.m_lastPriority || other.m_updateAge ≥ OBJ_OUTDATED

-- `operator++`
def incr (this : Object) : Object := { this with m_updateAge := this.m_updateAge + 1 }

end Object

/-- The virtual members of `Object`. -/
class Updatable (α : Type) where
  assign : α → α → α
  canUpdate : α → α → Bool

/-- `Object::tryUpdate` -/
def tryUpdate {α : Type} [Updatable α] (this other : α) : Bool × α :=
  if Updatable.canUpdate other this then (true, Updatable.assign this other) else (false, this)

/-! ## Wind and atmosphere -/

abbrev Wind := Object

instance : Updatable Wind := ⟨fun _ other => other.assign, Object.canUpdate⟩

structure Atmosphere extends Object where
  m_pressure : Double := 1013.25
  deriving DecidableEq

instance : Updatable Atmosphere where
  assign _ other := { toObject := other.toObject.assign, m_pressure := other.m_pressure }
  canUpdate this other := this.toObject.canUpdate other.toObject

end VirtualFlightRadar
