import VirtualFlightRadar.Cxx.IndexMap
import VirtualFlightRadar.Cxx.Machine
import VirtualFlightRadar.Data.Processor

/-!
# The aircraft store

`AircraftData` keeps the aircrafts in a vector and an index from their ids to positions.
`processAircrafts` erases from the vector while it walks over it and repairs the index one element
ahead of its cursor.  The processor may throw; the handler around the loop body then leaves the
cursor where it is.
-/

open Cxx

namespace VirtualFlightRadar

/-- Times until aircraft gets deleted -/
def AC_DELETE_THRESHOLD : UInt32 := 120

/-- Times until FLARM status is removed -/
def AC_NO_FLARM_THRESHOLD : UInt32 := OBJ_OUTDATED

/-- A call of `m_processor.process`: the processor afterwards, and the serialized string unless a
`std::exception` was thrown. -/
abbrev Process := AircraftProcessor → Aircraft → AircraftProcessor × Option Bytes

def processOf (m : Libm) : Process := fun processor aircraft =>
  -- The arithmetic and `snprintf` of `AircraftProcessor::process` throw nothing.
  let (processor, aircraft) := processor.process m aircraft
  (processor, some aircraft.m_serialized)

/-- Which call of the loop body an exception was caught from. -/
inductive Caught where
  | process
  | indexAt
  deriving DecidableEq, Repr

/-- The members and locals of `processAircrafts`: `it` is the distance of the iterator from
`m_container.begin()`, and `caught` records the exceptions its handler swallowed. -/
structure Pass where
  m_processor : AircraftProcessor
  m_container : List Aircraft
  m_index : Map Bytes Nat
  it : Nat := 0
  index : Nat := 0
  del : Bool := false
  caught : List Caught := []

namespace Pass

def age (aircraft : Aircraft) : Aircraft :=
  -- `++(*it)`; the FLARM status is removed on the exact tick that reaches the threshold.
  let aircraft := { aircraft with toObject := aircraft.toObject.incr }
  if aircraft.m_updateAge = AC_NO_FLARM_THRESHOLD then
    { aircraft with m_targetType := .TRANSPONDER }
  else aircraft

/-- `if (del && it != m_container.end()) m_index.at(it->get_id()) = index;` -/
def repair (s : Pass) : Pass :=
  match s.del, s.m_container[s.it]? with
  | true, some aircraft =>
      match s.m_index aircraft.m_id with
      | some _ => { s with m_index := s.m_index.set aircraft.m_id s.index }
      -- `at` throws for a missing key, and the handler swallows it
      | none => { s with caught := .indexAt :: s.caught }
  | _, _ => s

/-- The loop body with its handler. -/
def body (process : Process) (s : Pass) : Pass :=
  match s.m_container[s.it]? with
  | none => s
  | some aircraft =>
      let aircraft := age aircraft
      if aircraft.m_updateAge ≥ AC_DELETE_THRESHOLD then
        -- `erase` returns the iterator to the element that moved up
        repair { s with
          del := true
          m_index := s.m_index.erase aircraft.m_id
          m_container := s.m_container.eraseIdx s.it }
      else if aircraft.m_updateAge = 1 then
        match process s.m_processor aircraft with
        | (processor, some serialized) =>
            repair { s with
              m_processor := processor
              m_container := s.m_container.set s.it { aircraft with m_serialized := serialized }
              it := s.it + 1
              index := s.index + 1 }
        | (processor, none) =>
            -- The iterator was not moved yet, so the next round ages the same aircraft again.
            { s with
              m_processor := processor
              m_container := s.m_container.set s.it aircraft
              caught := .process :: s.caught }
      else
        repair { s with
          m_container := s.m_container.set s.it aircraft
          it := s.it + 1
          index := s.index + 1 }

/-- `it != m_container.end()` -/
def running (s : Pass) : Bool := s.it < s.m_container.length

end Pass

structure AircraftData where
  m_processor : AircraftProcessor
  m_container : List Aircraft := []
  m_index : Map Bytes Nat := Map.empty

namespace AircraftData

def ofMaxDist (maxDist : Int32) : AircraftData := { m_processor := .ofMaxDistance maxDist }

def get_serialized (this : AircraftData) (dest : Bytes) : Bytes :=
  this.m_container.foldl
    (fun dest it => dest ++ if it.m_updateAge < OBJ_OUTDATED then it.m_serialized else []) dest

def insert (this : AircraftData) (aircraft : Aircraft) : AircraftData :=
  { this with
    m_index := this.m_index.insert aircraft.m_id this.m_container.length
    m_container := this.m_container ++ [aircraft] }

def update (this : AircraftData) (aircraft : Aircraft) : Option (Bool × AircraftData) :=
  match this.m_index aircraft.m_id with
  | some i =>
      match this.m_container[i]? with
      | some stored =>
          let (updated, stored) := tryUpdate stored aircraft
          some (updated, { this with m_container := this.m_container.set i stored })
      -- `operator[]` outside of the vector is undefined.
      | none => none
  | none => some (true, this.insert aircraft)

def pass (process : Process) (this : AircraftData) (position : Position) (atmPress : Double) :
    Pass :=
  -- A round either moves on, erases, or leaves an aircraft of age one behind that the next round
  -- moves past, so two rounds for each aircraft are enough.
  whileLoop Pass.running (Pass.body process) (2 * this.m_container.length)
    { m_processor := this.m_processor.referTo position atmPress
      m_container := this.m_container
      m_index := this.m_index }

def processAircrafts (process : Process) (this : AircraftData) (position : Position)
    (atmPress : Double) : AircraftData :=
  let s := this.pass process position atmPress
  { m_processor := s.m_processor, m_container := s.m_container, m_index := s.m_index }

end AircraftData

/-! ## One aircraft in a pass -/

namespace Pass

/-- What a pass does to one aircraft: the processor afterwards, and the aircraft unless it is
deleted.  After a throw the next round ages the aircraft again and does not process it. -/
def visit (process : Process) (processor : AircraftProcessor) (aircraft : Aircraft) :
    AircraftProcessor × Option Aircraft :=
  let aircraft := age aircraft
  if aircraft.m_updateAge ≥ AC_DELETE_THRESHOLD then (processor, none)
  else if aircraft.m_updateAge = 1 then
    match process processor aircraft with
    | (processor, some serialized) => (processor, some { aircraft with m_serialized := serialized })
    | (processor, none) => (processor, some (age aircraft))
  else (processor, some aircraft)

/-- A pass over a whole vector. -/
def sweep (process : Process) : AircraftProcessor → List Aircraft → AircraftProcessor × List Aircraft
  | processor, [] => (processor, [])
  | processor, aircraft :: rest =>
      let (processor, kept) := visit process processor aircraft
      let (processor, rest) := sweep process processor rest
      (processor, kept.toList ++ rest)

theorem age_id (aircraft : Aircraft) : (age aircraft).m_id = aircraft.m_id := by
  unfold age
  simp only
  split <;> rfl

theorem age_updateAge (aircraft : Aircraft) :
    (age aircraft).m_updateAge = aircraft.m_updateAge + 1 := by
  unfold age
  simp only
  split <;> rfl

-- After a throw the age is one, so the next round gets past the aircraft.
theorem age_age_updateAge {aircraft : Aircraft} (h : (age aircraft).m_updateAge = 1) :
    (age (age aircraft)).m_updateAge = 2 := by
  rw [age_updateAge, h]
  rfl

end Pass

end VirtualFlightRadar
