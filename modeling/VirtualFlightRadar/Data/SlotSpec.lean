import VirtualFlightRadar.Data.GpsData
import VirtualFlightRadar.Data.SensorData

/-!
# Arbitration between feeds

What the stores with a single object are for, whatever feeds write into them: the object that was
taken last stays until one of at least its priority comes, or until it has been read four times.
The stores keep the number of reads in the age of the object, where 2 ^ 32 reads wrap around.
-/

open Cxx

namespace VirtualFlightRadar

/-- The object that was taken last, or the initial one, and how often it was read since. -/
structure Slot (α : Type) where
  last : α
  reads : Nat := 0

namespace Slot

variable {α : Type}

/-- At least the priority of the last object, or four reads since. -/
def admits (slot : Slot α) (priority : α → UInt32) (x : α) : Bool :=
  decide (priority slot.last ≤ priority x) || decide (4 ≤ slot.reads)

def offer (slot : Slot α) (accepted : Bool) (x : α) : Slot α := if accepted then ⟨x, 0⟩ else slot

def read (slot : Slot α) : Slot α := { slot with reads := slot.reads + 1 }

end Slot

/-! ## The age of the stored object -/

/-- The object of a slot, as a store keeps it. -/
def Object.aged (last : Object) (reads : Nat) : Object :=
  { last with m_updateAge := UInt32.ofNat reads }

theorem Object.incr_aged (last : Object) (reads : Nat) :
    (last.aged reads).incr = last.aged (reads + 1) := by
  unfold incr aged
  rw [UInt32.ofNat_add]
  rfl

theorem Object.aged_zero {x : Object} (h : x.m_updateAge = 0) : x.aged 0 = x := by
  unfold aged
  rw [show UInt32.ofNat 0 = x.m_updateAge from h.symm]

theorem Object.outdated_iff {reads : Nat} (h : reads < 2 ^ 32) :
    UInt32.ofNat reads ≥ OBJ_OUTDATED ↔ 4 ≤ reads := by
  rw [ge_iff_le, UInt32.le_iff_toNat_le, UInt32.toNat_ofNat_of_lt' h]
  rfl

/-- `canUpdate` is called on the new object and compares the age of the stored one. -/
theorem Object.canUpdate_aged (x last : Object) {reads : Nat} (h : reads < 2 ^ 32) :
    x.canUpdate (last.aged reads) =
      (⟨last, reads⟩ : Slot Object).admits m_lastPriority x := by
  have houtdated : decide ((last.aged reads).m_updateAge ≥ OBJ_OUTDATED) = decide (4 ≤ reads) :=
    decide_eq_decide.mpr (outdated_iff h)
  unfold canUpdate Slot.admits
  rw [houtdated]
  rfl

/-! ## Wind -/

inductive WindOp where
  | update (wind : Wind)
  | get_serialized (dest : Bytes)

inductive SensorResult where
  | updated (outcome : Bool)
  | serialized (dest : Bytes)
  | atmPressure (pressure : Double)
  deriving DecidableEq

namespace WindData

def step (this : WindData) : WindOp → SensorResult × WindData
  | .update wind =>
      let (updated, this) := this.update wind
      (.updated updated, this)
  | .get_serialized dest =>
      let (dest, this) := this.get_serialized dest
      (.serialized dest, this)

/-- A read gets the sentence of an object taken since the last read (before the first one, also that
of the initial object), and nothing if there was none. -/
def specStep (slot : Slot Wind) : WindOp → SensorResult × Slot Wind
  | .update wind =>
      let accepted := slot.admits (·.m_lastPriority) wind
      (.updated accepted, slot.offer accepted wind)
  | .get_serialized dest =>
      (.serialized (dest ++ if slot.reads = 0 then slot.last.m_serialized else []), slot.read)

-- Only reads make the age grow.
def reads : WindOp → Nat
  | .update _ => 0
  | .get_serialized _ => 1

def Rel (n : Nat) (this : WindData) (slot : Slot Wind) : Prop :=
  slot.reads ≤ n ∧ this.m_wind = Object.aged
    { slot.last with
      m_serialized := if slot.reads = 0 then slot.last.m_serialized else [] } slot.reads

theorem step_rel (n : Nat) (this : WindData) (slot : Slot Wind) (op : WindOp)
    (h : Rel n this slot) (hn : n + reads op < 2 ^ 32) :
    (step this op).1 = (specStep slot op).1 ∧
      Rel (n + reads op) (step this op).2 (specStep slot op).2 := by
  obtain ⟨hreads, hwind⟩ := h
  cases op with
  | update wind =>
      have hcan : wind.canUpdate this.m_wind = slot.admits (·.m_lastPriority) wind := by
        rw [hwind]
        exact wind.canUpdate_aged _ (by omega)
      simp only [step, specStep, update_eq, hcan]
      by_cases haccepted : slot.admits (·.m_lastPriority) wind = true
      · simp only [haccepted, if_true, Slot.offer, true_and]
        exact ⟨Nat.zero_le _, rfl⟩
      · simp only [haccepted, Slot.offer]
        exact ⟨rfl, hreads, hwind⟩
  | get_serialized dest =>
      simp only [step, specStep, get_serialized, hwind]
      refine ⟨rfl, Nat.succ_le_succ hreads, ?_⟩
      simp only [Object.incr_aged, Slot.read, Nat.succ_ne_zero, if_false]
      rfl

end WindData

/-! ## Atmosphere -/

inductive AtmosphereOp where
  | update (atmosphere : Atmosphere)
  | get_serialized (dest : Bytes)
  | get_atmPressure

namespace AtmosphereData

def step (this : AtmosphereData) : AtmosphereOp → SensorResult × AtmosphereData
  | .update atmosphere =>
      let (updated, this) := this.update atmosphere
      (.updated updated, this)
  | .get_serialized dest =>
      let (dest, this) := this.get_serialized dest
      (.serialized dest, this)
  | .get_atmPressure => (.atmPressure this.get_atmPressure, this)

def specStep (slot : Slot Atmosphere) : AtmosphereOp → SensorResult × Slot Atmosphere
  | .update atmosphere =>
      let accepted := slot.admits (·.m_lastPriority) atmosphere
      (.updated accepted, slot.offer accepted atmosphere)
  | .get_serialized dest => (.serialized (dest ++ slot.last.m_serialized), slot.read)
  | .get_atmPressure => (.atmPressure slot.last.m_pressure, slot)

def reads : AtmosphereOp → Nat
  | .get_serialized _ => 1
  | .update _ => 0
  | .get_atmPressure => 0

def Rel (n : Nat) (this : AtmosphereData) (slot : Slot Atmosphere) : Prop :=
  slot.reads ≤ n ∧
    this.m_atmosphere = { slot.last with toObject := slot.last.toObject.aged slot.reads }

theorem step_rel (n : Nat) (this : AtmosphereData) (slot : Slot Atmosphere) (op : AtmosphereOp)
    (h : Rel n this slot) (hn : n + reads op < 2 ^ 32) :
    (step this op).1 = (specStep slot op).1 ∧
      Rel (n + reads op) (step this op).2 (specStep slot op).2 := by
  obtain ⟨hreads, hatmosphere⟩ := h
  cases op with
  | update atmosphere =>
      have hcan : atmosphere.toObject.canUpdate this.m_atmosphere.toObject =
          slot.admits (·.m_lastPriority) atmosphere := by
        rw [hatmosphere]
        exact atmosphere.toObject.canUpdate_aged _ (by omega)
      simp only [step, specStep, update_eq, hcan]
      by_cases haccepted : slot.admits (·.m_lastPriority) atmosphere = true
      · simp only [haccepted, if_true, Slot.offer, true_and]
        exact ⟨Nat.zero_le _, rfl⟩
      · simp only [haccepted, Slot.offer]
        exact ⟨rfl, hreads, hatmosphere⟩
  | get_serialized dest =>
      simp only [step, specStep, get_serialized, hatmosphere, Object.incr_aged]
      exact ⟨rfl, Nat.succ_le_succ hreads, rfl⟩
  | get_atmPressure =>
      simp only [step, specStep, get_atmPressure]
      refine ⟨?_, hreads, hatmosphere⟩
      rw [hatmosphere]

end AtmosphereData

/-! ## GPS -/

namespace GpsData

/-- The position must also be newer. -/
def specStep (slot : Slot GpsPosition) : GpsOp → GpsResult × Slot GpsPosition
  | .update _ position =>
      let accepted := position.m_timeStamp.gt slot.last.m_timeStamp &&
        slot.admits (·.m_lastPriority) position
      (.updated (.ok accepted), slot.offer accepted position)
  | .get_serialized utc dest =>
      (.serialized (dest ++ (GpsProcessor.sentenceGPGGA utc slot.last ++
        GpsProcessor.sentenceGPRMC utc slot.last)), slot.read)

def reads : GpsOp → Nat
  | .update .. => 0
  | .get_serialized .. => 1

/-- The stored string is rewritten before every read; the rest is what was taken last. -/
def Rel (groundMode : Bool) (n : Nat) (this : GpsData) (slot : Slot GpsPosition) : Prop :=
  this.m_positionLocked = false ∧ this.m_groundMode = groundMode ∧ slot.reads ≤ n ∧
    ∃ serialized, this.m_position = { slot.last with
      toObject := Object.aged { slot.last.toObject with m_serialized := serialized } slot.reads }

namespace Rel

variable {groundMode : Bool} {n : Nat} {this : GpsData} {slot : Slot GpsPosition}

theorem mono (h : Rel groundMode n this slot) : Rel groundMode (n + 1) this slot :=
  ⟨h.1, h.2.1, Nat.le_succ_of_le h.2.2.1, h.2.2.2⟩

theorem init {position : GpsPosition} (hage : position.m_updateAge = 0) (groundMode : Bool)
    (utc : Tm) : Rel groundMode 0 (.ofPosition position groundMode utc) ⟨position, 0⟩ := by
  refine ⟨rfl, rfl, Nat.le_refl 0, GpsProcessor.sentenceGPGGA utc position ++
    GpsProcessor.sentenceGPRMC utc position, (processPosition_position _ utc).trans ?_⟩
  rw [Object.aged_zero (by exact hage)]

theorem get_position (h : Rel groundMode n this slot) :
    this.get_position = slot.last.m_position := by
  obtain ⟨-, -, -, serialized, hposition⟩ := h
  rw [GpsData.get_position, hposition]

theorem get_serialized (h : Rel groundMode n this slot) (utc : Tm) (dest : Bytes) :
    (this.get_serialized utc dest).1 = dest ++ (GpsProcessor.sentenceGPGGA utc slot.last ++
        GpsProcessor.sentenceGPRMC utc slot.last) ∧
      Rel groundMode (n + 1) (this.get_serialized utc dest).2 slot.read := by
  obtain ⟨hlock, hground, hreads, serialized, hposition⟩ := h
  constructor
  · rw [get_serialized_message, hposition]
    rfl
  · have hprocessed := processPosition_position this utc
    generalize GpsProcessor.sentenceGPGGA utc this.m_position ++
      GpsProcessor.sentenceGPRMC utc this.m_position = text at hprocessed
    refine ⟨hlock, hground, Nat.succ_le_succ hreads, text, ?_⟩
    simp only [GpsData.get_serialized, hprocessed, hposition, Object.incr, Object.aged, Slot.read,
      UInt32.ofNat_add]
    rfl

theorem update (h : Rel groundMode n this slot) (hn : n < 2 ^ 32) (utc : Tm) (x : GpsPosition) :
    let taken := x.m_timeStamp.gt slot.last.m_timeStamp && slot.admits (·.m_lastPriority) x
    (this.update utc x).1 = (if taken && (groundMode && isPositionGood { m_position := x })
        then .error .ReceivedGoodPosition else .ok taken) ∧
      Rel groundMode n (this.update utc x).2 (slot.offer taken x) := by
  obtain ⟨hlock, hground, hreads, serialized, hposition⟩ := h
  have hcan : x.canUpdate this.m_position =
      (x.m_timeStamp.gt slot.last.m_timeStamp && slot.admits (·.m_lastPriority) x) := by
    rw [hposition, GpsPosition.canUpdate]
    exact congrArg _ (x.toObject.canUpdate_aged _ (by omega))
  simp only [← hcan]
  cases hcase : x.canUpdate this.m_position with
  | true =>
      rw [update_accepted hlock utc hcase, hground]
      exact ⟨rfl, hlock, rfl, Nat.zero_le _, _, processPosition_position _ utc⟩
  | false =>
      rw [update_refused hlock utc hcase]
      exact ⟨rfl, hlock, hground, hreads, serialized, hposition⟩

end Rel

-- Without the ground mode no update ends the store.
theorem step_rel (n : Nat) (this : GpsData) (slot : Slot GpsPosition) (op : GpsOp)
    (h : Rel false n this slot) (hn : n + reads op < 2 ^ 32) :
    (step this op).1 = (specStep slot op).1 ∧
      Rel false (n + reads op) (step this op).2 (specStep slot op).2 := by
  cases op with
  | update utc position =>
      obtain ⟨houtcome, hrel⟩ := h.update hn utc position
      rw [Bool.false_and, Bool.and_false, if_neg Bool.false_ne_true] at houtcome
      exact ⟨congrArg GpsResult.updated houtcome, hrel⟩
  | get_serialized utc dest =>
      obtain ⟨hmessage, hrel⟩ := h.get_serialized utc dest
      exact ⟨congrArg GpsResult.serialized hmessage, hrel⟩

end GpsData

/-! ## Whole runs -/

theorem WindData.trace_rel {wind : Wind} (hage : wind.m_updateAge = 0) (ops : List WindOp)
    (hreads : (ops.map reads).sum < 2 ^ 32) :
    (trace step ⟨wind⟩ ops).1 = (trace specStep ⟨wind, 0⟩ ops).1 ∧
      Rel ((ops.map reads).sum) (trace step ⟨wind⟩ ops).2 (trace specStep ⟨wind, 0⟩ ops).2 := by
  have hinit : Rel 0 ⟨wind⟩ ⟨wind, 0⟩ := ⟨le_refl 0, (wind.aged_zero hage).symm⟩
  have hrun := trace_of_simulation reads Rel step_rel hinit ops (by omega)
  rwa [Nat.zero_add] at hrun

theorem AtmosphereData.trace_rel {atmosphere : Atmosphere} (hage : atmosphere.m_updateAge = 0)
    (ops : List AtmosphereOp) (hreads : (ops.map reads).sum < 2 ^ 32) :
    (trace step ⟨atmosphere⟩ ops).1 = (trace specStep ⟨atmosphere, 0⟩ ops).1 ∧
      Rel ((ops.map reads).sum) (trace step ⟨atmosphere⟩ ops).2
        (trace specStep ⟨atmosphere, 0⟩ ops).2 := by
  have hinit : Rel 0 ⟨atmosphere⟩ ⟨atmosphere, 0⟩ := by
    refine ⟨le_refl 0, ?_⟩
    simp only [Object.aged_zero hage]
  have hrun := trace_of_simulation reads Rel step_rel hinit ops (by omega)
  rwa [Nat.zero_add] at hrun

theorem GpsData.trace_rel {position : GpsPosition} (hage : position.m_updateAge = 0) (utc : Tm)
    (ops : List GpsOp) (hreads : (ops.map reads).sum < 2 ^ 32) :
    (trace step (ofPosition position false utc) ops).1 = (trace specStep ⟨position, 0⟩ ops).1 ∧
      Rel false ((ops.map reads).sum) (trace step (ofPosition position false utc) ops).2
        (trace specStep ⟨position, 0⟩ ops).2 := by
  have hinit : Rel false 0 (ofPosition position false utc) ⟨position, 0⟩ := .init hage false utc
  have hrun := trace_of_simulation reads (Rel false) step_rel hinit ops (by omega)
  rwa [Nat.zero_add] at hrun

/-- Every store with a single object gives the results of a slot in every run of fewer than 2 ^ 32
reads, and a rejected update leaves it as it was. -/
theorem slots_arbitrate (wind : Wind) (hwind : wind.m_updateAge = 0) (atmosphere : Atmosphere)
    (hatmosphere : atmosphere.m_updateAge = 0) (position : GpsPosition)
    (hposition : position.m_updateAge = 0) (utc : Tm) :
    (∀ ops : List WindOp, (ops.map WindData.reads).sum < 2 ^ 32 →
      (trace WindData.step ⟨wind⟩ ops).1 = (trace WindData.specStep ⟨wind, 0⟩ ops).1 ∧
      ∀ x, ((trace WindData.step ⟨wind⟩ ops).2.update x).1 = false →
        ((trace WindData.step ⟨wind⟩ ops).2.update x).2 = (trace WindData.step ⟨wind⟩ ops).2) ∧
    (∀ ops : List AtmosphereOp, (ops.map AtmosphereData.reads).sum < 2 ^ 32 →
      (trace AtmosphereData.step ⟨atmosphere⟩ ops).1 =
        (trace AtmosphereData.specStep ⟨atmosphere, 0⟩ ops).1 ∧
      ∀ x, ((trace AtmosphereData.step ⟨atmosphere⟩ ops).2.update x).1 = false →
        ((trace AtmosphereData.step ⟨atmosphere⟩ ops).2.update x).2 =
          (trace AtmosphereData.step ⟨atmosphere⟩ ops).2) ∧
    (∀ ops : List GpsOp, (ops.map GpsData.reads).sum < 2 ^ 32 →
      (trace GpsData.step (.ofPosition position false utc) ops).1 =
        (trace GpsData.specStep ⟨position, 0⟩ ops).1 ∧
      ∀ utc' x, ((trace GpsData.step (.ofPosition position false utc) ops).2.update utc' x).1 =
          .ok false →
        ((trace GpsData.step (.ofPosition position false utc) ops).2.update utc' x).2 =
          (trace GpsData.step (.ofPosition position false utc) ops).2) := by
  refine ⟨fun ops hreads => ⟨(WindData.trace_rel hwind ops hreads).1, fun x hrejected => ?_⟩,
    fun ops hreads => ⟨(AtmosphereData.trace_rel hatmosphere ops hreads).1, fun x hrejected => ?_⟩,
    fun ops hreads => ⟨(GpsData.trace_rel hposition utc ops hreads).1,
      fun utc' x hrejected => ?_⟩⟩
  · rw [WindData.update_eq] at hrejected ⊢
    split at hrejected
    next => cases hrejected
    next hcan => rw [if_neg hcan]
  · rw [AtmosphereData.update_eq] at hrejected ⊢
    split at hrejected
    next => cases hrejected
    next hcan => rw [if_neg hcan]
  · exact GpsData.update_not_accepted (by rw [hrejected]; rfl)

/-- A feed of lower priority takes over after four reads, and the higher one takes back. -/
theorem slots_arbitrate_takeover :
    (trace WindData.step ⟨{}⟩
      [.update { m_lastPriority := 2, m_serialized := str "A" }, .get_serialized [],
        .update { m_lastPriority := 1, m_serialized := str "B" }, .get_serialized [],
        .get_serialized [], .get_serialized [],
        .update { m_lastPriority := 1, m_serialized := str "B" },
        .update { m_lastPriority := 2, m_serialized := str "A" }, .get_serialized []]).1 =
      [.updated true, .serialized (str "A"), .updated false, .serialized [], .serialized [],
        .serialized [], .updated true, .updated true, .serialized (str "A")] := by
  have h := (slots_arbitrate {} rfl {} rfl {} rfl ⟨0, 0, 12, 1, 0, 100⟩).1
    [.update { m_lastPriority := 2, m_serialized := str "A" }, .get_serialized [],
      .update { m_lastPriority := 1, m_serialized := str "B" }, .get_serialized [],
      .get_serialized [], .get_serialized [],
      .update { m_lastPriority := 1, m_serialized := str "B" },
      .update { m_lastPriority := 2, m_serialized := str "A" }, .get_serialized []] (by decide)
  exact h.1.trans (by decide)

end VirtualFlightRadar
