import VirtualFlightRadar.Cxx.Machine
import VirtualFlightRadar.Data.GpsProcessor

/-!
# The own position

`GpsData` keeps one position.  In ground mode `update` throws when it has stored a good one, which
stops the feed that delivered it.  `m_positionLocked` is read before every update but written
nowhere, so the store itself never refuses an update of another feed.
-/

open Cxx

namespace VirtualFlightRadar

/-- Good number of satellites -/
def GPS_NR_SATS_GOOD : UInt8 := 7

/-- Good fix quality -/
def GPS_FIX_GOOD : Int8 := 1

/-- Good horizontal dilution -/
def GPS_HOR_DILUTION_GOOD : Double := 1.0

inductive GpsDataException where
  | PositionAlreadyLocked
  | ReceivedGoodPosition
  deriving DecidableEq, Repr

structure GpsData where
  m_position : GpsPosition := {}
  m_processor : GpsProcessor := {}
  m_positionLocked : Bool := false
  m_groundMode : Bool := false

namespace GpsData

def processPosition (this : GpsData) (utc : Tm) : GpsData :=
  -- `m_processor.process(m_position)`, which writes the serialized string of its argument
  let processed := this.m_processor.process utc this.m_position
  { this with m_processor := processed.1, m_position := processed.2 }

def ofPosition (position : GpsPosition) (ground : Bool) (utc : Tm) : GpsData :=
  processPosition { m_position := position, m_groundMode := ground } utc

def get_serialized (this : GpsData) (utc : Tm) (dest : Bytes) : Bytes × GpsData :=
  let this := this.processPosition utc
  let this := { this with
    m_position := { this.m_position with toObject := this.m_position.toObject.incr } }
  (dest ++ this.m_position.m_serialized, this)

def isPositionGood (this : GpsData) : Bool :=
  decide (this.m_position.m_nrOfSatellites ≥ GPS_NR_SATS_GOOD) &&
    decide (this.m_position.m_fixQuality ≥ GPS_FIX_GOOD) &&
    decide (this.m_position.m_dilution ≤ GPS_HOR_DILUTION_GOOD)

/-- What `update` returns or throws, and the store afterwards. -/
def update (this : GpsData) (utc : Tm) (position : GpsPosition) :
    Except GpsDataException Bool × GpsData :=
  if this.m_positionLocked then (.error .PositionAlreadyLocked, this)
  else
    let (updated, stored) := tryUpdate this.m_position position
    let this := { this with m_position := stored }
    if updated then
      -- The position is stored and processed before the test throws, and a throw undoes nothing.
      let this := this.processPosition utc
      if this.m_groundMode && this.isPositionGood then (.error .ReceivedGoodPosition, this)
      else (.ok true, this)
    else (.ok false, this)

def get_position (this : GpsData) : Position := this.m_position.m_position

end GpsData

/-! ## Runs -/

/-- A call of a feed or of the serving thread, with the time it reads. -/
inductive GpsOp where
  | update (utc : Tm) (position : GpsPosition)
  | get_serialized (utc : Tm) (dest : Bytes)

inductive GpsResult where
  | updated (outcome : Except GpsDataException Bool)
  | serialized (dest : Bytes)

namespace GpsData

def step (this : GpsData) : GpsOp → GpsResult × GpsData
  | .update utc position =>
      let (outcome, this) := this.update utc position
      (.updated outcome, this)
  | .get_serialized utc dest =>
      let (dest, this) := this.get_serialized utc dest
      (.serialized dest, this)

def after (this : GpsData) (ops : List GpsOp) : GpsData := (trace step this ops).2

@[simp] theorem processPosition_groundMode (this : GpsData) (utc : Tm) :
    (this.processPosition utc).m_groundMode = this.m_groundMode := rfl

theorem processPosition_position (this : GpsData) (utc : Tm) :
    (this.processPosition utc).m_position =
      { this.m_position with
        m_serialized := GpsProcessor.sentenceGPGGA utc this.m_position ++
          GpsProcessor.sentenceGPRMC utc this.m_position } :=
  GpsProcessor.process_position this.m_processor utc this.m_position

theorem processPosition_good (this : GpsData) (utc : Tm) :
    (this.processPosition utc).isPositionGood = this.isPositionGood := by
  unfold isPositionGood
  rw [processPosition_position]

theorem get_serialized_position (this : GpsData) (utc : Tm) (dest : Bytes) :
    (this.get_serialized utc dest).2.get_position = this.get_position := by
  unfold get_serialized get_position
  simp only [processPosition_position]

theorem get_serialized_message (this : GpsData) (utc : Tm) (dest : Bytes) :
    (this.get_serialized utc dest).1 = dest ++ (GpsProcessor.sentenceGPGGA utc this.m_position ++
      GpsProcessor.sentenceGPRMC utc this.m_position) := by
  unfold get_serialized
  simp only [processPosition_position]
  rfl

/-- No step writes the lock or the mode. -/
theorem step_flags (this : GpsData) (op : GpsOp) :
    (this.step op).2.m_positionLocked = this.m_positionLocked ∧
      (this.step op).2.m_groundMode = this.m_groundMode := by
  cases op with
  | get_serialized utc dest => exact ⟨rfl, rfl⟩
  | update utc position =>
      change (this.update utc position).2.m_positionLocked = _ ∧
        (this.update utc position).2.m_groundMode = _
      unfold update
      simp only
      split
      · exact ⟨rfl, rfl⟩
      · split
        · split
          · exact ⟨rfl, rfl⟩
          · exact ⟨rfl, rfl⟩
        · exact ⟨rfl, rfl⟩

theorem after_flags {this : GpsData} (hlock : this.m_positionLocked = false)
    (hground : this.m_groundMode = true) (ops : List GpsOp) :
    (this.after ops).m_positionLocked = false ∧ (this.after ops).m_groundMode = true := by
  -- The flags themselves are the invariant: `m_positionLocked` keeps the value it was built with.
  apply trace_invariant (fun d : GpsData => d.m_positionLocked = false ∧ d.m_groundMode = true)
    (fun d op hd (_ : True) => ?_) ⟨hlock, hground⟩ ops (fun _ _ => trivial)
  have hflags := step_flags d op
  exact ⟨hflags.1.trans hd.1, hflags.2.trans hd.2⟩

theorem update_accepted {this : GpsData} (hlock : this.m_positionLocked = false) (utc : Tm)
    {x : GpsPosition} (hcan : x.canUpdate this.m_position = true) :
    this.update utc x =
      (if this.m_groundMode && isPositionGood { this with m_position := x }
        then .error .ReceivedGoodPosition else .ok true,
        processPosition { this with m_position := x.assign } utc) := by
  have htry : tryUpdate this.m_position x = (true, x.assign) := if_pos hcan
  have hgood : isPositionGood (processPosition { this with m_position := x.assign } utc) =
      isPositionGood { this with m_position := x } := by
    rw [processPosition_good]
    rfl
  unfold update
  rw [if_neg (by rw [hlock]; decide), htry]
  simp only [if_true, hgood, processPosition_groundMode]
  split
  · rfl
  · rfl

theorem update_refused {this : GpsData} (hlock : this.m_positionLocked = false) (utc : Tm)
    {x : GpsPosition} (hcan : x.canUpdate this.m_position = false) :
    this.update utc x = (.ok false, this) := by
  have htry : tryUpdate this.m_position x = (false, this.m_position) :=
    if_neg (Bool.eq_false_iff.mp hcan)
  unfold update
  rw [if_neg (by rw [hlock]; decide), htry]
  rfl

/-- Whether an outcome says that the position was stored. -/
def accepted : Except GpsDataException Bool → Bool
  | .ok updated => updated
  | .error .ReceivedGoodPosition => true
  | .error .PositionAlreadyLocked => false

theorem update_not_accepted {this : GpsData} {utc : Tm} {x : GpsPosition}
    (h : accepted (this.update utc x).1 = false) : (this.update utc x).2 = this := by
  cases hlock : this.m_positionLocked with
  | true =>
      unfold update
      rw [if_pos hlock]
  | false =>
      cases hcan : x.canUpdate this.m_position with
      | false => rw [update_refused hlock utc hcan]
      | true =>
          rw [update_accepted hlock utc hcan] at h
          simp only at h
          split at h
          · cases h
          · cases h

/-! ## The lock of the ground mode -/

/-- What the lock of the ground mode is for: once an update of the run has thrown
`ReceivedGoodPosition`, every later one throws `PositionAlreadyLocked` and the position stays. -/
def LocksGood (this : GpsData) (ops : List GpsOp) : Prop :=
  ∀ pre utc x post, ops = pre ++ .update utc x :: post →
    ((this.after pre).update utc x).1 = .error .ReceivedGoodPosition →
    (∀ mid utc' y rest, post = mid ++ .update utc' y :: rest →
      ((((this.after pre).update utc x).2.after mid).update utc' y).1 =
        .error .PositionAlreadyLocked) ∧
    ∀ mid rest, post = mid ++ rest →
      (((this.after pre).update utc x).2.after mid).get_position =
        ((this.after pre).update utc x).2.get_position

/-- In ground mode exactly the accepted good fixes make `update` throw. -/
theorem update_throws_good_iff {this : GpsData} (hlock : this.m_positionLocked = false)
    (hground : this.m_groundMode = true) (utc : Tm) (x : GpsPosition) :
    (this.update utc x).1 = .error .ReceivedGoodPosition ↔
      x.canUpdate this.m_position = true ∧ isPositionGood { this with m_position := x } = true := by
  cases hcan : x.canUpdate this.m_position with
  | false =>
      rw [update_refused hlock utc hcan]
      simp
  | true =>
      rw [update_accepted hlock utc hcan, hground, Bool.true_and]
      cases hgood : isPositionGood { this with m_position := x } with
      | false => simp
      | true => simp

theorem update_not_locked {this : GpsData} (hlock : this.m_positionLocked = false) (utc : Tm)
    (x : GpsPosition) : (this.update utc x).1 ≠ .error .PositionAlreadyLocked := by
  cases hcan : x.canUpdate this.m_position with
  | false =>
      rw [update_refused hlock utc hcan]
      simp
  | true =>
      rw [update_accepted hlock utc hcan]
      simp only
      split
      · simp
      · simp

def IsUpdate : GpsOp → Prop
  | .update .. => True
  | .get_serialized .. => False

theorem after_serialized_position (this : GpsData) (ops : List GpsOp)
    (h : ∀ op ∈ ops, ¬ IsUpdate op) : (this.after ops).get_position = this.get_position := by
  -- Serializing ages the position and rewrites its string; the coordinates stay.
  apply trace_invariant (fun d : GpsData => d.get_position = this.get_position) ?_ rfl ops h
  intro d op hd hop
  cases op with
  | update utc x => exact absurd trivial hop
  | get_serialized utc dest => exact (get_serialized_position d utc dest).trans hd

/-- The lock holds exactly in the runs in which no update follows an accepted good fix. -/
theorem locksGood_iff (position : GpsPosition) (utc₀ : Tm) (ops : List GpsOp) :
    (ofPosition position true utc₀).LocksGood ops ↔
      ∀ pre utc x post, ops = pre ++ .update utc x :: post →
        x.canUpdate ((ofPosition position true utc₀).after pre).m_position = true →
        isPositionGood { (ofPosition position true utc₀).after pre with m_position := x } = true →
        ∀ op ∈ post, ¬ IsUpdate op := by
  have hflags (pre : List GpsOp) :
      ((ofPosition position true utc₀).after pre).m_positionLocked = false ∧
        ((ofPosition position true utc₀).after pre).m_groundMode = true :=
    after_flags rfl rfl pre
  constructor
  · intro hlocks pre utc x post hops hcan hgood op hop hupdate
    have hthrow := (update_throws_good_iff (hflags pre).1 (hflags pre).2 utc x).mpr ⟨hcan, hgood⟩
    obtain ⟨mid, rest, hpost⟩ := List.append_of_mem hop
    cases op with
    | get_serialized utc' dest => exact hupdate
    | update utc' y =>
        -- The state after the throw is not locked, so the next update throws no lock exception.
        have hnext := (hlocks pre utc x post hops hthrow).1 mid utc' y rest hpost
        have hlock : ((((ofPosition position true utc₀).after pre).update utc x).2.after
            mid).m_positionLocked = false := by
          have hstep := step_flags ((ofPosition position true utc₀).after pre) (.update utc x)
          exact (after_flags (hstep.1.trans (hflags pre).1) (hstep.2.trans (hflags pre).2) mid).1
        exact update_not_locked hlock utc' y hnext
  · -- After the throw only `get_serialized` is called, so there is nothing to refuse.
    intro hcond pre utc x post hops hthrow
    have haccept := (update_throws_good_iff (hflags pre).1 (hflags pre).2 utc x).mp hthrow
    have hquiet := hcond pre utc x post hops haccept.1 haccept.2
    constructor
    · intro mid utc' y rest hpost
      exact absurd trivial (hquiet (.update utc' y) (by rw [hpost]; simp))
    · intro mid rest hpost
      apply after_serialized_position
      intro op hop
      exact hquiet op (by rw [hpost]; simp [hop])

/-- Two good fixes, as of two feeds, one second apart: the second one moves the position. -/
theorem not_locksGood_two_feeds :
    ¬ (ofPosition {} true ⟨0, 0, 12, 1, 0, 100⟩).LocksGood
      [.update ⟨1, 0, 12, 1, 0, 100⟩
        { m_timeStamp := { m_value := 43201000, m_day := 1 }, m_nrOfSatellites := 7,
          m_fixQuality := 1, m_dilution := 1 },
       .update ⟨2, 0, 12, 1, 0, 100⟩
        { m_timeStamp := { m_value := 43202000, m_day := 1 }, m_nrOfSatellites := 7,
          m_fixQuality := 1, m_dilution := 1, m_position := { altitude := 100 } }] := by
  intro hlocks
  have hfirst := (hlocks [] _ _ _ rfl (by decide +kernel)).2 [.update ⟨2, 0, 12, 1, 0, 100⟩
        { m_timeStamp := { m_value := 43202000, m_day := 1 }, m_nrOfSatellites := 7,
          m_fixQuality := 1, m_dilution := 1, m_position := { altitude := 100 } }] [] rfl
  revert hfirst
  decide +kernel

end GpsData

end VirtualFlightRadar
