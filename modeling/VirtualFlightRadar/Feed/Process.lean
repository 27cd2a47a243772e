import VirtualFlightRadar.Client.ClientManager
import VirtualFlightRadar.Feed.AircraftFeed
import VirtualFlightRadar.Feed.SensorParser
import VirtualFlightRadar.VFRB

/-!
# A line at a feed

`process` of every feed parses the line into a new object and hands an accepted one to the store of
the feed.  It returns `false` for one reason only: the store of the own position has thrown.
-/

open Cxx

namespace VirtualFlightRadar

def GpsFeed.process (boost : BoostRegex) (clock : DateTime) (utc : Tm) (priority : UInt32)
    (response : Bytes) (data : GpsData) : Bool × GpsData :=
  match GpsParser.unpack boost clock response (.ofPriority priority) with
  | (true, pos) =>
      match data.update utc pos with
      | (.ok _, data) => (true, data)
      -- `catch (const data::GpsDataException& e)`
      | (.error _, data) => (false, data)
  | (false, _) => (true, data)

def WindFeed.process (priority : UInt32) (response : Bytes) (data : WindData) : Bool × WindData :=
  match WindParser.unpack response { m_lastPriority := priority } with
  | (true, wind) => (true, (data.update wind).2)
  | (false, _) => (true, data)

def AtmosphereFeed.process (priority : UInt32) (response : Bytes) (data : AtmosphereData) :
    Bool × AtmosphereData :=
  match AtmosphereParser.unpack response { m_lastPriority := priority } with
  | (true, atmos) => (true, (data.update atmos).2)
  | (false, _) => (true, data)

/-- The classes that override `process`. -/
inductive FeedClass where
  | AprscFeed
  | SbsFeed
  | GpsFeed
  | WindFeed
  | AtmosphereFeed
  deriving DecidableEq, Repr

def FeedClass.get_protocol : FeedClass → Protocol
  | .AprscFeed => .APRS
  | .SbsFeed => .SBS
  | .GpsFeed => .GPS
  | .WindFeed => .SENSOR
  | .AtmosphereFeed => .SENSOR

/-- What the clients ask a feed for. -/
structure DataFeed where
  type : FeedClass
  m_priority : UInt32
  endpoint : Endpoint
  -- Of an `AprscFeed`
  login : Bytes := []

/-- What a call of `process` reads besides: the two clocks, and the line. -/
structure Reading where
  clock : DateTime
  utc : Tm
  response : Bytes

/-- What all calls of `process` read: the regex library, and the static `s_maxHeight` of the parsers. -/
structure Parsers where
  boost : BoostRegex
  s_maxHeight : Int32

namespace DataFeed

def toFeed (this : DataFeed) : Feed where
  protocol := this.type.get_protocol
  endpoint := this.endpoint
  login := this.login

/-- `process` on the store that the feed was made with. -/
def process (parsers : Parsers) (this : DataFeed) (reading : Reading) (s : VFRB) :
    Option (Bool × VFRB) :=
  match this.type with
  | .AprscFeed =>
      (AprscFeed.process parsers.boost reading.clock parsers.s_maxHeight this.m_priority
        reading.response s.m_aircraftData).map fun (valid, data) =>
          (valid, { s with m_aircraftData := data })
  | .SbsFeed =>
      (SbsFeed.process reading.clock parsers.s_maxHeight this.m_priority reading.response
        s.m_aircraftData).map fun (valid, data) => (valid, { s with m_aircraftData := data })
  | .GpsFeed =>
      let (valid, data) := GpsFeed.process parsers.boost reading.clock reading.utc this.m_priority
        reading.response s.m_gpsData
      some (valid, { s with m_gpsData := data })
  | .WindFeed =>
      let (valid, data) := WindFeed.process this.m_priority reading.response s.m_windData
      some (valid, { s with m_windData := data })
  | .AtmosphereFeed =>
      let (valid, data) :=
        AtmosphereFeed.process this.m_priority reading.response s.m_atmosphereData
      some (valid, { s with m_atmosphereData := data })

/-! ## The update a line makes -/

def unpackedAct {α : Type} (update : α → Act) : Bool × α → Option Act
  | (true, object) => some (update object)
  | (false, _) => none

/-- The step of the stores that a line leads to, if its parser accepts it. -/
def act (parsers : Parsers) (this : DataFeed) (reading : Reading) : Option Act :=
  match this.type with
  | .AprscFeed => unpackedAct .updateAircraft (AprsParser.unpack parsers.boost reading.clock
      parsers.s_maxHeight reading.response (.ofPriority this.m_priority))
  | .SbsFeed => unpackedAct .updateAircraft (SbsParser.unpack reading.clock parsers.s_maxHeight
      reading.response (.ofPriority this.m_priority))
  | .GpsFeed => unpackedAct (.updateGps reading.utc) (GpsParser.unpack parsers.boost reading.clock
      reading.response (.ofPriority this.m_priority))
  | .WindFeed => unpackedAct .updateWind
      (WindParser.unpack reading.response { m_lastPriority := this.m_priority })
  | .AtmosphereFeed => unpackedAct .updateAtmosphere
      (AtmosphereParser.unpack reading.response { m_lastPriority := this.m_priority })

/-- What `process` returns after an update. -/
def validOf : Event → Bool
  | .gpsUpdated (.error _) => false
  | _ => true

/-- The update of a line as a step of the stores, or nothing. -/
def store (m : Libm) (s : VFRB) : Option Act → Option (Option (Act × Event) × VFRB)
  | none => some (none, s)
  | some act => (s.step m act).map fun (event, s) => (some (act, event), s)

/-- `false` is returned for a thrown update and for nothing else. -/
def validAfter : Option (Act × Event) → Bool
  | none => true
  | some (_, event) => validOf event

theorem processUnpacked_store (m : Libm) (unpacked : Bool × Aircraft) (s : VFRB) :
    (processUnpacked unpacked s.m_aircraftData).map
        (fun (valid, data) => (valid, { s with m_aircraftData := data })) =
      (store m s (unpackedAct .updateAircraft unpacked)).map
        fun (stored, s) => (validAfter stored, s) := by
  obtain ⟨valid, ac⟩ := unpacked
  cases valid with
  | false => rfl
  | true =>
      unfold processUnpacked
      simp only [unpackedAct, store, VFRB.step]
      cases s.m_aircraftData.update ac with
      | none => rfl
      | some updated => rfl

/-- Whatever the class, a line is at most one step of the stores, which leaves the serving thread
where it is. -/
theorem process_eq_store (m : Libm) (parsers : Parsers) (this : DataFeed) (reading : Reading)
    (s : VFRB) : this.process parsers reading s =
      (store m s (this.act parsers reading)).map fun (stored, s) => (validAfter stored, s) := by
  unfold process act
  cases this.type with
  | AprscFeed => exact processUnpacked_store m _ s
  | SbsFeed => exact processUnpacked_store m _ s
  | GpsFeed =>
      simp only [GpsFeed.process]
      rcases GpsParser.unpack parsers.boost reading.clock reading.response
        (.ofPriority this.m_priority) with ⟨valid, pos⟩
      cases valid with
      | false => rfl
      | true =>
          simp only [unpackedAct, store, VFRB.step]
          rcases s.m_gpsData.update reading.utc pos with ⟨outcome, data⟩
          cases outcome with
          | ok updated => rfl
          | error e => rfl
  | WindFeed =>
      simp only [WindFeed.process]
      rcases WindParser.unpack reading.response { m_lastPriority := this.m_priority } with
        ⟨valid, wind⟩
      cases valid with
      | false => rfl
      | true => rfl
  | AtmosphereFeed =>
      simp only [AtmosphereFeed.process]
      rcases AtmosphereParser.unpack reading.response { m_lastPriority := this.m_priority } with
        ⟨valid, atmos⟩
      cases valid with
      | false => rfl
      | true => rfl

/-- The update that a call of `process` makes, if any. -/
def stored (m : Libm) (parsers : Parsers) (this : DataFeed) (reading : Reading) (s : VFRB) :
    Option (Act × Event) :=
  (this.act parsers reading).bind fun act => (s.step m act).map fun (event, _) => (act, event)

/-- A call that returns has made the update that its line asks for, and nothing else. -/
theorem process_stored {m : Libm} {parsers : Parsers} {this : DataFeed} {reading : Reading}
    {s s' : VFRB} {valid : Bool} (h : this.process parsers reading s = some (valid, s')) :
    match this.stored m parsers reading s with
    | none => this.act parsers reading = none ∧ s' = s ∧ valid = true
    | some (act, event) => this.act parsers reading = some act ∧
        s.step m act = some (event, s') ∧ valid = validOf event := by
  rw [process_eq_store m, Option.map_eq_some_iff] at h
  obtain ⟨⟨kept, after⟩, hstore, heq⟩ := h
  cases heq
  unfold stored
  cases hact : this.act parsers reading with
  | none =>
      rw [hact] at hstore
      cases hstore
      exact ⟨rfl, rfl, rfl⟩
  | some act =>
      rw [hact] at hstore
      obtain ⟨⟨event, next⟩, hstep, heq⟩ := Option.map_eq_some_iff.mp hstore
      cases heq
      simp only [Option.bind_some, hstep, Option.map_some]
      exact ⟨trivial, trivial, rfl⟩

/-! ## What a line can ask for -/

/-- An update of a store. -/
def Updates : Act → Prop
  | .updateAircraft aircraft => aircraft.Fresh
  | .updateGps _ _ => True
  | .updateAtmosphere _ => True
  | .updateWind _ => True
  | _ => False

theorem unpackedAct_eq {α : Type} {update : α → Act} {unpacked : Bool × α} {act : Act}
    (h : unpackedAct update unpacked = some act) :
    unpacked.1 = true ∧ act = update unpacked.2 := by
  obtain ⟨valid, object⟩ := unpacked
  cases valid with
  | false => cases h
  | true =>
      cases h
      exact ⟨rfl, rfl⟩

/-- Lines ask for updates only, and for aircrafts as they are when they are new. -/
theorem updates_of_act {parsers : Parsers} {this : DataFeed} {reading : Reading} {act : Act}
    (h : this.act parsers reading = some act) : Updates act := by
  unfold DataFeed.act at h
  cases htype : this.type with
  | AprscFeed =>
      rw [htype] at h
      obtain ⟨hvalid, rfl⟩ := unpackedAct_eq h
      exact (AircraftFeed.accepted_aprsc _ _ _ _ _ hvalid).fresh
  | SbsFeed =>
      rw [htype] at h
      obtain ⟨hvalid, rfl⟩ := unpackedAct_eq h
      exact (AircraftFeed.accepted_sbs _ _ _ _ hvalid).fresh
  | GpsFeed =>
      rw [htype] at h
      obtain ⟨-, rfl⟩ := unpackedAct_eq h
      exact trivial
  | WindFeed =>
      rw [htype] at h
      obtain ⟨-, rfl⟩ := unpackedAct_eq h
      exact trivial
  | AtmosphereFeed =>
      rw [htype] at h
      obtain ⟨-, rfl⟩ := unpackedAct_eq h
      exact trivial

/-- No store lets a call of `process` fail. -/
theorem process_defined (parsers : Parsers) (this : DataFeed) (reading : Reading) {s : VFRB}
    (hrep : s.m_aircraftData.RepInv) :
    ∃ valid s', this.process parsers reading s = some (valid, s') := by
  rw [process_eq_store .atOrigin]
  cases hact : this.act parsers reading with
  | none => exact ⟨_, _, rfl⟩
  | some act =>
      have hupdates := updates_of_act hact
      cases act with
      | updateAircraft aircraft =>
          obtain ⟨accepted, data, hupdate, -⟩ := hrep.update_mem hupdates
          refine ⟨true, { s with m_aircraftData := data }, ?_⟩
          rw [store, VFRB.step, hupdate]
          rfl
      | updateGps utc position => exact ⟨_, _, rfl⟩
      | updateAtmosphere atmosphere => exact ⟨_, _, rfl⟩
      | updateWind wind => exact ⟨_, _, rfl⟩
      | _ => exact absurd hupdates id

end DataFeed

end VirtualFlightRadar
