import VirtualFlightRadar.Config.Configuration
import VirtualFlightRadar.Feed.Process

/-!
# Creating the feeds

`createFeeds` goes through the names in the configuration.  The first keyword that a name contains
selects the class of the feed, and the constructor reads the section.  The constructors of `AprscFeed`
and `SbsFeed` also set the static height filter of their parser.  An exception ends the one feed only.
-/

open Cxx

namespace VirtualFlightRadar

def SECT_KEY_APRSC : Bytes := str "aprs"
def SECT_KEY_SBS : Bytes := str "sbs"
def SECT_KEY_GPS : Bytes := str "gps"
def SECT_KEY_WIND : Bytes := str "wind"
def SECT_KEY_ATMOS : Bytes := str "atm"

def KV_KEY_LOGIN : Bytes := str "login"

def FeedClass.component : FeedClass → Bytes
  | .AprscFeed => str "(AprscFeed)"
  | .SbsFeed => str "(SbsFeed)"
  | .GpsFeed => str "(GpsFeed)"
  | .WindFeed => str "(WindFeed)"
  | .AtmosphereFeed => str "(AtmosphereFeed)"

structure CreatedFeed extends ConfiguredFeed where
  type : FeedClass

/-- What the constructors write to besides: a static member of each parser of aircraft, and the log.
-/
structure FactoryState where
  -- `AprsParser::s_maxHeight`
  aprsMaxHeight : Int32 := Int32.maxValue
  -- `SbsParser::s_maxHeight`
  sbsMaxHeight : Int32 := Int32.maxValue
  log : List Bytes := []

namespace FactoryState

def warn (this : FactoryState) (line : Bytes) : FactoryState :=
  { this with log := this.log ++ [line] }

/-- The constructor of the base class -/
def construct (this : FactoryState) (type : FeedClass) (memory : UInt32) (name : Bytes)
    (properties : Properties) : Except Bytes CreatedFeed × FactoryState :=
  let (warnings, feed) := ConfiguredFeed.make memory name type.component properties
  (feed.map fun feed => { feed with type := type }, { this with log := this.log ++ warnings })

end FactoryState

/-! ## The constructors -/

def AprscFeed.make (maxHeight : Int32) (memory : UInt32) (name : Bytes) (properties : Properties)
    (state : FactoryState) : Except Bytes CreatedFeed × FactoryState :=
  match state.construct .AprscFeed memory name properties with
  | (.ok feed, state) =>
      let state := { state with aprsMaxHeight := maxHeight }
      if properties.get_property KV_KEY_LOGIN (str "-") = str "-" then
        (.error (str "No login given"), state.warn
          (ConfiguredFeed.couldNotFind name FeedClass.AprscFeed.component KV_KEY_LOGIN))
      else (.ok feed, state)
  | failed => failed

def SbsFeed.make (maxHeight : Int32) (memory : UInt32) (name : Bytes) (properties : Properties)
    (state : FactoryState) : Except Bytes CreatedFeed × FactoryState :=
  match state.construct .SbsFeed memory name properties with
  | (.ok feed, state) => (.ok feed, { state with sbsMaxHeight := maxHeight })
  | failed => failed

namespace FeedFactory

variable (config : Configuration)

def makeFeed (type : FeedClass) (memory : UInt32) (name : Bytes) (state : FactoryState) :
    Except Bytes CreatedFeed × FactoryState :=
  match config.m_feedProperties name with
  -- `m_config->get_feedProperties().at(name)` throws.
  | none => (.error (str "unordered_map::at"), state)
  | some properties =>
      match type with
      | .AprscFeed => AprscFeed.make config.m_maxHeight memory name properties state
      | .SbsFeed => SbsFeed.make config.m_maxHeight memory name properties state
      | .GpsFeed => state.construct .GpsFeed memory name properties
      | .WindFeed => state.construct .WindFeed memory name properties
      | .AtmosphereFeed => state.construct .AtmosphereFeed memory name properties

-- `boost::make_optional`
def makeOptional (made : Except Bytes CreatedFeed × FactoryState) :
    Except Bytes (Option CreatedFeed) × FactoryState := (made.1.map some, made.2)

def createFeed (memory : UInt32) (name : Bytes) (state : FactoryState) :
    Except Bytes (Option CreatedFeed) × FactoryState :=
  if SECT_KEY_APRSC <:+: name then makeOptional (makeFeed config .AprscFeed memory name state)
  else if SECT_KEY_SBS <:+: name then makeOptional (makeFeed config .SbsFeed memory name state)
  else if SECT_KEY_GPS <:+: name then makeOptional (makeFeed config .GpsFeed memory name state)
  else if SECT_KEY_WIND <:+: name then makeOptional (makeFeed config .WindFeed memory name state)
  else if SECT_KEY_ATMOS <:+: name then
    makeOptional (makeFeed config .AtmosphereFeed memory name state)
  else (.ok none, state)

end FeedFactory

/-- One round of the loop in `VFRB::createFeeds` -/
def VFRB.addFeed (config : Configuration) (m_feeds : List CreatedFeed × FactoryState)
    (memory : UInt32) (name : Bytes) : List CreatedFeed × FactoryState :=
  match FeedFactory.createFeed config memory name m_feeds.2 with
  | (.ok (some feed), state) => (m_feeds.1 ++ [feed], state)
  | (.ok none, state) => (m_feeds.1, state.warn (str "(VFRB) create feed " ++ name ++
      str ": No keywords found; be sure feed names contain one of aprs, sbs, wind, atm, gps"))
  | (.error what, state) =>
      (m_feeds.1, state.warn (str "(VFRB) create feed " ++ name ++ str ": " ++ what))

/-- `memory k` is what the memory of the `k`-th feed held. -/
def VFRB.createFeeds (config : Configuration) (memory : Nat → UInt32) :
    List CreatedFeed × FactoryState :=
  config.m_feedNames.zipIdx.foldl (fun m_feeds (name, k) => addFeed config m_feeds (memory k) name)
    ([], {})

namespace CreatedFeed

-- Only an `AprscFeed` has a login.
def get_login (this : CreatedFeed) : Bytes :=
  match this.type with
  | .AprscFeed => this.m_properties.get_property KV_KEY_LOGIN []
  | _ => []

def toDataFeed (this : CreatedFeed) : DataFeed where
  type := this.type
  m_priority := this.m_priority
  endpoint := this.get_endpoint
  login := this.get_login

end CreatedFeed

namespace FeedFactory

/-! ## A feed on its own -/

/-- The class that the keywords of a name stand for. -/
def classOf (name : Bytes) : Option FeedClass :=
  if SECT_KEY_APRSC <:+: name then some .AprscFeed
  else if SECT_KEY_SBS <:+: name then some .SbsFeed
  else if SECT_KEY_GPS <:+: name then some .GpsFeed
  else if SECT_KEY_WIND <:+: name then some .WindFeed
  else if SECT_KEY_ATMOS <:+: name then some .AtmosphereFeed
  else none

/-- A section with all that a feed of the class needs. -/
def Complete (type : FeedClass) (properties : Properties) : Prop :=
  properties.get_property KV_KEY_HOST [] ≠ [] ∧ properties.get_property KV_KEY_PORT [] ≠ [] ∧
    (type = .AprscFeed → properties.get_property KV_KEY_LOGIN (str "-") ≠ str "-")

instance (type : FeedClass) (properties : Properties) : Decidable (Complete type properties) :=
  inferInstanceAs (Decidable (_ ∧ _))

/-- The feed a section describes. -/
def feedOf (type : FeedClass) (memory : UInt32) (name : Bytes) (properties : Properties) :
    CreatedFeed where
  m_name := name
  m_component := type.component
  m_properties := properties
  m_priority := (ConfiguredFeed.initPriority name type.component properties memory).1
  type := type

/-- The feed of a name, whatever other feeds there are. -/
def made (sections : Map Bytes Properties) (memory : UInt32) (name : Bytes) : Option CreatedFeed :=
  match classOf name, sections name with
  | some type, some properties =>
      if Complete type properties then some (feedOf type memory name properties) else none
  | _, _ => none

/-- What a constructor does to the height filters: it leaves them alone or sets them. -/
structure Sets (maxHeight : Int32) (state state' : FactoryState) : Prop where
  aprs : state'.aprsMaxHeight = state.aprsMaxHeight ∨ state'.aprsMaxHeight = maxHeight
  sbs : state'.sbsMaxHeight = state.sbsMaxHeight ∨ state'.sbsMaxHeight = maxHeight

/-- The height filter is set for the parser of a class. -/
structure InForce (maxHeight : Int32) (type : FeedClass) (state : FactoryState) : Prop where
  aprs : type = .AprscFeed → state.aprsMaxHeight = maxHeight
  sbs : type = .SbsFeed → state.sbsMaxHeight = maxHeight

/-- A feed is made of a complete section, and of no other one. -/
structure Makes (maxHeight : Int32) (type : FeedClass) (memory : UInt32) (name : Bytes)
    (properties : Properties) (state : FactoryState)
    (result : Except Bytes CreatedFeed × FactoryState) : Prop where
  sets : Sets maxHeight state result.2
  complete : Complete type properties →
    result.1 = .ok (feedOf type memory name properties) ∧ InForce maxHeight type result.2
  incomplete : ¬ Complete type properties → ∃ what, result.1 = .error what

section

variable {maxHeight : Int32} {type : FeedClass} {memory : UInt32} {name : Bytes}
  {properties : Properties} {state state' : FactoryState}

/-- A filter that is set stays so. -/
theorem InForce.mono (h : InForce maxHeight type state) (hsets : Sets maxHeight state state') :
    InForce maxHeight type state' := by
  constructor
  · intro htype
    rcases hsets.aprs with heq | hset
    · exact heq.trans (h.aprs htype)
    · exact hset
  · intro htype
    rcases hsets.sbs with heq | hset
    · exact heq.trans (h.sbs htype)
    · exact hset

/-- The base class asks for the endpoint. -/
theorem construct_eq (state : FactoryState) (type : FeedClass) (memory : UInt32) (name : Bytes)
    (properties : Properties) : ∃ log,
    (ConfiguredFeed.Given properties ∧ state.construct type memory name properties =
      (.ok (feedOf type memory name properties), { state with log := log })) ∨
    (¬ ConfiguredFeed.Given properties ∧ ∃ what,
      state.construct type memory name properties = (.error what, { state with log := log })) := by
  refine ⟨state.log ++ (ConfiguredFeed.make memory name type.component properties).1, ?_⟩
  unfold FactoryState.construct
  cases hmake : ConfiguredFeed.make memory name type.component properties with
  | mk warnings feed =>
      have hfeed : (ConfiguredFeed.make memory name type.component properties).2 = feed := by
        rw [hmake]
      cases feed with
      | error what =>
          refine .inr ⟨fun hgiven => ?_, what, rfl⟩
          rw [ConfiguredFeed.make_given hgiven] at hfeed
          cases hfeed
      | ok feed =>
          obtain ⟨hgiven, heq⟩ := ConfiguredFeed.make_ok hfeed
          refine .inl ⟨hgiven, ?_⟩
          rw [heq]
          exact rfl

/-- The classes without a filter and without a login. -/
theorem makes_construct (haprs : type ≠ .AprscFeed) (hsbs : type ≠ .SbsFeed) :
    Makes maxHeight type memory name properties state
      (state.construct type memory name properties) := by
  obtain ⟨log, ⟨hgiven, hok⟩ | ⟨hgiven, what, herror⟩⟩ :=
    construct_eq state type memory name properties
  · rw [hok]
    refine ⟨⟨.inl rfl, .inl rfl⟩, fun _ => ⟨rfl, fun h => absurd h haprs,
      fun h => absurd h hsbs⟩, fun hno => ?_⟩
    exact absurd ⟨hgiven.host, hgiven.port, fun h => absurd h haprs⟩ hno
  · rw [herror]
    refine ⟨⟨.inl rfl, .inl rfl⟩, fun hcomplete => ?_, fun _ => ⟨what, rfl⟩⟩
    exact absurd ⟨hcomplete.1, hcomplete.2.1⟩ hgiven

theorem makes_sbs : Makes maxHeight .SbsFeed memory name properties state
    (SbsFeed.make maxHeight memory name properties state) := by
  unfold SbsFeed.make
  obtain ⟨log, ⟨hgiven, hok⟩ | ⟨hgiven, what, herror⟩⟩ :=
    construct_eq state .SbsFeed memory name properties
  · rw [hok]
    refine ⟨⟨.inl rfl, .inr rfl⟩, fun _ => ⟨rfl, nofun, fun _ => rfl⟩,
      fun hno => ?_⟩
    exact absurd ⟨hgiven.host, hgiven.port, nofun⟩ hno
  · rw [herror]
    refine ⟨⟨.inl rfl, .inl rfl⟩, fun hcomplete => ?_, fun _ => ⟨what, rfl⟩⟩
    exact absurd ⟨hcomplete.1, hcomplete.2.1⟩ hgiven

theorem makes_aprsc : Makes maxHeight .AprscFeed memory name properties state
    (AprscFeed.make maxHeight memory name properties state) := by
  unfold AprscFeed.make
  obtain ⟨log, ⟨hgiven, hok⟩ | ⟨hgiven, what, herror⟩⟩ :=
    construct_eq state .AprscFeed memory name properties
  · rw [hok]
    by_cases hlogin : properties.get_property KV_KEY_LOGIN (str "-") = str "-"
    · -- The filter is set before the login is looked at.
      simp only [hlogin, if_true]
      refine ⟨⟨.inr rfl, .inl rfl⟩, fun hcomplete => ?_, fun _ => ⟨_, rfl⟩⟩
      exact absurd hlogin (hcomplete.2.2 rfl)
    · simp only [hlogin, if_false]
      refine ⟨⟨.inr rfl, .inl rfl⟩, fun _ => ⟨rfl, fun _ => rfl, nofun⟩,
        fun hno => ?_⟩
      exact absurd ⟨hgiven.host, hgiven.port, fun _ => hlogin⟩ hno
  · rw [herror]
    refine ⟨⟨.inl rfl, .inl rfl⟩, fun hcomplete => ?_, fun _ => ⟨what, rfl⟩⟩
    exact absurd ⟨hcomplete.1, hcomplete.2.1⟩ hgiven

end

variable {config} {memory : UInt32} {name : Bytes} {properties : Properties} {state : FactoryState}

theorem makeFeed_makes (h : config.m_feedProperties name = some properties) (type : FeedClass) :
    Makes config.m_maxHeight type memory name properties state
      (makeFeed config type memory name state) := by
  unfold makeFeed
  rw [h]
  cases type with
  | AprscFeed => exact makes_aprsc
  | SbsFeed => exact makes_sbs
  | GpsFeed => exact makes_construct nofun nofun
  | WindFeed => exact makes_construct nofun nofun
  | AtmosphereFeed => exact makes_construct nofun nofun

theorem createFeed_eq (memory : UInt32) (name : Bytes) (state : FactoryState) :
    createFeed config memory name state = match classOf name with
      | some type => makeOptional (makeFeed config type memory name state)
      | none => (.ok none, state) := by
  unfold createFeed classOf
  split
  · rfl
  · split
    · rfl
    · split
      · rfl
      · split
        · rfl
        · split <;> rfl

theorem createFeed_some {type : FeedClass} (h : classOf name = some type) (memory : UInt32)
    (state : FactoryState) : createFeed config memory name state =
      makeOptional (makeFeed config type memory name state) := by
  rw [createFeed_eq, h]

theorem createFeed_none (h : classOf name = none) (memory : UInt32) (state : FactoryState) :
    createFeed config memory name state = (.ok none, state) := by
  rw [createFeed_eq, h]

/-! ## All feeds -/

/-- A round adds the feed of the name, if it can be made. -/
theorem addFeed_eq (h : config.m_feedProperties name = some properties)
    (m_feeds : List CreatedFeed × FactoryState) (memory : UInt32) :
    (VFRB.addFeed config m_feeds memory name).1 =
        m_feeds.1 ++ (made config.m_feedProperties memory name).toList ∧
      Sets config.m_maxHeight m_feeds.2 (VFRB.addFeed config m_feeds memory name).2 ∧
      ∀ feed ∈ made config.m_feedProperties memory name,
        InForce config.m_maxHeight feed.type (VFRB.addFeed config m_feeds memory name).2 := by
  unfold VFRB.addFeed made
  rw [h]
  cases hclass : classOf name with
  | none =>
      rw [createFeed_none hclass]
      exact ⟨(List.append_nil _).symm, ⟨.inl rfl, .inl rfl⟩, (by rintro _ ⟨⟩)⟩
  | some type =>
      rw [createFeed_some hclass]
      have hmakes : Makes config.m_maxHeight type memory name properties m_feeds.2
          (makeFeed config type memory name m_feeds.2) := makeFeed_makes h type
      obtain ⟨result, state, hmade⟩ : ∃ result state,
          makeFeed config type memory name m_feeds.2 = (result, state) := ⟨_, _, rfl⟩
      rw [hmade] at hmakes ⊢
      by_cases hcomplete : Complete type properties
      · obtain ⟨hresult, hforce⟩ := hmakes.complete hcomplete
        change result = .ok _ at hresult
        rw [hresult]
        simp only [makeOptional, Except.map, hcomplete, if_true]
        refine ⟨rfl, hmakes.sets, fun feed hfeed => ?_⟩
        cases hfeed
        exact hforce
      · obtain ⟨what, hresult⟩ := hmakes.incomplete hcomplete
        change result = .error what at hresult
        rw [hresult]
        simp only [makeOptional, Except.map, hcomplete, if_false]
        exact ⟨(List.append_nil _).symm, ⟨hmakes.sets.aprs, hmakes.sets.sbs⟩,
          (by rintro _ ⟨⟩)⟩

/-- The feeds of the names, from a state that other feeds have left. -/
theorem foldl_addFeed (memory : Nat → UInt32) (names : List (Bytes × Nat))
    (h : ∀ entry ∈ names, (config.m_feedProperties entry.1).isSome)
    (m_feeds : List CreatedFeed × FactoryState)
    (hforce : ∀ feed ∈ m_feeds.1, InForce config.m_maxHeight feed.type m_feeds.2) :
    let all := names.foldl (fun m_feeds (name, k) => VFRB.addFeed config m_feeds (memory k) name)
      m_feeds
    all.1 = m_feeds.1 ++ names.filterMap (fun entry =>
        made config.m_feedProperties (memory entry.2) entry.1) ∧
      ∀ feed ∈ all.1, InForce config.m_maxHeight feed.type all.2 := by
  induction names generalizing m_feeds with
  | nil => exact ⟨(List.append_nil _).symm, hforce⟩
  | cons entry names ih =>
      obtain ⟨name, k⟩ := entry
      obtain ⟨properties, hproperties⟩ :=
        Option.isSome_iff_exists.mp (h (name, k) List.mem_cons_self)
      obtain ⟨hadd, hsets, hnew⟩ := addFeed_eq hproperties m_feeds (memory k)
      have hnext : ∀ feed ∈ (VFRB.addFeed config m_feeds (memory k) name).1,
          InForce config.m_maxHeight feed.type
            (VFRB.addFeed config m_feeds (memory k) name).2 := by
        intro feed hfeed
        rw [hadd, List.mem_append] at hfeed
        cases hfeed with
        | inl hold => exact (hforce feed hold).mono hsets
        | inr hmade => exact hnew feed (Option.mem_toList.mp hmade)
      obtain ⟨hall, hend⟩ := ih (fun other hmem => h other (List.mem_cons_of_mem _ hmem)) _ hnext
      refine ⟨?_, hend⟩
      rw [List.foldl_cons, hall, hadd, List.append_assoc, List.filterMap_cons]
      congr 1
      cases made config.m_feedProperties (memory k) name <;> rfl

end FeedFactory

end VirtualFlightRadar
