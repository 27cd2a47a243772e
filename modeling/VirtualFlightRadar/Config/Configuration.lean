import VirtualFlightRadar.Feed.Feed
import VirtualFlightRadar.Object.GpsPosition
import VirtualFlightRadar.Util.Utility

/-!
# The configuration

The constructor of `Configuration` reads an ini file into a property tree and resolves its values.  A
fallback value that is no number is an error, a filter or a port that is none has its default, and a
feed whose section is missing is left out.
-/

open Cxx

namespace VirtualFlightRadar

/-- An exception with its `what()` -/
structure StdException where
  kind : StdError
  what : Bytes

/-- Code that may throw, with the warnings and errors in the log. -/
abbrev Logged := ExceptT StdException (StateM (List Bytes))

namespace Logged

def warn (line : Bytes) : Logged Unit := modify (· ++ [line])

def result {α : Type} (x : Logged α) (log : List Bytes) : Except StdException α × List Bytes :=
  x.run.run log

section

variable {α β : Type} {x : Logged α} {f : α → Logged β} {log log' : List Bytes}

theorem result_bind (x : Logged α) (f : α → Logged β) (log : List Bytes) :
    (x >>= f).result log = match x.result log with
      | (.ok a, middle) => (f a).result middle
      | (.error e, middle) => (.error e, middle) := by
  unfold result
  rw [ExceptT.run_bind, StateT.run_bind]
  obtain ⟨a, middle⟩ := x.run.run log
  cases a <;> rfl

theorem bind_result {a : α} (h : x.result log = (.ok a, log')) :
    (x >>= f).result log = (f a).result log' := by
  rw [result_bind, h]

theorem bind_ok {b : β} : (x >>= f).result log = (.ok b, log') ↔
    ∃ a middle, x.result log = (.ok a, middle) ∧ (f a).result middle = (.ok b, log') := by
  rw [result_bind]
  cases hx : x.result log with
  | mk a middle =>
      cases a with
      | error e =>
          constructor
          · intro h
            cases h
          · rintro ⟨a, middle', heq, -⟩
            cases heq
      | ok a =>
          constructor
          · intro h
            exact ⟨a, middle, rfl, h⟩
          · rintro ⟨a', middle', heq, h⟩
            cases heq
            exact h

theorem pure_ok {a b : α} : (pure a : Logged α).result log = (.ok b, log') ↔ a = b ∧ log = log' := by
  constructor
  · intro h
    cases h
    exact ⟨rfl, rfl⟩
  · rintro ⟨rfl, rfl⟩
    rfl

end

end Logged

/-! ## Properties -/

/-- `config::Properties` of a file: its entries by path, and its sections. -/
structure PropertyTree extends Properties where
  get_child : Map Bytes Properties

namespace PropertyTree

def get_propertySection (this : PropertyTree) (section_ : Bytes) : Logged Properties :=
  match this.get_child section_ with
  | some properties => pure properties
  | none => throw ⟨.out_of_range, section_ ++ str " not found"⟩

end PropertyTree

/-- `read_ini` gives a tree, or the file name in its exception. -/
def ConfigReader.read (read_ini : Bytes → Except Bytes PropertyTree) (stream : Bytes) :
    Logged PropertyTree :=
  match read_ini stream with
  | .ok tree => pure tree
  | .error filename => throw ⟨.invalid_argument, filename ++ str " is not a valid INI file"⟩

/-! ## Keys -/

def SECT_KEY_FALLBACK : Bytes := str "fallback"
def SECT_KEY_GENERAL : Bytes := str "general"
def SECT_KEY_FILTER : Bytes := str "filter"

def KV_KEY_MAX_DIST : Bytes := str "maxDist"
def KV_KEY_MAX_HEIGHT : Bytes := str "maxHeight"

-- Concat section and key
def PATH (section_ key : Bytes) : Bytes := section_ ++ str "." ++ key

def PATH_FEEDS : Bytes := PATH SECT_KEY_GENERAL (str "feeds")
def PATH_GND_MODE : Bytes := PATH SECT_KEY_GENERAL (str "gndMode")
def PATH_SERVER_PORT : Bytes := PATH SECT_KEY_GENERAL (str "serverPort")
def PATH_LATITUDE : Bytes := PATH SECT_KEY_FALLBACK (str "latitude")
def PATH_LONGITUDE : Bytes := PATH SECT_KEY_FALLBACK (str "longitude")
def PATH_ALTITUDE : Bytes := PATH SECT_KEY_FALLBACK (str "altitude")
def PATH_GEOID : Bytes := PATH SECT_KEY_FALLBACK (str "geoid")
def PATH_PRESSURE : Bytes := PATH SECT_KEY_FALLBACK (str "pressure")

/-! ## Resolving -/

structure Configuration where
  m_position : GpsPosition
  m_atmPressure : Double
  m_maxHeight : Int32
  m_maxDistance : Int32
  m_serverPort : UInt16
  m_groundMode : Bool
  m_feedNames : List Bytes
  m_feedProperties : Map Bytes Properties

namespace Configuration

def checkNumber {α : Type} (number : Option α) (path : Bytes) : Logged α :=
  match number with
  | some number => pure number
  | none => do
      Logged.warn (str "(Config) " ++ path ++ str ": Could not resolve value.")
      throw ⟨.invalid_argument, []⟩

/-- `checkNumber(stringToNumber(properties.get_property(path, alternative)), path)`, where the type of
the number says how it is extracted. -/
def resolveNumber {α : Type} (extract : Bytes → Option α) (properties : PropertyTree)
    (path alternative : Bytes) : Logged α :=
  checkNumber (extract (properties.get_property path alternative)) path

def resolvePosition (properties : PropertyTree) : Logged GpsPosition := do
  let latitude ← resolveNumber extractDouble properties PATH_LATITUDE (str "0.0")
  let longitude ← resolveNumber extractDouble properties PATH_LONGITUDE (str "0.0")
  let altitude ← resolveNumber extractInt32 properties PATH_ALTITUDE (str "0")
  let geoid ← resolveNumber extractDouble properties PATH_GEOID (str "0.0")
  return .ofPosition ⟨latitude, longitude, altitude⟩ geoid

def resolveServerPort (properties : PropertyTree) : Logged UInt16 :=
  tryCatch (do
    let port ← resolveNumber extractUInt64 properties PATH_SERVER_PORT (str "4353")
    if port > 65535 then throw ⟨.invalid_argument, []⟩
    else return port.toUInt16)
  -- Every exception here is a `std::logic_error`.
  fun _ => return 4353

def resolveFilter (properties : PropertyTree) (key : Bytes) : Logged Int32 :=
  tryCatch (do
    let filter ← resolveNumber extractInt32 properties (PATH SECT_KEY_FILTER key) (str "-1")
    return if filter < 0 then Int32.maxValue else filter)
  fun e => if e.kind = .invalid_argument then return Int32.maxValue else throw e

/-- One round of the loop: the section is looked up before anything is stored. -/
def resolveFeed (properties : PropertyTree) (feeds : List Bytes × Map Bytes Properties)
    (it : Bytes) : Logged (List Bytes × Map Bytes Properties) :=
  tryCatch (do
    let found ← properties.get_propertySection it
    return (feeds.1 ++ [it], feeds.2.insert it found))
  fun e =>
    if e.kind = .out_of_range then do
      Logged.warn (str "(Config) resolveFeeds: " ++ e.what ++ str " for " ++ it)
      return feeds
    else throw e

def resolveFeeds (properties : PropertyTree) : Logged (List Bytes × Map Bytes Properties) :=
  (splitCommaSeparated (properties.get_property PATH_FEEDS [])).foldlM (resolveFeed properties)
    ([], Map.empty)

def resolve (properties : PropertyTree) : Logged Configuration := do
  let m_atmPressure ← resolveNumber extractDouble properties PATH_PRESSURE (str "1013.25")
  let m_position ← resolvePosition properties
  let m_maxDistance ← resolveFilter properties KV_KEY_MAX_DIST
  let m_maxHeight ← resolveFilter properties KV_KEY_MAX_HEIGHT
  let m_serverPort ← resolveServerPort properties
  let m_groundMode := !(properties.get_property PATH_GND_MODE []).isEmpty
  let (m_feedNames, m_feedProperties) ← resolveFeeds properties
  return { m_position, m_atmPressure, m_maxHeight, m_maxDistance, m_serverPort, m_groundMode,
           m_feedNames, m_feedProperties }

/-- The constructor: the log, and the configuration or the text of a `std::logic_error`. -/
def make (read_ini : Bytes → Except Bytes PropertyTree) (stream : Bytes) :
    List Bytes × Except Bytes Configuration :=
  match (ConfigReader.read read_ini stream >>= resolve).result [] with
  | (.ok config, log) => (log, .ok config)
  | (.error e, log) =>
      (log ++ [str "(Config) init: " ++ e.what], .error (str "Failed to read configuration file"))

/-! ## What is resolved -/

section

variable {properties : PropertyTree} {log log' : List Bytes}

theorem resolveNumber_some {α : Type} {extract : Bytes → Option α} {path alternative : Bytes}
    {number : α} (h : extract (properties.get_property path alternative) = some number) :
    resolveNumber extract properties path alternative = pure number := by
  rw [resolveNumber, h]
  rfl

theorem resolveNumber_none {α : Type} {extract : Bytes → Option α} {path alternative : Bytes}
    (h : extract (properties.get_property path alternative) = none) (log : List Bytes) :
    (resolveNumber extract properties path alternative).result log =
      (.error ⟨.invalid_argument, []⟩,
        log ++ [str "(Config) " ++ path ++ str ": Could not resolve value."]) := by
  rw [resolveNumber, h]
  rfl

theorem resolveNumber_ok {α : Type} {extract : Bytes → Option α} {path alternative : Bytes}
    {number : α} (h : (resolveNumber extract properties path alternative).result log =
      (.ok number, log')) :
    extract (properties.get_property path alternative) = some number := by
  cases hextract : extract (properties.get_property path alternative) with
  | none =>
      rw [resolveNumber_none hextract] at h
      cases h
  | some value =>
      rw [resolveNumber_some hextract] at h
      rw [(Logged.pure_ok.mp h).1]

/-- The filter that is in force for a configured value; the largest number is none at all. -/
def filterOf (properties : PropertyTree) (key : Bytes) : Int32 :=
  match extractInt32 (properties.get_property (PATH SECT_KEY_FILTER key) (str "-1")) with
  | some filter => if filter < 0 then Int32.maxValue else filter
  | none => Int32.maxValue

theorem resolveFilter_eq (properties : PropertyTree) (key : Bytes) (log : List Bytes) :
    ∃ log', (resolveFilter properties key).result log = (.ok (filterOf properties key), log') := by
  unfold resolveFilter filterOf
  cases hextract : extractInt32 (properties.get_property (PATH SECT_KEY_FILTER key) (str "-1")) with
  | some filter =>
      rw [resolveNumber_some hextract]
      exact ⟨log, rfl⟩
  | none =>
      refine ⟨log ++ [str "(Config) " ++ PATH SECT_KEY_FILTER key ++
        str ": Could not resolve value."], ?_⟩
      rw [resolveNumber, hextract]
      rfl

theorem filterOf_nonneg (properties : PropertyTree) (key : Bytes) : 0 ≤ filterOf properties key := by
  have hmax : (0 : Int32) ≤ Int32.maxValue := by decide
  unfold filterOf
  split
  · split
    · exact hmax
    · rename_i filter _ hneg
      exact Int32.not_lt.mp hneg
  · exact hmax

/-- The port that the server listens at. -/
def portOf (properties : PropertyTree) : UInt16 :=
  match extractUInt64 (properties.get_property PATH_SERVER_PORT (str "4353")) with
  | some port => if port > 65535 then 4353 else port.toUInt16
  | none => 4353

theorem resolveServerPort_eq (properties : PropertyTree) (log : List Bytes) :
    ∃ log', (resolveServerPort properties).result log = (.ok (portOf properties), log') := by
  unfold resolveServerPort portOf
  cases hextract : extractUInt64 (properties.get_property PATH_SERVER_PORT (str "4353")) with
  | some port =>
      rw [resolveNumber_some hextract]
      by_cases hrange : port > 65535
      · rw [pure_bind]
        simp only
        rw [if_pos hrange, if_pos hrange]
        exact ⟨log, rfl⟩
      · rw [pure_bind]
        simp only
        rw [if_neg hrange, if_neg hrange]
        exact ⟨log, rfl⟩
  | none =>
      refine ⟨log ++ [str "(Config) " ++ PATH_SERVER_PORT ++ str ": Could not resolve value."], ?_⟩
      rw [resolveNumber, hextract]
      rfl

theorem resolvePosition_ok {position : GpsPosition}
    (h : (resolvePosition properties).result log = (.ok position, log')) :
    position.m_position.latitude.InRange ∧ position.m_position.longitude.InRange ∧
      position.m_geoid.InRange := by
  obtain ⟨latitude, log₁, hlatitude, h⟩ := Logged.bind_ok.mp h
  obtain ⟨longitude, log₂, hlongitude, h⟩ := Logged.bind_ok.mp h
  obtain ⟨altitude, log₃, -, h⟩ := Logged.bind_ok.mp h
  obtain ⟨geoid, log₄, hgeoid, h⟩ := Logged.bind_ok.mp h
  obtain ⟨rfl, -⟩ := Logged.pure_ok.mp h
  exact ⟨extractDouble_inRange (resolveNumber_ok hlatitude),
    extractDouble_inRange (resolveNumber_ok hlongitude),
    extractDouble_inRange (resolveNumber_ok hgeoid)⟩

/-! ### Feeds -/

/-- The names whose section is there. -/
def found (properties : PropertyTree) (names : List Bytes) : List Bytes :=
  names.filter fun name => (properties.get_child name).isSome

theorem found_some {it : Bytes} {section_ : Properties}
    (h : properties.get_child it = some section_) (names : List Bytes) :
    found properties (it :: names) = it :: found properties names :=
  List.filter_cons_of_pos (by rw [h]; rfl)

theorem found_none {it : Bytes} (h : properties.get_child it = none) (names : List Bytes) :
    found properties (it :: names) = found properties names :=
  List.filter_cons_of_neg (by rw [h]; decide)

/-- Every name has its own section. -/
def Sectioned (properties : PropertyTree) (feeds : List Bytes × Map Bytes Properties) : Prop :=
  ∀ name, feeds.2 name = if name ∈ feeds.1 then properties.get_child name else none

theorem sectioned_empty (properties : PropertyTree) : Sectioned properties ([], Map.empty) :=
  fun _ => rfl

theorem sectioned_insert {feeds : List Bytes × Map Bytes Properties}
    (h : Sectioned properties feeds) {it : Bytes} {section_ : Properties}
    (hsection : properties.get_child it = some section_) :
    Sectioned properties (feeds.1 ++ [it], feeds.2.insert it section_) := by
  intro name
  have hname := h name
  have hit := h it
  simp only [Map.insert, List.mem_append, List.mem_singleton]
  by_cases heq : name = it
  · subst heq
    have hlast : name ∈ feeds.1 ∨ name = name := .inr rfl
    rw [if_pos hlast, hsection]
    by_cases hmem : name ∈ feeds.1
    · -- The name has been listed before, and its section is kept.
      rw [if_pos hmem, hsection] at hname
      rw [if_pos (by rw [hname]; rfl), hname]
    · rw [if_neg hmem] at hname
      rw [if_neg (by rw [hname]; decide)]
      exact Map.set_self _ _ _
  · have hkept : (if (feeds.2 it).isSome then feeds.2 else feeds.2.set it section_) name =
        feeds.2 name := by
      split
      · rfl
      · exact Map.set_of_ne _ _ heq
    rw [hkept, hname]
    simp only [heq, or_false]

theorem foldlM_resolveFeed (names : List Bytes) {feeds : List Bytes × Map Bytes Properties}
    (h : Sectioned properties feeds) (log : List Bytes) :
    ∃ log' feeds', (names.foldlM (resolveFeed properties) feeds).result log =
      (.ok feeds', log') ∧ feeds'.1 = feeds.1 ++ found properties names ∧
        Sectioned properties feeds' := by
  induction names generalizing feeds log with
  | nil => exact ⟨log, feeds, rfl, (List.append_nil _).symm, h⟩
  | cons it names ih =>
      rw [List.foldlM_cons]
      cases hsection : properties.get_child it with
      | some section_ =>
          obtain ⟨log', feeds', hrest, hnames, hsectioned⟩ := ih (sectioned_insert h hsection) log
          have hkeep : (resolveFeed properties feeds it).result log =
              (.ok (feeds.1 ++ [it], feeds.2.insert it section_), log) := by
            unfold resolveFeed PropertyTree.get_propertySection
            rw [hsection]
            rfl
          refine ⟨log', feeds', ?_, ?_, hsectioned⟩
          · rw [Logged.bind_result hkeep, hrest]
          · rw [hnames, found_some hsection, List.append_assoc]
            rfl
      | none =>
          have hskip : (resolveFeed properties feeds it).result log =
              (.ok feeds, log ++ [str "(Config) resolveFeeds: " ++ (it ++ str " not found") ++
                str " for " ++ it]) := by
            unfold resolveFeed PropertyTree.get_propertySection
            rw [hsection]
            rfl
          obtain ⟨log', feeds', hrest, hnames, hsectioned⟩ := ih h (log ++ [str
            "(Config) resolveFeeds: " ++ (it ++ str " not found") ++ str " for " ++ it])
          refine ⟨log', feeds', ?_, ?_, hsectioned⟩
          · rw [Logged.bind_result hskip, hrest]
          · rw [hnames, found_none hsection]

end

/-! ## A configuration that is read -/

/-- What the rest of the program relies on. -/
structure Valid (config : Configuration) : Prop where
  latitude : config.m_position.m_position.latitude.InRange
  longitude : config.m_position.m_position.longitude.InRange
  geoid : config.m_position.m_geoid.InRange
  pressure : config.m_atmPressure.InRange
  maxHeight : 0 ≤ config.m_maxHeight
  maxDistance : 0 ≤ config.m_maxDistance

/-- The feeds of a configuration are those of the list that have a section, with it. -/
structure Lists (properties : PropertyTree) (config : Configuration) : Prop where
  names : config.m_feedNames =
    found properties (splitCommaSeparated (properties.get_property PATH_FEEDS []))
  sections : ∀ name ∈ config.m_feedNames,
    config.m_feedProperties name = properties.get_child name

theorem resolve_ok {properties : PropertyTree} {config : Configuration} {log log' : List Bytes}
    (h : (resolve properties).result log = (.ok config, log')) :
    config.Valid ∧ config.Lists properties ∧
      config.m_maxDistance = filterOf properties KV_KEY_MAX_DIST ∧
      config.m_maxHeight = filterOf properties KV_KEY_MAX_HEIGHT ∧
      config.m_serverPort = portOf properties := by
  obtain ⟨pressure, log₁, hpressure, h⟩ := Logged.bind_ok.mp h
  obtain ⟨position, log₂, hposition, h⟩ := Logged.bind_ok.mp h
  obtain ⟨maxDistance, log₃, hdistance, h⟩ := Logged.bind_ok.mp h
  obtain ⟨maxHeight, log₄, hheight, h⟩ := Logged.bind_ok.mp h
  obtain ⟨port, log₅, hport, h⟩ := Logged.bind_ok.mp h
  obtain ⟨feeds, log₆, hfeeds, h⟩ := Logged.bind_ok.mp h
  obtain ⟨rfl, -⟩ := Logged.pure_ok.mp h
  obtain ⟨log₇, hdistance'⟩ := resolveFilter_eq properties KV_KEY_MAX_DIST log₂
  obtain ⟨log₈, hheight'⟩ := resolveFilter_eq properties KV_KEY_MAX_HEIGHT log₃
  obtain ⟨log₉, hport'⟩ := resolveServerPort_eq properties log₄
  rw [hdistance'] at hdistance
  rw [hheight'] at hheight
  rw [hport'] at hport
  cases hdistance
  cases hheight
  cases hport
  obtain ⟨log₁₀, feeds', hfold, hnames, hsectioned⟩ := foldlM_resolveFeed
    (splitCommaSeparated (properties.get_property PATH_FEEDS [])) (sectioned_empty properties) log₅
  rw [resolveFeeds, hfold] at hfeeds
  cases hfeeds
  obtain ⟨hlatitude, hlongitude, hgeoid⟩ := resolvePosition_ok hposition
  refine ⟨⟨hlatitude, hlongitude, hgeoid, extractDouble_inRange (resolveNumber_ok hpressure),
    filterOf_nonneg _ _, filterOf_nonneg _ _⟩, ⟨hnames, fun name hmem => ?_⟩, rfl, rfl, rfl⟩
  exact (hsectioned name).trans (if_pos hmem)

/-- The fallback values are numbers, or missing. -/
structure Fallback (properties : PropertyTree) : Prop where
  pressure : (extractDouble (properties.get_property PATH_PRESSURE (str "1013.25"))).isSome
  latitude : (extractDouble (properties.get_property PATH_LATITUDE (str "0.0"))).isSome
  longitude : (extractDouble (properties.get_property PATH_LONGITUDE (str "0.0"))).isSome
  altitude : (extractInt32 (properties.get_property PATH_ALTITUDE (str "0"))).isSome
  geoid : (extractDouble (properties.get_property PATH_GEOID (str "0.0"))).isSome

theorem isSome_of_resolveNumber {α : Type} {properties : PropertyTree} {extract : Bytes → Option α}
    {path alternative : Bytes} {number : α} {log log' : List Bytes}
    (h : (resolveNumber extract properties path alternative).result log = (.ok number, log')) :
    (extract (properties.get_property path alternative)).isSome := by
  rw [resolveNumber_ok h]
  rfl

/-- Nothing but the fallback values can make the constructor fail. -/
theorem resolve_iff (properties : PropertyTree) (log : List Bytes) :
    (∃ config log', (resolve properties).result log = (.ok config, log')) ↔ Fallback properties := by
  constructor
  · rintro ⟨config, log', h⟩
    obtain ⟨pressure, log₁, hpressure, h⟩ := Logged.bind_ok.mp h
    obtain ⟨position, log₂, hposition, -⟩ := Logged.bind_ok.mp h
    obtain ⟨latitude, log₃, hlatitude, h⟩ := Logged.bind_ok.mp hposition
    obtain ⟨longitude, log₄, hlongitude, h⟩ := Logged.bind_ok.mp h
    obtain ⟨altitude, log₅, haltitude, h⟩ := Logged.bind_ok.mp h
    obtain ⟨geoid, log₆, hgeoid, -⟩ := Logged.bind_ok.mp h
    exact ⟨isSome_of_resolveNumber hpressure, isSome_of_resolveNumber hlatitude,
      isSome_of_resolveNumber hlongitude, isSome_of_resolveNumber haltitude,
      isSome_of_resolveNumber hgeoid⟩
  · rintro ⟨hpressure, hlatitude, hlongitude, haltitude, hgeoid⟩
    obtain ⟨pressure, hpressure⟩ := Option.isSome_iff_exists.mp hpressure
    obtain ⟨latitude, hlatitude⟩ := Option.isSome_iff_exists.mp hlatitude
    obtain ⟨longitude, hlongitude⟩ := Option.isSome_iff_exists.mp hlongitude
    obtain ⟨altitude, haltitude⟩ := Option.isSome_iff_exists.mp haltitude
    obtain ⟨geoid, hgeoid⟩ := Option.isSome_iff_exists.mp hgeoid
    have hposition : resolvePosition properties =
        pure (.ofPosition ⟨latitude, longitude, altitude⟩ geoid) := by
      unfold resolvePosition
      rw [resolveNumber_some hlatitude, resolveNumber_some hlongitude,
        resolveNumber_some haltitude, resolveNumber_some hgeoid]
      rfl
    obtain ⟨log₁, hdistance⟩ := resolveFilter_eq properties KV_KEY_MAX_DIST log
    obtain ⟨log₂, hheight⟩ := resolveFilter_eq properties KV_KEY_MAX_HEIGHT log₁
    obtain ⟨log₃, hport⟩ := resolveServerPort_eq properties log₂
    obtain ⟨log₄, feeds, hfeeds, -⟩ := foldlM_resolveFeed
      (splitCommaSeparated (properties.get_property PATH_FEEDS [])) (sectioned_empty properties) log₃
    unfold resolve
    rw [resolveNumber_some hpressure, hposition, pure_bind, pure_bind, Logged.bind_result hdistance,
      Logged.bind_result hheight, Logged.bind_result hport, resolveFeeds,
      Logged.bind_result hfeeds]
    exact ⟨_, log₄, rfl⟩

/-- A file is read as a tree first. -/
theorem make_ok {read_ini : Bytes → Except Bytes PropertyTree} {stream : Bytes}
    {config : Configuration} : (make read_ini stream).2 = .ok config ↔
      ∃ properties log, read_ini stream = .ok properties ∧
        (resolve properties).result [] = (.ok config, log) := by
  constructor
  · intro h
    unfold make at h
    split at h
    · rename_i read log hread
      cases h
      obtain ⟨properties, middle, htree, hresolve⟩ := Logged.bind_ok.mp hread
      unfold ConfigReader.read at htree
      split at htree
      · rename_i tree htree'
        obtain ⟨rfl, rfl⟩ := Logged.pure_ok.mp htree
        exact ⟨tree, log, htree', hresolve⟩
      · cases htree
    · cases h
  · rintro ⟨properties, log, htree, hresolve⟩
    unfold make ConfigReader.read
    rw [htree]
    simp only [pure_bind, hresolve]

/-- A file is refused for its syntax or for a fallback value that is no number, and for nothing else:
a filter or a port that cannot be read has its default, and a listed feed without a section is left
out.  A fallback value that is finite is in the range of a `double`, no filter is negative, and every
feed that is kept has its section. -/
theorem make_spec (read_ini : Bytes → Except Bytes PropertyTree) (stream : Bytes) :
    ((∃ config, (make read_ini stream).2 = .ok config) ↔
      ∃ properties, read_ini stream = .ok properties ∧ Fallback properties) ∧
    ∀ config, (make read_ini stream).2 = .ok config → ∃ properties,
      read_ini stream = .ok properties ∧ config.Valid ∧ config.Lists properties ∧
        config.m_maxDistance = filterOf properties KV_KEY_MAX_DIST ∧
        config.m_maxHeight = filterOf properties KV_KEY_MAX_HEIGHT ∧
        config.m_serverPort = portOf properties := by
  refine ⟨⟨?_, ?_⟩, ?_⟩
  · rintro ⟨config, h⟩
    obtain ⟨properties, log, htree, hresolve⟩ := make_ok.mp h
    exact ⟨properties, htree, (resolve_iff properties []).mp ⟨config, log, hresolve⟩⟩
  · rintro ⟨properties, htree, hfallback⟩
    obtain ⟨config, log, hresolve⟩ := (resolve_iff properties []).mpr hfallback
    exact ⟨config, make_ok.mpr ⟨properties, log, htree, hresolve⟩⟩
  · intro config h
    obtain ⟨properties, log, htree, hresolve⟩ := make_ok.mp h
    exact ⟨properties, htree, resolve_ok hresolve⟩

end Configuration

end VirtualFlightRadar
