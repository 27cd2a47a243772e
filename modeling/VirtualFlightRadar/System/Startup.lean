import VirtualFlightRadar.Feed.FeedFactory
import VirtualFlightRadar.System.Verified

/-!
# From the configuration to the running program

`main` reads the configuration and makes a `VFRB` of it.  The feeds that run are those of the list
whose name has a keyword and whose section has all that their class needs; one that fails leaves the
others alone, and the height filter is in force for every feed of aircrafts before a line is read.
-/

open Cxx
open scoped Computability

namespace VirtualFlightRadar

/-- What `main` is given, and what else the start depends on. -/
structure Startup where
  read_ini : Bytes → Except Bytes PropertyTree
  -- The content of the file
  stream : Bytes
  -- `--ground-mode`
  groundMode : Bool
  -- What the memory of each feed held before its construction
  memory : Nat → UInt32

namespace Startup

def get_config (this : Startup) : Except Bytes Configuration :=
  match (Configuration.make this.read_ini this.stream).2 with
  | .ok conf => .ok (if this.groundMode then { conf with m_groundMode := true } else conf)
  | .error what => .error what

/-- The feeds after the constructor of `VFRB`, and the static members -/
def createFeeds (this : Startup) (config : Configuration) : List CreatedFeed × FactoryState :=
  VFRB.createFeeds config this.memory

/-- The program that `vfrb.run()` runs. -/
def installation (this : Startup) (config : Configuration) (m : Libm) (boost : BoostRegex)
    (utc : Tm) : Installation where
  m := m
  parsers := { boost := boost, s_maxHeight := config.m_maxHeight }
  feeds := (this.createFeeds config).1.map (·.toDataFeed)
  maxDistance := config.m_maxDistance
  atmPressure := config.m_atmPressure
  position := config.m_position
  groundMode := config.m_groundMode
  utc := utc

section

variable {this : Startup} {config : Configuration}

/-- The command line only forces the ground mode. -/
theorem get_config_ok (h : this.get_config = .ok config) : ∃ conf,
    (Configuration.make this.read_ini this.stream).2 = .ok conf ∧
      config = { conf with m_groundMode := this.groundMode || conf.m_groundMode } := by
  unfold get_config at h
  split at h
  · rename_i conf hmake
    refine ⟨conf, hmake, ?_⟩
    cases hground : this.groundMode with
    | true =>
        rw [hground] at h
        exact (Except.ok.inj h).symm
    | false =>
        rw [hground] at h
        exact (Except.ok.inj h).symm
  · cases h

theorem get_config_resolved (h : this.get_config = .ok config) : ∃ properties,
    this.read_ini this.stream = .ok properties ∧ config.Valid ∧ config.Lists properties := by
  obtain ⟨conf, hmake, rfl⟩ := get_config_ok h
  obtain ⟨properties, log, htree, hresolve⟩ := Configuration.make_ok.mp hmake
  obtain ⟨hvalid, hlists, -⟩ := Configuration.resolve_ok hresolve
  exact ⟨properties, htree, ⟨hvalid.latitude, hvalid.longitude, hvalid.geoid, hvalid.pressure,
    hvalid.maxHeight, hvalid.maxDistance⟩, ⟨hlists.names, hlists.sections⟩⟩

end

/-! ## The feeds that run -/

/-- The feed of a listed name: its name, class and section. -/
def described (properties : PropertyTree) (name : Bytes) :
    Option (Bytes × FeedClass × Properties) := do
  let type ← FeedFactory.classOf name
  let section_ ← properties.get_child name
  if FeedFactory.Complete type section_ then some (name, type, section_) else none

/-- The parsers with what the static member of their class holds. -/
def parsersOf (boost : BoostRegex) (state : FactoryState) (type : FeedClass) : Parsers where
  boost := boost
  s_maxHeight :=
    match type with
    | .SbsFeed => state.sbsMaxHeight
    | _ => state.aprsMaxHeight

section

variable {config : Configuration} {properties : PropertyTree}

/-- Of a feed that runs the description is found again. -/
theorem made_described (memory : UInt32) (name : Bytes) :
    (FeedFactory.made properties.get_child memory name).map
        (fun feed => (feed.m_name, feed.type, feed.m_properties)) = described properties name := by
  unfold FeedFactory.made described
  cases FeedFactory.classOf name with
  | none => rfl
  | some type =>
      cases properties.get_child name with
      | none => rfl
      | some section_ =>
          simp only [Option.bind_eq_bind, Option.bind_some]
          split
          · rfl
          · rfl

theorem found_described (properties : PropertyTree) (names : List Bytes) :
    (Configuration.found properties names).filterMap (described properties) =
      names.filterMap (described properties) := by
  induction names with
  | nil => rfl
  | cons name names ih =>
      cases hsection : properties.get_child name with
      | some section_ =>
          rw [Configuration.found_some hsection, List.filterMap_cons, List.filterMap_cons, ih]
      | none =>
          have hnone : described properties name = none := by
            unfold described
            rw [hsection]
            cases FeedFactory.classOf name <;> rfl
          rw [Configuration.found_none hsection, List.filterMap_cons_none hnone, ih]

theorem filterMap_zipIdx {α β γ : Type} {f : α → Option γ} {g : β → γ} {h : Nat → α → Option β}
    (hmap : ∀ k a, (h k a).map g = f a) (l : List α) (n : Nat) :
    ((l.zipIdx n).filterMap fun entry => h entry.2 entry.1).map g = l.filterMap f := by
  induction l generalizing n with
  | nil => rfl
  | cons a l ih =>
      rw [List.zipIdx_cons, List.filterMap_cons, List.filterMap_cons, ← hmap n a]
      cases h n a with
      | none => exact ih (n + 1)
      | some b => exact congrArg (g b :: ·) (ih (n + 1))

/-- Every feed gets the section with its name, the priority that is given there, and parsers with
the configured filter. -/
structure Runs (config : Configuration) (state : FactoryState) (feed : CreatedFeed) : Prop where
  given : feed.get_endpoint.host ≠ [] ∧ feed.get_endpoint.port ≠ []
  priority : ∀ n, ConfiguredFeed.denoted (ConfiguredFeed.priorityText feed.m_properties) = some n →
    0 ≤ n → n < 2 ^ 64 → feed.m_priority = ConfiguredFeed.clamp n
  filtered : ∀ boost reading s,
    feed.toDataFeed.process (parsersOf boost state feed.type) reading s =
      feed.toDataFeed.process { boost := boost, s_maxHeight := config.m_maxHeight } reading s

theorem process_filtered {feed : CreatedFeed} {state : FactoryState}
    (h : FeedFactory.InForce config.m_maxHeight feed.type state) (boost : BoostRegex)
    (reading : Reading) (s : VFRB) :
    feed.toDataFeed.process (parsersOf boost state feed.type) reading s =
      feed.toDataFeed.process { boost := boost, s_maxHeight := config.m_maxHeight } reading s := by
  unfold DataFeed.process CreatedFeed.toDataFeed parsersOf
  cases htype : feed.type with
  | AprscFeed => simp only [h.aprs htype]
  | SbsFeed => simp only [h.sbs htype]
  | GpsFeed => rfl
  | WindFeed => rfl
  | AtmosphereFeed => rfl

theorem runs_of_made {state : FactoryState} {sections : Map Bytes Properties} {memory : UInt32}
    {name : Bytes} {feed : CreatedFeed} (hmade : FeedFactory.made sections memory name = some feed)
    (hforce : FeedFactory.InForce config.m_maxHeight feed.type state) :
    Runs config state feed := by
  unfold FeedFactory.made at hmade
  split at hmade
  · rename_i type section_ hclass hsection
    split at hmade
    · rename_i hcomplete
      cases hmade
      refine ⟨⟨hcomplete.1, hcomplete.2.1⟩, fun n hn hlo hhi => ?_, process_filtered hforce⟩
      exact ConfiguredFeed.initPriority_of_inRange _ _ _ hn hlo hhi
    · cases hmade
  · cases hmade

end

/-- The feeds that run are those of the list, in its order, that have a keyword and a complete
section; what is wrong with the others makes no difference to them.  Each has the priority its
section denotes, if that is in range, and its lines are filtered as configured, whichever
constructors came before. -/
theorem feeds_of_file (this : Startup) {config : Configuration}
    (h : this.get_config = .ok config) : ∃ properties,
      this.read_ini this.stream = .ok properties ∧
      (this.createFeeds config).1.map (fun feed => (feed.m_name, feed.type, feed.m_properties)) =
        (splitCommaSeparated (properties.get_property PATH_FEEDS [])).filterMap
          (described properties) ∧
      ∀ feed ∈ (this.createFeeds config).1, Runs config (this.createFeeds config).2 feed := by
  obtain ⟨properties, htree, -, hlists⟩ := get_config_resolved h
  have hnames : ∀ entry ∈ config.m_feedNames.zipIdx,
      config.m_feedProperties entry.1 = properties.get_child entry.1 := fun entry hmem =>
    hlists.sections _ (List.fst_mem_of_mem_zipIdx hmem)
  have hsections : ∀ entry ∈ config.m_feedNames.zipIdx,
      (config.m_feedProperties entry.1).isSome := by
    intro entry hmem
    have hfound := List.fst_mem_of_mem_zipIdx hmem
    rw [hlists.names] at hfound
    rw [hnames entry hmem]
    exact (List.mem_filter.mp hfound).2
  obtain ⟨hfeeds, hforce⟩ := FeedFactory.foldl_addFeed this.memory config.m_feedNames.zipIdx
    hsections ([], {}) (by rintro _ ⟨⟩)
  rw [List.nil_append] at hfeeds
  refine ⟨properties, htree, ?_, fun feed hfeed => ?_⟩
  · -- The map of the configuration has the sections of the tree for the names in the list.
    have hmade : config.m_feedNames.zipIdx.filterMap (fun entry =>
          FeedFactory.made config.m_feedProperties (this.memory entry.2) entry.1) =
        config.m_feedNames.zipIdx.filterMap fun entry =>
          FeedFactory.made properties.get_child (this.memory entry.2) entry.1 := by
      apply List.filterMap_congr
      intro entry hmem
      unfold FeedFactory.made
      rw [hnames entry hmem]
    rw [← found_described, ← hlists.names]
    unfold createFeeds VFRB.createFeeds
    rw [hfeeds, hmade]
    exact filterMap_zipIdx (fun k name => made_described (this.memory k) name) _ 0
  · have hmem : feed ∈ config.m_feedNames.zipIdx.filterMap (fun entry =>
        FeedFactory.made config.m_feedProperties (this.memory entry.2) entry.1) := hfeeds ▸ hfeed
    obtain ⟨entry, -, hmade⟩ := List.mem_filterMap.mp hmem
    exact runs_of_made hmade (hforce feed hfeed)

/-- A file with three feeds in its list, where the section of the last is missing. -/
def station : Startup where
  read_ini _ := .ok {
    Properties.ofEntries [(PATH_FEEDS, str "gps, wind ,atm")] with
    get_child := fun name => [
      (str "gps", .ofEntries [(KV_KEY_HOST, str "receiver"), (KV_KEY_PORT, str "2947")]),
      (str "wind", .ofEntries [(KV_KEY_HOST, str "station"), (KV_KEY_PORT, str "4352")])
      ].lookup name }
  stream := []
  groundMode := false
  memory _ := 0

theorem station_config : ∃ config, station.get_config = .ok config := by
  have hok : station.get_config.isOk = true := by decide +kernel
  cases hconfig : station.get_config with
  | ok config => exact ⟨config, rfl⟩
  | error what =>
      rw [hconfig] at hok
      cases hok

theorem feeds_of_file_station : ∃ config properties,
    station.get_config = .ok config ∧ station.read_ini station.stream = .ok properties ∧
      (station.createFeeds config).1.map (fun feed => (feed.m_name, feed.type, feed.m_properties)) =
        (splitCommaSeparated (properties.get_property PATH_FEEDS [])).filterMap
          (described properties) ∧
      ∀ feed ∈ (station.createFeeds config).1,
        Runs config (station.createFeeds config).2 feed := by
  obtain ⟨config, hconfig⟩ := station_config
  obtain ⟨properties, hfeeds⟩ := feeds_of_file station hconfig
  exact ⟨config, properties, hconfig, hfeeds⟩

end Startup

namespace System

open ClientManager

variable {boost : BoostHash} {set : ClientSet boost}

/-- Whatever file is accepted, every message of the program that runs with it is sentences that
verify, and then at most two lines that have passed the receive check of the sensor parsers, where
the SBS lines have ids of at most a thousand ordinary characters. -/
theorem messages_verify (startup : Startup) {config : Configuration}
    (h : startup.get_config = .ok config) {m : Libm} {regex : BoostRegex} {utc : Tm}
    {s s' : System} {events : List SystemEvent} {os : List Observed}
    (hrun : run (step (startup.installation config m regex utc))
      (started set (startup.installation config m regex utc)) events = some (os, s))
    (hids : PlainIds (startup.installation config m regex utc) os)
    (hutc : ∀ utc event, .served (.serializeGps utc) event ∈ os → utc.InRange)
    {event : SystemEvent} {shown : Event} {message : Bytes} {outcome : Nat → WriteOutcome}
    {writes : List Write}
    (hsent : s.step (startup.installation config m regex utc) event =
      some (.sent shown (.send message outcome) writes, s')) :
    message ∈ verified∗ * (1 + checked) * (1 + checked) := by
  obtain ⟨-, -, hvalid, -⟩ := Startup.get_config_resolved h
  exact sent_verifies ⟨hvalid.latitude, hvalid.longitude, hvalid.geoid⟩ hrun hids hutc hsent

/-- What runs with that file. -/
def atStation (config : Configuration) : Installation :=
  Startup.station.installation config .atOrigin .byChoices airfield.utc

instance (utc : Tm) : Decidable utc.InRange := inferInstanceAs (Decidable (∀ n ∈ _, _))

def timely : Observed → Bool
  | .served (.serializeGps utc) _ => decide utc.InRange
  | _ => true

/-- The wind at the station of the file is sent. -/
theorem messages_verify_station : ∃ config os s shown message writes s',
    Startup.station.get_config = .ok config ∧
      run (step (atStation config)) (started clients (atStation config)) (wind ++ building) =
        some (os, s) ∧
      s.step (atStation config) (.send fun _ => .returned true) =
        some (.sent shown (.send message fun _ => .returned true) writes, s') ∧
      message ∈ verified∗ * (1 + checked) * (1 + checked) := by
  have hdefined : Startup.station.get_config.toOption.any (fun config =>
      decide (∀ feed ∈ (atStation config).feeds, feed.type ≠ .SbsFeed) &&
      (run (step (atStation config)) (started clients (atStation config)) (wind ++ building)).any
        fun (os, s) => os.all timely &&
          (s.step (atStation config) (.send fun _ => .returned true)).isSome) = true := by
    decide +kernel
  obtain ⟨config, hconfig, hrun⟩ := (Option.any_eq_true _ _).mp hdefined
  rw [Bool.and_eq_true, decide_eq_true_iff] at hrun
  obtain ⟨hfeeds, hrun⟩ := hrun
  obtain ⟨⟨os, s⟩, hrun, hsent⟩ := (Option.any_eq_true _ _).mp hrun
  rw [Bool.and_eq_true, List.all_eq_true] at hsent
  obtain ⟨htimely, hsent⟩ := hsent
  obtain ⟨⟨o, s'⟩, hsend⟩ := Option.isSome_iff_exists.mp hsent
  obtain ⟨⟨shown, vfrb⟩, hstep, heq⟩ := Option.map_eq_some_iff.mp hsend
  cases heq
  have hids : PlainIds (atStation config) os := fun k n feed reading valid stored _ hfeed htype =>
    absurd htype (hfeeds feed (List.mem_of_getElem? hfeed))
  have hutc : ∀ utc event, .served (.serializeGps utc) event ∈ os → utc.InRange :=
    fun utc event hmem => of_decide_eq_true (htimely _ hmem)
  have hok : Startup.station.get_config = .ok config := by
    cases hread : Startup.station.get_config with
    | ok other =>
        rw [hread] at hconfig
        cases hconfig
        rfl
    | error what =>
        rw [hread] at hconfig
        cases hconfig
  exact ⟨config, os, s, shown, s.vfrb.message, _, _, hok, hrun, hsend,
    messages_verify Startup.station hok hrun hids hutc hsend⟩

end System

end VirtualFlightRadar
