import VirtualFlightRadar.Feed.GpsLetterCase
import VirtualFlightRadar.System.Visits

/-!
# The own position in ground mode

The store of the own position throws on a good fix but takes every later one as well.  That the
position stays is up to the clients: the one that reads the fixes reads no line any more.
-/

open Cxx

namespace VirtualFlightRadar

/-- The coordinates of a sentence are not those of the day or of the feed. -/
theorem GpsParser.unpack_position {boost : BoostRegex} {clock clock' : DateTime} {sentence : Bytes}
    {position position' fix fix' : GpsPosition}
    (h : unpack boost clock sentence position = (true, fix))
    (h' : unpack boost clock' sentence position' = (true, fix')) :
    fix.m_position = fix'.m_position := by
  obtain ⟨-, groups, hmatch, hparsed⟩ := unpack_true_iff.mp h
  obtain ⟨-, groups', hmatch', hparsed'⟩ := unpack_true_iff.mp h'
  cases hmatch.symm.trans hmatch'
  obtain ⟨lat, lon, alt, hlat, hlon, halt, heq⟩ := parsePosition_reads hparsed
  obtain ⟨lat', lon', alt', hlat', hlon', halt', heq'⟩ := parsePosition_reads hparsed'
  cases hlat.symm.trans hlat'
  cases hlon.symm.trans hlon'
  cases halt.symm.trans halt'
  rw [heq, heq']

namespace VFRB

variable {m : Libm} {s s' : VFRB}

/-- The flags of the own position are as they were, and so are its coordinates, unless an update has
brought others. -/
theorem step_gpsData {act : Act} {event : Event} (h : s.step m act = some (event, s')) :
    s'.m_gpsData.m_positionLocked = s.m_gpsData.m_positionLocked ∧
      s'.m_gpsData.m_groundMode = s.m_gpsData.m_groundMode ∧
      (s'.m_gpsData.get_position = s.m_gpsData.get_position ∨
        ∃ utc x, act = .updateGps utc x ∧ s'.m_gpsData.get_position = x.m_position) := by
  cases step_cases h with
  | get_position atmPress hserve =>
      exact ⟨rfl, rfl, .inl rfl⟩
  | get_atmPressure position hserve =>
      exact ⟨rfl, rfl, .inl rfl⟩
  | processAircrafts position atmPress hserve =>
      exact ⟨rfl, rfl, .inl rfl⟩
  | serializeAircrafts hserve =>
      exact ⟨rfl, rfl, .inl rfl⟩
  | serializeGps utc hserve =>
      exact ⟨rfl, rfl, .inl (GpsData.get_serialized_position s.m_gpsData utc s.message)⟩
  | serializeAtmosphere hserve =>
      exact ⟨rfl, rfl, .inl rfl⟩
  | serializeWind hserve =>
      exact ⟨rfl, rfl, .inl rfl⟩
  | send hserve =>
      exact ⟨rfl, rfl, .inl rfl⟩
  | updateAircraft x accepted d hupdate => exact ⟨rfl, rfl, .inl rfl⟩
  | updateGps utc x =>
      have hflags := GpsData.step_flags s.m_gpsData (.update utc x)
      refine ⟨hflags.1, hflags.2, ?_⟩
      cases hlock : s.m_gpsData.m_positionLocked with
      | true =>
          left
          have hsame : (s.m_gpsData.update utc x).2 = s.m_gpsData := by
            unfold GpsData.update
            rw [if_pos hlock]
          exact congrArg GpsData.get_position hsame
      | false =>
          cases hcan : x.canUpdate s.m_gpsData.m_position with
          | false =>
              left
              exact congrArg (fun r => GpsData.get_position r.2)
                (GpsData.update_refused hlock utc hcan)
          | true =>
              right
              refine ⟨utc, x, rfl, ?_⟩
              show (s.m_gpsData.update utc x).2.get_position = x.m_position
              rw [GpsData.update_accepted hlock utc hcan, GpsData.get_position,
                GpsData.processPosition_position]
              rfl
  | updateAtmosphere x => exact ⟨rfl, rfl, .inl rfl⟩
  | updateWind x => exact ⟨rfl, rfl, .inl rfl⟩

/-- The mode is the configured one, and nothing ever locks the position. -/
theorem run_flags {acts : List Act} {events : List Event}
    (hrun : run (step m) s acts = some (events, s')) :
    s'.m_gpsData.m_positionLocked = s.m_gpsData.m_positionLocked ∧
      s'.m_gpsData.m_groundMode = s.m_gpsData.m_groundMode := by
  refine (run_all (fun t : VFRB => t.m_gpsData.m_positionLocked = s.m_gpsData.m_positionLocked ∧
    t.m_gpsData.m_groundMode = s.m_gpsData.m_groundMode) (fun _ => True) ?_ ⟨rfl, rfl⟩ hrun).2
  intro t act event t' ⟨hlock, hground⟩ hstep
  obtain ⟨hlock', hground', -⟩ := step_gpsData hstep
  exact ⟨trivial, hlock'.trans hlock, hground'.trans hground⟩

/-- Fixes of one place leave the own position there. -/
theorem run_position {acts : List Act} {events : List Event}
    (hacts : ∀ act ∈ acts, ∀ utc x, act = .updateGps utc x →
      x.m_position = s.m_gpsData.get_position)
    (hrun : run (step m) s acts = some (events, s')) :
    s'.m_gpsData.get_position = s.m_gpsData.get_position := by
  have hinit : s.m_gpsData.get_position = s.m_gpsData.get_position := rfl
  refine run_history (fun _ (t : VFRB) => t.m_gpsData.get_position = s.m_gpsData.get_position) ?_ []
    hinit hacts hrun
  intro _ t act event t' ht hact hstep
  obtain ⟨-, -, hsame | ⟨utc, x, rfl, hmoved⟩⟩ := step_gpsData hstep
  · exact hsame.trans ht
  · exact hmoved.trans (hact utc x rfl)

end VFRB

namespace DataFeed

/-- Fixes come from the lines of GPS feeds. -/
theorem gps_of_act {parsers : Parsers} {this : DataFeed} {reading : Reading} {utc : Tm}
    {x : GpsPosition} (h : this.act parsers reading = some (.updateGps utc x)) :
    this.type = .GpsFeed ∧ utc = reading.utc ∧ GpsParser.unpack parsers.boost reading.clock
      reading.response (.ofPriority this.m_priority) = (true, x) := by
  unfold act at h
  cases htype : this.type with
  | GpsFeed =>
      rw [htype] at h
      obtain ⟨hvalid, heq⟩ := unpackedAct_eq h
      cases heq
      exact ⟨rfl, rfl, Prod.ext hvalid rfl⟩
  | _ =>
      rw [htype] at h
      obtain ⟨-, heq⟩ := unpackedAct_eq h
      cases heq

/-- Only a good fix in ground mode makes `process` return `false`, and it is stored. -/
theorem process_false {parsers : Parsers} {this : DataFeed} {reading : Reading} {s s' : VFRB}
    (hlock : s.m_gpsData.m_positionLocked = false)
    (h : this.process parsers reading s = some (false, s')) :
    ∃ x, this.act parsers reading = some (.updateGps reading.utc x) ∧
      s.m_gpsData.m_groundMode = true ∧ s'.m_gpsData.isPositionGood = true ∧
      s'.m_gpsData.get_position = x.m_position := by
  have hstored := process_stored (m := .atOrigin) h
  cases hcall : this.stored .atOrigin parsers reading s with
  | none =>
      rw [hcall] at hstored
      cases hstored.2.2
  | some update =>
      obtain ⟨act, event⟩ := update
      rw [hcall] at hstored
      obtain ⟨hact, hstep, hvalid⟩ := hstored
      have hupdates := updates_of_act hact
      cases act with
      | updateGps utc x =>
          obtain ⟨-, rfl, -⟩ := gps_of_act hact
          refine ⟨x, hact, ?_⟩
          cases hcan : x.canUpdate s.m_gpsData.m_position with
          | false =>
              rw [VFRB.step, GpsData.update_refused hlock reading.utc hcan] at hstep
              cases hstep
              cases hvalid
          | true =>
              rw [VFRB.step, GpsData.update_accepted hlock reading.utc hcan] at hstep
              simp only [Option.some.injEq, Prod.mk.injEq] at hstep
              obtain ⟨rfl, rfl⟩ := hstep
              rw [GpsData.processPosition_good, GpsData.get_position,
                GpsData.processPosition_position]
              split at hvalid
              · rename_i hgood
                rw [Bool.and_eq_true] at hgood
                exact ⟨hgood.1, hgood.2, rfl⟩
              · cases hvalid
      | updateAircraft aircraft =>
          obtain ⟨updated, -, heq⟩ := Option.map_eq_some_iff.mp hstep
          cases heq
          cases hvalid
      | updateAtmosphere atmosphere =>
          cases hstep
          cases hvalid
      | updateWind wind =>
          cases hstep
          cases hvalid
      | _ => exact absurd hupdates id

end DataFeed

namespace System

open ClientManager

variable {boost : BoostHash} {set : ClientSet boost} {env : Installation}

/-- The GPS feeds come from one place. -/
def OneReceiver (feeds : List DataFeed) : Prop :=
  ∀ feed ∈ feeds, ∀ other ∈ feeds, feed.type = .GpsFeed → other.type = .GpsFeed →
    feed.endpoint = other.endpoint

theorem client_of_receiver (hseparate : Separate boost (env.feeds.map (·.toFeed)))
    (hone : OneReceiver env.feeds) {k n l : Nat} {client : ManagedClient} {feed other : DataFeed}
    (hclient : (subscribed set env)[k]? = some client) (hmem : n ∈ client.m_feeds)
    (hn : env.feeds[n]? = some feed) (hl : env.feeds[l]? = some other)
    (hfeed : feed.type = .GpsFeed) (hother : other.type = .GpsFeed) : l ∈ client.m_feeds := by
  have hgrouped := grouped_of_separate set hseparate
  have hagree : Agree feed.toFeed other.toFeed := by
    refine ⟨?_, hone feed (List.mem_of_getElem? hn) other (List.mem_of_getElem? hl) hfeed hother, ?_⟩
    · show feed.type.get_protocol = other.type.get_protocol
      rw [hfeed, hother]
    · intro haprs
      have hgps : feed.type.get_protocol = .APRS := haprs
      rw [hfeed] at hgps
      cases hgps
  have hshared := (hgrouped.shared_iff n l feed.toFeed other.toFeed
    (by rw [List.getElem?_map, hn]; rfl) (by rw [List.getElem?_map, hl]; rfl)).mpr hagree
  obtain ⟨owner, howner, hn', hl'⟩ := hshared
  obtain ⟨j, hj⟩ := List.getElem?_of_mem howner
  cases client_unique hclient hj hmem hn'
  cases hclient.symm.trans hj
  exact hl'

/-- Where all GPS feeds come from one place and nothing else does, a feed stops its client only for
a good fix in ground mode, and the own position never changes again. -/
theorem ground_position_final (hseparate : Separate boost (env.feeds.map (·.toFeed)))
    (hone : OneReceiver env.feeds) {s s₁ s₂ : System} {events later : List SystemEvent}
    {os os' : List Observed} {event : SystemEvent} {k n : Nat} {reading : Reading}
    {stored : Option (Act × Event)}
    (hrun : run (step env) (started set env) events = some (os, s))
    (hstop : s.step env event = some (.processed k n reading false stored, s₁))
    (hlater : run (step env) s₁ later = some (os', s₂)) :
    env.groundMode = true ∧ s₁.vfrb.m_gpsData.isPositionGood = true ∧
      s₂.vfrb.m_gpsData.get_position = s₁.vfrb.m_gpsData.get_position := by
  obtain ⟨hlock, hground⟩ := VFRB.run_flags (run_vfrb hrun)
  have hhalted := halted_after hrun hstop hlater
  have hwhole := run_append_some hrun (run_append_some (run_singleton hstop) hlater)
  cases step_cases hstop with
  | processed _ clock utc reader reader' _ feed _ vfrb hprocessed =>
      obtain ⟨x, hact, hmode, hgood, hposition⟩ := DataFeed.process_false hlock hprocessed.process
      obtain ⟨hgps, -, hunpack⟩ := DataFeed.gps_of_act hact
      refine ⟨hground.symm.trans hmode, hgood, VFRB.run_position ?_ (run_vfrb hlater)⟩
      -- Every later fix is out of the line that this one is out of.
      rintro act hmem utc' y rfl
      obtain ⟨o, ho, shown, hseen⟩ := mem_actsOf hmem
      rcases run_sourced hlater o ho _ shown hseen with hserved | hsend | hdelivered
      · cases hserved.1
      · cases hsend
      · obtain ⟨l, i, other, reading', valid', shown', rfl, hother, hact'⟩ := hdelivered
        obtain ⟨hgps', -, hunpack'⟩ := DataFeed.gps_of_act hact'
        obtain ⟨client, hclient, hn⟩ := visitor hwhole
          (List.mem_append_right os (List.mem_append_left os' (List.mem_singleton_self _)))
        obtain ⟨owner, howner, hi⟩ := visitor hwhole
          (List.mem_append_right os (List.mem_append_right _ ho))
        have hi' := client_of_receiver hseparate hone hclient hn hprocessed.subscribed hother hgps
          hgps'
        cases client_unique howner hclient hi hi'
        rw [(hhalted _ (mem_readerOutputsOf ho)).2 i _ rfl] at hunpack'
        show y.m_position = vfrb.m_gpsData.get_position
        rw [hposition]
        exact GpsParser.unpack_position hunpack' hunpack

theorem separate_airfield : Separate boostHash (airfield.feeds.map (·.toFeed)) := by
  have hprotocol : ∀ feed ∈ airfield.feeds.map (·.toFeed), ∀ other ∈
      airfield.feeds.map (·.toFeed), feed.endpoint = other.endpoint →
        feed.protocol = other.protocol := by
    decide
  have hnone : ∀ feed ∈ airfield.feeds.map (·.toFeed), feed.protocol ≠ .APRS := by decide
  constructor
  · intro n m feed other _ hn hm hendpoint _ _
    exact hprotocol feed (List.mem_of_getElem? hn) other (List.mem_of_getElem? hm) hendpoint
  · intro n m feed other _ hn _ _ haprs
    exact absurd haprs (hnone feed (List.mem_of_getElem? hn))

/-- The good fix is taken, and the second feed of the receiver does not change it. -/
theorem ground_position_final_airfield : ∃ os s reading stored s₁ os' s₂,
    run (step airfield) (started clients airfield) goodFix = some (os, s) ∧
      s.step airfield (.process 0 ⟨0, 0⟩ airfield.utc) =
        some (.processed 0 0 reading false stored, s₁) ∧
      run (step airfield) s₁ [.process 0 ⟨0, 0⟩ airfield.utc] = some (os', s₂) ∧
      airfield.groundMode = true ∧ s₁.vfrb.m_gpsData.isPositionGood = true ∧
      s₂.vfrb.m_gpsData.get_position = s₁.vfrb.m_gpsData.get_position := by
  obtain ⟨os, s, reading, stored, s₁, os', s₂, hrun, hstop, hlater⟩ := goodFix_halts
  have hone : OneReceiver airfield.feeds := by
    unfold OneReceiver
    decide
  exact ⟨os, s, reading, stored, s₁, os', s₂, hrun, hstop, hlater,
    ground_position_final separate_airfield hone hrun hstop hlater⟩

end System

end VirtualFlightRadar
