import VirtualFlightRadar.Data.SlotSpec
import VirtualFlightRadar.System.Delivery

/-!
# The picture behind the messages

What the program is for, without its threads, containers and ages: of every aircraft the last report
that was taken, of every other store the object that was taken last, and a message that shows them.
Every run of the program shows what the picture shows, in whatever order its threads take their
steps.
-/

open Cxx

namespace VirtualFlightRadar

/-- The stores as they are meant, and what the serving thread has read and written. -/
structure Picture where
  aircrafts : AircraftSpec := {}
  gps : Slot GpsPosition
  atmosphere : Slot Atmosphere
  wind : Slot Wind := { last := {} }
  position : Position
  atmPress : Double
  message : Bytes := []

/-- What is seen of a step. -/
inductive Answer where
  | quiet
  -- An object is offered to a store.
  | offered (taken : Bool)
  -- A good fix is taken in ground mode.
  | final
  | message (text : Bytes)
  deriving DecidableEq

namespace Picture

/-- Before the first line the picture shows what is configured. -/
def ofConfig (env : Installation) : Picture where
  gps := { last := env.position }
  atmosphere := { last := { m_pressure := env.atmPressure } }
  position := env.position.m_position
  atmPress := env.atmPressure

def step (env : Installation) (s : Picture) : Act → Answer × Picture
  | .get_position => (.quiet, { s with position := s.gps.last.m_position })
  | .get_atmPressure => (.quiet, { s with atmPress := s.atmosphere.last.m_pressure })
  | .processAircrafts => (.quiet, { s with
      aircrafts := s.aircrafts.processAircrafts s.position s.atmPress
      message := [] })
  | .serializeAircrafts => (.quiet, { s with
      message := s.aircrafts.get_serialized env.m env.maxDistance s.message })
  | .serializeGps utc => (.quiet, { s with
      message := s.message ++ (GpsProcessor.sentenceGPGGA utc s.gps.last ++
        GpsProcessor.sentenceGPRMC utc s.gps.last)
      gps := s.gps.read })
  | .serializeAtmosphere => (.quiet, { s with
      message := s.message ++ s.atmosphere.last.m_serialized
      atmosphere := s.atmosphere.read })
  -- The wind is shown once.
  | .serializeWind => (.quiet, { s with
      message := s.message ++ if s.wind.reads = 0 then s.wind.last.m_serialized else []
      wind := s.wind.read })
  | .send => (.message s.message, s)
  | .updateAircraft x =>
      let (taken, aircrafts) := s.aircrafts.update x
      (.offered taken, { s with aircrafts := aircrafts })
  | .updateGps _ x =>
      -- The position must also be newer.
      let taken := x.m_timeStamp.gt s.gps.last.m_timeStamp && s.gps.admits (·.m_lastPriority) x
      (if taken && (env.groundMode && GpsData.isPositionGood { m_position := x }) then .final
        else .offered taken, { s with gps := s.gps.offer taken x })
  | .updateAtmosphere x =>
      let taken := s.atmosphere.admits (·.m_lastPriority) x
      (.offered taken, { s with atmosphere := s.atmosphere.offer taken x })
  | .updateWind x =>
      let taken := s.wind.admits (·.m_lastPriority) x
      (.offered taken, { s with wind := s.wind.offer taken x })

/-- The messages among the answers -/
def messages (answers : List Answer) : List Bytes :=
  answers.filterMap fun answer => match answer with
    | .message text => some text
    | _ => none

/-- The messages that some steps lead to, after others. -/
def messagesAfter (env : Installation) (before later : List Act) : List Bytes :=
  messages (trace (step env) (trace (step env) (.ofConfig env) before).2 later).1

end Picture

-- Only these reads make an age grow.
def Act.reads : Act → Nat
  | .serializeGps _ => 1
  | .serializeAtmosphere => 1
  | .serializeWind => 1
  | _ => 0

def Event.answer : Event → Answer
  | .sent message => .message message
  | .gpsUpdated (.ok accepted) => .offered accepted
  | .gpsUpdated (.error _) => .final
  | .updated accepted => .offered accepted
  | _ => .quiet

theorem Event.answer_gpsUpdated (final taken : Bool) :
    (Event.gpsUpdated (if final then .error .ReceivedGoodPosition else .ok taken)).answer =
      if final then .final else .offered taken := by
  cases final <;> rfl

/-! ## The stores show the picture -/

theorem WindData.Rel.mono {n : Nat} {this : WindData} {slot : Slot Wind} (h : Rel n this slot) :
    Rel (n + 1) this slot := ⟨Nat.le_succ_of_le h.1, h.2⟩

theorem AtmosphereData.Rel.mono {n : Nat} {this : AtmosphereData} {slot : Slot Atmosphere}
    (h : Rel n this slot) : Rel (n + 1) this slot := ⟨Nat.le_succ_of_le h.1, h.2⟩

theorem AtmosphereData.Rel.get_atmPressure {n : Nat} {this : AtmosphereData}
    {slot : Slot Atmosphere} (h : Rel n this slot) : this.get_atmPressure = slot.last.m_pressure := by
  rw [AtmosphereData.get_atmPressure, h.2]

/-- After `n` reads the ages still stand for the number of reads. -/
structure Shows (env : Installation) (n : Nat) (s : VFRB) (picture : Picture) : Prop where
  aircrafts : Refines env.m env.maxDistance s.m_aircraftData picture.aircrafts
  gps : GpsData.Rel env.groundMode n s.m_gpsData picture.gps
  atmosphere : AtmosphereData.Rel n s.m_atmosphereData picture.atmosphere
  wind : WindData.Rel n s.m_windData picture.wind
  arguments : ∀ position atmPress, s.serve = .arguments position atmPress →
    (∀ p, position = some p → picture.position = p) ∧ ∀ p, atmPress = some p → picture.atmPress = p
  message : picture.message = s.message

namespace Shows

variable {env : Installation} {n : Nat} {s s' : VFRB} {picture : Picture} {event : Event}

theorem init (hage : env.position.m_updateAge = 0) :
    Shows env 0 (.ofConfig env.maxDistance env.atmPressure env.position env.groundMode env.utc)
      (.ofConfig env) := by
  refine ⟨Refines.empty env.m env.maxDistance, ?_, ⟨Nat.le_refl 0, rfl⟩, ⟨Nat.le_refl 0, rfl⟩, ?_,
    rfl⟩
  · exact GpsData.Rel.init hage env.groundMode env.utc
  · rintro position atmPress heq
    cases heq
    exact ⟨(by rintro _ ⟨⟩), (by rintro _ ⟨⟩)⟩

/-- One step, with its answer -/
theorem step {act : Act} (h : Shows env n s picture) (hfresh : act.Fresh) (hn : n + act.reads < 2 ^ 32)
    (hstep : s.step env.m act = some (event, s')) :
    event.answer = (picture.step env act).1 ∧ Shows env (n + act.reads) s' (picture.step env act).2 := by
  cases VFRB.step_cases hstep with
  | get_position atmPress hserve =>
      refine ⟨rfl, h.aircrafts, h.gps, h.atmosphere, h.wind, ?_, h.message⟩
      rintro position' atmPress' heq
      cases heq
      refine ⟨?_, (h.arguments none atmPress hserve).2⟩
      rintro p heq
      cases heq
      exact h.gps.get_position.symm
  | get_atmPressure position hserve =>
      refine ⟨rfl, h.aircrafts, h.gps, h.atmosphere, h.wind, ?_, h.message⟩
      rintro position' atmPress' heq
      cases heq
      refine ⟨(h.arguments position none hserve).1, ?_⟩
      rintro p heq
      cases heq
      exact h.atmosphere.get_atmPressure.symm
  | processAircrafts position atmPress hserve =>
      obtain ⟨hposition, hpressure⟩ := h.arguments _ _ hserve
      obtain rfl := hposition position rfl
      obtain rfl := hpressure atmPress rfl
      exact ⟨rfl, h.aircrafts.processAircrafts _ _, h.gps, h.atmosphere, h.wind,
        (by rintro _ _ ⟨⟩), rfl⟩
  | serializeAircrafts hserve =>
      refine ⟨rfl, h.aircrafts, h.gps, h.atmosphere, h.wind, (by rintro _ _ ⟨⟩), ?_⟩
      show picture.aircrafts.get_serialized _ _ picture.message = s.m_aircraftData.get_serialized _
      rw [h.aircrafts.get_serialized, h.message]
  | serializeGps utc hserve =>
      obtain ⟨hmessage, hgps⟩ := h.gps.get_serialized utc s.message
      refine ⟨rfl, h.aircrafts, hgps, h.atmosphere.mono, h.wind.mono, (by rintro _ _ ⟨⟩), ?_⟩
      rw [hmessage, ← h.message]
      rfl
  | serializeAtmosphere hserve =>
      obtain ⟨hresult, hatmosphere⟩ := AtmosphereData.step_rel n _ _ (.get_serialized s.message)
        h.atmosphere hn
      refine ⟨rfl, h.aircrafts, h.gps.mono, hatmosphere, h.wind.mono, (by rintro _ _ ⟨⟩), ?_⟩
      have hmessage := SensorResult.serialized.inj hresult
      show picture.message ++ _ = (s.m_atmosphereData.get_serialized s.message).1
      rw [h.message]
      exact hmessage.symm
  | serializeWind hserve =>
      obtain ⟨hresult, hwind⟩ := WindData.step_rel n _ _ (.get_serialized s.message) h.wind hn
      refine ⟨rfl, h.aircrafts, h.gps.mono, h.atmosphere.mono, hwind, (by rintro _ _ ⟨⟩), ?_⟩
      have hmessage := SensorResult.serialized.inj hresult
      show picture.message ++ _ = (s.m_windData.get_serialized s.message).1
      rw [h.message]
      exact hmessage.symm
  | send hserve =>
      refine ⟨congrArg Answer.message h.message.symm, h.aircrafts, h.gps, h.atmosphere,
        h.wind, ?_, h.message⟩
      rintro position atmPress heq
      cases heq
      exact ⟨(by rintro _ ⟨⟩), (by rintro _ ⟨⟩)⟩
  | updateAircraft x accepted d hupdate =>
      obtain ⟨d', hd', hrefines⟩ := h.aircrafts.update hfresh
      rw [hupdate] at hd'
      cases hd'
      exact ⟨rfl, hrefines, h.gps, h.atmosphere, h.wind, h.arguments, h.message⟩
  | updateGps utc x =>
      obtain ⟨houtcome, hgps⟩ := h.gps.update (by exact hn) utc x
      have hanswer : (Event.gpsUpdated (s.m_gpsData.update utc x).1).answer =
          (Picture.step env picture (.updateGps utc x)).1 := by
        rw [houtcome, Event.answer_gpsUpdated]
        rfl
      exact ⟨hanswer, h.aircrafts, hgps, h.atmosphere, h.wind, h.arguments, h.message⟩
  | updateAtmosphere x =>
      obtain ⟨hresult, hatmosphere⟩ := AtmosphereData.step_rel n _ _ (.update x) h.atmosphere
        hn
      exact ⟨congrArg Answer.offered (SensorResult.updated.inj hresult), h.aircrafts, h.gps,
        hatmosphere, h.wind, h.arguments, h.message⟩
  | updateWind x =>
      obtain ⟨hresult, hwind⟩ := WindData.step_rel n _ _ (.update x) h.wind hn
      exact ⟨congrArg Answer.offered (SensorResult.updated.inj hresult), h.aircrafts, h.gps,
        h.atmosphere, hwind, h.arguments, h.message⟩

end Shows

namespace System

open ClientManager

variable {boost : BoostHash} {set : ClientSet boost} {env : Installation}
  {s s₁ s₂ : System} {events later : List SystemEvent} {os os' : List Observed}

/-- How often the serving thread reads a store with a single object. -/
def readsIn (os : List Observed) : Nat := ((actsOf os).map Act.reads).sum

/-- A part of a run, from a state that shows a picture. -/
theorem run_shows {n : Nat} {picture : Picture} (hshows : Shows env n s.vfrb picture)
    (hreads : n + readsIn os < 2 ^ 32) (hrun : run (step env) s events = some (os, s₁)) :
    (storeEventsOf os).map Event.answer = (trace (Picture.step env) picture (actsOf os)).1 ∧
      Shows env (n + readsIn os) s₁.vfrb (trace (Picture.step env) picture (actsOf os)).2 :=
  run_answers Event.answer Act.reads (Shows env)
    (fun _ _ _ _ _ _ hshows hfresh hn hstep => hshows.step hfresh hn hstep)
    hshows (acts_fresh hrun) hreads (run_vfrb hrun)

/-- Nothing but a send shows a message. -/
theorem answer_ne_message {m : Libm} {vfrb vfrb' : VFRB} {act : Act} {event : Event}
    (hact : act ≠ .send) (hstep : vfrb.step m act = some (event, vfrb')) (text : Bytes) :
    event.answer ≠ .message text := by
  cases VFRB.step_cases hstep with
  | send hserve => exact absurd rfl hact
  | updateGps utc x =>
      generalize (vfrb.m_gpsData.update utc x).1 = outcome
      cases outcome with
      | ok accepted => rintro ⟨⟩
      | error e => rintro ⟨⟩
  | _ => rintro ⟨⟩

/-- The messages that one step sends and shows. -/
theorem sentIn_step {event : SystemEvent} {o : Observed} (h : s.step env event = some (o, s₁)) :
    sentIn [o] = Picture.messages (((vfrbSeen o).toList.map Prod.snd).map Event.answer) := by
  have hvfrb := step_vfrb h
  have hquiet {act : Act} {shown : Event} (hact : act ≠ .send)
      (hstep : s.vfrb.step env.m act = some (shown, s₁.vfrb)) :
      Picture.messages [shown.answer] = [] := by
    have hno := answer_ne_message hact hstep
    cases hanswer : shown.answer with
    | message text => exact absurd hanswer (hno text)
    | _ => rfl
  cases step_cases h with
  | served act shown vfrb hserving hstep =>
      have hact : act ≠ .send := by
        rintro rfl
        cases hserving
      exact (hquiet hact hstep).symm
  | sent outcome shown vfrb writes m_server hstep hsend =>
      cases VFRB.step_cases hstep with
      | send hserve => rfl
  | server op writes m_server hop hstep => rfl
  | client k event output reader reader' hevent hk hstep => rfl
  | processed k clock utc reader reader' n feed valid vfrb hprocessed =>
      have hstored := DataFeed.process_stored (m := env.m) hprocessed.process
      cases hcall : feed.stored env.m env.parsers ⟨clock, utc, reader.response⟩ s.vfrb with
      | none =>
          rw [vfrbSeen]
          rfl
      | some update =>
          rw [hcall] at hstored
          have hact : update.1 ≠ .send := by
            have hupdates := DataFeed.updates_of_act hstored.1
            intro heq
            rw [heq] at hupdates
            exact hupdates
          exact (hquiet hact hstored.2.1).symm

theorem sentIn_cons (o : Observed) (os : List Observed) :
    sentIn (o :: os) = sentIn [o] ++ sentIn os := by
  unfold sentIn
  rw [List.singleton_append.symm, List.filterMap_append]

theorem sentIn_eq_messages (hrun : run (step env) s events = some (os, s₁)) :
    sentIn os = Picture.messages ((storeEventsOf os).map Event.answer) := by
  induction events generalizing s os with
  | nil =>
      cases hrun
      rfl
  | cons event events ih =>
      obtain ⟨o, s', os', hstep, hrest, rfl⟩ := run_cons hrun
      have hcons : storeEventsOf (o :: os') = (vfrbSeen o).toList.map Prod.snd ++ storeEventsOf os' :=
        outputsOf_cons _ o os'
      rw [sentIn_cons, sentIn_step hstep, ih hrest, hcons, List.map_append]
      exact (List.filterMap_append ..).symm

/-- In every run of the program, whatever the order of the steps of its threads, each call of a
store answers what the picture answers, and each message is the one of the picture. -/
theorem refines_picture (hage : env.position.m_updateAge = 0)
    (hrun : run (step env) (started set env) events = some (os, s))
    (hreads : readsIn os < 2 ^ 32) :
    (storeEventsOf os).map Event.answer =
        (trace (Picture.step env) (.ofConfig env) (actsOf os)).1 ∧
      sentIn os = Picture.messages (trace (Picture.step env) (.ofConfig env) (actsOf os)).1 := by
  obtain ⟨hanswers, -⟩ := run_shows (Shows.init hage) (by omega) hrun
  exact ⟨hanswers, hanswers ▸ sentIn_eq_messages hrun⟩

/-- The message with the wind is the one of the picture. -/
theorem refines_picture_airfield : ∃ os s,
    run (step airfield) (started clients airfield)
        (wind ++ building ++ [.send fun _ => .returned true]) = some (os, s) ∧
      (storeEventsOf os).map Event.answer =
        (trace (Picture.step airfield) (.ofConfig airfield) (actsOf os)).1 ∧
      sentIn os = Picture.messages
        (trace (Picture.step airfield) (.ofConfig airfield) (actsOf os)).1 := by
  have hdefined : (run (step airfield) (started clients airfield)
      (wind ++ building ++ [.send fun _ => .returned true])).any (fun (os, _) =>
        decide (readsIn os < 2 ^ 32)) = true := by
    decide +kernel
  obtain ⟨⟨os, s⟩, hrun, hreads⟩ := (Option.any_eq_true _ _).mp hdefined
  exact ⟨os, s, hrun, refines_picture rfl hrun (of_decide_eq_true hreads)⟩

/-- So a peer is written the messages of the picture, from the one at its admission on. -/
theorem peers_see_picture (hage : env.position.m_updateAge = 0) (hsize : env.S_MAX_CLIENTS ≤ 255)
    (hrun : run (step env) (started set env) events = some (os, s)) {event : SystemEvent}
    {o : Observed} (hadmitted : s.step env event = some (o, s₁)) {k : Nat}
    (hnew : k ∈ s₁.m_server.sockets) (hold : k ∉ s.m_server.sockets)
    (hlater : run (step env) s₁ later = some (os', s₂))
    (hreads : readsIn (os ++ [o]) + readsIn os' < 2 ^ 32) :
    writesTo k (writesOf os') <+:
        Picture.messagesAfter env (actsOf (os ++ [o])) (actsOf os') ∧
      (k ∈ s₂.m_server.sockets → writesTo k (writesOf os') =
        Picture.messagesAfter env (actsOf (os ++ [o])) (actsOf os')) := by
  have hfirst := run_append_some hrun (run_singleton hadmitted)
  obtain ⟨-, hshows⟩ := run_shows (Shows.init hage) (by omega) hfirst
  obtain ⟨hanswers, -⟩ := run_shows hshows (by omega) hlater
  obtain ⟨-, hpart, hall⟩ := written hsize hrun hadmitted hnew hold hlater
  rw [Picture.messagesAfter, ← hanswers, ← sentIn_eq_messages hlater]
  exact ⟨hpart, hall⟩

/-- A peer that comes before the wind is known gets the picture with it. -/
theorem peers_see_picture_airfield : ∃ o s₁ os' s₂,
    (started clients airfield).step airfield
        (.attemptConnection ⟨false, .ok [1], .ok [1], .ok [1], false⟩) = some (o, s₁) ∧
      run (step airfield) s₁ (wind ++ building ++ [.send fun _ => .returned true]) =
        some (os', s₂) ∧
      writesTo 1 (writesOf os') <+: Picture.messagesAfter airfield (actsOf [o]) (actsOf os') ∧
      (1 ∈ s₂.m_server.sockets → writesTo 1 (writesOf os') =
        Picture.messagesAfter airfield (actsOf [o]) (actsOf os')) := by
  have hdefined : ((started clients airfield).step airfield
      (.attemptConnection ⟨false, .ok [1], .ok [1], .ok [1], false⟩)).any (fun (o, s₁) =>
        decide (1 ∈ s₁.m_server.sockets) && (run (step airfield) s₁
          (wind ++ building ++ [.send fun _ => .returned true])).any (fun (os', _) =>
            decide (readsIn [o] + readsIn os' < 2 ^ 32))) = true := by
    decide +kernel
  obtain ⟨⟨o, s₁⟩, hadmitted, hlater⟩ := (Option.any_eq_true _ _).mp hdefined
  rw [Bool.and_eq_true, decide_eq_true_iff] at hlater
  obtain ⟨hnew, hlater⟩ := hlater
  obtain ⟨⟨os', s₂⟩, hrun, hreads⟩ := (Option.any_eq_true _ _).mp hlater
  have hnone : run (step airfield) (started clients airfield) [] =
      some ([], started clients airfield) := rfl
  exact ⟨o, s₁, os', s₂, hadmitted, hrun, peers_see_picture rfl (by decide) hnone hadmitted hnew
    (by decide) hrun (of_decide_eq_true hreads)⟩

end System

end VirtualFlightRadar
