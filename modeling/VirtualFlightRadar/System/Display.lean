import VirtualFlightRadar.Data.Traffic
import VirtualFlightRadar.System.Picture
import VirtualFlightRadar.System.Verified

/-!
# What the displays show

The picture again, with the messages read.  A display at the other end shows, from message to
message, the aircrafts that the picture has when the serving thread takes them from the store:
nothing of the bytes between is left.
-/

open Cxx

namespace VirtualFlightRadar

/-- The picture, and the aircrafts that are taken for the message. -/
structure Screen where
  picture : Picture
  traffic : List Traffic := []

namespace Screen

def ofConfig (env : Installation) : Screen where
  picture := .ofConfig env

/-- A message is seen as the aircrafts that it shows. -/
def step (env : Installation) (s : Screen) (act : Act) : Option (List Traffic) × Screen :=
  let picture := (s.picture.step env act).2
  match act with
  | .serializeAircrafts =>
      (none, ⟨picture, s.picture.aircrafts.traffic env.m env.maxDistance⟩)
  | .send => (some s.traffic, { s with picture := picture })
  | _ => (none, { s with picture := picture })

/-- What is shown, message by message. -/
def shown (env : Installation) (acts : List Act) : List (List Traffic) :=
  (trace (step env) (.ofConfig env) acts).1.filterMap id

end Screen

def Answer.traffic : Answer → Option (List Traffic)
  | .message text => some (Traffic.ofMessage text)
  | _ => none

/-- The aircrafts that are updated can be printed. -/
def Act.Printed : Act → Prop
  | .updateAircraft x => Printable x
  | _ => True

/-- What is read of a message by the time the thread gets there. -/
def ReadsUpTo (traffic : List Traffic) (message : Bytes) : Serve → Prop
  | .arguments _ _ => True
  | .aircrafts => message = []
  | .gps => ∀ rest, Traffic.ofMessage (message ++ rest) = traffic ++ Traffic.ofMessage rest
  | _ => ∀ rest, Traffic.ofMessage (message ++ rest) = traffic

structure Displays (env : Installation) (n : Nat) (s : VFRB) (screen : Screen) : Prop where
  shows : Shows env n s screen.picture
  printable : screen.picture.aircrafts.AllPrintable
  message : ReadsUpTo screen.traffic s.message s.serve

namespace Displays

variable {env : Installation} {n : Nat} {s s' : VFRB} {screen : Screen} {event : Event}

theorem init (hage : env.position.m_updateAge = 0) :
    Displays env 0 (.ofConfig env.maxDistance env.atmPressure env.position env.groundMode env.utc)
      (.ofConfig env) := by
  refine ⟨Shows.init hage, ?_, trivial⟩
  rintro _ _ ⟨⟩

/-- One step, with what it shows -/
theorem step {act : Act} (h : Displays env n s screen) (hfresh : act.Fresh) (hprinted : act.Printed)
    (hn : n + act.reads < 2 ^ 32) (hstep : s.step env.m act = some (event, s')) :
    event.answer.traffic = (screen.step env act).1 ∧
      Displays env (n + act.reads) s' (screen.step env act).2 := by
  obtain ⟨hanswer, hshows⟩ := h.shows.step hfresh hn hstep
  have hread := h.message
  rw [hanswer]
  cases VFRB.step_cases hstep with
  | get_position atmPress hserve =>
      exact ⟨rfl, hshows, h.printable, trivial⟩
  | get_atmPressure position hserve =>
      exact ⟨rfl, hshows, h.printable, trivial⟩
  | processAircrafts position atmPress hserve =>
      exact ⟨rfl, hshows, h.printable.processAircrafts _ _, rfl⟩
  | serializeAircrafts hserve =>
      refine ⟨rfl, hshows, h.printable, fun rest => ?_⟩
      rw [hserve] at hread
      have hempty : s.message = [] := hread
      have htext := hshows.message
      change screen.picture.aircrafts.get_serialized env.m env.maxDistance screen.picture.message =
        s.m_aircraftData.get_serialized s.message at htext
      rw [← htext, h.shows.message, hempty]
      exact h.printable.ofMessage env.m env.maxDistance rest
  | serializeGps utc hserve =>
      refine ⟨rfl, hshows, h.printable, fun rest => ?_⟩
      rw [hserve] at hread
      rw [(h.shows.gps.get_serialized utc s.message).1, List.append_assoc, List.append_assoc, hread,
        Traffic.ofMessage_position, List.append_nil]
      rfl
  | serializeAtmosphere hserve =>
      refine ⟨rfl, hshows, h.printable, fun rest => ?_⟩
      rw [hserve] at hread
      show Traffic.ofMessage (s.message ++ _ ++ rest) = screen.traffic
      rw [List.append_assoc]
      exact hread _
  | serializeWind hserve =>
      refine ⟨rfl, hshows, h.printable, fun rest => ?_⟩
      rw [hserve] at hread
      show Traffic.ofMessage (s.message ++ _ ++ rest) = screen.traffic
      rw [List.append_assoc]
      exact hread _
  | send hserve =>
      rw [hserve] at hread
      have hall := hread []
      rw [List.append_nil] at hall
      refine ⟨?_, hshows, h.printable, trivial⟩
      show some (Traffic.ofMessage screen.picture.message) = some screen.traffic
      rw [h.shows.message, hall]
  | updateAircraft x accepted d hupdate =>
      exact ⟨rfl, hshows, h.printable.update hprinted, hread⟩
  | updateGps utc x =>
      refine ⟨?_, hshows, h.printable, hread⟩
      rw [Picture.step]
      simp only
      split
      · rfl
      · rfl
  | updateAtmosphere x =>
      exact ⟨rfl, hshows, h.printable, hread⟩
  | updateWind x =>
      exact ⟨rfl, hshows, h.printable, hread⟩

end Displays

/-- The messages among the answers are read one by one. -/
theorem Picture.messages_traffic (answers : List Answer) :
    (Picture.messages answers).map Traffic.ofMessage =
      (answers.map Answer.traffic).filterMap id := by
  induction answers with
  | nil => rfl
  | cons answer answers ih =>
      have hcons : Picture.messages (answer :: answers) =
          Picture.messages [answer] ++ Picture.messages answers := by
        show Picture.messages ([answer] ++ answers) = _
        exact List.filterMap_append ..
      rw [hcons, List.map_append, ih]
      cases answer with
      | message text => rfl
      | _ => rfl

namespace System

open ClientManager

variable {boost : BoostHash} {set : ClientSet boost} {env : Installation} {s s' : System}
  {events : List SystemEvent} {os : List Observed}

theorem acts_printed (hids : PlainIds env os)
    (hrun : run (step env) s events = some (os, s')) : ∀ act ∈ actsOf os, act.Printed := by
  intro act hact
  obtain ⟨o, ho, shown, hseen⟩ := mem_actsOf hact
  cases act with
  | updateAircraft x =>
      rcases run_sourced hrun o ho _ shown hseen with ⟨hserving, -⟩ | hsend | hdelivered
      · cases hserving
      · cases hsend
      · obtain ⟨k, n, feed, reading, valid, event, rfl, hfeed, hact⟩ := hdelivered
        exact printable_of_line hids ⟨k, n, feed, reading, valid, _, ho, hfeed, hact⟩
  | _ => exact trivial

/-- In every run whose SBS lines have ids of at most a thousand ordinary characters and whose objects
are shown fewer than 2^32 times, a display that reads the messages shows one after the other what the
picture has for them: the aircrafts of the store that were taken lately and are near enough, in
their order, with what the processor computed of each. -/
theorem displays_picture (hage : env.position.m_updateAge = 0)
    (hrun : run (step env) (started set env) events = some (os, s)) (hids : PlainIds env os)
    (hreads : readsIn os < 2 ^ 32) :
    (sentIn os).map Traffic.ofMessage = Screen.shown env (actsOf os) := by
  have hok : ∀ act ∈ actsOf os, act.Fresh ∧ act.Printed :=
    fun act hact => ⟨acts_fresh hrun act hact, acts_printed hids hrun act hact⟩
  obtain ⟨hanswers, -⟩ := run_answers (fun event : Event => event.answer.traffic) Act.reads
    (Displays env)
    (fun _ _ _ _ _ _ hdisplays hok hn hstep => hdisplays.step hok.1 hok.2 hn hstep)
    (Displays.init hage) hok (by rw [Nat.zero_add]; exact hreads) (run_vfrb hrun)
  rw [sentIn_eq_messages hrun, Picture.messages_traffic, List.map_map, Screen.shown, ← hanswers]
  rfl

/-- A tower with a receiver of aircraft reports -/
def tower : Installation := { airfield with
  feeds := [{ type := .SbsFeed, m_priority := 0, endpoint := ⟨str "receiver", []⟩ }] }

/-- The receiver reports an aircraft. -/
def overhead : List SystemEvent := [.client 0 (.dispatch 0 .SUCCESS []), .client 0 .locked,
  .client 0 (.dispatch 0 .SUCCESS (str "MSG,3,0,0,AAAAAA,0,2017/02/16,20:11:30.772,2017/02/16," ++
    str "20:11:30.772,,0,,,0.0,0.0,,,,,,0")), .client 0 .locked,
  .process 0 ⟨100, 80000000⟩ airfield.utc]

def plainId : Observed → Bool
  | .processed _ _ reading _ _ =>
      (SbsParser.idField reading.response).all isIdChar &&
        decide ((SbsParser.idField reading.response).length ≤ 1000)
  | _ => true

/-- The display shows the aircraft over the tower. -/
theorem displays_picture_tower : ∃ os s,
    run (step tower) (started clients tower)
        (overhead ++ building ++ [.send fun _ => .returned true]) = some (os, s) ∧
      ((sentIn os).map Traffic.ofMessage).map (·.map (·.id)) = [[str "AAAAAA"]] ∧
      (sentIn os).map Traffic.ofMessage = Screen.shown tower (actsOf os) := by
  have hdefined : (run (step tower) (started clients tower)
      (overhead ++ building ++ [.send fun _ => .returned true])).any (fun (os, _) =>
        os.all plainId && decide (readsIn os < 2 ^ 32) &&
          decide (((sentIn os).map Traffic.ofMessage).map (·.map (·.id)) =
            [[str "AAAAAA"]])) = true := by
    decide +kernel
  obtain ⟨⟨os, s⟩, hrun, hseen⟩ := (Option.any_eq_true _ _).mp hdefined
  rw [Bool.and_eq_true, Bool.and_eq_true, List.all_eq_true, decide_eq_true_iff,
    decide_eq_true_iff] at hseen
  obtain ⟨⟨hplain, hreads⟩, hshown⟩ := hseen
  have hids : PlainIds tower os := by
    intro k n feed reading valid stored hmem _ _ _
    have hid := hplain _ hmem
    rw [plainId, Bool.and_eq_true, List.all_eq_true, decide_eq_true_iff] at hid
    exact hid
  exact ⟨os, s, hrun, hshown, displays_picture rfl hrun hids hreads⟩

end System

end VirtualFlightRadar
