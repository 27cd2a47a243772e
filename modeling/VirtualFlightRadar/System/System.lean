import VirtualFlightRadar.Client.Reader
import VirtualFlightRadar.Feed.Process
import VirtualFlightRadar.Server.Server

/-!
# The running program

The serving thread, the network thread of the server and the threads of the clients share the four
stores and the connection table.  Each of them holds one mutex at a time for one step, apart from
the handler of a response, which keeps that of its client while it visits the feeds.  A run of the
program is a sequence of such steps in any order; seen at one part it is a run of that part.
-/

open Cxx

namespace VirtualFlightRadar

/-- What does not change while the program runs. -/
structure Installation where
  m : Libm
  parsers : Parsers
  -- In the order of subscription
  feeds : List DataFeed
  S_MAX_CLIENTS : Nat := 2
  maxDistance : Int32
  atmPressure : Double
  position : GpsPosition
  groundMode : Bool
  -- The time at which the fallback position is processed
  utc : Tm

structure System where
  vfrb : VFRB
  m_server : Server
  m_clients : List Reader

inductive SystemEvent where
  -- A call of the serving thread to one of the stores
  | serve (act : Act)
  | send (outcome : Nat → WriteOutcome)
  | attemptConnection (env : Attempt)
  | stopServer
  -- Anything that happens to a client but for the visit of a feed
  | client (k : Nat) (event : ReaderEvent)
  -- The next feed in the loop of a client processes the response.
  | process (k : Nat) (clock : DateTime) (utc : Tm)

/-- What a step is seen to do. -/
inductive Observed where
  | served (act : Act) (event : Event)
  | sent (event : Event) (op : ServerOp) (writes : List Write)
  | server (op : ServerOp) (writes : List Write)
  | client (k : Nat) (event : ReaderEvent) (output : Reader.ReaderOutput)
  -- Feed `n` of client `k`, with what it returned and the update it made
  | processed (k n : Nat) (reading : Reading) (valid : Bool) (stored : Option (Act × Event))

/-- The calls of `serve` before it sends. -/
def Act.serving : Act → Bool
  | .get_position => true
  | .get_atmPressure => true
  | .processAircrafts => true
  | .serializeAircrafts => true
  | .serializeGps _ => true
  | .serializeAtmosphere => true
  | .serializeWind => true
  | _ => false

def ReaderEvent.visits : ReaderEvent → Bool
  | .processed _ => true
  | _ => false

namespace System

/-- `VFRB::run` up to `serve`: every feed is subscribed, and then every client is started. -/
def started {boost : BoostHash} (set : ClientManager.ClientSet boost) (env : Installation) :
    System where
  vfrb := .ofConfig env.maxDistance env.atmPressure env.position env.groundMode env.utc
  m_server := .started env.S_MAX_CLIENTS
  m_clients := (ClientManager.subscribeAll set (env.feeds.map (·.toFeed))).map .started

/-- The visit of a feed by the loop of client `k`. -/
def process (env : Installation) (s : System) (k : Nat) (clock : DateTime) (utc : Tm) :
    Option (Observed × System) := do
  let reader ← s.m_clients[k]?
  let visit ← reader.visiting
  let n ← visit.remaining.head?
  let feed ← env.feeds[n]?
  let reading : Reading := ⟨clock, utc, reader.response⟩
  let (valid, vfrb) ← feed.process env.parsers reading s.vfrb
  let reader ← reader.next (.processed valid)
  return (.processed k n reading valid (feed.stored env.m env.parsers reading s.vfrb),
    { s with vfrb := vfrb, m_clients := s.m_clients.set k reader })

def step (env : Installation) (s : System) : SystemEvent → Option (Observed × System)
  | .serve act =>
      if act.serving then
        (s.vfrb.step env.m act).map fun (event, vfrb) => (.served act event, { s with vfrb := vfrb })
      else none
  | .send outcome =>
      (s.vfrb.step env.m .send).map fun (event, vfrb) =>
        let (writes, m_server) := s.m_server.send s.vfrb.message outcome
        (.sent event (.send s.vfrb.message outcome) writes,
          { s with vfrb := vfrb, m_server := m_server })
  | .attemptConnection env =>
      (s.m_server.step (.attemptConnection env)).map fun (writes, m_server) =>
        (.server (.attemptConnection env) writes, { s with m_server := m_server })
  | .stopServer =>
      (s.m_server.step .stop).map fun (writes, m_server) =>
        (.server .stop writes, { s with m_server := m_server })
  | .client k event =>
      if event.visits then none
      else
        match s.m_clients[k]? with
        | none => none
        | some reader => (reader.step event).map fun (output, reader) =>
            (.client k event output, { s with m_clients := s.m_clients.set k reader })
  | .process k clock utc => s.process env k clock utc

/-! ## One step at each part -/

def vfrbSeen : Observed → Option (Act × Event)
  | .served act event => some (act, event)
  | .sent event _ _ => some (.send, event)
  | .processed _ _ _ _ stored => stored
  | _ => none

def serverSeen : Observed → Option (ServerOp × List Write)
  | .sent _ op writes => some (op, writes)
  | .server op writes => some (op, writes)
  | _ => none

def readerSeen (k : Nat) : Observed → Option (ReaderEvent × Reader.ReaderOutput)
  | .client l event output => if l = k then some (event, output) else none
  | .processed l n reading valid _ =>
      if l = k then some (.processed valid, { visit := some (n, reading.response) }) else none
  | _ => none

/-- What the visit of a feed is made of. -/
structure Processed (env : Installation) (s : System) (k : Nat) (clock : DateTime) (utc : Tm)
    (reader reader' : Reader) (n : Nat) (feed : DataFeed) (valid : Bool) (vfrb : VFRB) : Prop where
  client : s.m_clients[k]? = some reader
  visiting : ∃ returned rest, reader.visiting = some ⟨returned, n :: rest⟩
  subscribed : env.feeds[n]? = some feed
  process : feed.process env.parsers ⟨clock, utc, reader.response⟩ s.vfrb = some (valid, vfrb)
  next : reader.next (.processed valid) = some reader'

/-- Everything a step can do. -/
inductive Stepped (env : Installation) (s : System) : Observed → System → Prop where
  | served (act : Act) (event : Event) (vfrb : VFRB) (hserving : act.serving = true)
      (h : s.vfrb.step env.m act = some (event, vfrb)) :
      Stepped env s (.served act event) { s with vfrb := vfrb }
  | sent (outcome : Nat → WriteOutcome) (event : Event) (vfrb : VFRB) (writes : List Write)
      (m_server : Server) (h : s.vfrb.step env.m .send = some (event, vfrb))
      (hsend : s.m_server.step (.send s.vfrb.message outcome) = some (writes, m_server)) :
      Stepped env s (.sent event (.send s.vfrb.message outcome) writes)
        { s with vfrb := vfrb, m_server := m_server }
  | server (op : ServerOp) (writes : List Write) (m_server : Server)
      (hop : ∀ message outcome, op ≠ .send message outcome)
      (h : s.m_server.step op = some (writes, m_server)) :
      Stepped env s (.server op writes) { s with m_server := m_server }
  | client (k : Nat) (event : ReaderEvent) (output : Reader.ReaderOutput) (reader reader' : Reader)
      (hevent : event.visits = false) (hk : s.m_clients[k]? = some reader)
      (h : reader.step event = some (output, reader')) :
      Stepped env s (.client k event output) { s with m_clients := s.m_clients.set k reader' }
  | processed (k : Nat) (clock : DateTime) (utc : Tm) (reader reader' : Reader) (n : Nat)
      (feed : DataFeed) (valid : Bool) (vfrb : VFRB)
      (h : Processed env s k clock utc reader reader' n feed valid vfrb) :
      Stepped env s (.processed k n ⟨clock, utc, reader.response⟩ valid
          (feed.stored env.m env.parsers ⟨clock, utc, reader.response⟩ s.vfrb))
        { s with vfrb := vfrb, m_clients := s.m_clients.set k reader' }

section

variable {env : Installation} {s s' : System} {o : Observed}

theorem step_cases {event : SystemEvent} (h : s.step env event = some (o, s')) :
    Stepped env s o s' := by
  cases event with
  | serve act =>
      rw [step] at h
      split at h
      · rename_i hserving
        obtain ⟨⟨event, vfrb⟩, hstep, heq⟩ := Option.map_eq_some_iff.mp h
        cases heq
        exact .served act event vfrb hserving hstep
      · cases h
  | send outcome =>
      obtain ⟨⟨event, vfrb⟩, hstep, heq⟩ := Option.map_eq_some_iff.mp h
      cases heq
      exact .sent outcome event vfrb _ _ hstep rfl
  | attemptConnection attempt =>
      obtain ⟨⟨writes, m_server⟩, hstep, heq⟩ := Option.map_eq_some_iff.mp h
      cases heq
      exact .server _ writes m_server nofun hstep
  | stopServer =>
      cases h
      exact .server .stop [] _ nofun rfl
  | client k event =>
      rw [step] at h
      split at h
      · cases h
      · rename_i hevent
        split at h
        · cases h
        · rename_i reader hk
          obtain ⟨⟨output, reader'⟩, hstep, heq⟩ := Option.map_eq_some_iff.mp h
          cases heq
          exact .client k event output reader reader' (Bool.eq_false_iff.mpr hevent) hk hstep
  | process k clock utc =>
      rw [step] at h
      unfold process at h
      simp only [Option.bind_eq_bind, Option.bind_eq_some_iff, Prod.exists] at h
      obtain ⟨reader, hreader, ⟨returned, remaining⟩, hvisiting, n, hn, feed, hfeed, valid, vfrb,
        hprocess, reader', hnext, heq⟩ := h
      cases heq
      obtain ⟨rest, rfl⟩ := List.head?_eq_some_iff.mp hn
      exact .processed k clock utc reader reader' n feed valid vfrb
        ⟨hreader, ⟨returned, rest, hvisiting⟩, hfeed, hprocess, hnext⟩

theorem step_vfrb {event : SystemEvent} (h : s.step env event = some (o, s')) :
    PartStep (VFRB.step env.m) s.vfrb s'.vfrb (vfrbSeen o) := by
  cases step_cases h with
  | served act event vfrb hserving hstep => exact hstep
  | sent outcome event vfrb writes m_server hstep hsend => exact hstep
  | server op writes m_server hop hstep => rfl
  | client k event output reader reader' hevent hk hstep => rfl
  | processed k clock utc reader reader' n feed valid vfrb hprocessed =>
      have hstored := DataFeed.process_stored (m := env.m) hprocessed.process
      rw [vfrbSeen]
      cases hcall : feed.stored env.m env.parsers ⟨clock, utc, reader.response⟩ s.vfrb with
      | none =>
          rw [hcall] at hstored
          exact hstored.2.1
      | some update =>
          rw [hcall] at hstored
          exact hstored.2.1

theorem step_server {event : SystemEvent} (h : s.step env event = some (o, s')) :
    PartStep Server.step s.m_server s'.m_server (serverSeen o) := by
  cases step_cases h with
  | served act event vfrb hserving hstep => rfl
  | sent outcome event vfrb writes m_server hstep hsend => exact hsend
  | server op writes m_server hop hstep => exact hstep
  | client k event output reader reader' hevent hk hstep => rfl
  | processed k clock utc reader reader' n feed valid vfrb hprocessed => rfl

theorem getElem?_set_some {readers : List Reader} {k l : Nat} {reader old new : Reader}
    (hk : readers[k]? = some reader) (hl : readers[l]? = some old) :
    (readers.set l new)[k]? = some (if l = k then new else reader) := by
  rw [List.getElem?_set]
  by_cases hlk : l = k
  · rw [if_pos hlk, if_pos hlk, if_pos (List.getElem?_eq_some_iff.mp hl).1]
  · rw [if_neg hlk, if_neg hlk, hk]

theorem step_reader {event : SystemEvent} {k : Nat} {reader : Reader}
    (hk : s.m_clients[k]? = some reader) (h : s.step env event = some (o, s')) :
    ∃ reader', PartStep Reader.step reader reader' (readerSeen k o) ∧
      s'.m_clients[k]? = some reader' := by
  cases step_cases h with
  | served act event vfrb hserving hstep => exact ⟨reader, rfl, hk⟩
  | sent outcome event vfrb writes m_server hstep hsend => exact ⟨reader, rfl, hk⟩
  | server op writes m_server hop hstep => exact ⟨reader, rfl, hk⟩
  | client l event output old new hevent hl hstep =>
      refine ⟨_, ?_, getElem?_set_some hk hl⟩
      by_cases hlk : l = k
      · subst hlk
        cases hk.symm.trans hl
        rw [readerSeen, if_pos rfl, if_pos rfl]
        exact hstep
      · rw [readerSeen, if_neg hlk, if_neg hlk]
        rfl
  | processed l clock utc old new n feed valid vfrb hprocessed =>
      refine ⟨_, ?_, getElem?_set_some hk hprocessed.client⟩
      by_cases hlk : l = k
      · subst hlk
        cases hk.symm.trans hprocessed.client
        rw [readerSeen, if_pos rfl, if_pos rfl]
        obtain ⟨returned, rest, hvisiting⟩ := hprocessed.visiting
        show reader.step (.processed valid) = some (_, new)
        rw [Reader.step, hprocessed.next, Option.map_some, Reader.output, hvisiting]
        rfl
      · rw [readerSeen, if_neg hlk, if_neg hlk]
        rfl

theorem step_length {event : SystemEvent} (h : s.step env event = some (o, s')) :
    s'.m_clients.length = s.m_clients.length := by
  cases step_cases h with
  | served act event vfrb hserving hstep => rfl
  | sent outcome event vfrb writes m_server hstep hsend => rfl
  | server op writes m_server hop hstep => rfl
  | client k event output reader reader' hevent hk hstep => exact List.length_set
  | processed k clock utc reader reader' n feed valid vfrb hprocessed => exact List.length_set

end

/-! ## Runs of the parts -/

section

variable {env : Installation} {s s' : System} {events : List SystemEvent} {os : List Observed}

/-- The calls to the stores that are seen in a run. -/
def actsOf (os : List Observed) : List Act := inputsOf (fun o => (vfrbSeen o).toList) os

def storeEventsOf (os : List Observed) : List Event := outputsOf (fun o => (vfrbSeen o).toList) os

def serverOpsOf (os : List Observed) : List ServerOp := inputsOf (fun o => (serverSeen o).toList) os

def writesOf (os : List Observed) : List (List Write) :=
  outputsOf (fun o => (serverSeen o).toList) os

def readerEventsOf (k : Nat) (os : List Observed) : List ReaderEvent :=
  inputsOf (fun o => (readerSeen k o).toList) os

def readerOutputsOf (k : Nat) (os : List Observed) : List Reader.ReaderOutput :=
  outputsOf (fun o => (readerSeen k o).toList) os

theorem run_vfrb (hrun : run (step env) s events = some (os, s')) :
    run (VFRB.step env.m) s.vfrb (actsOf os) = some (storeEventsOf os, s'.vfrb) := by
  obtain ⟨vfrb, hpart, heq⟩ := run_part (VFRB.step env.m) vfrbSeen (fun s vfrb => vfrb = s.vfrb)
    (fun _ _ _ _ s' heq hstep => ⟨s'.vfrb, heq ▸ step_vfrb hstep, rfl⟩) rfl hrun
  rw [← heq]
  exact hpart

theorem run_server (hrun : run (step env) s events = some (os, s')) :
    run Server.step s.m_server (serverOpsOf os) = some (writesOf os, s'.m_server) := by
  obtain ⟨m_server, hpart, heq⟩ := run_part Server.step serverSeen
    (fun s m_server => m_server = s.m_server)
    (fun _ _ _ _ s' heq hstep => ⟨s'.m_server, heq ▸ step_server hstep, rfl⟩) rfl hrun
  rw [← heq]
  exact hpart

theorem run_reader {k : Nat} {reader : Reader} (hk : s.m_clients[k]? = some reader)
    (hrun : run (step env) s events = some (os, s')) :
    ∃ reader', run Reader.step reader (readerEventsOf k os) = some (readerOutputsOf k os, reader') ∧
      s'.m_clients[k]? = some reader' :=
  run_part Reader.step (readerSeen k) (fun s reader => s.m_clients[k]? = some reader)
    (fun _ _ _ _ _ hk hstep => step_reader hk hstep) hk hrun

end

end System

end VirtualFlightRadar
