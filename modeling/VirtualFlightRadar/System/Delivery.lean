import VirtualFlightRadar.Server.Broadcast
import VirtualFlightRadar.System.Provenance

/-!
# From the feeds to the peers

A peer gets the messages of the serving thread one after the other from its admission on, and misses
none of them as long as it is in the table.
-/

open Cxx
open scoped Computability

namespace VirtualFlightRadar

namespace Server

/-- The messages that the server is given, but for the empty ones. -/
def messagesOf (ops : List ServerOp) : List Bytes :=
  ops.filterMap fun op => match op with
    | .send msg _ => if msg = [] then none else some msg
    | _ => none

theorem messagesOf_send (msg : Bytes) (outcome : Nat → WriteOutcome) (ops : List ServerOp) :
    messagesOf (.send msg outcome :: ops) =
      if msg = [] then messagesOf ops else msg :: messagesOf ops := by
  unfold messagesOf
  by_cases hmsg : msg = []
  · simp [hmsg]
  · simp [hmsg]

theorem expected_prefix (k : Nat) (ops : List ServerOp) : expected k ops <+: messagesOf ops := by
  induction ops with
  | nil => exact List.nil_prefix
  | cons op ops ih =>
      cases op with
      | attemptConnection env => exact ih
      | stop => exact List.nil_prefix
      | send msg outcome =>
          rw [messagesOf_send, expected]
          by_cases hmsg : msg = []
          · rw [if_pos hmsg, if_pos hmsg]
            exact ih
          · rw [if_neg hmsg, if_neg hmsg, List.cons_prefix_cons]
            split
            · exact ⟨rfl, ih⟩
            · exact ⟨rfl, List.nil_prefix⟩

variable {size : Nat} {this : Server}

/-- A socket that is still in the table was due every message. -/
theorem Sound.stays (hsize : size ≤ 255) {ops : List ServerOp} {writes : List (List Write)}
    {last : Server} (h : Sound size this) {k : Nat} (hk : k ≤ this.m_netInterface.accepted)
    (hrun : Cxx.run Server.step this ops = some (writes, last)) (hlast : k ∈ last.sockets) :
    k ∈ this.sockets ∧ expected k ops = messagesOf ops := by
  induction ops generalizing this writes with
  | nil =>
      cases hrun
      exact ⟨hlast, rfl⟩
  | cons op ops ih =>
      obtain ⟨first, next, rest, hstep, hrest, rfl⟩ := run_cons hrun
      have hnext := h.step hsize hstep
      have haccepted := (accepted_le_step h hstep).1
      obtain ⟨hmem, hexpected⟩ := ih hnext (hk.trans haccepted) hrest
      cases op with
      | attemptConnection env =>
          rw [Server.step, Option.map_eq_some_iff] at hstep
          obtain ⟨next, hattempt, heq⟩ := hstep
          cases heq
          exact ⟨((h.attempt_socket hattempt).1 k hk).mp hmem, hexpected⟩
      | stop =>
          cases hstep
          exact absurd hmem (h.notMem_stop k)
      | send msg outcome =>
          have hsend : this.send msg outcome = (first, next) := Option.some.inj hstep
          rw [messagesOf_send, expected]
          by_cases hmsg : msg = []
          · rw [hmsg, send_nil] at hsend
            cases hsend
            rw [if_pos hmsg, if_pos hmsg]
            exact ⟨hmem, hexpected⟩
          · obtain ⟨-, hstays, -⟩ := h.send_socket hmsg outcome k
            rw [hsend] at hstays
            obtain ⟨hold, hwritten⟩ := hstays.mp hmem
            rw [if_neg hmsg, if_neg hmsg, if_pos hwritten, hexpected]
            exact ⟨hold, rfl⟩

end Server

namespace System

open ClientManager

variable {boost : BoostHash} {set : ClientSet boost} {env : Installation}
  {s s₁ s₂ : System} {events later : List SystemEvent} {os os' : List Observed}

/-- The messages that the serving thread has sent. -/
def sentIn (os : List Observed) : List Bytes :=
  os.filterMap fun o => match o with
    | .sent (.sent message) _ _ => some message
    | _ => none

theorem sentence_ne_nil (text : Bytes) : Processor.sentence text ≠ [] := by
  unfold Processor.sentence Processor.checksumText
  exact List.append_ne_nil_of_right_ne_nil _ (List.append_ne_nil_of_right_ne_nil _ (by decide))

-- The sentences of the own position are in every message.
theorem nil_notMem_messages : [] ∉ messages env os := by
  intro hnil
  obtain ⟨front, hfront, wind, -, hcat⟩ := Language.mem_mul.mp hnil
  obtain ⟨sentences, hsentences, atmosphere, -, hfrontEq⟩ := Language.mem_mul.mp hfront
  obtain ⟨reported, -, own, hown, hsentencesEq⟩ := Language.mem_mul.mp hsentences
  obtain ⟨utc, event, fix, -, -, heq⟩ := hown
  rw [← hfrontEq, ← hsentencesEq, heq] at hcat
  simp only [List.append_eq_nil_iff] at hcat
  exact sentence_ne_nil _ hcat.1.1.2.1

/-- A message goes back to lines that were processed before it. -/
theorem sent_before {before after : List Observed} {shown : Event} {message : Bytes}
    {outcome : Nat → WriteOutcome} {writes : List Write}
    (hrun : run (step env) (started set env) events =
      some (before ++ .sent shown (.send message outcome) writes :: after, s)) :
    message ∈ messages env before := by
  obtain ⟨is, s₁, i, s₂, hbefore, hi⟩ := run_split hrun
  exact (run_traced hbefore).sent hi

/-- The server is given what the serving thread sends, which is never empty. -/
def Sends : Observed → Prop
  | .sent shown op _ =>
      ∃ message outcome, message ≠ [] ∧ shown = .sent message ∧ op = .send message outcome
  | .server op _ => ∀ message outcome, op ≠ .send message outcome
  | _ => True

theorem run_sends (hrun : run (step env) (started set env) events = some (os, s)) :
    ∀ o ∈ os, Sends o := by
  intro o ho
  obtain ⟨before, after, rfl⟩ := List.append_of_mem ho
  obtain ⟨is, s₁, i, s₂, hbefore, hi⟩ := run_split hrun
  have hcopy := hi
  cases step_cases hi with
  | sent outcome shown vfrb writes m_server hstep hsend =>
      have hmessage := (run_traced hbefore).sent hcopy
      cases VFRB.step_cases hstep with
      | send hserve =>
          refine ⟨_, outcome, ?_, rfl, rfl⟩
          intro hnil
          rw [hnil] at hmessage
          exact nil_notMem_messages hmessage
  | server op writes m_server hop hstep => exact hop
  | _ => exact trivial

theorem sentIn_eq (h : ∀ o ∈ os, Sends o) : Server.messagesOf (serverOpsOf os) = sentIn os := by
  induction os with
  | nil => rfl
  | cons o os ih =>
      obtain ⟨ho, hos⟩ := List.forall_mem_cons.mp h
      have hrest := ih hos
      have hcons : serverOpsOf (o :: os) =
          (serverSeen o).toList.map Prod.fst ++ serverOpsOf os := by
        unfold serverOpsOf inputsOf
        rw [List.flatMap_cons, List.map_append]
      rw [hcons]
      cases o with
      | sent shown op writes =>
          obtain ⟨message, outcome, hne, rfl, rfl⟩ := ho
          show Server.messagesOf (.send message outcome :: serverOpsOf os) = message :: sentIn os
          rw [Server.messagesOf_send, if_neg hne, hrest]
      | server op writes =>
          show Server.messagesOf (op :: serverOpsOf os) = sentIn os
          cases op with
          | send message outcome => exact absurd rfl (ho message outcome)
          | attemptConnection attempt => exact hrest
          | stop => exact hrest
      | served act event => exact hrest
      | client k event output => exact hrest
      | processed k n reading valid stored => exact hrest

/-- A socket gets into the table by an attempt alone. -/
theorem admitted_by (hsize : env.S_MAX_CLIENTS ≤ 255)
    (hrun : run (step env) (started set env) events = some (os, s)) {event : SystemEvent}
    {o : Observed} (h : s.step env event = some (o, s₁)) {k : Nat}
    (hnew : k ∈ s₁.m_server.sockets) (hold : k ∉ s.m_server.sockets) :
    ∃ attempt, s.m_server.attemptConnection attempt = some s₁.m_server := by
  have hsound := (Server.Sound.started env.S_MAX_CLIENTS).run hsize (run_server hrun)
  cases step_cases h with
  | sent outcome shown vfrb writes m_server hstep hsend =>
      have heq : s.m_server.send s.vfrb.message outcome = (writes, m_server) :=
        Option.some.inj hsend
      by_cases hmsg : s.vfrb.message = []
      · rw [hmsg, Server.Sound.send_nil] at heq
        cases heq
        exact absurd hnew hold
      · obtain ⟨-, hstays, -⟩ := hsound.send_socket hmsg outcome k
        rw [heq] at hstays
        exact absurd (hstays.mp hnew).1 hold
  | server op writes m_server hop hstep =>
      cases op with
      | send message outcome => exact absurd rfl (hop message outcome)
      | attemptConnection attempt =>
          rw [Server.step, Option.map_eq_some_iff] at hstep
          obtain ⟨next, hattempt, heq⟩ := hstep
          cases heq
          exact ⟨attempt, hattempt⟩
      | stop =>
          cases hstep
          exact absurd hnew (hsound.notMem_stop k)
  | served act shown vfrb hserving hstep => exact absurd hnew hold
  | client l event output reader reader' hevent hl hstep => exact absurd hnew hold
  | processed l clock utc reader reader' n feed valid vfrb hprocessed => exact absurd hnew hold

/-- What a peer is written from its admission on. -/
theorem written (hsize : env.S_MAX_CLIENTS ≤ 255)
    (hrun : run (step env) (started set env) events = some (os, s)) {event : SystemEvent}
    {o : Observed} (hadmitted : s.step env event = some (o, s₁)) {k : Nat}
    (hnew : k ∈ s₁.m_server.sockets) (hold : k ∉ s.m_server.sockets)
    (hlater : run (step env) s₁ later = some (os', s₂)) :
    writesTo k (writesOf os) = [] ∧ writesTo k (writesOf os') <+: sentIn os' ∧
      (k ∈ s₂.m_server.sockets → writesTo k (writesOf os') = sentIn os') := by
  have hsends := run_sends (run_append_some hrun (run_append_some (run_singleton hadmitted) hlater))
  have hsent : Server.messagesOf (serverOpsOf os') = sentIn os' :=
    sentIn_eq fun o' ho' => hsends o' (List.mem_append_right os (List.mem_append_right [o] ho'))
  have hsound := (Server.Sound.started env.S_MAX_CLIENTS).run hsize (run_server hrun)
  obtain ⟨attempt, hattempt⟩ := admitted_by hsize hrun hadmitted hnew hold
  have hk := (hsound.attempt_socket hattempt).2.2 k hnew hold
  have hsound' := hsound.attemptConnection hsize hattempt
  have hserver := run_server hlater
  have hwritten : writesTo k (writesOf os') = Server.messagesOf (serverOpsOf os') ∨
      (k ∉ s₂.m_server.sockets ∧
        writesTo k (writesOf os') <+: Server.messagesOf (serverOpsOf os')) := by
    rw [hsound'.writesTo_eq hsize (hsound'.numbered k hnew) hserver, if_pos hnew]
    by_cases hlast : k ∈ s₂.m_server.sockets
    · exact .inl (hsound'.stays hsize (hsound'.numbered k hnew) hserver hlast).2
    · exact .inr ⟨hlast, Server.expected_prefix k _⟩
  rw [hsent] at hwritten
  refine ⟨?_, ?_, ?_⟩
  · exact (Server.Sound.started env.S_MAX_CLIENTS).writesTo_later hsize (run_server hrun) (by omega)
  · rcases hwritten with heq | ⟨-, hprefix⟩
    · rw [heq]
    · exact hprefix
  · intro hlast
    exact hwritten.resolve_right fun hgone => hgone.1 hlast

/-- A peer that is admitted is written the messages of the serving thread from then on, in their
order and each in one piece, and it has been written all of them if it is still in the table.  Each
of them goes back to lines that were processed before it was sent. -/
theorem delivered (hsize : env.S_MAX_CLIENTS ≤ 255)
    (hrun : run (step env) (started set env) events = some (os, s)) {event : SystemEvent}
    {o : Observed} (hadmitted : s.step env event = some (o, s₁)) {k : Nat}
    (hnew : k ∈ s₁.m_server.sockets) (hold : k ∉ s.m_server.sockets)
    (hlater : run (step env) s₁ later = some (os', s₂)) :
    writesTo k (writesOf os) = [] ∧ writesTo k (writesOf os') <+: sentIn os' ∧
      (k ∈ s₂.m_server.sockets → writesTo k (writesOf os') = sentIn os') ∧
      ∀ front message op writes back, os' = front ++ .sent (.sent message) op writes :: back →
        message ∈ messages env (os ++ o :: front) := by
  have hwhole := run_append_some hrun (run_append_some (run_singleton hadmitted) hlater)
  obtain ⟨hbefore, hprefix, hall⟩ := written hsize hrun hadmitted hnew hold hlater
  refine ⟨hbefore, hprefix, hall, ?_⟩
  rintro front message op writes back rfl
  have hmem : .sent (.sent message) op writes ∈
      os ++ ([o] ++ (front ++ .sent (.sent message) op writes :: back)) := by simp
  obtain ⟨message', outcome, -, heq, rfl⟩ := run_sends hwhole _ hmem
  cases heq
  have hsplit {m : Observed} : os ++ ([o] ++ (front ++ m :: back)) = os ++ o :: front ++ m :: back := by
    simp
  rw [hsplit] at hwhole
  exact sent_before hwhole

/-- A peer that comes before the wind is known gets the message with it. -/
theorem delivered_airfield : ∃ o s₁ os' s₂,
    (started clients airfield).step airfield
        (.attemptConnection ⟨false, .ok [1], .ok [1], .ok [1], false⟩) = some (o, s₁) ∧
      run (step airfield) s₁ (wind ++ building ++ [.send fun _ => .returned true]) =
        some (os', s₂) ∧
      writesTo 1 (writesOf os') <+: sentIn os' ∧
      (1 ∈ s₂.m_server.sockets → writesTo 1 (writesOf os') = sentIn os') ∧
      ∀ front message op writes back, os' = front ++ .sent (.sent message) op writes :: back →
        message ∈ messages airfield (o :: front) := by
  have hdefined : ((started clients airfield).step airfield
      (.attemptConnection ⟨false, .ok [1], .ok [1], .ok [1], false⟩)).any (fun (_, s₁) =>
        decide (1 ∈ s₁.m_server.sockets) && (run (step airfield) s₁
          (wind ++ building ++ [.send fun _ => .returned true])).isSome) = true := by
    decide +kernel
  obtain ⟨⟨o, s₁⟩, hadmitted, hlater⟩ := (Option.any_eq_true _ _).mp hdefined
  rw [Bool.and_eq_true, decide_eq_true_iff, Option.isSome_iff_exists] at hlater
  obtain ⟨hnew, ⟨os', s₂⟩, hrun⟩ := hlater
  have hnone : run (step airfield) (started clients airfield) [] =
      some ([], started clients airfield) := rfl
  exact ⟨o, s₁, os', s₂, hadmitted, hrun,
    (delivered (by decide) hnone hadmitted hnew (by decide) hrun).2⟩

end System

end VirtualFlightRadar
