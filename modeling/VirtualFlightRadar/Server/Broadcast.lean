import VirtualFlightRadar.Server.Table

/-!
# Delivery of messages

A slot is freed by a failed write and reused by another peer, so the messages of a connection are
followed by the number of its socket, not by its slot.  From its admission on it is written every
message up to the first one that fails, and nothing else.
-/

open Cxx

namespace VirtualFlightRadar

/-- The messages among the writes of one call that went to a socket. -/
def toSocket (k : Nat) (writes : List Write) : List Bytes :=
  (writes.filter (·.socket = k)).map (·.msg)

def writesTo (k : Nat) (writes : List (List Write)) : List Bytes := writes.flatMap (toSocket k)

/-- The messages a connection is due from its admission on: every one that is not empty, in the order
of the calls, up to the first whose write fails, and none after `stop`. -/
def expected (k : Nat) : List ServerOp → List Bytes
  | [] => []
  | .attemptConnection _ :: ops => expected k ops
  | .stop :: _ => []
  | .send msg outcome :: ops =>
      if msg = [] then expected k ops
      else msg :: if Connection.write (outcome k) then expected k ops else []

theorem toSocket_map (k : Nat) (msg : Bytes) {sockets : List Nat} (h : sockets.Nodup) :
    toSocket k (sockets.map (⟨·, msg⟩)) = if k ∈ sockets then [msg] else [] := by
  induction sockets with
  | nil => rfl
  | cons j sockets ih =>
      obtain ⟨hj, hrest⟩ := List.nodup_cons.mp h
      have hcons : toSocket k (⟨j, msg⟩ :: sockets.map (⟨·, msg⟩)) =
          (if j = k then [msg] else []) ++ toSocket k (sockets.map (⟨·, msg⟩)) := by
        unfold toSocket
        rw [List.filter_cons]
        by_cases hjk : j = k
        · simp [hjk]
        · simp [hjk]
      rw [List.map_cons, hcons, ih hrest]
      by_cases hjk : j = k
      · rw [if_pos hjk, if_neg (hjk ▸ hj), if_pos (by rw [hjk]; exact List.mem_cons_self)]
        rfl
      · have hiff : k ∈ j :: sockets ↔ k ∈ sockets := by
          rw [List.mem_cons]
          exact ⟨fun h => h.resolve_left (Ne.symm hjk), .inr⟩
        rw [if_neg hjk, List.nil_append]
        simp only [hiff]

namespace Server

theorem filterMap_keep_sockets (outcome : Nat → WriteOutcome)
    (connections : List (Option Connection)) :
    (connections.map (keep outcome)).filterMap (Option.map (·.m_socket)) =
      (connections.filterMap (Option.map (·.m_socket))).filter
        (fun k => Connection.write (outcome k)) := by
  induction connections with
  | nil => rfl
  | cons it rest ih =>
      cases it with
      | none => exact ih
      | some it =>
          have hsome : Option.map (·.m_socket) (some it) = some it.m_socket := rfl
          have hnone : Option.map (fun it : Connection => it.m_socket) none = none := rfl
          rw [List.map_cons, List.filterMap_cons_some hsome, List.filter_cons, ← ih, keep_some]
          by_cases hwritten : Connection.write (outcome it.m_socket) = true
          · rw [if_pos hwritten, if_pos hwritten, List.filterMap_cons_some hsome]
          · rw [if_neg hwritten, if_neg hwritten, List.filterMap_cons_none hnone]

variable {size : Nat} {this this' : Server}

/-- What one message is for a socket: it gets it if it is in the table, and stays if it got it. -/
theorem Sound.send_socket (h : Sound size this) {msg : Bytes} (hmsg : msg ≠ [])
    (outcome : Nat → WriteOutcome) (k : Nat) :
    toSocket k (this.send msg outcome).1 = (if k ∈ this.sockets then [msg] else []) ∧
      (k ∈ (this.send msg outcome).2.sockets ↔
        k ∈ this.sockets ∧ Connection.write (outcome k) = true) ∧
      (this.send msg outcome).2.m_netInterface = this.m_netInterface := by
  obtain ⟨active, hsend, -⟩ := h.send_eq hmsg outcome
  rw [hsend]
  refine ⟨toSocket_map k msg h.nodup, ?_, rfl⟩
  simp only [sockets]
  rw [filterMap_keep_sockets, List.mem_filter]

/-- An attempt neither writes to nor drops a socket that was accepted before. -/
theorem Sound.attempt_socket (h : Sound size this) {env : Attempt}
    (hattempt : this.attemptConnection env = some this') :
    (∀ k ≤ this.m_netInterface.accepted, k ∈ this'.sockets ↔ k ∈ this.sockets) ∧
      this.m_netInterface.accepted ≤ this'.m_netInterface.accepted ∧
      ∀ k ∈ this'.sockets, k ∉ this.sockets → k = this.m_netInterface.accepted + 1 := by
  have haccepted := (this.rearmed_fields env).2.2.2
  have hcases := attempted env h.free
  rw [hattempt] at hcases
  cases hcases with
  | dropped hquiet hno =>
      exact ⟨fun k hk => Iff.rfl, haccepted, fun k hk hnot => absurd hk hnot⟩
  | admitted i connection hquiet hadmits =>
      have hperm := filterMap_set (findIdx?_isNone hadmits.slot) connection (·.m_socket)
      have hmem (k : Nat) : k ∈ (this.m_connections.set i (some connection)).filterMap
          (Option.map (·.m_socket)) ↔ k = this.m_netInterface.accepted + 1 ∨ k ∈ this.sockets := by
        rw [hperm.mem_iff, List.mem_cons, hadmits.socket]
        rfl
      refine ⟨fun k hk => ?_, haccepted, fun k hk hnot => ?_⟩
      · exact (hmem k).trans ⟨fun hor => hor.resolve_left (by omega), .inr⟩
      · exact ((hmem k).mp hk).resolve_right hnot

theorem Sound.notMem_stop (h : Sound size this) (k : Nat) : k ∉ this.stop.sockets := by
  cases hrunning : this.m_running with
  | true =>
      rw [sockets_stop this hrunning]
      exact List.not_mem_nil
  | false =>
      unfold Server.stop
      rw [if_neg (by rw [hrunning]; decide), h.stopped hrunning]
      exact List.not_mem_nil

/-! ## Whole runs -/

/-- A socket in the table is written what it is due, one that left it nothing more. -/
theorem Sound.writesTo_eq (hsize : size ≤ 255) {ops : List ServerOp} {writes : List (List Write)}
    {last : Server} (h : Sound size this) {k : Nat} (hk : k ≤ this.m_netInterface.accepted)
    (hrun : Cxx.run Server.step this ops = some (writes, last)) :
    writesTo k writes = if k ∈ this.sockets then expected k ops else [] := by
  induction ops generalizing this writes with
  | nil =>
      cases hrun
      split <;> rfl
  | cons op ops ih =>
      obtain ⟨first, next, rest, hstep, hrest, rfl⟩ := run_cons hrun
      have hnext := h.step hsize hstep
      have hcons : writesTo k (first :: rest) = toSocket k first ++ writesTo k rest :=
        List.flatMap_cons
      rw [hcons]
      cases op with
      | attemptConnection env =>
          rw [Server.step, Option.map_eq_some_iff] at hstep
          obtain ⟨next, hattempt, heq⟩ := hstep
          cases heq
          obtain ⟨hsame, haccepted, -⟩ := h.attempt_socket hattempt
          rw [ih hnext (hk.trans haccepted) hrest]
          simp only [hsame k hk]
          rfl
      | stop =>
          cases hstep
          have hnone := ih hnext (by
            unfold Server.stop
            split
            · exact hk
            · exact hk) hrest
          rw [hnone, if_neg (h.notMem_stop k)]
          split <;> rfl
      | send msg outcome =>
          have hsend : this.send msg outcome = (first, next) := Option.some.inj hstep
          by_cases hmsg : msg = []
          · rw [hmsg, send_nil] at hsend
            cases hsend
            rw [ih h hk hrest, expected, if_pos hmsg]
            rfl
          · obtain ⟨hwritten, hstays, hinterface⟩ := h.send_socket hmsg outcome k
            rw [hsend] at hwritten hstays hinterface
            rw [hwritten, ih hnext (by rw [hinterface]; exact hk) hrest, expected, if_neg hmsg]
            by_cases hmem : k ∈ this.sockets
            · simp only [hstays, hmem, true_and, if_true]
              rfl
            · simp only [hstays, hmem, false_and, if_false]
              rfl

theorem accepted_le_step (h : Sound size this) {op : ServerOp} {writes : List Write}
    (hstep : this.step op = some (writes, this')) :
    this.m_netInterface.accepted ≤ this'.m_netInterface.accepted ∧
      ∀ k, this.m_netInterface.accepted < k → toSocket k writes = [] := by
  cases op with
  | attemptConnection env =>
      rw [Server.step, Option.map_eq_some_iff] at hstep
      obtain ⟨next, hattempt, heq⟩ := hstep
      cases heq
      exact ⟨(h.attempt_socket hattempt).2.1, fun k hk => rfl⟩
  | stop =>
      cases hstep
      refine ⟨?_, fun k hk => rfl⟩
      unfold Server.stop
      split
      · exact le_refl _
      · exact le_refl _
  | send msg outcome =>
      have hsend : this.send msg outcome = (writes, this') := Option.some.inj hstep
      by_cases hmsg : msg = []
      · rw [hmsg, Sound.send_nil] at hsend
        cases hsend
        exact ⟨le_refl _, fun k hk => rfl⟩
      · have hspec := h.send_socket hmsg outcome
        rw [hsend] at hspec
        refine ⟨(congrArg NetworkInterface.accepted (hspec 0).2.2).ge, fun k hk => ?_⟩
        rw [(hspec k).1, if_neg fun hmem => absurd (h.numbered k hmem) (by omega)]

/-- Nothing is written to a socket before it is accepted. -/
theorem Sound.writesTo_later (hsize : size ≤ 255) (h : Sound size this) {ops : List ServerOp}
    {writes : List (List Write)} {last : Server}
    (hrun : Cxx.run Server.step this ops = some (writes, last)) {k : Nat}
    (hk : last.m_netInterface.accepted < k) : writesTo k writes = [] := by
  have hend := run_history
    (fun (writes : List (List Write)) s => Sound size s ∧
      ∀ k, s.m_netInterface.accepted < k → writesTo k writes = [])
    (fun writes s op first s' hs (_ : True) hstep => by
      obtain ⟨haccepted, hfirst⟩ := accepted_le_step hs.1 hstep
      refine ⟨hs.1.step hsize hstep, fun k hk => ?_⟩
      rw [writesTo, List.flatMap_append, List.flatMap_singleton]
      rw [show writes.flatMap (toSocket k) = [] from hs.2 k (by omega), hfirst k (by omega)]
      rfl)
    [] ⟨h, fun k hk => rfl⟩ (fun _ _ => trivial) hrun
  exact hend.2 k hk

theorem Sound.slot_send (h : Sound size this) (msg : Bytes) (outcome : Nat → WriteOutcome)
    (j : Nat) : (this.send msg outcome).2.m_connections[j]? =
      if msg = [] then this.m_connections[j]? else this.m_connections[j]?.map (keep outcome) := by
  by_cases hmsg : msg = []
  · rw [if_pos hmsg, hmsg, send_nil]
  · obtain ⟨active, hsend, -⟩ := h.send_eq hmsg outcome
    rw [if_neg hmsg, hsend, List.getElem?_map]

/-- In every run, a socket that an attempt brings into the table is written nothing before and from
then on exactly what it is due; and what a message does to one connection depends on the outcome of
the write to it alone. -/
theorem broadcast_delivery (size : Nat) (hsize : size ≤ 255) (pre : List ServerOp)
    (before : List (List Write)) (this : Server)
    (hpre : run step (started size) pre = some (before, this)) :
    (∀ (env : Attempt) (this' : Server) (k : Nat), this.attemptConnection env = some this' →
      k ∈ this'.sockets → k ∉ this.sockets → ∀ post after last,
        run step this' post = some (after, last) →
          writesTo k before = [] ∧ writesTo k after = expected k post) ∧
    ∀ (msg : Bytes) (outcome outcome' : Nat → WriteOutcome) (j : Nat) (other : Connection),
      this.m_connections[j]? = some (some other) →
      outcome other.m_socket = outcome' other.m_socket →
        (this.send msg outcome).2.m_connections[j]? =
          (this.send msg outcome').2.m_connections[j]? ∧
        toSocket other.m_socket (this.send msg outcome).1 =
          toSocket other.m_socket (this.send msg outcome').1 := by
  have hsound := (Sound.started size).run hsize hpre
  constructor
  · intro env this' k hattempt hnew hold post after last hpost
    obtain ⟨-, -, hnumber⟩ := hsound.attempt_socket hattempt
    have hk := hnumber k hnew hold
    have hsound' := hsound.attemptConnection hsize hattempt
    constructor
    · exact (Sound.started size).writesTo_later hsize hpre (by omega)
    · rw [hsound'.writesTo_eq hsize (hsound'.numbered k hnew) hpost, if_pos hnew]
  · intro msg outcome outcome' j other hslot hsame
    have hkeep : keep outcome (some other) = keep outcome' (some other) := by
      rw [keep_some, keep_some, hsame]
    rw [hsound.slot_send, hsound.slot_send, hslot, Option.map_some, Option.map_some, hkeep]
    refine ⟨rfl, ?_⟩
    by_cases hmsg : msg = []
    · rw [hmsg, Sound.send_nil, Sound.send_nil]
    · rw [(hsound.send_socket hmsg outcome _).1, (hsound.send_socket hmsg outcome' _).1]

/-- The first peer is lost with the first message; the second gets that one and the next. -/
theorem broadcast_delivery_two_peers :
    ∃ this this' after last,
      run step (started 2) [.attemptConnection ⟨false, .ok [1], .ok [1], .ok [1], false⟩] =
        some ([[]], this) ∧
      this.attemptConnection ⟨false, .ok [2], .ok [2], .ok [2], false⟩ = some this' ∧
      run step this' [.send (str "A") (fun k => .returned (k != 1)),
        .send (str "B") (fun _ => .returned true), .stop,
        .send (str "C") (fun _ => .returned true)] = some (after, last) ∧
      writesTo 2 after = [str "A", str "B"] := by
  refine ⟨_, _, _, _, rfl, rfl, rfl, ?_⟩
  have h := (broadcast_delivery 2 (by decide)
    [.attemptConnection ⟨false, .ok [1], .ok [1], .ok [1], false⟩] _ _ rfl).1
    ⟨false, .ok [2], .ok [2], .ok [2], false⟩ _ 2 rfl (by decide) (by decide)
    [.send (str "A") (fun k => .returned (k != 1)), .send (str "B") (fun _ => .returned true), .stop,
      .send (str "C") (fun _ => .returned true)] _ _ rfl
  exact h.2.trans (by decide)

end Server

end VirtualFlightRadar
