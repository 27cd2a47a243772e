import VirtualFlightRadar.Server.Handler

/-!
# The connection table

The counter is the number of connections in every reachable state, so that the early return of
`send` misses nobody and room in the counter is room in the table.  An accepted socket never stays
open outside of the table.
-/

open Cxx

namespace VirtualFlightRadar

namespace Server

/-! ## Sending -/

/-- The slots after a message: a connection stays if its own write succeeds. -/
def keep (outcome : Nat → WriteOutcome) : Option Connection → Option Connection :=
  Option.filter fun it => Connection.write (outcome it.m_socket)

theorem keep_some (outcome : Nat → WriteOutcome) (it : Connection) : keep outcome (some it) =
    if Connection.write (outcome it.m_socket) then some it else none := rfl

def sockets (this : Server) : List Nat := this.m_connections.filterMap (Option.map (·.m_socket))

def addresses (this : Server) : List Bytes :=
  this.m_connections.filterMap (Option.map (·.m_address))

section Send

variable (msg : Bytes) (outcome : Nat → WriteOutcome)

theorem sendAll_spec (connections : List (Option Connection)) (active : UInt8) :
    (sendAll msg outcome connections active).1 = connections.map (keep outcome) ∧
      (sendAll msg outcome connections active).2.2 =
        (connections.filterMap (Option.map (·.m_socket))).map (⟨·, msg⟩) := by
  induction connections generalizing active with
  | nil => exact ⟨rfl, rfl⟩
  | cons it rest ih =>
      cases it with
      | none =>
          obtain ⟨hslots, hwrites⟩ := ih active
          exact ⟨congrArg (none :: ·) hslots, hwrites⟩
      | some it =>
          rw [sendAll]
          split
          next hwritten =>
            obtain ⟨hslots, hwrites⟩ := ih active
            refine ⟨?_, congrArg (_ :: ·) hwrites⟩
            rw [List.map_cons, keep_some, if_pos hwritten]
            exact congrArg (_ :: ·) hslots
          next hfailed =>
            obtain ⟨hslots, hwrites⟩ := ih (active - 1)
            refine ⟨?_, congrArg (_ :: ·) hwrites⟩
            rw [List.map_cons, keep_some, if_neg hfailed]
            exact congrArg (_ :: ·) hslots

/-- The counter follows the slots and does not wrap: at every decrement the connection that is
dropped is still counted. -/
theorem sendAll_active (connections : List (Option Connection)) (active : UInt8) (others : Nat)
    (h : active.toNat = others + connections.countP Option.isSome) :
    (sendAll msg outcome connections active).2.1.toNat =
      others + (connections.map (keep outcome)).countP Option.isSome := by
  induction connections generalizing active others with
  | nil => exact h
  | cons it rest ih =>
      cases it with
      | none => exact ih active others h
      | some it =>
          rw [List.countP_cons_of_pos rfl] at h
          rw [sendAll, List.map_cons]
          split
          next hwritten =>
            rw [keep_some, if_pos hwritten, List.countP_cons_of_pos rfl]
            have hrest := ih active (others + 1) (by omega)
            rw [show others + 1 + (rest.map (keep outcome)).countP Option.isSome =
              others + ((rest.map (keep outcome)).countP Option.isSome + 1) by omega] at hrest
            exact hrest
          next hfailed =>
            rw [keep_some, if_neg hfailed, List.countP_cons_of_neg (by simp)]
            apply ih (active - 1) others
            have hone : (1 : UInt8).toNat = 1 := rfl
            have hle : 1 ≤ active := by
              rw [UInt8.le_iff_toNat_le, hone]
              omega
            rw [UInt8.toNat_sub_of_le _ _ hle, hone]
            omega

theorem filterMap_keep {β : Type} (f : Connection → β) (connections : List (Option Connection)) :
    ((connections.map (keep outcome)).filterMap (Option.map f)).Sublist
      (connections.filterMap (Option.map f)) := by
  induction connections with
  | nil => exact .slnil
  | cons it rest ih =>
      cases it with
      | none => exact ih
      | some it =>
          have hsome : Option.map f (some it) = some (f it) := rfl
          have hnone : Option.map f none = none := rfl
          rw [List.map_cons, List.filterMap_cons_some hsome]
          by_cases hwritten : Connection.write (outcome it.m_socket) = true
          · rw [keep_some, if_pos hwritten, List.filterMap_cons_some hsome]
            exact ih.cons_cons _
          · rw [keep_some, if_neg hwritten, List.filterMap_cons_none hnone]
            exact ih.cons _

end Send

/-! ## The invariant -/

/-- What holds of the table whatever the network does. -/
structure Sound (size : Nat) (this : Server) : Prop where
  length : this.m_connections.length = size
  count : this.m_activeConnections.toNat = this.m_connections.countP Option.isSome
  running : this.m_netInterface.acceptorOpen = this.m_running
  -- `stop` leaves nothing behind, and nothing is admitted after it.
  stopped : this.m_running = false → this.sockets = []
  closed : this.m_netInterface.socketOpen = false
  nodup : this.sockets.Nodup
  numbered : ∀ k ∈ this.sockets, k ≤ this.m_netInterface.accepted

namespace Sound

variable {size : Nat} {this : Server}

theorem started (size : Nat) : Sound size (started size) := by
  have hsockets : (Server.started size).sockets = [] :=
    filterMap_of_none (fun it => List.eq_of_mem_replicate) _
  refine ⟨List.length_replicate, ?_, rfl, fun _ => hsockets, rfl, ?_, ?_⟩
  · exact (countP_of_none fun it => List.eq_of_mem_replicate).symm
  · rw [hsockets]
    exact List.nodup_nil
  · rw [hsockets]
    simp

theorem free (h : Sound size this)
    (hroom : this.m_activeConnections.toNat < this.m_connections.length) :
    ∃ i, this.m_connections.findIdx? Option.isNone = some i :=
  findIdx?_of_countP (h.count ▸ hroom)

theorem dropped (h : Sound size this) (env : Attempt) :
    Sound size { this with m_netInterface := this.rearmed env } := by
  obtain ⟨hsocket, hopen, -, haccepted⟩ := this.rearmed_fields env
  exact ⟨h.length, h.count, hopen.trans h.running, h.stopped, hsocket, h.nodup,
    fun k hk => (h.numbered k hk).trans haccepted⟩

theorem accepted_of_admits {env : Attempt} {i : Nat} {connection : Connection}
    (hadmits : Admits this env i connection) :
    (this.rearmed env).accepted = this.m_netInterface.accepted + 1 := by
  simp [rearmed, NetworkInterface.handleAccept, NetworkInterface.onAccept, hadmits.error,
    hadmits.acceptorOpen]

theorem admitted (h : Sound size this) (hsize : size ≤ 255) {env : Attempt} {i : Nat}
    {connection : Connection} (hadmits : Admits this env i connection) :
    Sound size { this with
      m_netInterface := this.rearmed env
      m_connections := this.m_connections.set i (some connection)
      m_activeConnections := this.m_activeConnections + 1 } := by
  obtain ⟨hsocket, hopen, -, -⟩ := this.rearmed_fields env
  have hslot := findIdx?_isNone hadmits.slot
  have hperm := filterMap_set hslot connection (·.m_socket)
  have hnew : connection.m_socket ∉ this.sockets := fun hmem => by
    have hle := h.numbered _ hmem
    rw [hadmits.socket] at hle
    omega
  have hlength := h.length
  have hroom := hadmits.room
  refine ⟨?_, ?_, hopen.trans h.running, fun hstopped => ?_, hsocket, ?_, fun k hk => ?_⟩
  · rw [List.length_set]
    exact h.length
  · have hone : (1 : UInt8).toNat = 1 := rfl
    rw [countP_set hslot, UInt8.toNat_add, hone, Nat.mod_eq_of_lt (by omega), h.count]
  · -- A stopped server has no open acceptor.
    have hneed := hadmits.acceptorOpen
    rw [h.running, hstopped] at hneed
    cases hneed
  · exact (hperm.nodup_iff).mpr (List.nodup_cons.mpr ⟨hnew, h.nodup⟩)
  · rw [accepted_of_admits hadmits]
    rcases List.mem_cons.mp (hperm.subset hk) with rfl | hold
    · exact hadmits.socket.le
    · exact (h.numbered k hold).trans (Nat.le_succ _)

theorem attemptConnection (h : Sound size this) (hsize : size ≤ 255) {env : Attempt}
    {this' : Server} (hstep : this.attemptConnection env = some this') : Sound size this' := by
  have hcases := attempted env h.free
  rw [hstep] at hcases
  cases hcases with
  | admitted i connection hquiet hadmits => exact h.admitted hsize hadmits
  | dropped hquiet hno => exact h.dropped env

/-- A message goes to every connection, in the order of the slots, and each of them stays or goes by
the outcome of its own write. -/
theorem send_eq (h : Sound size this) {msg : Bytes} (hmsg : msg ≠ [])
    (outcome : Nat → WriteOutcome) :
    ∃ active, this.send msg outcome = (this.sockets.map (⟨·, msg⟩),
        { this with
          m_connections := this.m_connections.map (keep outcome)
          m_activeConnections := active }) ∧
      active.toNat = (this.m_connections.map (keep outcome)).countP Option.isSome := by
  obtain ⟨hslots, hwrites⟩ := sendAll_spec msg outcome this.m_connections this.m_activeConnections
  have hactive := sendAll_active msg outcome this.m_connections this.m_activeConnections 0
    (by rw [Nat.zero_add]; exact h.count)
  rw [Nat.zero_add] at hactive
  unfold send
  by_cases hnone : this.m_activeConnections = 0
  · -- The counter is zero, so there is no connection that the early return could miss.
    have hempty : ∀ it ∈ this.m_connections, it = none := by
      have hzero := h.count
      rw [hnone, eq_comm] at hzero
      intro it hit
      exact Option.not_isSome_iff_eq_none.mp (List.countP_eq_zero.mp hzero it hit)
    have hsockets : this.sockets = [] := filterMap_of_none hempty _
    have hmap : this.m_connections.map (keep outcome) = this.m_connections := by
      have hkeep : ∀ it ∈ this.m_connections, keep outcome it = id it := fun it hit => by
        rw [hempty it hit]
        rfl
      rw [List.map_congr_left hkeep, List.map_id]
    rw [if_pos (.inr hnone)]
    refine ⟨this.m_activeConnections, ?_, ?_⟩
    · rw [hsockets, hmap]
      rfl
    · rw [hmap]
      exact h.count
  · rw [if_neg (by simp [hmsg, hnone])]
    exact ⟨_, by simp only [hslots, hwrites, sockets], hactive⟩

theorem send_nil (this : Server) (outcome : Nat → WriteOutcome) :
    this.send [] outcome = ([], this) := by
  unfold Server.send
  rw [if_pos (.inl rfl)]

theorem send (h : Sound size this) (msg : Bytes) (outcome : Nat → WriteOutcome) :
    Sound size (this.send msg outcome).2 := by
  by_cases hmsg : msg = []
  · rw [hmsg, send_nil]
    exact h
  · obtain ⟨active, hsend, hactive⟩ := h.send_eq hmsg outcome
    have hsub := filterMap_keep outcome (·.m_socket) this.m_connections
    rw [hsend]
    refine ⟨?_, hactive, h.running, fun hstopped => ?_, h.closed, h.nodup.sublist hsub,
      fun k hk => h.numbered k (hsub.subset hk)⟩
    · rw [List.length_map]
      exact h.length
    · exact List.sublist_nil.mp (h.stopped hstopped ▸ hsub)

theorem stop_connections {this : Server} (hrunning : this.m_running = true) :
    ∀ it ∈ this.stop.m_connections, it = none := by
  unfold Server.stop
  rw [if_pos hrunning]
  intro it hit
  obtain ⟨-, -, rfl⟩ := List.mem_map.mp hit
  rfl

theorem sockets_stop (this : Server) (hrunning : this.m_running = true) :
    this.stop.sockets = [] := filterMap_of_none (stop_connections hrunning) _

theorem stop (h : Sound size this) : Sound size this.stop := by
  cases hrunning : this.m_running with
  | false =>
      unfold Server.stop
      rw [if_neg (by rw [hrunning]; decide)]
      exact h
  | true =>
      have hsockets := sockets_stop this hrunning
      have hcount := countP_of_none (stop_connections hrunning)
      unfold Server.stop at hsockets hcount ⊢
      rw [if_pos hrunning] at hsockets hcount ⊢
      refine ⟨?_, hcount.symm, rfl, fun _ => hsockets, rfl, ?_, ?_⟩
      · rw [List.length_map]
        exact h.length
      · rw [hsockets]
        exact List.nodup_nil
      · rw [hsockets]
        simp

theorem step (h : Sound size this) (hsize : size ≤ 255) {op : ServerOp} {writes : List Write}
    {this' : Server} (hstep : this.step op = some (writes, this')) : Sound size this' := by
  cases op with
  | attemptConnection env =>
      rw [Server.step, Option.map_eq_some_iff] at hstep
      obtain ⟨next, hnext, heq⟩ := hstep
      cases heq
      exact h.attemptConnection hsize hnext
  | send msg outcome =>
      have hsent := h.send msg outcome
      rw [Option.some.inj hstep] at hsent
      exact hsent
  | stop =>
      cases hstep
      exact h.stop

/-- Every state that a server reaches is sound, whatever the network does. -/
theorem run (hsize : size ≤ 255) (h : Sound size this) {ops : List ServerOp}
    {writes : List (List Write)} {this' : Server}
    (hrun : Cxx.run Server.step this ops = some (writes, this')) : Sound size this' :=
  run_history (fun _ s => Sound size s) (fun _ _ _ _ _ hs (_ : True) hstep => hs.step hsize hstep)
    [] h (fun _ _ => trivial) hrun

end Sound

/-! ## Distinct addresses -/

end Server

/-- Nothing but `SocketException` is thrown, and the connection has the address of the test. -/
structure Attempt.Tame (env : Attempt) : Prop where
  currentAddress : catchable env.currentAddress = true
  startAddress : catchable env.startAddress = true
  refusedAddress : catchable env.refusedAddress = true
  closeFails : env.closeFails = false
  same : ∀ address started, env.currentAddress = .ok address → env.startAddress = .ok started →
    address = started

def ServerOp.Tame : ServerOp → Prop
  | .attemptConnection env => env.Tame
  | .send .. => True
  | .stop => True

namespace Server

theorem quiet_of_tame (this : Server) {env : Attempt} (h : env.Tame) : this.Quiet env = true := by
  unfold Quiet
  rw [Bool.or_eq_true]
  right
  split
  · split
    next e hcurrent =>
      have hcaught := h.currentAddress
      rw [hcurrent] at hcaught
      rw [h.closeFails, show e.caught = true from hcaught]
      rfl
    next =>
      split
      · rw [h.refusedAddress, h.closeFails]
        rfl
      · exact h.startAddress
  · rw [h.refusedAddress, h.closeFails]
    rfl

theorem notMem_addresses {this : Server} {address : Bytes} (h : this.isConnected address = false) :
    address ∉ this.addresses := by
  intro hmem
  obtain ⟨it, hit, hmap⟩ := List.mem_filterMap.mp hmem
  obtain ⟨connection, rfl, haddress⟩ := Option.map_eq_some_iff.mp hmap
  have hany := List.any_eq_false.mp h _ hit
  apply hany
  rw [Option.any_some, haddress]
  exact beq_self_eq_true address

structure Distinct (size : Nat) (this : Server) : Prop where
  sound : Sound size this
  addresses : this.addresses.Nodup

/-- A socket is admitted under an address that is not in the table. -/
theorem Distinct.addresses_attempt {size : Nat} {this this' : Server} (h : Distinct size this)
    {env : Attempt} (htame : env.Tame) (hattempt : this.attemptConnection env = some this') :
    this'.addresses.Nodup := by
  have hcases := attempted env h.sound.free
  rw [hattempt] at hcases
  cases hcases with
  | dropped hquiet hno => exact h.addresses
  | admitted i connection hquiet hadmits =>
      obtain ⟨address, hcurrent, hunknown⟩ := hadmits.unknown
      have hsame := htame.same address connection.m_address hcurrent hadmits.address
      have hperm := filterMap_set (findIdx?_isNone hadmits.slot) connection (·.m_address)
      apply hperm.nodup_iff.mpr
      apply List.nodup_cons.mpr
      exact ⟨hsame ▸ notMem_addresses hunknown, h.addresses⟩

theorem Distinct.step {size : Nat} {this : Server} (h : Distinct size this) (hsize : size ≤ 255)
    (op : ServerOp) (htame : op.Tame) :
    ∃ writes this', this.step op = some (writes, this') ∧ Distinct size this' := by
  cases op with
  | attemptConnection env =>
      have hcases := attempted env h.sound.free
      have hquiet := this.quiet_of_tame htame
      cases hattempt : this.attemptConnection env with
      | none =>
          rw [hattempt] at hcases
          cases hcases with
          | terminated hloud =>
              rw [hquiet] at hloud
              cases hloud
      | some next =>
          refine ⟨[], next, ?_, h.sound.attemptConnection hsize hattempt,
            h.addresses_attempt htame hattempt⟩
          rw [Server.step, hattempt]
          rfl
  | send msg outcome =>
      refine ⟨(this.send msg outcome).1, (this.send msg outcome).2, rfl,
        h.sound.send msg outcome, ?_⟩
      by_cases hmsg : msg = []
      · rw [hmsg, Sound.send_nil]
        exact h.addresses
      · obtain ⟨active, hsend, -⟩ := h.sound.send_eq hmsg outcome
        rw [hsend]
        exact h.addresses.sublist (filterMap_keep outcome (·.m_address) this.m_connections)
  | stop =>
      refine ⟨[], this.stop, rfl, h.sound.stop, ?_⟩
      unfold Server.stop Server.addresses
      split
      · rw [List.filterMap_map]
        simp
      · exact h.addresses

theorem Distinct.started (size : Nat) : Distinct size (Server.started size) := by
  refine ⟨.started size, ?_⟩
  have haddresses : (Server.started size).addresses = [] :=
    filterMap_of_none (fun it => List.eq_of_mem_replicate) _
  rw [haddresses]
  exact List.nodup_nil

/-- The socket of an attempt is in the table afterwards, or the table is as it was; in either case
the interface holds no open socket when the next accept is armed. -/
theorem Sound.settled {size : Nat} {this this' : Server} (h : Sound size this) {env : Attempt}
    (hattempt : this.attemptConnection env = some this') :
    this'.m_netInterface.socketOpen = false ∧ this'.m_netInterface.armed = this.m_running ∧
      ((∃ i connection, Admits this env i connection ∧
          this'.m_connections = this.m_connections.set i (some connection) ∧
          this'.m_activeConnections = this.m_activeConnections + 1) ∨
        (∀ i connection, ¬ Admits this env i connection) ∧
          this'.m_connections = this.m_connections ∧
          this'.m_activeConnections = this.m_activeConnections) := by
  obtain ⟨hsocket, -, harmed, -⟩ := this.rearmed_fields env
  rw [h.running] at harmed
  have hcases := attempted env h.free
  rw [hattempt] at hcases
  cases hcases with
  | admitted i connection hquiet hadmits =>
      exact ⟨hsocket, harmed, .inl ⟨i, connection, hadmits, rfl, rfl⟩⟩
  | dropped hquiet hno => exact ⟨hsocket, harmed, .inr ⟨hno, rfl, rfl⟩⟩

/-- In every run of a server of any size in which the network throws nothing but `SocketException`:
the counter is the number of connections, their addresses are distinct, room in the counter is room
in the table, and an accepted socket ends up in a free slot or closed. -/
theorem table_invariant (size : Nat) (hsize : size ≤ 255) (ops : List ServerOp)
    (htame : ∀ op ∈ ops, op.Tame) :
    ∃ writes this, run step (started size) ops = some (writes, this) ∧
      this.m_connections.length = size ∧
      this.m_activeConnections.toNat = this.m_connections.countP Option.isSome ∧
      this.m_activeConnections.toNat ≤ size ∧
      this.addresses.Nodup ∧
      (this.m_activeConnections.toNat < size → ∃ i : Nat, this.m_connections[i]? = some none) ∧
      this.m_netInterface.socketOpen = false ∧
      ∀ env : Attempt, env.Tame → ∃ this', this.attemptConnection env = some this' ∧
        this'.m_netInterface.socketOpen = false ∧ this'.m_netInterface.armed = this.m_running ∧
        ((∃ i connection, Admits this env i connection ∧
            this'.m_connections = this.m_connections.set i (some connection) ∧
            this'.m_activeConnections = this.m_activeConnections + 1) ∨
          this'.m_connections = this.m_connections ∧
            this'.m_activeConnections = this.m_activeConnections) := by
  obtain ⟨writes, this, hrun, hinv⟩ := run_invariant_of (Distinct size)
    (fun s op h (hop : op.Tame) => h.step hsize op hop) (.started size) ops htame
  have hsound := hinv.sound
  have hcount := hsound.count
  have hlength := hsound.length
  refine ⟨writes, this, hrun, hlength, hcount, ?_, hinv.addresses, ?_, hsound.closed, ?_⟩
  · rw [hcount, ← hlength]
    exact List.countP_le_length
  · intro hroom
    obtain ⟨i, hslot⟩ := hsound.free (by omega)
    exact ⟨i, findIdx?_isNone hslot⟩
  · intro env henv
    obtain ⟨writes', this', hstep, -⟩ := hinv.step hsize (.attemptConnection env) henv
    rw [Server.step, Option.map_eq_some_iff] at hstep
    obtain ⟨next, hattempt, -⟩ := hstep
    obtain ⟨hsocket, harmed, hadmitted | ⟨-, hdropped⟩⟩ := hsound.settled hattempt
    · exact ⟨next, hattempt, hsocket, harmed, .inl hadmitted⟩
    · exact ⟨next, hattempt, hsocket, harmed, .inr hdropped⟩

/-- Two peers, one of which is refused when it comes twice and dropped when its write fails. -/
theorem table_invariant_two_peers :
    ∃ writes this, run step (started 2)
      [.attemptConnection
         ⟨false, .ok (str "10.0.0.1"), .ok (str "10.0.0.1"), .error .SocketException, false⟩,
        .attemptConnection
          ⟨false, .ok (str "10.0.0.2"), .ok (str "10.0.0.2"), .error .SocketException, false⟩,
        .attemptConnection
          ⟨false, .ok (str "10.0.0.1"), .ok (str "10.0.0.1"), .ok (str "10.0.0.1"), false⟩,
        .send (str "A") (fun k => if k = 1 then .SocketException else .returned true)] =
        some (writes, this) ∧
      this.m_activeConnections.toNat = this.m_connections.countP Option.isSome ∧
      (this.m_activeConnections.toNat < 2 → ∃ i : Nat, this.m_connections[i]? = some none) := by
  obtain ⟨writes, this, hrun, -, hcount, -, -, hfree, -⟩ := table_invariant 2 (by decide)
    [.attemptConnection
       ⟨false, .ok (str "10.0.0.1"), .ok (str "10.0.0.1"), .error .SocketException, false⟩,
      .attemptConnection
        ⟨false, .ok (str "10.0.0.2"), .ok (str "10.0.0.2"), .error .SocketException, false⟩,
      .attemptConnection
        ⟨false, .ok (str "10.0.0.1"), .ok (str "10.0.0.1"), .ok (str "10.0.0.1"), false⟩,
      .send (str "A") (fun k => if k = 1 then .SocketException else .returned true)]
    (by
      have hsame (address : Bytes) (refused : Except NetException Bytes)
          (h : catchable refused = true) :
          Attempt.Tame ⟨false, .ok address, .ok address, refused, false⟩ :=
        ⟨rfl, rfl, h, rfl, fun a b ha hb => by cases ha; cases hb; rfl⟩
      simp only [List.forall_mem_cons]
      exact ⟨hsame _ _ rfl, hsame _ _ rfl, hsame _ _ rfl, trivial, by simp⟩)
  exact ⟨writes, this, hrun, hcount, hfree⟩

/-! ## Failures of the handler -/

/-- What a failed attempt should leave behind: the table and the counter as they were, no open
socket, and an accept that waits for the next peer as long as the server runs. -/
def Survives (this : Server) (env : Attempt) : Prop :=
  ∃ this', this.attemptConnection env = some this' ∧
    ((∀ i connection, ¬ Admits this env i connection) →
      this'.m_connections = this.m_connections ∧
        this'.m_activeConnections = this.m_activeConnections) ∧
    this'.m_netInterface.socketOpen = false ∧ this'.m_netInterface.armed = this.m_running

/-- In every reachable state the handler survives an attempt exactly if no network call on its way
throws anything but `SocketException`. -/
theorem survives_iff (size : Nat) (hsize : size ≤ 255) (ops : List ServerOp)
    (writes : List (List Write)) (this : Server)
    (hrun : run step (started size) ops = some (writes, this)) (env : Attempt) :
    this.Survives env ↔ this.Quiet env = true := by
  have hsound := (Sound.started size).run hsize hrun
  have hcases := attempted env hsound.free
  constructor
  · rintro ⟨this', hattempt, -⟩
    rw [hattempt] at hcases
    cases hcases with
    | admitted i connection hquiet hadmits => exact hquiet
    | dropped hquiet hno => exact hquiet
  · intro hquiet
    cases hattempt : this.attemptConnection env with
    | none =>
        rw [hattempt] at hcases
        cases hcases with
        | terminated hloud =>
            rw [hquiet] at hloud
            cases hloud
    | some this' =>
        obtain ⟨hsocket, harmed, hsettled⟩ := hsound.settled hattempt
        refine ⟨this', hattempt, fun hno => ?_, hsocket, harmed⟩
        rcases hsettled with ⟨i, connection, hadmits, -⟩ | ⟨-, hsame⟩
        · exact absurd hadmits (hno i connection)
        · exact hsame

/-- A peer whose address throws the exception of the repository is dropped. -/
theorem survives_iff_SocketException :
    (started 2).Survives ⟨false, .error .SocketException, .ok [], .ok [], false⟩ :=
  (survives_iff 2 (by decide) [] [] (started 2) rfl _).mpr rfl

/-- The peer is gone before the admission test asks for its address. -/
theorem terminated_by_lost_peer :
    run step (started 2) [] = some ([], started 2) ∧
      (started 2).attemptConnection
        ⟨false, .error .system_error, .error .system_error, .error .system_error, false⟩ = none ∧
      ¬ (started 2).Survives
        ⟨false, .error .system_error, .error .system_error, .error .system_error, false⟩ := by
  have hnone : (started 2).attemptConnection
      ⟨false, .error .system_error, .error .system_error, .error .system_error, false⟩ = none := rfl
  refine ⟨rfl, hnone, ?_⟩
  rintro ⟨this', hattempt, -⟩
  rw [hnone] at hattempt
  cases hattempt

end Server

end VirtualFlightRadar
