import VirtualFlightRadar.Client.Client
import VirtualFlightRadar.Cxx.UnorderedSet

/-!
# Feeds and their clients

The manager makes a client for every feed and puts it into a set; where the set has an equal one
already, that one serves the feed as well.  Only an APRS client compares the class of the other one,
so the other classes share their clients with one another.
-/

open Cxx

namespace VirtualFlightRadar

structure Endpoint where
  host : Bytes
  port : Bytes
  deriving DecidableEq

inductive Protocol where
  | APRS
  | SBS
  | GPS
  | SENSOR
  deriving DecidableEq, Repr

structure Feed where
  protocol : Protocol
  endpoint : Endpoint
  -- Given for APRS feeds only
  login : Bytes := []
  deriving DecidableEq

/-- `boost::hash_value` of a string, and `boost::hash_combine` -/
structure BoostHash where
  hash_value : Bytes → UInt64
  hash_combine : UInt64 → UInt64 → UInt64

/-- A client in the manager; a feed is its position in the order of subscriptions. -/
structure ManagedClient extends Client where
  m_endpoint : Endpoint
  -- Of an `AprscClient`
  m_login : Bytes := []
  m_feeds : List Nat := []

namespace ManagedClient

-- `Client::equals`
def equalsBase (this other : ManagedClient) : Bool :=
  this.m_endpoint.host == other.m_endpoint.host && this.m_endpoint.port == other.m_endpoint.port

def equals (this other : ManagedClient) : Bool :=
  match this.type with
  | .AprscClient =>
      match other.type with
      | .AprscClient => this.equalsBase other && this.m_login == other.m_login
      -- The cast throws.
      | _ => false
  | _ => this.equalsBase other

-- `Client::hash`
def hashBase (boost : BoostHash) (this : ManagedClient) : UInt64 :=
  boost.hash_combine (boost.hash_combine 0 (boost.hash_value this.m_endpoint.host))
    (boost.hash_value this.m_endpoint.port)

def hash (boost : BoostHash) (this : ManagedClient) : UInt64 :=
  match this.type with
  | .AprscClient => boost.hash_combine (this.hashBase boost) (boost.hash_value this.m_login)
  | _ => this.hashBase boost

def subscribe (feed : Nat) (this : ManagedClient) : ManagedClient :=
  { this with m_feeds := this.m_feeds ++ [feed] }

end ManagedClient

namespace ClientFactory

def createClientFor (feed : Feed) : ManagedClient :=
  match feed.protocol with
  | .APRS =>
      { type := .AprscClient, m_endpoint := feed.endpoint, m_login := feed.login ++ str "\r\n" }
  | .SBS => { type := .SbsClient, m_endpoint := feed.endpoint }
  | .GPS => { type := .GpsdClient, m_endpoint := feed.endpoint }
  | .SENSOR => { type := .SensorClient, m_endpoint := feed.endpoint }

end ClientFactory

namespace ClientManager

open ClientFactory

/-- The set of clients, by what its hasher and its comparator call. -/
abbrev ClientSet (boost : BoostHash) :=
  UnorderedSet (ManagedClient.hash boost) ManagedClient.equals

variable {boost : BoostHash}

-- The iterator of `insert` is never the end of the set, so nothing is thrown.
def subscribe (set : ClientSet boost) (m_clients : List ManagedClient) (n : Nat) (feed : Feed) :
    List ManagedClient :=
  let (it, m_clients) := set.insert m_clients (createClientFor feed)
  m_clients.modify it (ManagedClient.subscribe n)

/-- The clients after a list of feeds, the first of which is number `n`. -/
def subscribeFrom (set : ClientSet boost) : List ManagedClient → Nat → List Feed → List ManagedClient
  | m_clients, _, [] => m_clients
  | m_clients, n, feed :: feeds => subscribeFrom set (subscribe set m_clients n feed) (n + 1) feeds

def subscribeAll (set : ClientSet boost) (feeds : List Feed) : List ManagedClient :=
  subscribeFrom set [] 0 feeds

/-! ## Grouping -/

/-- The feeds agree on what a connection is made from. -/
def Agree (feed other : Feed) : Prop :=
  feed.protocol = other.protocol ∧ feed.endpoint = other.endpoint ∧
    (feed.protocol = .APRS → feed.login = other.login)

def classOf : Protocol → ClientClass
  | .APRS => .AprscClient
  | .SBS => .SbsClient
  | .GPS => .GpsdClient
  | .SENSOR => .SensorClient

/-- The client is of the class for the feed and connects to where the feed comes from. -/
structure Serves (client : ManagedClient) (feed : Feed) : Prop where
  type : client.type = classOf feed.protocol
  endpoint : client.m_endpoint = feed.endpoint
  login : feed.protocol = .APRS → client.m_login = feed.login ++ str "\r\n"

structure Grouped (feeds : List Feed) (m_clients : List ManagedClient) : Prop where
  served : ∀ (n : Nat) (feed : Feed), feeds[n]? = some feed →
    ∃ (k : Nat) (client : ManagedClient), m_clients[k]? = some client ∧ n ∈ client.m_feeds ∧
    Serves client feed ∧
    ∀ (l : Nat) (other : ManagedClient), m_clients[l]? = some other → n ∈ other.m_feeds → l = k
  shared_iff : ∀ (n m : Nat) (feed other : Feed), feeds[n]? = some feed → feeds[m]? = some other →
    ((∃ client ∈ m_clients, n ∈ client.m_feeds ∧ m ∈ client.m_feeds) ↔ Agree feed other)

/-- The feeds from one endpoint have one protocol, APRS feeds apart. -/
def OneProtocol (feeds : List Feed) : Prop :=
  ∀ (n m : Nat) (feed other : Feed), n < m → feeds[n]? = some feed → feeds[m]? = some other →
    feed.endpoint = other.endpoint → feed.protocol ≠ .APRS → other.protocol ≠ .APRS →
      feed.protocol = other.protocol

/-- No feed comes after an APRS feed from its endpoint whose client has the same hash value. -/
def HashesDiffer (boost : BoostHash) (feeds : List Feed) : Prop :=
  ∀ (n m : Nat) (feed other : Feed), n < m → feeds[n]? = some feed → feeds[m]? = some other →
    feed.endpoint = other.endpoint → feed.protocol = .APRS → other.protocol ≠ .APRS →
      (createClientFor feed).hash boost ≠ (createClientFor other).hash boost

structure Separate (boost : BoostHash) (feeds : List Feed) : Prop where
  protocols : OneProtocol feeds
  hashes : HashesDiffer boost feeds

/-! ## What tells clients apart -/

def key (client : ManagedClient) : ClientClass × Endpoint × Bytes :=
  (client.type, client.m_endpoint, client.m_login)

theorem key_eq_iff_agree (feed other : Feed) :
    key (createClientFor feed) = key (createClientFor other) ↔ Agree feed other := by
  obtain ⟨protocol, endpoint, login⟩ := feed
  obtain ⟨protocol', endpoint', login'⟩ := other
  cases protocol <;> cases protocol' <;> simp [key, createClientFor, Agree]

theorem serves_of_key {client : ManagedClient} {feed : Feed}
    (h : key client = key (createClientFor feed)) : Serves client feed := by
  obtain ⟨protocol, endpoint, login⟩ := feed
  rw [key, key, Prod.mk.injEq, Prod.mk.injEq] at h
  cases protocol with
  | APRS => exact ⟨h.1, h.2.1, fun _ => h.2.2⟩
  | SBS => exact ⟨h.1, h.2.1, fun hno => by cases hno⟩
  | GPS => exact ⟨h.1, h.2.1, fun hno => by cases hno⟩
  | SENSOR => exact ⟨h.1, h.2.1, fun hno => by cases hno⟩

theorem hash_of_key {client other : ManagedClient} (h : key client = key other) :
    client.hash boost = other.hash boost := by
  rw [key, key, Prod.mk.injEq, Prod.mk.injEq] at h
  obtain ⟨htype, hendpoint, hlogin⟩ := h
  unfold ManagedClient.hash ManagedClient.hashBase
  rw [htype, hendpoint, hlogin]

theorem equalsBase_iff (client other : ManagedClient) :
    client.equalsBase other = true ↔ client.m_endpoint = other.m_endpoint := by
  obtain ⟨_, ⟨host, port⟩, _, _⟩ := client
  obtain ⟨_, ⟨host', port'⟩, _, _⟩ := other
  simp [ManagedClient.equalsBase]

theorem equals_aprsc {client other : ManagedClient} (h : client.type = .AprscClient) :
    client.equals other = true ↔ other.type = .AprscClient ∧
      client.m_endpoint = other.m_endpoint ∧ client.m_login = other.m_login := by
  unfold ManagedClient.equals
  rw [h]
  cases hother : other.type <;> simp [equalsBase_iff]

theorem equals_other {client other : ManagedClient} (h : client.type ≠ .AprscClient) :
    client.equals other = true ↔ client.m_endpoint = other.m_endpoint := by
  rw [← equalsBase_iff]
  unfold ManagedClient.equals
  cases htype : client.type with
  | AprscClient => exact absurd htype h
  | SbsClient => rfl
  | GpsdClient => rfl
  | SensorClient => rfl

theorem equals_of_key {client other : ManagedClient} (h : key client = key other) :
    client.equals other = true := by
  rw [key, key, Prod.mk.injEq, Prod.mk.injEq] at h
  obtain ⟨htype, hendpoint, hlogin⟩ := h
  by_cases haprsc : client.type = .AprscClient
  · exact (equals_aprsc haprsc).mpr ⟨htype.symm.trans haprsc, hendpoint, hlogin⟩
  · exact (equals_other haprsc).mpr hendpoint

theorem hash_other {client other : ManagedClient} (h : client.type ≠ .AprscClient)
    (hother : other.type ≠ .AprscClient) (hendpoint : client.m_endpoint = other.m_endpoint) :
    client.hash boost = other.hash boost := by
  have hbase : ∀ {client : ManagedClient}, client.type ≠ .AprscClient →
      client.hash boost = client.hashBase boost := by
    intro client h
    unfold ManagedClient.hash
    cases htype : client.type with
    | AprscClient => exact absurd htype h
    | SbsClient => rfl
    | GpsdClient => rfl
    | SensorClient => rfl
  rw [hbase h, hbase hother, ManagedClient.hashBase, ManagedClient.hashBase, hendpoint]

theorem type_createClientFor (feed : Feed) : (createClientFor feed).type = classOf feed.protocol := by
  unfold createClientFor
  cases feed.protocol <;> rfl

theorem endpoint_createClientFor (feed : Feed) :
    (createClientFor feed).m_endpoint = feed.endpoint := by
  unfold createClientFor
  cases feed.protocol <;> rfl

theorem feeds_createClientFor (feed : Feed) : (createClientFor feed).m_feeds = [] := by
  unfold createClientFor
  cases feed.protocol <;> rfl

theorem classOf_injective {protocol other : Protocol} (h : classOf protocol = classOf other) :
    protocol = other := by
  cases protocol <;> cases other <;> first | rfl | cases h

theorem class_ne_aprsc {protocol : Protocol} (h : protocol ≠ .APRS) :
    classOf protocol ≠ .AprscClient := by
  cases protocol with
  | APRS => exact absurd rfl h
  | SBS => exact nofun
  | GPS => exact nofun
  | SENSOR => exact nofun

/-! ## One subscription -/

theorem getElem?_subscribed {m_clients : List ManagedClient} {it n k : Nat} {client : ManagedClient} :
    (m_clients.modify it (ManagedClient.subscribe n))[k]? = some client ↔
      ∃ old, m_clients[k]? = some old ∧ client = if it = k then old.subscribe n else old := by
  rw [List.getElem?_modify]
  cases m_clients[k]? with
  | none => simp
  | some old =>
      simp only [Option.map_eq_map, Option.map_some, Option.some.injEq, exists_eq_left']
      exact eq_comm

theorem keys_subscribed (m_clients : List ManagedClient) (it n : Nat) :
    (m_clients.modify it (ManagedClient.subscribe n)).map key = m_clients.map key := by
  apply List.ext_getElem?
  intro k
  rw [List.getElem?_map, List.getElem?_map, List.getElem?_modify]
  cases m_clients[k]? with
  | none => rfl
  | some old =>
      simp only [Option.map_eq_map, Option.map_some, Option.some.injEq]
      split <;> rfl

/-- A feed is added to the client that is found or to a new one, and to no other. -/
theorem subscribe_cases (set : ClientSet boost) (m_clients : List ManagedClient) (n : Nat)
    (feed : Feed) :
    (∃ it old, subscribe set m_clients n feed = m_clients.modify it (ManagedClient.subscribe n) ∧
      m_clients[it]? = some old ∧
      (createClientFor feed).hash boost = old.hash boost ∧
      (createClientFor feed).equals old = true) ∨
    (subscribe set m_clients n feed =
      (m_clients ++ [createClientFor feed]).modify m_clients.length (ManagedClient.subscribe n) ∧
      ∀ old ∈ m_clients, (createClientFor feed).hash boost = old.hash boost →
        (createClientFor feed).equals old = false) := by
  unfold subscribe
  rcases set.insert_cases m_clients (createClientFor feed) with
    ⟨it, old, -, hinsert, hold, hhash, hequals⟩ | ⟨hinsert, hmissing⟩
  · rw [hinsert]
    exact .inl ⟨it, old, rfl, hold, hhash, hequals⟩
  · rw [hinsert]
    exact .inr ⟨rfl, hmissing⟩

/-- A client stays where it is, with its class, endpoint and login, and keeps its feeds. -/
theorem subscribe_keeps (set : ClientSet boost) {m_clients : List ManagedClient} {k : Nat}
    {client : ManagedClient} (h : m_clients[k]? = some client) (n : Nat) (feed : Feed) :
    ∃ client', (subscribe set m_clients n feed)[k]? = some client' ∧ key client' = key client ∧
      client.m_feeds ⊆ client'.m_feeds := by
  have hmodify : ∀ {clients : List ManagedClient} (it : Nat), clients[k]? = some client →
      ∃ client', (clients.modify it (ManagedClient.subscribe n))[k]? = some client' ∧
        key client' = key client ∧ client.m_feeds ⊆ client'.m_feeds := by
    intro clients it hk
    refine ⟨_, getElem?_subscribed.mpr ⟨client, hk, rfl⟩, ?_⟩
    split
    · exact ⟨rfl, List.subset_append_left _ _⟩
    · exact ⟨rfl, List.Subset.refl _⟩
  rcases subscribe_cases set m_clients n feed with ⟨it, old, heq, -⟩ | ⟨heq, -⟩
  · rw [heq]
    exact hmodify it h
  · rw [heq]
    apply hmodify
    rw [List.getElem?_append_left (List.getElem?_eq_some_iff.mp h).1]
    exact h

/-- The new feed is somewhere. -/
theorem subscribe_places (set : ClientSet boost) (m_clients : List ManagedClient) (n : Nat)
    (feed : Feed) : ∃ client ∈ subscribe set m_clients n feed, n ∈ client.m_feeds := by
  have hself : ∀ client : ManagedClient, n ∈ (client.subscribe n).m_feeds := fun client =>
    List.mem_append_right _ List.mem_cons_self
  rcases subscribe_cases set m_clients n feed with ⟨it, old, heq, hold, -⟩ | ⟨heq, -⟩
  · refine ⟨old.subscribe n, ?_, hself old⟩
    rw [heq]
    exact List.mem_of_getElem? (getElem?_subscribed.mpr ⟨old, hold, (if_pos rfl).symm⟩)
  · refine ⟨(createClientFor feed).subscribe n, ?_, hself _⟩
    rw [heq]
    apply List.mem_of_getElem? (i := m_clients.length)
    exact getElem?_subscribed.mpr ⟨_, List.getElem?_concat_length, (if_pos rfl).symm⟩

theorem subscribeFrom_append (set : ClientSet boost) (m_clients : List ManagedClient) (n : Nat)
    (feeds later : List Feed) : subscribeFrom set m_clients n (feeds ++ later) =
      subscribeFrom set (subscribeFrom set m_clients n feeds) (n + feeds.length) later := by
  induction feeds generalizing m_clients n with
  | nil => rfl
  | cons feed feeds ih =>
      rw [List.cons_append, subscribeFrom, subscribeFrom, ih, List.length_cons]
      congr 1
      omega

theorem subscribeAll_concat (set : ClientSet boost) (feeds : List Feed) (feed : Feed) :
    subscribeAll set (feeds ++ [feed]) =
      subscribe set (subscribeAll set feeds) feeds.length feed := by
  rw [subscribeAll, subscribeFrom_append, Nat.zero_add]
  rfl

theorem subscribeFrom_keeps (set : ClientSet boost) (feeds : List Feed)
    {m_clients : List ManagedClient} {k : Nat} {client : ManagedClient}
    (h : m_clients[k]? = some client) (n : Nat) :
    ∃ client', (subscribeFrom set m_clients n feeds)[k]? = some client' ∧
      key client' = key client ∧ client.m_feeds ⊆ client'.m_feeds := by
  induction feeds generalizing m_clients client n with
  | nil => exact ⟨client, h, rfl, List.Subset.refl _⟩
  | cons feed feeds ih =>
      obtain ⟨middle, hmiddle, hkey, hfeeds⟩ := subscribe_keeps set h n feed
      obtain ⟨client', hclient', hkey', hfeeds'⟩ := ih hmiddle (n + 1)
      exact ⟨client', hclient', hkey'.trans hkey, List.Subset.trans hfeeds hfeeds'⟩

theorem subscribeAll_places (set : ClientSet boost) (feeds : List Feed) {n : Nat}
    (h : n < feeds.length) : ∃ client ∈ subscribeAll set feeds, n ∈ client.m_feeds := by
  induction feeds using List.reverseRecOn with
  | nil => exact absurd h (Nat.not_lt_zero n)
  | append_singleton feeds feed ih =>
      rw [subscribeAll_concat]
      rw [List.length_append, List.length_singleton] at h
      by_cases hlast : n = feeds.length
      · subst hlast
        exact subscribe_places set _ _ feed
      · obtain ⟨client, hclient, hn⟩ := ih (by omega)
        obtain ⟨k, hk⟩ := List.getElem?_of_mem hclient
        obtain ⟨client', hclient', -, hfeeds⟩ := subscribe_keeps set hk feeds.length feed
        exact ⟨client', List.mem_of_getElem? hclient', hfeeds hn⟩

/-! ## Feeds that are kept apart -/

/-- The clients have distinct keys, and every feed is with the client that has its key. -/
structure Inv (feeds : List Feed) (m_clients : List ManagedClient) : Prop where
  keys : (m_clients.map key).Nodup
  nonempty : ∀ client ∈ m_clients, client.m_feeds ≠ []
  owned : ∀ client ∈ m_clients, ∀ n ∈ client.m_feeds,
    ∃ feed, feeds[n]? = some feed ∧ key client = key (createClientFor feed)

/-- The client that is found for a feed has its key. -/
theorem key_of_found {feeds : List Feed} {m_clients : List ManagedClient} {feed : Feed}
    (hinv : Inv feeds m_clients) (hseparate : Separate boost (feeds ++ [feed]))
    {old : ManagedClient} (hold : old ∈ m_clients)
    (hhash : (createClientFor feed).hash boost = old.hash boost)
    (hequals : (createClientFor feed).equals old = true) : key old = key (createClientFor feed) := by
  obtain ⟨n, hn⟩ := List.exists_mem_of_ne_nil _ (hinv.nonempty old hold)
  obtain ⟨first, hfirst, hkey⟩ := hinv.owned old hold n hn
  have hlt : n < feeds.length := (List.getElem?_eq_some_iff.mp hfirst).1
  have hserves := serves_of_key hkey
  by_cases haprs : feed.protocol = .APRS
  · have htype : (createClientFor feed).type = .AprscClient := by
      rw [type_createClientFor, haprs]
      rfl
    obtain ⟨hother, hendpoint, hlogin⟩ := (equals_aprsc htype).mp hequals
    rw [key, key, hother, htype, hendpoint, hlogin]
  · have htype : (createClientFor feed).type ≠ .AprscClient := by
      rw [type_createClientFor]
      exact class_ne_aprsc haprs
    have hendpoint : first.endpoint = feed.endpoint := by
      rw [← hserves.endpoint, ← (equals_other htype).mp hequals, endpoint_createClientFor]
    have hn : (feeds ++ [feed])[n]? = some first := by
      rw [List.getElem?_append_left hlt, hfirst]
    have hlast : (feeds ++ [feed])[feeds.length]? = some feed := List.getElem?_concat_length
    have hprotocol : first.protocol = feed.protocol := by
      by_cases hfirstAprs : first.protocol = .APRS
      · have hcollide := hseparate.hashes n _ first feed hlt hn hlast hendpoint hfirstAprs haprs
        exact absurd ((hash_of_key hkey).symm.trans hhash.symm) hcollide
      · exact hseparate.protocols n _ first feed hlt hn hlast hendpoint hfirstAprs haprs
    rw [hkey, key_eq_iff_agree]
    exact ⟨hprotocol, hendpoint, fun h => absurd (hprotocol.symm.trans h) haprs⟩

/-- A feed joins a client that has its key. -/
theorem subscribed_inv {feeds : List Feed} {m_clients : List ManagedClient} {feed : Feed} {it : Nat}
    {old : ManagedClient} (hkeys : (m_clients.map key).Nodup) (hit : m_clients[it]? = some old)
    (hkey : key old = key (createClientFor feed))
    (hnonempty : ∀ (k : Nat) (client : ManagedClient), m_clients[k]? = some client → k ≠ it →
      client.m_feeds ≠ [])
    (howned : ∀ client ∈ m_clients, ∀ n ∈ client.m_feeds,
      ∃ other, feeds[n]? = some other ∧ key client = key (createClientFor other)) :
    Inv (feeds ++ [feed]) (m_clients.modify it (ManagedClient.subscribe feeds.length)) := by
  have hbefore : ∀ client ∈ m_clients, ∀ n ∈ client.m_feeds, ∃ other,
      (feeds ++ [feed])[n]? = some other ∧ key client = key (createClientFor other) := by
    intro client hclient n hn
    obtain ⟨other, hother, hkeyOther⟩ := howned client hclient n hn
    have hlt : n < feeds.length := (List.getElem?_eq_some_iff.mp hother).1
    exact ⟨other, by rw [List.getElem?_append_left hlt, hother], hkeyOther⟩
  refine ⟨?_, ?_, ?_⟩
  · rw [keys_subscribed]
    exact hkeys
  · intro client hclient
    obtain ⟨k, hk⟩ := List.getElem?_of_mem hclient
    obtain ⟨before, hget, rfl⟩ := getElem?_subscribed.mp hk
    by_cases hsame : it = k
    · rw [if_pos hsame]
      exact List.append_ne_nil_of_right_ne_nil _ (List.cons_ne_nil _ _)
    · rw [if_neg hsame]
      exact hnonempty k before hget (Ne.symm hsame)
  · intro client hclient n hn
    obtain ⟨k, hk⟩ := List.getElem?_of_mem hclient
    obtain ⟨before, hget, rfl⟩ := getElem?_subscribed.mp hk
    by_cases hsame : it = k
    · rw [if_pos hsame] at hn ⊢
      subst hsame
      obtain rfl : before = old := Option.some.inj (hget.symm.trans hit)
      rcases List.mem_append.mp hn with hold | hnew
      · exact hbefore before (List.mem_of_getElem? hget) n hold
      · obtain rfl : n = feeds.length := List.mem_singleton.mp hnew
        exact ⟨feed, List.getElem?_concat_length, hkey⟩
    · rw [if_neg hsame] at hn ⊢
      exact hbefore before (List.mem_of_getElem? hget) n hn

theorem subscribe_inv (set : ClientSet boost) {feeds : List Feed} {m_clients : List ManagedClient}
    {feed : Feed} (hinv : Inv feeds m_clients) (hseparate : Separate boost (feeds ++ [feed])) :
    Inv (feeds ++ [feed]) (subscribe set m_clients feeds.length feed) := by
  rcases subscribe_cases set m_clients feeds.length feed with
    ⟨it, old, heq, hold, hhash, hequals⟩ | ⟨heq, hmissing⟩
  · rw [heq]
    have hkey := key_of_found hinv hseparate (List.mem_of_getElem? hold) hhash hequals
    apply subscribed_inv hinv.keys hold hkey _ hinv.owned
    intro k client hclient _
    exact hinv.nonempty client (List.mem_of_getElem? hclient)
  · rw [heq]
    apply subscribed_inv _ List.getElem?_concat_length rfl
    · intro k client hclient hne
      have hlt := (List.getElem?_eq_some_iff.mp hclient).1
      rw [List.length_append, List.length_singleton] at hlt
      rw [List.getElem?_append_left (by omega)] at hclient
      exact hinv.nonempty client (List.mem_of_getElem? hclient)
    · intro client hclient n hn
      rcases List.mem_append.mp hclient with hbefore | hnew
      · exact hinv.owned client hbefore n hn
      · -- A new client has no feeds yet.
        rw [List.mem_singleton.mp hnew, feeds_createClientFor] at hn
        cases hn
    · rw [List.map_append, List.map_singleton, List.nodup_append_comm, List.singleton_append,
        List.nodup_cons]
      refine ⟨?_, hinv.keys⟩
      intro hmem
      obtain ⟨old, hold, hkey⟩ := List.mem_map.mp hmem
      have hfalse := hmissing old hold (hash_of_key hkey.symm)
      rw [equals_of_key hkey.symm] at hfalse
      cases hfalse

theorem separate_of_concat {feeds : List Feed} {feed : Feed}
    (h : Separate boost (feeds ++ [feed])) : Separate boost feeds := by
  have hbefore : ∀ {k : Nat} {other : Feed}, feeds[k]? = some other →
      (feeds ++ [feed])[k]? = some other := by
    intro k other hk
    rw [List.getElem?_append_left (List.getElem?_eq_some_iff.mp hk).1, hk]
  constructor
  · intro n m earlier later hlt hn hm
    exact h.protocols n m earlier later hlt (hbefore hn) (hbefore hm)
  · intro n m earlier later hlt hn hm
    exact h.hashes n m earlier later hlt (hbefore hn) (hbefore hm)

theorem subscribeAll_inv (set : ClientSet boost) {feeds : List Feed}
    (hseparate : Separate boost feeds) : Inv feeds (subscribeAll set feeds) := by
  induction feeds using List.reverseRecOn with
  | nil => exact ⟨List.nodup_nil, fun _ h => absurd h List.not_mem_nil,
      fun _ h => absurd h List.not_mem_nil⟩
  | append_singleton feeds feed ih =>
      rw [subscribeAll_concat]
      exact subscribe_inv set (ih (separate_of_concat hseparate)) hseparate

/-- Clients that both have a feed's key are one. -/
theorem position_of_key {feeds : List Feed} {m_clients : List ManagedClient}
    (hinv : Inv feeds m_clients) {k l : Nat} {client other : ManagedClient}
    (hk : m_clients[k]? = some client) (hl : m_clients[l]? = some other)
    (hkey : key client = key other) : k = l := by
  have hlt : k < (m_clients.map key).length := by
    rw [List.length_map]
    exact (List.getElem?_eq_some_iff.mp hk).1
  apply (List.getElem?_inj hlt hinv.keys).mp
  rw [List.getElem?_map, List.getElem?_map, hk, hl, Option.map_some, Option.map_some, hkey]

theorem grouped_of_separate (set : ClientSet boost) {feeds : List Feed}
    (hseparate : Separate boost feeds) : Grouped feeds (subscribeAll set feeds) := by
  have hinv := subscribeAll_inv set hseparate
  have hplaced : ∀ {n : Nat} {feed : Feed}, feeds[n]? = some feed →
      ∃ (k : Nat) (client : ManagedClient), (subscribeAll set feeds)[k]? = some client ∧
        n ∈ client.m_feeds := by
    intro n feed hn
    obtain ⟨client, hclient, hmem⟩ :=
      subscribeAll_places set feeds (List.getElem?_eq_some_iff.mp hn).1
    obtain ⟨k, hk⟩ := List.getElem?_of_mem hclient
    exact ⟨k, client, hk, hmem⟩
  have hkey : ∀ {n : Nat} {feed : Feed}, feeds[n]? = some feed →
      ∀ client ∈ subscribeAll set feeds, n ∈ client.m_feeds →
        key client = key (createClientFor feed) := by
    intro n feed hn client hclient hmem
    obtain ⟨other, hother, hkey⟩ := hinv.owned client hclient n hmem
    rw [hn] at hother
    rw [hkey, Option.some.inj hother]
  constructor
  · intro n feed hn
    obtain ⟨k, client, hk, hmem⟩ := hplaced hn
    have hclient := hkey hn client (List.mem_of_getElem? hk) hmem
    refine ⟨k, client, hk, hmem, serves_of_key hclient, ?_⟩
    intro l other hl hother
    have hsame := hkey hn other (List.mem_of_getElem? hl) hother
    exact position_of_key hinv hl hk (hsame.trans hclient.symm)
  · intro n m feed other hn hm
    rw [← key_eq_iff_agree]
    constructor
    · rintro ⟨client, hclient, hfeed, hother⟩
      exact (hkey hn client hclient hfeed).symm.trans (hkey hm client hclient hother)
    · intro hagree
      obtain ⟨k, client, hk, hmem⟩ := hplaced hn
      obtain ⟨l, client', hl, hmem'⟩ := hplaced hm
      have hclient := hkey hn client (List.mem_of_getElem? hk) hmem
      have hclient' := hkey hm client' (List.mem_of_getElem? hl) hmem'
      obtain rfl := position_of_key hinv hk hl (hclient.trans (hagree.trans hclient'.symm))
      obtain rfl := Option.some.inj (hk.symm.trans hl)
      exact ⟨client, List.mem_of_getElem? hk, hmem, hmem'⟩

/-! ## Feeds that are not -/

theorem hash_of_serves {client : ManagedClient} {feed : Feed} (h : Serves client feed) :
    client.hash boost = (createClientFor feed).hash boost := by
  by_cases haprs : feed.protocol = .APRS
  · apply hash_of_key
    rw [key, h.type, h.endpoint, h.login haprs, key, type_createClientFor, endpoint_createClientFor,
      createClientFor, haprs]
  · apply hash_other
    · rw [h.type]
      exact class_ne_aprsc haprs
    · rw [type_createClientFor]
      exact class_ne_aprsc haprs
    · rw [h.endpoint, endpoint_createClientFor]

/-- A client serves the feeds that it has already. -/
theorem serves_before {set : ClientSet boost} {feeds : List Feed}
    (hgrouped : Grouped feeds (subscribeAll set feeds)) {m_clients : List ManagedClient} {i : Nat}
    {rest : List Feed} (hrun : subscribeAll set feeds = subscribeFrom set m_clients i rest)
    {k n : Nat} {client : ManagedClient} {feed : Feed} (hk : m_clients[k]? = some client)
    (hmem : n ∈ client.m_feeds) (hn : feeds[n]? = some feed) : Serves client feed := by
  obtain ⟨last, hlast, hkey, hfeeds⟩ := subscribeFrom_keeps set rest hk i
  rw [← hrun] at hlast
  obtain ⟨l, client', hl, -, hserves, hunique⟩ := hgrouped.served n feed hn
  obtain rfl : k = l := hunique k last hlast (hfeeds hmem)
  obtain rfl : last = client' := Option.some.inj (hlast.symm.trans hl)
  rw [key, key, Prod.mk.injEq, Prod.mk.injEq] at hkey
  obtain ⟨htype, hendpoint, hlogin⟩ := hkey
  exact ⟨htype ▸ hserves.type, hendpoint ▸ hserves.endpoint, fun h => hlogin ▸ hserves.login h⟩

section Later

variable {set : ClientSet boost} {feeds : List Feed} {n m : Nat} {feed other : Feed}

theorem subscribeAll_split (set : ClientSet boost) (hm : feeds[m]? = some other) :
    subscribeAll set feeds =
      subscribeFrom set (subscribeAll set (feeds.take m)) m (other :: feeds.drop (m + 1)) := by
  obtain ⟨hlength, hget⟩ := List.getElem?_eq_some_iff.mp hm
  have hsplit : feeds = feeds.take m ++ other :: feeds.drop (m + 1) := by
    rw [← hget, List.cons_getElem_drop_succ, List.take_append_drop]
  conv_lhs => rw [hsplit]
  rw [subscribeAll, subscribeFrom_append, List.length_take, Nat.zero_add, Nat.min_eq_left hlength.le]
  rfl

/-- The earlier feed has its client when the later one comes. -/
theorem earlier_served (hgrouped : Grouped feeds (subscribeAll set feeds)) (hlt : n < m)
    (hn : feeds[n]? = some feed) (hm : feeds[m]? = some other) :
    ∃ client ∈ subscribeAll set (feeds.take m), Serves client feed := by
  have hlength := (List.getElem?_eq_some_iff.mp hm).1
  have htake : n < (feeds.take m).length := by
    rw [List.length_take]
    omega
  obtain ⟨client, hclient, hmem⟩ := subscribeAll_places set (feeds.take m) htake
  obtain ⟨k, hk⟩ := List.getElem?_of_mem hclient
  exact ⟨client, hclient, serves_before hgrouped (subscribeAll_split set hm) hk hmem hn⟩

/-- The client that is found for the later feed is of its class. -/
theorem type_of_found (hgrouped : Grouped feeds (subscribeAll set feeds))
    (hm : feeds[m]? = some other) {it : Nat} {found : ManagedClient}
    (hfound : (subscribeAll set (feeds.take m))[it]? = some found)
    (hsubscribe : subscribe set (subscribeAll set (feeds.take m)) m other =
      (subscribeAll set (feeds.take m)).modify it (ManagedClient.subscribe m)) :
    found.type = classOf other.protocol := by
  have hrun := subscribeAll_split set hm
  rw [subscribeFrom, hsubscribe] at hrun
  have hjoined : ((subscribeAll set (feeds.take m)).modify it (ManagedClient.subscribe m))[it]? =
      some (found.subscribe m) := getElem?_subscribed.mpr ⟨found, hfound, (if_pos rfl).symm⟩
  have hmem : m ∈ (found.subscribe m).m_feeds := List.mem_append_right _ List.mem_cons_self
  exact (serves_before hgrouped hrun hjoined hmem hm).type

end Later

/-- The clients of one endpoint are of one class, APRS clients apart. -/
def OneClient (m_clients : List ManagedClient) : Prop :=
  ∀ client ∈ m_clients, ∀ other ∈ m_clients, client.type ≠ .AprscClient →
    other.type ≠ .AprscClient → client.m_endpoint = other.m_endpoint → client.type = other.type

theorem oneClient_of_keys {m_clients clients : List ManagedClient}
    (hkeys : m_clients.map key = clients.map key) (h : OneClient clients) : OneClient m_clients := by
  have hkey : ∀ client ∈ m_clients, ∃ old ∈ clients,
      old.type = client.type ∧ old.m_endpoint = client.m_endpoint := by
    intro client hclient
    have hmem := List.mem_map_of_mem (f := key) hclient
    rw [hkeys] at hmem
    obtain ⟨old, hold, heq⟩ := List.mem_map.mp hmem
    rw [key, key, Prod.mk.injEq, Prod.mk.injEq] at heq
    exact ⟨old, hold, heq.1, heq.2.1⟩
  intro client hclient other hother
  obtain ⟨first, hfirst, htype, hendpoint⟩ := hkey client hclient
  obtain ⟨second, hsecond, htype', hendpoint'⟩ := hkey other hother
  rw [← htype, ← htype', ← hendpoint, ← hendpoint']
  exact h first hfirst second hsecond

theorem subscribe_oneClient (set : ClientSet boost) {m_clients : List ManagedClient}
    (h : OneClient m_clients) (n : Nat) (feed : Feed) :
    OneClient (subscribe set m_clients n feed) := by
  rcases subscribe_cases set m_clients n feed with ⟨it, old, heq, -⟩ | ⟨heq, hmissing⟩
  · rw [heq]
    exact oneClient_of_keys (keys_subscribed _ _ _) h
  · rw [heq]
    apply oneClient_of_keys (keys_subscribed _ _ _)
    -- A stored client with the endpoint would have been found.
    have hnew : ∀ old ∈ m_clients, (createClientFor feed).type ≠ .AprscClient →
        old.type ≠ .AprscClient → (createClientFor feed).m_endpoint ≠ old.m_endpoint := by
      intro old hold htype htype' hendpoint
      have hfalse := hmissing old hold (hash_other htype htype' hendpoint)
      rw [(equals_other htype).mpr hendpoint] at hfalse
      cases hfalse
    intro client hclient other hother htype htype' hendpoint
    rw [List.mem_append, List.mem_singleton] at hclient hother
    rcases hclient with hclient | rfl
    · rcases hother with hother | rfl
      · exact h client hclient other hother htype htype' hendpoint
      · exact absurd hendpoint.symm (hnew client hclient htype' htype)
    · rcases hother with hother | rfl
      · exact absurd hendpoint (hnew other hother htype htype')
      · rfl

theorem subscribeAll_oneClient (set : ClientSet boost) (feeds : List Feed) :
    OneClient (subscribeAll set feeds) := by
  induction feeds using List.reverseRecOn with
  | nil => exact fun _ h => absurd h List.not_mem_nil
  | append_singleton feeds feed ih =>
      rw [subscribeAll_concat]
      exact subscribe_oneClient set ih feeds.length feed

/-- Whichever client the set finds, it does not group feeds of two protocols from one endpoint. -/
theorem oneProtocol_of_grouped (set : ClientSet boost) {feeds : List Feed}
    (hgrouped : Grouped feeds (subscribeAll set feeds)) : OneProtocol feeds := by
  intro n m feed other hlt hn hm hendpoint hfeed hother
  obtain ⟨client, hclient, hserves⟩ := earlier_served hgrouped hlt hn hm
  have htype : (createClientFor other).type ≠ .AprscClient := by
    rw [type_createClientFor]
    exact class_ne_aprsc hother
  have hclass : client.type ≠ .AprscClient := by
    rw [hserves.type]
    exact class_ne_aprsc hfeed
  have hsame : (createClientFor other).m_endpoint = client.m_endpoint := by
    rw [endpoint_createClientFor, hserves.endpoint, hendpoint]
  rcases subscribe_cases set (subscribeAll set (feeds.take m)) m other with
    ⟨it, found, heq, hfound, -, hequals⟩ | ⟨-, hmissing⟩
  · have hfoundType := type_of_found hgrouped hm hfound heq
    have hfoundEndpoint := (equals_other htype).mp hequals
    apply classOf_injective
    rw [← hserves.type, ← hfoundType]
    apply subscribeAll_oneClient set (feeds.take m) client hclient found
      (List.mem_of_getElem? hfound) hclass
    · rw [hfoundType]
      exact class_ne_aprsc hother
    · rw [← hsame, hfoundEndpoint]
  · have hfalse := hmissing client hclient (hash_other htype hclass hsame)
    rw [(equals_other htype).mpr hsame] at hfalse
    cases hfalse

/-- The set that prefers APRS clients finds one for the later feed. -/
theorem hashesDiffer_of_grouped {feeds : List Feed}
    (hgrouped : ∀ set : ClientSet boost, Grouped feeds (subscribeAll set feeds)) :
    HashesDiffer boost feeds := by
  intro n m feed other hlt hn hm hendpoint hfeed hother hhash
  let aprsc := fun client : ManagedClient => client.type == .AprscClient
  obtain ⟨client, hclient, hserves⟩ := earlier_served (hgrouped (.preferring aprsc)) hlt hn hm
  have htype : (createClientFor other).type ≠ .AprscClient := by
    rw [type_createClientFor]
    exact class_ne_aprsc hother
  have hequals : (createClientFor other).equals client = true := by
    rw [equals_other htype, endpoint_createClientFor, hserves.endpoint, hendpoint]
  have haprsc : aprsc client = true := by
    rw [beq_iff_eq, hserves.type, hfeed]
    rfl
  obtain ⟨it, found, hinsert, hfound, hwrong⟩ := UnorderedSet.preferring_insert hclient haprsc
    (hhash.symm.trans (hash_of_serves hserves).symm) hequals
  have hclass := type_of_found (hgrouped (.preferring aprsc)) hm hfound (by rw [subscribe, hinsert])
  exact class_ne_aprsc hother (hclass.symm.trans (beq_iff_eq.mp hwrong))

/-- Feeds are grouped by protocol and endpoint, whichever equal client the set finds, just if those
from one endpoint have one protocol, and no client has the hash value of an earlier APRS client. -/
theorem grouped_iff_separate (boost : BoostHash) (feeds : List Feed) :
    (∀ set : ClientSet boost, Grouped feeds (subscribeAll set feeds)) ↔ Separate boost feeds := by
  constructor
  · intro h
    exact ⟨oneProtocol_of_grouped (.preferring fun _ => false) (h _), hashesDiffer_of_grouped h⟩
  · intro h set
    exact grouped_of_separate set h

/-- The hash functions of Boost 1.56 to 1.80 on 64 bit -/
def boostHash : BoostHash :=
  let combine (seed v : UInt64) : UInt64 :=
    let k := v * 0xc6a4a7935bd1e995
    let k := (k ^^^ (k >>> 47)) * 0xc6a4a7935bd1e995
    (seed ^^^ k) * 0xc6a4a7935bd1e995 + 0xe6546b64
  { hash_value := fun s => s.foldl (fun seed c => combine seed c.toInt8.toInt64.toUInt64) 0
    hash_combine := combine }

def localhost : Endpoint := ⟨str "localhost", str "30003"⟩

/-- The GPS feed is with the client of the SBS feed. -/
theorem not_grouped_one_endpoint :
    ¬ Grouped [⟨.SBS, localhost, []⟩, ⟨.GPS, localhost, []⟩]
      (subscribeAll (.preferring fun _ => false : ClientSet boostHash)
        [⟨.SBS, localhost, []⟩, ⟨.GPS, localhost, []⟩]) := by
  intro h
  have hclients : (subscribeAll (.preferring fun _ => false : ClientSet boostHash)
      [⟨.SBS, localhost, []⟩, ⟨.GPS, localhost, []⟩]).map (fun client =>
        (client.type, client.m_feeds)) = [(.SbsClient, [0, 1])] := by decide
  obtain ⟨k, client, hk, -, hserves, -⟩ := h.served 1 ⟨.GPS, localhost, []⟩ rfl
  have hmem := List.mem_map_of_mem (f := fun client : ManagedClient => (client.type, client.m_feeds))
    (List.mem_of_getElem? hk)
  rw [hclients, List.mem_singleton, Prod.mk.injEq, hserves.type] at hmem
  cases hmem.1

end ClientManager

end VirtualFlightRadar
