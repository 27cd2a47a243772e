import VirtualFlightRadar.Client.ClientManager

/-!
# Every feed is subscribed once

Whichever client the set finds for a feed, the feed is added to that one and to no other.  So the
clients have the feeds divided up among them, also where they are not grouped as they should be.
-/

open Cxx

namespace VirtualFlightRadar

namespace ClientManager

open ClientFactory

variable {boost : BoostHash} {set : ClientSet boost}

theorem feeds_modify (n : Nat) {m_clients : List ManagedClient} {it : Nat}
    (h : it < m_clients.length) :
    ((m_clients.modify it (ManagedClient.subscribe n)).flatMap (·.m_feeds)).Perm
      (n :: m_clients.flatMap (·.m_feeds)) := by
  induction m_clients generalizing it with
  | nil => exact absurd h (Nat.not_lt_zero it)
  | cons client m_clients ih =>
      cases it with
      | zero =>
          rw [List.modify_zero_cons, List.flatMap_cons, List.flatMap_cons]
          show ((client.m_feeds ++ [n]) ++ m_clients.flatMap (·.m_feeds)).Perm _
          rw [List.append_assoc]
          exact List.perm_middle
      | succ it =>
          rw [List.modify_succ_cons, List.flatMap_cons, List.flatMap_cons]
          exact ((ih (Nat.lt_of_succ_lt_succ h)).append_left client.m_feeds).trans List.perm_middle

theorem subscribe_feeds (set : ClientSet boost) (m_clients : List ManagedClient) (n : Nat)
    (feed : Feed) : ((subscribe set m_clients n feed).flatMap (·.m_feeds)).Perm
      (n :: m_clients.flatMap (·.m_feeds)) := by
  rcases subscribe_cases set m_clients n feed with ⟨it, old, heq, hold, -⟩ | ⟨heq, -⟩
  · rw [heq]
    exact feeds_modify n (List.getElem?_eq_some_iff.mp hold).1
  · have hlast : m_clients.length < (m_clients ++ [createClientFor feed]).length := by
      rw [List.length_append]
      exact Nat.lt_succ_self _
    have hperm := feeds_modify n hlast
    rw [List.flatMap_append, List.flatMap_singleton, feeds_createClientFor, List.append_nil] at hperm
    rw [heq]
    exact hperm

/-- The clients divide the feeds up. -/
theorem subscribeAll_feeds (set : ClientSet boost) (feeds : List Feed) :
    ((subscribeAll set feeds).flatMap (·.m_feeds)).Perm (List.range feeds.length) := by
  induction feeds using List.reverseRecOn with
  | nil => exact .refl _
  | append_singleton feeds feed ih =>
      rw [subscribeAll_concat, List.length_append, List.length_singleton, List.range_succ]
      exact (subscribe_feeds set _ _ feed).trans
        ((ih.cons feeds.length).trans (List.perm_append_singleton _ _).symm)

section

variable {feeds : List Feed} {k l n : Nat} {client other : ManagedClient}

theorem feed_lt (hclient : client ∈ subscribeAll set feeds) (hn : n ∈ client.m_feeds) :
    n < feeds.length := by
  have hmem : n ∈ (subscribeAll set feeds).flatMap (·.m_feeds) :=
    List.mem_flatMap.mpr ⟨client, hclient, hn⟩
  exact List.mem_range.mp ((subscribeAll_feeds set feeds).subset hmem)

theorem feeds_nodup (hclient : client ∈ subscribeAll set feeds) : client.m_feeds.Nodup := by
  have hnodup := (subscribeAll_feeds set feeds).nodup_iff.mpr List.nodup_range
  exact (List.nodup_flatMap.mp hnodup).1 client hclient

/-- A feed is with one client only. -/
theorem client_unique (hk : (subscribeAll set feeds)[k]? = some client)
    (hl : (subscribeAll set feeds)[l]? = some other) (hn : n ∈ client.m_feeds)
    (hn' : n ∈ other.m_feeds) : k = l := by
  have hnodup := (subscribeAll_feeds set feeds).nodup_iff.mpr List.nodup_range
  have hapart := (List.nodup_flatMap.mp hnodup).2
  obtain ⟨hkl, rfl⟩ := List.getElem?_eq_some_iff.mp hk
  obtain ⟨hll, rfl⟩ := List.getElem?_eq_some_iff.mp hl
  rw [List.pairwise_iff_getElem] at hapart
  by_contra hne
  cases Nat.lt_or_gt_of_ne hne with
  | inl hlt => exact hapart k l hkl hll hlt hn hn'
  | inr hgt => exact hapart l k hll hkl hgt hn' hn

theorem client_exists (set : ClientSet boost) (h : n < feeds.length) :
    ∃ (k : Nat) (client : ManagedClient), (subscribeAll set feeds)[k]? = some client ∧
      n ∈ client.m_feeds := by
  obtain ⟨client, hclient, hn⟩ := subscribeAll_places set feeds h
  obtain ⟨k, hk⟩ := List.getElem?_of_mem hclient
  exact ⟨k, client, hk, hn⟩

end

end ClientManager

end VirtualFlightRadar
