import VirtualFlightRadar.Cxx.Regex

/-!
# What a match says about its captures

`Takes` is the meaning of an expression without the order of its choices: what it can take from a
text, and what it then has captured.  Whatever the backtracking match picks is among it, so a capture
is always a text that the expression of its group takes.
-/

namespace Cxx

namespace Regex

variable {α : Type}

/-- The expression can take the text in front of `rest` and turn the captures `c` into `c'`. -/
def Takes : Regex α → List α → Captures α → List α → Captures α → Prop
  | .empty, s, c, rest, c' => rest = s ∧ c' = c
  | .eos, s, c, rest, c' => s = [] ∧ rest = s ∧ c' = c
  | .chars p min max _, s, c, rest, c' =>
      c' = c ∧ ∃ a, s = a ++ rest ∧ (∀ b ∈ a, p b = true) ∧ min ≤ a.length ∧
        ∀ bound, max = some bound → a.length ≤ min + (bound - min)
  | .seq q r, s, c, rest, c' => ∃ t c₁, Takes q s c t c₁ ∧ Takes r t c₁ rest c'
  | .opt r, s, c, rest, c' => Takes r s c rest c' ∨ (rest = s ∧ c' = c)
  | .group n r, s, c, rest, c' =>
      ∃ a c₁, s = a ++ rest ∧ Takes r s c rest c₁ ∧ c' = Function.update c₁ n a

/-- The numbers of the groups of an expression. -/
def groups : Regex α → List Nat
  | .empty => []
  | .eos => []
  | .chars _ _ _ _ => []
  | .seq q r => q.groups ++ r.groups
  | .opt r => r.groups
  | .group n r => n :: r.groups

variable {p : α → Bool} {r : Regex α} {s rest : List α} {c c' : Captures α}

theorem Takes.suffix (h : Takes r s c rest c') : ∃ a, s = a ++ rest := by
  induction r generalizing s c rest c' with
  | empty => exact ⟨[], h.1.symm⟩
  | eos => exact ⟨[], h.2.1.symm⟩
  | chars p min max lazy =>
      obtain ⟨-, a, hs, -⟩ := h
      exact ⟨a, hs⟩
  | seq q r ihq ihr =>
      obtain ⟨t, c₁, hq, hr⟩ := h
      obtain ⟨a, rfl⟩ := ihq hq
      obtain ⟨b, rfl⟩ := ihr hr
      exact ⟨a ++ b, (List.append_assoc a b rest).symm⟩
  | opt r ih =>
      rcases h with h | ⟨rfl, -⟩
      · exact ih h
      · exact ⟨[], rfl⟩
  | group n r ih =>
      obtain ⟨a, -, hs, -⟩ := h
      exact ⟨a, hs⟩

/-- An expression leaves the captures of other groups as they are. -/
theorem Takes.frame {n : Nat} (h : Takes r s c rest c') (hn : n ∉ r.groups) : c' n = c n := by
  induction r generalizing s c rest c' with
  | empty => rw [h.2]
  | eos => rw [h.2.2]
  | chars p min max lazy => rw [h.1]
  | seq q r ihq ihr =>
      obtain ⟨t, c₁, hq, hr⟩ := h
      obtain ⟨hnq, hnr⟩ := not_or.mp (fun hmem => hn (List.mem_append.mpr hmem))
      rw [ihr hr hnr, ihq hq hnq]
  | opt r ih =>
      rcases h with h | ⟨-, rfl⟩
      · exact ih h hn
      · rfl
  | group m r ih =>
      obtain ⟨a, c₁, -, hr, rfl⟩ := h
      obtain ⟨hne, hnr⟩ := not_or.mp (fun hmem => hn (List.mem_cons.mpr hmem))
      rw [Function.update_of_ne hne, ih hr hnr]

/-! ## What is picked is taken -/

theorem exactly_some {k : List α → Option (Captures α)} {n : Nat} {x : Captures α}
    (h : exactly p k n s = some x) :
    ∃ a rest, s = a ++ rest ∧ a.length = n ∧ (∀ b ∈ a, p b = true) ∧ k rest = some x := by
  induction n generalizing s with
  | zero => exact ⟨[], s, rfl, rfl, by simp, h⟩
  | succ n ih =>
      cases s with
      | nil => cases h
      | cons b s =>
          rw [exactly] at h
          split at h
          next hb =>
            obtain ⟨a, rest, rfl, hlen, ha, hk⟩ := ih h
            refine ⟨b :: a, rest, rfl, by rw [List.length_cons, hlen], ?_, hk⟩
            exact List.forall_mem_cons.mpr ⟨hb, ha⟩
          next => cases h

theorem upTo_some {lazy : Bool} {k : List α → Option (Captures α)} {n : Nat} {x : Captures α}
    (h : upTo p lazy k n s = some x) :
    ∃ a rest, s = a ++ rest ∧ a.length ≤ n ∧ (∀ b ∈ a, p b = true) ∧ k rest = some x := by
  induction n generalizing s with
  | zero => exact ⟨[], s, rfl, le_refl 0, by simp, h⟩
  | succ n ih =>
      cases s with
      | nil => exact ⟨[], [], rfl, Nat.zero_le _, by simp, h⟩
      | cons b s =>
          -- In either order, the match stops here or takes one more character.
          have hcases : k (b :: s) = some x ∨ (p b = true ∧ upTo p lazy k n s = some x) := by
            rw [upTo] at h
            split at h
            · rcases Option.or_eq_some_iff.mp h with hstop | ⟨-, hmore⟩
              · exact .inl hstop
              · split at hmore
                next hb => exact .inr ⟨hb, hmore⟩
                next => cases hmore
            · rcases Option.or_eq_some_iff.mp h with hmore | ⟨-, hstop⟩
              · split at hmore
                next hb => exact .inr ⟨hb, hmore⟩
                next => cases hmore
              · exact .inl hstop
          rcases hcases with hstop | ⟨hb, hmore⟩
          · exact ⟨[], b :: s, rfl, Nat.zero_le _, by simp, hstop⟩
          · obtain ⟨a, rest, rfl, hlen, ha, hk⟩ := ih hmore
            refine ⟨b :: a, rest, rfl, Nat.succ_le_succ hlen, ?_, hk⟩
            exact List.forall_mem_cons.mpr ⟨hb, ha⟩

theorem matchAt_some {k : Cont α} {x : Captures α} (h : matchAt r s c k = some x) :
    ∃ rest c', Takes r s c rest c' ∧ k rest c' = some x := by
  induction r generalizing s c k with
  | empty => exact ⟨s, c, ⟨rfl, rfl⟩, h⟩
  | eos =>
      rw [matchAt] at h
      split at h
      next hs => exact ⟨s, c, ⟨List.isEmpty_iff.mp hs, rfl, rfl⟩, h⟩
      next => cases h
  | chars p min max lazy =>
      obtain ⟨a₁, t, rfl, hlen₁, ha₁, hrest⟩ := exactly_some h
      obtain ⟨a₂, rest, rfl, hlen₂, ha₂, hk⟩ := upTo_some hrest
      refine ⟨rest, c, ⟨rfl, a₁ ++ a₂, (List.append_assoc a₁ a₂ rest).symm, ?_, ?_, ?_⟩, hk⟩
      · exact List.forall_mem_append.mpr ⟨ha₁, ha₂⟩
      · rw [List.length_append, hlen₁]
        exact Nat.le_add_right min _
      · rintro bound rfl
        rw [List.length_append, hlen₁]
        exact Nat.add_le_add_left hlen₂ min
  | seq q r ihq ihr =>
      obtain ⟨t, c₁, hq, hrest⟩ := ihq h
      obtain ⟨rest, c', hr, hk⟩ := ihr hrest
      exact ⟨rest, c', ⟨t, c₁, hq, hr⟩, hk⟩
  | opt r ih =>
      rw [matchAt] at h
      rcases Option.or_eq_some_iff.mp h with hsome | ⟨-, hnone⟩
      · obtain ⟨rest, c', hr, hk⟩ := ih hsome
        exact ⟨rest, c', .inl hr, hk⟩
      · exact ⟨s, c, .inr ⟨rfl, rfl⟩, hnone⟩
  | group n r ih =>
      obtain ⟨rest, c₁, hr, hk⟩ := ih h
      obtain ⟨a, rfl⟩ := hr.suffix
      rw [List.length_append, Nat.add_sub_cancel, List.take_left] at hk
      exact ⟨rest, _, ⟨a, c₁, rfl, hr, rfl⟩, hk⟩

theorem matchAll_takes (h : matchAll r s = some c') : Takes r s (fun _ => []) [] c' := by
  obtain ⟨rest, c₁, hr, hk⟩ := matchAt_some h
  split at hk
  next hrest =>
    cases hk
    rwa [List.isEmpty_iff.mp hrest] at hr
  next => cases hk

/-- What an expression cannot take in any way makes every match fail. -/
theorem fails_of_not_takes (h : ∀ rest c', ¬ Takes r s c rest c') : Fails r s c := by
  intro k
  cases hmatch : matchAt r s c k with
  | none => rfl
  | some x =>
      obtain ⟨rest, c', htakes, -⟩ := matchAt_some hmatch
      exact absurd htakes (h rest c')

/-- What a group takes is its capture, where no later group has its number. -/
theorem Takes.group_seq {q : Regex α} {n : Nat} (h : Takes (.seq (.group n r) q) s c rest c')
    (hn : n ∉ q.groups) :
    ∃ t c₁, s = c' n ++ t ∧ Takes r s c t c₁ ∧
      Takes q t (Function.update c₁ n (c' n)) rest c' := by
  obtain ⟨t, c₁, ⟨a, c₂, hs, hr, rfl⟩, hq⟩ := h
  have ha : c' n = a := by rw [hq.frame hn, Function.update_self]
  rw [ha]
  exact ⟨t, c₂, hs, hr, hq⟩

/-- What a group of a fixed number of characters captures. -/
theorem Takes.run_of_group {q : Regex α} {n m : Nat}
    (h : Takes (.seq (.group n (times p m)) q) s c rest c') (hn : n ∉ q.groups) :
    Run p m (c' n) := by
  obtain ⟨t, c₁, hs, ⟨-, a, hs', hall, hmin, hmax⟩, -⟩ := h.group_seq hn
  have ha : c' n = a := List.append_cancel_right (hs.symm.trans hs')
  have hlen := hmax m rfl
  rw [ha]
  exact ⟨by omega, hall⟩

/-! ## Pieces of an expression -/

theorem takes_concat_append {rs rs' : List (Regex α)} :
    Takes (concat (rs ++ rs')) s c rest c' ↔
      ∃ t c₁, Takes (concat rs) s c t c₁ ∧ Takes (concat rs') t c₁ rest c' := by
  induction rs generalizing s c with
  | nil =>
      constructor
      · intro h
        exact ⟨s, c, ⟨rfl, rfl⟩, h⟩
      · rintro ⟨t, c₁, ⟨rfl, rfl⟩, h⟩
        exact h
  | cons r rs ih =>
      constructor
      · rintro ⟨t, c₁, hr, h⟩
        obtain ⟨t', c₂, hrs, hrs'⟩ := ih.mp h
        exact ⟨t', c₂, ⟨t, c₁, hr, hrs⟩, hrs'⟩
      · rintro ⟨t', c₂, ⟨t, c₁, hr, hrs⟩, hrs'⟩
        exact ⟨t, c₁, hr, ih.mpr ⟨t', c₂, hrs, hrs'⟩⟩

/-- A class of the expression has the character. -/
def accepts (b : α) : Regex α → Bool
  | .empty => false
  | .eos => false
  | .chars p _ _ _ => p b
  | .seq q r => q.accepts b || r.accepts b
  | .opt r => r.accepts b
  | .group _ r => r.accepts b

theorem accepts_concat (rs : List (Regex α)) (b : α) :
    (concat rs).accepts b = rs.any (accepts b) := by
  induction rs with
  | nil => rfl
  | cons r rs ih => rw [List.any_cons, ← ih]; rfl

/-- An expression takes no character that is in none of its classes. -/
theorem Takes.accepts {a : List α} (h : Takes r (a ++ rest) c rest c') :
    ∀ b ∈ a, r.accepts b = true := by
  induction r generalizing a c rest c' with
  | empty =>
      rw [List.self_eq_append_left.mp h.1]
      simp
  | eos =>
      rw [List.self_eq_append_left.mp h.2.1]
      simp
  | chars p min max lazy =>
      obtain ⟨-, a', heq, hall, -⟩ := h
      rw [List.append_cancel_right heq]
      exact hall
  | seq q r ihq ihr =>
      obtain ⟨t, c₁, hq, hr⟩ := h
      obtain ⟨a₂, rfl⟩ := hr.suffix
      obtain ⟨a₁, hs⟩ := hq.suffix
      have ha : a = a₁ ++ a₂ := List.append_cancel_right (by rw [hs, List.append_assoc])
      rw [hs] at hq
      subst ha
      intro b hb
      rw [Regex.accepts, Bool.or_eq_true]
      rcases List.mem_append.mp hb with hb₁ | hb₂
      · exact .inl (ihq hq b hb₁)
      · exact .inr (ihr hr b hb₂)
  | opt r ih =>
      rcases h with h | ⟨heq, -⟩
      · exact ih h
      · rw [List.self_eq_append_left.mp heq]
        simp
  | group n r ih =>
      obtain ⟨a', c₁, -, hr, -⟩ := h
      exact ih hr

/-- What stands inside the groups of a number. -/
def bodies (n : Nat) : Regex α → List (Regex α)
  | .empty => []
  | .eos => []
  | .chars _ _ _ _ => []
  | .seq q r => q.bodies n ++ r.bodies n
  | .opt r => r.bodies n
  | .group m r => if m = n then r :: r.bodies n else r.bodies n

/-- A capture that an expression sets is taken by a group of the number. -/
theorem Takes.capture {n : Nat} (h : Takes r s c rest c') :
    c' n = c n ∨ ∃ q ∈ r.bodies n, ∃ t c₁ c₂, Takes q (c' n ++ t) c₁ t c₂ := by
  induction r generalizing s c rest c' with
  | empty =>
      left
      rw [h.2]
  | eos =>
      left
      rw [h.2.2]
  | chars p min max lazy =>
      left
      rw [h.1]
  | seq q r ihq ihr =>
      obtain ⟨t, c₁, hq, hr⟩ := h
      rcases ihr hr with hsame | ⟨body, hmem, hbody⟩
      · rw [hsame]
        rcases ihq hq with hsame | ⟨body, hmem, hbody⟩
        · exact .inl hsame
        · exact .inr ⟨body, List.mem_append_left _ hmem, hbody⟩
      · exact .inr ⟨body, List.mem_append_right _ hmem, hbody⟩
  | opt r ih =>
      rcases h with h | ⟨-, rfl⟩
      · exact ih h
      · exact .inl rfl
  | group m r ih =>
      obtain ⟨a, c₁, rfl, hr, rfl⟩ := h
      by_cases hm : m = n
      · subst hm
        rw [Function.update_self, bodies, if_pos rfl]
        exact .inr ⟨r, List.mem_cons_self, rest, c, c₁, hr⟩
      · rw [Function.update_of_ne (Ne.symm hm), bodies, if_neg hm]
        exact ih hr

theorem capture_of_matchAll {n : Nat} (h : matchAll r s = some c') :
    c' n = [] ∨ ∃ q ∈ r.bodies n, ∃ t c₁ c₂, Takes q (c' n ++ t) c₁ t c₂ :=
  (matchAll_takes h).capture

/-- The capture of a fixed number of characters, where its group took part in the match. -/
theorem run_of_capture {n m : Nat} (hbodies : r.bodies n = [times p m])
    (h : matchAll r s = some c') : c' n = [] ∨ Run p m (c' n) := by
  rcases capture_of_matchAll (n := n) h with hnil | ⟨q, hq, t, c₁, c₂, htakes⟩
  · exact .inl hnil
  · rw [hbodies, List.mem_singleton] at hq
    subst hq
    obtain ⟨-, a, hs, hall, hmin, hmax⟩ := htakes
    have ha : c' n = a := List.append_cancel_right hs
    have hlen := hmax m rfl
    rw [ha]
    exact .inr ⟨by omega, hall⟩

/-- A capture has characters of its group only. -/
theorem accepts_of_matchAll {n : Nat} (h : matchAll r s = some c') :
    ∀ b ∈ c' n, ∃ q ∈ r.bodies n, q.accepts b = true := by
  intro b hb
  rcases capture_of_matchAll (n := n) h with hnil | ⟨q, hq, t, c₁, c₂, htakes⟩
  · rw [hnil] at hb
    cases hb
  · exact ⟨q, hq, htakes.accepts b hb⟩

theorem not_matchAll_of_mem {b : α} (hb : b ∈ s) (h : r.accepts b = false) :
    matchAll r s = none := by
  cases hmatch : matchAll r s with
  | none => rfl
  | some c =>
      have htakes := matchAll_takes hmatch
      rw [← List.append_nil s] at htakes
      have haccepts := htakes.accepts b hb
      rw [h] at haccepts
      cases haccepts

theorem takes_word {text s rest : Bytes} {c c' : Captures UInt8} :
    Takes (word text) s c rest c' ↔
      c' = c ∧ ∃ a, s = a ++ rest ∧ a.map toLower = text.map toLower := by
  induction text generalizing s with
  | nil =>
      constructor
      · rintro ⟨rfl, rfl⟩
        exact ⟨rfl, [], rfl, rfl⟩
      · rintro ⟨rfl, a, rfl, ha⟩
        rw [List.map_eq_nil_iff.mp ha]
        exact ⟨rfl, rfl⟩
  | cons x text ih =>
      constructor
      · rintro ⟨t, c₁, ⟨rfl, a, rfl, hall, hmin, hmax⟩, htext⟩
        obtain ⟨rfl, a', rfl, ha'⟩ := ih.mp htext
        have hlen := hmax 1 rfl
        obtain ⟨b, rfl⟩ := List.length_eq_one_iff.mp (by omega : a.length = 1)
        have hb := hall b List.mem_cons_self
        rw [eqNoCase, beq_iff_eq] at hb
        exact ⟨rfl, b :: a', rfl, by rw [List.map_cons, List.map_cons, ha', hb]⟩
      · rintro ⟨rfl, a, rfl, ha⟩
        cases a with
        | nil => cases ha
        | cons b a =>
            rw [List.map_cons, List.map_cons, List.cons.injEq] at ha
            refine ⟨a ++ rest, c', ⟨rfl, [b], rfl, ?_, by simp, ?_⟩, ih.mpr ⟨rfl, a, rfl, ha.2⟩⟩
            · simpa [eqNoCase] using ha.1.symm
            · rintro bound hbound
              cases hbound
              simp

end Regex

end Cxx
