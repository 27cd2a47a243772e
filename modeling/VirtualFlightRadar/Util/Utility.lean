import Mathlib.Data.List.DropRight
import VirtualFlightRadar.Cxx.Stream

/-!
# Lists in the configuration

The feeds are listed in one value, separated at commas, with blanks around each name.
-/

open Cxx

namespace VirtualFlightRadar

-- Of blanks alone nothing is removed: `find_first_not_of` and `find_last_not_of` are `npos` then.
def trimString (s : Bytes) : Bytes :=
  if ∀ b ∈ s, b = ch ' ' then s
  else (s.dropWhile (· == ch ' ')).rdropWhile (· == ch ' ')

def splitCommaSeparated (s : Bytes) : List Bytes := (getItems (ch ',') s).map trimString

/-! ## Lists as they are written -/

/-- A name that can stand in a list. -/
structure ListName (name : Bytes) : Prop where
  comma : ch ',' ∉ name
  head : ∃ b, name.head? = some b ∧ b ≠ ch ' '
  last : ∃ b, name.getLast? = some b ∧ b ≠ ch ' '

/-- A name with blanks before and after it. -/
structure ListItem where
  before : Nat
  name : Bytes
  after : Nat

def ListItem.text (this : ListItem) : Bytes :=
  List.replicate this.before (ch ' ') ++ this.name ++ List.replicate this.after (ch ' ')

def listText (items : List ListItem) : Bytes := [ch ','].intercalate (items.map (·.text))

theorem dropWhile_blanks (n : Nat) {s : Bytes} (h : ∃ b, s.head? = some b ∧ b ≠ ch ' ') :
    (List.replicate n (ch ' ') ++ s).dropWhile (· == ch ' ') = s := by
  have hblanks : ∀ b ∈ List.replicate n (ch ' '), (b == ch ' ') = true := by
    intro b hb
    rw [List.eq_of_mem_replicate hb]
    rfl
  rw [List.dropWhile_append_of_pos hblanks]
  obtain ⟨b, hb, hne⟩ := h
  cases s with
  | nil => cases hb
  | cons c s =>
      cases hb
      exact List.dropWhile_cons_of_neg (by rw [beq_iff_eq]; exact hne)

theorem trimString_text {item : ListItem} (h : ListName item.name) :
    trimString item.text = item.name := by
  obtain ⟨before, name, after⟩ := item
  obtain ⟨b, hb, hne⟩ := h.head
  have hmem : b ∈ name := List.mem_of_mem_head? hb
  have hsome : ¬ ∀ c ∈ ListItem.text ⟨before, name, after⟩, c = ch ' ' := fun hall =>
    hne (hall b (List.mem_append_left _ (List.mem_append_right _ hmem)))
  have hhead : ∃ c, (name ++ List.replicate after (ch ' ')).head? = some c ∧ c ≠ ch ' ' := by
    rw [List.head?_append, hb]
    exact ⟨b, rfl, hne⟩
  have hlast : ∃ c, name.reverse.head? = some c ∧ c ≠ ch ' ' := by
    rw [List.head?_reverse]
    exact h.last
  rw [trimString, if_neg hsome]
  unfold ListItem.text
  rw [List.append_assoc, dropWhile_blanks before hhead]
  -- From behind the blanks come first, too.
  rw [List.rdropWhile, List.reverse_append, List.reverse_replicate, dropWhile_blanks after hlast,
    List.reverse_reverse]

theorem comma_notMem_text {item : ListItem} (h : ListName item.name) : ch ',' ∉ item.text := by
  have hblanks (n : Nat) : ch ',' ∉ List.replicate n (ch ' ') := fun hmem =>
    absurd (List.eq_of_mem_replicate hmem) (by decide)
  rw [ListItem.text, List.mem_append, List.mem_append]
  rintro ((hmem | hmem) | hmem)
  · exact hblanks _ hmem
  · exact h.comma hmem
  · exact hblanks _ hmem

theorem text_ne_nil {item : ListItem} (h : ListName item.name) : item.text ≠ [] := by
  obtain ⟨b, hb, -⟩ := h.head
  have hmem : b ∈ item.text :=
    List.mem_append_left _ (List.mem_append_right _ (List.mem_of_mem_head? hb))
  exact List.ne_nil_of_mem hmem

/-- The names of a list are read as they are written. -/
theorem splitCommaSeparated_listText {items : List ListItem}
    (h : ∀ item ∈ items, ListName item.name) :
    splitCommaSeparated (listText items) = items.map (·.name) := by
  induction items with
  | nil => rfl
  | cons item items ih =>
      have hitem := h item List.mem_cons_self
      cases items with
      | nil =>
          rw [listText, List.map_singleton, List.intercalate_singleton, splitCommaSeparated,
            getItems_last (comma_notMem_text hitem) (text_ne_nil hitem), List.map_singleton,
            trimString_text hitem]
          rfl
      | cons next items =>
          have hrest := ih fun other hmem => h other (List.mem_cons_of_mem item hmem)
          have htext : listText (item :: next :: items) =
              item.text ++ ch ',' :: listText (next :: items) := by
            rw [listText, List.map_cons, List.intercalate_cons_of_ne_nil (by simp)]
            rw [List.append_assoc]
            rfl
          rw [htext, splitCommaSeparated, getItems_cons (comma_notMem_text hitem), List.map_cons,
            trimString_text hitem]
          exact congrArg (item.name :: ·) hrest

theorem splitCommaSeparated_two_names :
    splitCommaSeparated (listText [⟨1, str "sbs1", 2⟩, ⟨0, str "wind two", 0⟩]) =
      [str "sbs1", str "wind two"] := by
  refine splitCommaSeparated_listText fun item hmem => ?_
  simp only [List.mem_cons, List.not_mem_nil, or_false] at hmem
  rcases hmem with rfl | rfl
  · exact ⟨by decide, ⟨ch 's', rfl, by decide⟩, ⟨ch '1', by decide, by decide⟩⟩
  · exact ⟨by decide, ⟨ch 'w', rfl, by decide⟩, ⟨ch 'o', by decide, by decide⟩⟩

end VirtualFlightRadar
