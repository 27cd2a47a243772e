import Mathlib.Data.List.Infix
import Mathlib.Data.List.TakeWhile
import Mathlib.Tactic

/-!
# Lines and a delimiter of two characters

A stream is read up to a delimiter `c d`, as CRLF, but cut into lines after every `d`.  `complete`
is the part of a stream up to its last delimiter and `remainder` the part behind it; both are
determined by what they are, which gives their laws for concatenations.
-/

namespace Cxx

variable {α : Type*} [DecidableEq α]

/-! ## Lines -/

/-- Cut a list after every `d`. -/
def lines (d : α) : List α → List (List α)
  | [] => []
  | a :: s =>
      if a = d then [a] :: lines d s
      else
        match lines d s with
        | [] => [[a]]
        | line :: rest => (a :: line) :: rest

/-- `std::getline`: the characters before the first `d`, and those behind it. -/
def getline (d : α) (s : List α) : List α × List α :=
  (s.takeWhile (· ≠ d), (s.dropWhile (· ≠ d)).tail)

theorem flatten_lines (d : α) (s : List α) : (lines d s).flatten = s := by
  induction s with
  | nil => rfl
  | cons a s ih =>
      rw [lines]
      split
      · rw [List.flatten_cons, ih]
        rfl
      · cases hrest : lines d s with
        | nil =>
            rw [hrest] at ih
            rw [← ih]
            rfl
        | cons line rest =>
            rw [hrest] at ih
            rw [← ih]
            rfl

theorem getline_append {d : α} {s : List α} (h : d ∈ s) :
    (getline d s).1 ++ d :: (getline d s).2 = s := by
  induction s with
  | nil => cases h
  | cons a s ih =>
      by_cases ha : a = d
      · simp [getline, ha]
      · -- The `d` is behind the head, so the first line of the tail is continued.
        have hs : d ∈ s := (List.mem_cons.mp h).resolve_left (fun he => ha he.symm)
        have hrec := ih hs
        simp only [getline, List.takeWhile_cons, List.dropWhile_cons, ne_eq, ha, not_false_eq_true,
          decide_true, if_true] at hrec ⊢
        rw [List.cons_append, hrec]

theorem notMem_getline (d : α) (s : List α) : d ∉ (getline d s).1 := by
  intro hmem
  have hne := List.mem_takeWhile_imp hmem
  simp at hne

theorem lines_line {d : α} {line : List α} (h : d ∉ line) (s : List α) :
    lines d (line ++ d :: s) = (line ++ [d]) :: lines d s := by
  induction line with
  | nil => simp [lines]
  | cons a line ih =>
      have ha : a ≠ d := fun he => h (by simp [he])
      have hline : d ∉ line := fun hm => h (by simp [hm])
      rw [List.cons_append, lines, if_neg ha, ih hline]
      rfl

/-- Behind a `d` a new line starts. -/
theorem lines_append (d : α) {s : List α} (h : s = [] ∨ s.getLast? = some d) (t : List α) :
    lines d (s ++ t) = lines d s ++ lines d t := by
  induction s with
  | nil => rfl
  | cons a s ih =>
      have hs : s = [] ∨ s.getLast? = some d := by
        cases s with
        | nil => exact .inl rfl
        | cons b s =>
            rcases h with h | h
            · cases h
            · exact .inr h
      rw [List.cons_append, lines, lines, ih hs]
      split
      · rfl
      · rename_i ha
        cases hlines : lines d s with
        | cons line rest => rfl
        | nil =>
            -- Only the empty list has no lines, and then `a` is the last character.
            have hnil : s = [] := by
              have hflat := flatten_lines d s
              rw [hlines] at hflat
              exact hflat.symm
            rw [hnil] at h
            rcases h with h | h
            · cases h
            · exact absurd (Option.some.inj h) ha

/-! ## The last delimiter -/

variable (c d : α)

/-- Cut a list behind its last delimiter. -/
def splitLast : List α → List α × List α
  | [] => ([], [])
  | a :: s =>
      -- A delimiter in the tail is behind one that starts here.
      if [c, d] <:+: s then (a :: (splitLast s).1, (splitLast s).2)
      else if [c, d] <+: a :: s then ([c, d], s.tail)
      else ([], a :: s)

def complete (s : List α) : List α := (splitLast c d s).1

def remainder (s : List α) : List α := (splitLast c d s).2

/-- A cut is behind the last delimiter, or before everything if there is none. -/
structure IsLastCut (s front rest : List α) : Prop where
  append : front ++ rest = s
  rest : ¬ [c, d] <:+: rest
  front : front = [] ∨ [c, d] <:+ front

variable {c d}

theorem isLastCut_split (s : List α) : IsLastCut c d s (complete c d s) (remainder c d s) := by
  unfold complete remainder
  induction s with
  | nil => exact ⟨rfl, by simp [splitLast], .inl rfl⟩
  | cons a s ih =>
      rw [splitLast]
      split
      · rename_i hlater
        refine ⟨by rw [List.cons_append, ih.append], ih.rest, .inr ?_⟩
        rcases ih.front with hnil | hsuffix
        · -- The tail has a delimiter, so its cut is not before everything.
          have happend := ih.append
          rw [hnil, List.nil_append] at happend
          rw [← happend] at hlater
          exact absurd hlater ih.rest
        · exact hsuffix.trans (List.suffix_cons a _)
      · rename_i hlater
        split
        · -- The last delimiter starts here.
          rename_i hhere
          obtain ⟨t, ht⟩ := hhere
          cases ht
          refine ⟨rfl, ?_, .inr (List.suffix_refl _)⟩
          intro hmark
          exact hlater (hmark.trans (List.suffix_cons d t).isInfix)
        · rename_i hhere
          refine ⟨rfl, ?_, .inl rfl⟩
          intro hmark
          rcases List.infix_cons_iff.mp hmark with hprefix | htail
          · exact hhere hprefix
          · exact hlater htail

omit [DecidableEq α] in
theorem IsLastCut.front_append (hne : c ≠ d) {s front rest more rest' : List α}
    (h : IsLastCut c d s front rest) (h' : IsLastCut c d s (front ++ more) rest')
    (hrest : rest = more ++ rest') : more = [] := by
  rcases h'.front with hnil | hsuffix
  · exact (List.append_eq_nil_iff.mp hnil).2
  · cases more using List.reverseRecOn with
    | nil => rfl
    | append_singleton more a =>
        exfalso
        obtain ⟨t, ht⟩ := hsuffix
        rw [← List.append_assoc, show t ++ [c, d] = t ++ [c] ++ [d] by simp] at ht
        obtain ⟨hfront, hlast⟩ := List.append_inj' ht rfl
        cases more using List.reverseRecOn with
        | append_singleton more b =>
            -- Both characters of the delimiter are in the rest of the shorter cut.
            rw [← List.append_assoc] at hfront
            obtain ⟨-, hb⟩ := List.append_inj' hfront rfl
            apply h.rest
            rw [hrest, ← hlast, ← hb]
            exact ⟨more, rest', by simp⟩
        | nil =>
            -- The shorter cut ends with the first character of the delimiter.
            rw [List.append_nil] at hfront
            rcases h.front with hnil | hcut
            · rw [hnil] at hfront
              simp at hfront
            · obtain ⟨t', ht'⟩ := hcut
              rw [← hfront, show t' ++ [c, d] = t' ++ [c] ++ [d] by simp] at ht'
              obtain ⟨-, hcd⟩ := List.append_inj' ht' rfl
              exact hne (List.singleton_inj.mp hcd).symm

omit [DecidableEq α] in
theorem IsLastCut.unique (hne : c ≠ d) {s front rest front' rest' : List α}
    (h : IsLastCut c d s front rest) (h' : IsLastCut c d s front' rest') :
    front = front' ∧ rest = rest' := by
  have happend : front ++ rest = front' ++ rest' := h.append.trans h'.append.symm
  -- One of the cuts is further right than the other, and there is no more between them.
  rcases List.append_eq_append_iff.mp happend with ⟨more, hfront, hrest⟩ | ⟨more, hfront, hrest⟩
  · subst hfront
    have hnil := h.front_append hne h' hrest
    subst hnil
    exact ⟨(List.append_nil front).symm, hrest⟩
  · subst hfront
    have hnil := h'.front_append hne h hrest
    subst hnil
    exact ⟨List.append_nil front', hrest.symm⟩

theorem IsLastCut.eq (hne : c ≠ d) {s front rest : List α} (h : IsLastCut c d s front rest) :
    complete c d s = front ∧ remainder c d s = rest :=
  (isLastCut_split s).unique hne h

theorem complete_append_remainder (s : List α) : complete c d s ++ remainder c d s = s :=
  (isLastCut_split s).append

theorem not_infix_remainder (s : List α) : ¬ [c, d] <:+: remainder c d s := (isLastCut_split s).rest

theorem complete_of_no_mark (hne : c ≠ d) {s : List α} (h : ¬ [c, d] <:+: s) :
    complete c d s = [] ∧ remainder c d s = s :=
  IsLastCut.eq hne ⟨rfl, h, .inl rfl⟩

theorem complete_last (s : List α) :
    complete c d s = [] ∨ (complete c d s).getLast? = some d := by
  rcases (isLastCut_split (c := c) (d := d) s).front with hnil | ⟨t, ht⟩
  · exact .inl hnil
  · right
    rw [← ht]
    simp

/-- What is left behind the last delimiter is continued by what follows. -/
theorem complete_append (hne : c ≠ d) (s t : List α) :
    complete c d (s ++ t) = complete c d s ++ complete c d (remainder c d s ++ t) ∧
      remainder c d (s ++ t) = remainder c d (remainder c d s ++ t) := by
  apply IsLastCut.eq hne
  refine ⟨?_, not_infix_remainder _, ?_⟩
  · rw [List.append_assoc, complete_append_remainder, ← List.append_assoc,
      complete_append_remainder]
  · rcases (isLastCut_split (c := c) (d := d) (remainder c d s ++ t)).front with hnil | hsuffix
    · rw [hnil, List.append_nil]
      exact (isLastCut_split s).front
    · exact .inr (hsuffix.trans (List.suffix_append _ _))

omit [DecidableEq α] in
theorem suffix_of_infix_line (hne : c ≠ d) {line s : List α} (hline : d ∉ line)
    (h : [c, d] <:+: line ++ d :: s) (hs : ¬ [c, d] <:+: s) : [c, d] <:+ line ++ [d] := by
  obtain ⟨t, u, htu⟩ := h
  have hsplit : (t ++ [c]) ++ d :: u = line ++ d :: s := by
    rw [← htu]
    simp
  -- If the delimiter ends with the line feed of the line, it is a suffix of it.
  have hdone (heq : line = t ++ [c]) : [c, d] <:+ line ++ [d] := ⟨t, by rw [heq]; simp⟩
  rcases List.append_eq_append_iff.mp hsplit with ⟨more, hl, hr⟩ | ⟨more, hl, hr⟩
  · cases more with
    | nil => exact hdone (by rw [hl, List.append_nil])
    | cons a more =>
        -- The delimiter would be inside the line, which has no `d`.
        cases hr
        exact absurd (by rw [hl]; simp) hline
  · cases more with
    | nil => exact hdone (by rw [hl, List.append_nil])
    | cons a more =>
        -- The delimiter would end behind the line, so in `s` but for its first character.
        cases hr
        exfalso
        cases more using List.reverseRecOn with
        | nil =>
            obtain ⟨-, hcd⟩ := List.append_inj' hl rfl
            exact hne (List.singleton_inj.mp hcd)
        | append_singleton more b =>
            have hl' : t ++ [c] = (line ++ d :: more) ++ [b] := by
              rw [hl]
              simp
            obtain ⟨-, hcb⟩ := List.append_inj' hl' rfl
            rw [← List.singleton_inj.mp hcb] at hs
            exact hs ⟨more, u, by simp⟩

/-- The first line of a list with a delimiter is before the last cut. -/
theorem complete_line (hne : c ≠ d) {line s : List α} (hline : d ∉ line)
    (h : [c, d] <:+: line ++ d :: s) :
    complete c d (line ++ d :: s) = line ++ d :: complete c d s ∧
      remainder c d (line ++ d :: s) = remainder c d s := by
  apply IsLastCut.eq hne
  refine ⟨?_, not_infix_remainder s, .inr ?_⟩
  · rw [List.append_assoc, List.cons_append, complete_append_remainder]
  · rcases (isLastCut_split (c := c) (d := d) s).front with hnil | hsuffix
    · -- No delimiter behind the line, so the one there is ends with its `d`.
      have hs : ¬ [c, d] <:+: s := by
        have happend := complete_append_remainder (c := c) (d := d) s
        rw [hnil, List.nil_append] at happend
        rw [← happend]
        exact not_infix_remainder s
      rw [hnil]
      exact suffix_of_infix_line hne hline h hs
    · exact hsuffix.trans ⟨line ++ [d], by simp⟩

/-! ## Several streams -/

variable (c d) in
/-- The lines of a stream up to its last delimiter. -/
def frames (s : List α) : List (List α) := lines d (complete c d s)

theorem frames_append (hne : c ≠ d) (s t : List α) :
    frames c d (s ++ t) = frames c d s ++ frames c d (remainder c d s ++ t) := by
  rw [frames, (complete_append hne s t).1, lines_append d (complete_last s)]
  rfl

theorem frames_of_no_mark (hne : c ≠ d) {s : List α} (h : ¬ [c, d] <:+: s) :
    frames c d s = [] := by
  rw [frames, (complete_of_no_mark hne h).1]
  rfl

theorem frames_line (hne : c ≠ d) {line s : List α} (hline : d ∉ line)
    (h : [c, d] <:+: line ++ d :: s) :
    frames c d (line ++ d :: s) = (line ++ [d]) :: frames c d s := by
  rw [frames, (complete_line hne hline h).1, lines_line hline]
  rfl

omit [DecidableEq α] in
theorem not_infix_of_mem {s : List α} {streams : List (List α)} {t : List α}
    (h : ¬ [c, d] <:+: t ++ streams.flatten) (hs : s ∈ streams) : ¬ [c, d] <:+: s := by
  intro hmark
  apply h
  exact List.infix_append_of_infix_right
    (hmark.trans (List.infix_of_mem_flatten hs))

theorem flatMap_frames_eq_nil (hne : c ≠ d) {streams : List (List α)} {t : List α}
    (h : ¬ [c, d] <:+: t ++ streams.flatten) : streams.flatMap (frames c d) = [] := by
  rw [List.flatMap_eq_nil_iff]
  intro s hs
  exact frames_of_no_mark hne (not_infix_of_mem h hs)

theorem sum_complete_eq_zero (hne : c ≠ d) {streams : List (List α)} {t : List α}
    (h : ¬ [c, d] <:+: t ++ streams.flatten) :
    (streams.map fun s => (complete c d s).length).sum = 0 := by
  rw [List.sum_eq_zero_iff]
  intro n hn
  obtain ⟨s, hs, rfl⟩ := List.mem_map.mp hn
  rw [(complete_of_no_mark hne (not_infix_of_mem h hs)).1]
  rfl

theorem suffix_complete {s : List α} (h : [c, d] <:+: s) : [c, d] <:+ complete c d s := by
  have hcut := isLastCut_split (c := c) (d := d) s
  rcases hcut.front with hnil | hsuffix
  · rw [← hcut.append, hnil, List.nil_append] at h
    exact absurd h hcut.rest
  · exact hsuffix

theorem length_le_complete_append (hne : c ≠ d) {start s : List α} (hstart : ¬ [c, d] <:+: start)
    (h : [c, d] <:+: start ++ s) :
    start.length + (complete c d s).length ≤ (complete c d (start ++ s)).length := by
  by_cases hs : [c, d] <:+: s
  · -- The last delimiter is in `s`, and everything before it is complete.
    have hcut : IsLastCut c d (start ++ s) (start ++ complete c d s) (remainder c d s) := by
      refine ⟨?_, not_infix_remainder s, .inr ?_⟩
      · rw [List.append_assoc, complete_append_remainder]
      · exact (suffix_complete hs).trans (List.suffix_append _ _)
    rw [(hcut.eq hne).1, List.length_append]
  · rw [(complete_of_no_mark hne hs).1, List.length_nil, Nat.add_zero]
    by_contra hlt
    -- Otherwise the delimiter at the end of the complete part is in the start.
    apply hstart
    have hfront : complete c d (start ++ s) <+: start := by
      apply List.prefix_of_prefix_length_le ⟨remainder c d (start ++ s), complete_append_remainder _⟩
        (List.prefix_append start s)
      omega
    exact (suffix_complete h).isInfix.trans hfront.isInfix

/-- Streams read one after the other with an incomplete start keep at least the start and what each
of them would keep alone. -/
theorem length_le_complete (hne : c ≠ d) {start : List α} (streams : List (List α))
    (hstart : ¬ [c, d] <:+: start) (h : [c, d] <:+: start ++ streams.flatten) :
    start.length + (streams.map fun s => (complete c d s).length).sum ≤
      (complete c d (start ++ streams.flatten)).length := by
  -- The start of the induction is what is left between two streams.
  induction streams generalizing start with
  | nil =>
      rw [List.flatten_nil, List.append_nil] at h
      exact absurd h hstart
  | cons s later ih =>
      rw [List.flatten_cons, ← List.append_assoc] at h ⊢
      rw [List.map_cons, List.sum_cons]
      by_cases hs : [c, d] <:+: start ++ s
      · have hone := length_le_complete_append hne hstart hs
        rw [(complete_append hne (start ++ s) later.flatten).1, List.length_append]
        by_cases hlater : [c, d] <:+: remainder c d (start ++ s) ++ later.flatten
        · have hrest := ih (not_infix_remainder (start ++ s)) hlater
          omega
        · have hzero := sum_complete_eq_zero hne hlater
          omega
      · -- Nothing is complete yet, so the stream as a whole is left for the next one.
        have hnil : complete c d s = [] :=
          (complete_of_no_mark hne fun hin => hs (List.infix_append_of_infix_right hin)).1
        have hrest := ih hs h
        rw [List.length_append] at hrest
        rw [hnil, List.length_nil]
        omega

theorem length_flatMap_frames (streams : List (List α)) :
    (streams.flatMap (frames c d)).flatten.length =
      (streams.map fun s => (complete c d s).length).sum := by
  induction streams with
  | nil => rfl
  | cons s streams ih =>
      rw [List.flatMap_cons, List.flatten_append, List.length_append, ih, frames, flatten_lines]
      rfl

/-- If the frames of an incomplete start with streams behind it are those of the streams alone, then
the start is empty or nothing completes it. -/
theorem remainder_of_frames (hne : c ≠ d) {s : List α} {streams : List (List α)}
    (heq : frames c d (remainder c d s ++ streams.flatten) = streams.flatMap (frames c d)) :
    remainder c d s = [] ∨ ¬ [c, d] <:+: remainder c d s ++ streams.flatten := by
  by_cases hmark : [c, d] <:+: remainder c d s ++ streams.flatten
  · -- The frames on both sides have the same number of characters, and the left ones have those of
    -- the remainder on top.
    left
    have hlen := length_le_complete hne streams (not_infix_remainder s) hmark
    have hbytes := congrArg (fun l => l.flatten.length) heq
    simp only [length_flatMap_frames, frames, flatten_lines] at hbytes
    apply List.length_eq_zero_iff.mp
    omega
  · exact .inr hmark

/-- Reading streams one after the other without dropping what is left between them gives the frames
of each stream exactly if nothing is left that a later stream completes. -/
theorem frames_flatten_iff (hne : c ≠ d) (streams : List (List α)) :
    frames c d streams.flatten = streams.flatMap (frames c d) ↔
      ∀ before s later, streams = before ++ s :: later →
        remainder c d s = [] ∨ ¬ [c, d] <:+: remainder c d s ++ later.flatten := by
  induction streams with
  | nil => simp [frames, complete, splitLast, lines]
  | cons s later ih =>
      rw [List.flatten_cons, List.flatMap_cons, frames_append hne, List.append_cancel_left_eq]
      constructor
      · intro heq before t rest hsplit
        have hhead := remainder_of_frames hne heq
        cases before with
        | nil =>
            cases hsplit
            exact hhead
        | cons b before =>
            rw [List.cons_append, List.cons.injEq] at hsplit
            obtain ⟨-, rfl⟩ := hsplit
            rcases hhead with hnil | hnot
            · rw [hnil, List.nil_append] at heq
              exact ih.mp heq before t rest rfl
            · -- Nothing completes what the first stream leaves, so there is no later delimiter.
              right
              intro hmark
              apply hnot
              apply hmark.trans
              refine ⟨remainder c d s ++ before.flatten ++ complete c d t, [], ?_⟩
              rw [List.flatten_append, List.flatten_cons]
              conv_rhs => rw [← complete_append_remainder (c := c) (d := d) t]
              simp
      · intro hcond
        rcases hcond [] s later rfl with hnil | hnot
        · rw [hnil, List.nil_append, ih]
          intro before t rest hsplit
          exact hcond (s :: before) t rest (by rw [hsplit]; rfl)
        · rw [frames_of_no_mark hne hnot, flatMap_frames_eq_nil hne hnot]

end Cxx
