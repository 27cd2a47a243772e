import VirtualFlightRadar.Feed.AprsParser

/-!
# Comments of the Open Glider Network

The comment of a report has an identifier somewhere, and the expression may skip any text before it.
With a single identifier in the comment the expression finds it and every field behind it.
-/

open Cxx

namespace VirtualFlightRadar

namespace AprsParser

def sign (neg : Bool) : UInt8 := if neg then ch '-' else ch '+'

/-- The comment of a report. -/
structure OgnComment where
  -- `dd` of `!Wdd!`
  precision : Option Nat
  type : Bytes
  id : Bytes
  climbNeg : Bool
  climb : Nat
  turnNeg : Bool
  turn : Bytes
  turnFrac : Bytes
  trailing : Bytes
  precision_lt : ∀ d ∈ precision, d < 100
  type_run : Regex.Run isHexUpper 2 type
  id_run : Regex.Run isHexUpper 6 id
  climb_lt : climb < 1000
  turn_digits : turn ≠ [] ∧ ∀ b ∈ turn, isDigit b = true
  turnFrac_digits : turnFrac ≠ [] ∧ ∀ b ∈ turnFrac, isDigit b = true

/-- `id` and eight hexadecimal digits, in any letter case. -/
def idAt (s : Bytes) : Bool :=
  Regex.startsWord (str "id") s && Regex.startsRun isXDigit 8 (s.drop 2)

namespace OgnComment

def head (o : OgnComment) : Bytes :=
  match o.precision with
  | none => []
  | some d => str "!W" ++ (zeroPad 2 d ++ str "! ")

-- From `id` on, a piece for every piece of the expression
def body (o : OgnComment) : Bytes :=
  str "id" ++ (o.type ++ (o.id ++ (str " " ++ ((sign o.climbNeg :: zeroPad 3 o.climb) ++
    (str "fpm" ++ (str " " ++ ((sign o.turnNeg :: (o.turn ++ str ".")) ++ (o.turnFrac ++
    (str "rot" ++ o.trailing)))))))))

def text (o : OgnComment) : Bytes := o.head ++ o.body

theorem text_ne_nil (o : OgnComment) : o.text ≠ [] := by
  have hid : str "id" ≠ [] := by decide
  exact List.append_ne_nil_of_right_ne_nil _ (List.append_ne_nil_of_left_ne_nil hid _)

def groups (o : OgnComment) : Captures UInt8
  | 1 => o.type
  | 2 => o.id
  | 3 => sign o.climbNeg :: zeroPad 3 o.climb
  | 4 => (sign o.turnNeg :: (o.turn ++ str ".")) ++ o.turnFrac
  | _ => []

end OgnComment

/-! ## The expression of the comment -/

theorem icase_isHexUpper : ∀ b : UInt8, Regex.icase isHexUpper b = isXDigit b := by
  decide +kernel

theorem isXDigit_of_isHexUpper : ∀ b : UInt8, isHexUpper b = true → isXDigit b = true := by
  decide +kernel

theorem anyByte_all (s : Bytes) : ∀ b ∈ s, anyByte b = true := fun _ _ => rfl

theorem isSign_sign : ∀ neg : Bool, isSign (sign neg) = true := by decide

open Regex in
theorem idRE_fails {s : Bytes} (h : idAt s = false) (c : Captures UInt8) : Fails idRE s c := by
  have hclass : icase isHexUpper = isXDigit := funext icase_isHexUpper
  rw [idRE, hclass]
  -- Each of the three pieces is there only if the text has an identifier.
  apply Fails.word_seq
  intro hid
  apply Fails.group_times_seq
  intro htype c
  apply Fails.group_times_seq
  intro hnum c
  have hrun : startsRun isXDigit (2 + 6) (s.drop 2) = true := by
    rw [startsRun_add, Bool.and_eq_true]
    exact ⟨htype, hnum⟩
  rw [idAt, hid, hrun] at h
  cases h

theorem word_fails_digit : ∀ b : UInt8, isDigit b = true →
    Regex.eqNoCase (ch '.') b = false ∧ Regex.eqNoCase (ch 'r') b = false := by
  decide +kernel

/-- The captures of a comment. -/
def comGroups (type id climb turn : Bytes) : Captures UInt8
  | 1 => type
  | 2 => id
  | 3 => climb
  | 4 => turn
  | _ => []

section

variable {turn turnFrac : Bytes}

open Regex in
-- Up to the point there is one way to read a turn rate: digits are no point.
theorem picks_turn (hturn : turn ≠ [] ∧ ∀ b ∈ turn, isDigit b = true) (neg : Bool) (s : Bytes)
    (c : Captures UInt8) :
    Picks (concat [one isSign, plusLazy isDigit, word (str ".")])
      ((sign neg :: (turn ++ str ".")) ++ s) c s c := by
  have hpoint : Picks (concat [word (str ".")]) (str "." ++ s) c s c :=
    (Picks.word _).seq Picks.empty
  rw [List.cons_append, List.append_assoc]
  apply (Picks.one (isSign_sign _)).seq
  apply Picks.plusLazy_seq hturn.2 hturn.1 hpoint
  intro a₁ a₂ heq _
  cases a₂ with
  | nil => exact .inr hpoint
  | cons b a₂ =>
      left
      have hb : isDigit b = true := hturn.2 b (by simp [heq])
      exact (Fails.word (word_fails_digit b hb).1).seq

open Regex in
/-- All parts of a comment with three digits of climb rate are found. -/
theorem picks_idRE {type id climb : Bytes} (htype : Run (icase isHexUpper) 2 type)
    (hid : Run (icase isHexUpper) 6 id) (hclimb : Run isDigit 3 climb)
    (hturn : turn ≠ [] ∧ ∀ b ∈ turn, isDigit b = true)
    (hfrac : turnFrac ≠ [] ∧ ∀ b ∈ turnFrac, isDigit b = true) (climbNeg turnNeg : Bool)
    (trailing : Bytes) :
    Picks idRE (str "id" ++ (type ++ (id ++ (str " " ++ ((sign climbNeg :: climb) ++ (str "fpm" ++
      (str " " ++ ((sign turnNeg :: (turn ++ str ".")) ++ (turnFrac ++ (str "rot" ++
      trailing)))))))))) (fun _ => []) []
      (comGroups type id (sign climbNeg :: climb)
        ((sign turnNeg :: (turn ++ str ".")) ++ turnFrac)) := by
  have hgroups : comGroups type id (sign climbNeg :: climb)
      ((sign turnNeg :: (turn ++ str ".")) ++ turnFrac) = Function.update (Function.update
      (Function.update (Function.update (fun _ => []) RE_APRS_COM_TYPE type) RE_APRS_COM_ID id)
      RE_APRS_COM_CR (sign climbNeg :: climb))
      RE_APRS_COM_TR ((sign turnNeg :: (turn ++ str ".")) ++ turnFrac) := by
    funext n
    match n with
    | 0 | 1 | 2 | 3 | 4 => rfl
    | n + 5 => rfl
  rw [hgroups]
  apply (Picks.word _).seq
  apply (Picks.group (Picks.run htype)).seq
  apply (Picks.group (Picks.run hid)).seq
  -- `\s?` takes the blank; the three optional parts behind it all take part.
  apply Picks.seq
  · exact Picks.greedy (a := str " ") (by decide) (by decide) (.inl rfl)
  apply Picks.seq
  · apply Picks.opt
    apply (Picks.group ((Picks.one (isSign_sign _)).seq (Picks.run hclimb))).seq
    apply (Picks.word _).seq
    exact Picks.plusLazy_one (by decide) Picks.empty
  apply Picks.seq
  · apply Picks.opt
    apply Picks.group_plusLazy_seq (picks_turn hturn _ _ _) hfrac.2 hfrac.1 (Picks.word _)
    intro b t c hb
    exact Fails.word (word_fails_digit b hb).2
  exact Picks.rest_eos (anyByte_all _)

end

open Regex in
/-- The only identifier of a comment is the one that is found. -/
theorem matchAll_of_unique {head body : Bytes} {c : Captures UInt8}
    (hpicks : Picks idRE body (fun _ => []) [] c)
    (hunique : ∀ a b, head ++ body = a ++ b → idAt b = true → a = head) :
    s_APRSExtRE.matchAll (head ++ body) = some c := by
  have hfails : ∀ a b, head ++ body = a ++ b → a ≠ head → Fails idRE b (fun _ => []) := by
    intro a b heq hne
    apply idRE_fails
    rw [← Bool.not_eq_true]
    exact fun hid => hne (hunique a b heq hid)
  apply Picks.matchAll
  by_cases hhead : head = []
  · -- Without a prefix the gap is skipped, but only after every place behind it has failed.
    subst hhead
    apply Picks.seq_opt_of_fails _ hpicks
    apply Fails.plusLazy_seq
    intro a b heq hne _
    exact hfails a b heq hne
  · apply Picks.seq_opt
    apply Picks.plusLazy_seq (anyByte_all _) hhead hpicks
    intro a₁ a₂ heq _
    cases a₂ with
    | nil => exact .inr hpicks
    | cons b a₂ =>
        left
        apply hfails a₁
        · rw [heq, List.append_assoc]
        · rw [heq]
          simp

open Regex in
theorem OgnComment.picks_body (o : OgnComment) :
    Picks idRE o.body (fun _ => []) [] o.groups := by
  have hgroups : o.groups = comGroups o.type o.id (sign o.climbNeg :: zeroPad 3 o.climb)
      ((sign o.turnNeg :: (o.turn ++ str ".")) ++ o.turnFrac) := by
    funext n
    match n with
    | 0 | 1 | 2 | 3 | 4 => rfl
    | n + 5 => rfl
  have hhex : ∀ {n : Nat} {s : Bytes}, Run isHexUpper n s → Run (icase isHexUpper) n s :=
    fun h => ⟨h.length, fun b hb => icase_of (h.all b hb)⟩
  rw [hgroups]
  exact picks_idRE (hhex o.type_run) (hhex o.id_run) (run_zeroPad (by omega) o.climb_lt)
    o.turn_digits o.turnFrac_digits o.climbNeg o.turnNeg o.trailing

theorem OgnComment.matchAll_text (o : OgnComment)
    (hunique : ∀ a b, o.text = a ++ b → idAt b = true → a = o.head) :
    s_APRSExtRE.matchAll o.text = some o.groups :=
  matchAll_of_unique o.picks_body hunique

/-! ## The values of the comment -/

theorem parseComment_type : ∀ x : UInt8,
    (Int32.ofInt x.toNat &&& 0x03).toUInt32.toUInt8 = x &&& 0x03 ∧
    ((Int32.ofInt x.toNat &&& 0x7C) >>> 2).toUInt32.toUInt8 = (x &&& 0x7C) >>> 2 ∧
    ¬ (x &&& 0x03) > IdType.OGN.raw := by
  decide +kernel

/-- The value of `XX`. -/
def OgnComment.code (o : OgnComment) : UInt8 := UInt8.ofNat (natVal 16 o.type)

def OgnComment.climbFpm (o : OgnComment) : ℚ := if o.climbNeg then -o.climb else o.climb

theorem OgnComment.stoi_type (o : OgnComment) : stoi 16 o.type = .ok o.code.toNat := by
  have hdigits : ∀ b ∈ o.type, digitVal b < 16 := fun b hb =>
    of_decide_eq_true (isXDigit_of_isHexUpper b (o.type_run.all b hb))
  -- Two digits are a byte.
  have hlt : natVal 16 o.type < 16 ^ 2 := by
    have h := natVal_lt 16 o.type hdigits
    rwa [o.type_run.length] at h
  rw [stoi_digits (le_refl 16) (o.type_run.ne_nil (by omega)) hdigits (by omega), code, UInt8.toNat_ofNat_of_lt' hlt]

theorem OgnComment.parseComment_groups (o : OgnComment) (aircraft : Aircraft) :
    parseComment o.groups aircraft =
      (true, { aircraft with
        m_id := o.id
        m_idType := ⟨o.code &&& 0x03⟩
        m_aircraftType := if (o.code &&& 0x7C) >>> 2 > 15 then .UNKNOWN
          else ⟨(o.code &&& 0x7C) >>> 2⟩ }) := by
  obtain ⟨hid, hcode, hle⟩ := parseComment_type o.code
  have htype : stoi 16 (o.groups RE_APRS_COM_TYPE) = .ok o.code.toNat := o.stoi_type
  unfold parseComment
  simp only [htype, hid, hcode, Aircraft.set_idType, Aircraft.set_aircraftType, if_neg hle]
  rfl

theorem OgnComment.stod_climb (o : OgnComment) :
    stod (o.groups RE_APRS_COM_CR) = .ok (.fin o.climbFpm) := by
  have hrun : Regex.Run isDigit 3 (zeroPad 3 o.climb) := run_zeroPad (by omega) o.climb_lt
  have hstod := stod_sign_digits o.climbNeg (hrun.ne_nil (by omega)) hrun.all
    (by rw [hrun.length]; omega)
  rw [natVal_zeroPad] at hstod
  exact hstod

end AprsParser

end VirtualFlightRadar
