import VirtualFlightRadar.Feed.AprsHeader

/-!
# Strong climbs

The group of the climb rate has room for three digits and is optional.  A rate with more digits does
not fit it, and the gap at the end of the expression takes it instead: the report is accepted, but
without its movement.
-/

open Cxx

namespace VirtualFlightRadar

namespace AprsParser

/-- `idXXYYYYYY <climb>fpm <turn>rot`, with as many digits of climb rate as needed. -/
structure ClimbComment where
  type : Bytes
  id : Bytes
  climbNeg : Bool
  climb : Bytes
  turnNeg : Bool
  turn : Bytes
  turnFrac : Bytes
  type_run : Regex.Run isXDigit 2 type
  id_run : Regex.Run isXDigit 6 id
  climb_length : 3 ≤ climb.length
  climb_digits : ∀ b ∈ climb, isDigit b = true
  turn_digits : turn ≠ [] ∧ ∀ b ∈ turn, isDigit b = true
  turnFrac_digits : turnFrac ≠ [] ∧ ∀ b ∈ turnFrac, isDigit b = true

namespace ClimbComment

-- From the climb rate on
def rates (o : ClimbComment) : Bytes :=
  (sign o.climbNeg :: o.climb) ++ (str "fpm" ++ (str " " ++ ((sign o.turnNeg :: (o.turn ++ str ".")) ++
    (o.turnFrac ++ (str "rot" ++ [])))))

def text (o : ClimbComment) : Bytes := str "id" ++ (o.type ++ (o.id ++ (str " " ++ o.rates)))

def climbFpm (o : ClimbComment) : ℚ :=
  if o.climbNeg then -(natVal 10 o.climb : ℚ) else natVal 10 o.climb

theorem text_ne_nil (o : ClimbComment) : o.text ≠ [] :=
  List.append_ne_nil_of_left_ne_nil (by decide) _

/-! ## The only identifier -/

theorem ne_i_of_isXDigit : ∀ b : UInt8, isXDigit b = true → toLower b ≠ ch 'i' := by
  decide +kernel

theorem ne_i_of_isDigit : ∀ b : UInt8, isDigit b = true → toLower b ≠ ch 'i' := by
  decide +kernel

theorem ne_i_sign : ∀ neg : Bool, toLower (sign neg) ≠ ch 'i' := by decide

theorem ne_i_of_mem (o : ClimbComment) :
    ∀ b ∈ str "d" ++ (o.type ++ (o.id ++ (str " " ++ o.rates))), toLower b ≠ ch 'i' := by
  have hdigits {s : Bytes} (h : ∀ b ∈ s, isDigit b = true) : ∀ b ∈ s, toLower b ≠ ch 'i' :=
    fun b hb => ne_i_of_isDigit b (h b hb)
  unfold rates
  simp only [List.forall_mem_append, List.forall_mem_cons]
  exact ⟨by decide, fun b hb => ne_i_of_isXDigit b (o.type_run.all b hb),
    fun b hb => ne_i_of_isXDigit b (o.id_run.all b hb), by decide,
    ⟨ne_i_sign _, hdigits o.climb_digits⟩, by decide, by decide,
    ⟨ne_i_sign _, hdigits o.turn_digits.2, by decide⟩, hdigits o.turnFrac_digits.2,
    by decide, by simp⟩

/-- There is one letter I in the comment, at its start. -/
theorem unique (o : ClimbComment) : ∀ a b, [] ++ o.text = a ++ b → idAt b = true → a = [] := by
  intro a b heq hid
  cases a with
  | nil => rfl
  | cons x a =>
      have htail : str "d" ++ (o.type ++ (o.id ++ (str " " ++ o.rates))) = a ++ b :=
        (List.cons.inj heq).2
      have hi : ∀ y ∈ b, toLower y ≠ ch 'i' := by
        intro y hy
        apply o.ne_i_of_mem y
        rw [htail]
        exact List.mem_append_right a hy
      rw [idAt, Bool.and_eq_true] at hid
      cases b with
      | nil => exact absurd hid.1 (by decide)
      | cons y b =>
          have hne : Regex.eqNoCase (ch 'i') y = false :=
            beq_eq_false_iff_ne.mpr fun he => hi y List.mem_cons_self he.symm
          have hword : Regex.startsWord (str "id") (y :: b) = false := Header.startsWord_cons hne
          rw [hword] at hid
          cases hid.1

/-! ## The rates -/

theorem rates_eq (o : ClimbComment) :
    ∃ rest, o.rates = sign o.climbNeg :: (o.climb ++ ch 'f' :: rest) := ⟨_, rfl⟩

open Regex in
/-- A single character of a class in front. -/
theorem takes_one {p : UInt8 → Bool} {b : UInt8} {s rest : Bytes} {c c' : Captures UInt8}
    (h : Takes (one p) (b :: s) c rest c') : rest = s := by
  obtain ⟨-, a, heq, -, hmin, hmax⟩ := h
  have hlen := hmax 1 rfl
  obtain ⟨x, rfl⟩ := List.length_eq_one_iff.mp (by omega : a.length = 1)
  cases heq
  rfl

open Regex in
/-- After three digits a fourth one stands where the unit should. -/
theorem climb_fails (o : ClimbComment) (h : 3 < o.climb.length) (c : Captures UInt8) :
    Fails (concat [.group RE_APRS_COM_CR (.seq (one isSign) (times isDigit 3)), word (str "fpm"),
      plusLazy isSpace]) o.rates c := by
  apply fails_of_not_takes
  rintro rest c' ⟨t, c₁, ⟨a, c₂, -, ⟨t₁, c₃, hsign, hdigits⟩, -⟩, ⟨t₂, c₄, hword, -⟩⟩
  obtain ⟨behind, hrates⟩ := o.rates_eq
  rw [hrates] at hsign
  cases takes_one hsign
  obtain ⟨-, d, hd, -, hmin, hmax⟩ := hdigits
  obtain ⟨-, w, hw, hfpm⟩ := takes_word.mp hword
  have hlen : d.length = 3 := by
    have hle := hmax 3 rfl
    omega
  -- What is left after three digits starts with a digit.
  have hleft : t = o.climb.drop 3 ++ ch 'f' :: behind := by
    have hdrop := congrArg (List.drop 3) hd
    rw [List.drop_append_of_le_length h.le, ← hlen, List.drop_left] at hdrop
    rw [← hdrop, hlen]
  cases hrest : o.climb.drop 3 with
  | nil =>
      rw [List.drop_eq_nil_iff] at hrest
      omega
  | cons y e =>
      have hy : isDigit y = true :=
        o.climb_digits y (List.mem_of_mem_drop (by rw [hrest]; exact List.mem_cons_self))
      have hunit : ∀ b : UInt8, isDigit b = true → toLower b ≠ toLower (ch 'f') := by
        decide +kernel
      cases w with
      | nil => cases hfpm
      | cons f w =>
          rw [hw, hrest] at hleft
          have hfirst : f = y := (List.cons.inj hleft).1
          rw [← hfirst] at hy
          exact hunit f hy (List.cons.inj hfpm).1

open Regex in
/-- What is written is no turn rate either: no point follows its digits. -/
theorem turn_fails (o : ClimbComment) (c : Captures UInt8) :
    Fails (.seq (.group RE_APRS_COM_TR
        (.seq (concat [one isSign, plusLazy isDigit, word (str ".")]) (plusLazy isDigit)))
      (word (str "rot"))) o.rates c := by
  apply fails_of_not_takes
  rintro rest c' ⟨t, c₁, ⟨a, c₂, -, ⟨t₁, c₃, htakes, -⟩, -⟩, -⟩
  obtain ⟨t₂, c₄, hsign, t₃, c₅, hdigits, t₄, c₆, hpoint, -⟩ := htakes
  obtain ⟨behind, hrates⟩ := o.rates_eq
  rw [hrates] at hsign
  cases takes_one hsign
  obtain ⟨-, d, hd, hall, -⟩ := hdigits
  obtain ⟨-, w, hw, hdot⟩ := takes_word.mp hpoint
  obtain ⟨x, rfl, hx⟩ := List.map_eq_singleton_iff.mp hdot
  have hclass : ∀ b : UInt8, toLower b = toLower (ch '.') → isDigit b = false ∧ b ≠ ch 'f' := by
    decide +kernel
  -- The digits end at the letter on one side and at the point on the other.
  have hdrop := congrArg (List.dropWhile isDigit) hd
  rw [hw, List.dropWhile_append_of_pos o.climb_digits, List.dropWhile_append_of_pos hall,
    List.dropWhile_cons_of_neg (by decide), List.singleton_append,
    List.dropWhile_cons_of_neg (by rw [(hclass x hx).1]; decide)] at hdrop
  exact (hclass x hx).2 (List.cons.inj hdrop).1.symm

open Regex in
/-- With more than three digits nothing of the rates is captured. -/
theorem picks_skipped (o : ClimbComment) (h : 3 < o.climb.length) :
    Picks idRE o.text (fun _ => []) [] (comGroups o.type o.id [] []) := by
  have hclass : icase isHexUpper = isXDigit := funext icase_isHexUpper
  have hgroups : comGroups o.type o.id [] [] = Function.update (Function.update (fun _ => [])
      RE_APRS_COM_TYPE o.type) RE_APRS_COM_ID o.id := by
    funext n
    match n with
    | 0 | 1 | 2 | 3 | 4 => rfl
    | n + 5 => rfl
  rw [hgroups, idRE, hclass]
  apply (Picks.word _).seq
  apply (Picks.group (Picks.run o.type_run)).seq
  apply (Picks.group (Picks.run o.id_run)).seq
  apply Picks.seq
  · exact Picks.greedy (a := str " ") (by decide) (by decide) (.inl rfl)
  apply (Picks.opt_of_fails (o.climb_fails h _)).seq
  apply (Picks.opt_of_fails (o.turn_fails _)).seq
  exact Picks.rest_eos (anyByte_all _)

open Regex in
theorem picks_climb (o : ClimbComment) (h : o.climb.length = 3) :
    Picks idRE o.text (fun _ => []) [] (comGroups o.type o.id (sign o.climbNeg :: o.climb)
      ((sign o.turnNeg :: (o.turn ++ str ".")) ++ o.turnFrac)) := by
  have hclass : icase isHexUpper = isXDigit := funext icase_isHexUpper
  have htype := o.type_run
  have hid := o.id_run
  rw [← hclass] at htype hid
  exact picks_idRE htype hid ⟨h, o.climb_digits⟩ o.turn_digits o.turnFrac_digits o.climbNeg
    o.turnNeg []

theorem matchAll_text (o : ClimbComment) {c : Captures UInt8}
    (h : Regex.Picks idRE o.text (fun _ => []) [] c) : s_APRSExtRE.matchAll o.text = some c :=
  @matchAll_of_unique [] o.text c h o.unique

theorem stod_climb (o : ClimbComment) (h : o.climb.length = 3) :
    stod (sign o.climbNeg :: o.climb) = .ok (.fin o.climbFpm) := by
  have hne : o.climb ≠ [] := List.length_pos_iff.mp (by omega)
  exact stod_sign_digits o.climbNeg hne o.climb_digits (by omega)

end ClimbComment

theorem parseMovement_empty (groups : Captures UInt8) {comGroups : Captures UInt8}
    (h : comGroups RE_APRS_COM_CR = []) (aircraft : Aircraft) :
    (parseMovement groups comGroups aircraft).1 = false := by
  have hstod : stod [] = .error .invalid_argument := rfl
  unfold parseMovement
  rw [h, hstod]
  cases stod (groups RE_APRS_HEAD) with
  | error e => rfl
  | ok heading =>
      cases stod (groups RE_APRS_GND_SPD) with
      | error e => rfl
      | ok speed => rfl

/-- The movement of the report is complete. -/
def FullMovement (r : Header) (o : ClimbComment) (aircraft : Aircraft) : Prop :=
  aircraft.m_fullInfo = true ∧ aircraft.m_movement = {
    heading := .fin r.course
    gndSpeed := .fin (r.speed * 0.514444)
    climbRate := .fin (o.climbFpm * 0.00508) }

/-- Of the accepted reports exactly those with three digits of climb rate have their movement. -/
theorem fullMovement_iff (r : Header) (o : ClimbComment) (boost : BoostRegex) (clock : DateTime)
    (s_maxHeight : Int32) (aircraft : Aircraft)
    (h : (unpack boost clock s_maxHeight (r.text o.text) aircraft).1 = true) :
    FullMovement r o (unpack boost clock s_maxHeight (r.text o.text) aircraft).2 ↔
      o.climb.length = 3 := by
  have hmin := o.climb_length
  rcases Nat.eq_or_lt_of_le hmin with hthree | hmore
  · -- The group has the rate, and all three numbers convert.
    obtain ⟨commented, haircraft⟩ := r.unpack_accepted o.text_ne_nil
      (o.matchAll_text (o.picks_climb hthree.symm)) h
    have hclimb : stod (comGroups o.type o.id (sign o.climbNeg :: o.climb)
        ((sign o.turnNeg :: (o.turn ++ str ".")) ++ o.turnFrac) RE_APRS_COM_CR) =
        .ok (.fin o.climbFpm) := o.stod_climb hthree.symm
    rw [r.parseMovement_groups o.text hclimb] at haircraft
    have hfull : FullMovement r o
        (unpack boost clock s_maxHeight (r.text o.text) aircraft).2 := by
      rw [haircraft]
      exact ⟨rfl, rfl⟩
    exact ⟨fun _ => hthree.symm, fun _ => hfull⟩
  · -- The group is empty, and an empty text is no number.
    obtain ⟨commented, haircraft⟩ := r.unpack_accepted o.text_ne_nil
      (o.matchAll_text (o.picks_skipped hmore)) h
    have hmovement : (parseMovement (r.groups o.text) (comGroups o.type o.id [] [])
        commented).1 = false := parseMovement_empty _ rfl _
    rw [haircraft]
    constructor
    · rintro ⟨hfull, -⟩
      rw [hmovement] at hfull
      cases hfull
    · intro hthree
      omega

/-- A report of the tests, without the trailing text. -/
def headerAtNoon : Header where
  src := str "ICAAAAAAA"
  path := str "qAR"
  hour := 12
  minute := 0
  second := 0
  latDeg := 49
  latMin := 0
  south := false
  symTable := ch '/'
  lonDeg := 8
  lonMin := 0
  west := false
  symCode := ch ':'
  course := 180
  speed := 3
  feet := 1000
  src_chars := by decide
  src_first := by decide
  path_chars := by decide
  hour_lt := by decide
  minute_lt := by decide
  second_lt := by decide
  latDeg_lt := by decide
  latMin_lt := by decide
  lonDeg_lt := by decide
  lonMin_lt := by decide
  course_lt := by decide
  speed_lt := by decide
  feet_lt := by decide

def commentOfClimb (climb : Bytes) (hlen : 3 ≤ climb.length)
    (hdigits : ∀ b ∈ climb, isDigit b = true) : ClimbComment where
  type := str "0D"
  id := str "AAAAAA"
  climbNeg := false
  climb := climb
  turnNeg := false
  turn := str "0"
  turnFrac := str "0"
  type_run := ⟨by decide, by decide⟩
  id_run := ⟨by decide, by decide⟩
  climb_length := hlen
  climb_digits := hdigits
  turn_digits := by decide
  turnFrac_digits := by decide

theorem fullMovement_138 :
    let o := commentOfClimb (str "138") (by decide) (by decide)
    FullMovement headerAtNoon o
      (unpack .byChoices ⟨0, 0⟩ 10000 (headerAtNoon.text o.text) {}).2 := by
  intro o
  rw [fullMovement_iff headerAtNoon o .byChoices ⟨0, 0⟩ 10000 {} (by decide +kernel)]
  decide

/-- A climb of 1250 feet per minute is lost. -/
theorem not_fullMovement_1250 :
    let o := commentOfClimb (str "1250") (by decide) (by decide)
    headerAtNoon.text o.text = str ("ICAAAAAAA>APRS,qAR:/120000h4900.00N/00800.00E:180/003/A=001000 " ++
      "id0DAAAAAA +1250fpm +0.0rot") ∧
    (unpack .byChoices ⟨0, 0⟩ 10000 (headerAtNoon.text o.text) {}).1 = true ∧
    (unpack .byChoices ⟨0, 0⟩ 10000 (headerAtNoon.text o.text) {}).2.m_fullInfo = false := by
  decide +kernel

end AprsParser

end VirtualFlightRadar
