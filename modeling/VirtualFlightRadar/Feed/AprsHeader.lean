import VirtualFlightRadar.Feed.AprsComment

/-!
# Reports of the Open Glider Network up to the comment

The gaps of the expression could start a match elsewhere: in the path, or at a symbol that is a
colon.  The results here are that none of these comes first, whatever the comment is.
-/

open Cxx

namespace VirtualFlightRadar

namespace AprsParser

/-! ## Coordinates -/

def degMin (width deg min : Nat) : Bytes := zeroPad width deg ++ zeroPad 2 (min / 10 ^ 2)

/-- Degrees and hundredths of minutes. -/
def coordinate (width deg min : Nat) : Bytes :=
  degMin width deg min ++ (str "." ++ zeroPad 2 (min % 10 ^ 2))

section

variable {width deg min : Nat}

theorem run_degMin (hw : 0 < width) (hdeg : deg < 10 ^ width) (hmin : min < 10000) :
    Regex.Run isDigit (width + 2) (degMin width deg min) :=
  (run_zeroPad hw hdeg).append (run_zeroPad (by omega) (by omega)) rfl

theorem run_hundredths : Regex.Run isDigit 2 (zeroPad 2 (min % 10 ^ 2)) :=
  run_zeroPad (by omega) (Nat.mod_lt _ (by omega))

open Regex in
theorem picks_coordinate (hw : 0 < width) (hdeg : deg < 10 ^ width) (hmin : min < 10000)
    {s : Bytes} {c : Captures UInt8} :
    Picks (concat [times isDigit (width + 2), word (str "."), times isDigit 2])
      (coordinate width deg min ++ s) c s c := by
  rw [coordinate, List.append_assoc, List.append_assoc]
  apply (Picks.run (run_degMin hw hdeg hmin)).seq
  apply (Picks.word _).seq
  exact (Picks.run run_hundredths).seq Picks.empty

theorem stod_coordinateText (hw : 0 < width) (hwidth : width ≤ 200)
    (hdeg : deg < 10 ^ width) (hmin : min < 10000) :
    ∃ q, stod (coordinate width deg min) = .ok (.fin q) ∧
      Math.dmToDeg (.fin q) = .fin (deg + min / 10 ^ 2 / 60) :=
  ⟨_, stod_coordinate (by omega) (by omega) (by omega) (run_degMin hw hdeg hmin) run_hundredths,
    dmToDeg_text (by omega) hmin⟩

end

/-! ## Reports -/

/-- A report without its comment. -/
structure Header where
  src : Bytes
  path : Bytes
  hour : Nat
  minute : Nat
  second : Nat
  latDeg : Nat
  -- hundredths of a minute
  latMin : Nat
  south : Bool
  symTable : UInt8
  lonDeg : Nat
  lonMin : Nat
  west : Bool
  symCode : UInt8
  course : Nat
  speed : Nat
  feet : Nat
  src_chars : src ≠ [] ∧ ∀ b ∈ src, notSpace b = true ∧ b ≠ ch '>'
  src_first : src.head? ≠ some (ch '#')
  path_chars : path ≠ [] ∧ ∀ b ∈ path, notSpace b = true ∧ b ≠ ch ':'
  hour_lt : hour < 24
  minute_lt : minute < 60
  second_lt : second < 60
  latDeg_lt : latDeg < 100
  latMin_lt : latMin < 10000
  lonDeg_lt : lonDeg < 1000
  lonMin_lt : lonMin < 10000
  course_lt : course < 1000
  speed_lt : speed < 1000
  feet_lt : feet < 1000000

namespace Header

def time (r : Header) : Bytes :=
  zeroPad 2 r.hour ++ (zeroPad 2 r.minute ++ zeroPad 2 r.second)

def lat (r : Header) : Bytes := coordinate 2 r.latDeg r.latMin

def lon (r : Header) : Bytes := coordinate 3 r.lonDeg r.lonMin

def ns (r : Header) : UInt8 := if r.south then ch 'S' else ch 'N'

def ew (r : Header) : UInt8 := if r.west then ch 'W' else ch 'E'

-- Between the symbols, and behind them
def movement (r : Header) (comment : Bytes) : Bytes :=
  zeroPad 3 r.course ++ (str "/" ++ (zeroPad 3 r.speed ++ (str "/A=" ++ (zeroPad 6 r.feet ++
    (str " " ++ comment)))))

def fields (r : Header) (comment : Bytes) : Bytes :=
  r.time ++ (str "h" ++ (r.lat ++ ([r.ns] ++ ([r.symTable] ++ (r.lon ++ ([r.ew] ++ ([r.symCode] ++
    r.movement comment)))))))

/-- `SRC>APRS,PATH:/HHMMSShDDMM.mmN<sym>DDDMM.mmE<sym>CCC/SSS/A=FFFFFF COMMENT` -/
def text (r : Header) (comment : Bytes) : Bytes :=
  r.src ++ (str ">APRS," ++ (r.path ++ (str ":/" ++ r.fields comment)))

def groups (r : Header) (comment : Bytes) : Captures UInt8
  | 1 => r.time
  | 2 => r.lat
  | 3 => [r.ns]
  | 4 => r.lon
  | 5 => [r.ew]
  | 6 => zeroPad 3 r.course
  | 7 => zeroPad 3 r.speed
  | 8 => zeroPad 6 r.feet
  | 9 => comment
  | _ => []

theorem time_run (r : Header) : Regex.Run isDigit 6 r.time :=
  run_HHMMSS r.hour_lt r.minute_lt r.second_lt

open Regex in
/-- Behind the path every piece of the expression takes its own field. -/
theorem picks_fields (r : Header) {comment : Bytes} (hne : comment ≠ []) :
    Picks fieldsRE (r.fields comment) (fun _ => []) [] (r.groups comment) := by
  have hns : icase (fun b => b == ch 'N' || b == ch 'S') r.ns = true := by
    unfold ns
    split <;> decide
  have hew : icase (fun b => b == ch 'E' || b == ch 'W') r.ew = true := by
    unfold ew
    split <;> decide
  have hgroups : r.groups comment = Function.update (Function.update (Function.update (Function.update
      (Function.update (Function.update (Function.update (Function.update (Function.update
      (fun _ => []) RE_APRS_TIME r.time) RE_APRS_LAT r.lat) RE_APRS_LAT_DIR [r.ns])
      RE_APRS_LON r.lon) RE_APRS_LON_DIR [r.ew]) RE_APRS_HEAD (zeroPad 3 r.course))
      RE_APRS_GND_SPD (zeroPad 3 r.speed)) RE_APRS_ALT (zeroPad 6 r.feet))
      RE_APRS_COM comment := by
    funext n
    match n with
    | 0 | 1 | 2 | 3 | 4 | 5 | 6 | 7 | 8 | 9 => rfl
    | n + 10 => rfl
  have hcourse : Run isDigit 3 (zeroPad 3 r.course) := run_zeroPad (by omega) r.course_lt
  have hspeed : Run isDigit 3 (zeroPad 3 r.speed) := run_zeroPad (by omega) r.speed_lt
  have hfeet : Run isDigit 6 (zeroPad 6 r.feet) := run_zeroPad (by omega) r.feet_lt
  rw [hgroups]
  apply (Picks.group (Picks.run r.time_run)).seq
  apply (Picks.word _).seq
  apply (Picks.group (picks_coordinate (by omega) r.latDeg_lt r.latMin_lt)).seq
  apply (Picks.group (a := [r.ns]) (Picks.one hns)).seq
  -- The gap takes the symbol alone, since the longitude follows at once.
  apply Picks.plusLazy_one rfl
  apply (Picks.group (picks_coordinate (by omega) r.lonDeg_lt r.lonMin_lt)).seq
  apply (Picks.group (a := [r.ew]) (Picks.one hew)).seq
  -- The same again, and the optional group comes before its absence.
  apply Picks.plusLazy_one rfl
  apply Picks.seq
  · apply Picks.opt
    apply (Picks.group (Picks.run hcourse)).seq
    apply (Picks.word _).seq
    exact (Picks.group (Picks.run hspeed)).seq Picks.empty
  apply (Picks.word _).seq
  apply (Picks.group (Picks.run hfeet)).seq
  apply Picks.plusLazy_one (by decide)
  apply Picks.plusLazy_group_eos (anyByte_all _)
  exact hne

/-! ### The path -/

/-- No place that a run of `\S` can reach starts with `:/`. -/
def NoColonSlash (s : Bytes) : Prop :=
  ∀ a b, s = a ++ b → (∀ x ∈ a, notSpace x = true) → Regex.startsWord (str ":/") b = false

theorem eqNoCase_colon {b : UInt8} (h : b ≠ ch ':') : Regex.eqNoCase (ch ':') b = false :=
  Regex.eqNoCase_of_ne (by decide) (by decide) h

theorem startsWord_cons {a b : UInt8} {text s : Bytes} (h : Regex.eqNoCase a b = false) :
    Regex.startsWord (a :: text) (b :: s) = false := by
  rw [Regex.eqNoCase, beq_eq_false_iff_ne] at h
  simp [Regex.startsWord, Ne.symm h]

theorem NoColonSlash.cons {b : UInt8} {s : Bytes} (hs : NoColonSlash s)
    (hb : Regex.startsWord (str ":/") (b :: s) = false) : NoColonSlash (b :: s) := by
  intro a t heq ha
  cases a with
  | nil =>
      rw [List.nil_append] at heq
      rw [← heq]
      exact hb
  | cons x a =>
      rw [List.cons_append, List.cons.injEq] at heq
      exact hs a t heq.2 fun y hy => ha y (List.mem_cons_of_mem x hy)

theorem NoColonSlash.append {s t : Bytes} (ht : NoColonSlash t) (hs : ∀ b ∈ s, b ≠ ch ':') :
    NoColonSlash (s ++ t) := by
  induction s with
  | nil => exact ht
  | cons b s ih =>
      apply NoColonSlash.cons
      · exact ih fun b' hb' => hs b' (List.mem_cons_of_mem b hb')
      · exact startsWord_cons (eqNoCase_colon (hs b List.mem_cons_self))

-- A symbol may be a colon, but a digit follows it.
theorem NoColonSlash.symbol {sym : UInt8} {s : Bytes} (h : NoColonSlash s)
    (hdigit : ∀ d ∈ s.head?, isDigit d = true) : NoColonSlash ([sym] ++ s) := by
  have hslash : ∀ d : UInt8, isDigit d = true → toLower d ≠ toLower (ch '/') := by
    decide +kernel
  have hstr : str ":/" = [ch ':', ch '/'] := rfl
  apply h.cons
  cases s with
  | nil => simp [hstr, Regex.startsWord]
  | cons d s => simp [hstr, Regex.startsWord, hslash d (hdigit d rfl)]

theorem digit_of_mem_head {n : Nat} {digits s : Bytes} (h : Regex.Run isDigit (n + 1) digits) :
    ∀ d ∈ (digits ++ s).head?, isDigit d = true := by
  cases digits with
  | nil => cases h.length
  | cons b digits =>
      intro d hd
      cases hd
      exact h.all b List.mem_cons_self

theorem NoColonSlash.space (s : Bytes) : NoColonSlash (str " " ++ s) := by
  intro a b heq ha
  cases a with
  | nil =>
      rw [List.nil_append] at heq
      rw [← heq]
      exact startsWord_cons (by decide)
  | cons x a =>
      cases heq
      exact absurd (ha _ List.mem_cons_self) (by decide)

theorem ne_colon_of_isDigit : ∀ b : UInt8, isDigit b = true → b ≠ ch ':' := by decide +kernel

theorem colon_notMem_digits {n : Nat} {s : Bytes} (h : Regex.Run isDigit n s) :
    ∀ b ∈ s, b ≠ ch ':' := fun b hb => ne_colon_of_isDigit b (h.all b hb)

theorem NoColonSlash.coordinate {width deg min : Nat} (hw : 0 < width) (hdeg : deg < 10 ^ width)
    (hmin : min < 10000) {s : Bytes} (hs : NoColonSlash s) :
    NoColonSlash (coordinate width deg min ++ s) := by
  rw [AprsParser.coordinate, List.append_assoc, List.append_assoc]
  apply NoColonSlash.append _ (colon_notMem_digits (run_degMin hw hdeg hmin))
  apply NoColonSlash.append _ (by decide)
  exact NoColonSlash.append hs (colon_notMem_digits run_hundredths)

theorem noColonSlash_movement (r : Header) (comment : Bytes) :
    NoColonSlash (r.movement comment) := by
  have hcourse : Regex.Run isDigit 3 (zeroPad 3 r.course) := run_zeroPad (by omega) r.course_lt
  have hspeed : Regex.Run isDigit 3 (zeroPad 3 r.speed) := run_zeroPad (by omega) r.speed_lt
  have hfeet : Regex.Run isDigit 6 (zeroPad 6 r.feet) := run_zeroPad (by omega) r.feet_lt
  unfold movement
  apply NoColonSlash.append _ (colon_notMem_digits hcourse)
  apply NoColonSlash.append _ (by decide)
  apply NoColonSlash.append _ (colon_notMem_digits hspeed)
  apply NoColonSlash.append _ (by decide)
  apply NoColonSlash.append _ (colon_notMem_digits hfeet)
  exact NoColonSlash.space _

theorem noColonSlash_fields (r : Header) (comment : Bytes) :
    NoColonSlash (str "/" ++ r.fields comment) := by
  have hcourse : Regex.Run isDigit 3 (zeroPad 3 r.course) := run_zeroPad (by omega) r.course_lt
  have hlon : Regex.Run isDigit 5 (degMin 3 r.lonDeg r.lonMin) :=
    run_degMin (by omega) r.lonDeg_lt r.lonMin_lt
  have hns : ∀ b ∈ [r.ns], b ≠ ch ':' := by
    unfold ns
    split <;> decide
  have hew : ∀ b ∈ [r.ew], b ≠ ch ':' := by
    unfold ew
    split <;> decide
  unfold fields
  apply NoColonSlash.append _ (by decide)
  apply NoColonSlash.append _ (colon_notMem_digits r.time_run)
  apply NoColonSlash.append _ (by decide)
  apply NoColonSlash.coordinate (by omega) r.latDeg_lt r.latMin_lt
  apply NoColonSlash.append _ hns
  apply NoColonSlash.symbol
  · -- behind the first symbol
    apply NoColonSlash.coordinate (by omega) r.lonDeg_lt r.lonMin_lt
    apply NoColonSlash.append _ hew
    apply NoColonSlash.symbol (r.noColonSlash_movement comment)
    exact digit_of_mem_head hcourse
  · rw [lon, coordinate, List.append_assoc]
    exact digit_of_mem_head hlon

open Regex in
/-- The expression behind the first `\S+?` of the path. -/
def pathRE : Regex UInt8 :=
  .seq (.opt (.seq (word (str ",")) (plusLazy notSpace))) (concat [word (str ":/"), fieldsRE])

open Regex in
theorem picks_colon (r : Header) {comment : Bytes} (hne : comment ≠ []) :
    Picks (concat [word (str ":/"), fieldsRE]) (str ":/" ++ r.fields comment) (fun _ => []) []
      (r.groups comment) :=
  (Picks.word _).seq ((r.picks_fields hne).seq Picks.empty)

open Regex in
theorem colon_fails {b : UInt8} (hb : b ≠ ch ':') (s : Bytes) (c : Captures UInt8) :
    Fails (concat [word (str ":/"), fieldsRE]) (b :: s) c :=
  (Fails.word (eqNoCase_colon hb)).seq

open Regex in
/-- A comma at the end of the path starts the optional group, which then runs over `:/`. -/
theorem trailing_comma_fails (r : Header) (comment : Bytes) :
    Fails pathRE (ch ',' :: (str ":/" ++ r.fields comment)) (fun _ => []) := by
  have hgroup : Fails (.seq (plusLazy notSpace) (concat [word (str ":/"), fieldsRE]))
      (str ":/" ++ r.fields comment) (fun _ => []) := by
    apply Fails.plusLazy_seq
    intro a b heq hne ha
    cases a with
    | nil => exact absurd rfl hne
    | cons x a =>
        have hrest : str "/" ++ r.fields comment = a ++ b := (List.cons.inj heq).2
        have hno := r.noColonSlash_fields comment a b hrest
          fun y hy => ha y (List.mem_cons_of_mem x hy)
        apply Fails.word_seq
        intro hword
        rw [hword] at hno
        cases hno
  apply Fails.seq_opt
  · apply Fails.seq_assoc
    apply Fails.word_seq
    intro _
    exact hgroup
  · exact colon_fails (by decide) _ _

open Regex in
theorem picks_path (r : Header) {comment : Bytes} (hne : comment ≠ []) :
    Picks (.seq (plusLazy notSpace) pathRE) (r.path ++ (str ":/" ++ r.fields comment))
      (fun _ => []) [] (r.groups comment) := by
  have hend : Picks pathRE (str ":/" ++ r.fields comment) (fun _ => []) [] (r.groups comment) := by
    apply Picks.seq_opt_of_fails _ (r.picks_colon hne)
    exact (Fails.word (by decide)).seq.seq
  apply Picks.plusLazy_seq (fun b hb => (r.path_chars.2 b hb).1) r.path_chars.1 hend
  intro a₁ a₂ hpath _
  cases a₂ with
  | nil => exact .inr hend
  | cons b a₂ =>
      have hb : b ≠ ch ':' := (r.path_chars.2 b (by simp [hpath])).2
      by_cases hcomma : b = ch ','
      · subst hcomma
        cases a₂ with
        | nil => exact .inl (r.trailing_comma_fails comment)
        | cons d a₃ =>
            -- The group takes the rest of the path, which has no other colon.
            right
            apply Picks.seq_opt
            apply Picks.seq_assoc
            apply (Picks.word _).seq
            have hrest : ∀ x ∈ d :: a₃, notSpace x = true ∧ x ≠ ch ':' :=
              fun x hx => r.path_chars.2 x (by rw [hpath]; simp [hx])
            apply Picks.plusLazy_seq (fun x hx => (hrest x hx).1) (by simp) (r.picks_colon hne)
            intro a₃₁ a₃₂ heq _
            cases a₃₂ with
            | nil => exact .inr (r.picks_colon hne)
            | cons x a₃₂ => exact .inl (colon_fails (hrest x (by simp [heq])).2 _ _)
      · left
        apply Fails.seq_opt
        · exact (Fails.word (eqNoCase_of_ne (by decide) (by decide) hcomma)).seq.seq
        · exact colon_fails hb _ _

open Regex in
/-- The expression matches a report, and each group has its field. -/
theorem matchAll_text (r : Header) {comment : Bytes} (hne : comment ≠ []) :
    s_APRS_RE.matchAll (r.text comment) = some (r.groups comment) := by
  have haprs : Picks (.seq (word (str ">APRS,")) (.seq (plusLazy notSpace) pathRE))
      (str ">APRS," ++ (r.path ++ (str ":/" ++ r.fields comment))) (fun _ => []) []
      (r.groups comment) := (Picks.word _).seq (r.picks_path hne)
  apply Picks.matchAll
  apply Picks.plusLazy_seq (fun b hb => (r.src_chars.2 b hb).1) r.src_chars.1 haprs
  intro a₁ a₂ hsrc _
  cases a₂ with
  | nil => exact .inr haprs
  | cons b a₂ =>
      -- The source has no other `>`.
      left
      have hb : b ≠ ch '>' := (r.src_chars.2 b (by simp [hsrc])).2
      exact (Fails.word (eqNoCase_of_ne (by decide) (by decide) hb)).seq

/-! ### What is read -/

def latitude (r : Header) : ℚ :=
  let degree : ℚ := r.latDeg + r.latMin / 10 ^ 2 / 60
  if r.south then -degree else degree

def longitude (r : Header) : ℚ :=
  let degree : ℚ := r.lonDeg + r.lonMin / 10 ^ 2 / 60
  if r.west then -degree else degree

theorem doubleToInt_feet (r : Header) :
    ∃ altitude : Int32, Math.doubleToInt (.fin r.feet * Math.FEET_2_M) = altitude ∧
      altitude.toInt = round ((r.feet : ℚ) * 0.3048) := by
  have hfeet : (r.feet : ℚ) < 1000000 := by exact_mod_cast r.feet_lt
  have hnonneg : (0 : ℚ) ≤ (r.feet : ℚ) * 0.3048 := by positivity
  have hlo : 0 ≤ ⌊(r.feet : ℚ) * 0.3048 + 1 / 2⌋ := Int.floor_nonneg.mpr (by linarith)
  have hhi : ⌊(r.feet : ℚ) * 0.3048 + 1 / 2⌋ < 2 ^ 31 := by
    rw [Int.floor_lt]
    norm_num
    linarith
  refine ⟨_, Math.doubleToInt_of_nonneg hnonneg hhi, ?_⟩
  rw [Double.int32_toInt_ofInt (by omega) hhi, round_eq]

/-- The day is the one the clock suggests. -/
def timeStamp (r : Header) (clock : DateTime) : TimeStamp :=
  let value : Int := r.hour * 3600000 + r.minute * 60000 + r.second * 1000
  { m_value := value
    m_day := if value ≥ clock.now then clock.day - 1 else clock.day }

theorem text_head (r : Header) (comment : Bytes) : ¬ (r.text comment).head? = some (ch '#') := by
  have hfirst := r.src_first
  have hne := r.src_chars.1
  unfold text
  cases hsrc : r.src with
  | nil => exact absurd hsrc hne
  | cons b src =>
      rw [hsrc] at hfirst
      exact hfirst

def position (r : Header) (altitude : Int32) : Position where
  latitude := .fin r.latitude
  longitude := .fin r.longitude
  altitude := altitude

theorem parsePosition_groups (r : Header) (comment : Bytes) :
    ∃ altitude : Int32, altitude.toInt = round ((r.feet : ℚ) * 0.3048) ∧
      ∀ s_maxHeight aircraft, parsePosition s_maxHeight (r.groups comment) aircraft =
        (decide (round ((r.feet : ℚ) * 0.3048) ≤ s_maxHeight.toInt),
         { aircraft with m_position := r.position altitude }) := by
  obtain ⟨altitude, halt, hround⟩ := r.doubleToInt_feet
  obtain ⟨lat, hlat, hlatDeg⟩ : ∃ q, stod (r.groups comment RE_APRS_LAT) = .ok (.fin q) ∧ _ :=
    stod_coordinateText (by omega) (by omega) r.latDeg_lt r.latMin_lt
  obtain ⟨lon, hlon, hlonDeg⟩ : ∃ q, stod (r.groups comment RE_APRS_LON) = .ok (.fin q) ∧ _ :=
    stod_coordinateText (by omega) (by omega) r.lonDeg_lt r.lonMin_lt
  have hfeet : stod (r.groups comment RE_APRS_ALT) = .ok (.fin r.feet) :=
    stod_zeroPad (by omega) (by omega) r.feet_lt
  have hns : signed (r.groups comment RE_APRS_LAT_DIR) (str "S") (Math.dmToDeg (.fin lat)) =
      .fin r.latitude := by
    rw [hlatDeg]
    exact signed_ofBool (by decide) _
  have hew : signed (r.groups comment RE_APRS_LON_DIR) (str "W") (Math.dmToDeg (.fin lon)) =
      .fin r.longitude := by
    rw [hlonDeg]
    exact signed_ofBool (by decide) _
  refine ⟨altitude, hround, fun s_maxHeight aircraft => ?_⟩
  have hle : decide (altitude ≤ s_maxHeight) =
      decide (round ((r.feet : ℚ) * 0.3048) ≤ s_maxHeight.toInt) := by
    rw [decide_eq_decide, Int32.le_iff_toInt_le, hround]
  rw [parsePosition_of_fields hlat hlon hfeet, halt, hns, hew, hle]
  rfl

theorem parseTimeStamp_groups (r : Header) (comment : Bytes) (clock : DateTime) (aircraft : Aircraft) :
    parseTimeStamp clock (r.groups comment) aircraft =
      (true, { aircraft with m_timeStamp := r.timeStamp clock }) := by
  have hmake : TimeStamp.make clock (r.groups comment RE_APRS_TIME) .HHMMSS = .ok (r.timeStamp clock) :=
    TimeStamp.make_HHMMSS clock r.hour_lt r.minute_lt r.second_lt
  unfold parseTimeStamp
  rw [hmake]

theorem parseMovement_groups (r : Header) (comment : Bytes) {comGroups : Captures UInt8}
    {climb : ℚ} (hclimb : stod (comGroups RE_APRS_COM_CR) = .ok (.fin climb))
    (aircraft : Aircraft) :
    parseMovement (r.groups comment) comGroups aircraft =
      (true, { aircraft with m_movement := {
        heading := .fin r.course
        gndSpeed := .fin (r.speed * 0.514444)
        climbRate := .fin (climb * 0.00508) } }) := by
  have hcourse : stod (r.groups comment RE_APRS_HEAD) = .ok (.fin r.course) :=
    stod_zeroPad (by omega) (by omega) r.course_lt
  have hspeed : stod (r.groups comment RE_APRS_GND_SPD) = .ok (.fin r.speed) :=
    stod_zeroPad (by omega) (by omega) r.speed_lt
  rw [parseMovement_of_fields hcourse hspeed hclimb]
  rfl

/-- A report with a comment is read up to the comment, unless it is too high. -/
theorem unpack_comment (r : Header) (boost : BoostRegex) (clock : DateTime) (s_maxHeight : Int32)
    {comment : Bytes} (hne : comment ≠ []) {comGroups : Captures UInt8}
    (hcomment : s_APRSExtRE.matchAll comment = some comGroups) (aircraft : Aircraft) :
    ∃ altitude : Int32, altitude.toInt = round ((r.feet : ℚ) * 0.3048) ∧
      unpack boost clock s_maxHeight (r.text comment) aircraft =
        if round ((r.feet : ℚ) * 0.3048) ≤ s_maxHeight.toInt then
          match parseComment comGroups { aircraft with
            m_position := r.position altitude, m_timeStamp := r.timeStamp clock } with
          | (false, aircraft) => (false, aircraft)
          | (true, aircraft) =>
              let (fullInfo, aircraft) := parseMovement (r.groups comment) comGroups aircraft
              (true, { aircraft with m_fullInfo := fullInfo, m_targetType := .FLARM })
        else (false, { aircraft with m_position := r.position altitude }) := by
  obtain ⟨altitude, hround, hposition⟩ := r.parsePosition_groups comment
  have hcom : boost.regex_match s_APRSExtRE (r.groups comment RE_APRS_COM) = some comGroups := by
    rw [boost.perl]
    exact hcomment
  refine ⟨altitude, hround, ?_⟩
  unfold unpack
  rw [if_neg (r.text_head comment), boost.perl, r.matchAll_text hne]
  simp only [hposition]
  -- A height above the limit ends the function before the time stamp is read.
  by_cases hheight : round ((r.feet : ℚ) * 0.3048) ≤ s_maxHeight.toInt
  · rcases hparse : parseComment comGroups { aircraft with
      m_position := r.position altitude, m_timeStamp := r.timeStamp clock } with ⟨_ | _, after⟩
    · simp only [hheight, decide_true, if_true, r.parseTimeStamp_groups comment, hcom, hparse]
    · simp only [hheight, decide_true, if_true, r.parseTimeStamp_groups comment, hcom, hparse]
  · simp only [hheight, decide_false, if_false]

/-- What an accepted report leaves of its movement. -/
theorem unpack_accepted (r : Header) {boost : BoostRegex} {clock : DateTime} {s_maxHeight : Int32}
    {comment : Bytes} (hne : comment ≠ []) {comGroups : Captures UInt8}
    (hcomment : s_APRSExtRE.matchAll comment = some comGroups) {aircraft : Aircraft}
    (h : (unpack boost clock s_maxHeight (r.text comment) aircraft).1 = true) :
    ∃ commented, (unpack boost clock s_maxHeight (r.text comment) aircraft).2 =
      { (parseMovement (r.groups comment) comGroups commented).2 with
        m_fullInfo := (parseMovement (r.groups comment) comGroups commented).1
        m_targetType := .FLARM } := by
  obtain ⟨altitude, -, hunpack⟩ := r.unpack_comment boost clock s_maxHeight hne hcomment aircraft
  rw [hunpack] at h ⊢
  split at h
  next hheight =>
    split at h
    next => cases h
    next commented hcommented => exact ⟨commented, by rw [if_pos hheight]⟩
  next => cases h

end Header

end AprsParser

end VirtualFlightRadar
