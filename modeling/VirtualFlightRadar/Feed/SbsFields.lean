import VirtualFlightRadar.Cxx.Decimal
import VirtualFlightRadar.Feed.SbsParser

/-!
# The fields of an SBS line

The walk over a line from comma to comma takes the fields that splitting the line gives.  What it
makes of them is less strict than it looks: it never looks at the id, and `stod` is content with a
prefix of a field.
-/

open Cxx

namespace VirtualFlightRadar

namespace SbsParser

/-- `parseField` over a list of fields that starts with number `i`. -/
def parseList [Rounding] (clock : DateTime) : Nat → List Bytes → Position → Aircraft →
    Except StdError (Position × Aircraft)
  | _, [], pos, aircraft => .ok (pos, aircraft)
  | i, text :: fields, pos, aircraft => do
      let (pos, aircraft) ← parseField clock i text pos aircraft
      parseList clock (i + 1) fields pos aircraft

theorem find_none_iff {sentence : Bytes} {p : Nat} :
    find (ch ',') sentence p = none ↔ ch ',' ∉ sentence.drop p := by
  rw [find, Option.map_eq_none_iff, List.findIdx?_eq_none_iff]
  simp only [beq_eq_false_iff_ne]
  constructor
  · exact fun h hmem => h _ hmem rfl
  · rintro h b hb rfl
    exact h hb

/-- The text in front of the comma that `find` finds is the first field of the rest. -/
theorem splitOn_find {sentence : Bytes} {p delim : Nat}
    (h : find (ch ',') sentence p = some delim) :
    (sentence.drop p).splitOn (ch ',') = (sentence.drop p).take (delim - p) ::
      (sentence.drop (delim + 1)).splitOn (ch ',') := by
  obtain ⟨htext, hrest⟩ := find_cut h
  have hmem : ch ',' ∈ sentence.drop p := by
    by_contra hnot
    rw [find_none_iff.mpr hnot] at h
    cases h
  rw [htext, hrest]
  generalize sentence.drop p = s at hmem
  obtain ⟨a, b, rfl, ha⟩ := List.eq_append_cons_of_mem hmem
  have hne : ∀ x ∈ a, (x != ch ',') = true := fun x hx => bne_iff_ne.mpr fun he => ha (he ▸ hx)
  rw [List.takeWhile_append_of_pos hne, List.dropWhile_append_of_pos hne,
    List.takeWhile_cons_of_neg (by decide), List.dropWhile_cons_of_neg (by decide),
    List.append_nil, List.drop_one, List.tail_cons, List.splitOn_append_cons_self_of_not_mem ha]

/-- The walk gets through to field sixteen exactly if there are enough fields behind `p` and all that
it passes are converted. -/
theorem parseFields_iff_parseList [Rounding] {clock : DateTime} {sentence : Bytes} {rounds : Nat} {s : Fields}
    (hi : s.i + rounds = 16) {pos : Position} {aircraft : Aircraft} :
    (∃ p, parseFields clock sentence rounds s = (true, ⟨p, 16, pos, aircraft⟩)) ↔
      rounds < ((sentence.drop s.p).splitOn (ch ',')).length ∧
        parseList clock s.i (((sentence.drop s.p).splitOn (ch ',')).take rounds) s.pos s.aircraft =
          .ok (pos, aircraft) := by
  induction rounds generalizing s with
  | zero =>
      have hpos : 0 < ((sentence.drop s.p).splitOn (ch ',')).length :=
        List.length_pos_iff.mpr (List.splitOn_ne_nil _ _)
      obtain ⟨p, i, pos', aircraft'⟩ := s
      simp only [Nat.add_zero] at hi
      subst hi
      simp only [parseFields, Prod.mk.injEq, true_and, Fields.mk.injEq, exists_eq_left', hpos,
        List.take_zero, parseList, Except.ok.injEq]
  | succ rounds ih =>
      rw [parseFields]
      cases hfind : find (ch ',') sentence s.p with
      | none =>
          have hone : (sentence.drop s.p).splitOn (ch ',') = [sentence.drop s.p] :=
            List.splitOn_eq_singleton (find_none_iff.mp hfind)
          simp only [hone, List.length_singleton]
          constructor
          · rintro ⟨p, hp⟩
            cases hp
            simp only at hi
            omega
          · rintro ⟨hlt, -⟩
            omega
      | some delim =>
          have hlt : s.i < 16 := by omega
          rw [splitOn_find hfind]
          simp only [hlt, if_true, List.length_cons, List.take_succ_cons, parseList]
          cases hfield : parseField clock s.i ((sentence.drop s.p).take (delim - s.p)) s.pos
              s.aircraft with
          | error e =>
              simp [bind, Except.bind]
          | ok parsed =>
              obtain ⟨pos', aircraft'⟩ := parsed
              have hstep := ih (s := ⟨delim + 1, s.i + 1, pos', aircraft'⟩) (by simp only; omega)
              simp only at hstep ⊢
              rw [hstep, Nat.add_lt_add_iff_right]
              rfl

/-- The five fields that are read, of the fourteen that are passed. -/
theorem parseList_iff [Rounding] {clock : DateTime} {pos pos' : Position} {aircraft aircraft' : Aircraft} :
    ∀ fields : List Bytes, 14 < fields.length →
    (parseList clock 2 (fields.take 14) pos aircraft = .ok (pos', aircraft') ↔
      ∃ timeStamp feet latitude longitude,
        TimeStamp.make clock (fields.getD 5 []) .HH_MM_SS_FFF = .ok timeStamp ∧
        stod (fields.getD 9 []) = .ok feet ∧ stod (fields.getD 12 []) = .ok latitude ∧
        stod (fields.getD 13 []) = .ok longitude ∧
        pos' = { latitude := latitude, longitude := longitude,
                 altitude := Math.doubleToInt (feet * Math.FEET_2_M) } ∧
        aircraft' = { aircraft with m_id := fields.getD 2 [], m_timeStamp := timeStamp })
  | _ :: _ :: _ :: _ :: _ :: _ :: _ :: _ :: _ :: _ :: _ :: _ :: _ :: _ :: _ :: _, _ => by
    simp only [List.take_succ_cons, List.take_zero, List.getD_cons_succ, List.getD_cons_zero]
    constructor
    · intro h
      simp only [parseList, bind_eq_ok] at h
      obtain ⟨_, h₂, _, h₃, _, h₄, _, h₅, _, h₆, _, h₇, _, h₈, _, h₉, _, h₁₀, _, h₁₁, _, h₁₂, _, h₁₃,
        _, h₁₄, _, h₁₅, hend⟩ := h
      cases h₂
      cases h₃
      cases h₄
      cases h₅
      cases h₆
      obtain ⟨timeStamp, htime, hset⟩ := bind_eq_ok.mp h₇
      cases hset
      cases h₈
      cases h₉
      cases h₁₀
      obtain ⟨feet, hfeet, hset⟩ := bind_eq_ok.mp h₁₁
      cases hset
      cases h₁₂
      cases h₁₃
      obtain ⟨latitude, hlat, hset⟩ := bind_eq_ok.mp h₁₄
      cases hset
      obtain ⟨longitude, hlon, hset⟩ := bind_eq_ok.mp h₁₅
      cases hset
      cases hend
      exact ⟨timeStamp, feet, latitude, longitude, htime, hfeet, hlat, hlon, rfl, rfl⟩
    · rintro ⟨timeStamp, feet, latitude, longitude, htime, hfeet, hlat, hlon, rfl, rfl⟩
      simp only [parseList, parseField, SBS_FIELD_ID, SBS_FIELD_TIME, SBS_FIELD_ALT, SBS_FIELD_LAT,
      SBS_FIELD_LON, htime, hfeet, hlat, hlon]
      rfl

/-- Field `n` of a line, where byte six starts field two. -/
def lineField (sentence : Bytes) (n : Nat) : Bytes :=
  ((sentence.drop 6).splitOn (ch ',')).getD (n - 2) []

/-- A line is accepted for its kind and for what its fields from byte six on are. -/
theorem unpack_iff_lineFields [Rounding] {clock : DateTime} {s_maxHeight : Int32} {sentence : Bytes}
    {aircraft aircraft' : Aircraft} :
    unpack clock s_maxHeight sentence aircraft = (true, aircraft') ↔
      sentence[4]? = some (ch '3') ∧ 14 < ((sentence.drop 6).splitOn (ch ',')).length ∧
      ∃ timeStamp feet latitude longitude,
        TimeStamp.make clock (lineField sentence 7) .HH_MM_SS_FFF = .ok timeStamp ∧
        stod (lineField sentence 11) = .ok feet ∧ stod (lineField sentence 14) = .ok latitude ∧
        stod (lineField sentence 15) = .ok longitude ∧
        Math.doubleToInt (feet * Math.FEET_2_M) ≤ s_maxHeight ∧
        aircraft' = { aircraft with
          m_id := lineField sentence 4
          m_timeStamp := timeStamp
          m_position := { latitude := latitude, longitude := longitude,
                          altitude := Math.doubleToInt (feet * Math.FEET_2_M) }
          m_targetType := .TRANSPONDER
          m_aircraftType := .POWERED_AIRCRAFT
          m_idType := .ICAO } := by
  have hwalk (pos : Position) (walked : Aircraft) :
      (∃ p, parseFields clock sentence 14 { aircraft := aircraft } =
        (true, ⟨p, 16, pos, walked⟩)) ↔ 14 < ((sentence.drop 6).splitOn (ch ',')).length ∧
          parseList clock 2 (((sentence.drop 6).splitOn (ch ',')).take 14) {} aircraft =
            .ok (pos, walked) :=
    parseFields_iff_parseList rfl
  unfold unpack lineField
  constructor
  · intro h
    split at h
    · cases h
    · rename_i hguard
      split at h
      · cases h
      · rename_i s hloop
        obtain ⟨p, i, pos, walked⟩ := s
        simp only [Prod.mk.injEq, Bool.and_eq_true, decide_eq_true_eq] at h
        obtain ⟨⟨rfl, hheight⟩, rfl⟩ := h
        obtain ⟨hlt, hlist⟩ := (hwalk pos walked).mp ⟨p, hloop⟩
        obtain ⟨timeStamp, feet, latitude, longitude, htime, hfeet, hlat, hlon, rfl, rfl⟩ :=
          (parseList_iff _ hlt).mp hlist
        exact ⟨not_not.mp (not_or.mp hguard).2, hlt, timeStamp, feet, latitude, longitude, htime,
          hfeet, hlat, hlon, hheight, rfl⟩
  · rintro ⟨hkind, hlt, timeStamp, feet, latitude, longitude, htime, hfeet, hlat, hlon, hheight, rfl⟩
    have hlist : parseList clock 2 (((sentence.drop 6).splitOn (ch ',')).take 14) {} aircraft =
        .ok (_, _) :=
      (parseList_iff _ hlt).mpr
        ⟨timeStamp, feet, latitude, longitude, htime, hfeet, hlat, hlon, rfl, rfl⟩
    obtain ⟨p, hloop⟩ := (hwalk _ _).mpr ⟨hlt, hlist⟩
    have hcomma : find (ch ',') sentence 6 ≠ none := by
      intro hnone
      rw [find_none_iff] at hnone
      rw [List.splitOn_eq_singleton hnone, List.length_singleton] at hlt
      omega
    rw [if_neg (by rw [hkind]; simp [hcomma]), hloop]
    simp only [decide_true, Bool.true_and, hheight]
    rfl

/-- What a parser that splits a line into its fields would make of it. -/
def SplitsTo (clock : DateTime) (s_maxHeight : Int32) (sentence : Bytes)
    (aircraft aircraft' : Aircraft) : Prop :=
  17 ≤ (sentence.splitOn (ch ',')).length ∧ ∃ timeStamp feet latitude longitude,
    TimeStamp.make clock (field sentence 7) .HH_MM_SS_FFF = .ok timeStamp ∧
    stod (field sentence 11) = .ok feet ∧ stod (field sentence 14) = .ok latitude ∧
    stod (field sentence 15) = .ok longitude ∧
    Math.doubleToInt (feet * Math.FEET_2_M) ≤ s_maxHeight ∧
    aircraft' = { aircraft with
      m_id := field sentence 4
      m_timeStamp := timeStamp
      m_position := { latitude := latitude, longitude := longitude,
                      altitude := Math.doubleToInt (feet * Math.FEET_2_M) }
      m_targetType := .TRANSPONDER
      m_aircraftType := .POWERED_AIRCRAFT
      m_idType := .ICAO }

/-- A line of the right kind is accepted for what its fields are. -/
theorem unpack_true_iff {clock : DateTime} {s_maxHeight : Int32} {sentence : Bytes}
    (h : str "MSG,3," <+: sentence) {aircraft aircraft' : Aircraft} :
    unpack clock s_maxHeight sentence aircraft = (true, aircraft') ↔
      SplitsTo clock s_maxHeight sentence aircraft aircraft' := by
  obtain ⟨rest, rfl⟩ := h
  have hdrop : (str "MSG,3," ++ rest).drop 6 = rest := rfl
  have hkind : (str "MSG,3," ++ rest)[4]? = some (ch '3') := rfl
  have hsplit : (str "MSG,3," ++ rest).splitOn (ch ',') =
      str "MSG" :: str "3" :: rest.splitOn (ch ',') := by
    have hcut : str "MSG,3," ++ rest = str "MSG" ++ ch ',' :: (str "3" ++ ch ',' :: rest) := rfl
    rw [hcut, List.splitOn_append_cons_self_of_not_mem (by decide),
      List.splitOn_append_cons_self_of_not_mem (by decide)]
  have hfield (n : Nat) : field (str "MSG,3," ++ rest) (n + 2) =
      lineField (str "MSG,3," ++ rest) (n + 2) := by
    rw [field, hsplit]
    rfl
  have hlen : 17 ≤ ((str "MSG,3," ++ rest).splitOn (ch ',')).length ↔
      14 < (((str "MSG,3," ++ rest).drop 6).splitOn (ch ',')).length := by
    rw [hsplit, List.length_cons, List.length_cons, hdrop]
    omega
  rw [unpack_iff_lineFields, SplitsTo, hlen, hfield 2, hfield 5, hfield 9, hfield 12, hfield 13]
  simp only [hkind, true_and]

theorem eq_of_accepted [Rounding] {clock : DateTime} {s_maxHeight : Int32} {sentence : Bytes}
    {aircraft : Aircraft} (h : (unpack clock s_maxHeight sentence aircraft).1 = true) :
    unpack clock s_maxHeight sentence aircraft =
      (true, (unpack clock s_maxHeight sentence aircraft).2) := Prod.ext h rfl

/-- Walking is splitting, and what follows field fifteen does not matter. -/
theorem unpack_eq_split (clock : DateTime) (s_maxHeight : Int32) {sentence : Bytes}
    (h : str "MSG,3," <+: sentence) (aircraft aircraft' : Aircraft) :
    (unpack clock s_maxHeight sentence aircraft = (true, aircraft') ↔
      SplitsTo clock s_maxHeight sentence aircraft aircraft') ∧
    ∀ other, str "MSG,3," <+: other → 17 ≤ (sentence.splitOn (ch ',')).length →
      17 ≤ (other.splitOn (ch ',')).length →
      (other.splitOn (ch ',')).take 16 = (sentence.splitOn (ch ',')).take 16 →
      (unpack clock s_maxHeight other aircraft = (true, aircraft') ↔
        unpack clock s_maxHeight sentence aircraft = (true, aircraft')) := by
  refine ⟨unpack_true_iff h, fun other hother hlen hlen' htake => ?_⟩
  have hfield (n : Nat) (hn : n < 16) : field other n = field sentence n := by
    have hget := congrArg (fun fields => fields.getD n []) htake
    simpa only [field, List.getD_eq_getElem?_getD, List.getElem?_take, hn, if_true] using hget
  rw [unpack_true_iff hother, unpack_true_iff h, SplitsTo, SplitsTo, hfield 4 (by omega), hfield 7 (by omega),
    hfield 11 (by omega), hfield 14 (by omega), hfield 15 (by omega)]
  simp only [hlen, hlen']

/-- A line with nothing but the fields that are read. -/
theorem unpack_eq_split_line :
    let line := str "MSG,3,,,AAAAAA,,,20:11:30.772,,,,1000,,,49.000000,8.000000,"
    SplitsTo ⟨0, 0⟩ 400 line {} (unpack ⟨0, 0⟩ 400 line {}).2 := by
  intro line
  have haccepted : (unpack ⟨0, 0⟩ 400 line {}).1 = true := by decide +kernel
  exact (unpack_eq_split ⟨0, 0⟩ 400 (by decide) {} _).1.mp (eq_of_accepted haccepted)

/-! ## Strictness -/

/-- A line of the right kind with an id, whose numbers are decimal numbers and nothing else. -/
structure Strict (sentence : Bytes) : Prop where
  kind : str "MSG,3," <+: sentence
  id : field sentence 4 ≠ []
  altitude : DecimalText (field sentence 11)
  latitude : DecimalText (field sentence 14)
  longitude : DecimalText (field sentence 15)

/-- `stod` reads the field up to its end, and no byte of it belongs to a hexadecimal number, an
infinity, a NaN or white space. -/
def readWhole (text : Bytes) : Bool :=
  text.all isNumeric && (stodIdx text).toOption.map Prod.snd == some text.length

theorem decimalText_iff {text : Bytes} {x : Double} (h : stod text = .ok x) :
    DecimalText text ↔ readWhole text = true := by
  rw [readWhole, Bool.and_eq_true, List.all_eq_true, beq_iff_eq]
  constructor
  · rintro ⟨d, rfl⟩
    refine ⟨d.text_numeric, ?_⟩
    have hidx := d.stodIdx_text
    split at hidx
    · -- A number out of range would not have been accepted.
      rw [stod, hidx] at h
      cases h
    · rw [hidx]
      rfl
  · rintro ⟨hnumeric, hlen⟩
    cases hidx : stodIdx text with
    | error e =>
        rw [hidx] at hlen
        cases hlen
    | ok parsed =>
        obtain ⟨y, n⟩ := parsed
        rw [hidx] at hlen
        cases hlen
        exact decimalText_of_stodIdx hnumeric hidx

theorem kind_of_unpack {clock : DateTime} {s_maxHeight : Int32} {sentence : Bytes}
    {aircraft : Aircraft} (h : (unpack clock s_maxHeight sentence aircraft).1 = true) :
    sentence[4]? = some (ch '3') := by
  unfold unpack at h
  split at h
  next => cases h
  next hguard => exact not_not.mp (not_or.mp hguard).2

/-- An accepted line is as strict as it should be exactly if the bytes around its kind are right,
which nobody compares, it has an id, which nobody looks at, and `stod` leaves nothing of its numbers
unread. -/
theorem strict_iff (clock : DateTime) (s_maxHeight : Int32) (sentence : Bytes)
    (aircraft : Aircraft) (h : (unpack clock s_maxHeight sentence aircraft).1 = true) :
    Strict sentence ↔ sentence.take 4 = str "MSG," ∧ sentence[5]? = some (ch ',') ∧
      field sentence 4 ≠ [] ∧ readWhole (field sentence 11) = true ∧
      readWhole (field sentence 14) = true ∧
      readWhole (field sentence 15) = true := by
  have hkind : str "MSG,3," <+: sentence ↔
      sentence.take 4 = str "MSG," ∧ sentence[5]? = some (ch ',') := by
    have hthree := kind_of_unpack h
    constructor
    · rintro ⟨rest, rfl⟩
      exact ⟨rfl, rfl⟩
    · rintro ⟨hmsg, hcomma⟩
      have htake : sentence.take 6 = str "MSG,3," := by
        rw [List.take_add_one, List.take_add_one, hmsg, hthree, hcomma]
        rfl
      rw [← htake]
      exact List.take_prefix 6 sentence
  by_cases hstart : str "MSG,3," <+: sentence
  · obtain ⟨-, -, feet, latitude, longitude, -, hfeet, hlat, hlon, -⟩ :=
      (unpack_true_iff hstart).mp (eq_of_accepted h)
    rw [← decimalText_iff hfeet, ← decimalText_iff hlat, ← decimalText_iff hlon]
    constructor
    · intro hstrict
      exact ⟨(hkind.mp hstart).1, (hkind.mp hstart).2, hstrict.id, hstrict.altitude,
        hstrict.latitude, hstrict.longitude⟩
    · rintro ⟨-, -, hid, halt, hlat, hlon⟩
      exact ⟨hstart, hid, halt, hlat, hlon⟩
  · constructor
    · intro hstrict
      exact absurd hstrict.kind hstart
    · rintro ⟨hmsg, hcomma, -⟩
      exact absurd (hkind.mpr ⟨hmsg, hcomma⟩) hstart

theorem strict_line :
    Strict (str "MSG,3,,,AAAAAA,,,20:11:30.772,,,,1000,,,49.000000,8.000000,") := by
  rw [strict_iff ⟨0, 0⟩ 400 _ {} (by decide +kernel)]
  decide +kernel

/-- The corrupted altitude of the tests, with coordinates: 100 feet. -/
theorem not_strict_corrupted :
    let line := str "MSG,3,,,AAAAAA,,,20:11:30.772,,,,100#0,,,49.000000,8.000000,"
    (unpack ⟨0, 0⟩ 400 line {}).1 = true ∧ (unpack ⟨0, 0⟩ 400 line {}).2.m_position.altitude = 30 ∧
      ¬ Strict line := by
  intro line
  refine ⟨by decide +kernel, by decide +kernel, fun h => ?_⟩
  obtain ⟨d, hd⟩ := h.altitude
  have hfield : field line 11 = str "100#0" := by decide
  have hhash := d.text_numeric (ch '#') (by rw [hd, hfield]; decide)
  exact absurd hhash (by decide)

end SbsParser

end VirtualFlightRadar
