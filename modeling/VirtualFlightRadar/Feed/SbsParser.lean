import VirtualFlightRadar.Feed.Sentence

/-!
# Parsing of SBS lines

`SbsParser` walks over the comma-separated fields of a line from its seventh byte on, which is
field two of a line that starts with `MSG,3,`.  The id is whatever stands in field four, and the
processor prints it into the sentences as it is.
-/

open Cxx

namespace VirtualFlightRadar

namespace SbsParser

def SBS_FIELD_ID : Nat := 4
def SBS_FIELD_TIME : Nat := 7
def SBS_FIELD_ALT : Nat := 11
def SBS_FIELD_LAT : Nat := 14
def SBS_FIELD_LON : Nat := 15

def parseField [Rounding] (clock : DateTime) (fieldNr : Nat) (field : Bytes) (position : Position)
    (aircraft : Aircraft) : Except StdError (Position × Aircraft) :=
  if fieldNr = SBS_FIELD_ID then .ok (position, { aircraft with m_id := field })
  else if fieldNr = SBS_FIELD_TIME then do
    let timeStamp ← TimeStamp.make clock field .HH_MM_SS_FFF
    return (position, { aircraft with m_timeStamp := timeStamp })
  else if fieldNr = SBS_FIELD_ALT then do
    let feet ← stod field
    return ({ position with altitude := Math.doubleToInt (feet * Math.FEET_2_M) }, aircraft)
  else if fieldNr = SBS_FIELD_LAT then do
    let latitude ← stod field
    return ({ position with latitude := latitude }, aircraft)
  else if fieldNr = SBS_FIELD_LON then do
    let longitude ← stod field
    return ({ position with longitude := longitude }, aircraft)
  else .ok (position, aircraft)

/-- The locals of `unpack`, and the aircraft it fills. -/
structure Fields where
  p : Nat := 6
  i : Nat := 2
  pos : Position := {}
  aircraft : Aircraft

/-- The loop over the fields, with `false` where a field does not convert. -/
def parseFields [Rounding] (clock : DateTime) (sentence : Bytes) : Nat → Fields → Bool × Fields
  | 0, s => (true, s)
  | rounds + 1, s =>
      match find (ch ',') sentence s.p with
      | none => (true, s)
      | some delim =>
          if s.i < 16 then
            let field := (sentence.drop s.p).take (delim - s.p)
            match parseField clock s.i field s.pos s.aircraft with
            | .error _ => (false, s)
            | .ok (pos, aircraft) =>
                parseFields clock sentence rounds
                  { p := delim + 1, i := s.i + 1, pos := pos, aircraft := aircraft }
          else (true, s)

def unpack [Rounding] (clock : DateTime) (s_maxHeight : Int32) (sentence : Bytes)
    (aircraft : Aircraft) : Bool × Aircraft :=
  if find (ch ',') sentence 6 = none ∨ ¬ sentence[4]? = some (ch '3') then (false, aircraft)
  else
    -- Fourteen rounds take `i` from 2 to 16, where the loop ends by itself.
    match parseFields clock sentence 14 { aircraft := aircraft } with
    | (false, s) => (false, s.aircraft)
    | (true, s) =>
        -- The position is set even if it is too high.
        let aircraft := { s.aircraft with m_position := s.pos, m_targetType := .TRANSPONDER }
        let aircraft := (aircraft.set_aircraftType .POWERED_AIRCRAFT).set_idType .ICAO
        (s.i = 16 && s.pos.altitude ≤ s_maxHeight, aircraft)

/-! ## What is accepted -/

/-- The bytes up to the next comma. -/
def fieldText (s : Bytes) : Bytes := s.takeWhile (· != ch ',')

def afterComma (s : Bytes) : Bytes := (s.dropWhile (· != ch ',')).drop 1

/-- Field four of a line, where byte six starts field two. -/
def idField (sentence : Bytes) : Bytes := fieldText (afterComma (afterComma (sentence.drop 6)))

theorem comma_notMem_fieldText (s : Bytes) : ch ',' ∉ fieldText s := by
  intro hmem
  have hne := List.mem_takeWhile_imp hmem
  exact absurd hne (by decide)

theorem parseField_aircraft [Rounding] {clock : DateTime} {fieldNr : Nat} {field : Bytes}
    {position position' : Position} {aircraft aircraft' : Aircraft}
    (h : parseField clock fieldNr field position aircraft = .ok (position', aircraft')) :
    ∃ timeStamp, aircraft' = { aircraft with
      m_id := if fieldNr = SBS_FIELD_ID then field else aircraft.m_id
      m_timeStamp := timeStamp } := by
  unfold parseField at h
  split at h
  next hid =>
    cases h
    exact ⟨aircraft.m_timeStamp, by rw [if_pos hid]⟩
  next hid =>
    rw [if_neg hid]
    split at h
    · cases hstamp : TimeStamp.make clock field .HH_MM_SS_FFF with
      | error e =>
          rw [hstamp] at h
          cases h
      | ok timeStamp =>
          rw [hstamp] at h
          cases h
          exact ⟨timeStamp, rfl⟩
    · -- The other fields only write the position.
      refine ⟨aircraft.m_timeStamp, ?_⟩
      split at h
      · cases hfeet : stod field <;> rw [hfeet] at h <;> cases h
        rfl
      · split at h
        · cases hlat : stod field <;> rw [hlat] at h <;> cases h
          rfl
        · split at h
          · cases hlon : stod field <;> rw [hlon] at h <;> cases h
            rfl
          · cases h
            rfl

/-- The loop writes nothing but the id, from field four, and the time stamp. -/
theorem parseFields_aircraft [Rounding] {clock : DateTime} {sentence : Bytes} {rounds : Nat} {s s' : Fields}
    (h : parseFields clock sentence rounds s = (true, s')) :
    ∃ id timeStamp, s'.aircraft = { s.aircraft with m_id := id, m_timeStamp := timeStamp } ∧
      (SBS_FIELD_ID < s.i → id = s.aircraft.m_id) ∧
      (s.i ≤ SBS_FIELD_ID → SBS_FIELD_ID < s'.i →
        id = fieldText (afterComma^[SBS_FIELD_ID - s.i] (sentence.drop s.p))) := by
  induction rounds generalizing s with
  | zero =>
      cases h
      exact ⟨_, _, rfl, fun _ => rfl, fun hle hlt => absurd hlt (not_lt.mpr hle)⟩
  | succ rounds ih =>
      rw [parseFields] at h
      split at h
      · cases h
        exact ⟨_, _, rfl, fun _ => rfl, fun hle hlt => absurd hlt (not_lt.mpr hle)⟩
      · rename_i delim hfind
        obtain ⟨htext, hrest⟩ := find_cut hfind
        split at h
        · simp only at h
          split at h
          · cases h
          · rename_i pos aircraft hfield
            obtain ⟨timeStamp₁, haircraft⟩ := parseField_aircraft hfield
            obtain ⟨id, timeStamp, heq, hlater, hearlier⟩ := ih h
            refine ⟨id, timeStamp, by rw [heq, haircraft], ?_, ?_⟩
            · intro hlt
              rw [hlater (Nat.lt_succ_of_lt hlt), haircraft]
              exact if_neg (Nat.ne_of_gt hlt)
            · intro hle hlast
              rcases Nat.lt_or_eq_of_le hle with hlt | heq4
              · -- Not there yet: the rest of this round starts behind the comma.
                rw [hearlier hlt hlast, hrest]
                change fieldText (afterComma^[SBS_FIELD_ID - (s.i + 1)]
                  (afterComma (sentence.drop s.p))) = _
                rw [← Function.iterate_succ_apply,
                  show (SBS_FIELD_ID - (s.i + 1)).succ = SBS_FIELD_ID - s.i by omega]
              · rw [hlater (by rw [← heq4]; exact Nat.lt_succ_self s.i), haircraft, heq4, Nat.sub_self]
                simp only [if_true]
                exact htext
        · cases h
          exact ⟨_, _, rfl, fun _ => rfl, fun hle hlt => absurd hlt (not_lt.mpr hle)⟩

/-- An accepted line gives the aircraft the id of its field four, a position that is not too high
and the types of a transponder; everything else stays as it was. -/
theorem unpack_true [Rounding] {clock : DateTime} {s_maxHeight : Int32} {sentence : Bytes}
    {aircraft aircraft' : Aircraft}
    (h : unpack clock s_maxHeight sentence aircraft = (true, aircraft')) :
    aircraft'.m_position.altitude ≤ s_maxHeight ∧
      ∃ timeStamp position, aircraft' = { aircraft with
        m_id := idField sentence
        m_timeStamp := timeStamp
        m_position := position
        m_targetType := .TRANSPONDER
        m_aircraftType := .POWERED_AIRCRAFT
        m_idType := .ICAO } := by
  unfold unpack at h
  split at h
  · cases h
  · split at h
    · cases h
    · rename_i s hloop
      obtain ⟨id, timeStamp, heq, -, hid⟩ := parseFields_aircraft hloop
      rw [Prod.mk.injEq, Bool.and_eq_true, decide_eq_true_eq, decide_eq_true_eq] at h
      obtain ⟨⟨hfields, hheight⟩, rfl⟩ := h
      have hidField : id = idField sentence := by
        have hstart : (2 : Nat) ≤ SBS_FIELD_ID := by decide
        rw [hid hstart (by rw [hfields]; decide)]
        rfl
      refine ⟨hheight, timeStamp, s.pos, ?_⟩
      rw [heq, hidField]
      rfl

end SbsParser

end VirtualFlightRadar
