import VirtualFlightRadar.Cxx.Captures
import VirtualFlightRadar.Feed.Parser
import VirtualFlightRadar.Object.Aircraft

/-!
# Parsing of APRS reports

Two expressions split a report: one finds position, course, speed, altitude and the comment, the
other one finds identifier and climb rate in the comment.  Both are full of gaps that match
anything, so what ends up in a group depends on which match comes first.
-/

open Cxx

namespace VirtualFlightRadar

namespace AprsParser

def RE_APRS_TIME : Nat := 1
def RE_APRS_LAT : Nat := 2
def RE_APRS_LAT_DIR : Nat := 3
def RE_APRS_LON : Nat := 4
def RE_APRS_LON_DIR : Nat := 5
def RE_APRS_HEAD : Nat := 6
def RE_APRS_GND_SPD : Nat := 7
def RE_APRS_ALT : Nat := 8
def RE_APRS_COM : Nat := 9
def RE_APRS_COM_TYPE : Nat := 1
def RE_APRS_COM_ID : Nat := 2
def RE_APRS_COM_CR : Nat := 3
def RE_APRS_COM_TR : Nat := 4

-- \S
def notSpace (b : UInt8) : Bool := !isSpace b

-- [\S\s]
def anyByte (_ : UInt8) : Bool := true

-- [\+-]
def isSign (b : UInt8) : Bool := b == ch '+' || b == ch '-'

open Regex in
-- The part of the expression behind `:/`
def fieldsRE : Regex UInt8 :=
  concat [
    .group RE_APRS_TIME (times isDigit 6), word (str "h"),
    .group RE_APRS_LAT (concat [times isDigit 4, word (str "."), times isDigit 2]),
    .group RE_APRS_LAT_DIR (one (icase fun b => b == ch 'N' || b == ch 'S')),
    plusLazy anyByte,
    .group RE_APRS_LON (concat [times isDigit 5, word (str "."), times isDigit 2]),
    .group RE_APRS_LON_DIR (one (icase fun b => b == ch 'E' || b == ch 'W')),
    plusLazy anyByte,
    .opt (concat [
      .group RE_APRS_HEAD (times isDigit 3), word (str "/"),
      .group RE_APRS_GND_SPD (times isDigit 3)]),
    word (str "/A="), .group RE_APRS_ALT (times isDigit 6), plusLazy isSpace,
    .group RE_APRS_COM (plusLazy anyByte), .eos]

open Regex in
/-- `^(?:\S+?)>APRS,\S+?(?:,\S+?)?:/(\d{6})h(\d{4}\.\d{2})([NS])[\S\s]+?(\d{5}\.\d{2})([EW])`
`[\S\s]+?(?:(\d{3})/(\d{3}))?/A=(\d{6})\s+?([\S\s]+?)$`, ignoring case -/
def s_APRS_RE : Regex UInt8 :=
  concat [
    plusLazy notSpace, word (str ">APRS,"),
    plusLazy notSpace, .opt (.seq (word (str ",")) (plusLazy notSpace)), word (str ":/"), fieldsRE]

open Regex in
-- The part of the expression from `id` on
def idRE : Regex UInt8 :=
  concat [
    word (str "id"),
    .group RE_APRS_COM_TYPE (times (icase isHexUpper) 2),
    .group RE_APRS_COM_ID (times (icase isHexUpper) 6),
    between isSpace 0 1,
    .opt (concat [
      .group RE_APRS_COM_CR (.seq (one isSign) (times isDigit 3)), word (str "fpm"),
      plusLazy isSpace]),
    .opt (.seq
      (.group RE_APRS_COM_TR
        (.seq (concat [one isSign, plusLazy isDigit, word (str ".")]) (plusLazy isDigit)))
      (word (str "rot"))),
    .opt (plusLazy anyByte), .eos]

open Regex in
/-- `^(?:[\S\s]+?)?id([0-9A-F]{2})([0-9A-F]{6})\s?(?:([\+-]\d{3})fpm\s+?)?`
`(?:([\+-]\d+?\.\d+?)rot)?(?:[\S\s]+?)?$`, ignoring case -/
def s_APRSExtRE : Regex UInt8 := .seq (.opt (plusLazy anyByte)) idRE

def parsePosition [Rounding] (s_maxHeight : Int32) (groups : Captures UInt8) (aircraft : Aircraft) :
    Bool × Aircraft :=
  let pos : Except StdError Position := do
    let latitude := Math.dmToDeg (← stod (groups RE_APRS_LAT))
    let latitude := signed (groups RE_APRS_LAT_DIR) (str "S") latitude
    let longitude := Math.dmToDeg (← stod (groups RE_APRS_LON))
    let longitude := signed (groups RE_APRS_LON_DIR) (str "W") longitude
    let altitude := Math.doubleToInt ((← stod (groups RE_APRS_ALT)) * Math.FEET_2_M)
    return { latitude := latitude, longitude := longitude, altitude := altitude }
  match pos with
  | .error _ => (false, aircraft)
  -- The position is set even if it is too high.
  | .ok pos => (pos.altitude ≤ s_maxHeight, { aircraft with m_position := pos })

def parseComment (groups : Captures UInt8) (aircraft : Aircraft) : Bool × Aircraft :=
  let aircraft := { aircraft with m_id := groups RE_APRS_COM_ID }
  -- The type is converted twice, with the same result.
  match stoi 16 (groups RE_APRS_COM_TYPE) with
  | .error _ => (false, aircraft)
  | .ok type =>
      let type := Int32.ofInt type
      let aircraft := aircraft.set_idType ⟨(type &&& 0x03).toUInt32.toUInt8⟩
      (true, aircraft.set_aircraftType ⟨((type &&& 0x7C) >>> 2).toUInt32.toUInt8⟩)

def parseMovement [Rounding] (groups comGroups : Captures UInt8) (aircraft : Aircraft) : Bool × Aircraft :=
  let move : Except StdError Movement := do
    let heading ← stod (groups RE_APRS_HEAD)
    let gndSpeed := (← stod (groups RE_APRS_GND_SPD)) * Math.KTS_2_MS
    let climbRate := (← stod (comGroups RE_APRS_COM_CR)) * Math.FPM_2_MS
    return { heading := heading, gndSpeed := gndSpeed, climbRate := climbRate }
  match move with
  | .error _ => (false, aircraft)
  | .ok move => (true, { aircraft with m_movement := move })

-- Only `std::invalid_argument` is caught, and the constructor throws nothing else.
def parseTimeStamp (clock : DateTime) (groups : Captures UInt8) (aircraft : Aircraft) :
    Bool × Aircraft :=
  match TimeStamp.make clock (groups RE_APRS_TIME) .HHMMSS with
  | .error _ => (false, aircraft)
  | .ok timeStamp => (true, { aircraft with m_timeStamp := timeStamp })

def unpack [Rounding] (boost : BoostRegex) (clock : DateTime) (s_maxHeight : Int32)
    (sentence : Bytes) (aircraft : Aircraft) : Bool × Aircraft :=
  if sentence.head? = some (ch '#') then (false, aircraft)
  else
    match boost.regex_match s_APRS_RE sentence with
    | none => (false, aircraft)
    | some groups =>
        match parsePosition s_maxHeight groups aircraft with
        | (false, aircraft) => (false, aircraft)
        | (true, aircraft) =>
            match parseTimeStamp clock groups aircraft with
            | (false, aircraft) => (false, aircraft)
            | (true, aircraft) =>
                match boost.regex_match s_APRSExtRE (groups RE_APRS_COM) with
                | none => (false, aircraft)
                | some comGroups =>
                    match parseComment comGroups aircraft with
                    | (false, aircraft) => (false, aircraft)
                    | (true, aircraft) =>
                        -- A report without movement is accepted, but is no full one.
                        let (fullInfo, aircraft) := parseMovement groups comGroups aircraft
                        (true, { aircraft with m_fullInfo := fullInfo, m_targetType := .FLARM })

/-! ## Fields that convert -/

theorem parsePosition_of_fields [Rounding] {groups : Captures UInt8} {lat lon alt : Double}
    (hlat : stod (groups RE_APRS_LAT) = .ok lat) (hlon : stod (groups RE_APRS_LON) = .ok lon)
    (halt : stod (groups RE_APRS_ALT) = .ok alt) (s_maxHeight : Int32) (aircraft : Aircraft) :
    parsePosition s_maxHeight groups aircraft =
      (decide (Math.doubleToInt (alt * Math.FEET_2_M) ≤ s_maxHeight),
       { aircraft with m_position := {
          latitude := signed (groups RE_APRS_LAT_DIR) (str "S") (Math.dmToDeg lat)
          longitude := signed (groups RE_APRS_LON_DIR) (str "W") (Math.dmToDeg lon)
          altitude := Math.doubleToInt (alt * Math.FEET_2_M) } }) := by
  unfold parsePosition
  rw [hlat, hlon, halt]
  rfl

theorem parseMovement_of_fields [Rounding] {groups comGroups : Captures UInt8} {heading speed climb : Double}
    (hhead : stod (groups RE_APRS_HEAD) = .ok heading)
    (hspeed : stod (groups RE_APRS_GND_SPD) = .ok speed)
    (hclimb : stod (comGroups RE_APRS_COM_CR) = .ok climb) (aircraft : Aircraft) :
    parseMovement groups comGroups aircraft =
      (true, { aircraft with m_movement := {
        heading := heading
        gndSpeed := speed * Math.KTS_2_MS
        climbRate := climb * Math.FPM_2_MS } }) := by
  unfold parseMovement
  rw [hhead, hspeed, hclimb]
  rfl

/-! ## What is accepted -/

theorem parsePosition_reads [Rounding] {s_maxHeight : Int32} {groups : Captures UInt8}
    {aircraft aircraft' : Aircraft}
    (h : parsePosition s_maxHeight groups aircraft = (true, aircraft')) :
    ∃ lat lon alt, stod (groups RE_APRS_LAT) = .ok lat ∧ stod (groups RE_APRS_LON) = .ok lon ∧
      stod (groups RE_APRS_ALT) = .ok alt ∧
      Math.doubleToInt (alt * Math.FEET_2_M) ≤ s_maxHeight ∧
      aircraft' = { aircraft with m_position := {
        latitude := signed (groups RE_APRS_LAT_DIR) (str "S") (Math.dmToDeg lat)
        longitude := signed (groups RE_APRS_LON_DIR) (str "W") (Math.dmToDeg lon)
        altitude := Math.doubleToInt (alt * Math.FEET_2_M) } } := by
  cases hlat : stod (groups RE_APRS_LAT) with
  | error e =>
      unfold parsePosition at h
      rw [hlat] at h
      cases h
  | ok lat =>
      cases hlon : stod (groups RE_APRS_LON) with
      | error e =>
          unfold parsePosition at h
          rw [hlat, hlon] at h
          cases h
      | ok lon =>
          cases halt : stod (groups RE_APRS_ALT) with
          | error e =>
              unfold parsePosition at h
              rw [hlat, hlon, halt] at h
              cases h
          | ok alt =>
              rw [parsePosition_of_fields hlat hlon halt, Prod.mk.injEq, decide_eq_true_eq] at h
              exact ⟨lat, lon, alt, rfl, rfl, rfl, h.1, h.2.symm⟩

theorem parseTimeStamp_true {clock : DateTime} {groups : Captures UInt8}
    {aircraft aircraft' : Aircraft}
    (h : parseTimeStamp clock groups aircraft = (true, aircraft')) :
    ∃ timeStamp, aircraft' = { aircraft with m_timeStamp := timeStamp } := by
  unfold parseTimeStamp at h
  split at h
  · cases h
  · cases h
    exact ⟨_, rfl⟩

theorem parseComment_true {groups : Captures UInt8} {aircraft aircraft' : Aircraft}
    (h : parseComment groups aircraft = (true, aircraft')) :
    ∃ idType aircraftType, aircraft' = { aircraft with
      m_id := groups RE_APRS_COM_ID
      m_idType := idType
      m_aircraftType := aircraftType } := by
  unfold parseComment at h
  simp only at h
  split at h
  · cases h
  · cases h
    exact ⟨_, _, rfl⟩

theorem parseMovement_aircraft [Rounding] (groups comGroups : Captures UInt8) (aircraft : Aircraft) :
    ∃ movement, (parseMovement groups comGroups aircraft).2 =
      { aircraft with m_movement := movement } := by
  unfold parseMovement
  simp only
  split
  · exact ⟨aircraft.m_movement, rfl⟩
  · exact ⟨_, rfl⟩

/-- What an accepted report has been read from. -/
structure ReadFrom [Rounding] (boost : BoostRegex) (s_maxHeight : Int32) (sentence : Bytes)
    (aircraft aircraft' : Aircraft) (groups comGroups : Captures UInt8) (lat lon alt : Double) :
    Prop where
  fields : boost.regex_match s_APRS_RE sentence = some groups
  comment : boost.regex_match s_APRSExtRE (groups RE_APRS_COM) = some comGroups
  latText : stod (groups RE_APRS_LAT) = .ok lat
  lonText : stod (groups RE_APRS_LON) = .ok lon
  altText : stod (groups RE_APRS_ALT) = .ok alt
  height : Math.doubleToInt (alt * Math.FEET_2_M) ≤ s_maxHeight
  position : aircraft'.m_position =
    { latitude := signed (groups RE_APRS_LAT_DIR) (str "S") (Math.dmToDeg lat)
      longitude := signed (groups RE_APRS_LON_DIR) (str "W") (Math.dmToDeg lon)
      altitude := Math.doubleToInt (alt * Math.FEET_2_M) }
  id : aircraft'.m_id = comGroups RE_APRS_COM_ID
  target : aircraft'.m_targetType = .FLARM
  object : aircraft'.toObject = aircraft.toObject

theorem unpack_reads [Rounding] {boost : BoostRegex} {clock : DateTime} {s_maxHeight : Int32}
    {sentence : Bytes} {aircraft aircraft' : Aircraft}
    (h : unpack boost clock s_maxHeight sentence aircraft = (true, aircraft')) :
    ∃ groups comGroups lat lon alt,
      ReadFrom boost s_maxHeight sentence aircraft aircraft' groups comGroups lat lon alt := by
  unfold unpack at h
  split at h
  · cases h
  · split at h
    · cases h
    · rename_i groups hmatch
      split at h
      · cases h
      · rename_i positioned hposition
        obtain ⟨lat, lon, alt, hlat, hlon, halt, hheight, rfl⟩ := parsePosition_reads hposition
        split at h
        · cases h
        · rename_i stamped hstamp
          obtain ⟨timeStamp, rfl⟩ := parseTimeStamp_true hstamp
          split at h
          · cases h
          · rename_i comGroups hcomment
            split at h
            · cases h
            · rename_i commented hparsed
              obtain ⟨idType, aircraftType, rfl⟩ := parseComment_true hparsed
              simp only at h
              cases h
              obtain ⟨movement, hmovement⟩ := parseMovement_aircraft groups comGroups _
              rw [hmovement]
              exact ⟨groups, comGroups, lat, lon, alt, hmatch, hcomment, hlat, hlon, halt, hheight,
                rfl, rfl, rfl, rfl⟩

/-- An accepted report gives the aircraft a position that is not too high and an id out of a comment,
and leaves what the store keeps of the base class as it was. -/
theorem unpack_true [Rounding] {boost : BoostRegex} {clock : DateTime} {s_maxHeight : Int32}
    {sentence : Bytes} {aircraft aircraft' : Aircraft}
    (h : unpack boost clock s_maxHeight sentence aircraft = (true, aircraft')) :
    aircraft'.m_position.altitude ≤ s_maxHeight ∧ aircraft'.toObject = aircraft.toObject ∧
      ∃ comment comGroups, boost.regex_match s_APRSExtRE comment = some comGroups ∧
        aircraft'.m_id = comGroups RE_APRS_COM_ID := by
  obtain ⟨groups, comGroups, lat, lon, alt, hread⟩ := unpack_reads h
  refine ⟨?_, hread.object, groups RE_APRS_COM, comGroups, hread.comment, hread.id⟩
  rw [hread.position]
  exact hread.height

/-- The id of a comment is six hexadecimal digits, in any letter case. -/
theorem run_comment_id {boost : BoostRegex} {comment : Bytes} {comGroups : Captures UInt8}
    (h : boost.regex_match s_APRSExtRE comment = some comGroups) :
    Regex.Run (Regex.icase isHexUpper) 6 (comGroups RE_APRS_COM_ID) := by
  rw [boost.perl] at h
  obtain ⟨_, _, _, _, _, _, _, _, _, hid⟩ := Regex.matchAll_takes h
  exact hid.run_of_group (by decide)

end AprsParser

end VirtualFlightRadar
