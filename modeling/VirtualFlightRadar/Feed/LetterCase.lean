import VirtualFlightRadar.Feed.AprsParser
import VirtualFlightRadar.Feed.GpsLetterCase

/-!
# Sentences in the other letter case

Both expressions ignore case, so a sentence whose letters change case is matched as before and every
captured number is the same.  What is done with the letters that are captured does not ignore case:
a direction is compared with the capital letter, and an id is taken as it is written.
-/

open Cxx

namespace VirtualFlightRadar

/-! ## APRS reports -/

namespace AprsParser

theorem s_APRS_RE_caseBlind : Regex.CaseBlind s_APRS_RE := by
  unfold Regex.CaseBlind
  decide +kernel

theorem s_APRSExtRE_caseBlind : Regex.CaseBlind s_APRSExtRE := by
  unfold Regex.CaseBlind
  decide +kernel

/-- The captures of an accepted report, and what of it may depend on the case of letters. -/
theorem fields_of_unpack {boost : BoostRegex} {clock : DateTime} {s_maxHeight : Int32} {s : Bytes}
    {aircraft aircraft' : Aircraft}
    (h : unpack boost clock s_maxHeight s aircraft = (true, aircraft')) :
    ∃ groups comGroups lat lon, s_APRS_RE.matchAll s = some groups ∧
      s_APRSExtRE.matchAll (groups RE_APRS_COM) = some comGroups ∧
      stod (groups RE_APRS_LAT) = .ok lat ∧ stod (groups RE_APRS_LON) = .ok lon ∧
      aircraft'.m_position.latitude =
        signed (groups RE_APRS_LAT_DIR) (str "S") (Math.dmToDeg lat) ∧
      aircraft'.m_position.longitude =
        signed (groups RE_APRS_LON_DIR) (str "W") (Math.dmToDeg lon) ∧
      aircraft'.m_id = comGroups RE_APRS_COM_ID := by
  obtain ⟨groups, comGroups, lat, lon, alt, hread⟩ := unpack_reads h
  have hfields := hread.fields
  have hcomment := hread.comment
  rw [boost.perl] at hfields hcomment
  rw [hread.position]
  exact ⟨groups, comGroups, lat, lon, hfields, hcomment, hread.latText, hread.lonText, rfl, rfl, hread.id⟩

/-- Nothing but the captures is read. -/
theorem unpack_congr {boost : BoostRegex} {clock : DateTime} {s_maxHeight : Int32} {s s' : Bytes}
    {groups groups' comGroups comGroups' : Captures UInt8}
    (hhead : s'.head? = some (ch '#') ↔ s.head? = some (ch '#'))
    (hmatch : s_APRS_RE.matchAll s = some groups) (hmatch' : s_APRS_RE.matchAll s' = some groups')
    (hcomment : s_APRSExtRE.matchAll (groups RE_APRS_COM) = some comGroups)
    (hcomment' : s_APRSExtRE.matchAll (groups' RE_APRS_COM) = some comGroups')
    (hposition : parsePosition s_maxHeight groups' = parsePosition s_maxHeight groups)
    (htime : parseTimeStamp clock groups' = parseTimeStamp clock groups)
    (hparsed : parseComment comGroups' = parseComment comGroups)
    (hmovement : parseMovement groups' comGroups' = parseMovement groups comGroups)
    (aircraft : Aircraft) :
    unpack boost clock s_maxHeight s' aircraft = unpack boost clock s_maxHeight s aircraft := by
  unfold unpack
  simp only [hhead, boost.perl, hmatch, hmatch', hcomment, hcomment', hposition, htime, hparsed,
    hmovement]

/-- The code of the types is two hexadecimal digits, in any letter case. -/
theorem run_comment_type {comment : Bytes} {comGroups : Captures UInt8}
    (h : s_APRSExtRE.matchAll comment = some comGroups) :
    Regex.Run (Regex.icase isHexUpper) 2 (comGroups RE_APRS_COM_TYPE) := by
  obtain ⟨_, _, _, _, _, _, htype⟩ := Regex.matchAll_takes h
  exact htype.run_of_group (by decide)

/-- The groups that take digits only. -/
def digitGroups : List Nat :=
  [RE_APRS_TIME, RE_APRS_LAT, RE_APRS_LON, RE_APRS_HEAD, RE_APRS_GND_SPD, RE_APRS_ALT]

theorem lat_isCoordinate [Rounding] {s : Bytes} {groups : Captures UInt8} {x : Double}
    (hmatch : s_APRS_RE.matchAll s = some groups) (hx : stod (groups RE_APRS_LAT) = .ok x) :
    IsCoordinate (groups RE_APRS_LAT) :=
  coordinate_of_capture (by omega) (by omega) (by omega) rfl hmatch hx

theorem lon_isCoordinate [Rounding] {s : Bytes} {groups : Captures UInt8} {x : Double}
    (hmatch : s_APRS_RE.matchAll s = some groups) (hx : stod (groups RE_APRS_LON) = .ok x) :
    IsCoordinate (groups RE_APRS_LON) :=
  coordinate_of_capture (by omega) (by omega) (by omega) rfl hmatch hx

section

variable {s s' : Bytes} {groups groups' comGroups comGroups' : Captures UInt8}
  (hmatch : s_APRS_RE.matchAll s = some groups)
  (hcomment : s_APRSExtRE.matchAll (groups RE_APRS_COM) = some comGroups)
  (hletters : ∀ n, SameLetters (groups n) (groups' n))

include hmatch hletters

theorem digits_eq : ∀ n ∈ digitGroups, groups' n = groups n :=
  Regex.captures_eq hmatch (by decide +kernel) hletters

theorem parsePosition_sameLetters {lat lon : Double} (hlat : stod (groups RE_APRS_LAT) = .ok lat)
    (hlon : stod (groups RE_APRS_LON) = .ok lon)
    (hns : SideFree (ch 'S') (groups RE_APRS_LAT_DIR) (groups RE_APRS_LAT))
    (hew : SideFree (ch 'W') (groups RE_APRS_LON_DIR) (groups RE_APRS_LON)) (s_maxHeight : Int32) :
    parsePosition s_maxHeight groups' = parsePosition s_maxHeight groups := by
  have hdigits := digits_eq hmatch hletters
  have hS := hns.signed (lat_isCoordinate hmatch hlat) hlat (hletters RE_APRS_LAT_DIR)
  have hW := hew.signed (lon_isCoordinate hmatch hlon) hlon (hletters RE_APRS_LON_DIR)
  funext aircraft
  unfold parsePosition
  rw [hdigits RE_APRS_LAT (by decide), hdigits RE_APRS_LON (by decide),
    hdigits RE_APRS_ALT (by decide), hlat, hlon, str_S, str_W]
  simp only [bind, Except.bind, hS, hW]

theorem parseTimeStamp_sameLetters (clock : DateTime) :
    parseTimeStamp clock groups' = parseTimeStamp clock groups := by
  funext aircraft
  unfold parseTimeStamp
  rw [digits_eq hmatch hletters RE_APRS_TIME (by decide)]

theorem parseMovement_sameLetters (hclimb : comGroups' RE_APRS_COM_CR = comGroups RE_APRS_COM_CR) :
    parseMovement groups' comGroups' = parseMovement groups comGroups := by
  have hdigits := digits_eq hmatch hletters
  funext aircraft
  unfold parseMovement
  rw [hdigits RE_APRS_HEAD (by decide), hdigits RE_APRS_GND_SPD (by decide), hclimb]

end

theorem parseComment_sameLetters {comment comment' : Bytes} {comGroups comGroups' : Captures UInt8}
    (hmatch : s_APRSExtRE.matchAll comment = some comGroups)
    (hmatch' : s_APRSExtRE.matchAll comment' = some comGroups')
    (hletters : ∀ n, SameLetters (comGroups n) (comGroups' n))
    (hid : ∀ b ∈ comGroups RE_APRS_COM_ID, isLetter b = false) :
    parseComment comGroups' = parseComment comGroups := by
  have hidEq := (hletters RE_APRS_COM_ID).eq hid
  have htype := natVal_sameLetters (hletters RE_APRS_COM_TYPE) 16
  funext aircraft
  unfold parseComment
  rw [hidEq, stoi_hexPair (run_comment_type hmatch), stoi_hexPair (run_comment_type hmatch'), htype]

theorem head_sameLetters {s s' : Bytes} (h : SameLetters s s') :
    s'.head? = some (ch '#') ↔ s.head? = some (ch '#') := by
  have hhash : ∀ b : UInt8, toLower b = ch '#' ↔ b = ch '#' :=
    fun b => ⟨eq_of_toLower_eq (a := ch '#') (by decide) (by decide), by rintro rfl; decide⟩
  have hlower : ∀ s : Bytes, (s.map toLower).head? = some (ch '#') ↔ s.head? = some (ch '#') := by
    intro s
    cases s with
    | nil => exact Iff.rfl
    | cons b s => simp only [List.map_cons, List.head?_cons, Option.some.injEq, hhash]
  rw [← hlower s', ← hlower s, h]

/-- What is read of a report does not depend on the case of its letters: it is north and east or on
the equator and the meridian, and its id has no letters. -/
def CaseFree (s : Bytes) : Prop :=
  ∃ groups comGroups, s_APRS_RE.matchAll s = some groups ∧
    s_APRSExtRE.matchAll (groups RE_APRS_COM) = some comGroups ∧
    SideFree (ch 'S') (groups RE_APRS_LAT_DIR) (groups RE_APRS_LAT) ∧
    SideFree (ch 'W') (groups RE_APRS_LON_DIR) (groups RE_APRS_LON) ∧
    ∀ b ∈ comGroups RE_APRS_COM_ID, isLetter b = false

/-- The aircraft have the same position, id, types and movement. -/
def SameAircraft (aircraft aircraft' : Aircraft) : Prop :=
  aircraft'.m_position = aircraft.m_position ∧ aircraft'.m_id = aircraft.m_id ∧
    aircraft'.m_idType = aircraft.m_idType ∧ aircraft'.m_aircraftType = aircraft.m_aircraftType ∧
    aircraft'.m_targetType = aircraft.m_targetType ∧ aircraft'.m_movement = aircraft.m_movement

section

variable {boost : BoostRegex} {clock : DateTime} {s_maxHeight : Int32} {s : Bytes}
  {aircraft : Aircraft} (haccepted : (unpack boost clock s_maxHeight s aircraft).1 = true)

include haccepted

theorem unpack_sameLetters (hfree : CaseFree s) {s' : Bytes} (hs : SameLetters s s') :
    unpack boost clock s_maxHeight s' aircraft = unpack boost clock s_maxHeight s aircraft := by
  obtain ⟨groups, comGroups, hmatch, hcomment, hns, hew, hid⟩ := hfree
  obtain ⟨_, _, lat, lon, hmatch₁, -, hlat, hlon, -⟩ := fields_of_unpack (Prod.ext haccepted rfl)
  obtain rfl := Option.some.inj (hmatch.symm.trans hmatch₁)
  obtain ⟨groups', hmatch', hletters⟩ := s_APRS_RE_caseBlind.matchAll hs hmatch
  obtain ⟨comGroups', hcomment', hcomLetters⟩ :=
    s_APRSExtRE_caseBlind.matchAll (hletters RE_APRS_COM) hcomment
  have hclimb : ∀ n ∈ [RE_APRS_COM_CR], comGroups' n = comGroups n :=
    Regex.captures_eq hcomment (by decide +kernel) hcomLetters
  exact unpack_congr (head_sameLetters hs) hmatch hmatch' hcomment hcomment'
    (parsePosition_sameLetters hmatch hletters hlat hlon hns hew s_maxHeight)
    (parseTimeStamp_sameLetters hmatch hletters clock)
    (parseComment_sameLetters hcomment hcomment' hcomLetters hid)
    (parseMovement_sameLetters hmatch hletters (hclimb _ List.mem_cons_self)) aircraft

/-- The report with every letter in its other case tells whether its letters are read. -/
theorem caseFree_of_swapCase
    (haccepted' : (unpack boost clock s_maxHeight (s.map swapCase) aircraft).1 = true)
    (hsame : SameAircraft (unpack boost clock s_maxHeight s aircraft).2
      (unpack boost clock s_maxHeight (s.map swapCase) aircraft).2) : CaseFree s := by
  obtain ⟨groups, comGroups, lat, lon, hmatch, hcomment, hlat, hlon, hlatitude, hlongitude, hid⟩ :=
    fields_of_unpack (Prod.ext haccepted rfl)
  obtain ⟨groups', comGroups', lat', lon', hmatch', hcomment', hlat', hlon', hlatitude', hlongitude',
    hid'⟩ := fields_of_unpack (Prod.ext haccepted' rfl)
  obtain ⟨_, hmatch₁, hswap⟩ := s_APRS_RE_caseBlind.matchAll_swapCase hmatch
  obtain rfl := Option.some.inj (hmatch'.symm.trans hmatch₁)
  obtain ⟨_, hcomment₁, hcomSwap⟩ := s_APRSExtRE_caseBlind.matchAll_swapCase hcomment
  rw [hswap RE_APRS_COM] at hcomment₁
  obtain rfl := Option.some.inj (hcomment'.symm.trans hcomment₁)
  have hletters : ∀ n, SameLetters (groups n) (groups' n) := by
    intro n
    rw [← hswap n]
    exact sameLetters_swapCase _
  have hdigits := digits_eq hmatch hletters
  obtain ⟨hposition, hidEq, -⟩ := hsame
  refine ⟨groups, comGroups, hmatch, hcomment, ?_, ?_, ?_⟩
  · apply sideFree_of_signed (lat_isCoordinate hmatch hlat) hlat (by decide)
    rw [hdigits RE_APRS_LAT (by decide), hlat] at hlat'
    obtain rfl := Except.ok.inj hlat'
    rw [← str_S, ← hlatitude, hswap, ← hlatitude', hposition]
  · apply sideFree_of_signed (lon_isCoordinate hmatch hlon) hlon (by decide)
    rw [hdigits RE_APRS_LON (by decide), hlon] at hlon'
    obtain rfl := Except.ok.inj hlon'
    rw [← str_W, ← hlongitude, hswap, ← hlongitude', hposition]
  · intro b hb
    have hmap : (comGroups RE_APRS_COM_ID).map swapCase = (comGroups RE_APRS_COM_ID).map id := by
      rw [hcomSwap, List.map_id, ← hid', hidEq, hid]
    exact (swapCase_eq_self b).mp (List.map_inj_left.mp hmap b hb)

end

/-- A report from the north and the east whose id has digits only. -/
theorem caseFree_north_east :
    CaseFree (str "FLRAAAAAA>APRS,qAS,XXXX:/200131h4900.00N/00800.00E'000/000/A=000000 id0A123456") := by
  obtain ⟨groups, hmatch, hfields⟩ := (Option.any_eq_true (fun groups =>
      groups RE_APRS_LAT_DIR == str "N" && groups RE_APRS_LON_DIR == str "E" &&
        groups RE_APRS_COM == str "id0A123456")
    (s_APRS_RE.matchAll
      (str "FLRAAAAAA>APRS,qAS,XXXX:/200131h4900.00N/00800.00E'000/000/A=000000 id0A123456"))).mp
    (by decide +kernel)
  obtain ⟨comGroups, hcomment, hid⟩ := (Option.any_eq_true (fun comGroups =>
      comGroups RE_APRS_COM_ID == str "123456")
    (s_APRSExtRE.matchAll (str "id0A123456"))).mp (by decide +kernel)
  simp only [Bool.and_eq_true, beq_iff_eq] at hfields hid
  refine ⟨groups, comGroups, hmatch, by rw [hfields.2, hcomment], ?_, ?_, ?_⟩
  · rw [hfields.1.1]
    exact sideFree_of_ne (by decide)
  · rw [hfields.1.2]
    exact sideFree_of_ne (by decide)
  · rw [hid]
    decide

end AprsParser

/-! ## Both parsers -/

/-- The case of its letters does not change what an accepted sentence means exactly where no letter
is read as it is written: the coordinates have a positive direction or are zero, and the id of a
report has no letters. -/
theorem sameMeaning_iff_caseFree (boost : BoostRegex) (clock : DateTime) (s_maxHeight : Int32) :
    (∀ (s : Bytes) (aircraft : Aircraft),
      (AprsParser.unpack boost clock s_maxHeight s aircraft).1 = true →
        ((∀ s', SameLetters s s' →
            (AprsParser.unpack boost clock s_maxHeight s' aircraft).1 = true ∧
              AprsParser.SameAircraft (AprsParser.unpack boost clock s_maxHeight s aircraft).2
                (AprsParser.unpack boost clock s_maxHeight s' aircraft).2) ↔
          AprsParser.CaseFree s)) ∧
    (∀ (s : Bytes) (position : GpsPosition),
      (GpsParser.unpack boost clock s position).1 = true →
        ((∀ s', GpsParser.Recased s s' → GpsParser.unpack boost clock s' position =
            (true, (GpsParser.unpack boost clock s position).2)) ↔
          GpsParser.CaseFree s)) := by
  constructor
  · intro s aircraft haccepted
    constructor
    · intro hsame
      obtain ⟨haccepted', haircraft⟩ := hsame _ (sameLetters_swapCase s)
      exact AprsParser.caseFree_of_swapCase haccepted haccepted' haircraft
    · intro hfree s' hs
      rw [AprsParser.unpack_sameLetters haccepted hfree hs]
      exact ⟨haccepted, rfl, rfl, rfl, rfl, rfl, rfl⟩
  · intro s position haccepted
    constructor
    · exact GpsParser.caseFree_of_recased haccepted
    · intro hfree s' hs
      exact GpsParser.unpack_recased haccepted hfree hs

/-- A report from the north and the east whose id has digits only, and a sentence of the tests. -/
theorem sameMeaning_north_east :
    let report := str "FLRAAAAAA>APRS,qAS,XXXX:/200131h4900.00N/00800.00E'000/000/A=000000 id0A123456"
    let sentence := str "$GPGGA,183552,5000.0466,N,00815.7555,E,1,05,1,105,M,48.0,M,,*49"
    (∀ s', SameLetters report s' →
      (AprsParser.unpack .byChoices ⟨0, 0⟩ 1000 s' {}).1 = true ∧
        AprsParser.SameAircraft (AprsParser.unpack .byChoices ⟨0, 0⟩ 1000 report {}).2
          (AprsParser.unpack .byChoices ⟨0, 0⟩ 1000 s' {}).2) ∧
    (∀ s', GpsParser.Recased sentence s' → GpsParser.unpack .byChoices ⟨0, 0⟩ s' {} =
      (true, (GpsParser.unpack .byChoices ⟨0, 0⟩ sentence {}).2)) := by
  intro report sentence
  obtain ⟨haprs, hgps⟩ := sameMeaning_iff_caseFree .byChoices ⟨0, 0⟩ 1000
  constructor
  · apply (haprs report {} (by decide +kernel)).mpr
    exact AprsParser.caseFree_north_east
  · apply (hgps sentence {} GpsParser.unpack_north_east).mpr
    exact GpsParser.caseFree_north_east

/-- A report and a sentence from the south: with a small letter they are taken for the north. -/
theorem not_sameMeaning_south :
    let report := str "FLRAAAAAA>APRS,qAS,XXXX:/200131h4900.00S/00800.00E'000/000/A=000000 id0A123456"
    let report' := str "FLRAAAAAA>APRS,qAS,XXXX:/200131h4900.00s/00800.00E'000/000/A=000000 id0A123456"
    let sentence := str "$GPGGA,183552,5000.0466,S,00815.7555,E,1,05,1,105,M,48.0,M,,*54"
    let sentence' := str "$GPGGA,183552,5000.0466,s,00815.7555,E,1,05,1,105,M,48.0,M,,*74"
    (SameLetters report report' ∧
      (AprsParser.unpack .byChoices ⟨0, 0⟩ 1000 report {}).1 = true ∧
      (AprsParser.unpack .byChoices ⟨0, 0⟩ 1000 report {}).2.m_position.latitude = .fin (-49) ∧
      (AprsParser.unpack .byChoices ⟨0, 0⟩ 1000 report' {}).1 = true ∧
      (AprsParser.unpack .byChoices ⟨0, 0⟩ 1000 report' {}).2.m_position.latitude = .fin 49) ∧
    (GpsParser.Recased sentence sentence' ∧
      (GpsParser.unpack .byChoices ⟨0, 0⟩ sentence {}).1 = true ∧
      (GpsParser.unpack .byChoices ⟨0, 0⟩ sentence' {}).1 = true ∧
      (GpsParser.unpack .byChoices ⟨0, 0⟩ sentence' {}).2 ≠
        (GpsParser.unpack .byChoices ⟨0, 0⟩ sentence {}).2) := by
  unfold SameLetters
  exact ⟨by decide +kernel, GpsParser.recased_south, by decide +kernel⟩

end VirtualFlightRadar
