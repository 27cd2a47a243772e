import VirtualFlightRadar.Cxx.Lines
import VirtualFlightRadar.Cxx.ReadBack
import VirtualFlightRadar.Data.AircraftSpec
import VirtualFlightRadar.Feed.Sentence

/-!
# The traffic that a message shows

What a display at the other end makes of the sentences of the aircrafts.  It reads lines, compares
the checksums as the feeds do, and takes two at a time for an aircraft until there are two that are
not of one.  It gets back the relative position and the report that were printed, of every aircraft
that the store shows.
-/

open Cxx

namespace VirtualFlightRadar

/-- What the two sentences of an aircraft say. -/
structure Traffic where
  relBearing : Int
  relNorth : Int
  relEast : Int
  relVertical : Int
  distance : Int
  id : Bytes
  idType : Int
  -- heading, ground speed in km/h and climb rate
  movement : Option (Int × Int × Double)
  aircraftType : Int
  deriving DecidableEq

namespace Traffic

/-! ## Reading -/

def number (field : Bytes) : Option Int := (stoi 10 field).toOption

/-- The fields behind the name, of a sentence that has the name and a good checksum. -/
def fieldsOf (name sentence : Bytes) : Option (List Bytes) :=
  match ((sentence.drop 1).takeWhile (· != ch '*')).splitOn (ch ',') with
  | name' :: fields =>
      if name' = name ∧
        (GpsParser.checksumField sentence).toOption = some (Math.checksum sentence sentence.length).toInt
      then some fields
      else none
  | [] => none

def readMovement (heading speed climb : Bytes) : Option (Option (Int × Int × Double)) :=
  if heading = [] then some none
  else do return some (← number heading, ← number speed, ← (stod climb).toOption)

def read (pflau pflaa : Bytes) : Option Traffic := do
  let [_, _, _, _, _, bearing, _, vertical, distance, id] ← fieldsOf (str "PFLAU") pflau | none
  let [_, north, east, vertical', idType, id', heading, _, speed, climb, type] ←
    fieldsOf (str "PFLAA") pflaa | none
  -- The sentences are of one aircraft.
  guard (id = id' ∧ vertical = vertical')
  return {
    relBearing := ← number bearing
    relNorth := ← number north
    relEast := ← number east
    relVertical := ← number vertical
    distance := ← number distance
    id := id
    idType := ← number idType
    movement := ← readMovement heading speed climb
    aircraftType := ← (stoi 16 type).toOption }

def readAll : List Bytes → List Traffic
  | pflau :: pflaa :: rest =>
      match read pflau pflaa with
      | some traffic => traffic :: readAll rest
      | none => []
  | _ => []

def ofMessage (message : Bytes) : List Traffic := readAll (lines (ch '\n') message)

/-! ## What is printed -/

def ofAircraft (rel : RelPosition) (aircraft : Aircraft) : Traffic where
  relBearing := (Math.doubleToInt rel.m_relBearing).toInt
  relNorth := rel.m_relNorth.toInt
  relEast := rel.m_relEast.toInt
  relVertical := rel.m_relVertical.toInt
  distance := rel.m_distance.toInt
  id := aircraft.m_id
  -- Without the full information every id counts as an ICAO address.
  idType := if aircraft.m_fullInfo then aircraft.m_idType.raw.toNat else 1
  movement :=
    if aircraft.m_fullInfo then
      some ((Math.doubleToInt aircraft.m_movement.heading).toInt,
        (Math.doubleToInt (aircraft.m_movement.gndSpeed * Math.MS_2_KMH)).toInt,
        aircraft.m_movement.climbRate.rounded 1)
    else none
  aircraftType := aircraft.m_aircraftType.raw.toNat

theorem number_fmtInt (zero : Bool) (width : Nat) (n : Int32) :
    number (fmtInt zero width n.toInt) = some n.toInt := by
  rw [number, stoi_fmtInt zero width n.le_toInt n.toInt_lt]
  rfl

theorem number_numeral (n : UInt8) : number (numeral 10 n.toNat) = some (n.toNat : Int) := by
  have hlt := n.toNat_lt
  have hnumeral : numeral 10 n.toNat = fmtInt false 0 n.toNat := by
    rw [fmtInt_blank_of_nonneg (by omega)]
    rfl
  rw [number, hnumeral, stoi_fmtInt false 0 (by omega) (by omega)]
  rfl

/-- The movement is read from three fields, which are empty if it is not known. -/
theorem readMovement_printed (aircraft : Aircraft)
    (hclimb : aircraft.m_movement.climbRate.InRange) :
    readMovement
        (if aircraft.m_fullInfo then
          fmtInt true 3 (Math.doubleToInt aircraft.m_movement.heading).toInt else [])
        (if aircraft.m_fullInfo then
          AircraftProcessor.fmtD (Math.doubleToInt (aircraft.m_movement.gndSpeed * Math.MS_2_KMH))
          else [])
        (if aircraft.m_fullInfo then fmtFixed false 3 1 aircraft.m_movement.climbRate else []) =
      some (ofAircraft {} aircraft).movement := by
  unfold ofAircraft
  cases aircraft.m_fullInfo with
  | false => rfl
  | true =>
      simp only [if_true]
      have hheading := number_fmtInt true 3 (Math.doubleToInt aircraft.m_movement.heading)
      have hspeed := number_fmtInt false 0
        (Math.doubleToInt (aircraft.m_movement.gndSpeed * Math.MS_2_KMH))
      have hne : fmtInt true 3 (Math.doubleToInt aircraft.m_movement.heading).toInt ≠ [] := by
        intro hnil
        rw [hnil] at hheading
        cases hheading
      rw [readMovement, if_neg hne, AircraftProcessor.fmtD, hheading, hspeed,
        stod_fmtFixed false 3 (by omega) (by omega) hclimb]
      rfl

/-! ## Sentences -/

theorem notMem_comma {len : Nat} {s : Bytes} (h : Text 0 len s) : ch ',' ∉ s :=
  List.count_eq_zero.mp h.count

/-- The fields of a body come back from its sentence. -/
theorem fieldsOf_sentence {commas len : Nat} {body : Bytes} (h : Text commas len body)
    (hlen : len + 2 ≤ 4095) {name : Bytes} {fields : List Bytes}
    (hbody : body = [ch ','].intercalate (name :: fields))
    (hfields : ∀ field ∈ name :: fields, ch ',' ∉ field) :
    fieldsOf name (Processor.sentence (ch '$' :: (body ++ [ch '*']))) = some fields := by
  have hfit : body.length + 2 ≤ 4095 := by
    have hle := h.length
    omega
  have hcheck := GpsParser.checksumField_sentence h.plain
  have hstar : ∀ b ∈ body, (b != ch '*') = true := by
    intro b hb
    rw [bne_iff_ne]
    rintro rfl
    exact absurd (h.all _ hb) (by decide)
  rw [Processor.sentence_plain h.plain hfit]
  simp only [fieldsOf, List.drop_one, List.tail_cons]
  rw [List.takeWhile_append_of_pos hstar, List.takeWhile_cons_of_neg (by decide), List.append_nil,
    hbody, List.splitOn_intercalate _ hfields (List.cons_ne_nil _ _), ← hbody]
  simp only
  rw [if_pos]
  exact ⟨trivial, by rw [hcheck]; rfl⟩

/-- A sentence is one line. -/
theorem lines_sentence {commas len : Nat} {body : Bytes} (h : Text commas len body)
    (hlen : len + 2 ≤ 4095) (rest : Bytes) :
    lines (ch '\n') (Processor.sentence (ch '$' :: (body ++ [ch '*'])) ++ rest) =
      Processor.sentence (ch '$' :: (body ++ [ch '*'])) :: lines (ch '\n') rest := by
  have hfit : body.length + 2 ≤ 4095 := by
    have hle := h.length
    omega
  obtain ⟨-, hdigits, -⟩ := GpsParser.csumDigits_spec (Math.xorAll_lt h.plain)
  rw [Processor.sentence_plain h.plain hfit]
  generalize Processor.csumDigits (Math.xorAll body) = digits at hdigits
  have hline : ch '\n' ∉ ch '$' :: (body ++ ch '*' :: (digits ++ str "\r")) := by
    simp only [List.mem_cons, List.mem_append, not_or]
    refine ⟨by decide, fun hmem => ?_, by decide, fun hmem => ?_, by decide⟩
    · exact absurd (h.all _ hmem) (by decide)
    · exact absurd (hdigits _ hmem) (by decide)
  have hsplit (tail : Bytes) : ch '$' :: (body ++ ch '*' :: (digits ++ str "\r\n")) ++ tail =
      (ch '$' :: (body ++ ch '*' :: (digits ++ str "\r"))) ++ ch '\n' :: tail := by
    have hend : str "\r\n" = str "\r" ++ [ch '\n'] := by decide
    rw [hend]
    simp only [List.cons_append, List.append_assoc, List.nil_append]
  have hsentence := hsplit []
  rw [List.append_nil] at hsentence
  rw [hsplit, lines_line hline, hsentence]

/-! ## Aircrafts -/

section

open AircraftProcessor

def fieldsPFLAU (rel : RelPosition) (aircraft : Aircraft) : List Bytes :=
  [[], [], [], str "1", str "0", fmtD (Math.doubleToInt rel.m_relBearing), str "0",
    fmtD rel.m_relVertical, fmtD rel.m_distance, cstr aircraft.m_id]

def fieldsPFLAA (rel : RelPosition) (aircraft : Aircraft) : List Bytes :=
  [str "0", fmtD rel.m_relNorth, fmtD rel.m_relEast, fmtD rel.m_relVertical,
    if aircraft.m_fullInfo then numeral 10 aircraft.m_idType.raw.toNat else str "1",
    cstr aircraft.m_id,
    if aircraft.m_fullInfo then
      fmtInt true 3 (Math.doubleToInt aircraft.m_movement.heading).toInt else [],
    [],
    if aircraft.m_fullInfo then
      fmtD (Math.doubleToInt (aircraft.m_movement.gndSpeed * Math.MS_2_KMH)) else [],
    if aircraft.m_fullInfo then fmtFixed false 3 1 aircraft.m_movement.climbRate else [],
    fmtHexUpper aircraft.m_aircraftType.raw]

variable {aircraft : Aircraft} (h : Printable aircraft) (rel : RelPosition)

theorem body_PFLAU (aircraft : Aircraft) : frontPFLAU rel ++ cstr aircraft.m_id =
    [ch ','].intercalate (str "PFLAU" :: fieldsPFLAU rel aircraft) := by
  have hhead : str "PFLAU,,,,1,0," = str "PFLAU" ++ ([ch ','] ++ ([ch ','] ++ ([ch ','] ++
      ([ch ','] ++ (str "1" ++ ([ch ','] ++ (str "0" ++ [ch ',']))))))) := by decide
  have hzero : str ",0," = [ch ','] ++ (str "0" ++ [ch ',']) := by decide
  have hcomma : str "," = [ch ','] := by decide
  unfold frontPFLAU fieldsPFLAU
  rw [hhead, hzero, hcomma]
  simp only [List.intercalate_cons_cons, List.intercalate_singleton, List.append_assoc,
    List.nil_append]

theorem body_PFLAA (aircraft : Aircraft) :
    frontPFLAA rel aircraft ++ cstr aircraft.m_id ++ backPFLAA aircraft =
      [ch ','].intercalate (str "PFLAA" :: fieldsPFLAA rel aircraft) := by
  have hhead : str "PFLAA,0," = str "PFLAA" ++ ([ch ','] ++ (str "0" ++ [ch ','])) := by decide
  have htwo : str ",," = [ch ','] ++ [ch ','] := by decide
  have hthree : str ",,," = [ch ','] ++ ([ch ','] ++ [ch ',']) := by decide
  have hcomma : str "," = [ch ','] := by decide
  unfold frontPFLAA backPFLAA fieldsPFLAA
  rw [hhead, htwo, hthree, hcomma]
  cases aircraft.m_fullInfo with
  | true =>
      simp only [if_true, List.intercalate_cons_cons, List.intercalate_singleton,
        List.append_assoc, List.nil_append]
  | false =>
      simp only [Bool.false_eq_true, if_false, List.intercalate_cons_cons,
        List.intercalate_singleton, List.append_assoc, List.nil_append]

theorem notMem_fmtInt (zero : Bool) {width : Nat} (hwidth : width ≤ 11) (n : Int32) :
    ch ',' ∉ fmtInt zero width n.toInt :=
  notMem_comma (.fmtInt32 zero width hwidth n)

include h in
theorem notMem_id : ch ',' ∉ cstr aircraft.m_id := notMem_comma (text_id h.id h.length)

include h in
theorem notMem_fieldsPFLAU : ∀ field ∈ str "PFLAU" :: fieldsPFLAU rel aircraft, ch ',' ∉ field := by
  have hnumber (n : Int32) : ch ',' ∉ fmtD n := notMem_fmtInt false (by omega) n
  simp only [fieldsPFLAU, List.forall_mem_cons]
  refine ⟨by decide, by decide, by decide, by decide, by decide, by decide, hnumber _, by decide,
    hnumber _, hnumber _, notMem_id h, ?_⟩
  rintro _ ⟨⟩

include h in
theorem notMem_fieldsPFLAA : ∀ field ∈ str "PFLAA" :: fieldsPFLAA rel aircraft, ch ',' ∉ field := by
  have hnumber (n : Int32) : ch ',' ∉ fmtD n := notMem_fmtInt false (by omega) n
  have hidType : ch ',' ∉ numeral 10 aircraft.m_idType.raw.toNat := by
    have hlt := aircraft.m_idType.raw.toNat_lt
    exact notMem_comma (.numeral (by omega))
  have hclimb : ch ',' ∉ fmtFixed false 3 1 aircraft.m_movement.climbRate :=
    notMem_comma (.fmtFixed false 3 1 (by omega) (by omega) (inRange_le_pow h.climbRate))
  have htype : ch ',' ∉ fmtHexUpper aircraft.m_aircraftType.raw :=
    notMem_comma (.ofConverted (isConverted_fmtHexUpper _) (fmtHexUpper_length_le _))
  -- A field of the full information is empty without it.
  have honly {text : Bytes} (htext : ch ',' ∉ text) :
      ch ',' ∉ if aircraft.m_fullInfo then text else [] := by
    split
    · exact htext
    · exact List.not_mem_nil
  simp only [fieldsPFLAA, List.forall_mem_cons]
  refine ⟨by decide, by decide, hnumber _, hnumber _, hnumber _, ?_, notMem_id h,
    honly (notMem_fmtInt true (by omega) _), by decide, honly (hnumber _), honly hclimb, htype, ?_⟩
  · split
    · exact hidType
    · decide
  · rintro _ ⟨⟩

include h in
/-- What is printed of an aircraft is read. -/
theorem read_sentences : read (Processor.sentence (textPFLAU rel aircraft))
    (Processor.sentence (textPFLAA rel aircraft)) = some (ofAircraft rel aircraft) := by
  have hid : cstr aircraft.m_id = aircraft.m_id :=
    cstr_eq_self fun hmem => absurd (h.id 0 hmem) (by decide)
  have hnumber (n : Int32) : number (fmtD n) = some n.toInt := number_fmtInt false 0 n
  have hidType : number (if aircraft.m_fullInfo then numeral 10 aircraft.m_idType.raw.toNat
      else str "1") = some (ofAircraft rel aircraft).idType := by
    have hone : str "1" = numeral 10 (1 : UInt8).toNat := by decide
    unfold ofAircraft
    rw [hone]
    cases aircraft.m_fullInfo with
    | true => exact number_numeral _
    | false => exact number_numeral 1
  have hbody := text_id h.id h.length
  rw [textPFLAU_eq, textPFLAA_eq, read,
    fieldsOf_sentence ((text_frontPFLAU rel).append hbody) (by omega) (body_PFLAU rel aircraft)
      (notMem_fieldsPFLAU h rel),
    fieldsOf_sentence (((text_frontPFLAA rel aircraft).append hbody).append
      (text_backPFLAA h.climbRate)) (by omega) (body_PFLAA rel aircraft) (notMem_fieldsPFLAA h rel)]
  simp only [fieldsPFLAU, fieldsPFLAA, Option.bind_eq_bind, Option.bind_some, guard, hnumber,
    hidType, readMovement_printed aircraft h.climbRate, stoi_fmtHexUpper, hid, and_self, if_true,
    Option.pure_def, Except.toOption]
  rfl

end

/-! ## Messages -/

/-- What is shown of an aircraft that is processed. -/
def ofReport (m : Libm) (maxDist : Int32) (ref : Position) (atmPress : Double)
    (aircraft : Aircraft) : Option Traffic :=
  let rel := AircraftProcessor.calculateRelPosition m ref atmPress aircraft
  if rel.m_distance ≤ maxDist then some (ofAircraft rel aircraft) else none

theorem ofMessage_report (m : Libm) (maxDist : Int32) (ref : Position) (atmPress : Double)
    {aircraft : Aircraft} (h : Printable aircraft) (rest : Bytes) :
    ofMessage (AircraftProcessor.report m maxDist ref atmPress aircraft ++ rest) =
      (ofReport m maxDist ref atmPress aircraft).toList ++ ofMessage rest := by
  have hbody := text_id h.id h.length
  unfold AircraftProcessor.report ofReport
  simp only
  generalize AircraftProcessor.calculateRelPosition m ref atmPress aircraft = rel
  split
  · have hread := read_sentences h rel
    have hfirst := lines_sentence ((AircraftProcessor.text_frontPFLAU rel).append hbody) (by omega)
    have hsecond := lines_sentence (((AircraftProcessor.text_frontPFLAA rel aircraft).append
      hbody).append (AircraftProcessor.text_backPFLAA h.climbRate)) (by omega)
    simp only [← AircraftProcessor.textPFLAU_eq] at hfirst
    simp only [← AircraftProcessor.textPFLAA_eq] at hsecond
    rw [ofMessage, List.append_assoc, hfirst, hsecond, readAll, hread]
    rfl
  · rfl

/-- The first line begins with what the text begins with. -/
theorem lines_head {d : UInt8} {s : Bytes} (hne : s ≠ []) (hd : d ∉ s) (t : Bytes) :
    ∃ first more, lines d (s ++ t) = (s ++ first) :: more := by
  induction s with
  | nil => exact absurd rfl hne
  | cons b s ih =>
      rw [List.mem_cons, not_or] at hd
      rw [List.cons_append, lines, if_neg (Ne.symm hd.1)]
      cases s with
      | nil =>
          rw [List.nil_append]
          cases lines d t with
          | nil => exact ⟨[], [], rfl⟩
          | cons line later => exact ⟨line, later, rfl⟩
      | cons c s =>
          obtain ⟨first, more, hlines⟩ := ih (List.cons_ne_nil c s) hd.2
          rw [hlines]
          exact ⟨first, more, rfl⟩

/-- The sentences of the position end the traffic. -/
theorem ofMessage_position (utc : Tm) (position : GpsPosition) (rest : Bytes) :
    ofMessage (GpsProcessor.sentenceGPGGA utc position ++ rest) = [] := by
  have hsentence : ∃ t, GpsProcessor.sentenceGPGGA utc position = str "$GPGGA," ++ t := by
    unfold GpsProcessor.sentenceGPGGA GpsProcessor.textGPGGA Processor.sentence
    simp only [List.append_assoc]
    exact ⟨_, rfl⟩
  obtain ⟨t, hsentence⟩ := hsentence
  obtain ⟨first, more, hlines⟩ := lines_head (d := ch '\n') (s := str "$GPGGA,") (by decide)
    (by decide) (t ++ rest)
  have hfields : fieldsOf (str "PFLAU") (str "$GPGGA," ++ first) = none := by
    have hdrop : ((str "$GPGGA," ++ first).drop 1).takeWhile (· != ch '*') =
        str "GPGGA" ++ ch ',' :: first.takeWhile (· != ch '*') := rfl
    unfold fieldsOf
    rw [hdrop, List.splitOn_append_cons_self_of_not_mem (by decide)]
    exact if_neg fun hname => absurd hname.1 (by decide)
  rw [hsentence, List.append_assoc, ofMessage, hlines]
  cases more with
  | nil => rfl
  | cons second later =>
      have hread : read (str "$GPGGA," ++ first) second = none := by
        rw [read, hfields]
        rfl
      rw [readAll, hread]

end Traffic

/-! ## The store -/

def Entry.traffic (m : Libm) (maxDist : Int32) (e : Entry) : Option Traffic :=
  if 1 ≤ e.ticks ∧ e.ticks < 4 then
    e.reference.bind fun (ref, atmPress) => Traffic.ofReport m maxDist ref atmPress e.report
  else none

theorem Entry.ofMessage_message (m : Libm) (maxDist : Int32) {e : Entry} (h : Printable e.report)
    (rest : Bytes) : Traffic.ofMessage (e.message m maxDist ++ rest) =
      (e.traffic m maxDist).toList ++ Traffic.ofMessage rest := by
  unfold message traffic serialized
  split
  · cases e.reference with
    | none => rfl
    | some arguments => exact Traffic.ofMessage_report m maxDist _ _ h rest
  · rfl

namespace AircraftSpec

/-- The aircrafts that the store shows, in the order of insertion. -/
def traffic (m : Libm) (maxDist : Int32) (s : AircraftSpec) : List Traffic :=
  s.order.flatMap fun id => ((s.entries id).bind (Entry.traffic m maxDist)).toList

/-- Every stored report is one that can be printed. -/
def AllPrintable (s : AircraftSpec) : Prop := ∀ id e, s.entries id = some e → Printable e.report

/-- The message of the store, in front of the position, shows exactly its aircrafts. -/
theorem AllPrintable.ofMessage {s : AircraftSpec} (h : s.AllPrintable) (m : Libm) (maxDist : Int32)
    (rest : Bytes) : Traffic.ofMessage (s.get_serialized m maxDist [] ++ rest) =
      s.traffic m maxDist ++ Traffic.ofMessage rest := by
  unfold get_serialized traffic
  rw [List.nil_append]
  induction s.order with
  | nil => rfl
  | cons id order ih =>
      rw [List.flatMap_cons, List.flatMap_cons, List.append_assoc, List.append_assoc, ← ih]
      cases hentry : s.entries id with
      | none => rfl
      | some e => exact e.ofMessage_message m maxDist (h id e hentry) _

theorem AllPrintable.update {s : AircraftSpec} (h : s.AllPrintable) {x : Aircraft}
    (hx : Printable x) : (s.update x).2.AllPrintable := by
  have hset (id : Bytes) (e : Entry) (hentry : s.entries.set x.m_id { report := x } id = some e) :
      Printable e.report := by
    by_cases hid : id = x.m_id
    · rw [hid, Map.set_self] at hentry
      cases hentry
      exact hx
    · rw [Map.set_of_ne _ _ hid] at hentry
      exact h id e hentry
  unfold AircraftSpec.update
  split
  · exact hset
  · split
    · exact hset
    · exact h

theorem AllPrintable.processAircrafts {s : AircraftSpec} (h : s.AllPrintable) (ref : Position)
    (atmPress : Double) : (s.processAircrafts ref atmPress).AllPrintable := by
  intro id e hentry
  obtain ⟨e', he', htick⟩ := Option.bind_eq_some_iff.mp hentry
  unfold Entry.tick at htick
  split at htick
  · cases htick
  · cases htick
    exact h id e' he'

end AircraftSpec

end VirtualFlightRadar
