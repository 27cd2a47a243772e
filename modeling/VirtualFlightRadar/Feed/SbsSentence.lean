import VirtualFlightRadar.Feed.SbsParser

/-!
# Reports of SBS aircraft

The id of an SBS line is printed as it is.  A `*` in it ends the body early, an odd number of bytes
above 127 makes the checksum negative, and a long one pushes the `*` out of the array.
-/

open Cxx

namespace VirtualFlightRadar

/-- `$`, a body, `*`, two hexadecimal digits and CRLF, with no other `*`, the exclusive or of the body
as checksum and `fields` comma-separated fields. -/
def WellFormed (fields : Nat) (s : Bytes) : Prop :=
  ∃ body hh, s = ch '$' :: (body ++ ch '*' :: (hh ++ str "\r\n")) ∧ s.count (ch '*') = 1 ∧
    hh.length = 2 ∧ (∀ b ∈ hh, isXDigit b = true) ∧ natVal 16 hh = (Math.xorAll body).toNat ∧
    body.count (ch ',') + 1 = fields

theorem csumDigits_length : ∀ x : UInt8, (Processor.csumDigits x).length = 2 → x.toNat < 128 := by
  decide +kernel

/-- What the array holds when `finishSentence` is called: the text up to its first `*`, or less. -/
theorem take_upTo_star {w rest body : Bytes} {n : Nat} (hw : ch '*' ∉ w) (hbody : ch '*' ∉ body)
    (h : (w ++ ch '*' :: rest).take n = body ++ [ch '*']) :
    body = w ∧ (rest = [] ∧ w.length + 1 ≤ n ∨ w.length + 1 = n) := by
  have hcut : w ++ ch '*' :: rest = body ++ ch '*' :: (w ++ ch '*' :: rest).drop n := by
    conv_lhs => rw [← List.take_append_drop n (w ++ ch '*' :: rest), h]
    simp
  have hw' : ∀ b ∈ w, (b != ch '*') = true := fun b hb => bne_iff_ne.mpr fun he => hw (he ▸ hb)
  have hbody' : ∀ b ∈ body, (b != ch '*') = true :=
    fun b hb => bne_iff_ne.mpr fun he => hbody (he ▸ hb)
  have heq : body = w := by
    have htake := congrArg (List.takeWhile (· != ch '*')) hcut
    rw [List.takeWhile_append_of_pos hw', List.takeWhile_append_of_pos hbody',
      List.takeWhile_cons_of_neg (by decide), List.takeWhile_cons_of_neg (by decide),
      List.append_nil, List.append_nil] at htake
    exact htake.symm
  refine ⟨heq, ?_⟩
  have hlen := congrArg List.length h
  rw [heq, List.length_take, List.length_append, List.length_append, List.length_cons,
    List.length_singleton] at hlen
  cases rest with
  | nil => exact .inl ⟨rfl, by simp only [List.length_nil] at hlen; omega⟩
  | cons b rest => exact .inr (by simp only [List.length_cons] at hlen; omega)

theorem sentence_cut {t : Bytes} (hzero : (0 : UInt8) ∉ t) :
    Processor.sentence t = t.take 4095 ++
      (fmtHex 2 (Math.checksumFrom 0 ((t.take 4095).drop 1)).toUInt32 ++ str "\r\n") := by
  rw [Processor.sentence, Processor.checksumText,
    cstr_eq_self fun hmem => hzero (List.mem_of_mem_take hmem)]

/-- The last byte of the array is the `*`, and the checksum has two digits. -/
theorem split_of_form {a h body hh : Bytes} (hlen : 2 ≤ h.length) (hh2 : hh.length = 2)
    (hdigits : ∀ b ∈ h, digitVal b < 16) (heq : a ++ h = body ++ ch '*' :: hh) :
    a = body ++ [ch '*'] ∧ h = hh := by
  have hsuffix : ch '*' :: hh <:+ a ++ h := ⟨body, heq.symm⟩
  have hle : h.length ≤ 2 := by
    by_contra hlong
    have hmem : ch '*' :: hh <:+ h :=
      List.suffix_of_suffix_length_le hsuffix (List.suffix_append a h)
        (by rw [List.length_cons]; omega)
    have hstar := hdigits _ (hmem.subset List.mem_cons_self)
    exact absurd hstar (by decide)
  have heq' : a ++ h = (body ++ [ch '*']) ++ hh := by rw [heq]; simp
  exact List.append_inj' heq' (by omega)

/-- The array ends right behind the first `*` if nothing follows it or nothing more fits. -/
theorem take_of_fit {w rest : Bytes}
    (hfit : rest = [] ∧ w.length + 2 ≤ 4095 ∨ w.length + 2 = 4095) :
    (w ++ ch '*' :: rest).take 4094 = w ++ [ch '*'] := by
  rcases hfit with ⟨rfl, hle⟩ | hexact
  · apply List.take_of_length_le
    rw [List.length_append, List.length_singleton]
    omega
  · rw [← List.singleton_append, ← List.append_assoc]
    apply List.take_left'
    rw [List.length_append, List.length_singleton]
    omega

theorem wellFormed_of_body {fields : Nat} {w : Bytes} (hstar : ch '*' ∉ w)
    (hlt : (Math.xorAll w).toNat < 128) (hcommas : w.count (ch ',') + 1 = fields) :
    WellFormed fields (ch '$' :: (w ++ [ch '*']) ++ (Processor.csumDigits (Math.xorAll w) ++
      str "\r\n")) := by
  obtain ⟨hlen, hdigits, -⟩ := GpsParser.csumDigits_spec hlt
  refine ⟨w, Processor.csumDigits (Math.xorAll w), by simp, ?_, hlen,
    fun b hb => decide_eq_true (hdigits b hb), GpsParser.natVal_csumDigits hlt, hcommas⟩
  have hhh : ch '*' ∉ Processor.csumDigits (Math.xorAll w) :=
    fun hmem => absurd (hdigits _ hmem) (by decide)
  have hcrlf : (str "\r\n").count (ch '*') = 0 := by decide
  rw [List.count_append, List.count_cons_of_ne (by decide), List.count_append, List.count_append,
    List.count_singleton_self, List.count_eq_zero_of_not_mem hstar,
    List.count_eq_zero_of_not_mem hhh, hcrlf]

theorem wellFormed_sentence_iff {fields : Nat} {w rest : Bytes} (hstar : ch '*' ∉ w)
    (hzero : (0 : UInt8) ∉ w ++ ch '*' :: rest) :
    WellFormed fields (Processor.sentence (ch '$' :: (w ++ ch '*' :: rest))) ↔
      (rest = [] ∧ w.length + 2 ≤ 4095 ∨ w.length + 2 = 4095) ∧ (Math.xorAll w).toNat < 128 ∧
        w.count (ch ',') + 1 = fields := by
  have hzero' : (0 : UInt8) ∉ ch '$' :: (w ++ ch '*' :: rest) := by
    rw [List.mem_cons, not_or]
    exact ⟨by decide, hzero⟩
  have hplain : ∀ b ∈ w, ¬ (b = ch '*' ∨ b = 0) := by
    rintro b hb (rfl | rfl)
    · exact hstar hb
    · exact hzero (List.mem_append_left _ hb)
  have hcsum : Math.checksumFrom 0 (w ++ [ch '*']) = (Math.xorAll w).toInt8.toInt32 := by
    rw [Math.checksumFrom_append_star]
    exact Math.checksumFrom_xor hplain 0
  rw [sentence_cut hzero', List.take_succ_cons, List.drop_one, List.tail_cons]
  constructor
  · rintro ⟨body, hh, heq, hcount, hlen, -, -, hcommas⟩
    have hform := heq
    rw [List.cons_append, List.cons.injEq, ← List.append_assoc, ← List.cons_append,
      ← List.append_assoc] at hform
    obtain ⟨htake, hdigits⟩ := split_of_form (by
        rw [fmtHex, padLeft_length]
        exact le_max_left _ _) hlen (fun b hb => GpsParser.digitVal_of_mem_fmtHex hb)
      (List.append_cancel_right hform.2)
    have hbody : ch '*' ∉ body := by
      rw [heq, List.count_cons_of_ne (by decide), List.count_append, List.count_cons_self] at hcount
      exact List.count_eq_zero.mp (by omega)
    obtain ⟨rfl, hfit⟩ := take_upTo_star hstar hbody htake
    rw [htake, hcsum] at hdigits
    refine ⟨?_, csumDigits_length _ ?_, hcommas⟩
    · rcases hfit with ⟨hnil, hle⟩ | hexact
      · exact .inl ⟨hnil, by omega⟩
      · exact .inr (by omega)
    · rw [← hlen, ← hdigits]
      rfl
  · rintro ⟨hfit, hlt, hcommas⟩
    rw [take_of_fit hfit, hcsum]
    exact wellFormed_of_body hstar hlt hcommas

/-! ## The sign of the checksum -/

namespace Math

-- A `char` with this bit is negative.
def isNegative (b : UInt8) : Bool := 128 ≤ b

theorem isNegative_eq_msb (b : UInt8) : isNegative b = b.toBitVec.msb := by
  rw [isNegative, BitVec.msb_eq_decide]
  exact decide_eq_decide.mpr UInt8.le_iff_toNat_le

theorem isNegative_xor (x y : UInt8) : isNegative (x ^^^ y) = (isNegative x ^^ isNegative y) := by
  simp only [isNegative_eq_msb, UInt8.toBitVec_xor, BitVec.msb_xor]

theorem isNegative_foldl_xor (s : Bytes) (x : UInt8) :
    isNegative (s.foldl (· ^^^ ·) x) = (isNegative x ^^ decide (s.countP isNegative % 2 = 1)) := by
  induction s generalizing x with
  | nil => simp
  | cons b s ih =>
      rw [List.foldl_cons, ih, isNegative_xor, List.countP_cons]
      by_cases hb : isNegative b = true
      · rw [hb, if_pos rfl]
        by_cases hodd : s.countP isNegative % 2 = 1
        · rw [decide_eq_true hodd, decide_eq_false (by omega)]
          simp
        · rw [decide_eq_false hodd, decide_eq_true (by omega)]
          simp
      · rw [Bool.not_eq_true] at hb
        simp [hb]

theorem xorAll_lt_iff (s : Bytes) : (xorAll s).toNat < 128 ↔ Even (s.countP isNegative) := by
  have hsign := isNegative_foldl_xor s 0
  rw [show isNegative 0 = false by decide, Bool.false_xor] at hsign
  rw [← not_le, Nat.even_iff, ← Nat.mod_two_ne_one]
  apply not_congr
  rw [← decide_eq_true_iff (p := s.countP isNegative % 2 = 1), ← hsign, isNegative,
    decide_eq_true_eq, UInt8.le_iff_toNat_le]
  rfl

end Math

/-! ## An id between two parts of a report -/

section Report

variable {commas commas' len len' : Nat} {front id back : Bytes} (hfront : Text commas len front)
  (hback : Text commas' len' back) (hcomma : ch ',' ∉ id) (hzero : (0 : UInt8) ∉ id)

include hfront hback

theorem zero_notMem_text : (0 : UInt8) ∉ front ∧ (0 : UInt8) ∉ back :=
  ⟨fun hmem => absurd (hfront.all 0 hmem) (by decide),
    fun hmem => absurd (hback.all 0 hmem) (by decide)⟩

theorem star_notMem_text : ch '*' ∉ front ∧ ch '*' ∉ back :=
  ⟨fun hmem => absurd (hfront.all _ hmem) (by decide),
    fun hmem => absurd (hback.all _ hmem) (by decide)⟩

theorem countP_isNegative_text :
    (front ++ id ++ back).countP Math.isNegative = id.countP Math.isNegative := by
  have hnone : ∀ b : UInt8, isText b = true → ¬ Math.isNegative b = true := by decide +kernel
  rw [List.countP_append, List.countP_append,
    List.countP_eq_zero.mpr fun b hb => hnone b (hfront.all b hb),
    List.countP_eq_zero.mpr fun b hb => hnone b (hback.all b hb), Nat.zero_add, Nat.add_zero]

include hcomma hzero

theorem wellFormed_report_iff (hstar : ch '*' ∉ id) :
    WellFormed (commas + commas' + 1)
        (Processor.sentence (ch '$' :: (front ++ id ++ back ++ [ch '*']))) ↔
      Even (id.countP Math.isNegative) ∧ front.length + id.length + back.length ≤ 4093 := by
  obtain ⟨hfrontZero, hbackZero⟩ := zero_notMem_text hfront hback
  obtain ⟨hfrontStar, hbackStar⟩ := star_notMem_text hfront hback
  have hcount : (front ++ id ++ back).count (ch ',') = commas + commas' := by
    rw [List.count_append, List.count_append, hfront.count, hback.count,
      List.count_eq_zero_of_not_mem hcomma, Nat.add_zero]
  have hsign : (Math.xorAll (front ++ id ++ back)).toNat < 128 ↔
      Even (id.countP Math.isNegative) := by
    rw [Math.xorAll_lt_iff, countP_isNegative_text hfront hback]
  rw [wellFormed_sentence_iff (by simp [hfrontStar, hbackStar, hstar])
    (by simp [hfrontZero, hbackZero, hzero]; decide), hsign, hcount, List.length_append,
    List.length_append]
  constructor
  · rintro ⟨hfit, heven, -⟩
    exact ⟨heven, by omega⟩
  · rintro ⟨heven, hfit⟩
    exact ⟨.inl ⟨rfl, by omega⟩, heven, rfl⟩

/-- The body ends at the `*` of the id, before the commas that follow it. -/
theorem not_wellFormed_of_star (hlater : 0 < commas') (hstar : ch '*' ∈ id) :
    ¬ WellFormed (commas + commas' + 1)
        (Processor.sentence (ch '$' :: (front ++ id ++ back ++ [ch '*']))) := by
  obtain ⟨hfrontZero, hbackZero⟩ := zero_notMem_text hfront hback
  obtain ⟨start, rest, hcut, hstart⟩ := List.eq_append_cons_of_mem hstar
  rw [hcut] at hcomma hzero ⊢
  have hsplit : front ++ (start ++ ch '*' :: rest) ++ back ++ [ch '*'] =
      (front ++ start) ++ ch '*' :: (rest ++ back ++ [ch '*']) := by
    simp only [List.append_assoc, List.cons_append]
  have hcommaStart : ch ',' ∉ start := fun hmem => hcomma (List.mem_append_left _ hmem)
  have hzeroText : (0 : UInt8) ∉ (front ++ start) ++ ch '*' :: (rest ++ back ++ [ch '*']) := by
    rw [← hsplit]
    simp only [List.mem_append, List.mem_singleton, not_or] at hzero ⊢
    exact ⟨⟨⟨hfrontZero, hzero⟩, hbackZero⟩, by decide⟩
  rw [hsplit, wellFormed_sentence_iff (by simp [(star_notMem_text hfront hback).1, hstart])
    hzeroText]
  rintro ⟨-, -, hcount⟩
  rw [List.count_append, hfront.count, List.count_eq_zero_of_not_mem hcommaStart] at hcount
  omega

end Report


namespace SbsParser

/-- What the array leaves for the id next to the numbers of a report. -/
def idRoom (rel : RelPosition) (aircraft : Aircraft) : Nat :=
  4093 - max (AircraftProcessor.frontPFLAU rel).length
    ((AircraftProcessor.frontPFLAA rel aircraft).length +
      (AircraftProcessor.backPFLAA aircraft).length)

theorem comma_notMem_cstr_idField (sentence : Bytes) : ch ',' ∉ cstr (idField sentence) :=
  fun hmem => comma_notMem_fieldText _ (cstr_subset _ hmem)

/-- Both sentences of a report are well formed exactly if the id lets them be. -/
theorem wellFormed_both_iff {aircraft : Aircraft} (rel : RelPosition)
    (hclimb : aircraft.m_movement.climbRate.InRange) (hcomma : ch ',' ∉ cstr aircraft.m_id) :
    WellFormed 11 (Processor.sentence (AircraftProcessor.textPFLAU rel aircraft)) ∧
        WellFormed 12 (Processor.sentence (AircraftProcessor.textPFLAA rel aircraft)) ↔
      ch '*' ∉ cstr aircraft.m_id ∧ Even ((cstr aircraft.m_id).countP Math.isNegative) ∧
        (cstr aircraft.m_id).length ≤ idRoom rel aircraft := by
  have hfrontU := AircraftProcessor.text_frontPFLAU rel
  have hfrontA := AircraftProcessor.text_frontPFLAA rel aircraft
  have hback := AircraftProcessor.text_backPFLAA hclimb
  have hnil : Text 0 0 [] := ⟨by simp, rfl, le_rfl⟩
  have hzero : (0 : UInt8) ∉ cstr aircraft.m_id := zero_notMem_cstr _
  rw [AircraftProcessor.textPFLAU_eq, AircraftProcessor.textPFLAA_eq,
    ← List.append_nil (AircraftProcessor.frontPFLAU rel ++ cstr aircraft.m_id)]
  by_cases hstar : ch '*' ∈ cstr aircraft.m_id
  · have hpflaa := not_wellFormed_of_star hfrontA hback hcomma hzero (by omega) hstar
    exact ⟨fun h => absurd h.2 hpflaa, fun h => absurd hstar h.1⟩
  · rw [wellFormed_report_iff hfrontU hnil hcomma hzero hstar,
      wellFormed_report_iff hfrontA hback hcomma hzero hstar, idRoom]
    have hlenU := hfrontU.length
    have hlenA := hfrontA.length
    have hlenBack := hback.length
    constructor
    · rintro ⟨⟨heven, hfitU⟩, -, hfitA⟩
      rw [List.length_nil] at hfitU
      exact ⟨hstar, heven, by omega⟩
    · rintro ⟨-, heven, hfit⟩
      rw [List.length_nil]
      exact ⟨⟨heven, by omega⟩, heven, by omega⟩

/-- For an accepted line that the processor reports, both sentences are well formed exactly if the
printed part of the id field has no `*`, has an even number of bytes above 127 and fits the array,
which it does up to 4039 bytes. -/
theorem wellFormed_of_line_iff (m : Libm) (clock : DateTime) (s_maxHeight : Int32)
    (sentence : Bytes) (priority : UInt32) (aircraft : Aircraft)
    (h : unpack clock s_maxHeight sentence (.ofPriority priority) = (true, aircraft))
    (this : AircraftProcessor) (rel : RelPosition)
    (hrel : rel = AircraftProcessor.calculateRelPosition m this.m_refPosition
      this.m_refAtmPressure aircraft) (hwithin : rel.m_distance ≤ this.m_maxDistance) :
    (this.process m aircraft).2.m_serialized =
      Processor.sentence (AircraftProcessor.textPFLAU rel aircraft) ++
        Processor.sentence (AircraftProcessor.textPFLAA rel aircraft) ∧
    (WellFormed 11 (Processor.sentence (AircraftProcessor.textPFLAU rel aircraft)) ∧
        WellFormed 12 (Processor.sentence (AircraftProcessor.textPFLAA rel aircraft)) ↔
      ch '*' ∉ cstr (idField sentence) ∧
        Even ((cstr (idField sentence)).countP Math.isNegative) ∧
        (cstr (idField sentence)).length ≤ idRoom rel aircraft) ∧
    4039 ≤ idRoom rel aircraft := by
  obtain ⟨-, timeStamp, position, haircraft⟩ := unpack_true h
  have hid : aircraft.m_id = idField sentence := by rw [haircraft]
  have hclimb : aircraft.m_movement.climbRate.InRange := by
    rw [haircraft]
    exact inRange_of_le (by norm_num)
  have hback : (AircraftProcessor.backPFLAA aircraft).length = 6 := by
    rw [haircraft]
    change (str "," ++ (str ",,," ++ (str "," ++
      fmtHexUpper AircraftType.POWERED_AIRCRAFT.raw))).length = 6
    decide
  refine ⟨?_, ?_, ?_⟩
  · rw [(AircraftProcessor.process_spec m this aircraft).1]
    simp only [AircraftProcessor.report, ← hrel, hwithin, if_true]
  · rw [← hid]
    apply wellFormed_both_iff rel hclimb
    rw [hid]
    exact comma_notMem_cstr_idField sentence
  · have hfrontU := (AircraftProcessor.text_frontPFLAU rel).length
    have hfrontA := (AircraftProcessor.text_frontPFLAA rel aircraft).length
    rw [idRoom, hback]
    omega

theorem wellFormed_of_line_iff_at_origin :
    ∃ aircraft pflau pflaa, unpack ⟨0, 0⟩ 1000
      (str "MSG,3,0,0,AAAAAA,0,2017/02/16,20:11:30.772,2017/02/16,20:11:30.772,,0,,,0.0,0.0,,,,,,0")
      (.ofPriority 0) = (true, aircraft) ∧
    ((AircraftProcessor.ofMaxDistance 0).process .atOrigin aircraft).2.m_serialized =
      pflau ++ pflaa ∧ WellFormed 11 pflau ∧ WellFormed 12 pflaa := by
  have haccepted : unpack ⟨0, 0⟩ 1000
      (str "MSG,3,0,0,AAAAAA,0,2017/02/16,20:11:30.772,2017/02/16,20:11:30.772,,0,,,0.0,0.0,,,,,,0")
      (.ofPriority 0) = (true, _) := Prod.ext (by decide +kernel) rfl
  have h := wellFormed_of_line_iff .atOrigin ⟨0, 0⟩ 1000 _ 0 _ haccepted (.ofMaxDistance 0) _ rfl
    (by decide +kernel)
  have hboth := h.2.1.mpr ⟨by decide, by decide, by decide +kernel⟩
  exact ⟨_, _, _, haccepted, h.1, hboth⟩

theorem count_star_of_wellFormed {fields fields' : Nat} {s t : Bytes} (hs : WellFormed fields s)
    (ht : WellFormed fields' t) : (s ++ t).count (ch '*') = 2 := by
  obtain ⟨-, -, -, hcountS, -⟩ := hs
  obtain ⟨-, -, -, hcountT, -⟩ := ht
  rw [List.count_append, hcountS, hcountT]

/-- The `*` of this id gives the message four of them. -/
theorem star_in_id_breaks_report :
    ∃ aircraft, unpack ⟨0, 0⟩ 1000
      (str "MSG,3,0,0,A*B,0,2017/02/16,20:11:30.772,2017/02/16,20:11:30.772,,0,,,0.0,0.0,,,,,,0")
      (.ofPriority 0) = (true, aircraft) ∧
    ¬ ∃ pflau pflaa, ((AircraftProcessor.ofMaxDistance 0).process .atOrigin aircraft).2.m_serialized =
      pflau ++ pflaa ∧ WellFormed 11 pflau ∧ WellFormed 12 pflaa := by
  refine ⟨_, Prod.ext (by decide +kernel) rfl, ?_⟩
  rintro ⟨pflau, pflaa, heq, hpflau, hpflaa⟩
  have hcount := count_star_of_wellFormed hpflau hpflaa
  rw [← heq] at hcount
  exact absurd hcount (by decide +kernel)

end SbsParser

end VirtualFlightRadar
