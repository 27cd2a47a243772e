import VirtualFlightRadar.Feed.Direction
import VirtualFlightRadar.Feed.GpsForm

/-!
# GGA sentences in the other letter case

The expression ignores case, so a sentence whose letters change case is matched as before, with any
checksum behind its `*`, and every captured number is the same.
-/

open Cxx

namespace VirtualFlightRadar

namespace GpsParser

open Regex in
-- The expression up to its `*`
def frontRE : Regex UInt8 :=
  concat (([word (str "$")] ++ (fieldsRE ++ heightsRE)) ++ [word (str ",M,,")])

open Regex in
def backRE : Regex UInt8 :=
  concat [word (str "*"), times (icase isHexUpper) 2, starLazy isSpace, .eos]

open Regex in
theorem matchAt_cut (s : Bytes) (c : Captures UInt8) (k : Cont UInt8) :
    matchAt s_GPGGA_RE s c k = matchAt frontRE s c fun s c => matchAt backRE s c k := by
  have hpieces : s_GPGGA_RE = concat (([word (str "$")] ++ (fieldsRE ++ heightsRE)) ++
      [word (str ",M,,*"), times (icase isHexUpper) 2, starLazy isSpace, .eos]) := rfl
  rw [hpieces, frontRE]
  generalize [word (str "$")] ++ (fieldsRE ++ heightsRE) = rs
  rw [matchAt_concat_append, matchAt_concat_append]
  rfl

theorem frontRE_caseBlind : Regex.CaseBlind frontRE := by
  unfold Regex.CaseBlind
  decide +kernel

theorem frontRE_stops (t : Bytes) : Regex.Stops frontRE (ch '*' :: t) := by
  have hall : (frontRE.classes.all fun p => !p (ch '*')) = true := by decide
  intro p hp b hb
  cases hb
  have hp' := List.all_eq_true.mp hall p hp
  rwa [Bool.not_eq_true'] at hp'

open Regex in
theorem picks_back {hh tail : Bytes} (hhh : Run (icase isHexUpper) 2 hh)
    (htail : ∀ b ∈ tail, isSpace b = true) (c : Captures UInt8) :
    Picks backRE (ch '*' :: (hh ++ tail)) c [] c :=
  (Picks.word (str "*")).seq ((Picks.run hhh).seq (Picks.starLazy_eos htail))

open Regex in
/-- Only the last `*` of a text starts its end. -/
theorem fails_back {x : Bytes} (hx : x ≠ []) (t : Bytes) (c : Captures UInt8) :
    Fails backRE (x ++ ch '*' :: t) c := by
  apply fails_of_not_takes
  rintro rest c' ⟨t₁, c₁, hstar, t₂, c₂, ⟨-, hh, rfl, hhex, -⟩, t₃, c₃, ⟨-, tail, rfl, hblank, -⟩,
    t₄, c₄, ⟨rfl, -⟩, -⟩
  obtain ⟨-, a, hs, ha⟩ := takes_word.mp hstar
  have hlen : a.length = 1 := by
    rw [← List.length_map (f := toLower), ha]
    rfl
  -- Behind the first character there still is the `*`.
  have hmem : ch '*' ∈ hh ++ (tail ++ []) := by
    have hdrop := congrArg (List.drop 1) hs
    rw [← hlen, List.drop_left, hlen] at hdrop
    rw [← hdrop, List.drop_append_of_le_length (List.length_pos_iff.mpr hx)]
    simp
  rw [List.append_nil, List.mem_append] at hmem
  rcases hmem with hmem | hmem
  · exact absurd (hhex _ hmem) (by decide)
  · exact absurd (hblank _ hmem) (by decide)

open Regex in
/-- Sentences with related bodies match alike, whatever their checksums are. -/
theorem matchAll_recased {R : UInt8 → UInt8 → Prop} (hR : Respects R frontRE)
    (hdollar : R (ch '$') (ch '$')) {body body' hh hh' tail : Bytes}
    (hbody : List.Forall₂ R body body') (hhh : Run (icase isHexUpper) 2 hh)
    (hhh' : Run (icase isHexUpper) 2 hh') (htail : ∀ b ∈ tail, isSpace b = true) :
    Option.Rel (RelCaptures R) (s_GPGGA_RE.matchAll (ch '$' :: (body ++ ch '*' :: (hh ++ tail))))
      (s_GPGGA_RE.matchAll (ch '$' :: (body' ++ ch '*' :: (hh' ++ tail)))) := by
  have hfirst : ∀ s t : Bytes, ch '$' :: (s ++ t) = (ch '$' :: s) ++ t := fun _ _ => rfl
  unfold matchAll
  rw [matchAt_cut, matchAt_cut, hfirst, hfirst]
  apply matchAt_rel hR (frontRE_stops _) (frontRE_stops _)
  · simp only [List.length_cons, List.length_append, hhh.length, hhh'.length]
  · exact .cons hdollar hbody
  · exact fun _ => .nil
  · intro x x' c c' hx hc
    cases hx with
    | nil =>
        rw [List.nil_append, List.nil_append, picks_back hhh htail c _ c rfl,
          picks_back hhh' htail c' _ c' rfl]
        exact .some hc
    | cons hb hx =>
        rw [fails_back (List.cons_ne_nil _ _), fails_back (List.cons_ne_nil _ _)]
        exact .none

theorem parsePosition_fields [Rounding] {clock : DateTime} {groups : Captures UInt8}
    {position position' : GpsPosition}
    (h : (parsePosition clock groups).run.run position = (.ok true, position')) :
    ∃ lat lon alt, stod (groups RE_GGA_LAT) = .ok lat ∧ stod (groups RE_GGA_LON) = .ok lon ∧
      stod (groups RE_GGA_ALT) = .ok alt ∧
      stod (groups RE_GGA_GEOID) = .ok position'.m_geoid ∧
      position'.m_position =
        { latitude := signed (groups RE_GGA_LAT_DIR) (str "S") (Math.dmToDeg lat)
          longitude := signed (groups RE_GGA_LON_DIR) (str "W") (Math.dmToDeg lon)
          altitude := Math.doubleToInt alt } := by
  have hcopy := h
  unfold parsePosition at h
  rcases hlat : stod (groups RE_GGA_LAT) with e | lat
  · rw [hlat] at h
    cases h
  rcases hlon : stod (groups RE_GGA_LON) with e | lon
  · rw [hlat, hlon] at h
    cases h
  rcases halt : stod (groups RE_GGA_ALT) with e | alt
  · rw [hlat, hlon, halt] at h
    cases h
  rcases htime : TimeStamp.make clock (groups RE_GGA_TIME) .HHMMSS with e | timeStamp
  · rw [hlat, hlon, halt, htime] at h
    cases h
  rcases hfix : stoi 10 (groups RE_GGA_FIX) with e | quality
  · rw [hlat, hlon, halt, htime, hfix] at h
    cases h
  rcases hsat : stoi 10 (groups RE_GGA_SAT) with e | sats
  · rw [hlat, hlon, halt, htime, hfix, hsat] at h
    cases h
  rcases hdil : stod (groups RE_GGA_DIL) with e | dilution
  · rw [hlat, hlon, halt, htime, hfix, hsat, hdil] at h
    cases h
  rcases hgeoid : stod (groups RE_GGA_GEOID) with e | geoid
  · rw [hlat, hlon, halt, htime, hfix, hsat, hdil, hgeoid] at h
    cases h
  rw [parsePosition_of_fields hlat hlon halt htime hfix hsat hdil hgeoid, Prod.mk.injEq] at hcopy
  rw [← hcopy.2]
  exact ⟨lat, lon, alt, rfl, rfl, rfl, rfl, rfl⟩

/-- What an accepted sentence has been read from. -/
theorem parsePosition_reads [Rounding] {clock : DateTime} {groups : Captures UInt8}
    {position position' : GpsPosition}
    (h : (parsePosition clock groups).run.run position = (.ok true, position')) :
    ∃ lat lon alt, stod (groups RE_GGA_LAT) = .ok lat ∧ stod (groups RE_GGA_LON) = .ok lon ∧
      stod (groups RE_GGA_ALT) = .ok alt ∧
      position'.m_position =
        { latitude := signed (groups RE_GGA_LAT_DIR) (str "S") (Math.dmToDeg lat)
          longitude := signed (groups RE_GGA_LON_DIR) (str "W") (Math.dmToDeg lon)
          altitude := Math.doubleToInt alt } := by
  obtain ⟨lat, lon, alt, hlat, hlon, halt, -, hposition⟩ := parsePosition_fields h
  exact ⟨lat, lon, alt, hlat, hlon, halt, hposition⟩

/-- The groups that take digits only. -/
def digitGroups : List Nat :=
  [RE_GGA_TIME, RE_GGA_LAT, RE_GGA_LON, RE_GGA_FIX, RE_GGA_SAT, RE_GGA_DIL, RE_GGA_ALT,
    RE_GGA_GEOID]

theorem lat_isCoordinate [Rounding] {s : Bytes} {groups : Captures UInt8} {x : Double}
    (hmatch : s_GPGGA_RE.matchAll s = some groups) (hx : stod (groups RE_GGA_LAT) = .ok x) :
    IsCoordinate (groups RE_GGA_LAT) :=
  coordinate_of_capture (by omega) (by omega) (by omega) rfl hmatch hx

theorem lon_isCoordinate [Rounding] {s : Bytes} {groups : Captures UInt8} {x : Double}
    (hmatch : s_GPGGA_RE.matchAll s = some groups) (hx : stod (groups RE_GGA_LON) = .ok x) :
    IsCoordinate (groups RE_GGA_LON) :=
  coordinate_of_capture (by omega) (by omega) (by omega) rfl hmatch hx

section

variable {s : Bytes} {groups groups' : Captures UInt8}
  (hmatch : s_GPGGA_RE.matchAll s = some groups)
  (hletters : ∀ n, SameLetters (groups n) (groups' n))

include hmatch hletters

theorem digits_eq : ∀ n ∈ digitGroups, groups' n = groups n :=
  Regex.captures_eq hmatch (by decide +kernel) hletters

theorem parsePosition_sameLetters {lat lon : Double} (hlat : stod (groups RE_GGA_LAT) = .ok lat)
    (hlon : stod (groups RE_GGA_LON) = .ok lon)
    (hns : SideFree (ch 'S') (groups RE_GGA_LAT_DIR) (groups RE_GGA_LAT))
    (hew : SideFree (ch 'W') (groups RE_GGA_LON_DIR) (groups RE_GGA_LON)) (clock : DateTime) :
    parsePosition clock groups' = parsePosition clock groups := by
  have hdigits := digits_eq hmatch hletters
  have hS := hns.signed (lat_isCoordinate hmatch hlat) hlat (hletters RE_GGA_LAT_DIR)
  have hW := hew.signed (lon_isCoordinate hmatch hlon) hlon (hletters RE_GGA_LON_DIR)
  have hread : ∀ (x : Double) (next : Double → Parse Bool),
      (liftM (Except.ok x : Except StdError Double) >>= next) = next x := fun _ _ => rfl
  unfold parsePosition
  rw [hdigits RE_GGA_TIME (by decide), hdigits RE_GGA_LAT (by decide),
    hdigits RE_GGA_LON (by decide), hdigits RE_GGA_FIX (by decide), hdigits RE_GGA_SAT (by decide),
    hdigits RE_GGA_DIL (by decide), hdigits RE_GGA_ALT (by decide),
    hdigits RE_GGA_GEOID (by decide), hlat, hlon, str_S, str_W]
  simp only [hread, hS, hW]

end

/-- Letters between `$` and `*` have another case, and the checksum is the one of that. -/
def Recased (s s' : Bytes) : Prop :=
  ∃ body body' hh hh' tail, s = ch '$' :: (body ++ ch '*' :: (hh ++ tail)) ∧
    s' = ch '$' :: (body' ++ ch '*' :: (hh' ++ tail)) ∧ SameLetters body body' ∧ hh.length = 2 ∧
    Regex.Run (Regex.icase isHexUpper) 2 hh' ∧ natVal 16 hh' = (Math.xorAll body').toNat

def CaseFree (s : Bytes) : Prop :=
  ∃ groups, s_GPGGA_RE.matchAll s = some groups ∧
    SideFree (ch 'S') (groups RE_GGA_LAT_DIR) (groups RE_GGA_LAT) ∧
    SideFree (ch 'W') (groups RE_GGA_LON_DIR) (groups RE_GGA_LON)

theorem Frame.cut_unique {s body hh tail : Bytes} {groups : Captures UInt8} (f : Frame s groups)
    (h : s = ch '$' :: (body ++ ch '*' :: (hh ++ tail))) (hlen : hh.length = 2) :
    body = f.body ∧ hh = f.hh ∧ tail = f.tail := by
  have hstar : s[body.length + 1]? = some (ch '*') := by
    rw [h]
    simp
  have hbody := f.getElem?_star hstar
  have heq : ch '$' :: (body ++ ch '*' :: (hh ++ tail)) =
      ch '$' :: (f.body ++ ch '*' :: (f.hh ++ f.tail)) := h.symm.trans f.eq
  rw [List.cons.injEq] at heq
  obtain ⟨hb, hrest⟩ := List.append_inj heq.2 (by omega)
  rw [List.cons.injEq] at hrest
  obtain ⟨hh', ht⟩ := List.append_inj hrest.2 (by rw [hlen, f.digits.length])
  exact ⟨hb, hh', ht⟩

theorem plain_sameLetters {body body' : Bytes} (h : SameLetters body body')
    (hplain : ∀ b ∈ body, Math.isPlain b = true) : ∀ b ∈ body', Math.isPlain b = true := by
  intro b hb
  have hmem : toLower b ∈ body.map toLower := by
    rw [h]
    exact List.mem_map_of_mem hb
  obtain ⟨a, ha, hab⟩ := List.mem_map.mp hmem
  rw [← Math.isPlain_toLower b, ← hab, Math.isPlain_toLower a]
  exact hplain a ha

/-- The checksum that stands in a sentence is compared with the one of its body. -/
theorem checksumField_recased {body hh tail : Bytes} (hplain : ∀ b ∈ body, Math.isPlain b = true)
    (hhh : Regex.Run (Regex.icase isHexUpper) 2 hh) (htail : ∀ b ∈ tail, isSpace b = true)
    (hval : natVal 16 hh = (Math.xorAll body).toNat) :
    let s := ch '$' :: (body ++ ch '*' :: (hh ++ tail))
    checksumField s = .ok (Math.checksum s s.length).toInt := by
  have hstar : ch '*' ∉ hh ++ tail := by
    rw [List.mem_append, not_or]
    exact ⟨fun hmem => absurd (hhh.all _ hmem) (by decide),
      fun hmem => absurd (htail _ hmem) (by decide)⟩
  obtain ⟨hfield, hcsum⟩ := checksumField_cut (ch '$') body tail hhh.length hstar
  have hxor : Math.checksumFrom 0 body = (Math.xorAll body).toInt8.toInt32 :=
    Math.checksumFrom_plain hplain 0
  intro s
  rw [hfield, hcsum, hxor, (toInt_of_plain _ (Math.xorAll_lt hplain)).1, stoi_hexPair hhh, hval]

section

variable {boost : BoostRegex} {clock : DateTime} {s : Bytes} {position : GpsPosition}
  (haccepted : (unpack boost clock s position).1 = true)

include haccepted

theorem unpack_recased (hfree : CaseFree s) {s' : Bytes} (hs : Recased s s') :
    unpack boost clock s' position = (true, (unpack boost clock s position).2) := by
  obtain ⟨groups, hmatch, hns, hew⟩ := hfree
  obtain ⟨-, _, hmatch₁, hparsed⟩ := unpack_true_iff.mp (Prod.ext haccepted rfl)
  obtain rfl := Option.some.inj (hmatch.symm.trans hmatch₁)
  obtain ⟨lat, lon, -, hlat, hlon, -⟩ := parsePosition_reads hparsed
  obtain ⟨f⟩ := frame_of_match hmatch
  obtain ⟨body, body', hh, hh', tail, hcut, rfl, hletters, hlen, hhh', hval⟩ := hs
  obtain ⟨rfl, rfl, rfl⟩ := f.cut_unique hcut hlen
  have hplain := plain_sameLetters hletters f.plain
  have hrel := matchAll_recased (frontRE_caseBlind.respects fun _ _ hb => hb) rfl
    (forall₂_sameLetters.mpr hletters) f.digits hhh' f.blanks
  rw [← hcut] at hrel
  obtain ⟨groups', hmatch', hgroups⟩ := Regex.some_of_rel hrel hmatch
  apply unpack_true_iff.mpr
  refine ⟨checksumField_recased hplain hhh' f.blanks hval, groups', hmatch', ?_⟩
  rw [parsePosition_sameLetters hmatch (fun n => forall₂_sameLetters.mp (hgroups n)) hlat hlon hns
    hew]
  exact hparsed

theorem caseFree_of_recased (h : ∀ s', Recased s s' →
    unpack boost clock s' position = (true, (unpack boost clock s position).2)) : CaseFree s := by
  obtain ⟨-, groups, hmatch, hparsed⟩ := unpack_true_iff.mp (Prod.ext haccepted rfl)
  obtain ⟨lat, lon, alt, hlat, hlon, -, hposition⟩ := parsePosition_reads hparsed
  obtain ⟨f⟩ := frame_of_match hmatch
  have hletters := sameLetters_swapCase f.body
  have hplain := plain_sameLetters hletters f.plain
  obtain ⟨hlen, hhex, -⟩ := csumDigits_spec (Math.xorAll_lt hplain)
  have hhh : Regex.Run (Regex.icase isHexUpper) 2
      (Processor.csumDigits (Math.xorAll (f.body.map swapCase))) :=
    ⟨hlen, fun b hb => (isHexUpper_of_digit b (hhex b hb)).1⟩
  have hunpack := h _ ⟨f.body, _, f.hh, _, f.tail, f.eq, rfl, hletters, f.digits.length, hhh,
    natVal_csumDigits (Math.xorAll_lt hplain)⟩
  obtain ⟨-, groups', hmatch', hparsed'⟩ := unpack_true_iff.mp hunpack
  obtain ⟨lat', lon', alt', hlat', hlon', -, hposition'⟩ := parsePosition_reads hparsed'
  have hsides := Position.mk.inj (hposition.symm.trans hposition')
  have hbody : List.Forall₂ (fun b b' => swapCase b = b') f.body (f.body.map swapCase) :=
    forall₂_swapCase.mpr rfl
  have hrel := matchAll_recased frontRE_caseBlind.respects_swapCase (by decide) hbody f.digits hhh
    f.blanks
  obtain ⟨_, hmatch₁, hgroups⟩ := Regex.some_of_rel hrel (f.eq ▸ hmatch)
  obtain rfl := Option.some.inj (hmatch'.symm.trans hmatch₁)
  have hswap : ∀ n, (groups n).map swapCase = groups' n := fun n => forall₂_swapCase.mp (hgroups n)
  have hsame : ∀ n, SameLetters (groups n) (groups' n) := fun n => by
    rw [← hswap n]
    exact sameLetters_swapCase _
  have hdigits := digits_eq hmatch hsame
  refine ⟨groups, hmatch, ?_, ?_⟩
  · apply sideFree_of_signed (lat_isCoordinate hmatch hlat) hlat (by decide)
    rw [hdigits RE_GGA_LAT (by decide), hlat] at hlat'
    obtain rfl := Except.ok.inj hlat'
    rw [← str_S, hswap]
    exact hsides.1.symm
  · apply sideFree_of_signed (lon_isCoordinate hmatch hlon) hlon (by decide)
    rw [hdigits RE_GGA_LON (by decide), hlon] at hlon'
    obtain rfl := Except.ok.inj hlon'
    rw [← str_W, hswap]
    exact hsides.2.1.symm

end

theorem caseFree_north_east :
    CaseFree (str "$GPGGA,183552,5000.0466,N,00815.7555,E,1,05,1,105,M,48.0,M,,*49") := by
  obtain ⟨groups, hmatch, hfields⟩ := (Option.any_eq_true (fun groups =>
      groups RE_GGA_LAT_DIR == str "N" && groups RE_GGA_LON_DIR == str "E")
    (s_GPGGA_RE.matchAll
      (str "$GPGGA,183552,5000.0466,N,00815.7555,E,1,05,1,105,M,48.0,M,,*49"))).mp
    (by decide +kernel)
  simp only [Bool.and_eq_true, beq_iff_eq] at hfields
  refine ⟨groups, hmatch, ?_, ?_⟩
  · rw [hfields.1]
    exact sideFree_of_ne (by decide)
  · rw [hfields.2]
    exact sideFree_of_ne (by decide)

theorem recased_south :
    Recased (str "$GPGGA,183552,5000.0466,S,00815.7555,E,1,05,1,105,M,48.0,M,,*54")
      (str "$GPGGA,183552,5000.0466,s,00815.7555,E,1,05,1,105,M,48.0,M,,*74") := by
  refine ⟨str "GPGGA,183552,5000.0466,S,00815.7555,E,1,05,1,105,M,48.0,M,,",
    str "GPGGA,183552,5000.0466,s,00815.7555,E,1,05,1,105,M,48.0,M,,", str "54", str "74", [],
    by decide +kernel, by decide +kernel, ?_, rfl, ⟨rfl, by decide⟩, by decide +kernel⟩
  unfold SameLetters
  decide +kernel

end GpsParser

end VirtualFlightRadar
