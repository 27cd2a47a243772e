import VirtualFlightRadar.Cxx.Captures
import VirtualFlightRadar.Feed.GpsParser

/-!
# What an accepted GGA sentence is

The expression pins the frame of a sentence: `$`, a body without `*` or zero, one `*`, two digits and
blanks.  The checksum covers exactly that body, so a byte that is changed in it is noticed, either by
the checksum or, where the change cuts the body short, by the expression.
-/

open Cxx

namespace VirtualFlightRadar

namespace GpsParser

open Regex in
-- The pieces of the expression between `$` and the geoid separation
def fieldsRE : List (Regex UInt8) :=
  [times (icase isUpper) 2, word (str "GGA,"),
    .group RE_GGA_TIME (times isDigit 6), word (str ","),
    .group RE_GGA_LAT (concat [times isDigit 4, word (str "."), between isDigit 3 4]),
    word (str ","),
    .group RE_GGA_LAT_DIR (one (icase fun b => b == ch 'N' || b == ch 'S')), word (str ","),
    .group RE_GGA_LON (concat [times isDigit 5, word (str "."), between isDigit 3 4]),
    word (str ","),
    .group RE_GGA_LON_DIR (one (icase fun b => b == ch 'E' || b == ch 'W')), word (str ","),
    .group RE_GGA_FIX (one isDigit), word (str ","),
    .group RE_GGA_SAT (times isDigit 2), word (str ","),
    decimal RE_GGA_DIL, word (str ",")]

open Regex in
def heightsRE : List (Regex UInt8) :=
  [decimal RE_GGA_ALT, word (str ",M,"), decimal RE_GGA_GEOID]

open Regex in
theorem s_GPGGA_RE_eq : s_GPGGA_RE = concat ([word (str "$")] ++ (fieldsRE ++ (heightsRE ++
    [word (str ",M,,*"), times (icase isHexUpper) 2, starLazy isSpace, .eos]))) := rfl

-- The bytes that no class has are the ones to go through.
theorem s_GPGGA_RE_accepts {b : UInt8} (h : s_GPGGA_RE.accepts b = true) :
    Math.isPlain b = true ∨ b = ch '*' := by
  have hnone : ∀ b : UInt8, (Math.isPlain b || b == ch '*') = false →
      s_GPGGA_RE.accepts b = false := by
    decide +kernel
  cases hb : Math.isPlain b || b == ch '*' with
  | true => simpa using hb
  | false =>
      rw [hnone b hb] at h
      cases h

/-- Pieces of the expression that do not have the `*` take plain bytes. -/
theorem plain_of_accepts {front rs back : List (Regex UInt8)}
    (heq : s_GPGGA_RE = Regex.concat (front ++ (rs ++ back)))
    (hstar : (Regex.concat rs).accepts (ch '*') = false) {b : UInt8}
    (h : (Regex.concat rs).accepts b = true) : Math.isPlain b = true := by
  have hwhole : s_GPGGA_RE.accepts b = true := by
    rw [Regex.accepts_concat] at h
    rw [heq, Regex.accepts_concat, List.any_append, List.any_append, h, Bool.true_or, Bool.or_true]
  rcases s_GPGGA_RE_accepts hwhole with hb | rfl
  · exact hb
  · rw [hstar] at h
    cases h

theorem fieldsRE_plain {b : UInt8} (h : (Regex.concat fieldsRE).accepts b = true) :
    Math.isPlain b = true :=
  plain_of_accepts s_GPGGA_RE_eq (by decide) h

theorem decimal_plain {b : UInt8} (h : (decimal 0).accepts b = true) : Math.isPlain b = true := by
  have hpieces := s_GPGGA_RE_eq
  rw [← List.append_assoc] at hpieces
  exact plain_of_accepts hpieces (by decide) (Bool.or_eq_true_iff.mpr (.inl h))

theorem plain_of_map_toLower {a : Bytes} (h : a.map toLower = (str ",M,,").map toLower ∨
    a.map toLower = (str ",M,").map toLower) : ∀ b ∈ a, Math.isPlain b = true := by
  have hplain : ∀ b ∈ (str ",M,,").map toLower, Math.isPlain b = true := by decide
  have hsub : (str ",M,").map toLower ⊆ (str ",M,,").map toLower := by decide
  intro b hb
  have hmem : toLower b ∈ a.map toLower := List.mem_map_of_mem hb
  rw [← Math.isPlain_toLower b]
  apply hplain
  rcases h with h | h
  · rwa [h] at hmem
  · rw [h] at hmem
    exact hsub hmem

/-- The last word of the expression: its `*` is the one behind the body. -/
theorem lastWord_cut {a : Bytes} (h : a.map toLower = (str ",M,,*").map toLower) :
    ∃ w, a = w ++ [ch '*'] ∧ w.map toLower = (str ",M,,").map toLower := by
  have hsplit : (str ",M,,*").map toLower = (str ",M,,").map toLower ++ [ch '*'] := by
    decide
  rw [hsplit, List.map_eq_append_iff] at h
  obtain ⟨w, last, rfl, hw, hlast⟩ := h
  obtain ⟨b, rfl, hb⟩ := List.map_eq_singleton_iff.mp hlast
  have hstar : b = ch '*' := eq_of_toLower_eq (by decide) (by decide) hb
  rw [hstar]
  exact ⟨w, rfl, hw⟩

theorem dollar_cut {a : Bytes} (h : a.map toLower = (str "$").map toLower) : a = [ch '$'] := by
  obtain ⟨b, rfl, hb⟩ := List.map_eq_singleton_iff.mp h
  have hdollar : b = ch '$' := eq_of_toLower_eq (by decide) (by decide) hb
  rw [hdollar]

/-- A sentence that the expression matches, cut around its altitude and its geoid separation. -/
structure Frame (s : Bytes) (groups : Captures UInt8) where
  front : Bytes
  separator : Bytes
  unit : Bytes
  hh : Bytes
  tail : Bytes
  separator_eq : separator.map toLower = (str ",M,").map toLower
  unit_eq : unit.map toLower = (str ",M,,").map toLower
  eq : s = ch '$' :: ((front ++ (groups RE_GGA_ALT ++ (separator ++ (groups RE_GGA_GEOID ++ unit)))) ++
    ch '*' :: (hh ++ tail))
  plain : ∀ b ∈ front ++ (groups RE_GGA_ALT ++ (separator ++ (groups RE_GGA_GEOID ++ unit))),
    Math.isPlain b = true
  digits : Regex.Run (Regex.icase isHexUpper) 2 hh
  blanks : ∀ b ∈ tail, isSpace b = true

open Regex in
theorem frame_of_match {s : Bytes} {groups : Captures UInt8}
    (h : s_GPGGA_RE.matchAll s = some groups) : Nonempty (Frame s groups) := by
  have htakes := matchAll_takes h
  rw [s_GPGGA_RE_eq, takes_concat_append] at htakes
  obtain ⟨t₀, c₀, ⟨t, c, hdollar, rfl, rfl⟩, hrest⟩ := htakes
  obtain ⟨t₁, c₁, hfields, hrest⟩ := takes_concat_append.mp hrest
  obtain ⟨t₂, c₂, rfl, halt, hrest⟩ := Takes.group_seq hrest (by decide)
  obtain ⟨t₃, c₃, hseparator, hrest⟩ := hrest
  obtain ⟨t₄, c₄, rfl, hgeoid, hrest⟩ := Takes.group_seq hrest (by decide)
  obtain ⟨t₅, c₅, hunit, t₆, c₆, hdigits, t₇, c₇, hblanks, hend⟩ := hrest
  obtain ⟨-, d, rfl, hd⟩ := takes_word.mp hdollar
  obtain ⟨front, rfl⟩ := hfields.suffix
  obtain ⟨-, separator, rfl, hsep⟩ := takes_word.mp hseparator
  obtain ⟨-, star, rfl, hstar⟩ := takes_word.mp hunit
  obtain ⟨unit, rfl, hm⟩ := lastWord_cut hstar
  obtain ⟨-, hh, rfl, hhex, hmin, hmax⟩ := hdigits
  obtain ⟨-, tail, rfl, htail, -⟩ := hblanks
  obtain ⟨-, -, ⟨rfl, rfl, -⟩, -⟩ := hend
  have hplain : ∀ b ∈ front ++ (groups RE_GGA_ALT ++ (separator ++ (groups RE_GGA_GEOID ++ unit))),
      Math.isPlain b = true := by
    simp only [List.forall_mem_append]
    refine ⟨fun b hb => fieldsRE_plain (hfields.accepts b hb), fun b hb => ?_,
      plain_of_map_toLower (.inr hsep), fun b hb => ?_, plain_of_map_toLower (.inl hm)⟩
    · exact decimal_plain (halt.accepts b hb)
    · exact decimal_plain (hgeoid.accepts b hb)
  have hlen := hmax 2 rfl
  refine ⟨⟨front, separator, unit, hh, tail, hsep, hm, ?_, hplain, ⟨by omega, hhex⟩, htail⟩⟩
  rw [dollar_cut hd]
  simp only [List.append_assoc, List.append_nil, List.singleton_append]

namespace Frame

variable {s : Bytes} {groups : Captures UInt8}

/-- What the checksum covers. -/
def body (f : Frame s groups) : Bytes :=
  f.front ++ (groups RE_GGA_ALT ++ (f.separator ++ (groups RE_GGA_GEOID ++ f.unit)))

theorem star_notMem_body (f : Frame s groups) : ch '*' ∉ f.body :=
  fun hmem => absurd (f.plain _ hmem) (by decide)

theorem star_notMem_rest (f : Frame s groups) : ch '*' ∉ f.hh ++ f.tail := by
  rw [List.mem_append, not_or]
  exact ⟨fun hmem => absurd (f.digits.all _ hmem) (by decide),
    fun hmem => absurd (f.blanks _ hmem) (by decide)⟩

theorem count_star (f : Frame s groups) : s.count (ch '*') = 1 := by
  have hbody := List.count_eq_zero_of_not_mem f.star_notMem_body
  have hrest := List.count_eq_zero_of_not_mem f.star_notMem_rest
  rw [f.eq, List.count_cons_of_ne (by decide), List.count_append, List.count_cons_self, hrest]
  exact congrArg (· + 1) hbody

theorem getElem?_star (f : Frame s groups) {j : Nat} (h : s[j]? = some (ch '*')) :
    j = f.body.length + 1 := by
  rw [f.eq] at h
  cases j with
  | zero =>
      rw [List.getElem?_cons_zero] at h
      exact absurd (Option.some.inj h) (by decide)
  | succ j =>
      rw [List.getElem?_cons_succ] at h
      change (f.body ++ ch '*' :: (f.hh ++ f.tail))[j]? = some (ch '*') at h
      rcases Nat.lt_trichotomy j f.body.length with hlt | heq | hgt
      · rw [List.getElem?_append_left hlt] at h
        exact absurd (List.mem_of_getElem? h) f.star_notMem_body
      · rw [heq]
      · obtain ⟨k, hk⟩ := Nat.exists_eq_add_of_lt hgt
        rw [List.getElem?_append_right hgt.le, show j - f.body.length = k + 1 by omega,
          List.getElem?_cons_succ] at h
        exact absurd (List.mem_of_getElem? h) f.star_notMem_rest

end Frame

/-! ## A changed byte -/

theorem unpack_true_iff [Rounding] {boost : BoostRegex} {clock : DateTime} {s : Bytes}
    {position position' : GpsPosition} :
    unpack boost clock s position = (true, position') ↔
      checksumField s = .ok (Math.checksum s s.length).toInt ∧
        ∃ groups, s_GPGGA_RE.matchAll s = some groups ∧
          (parsePosition clock groups).run.run position = (.ok true, position') := by
  constructor
  · intro h
    unfold unpack at h
    split at h
    next => cases h
    next csum hcsum =>
      split at h
      next heq =>
        rw [boost.perl] at h
        split at h
        next => cases h
        next groups hmatch =>
          split at h
          next valid parsed hparsed =>
            cases h
            exact ⟨by rw [hcsum, heq], groups, hmatch, hparsed⟩
          next => cases h
      next => cases h
  · rintro ⟨hcsum, groups, hmatch, hparsed⟩
    unfold unpack
    rw [hcsum]
    simp only [if_true, boost.perl, hmatch, hparsed]

/-- An accepted sentence has its frame. -/
theorem frame_of_unpack {boost : BoostRegex} {clock : DateTime} {s : Bytes} {position : GpsPosition}
    (h : (unpack boost clock s position).1 = true) :
    checksumField s = .ok (Math.checksum s s.length).toInt ∧
      ∃ groups, s_GPGGA_RE.matchAll s = some groups ∧ Nonempty (Frame s groups) := by
  obtain ⟨hcsum, groups, hmatch, -⟩ := unpack_true_iff.mp (Prod.ext h rfl)
  exact ⟨hcsum, groups, hmatch, frame_of_match hmatch⟩

/-- The digits behind the `*` of a sentence with the right checksum. -/
theorem stoi_of_checksum {body hh tail : Bytes} (hplain : ∀ b ∈ body, Math.isPlain b = true)
    (hlen : hh.length = 2) (hstar : ch '*' ∉ hh ++ tail)
    (h : checksumField (ch '$' :: (body ++ ch '*' :: (hh ++ tail))) =
      .ok (Math.checksum (ch '$' :: (body ++ ch '*' :: (hh ++ tail)))
        (ch '$' :: (body ++ ch '*' :: (hh ++ tail))).length).toInt) :
    stoi 16 hh = .ok (Math.xorAll body).toInt8.toInt32.toInt := by
  obtain ⟨hfield, hcsum⟩ := checksumField_cut (ch '$') body tail hlen hstar
  have hxor : Math.checksumFrom 0 body = (Math.xorAll body).toInt8.toInt32 :=
    Math.checksumFrom_plain hplain 0
  rw [← hfield, h, hcsum, hxor]

theorem toInt_injective {x y : UInt8}
    (h : x.toInt8.toInt32.toInt = y.toInt8.toInt32.toInt) : x = y := by
  rw [Int8.toInt_toInt32, Int8.toInt_toInt32] at h
  exact Int8.ofUInt8.inj (Int8.toInt_inj.mp h)

/-- Two plain bodies that differ in one byte have different checksums, and no other byte is a part
of a body. -/
theorem unpack_replaced (boost : BoostRegex) (clock : DateTime) (position : GpsPosition)
    {a c hh tail : Bytes} {x b : UInt8} (hplain : ∀ y ∈ a ++ x :: c, Math.isPlain y = true)
    (hlen : hh.length = 2) (hstar : ch '*' ∉ hh ++ tail)
    (hstoi : stoi 16 hh = .ok (Math.xorAll (a ++ x :: c)).toInt8.toInt32.toInt) (hne : x ≠ b) :
    (unpack boost clock (ch '$' :: ((a ++ b :: c) ++ ch '*' :: (hh ++ tail))) position).1 =
      false := by
  by_contra haccepted
  rw [Bool.not_eq_false] at haccepted
  obtain ⟨hcsum, groups, hmatch, ⟨f⟩⟩ := frame_of_unpack haccepted
  have hclass : s_GPGGA_RE.accepts b = true := by
    by_contra hno
    rw [Regex.not_matchAll_of_mem (b := b) (by simp) (by simpa using hno)] at hmatch
    cases hmatch
  rcases s_GPGGA_RE_accepts hclass with hb | rfl
  · -- The body stays plain, so the exclusive or of its bytes is no longer the old one.
    have hplain' : ∀ y ∈ a ++ b :: c, Math.isPlain y = true := by
      simp only [List.forall_mem_append, List.forall_mem_cons] at hplain ⊢
      exact ⟨hplain.1, hb, hplain.2.2⟩
    have hstoi' := stoi_of_checksum hplain' hlen hstar hcsum
    have hxor := toInt_injective (Except.ok.inj (hstoi.symm.trans hstoi'))
    exact hne (Math.xorAll_replaced hxor)
  · -- A second `*` cuts the body, and the expression has only one.
    have hcount := f.count_star
    rw [List.count_cons_of_ne (by decide), List.count_append, List.count_append,
      List.count_cons_self, List.count_cons_self] at hcount
    omega

/-- A byte between `$` and `*` that is changed makes the sentence be rejected. -/
theorem unpack_changed (boost : BoostRegex) (clock clock' : DateTime) (s : Bytes)
    (position position' : GpsPosition) (h : (unpack boost clock s position).1 = true) {i j : Nat}
    (hi : 0 < i) (hij : i < j) (hj : s[j]? = some (ch '*')) {b : UInt8} (hb : s[i]? ≠ some b) :
    (unpack boost clock' (s.set i b) position').1 = false := by
  obtain ⟨hcsum, groups, -, ⟨f⟩⟩ := frame_of_unpack h
  have hlast := f.getElem?_star hj
  have hs : s = ch '$' :: (f.body ++ ch '*' :: (f.hh ++ f.tail)) := f.eq
  have hplain : ∀ y ∈ f.body, Math.isPlain y = true := f.plain
  have hlen := f.digits.length
  have hstar := f.star_notMem_rest
  generalize f.body = body at hs hplain hlast
  generalize f.hh = hh at hs hlen hstar
  generalize f.tail = tail at hs hstar
  obtain ⟨k, rfl⟩ : ∃ k, i = k + 1 := ⟨i - 1, by omega⟩
  have hk : k < body.length := by omega
  obtain ⟨a, x, c, rfl, rfl⟩ : ∃ a x c, body = a ++ x :: c ∧ a.length = k :=
    ⟨body.take k, body[k], body.drop (k + 1),
      by rw [← List.drop_eq_getElem_cons hk, List.take_append_drop], List.length_take_of_le hk.le⟩
  have hset : s.set (a.length + 1) b = ch '$' :: ((a ++ b :: c) ++ ch '*' :: (hh ++ tail)) := by
    rw [hs]
    simp
  have hne : x ≠ b := by
    rintro rfl
    rw [hs] at hb
    simp at hb
  rw [hs] at hcsum
  have hstoi := stoi_of_checksum hplain hlen hstar hcsum
  rw [hset]
  exact unpack_replaced boost clock' position' hplain hlen hstar hstoi hne

/-- A sentence of the tests. -/
theorem unpack_north_east : (unpack .byChoices ⟨0, 0⟩
    (str "$GPGGA,183552,5000.0466,N,00815.7555,E,1,05,1,105,M,48.0,M,,*49") {}).1 = true := by
  decide +kernel

/-- The sentence with its altitude changed from 105 to 205. -/
theorem unpack_changed_altitude :
    (unpack .byChoices ⟨0, 0⟩ (str "$GPGGA,183552,5000.0466,N,00815.7555,E,1,05,1,105,M,48.0,M,,*49")
      {}).1 = true ∧
    (unpack .byChoices ⟨0, 0⟩ (str "$GPGGA,183552,5000.0466,N,00815.7555,E,1,05,1,205,M,48.0,M,,*49")
      {}).1 = false := by
  refine ⟨unpack_north_east, ?_⟩
  have hset : (str "$GPGGA,183552,5000.0466,N,00815.7555,E,1,05,1,105,M,48.0,M,,*49").set 46
      (ch '2') = str "$GPGGA,183552,5000.0466,N,00815.7555,E,1,05,1,205,M,48.0,M,,*49" := by
    decide
  rw [← hset]
  exact unpack_changed .byChoices ⟨0, 0⟩ ⟨0, 0⟩ _ {} {} unpack_north_east (i := 46) (j := 60)
    (by omega) (by omega) (by decide) (by decide)

/-! ## Negative heights -/

def minus (negative : Bool) : Bytes := if negative then str "-" else []

/-- The sentence with a sign in front of the altitude, the geoid separation or both, and the checksum
of that. -/
def Frame.signed {s : Bytes} {groups : Captures UInt8} (f : Frame s groups) (alt geoid : Bool) :
    Bytes :=
  let body := f.front ++ (minus alt ++ groups RE_GGA_ALT ++ (f.separator ++
    (minus geoid ++ groups RE_GGA_GEOID ++ f.unit)))
  ch '$' :: (body ++ ch '*' :: (Processor.csumDigits (Math.xorAll body) ++ f.tail))

def negated (alt geoid : Bool) (position : GpsPosition) : GpsPosition :=
  { position with
    m_position := { position.m_position with
      altitude := if alt then -position.m_position.altitude else position.m_position.altitude }
    m_geoid := if geoid then -position.m_geoid else position.m_geoid }

/-- The signs are read as signs. -/
def Understood (boost : BoostRegex) (clock : DateTime) (position : GpsPosition) {s : Bytes}
    {groups : Captures UInt8} (f : Frame s groups) (alt geoid : Bool) : Prop :=
  unpack boost clock (f.signed alt geoid) position =
    (true, negated alt geoid (unpack boost clock s position).2)

-- No class of the expression has a minus sign.
theorem unpack_minus (boost : BoostRegex) (clock : DateTime) {s : Bytes} (position : GpsPosition)
    (h : ch '-' ∈ s) : (unpack boost clock s position).1 = false := by
  by_contra haccepted
  rw [Bool.not_eq_false] at haccepted
  obtain ⟨-, groups, hmatch, -⟩ := frame_of_unpack haccepted
  rw [Regex.not_matchAll_of_mem h (by decide)] at hmatch
  cases hmatch

theorem minus_mem_signed {s : Bytes} {groups : Captures UInt8} (f : Frame s groups)
    {alt geoid : Bool} (h : (alt || geoid) = true) : ch '-' ∈ f.signed alt geoid := by
  have hminus : ch '-' ∈ minus true := by decide
  rw [Frame.signed]
  simp only [List.mem_cons, List.mem_append]
  rcases Bool.or_eq_true_iff.mp h with rfl | rfl
  · simp only [hminus, true_or, or_true]
  · simp only [hminus, true_or, or_true]

/-- Every accepted sentence has an altitude and a geoid separation that a sign could stand in front
of, and with a sign it is not accepted. -/
theorem signed_not_understood (boost : BoostRegex) (clock : DateTime) (s : Bytes)
    (position : GpsPosition) (h : (unpack boost clock s position).1 = true) :
    ∃ groups, s_GPGGA_RE.matchAll s = some groups ∧ Nonempty (Frame s groups) ∧
      ∀ (f : Frame s groups) (alt geoid : Bool), (alt || geoid) = true →
        (unpack boost clock (f.signed alt geoid) position).1 = false ∧
          ¬ Understood boost clock position f alt geoid := by
  obtain ⟨-, groups, hmatch, hframe⟩ := frame_of_unpack h
  refine ⟨groups, hmatch, hframe, fun f alt geoid hsign => ?_⟩
  have hrejected := unpack_minus boost clock position (minus_mem_signed f hsign)
  refine ⟨hrejected, fun hunderstood => ?_⟩
  rw [hunderstood] at hrejected
  cases hrejected

theorem signed_not_understood_altitude : ∃ (groups : Captures UInt8) (f : Frame
    (str "$GPGGA,183552,5000.0466,N,00815.7555,E,1,05,1,105,M,48.0,M,,*49") groups),
    ¬ Understood .byChoices ⟨0, 0⟩ {} f true false := by
  obtain ⟨groups, -, ⟨f⟩, hrejected⟩ := signed_not_understood .byChoices ⟨0, 0⟩
    (str "$GPGGA,183552,5000.0466,N,00815.7555,E,1,05,1,105,M,48.0,M,,*49") {} unpack_north_east
  exact ⟨groups, f, (hrejected f true false rfl).2⟩

/-- The test sentence from 105 meters below the sea: its checksum is right, and it is rejected. -/
theorem unpack_minus_altitude :
    let above := str "$GPGGA,183552,5000.0466,N,00815.7555,E,1,05,1,105,M,48.0,M,,*49"
    let below := str "$GPGGA,183552,5000.0466,N,00815.7555,E,1,05,1,-105,M,48.0,M,,*64"
    (unpack .byChoices ⟨0, 0⟩ above {}).1 = true ∧
      checksumField below = .ok (Math.checksum below below.length).toInt ∧
      (unpack .byChoices ⟨0, 0⟩ below {}).1 = false := by
  refine ⟨unpack_north_east, by decide, ?_⟩
  exact unpack_minus .byChoices ⟨0, 0⟩ {} (by decide)

end GpsParser

end VirtualFlightRadar
