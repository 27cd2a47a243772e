import VirtualFlightRadar.Feed.GpsParser
import VirtualFlightRadar.Data.SensorData

/-!
# Parsing of wind and atmosphere sentences

Both parsers compare the checksum and look for the sentence type, and keep the whole line.  The
checksum is taken up to the first `*` or zero, its expected value from behind the last `*`, so a
line can pass that is no sentence.
-/

open Cxx

namespace VirtualFlightRadar

namespace WindParser

def unpack (sentence : Bytes) (wind : Wind) : Bool × Wind :=
  match GpsParser.checksumField sentence with
  | .error _ => (false, wind)
  | .ok csum =>
      if csum = (Math.checksum sentence sentence.length).toInt ∧ str "MWV" <:+: sentence then
        (true, { wind with m_serialized := sentence })
      else (false, wind)

end WindParser

namespace AtmosphereParser

-- `std::size_t` subtraction
def sizeSub (a b : Nat) : Nat := (a + 2 ^ 64 - b) % 2 ^ 64

/-- The text of the pressure: from behind the last comma before the first `B` up to the byte before
that, with the length the parser expects of it. -/
def pressureField (sentence : Bytes) : Except StdError (Bytes × Nat) := do
  let tmpB := sizeSub ((find (ch 'B') sentence 0).getD (2 ^ 64 - 1)) 1
  let tmpS := match rfind (ch ',') (sentence.take tmpB) with
    | some i => i + 1
    -- `npos + 1`
    | none => 0
  let subLen := sizeSub tmpB tmpS
  return (← substr sentence tmpS subLen, subLen)

def parsePressure [Rounding] (sentence : Bytes) : Except StdError (Option Double) := do
  let (field, subLen) ← pressureField sentence
  let (tmpPress, numIdx) ← stodIdx field
  return if numIdx = subLen then some (tmpPress * 1000.0) else none

def unpack [Rounding] (sentence : Bytes) (atmosphere : Atmosphere) : Bool × Atmosphere :=
  match GpsParser.checksumField sentence with
  | .error _ => (false, atmosphere)
  | .ok csum =>
      if csum = (Math.checksum sentence sentence.length).toInt ∧ str "MDA" <:+: sentence then
        match parsePressure sentence with
        | .ok (some pressure) =>
            (true, { atmosphere with m_serialized := sentence, m_pressure := pressure })
        | .ok none => (false, atmosphere)
        | .error _ => (false, atmosphere)
      else (false, atmosphere)

end AtmosphereParser

/-! ## What is accepted -/

/-- The receive check of the parsers. -/
def ChecksumMatches (sentence : Bytes) : Prop :=
  GpsParser.checksumField sentence = .ok (Math.checksum sentence sentence.length).toInt

theorem WindParser.unpack_true {sentence : Bytes} {wind : Wind}
    (h : (unpack sentence wind).1 = true) :
    ChecksumMatches sentence ∧ (unpack sentence wind).2 = { wind with m_serialized := sentence } := by
  unfold unpack at h ⊢
  cases hfield : GpsParser.checksumField sentence with
  | error e =>
      rw [hfield] at h
      cases h
  | ok csum =>
      simp only [hfield] at h ⊢
      split at h
      next hcheck =>
        rw [if_pos hcheck]
        exact ⟨hfield.trans (congrArg _ hcheck.1), rfl⟩
      next => cases h

theorem AtmosphereParser.unpack_true {sentence : Bytes} {atmosphere : Atmosphere}
    (h : (unpack sentence atmosphere).1 = true) :
    ChecksumMatches sentence ∧ ∃ pressure, (unpack sentence atmosphere).2 =
      { atmosphere with m_serialized := sentence, m_pressure := pressure } := by
  unfold unpack at h ⊢
  cases hfield : GpsParser.checksumField sentence with
  | error e =>
      rw [hfield] at h
      cases h
  | ok csum =>
      simp only [hfield] at h ⊢
      split at h
      next hcheck =>
        rw [if_pos hcheck]
        refine ⟨hfield.trans (congrArg _ hcheck.1), ?_⟩
        split at h
        · exact ⟨_, rfl⟩
        · cases h
        · cases h
      next => cases h

/-! ## Framing -/

/-- A line that starts with `$` and has one `*`, with two hexadecimal digits behind it that are the
exclusive or of the bytes between them. -/
def Framed (s : Bytes) : Prop :=
  ∃ body hh rest, s = ch '$' :: (body ++ ch '*' :: (hh ++ rest)) ∧ s.count (ch '*') = 1 ∧
    hh.length = 2 ∧ (∀ b ∈ hh, isXDigit b = true) ∧ natVal 16 hh = (Math.xorAll body).toNat

-- The bytes between the first byte and the first `*`
def bodyOf (s : Bytes) : Bytes := (s.drop 1).takeWhile (· != ch '*')

-- The two bytes behind the first `*`
def digitsOf (s : Bytes) : Bytes := ((s.dropWhile (· != ch '*')).drop 1).take 2

/-- What a line must be for the checksum comparison to say something about it. -/
structure Delimited (s : Bytes) : Prop where
  first : s.head? = some (ch '$')
  star : s.count (ch '*') ≤ 1
  length : (digitsOf s).length = 2
  digits : ∀ b ∈ digitsOf s, isXDigit b = true
  -- The checksum ends at a zero: what follows it must cancel out.
  zero : Math.xorAll ((bodyOf s).dropWhile (· != 0)) = 0

theorem bodyOf_cut (first : UInt8) {body : Bytes} (t : Bytes) (h : ch '*' ∉ body) :
    bodyOf (first :: (body ++ ch '*' :: t)) = body := by
  have hbody : ∀ b ∈ body, (b != ch '*') = true := fun b hb => bne_iff_ne.mpr fun he => h (he ▸ hb)
  rw [bodyOf, List.drop_one, List.tail_cons, List.takeWhile_append_of_pos hbody,
    List.takeWhile_cons_of_neg (by decide), List.append_nil]

theorem digitsOf_cut {body : Bytes} (t : Bytes) (h : ch '*' ∉ body) :
    digitsOf (ch '$' :: (body ++ ch '*' :: t)) = t.take 2 := by
  have hfront : ∀ b ∈ ch '$' :: body, (b != ch '*') = true := by
    rw [List.forall_mem_cons]
    exact ⟨by decide, fun b hb => bne_iff_ne.mpr fun he => h (he ▸ hb)⟩
  rw [digitsOf, ← List.cons_append, List.dropWhile_append_of_pos hfront,
    List.dropWhile_cons_of_neg (by decide), List.drop_one, List.tail_cons]

theorem toNat_of_nonneg : ∀ x : UInt8, 0 ≤ x.toInt8.toInt32.toInt →
    x.toInt8.toInt32.toInt = x.toNat := by
  decide +kernel

theorem checksumFrom_cstr (body : Bytes) (hstar : ch '*' ∉ body) :
    Math.checksumFrom 0 body = (Math.xorAll (cstr body)).toInt8.toInt32 := by
  have hcut : Math.checksumFrom 0 body = Math.checksumFrom 0 (cstr body) := by
    conv_lhs => rw [← List.takeWhile_append_dropWhile (p := (· != 0)) (l := body)]
    cases hrest : body.dropWhile (· != 0) with
    | nil => rw [List.append_nil]; rfl
    | cons b rest =>
        have hzero : b = 0 := by
          have hhead := List.head?_dropWhile_not (· != 0) body
          rw [hrest] at hhead
          simpa using hhead
        rw [hzero, Math.checksumFrom_append_zero]
        rfl
  have hread : ∀ b ∈ cstr body, ¬ (b = ch '*' ∨ b = 0) := by
    rintro b hb (rfl | rfl)
    · exact hstar (cstr_subset _ hb)
    · exact zero_notMem_cstr _ hb
  rw [hcut]
  exact Math.checksumFrom_xor hread 0

/-- An accepted sentence of the right form carries the checksum of its body up to a zero. -/
theorem natVal_of_checksumMatches (first : UInt8) {body hh rest : Bytes} (hbody : ch '*' ∉ body)
    (hrest : ch '*' ∉ hh ++ rest) (hlen : hh.length = 2) (hdigits : ∀ b ∈ hh, isXDigit b = true)
    (h : ChecksumMatches (first :: (body ++ ch '*' :: (hh ++ rest)))) :
    natVal 16 hh = (Math.xorAll (cstr body)).toNat := by
  obtain ⟨hfield, hcsum⟩ := GpsParser.checksumField_cut first body rest hlen hrest
  have hdigits' : ∀ b ∈ hh, digitVal b < 16 := fun b hb => of_decide_eq_true (hdigits b hb)
  have hlt : natVal 16 hh < 256 := by
    have hval := natVal_lt 16 hh hdigits'
    rwa [hlen] at hval
  have hne : hh ≠ [] := List.ne_nil_of_length_pos (by omega)
  rw [ChecksumMatches, hfield, hcsum, checksumFrom_cstr body hbody,
    stoi_digits (le_refl 16) hne hdigits' (by omega)] at h
  injection h with hvalue
  have hnonneg := toNat_of_nonneg (Math.xorAll (cstr body)) (by omega)
  omega

theorem xorAll_eq_cstr_iff (body : Bytes) :
    (Math.xorAll (cstr body)).toNat = (Math.xorAll body).toNat ↔
      Math.xorAll (body.dropWhile (· != 0)) = 0 := by
  have hsplit : Math.xorAll body =
      Math.xorAll (cstr body) ^^^ Math.xorAll (body.dropWhile (· != 0)) := by
    conv_lhs => rw [← List.takeWhile_append_dropWhile (p := (· != 0)) (l := body)]
    rw [Math.xorAll_append]
    rfl
  rw [UInt8.toNat_inj, hsplit]
  constructor
  · intro h
    have hcancel := congrArg (Math.xorAll (cstr body) ^^^ ·) h
    simpa [← UInt8.xor_assoc] using hcancel.symm
  · intro h
    rw [h, UInt8.xor_zero]

/-- The `*` of a sentence and what stands around it. -/
theorem Delimited.cut {s : Bytes} (h : Delimited s) :
    ∃ body rest, s = ch '$' :: (body ++ ch '*' :: (digitsOf s ++ rest)) ∧ ch '*' ∉ body ∧
      ch '*' ∉ digitsOf s ++ rest := by
  obtain ⟨t, rfl⟩ : ∃ t, s = ch '$' :: t := by
    cases s with
    | nil => exact absurd h.first (by simp)
    | cons b t => exact ⟨t, by rw [Option.some.inj h.first]⟩
  have hmem : ch '*' ∈ t := by
    by_contra hnone
    have hall : ∀ b ∈ ch '$' :: t, (b != ch '*') = true := by
      rw [List.forall_mem_cons]
      exact ⟨by decide, fun b hb => bne_iff_ne.mpr fun he => hnone (he ▸ hb)⟩
    have hlen := h.length
    rw [digitsOf, dropWhile_all hall] at hlen
    exact absurd hlen (by decide)
  obtain ⟨body, rest, rfl, hbody⟩ := List.eq_append_cons_of_mem hmem
  have hrest : ch '*' ∉ rest := by
    have hcount := h.star
    rw [List.count_cons_of_ne (by decide), List.count_append, List.count_cons_self] at hcount
    exact List.count_eq_zero.mp (by omega)
  rw [digitsOf_cut rest hbody]
  exact ⟨body, rest.drop 2, by rw [List.take_append_drop], hbody,
    by rwa [List.take_append_drop]⟩

theorem framed_iff {s : Bytes} (h : ChecksumMatches s) : Framed s ↔ Delimited s := by
  constructor
  · rintro ⟨body, hh, rest, rfl, hcount, hlen, hdigits, hval⟩
    rw [List.count_cons_of_ne (by decide), List.count_append, List.count_cons_self] at hcount
    have hbody : ch '*' ∉ body := List.count_eq_zero.mp (by omega)
    have hrest : ch '*' ∉ hh ++ rest := List.count_eq_zero.mp (by omega)
    have htwo : digitsOf (ch '$' :: (body ++ ch '*' :: (hh ++ rest))) = hh := by
      rw [digitsOf_cut _ hbody, List.take_left' hlen]
    refine ⟨rfl, ?_, by rw [htwo, hlen], by rwa [htwo], ?_⟩
    · rw [List.count_cons_of_ne (by decide), List.count_append, List.count_cons_self]
      omega
    · rw [bodyOf_cut _ _ hbody, ← xorAll_eq_cstr_iff, ← hval,
        natVal_of_checksumMatches _ hbody hrest hlen hdigits h]
  · intro hdelimited
    obtain ⟨body, rest, heq, hbody, hrest⟩ := hdelimited.cut
    refine ⟨body, digitsOf s, rest, heq, ?_, hdelimited.length, hdelimited.digits, ?_⟩
    · rw [heq, List.count_cons_of_ne (by decide), List.count_append, List.count_cons_self,
        List.count_eq_zero_of_not_mem hbody, List.count_eq_zero_of_not_mem hrest]
    · have hzero := hdelimited.zero
      have hbodyOf : bodyOf s = body := by rw [heq, bodyOf_cut _ _ hbody]
      rw [hbodyOf, ← xorAll_eq_cstr_iff] at hzero
      rw [← hzero]
      apply natVal_of_checksumMatches _ hbody hrest hdelimited.length hdelimited.digits
      rwa [← heq]

/-! ## Accepted and forwarded lines -/

theorem WindData.get_serialized_of_update {this : WindData} {wind : Wind} (dest : Bytes)
    (h : (this.update wind).1 = true) :
    ((this.update wind).2.get_serialized dest).1 = dest ++ wind.m_serialized := by
  rw [update_eq] at h ⊢
  split at h
  next hcan =>
    rw [if_pos hcan]
    rfl
  next => cases h

theorem AtmosphereData.get_serialized_of_update {this : AtmosphereData} {atmosphere : Atmosphere}
    (dest : Bytes) (h : (this.update atmosphere).1 = true) :
    ((this.update atmosphere).2.get_serialized dest).1 = dest ++ atmosphere.m_serialized := by
  rw [update_eq] at h ⊢
  split at h
  next hcan =>
    rw [if_pos hcan]
    rfl
  next => cases h

/-- An accepted line is forwarded as it is, and it is framed exactly if it starts with `$`, has at
most one `*`, has two hexadecimal digits behind it, and what its body holds from a zero on cancels
out. -/
theorem accepted_framed_iff (sentence : Bytes) :
    (∀ (wind : Wind) (data : WindData) (dest : Bytes),
      (WindParser.unpack sentence wind).1 = true →
        ((data.update (WindParser.unpack sentence wind).2).1 = true →
          ((data.update (WindParser.unpack sentence wind).2).2.get_serialized dest).1 =
            dest ++ sentence) ∧
        (Framed sentence ↔ Delimited sentence)) ∧
    (∀ (atmosphere : Atmosphere) (data : AtmosphereData) (dest : Bytes),
      (AtmosphereParser.unpack sentence atmosphere).1 = true →
        ((data.update (AtmosphereParser.unpack sentence atmosphere).2).1 = true →
          ((data.update (AtmosphereParser.unpack sentence atmosphere).2).2.get_serialized dest).1 =
            dest ++ sentence) ∧
        (Framed sentence ↔ Delimited sentence)) := by
  constructor
  · intro wind data dest haccepted
    obtain ⟨hcheck, hunpacked⟩ := WindParser.unpack_true haccepted
    refine ⟨fun hupdated => ?_, framed_iff hcheck⟩
    rw [data.get_serialized_of_update dest hupdated, hunpacked]
  · intro atmosphere data dest haccepted
    obtain ⟨hcheck, pressure, hunpacked⟩ := AtmosphereParser.unpack_true haccepted
    refine ⟨fun hupdated => ?_, framed_iff hcheck⟩
    rw [data.get_serialized_of_update dest hupdated, hunpacked]

theorem accepted_framed_iff_wind :
    Framed (str "$WIMWV,242.8,R,6.9,N,A*20\r\n") := by
  have h := (accepted_framed_iff (str "$WIMWV,242.8,R,6.9,N,A*20\r\n")).1 {} {} []
    (by decide)
  exact h.2.mpr ⟨by decide, by decide, by decide, by decide,
    by decide⟩

/-- The first byte is not looked at. -/
theorem accepted_without_dollar :
    (WindParser.unpack (str "#WIMWV,242.8,R,6.9,N,A*20\r\n") {}).1 = true ∧
    ¬ Framed (str "#WIMWV,242.8,R,6.9,N,A*20\r\n") ∧
    (AtmosphereParser.unpack
      (str "#WIMDA,29.7987,I,1.0091,B,14.8,C,,,,,,,,,,,,,,*3E\r\n") {}).1 = true ∧
    ¬ Framed (str "#WIMDA,29.7987,I,1.0091,B,14.8,C,,,,,,,,,,,,,,*3E\r\n") := by
  have hfirst {s : Bytes} (h : Framed s) : s.head? = some (ch '$') := by
    obtain ⟨body, hh, rest, rfl, -⟩ := h
    rfl
  refine ⟨by decide, fun h => ?_, by decide +kernel, fun h => ?_⟩
  · exact absurd (hfirst h) (by decide)
  · exact absurd (hfirst h) (by decide)

end VirtualFlightRadar
