import VirtualFlightRadar.Cxx.IndexMap
import VirtualFlightRadar.Cxx.Number
import VirtualFlightRadar.Client.ClientManager

/-!
# The construction of a feed

The constructor of `Feed` reads the section of the configuration that has the feed's name.  The
member `m_priority` has no initialiser: where `std::stoul` throws, it keeps what the memory of the
object held before, which is an input here.
-/

open Cxx

namespace VirtualFlightRadar

/-- `config::Properties`: the entries of one section. -/
structure Properties where
  m_pTree : Map Bytes Bytes

namespace Properties

def ofEntries (entries : List (Bytes × Bytes)) : Properties := ⟨fun key => entries.lookup key⟩

def get_property (this : Properties) (path alternative : Bytes) : Bytes :=
  let property := (this.m_pTree path).getD alternative
  if property = [] then alternative else property

end Properties

def KV_KEY_HOST : Bytes := str "host"
def KV_KEY_PORT : Bytes := str "port"
def KV_KEY_PRIORITY : Bytes := str "priority"

/-- The members of `Feed` but for the data container. -/
structure ConfiguredFeed where
  m_name : Bytes
  m_component : Bytes
  m_properties : Properties
  m_priority : UInt32

namespace ConfiguredFeed

/-- The member afterwards, and the warnings in the log; `memory` is what the member held. -/
def initPriority (m_name m_component : Bytes) (m_properties : Properties) (memory : UInt32) :
    UInt32 × List Bytes :=
  match stoul (m_properties.get_property KV_KEY_PRIORITY []) with
  | .ok priority => ((max 0 (min priority 4294967295)).toUInt32, [])
  -- `invalid_argument` and `out_of_range` are both a `std::logic_error`.
  | .error _ => (memory, [m_component ++ str " create " ++ m_name ++ str ": Invalid priority given."])

def couldNotFind (m_name m_component key : Bytes) : Bytes :=
  m_component ++ str " could not find: " ++ m_name ++ str "." ++ key

/-- The constructor: the warnings in the log, and the feed or the text of a `std::logic_error`. -/
def make (memory : UInt32) (name component : Bytes) (properties : Properties) :
    List Bytes × Except Bytes ConfiguredFeed :=
  let (m_priority, warnings) := initPriority name component properties memory
  if properties.get_property KV_KEY_HOST [] = [] then
    (warnings ++ [couldNotFind name component KV_KEY_HOST], .error (str "No host given"))
  else if properties.get_property KV_KEY_PORT [] = [] then
    (warnings ++ [couldNotFind name component KV_KEY_PORT], .error (str "No port given"))
  else
    (warnings, .ok
      { m_name := name, m_component := component, m_properties := properties, m_priority })

def get_endpoint (this : ConfiguredFeed) : Endpoint where
  host := this.m_properties.get_property KV_KEY_HOST []
  port := this.m_properties.get_property KV_KEY_PORT []

/-- A section that names an endpoint. -/
structure Given (properties : Properties) : Prop where
  host : properties.get_property KV_KEY_HOST [] ≠ []
  port : properties.get_property KV_KEY_PORT [] ≠ []

theorem make_given {properties : Properties} (h : Given properties) (memory : UInt32)
    (name component : Bytes) :
    (make memory name component properties).2 = .ok
      { m_name := name, m_component := component, m_properties := properties
        m_priority := (initPriority name component properties memory).1 } := by
  unfold make
  simp only
  rw [if_neg h.host, if_neg h.port]

theorem make_ok {memory : UInt32} {name component : Bytes} {properties : Properties}
    {feed : ConfiguredFeed} (h : (make memory name component properties).2 = .ok feed) :
    Given properties ∧ feed =
      { m_name := name, m_component := component, m_properties := properties
        m_priority := (initPriority name component properties memory).1 } := by
  unfold make at h
  simp only at h
  split at h
  · cases h
  · rename_i hhost
    split at h
    · cases h
    · rename_i hport
      exact ⟨⟨hhost, hport⟩, (Except.ok.inj h).symm⟩

theorem make_priority {memory : UInt32} {name component : Bytes} {properties : Properties}
    {feed : ConfiguredFeed} (h : (make memory name component properties).2 = .ok feed) :
    feed.m_priority = (initPriority name component properties memory).1 := by
  rw [(make_ok h).2]

/-! ## Texts that denote an integer -/

/-- An optional sign and digits, and nothing else. -/
def denoted (text : Bytes) : Option Int :=
  let (neg, k) := readSign text
  let digits := text.drop k
  if digits ≠ [] ∧ ∀ b ∈ digits, isDigit b = true then
    some (if neg then -(natVal 10 digits : Int) else natVal 10 digits)
  else none

/-- A text that denotes an integer has no white space in front. -/
theorem dropWhile_isSpace_of_digits {text : Bytes} {neg : Bool} {k : Nat}
    (hsign : readSign text = (neg, k)) (hdigits : ∀ b ∈ text.drop k, isDigit b = true) :
    text.dropWhile isSpace = text := by
  cases text with
  | nil => rfl
  | cons b rest =>
      apply dropWhile_isSpace_cons
      by_cases hminus : b = ch '-'
      · rw [hminus]
        decide
      · by_cases hplus : b = ch '+'
        · rw [hplus]
          decide
        · -- Without a sign the first byte is a digit.
          have hk : k = 0 := by
            rw [readSign_cons hminus hplus] at hsign
            exact (Prod.mk.inj hsign).2.symm
          rw [hk] at hdigits
          have hdigit : isDigit b = true := hdigits b List.mem_cons_self
          exact (isDecimal_plain b (by rw [isDecimal, hdigit]; rfl)).1

theorem toNat_ofInt (n : Int) : (UInt64.ofInt n).toNat = (n % 2 ^ 64).toNat := by
  unfold UInt64.ofInt
  rw [UInt64.toNat_ofNat']
  omega

theorem ofInt_natCast (n : Nat) : UInt64.ofInt (n : Int) = UInt64.ofNat n := by
  apply UInt64.toNat_inj.mp
  rw [toNat_ofInt, UInt64.toNat_ofNat']
  omega

/-- `std::stoul` reads the residue of a denoted integer, unless its digits are out of range. -/
theorem stoul_denoted {text : Bytes} {n : Int} (h : denoted text = some n) :
    stoul text = if n.natAbs < 2 ^ 64 then .ok (UInt64.ofInt n) else .error .out_of_range := by
  obtain ⟨neg, k, hsign⟩ : ∃ neg k, readSign text = (neg, k) := ⟨_, _, rfl⟩
  unfold denoted at h
  rw [hsign] at h
  simp only at h
  split at h
  · rename_i hdigits
    obtain ⟨hne, hdigits⟩ := hdigits
    have hblank := dropWhile_isSpace_of_digits hsign hdigits
    have hread : readInteger 10 (text.drop k) = text.drop k := by
      rw [readInteger_ten, takeWhile_all hdigits]
    unfold stoul
    simp only [hblank, hsign, hread]
    rw [if_neg hne]
    have hn := (Option.some.inj h).symm
    cases neg with
    | false =>
        simp only [Bool.false_eq_true, if_false] at hn ⊢
        rw [hn, Int.natAbs_natCast, ofInt_natCast]
    | true =>
        simp only [if_true] at hn ⊢
        rw [hn, Int.natAbs_neg, Int.natAbs_natCast, UInt64.ofInt_neg, ofInt_natCast]
  · cases h

/-- The digits behind white space and a sign. -/
def leadingDigits (text : Bytes) : Bytes :=
  let body := text.dropWhile isSpace
  (body.drop (readSign body).2).takeWhile isDigit

/-- `std::stoul` needs such digits, and their number in range; what follows them is ignored. -/
theorem stoul_ok_iff (text : Bytes) :
    (∃ v, stoul text = .ok v) ↔ leadingDigits text ≠ [] ∧ natVal 10 (leadingDigits text) < 2 ^ 64 := by
  obtain ⟨neg, k, hsign⟩ : ∃ neg k, readSign (text.dropWhile isSpace) = (neg, k) := ⟨_, _, rfl⟩
  unfold stoul leadingDigits
  simp only [hsign, readInteger_ten]
  generalize ((text.dropWhile isSpace).drop k).takeWhile isDigit = digits
  constructor
  · rintro ⟨v, hv⟩
    split at hv
    · cases hv
    · rename_i hne
      split at hv
      · rename_i hlt
        exact ⟨hne, hlt⟩
      · cases hv
  · rintro ⟨hne, hlt⟩
    rw [if_neg hne, if_pos hlt]
    exact ⟨_, rfl⟩

/-! ## The priority of a constructed feed -/

/-- The text of a missing entry is empty. -/
def priorityText (properties : Properties) : Bytes := properties.get_property KV_KEY_PRIORITY []

/-- The feed, if one is constructed, has the priority. -/
def HasPriority (memory : UInt32) (name component : Bytes) (properties : Properties)
    (priority : UInt32) : Prop :=
  ∀ feed, (make memory name component properties).2 = .ok feed → feed.m_priority = priority

def clamp (n : Int) : UInt32 := UInt32.ofNat (min (max n 0) (2 ^ 32 - 1)).toNat

/-- What the text of a section has to give: an integer its clamped value, and any other text some
value, whatever was in the memory. -/
def WellDefined (name component : Bytes) (properties : Properties) : Prop :=
  match denoted (priorityText properties) with
  | some n => ∀ memory, HasPriority memory name component properties (clamp n)
  | none => ∃ fixed, ∀ memory, HasPriority memory name component properties fixed

/-- The second section never gives a lower priority than the first. -/
def NotLower (name component : Bytes) (properties other : Properties) : Prop :=
  ∀ memory memory' feed feed', (make memory name component properties).2 = .ok feed →
    (make memory' name component other).2 = .ok feed' → feed.m_priority ≤ feed'.m_priority

theorem hasPriority_iff {properties : Properties} (h : Given properties) (memory : UInt32)
    (name component : Bytes) (priority : UInt32) :
    HasPriority memory name component properties priority ↔
      (initPriority name component properties memory).1 = priority := by
  constructor
  · intro hpriority
    exact hpriority _ (make_given h memory name component)
  · intro hinit feed hfeed
    rw [make_priority hfeed, hinit]

theorem initPriority_of_throw {properties : Properties} {e : StdError} (name component : Bytes)
    (memory : UInt32) (h : stoul (priorityText properties) = .error e) :
    (initPriority name component properties memory).1 = memory := by
  unfold initPriority
  rw [show stoul (properties.get_property KV_KEY_PRIORITY []) = .error e from h]

theorem initPriority_of_read {properties : Properties} {v : UInt64} (name component : Bytes)
    (memory : UInt32) (h : stoul (priorityText properties) = .ok v) :
    (initPriority name component properties memory).1.toNat = min v.toNat (2 ^ 32 - 1) := by
  unfold initPriority
  rw [show stoul (properties.get_property KV_KEY_PRIORITY []) = .ok v from h]
  have hmin : (min v 4294967295).toNat = min v.toNat (2 ^ 32 - 1) := by
    show (if v ≤ 4294967295 then v else 4294967295).toNat = min v.toNat 4294967295
    have hiff : v ≤ 4294967295 ↔ v.toNat ≤ 4294967295 := UInt64.le_iff_toNat_le
    rw [min_def]
    by_cases hle : v ≤ 4294967295
    · rw [if_pos hle, if_pos (hiff.mp hle)]
    · rw [if_neg hle, if_neg (mt hiff.mpr hle)]
      rfl
  have hmax : max 0 (min v 4294967295) = min v 4294967295 :=
    if_pos (UInt64.le_iff_toNat_le.mpr (Nat.zero_le _))
  show (max 0 (min v 4294967295)).toUInt32.toNat = _
  rw [hmax, UInt64.toNat_toUInt32, hmin]
  omega

theorem clamp_toNat (n : Int) : (clamp n).toNat = (min (max n 0) (2 ^ 32 - 1)).toNat := by
  unfold clamp
  rw [UInt32.toNat_ofNat']
  omega

/-- The texts that do not go wrong: an integer that is not negative and fits an `unsigned long`, and a
text that is no integer but begins like one that fits. -/
def Understood (text : Bytes) : Prop :=
  match denoted text with
  | some n => 0 ≤ n ∧ n < 2 ^ 64
  | none => leadingDigits text ≠ [] ∧ natVal 10 (leadingDigits text) < 2 ^ 64

theorem initPriority_of_inRange {properties : Properties} {n : Int} (name component : Bytes)
    (memory : UInt32) (h : denoted (priorityText properties) = some n) (hlo : 0 ≤ n)
    (hhi : n < 2 ^ 64) : (initPriority name component properties memory).1 = clamp n := by
  have hread := stoul_denoted h
  rw [if_pos (by omega)] at hread
  apply UInt32.toNat_inj.mp
  rw [initPriority_of_read name component memory hread, clamp_toNat, toNat_ofInt]
  omega

/-- Any other integer misses its value: a negative one wraps around, so that it is not zero, and one
that is out of range leaves the memory. -/
theorem initPriority_of_not_inRange {properties : Properties} {n : Int} (name component : Bytes)
    (h : denoted (priorityText properties) = some n) (hrange : ¬ (0 ≤ n ∧ n < 2 ^ 64)) :
    (initPriority name component properties 1).1 ≠ clamp n := by
  intro heq
  have hnat := congrArg UInt32.toNat heq
  rw [clamp_toNat] at hnat
  have hread := stoul_denoted h
  by_cases habs : n.natAbs < 2 ^ 64
  · rw [if_pos habs] at hread
    rw [initPriority_of_read name component 1 hread, toNat_ofInt] at hnat
    omega
  · rw [if_neg habs] at hread
    rw [initPriority_of_throw name component 1 hread] at hnat
    have hone : (1 : UInt32).toNat = 1 := rfl
    omega

/-- A section with the endpoint alone. -/
def endpointOnly : Properties :=
  .ofEntries [(KV_KEY_HOST, str "localhost"), (KV_KEY_PORT, str "30003")]

theorem endpointOnly_given : Given endpointOnly := ⟨by decide, by decide⟩

theorem initPriority_endpointOnly (name component : Bytes) (memory : UInt32) :
    (initPriority name component endpointOnly memory).1 = memory :=
  initPriority_of_throw (e := .invalid_argument) name component memory (by decide)

/-- Where nothing is read, the priority is the memory, so no value is the priority for all of it. -/
theorem not_fixed_of_throw {name component : Bytes} {properties : Properties} {e : StdError}
    (h : Given properties) (hthrow : stoul (priorityText properties) = .error e) (fixed : UInt32) :
    ¬ ∀ memory, HasPriority memory name component properties fixed := by
  intro hfixed
  have hpriority := hfixed (fixed + 1)
  rw [hasPriority_iff h, initPriority_of_throw name component (fixed + 1) hthrow] at hpriority
  have hnat := congrArg UInt32.toNat hpriority
  rw [UInt32.toNat_add] at hnat
  have hone : (1 : UInt32).toNat = 1 := rfl
  omega

theorem understood_of_wellDefined {name component : Bytes} {properties : Properties}
    (h : Given properties) (hwell : WellDefined name component properties) :
    Understood (priorityText properties) := by
  unfold WellDefined at hwell
  unfold Understood
  cases hdenoted : denoted (priorityText properties) with
  | none =>
      rw [hdenoted] at hwell
      obtain ⟨fixed, hfixed⟩ := hwell
      show leadingDigits _ ≠ [] ∧ _
      rw [← stoul_ok_iff]
      cases hread : stoul (priorityText properties) with
      | ok v => exact ⟨v, rfl⟩
      | error e => exact absurd hfixed (not_fixed_of_throw h hread fixed)
  | some n =>
      rw [hdenoted] at hwell
      have hinit := (hasPriority_iff h 1 name component (clamp n)).mp (hwell 1)
      by_contra hrange
      exact initPriority_of_not_inRange name component hdenoted hrange hinit

theorem wellDefined_of_understood {properties : Properties} (h : Given properties)
    (name component : Bytes) (hunderstood : Understood (priorityText properties)) :
    WellDefined name component properties := by
  unfold Understood at hunderstood
  unfold WellDefined
  cases hdenoted : denoted (priorityText properties) with
  | none =>
      rw [hdenoted] at hunderstood
      obtain ⟨v, hread⟩ := (stoul_ok_iff _).mpr hunderstood
      refine ⟨UInt32.ofNat (min v.toNat (2 ^ 32 - 1)), fun memory => ?_⟩
      rw [hasPriority_iff h]
      apply UInt32.toNat_inj.mp
      rw [initPriority_of_read name component memory hread, UInt32.toNat_ofNat']
      omega
  | some n =>
      rw [hdenoted] at hunderstood
      show ∀ memory, HasPriority memory name component properties (clamp n)
      intro memory
      rw [hasPriority_iff h]
      exact initPriority_of_inRange name component memory hdenoted hunderstood.1 hunderstood.2

/-- The text of a section gives what it has to exactly if it is understood, and among the integers
that are, the priority does not fall as the integer grows. -/
theorem wellDefined_iff_understood (name component : Bytes) (properties : Properties)
    (h : Given properties) :
    (WellDefined name component properties ↔ Understood (priorityText properties)) ∧
      ∀ other n k, denoted (priorityText properties) = some n →
        denoted (priorityText other) = some k → 0 ≤ n → n ≤ k → k < 2 ^ 64 →
        NotLower name component properties other := by
  refine ⟨?_, ?_⟩
  · exact ⟨understood_of_wellDefined h, wellDefined_of_understood h name component⟩
  · intro other n k hn hk hlo hle hhi memory memory' feed feed' hfeed hfeed'
    rw [make_priority hfeed, make_priority hfeed',
      initPriority_of_inRange name component memory hn hlo (by omega),
      initPriority_of_inRange name component memory' hk (by omega) hhi,
      UInt32.le_iff_toNat_le, clamp_toNat, clamp_toNat]
    omega

/-- A section with a priority. -/
def withPriority (text : Bytes) : Properties :=
  .ofEntries [(KV_KEY_HOST, str "localhost"), (KV_KEY_PORT, str "30003"), (KV_KEY_PRIORITY, text)]

theorem withPriority_given (text : Bytes) : Given (withPriority text) := by
  constructor
  · show str "localhost" ≠ []
    decide
  · show str "30003" ≠ []
    decide

/-- A number, and one with a letter behind it. -/
theorem wellDefined_five :
    WellDefined (str "sbs1") (str "(SbsFeed)") (withPriority (str "5")) ∧
      WellDefined (str "sbs1") (str "(SbsFeed)") (withPriority (str "5x")) ∧
      NotLower (str "sbs1") (str "(SbsFeed)") (withPriority (str "5"))
        (withPriority (str "5000000000")) := by
  obtain ⟨hiff, hmono⟩ := wellDefined_iff_understood (str "sbs1") (str "(SbsFeed)")
    (withPriority (str "5")) (withPriority_given _)
  refine ⟨hiff.mpr ?_, ?_, ?_⟩
  · show 0 ≤ (5 : Int) ∧ (5 : Int) < 2 ^ 64
    decide
  · refine (wellDefined_iff_understood _ _ _ (withPriority_given _)).1.mpr ?_
    show leadingDigits (str "5x") ≠ [] ∧ natVal 10 (leadingDigits (str "5x")) < 2 ^ 64
    decide
  · exact hmono _ 5 5000000000 (by decide) (by decide) (by decide) (by decide) (by decide)

/-- A negative integer is the highest priority, one that is too large leaves the memory, and so does
a missing entry. -/
theorem not_wellDefined_minus_one :
    (∀ memory, HasPriority memory (str "sbs1") (str "(SbsFeed)") (withPriority (str "-1"))
      4294967295) ∧
    (∀ memory, HasPriority memory (str "sbs1") (str "(SbsFeed)")
      (withPriority (str "18446744073709551616")) memory) ∧
    (∀ memory, HasPriority memory (str "sbs1") (str "(SbsFeed)") endpointOnly memory) ∧
    ¬ WellDefined (str "sbs1") (str "(SbsFeed)") (withPriority (str "-1")) ∧
    ¬ WellDefined (str "sbs1") (str "(SbsFeed)") (withPriority (str "18446744073709551616")) ∧
    ¬ WellDefined (str "sbs1") (str "(SbsFeed)") endpointOnly := by
  have hmissed {properties : Properties} (h : Given properties)
      (hrange : ¬ Understood (priorityText properties)) :
      ¬ WellDefined (str "sbs1") (str "(SbsFeed)") properties :=
    fun hwell => hrange (understood_of_wellDefined h hwell)
  refine ⟨?_, ?_, ?_, ?_, ?_, ?_⟩
  · intro memory
    rw [hasPriority_iff (withPriority_given _)]
    apply UInt32.toNat_inj.mp
    rw [initPriority_of_read (v := 18446744073709551615) _ _ memory (by decide)]
    rfl
  · intro memory
    rw [hasPriority_iff (withPriority_given _)]
    exact initPriority_of_throw (e := .out_of_range) _ _ memory (by decide)
  · intro memory
    rw [hasPriority_iff endpointOnly_given]
    exact initPriority_endpointOnly _ _ memory
  · apply hmissed (withPriority_given _)
    show ¬ (0 ≤ (-1 : Int) ∧ (-1 : Int) < 2 ^ 64)
    decide
  · apply hmissed (withPriority_given _)
    show ¬ (0 ≤ (18446744073709551616 : Int) ∧ (18446744073709551616 : Int) < 2 ^ 64)
    decide
  · apply hmissed endpointOnly_given
    show ¬ (leadingDigits [] ≠ [] ∧ natVal 10 (leadingDigits []) < 2 ^ 64)
    decide

end ConfiguredFeed

end VirtualFlightRadar
