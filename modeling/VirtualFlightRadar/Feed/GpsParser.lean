import VirtualFlightRadar.Feed.Parser
import VirtualFlightRadar.Data.Processor

/-! Parsing of GGA sentences. -/

open Cxx

namespace VirtualFlightRadar

namespace GpsParser

def RE_GGA_TIME : Nat := 1
def RE_GGA_LAT : Nat := 2
def RE_GGA_LAT_DIR : Nat := 3
def RE_GGA_LON : Nat := 4
def RE_GGA_LON_DIR : Nat := 5
def RE_GGA_FIX : Nat := 6
def RE_GGA_SAT : Nat := 7
def RE_GGA_DIL : Nat := 8
def RE_GGA_ALT : Nat := 9
def RE_GGA_GEOID : Nat := 10

open Regex in
/-- `(\d+(?:\.\d+)?)` -/
def decimal (n : Nat) : Regex UInt8 :=
  .group n (.seq (plus isDigit) (.opt (.seq (word (str ".")) (plus isDigit))))

open Regex in
/-- `^\$[A-Z]{2}GGA,(\d{6}),(\d{4}\.\d{3,4}),([NS]),(\d{5}\.\d{3,4}),([EW]),(\d),(\d{2}),`
`(\d+(?:\.\d+)?),(\d+(?:\.\d+)?),M,(\d+(?:\.\d+)?),M,,\*[0-9A-F]{2}\s*?$`, ignoring case -/
def s_GPGGA_RE : Regex UInt8 :=
  concat [
    word (str "$"), times (icase isUpper) 2, word (str "GGA,"),
    .group RE_GGA_TIME (times isDigit 6), word (str ","),
    .group RE_GGA_LAT (concat [times isDigit 4, word (str "."), between isDigit 3 4]),
    word (str ","),
    .group RE_GGA_LAT_DIR (one (icase fun b => b == ch 'N' || b == ch 'S')), word (str ","),
    .group RE_GGA_LON (concat [times isDigit 5, word (str "."), between isDigit 3 4]),
    word (str ","),
    .group RE_GGA_LON_DIR (one (icase fun b => b == ch 'E' || b == ch 'W')), word (str ","),
    .group RE_GGA_FIX (one isDigit), word (str ","),
    .group RE_GGA_SAT (times isDigit 2), word (str ","),
    decimal RE_GGA_DIL, word (str ","),
    decimal RE_GGA_ALT, word (str ",M,"),
    decimal RE_GGA_GEOID, word (str ",M,,*"),
    times (icase isHexUpper) 2, starLazy isSpace, .eos]

/-- Assignments to the position, some of which stand before a conversion that throws. -/
abbrev Parse := ExceptT StdError (StateM GpsPosition)

def parsePosition [Rounding] (clock : DateTime) (groups : Captures UInt8) : Parse Bool := do
  let latitude := Math.dmToDeg (← stod (groups RE_GGA_LAT))
  let latitude := signed (groups RE_GGA_LAT_DIR) (str "S") latitude
  let longitude := Math.dmToDeg (← stod (groups RE_GGA_LON))
  let longitude := signed (groups RE_GGA_LON_DIR) (str "W") longitude
  let altitude := Math.doubleToInt (← stod (groups RE_GGA_ALT))
  modify fun position => { position with
    m_position := { latitude := latitude, longitude := longitude, altitude := altitude } }
  let timeStamp ← TimeStamp.make clock (groups RE_GGA_TIME) .HHMMSS
  -- A time of day that does not convert leaves the new coordinates behind.
  modify fun position => { position with m_timeStamp := timeStamp }
  let fixQuality ← stoi 10 (groups RE_GGA_FIX)
  modify fun position => { position with m_fixQuality := Int8.ofInt fixQuality }
  let nrOfSatellites ← stoi 10 (groups RE_GGA_SAT)
  modify fun position => { position with m_nrOfSatellites := UInt8.ofInt nrOfSatellites }
  let dilution ← stod (groups RE_GGA_DIL)
  modify fun position => { position with m_dilution := dilution }
  let geoid ← stod (groups RE_GGA_GEOID)
  modify fun position => { position with m_geoid := geoid }
  return true

/-- `stoi(sentence.substr(sentence.rfind('*') + 1, 2), nullptr, 16)` -/
def checksumField (sentence : Bytes) : Except StdError Int := do
  let pos := match rfind (ch '*') sentence with
    | some i => i + 1
    -- `npos + 1`
    | none => 0
  stoi 16 (← substr sentence pos 2)

def unpack [Rounding] (boost : BoostRegex) (clock : DateTime) (sentence : Bytes)
    (position : GpsPosition) : Bool × GpsPosition :=
  match checksumField sentence with
  | .error _ => (false, position)
  | .ok csum =>
      -- The checksum is compared before the expression is tried.
      if csum = (Math.checksum sentence sentence.length).toInt then
        match boost.regex_match s_GPGGA_RE sentence with
        | none => (false, position)
        | some groups =>
            match (parsePosition clock groups).run.run position with
            | (.ok valid, position) => (valid, position)
            | (.error _, position) => (false, position)
      else (false, position)

theorem parsePosition_of_fields [Rounding] {clock : DateTime} {groups : Captures UInt8}
    {lat lon alt dilution geoid : Double} {timeStamp : TimeStamp} {quality sats : Int}
    (hlat : stod (groups RE_GGA_LAT) = .ok lat) (hlon : stod (groups RE_GGA_LON) = .ok lon)
    (halt : stod (groups RE_GGA_ALT) = .ok alt)
    (htime : TimeStamp.make clock (groups RE_GGA_TIME) .HHMMSS = .ok timeStamp)
    (hquality : stoi 10 (groups RE_GGA_FIX) = .ok quality)
    (hsats : stoi 10 (groups RE_GGA_SAT) = .ok sats)
    (hdilution : stod (groups RE_GGA_DIL) = .ok dilution)
    (hgeoid : stod (groups RE_GGA_GEOID) = .ok geoid) (position : GpsPosition) :
    (parsePosition clock groups).run.run position = (.ok true,
      { position with
        m_position := { latitude := signed (groups RE_GGA_LAT_DIR) (str "S") (Math.dmToDeg lat)
                        longitude := signed (groups RE_GGA_LON_DIR) (str "W") (Math.dmToDeg lon)
                        altitude := Math.doubleToInt alt }
        m_timeStamp := timeStamp
        m_fixQuality := Int8.ofInt quality
        m_nrOfSatellites := UInt8.ofInt sats
        m_dilution := dilution
        m_geoid := geoid }) := by
  unfold parsePosition
  rw [hlat, hlon, halt, htime, hquality, hsats, hdilution, hgeoid]
  rfl

/-! ## The checksum of a sentence -/

theorem isHexUpper_of_digit : ∀ b : UInt8, digitVal b < 16 →
    Regex.icase isHexUpper b = true ∧ b ≠ ch '*' := by
  decide +kernel

theorem toInt_of_plain : ∀ x : UInt8, x.toNat < 128 →
    x.toInt8.toInt32.toInt = x.toNat ∧ x.toInt8.toInt32.toUInt32.toNat = x.toNat := by
  decide +kernel

theorem digitVal_of_mem_fmtHex {width : Nat} {n : UInt32} {b : UInt8} (hb : b ∈ fmtHex width n) :
    digitVal b < 16 := by
  rcases List.mem_append.mp hb with hpad | hnum
  · rw [List.eq_of_mem_replicate hpad]
    decide
  · exact digitVal_of_mem_numeral (by omega) (by omega) hnum

theorem natVal_csumDigits {x : UInt8} (hx : x.toNat < 128) :
    natVal 16 (Processor.csumDigits x) = x.toNat := by
  rw [Processor.csumDigits, fmtHex, natVal_padLeft, natVal_numeral 16 _ (by omega) (by omega)]
  exact (toInt_of_plain x hx).2

theorem csumDigits_spec {x : UInt8} (hx : x.toNat < 128) :
    (Processor.csumDigits x).length = 2 ∧
    (∀ b ∈ Processor.csumDigits x, digitVal b < 16) ∧
    stoi 16 (Processor.csumDigits x) = .ok x.toNat := by
  have hdigits : ∀ b ∈ Processor.csumDigits x, digitVal b < 16 :=
    fun b hb => digitVal_of_mem_fmtHex hb
  have hval := natVal_csumDigits hx
  have hlen : (Processor.csumDigits x).length = 2 := by
    have hle := numeral_length_le 16 x.toInt8.toInt32.toUInt32.toNat 2 (by omega) (by omega)
      (by rw [(toInt_of_plain x hx).2]; omega)
    rw [Processor.csumDigits, fmtHex, padLeft, List.length_append, List.length_replicate]
    omega
  refine ⟨hlen, hdigits, ?_⟩
  have hne : Processor.csumDigits x ≠ [] := by
    rw [← List.length_pos_iff, hlen]
    decide
  rw [stoi_digits (le_refl 16) hne hdigits (by rw [hval]; omega), hval]

/-- What the two sides of the comparison read of a sentence with one `*`. -/
theorem checksumField_cut (first : UInt8) (body : Bytes) {hh : Bytes} (rest : Bytes) (hlen : hh.length = 2)
    (hstar : ch '*' ∉ hh ++ rest) :
    let sentence := first :: (body ++ ch '*' :: (hh ++ rest))
    checksumField sentence = stoi 16 hh ∧
      Math.checksum sentence sentence.length = Math.checksumFrom 0 body := by
  intro sentence
  constructor
  · have hrfind : rfind (ch '*') sentence = some (body.length + 1) :=
      rfind_append_cons (first :: body) hstar
    have hpos : (first :: (body ++ [ch '*'])).length = body.length + 1 + 1 := by simp
    have hsub : substr sentence (body.length + 1 + 1) 2 = .ok hh := by
      have hcut := substr_append rest hpos hlen
      simpa using hcut
    unfold checksumField
    rw [hrfind]
    simp only [hsub, bind, Except.bind]
  · rw [Math.checksum, List.take_of_length_le (le_refl _)]
    simp only [sentence, List.drop_one, List.tail_cons, Math.checksumFrom_append_star]

/-- The parser finds the checksum that the processors write. -/
theorem checksumField_sentence {body : Bytes} (h : ∀ b ∈ body, Math.isPlain b = true) :
    let sentence := ch '$' :: (body ++ ch '*' ::
      (Processor.csumDigits (Math.xorAll body) ++ str "\r\n"))
    checksumField sentence = .ok (Math.checksum sentence sentence.length).toInt := by
  obtain ⟨hlen, hdigits, hstoi⟩ := csumDigits_spec (Math.xorAll_lt h)
  intro sentence
  have hstar : ch '*' ∉ Processor.csumDigits (Math.xorAll body) ++ str "\r\n" := by
    rw [List.mem_append, not_or]
    exact ⟨fun hmem => (isHexUpper_of_digit _ (hdigits _ hmem)).2 rfl, by decide⟩
  obtain ⟨hfield, hcsum⟩ := checksumField_cut (ch '$') body (str "\r\n") hlen hstar
  have hxor : Math.checksumFrom 0 body = (Math.xorAll body).toInt8.toInt32 :=
    Math.checksumFrom_plain h 0
  rw [hfield, hcsum, hxor, (toInt_of_plain _ (Math.xorAll_lt h)).1, hstoi]

/-! ## Sentences of the expected form -/

/-- The fields of a GGA sentence of the talker GP with fix quality and dilution one. -/
structure Gga where
  time : Bytes
  lat : Bytes
  latFrac : Bytes
  ns : UInt8
  lon : Bytes
  lonFrac : Bytes
  ew : UInt8
  sats : Bytes
  alt : Bytes
  geoid : Bytes
  geoidFrac : Bytes
  time_run : Regex.Run isDigit 6 time
  lat_run : Regex.Run isDigit 4 lat
  latFrac_run : Regex.Run isDigit 4 latFrac
  ns_mem : ns = ch 'N' ∨ ns = ch 'S'
  lon_run : Regex.Run isDigit 5 lon
  lonFrac_run : Regex.Run isDigit 4 lonFrac
  ew_mem : ew = ch 'E' ∨ ew = ch 'W'
  sats_run : Regex.Run isDigit 2 sats
  alt_digits : alt ≠ [] ∧ ∀ b ∈ alt, isDigit b = true
  geoid_digits : geoid ≠ [] ∧ ∀ b ∈ geoid, isDigit b = true
  geoidFrac_digits : geoidFrac ≠ [] ∧ ∀ b ∈ geoidFrac, isDigit b = true

namespace Gga

-- The sentence with `rest` behind the star, a piece for every piece of the expression.
def upToStar (g : Gga) (rest : Bytes) : Bytes :=
  str "$" ++ (str "GP" ++ (str "GGA," ++ (g.time ++ (str "," ++ ((g.lat ++ (str "." ++ g.latFrac)) ++
    (str "," ++ ([g.ns] ++ (str "," ++ ((g.lon ++ (str "." ++ g.lonFrac)) ++ (str "," ++ ([g.ew] ++
    (str "," ++ (str "1" ++ (str "," ++ (g.sats ++ (str "," ++ (str "1" ++ (str "," ++ (g.alt ++
    (str ",M," ++ ((g.geoid ++ (str "." ++ g.geoidFrac)) ++ (str ",M,,*" ++ rest))))))))))))))))))))))

/-- What stands between `$` and `*`. -/
def body (g : Gga) : Bytes :=
  str "GPGGA," ++ (g.time ++ (str "," ++ (g.lat ++ (str "." ++ (g.latFrac ++ (str "," ++ ([g.ns] ++
    (str "," ++ (g.lon ++ (str "." ++ (g.lonFrac ++ (str "," ++ ([g.ew] ++ (str ",1," ++ (g.sats ++
    (str ",1," ++ (g.alt ++ (str ",M," ++ (g.geoid ++ (str "." ++ (g.geoidFrac ++
    str ",M,,")))))))))))))))))))))

def sentence (g : Gga) : Bytes :=
  ch '$' :: (g.body ++ ch '*' :: (Processor.csumDigits (Math.xorAll g.body) ++ str "\r\n"))

theorem upToStar_eq (g : Gga) (rest : Bytes) :
    g.upToStar rest = ch '$' :: (g.body ++ ch '*' :: rest) := by
  have hhead : str "$" ++ (str "GP" ++ str "GGA,") = ch '$' :: str "GPGGA," := by decide
  have hfix : str "," ++ (str "1" ++ str ",") = str ",1," := by decide
  have htail : str ",M,,*" = str ",M,," ++ [ch '*'] := by decide
  unfold upToStar body
  rw [← hfix, htail]
  simp only [List.append_assoc, ← List.cons_append, ← hhead, List.singleton_append]

theorem body_length (g : Gga) :
    g.body.length = 53 + g.alt.length + g.geoid.length + g.geoidFrac.length := by
  unfold body
  simp only [List.length_append, g.time_run.length, g.lat_run.length, g.latFrac_run.length,
    g.lon_run.length, g.lonFrac_run.length, g.sats_run.length, List.length_singleton]
  rw [show (str "GPGGA,").length = 6 from rfl, show (str ",1,").length = 3 from rfl,
    show (str ",M,").length = 3 from rfl, show (str ",M,,").length = 4 from rfl,
    show (str ",").length = 1 from rfl, show (str ".").length = 1 from rfl]
  omega

theorem isPlain_of_isDigit : ∀ b : UInt8, isDigit b = true → Math.isPlain b = true := by
  decide +kernel

theorem body_plain (g : Gga) : ∀ b ∈ g.body, Math.isPlain b = true := by
  have hdigits : ∀ {s : Bytes}, (∀ b ∈ s, isDigit b = true) → ∀ b ∈ s, Math.isPlain b = true :=
    fun h b hb => isPlain_of_isDigit b (h b hb)
  have hns : ∀ b ∈ [g.ns], Math.isPlain b = true := by
    rcases g.ns_mem with h | h <;> rw [h] <;> decide
  have hew : ∀ b ∈ [g.ew], Math.isPlain b = true := by
    rcases g.ew_mem with h | h <;> rw [h] <;> decide
  unfold body
  simp only [List.forall_mem_append]
  exact ⟨by decide, hdigits g.time_run.all, by decide, hdigits g.lat_run.all,
    by decide, hdigits g.latFrac_run.all, by decide, hns, by decide,
    hdigits g.lon_run.all, by decide, hdigits g.lonFrac_run.all, by decide, hew,
    by decide, hdigits g.sats_run.all, by decide, hdigits g.alt_digits.2,
    by decide, hdigits g.geoid_digits.2, by decide, hdigits g.geoidFrac_digits.2,
    by decide⟩

def groups (g : Gga) : Captures UInt8
  | 1 => g.time
  | 2 => g.lat ++ (str "." ++ g.latFrac)
  | 3 => [g.ns]
  | 4 => g.lon ++ (str "." ++ g.lonFrac)
  | 5 => [g.ew]
  | 6 => str "1"
  | 7 => g.sats
  | 8 => str "1"
  | 9 => g.alt
  | 10 => g.geoid ++ (str "." ++ g.geoidFrac)
  | _ => []

open Regex in
/-- `\d{n}\.\d{3,4}` takes four decimals where there are four. -/
theorem picks_coordinate {n : Nat} {whole frac s : Bytes} {c : Captures UInt8}
    (hwhole : Run isDigit n whole) (hfrac : Run isDigit 4 frac) :
    Picks (concat [times isDigit n, word (str "."), between isDigit 3 4])
      ((whole ++ (str "." ++ frac)) ++ s) c s c := by
  rw [List.append_assoc, List.append_assoc]
  apply (Picks.run hwhole).seq
  apply (Picks.word _).seq
  refine Picks.seq ?_ Picks.empty
  apply Picks.greedy hfrac.all
  · rw [hfrac.length]
    omega
  · left
    rw [hfrac.length]

open Regex in
/-- `\d+(?:\.\d+)?` takes a number without decimals where another character follows. -/
theorem picks_integer {n : Nat} {w s : Bytes} {c : Captures UInt8}
    (hw : w ≠ [] ∧ ∀ b ∈ w, isDigit b = true) :
    Picks (decimal n) (w ++ (ch ',' :: s)) c (ch ',' :: s) (Function.update c n w) := by
  apply Picks.group
  apply Picks.seq
  · apply Picks.greedy hw.2
    · exact List.length_pos_iff.mpr hw.1
    · right
      exact ⟨rfl, fun b hb => by cases hb; decide⟩
  · apply Picks.opt_of_fails
    exact Fails.seq (Fails.word (by decide))

open Regex in
theorem picks_decimal {n : Nat} {whole frac s : Bytes} {c : Captures UInt8}
    (hwhole : whole ≠ [] ∧ ∀ b ∈ whole, isDigit b = true)
    (hfrac : frac ≠ [] ∧ ∀ b ∈ frac, isDigit b = true) :
    Picks (decimal n) ((whole ++ (str "." ++ frac)) ++ (ch ',' :: s)) c (ch ',' :: s)
      (Function.update c n (whole ++ (str "." ++ frac))) := by
  apply Picks.group
  rw [List.append_assoc, List.append_assoc]
  apply Picks.seq
  · apply Picks.greedy hwhole.2
    · exact List.length_pos_iff.mpr hwhole.1
    · right
      exact ⟨rfl, fun b hb => by cases hb; decide⟩
  · apply Picks.opt
    apply (Picks.word _).seq
    apply Picks.greedy hfrac.2
    · exact List.length_pos_iff.mpr hfrac.1
    · right
      exact ⟨rfl, fun b hb => by cases hb; decide⟩

open Regex in
/-- The expression matches such a sentence, and each group has its field. -/
theorem matchAll_sentence (g : Gga) : s_GPGGA_RE.matchAll g.sentence = some g.groups := by
  have hns : icase (fun b => b == ch 'N' || b == ch 'S') g.ns = true := by
    rcases g.ns_mem with h | h <;> rw [h] <;> decide
  have hew : icase (fun b => b == ch 'E' || b == ch 'W') g.ew = true := by
    rcases g.ew_mem with h | h <;> rw [h] <;> decide
  have hgroups : g.groups = Function.update (Function.update (Function.update (Function.update
      (Function.update (Function.update (Function.update (Function.update (Function.update
      (Function.update (fun _ => []) RE_GGA_TIME g.time)
      RE_GGA_LAT (g.lat ++ (str "." ++ g.latFrac))) RE_GGA_LAT_DIR [g.ns])
      RE_GGA_LON (g.lon ++ (str "." ++ g.lonFrac))) RE_GGA_LON_DIR [g.ew])
      RE_GGA_FIX (str "1")) RE_GGA_SAT g.sats) RE_GGA_DIL (str "1")) RE_GGA_ALT g.alt)
      RE_GGA_GEOID (g.geoid ++ (str "." ++ g.geoidFrac)) := by
    funext n
    match n with
    | 0 | 1 | 2 | 3 | 4 | 5 | 6 | 7 | 8 | 9 | 10 => rfl
    | n + 11 => rfl
  obtain ⟨hlen, hhex, -⟩ := csumDigits_spec (Math.xorAll_lt g.body_plain)
  have hcsum : Run (icase isHexUpper) 2 (Processor.csumDigits (Math.xorAll g.body)) :=
    ⟨hlen, fun b hb => (isHexUpper_of_digit b (hhex b hb)).1⟩
  have hpicks : Picks s_GPGGA_RE g.sentence (fun _ => []) [] g.groups := by
    rw [hgroups, sentence, ← upToStar_eq]
    apply (Picks.word _).seq
    apply (Picks.times (a := str "GP") rfl (by decide)).seq
    apply (Picks.word _).seq
    apply (Picks.group (Picks.run g.time_run)).seq
    apply (Picks.word _).seq
    apply (Picks.group (picks_coordinate g.lat_run g.latFrac_run)).seq
    apply (Picks.word _).seq
    apply (Picks.group (a := [g.ns]) (Picks.one hns)).seq
    apply (Picks.word _).seq
    apply (Picks.group (picks_coordinate g.lon_run g.lonFrac_run)).seq
    apply (Picks.word _).seq
    apply (Picks.group (a := [g.ew]) (Picks.one hew)).seq
    apply (Picks.word _).seq
    apply (Picks.group (a := str "1") (Picks.one (by decide))).seq
    apply (Picks.word _).seq
    apply (Picks.group (Picks.run g.sats_run)).seq
    apply (Picks.word _).seq
    apply (picks_integer (w := str "1") (by decide)).seq
    apply (Picks.word _).seq
    apply (picks_integer g.alt_digits).seq
    apply (Picks.word _).seq
    apply (picks_decimal g.geoid_digits g.geoidFrac_digits).seq
    apply (Picks.word _).seq
    apply (Picks.run hcsum).seq
    exact Picks.starLazy_eos (by decide)
  exact hpicks.matchAll

/-- Such a sentence is accepted as soon as its fields convert. -/
theorem unpack_sentence (g : Gga) (boost : BoostRegex) (clock : DateTime) (position : GpsPosition) :
    unpack boost clock g.sentence position =
      match (parsePosition clock g.groups).run.run position with
      | (.ok valid, position) => (valid, position)
      | (.error _, position) => (false, position) := by
  have hcsum : checksumField g.sentence =
      .ok (Math.checksum g.sentence g.sentence.length).toInt := checksumField_sentence g.body_plain
  unfold unpack
  simp only [hcsum, if_true, boost.perl, g.matchAll_sentence]

end Gga

end GpsParser

end VirtualFlightRadar
