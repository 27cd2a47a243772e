import VirtualFlightRadar.Feed.Sentence
import VirtualFlightRadar.System.Provenance

/-!
# The messages verify

What the processors make of a line is a sentence with a good checksum, whatever the line says, apart
from the ids of SBS lines, which are copied.  So a message is sentences that verify, and at most two
lines that have passed the receive check of the sensor parsers.
-/

open Cxx
open scoped Computability

namespace VirtualFlightRadar

/-! ## Values of lines are printed in full -/

theorem Math.dmToDeg_inRange {x : Double} (h : ∀ q, x = .fin q → |q| ≤ 2 * Double.dblMax) :
    (dmToDeg x).InRange := by
  intro d hd
  cases x with
  | fin q =>
      have hq := h q rfl
      have hpos : 0 ≤ |q / 100| := abs_nonneg _
      have hfloor : (0 : ℚ) ≤ ⌊|q / 100|⌋ := by exact_mod_cast Int.floor_nonneg.mpr hpos
      have hle := Int.floor_le |q / 100|
      have hlt := Int.lt_floor_add_one |q / 100|
      have hlarge : (2 : ℚ) ^ 10 ≤ Double.dblMax :=
        (pow_le_pow_right₀ (by norm_num) (by norm_num)).trans two_pow_le_dblMax
      have hdivided : |q / 100| ≤ 2 * Double.dblMax / 100 := by
        rw [abs_div, abs_of_pos (by norm_num : (0 : ℚ) < 100)]
        exact div_le_div_of_nonneg_right hq (by norm_num)
      unfold dmToDeg at hd
      simp only [Double.ofNat_eq] at hd
      rw [Double.fin_div _ (by norm_num), Double.abs_fin, Double.floor_fin, Double.fin_sub,
        Double.fin_mul, Double.fin_div _ (by norm_num), Double.fin_add] at hd
      cases hd
      rw [abs_of_nonneg (by linarith)]
      linarith
  | inf neg => cases neg <;> cases hd
  | nan => cases hd

theorem signed_inRange {direction negative : Bytes} {degree : Double} (h : degree.InRange) :
    (signed direction negative degree).InRange := by
  unfold signed
  split
  · intro q hq
    cases degree with
    | fin p =>
        cases hq
        rw [abs_neg]
        exact h p rfl
    | inf neg => cases hq
    | nan => cases hq
  · exact h

theorem stod_le {text : Bytes} {x : Double} (h : stod text = .ok x) :
    ∀ q, x = .fin q → |q| ≤ 2 * Double.dblMax := by
  rintro q rfl
  exact stod_abs_le h

theorem GpsParser.unpack_inRange {boost : BoostRegex} {clock : DateTime} {sentence : Bytes}
    {position fix : GpsPosition} (h : unpack boost clock sentence position = (true, fix)) :
    fix.m_position.latitude.InRange ∧ fix.m_position.longitude.InRange ∧
      ∀ q, fix.m_geoid = .fin q → |q| ≤ 10 ^ 400 := by
  obtain ⟨-, groups, -, hparsed⟩ := unpack_true_iff.mp h
  obtain ⟨lat, lon, alt, hlat, hlon, -, hgeoid, hposition⟩ := parsePosition_fields hparsed
  rw [hposition]
  refine ⟨signed_inRange (Math.dmToDeg_inRange (stod_le hlat)),
    signed_inRange (Math.dmToDeg_inRange (stod_le hlon)), ?_⟩
  intro q hq
  have hmax : 2 * Double.dblMax ≤ 10 ^ 400 := by
    have hlt : Double.dblMax < 2 ^ 53 * 2 ^ 971 :=
      mul_lt_mul_of_pos_right (by norm_num) (by positivity)
    have hpow : (2 : ℚ) ^ 1025 ≤ 10 ^ 400 := by
      calc (2 : ℚ) ^ 1025 ≤ 2 ^ (3 * 400) := pow_le_pow_right₀ (by norm_num) (by norm_num)
        _ = (2 ^ 3) ^ 400 := pow_mul _ _ _
        _ ≤ 10 ^ 400 := pow_le_pow_left₀ (by norm_num) (by norm_num) 400
    rw [← pow_add] at hlt
    rw [show 1025 = 1 + (53 + 971) by rfl, pow_add, pow_one] at hpow
    linarith
  exact (stod_le hgeoid q hq).trans hmax

theorem AprsParser.parseMovement_inRange {groups comGroups : Captures UInt8} {aircraft : Aircraft}
    (h : aircraft.m_movement.climbRate.InRange) :
    (parseMovement groups comGroups aircraft).2.m_movement.climbRate.InRange := by
  cases hhead : stod (groups RE_APRS_HEAD) with
  | error e =>
      unfold parseMovement
      rw [hhead]
      exact h
  | ok heading =>
      cases hspeed : stod (groups RE_APRS_GND_SPD) with
      | error e =>
          unfold parseMovement
          rw [hhead, hspeed]
          exact h
      | ok speed =>
          cases hclimb : stod (comGroups RE_APRS_COM_CR) with
          | error e =>
              unfold parseMovement
              rw [hhead, hspeed, hclimb]
              exact h
          | ok climb =>
              rw [parseMovement_of_fields hhead hspeed hclimb]
              intro q hq
              cases climb with
              | fin p =>
                  -- A foot per minute is less than half a meter per second.
                  have hp := stod_abs_le hclimb
                  cases hq
                  have hfactor : |((OfScientific.ofScientific 508 true 5 : ℚ))| ≤ 1 / 2 := by
                    norm_num [abs_le]
                  rw [abs_mul]
                  have hle := mul_le_mul hp hfactor (abs_nonneg _)
                    (mul_nonneg (by norm_num) ((by positivity : (0 : ℚ) ≤ 2 ^ 1000).trans
                      two_pow_le_dblMax))
                  linarith
              | inf neg =>
                  change (if _ = (0 : ℚ) then Double.nan else Double.inf _) = Double.fin q at hq
                  split at hq
                  · cases hq
                  · cases hq
              | nan => cases hq

/-! ## Aircrafts of lines -/

-- What an aircraft has before a line is read
theorem inRange_not_available : A_VALUE_NA.InRange := inRange_of_le (by norm_num)

theorem AprsParser.unpack_climbRate {boost : BoostRegex} {clock : DateTime} {s_maxHeight : Int32}
    {sentence : Bytes} {aircraft aircraft' : Aircraft}
    (hclimb : aircraft.m_movement.climbRate.InRange)
    (h : unpack boost clock s_maxHeight sentence aircraft = (true, aircraft')) :
    aircraft'.m_movement.climbRate.InRange := by
  unfold unpack at h
  split at h
  · cases h
  · split at h
    · cases h
    · split at h
      · cases h
      · rename_i positioned hposition
        obtain ⟨lat, lon, alt, -, -, -, -, rfl⟩ := parsePosition_reads hposition
        split at h
        · cases h
        · rename_i stamped hstamp
          obtain ⟨timeStamp, rfl⟩ := parseTimeStamp_true hstamp
          split at h
          · cases h
          · split at h
            · cases h
            · rename_i commented hparsed
              obtain ⟨idType, aircraftType, rfl⟩ := parseComment_true hparsed
              simp only at h
              cases h
              exact parseMovement_inRange hclimb

theorem AprsParser.printable {boost : BoostRegex} {clock : DateTime} {s_maxHeight : Int32}
    {sentence : Bytes} {priority : UInt32} {x : Aircraft}
    (h : unpack boost clock s_maxHeight sentence (.ofPriority priority) = (true, x)) :
    Printable x := by
  obtain ⟨-, -, comment, comGroups, hcomment, hid⟩ := unpack_true h
  have hrun := run_comment_id hcomment
  refine ⟨?_, ?_, unpack_climbRate inRange_not_available h⟩
  · rw [hid]
    exact fun b hb => isIdChar_of_isHexUpper b (hrun.all b hb)
  · rw [hid, hrun.length]
    decide

theorem SbsParser.printable {clock : DateTime} {s_maxHeight : Int32} {sentence : Bytes}
    {priority : UInt32} {x : Aircraft}
    (h : unpack clock s_maxHeight sentence (.ofPriority priority) = (true, x))
    (hid : ∀ b ∈ idField sentence, isIdChar b = true) (hlen : (idField sentence).length ≤ 1000) :
    Printable x := by
  obtain ⟨-, timeStamp, position, rfl⟩ := unpack_true h
  exact ⟨hid, hlen, inRange_not_available⟩

theorem DataFeed.aircraft_of_act {parsers : Parsers} {this : DataFeed} {reading : Reading}
    {x : Aircraft} (h : this.act parsers reading = some (.updateAircraft x)) :
    (this.type = .AprscFeed ∧ AprsParser.unpack parsers.boost reading.clock parsers.s_maxHeight
      reading.response (.ofPriority this.m_priority) = (true, x)) ∨
    (this.type = .SbsFeed ∧ SbsParser.unpack reading.clock parsers.s_maxHeight reading.response
      (.ofPriority this.m_priority) = (true, x)) := by
  unfold act at h
  cases htype : this.type with
  | AprscFeed =>
      rw [htype] at h
      obtain ⟨hvalid, heq⟩ := unpackedAct_eq h
      cases heq
      exact .inl ⟨rfl, Prod.ext hvalid rfl⟩
  | SbsFeed =>
      rw [htype] at h
      obtain ⟨hvalid, heq⟩ := unpackedAct_eq h
      cases heq
      exact .inr ⟨rfl, Prod.ext hvalid rfl⟩
  | _ =>
      rw [htype] at h
      obtain ⟨-, heq⟩ := unpackedAct_eq h
      cases heq

namespace System

open ClientManager

variable {boost : BoostHash} {set : ClientSet boost} {env : Installation}

/-- The ids in the accepted lines of the SBS feeds are words of ordinary length. -/
def PlainIds (env : Installation) (os : List Observed) : Prop :=
  ∀ k n feed reading valid stored, .processed k n reading valid stored ∈ os →
    env.feeds[n]? = some feed → feed.type = .SbsFeed → feed.act env.parsers reading ≠ none →
    (∀ b ∈ SbsParser.idField reading.response, isIdChar b = true) ∧
      (SbsParser.idField reading.response).length ≤ 1000

/-- The configured position is one of doubles. -/
structure Configured (env : Installation) : Prop where
  latitude : env.position.m_position.latitude.InRange
  longitude : env.position.m_position.longitude.InRange
  geoid : env.position.m_geoid.InRange

def verified : Language UInt8 := {sentence | Verifies sentence}

def checked : Language UInt8 := {line | ChecksumMatches line}

theorem append_mem_kstar {l : Language UInt8} {a b : Bytes} (ha : a ∈ l) (hb : b ∈ l) :
    a ++ b ∈ l∗ := by
  refine Language.mem_kstar.mpr ⟨[a, b], by simp, ?_⟩
  intro y hy
  simp only [List.mem_cons, List.not_mem_nil, or_false] at hy
  rcases hy with rfl | rfl
  · exact ha
  · exact hb

section

variable {os : List Observed}

theorem printable_of_line (hids : PlainIds env os) {x : Aircraft}
    (h : FromLine env os (.updateAircraft x)) : Printable x := by
  obtain ⟨k, n, feed, reading, valid, stored, hmem, hfeed, hact⟩ := h
  rcases DataFeed.aircraft_of_act hact with ⟨-, hunpack⟩ | ⟨htype, hunpack⟩
  · exact AprsParser.printable hunpack
  · obtain ⟨hid, hlen⟩ := hids k n feed reading valid stored hmem hfeed htype (by rw [hact]; nofun)
    exact SbsParser.printable hunpack hid hlen

theorem reports_verify (hids : PlainIds env os) : reports env os ≤ verified∗ := by
  rintro text ⟨x, fix, atmPress, hline, -, -, rfl⟩
  obtain ⟨hid, hlen, hclimb⟩ := printable_of_line hids hline
  unfold AircraftProcessor.report
  simp only
  split
  · obtain ⟨hau, haa⟩ := AircraftProcessor.verifies_report hid hlen hclimb
      (AircraftProcessor.calculateRelPosition env.m fix.m_position atmPress x)
    exact append_mem_kstar hau haa
  · exact Language.nil_mem_kstar _

theorem verifies_fix (hconfigured : Configured env) {fix : GpsPosition} (hfix : fix ∈ fixes env os)
    {utc : Tm} (hutc : utc.InRange) : Verifies (GpsProcessor.sentenceGPGGA utc fix) ∧
      Verifies (GpsProcessor.sentenceGPRMC utc fix) := by
  rcases hfix with rfl | ⟨utc', hline⟩
  · exact GpsProcessor.verifies_sentences hconfigured.latitude hconfigured.longitude
      hconfigured.geoid hutc
  · obtain ⟨k, n, feed, reading, valid, stored, -, -, hact⟩ := hline
    obtain ⟨-, -, hunpack⟩ := DataFeed.gps_of_act hact
    obtain ⟨hlat, hlon, hgeoid⟩ := GpsParser.unpack_inRange hunpack
    exact GpsProcessor.verifies_texts hlat hlon hgeoid hutc

theorem positions_verify (hconfigured : Configured env)
    (hutc : ∀ utc event, .served (.serializeGps utc) event ∈ os → utc.InRange) :
    positions env os ≤ verified∗ := by
  intro text htext
  obtain ⟨utc, event, fix, hserved, hfix, heq⟩ := htext
  obtain ⟨hgga, hrmc⟩ := verifies_fix hconfigured hfix (hutc utc event hserved)
  rw [heq]
  exact append_mem_kstar hgga hrmc

theorem forwarded_checked {type : FeedClass}
    (htype : type = .WindFeed ∨ type = .AtmosphereFeed) : forwarded env os type ≤ checked := by
  rintro line ⟨k, n, feed, reading, valid, stored, act, -, -, hfeed, hact, rfl⟩
  unfold DataFeed.act at hact
  rw [hfeed] at hact
  rcases htype with rfl | rfl
  · exact (WindParser.unpack_true (DataFeed.unpackedAct_eq hact).1).1
  · exact (AtmosphereParser.unpack_true (DataFeed.unpackedAct_eq hact).1).1

end

/-- Where the SBS lines have ids of ordinary characters, every message that is sent is sentences that
verify, and then at most two lines that have passed the receive check of the sensor parsers. -/
theorem sent_verifies {s s' : System} {events : List SystemEvent} {os : List Observed}
    (hconfigured : Configured env)
    (hrun : run (step env) (started set env) events = some (os, s)) (hids : PlainIds env os)
    (hutc : ∀ utc event, .served (.serializeGps utc) event ∈ os → utc.InRange)
    {event : SystemEvent} {shown : Event} {message : Bytes} {outcome : Nat → WriteOutcome}
    {writes : List Write}
    (hsent : s.step env event = some (.sent shown (.send message outcome) writes, s')) :
    message ∈ verified∗ * (1 + checked) * (1 + checked) := by
  have hreports : (reports env os)∗ ≤ verified∗ := by
    rw [← kstar_idem verified]
    exact kstar_mono (reports_verify hids)
  have hbefore : (reports env os)∗ * positions env os ≤ verified∗ := by
    rw [← kstar_mul_kstar verified]
    exact mul_le_mul' hreports (positions_verify hconfigured hutc)
  have hatmosphere : 1 + forwarded env os .AtmosphereFeed ≤ 1 + checked :=
    add_le_add le_rfl (forwarded_checked (.inr rfl))
  have hwind : 1 + forwarded env os .WindFeed ≤ 1 + checked :=
    add_le_add le_rfl (forwarded_checked (.inl rfl))
  exact mul_le_mul' (mul_le_mul' hbefore hatmosphere) hwind ((run_traced hrun).sent hsent)

end System

end VirtualFlightRadar
