import VirtualFlightRadar.Cxx.Number

/-!
# Time stamps

`TimeStamp<DateTimeT>` reads a time of day and guesses its day from the clock: a time of day that
the clock has not reached yet belongs to the day before.
-/

open Cxx

namespace VirtualFlightRadar

inductive Format where
  | HHMMSS
  | HH_MM_SS_FFF
  deriving DecidableEq, Repr

/-- What `DateTimeT::day()` and `DateTimeT::now()` return while one stamp is constructed: the day
number and the millisecond of the day. -/
structure DateTime where
  day : UInt32
  now : Int

structure TimeStamp where
  -- Time in milliseconds
  m_value : Int := 0
  -- Incremental day number
  m_day : UInt32 := 0
  deriving DecidableEq, Repr

namespace TimeStamp

def stoiAt (value : Bytes) (pos len : Nat) : Except StdError Int := do
  -- `std::stoi(value.substr(pos, len))`
  stoi 10 (← substr value pos len)

/-- The `switch` of the constructor: hour, minute, second and millisecond. -/
def readFields (value : Bytes) : Format → Except StdError (Int × Int × Int × Int)
  | .HHMMSS => do
      let h ← stoiAt value 0 2
      let m ← stoiAt value 2 2
      let s ← stoiAt value 4 2
      return (h, m, s, 0)
  | .HH_MM_SS_FFF => do
      let h ← stoiAt value 0 2
      let m ← stoiAt value 3 2
      let s ← stoiAt value 6 2
      let f ← stoiAt value 9 3
      return (h, m, s, f)

/-- The constructor `TimeStamp(value, format)`. -/
def make (clock : DateTime) (value : Bytes) (format : Format) : Except StdError TimeStamp :=
  match readFields value format with
  -- `catch (const std::out_of_range&)`; an `invalid_argument` leaves as it is
  | .error .out_of_range => .error .invalid_argument
  | .error e => .error e
  | .ok (h, m, s, f) =>
      -- Only upper bounds are tested.
      if h > 23 ∨ m > 59 ∨ s > 59 ∨ f > 999 then .error .invalid_argument
      else
        let value := h * 3600000 + m * 60000 + s * 1000 + f
        .ok ⟨value, if value ≥ clock.now then clock.day - 1 else clock.day⟩

def gt (this other : TimeStamp) : Bool :=
  this.m_day > other.m_day || (this.m_day == other.m_day && this.m_value > other.m_value)

theorem gt_iff (a b : TimeStamp) : a.gt b = true ↔
    b.m_day.toNat < a.m_day.toNat ∨ b.m_day.toNat = a.m_day.toNat ∧ b.m_value < a.m_value := by
  unfold gt
  rw [Bool.or_eq_true, Bool.and_eq_true, decide_eq_true_eq, decide_eq_true_eq, beq_iff_eq,
    gt_iff_lt, gt_iff_lt, UInt32.lt_iff_toNat_lt, ← UInt32.toNat_inj, eq_comm]

theorem gt_eq_not {a b : TimeStamp} (h : a ≠ b) : b.gt a = !a.gt b := by
  have hkey : a.m_day.toNat = b.m_day.toNat → a.m_value ≠ b.m_value := by
    intro hday hvalue
    apply h
    obtain ⟨value, day⟩ := a
    rw [TimeStamp.mk.injEq]
    exact ⟨hvalue, UInt32.toNat_inj.mp hday⟩
  rw [Bool.eq_not_iff, ne_eq, Bool.eq_iff_iff, gt_iff, gt_iff]
  omega

theorem gt_of_not_gt {a b c : TimeStamp} (h : a.gt b = true) (hc : c.gt b = false) :
    a.gt c = true := by
  rw [← Bool.not_eq_true, gt_iff] at hc
  rw [gt_iff] at h ⊢
  omega

end TimeStamp

/-! ## Instants and their texts -/

def msPerDay : Nat := 86400000

/-- A point in time: a day number and the millisecond of that day. -/
structure Instant where
  day : Nat
  ms : Nat
  ms_lt : ms < msPerDay

namespace Instant

/-- Milliseconds since the start of day zero. -/
def toMs (t : Instant) : Nat := t.day * msPerDay + t.ms

def hour (t : Instant) : Nat := t.ms / 3600000
def minute (t : Instant) : Nat := t.ms / 60000 % 60
def second (t : Instant) : Nat := t.ms / 1000 % 60
def milli (t : Instant) : Nat := t.ms % 1000

/-- The time of day as zero-padded digits. -/
def render (t : Instant) : Format → Bytes
  | .HHMMSS => zeroPad 2 t.hour ++ (zeroPad 2 t.minute ++ zeroPad 2 t.second)
  | .HH_MM_SS_FFF =>
      zeroPad 2 t.hour ++ ch ':' :: (zeroPad 2 t.minute ++ ch ':' :: (zeroPad 2 t.second ++
        ch '.' :: zeroPad 3 t.milli))

theorem hour_lt (t : Instant) : t.hour < 24 := by
  have h := t.ms_lt
  unfold msPerDay at h
  unfold hour
  omega

theorem minute_lt (t : Instant) : t.minute < 60 := Nat.mod_lt _ (by omega)

theorem second_lt (t : Instant) : t.second < 60 := Nat.mod_lt _ (by omega)

theorem milli_lt (t : Instant) : t.milli < 1000 := Nat.mod_lt _ (by omega)

theorem fields_eq_ms (t : Instant) :
    t.hour * 3600000 + t.minute * 60000 + t.second * 1000 + t.milli = t.ms := by
  have h := t.ms_lt
  unfold msPerDay at h
  unfold hour minute second milli
  omega

end Instant

/-! ## Reading a rendered text -/

namespace TimeStamp

theorem stoi_zeroPad (width : Nat) {n : Nat} (hlt : n < 2 ^ 31) :
    stoi 10 (zeroPad width n) = .ok n := by
  have hne : zeroPad width n ≠ [] := by
    unfold zeroPad padLeft
    exact List.append_ne_nil_of_right_ne_nil _ (numeral_ne_nil 10 n)
  have hdigits : ∀ b ∈ zeroPad width n, digitVal b < 10 := fun b hb => by
    have h := isDigit_of_mem_zeroPad hb
    rwa [isDigit_eq_digitVal, decide_eq_true_eq] at h
  rw [stoi_digits (by omega) hne hdigits (by rw [natVal_zeroPad]; exact hlt), natVal_zeroPad]

theorem stoiAt_zeroPad (a c : Bytes) (pos width n : Nat) (ha : a.length = pos) (hw : 0 < width)
    (hlt : n < 10 ^ width) (hsmall : n < 2 ^ 31) :
    stoiAt (a ++ (zeroPad width n ++ c)) pos width = .ok n := by
  unfold stoiAt
  rw [substr_append c ha (zeroPad_length hw hlt)]
  exact stoi_zeroPad width hsmall

theorem readFields_HHMMSS {h m s : Nat} (hh : h < 24) (hm : m < 60) (hs : s < 60) :
    readFields (zeroPad 2 h ++ (zeroPad 2 m ++ zeroPad 2 s)) .HHMMSS = .ok (h, m, s, 0) := by
  have lenH : (zeroPad 2 h).length = 2 := zeroPad_length (by omega) (by omega)
  have lenM : (zeroPad 2 m).length = 2 := zeroPad_length (by omega) (by omega)
  have h0 := stoiAt_zeroPad [] (zeroPad 2 m ++ zeroPad 2 s) 0 2 h rfl (by omega) (by omega)
    (by omega)
  have h2 := stoiAt_zeroPad (zeroPad 2 h) (zeroPad 2 s) 2 2 m lenH (by omega) (by omega) (by omega)
  have h4 := stoiAt_zeroPad (zeroPad 2 h ++ zeroPad 2 m) [] 4 2 s
    (by rw [List.length_append, lenH, lenM]) (by omega) (by omega) (by omega)
  rw [List.nil_append] at h0
  rw [List.append_nil, List.append_assoc] at h4
  simp only [readFields, h0, h2, h4]
  rfl

/-- The constructor turns every exception of the conversions into `invalid_argument`. -/
theorem make_error {clock : DateTime} {value : Bytes} {format : Format} {e : StdError}
    (h : make clock value format = .error e) : e = .invalid_argument := by
  unfold make at h
  split at h
  · cases h
    rfl
  · rename_i e' hne _
    cases h
    cases e with
    | invalid_argument => rfl
    | out_of_range => exact absurd rfl (hne ·)
  · split at h
    · cases h
      rfl
    · cases h

/-- A valid time of day makes a stamp of it; the clock only decides the day. -/
theorem make_HHMMSS (clock : DateTime) {h m s : Nat} (hh : h < 24) (hm : m < 60) (hs : s < 60) :
    make clock (zeroPad 2 h ++ (zeroPad 2 m ++ zeroPad 2 s)) .HHMMSS =
      .ok { m_value := h * 3600000 + m * 60000 + s * 1000
            m_day := if (h * 3600000 + m * 60000 + s * 1000 : Int) ≥ clock.now
              then clock.day - 1 else clock.day } := by
  unfold make
  rw [readFields_HHMMSS hh hm hs]
  simp only [Int.add_zero]
  rw [if_neg (by omega)]

theorem readFields_render (t : Instant) (format : Format) :
    readFields (t.render format) format =
      .ok (t.hour, t.minute, t.second, if format = .HHMMSS then 0 else t.milli) := by
  have hh := t.hour_lt
  have hm := t.minute_lt
  have hs := t.second_lt
  have hf := t.milli_lt
  have lenH : (zeroPad 2 t.hour).length = 2 := zeroPad_length (by omega) (by omega)
  have lenM : (zeroPad 2 t.minute).length = 2 := zeroPad_length (by omega) (by omega)
  have lenS : (zeroPad 2 t.second).length = 2 := zeroPad_length (by omega) (by omega)
  cases format with
  | HHMMSS => exact readFields_HHMMSS hh hm hs
  | HH_MM_SS_FFF =>
      have h0 := stoiAt_zeroPad [] (ch ':' :: (zeroPad 2 t.minute ++ ch ':' ::
        (zeroPad 2 t.second ++ ch '.' :: zeroPad 3 t.milli))) 0 2 t.hour rfl
        (by omega) (by omega) (by omega)
      have h3 := stoiAt_zeroPad (zeroPad 2 t.hour ++ [ch ':']) (ch ':' :: (zeroPad 2 t.second ++
        ch '.' :: zeroPad 3 t.milli)) 3 2 t.minute (by rw [List.length_append, lenH]; rfl)
        (by omega) (by omega) (by omega)
      have h6 := stoiAt_zeroPad (zeroPad 2 t.hour ++ ch ':' :: (zeroPad 2 t.minute ++ [ch ':']))
        (ch '.' :: zeroPad 3 t.milli) 6 2 t.second
        (by simp only [List.length_append, List.length_cons, lenH, lenM, List.length_nil])
        (by omega) (by omega) (by omega)
      have h9 := stoiAt_zeroPad (zeroPad 2 t.hour ++ ch ':' :: (zeroPad 2 t.minute ++ ch ':' ::
        (zeroPad 2 t.second ++ [ch '.']))) [] 9 3 t.milli
        (by simp only [List.length_append, List.length_cons, lenH, lenM, lenS, List.length_nil])
        (by omega) (by omega) (by omega)
      simp only [List.nil_append, List.append_assoc, List.cons_append, List.append_nil] at h0 h3 h6 h9
      simp only [readFields, Instant.render, h0, h3, h6, h9]
      rfl

/-- The text of an instant that the format can express makes a stamp of its time of day. -/
theorem make_render (clock : DateTime) (t : Instant) (format : Format)
    (whole : format = .HHMMSS → t.milli = 0) :
    make clock (t.render format) format =
      .ok ⟨t.ms, if (t.ms : Int) ≥ clock.now then clock.day - 1 else clock.day⟩ := by
  have hh := t.hour_lt
  have hm := t.minute_lt
  have hs := t.second_lt
  have hf := t.milli_lt
  have hmilli : (if format = .HHMMSS then 0 else (t.milli : Int)) = t.milli := by
    split
    next h => rw [whole h]; rfl
    next => rfl
  have hvalue : (t.hour : Int) * 3600000 + t.minute * 60000 + t.second * 1000 + t.milli = t.ms := by
    exact_mod_cast t.fields_eq_ms
  unfold make
  rw [readFields_render]
  simp only [hmilli, hvalue]
  rw [if_neg (by omega)]

end TimeStamp

/-! ## Stamps of reports received within a day -/

/-- A report sent at `sent` that is read while both clock functions report `received`, later than
the report by at most a day.  `HHMMSS` has no digits for the milliseconds. -/
structure TimedReport where
  format : Format
  sent : Instant
  received : Instant
  clock : DateTime
  whole : format = .HHMMSS → sent.milli = 0
  day_eq : clock.day.toNat = received.day
  now_eq : clock.now = received.ms
  after : sent.toMs < received.toMs
  within : received.toMs ≤ sent.toMs + msPerDay

namespace TimedReport

/-- The stamp the constructor makes of the rendered report. -/
def stamp (r : TimedReport) : Except StdError TimeStamp :=
  TimeStamp.make r.clock (r.sent.render r.format) r.format

/-- The day the constructor picks, from the two times of day alone. -/
theorem day_of_sent (r : TimedReport) :
    (if (r.sent.ms : Int) ≥ r.clock.now then r.clock.day - 1 else r.clock.day).toNat =
      r.sent.day := by
  have hafter := r.after
  have hwithin := r.within
  have hsent := r.sent.ms_lt
  have hreceived := r.received.ms_lt
  unfold Instant.toMs msPerDay at *
  rw [r.now_eq]
  -- The clock has not reached the time of day exactly if the report is of the day before.
  split
  next hge =>
    have hday : r.received.day = r.sent.day + 1 := by omega
    rw [UInt32.toNat_sub_of_le, r.day_eq, hday]
    · rfl
    · rw [UInt32.le_iff_toNat_le, r.day_eq, hday]
      exact Nat.le_add_left 1 r.sent.day
  next hlt =>
    rw [r.day_eq]
    omega

theorem stamp_eq (r : TimedReport) :
    ∃ s, r.stamp = .ok s ∧ s.m_value = r.sent.ms ∧ s.m_day.toNat = r.sent.day :=
  ⟨_, TimeStamp.make_render r.clock r.sent r.format r.whole, rfl, r.day_of_sent⟩

/-- Every stamp carries the day and the millisecond of its report, so stamps compare as the reports
were sent, whatever their formats and however many midnights lie between. -/
theorem stamps_chronological (r₁ r₂ : TimedReport) :
    ∃ s₁ s₂, r₁.stamp = .ok s₁ ∧ r₂.stamp = .ok s₂ ∧
      (s₁.m_day.toNat = r₁.sent.day ∧ s₁.m_value = r₁.sent.ms) ∧
      (s₂.m_day.toNat = r₂.sent.day ∧ s₂.m_value = r₂.sent.ms) ∧
      (s₂.gt s₁ = true ↔ r₁.sent.toMs < r₂.sent.toMs) := by
  obtain ⟨s₁, h₁, hv₁, hd₁⟩ := r₁.stamp_eq
  obtain ⟨s₂, h₂, hv₂, hd₂⟩ := r₂.stamp_eq
  refine ⟨s₁, s₂, h₁, h₂, ⟨hd₁, hv₁⟩, ⟨hd₂, hv₂⟩, ?_⟩
  have hsent₁ := r₁.sent.ms_lt
  have hsent₂ := r₂.sent.ms_lt
  simp only [TimeStamp.gt, Bool.or_eq_true, Bool.and_eq_true, decide_eq_true_eq, beq_iff_eq,
    gt_iff_lt, UInt32.lt_iff_toNat_lt, ← UInt32.toNat_inj, hv₁, hv₂, hd₁, hd₂]
  unfold Instant.toMs msPerDay at *
  omega

-- A second before midnight, read a second after it.
example : Nonempty TimedReport := ⟨{
  format := .HHMMSS
  sent := ⟨17000, 86399000, by decide⟩
  received := ⟨17001, 1000, by decide⟩
  clock := { day := 17001, now := 1000 }
  whole := fun _ => by decide
  day_eq := by decide
  now_eq := by decide
  after := by decide
  within := by decide }⟩

end TimedReport

end VirtualFlightRadar
