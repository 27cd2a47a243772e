import VirtualFlightRadar.Object.TimeStamp

/-!
# The clock behind the time stamps

`DateTimeImplBoost` asks the system for the time in `day()` and again in `now()`.  The constructor of
a stamp calls `day()` for the initialiser of `m_day` and `now()` at its end, so the two values belong
to two instants.  A stamp is right if no midnight lies between them and the clock has got past the
millisecond of the report.
-/

open Cxx

namespace VirtualFlightRadar

def usPerDay : Nat := 86400000000

/-- `boost::posix_time::microsec_clock::universal_time()` in microseconds since the start of the
modified Julian day zero.  The system counts from the first day of 1970, and the day number fits its
type. -/
structure UniversalTime where
  us : Nat
  epoch : 40587 ≤ us / usPerDay
  day_lt : us / usPerDay < 2 ^ 32

namespace DateTimeImplBoost

-- `time_of_day().total_milliseconds()`
def now (t : UniversalTime) : Int := (t.us % usPerDay / 1000 : Nat)

-- `date().modjulian_day()`
def day (t : UniversalTime) : UInt32 := UInt32.ofNat (t.us / usPerDay)

theorem day_toNat (t : UniversalTime) : (day t).toNat = t.us / usPerDay := by
  show (UInt32.ofNat (t.us / usPerDay)).toNat = _
  rw [UInt32.toNat_ofNat', Nat.mod_eq_of_lt t.day_lt]

theorem day_pred_toNat (t : UniversalTime) : (day t - 1).toNat = t.us / usPerDay - 1 := by
  have hepoch := t.epoch
  have hone : (1 : UInt32) ≤ day t := by
    rw [UInt32.le_iff_toNat_le, day_toNat]
    show 1 ≤ _
    omega
  rw [UInt32.toNat_sub_of_le _ _ hone, day_toNat]
  rfl

/-- The stamp of a report, from the two readings of the clock. -/
theorem make_render (first second : UniversalTime) (t : Instant) (format : Format)
    (whole : format = .HHMMSS → t.milli = 0) :
    ∃ s, TimeStamp.make ⟨day first, now second⟩ (t.render format) format = .ok s ∧
      s.m_value = t.ms ∧
      s.m_day.toNat = if second.us % usPerDay / 1000 ≤ t.ms then first.us / usPerDay - 1
        else first.us / usPerDay := by
  refine ⟨_, TimeStamp.make_render _ t format whole, rfl, ?_⟩
  have hge : (t.ms : Int) ≥ now second ↔ second.us % usPerDay / 1000 ≤ t.ms := Int.ofNat_le
  by_cases h : second.us % usPerDay / 1000 ≤ t.ms
  · rw [if_pos h]
    show (if (t.ms : Int) ≥ now second then day first - 1 else day first).toNat = _
    rw [if_pos (hge.mpr h), day_pred_toNat]
  · rw [if_neg h]
    show (if (t.ms : Int) ≥ now second then day first - 1 else day first).toNat = _
    rw [if_neg (fun hle => h (hge.mp hle)), day_toNat]

end DateTimeImplBoost

/-! ## Stamps while the clock goes on -/

/-- A report of the instant `sent`, not older than a day, whose stamp is made while the clock goes on
from `first`, where `day()` reads it, to `second`, where `now()` does. -/
structure TickingReport where
  format : Format
  sent : Instant
  first : UniversalTime
  second : UniversalTime
  whole : format = .HHMMSS → sent.milli = 0
  forward : first.us ≤ second.us
  within_second : second.us < first.us + 1000000
  after : sent.toMs * 1000 ≤ first.us
  within_day : second.us < (sent.toMs + msPerDay) * 1000

namespace TickingReport

def stamp (r : TickingReport) : Except StdError TimeStamp :=
  TimeStamp.make ⟨DateTimeImplBoost.day r.first, DateTimeImplBoost.now r.second⟩
    (r.sent.render r.format) r.format

/-- The stamp carries the day and the millisecond of the report. -/
def Exact (r : TickingReport) : Prop :=
  ∃ s, r.stamp = .ok s ∧ s.m_day.toNat = r.sent.day ∧ s.m_value = r.sent.ms

/-- A stamp is exact if and only if both readings are of one day and the second one is past the
millisecond of the report. -/
theorem ticking_exact_iff (r : TickingReport) : r.Exact ↔
    r.first.us / usPerDay = r.second.us / usPerDay ∧ r.sent.toMs < r.second.us / 1000 := by
  obtain ⟨s, hs, hvalue, hday⟩ :=
    DateTimeImplBoost.make_render r.first r.second r.sent r.format r.whole
  have hexact : r.Exact ↔ s.m_day.toNat = r.sent.day := by
    constructor
    · intro h
      obtain ⟨s', hs', hday', -⟩ := h
      rw [Except.ok.inj (hs.symm.trans hs')]
      exact hday'
    · intro h
      exact ⟨s, hs, h, hvalue⟩
  rw [hexact, hday]
  have hforward := r.forward
  have hsecond := r.within_second
  have hafter := r.after
  have hwithin := r.within_day
  have hms := r.sent.ms_lt
  have hepoch := r.first.epoch
  unfold Instant.toMs msPerDay usPerDay at *
  -- The time of day is taken for yesterday's exactly if the second reading is not past it.
  split
  · omega
  · omega

/-- A report of 23:59:59 that is read as the day ends: `day()` is called a millisecond before
midnight and `now()` a millisecond after it. -/
def acrossMidnight : TickingReport where
  format := .HHMMSS
  sent := ⟨57800, 86399000, by decide⟩
  first := ⟨57800 * usPerDay + 86399999000, by decide, by decide⟩
  second := ⟨57801 * usPerDay + 1000, by decide, by decide⟩
  whole := by decide
  forward := by decide
  within_second := by decide
  after := by decide
  within_day := by decide

/-- A report of 12:00:00 that is read within its own millisecond. -/
def withoutDelay : TickingReport where
  format := .HHMMSS
  sent := ⟨57800, 43200000, by decide⟩
  first := ⟨57800 * usPerDay + 43200000000, by decide, by decide⟩
  second := ⟨57800 * usPerDay + 43200000000, by decide, by decide⟩
  whole := by decide
  forward := by decide
  within_second := by decide
  after := by decide
  within_day := by decide

/-- Both stamps are a day behind their reports. -/
theorem not_exact_midnight_or_delay : ¬ acrossMidnight.Exact ∧ ¬ withoutDelay.Exact := by
  have hmidnight : acrossMidnight.stamp = .ok ⟨86399000, 57799⟩ := by rfl
  have hdelay : withoutDelay.stamp = .ok ⟨43200000, 57799⟩ := by rfl
  refine ⟨fun h => ?_, fun h => ?_⟩
  · obtain ⟨s, hs, hday, -⟩ := h
    rw [← Except.ok.inj (hmidnight.symm.trans hs)] at hday
    exact absurd hday (by decide)
  · obtain ⟨s, hs, hday, -⟩ := h
    rw [← Except.ok.inj (hdelay.symm.trans hs)] at hday
    exact absurd hday (by decide)

end TickingReport

end VirtualFlightRadar
