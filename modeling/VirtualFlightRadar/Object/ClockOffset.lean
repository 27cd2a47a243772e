import VirtualFlightRadar.Object.Aircraft
import VirtualFlightRadar.Object.DateTimeImplBoost

/-!
# Senders whose clock is ahead

A time of day that the local clock has not reached is taken for yesterday's.  The reports of a sender
whose clock is ahead are therefore all dated right or all a day back, as long as their delays stay on
one side of the offset; a report that overtakes it is older than the one before.
-/

open Cxx

namespace VirtualFlightRadar

namespace Instant

def ofUs (us : Nat) : Instant where
  day := us / usPerDay
  ms := us % usPerDay / 1000
  ms_lt := by
    unfold usPerDay msPerDay
    omega

/-- What a format can express of an instant. -/
def floor (t : Instant) : Format → Instant
  | .HHMMSS => ⟨t.day, t.ms - t.milli, Nat.lt_of_le_of_lt (Nat.sub_le _ _) t.ms_lt⟩
  | .HH_MM_SS_FFF => t

theorem floor_day (t : Instant) (format : Format) : (t.floor format).day = t.day := by
  cases format <;> rfl

theorem floor_ms (t : Instant) (format : Format) :
    (t.floor format).ms = if format = .HHMMSS then t.ms / 1000 * 1000 else t.ms := by
  cases format with
  | HHMMSS =>
      show t.ms - t.ms % 1000 = t.ms / 1000 * 1000
      omega
  | HH_MM_SS_FFF => rfl

theorem floor_whole (t : Instant) (format : Format) (h : format = .HHMMSS) :
    (t.floor format).milli = 0 := by
  unfold milli
  rw [floor_ms, if_pos h]
  omega

/-- The digits that `HHMMSS` leaves out make no difference to its text. -/
theorem render_floor (t : Instant) (format : Format) :
    (t.floor format).render format = t.render format := by
  cases format with
  | HH_MM_SS_FFF => rfl
  | HHMMSS =>
      have hms : (t.floor .HHMMSS).ms = t.ms / 1000 * 1000 := floor_ms t .HHMMSS
      have hhour : (t.floor .HHMMSS).hour = t.hour := by
        unfold hour
        omega
      have hminute : (t.floor .HHMMSS).minute = t.minute := by
        unfold minute
        omega
      have hsecond : (t.floor .HHMMSS).second = t.second := by
        unfold second
        omega
      unfold render
      simp only [hhour, hminute, hsecond]

end Instant

/-- A report that is sent at `sent` on the local clock by a sender whose clock is ahead by `offset`,
both in microseconds, and that arrives within a minute. -/
structure AheadReport (offset : Nat) where
  format : Format
  sent : Nat
  received : UniversalTime
  after : sent ≤ received.us
  delay : received.us < sent + 60000000

namespace AheadReport

variable {offset : Nat}

/-- The text is of the sender's time. -/
def stamp (r : AheadReport offset) : Except StdError TimeStamp :=
  TimeStamp.make ⟨DateTimeImplBoost.day r.received, DateTimeImplBoost.now r.received⟩
    ((Instant.ofUs (r.sent + offset)).render r.format) r.format

/-- The instant that the text expresses, in milliseconds. -/
def carried (r : AheadReport offset) : Nat :=
  ((Instant.ofUs (r.sent + offset)).floor r.format).toMs

/-- The local clock is past the carried time when the report arrives. -/
def Passed (r : AheadReport offset) : Prop := r.carried < r.received.us / 1000

theorem carried_eq (r : AheadReport offset) : r.carried =
    if r.format = .HHMMSS then (r.sent + offset) / 1000000 * 1000 else (r.sent + offset) / 1000 := by
  unfold carried Instant.toMs msPerDay
  rw [Instant.floor_day, Instant.floor_ms]
  show (r.sent + offset) / usPerDay * 86400000 +
    (if r.format = .HHMMSS then (r.sent + offset) % usPerDay / 1000 / 1000 * 1000
      else (r.sent + offset) % usPerDay / 1000) = _
  unfold usPerDay
  split
  · omega
  · omega

/-- A report is dated right if the clock is past its time, else a day back. -/
theorem stamp_eq (r : AheadReport offset) (hoffset : offset < 3600000000) :
    ∃ s, r.stamp = .ok s ∧ 0 ≤ s.m_value ∧ s.m_value < msPerDay ∧
      (s.m_day.toNat * msPerDay + s.m_value =
        if r.carried < r.received.us / 1000 then (r.carried : Int) else r.carried - msPerDay) := by
  obtain ⟨s, hs, hvalue, hday⟩ := DateTimeImplBoost.make_render r.received r.received
    ((Instant.ofUs (r.sent + offset)).floor r.format) r.format (Instant.floor_whole _ _)
  rw [Instant.render_floor] at hs
  have hms := ((Instant.ofUs (r.sent + offset)).floor r.format).ms_lt
  have hcarried : r.carried = _ := r.carried_eq
  have hsplit : r.carried = ((Instant.ofUs (r.sent + offset)).floor r.format).day * msPerDay +
      ((Instant.ofUs (r.sent + offset)).floor r.format).ms := rfl
  have hafter := r.after
  have hdelay := r.delay
  have hepoch := r.received.epoch
  refine ⟨s, hs, by omega, by omega, ?_⟩
  rw [hvalue, hday]
  generalize ((Instant.ofUs (r.sent + offset)).floor r.format).ms = ms at *
  generalize ((Instant.ofUs (r.sent + offset)).floor r.format).day = day at *
  unfold msPerDay usPerDay at *
  -- The offset and the delay are both below a day, so one midnight at most lies between the times.
  by_cases hpassed : r.carried < r.received.us / 1000
  · rw [if_pos hpassed]
    split
    · split at hcarried <;> omega
    · split at hcarried <;> omega
  · rw [if_neg hpassed]
    split
    · split at hcarried <;> omega
    · split at hcarried <;> omega

end AheadReport

/-! ## Two reports of one sender -/

structure AheadPair where
  offset : Nat
  first : AheadReport offset
  second : AheadReport offset
  offset_lt : offset < 3600000000
  apart : first.sent + 1000000 ≤ second.sent
  order : first.received.us ≤ second.received.us

namespace AheadPair

/-- The stamp of the second report compares greater, so that `canUpdate` is left with the other two
conditions for an update. -/
def Updates (p : AheadPair) : Prop :=
  ∃ s₁ s₂, p.first.stamp = .ok s₁ ∧ p.second.stamp = .ok s₂ ∧ s₂.gt s₁ = true ∧
    ∀ newer stored : Aircraft, newer.m_timeStamp = s₂ → stored.m_timeStamp = s₁ →
      newer.canUpdate stored =
        ((stored.m_targetType == .TRANSPONDER || newer.m_targetType == .FLARM) &&
          newer.toObject.canUpdate stored.toObject)

-- A second is enough for the formats to tell the reports apart.
theorem carried_lt (p : AheadPair) : p.first.carried < p.second.carried := by
  have hapart := p.apart
  have hfirst := p.first.carried_eq
  have hsecond := p.second.carried_eq
  split at hfirst <;> split at hsecond <;> omega

/-- The second report does not update the first one exactly if the clock was past the time of the
first on its arrival and is not past the time of the second, unless that is more than a day later. -/
theorem updates_iff (p : AheadPair) : p.Updates ↔
    ¬ (p.first.Passed ∧ ¬ p.second.Passed ∧ p.second.carried ≤ p.first.carried + msPerDay) := by
  obtain ⟨s₁, hs₁, hlo₁, hhi₁, htime₁⟩ := p.first.stamp_eq p.offset_lt
  obtain ⟨s₂, hs₂, hlo₂, hhi₂, htime₂⟩ := p.second.stamp_eq p.offset_lt
  have hupdates : p.Updates ↔ s₂.gt s₁ = true := by
    constructor
    · intro h
      obtain ⟨s₁', s₂', hs₁', hs₂', hgt, -⟩ := h
      rw [Except.ok.inj (hs₁.symm.trans hs₁'), Except.ok.inj (hs₂.symm.trans hs₂')]
      exact hgt
    · intro h
      refine ⟨s₁, s₂, hs₁, hs₂, h, fun newer stored hnewer hstored => ?_⟩
      unfold Aircraft.canUpdate
      rw [hnewer, hstored, h, Bool.true_and]
  have hlt := p.carried_lt
  rw [hupdates, TimeStamp.gt_iff]
  unfold AheadReport.Passed
  unfold msPerDay at *
  split at htime₁ <;> split at htime₂ <;> omega

/-- A sender half a minute ahead: its report of noon takes forty seconds, the one a quarter of a
minute later takes twenty-six. -/
def overtaking : AheadPair where
  offset := 30000000
  first := ⟨.HHMMSS, 57800 * usPerDay + 43200000000,
    ⟨57800 * usPerDay + 43240000000, by decide, by decide⟩, by decide, by decide⟩
  second := ⟨.HHMMSS, 57800 * usPerDay + 43215000000,
    ⟨57800 * usPerDay + 43241000000, by decide, by decide⟩, by decide, by decide⟩
  offset_lt := by decide
  apart := by decide
  order := by decide

/-- The second report is dated a day before the first. -/
theorem not_updates_overtaking : ¬ overtaking.Updates := by
  have hfirst : overtaking.first.stamp = .ok ⟨43230000, 57800⟩ := by rfl
  have hsecond : overtaking.second.stamp = .ok ⟨43245000, 57799⟩ := by rfl
  intro h
  obtain ⟨s₁, s₂, hs₁, hs₂, hgt, -⟩ := h
  rw [← Except.ok.inj (hfirst.symm.trans hs₁), ← Except.ok.inj (hsecond.symm.trans hs₂)] at hgt
  exact absurd hgt (by decide)

end AheadPair

end VirtualFlightRadar
