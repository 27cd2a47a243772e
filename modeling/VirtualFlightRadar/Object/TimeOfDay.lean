import VirtualFlightRadar.Object.TimeStamp

/-!
# Which times are accepted

The constructor of a time stamp cuts a text at fixed positions and reads each piece with `stoi`,
which takes a sign.  Its test compares the numbers with their upper bounds only, so a piece with a
minus sign passes.
-/

open Cxx

namespace VirtualFlightRadar

namespace TimeStamp

/-- A piece of a time: where it stands, how many bytes it has, and the greatest number allowed. -/
structure Piece where
  pos : Nat
  len : Nat
  max : Int

def pieces : Format → List Piece
  | .HHMMSS => [⟨0, 2, 23⟩, ⟨2, 2, 59⟩, ⟨4, 2, 59⟩]
  | .HH_MM_SS_FFF => [⟨0, 2, 23⟩, ⟨3, 2, 59⟩, ⟨6, 2, 59⟩, ⟨9, 3, 999⟩]

namespace Piece

variable (p : Piece) (value : Bytes)

def text : Bytes := (value.drop p.pos).take p.len

/-- What is tested: the piece converts to a number that is not too large. -/
def Passes : Prop := ∃ n, stoiAt value p.pos p.len = .ok n ∧ n ≤ p.max

/-- What should be: the number is also not negative. -/
def InRange : Prop := ∃ n, stoiAt value p.pos p.len = .ok n ∧ 0 ≤ n ∧ n ≤ p.max

variable {p value}

theorem stoi_text {n : Int} (h : stoiAt value p.pos p.len = .ok n) : stoi 10 (p.text value) = .ok n := by
  unfold stoiAt substr at h
  by_cases hpos : p.pos ≤ value.length
  · rw [if_pos hpos] at h
    exact h
  · rw [if_neg hpos] at h
    cases h

theorem inRange_iff : p.InRange value ↔ p.Passes value ∧ isMinus (p.text value) = false := by
  constructor
  · intro h
    obtain ⟨n, hn, hlo, hhi⟩ := h
    have hminus := stoi_neg_iff (stoi_text hn)
    refine ⟨⟨n, hn, hhi⟩, Bool.eq_false_iff.mpr fun htrue => ?_⟩
    have hneg := hminus.mpr htrue
    omega
  · intro h
    obtain ⟨⟨n, hn, hhi⟩, hfalse⟩ := h
    have hminus := stoi_neg_iff (stoi_text hn)
    rw [hfalse] at hminus
    exact ⟨n, hn, not_lt.mp fun hneg => absurd (hminus.mp hneg) (by decide), hhi⟩

end Piece

/-- An accepted time is the number of milliseconds that its pieces make. -/
theorem make_ok_iff {clock : DateTime} {value : Bytes} {format : Format} {stamp : TimeStamp} :
    make clock value format = .ok stamp ↔
      ∃ h m s f, readFields value format = .ok (h, m, s, f) ∧
        h ≤ 23 ∧ m ≤ 59 ∧ s ≤ 59 ∧ f ≤ 999 ∧
        stamp = ⟨h * 3600000 + m * 60000 + s * 1000 + f,
          if h * 3600000 + m * 60000 + s * 1000 + f ≥ clock.now then clock.day - 1 else clock.day⟩ := by
  unfold make
  constructor
  · intro hmake
    split at hmake
    next => cases hmake
    next => cases hmake
    next h m s f hread =>
      by_cases hrange : h > 23 ∨ m > 59 ∨ s > 59 ∨ f > 999
      · rw [if_pos hrange] at hmake
        cases hmake
      · rw [if_neg hrange] at hmake
        exact ⟨h, m, s, f, hread, by omega, by omega, by omega, by omega,
          (Except.ok.inj hmake).symm⟩
  · intro hread
    obtain ⟨h, m, s, f, hread, hh, hm, hs, hf, rfl⟩ := hread
    rw [hread]
    simp only
    rw [if_neg (by omega)]

theorem readFields_HHMMSS_iff {value : Bytes} {h m s f : Int} :
    readFields value .HHMMSS = .ok (h, m, s, f) ↔
      stoiAt value 0 2 = .ok h ∧ stoiAt value 2 2 = .ok m ∧ stoiAt value 4 2 = .ok s ∧ f = 0 := by
  simp only [readFields, bind_eq_ok, pure, Except.pure, Except.ok.injEq, Prod.mk.injEq]
  constructor
  · intro hread
    obtain ⟨h', hh, m', hm, s', hs, rfl, rfl, rfl, rfl⟩ := hread
    exact ⟨hh, hm, hs, rfl⟩
  · intro hread
    exact ⟨h, hread.1, m, hread.2.1, s, hread.2.2.1, rfl, rfl, rfl, hread.2.2.2.symm⟩

theorem readFields_HH_MM_SS_FFF_iff {value : Bytes} {h m s f : Int} :
    readFields value .HH_MM_SS_FFF = .ok (h, m, s, f) ↔
      stoiAt value 0 2 = .ok h ∧ stoiAt value 3 2 = .ok m ∧ stoiAt value 6 2 = .ok s ∧
        stoiAt value 9 3 = .ok f := by
  simp only [readFields, bind_eq_ok, pure, Except.pure, Except.ok.injEq, Prod.mk.injEq]
  constructor
  · intro hread
    obtain ⟨h', hh, m', hm, s', hs, f', hf, rfl, rfl, rfl, rfl⟩ := hread
    exact ⟨hh, hm, hs, hf⟩
  · intro hread
    exact ⟨h, hread.1, m, hread.2.1, s, hread.2.2.1, f, hread.2.2.2, rfl, rfl, rfl, rfl⟩

/-- The constructor returns exactly if every piece passes. -/
theorem make_ok_iff_passes {clock : DateTime} {value : Bytes} {format : Format} :
    (∃ stamp, make clock value format = .ok stamp) ↔ ∀ p ∈ pieces format, p.Passes value := by
  simp only [make_ok_iff]
  cases format with
  | HHMMSS =>
      simp only [pieces, List.forall_mem_cons, List.not_mem_nil, false_implies, implies_true,
        and_true, Piece.Passes, readFields_HHMMSS_iff]
      constructor
      · intro h
        obtain ⟨stamp, h, m, s, f, ⟨hh, hm, hs, -⟩, hh', hm', hs', -, -⟩ := h
        exact ⟨⟨h, hh, hh'⟩, ⟨m, hm, hm'⟩, ⟨s, hs, hs'⟩⟩
      · intro h
        obtain ⟨⟨h, hh, hh'⟩, ⟨m, hm, hm'⟩, ⟨s, hs, hs'⟩⟩ := h
        exact ⟨_, h, m, s, 0, ⟨hh, hm, hs, rfl⟩, hh', hm', hs', by omega, rfl⟩
  | HH_MM_SS_FFF =>
      simp only [pieces, List.forall_mem_cons, List.not_mem_nil, false_implies, implies_true,
        and_true, Piece.Passes, readFields_HH_MM_SS_FFF_iff]
      constructor
      · intro h
        obtain ⟨stamp, h, m, s, f, ⟨hh, hm, hs, hf⟩, hh', hm', hs', hf', -⟩ := h
        exact ⟨⟨h, hh, hh'⟩, ⟨m, hm, hm'⟩, ⟨s, hs, hs'⟩, ⟨f, hf, hf'⟩⟩
      · intro h
        obtain ⟨⟨h, hh, hh'⟩, ⟨m, hm, hm'⟩, ⟨s, hs, hs'⟩, ⟨f, hf, hf'⟩⟩ := h
        exact ⟨_, h, m, s, f, ⟨hh, hm, hs, hf⟩, hh', hm', hs', hf', rfl⟩

theorem value_of_inRange {clock : DateTime} {value : Bytes} {format : Format} {stamp : TimeStamp}
    (hmake : make clock value format = .ok stamp) (hrange : ∀ p ∈ pieces format, p.InRange value) :
    0 ≤ stamp.m_value ∧ stamp.m_value < 86400000 := by
  obtain ⟨h, m, s, f, hread, hh, hm, hs, hf, rfl⟩ := make_ok_iff.mp hmake
  have hnonneg (pos len : Nat) (max n : Int) (hp : ⟨pos, len, max⟩ ∈ pieces format)
      (hn : stoiAt value pos len = .ok n) : 0 ≤ n := by
    obtain ⟨n', hn', hlo, -⟩ := hrange ⟨pos, len, max⟩ hp
    rw [Except.ok.inj (hn.symm.trans hn')]
    exact hlo
  have hsum : 0 ≤ h ∧ 0 ≤ m ∧ 0 ≤ s ∧ 0 ≤ f := by
    cases format with
    | HHMMSS =>
        obtain ⟨hh, hm, hs, rfl⟩ := readFields_HHMMSS_iff.mp hread
        exact ⟨hnonneg 0 2 23 h (by simp [pieces]) hh, hnonneg 2 2 59 m (by simp [pieces]) hm,
          hnonneg 4 2 59 s (by simp [pieces]) hs, le_refl 0⟩
    | HH_MM_SS_FFF =>
        obtain ⟨hh, hm, hs, hf⟩ := readFields_HH_MM_SS_FFF_iff.mp hread
        exact ⟨hnonneg 0 2 23 h (by simp [pieces]) hh, hnonneg 3 2 59 m (by simp [pieces]) hm,
          hnonneg 6 2 59 s (by simp [pieces]) hs, hnonneg 9 3 999 f (by simp [pieces]) hf⟩
  show 0 ≤ h * 3600000 + m * 60000 + s * 1000 + f ∧
    h * 3600000 + m * 60000 + s * 1000 + f < 86400000
  omega

/-- The constructor returns times of day only and throws nothing but `std::invalid_argument`. -/
structure Checked (value : Bytes) (format : Format) : Prop where
  returned : ∀ clock stamp, make clock value format = .ok stamp →
    0 ≤ stamp.m_value ∧ stamp.m_value < 86400000
  rejected : (∃ p ∈ pieces format, ¬ p.InRange value) →
    ∀ clock, make clock value format = .error .invalid_argument
  thrown : ∀ clock e, make clock value format = .error e → e = .invalid_argument

theorem make_of_not_passes {value : Bytes} {format : Format} {p : Piece} (hp : p ∈ pieces format)
    (h : ¬ p.Passes value) (clock : DateTime) :
    make clock value format = .error .invalid_argument := by
  cases hmake : make clock value format with
  | error e => rw [make_error hmake]
  | ok stamp => exact absurd (make_ok_iff_passes.mp ⟨stamp, hmake⟩ p hp) h

/-- A text is checked as it should be exactly if a piece of it does not convert or is too large, or
if none of its pieces is a number below zero. -/
theorem checked_iff (value : Bytes) (format : Format) : Checked value format ↔
    (∃ p ∈ pieces format, ¬ p.Passes value) ∨
      ∀ p ∈ pieces format, isMinus (p.text value) = false := by
  constructor
  · intro h
    by_cases hpass : ∀ p ∈ pieces format, p.Passes value
    · -- The constructor returns, so every piece has to be in its range.
      right
      intro p hp
      by_contra hminus
      have hout : ¬ p.InRange value := fun hrange => hminus (Piece.inRange_iff.mp hrange).2
      obtain ⟨stamp, hmake⟩ : ∃ stamp, make ⟨0, 0⟩ value format = .ok stamp :=
        make_ok_iff_passes.mpr hpass
      rw [h.rejected ⟨p, hp, hout⟩] at hmake
      cases hmake
    · left
      by_contra hnone
      exact hpass fun p hp => by_contra fun hnot => hnone ⟨p, hp, hnot⟩
  · intro h
    rcases h with ⟨p, hp, hnot⟩ | hplain
    · refine ⟨fun clock stamp hmake => ?_, fun _ => make_of_not_passes hp hnot,
        fun clock e => make_error⟩
      rw [make_of_not_passes hp hnot] at hmake
      cases hmake
    · refine ⟨fun clock stamp hmake => ?_, fun hout => ?_, fun clock e => make_error⟩
      · apply value_of_inRange hmake
        intro p hp
        exact Piece.inRange_iff.mpr ⟨make_ok_iff_passes.mp ⟨stamp, hmake⟩ p hp, hplain p hp⟩
      · obtain ⟨p, hp, hnot⟩ := hout
        apply make_of_not_passes hp
        intro hpass
        exact hnot (Piece.inRange_iff.mpr ⟨hpass, hplain p hp⟩)

/-- An hour, and a second, of minus one. -/
theorem not_checked_minus :
    ¬ Checked (str "-1:00:00.000") .HH_MM_SS_FFF ∧ ¬ Checked (str "1200-1") .HHMMSS := by
  have hlong : make ⟨57800, 0⟩ (str "-1:00:00.000") .HH_MM_SS_FFF = .ok ⟨-3600000, 57800⟩ := by rfl
  have hshort : make ⟨57800, 0⟩ (str "1200-1") .HHMMSS = .ok ⟨43199000, 57799⟩ := by rfl
  refine ⟨fun h => ?_, fun h => ?_⟩
  · have hvalue := (h.returned _ _ hlong).1
    exact absurd hvalue (by decide)
  · -- The value is a time of day, but the text is none.
    have hsecond : stoiAt (str "1200-1") 4 2 = .ok (-1) := by rfl
    have hout : ¬ Piece.InRange ⟨4, 2, 59⟩ (str "1200-1") := by
      intro hrange
      obtain ⟨n, hn, hlo, -⟩ := hrange
      rw [← Except.ok.inj (hsecond.symm.trans hn)] at hlo
      exact absurd hlo (by decide)
    have herror := h.rejected ⟨_, by simp [pieces], hout⟩ ⟨57800, 0⟩
    rw [hshort] at herror
    cases herror

end TimeStamp

end VirtualFlightRadar
