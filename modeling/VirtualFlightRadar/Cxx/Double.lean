import Mathlib.Data.Rat.Floor
import Mathlib.Data.Rat.Cast.Order
import Mathlib.Tactic

/-!
# Doubles

A `double` is a rational, an infinity or not a number; infinities and NaN propagate as in IEEE 754,
and the sign of zero is not modelled.  What a finite operation makes of its exact result is a
parameter, so one definition of a function has an exact and a binary64 meaning.
-/

namespace Cxx

inductive Double where
  | fin (q : ℚ)
  | inf (neg : Bool)
  | nan
  deriving DecidableEq

/-- What becomes of the exact result of an operation, and of a decimal. -/
class Rounding where
  round : ℚ → Double

/-- Nothing is rounded.  A statement that names no rounding is about exact arithmetic. -/
instance Rounding.exact : Rounding := ⟨.fin⟩

namespace Double

instance : Inhabited Double := ⟨fin 0⟩

-- The integers that the source writes down are small.
instance (n : Nat) : OfNat Double n := ⟨fin n⟩

instance [Rounding] : OfScientific Double :=
  ⟨fun m s e => Rounding.round (OfScientific.ofScientific m s e)⟩

/-- The largest finite `double`. -/
def dblMax : ℚ := (2 ^ 53 - 1) * 2 ^ 971

/-- The values a `double` can have: the finite ones are bounded. -/
def InRange (x : Double) : Prop := ∀ q, x = fin q → |q| ≤ dblMax

def neg : Double → Double
  | fin q => fin (-q)
  | inf s => inf (!s)
  | nan => nan

def add [Rounding] : Double → Double → Double
  | fin a, fin b => Rounding.round (a + b)
  | fin _, inf t => inf t
  | inf s, fin _ => inf s
  -- opposite infinities do not cancel
  | inf s, inf t => if s = t then inf s else nan
  | nan, _ => nan
  | _, nan => nan

def mul [Rounding] : Double → Double → Double
  | fin a, fin b => Rounding.round (a * b)
  | fin a, inf t => if a = 0 then nan else inf (decide (a < 0) != t)
  | inf s, fin b => if b = 0 then nan else inf (s != decide (b < 0))
  | inf s, inf t => inf (s != t)
  | nan, _ => nan
  | _, nan => nan

def div [Rounding] : Double → Double → Double
  | fin a, fin b =>
      if b = 0 then (if a = 0 then nan else inf (decide (a < 0))) else Rounding.round (a / b)
  | fin _, inf _ => fin 0
  | inf s, fin b => inf (s != decide (b < 0))
  | inf _, inf _ => nan
  | nan, _ => nan
  | _, nan => nan

def lt : Double → Double → Bool
  | fin a, fin b => a < b
  | fin _, inf t => !t
  | inf s, fin _ => s
  | inf s, inf t => s && !t
  | nan, _ => false
  | _, nan => false

def le : Double → Double → Bool
  | fin a, fin b => a ≤ b
  | fin _, inf t => !t
  | inf s, fin _ => s
  | inf s, inf t => s || !t
  | nan, _ => false
  | _, nan => false

instance : Neg Double := ⟨neg⟩
instance [Rounding] : Add Double := ⟨add⟩
instance [Rounding] : Sub Double := ⟨fun a b => add a (neg b)⟩
instance [Rounding] : Mul Double := ⟨mul⟩
instance [Rounding] : Div Double := ⟨div⟩
instance : LT Double := ⟨fun a b => lt a b = true⟩
instance : LE Double := ⟨fun a b => le a b = true⟩
instance (a b : Double) : Decidable (a < b) := inferInstanceAs (Decidable (lt a b = true))
instance (a b : Double) : Decidable (a ≤ b) := inferInstanceAs (Decidable (le a b = true))

/-- The `double` for a number that was read. -/
def round [Rounding] : Double → Double
  | fin q => Rounding.round q
  | x => x

def abs : Double → Double
  | fin q => fin |q|
  | inf _ => inf false
  | nan => nan

def floor : Double → Double
  | fin q => fin ⌊q⌋
  | x => x

def isFinite : Double → Bool
  | fin _ => true
  | _ => false

-- the integer part a cast keeps
def trunc (q : ℚ) : Int := if 0 ≤ q then ⌊q⌋ else ⌈q⌉

/-- `static_cast<std::int32_t>`.  C++ leaves a value outside the range undefined; x86-64 stores the
least integer, and so does this function. -/
def toInt32 : Double → Int32
  | fin q =>
      if -2 ^ 31 ≤ trunc q ∧ trunc q < 2 ^ 31 then Int32.ofInt (trunc q) else Int32.minValue
  | _ => Int32.minValue

/-- The value is in the range of `static_cast<std::int32_t>`. -/
def ToInt32Defined : Double → Prop
  | fin q => -2 ^ 31 ≤ trunc q ∧ trunc q < 2 ^ 31
  | _ => False

/-! ## Arithmetic of finite numbers -/

section

variable [Rounding] (a b : ℚ)

theorem add_eq_round : fin a + fin b = Rounding.round (a + b) := rfl

theorem sub_eq_round : fin a - fin b = Rounding.round (a - b) := by
  change Rounding.round (a + -b) = Rounding.round (a - b)
  rw [sub_eq_add_neg]

theorem mul_eq_round : fin a * fin b = Rounding.round (a * b) := rfl

theorem div_eq_round {b : ℚ} (hb : b ≠ 0) : fin a / fin b = Rounding.round (a / b) := by
  change (if b = 0 then _ else Rounding.round (a / b)) = Rounding.round (a / b)
  rw [if_neg hb]

end

/-! ## Exact arithmetic is rational arithmetic -/

@[simp] theorem round_exact (x : Double) : x.round = x := by
  cases x <;> rfl

theorem ofNat_eq (n : Nat) [n.AtLeastTwo] : (OfNat.ofNat n : Double) = fin (OfNat.ofNat n) := rfl

theorem zero_eq : (0 : Double) = fin 0 := rfl

@[simp] theorem neg_fin (a : ℚ) : -fin a = fin (-a) := rfl

@[simp] theorem fin_add (a b : ℚ) : fin a + fin b = fin (a + b) := add_eq_round a b

@[simp] theorem fin_sub (a b : ℚ) : fin a - fin b = fin (a - b) := sub_eq_round a b

@[simp] theorem fin_mul (a b : ℚ) : fin a * fin b = fin (a * b) := mul_eq_round a b

theorem fin_div (a : ℚ) {b : ℚ} (hb : b ≠ 0) : fin a / fin b = fin (a / b) := div_eq_round a hb

@[simp] theorem fin_lt (a b : ℚ) : fin a < fin b ↔ a < b := decide_eq_true_iff

@[simp] theorem fin_le (a b : ℚ) : fin a ≤ fin b ↔ a ≤ b := decide_eq_true_iff

theorem not_fin_lt_zero {a : ℚ} (h : 0 ≤ a) : ¬ fin a < 0 := by
  rw [zero_eq, fin_lt]
  exact not_lt.mpr h

@[simp] theorem abs_fin (a : ℚ) : abs (fin a) = fin |a| := rfl

@[simp] theorem floor_fin (a : ℚ) : floor (fin a) = fin ⌊a⌋ := rfl

theorem isFinite_neg (x : Double) : (-x).isFinite = x.isFinite := by
  cases x <;> rfl

/-- A finite sum has finite parts. -/
theorem isFinite_of_add [Rounding] {x y : Double} (h : (x + y).isFinite = true) :
    x.isFinite = true := by
  cases x with
  | fin a => rfl
  | inf s =>
      cases y with
      | fin b => cases h
      | inf t =>
          change (if s = t then inf s else nan).isFinite = true at h
          split at h <;> cases h
      | nan => cases h
  | nan => cases h

theorem dblMax_eq_intCast : ∃ n : Int, dblMax = n := by
  refine ⟨(2 ^ 53 - 1) * 2 ^ 971, ?_⟩
  rw [dblMax, Int.cast_mul, Int.cast_sub, Int.cast_pow, Int.cast_pow, Int.cast_one, Int.cast_ofNat]

/-! ## Casts -/

theorem ToInt32Defined.isFinite {x : Double} (h : x.ToInt32Defined) : x.isFinite = true := by
  cases x with
  | fin q => rfl
  | inf neg => exact h.elim
  | nan => exact h.elim

theorem trunc_of_nonneg {q : ℚ} (h : 0 ≤ q) : trunc q = ⌊q⌋ := if_pos h

theorem toInt32_fin {q : ℚ} {n : Int} (hn : trunc q = n) (hlo : -2 ^ 31 ≤ n) (hhi : n < 2 ^ 31) :
    toInt32 (fin q) = Int32.ofInt n := by
  simp only [toInt32, hn]
  rw [if_pos ⟨hlo, hhi⟩]

theorem int32_toInt_ofInt {n : Int} (hlo : -2 ^ 31 ≤ n) (hhi : n < 2 ^ 31) :
    (Int32.ofInt n).toInt = n := by
  rw [Int32.toInt_ofInt, Int.bmod_def]
  have hs : (Int32.size : Int) = 2 ^ 32 := rfl
  rw [hs]
  omega

end Double

/-! ## Rounding to integers -/

def roundEven (q : ℚ) : Int :=
  -- nearest integer, ties to even
  if q - ⌊q⌋ < 1 / 2 ∨ (q - ⌊q⌋ = 1 / 2 ∧ ⌊q⌋ % 2 = 0) then ⌊q⌋ else ⌊q⌋ + 1

theorem roundEven_sub_le (q : ℚ) : |(roundEven q : ℚ) - q| ≤ 1 / 2 := by
  have hlo := Int.floor_le q
  have hhi := Int.lt_floor_add_one q
  unfold roundEven
  split
  next h =>
    have hr : q - ⌊q⌋ ≤ 1 / 2 := h.elim le_of_lt (fun he => le_of_eq he.1)
    rw [abs_le]
    constructor <;> linarith
  next h =>
    have hr : 1 / 2 ≤ q - ⌊q⌋ := not_lt.mp (fun hlt => h (Or.inl hlt))
    push_cast
    rw [abs_le]
    constructor <;> linarith

theorem roundEven_nonneg {q : ℚ} (h : 0 ≤ q) : 0 ≤ roundEven q := by
  have hf : 0 ≤ ⌊q⌋ := Int.floor_nonneg.mpr h
  unfold roundEven
  split <;> omega

theorem roundEven_le {q : ℚ} {n : Int} (h : q ≤ n) : roundEven q ≤ n := by
  have hlo := Int.floor_le q
  unfold roundEven
  split
  next =>
    have hle : (⌊q⌋ : ℚ) ≤ n := hlo.trans h
    exact_mod_cast hle
  next hr =>
    -- Rounding up, so the value is above its floor and the bound above the floor too.
    have hhalf : 1 / 2 ≤ q - ⌊q⌋ := not_lt.mp (fun hlt => hr (Or.inl hlt))
    have hlt : (⌊q⌋ : ℚ) < n := by linarith
    have hlt' : ⌊q⌋ < n := by exact_mod_cast hlt
    omega

theorem roundEven_intCast (n : Int) : roundEven n = n := by
  unfold roundEven
  rw [Int.floor_intCast, if_pos (Or.inl (by norm_num))]

/-- Below an even number the last tie is the first value that rounds up to it. -/
theorem roundEven_lt_iff {q : ℚ} {n : Int} (hn : n % 2 = 0) :
    roundEven q < n ↔ q < n - 1 / 2 := by
  have hlo := Int.floor_le q
  have hhi := Int.lt_floor_add_one q
  constructor
  · intro h
    by_contra hge
    have hround := roundEven_sub_le q
    have hq : (n : ℚ) - 1 / 2 ≤ q := not_lt.mp hge
    have hle : (roundEven q : ℚ) ≤ n - 1 := by exact_mod_cast Int.le_sub_one_of_lt h
    -- Rounded down by half at least, so it is the tie, and the even neighbour is above.
    have htie : q = n - 1 / 2 := by
      rw [abs_le] at hround
      linarith [hround.1]
    have hfloor : ⌊q⌋ = n - 1 := by
      rw [Int.floor_eq_iff, htie]
      push_cast
      constructor <;> linarith
    have hup : roundEven q = n := by
      unfold roundEven
      rw [hfloor, if_neg]
      · omega
      · rw [htie]
        push_cast
        rintro (hlt | ⟨-, heven⟩)
        · linarith
        · omega
    omega
  · intro h
    have hround := roundEven_sub_le q
    rw [abs_le] at hround
    have hlt : (roundEven q : ℚ) < n := by linarith [hround.2]
    exact_mod_cast hlt

end Cxx
