import VirtualFlightRadar.Cxx.Lines
import VirtualFlightRadar.Cxx.Number

/-!
# Reading from a `std::stringstream`

`>>` into a number skips white space and takes the bytes that can belong to a number in base ten; it
fails if those are no number as a whole, or one out of range.  What comes after them is not looked
at.  `std::getline` with a delimiter fails at the end of the text only, so a text that ends with the
delimiter has no empty item behind it.
-/

namespace Cxx

/-! ## Numbers -/

-- `std::int32_t` is read as a `long`, and its range is checked after that.
def extractInt32 (s : Bytes) : Option Int32 :=
  match stoi 10 s with
  | .ok n => some (Int32.ofInt n)
  | .error _ => none

-- A minus sign negates the unsigned number.
def extractUInt64 (s : Bytes) : Option UInt64 :=
  match stoul s with
  | .ok n => some n
  | .error _ => none

-- Whether the mark of an exponent comes next
def isMarked : Bytes → Bool
  | [] => false
  | m :: _ => toLower m == ch 'e'

/-- The conversion of a number to `double`: less than half a unit above the largest one it is rounded
to that, and from there on it is infinite, which is an error. -/
def toDouble (neg : Bool) (q : ℚ) : Option Double :=
  if Double.dblMax + 2 ^ 970 ≤ q then none
  else some (.fin (if neg then -min q Double.dblMax else min q Double.dblMax))

/-- A `double`.  Other than for `strtod` an `e` without digits is no end of the number but an error,
and there are neither hexadecimal numbers nor infinities. -/
def extractDouble (s : Bytes) : Option Double :=
  let s := s.dropWhile isSpace
  let (neg, k) := readSign s
  let (ip, fp, n) := readMantissa isDigit (s.drop k)
  let (e, len) := readExponent (ch 'e') ((s.drop k).drop n)
  if n = 0 then none
  else if len = 0 ∧ isMarked ((s.drop k).drop n) then none
  else toDouble neg (natVal 10 (ip ++ fp) / 10 ^ fp.length * 10 ^ e)

theorem toDouble_inRange {neg : Bool} {q : ℚ} {x : Double} (hq : 0 ≤ q)
    (h : toDouble neg q = some x) : x.InRange := by
  have hmax : 0 ≤ Double.dblMax := by
    unfold Double.dblMax
    positivity
  have habs : |min q Double.dblMax| ≤ Double.dblMax := by
    rw [abs_of_nonneg (le_min hq hmax)]
    exact min_le_right _ _
  unfold toDouble at h
  split at h
  · cases h
  · cases h
    intro r hr
    cases hr
    cases neg with
    | true =>
        simp only [if_true, abs_neg]
        exact habs
    | false => exact habs

/-- What is read is a `double` and not infinite. -/
theorem extractDouble_inRange {s : Bytes} {x : Double} (h : extractDouble s = some x) :
    x.InRange := by
  unfold extractDouble at h
  simp only at h
  split at h
  · cases h
  · split at h
    · cases h
    · exact toDouble_inRange (by positivity) h

/-! ## Items -/

/-- `while (std::getline(stream, item, d)) list.push_back(item)` -/
def getItems (d : UInt8) (s : Bytes) : List Bytes := (lines d s).map fun line => (getline d line).1

theorem getline_item {d : UInt8} {item : Bytes} (h : d ∉ item) (s : Bytes) :
    (getline d (item ++ d :: s)).1 = item ∧ (getline d item).1 = item := by
  have hall : ∀ b ∈ item, decide (b ≠ d) = true := by
    intro b hb
    rw [decide_eq_true_eq]
    rintro rfl
    exact h hb
  constructor
  · unfold getline
    rw [List.takeWhile_append_of_pos hall]
    simp
  · exact takeWhile_all hall

theorem getItems_cons {d : UInt8} {item : Bytes} (h : d ∉ item) (s : Bytes) :
    getItems d (item ++ d :: s) = item :: getItems d s := by
  unfold getItems
  rw [lines_line h, List.map_cons, (getline_item h []).1]

/-- The last item has no delimiter behind it. -/
theorem getItems_last {d : UInt8} {item : Bytes} (h : d ∉ item) (hne : item ≠ []) :
    getItems d item = [item] := by
  have hlines : lines d item = [item] := by
    induction item with
    | nil => exact absurd rfl hne
    | cons b item ih =>
        rw [List.mem_cons, not_or] at h
        rw [lines, if_neg fun heq => h.1 heq.symm]
        cases item with
        | nil => rfl
        | cons c item => rw [ih h.2 (List.cons_ne_nil c item)]
  unfold getItems
  rw [hlines, List.map_singleton, (getline_item h []).2]

end Cxx
