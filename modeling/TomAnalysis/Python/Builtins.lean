import TomAnalysis.Python.Value
import Mathlib.Data.List.Sort

/-! # `min`, `max`, `sorted`, indexing and `statistics`

`min` and `max` compare the decoded values with Python's operators, so they raise on values
that do not order. The `statistics` functions first turn every data point into an exact
number and raise `TypeError` at the first one that is not a number; they then compute exactly
and convert the result as CPython does, which raises `OverflowError` past the double range. The
scripts call `median`, `stdev` and `sorted` only after `statistics.mean` has accepted the same
data, so these three are modelled on numbers. The exact statistics on `ℚ` are what the
percentile and order facts are stated about. -/

namespace TomAnalysis

namespace Builtin

/-- The loop of `min` (`op = lt`) and `max` (`op = gt`): keep the current item, and replace it by
each later item `y` with `y op current`. -/
def extremum (op : Value.Cmp) : Value → List Value → Except PyError Value
  | m, [] => .ok m
  | m, y :: ys => do
    let b ← Value.compare op y m
    extremum op (if b then y else m) ys

/-- `min(xs)`. -/
def min : List Value → Except PyError Value
  | [] => .error (.emptySequence "min")
  | x :: xs => extremum .lt x xs

/-- `max(xs)`. -/
def max : List Value → Except PyError Value
  | [] => .error (.emptySequence "max")
  | x :: xs => extremum .gt x xs

/-- `sorted(xs)` on numbers: a stable sort, so the result is the one Python's sort returns. -/
def sorted (xs : List ℚ) : List ℚ :=
  xs.insertionSort (· ≤ ·)

/-- `xs[i]`. -/
def index {α : Type} (xs : List α) (i : Nat) : Except PyError α :=
  match xs[i]? with
  | some x => .ok x
  | Option.none => .error .index

end Builtin

namespace Statistics

/-- The conversion `statistics` makes of its data: each point as an exact number, and
`TypeError` at the first point that is not a number. -/
def numbers : List Value → Except PyError (List ℚ)
  | [] => .ok []
  | x :: xs => match x.num? with
    | some q => (numbers xs).map (q :: ·)
    | Option.none => .error (.notNumeric x.typeName)

/-- `statistics.mean` on numbers: the exact sum over the count. -/
def mean (xs : List ℚ) : ℚ :=
  xs.sum / xs.length

/-- `statistics.median` on numbers: the middle of the sorted data, or the mean of the two
middle values when the count is even. -/
def median (xs : List ℚ) : ℚ :=
  let s := Builtin.sorted xs
  let n := s.length
  if n % 2 = 1 then s.getD (n / 2) 0 else (s.getD (n / 2 - 1) 0 + s.getD (n / 2) 0) / 2

/-- The sample variance that `statistics.stdev` takes the square root of. -/
def variance (xs : List ℚ) : ℚ :=
  (xs.map fun x => (x - mean xs) ^ 2).sum / (xs.length - 1 : ℕ)

/-- `int(n * 0.95)`, with `0.95` exact. -/
def p95Index (n : Nat) : Nat :=
  n * 19 / 20

/-- `sorted(xs)[int(len(xs) * 0.95)]`: the nearest-rank 95th percentile. -/
def p95 (xs : List ℚ) : Except PyError ℚ :=
  Builtin.index (Builtin.sorted xs) (p95Index xs.length)

/-- `_convert(value, T)` of `statistics`: the exact result as an `int` when no data point is a
float and the result is whole, and otherwise `float(result)`. -/
def convert (anyFloat : Bool) (x : ℚ) : Except PyError Value :=
  if !anyFloat && x.den = 1 then .ok (.int x.num)
  else .float <$> Value.toFloat "integer division result too large for a float" x

/-- `statistics.mean(data)`. -/
def meanOf (data : List Value) : Except PyError Value := do
  let qs ← numbers data
  if qs.isEmpty then .error (.statistics "mean requires at least one data point")
  else convert (data.any Value.isFloat) (mean qs)

/-- `sorted(data)` on numbers: a stable sort by value. -/
def sortedValues (data : List Value) : List Value :=
  data.insertionSort fun a b => a.num?.getD 0 ≤ b.num?.getD 0

/-- `statistics.median(data)` on numbers: the middle point of the sorted data, or
`(data[i - 1] + data[i]) / 2` for the two middle ones. -/
def medianOf (data : List Value) : Except PyError Value :=
  let s := sortedValues data
  let n := s.length
  if n = 0 then .error (.statistics "no median for empty data")
  else if n % 2 = 1 then .ok (s.getD (n / 2) .null)
  else do
    let sum ← (s.getD (n / 2 - 1) .null).add (s.getD (n / 2) .null)
    sum.trueDiv (.int 2)

/-- `statistics.stdev(data)`: the correctly rounded square root of the sample variance, which
raises `OverflowError` past the double range. It returns the variance whose root is printed. -/
def stdevOf (data : List Value) : Except PyError ℚ := do
  let qs ← numbers data
  if qs.length < 2 then .error (.statistics "stdev requires at least two data points")
  else if variance qs < Value.floatLimit ^ 2 then .ok (variance qs)
  else .error (.overflow "integer division result too large for a float")

/-- `sorted(data)[int(len(data) * 0.95)]` on numbers. -/
def p95Of (data : List Value) : Except PyError Value :=
  Builtin.index (sortedValues data) (p95Index data.length)

/-- Every point of data that `numbers` accepts is a number, in order. -/
theorem numbers_eq_ok_iff {vs : List Value} {qs : List ℚ} :
    numbers vs = .ok qs ↔ vs.map Value.num? = qs.map some := by
  induction vs generalizing qs with
  | nil => cases qs <;> simp [numbers]
  | cons v vs ih =>
    cases qs with
    | nil => cases h : v.num? <;> cases hn : numbers vs <;> simp [numbers, h, hn, Except.map]
    | cons q qs =>
      rw [List.map_cons, List.map_cons, List.cons_eq_cons, ← ih]
      cases h : v.num? <;> cases hn : numbers vs <;> simp [numbers, h, hn, Except.map, eq_comm]

end Statistics

end TomAnalysis
