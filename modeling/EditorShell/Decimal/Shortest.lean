import EditorShell.Decimal.Digits

/-!
# The shortest decimal of a double

A positive double is `significand * 2 ^ exponent`.  The reals that round to it form an interval,
which contains its ends when the significand is even.  The shortest decimal of the double is the
one with the fewest digits in this interval, and among those the one nearest to the double; of two
equally near ones it is the one with the even last digit.

The search goes through the numbers of digits.  For each it looks at the two neighbours of the
double among the multiples of one power of ten, all in whole-number arithmetic.  The neighbour above
can be a power of ten itself, so zeros at the end are moved into the power; that keeps the value.
-/

namespace EditorShell.Decimal

/-- A positive rational number. -/
structure Ratio where
  num : Nat
  den : Nat

namespace Ratio

/-- The number times a power of two. -/
def scaleTwo (value : Ratio) (exponent : Int) : Ratio :=
  if 0 ≤ exponent then ⟨value.num * Nat.pow 2 exponent.toNat, value.den⟩
  else ⟨value.num, value.den * Nat.pow 2 (-exponent).toNat⟩

/-- The number times a power of ten. -/
def scaleTen (value : Ratio) (exponent : Int) : Ratio :=
  if 0 ≤ exponent then ⟨value.num * Nat.pow 10 exponent.toNat, value.den⟩
  else ⟨value.num, value.den * Nat.pow 10 (-exponent).toNat⟩

/-- The greatest whole number that is not above. -/
def floor (value : Ratio) : Nat := value.num / value.den

/-- Whether the first number is less than the second one. -/
def isLess (first second : Ratio) : Bool := first.num * second.den < second.num * first.den

end Ratio

/-- The reals that round to one double. -/
structure RoundingInterval where
  value : Ratio
  low : Ratio
  high : Ratio
  /-- Whether the ends round to the double as well. -/
  closed : Bool

namespace RoundingInterval

/-- Whether a number rounds to the double of the interval. -/
def contains (interval : RoundingInterval) (x : Ratio) : Bool :=
  if interval.closed then !x.isLess interval.low && !interval.high.isLess x
  else interval.low.isLess x && x.isLess interval.high

/-- The interval of `significand * 2 ^ exponent`; `narrow` says that the next smaller double is only
half as far away as the next larger one. -/
def ofBinary (significand : Nat) (exponent : Int) (narrow : Bool) : RoundingInterval where
  value := Ratio.scaleTwo ⟨4 * significand, 1⟩ (exponent - 2)
  low := Ratio.scaleTwo ⟨4 * significand - (if narrow then 1 else 2), 1⟩ (exponent - 2)
  high := Ratio.scaleTwo ⟨4 * significand + 2, 1⟩ (exponent - 2)
  closed := significand % 2 == 0

/-- The multiple of `10 ^ grid` in the interval that is nearest to the double, as the factor. -/
def onGrid? (interval : RoundingInterval) (grid : Int) : Option Nat :=
  let scaled := interval.value.scaleTen (-grid)
  let below := scaled.floor
  let above := below + 1
  let belowFits := below ≠ 0 && interval.contains (Ratio.scaleTen ⟨below, 1⟩ grid)
  let aboveFits := interval.contains (Ratio.scaleTen ⟨above, 1⟩ grid)
  if belowFits && aboveFits then
    let twiceRest := 2 * (scaled.num - below * scaled.den)
    if twiceRest < scaled.den || (twiceRest == scaled.den && below % 2 == 0) then some below
    else some above
  else if belowFits then some below
  else if aboveFits then some above
  else none

/-- Tries the grid of each number of digits, coarsest first. -/
def shortestFrom (interval : RoundingInterval) (grid : Int) : Nat → Nat × Int
  | 0 => (interval.value.scaleTen (-grid) |>.floor, grid)
  | more + 1 =>
    match interval.onGrid? grid with
    | some factor => (factor, grid)
    | none => shortestFrom interval (grid - 1) more

end RoundingInterval

/-- The exponent of the leading decimal digit of a number that is at least one. -/
def wholeMagnitude (value : Ratio) : Int := (digits value.floor).length - 1

/-- The exponent of the leading decimal digit of a number below one, from the first power of ten
that is tried; the last argument bounds the search. -/
def fractionMagnitude (value : Ratio) (power : Nat) : Nat → Int
  | 0 => -(power : Int)
  | more + 1 =>
    if value.num * Nat.pow 10 power < value.den then fractionMagnitude value (power + 1) more
    else -(power : Int)

/-- The exponent of the leading decimal digit of a positive number. -/
def magnitude (value : Ratio) : Int :=
  if value.den ≤ value.num then wholeMagnitude value else fractionMagnitude value 1 330

/-- Moves the zeros at the end of a decimal into its power of ten. -/
def trimZeros (factor : Nat) (power : Int) : Nat × Int :=
  if factor ≠ 0 ∧ factor % 10 = 0 then trimZeros (factor / 10) (power + 1) else (factor, power)
termination_by factor
decreasing_by omega

/-- The shortest decimal of a positive double, as a factor and the power of ten it stands with. -/
def shortest (significand : Nat) (exponent : Int) (narrow : Bool) : Nat × Int :=
  let interval := RoundingInterval.ofBinary significand exponent narrow
  let (factor, power) := interval.shortestFrom (magnitude interval.value) 17
  trimZeros factor power

end EditorShell.Decimal
