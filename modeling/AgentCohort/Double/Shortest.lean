import AgentCohort.Double

/-!
# Shortest decimal digits

The fewest decimal digits that read back as a given double.  For one digit, two
digits and so on, the two neighbours of the number on that decimal grid are tested
against the interval of all numbers that round to it; seventeen digits always do.
-/

namespace AgentCohort
namespace Double

/-- The interval of the numbers that round to a double, as multiples of one common
unit, with the double itself. -/
structure RoundingInterval where
  /-- Lower end, in units. -/
  low : Nat
  /-- The double itself, in units. -/
  middle : Nat
  /-- Upper end, in units. -/
  high : Nat
  /-- Whether the ends round to the double, too. -/
  closed : Bool
  /-- The unit as a numerator … -/
  unitNumerator : Nat
  /-- … and a denominator. -/
  unitDenominator : Nat

/-- The interval around `significand * 2 ^ exponent`.  Below a power of two the grid of
doubles is twice as fine. -/
def roundingInterval (significand : Nat) (exponent : Int) : RoundingInterval :=
  let below := if significand = Nat.pow 2 52 ∧ leastExponent < exponent then 1 else 2
  let (n, d) := scaleByPowerOfTwo 1 1 (exponent - 2)
  { low := 4 * significand - below
    middle := 4 * significand
    high := 4 * significand + 2
    closed := significand % 2 = 0
    unitNumerator := n
    unitDenominator := d }

/-- Decimal digits and the power of ten that they are multiplied by. -/
structure Digits where
  /-- The digits, read as one number. -/
  number : Nat
  /-- The power of ten of the last digit. -/
  exponent : Int
  deriving DecidableEq, Repr

/-- The largest `k` with `10 ^ k ≤ numerator / denominator`, both positive. -/
def floorLog10 (numerator denominator : Nat) : Int :=
  if denominator ≤ numerator then
    (Nat.toDigits 10 (numerator / denominator)).length - 1
  else
    let places := (Nat.toDigits 10 (denominator / numerator)).length
    if denominator ≤ Nat.pow 10 (places - 1) * numerator then -((places - 1 : Nat) : Int)
    else -(places : Int)

/-- The better of the two neighbours of the double on the grid of multiples of
`10 ^ exponent`, if one of them lies in the interval.  Equally near ones: the even. -/
def nearestOnGrid (interval : RoundingInterval) (exponent : Int) : Option Nat :=
  let unitN := interval.unitNumerator
  let unitD := interval.unitDenominator
  -- `number * step` and `units * scale` are compared
  let (step, scale) : Nat × Nat :=
    match exponent with
    | .ofNat k => (Nat.pow 10 k * unitD, unitN)
    | .negSucc k => (unitD, unitN * Nat.pow 10 (k + 1))
  let lower := interval.middle * scale / step
  let inside (number : Nat) : Bool :=
    if interval.closed then
      interval.low * scale ≤ number * step && number * step ≤ interval.high * scale
    else
      interval.low * scale < number * step && number * step < interval.high * scale
  let distanceBelow := interval.middle * scale - lower * step
  let distanceAbove := (lower + 1) * step - interval.middle * scale
  let preferLower :=
    distanceBelow < distanceAbove || (distanceBelow = distanceAbove && lower % 2 = 0)
  match inside lower, inside (lower + 1) with
  | true, true => some (if preferLower then lower else lower + 1)
  | true, false => some lower
  | false, true => some (lower + 1)
  | false, false => none

/-- Drops trailing zeros, at most so many. -/
def dropTrailingZeros : Nat → Digits → Digits
  | 0, digits => digits
  | fuel + 1, digits =>
    if digits.number % 10 = 0 ∧ digits.number ≠ 0 then
      dropTrailingZeros fuel ⟨digits.number / 10, digits.exponent + 1⟩
    else
      digits

/-- The shortest digits of a positive finite double. -/
def shortestDigits (significand : Nat) (exponent : Int) : Digits :=
  let interval := roundingInterval significand exponent
  let (n, d) := ratio significand exponent
  let top := floorLog10 n d
  let attempt (count : Nat) : Option Digits :=
    let place := top - (count : Int)
    (nearestOnGrid interval place).map fun number => ⟨number, place⟩
  match (List.range 17).findSome? attempt with
  | some digits => dropTrailingZeros 20 digits
  | none => ⟨0, 0⟩

end Double
end AgentCohort
