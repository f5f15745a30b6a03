/-!
# Double-precision numbers

Finite numbers of 53 significant bits together with the two infinities and
not-a-number, held as exact integers so that every operation can be computed with
whole-number arithmetic.  The one rounding rule is `roundRatio`: the nearest
representable number, and of two equally near ones the one with an even significand.
-/

namespace AgentCohort

/-- A double-precision number: a signed multiple of a power of two, infinite, or not a
number. -/
inductive Double where
  /-- The number `significand * 2 ^ exponent` with a sign; zero has two signs. -/
  | finite (negative : Bool) (significand : Nat) (exponent : Int)
  /-- Beyond every finite number. -/
  | infinite (negative : Bool)
  /-- The result of an operation without a result. -/
  | nan
  deriving DecidableEq, Repr

namespace Double

/-- The exponent of the finest numbers. -/
def leastExponent : Int := -1074

/-- The greatest exponent of a finite number. -/
def greatestExponent : Int := 971

/-- Zero with a sign. -/
def zero (negative : Bool) : Double :=
  .finite negative 0 leastExponent

/-- The product of a number and a power of two as a numerator and a denominator. -/
def scaleByPowerOfTwo (numerator denominator : Nat) (exponent : Int) : Nat × Nat :=
  match exponent with
  | .ofNat k => (numerator * Nat.pow 2 k, denominator)
  | .negSucc k => (numerator, denominator * Nat.pow 2 (k + 1))

/-- The largest `k` with `2 ^ k ≤ numerator / denominator`, both positive. -/
def floorLog2 (numerator denominator : Nat) : Int :=
  let guess : Int := numerator.log2 - denominator.log2
  let (n, d) := scaleByPowerOfTwo numerator denominator (-guess)
  if d ≤ n then guess else guess - 1

/-- A quotient rounded to the nearest whole number, a half to the even one. -/
def roundHalfEven (numerator denominator : Nat) : Nat :=
  let quotient := numerator / denominator
  let twice := 2 * (numerator % denominator)
  if twice < denominator then quotient
  else if denominator < twice then quotient + 1
  else if quotient % 2 = 0 then quotient
  else quotient + 1

/-- The double nearest to `numerator / denominator`, with a sign. -/
def roundRatio (negative : Bool) (numerator denominator : Nat) : Double :=
  if numerator = 0 then
    zero negative
  else
    let exponent := max leastExponent (floorLog2 numerator denominator - 52)
    let (n, d) := scaleByPowerOfTwo numerator denominator (-exponent)
    let significand := roundHalfEven n d
    if significand = Nat.pow 2 53 then
      if exponent + 1 ≤ greatestExponent then
        .finite negative (Nat.pow 2 52) (exponent + 1)
      else
        .infinite negative
    else if exponent ≤ greatestExponent then
      .finite negative significand exponent
    else
      .infinite negative

/-- The double nearest to `digits * 10 ^ exponent`, with a sign.  Exponents that decide
the result at once, by far too large or too small, are not computed with. -/
def ofDecimal (negative : Bool) (digits : Nat) (exponent : Int) : Double :=
  if digits = 0 then
    zero negative
  else
    let magnitude : Int := (Nat.toDigits 10 digits).length + exponent
    if 400 < magnitude then
      .infinite negative
    else if magnitude < -400 then
      zero negative
    else
      match exponent with
      | .ofNat k => roundRatio negative (digits * Nat.pow 10 k) 1
      | .negSucc k => roundRatio negative digits (Nat.pow 10 (k + 1))

/-- The double nearest to a natural number. -/
def ofNat (n : Nat) : Double :=
  roundRatio false n 1

/-- The same number with the opposite sign. -/
def neg : Double → Double
  | .finite negative significand exponent => .finite (!negative) significand exponent
  | .infinite negative => .infinite (!negative)
  | .nan => .nan

/-- The magnitude of a finite number as a numerator and a denominator. -/
def ratio (significand : Nat) (exponent : Int) : Nat × Nat :=
  scaleByPowerOfTwo significand 1 exponent

/-- The rounded product of two non-negative finite numbers; other arguments give
not-a-number, for no text leads to them. -/
def mulMagnitude : Double → Double → Double
  | .finite _ m e, .finite _ m' e' =>
    let (n, d) := ratio m e
    let (n', d') := ratio m' e'
    roundRatio false (n * n') (d * d')
  | _, _ => .nan

/-- The rounded quotient of two finite numbers that are non-negative and positive;
other arguments give not-a-number, for no text leads to them. -/
def divMagnitude : Double → Double → Double
  | .finite _ m e, .finite _ m' e' =>
    let (n, d) := ratio m e
    let (n', d') := ratio m' e'
    roundRatio false (n * d') (d * n')
  | _, _ => .nan

/-- Whether the number is zero, of either sign. -/
def isZero : Double → Bool
  | .finite _ significand _ => significand = 0
  | _ => false

/-- The magnitude rounded to the nearest whole number, a half away from zero. -/
def roundMagnitude (significand : Nat) (exponent : Int) : Nat :=
  let (n, d) := ratio significand exponent
  (2 * n + d) / (2 * d)

/-- The nearest whole number, a half away from zero, moved into `0 … bound`;
not-a-number is zero. -/
def toNatSaturating (bound : Nat) : Double → Nat
  | .finite negative significand exponent =>
    if negative then 0 else min bound (roundMagnitude significand exponent)
  | .infinite negative => if negative then 0 else bound
  | .nan => 0

end Double
end AgentCohort
