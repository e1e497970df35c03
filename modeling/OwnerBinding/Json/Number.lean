import OwnerBinding.Json.Basic

/-!
# The integer that a number stands for

A decimal is taken as the nearest binary64 value, with ties to the even significand, before anything
is asked of it. `Number.toInt?` gives the integer that this value equals, if it equals one: `1.0`
and `0.99999999999999999999` both stand for one, `0.5` and `1e400` stand for no integer.

The rounding is exact arithmetic on natural numbers. A positive quotient is scaled by a power of two
so that its integer part has 53 binary digits, or fewer at the least exponent, and is rounded there.
-/

namespace OwnerBinding

namespace Json

/-- The integer nearest to `numerator / denominator`, the even one of two equally near. -/
def roundDiv (numerator denominator : Nat) : Nat :=
  let quotient := numerator / denominator
  let twice := 2 * (numerator % denominator)
  if twice < denominator then quotient
  else if denominator < twice then quotient + 1
  else if quotient % 2 = 0 then quotient else quotient + 1

/-- The quotient `numerator / denominator` divided by `2 ^ exponent`, as a quotient. -/
def scaleDown (numerator denominator : Nat) (exponent : Int) : Nat × Nat :=
  if 0 ≤ exponent then (numerator, denominator * Nat.pow 2 exponent.toNat)
  else (numerator * Nat.pow 2 (-exponent).toNat, denominator)

/-- The exponent of the last binary digit of the binary64 value nearest to a positive quotient. -/
def binaryExponent (numerator denominator : Nat) : Int :=
  let guess : Int := (numerator.log2 : Int) - (denominator.log2 : Int) - 52
  let scaled := scaleDown numerator denominator guess
  max (-1074) (if scaled.1 < Nat.pow 2 52 * scaled.2 then guess - 1 else guess)

/-- The integer equal to the binary64 value nearest to a positive quotient. There is none when the
value has a fraction, or when the quotient rounds beyond the largest finite value. -/
def nearestInteger? (numerator denominator : Nat) : Option Nat :=
  let exponent := binaryExponent numerator denominator
  let scaled := scaleDown numerator denominator exponent
  let significand := roundDiv scaled.1 scaled.2
  if 0 ≤ exponent then
    let value := significand * Nat.pow 2 exponent.toNat
    if value < Nat.pow 2 1024 then some value else none
  else
    let unit := Nat.pow 2 (-exponent).toNat
    if significand % unit = 0 then some (significand / unit) else none

/-- The size of a decimal, given its significand without sign, as the integer that it stands for.
Sizes far outside the binary64 range are decided by their count of digits. -/
def decimalInteger? (significand : Nat) (exponent : Int) : Option Nat :=
  let digits : Int := (Nat.toDigits 10 significand).length
  if significand = 0 then some 0
  else if 310 < digits + exponent then none
  else if digits + exponent < -330 then some 0
  else if 0 ≤ exponent then nearestInteger? (significand * Nat.pow 10 exponent.toNat) 1
  else nearestInteger? significand (Nat.pow 10 (-exponent).toNat)

/-- The integer that a number stands for, if it stands for one. -/
def Number.toInt? : Number → Option Int
  | .whole value => some value
  | .decimal significand exponent =>
      (decimalInteger? significand.natAbs exponent).map fun size =>
        if significand < 0 then -(size : Int) else size
  | .notANumber => none
  | .infinite _ => none

end Json

end OwnerBinding
