/-
A double is a word of 64 bits.  Every question about it is answered from the word by exact integer
arithmetic: a finite double is `± significand * 2 ^ scale`, and a rational number is rounded to the
nearest double, ties to the even significand.

Main definitions:

* `Binary64.significand`, `Binary64.scale` — the exact value of a finite double;
* `Binary64.roundRatio` — the double nearest to a quotient of natural numbers;
* `Binary64.truncated`, `Binary64.isIntegral` — the integer part of a double;
* `Binary64.equals` — comparison as numbers: no NaN equals itself and both zeros are equal.
-/

import DynamicLinking.Number.Range

set_option autoImplicit false

namespace DynamicLinking

/-- The nearest integer to `n / d`, a half going to the even neighbour. -/
def roundHalfEven (n d : Nat) : Nat :=
  let q := n / d
  let r := n % d
  if 2 * r < d then q else if d < 2 * r then q + 1 else q + q % 2

/-- A double-precision number, by its bits: the sign, eleven bits of exponent and 52 bits of
fraction. -/
structure Binary64 where
  bits : UInt64
  deriving DecidableEq, Repr

namespace Binary64

/-- Is the sign bit set? -/
def isNegative (x : Binary64) : Bool :=
  twoPow 63 ≤ x.bits.toNat

/-- The eleven bits of exponent. -/
def exponentField (x : Binary64) : Nat :=
  x.bits.toNat / twoPow 52 % twoPow 11

/-- The 52 bits of fraction. -/
def fraction (x : Binary64) : Nat :=
  x.bits.toNat % twoPow 52

/-- Is the word a NaN? -/
def isNaN (x : Binary64) : Bool :=
  x.exponentField == 2047 && x.fraction != 0

/-- Is the word one of the two infinities? -/
def isInfinite (x : Binary64) : Bool :=
  x.exponentField == 2047 && x.fraction == 0

/-- Is the word a finite number? -/
def isFinite (x : Binary64) : Bool :=
  x.exponentField != 2047

/-- The integer significand of a finite double. -/
def significand (x : Binary64) : Nat :=
  if x.exponentField = 0 then x.fraction else twoPow 52 + x.fraction

/-- The power of two that a finite double's significand counts. -/
def scale (x : Binary64) : Int :=
  if x.exponentField = 0 then -1074 else (x.exponentField : Int) - 1075

/-- Is the word one of the two zeros? -/
def isZero (x : Binary64) : Bool :=
  x.exponentField == 0 && x.fraction == 0

/-- The double with a sign and a word of 63 bits below it. -/
def ofMagnitude (negative : Bool) (magnitude : Nat) : Binary64 :=
  ⟨UInt64.ofNat ((if negative then twoPow 63 else 0) + magnitude)⟩

/-- The word below the sign of an infinity. -/
def infinityMagnitude : Nat := 2047 * twoPow 52

/-- The infinity of a sign. -/
def infinity (negative : Bool) : Binary64 :=
  ofMagnitude negative infinityMagnitude

/-- The zero of a sign. -/
def zero (negative : Bool) : Binary64 :=
  ofMagnitude negative 0

/-- A NaN. -/
def nan : Binary64 :=
  ofMagnitude false (infinityMagnitude + twoPow 51)

/-- `num / den` counted in units of `2 ^ q`, as a quotient of natural numbers. -/
def inUnitsOf (q : Int) (num den : Nat) : Nat × Nat :=
  (num * twoPow (-q).toNat, den * twoPow q.toNat)

/-- The scale of the double nearest to the positive number `num / den`: the least one, not below
that of the subnormal numbers, that leaves the integer part of the significand below `2 ^ 53`. -/
def scaleOfRatio (num den : Nat) : Int :=
  let q := max ((num.log2 : Int) - den.log2 - 53) (-1074)
  let u := inUnitsOf q num den
  if u.1 / u.2 < twoPow 53 then q else q + 1

/-- The double of the given sign nearest to `num / den`, ties to even; what is too large for a
finite double is infinite.  The significand and the exponent overlap in one bit, so adding them
also carries a significand that was rounded up to `2 ^ 53`. -/
def roundRatio (negative : Bool) (num den : Nat) : Binary64 :=
  if num = 0 then zero negative
  else
    let q := scaleOfRatio num den
    let u := inUnitsOf q num den
    let magnitude := (q + 1074).toNat * twoPow 52 + roundHalfEven u.1 u.2
    ofMagnitude negative (min magnitude infinityMagnitude)

/-- The double nearest to an integer. -/
def ofInt (i : Int) : Binary64 :=
  roundRatio (i < 0) i.natAbs 1

/-- The double nearest to `digits * 10 ^ exponent`.  Numbers that are far beyond the range of
doubles are answered without computing the power: a number of `k + 1` binary digits is at least
`10 ^ (3 * k / 10)` and below `10 ^ (k / 3 + 2)`. -/
def ofDecimal (negative : Bool) (digits : Nat) (exponent : Int) : Binary64 :=
  let k := (digits.log2 : Int)
  if digits = 0 then zero negative
  else if 400 < 3 * k / 10 + exponent then infinity negative
  else if k / 3 + 2 + exponent < -400 then zero negative
  else roundRatio negative (digits * tenPow exponent.toNat) (tenPow (-exponent).toNat)

/-- The integer part of the absolute value of a finite double. -/
def truncatedNat (x : Binary64) : Nat :=
  x.significand * twoPow x.scale.toNat / twoPow (-x.scale).toNat

/-- A finite double without its fractional part. -/
def truncated (x : Binary64) : Int :=
  if x.isNegative then -x.truncatedNat else x.truncatedNat

/-- Is a finite double an integer? -/
def isIntegral (x : Binary64) : Bool :=
  x.significand * twoPow x.scale.toNat % twoPow (-x.scale).toNat == 0

/-- Equality of numbers: a NaN equals nothing and the two zeros are equal. -/
def equals (x y : Binary64) : Bool :=
  !x.isNaN && !y.isNaN && (x == y || (x.isZero && y.isZero))

/-- The wrapped 32-bit integer of a double: its integer part modulo `2 ^ 32`, and zero for what is
not finite. -/
def toInt32 (x : Binary64) : Int32 :=
  if x.isFinite then Int32.ofInt x.truncated else 0

/-- The 64-bit integer of a double: its integer part, held at the ends of the range, and zero for
a NaN. -/
def toInt64 (x : Binary64) : Int64 :=
  if x.isNaN then 0
  else if x.isInfinite then (if x.isNegative then Int64.minValue else Int64.maxValue)
  else Int64.ofInt (clampInt64 x.truncated)

end Binary64

end DynamicLinking
