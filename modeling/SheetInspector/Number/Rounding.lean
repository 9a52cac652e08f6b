import SheetInspector.Number.Basic

set_option autoImplicit false

/-! # Rounding to a number

The number nearest to a fraction of two natural numbers, and the number nearest to a decimal.
Ties go to the even neighbour. All arithmetic is exact, on natural numbers.
-/

namespace SheetInspector.Number

/-- The natural number nearest to `n / d`; of two equally near ones, the even one. -/
def roundHalfEven (n d : Nat) : Nat :=
  let quotient := n / d
  let remainder := n % d
  if 2 * remainder < d then quotient
  else if d < 2 * remainder then quotient + 1
  else quotient + quotient % 2

/-- The two natural numbers whose quotient is `n / d` divided by `2 ^ e`. -/
def scaleDown (n d : Nat) (e : Int) : Nat × Nat :=
  if 0 ≤ e then (n, d * Nat.pow 2 e.toNat) else (n * Nat.pow 2 (-e).toNat, d)

/-- The power of two that leaves a mantissa of 53 bits of `n / d`, or the least one there is.

The two logarithms give a power that leaves 53 or 54 bits, so one comparison settles it. -/
def rangeOf (n d : Nat) : Int :=
  let estimate : Int := (n.log2 : Int) - (d.log2 : Int) - 53
  let (n', d') := scaleDown n d estimate
  max (-1074) (if n' / d' < 2 * fractionCount then estimate else estimate + 1)

/-- The ordinal of the magnitude nearest to `n / d`, for `d` not zero. It may lie past the
finite ordinals, which then stands for infinity. A mantissa rounded up to 54 bits carries
into the exponent by plain addition. -/
def nearestOrdinal (n d : Nat) : Nat :=
  if n = 0 then 0
  else
    let e := rangeOf n d
    let (n', d') := scaleDown n d e
    (e + 1074).toNat * fractionCount + roundHalfEven n' d'

/-- The number nearest to `n / d` with the given sign. -/
def ofRatio (negative : Bool) (n d : Nat) : Number :=
  ofOrdinal negative (nearestOrdinal n d)

/-- The number nearest to an integer. -/
def ofInt (i : Int) : Number := ofRatio (i < 0) i.natAbs 1

/-- How many decimal digits a natural number has; zero has one. -/
def digitCount (n : Nat) : Nat := (Nat.toDigits 10 n).length

/-- The number nearest to `digits * 10 ^ exponent` with the given sign.

A decimal of more than 310 places before the point is beyond all finite numbers and one that
starts more than 330 places after it is nearer to zero than to any other number, so no power
of ten is ever computed for those. -/
def ofDecimal (negative : Bool) (digits : Nat) (exponent : Int) : Number :=
  let places := exponent + digitCount digits
  if digits = 0 then ofOrdinal negative 0
  else if 310 < places then .infinite negative
  else if places < -330 then ofOrdinal negative 0
  else if 0 ≤ exponent then ofRatio negative (digits * Nat.pow 10 exponent.toNat) 1
  else ofRatio negative digits (Nat.pow 10 (-exponent).toNat)

end SheetInspector.Number
