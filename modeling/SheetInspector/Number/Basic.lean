set_option autoImplicit false

/-! # Numbers

A spreadsheet number is a double: a 64-bit binary floating-point number. Here it is kept as
what it denotes, not as a machine word. The finite numbers of one sign are counted from zero
upwards, so that a larger ordinal is a larger magnitude and the successor of an ordinal is
the next representable magnitude; the two infinities follow the largest finite number; and
there is a single NaN, since nothing a sheet shows depends on its payload.

The ordinal of a finite number is its word without the sign bit: 52 bits of fraction below
11 bits of exponent. Magnitude `ordinal` stands for `mantissa ordinal * 2 ^ exponent ordinal`.
-/

namespace SheetInspector

/-- The number of finite magnitudes, and the ordinal of infinity. -/
def Number.ordinalLimit : Nat := 0x7FF0000000000000

/-- A double: not a number, an infinity, or a finite number given by its sign and the
ordinal of its magnitude. -/
inductive Number where
  | nan
  | infinite (negative : Bool)
  | finite (negative : Bool) (ordinal : Fin Number.ordinalLimit)
  deriving DecidableEq, Repr

namespace Number

/-- The number of fractions of 52 bits, and so of the magnitudes that share an exponent. -/
def fractionCount : Nat := Nat.pow 2 52

/-- The weight of the sign bit in a word. -/
def signWeight : Nat := Nat.pow 2 63

/-- The whole number whose multiple by a power of two is the magnitude with this ordinal. -/
def mantissa (ordinal : Nat) : Nat :=
  if ordinal < fractionCount then ordinal else ordinal % fractionCount + fractionCount

/-- The power of two that multiplies the mantissa. -/
def exponent (ordinal : Nat) : Int :=
  if ordinal < 2 * fractionCount then -1074 else (ordinal / fractionCount : Nat) - 1075

/-- The number with the given sign whose magnitude has the given ordinal; an ordinal past
the finite ones is infinity. -/
def ofOrdinal (negative : Bool) (ordinal : Nat) : Number :=
  if h : ordinal < ordinalLimit then .finite negative ⟨ordinal, h⟩ else .infinite negative

/-- The number zero, with a plus sign. -/
def zero : Number := ofOrdinal false 0

/-- Whether a number is neither infinite nor NaN. -/
def isFinite : Number → Bool
  | .finite _ _ => true
  | _ => false

/-- Whether a number is zero, of either sign. -/
def isZero : Number → Bool
  | .finite _ ordinal => ordinal.val == 0
  | _ => false

/-- The number a 64-bit word stands for. -/
def ofBits (word : Nat) : Number :=
  let negative := word / signWeight % 2 == 1
  let magnitude := word % signWeight
  if magnitude ≤ ordinalLimit then ofOrdinal negative magnitude else .nan

/-- The 64-bit word of a number other than NaN. -/
def toBits? : Number → Option Nat
  | .nan => none
  | .infinite negative => some (ordinalLimit + if negative then signWeight else 0)
  | .finite negative ordinal => some (ordinal.val + if negative then signWeight else 0)

/-- Equality of numbers as values: NaN differs from everything, itself included, and the
two zeros are equal. -/
def agrees (a b : Number) : Bool :=
  match a, b with
  | .nan, _ => false
  | _, .nan => false
  | a, b => a == b || (a.isZero && b.isZero)

theorem agrees_self_iff (a : Number) : a.agrees a = true ↔ a ≠ .nan := by
  cases a <;> simp [agrees]

theorem agrees_comm (a b : Number) : a.agrees b = b.agrees a := by
  cases a <;> cases b <;> simp [agrees, isZero, Bool.beq_comm, Bool.and_comm]

end Number

end SheetInspector
