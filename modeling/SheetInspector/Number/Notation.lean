import SheetInspector.Number.Rounding
import SheetInspector.Text.Casing

set_option autoImplicit false

/-! # Reading numbers

The notation in which a number is written: an optional sign, then either one of the words
`inf`, `infinity` and `nan` in any case, or decimal digits with at most one point among them
or at either end, and an optional exponent. Nothing else may stand around or between them.
The result is the number nearest to the decimal.

Natural numbers of a limited size are read here as well, with an optional plus sign.
-/

namespace SheetInspector.Number

/-- The value of a run of decimal digits. -/
def digitsValue (s : List Char) : Nat :=
  s.foldl (fun n c => n * 10 + (c.toNat - '0'.toNat)) 0

/-- Splits off a sign; `true` stands for minus. -/
def splitSign : List Char → Bool × List Char
  | '-' :: rest => (true, rest)
  | '+' :: rest => (false, rest)
  | s => (false, s)

/-- Reads the exponent part of a decimal: nothing, or the letter e, an optional sign and at
least one digit, up to the end. -/
def exponentOf? : List Char → Option Int
  | [] => some 0
  | c :: rest =>
    if c = 'e' ∨ c = 'E' then
      let (negative, digits) := splitSign rest
      if digits.isEmpty || !digits.all Char.isDigit then none
      else some (if negative then -(digitsValue digits : Int) else digitsValue digits)
    else none

/-- Splits off the digits after a decimal point, if there is a point. -/
def splitFraction : List Char → List Char × List Char
  | '.' :: rest => (rest.takeWhile Char.isDigit, rest.dropWhile Char.isDigit)
  | s => ([], s)

/-- Reads an unsigned decimal. -/
def decimal? (negative : Bool) (s : List Char) : Option Number :=
  let whole := s.takeWhile Char.isDigit
  let (fraction, rest) := splitFraction (s.dropWhile Char.isDigit)
  if whole.isEmpty && fraction.isEmpty then none
  else
    (exponentOf? rest).map fun exponent =>
      ofDecimal negative (digitsValue (whole ++ fraction)) (exponent - fraction.length)

/-- Reads a number. -/
def parse? (s : List Char) : Option Number :=
  let (negative, rest) := splitSign s
  let word := rest.map Char.toLower
  if word = "inf".toList ∨ word = "infinity".toList then some (.infinite negative)
  else if word = "nan".toList then some .nan
  else decimal? negative rest

end SheetInspector.Number

namespace SheetInspector

/-- Reads a natural number of at most `bits` bits: decimal digits after an optional plus
sign. -/
def natOfBits? (bits : Nat) (s : List Char) : Option Nat :=
  let digits := match s with
    | '+' :: rest => rest
    | s => s
  if digits.isEmpty || !digits.all Char.isDigit then none
  else if Number.digitsValue digits < Nat.pow 2 bits then some (Number.digitsValue digits)
  else none

end SheetInspector
