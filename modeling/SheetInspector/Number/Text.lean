import SheetInspector.Number.Shortest

set_option autoImplicit false

/-! # Writing numbers

Two written forms of a number, both with the fewest digits that read back as it. The plain
form is what a sheet shows: never an exponent, and no sign on zero. The other form is that of
a JSON document, where a whole number ends in `.0`, very large and very small numbers have an
exponent, and what is not finite has no form at all.
-/

namespace SheetInspector

namespace Decimal

/-- So many zeros. -/
def zeros (n : Nat) : List Char := List.replicate n '0'

/-- A decimal with all its places written out. -/
def plain (d : Decimal) : List Char :=
  let count : Int := d.digits.length
  if d.point ≤ 0 then '0' :: '.' :: (zeros (-d.point).toNat ++ d.digits)
  else if count ≤ d.point then d.digits ++ zeros (d.point - count).toNat
  else d.digits.take d.point.toNat ++ '.' :: d.digits.drop d.point.toNat

/-- A decimal with one digit before the point and an exponent that always has a sign. -/
def scientific (d : Decimal) : List Char :=
  let e := d.point - 1
  let sign := if e < 0 then '-' else '+'
  let mantissa := match d.digits with
    | first :: second :: rest => first :: '.' :: second :: rest
    | digits => digits
  mantissa ++ 'e' :: sign :: Nat.toDigits 10 e.natAbs

end Decimal

namespace Number

/-- The sign of a written number. -/
def signText (negative : Bool) : List Char := if negative then ['-'] else []

/-- The plain form: no exponent, and zero without a sign. Of two equally near decimals the
larger one is written. -/
def text : Number → List Char
  | .nan => "NaN".toList
  | .infinite negative => signText negative ++ "inf".toList
  | .finite negative ordinal =>
    if ordinal.val = 0 then ['0']
    else signText negative ++ (shortest .up ordinal.val).plain

/-- The form of a magnitude in a JSON document: places written out while the first digit
stands at most sixteen places before the point and at most five after it, with `.0` after a
whole number, and with an exponent otherwise. Of two equally near decimals the even one is
written. -/
def magnitudeJson (ordinal : Nat) : List Char :=
  if ordinal = 0 then "0.0".toList
  else
    let d := shortest .even ordinal
    if -4 ≤ d.point ∧ d.point ≤ 16 then
      if (d.digits.length : Int) ≤ d.point then d.plain ++ ".0".toList else d.plain
    else d.scientific

/-- The form in a JSON document, where only finite numbers have one. -/
def json? : Number → Option (List Char)
  | .finite negative ordinal => some (signText negative ++ magnitudeJson ordinal.val)
  | _ => none

end Number

end SheetInspector
