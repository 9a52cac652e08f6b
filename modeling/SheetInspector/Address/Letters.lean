import SheetInspector.Fault

set_option autoImplicit false

/-! # Column letters

Columns are numbered from one and named by letters: A to Z, then AA, AB and so on. The name
is the number written in base 26 with the digits 1 to 26, so there is no digit for zero and
every number from one upwards has exactly one name. A sheet has at most 16384 columns, the
last of them XFD; a name beyond that is refused at the first letter that shows it.
-/

namespace SheetInspector

/-- The number of columns a sheet can have. -/
def maxColumns : Nat := 16384

/-- The number of rows a sheet can have. -/
def maxRows : Nat := 1048576

namespace Column

/-- The letter that stands for the digit `d + 1`. -/
def letter (d : Nat) : Char := Char.ofNat ('A'.toNat + d)

/-- The digit, from 1 to 26, that an ASCII letter of either case stands for. -/
def digit (c : Char) : Nat := c.toUpper.toNat - 'A'.toNat + 1

/-- The letters of a column number; column zero has none. -/
def lettersOf (n : Nat) : List Char :=
  if h : n = 0 then []
  else
    have : (n - 1) / 26 < n := by omega
    lettersOf ((n - 1) / 26) ++ [letter ((n - 1) % 26)]
termination_by n

/-- The letters of a column number, as a text. -/
def letters (n : Nat) : String := String.ofList (lettersOf n)

/-- Reads further letters after those whose number is `n`. -/
def numberFrom (n : Nat) : List Char → Except SheetFault Nat
  | [] => .ok n
  | c :: rest =>
    if c.isAlpha then
      let next := n * 26 + digit c
      if maxColumns < next then .error (.columnOutOfBounds next maxColumns)
      else numberFrom next rest
    else .error (.ofAddress (.badLetter c))

/-- The number of the column with the given letters. -/
def numberOf (s : List Char) : Except SheetFault Nat :=
  if s.isEmpty then .error (.ofAddress .emptyLetters) else numberFrom 0 s

end Column

end SheetInspector
