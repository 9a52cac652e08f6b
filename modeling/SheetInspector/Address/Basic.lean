import SheetInspector.Address.Letters
import SheetInspector.Number.Notation
import SheetInspector.Text.Blank

set_option autoImplicit false

/-! # Cell addresses

An address is a row and a column, both counted from one. It is written with the column's
letters before the row's digits, as in `B7`; a dollar sign may stand before either part and
is ignored, and so are blanks around the whole. Addresses are ordered by row, then by column.
-/

namespace SheetInspector

/-- The position of a cell: its row and its column, both counted from one. -/
structure Address where
  row : Nat
  column : Nat
  deriving DecidableEq, Repr

namespace Address

/-- The order of addresses: by row, and within a row by column. -/
def compare (a b : Address) : Ordering :=
  (Ord.compare a.row b.row).then (Ord.compare a.column b.column)

theorem compare_eq_lt {a b : Address} :
    compare a b = .lt ↔ a.row < b.row ∨ a.row = b.row ∧ a.column < b.column := by
  unfold compare
  rw [Ordering.then_eq_lt, Nat.compare_eq_lt, Nat.compare_eq_eq, Nat.compare_eq_lt]

theorem compare_eq_gt {a b : Address} :
    compare a b = .gt ↔ b.row < a.row ∨ a.row = b.row ∧ b.column < a.column := by
  unfold compare
  rw [Ordering.then_eq_gt, Nat.compare_eq_gt, Nat.compare_eq_eq, Nat.compare_eq_gt]

theorem compare_eq_eq {a b : Address} : compare a b = .eq ↔ a = b := by
  unfold compare
  rw [Ordering.then_eq_eq, Nat.compare_eq_eq, Nat.compare_eq_eq]
  cases a; cases b; simp

/-- The written form of an address, without dollar signs. -/
def text (a : Address) : String := Column.letters a.column ++ toString a.row

/-- Skips one dollar sign. -/
def skipDollar : List Char → List Char
  | '$' :: rest => rest
  | s => s

/-- Reads the row part of the address `whole`. -/
def rowOf (whole : String) (s : List Char) : Except SheetFault Nat :=
  if s.isEmpty then .error (.ofAddress (.noRow whole))
  else
    match natOfBits? 32 s with
    | none => .error (.ofAddress (.badRow whole))
    | some 0 => .error (.ofAddress (.zeroRow whole))
    | some row => if maxRows < row then .error (.rowOutOfBounds row maxRows) else .ok row

/-- Reads an address. The faults are looked for from left to right: letters first, then the
column they name, then the row. -/
def parse (s : String) : Except SheetFault Address := do
  let trimmed := Text.trim s.toList
  let whole := String.ofList trimmed
  if trimmed.isEmpty then throw (.ofAddress .empty)
  let rest := skipDollar trimmed
  let letters := rest.takeWhile Char.isAlpha
  if letters.isEmpty then throw (.ofAddress (.noLetters whole))
  let column ← Column.numberOf letters
  let row ← rowOf whole (skipDollar (rest.dropWhile Char.isAlpha))
  return { row, column }

end Address

/-- The rows and columns of a rectangle that starts at the first cell. -/
structure Extent where
  rows : Nat
  columns : Nat
  deriving DecidableEq, Repr

namespace Extent

/-- The empty rectangle. -/
def empty : Extent := ⟨0, 0⟩

/-- The smallest rectangle around this one and an address. -/
def cover (e : Extent) (a : Address) : Extent := ⟨max e.rows a.row, max e.columns a.column⟩

/-- Whether the rectangle holds no cell. -/
def isEmpty (e : Extent) : Bool := e.rows == 0 || e.columns == 0

/-- The largest rectangle a sheet can have. -/
def largest : Extent := ⟨maxRows, maxColumns⟩

/-- Succeeds when an address lies in the rectangle; the row is looked at first. -/
def check (e : Extent) (a : Address) : Except SheetFault Unit :=
  if a.row = 0 ∨ e.rows < a.row then .error (.rowOutOfBounds a.row e.rows)
  else if a.column = 0 ∨ e.columns < a.column then .error (.columnOutOfBounds a.column e.columns)
  else .ok ()

end Extent

end SheetInspector
