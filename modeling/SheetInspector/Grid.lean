import SheetInspector.Sheet
import SheetInspector.Descriptor

set_option autoImplicit false

/-! # Reading a grid of cells

A grid is anything with an extent whose cells can be read one at a time; a read may fail, and
the first failure ends whatever was being done. A worksheet is a grid, and so is any other
source of cells.

Three readers walk a grid: `inspect` describes every cell, `preview` gives the values of the
first rows, and `headers` names the columns by the first row. They read row by row, each cell
at most once and only inside the extent. Reads happen in a monad of the grid's choice, so the
same readers serve a grid that fails and a grid that also records what was read.
-/

namespace SheetInspector

universe u

/-- A readable rectangle of cells. -/
structure Grid (m : Type → Type u) where
  extent : Extent
  read : Address → m Cell

namespace Grid

/-- Runs an action on the numbers `start`, `start + 1`, …, `count` of them, and collects the
results behind those in `done`, which are in reverse order. -/
@[specialize]
def collectFrom {m : Type → Type u} [Monad m] {α : Type} (action : Nat → m α) (done : List α)
    (start : Nat) : Nat → m (List α)
  | 0 => pure done.reverse
  | count + 1 => do
    let a ← action start
    collectFrom action (a :: done) (start + 1) count

/-- Runs an action on the numbers from one up to `last` and collects the results. -/
def collect {m : Type → Type u} [Monad m] {α : Type} (last : Nat) (action : Nat → m α) :
    m (List α) :=
  collectFrom action [] 1 last

variable {m : Type → Type u} [Monad m]

/-- Describes every cell of the extent, row by row. An extent without columns is not walked. -/
def inspect (g : Grid m) : m (List Descriptor) := do
  if g.extent.isEmpty then return []
  let rows ← collect g.extent.rows fun row =>
    collect g.extent.columns fun column => do
      let a : Address := ⟨row, column⟩
      return Descriptor.of a (← g.read a)
  return rows.flatten

/-- The values of the first `limit` rows, or of all rows if there are fewer. -/
def preview (g : Grid m) (limit : Nat) : m (List (List Value)) := do
  if g.extent.columns = 0 then return []
  collect (min g.extent.rows limit) fun row =>
    collect g.extent.columns fun column => return (← g.read ⟨row, column⟩).value

/-- The name of a column whose first cell shows `value`: the column's letters if that is
blank. -/
def headerOf (column : Nat) (value : Value) : String :=
  let shown := if value.isNull then "" else value.display
  if (Text.trim shown.toList).isEmpty then Column.letters column else shown

/-- The names of the columns, taken from the first row. -/
def headers (g : Grid m) : m (List String) := do
  if g.extent.rows = 0 then return []
  collect g.extent.columns fun column => return headerOf column (← g.read ⟨1, column⟩).value

/-- The monad of reads that are recorded, the latest first, up to the first fault. -/
abbrev Recorded : Type → Type := ExceptT SheetFault (StateM (List Address))

/-- The same grid with its reads recorded. -/
def recorded (g : Grid (Except SheetFault)) : Grid Recorded :=
  { extent := g.extent
    read := fun a => do
      modify (a :: ·)
      liftM (g.read a) }

end Grid

/-- A worksheet as a grid. -/
def Sheet.grid (s : Sheet) : Grid (Except SheetFault) := ⟨s.extent, s.cell⟩

/-- The values of a row as a tuple. -/
def tupleText (values : List Value) : String :=
  "(" ++ String.intercalate ", " (values.map Value.display) ++ ")"

end SheetInspector
