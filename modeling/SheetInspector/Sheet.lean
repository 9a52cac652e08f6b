import SheetInspector.Address.Order
import SheetInspector.Content

set_option autoImplicit false

/-! # Worksheets

A worksheet has a name, an extent, and content stored at some of the addresses in its extent.
The extent is kept apart from the content: it grows with every address that is stored to or
only mentioned, and never shrinks, so a file can report cells that exist but hold nothing.

Content is stored by row and, within a row, by column. Clearing the last cell of a row leaves
the row behind without cells.
-/

namespace SheetInspector

/-- Stored content, by row and within a row by column. -/
abbrev CellStore := Std.TreeMap Nat (Std.TreeMap Nat Content)

namespace CellStore

/-- The content stored at an address. -/
def find? (t : CellStore) (a : Address) : Option Content := t[a.row]?.bind fun row => row[a.column]?

/-- Stores content at an address; the null literal removes what is stored there. -/
def store (t : CellStore) (a : Address) (content : Content) : CellStore :=
  if content.isNull then t.modify a.row fun row => row.erase a.column
  else t.insert a.row ((t[a.row]?.getD ∅).insert a.column content)

/-- The cells of one row. -/
def rowCells (row : Nat) (cells : Std.TreeMap Nat Content) : List (Address × Content) :=
  cells.toList.map fun (column, content) => (⟨row, column⟩, content)

/-- The stored content in the order of addresses. -/
def cells (t : CellStore) : List (Address × Content) :=
  t.toList.flatMap fun (row, cells) => rowCells row cells

/-- The number of cells that store content. -/
def count (t : CellStore) : Nat := t.foldl (fun n _ cells => n + cells.size) 0

end CellStore

/-- A single sheet of a workbook. -/
structure Sheet where
  name : String
  /-- The content of the cells that store any. -/
  stored : CellStore
  /-- The rectangle of all addresses mentioned so far. -/
  extent : Extent

namespace Sheet

/-- A sheet without cells. -/
def new (name : String) : Sheet := ⟨name, ∅, .empty⟩

/-- Whether the extent holds no cell. -/
def isEmpty (s : Sheet) : Bool := s.extent.isEmpty

/-! ## Reading -/

/-- The content stored at an address. -/
def content? (s : Sheet) (a : Address) : Option Content := s.stored.find? a

/-- The content stored at a written address. -/
def contentAt? (s : Sheet) (address : String) : Except SheetFault (Option Content) :=
  return s.content? (← Address.parse address)

/-- The value shown at a written address. -/
def valueAt (s : Sheet) (address : String) : Except SheetFault Value :=
  return ((← s.contentAt? address).map Content.value).getD .null

/-- The cell at an address in the extent; an address outside it is a fault. -/
def cell (s : Sheet) (a : Address) : Except SheetFault Cell := do
  s.extent.check a
  return ((s.content? a).map Content.cell).getD .blank

/-- The stored content in the order of addresses. -/
def cells (s : Sheet) : List (Address × Content) := s.stored.cells

/-- The number of cells that store content. -/
def cellCount (s : Sheet) : Nat := s.stored.count

/-- The formulas in the order of addresses. -/
def formulas (s : Sheet) : List (Address × String) :=
  s.cells.filterMap fun (a, content) => content.formulaText?.map (a, ·)

/-! ## Writing

A write changes a sheet in place and may end in a fault. What it changed before the fault
stays changed, so that a failed write does no harm is a fact about each write. -/

/-- A write to a sheet. -/
abbrev Write := ExceptT SheetFault (StateM Sheet) Unit

namespace Write

/-- Extends the extent to an address. -/
def touch (a : Address) : Write := do
  Extent.largest.check a
  modify fun s => { s with extent := s.extent.cover a }

/-- Stores content at an address; the null literal removes what is stored there. -/
def set (a : Address) (content : Content) : Write := do
  touch a
  modify fun s => { s with stored := s.stored.store a content }

/-- Stores a literal value at an address. -/
def setValue (a : Address) (value : Value) : Write := set a (.literal value)

/-- Stores a formula without a result at an address. -/
def setFormula (a : Address) (text : String) : Write := set a (.formula text none)

/-- Stores a literal value at a written address. -/
def setValueAt (address : String) (value : Value) : Write := do
  setValue (← Address.parse address) value

/-- Stores a formula without a result at a written address. -/
def setFormulaAt (address : String) (text : String) : Write := do
  setFormula (← Address.parse address) text

/-- What a write to a sheet ends in, and the sheet it leaves. -/
def on (w : Write) (s : Sheet) : Except SheetFault Unit × Sheet := w.run.run s

/-- The sheet after a write that succeeds. -/
def result (w : Write) (s : Sheet) : Except SheetFault Sheet :=
  match w.on s with
  | (.ok (), s') => .ok s'
  | (.error fault, _) => .error fault

end Write

/-- The sheet with its extent extended to an address. -/
def touch (s : Sheet) (a : Address) : Except SheetFault Sheet := (Write.touch a).result s

/-- The sheet with content stored at an address. -/
def set (s : Sheet) (a : Address) (content : Content) : Except SheetFault Sheet :=
  (Write.set a content).result s

end Sheet

/-- A change to a sheet. -/
inductive SheetEdit where
  | set (a : Address) (content : Content)
  | setValue (a : Address) (value : Value)
  | setFormula (a : Address) (text : String)
  | setValueAt (address : String) (value : Value)
  | setFormulaAt (address : String) (text : String)
  | touch (a : Address)
  deriving DecidableEq, Repr

/-- The write that makes a change. -/
def SheetEdit.write : SheetEdit → Sheet.Write
  | .set a content => .set a content
  | .setValue a value => .setValue a value
  | .setFormula a text => .setFormula a text
  | .setValueAt address value => .setValueAt address value
  | .setFormulaAt address text => .setFormulaAt address text
  | .touch a => .touch a

/-- The sheet after a change. -/
def Sheet.edit (s : Sheet) (e : SheetEdit) : Except SheetFault Sheet := e.write.result s

/-- The sheet that a sequence of changes leaves, with those that fail among them. -/
def Sheet.run (s : Sheet) (edits : List SheetEdit) : Sheet :=
  edits.foldl (fun s e => (e.write.on s).2) s

end SheetInspector
