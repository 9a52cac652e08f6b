import SheetInspector.Sheet

set_option autoImplicit false

/-! # Workbooks

A workbook is a list of sheets in file order, no two of them with the same name, and the index
of the active one. Only the active sheet is ever inspected.
-/

namespace SheetInspector

/-- A spreadsheet document. -/
structure Workbook where
  sheets : List Sheet
  /-- The index of the active sheet. -/
  active : Nat

namespace Workbook

/-- A workbook without sheets. -/
def empty : Workbook := ⟨[], 0⟩

/-- A workbook with a single sheet. -/
def single (s : Sheet) : Workbook := ⟨[s], 0⟩

/-- The sheet with an index. -/
def sheet? (w : Workbook) (index : Nat) : Option Sheet := w.sheets[index]?

/-- The sheet with a name. -/
def sheetNamed? (w : Workbook) (name : String) : Option Sheet := w.sheets.find? (·.name = name)

/-- The index of the sheet with a name. -/
def indexOf? (w : Workbook) (name : String) : Option Nat := w.sheets.findIdx? (·.name = name)

/-- The names of the sheets. -/
def names (w : Workbook) : List String := w.sheets.map Sheet.name

/-- The active sheet. -/
def activeSheet (w : Workbook) : Except SheetFault Sheet :=
  if w.sheets.isEmpty then .error .noSheets
  else
    match w.sheet? w.active with
    | none => .error (.sheetOutOfBounds w.active w.sheets.length)
    | some s => .ok s

/-! ## Changing

A change is made in place and may end in a fault. What it changed before the fault stays changed,
so that a failed change does no harm is a fact about each of them. -/

/-- A change to a workbook in place. -/
abbrev Update := ExceptT SheetFault (StateM Workbook)

namespace Update

/-- Adds a sheet at the end, unless there is one with its name, and gives its index. -/
def add (s : Sheet) : Update Nat := do
  if ((← get).indexOf? s.name).isSome then throw (.duplicateName s.name)
  modify fun w => { w with sheets := w.sheets ++ [s] }
  return (← get).sheets.length - 1

/-- Makes the sheet with an index the active one. -/
def activate (index : Nat) : Update Unit := do
  let count := (← get).sheets.length
  if count ≤ index then throw (.sheetOutOfBounds index count)
  modify fun w => { w with active := index }

/-- Makes the sheet with a name the active one. -/
def select (name : String) : Update Unit := do
  match (← get).indexOf? name with
  | none => throw (.sheetNotFound name)
  | some index => modify fun w => { w with active := index }

/-- What a change to a workbook ends in, and the workbook it leaves. -/
def on {α : Type} (u : Update α) (w : Workbook) : Except SheetFault α × Workbook := u.run.run w

/-- What a change that succeeds gives, and the workbook after it. -/
def result {α : Type} (u : Update α) (w : Workbook) : Except SheetFault (α × Workbook) :=
  match u.on w with
  | (.ok a, w') => .ok (a, w')
  | (.error fault, _) => .error fault

end Update

/-- The workbook with a sheet added at the end, and the index of the sheet. -/
def add (w : Workbook) (s : Sheet) : Except SheetFault (Workbook × Nat) :=
  ((Update.add s).result w).map Prod.swap

/-- The workbook with the sheet with an index as the active one. -/
def activate (w : Workbook) (index : Nat) : Except SheetFault Workbook :=
  ((Update.activate index).result w).map Prod.snd

/-- The workbook with the sheet with a name as the active one. -/
def select (w : Workbook) (name : String) : Except SheetFault Workbook :=
  ((Update.select name).result w).map Prod.snd

end Workbook

/-- A change to a workbook. -/
inductive WorkbookEdit where
  | add (s : Sheet)
  | activate (index : Nat)
  | select (name : String)

/-- The update that makes a change. -/
def WorkbookEdit.update : WorkbookEdit → Workbook.Update Unit
  | .add s => do let _ ← Workbook.Update.add s
  | .activate index => .activate index
  | .select name => .select name

/-- The workbook after a change. -/
def Workbook.edit (w : Workbook) (e : WorkbookEdit) : Except SheetFault Workbook :=
  (e.update.result w).map Prod.snd

/-- The workbook that a sequence of changes leaves, with those that fail among them. -/
def Workbook.run (w : Workbook) (edits : List WorkbookEdit) : Workbook :=
  edits.foldl (fun w e => (e.update.on w).2) w

end SheetInspector
