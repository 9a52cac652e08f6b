import SheetInspector.Comparison
import SheetInspector.Workbook

set_option autoImplicit false

/-! # Reports

What each command of the tool has to say, before it is written out: the cells of a sheet, its
first rows, its findings, the differences between two sheets, or the sheets of a workbook.
-/

namespace SheetInspector

/-- Which sheet of which file a report is about. -/
structure SheetLabel where
  file : String
  sheet : String
  extent : Extent
  deriving DecidableEq, Repr

/-- The label of a sheet read from a file. -/
def Sheet.label (s : Sheet) (file : String) : SheetLabel := ⟨file, s.name, s.extent⟩

/-- What is reported about one sheet of a workbook. -/
structure SheetSummary where
  index : Nat
  name : String
  active : Bool
  extent : Extent
  /-- The number of formulas. -/
  formulas : Nat
  deriving DecidableEq, Repr

/-- The summaries of the sheets of a workbook, in order. -/
def Workbook.summaries (w : Workbook) : List SheetSummary :=
  w.sheets.mapIdx fun index s =>
    { index, name := s.name, active := index == w.active, extent := s.extent
      formulas := s.formulas.length }

/-- The result of a command. -/
inductive Report where
  /-- Every cell of a sheet. -/
  | inspection (source : SheetLabel) (cells : List Descriptor)
  /-- The column names and the first rows of a sheet. -/
  | preview (source : SheetLabel) (headers : List String) (rows : List (List Value))
  /-- The formulas of a sheet whose marker is wrong, and how many formulas there are. -/
  | check (source : SheetLabel) (formulas : Nat) (findings : List Finding)
  /-- The differences between two sheets. -/
  | comparison (before after : SheetLabel) (differences : Comparison) (failOnChange : Bool)
  /-- The sheets of a workbook. -/
  | contents (file : String) (sheets : List SheetSummary)

/-- Whether the report makes its command fail: findings always do, differences only on
request. -/
def Report.failed : Report → Bool
  | .check _ _ findings => !findings.isEmpty
  | .comparison _ _ differences failOnChange => failOnChange && !differences.isEmpty
  | _ => false

end SheetInspector
