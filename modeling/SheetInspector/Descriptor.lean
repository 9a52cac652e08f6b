import SheetInspector.Address.Basic
import SheetInspector.Marker

set_option autoImplicit false

/-! # Cell descriptors

A descriptor is the canonical description of one cell: where it is, what it shows, what type
its content has, its formula, and what is wrong with the marker of that formula. Descriptors
are what is printed and what two sheets are compared by.
-/

namespace SheetInspector

/-- The description of one cell. -/
structure Descriptor where
  /-- The written address. -/
  reference : String
  address : Address
  value : Value
  kind : Kind
  formula : Option String
  anomaly : Option MarkerAnomaly
  deriving DecidableEq, Repr

namespace Descriptor

/-- The description of a cell read at an address. -/
def of (a : Address) (cell : Cell) : Descriptor :=
  { reference := a.text
    address := a
    value := cell.value
    kind := cell.kind
    formula := cell.formula
    anomaly := cell.formula.bind MarkerAnomaly.detect? }

/-- Whether the cell has neither a value nor a formula. -/
def isBlank (d : Descriptor) : Bool := d.value.isNull && d.formula.isNone

theorem isBlank_iff (d : Descriptor) :
    d.isBlank = true ↔ d.value = .null ∧ d.formula = none := by
  rw [isBlank, Bool.and_eq_true, Value.isNull_iff, Option.isNone_iff_eq_none]

theorem isBlank_eq_false_iff (d : Descriptor) :
    d.isBlank = false ↔ d.value ≠ .null ∨ d.formula ≠ none := by
  rw [← Bool.not_eq_true, isBlank_iff, Decidable.not_and_iff_not_or_not]

/-- Value, type and formula, without the address. -/
def summary (d : Descriptor) : String :=
  "val=" ++ d.value.display ++ ", type=" ++ d.kind.name ++
    match d.formula with
    | some formula => ", formula=" ++ formula
    | none => ""

/-- The whole description in one line. -/
def text (d : Descriptor) : String :=
  d.reference ++ ": " ++ d.summary ++
    match d.anomaly with
    | some anomaly => ", anomaly=" ++ anomaly.text
    | none => ""

end Descriptor

/-- Descriptors of one row, printed in one line. -/
structure RowLine where
  row : Nat
  cells : List Descriptor
  deriving DecidableEq, Repr

namespace RowLine

/-- The line of a row. -/
def text (line : RowLine) : String :=
  "Row " ++ toString line.row ++ ": " ++ String.intercalate " | " (line.cells.map Descriptor.text)

/-- Cuts a list of descriptors into runs of the same row. -/
def ofDescriptors : List Descriptor → List RowLine
  | [] => []
  | d :: rest =>
    { row := d.address.row
      cells := d :: rest.takeWhile (·.address.row = d.address.row) } ::
      ofDescriptors (rest.dropWhile (·.address.row = d.address.row))
termination_by ds => ds.length
decreasing_by
  have := (List.dropWhile_sublist (l := rest) (·.address.row = d.address.row)).length_le
  simp only [List.length_cons]
  omega

end RowLine

/-- A formula whose marker is wrong. -/
structure Finding where
  /-- The written address of the cell. -/
  reference : String
  formula : String
  anomaly : MarkerAnomaly
  deriving DecidableEq, Repr

namespace Finding

/-- The report of a finding in one line. -/
def text (f : Finding) : String := f.reference ++ ": " ++ f.anomaly.text ++ " in " ++ f.formula

/-- The finding a descriptor gives rise to: both a formula and an anomaly are needed. -/
def ofDescriptor? (d : Descriptor) : Option Finding :=
  match d.anomaly, d.formula with
  | some anomaly, some formula => some ⟨d.reference, formula, anomaly⟩
  | _, _ => none

/-- All findings among descriptors, in their order. -/
def ofDescriptors (ds : List Descriptor) : List Finding := ds.filterMap ofDescriptor?

end Finding

end SheetInspector
