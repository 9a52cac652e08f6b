import SheetInspector.Report.Basic
import SheetInspector.Report.Json

set_option autoImplicit false

/-! # Reports as JSON documents

The form of a report that is meant for programs. The fields that say which sheet a report is
about stand directly beside what is reported.
-/

namespace SheetInspector.Report

/-- What is wrong with a marker. -/
def anomalyJson : MarkerAnomaly → Json
  | .duplicate markers =>
    .object [("kind", .string "duplicate_marker"), ("markers", .count markers)]
  | .missing => .object [("kind", .string "missing_marker")]

/-- A cell description; the formula and its anomaly are left out where there are none. -/
def descriptorJson (d : Descriptor) : Json :=
  .object <|
    [("reference", .string d.reference),
      ("row", .count d.address.row),
      ("column", .count d.address.column),
      ("value", valueJson d.value),
      ("type", .string d.kind.name)] ++
    (match d.formula with
    | some formula => [("formula", .string formula)]
    | none => []) ++
    (match d.anomaly with
    | some anomaly => [("anomaly", anomalyJson anomaly)]
    | none => [])

/-- A finding. -/
def findingJson (f : Finding) : Json :=
  .object [("reference", .string f.reference), ("formula", .string f.formula),
    ("anomaly", anomalyJson f.anomaly)]

/-- One side of a change. -/
def sideJson : Option Descriptor → Json
  | some d => descriptorJson d
  | none => .null

/-- A changed cell. -/
def changeJson (c : Change) : Json :=
  .object [("kind", .string c.kind.name), ("reference", .string c.reference),
    ("row", .count c.address.row), ("column", .count c.address.column),
    ("original", sideJson c.before), ("modified", sideJson c.after)]

/-- The fields that say which sheet a report is about. -/
def labelFields (l : SheetLabel) : List (String × Json) :=
  [("file", .string l.file), ("sheet", .string l.sheet), ("max_row", .count l.extent.rows),
    ("max_column", .count l.extent.columns)]

/-- An extent as a pair. -/
def extentJson (e : Extent) : Json := .array [.count e.rows, .count e.columns]

/-- One sheet of a workbook. -/
def summaryJson (s : SheetSummary) : Json :=
  .object [("index", .count s.index), ("name", .string s.name), ("active", .bool s.active),
    ("max_row", .count s.extent.rows), ("max_column", .count s.extent.columns),
    ("formulas", .count s.formulas)]

/-- A report as a JSON value. -/
def json : Report → Json
  | .inspection source cells =>
    .object (labelFields source ++ [("cells", .array (cells.map descriptorJson))])
  | .preview source headers rows =>
    .object (labelFields source ++ [("headers", .array (headers.map .string)),
      ("rows", .array (rows.map fun row => .array (row.map valueJson)))])
  | .check source formulas findings =>
    .object (labelFields source ++ [("formulas", .count formulas),
      ("findings", .array (findings.map findingJson))])
  | .comparison before after differences _ =>
    .object [("original", .object (labelFields before)),
      ("modified", .object (labelFields after)),
      ("counts", .object [("added", .count (differences.count .added)),
        ("removed", .count (differences.count .removed)),
        ("modified", .count (differences.count .modified))]),
      ("original_extent", extentJson differences.extentBefore),
      ("modified_extent", extentJson differences.extentAfter),
      ("changes", .array (differences.changes.map changeJson))]
  | .contents file sheets =>
    .object [("file", .string file), ("sheets", .array (sheets.map summaryJson))]

/-- A report as a JSON document. -/
def document (r : Report) : String := r.json.text

end SheetInspector.Report
