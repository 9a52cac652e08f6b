import SheetInspector.Report.Basic

set_option autoImplicit false

/-! # Reports as text

The form of a report that is meant for people: a list of lines.
-/

namespace SheetInspector

/-- The three lines that say which sheet a report is about. -/
def SheetLabel.heading (l : SheetLabel) : List String :=
  ["File: " ++ l.file,
    "Sheet: " ++ l.sheet,
    "Max row: " ++ toString l.extent.rows ++ ", Max col: " ++ toString l.extent.columns]

/-- An extent in words. -/
def Extent.words (e : Extent) : String :=
  toString e.rows ++ " rows x " ++ toString e.columns ++ " columns"

namespace Report

/-- The line about one side of a comparison. -/
def sideLine (role : String) (l : SheetLabel) : String :=
  "  " ++ role ++ ": " ++ l.file ++ " [" ++ l.sheet ++ "] " ++ l.extent.words

/-- The lines about one sheet of a workbook, with an empty line before them. -/
def summaryLines (s : SheetSummary) : List String :=
  ["",
    "  Sheet " ++ toString s.index ++ ": \"" ++ s.name ++ "\"" ++
      (if s.active then " (active)" else ""),
    "    Used range: " ++ (if s.extent.isEmpty then "empty" else s.extent.words),
    "    Formulas: " ++ toString s.formulas]

/-- The lines of a report. -/
def lines : Report → List String
  | .inspection source cells =>
    source.heading ++
      (if cells.isEmpty then ["  (empty)"]
      else (RowLine.ofDescriptors cells).map fun line => "  " ++ line.text)
  | .preview source headers rows =>
    source.heading ++
      (if headers.isEmpty then [] else ["Headers: " ++ String.intercalate ", " headers]) ++
      ["First " ++ toString rows.length ++ " rows:"] ++
      rows.map fun row => "  " ++ tupleText row
  | .check source formulas findings =>
    source.heading ++ findings.map (fun f => "  " ++ f.text) ++
      [toString formulas ++ " formulas checked, " ++ toString findings.length ++ " flagged"]
  | .comparison before after differences _ =>
    ["Sheet diff", sideLine "original" before, sideLine "modified" after,
      "  added: " ++ toString (differences.count .added) ++
        ", removed: " ++ toString (differences.count .removed) ++
        ", modified: " ++ toString (differences.count .modified),
      ""] ++
      (if differences.isEmpty then ["No differences."]
      else differences.changes.map Change.text)
  | .contents file sheets =>
    ["File: " ++ file, "Sheets: " ++ toString sheets.length] ++ sheets.flatMap summaryLines

/-- A report as text, each line ended by a line feed. -/
def text (r : Report) : String := String.join (r.lines.map (· ++ "\n"))

end Report

end SheetInspector
