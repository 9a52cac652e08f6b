import SheetInspector.Command.Help
import SheetInspector.Loading.Load
import SheetInspector.Log.Filter
import SheetInspector.Report.Document
import SheetInspector.Report.Text

set_option autoImplicit false

/-! # Running commands

A run of the tool as a function: from its arguments, the log specification in its environment
and the files it can see, to what it prints and the code it exits with.
-/

namespace SheetInspector

/-- Why a command fails. -/
inductive CommandFault where
  /-- A delimiter that is not a single byte. -/
  | delimiter (c : Char)
  /-- A file cannot be loaded. -/
  | loading (path : String) (fault : LoadFault)
  /-- A workbook without sheets. -/
  | noSheet (path : String) (fault : SheetFault)
  | inspection (sheet : String) (fault : SheetFault)
  | headers (fault : SheetFault)
  | preview (sheet : String) (fault : SheetFault)
  | comparison (fault : SheetFault)
  deriving DecidableEq, Repr

namespace CommandFault

/-- The report of a fault. -/
def message : CommandFault → String
  | .delimiter c => "Delimiter must be a single ASCII character, got '" ++ c.toString ++ "'"
  | .loading path _ => "Failed to open '" ++ path ++ "'"
  | .noSheet path _ => "No worksheet to inspect in '" ++ path ++ "'"
  | .inspection sheet _ => "Failed to inspect sheet '" ++ sheet ++ "'"
  | .headers fault => fault.message
  | .preview sheet _ => "Failed to preview sheet '" ++ sheet ++ "'"
  | .comparison _ => "Failed to compare sheets"

/-- The reports of what is behind a fault, the nearest cause first. -/
def causes : CommandFault → List String
  | .delimiter _ => []
  | .loading _ fault => fault.message :: fault.causes
  | .noSheet _ fault => [fault.message]
  | .inspection _ fault => [fault.message]
  | .headers _ => []
  | .preview _ fault => [fault.message]
  | .comparison fault => [fault.message]

/-- A text whose lines but the first begin with `margin`. -/
def indented (margin text : String) : String :=
  String.intercalate ("\n" ++ margin) (text.splitOn "\n")

/-- The list of causes below an error; several causes are numbered. -/
def causesText : List String → String
  | [] => ""
  | [cause] => "\n\nCaused by:\n    " ++ indented "    " cause
  | causes =>
    "\n\nCaused by:" ++ String.join (causes.mapIdx fun i cause =>
      let number := toString i
      "\n" ++ String.ofList (List.replicate (5 - number.length) ' ') ++ number ++ ": " ++
        indented "       " cause)

/-- What is printed about a fault. -/
def text (f : CommandFault) : String := "Error: " ++ f.message ++ causesText f.causes ++ "\n"

/-- The code that the tool exits with at a fault, which is another one where the run breaks off. -/
def exit : CommandFault → Nat
  | .loading _ (.xlsx .overflow) => 101
  | _ => 1

end CommandFault

/-- The work of a command. -/
abbrev Work := Logged CommandFault

/-- The name that records of inspecting and comparing come under. -/
def coreName : String := "cellscope_core"

/-- The options that the settings of an invocation stand for. -/
def Settings.loadOptions (s : Settings) : Except CommandFault LoadOptions :=
  let csv : Csv.Options := { Csv.Options.comma with detectTypes := !s.noTypeDetection }
  match s.delimiter with
  | none => .ok ⟨csv, s.sheet, none⟩
  | some c =>
    if c.toNat < 128 then .ok ⟨csv, s.sheet, some c.toNat.toUInt8⟩ else .error (.delimiter c)

namespace Work

/-- Loads a file. -/
def load (storage : Storage) (o : LoadOptions) (path : String) : Work Workbook :=
  (loadFile storage o path).mapFault (.loading path)

/-- The active sheet of the workbook in a file. -/
def activeSheet (w : Workbook) (path : String) : Work Sheet :=
  Logged.ofExcept (w.activeSheet.mapError (.noSheet path))

/-- Logs that the cells of a sheet have been described; a sheet without cells goes without
saying. -/
def logInspection (s : Sheet) : Work Unit := do
  if !s.isEmpty then
    Logged.debug (coreName ++ "::inspect")
      ("inspected " ++ toString (s.extent.rows * s.extent.columns) ++ " cells (" ++
        s.extent.words ++ ")")

/-- Describes the cells of a sheet. -/
def inspect (s : Sheet) : Work (List Descriptor) := do
  let cells ← Logged.ofExcept (s.grid.inspect.mapError (.inspection s.name))
  logInspection s
  return cells

/-- Compares two sheets. -/
def compare (before after : Sheet) : Work Comparison := do
  let old ← Logged.ofExcept (before.grid.inspect.mapError .comparison)
  logInspection before
  let new ← Logged.ofExcept (after.grid.inspect.mapError .comparison)
  logInspection after
  let differences := Comparison.ofDescriptors old new
  Logged.debug (coreName ++ "::diff")
    ("diff found " ++ toString differences.changes.length ++ " changed cells")
  return differences

/-- Logs each finding. -/
def logFindings : List Finding → Work Unit
  | [] => return ()
  | f :: rest => do
    Logged.debug toolName ("flagged " ++ f.text)
    logFindings rest

/-- The report of a command. -/
def report (storage : Storage) (o : LoadOptions) : Command → Work Report
  | .inspect input => do
    let s ← activeSheet (← load storage o input) input
    return .inspection (s.label input) (← inspect s)
  | .preview input rows => do
    let s ← activeSheet (← load storage o input) input
    let headers ← Logged.ofExcept (s.grid.headers.mapError .headers)
    let rows ← Logged.ofExcept ((s.grid.preview rows).mapError (.preview s.name))
    return .preview (s.label input) headers rows
  | .check input => do
    let s ← activeSheet (← load storage o input) input
    let cells ← inspect s
    let findings := Finding.ofDescriptors cells
    logFindings findings
    return .check (s.label input) (cells.filter (·.formula.isSome)).length findings
  | .diff before after failOnChange => do
    let old ← load storage o before
    let new ← load storage o after
    let s ← activeSheet old before
    let t ← activeSheet new after
    return .comparison (s.label before) (t.label after) (← compare s t) failOnChange
  | .info input => do
    let w ← load storage o input
    return .contents input w.summaries

/-- The report of an invocation. -/
def ofInvocation (storage : Storage) (i : Invocation) : Work Report := do
  let o ← Logged.ofExcept i.settings.loadOptions
  report storage o i.command

end Work

/-- What a run of the tool prints, and the code it exits with. -/
structure Outcome where
  exit : Nat
  output : String
  errors : String
  deriving DecidableEq, Repr

/-- A report in the form asked for. -/
def Report.written (r : Report) : OutputForm → String
  | .text => r.text
  | .json => r.document ++ "\n"

/-- The log specification that stands for a number of requests for more detail. -/
def defaultLogSpec : Nat → String
  | 0 => "warn"
  | 1 => "debug"
  | _ => "trace"

/-- The version of the tool. -/
def versionText : String := toolName ++ " 0.1.0\n"

namespace Invocation

/-- The outcome of an invocation. -/
def run (i : Invocation) (logSpec : Option String) (storage : Storage) : Outcome :=
  let (filter, reports) := LogFilter.parse (logSpec.getD (defaultLogSpec i.settings.verbosity))
  let (result, records) := (Work.ofInvocation storage i).outcome
  let warnings := String.join (reports.map fun r => "warning: " ++ r ++ ", ignoring it\n")
  let logged := String.join ((records.filter filter.shows).map LogRecord.text)
  match result with
  | .error fault => ⟨fault.exit, "", warnings ++ logged ++ fault.text⟩
  | .ok report =>
    ⟨if report.failed then 1 else 0, report.written (i.settings.form.getD .text),
      warnings ++ logged⟩

end Invocation

/-- The outcome of a run of the tool. -/
def runTool (arguments : List String) (logSpec : Option String) (storage : Storage) : Outcome :=
  match Invocation.parse arguments with
  | .ok i => i.run logSpec storage
  | .error .misuse => ⟨2, "", HelpTopic.tool.text⟩
  | .error .version => ⟨0, versionText, ""⟩
  | .error (.help topic) => ⟨0, topic.text, ""⟩

end SheetInspector
