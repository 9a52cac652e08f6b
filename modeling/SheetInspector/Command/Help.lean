import SheetInspector.Command.Arguments

set_option autoImplicit false

/-! # Help

The texts that describe the tool and its commands: what it is about, how it is called, and its
commands, arguments and options, each list with its descriptions in one column.
-/

namespace SheetInspector

/-- An item of a list: what is written on the command line, and a description of it. -/
structure HelpItem where
  form : String
  description : String
  deriving DecidableEq, Repr

namespace HelpItem

/-- The item as a line; descriptions begin behind `width` columns for the form. -/
def line (width : Nat) (i : HelpItem) : String :=
  "  " ++ i.form ++ String.ofList (List.replicate (width - i.form.length) ' ') ++ "  " ++
    i.description

/-- A list of items under a heading; a list without items is left out. -/
def list (heading : String) (items : List HelpItem) : String :=
  let width := (items.map fun i => i.form.length).foldl max 0
  if items.isEmpty then ""
  else "\n" ++ heading ++ ":\n" ++ String.join (items.map fun i => i.line width ++ "\n")

/-- The options for all commands. -/
def settings : List HelpItem :=
  [⟨"    --format <FORMAT>", "Output format [default: text] [possible values: text, json]"⟩,
    ⟨"    --sheet <SHEET>", "Sheet to inspect instead of the workbook's active sheet"⟩,
    ⟨"    --delimiter <DELIMITER>", "Field delimiter for CSV input"⟩,
    ⟨"    --no-type-detection",
      "Keep CSV fields as text instead of detecting numbers and booleans"⟩,
    ⟨"-v, --verbose...", "More logging (-v debug, -vv trace); CELLSCOPE_LOG overrides"⟩,
    ⟨"-h, --help", "Print help"⟩]

end HelpItem

namespace Verb

/-- What a command does. -/
def description : Verb → String
  | .inspect => "Describe every cell of the sheet, row by row"
  | .preview => "Show the first rows as value tuples"
  | .check => "Report formulas with a missing or repeated `=` marker (exit 1 if any)"
  | .diff => "Compare the cells of an original and a modified file"
  | .info => "Show the sheets of a workbook"

/-- The files that a command takes. -/
def arguments : Verb → List HelpItem
  | .inspect => [⟨"<INPUT>", "Input spreadsheet file (xlsx, xlsm, csv, tsv)"⟩]
  | .diff => [⟨"<ORIGINAL>", "Original spreadsheet"⟩, ⟨"<MODIFIED>", "Modified spreadsheet"⟩]
  | _ => [⟨"<INPUT>", "Input spreadsheet file"⟩]

/-- The options that can stand behind the name of a command. -/
def options : Verb → List HelpItem
  | .preview =>
    HelpItem.settings.take 1 ++ [⟨"-r, --rows <ROWS>", "Number of rows to show [default: 6]"⟩] ++
      HelpItem.settings.drop 1
  | .diff => ⟨"    --fail-on-change", "Exit 1 when any cell changed"⟩ :: HelpItem.settings
  | _ => HelpItem.settings

/-- The description of a command. -/
def help (verb : Verb) : String :=
  verb.description ++ "\n\nUsage: cellscope " ++ verb.name ++ " [OPTIONS]" ++
    String.join (verb.arguments.map (" " ++ ·.form)) ++ "\n" ++
    HelpItem.list "Arguments" verb.arguments ++ HelpItem.list "Options" verb.options

end Verb

namespace HelpTopic

/-- What the command that describes commands does. -/
def helpDescription : String := "Print this message or the help of the given subcommand(s)"

/-- The text about a topic. -/
def text : HelpTopic → String
  | .tool =>
    "Inspect spreadsheet cells: references, values, types and formulas\n\n" ++
      "Usage: cellscope [OPTIONS] <COMMAND>\n" ++
      HelpItem.list "Commands"
        (Verb.all.map (fun verb => ⟨verb.name, verb.description⟩) ++ [⟨"help", helpDescription⟩]) ++
      HelpItem.list "Options" (HelpItem.settings ++ [⟨"-V, --version", "Print version"⟩])
  | .command verb => verb.help
  | .help =>
    helpDescription ++ "\n\nUsage: cellscope help [COMMAND]...\n" ++
      HelpItem.list "Arguments" [⟨"[COMMAND]...", "Print help for the subcommand(s)"⟩]

end HelpTopic

end SheetInspector
