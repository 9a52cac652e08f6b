import SheetInspector.Csv.Sheet
import SheetInspector.Loading.Format
import SheetInspector.Xlsx.Workbook

set_option autoImplicit false

/-! # Loading files

A file is loaded according to its format, and one of its sheets can be made active instead of
the one the file selects. That the format is not supported is found out before the file is
looked at.
-/

namespace SheetInspector

/-- How files are loaded. -/
structure LoadOptions where
  /-- How files of records are read. -/
  csv : Csv.Options
  /-- The sheet to make active. -/
  sheet : Option String
  /-- The delimiter for all files of records, in place of the one of their format. -/
  delimiter : Option UInt8
  deriving DecidableEq, Repr

/-- Nothing out of the ordinary. -/
def LoadOptions.plain : LoadOptions := ⟨.comma, none, none⟩

/-- The options for a file of records in a given format: a delimiter that is asked for comes
first, then the tabulator of its format. -/
def LoadOptions.csvFor (o : LoadOptions) (format : FileFormat) : Csv.Options :=
  match o.delimiter with
  | some delimiter => o.csv.withDelimiter delimiter
  | none => if format = .tsv then o.csv.withDelimiter 9 else o.csv

/-- Why a file cannot be loaded. -/
inductive LoadFault where
  /-- There is no file at the path. -/
  | notFound (path : String)
  /-- The format of the file is not supported. -/
  | unsupported (path : String)
  | xlsx (fault : Xlsx.Fault)
  | csv (fault : Csv.Fault)
  /-- The sheet that is asked for is missing. -/
  | sheet (fault : SheetFault)
  deriving DecidableEq, Repr

namespace LoadFault

/-- The report of a fault. -/
def message : LoadFault → String
  | .notFound path => "File not found: " ++ path
  | .unsupported path => "Unsupported file format: " ++ path
  | .xlsx fault => fault.message
  | .csv fault => fault.message
  | .sheet fault => fault.message

/-- The reports of what is behind a fault, the nearest cause first. -/
def causes : LoadFault → List String
  | .xlsx fault => fault.causes
  | .csv fault => fault.causes
  | _ => []

end LoadFault

/-- The name that records of the reader of files of records come under. -/
def Csv.logSource : String := "cellscope_csv::reader"

/-- Reads a file of records. -/
def Csv.loadFile (storage : Storage) (o : Csv.Options) (path : String) :
    Logged Csv.Fault Workbook := do
  Logged.debug Csv.logSource ("reading CSV " ++ path)
  match storage path with
  | .unavailable fault => throw (.unopened fault)
  | .directory => throw (.unreadable .isDirectory)
  | .file content =>
    let s ← Logged.ofExcept (Csv.readSheet o content)
    Logged.debug Csv.logSource
      ("read " ++ toString s.extent.rows ++ " rows x " ++ toString s.extent.columns ++
        " columns from CSV")
    return .single s

/-- Reads a package. -/
def Xlsx.loadFile (storage : Storage) (path : String) : Logged Xlsx.Fault Workbook := do
  Logged.debug Xlsx.logSource ("reading XLSX " ++ path)
  match storage path with
  | .unavailable fault => throw (.unopened fault)
  | .directory => throw (.archive (.unreadable .isDirectory))
  | .file content => Xlsx.loadBytes content

/-- Makes the sheet that is asked for active. -/
def LoadOptions.select (o : LoadOptions) (w : Workbook) : Except LoadFault Workbook :=
  match o.sheet with
  | none => .ok w
  | some name => (w.select name).mapError .sheet

/-- The name that records of loading, and of the tool as a whole, come under. -/
def toolName : String := "cellscope"

/-- Loads a file. -/
def loadFile (storage : Storage) (o : LoadOptions) (path : String) : Logged LoadFault Workbook := do
  match FileFormat.ofPath? path with
  | none => throw (.unsupported path)
  | some format =>
    if !(storage path).isFile then throw (.notFound path)
    Logged.debug toolName ("loading " ++ path ++ " as " ++ format.name)
    let w ← match format with
      | .xlsx => (Xlsx.loadFile storage path).mapFault .xlsx
      | _ => (Csv.loadFile storage (o.csvFor format) path).mapFault .csv
    Logged.ofExcept (o.select w)

end SheetInspector
