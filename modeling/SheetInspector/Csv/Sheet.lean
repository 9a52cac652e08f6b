import SheetInspector.Csv.Record
import SheetInspector.Sheet
import SheetInspector.Storage.Basic
import SheetInspector.Number.Notation

set_option autoImplicit false

/-! # Sheets from records

How a file of records becomes a worksheet: the field in column `j` of record `i` alone decides
what is stored at row `i`, column `j`. Fields of a header row are kept as text. Elsewhere a
field that starts with the formula marker and has more than that is a formula, and any other
field is a text, or a number or boolean where types are detected.
-/

namespace SheetInspector.Csv

/-- How a file of records is read. -/
structure Options where
  dialect : Dialect
  /-- Whether the first row holds column names. -/
  hasHeader : Bool
  /-- Whether numbers and booleans are told from text. -/
  detectTypes : Bool
  /-- Whether a field may be a formula. -/
  detectFormulas : Bool
  sheetName : String
  deriving DecidableEq, Repr

namespace Options

/-- Fields separated by commas. -/
def comma : Options := ⟨⟨44, 34⟩, true, true, true, "Sheet1"⟩

/-- The same options with another delimiter. -/
def withDelimiter (o : Options) (delimiter : UInt8) : Options :=
  { o with dialect := { o.dialect with delimiter } }

/-- Fields separated by tabulators. -/
def tab : Options := comma.withDelimiter 9

end Options

/-- What goes wrong when a sheet is read from a file of records. -/
inductive Fault where
  /-- The file cannot be opened. -/
  | unopened (fault : StorageFault)
  /-- The file has been opened but cannot be read. -/
  | unreadable (fault : StorageFault)
  /-- A record cannot be decoded. -/
  | record (fault : RecordFault)
  /-- A position does not fit into a sheet. -/
  | sheet (fault : SheetFault)
  deriving DecidableEq, Repr

/-- The reports of what is behind a fault, the nearest cause first. -/
def Fault.causes : Fault → List String
  | .unopened fault => [fault.message]
  | .unreadable fault => [fault.message]
  | .record fault => [fault.message]
  | .sheet fault => [fault.message]

/-- The report of a fault. -/
def Fault.message : Fault → String
  | .unopened fault => "IO error: " ++ fault.message
  | .unreadable fault => "CSV error: " ++ fault.message
  | .record fault => "CSV error: " ++ fault.message
  | .sheet fault => "Core error: " ++ fault.message

/-- The text of a field as a value: an empty field is no value. -/
def verbatim (field : String) : Value := if field = "" then .null else .text field

/-- The value of a field whose type is to be detected. Blanks around it do not count. A number
has to be finite. -/
def detect (field : String) : Value :=
  let trimmed := Text.trim field.toList
  if trimmed.isEmpty then .null
  else if Text.equalsIgnoringAsciiCase trimmed "true".toList then .boolean true
  else if Text.equalsIgnoringAsciiCase trimmed "false".toList then .boolean false
  else
    match Number.parse? trimmed with
    | some (.finite negative ordinal) => .number (.finite negative ordinal)
    | _ => .text (String.ofList trimmed)

/-- Whether a field is a formula: it starts with the marker and goes on. -/
def isFormula (field : String) : Bool :=
  match field.toList with
  | c :: _ :: _ => c == formulaMarker
  | _ => false

/-- The content of a field outside a header row. -/
def fieldContent (o : Options) (field : String) : Content :=
  if o.detectFormulas && isFormula field then .formula field none
  else .literal (if o.detectTypes then detect field else verbatim field)

/-- The content of a field in the given row. -/
def content (o : Options) (row : Nat) (field : String) : Content :=
  if o.hasHeader && row == 1 then .literal (verbatim field) else fieldContent o field

/-- Stores the fields of a row from a column on. -/
def fillRow (o : Options) (row column : Nat) (s : Sheet) : List String → Except SheetFault Sheet
  | [] => .ok s
  | field :: rest =>
    match s.set ⟨row, column⟩ (content o row field) with
    | .error fault => .error fault
    | .ok s' => fillRow o row (column + 1) s' rest

/-- Stores records from a row on. The first fault, of a record or of a position, ends it. -/
def fillRows (o : Options) (row : Nat) (s : Sheet) :
    List (Except RecordFault (List String)) → Except Fault Sheet
  | [] => .ok s
  | .error fault :: _ => .error (.record fault)
  | .ok fields :: rest =>
    match fillRow o row 1 s fields with
    | .error fault => .error (.sheet fault)
    | .ok s' => fillRows o (row + 1) s' rest

/-- The sheet of a list of records. -/
def sheetOfRecords (o : Options) (rs : List (Except RecordFault (List String))) :
    Except Fault Sheet :=
  fillRows o 1 (Sheet.new o.sheetName) rs

/-- The sheet of a file. -/
def readSheet (o : Options) (s : Bytes) : Except Fault Sheet :=
  sheetOfRecords o (decodeRecords (records o.dialect s))

end SheetInspector.Csv
