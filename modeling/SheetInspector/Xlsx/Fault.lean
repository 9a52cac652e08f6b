import SheetInspector.Fault
import SheetInspector.Xml.Event
import SheetInspector.Zip.Archive

set_option autoImplicit false

/-! # Faults of workbook packages

What can go wrong when a workbook is read from a package, and what its parts are to the
reader.
-/

namespace SheetInspector.Xlsx

/-- What a part says that cannot be. -/
inductive PartFault where
  /-- The reference of a cell is not an address. -/
  | badReference (reference : String) (fault : SheetFault)
  /-- A cell without a reference before the first row. -/
  | looseCell
  /-- The number of a row is not a natural number of 32 bits. -/
  | badRow (text : String)
  /-- The index of a shared text is not a natural number of 64 bits. -/
  | badIndex (text : String)
  /-- There is no shared text with this index. -/
  | indexOutOfBounds (index : Nat)
  deriving DecidableEq, Repr

/-- The report of a fault. -/
def PartFault.message : PartFault → String
  | .badReference reference fault =>
    "Invalid cell reference '" ++ reference ++ "': " ++ fault.message
  | .looseCell => "cell without a reference outside of a row"
  | .badRow text => "Invalid row number: " ++ text
  | .badIndex text => "Invalid shared string index: " ++ text
  | .indexOutOfBounds index => "Shared string index " ++ toString index ++ " out of bounds"

/-- Why a workbook cannot be read. -/
inductive Fault where
  /-- The file cannot be opened. -/
  | unopened (fault : StorageFault)
  /-- The file is not an archive. -/
  | archive (fault : Zip.Fault)
  /-- A part is not well-formed. -/
  | xml (fault : Xml.Fault)
  /-- The archive is not a package: it does not say what its parts are. -/
  | noContentTypes
  /-- A part that is needed is missing. -/
  | missingPart (name : String)
  /-- A part says something that cannot be. -/
  | part (fault : PartFault)
  /-- A cell or a sheet does not fit into the workbook. -/
  | sheet (fault : SheetFault)
  /-- A number that is counted on does not fit into its word. Nothing checks for this, so it breaks
  the run off instead of being reported. -/
  | overflow
  deriving DecidableEq, Repr

namespace Fault

/-- The report of a fault. -/
def message : Fault → String
  | .unopened fault => "IO error: " ++ fault.message
  | .archive fault => "ZIP error: " ++ fault.message
  | .xml fault => "XML error: " ++ fault.message
  | .noContentTypes => "Invalid XLSX format: Missing [Content_Types].xml"
  | .missingPart name => "Missing required part: " ++ name
  | .part fault => "Parse error: " ++ fault.message
  | .sheet fault => "Core error: " ++ fault.message
  | .overflow => "attempt to add with overflow"

/-- The reports of what is behind a fault, the nearest cause first. -/
def causes : Fault → List String
  | .unopened fault => [fault.message]
  | .archive fault => fault.message :: fault.causes
  | .xml fault => fault.message :: fault.causes
  | .noContentTypes => []
  | .missingPart _ => []
  | .part _ => []
  | .sheet fault => [fault.message]
  | .overflow => []

end Fault

/-- A package: the content of the part with a name, if it can be opened. -/
abbrev Package := String → Option Zip.Content

/-- Reads a document event by event. The first fault ends the reading, whether it is one of
`step` or one of the document itself. -/
def readDocument {σ : Type} (step : σ → Xml.Event → Except Fault σ) (start : σ)
    (d : Xml.Document) : Except Fault σ :=
  match d.events.foldlM step start with
  | .error fault => .error fault
  | .ok state =>
    match d.fault with
    | some fault => .error (.xml fault)
    | none => .ok state

/-- The text of a piece of a document, as part of reading a package. -/
def unescape (raw : Bytes) : Except Fault String := (Xml.unescape raw).mapError .xml

end SheetInspector.Xlsx
