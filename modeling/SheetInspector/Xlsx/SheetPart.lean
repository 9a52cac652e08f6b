import SheetInspector.Number.Notation
import SheetInspector.Sheet
import SheetInspector.Xlsx.EscapedText
import SheetInspector.Xlsx.Fault
import SheetInspector.Xml.Scan

set_option autoImplicit false

/-! # Worksheet parts

A worksheet part is a sequence of rows of cells. A row has a number, or else follows the row
before it; a cell has a reference, or else follows the cell before it in its row. A cell has a
type, a value, a formula, or a text of its own; a cell with neither value nor formula extends
the sheet but stores nothing.

The part is read event by event. What has been read of a cell is kept until the cell ends, and
is then stored.
-/

namespace SheetInspector.Xlsx

/-- The elements of a worksheet part that matter. -/
inductive SheetElement where
  | row
  | cell
  | value
  | formula
  | inlineText
  | text
  | other
  deriving DecidableEq, Repr

/-- The element with a name. -/
def SheetElement.of (name : Bytes) : SheetElement :=
  if name = Xml.asciiName "row" then .row
  else if name = Xml.asciiName "c" then .cell
  else if name = Xml.asciiName "v" then .value
  else if name = Xml.asciiName "f" then .formula
  else if name = Xml.asciiName "is" then .inlineText
  else if name = Xml.asciiName "t" then .text
  else .other

/-! ## Cells -/

/-- What has been read of a cell. -/
structure PendingCell where
  address : Address
  /-- The name of its type. -/
  type : Option String
  value : Option String
  formula : Option String
  deriving DecidableEq, Repr

/-- The type of a cell whose text stands in the cell itself. -/
def inlineType : String := "inlineStr"

/-- A number, if the text is one and finite, and otherwise the text. -/
def numberOrText (text : String) : Value :=
  match Number.parse? text.toList with
  | some (.finite negative ordinal) => .number (.finite negative ordinal)
  | _ => .text text

/-- The shared text with a written index. -/
def sharedText (shared : Array String) (index : String) : Except PartFault String :=
  match natOfBits? 64 index.toList with
  | none => .error (.badIndex index)
  | some i =>
    match shared[i]? with
    | none => .error (.indexOutOfBounds i)
    | some text => .ok text

/-- The value that the text of a cell stands for. -/
def cellValue (shared : Array String) (type : Option String) (text : String) :
    Except PartFault Value :=
  match type with
  | none => .ok (numberOrText text)
  | some type =>
    if type = "n" then .ok (numberOrText text)
    else if type = "s" then (sharedText shared text).map .text
    else if type = "b" then
      .ok (.boolean (text == "1" || Text.equalsIgnoringAsciiCase text.toList "true".toList))
    else if type = "e" then
      .ok (((ErrorCode.parse? text).map Value.error).getD (.text text))
    else if type = inlineType ∨ type = "str" then .ok (.text (decodeEscapes text))
    else .ok (.text text)

namespace PendingCell

/-- Takes an attribute of the cell's tag into account. -/
def readAttribute (c : PendingCell) (a : Xml.Attribute) : Except Fault PendingCell := do
  if a.key = Xml.asciiName "r" then
    let reference ← unescape a.value
    match Address.parse reference with
    | .error fault => throw (.part (.badReference reference fault))
    | .ok address => return { c with address }
  else if a.key = Xml.asciiName "t" then return { c with type := some (← unescape a.value) }
  else return c

/-- A cell begins, in the given row and behind the given column. -/
def start (row column : Nat) (tag : Xml.Tag) : Except Fault PendingCell := do
  let c ← tag.attributes.foldlM readAttribute ⟨⟨row, column + 1⟩, none, none, none⟩
  if c.address.row = 0 then throw (.part .looseCell)
  return c

/-- The content of a cell that has ended, if it has any. A formula is stored behind a marker of
its own, even where its text begins with one. -/
def content? (c : PendingCell) (shared : Array String) : Except PartFault (Option Content) :=
  match c.formula, c.value with
  | some formula, some value =>
    (cellValue shared c.type value).map fun v =>
      some (.formula (formulaMarker.toString ++ formula) (some v))
  | some formula, none => .ok (some (.formula (formulaMarker.toString ++ formula) none))
  | none, some value => (cellValue shared c.type value).map fun v => some (.literal v)
  | none, none => .ok none

/-- Stores a cell that has ended. -/
def finish (c : PendingCell) (shared : Array String) (s : Sheet) : Except Fault Sheet :=
  match c.content? shared with
  | .error fault => .error (.part fault)
  | .ok (some content) => (s.set c.address content).mapError .sheet
  | .ok none => (s.touch c.address).mapError .sheet

end PendingCell

/-! ## Rows -/

/-- The number of the row after another. Row numbers are words of 32 bits, and none follows the
last one: counting on from there breaks the reading off. -/
def nextRow (row : Nat) : Except Fault Nat :=
  if row + 1 < Nat.pow 2 32 then .ok (row + 1) else .error .overflow

/-- The number of a row behind another. -/
def rowNumber (tag : Xml.Tag) (previous : Nat) : Except Fault Nat :=
  match tag.attributes.find? (·.key = Xml.asciiName "r") with
  | none => nextRow previous
  | some a =>
    match unescape a.value with
    | .error fault => .error fault
    | .ok text =>
      match natOfBits? 32 text.toList with
      | none => .error (.part (.badRow text))
      | some row => .ok row

/-! ## The part -/

/-- The state of reading a worksheet part. -/
structure SheetScan where
  sheet : Sheet
  /-- The number of the current row; zero before the first one. -/
  row : Nat
  /-- The column of the cell before; zero at the start of a row. -/
  column : Nat
  /-- The cell that has begun and not ended. -/
  pending : Option PendingCell
  inValue : Bool
  inFormula : Bool
  inInline : Bool
  inInlineText : Bool

namespace SheetScan

/-- The state before the first event. -/
def initial (s : Sheet) : SheetScan := ⟨s, 0, 0, none, false, false, false, false⟩

/-- A row begins. -/
def beginRow (s : SheetScan) (tag : Xml.Tag) : Except Fault SheetScan :=
  (rowNumber tag s.row).map fun row => { s with row, column := 0 }

/-- The state after the start of an element. -/
def startElement (s : SheetScan) (tag : Xml.Tag) : Except Fault SheetScan :=
  match SheetElement.of tag.name with
  | .row => s.beginRow tag
  | .cell => (PendingCell.start s.row s.column tag).map fun c => { s with pending := some c }
  | .value => .ok { s with inValue := s.pending.isSome || s.inValue }
  | .formula => .ok { s with inFormula := s.pending.isSome || s.inFormula }
  | .inlineText => .ok { s with inInline := s.pending.isSome || s.inInline }
  | .text => .ok { s with inInlineText := s.inInline || s.inInlineText }
  | .other => .ok s

/-- Stores a cell, behind which the row goes on. -/
def storeCell (s : SheetScan) (shared : Array String) (c : PendingCell) : Except Fault SheetScan :=
  (c.finish shared s.sheet).map fun sheet =>
    { s with sheet, column := c.address.column, pending := none }

/-- The state after the end of an element. -/
def endElement (s : SheetScan) (shared : Array String) (name : Bytes) : Except Fault SheetScan :=
  match SheetElement.of name with
  | .cell =>
    match s.pending with
    | none => .ok s
    | some c => s.storeCell shared c
  | .value => .ok { s with inValue := false }
  | .formula => .ok { s with inFormula := false }
  | .inlineText => .ok { s with inInline := false }
  | .text => .ok { s with inInlineText := s.inInlineText && !s.inInline }
  | _ => .ok s

/-- The state after an element without content. A cell of this form leaves a cell around it
pending. -/
def emptyElement (s : SheetScan) (shared : Array String) (tag : Xml.Tag) :
    Except Fault SheetScan :=
  match SheetElement.of tag.name with
  | .row => s.beginRow tag
  | .cell => do
    let c ← PendingCell.start s.row s.column tag
    return { ← s.storeCell shared c with pending := s.pending }
  | _ => .ok s

/-- The state after a text. A text within a value or a formula takes the place of the text
before it; texts of a cell's own are joined. -/
def readText (s : SheetScan) (raw : Bytes) : Except Fault SheetScan :=
  match s.pending with
  | none => .ok s
  | some c =>
    if s.inValue then
      (unescape raw).map fun text => { s with pending := some { c with value := some text } }
    else if s.inFormula then
      (unescape raw).map fun text => { s with pending := some { c with formula := some text } }
    else if s.inInlineText then
      (unescape raw).map fun text =>
        { s with
          pending := some { c with
            value := some (c.value.getD "" ++ text), type := some inlineType } }
    else .ok s

/-- The state after an event. -/
def step (shared : Array String) (s : SheetScan) : Xml.Event → Except Fault SheetScan
  | .start tag => s.startElement tag
  | .empty tag => s.emptyElement shared tag
  | .finish name => s.endElement shared name
  | .text raw => s.readText raw
  | .aside => .ok s

end SheetScan

/-- Reads a worksheet part into a sheet with the given name. -/
def readSheetPart (shared : Array String) (name : String) (d : Xml.Document) :
    Except Fault Sheet :=
  (readDocument (SheetScan.step shared) (.initial (Sheet.new name)) d).map SheetScan.sheet

end SheetInspector.Xlsx
