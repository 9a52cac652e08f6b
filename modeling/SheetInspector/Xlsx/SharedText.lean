import SheetInspector.Xlsx.EscapedText
import SheetInspector.Xlsx.Fault
import SheetInspector.Xml.Scan

set_option autoImplicit false

/-! # The table of shared texts

Texts that occur in several cells are kept once, in a part of their own, and cells refer to
them by index. An item of the table is a text or a sequence of runs of text; phonetic runs are
annotations and do not belong to it. The runs of an item are joined, and then the escapes in
the whole are replaced.
-/

namespace SheetInspector.Xlsx

/-- The elements of the part that matter. -/
inductive TextElement where
  | item
  | phonetic
  | text
  | other
  deriving DecidableEq, Repr

/-- The element with a name. -/
def TextElement.of (name : Bytes) : TextElement :=
  if name = Xml.asciiName "si" then .item
  else if name = Xml.asciiName "rPh" then .phonetic
  else if name = Xml.asciiName "t" then .text
  else .other

/-- The state of reading the table. -/
structure TextScan where
  /-- The finished items, in reverse order. -/
  items : List String
  /-- The joined runs of the current item. -/
  current : String
  inItem : Bool
  inText : Bool
  inPhonetic : Bool
  deriving DecidableEq, Repr

namespace TextScan

/-- The state before the first event. -/
def initial : TextScan := ⟨[], "", false, false, false⟩

/-- The state after an event. -/
def step (s : TextScan) : Xml.Event → Except Fault TextScan
  | .start tag =>
    match TextElement.of tag.name with
    | .item => .ok { s with inItem := true, current := "" }
    | .phonetic => .ok { s with inPhonetic := s.inItem || s.inPhonetic }
    | .text => .ok { s with inText := s.inItem && !s.inPhonetic || s.inText }
    | .other => .ok s
  | .finish name =>
    match TextElement.of name with
    | .item =>
      .ok { s with items := decodeEscapes s.current :: s.items, current := "", inItem := false }
    | .phonetic => .ok { s with inPhonetic := false }
    | .text => .ok { s with inText := false }
    | .other => .ok s
  | .text raw =>
    if s.inText then (unescape raw).map fun text => { s with current := s.current ++ text }
    else .ok s
  | _ => .ok s

end TextScan

/-- Reads the table of a document. -/
def readSharedTexts (d : Xml.Document) : Except Fault (Array String) :=
  (readDocument TextScan.step .initial d).map fun s => s.items.reverse.toArray

end SheetInspector.Xlsx
