import SheetInspector.Number.Notation
import SheetInspector.Xlsx.Fault
import SheetInspector.Xml.Scan

set_option autoImplicit false

/-! # The catalog of a package

Two parts say which sheets a package has. The workbook part lists them by name and says which
of them is active; the relationships part says where the part of each of them is. The two are
tied together by relationship identifiers.
-/

namespace SheetInspector.Xlsx

/-- A sheet listed in the workbook part. -/
structure SheetEntry where
  name : String
  relationship : String
  deriving DecidableEq, Repr

/-- What the workbook part says. -/
structure Outline where
  /-- The listed sheets that have a name and a relationship, in reverse order. -/
  reversed : List SheetEntry
  /-- The index of the active sheet in that list. -/
  activeTab : Nat
  deriving DecidableEq, Repr

/-- The listed sheets in file order. -/
def Outline.entries (o : Outline) : List SheetEntry := o.reversed.reverse

/-- The text of the last attribute with a key, unless it cannot be decoded. -/
def lastAttribute? (tag : Xml.Tag) (key : String) : Option String :=
  match tag.attributes.reverse.find? (·.key = Xml.asciiName key) with
  | none => none
  | some a => (Xml.unescape a.value).toOption

namespace Outline

/-- Nothing listed, and the first sheet active. -/
def initial : Outline := ⟨[], 0⟩

/-- Takes a tag into account. -/
def readTag (o : Outline) (tag : Xml.Tag) : Outline :=
  if tag.name = Xml.asciiName "sheet" then
    match lastAttribute? tag "name", lastAttribute? tag "r:id" with
    | some name, some relationship => { o with reversed := ⟨name, relationship⟩ :: o.reversed }
    | _, _ => o
  else if tag.name = Xml.asciiName "workbookView" then
    if tag.attributes.any (·.key = Xml.asciiName "activeTab") then
      { o with
        activeTab := ((lastAttribute? tag "activeTab").bind
          fun text => natOfBits? 64 text.toList).getD 0 }
    else o
  else o

/-- The outline after an event. -/
def step (o : Outline) : Xml.Event → Except Fault Outline
  | .start tag => .ok (o.readTag tag)
  | .empty tag => .ok (o.readTag tag)
  | _ => .ok o

end Outline

/-- Reads the workbook part. -/
def readOutline (d : Xml.Document) : Except Fault Outline := readDocument Outline.step .initial d

/-- A text without the pieces `./` it begins with. -/
def skipHere : List Char → List Char
  | '.' :: '/' :: rest => skipHere rest
  | s => s

/-- The part that a relationship leads to: a target that begins with a slash is absolute, any
other is relative to the place of the workbook part. -/
def resolveTarget (target : String) : String :=
  match target.toList with
  | '/' :: absolute => String.ofList absolute
  | relative => "xl/" ++ String.ofList (skipHere relative)

/-- The worksheet relationships: identifiers and parts, the latest first. -/
abbrev Relationships := List (String × String)

namespace Relationships

/-- Takes a tag into account. -/
def readTag (r : Relationships) (tag : Xml.Tag) : Relationships :=
  if tag.name = Xml.asciiName "Relationship" then
    match lastAttribute? tag "Id", lastAttribute? tag "Target", lastAttribute? tag "Type" with
    | some id, some target, some type =>
      if type.endsWith "/worksheet" then (id, resolveTarget target) :: r else r
    | _, _, _ => r
  else r

/-- The relationships after an event. -/
def step (r : Relationships) : Xml.Event → Except Fault Relationships
  | .start tag => .ok (r.readTag tag)
  | .empty tag => .ok (r.readTag tag)
  | _ => .ok r

/-- The part that an identifier leads to. -/
def part? (r : Relationships) (id : String) : Option String := r.lookup id

end Relationships

/-- Reads the relationships part. -/
def readRelationships (d : Xml.Document) : Except Fault Relationships :=
  readDocument Relationships.step [] d

end SheetInspector.Xlsx
