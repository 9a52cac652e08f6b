import SheetInspector.Xml.Entity

set_option autoImplicit false

/-! # XML events

A document is read as a list of events: the start and the end of elements, elements without
content, and the texts between them. Comments, character data sections, processing
instructions and document types are events without a content of interest; they matter only in
that they divide the text around them.

Names, attributes and texts are kept as the bytes of the document. They are decoded, and
references in them replaced, only where their content is asked for, so a fault in a text that
nobody reads is no fault.
-/

namespace SheetInspector.Xml

/-- What goes wrong when a document is read. -/
inductive Fault where
  /-- The bytes of the document cannot be had. -/
  | damaged (reason : String)
  /-- A text is not UTF-8. -/
  | encoding (fault : Utf8Fault)
  /-- A reference in a text is wrong. -/
  | entity (fault : EntityFault)
  /-- A construct is not closed, or is none of those that begin like it. -/
  | unfinished (construct : String)
  /-- An end tag does not match the innermost open element. -/
  | mismatch (expected found : String)
  /-- No construct begins with `<!` and this byte. -/
  | unknownMarkup (byte : UInt8)
  /-- A document type without a content. -/
  | emptyDoctype
  deriving DecidableEq, Repr

namespace Fault

/-- The report of a fault. -/
def message : Fault → String
  | .damaged reason => "I/O error: " ++ reason
  | .encoding fault => "Malformed UTF-8 input: " ++ fault.message
  | .entity fault => fault.message
  | .unfinished construct => "Unexpected EOF during reading " ++ construct
  | .mismatch expected found => "Expecting </" ++ expected ++ "> found </" ++ found ++ ">"
  | .unknownMarkup byte =>
    "Only Comment (`--`), CDATA (`[CDATA[`) and DOCTYPE (`DOCTYPE`) nodes can start with a " ++
      "'!', but symbol `" ++ (Char.ofNat byte.toNat).toString ++ "` found"
  | .emptyDoctype => "DOCTYPE declaration must not be empty"

/-- The reports of what is behind a fault. -/
def causes : Fault → List String
  | .damaged reason => [reason]
  | .encoding fault => [fault.message]
  | .entity fault => [fault.message]
  | _ => []

end Fault

/-- White space between the parts of a tag: space, tabulator, carriage return, line feed. -/
def isSpace (b : UInt8) : Bool := b == 32 || b == 9 || b == 13 || b == 10

/-- The text of a piece of a document: decoded, with its references replaced. -/
def unescape (raw : Bytes) : Except Fault String :=
  match Utf8.decode raw with
  | .error fault => .error (.encoding fault)
  | .ok s =>
    match Entity.replace s with
    | .error fault => .error (.entity fault)
    | .ok text => .ok (String.ofList text)

/-- A start tag or the tag of an element without content. -/
structure Tag where
  name : Bytes
  /-- Everything after the name. -/
  rest : Bytes
  deriving DecidableEq, Repr

/-- An attribute of a tag. -/
structure Attribute where
  key : Bytes
  value : Bytes
  deriving DecidableEq, Repr

/-- An event of a document. -/
inductive Event where
  | start (tag : Tag)
  | empty (tag : Tag)
  | finish (name : Bytes)
  | text (raw : Bytes)
  /-- A comment, a character data section, a processing instruction or a document type. -/
  | aside
  deriving DecidableEq, Repr

/-- The events of a document up to its end or up to the fault that ends its reading. -/
structure Document where
  events : List Event
  fault : Option Fault
  deriving DecidableEq, Repr

/-- The bytes of a name in ASCII. -/
def asciiName (s : String) : Bytes := s.toList.map fun c => c.toNat.toUInt8

/-! ## Attributes -/

/-- Whether a byte can belong to the key of an attribute, apart from its first byte. -/
def isKeyByte (b : UInt8) : Bool := b != 61 && !isSpace b

/-- Whether a byte is a quotation mark or an apostrophe. -/
def isQuote (b : UInt8) : Bool := b == 34 || b == 39

theorem length_dropWhile_le (p : UInt8 → Bool) (s : Bytes) :
    (s.dropWhile p).length ≤ s.length :=
  (List.dropWhile_sublist p).length_le

/-- The attributes among the bytes of a tag, where the keys in `seen` have occurred already.

An attribute is a key, an equals sign and a quoted value. What is not an attribute is skipped:
a key without an equals sign, and a value without quotes up to the next white space. Of a key
that has occurred before, everything from the equals sign up to the next white space is
skipped, even where that stands between quotes. A quote that is not closed ends the list. -/
def attributesFrom (seen : List Bytes) (s : Bytes) : List Attribute :=
  match hs : s.dropWhile isSpace with
  | [] => []
  | first :: tail =>
    have hs' := length_dropWhile_le isSpace s
    let key := first :: tail.takeWhile isKeyByte
    match ha : (tail.dropWhile isKeyByte).dropWhile isSpace with
    | [] => []
    | sign :: rest =>
      have ha' := length_dropWhile_le isSpace (tail.dropWhile isKeyByte)
      have hk := length_dropWhile_le isKeyByte tail
      have hrest : (sign :: rest).length < s.length := by
        rw [hs, List.length_cons] at hs'
        rw [ha] at ha'
        omega
      if sign ≠ 61 then attributesFrom seen (sign :: rest)
      else if seen.contains key then
        have hd := length_dropWhile_le (!isSpace ·) (sign :: rest)
        have hdropped : ((sign :: rest).dropWhile (!isSpace ·)).length < s.length := by omega
        attributesFrom seen ((sign :: rest).dropWhile (!isSpace ·))
      else
        match hv : rest.dropWhile isSpace with
        | [] => []
        | quote :: body =>
          have hv' := length_dropWhile_le isSpace rest
          if isQuote quote then
            match hb : body.dropWhile (· != quote) with
            | [] => []
            | _ :: after =>
              have hb' := length_dropWhile_le (· != quote) body
              have hafter : after.length < s.length := by
                rw [hv, List.length_cons] at hv'
                rw [hb, List.length_cons] at hb'
                rw [List.length_cons] at hrest
                omega
              ⟨key, body.takeWhile (· != quote)⟩ :: attributesFrom (key :: seen) after
          else
            have hu := length_dropWhile_le (!isSpace ·) (quote :: body)
            have hunquoted : ((quote :: body).dropWhile (!isSpace ·)).length < s.length := by
              rw [hv] at hv'
              rw [List.length_cons] at hrest
              omega
            attributesFrom (key :: seen) ((quote :: body).dropWhile (!isSpace ·))
termination_by s.length

/-- The attributes of a tag in their order. -/
def Tag.attributes (t : Tag) : List Attribute := attributesFrom [] t.rest

end SheetInspector.Xml
