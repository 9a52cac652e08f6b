import SheetInspector.Pattern.Expr
import SheetInspector.Pattern.Reading

set_option autoImplicit false

/-! # Escapes

What can stand behind a backslash: characters that would mean something else by themselves,
control characters, code points in hexadecimal digits, classes, and conditions on the place.
-/

namespace SheetInspector.Pattern

/-- A part of a pattern without parts of its own. -/
inductive Primitive where
  | literal (l : Literal)
  | assertion (span : Span) (kind : Assertion)
  | dot (span : Span)
  | shorthand (c : ShorthandClass)
  | property (c : PropertyClass)

namespace Primitive

/-- The span of a primitive. -/
def span : Primitive → Span
  | .literal l => l.span
  | .assertion span _ => span
  | .dot span => span
  | .shorthand c => c.span
  | .property c => c.span

/-- A primitive as a pattern. -/
def expr : Primitive → Expr
  | .literal l => .literal l
  | .assertion span kind => .assertion span kind
  | .dot span => .dot span
  | .shorthand c => .shorthand c
  | .property c => .property c

/-- A primitive as a part of a class. -/
def setExpr : Primitive → Reading SetExpr
  | .literal l => return .literal l
  | .shorthand c => return .shorthand c
  | .property c => return .property c
  | p => Reading.fail .classEscape p.span

/-- A primitive as an end of a range. -/
def rangeEnd : Primitive → Reading Literal
  | .literal l => return l
  | p => Reading.fail .classRangeEnds p.span

end Primitive

namespace Escape

open Reading

/-- The characters that mean something by themselves. -/
def isMeta (c : Char) : Bool := "\\.+*?()|[]\x7b\x7d^$#&-~".contains c

/-- Whether a backslash can stand in front of a character to no effect. -/
def isEscapable (c : Char) : Bool :=
  isMeta c || (c.toNat < 128 && !c.isAlphanum && c ≠ '<' && c ≠ '>')

/-- The code point written by hexadecimal digits that end where the reader is. -/
def codePoint (start stop : Place) (digits : List Char) : Reading Char :=
  let n := Text.hexNumber digits
  if n.isValidChar then return Char.ofNat n else fail .hexInvalid ⟨start, stop⟩

/-- Reads so many hexadecimal digits; the reader is at the first, or behind the last one. -/
def digits (isFirst : Bool) : Nat → Reading (List Char)
  | 0 => return []
  | n + 1 => do
    if !isFirst then
      if !(← bumpSpaced) then fail .escapeEnd (← spanHere)
    match ← current? with
    | none => fail .escapeEnd (← spanHere)
    | some c =>
      if Text.isHexDigit c then return c :: (← digits false n)
      else fail .hexDigit (← spanNext)

/-- Reads a code point of a fixed number of digits. -/
def fixedCode (start : Place) (count : Nat) : Reading Literal := do
  let begin ← here
  let written ← digits true count
  let _ ← bumpSpaced
  let stop ← here
  let c ← codePoint begin stop written
  return ⟨⟨start, stop⟩, c, count == 2⟩

/-- Reads a code point between braces. -/
def bracedCode (start : Place) : Reading Literal := do
  let brace ← here
  let begin := (← spanNext).stop
  let _ ← bumpSpaced
  let written ← takeOf Text.isHexDigit true
  match ← current? with
  | none => fail .escapeEnd ⟨brace, ← here⟩
  | some c =>
    if c ≠ '\x7d' then fail .hexDigit (← spanNext)
    let stop ← here
    let _ ← bumpSpaced
    if written.isEmpty then fail .hexEmpty ⟨brace, ← here⟩
    let c ← codePoint begin stop written
    return ⟨⟨start, ← here⟩, c, false⟩

/-- Reads a code point behind a letter that says how many digits it has without braces. -/
def code (start : Place) (count : Nat) : Reading Literal := do
  if !(← bumpSpaced) then fail .escapeEnd (← spanHere)
  if ← isNext '\x7b' then bracedCode start else fixedCode start count

/-- Splits a text at the first place where another stands. -/
def splitAt? (mark : List Char) (before : List Char) : List Char → Option (List Char × List Char)
  | [] => none
  | c :: rest =>
    if mark.isPrefixOf (c :: rest) then some (before.reverse, (c :: rest).drop mark.length)
    else splitAt? mark (c :: before) rest

/-- The name of a property, and the value of it if there is one. -/
def propertyName (text : List Char) : List Char × Option (List Char) :=
  match [['!', '='], [':'], ['=']].findSome? fun mark => splitAt? mark [] text with
  | some (name, value) => (name, some value)
  | none => (text, none)

/-- Reads the class of a property. -/
def property (start : Place) (negated : Bool) : Reading PropertyClass := do
  if !(← bumpSpaced) then fail .escapeEnd (← spanHere)
  match ← current? with
  | none => fail .escapeEnd (← spanHere)
  | some '\x7b' =>
    let _ ← bumpSpaced
    let text ← takeOf (· ≠ '\x7d') true
    if ← atEnd then fail .escapeEnd (← spanHere)
    let _ ← bump
    let (name, value) := propertyName text
    return ⟨⟨start, ← here⟩, negated, name, value⟩
  | some c =>
    if c = '\\' then fail .propertyInvalid (← spanNext)
    let _ ← bumpSpaced
    return ⟨⟨start, ← here⟩, negated, [c], none⟩

/-- Whether a character can belong to the name of a condition on words. -/
def isWordLookChar (c : Char) : Bool := c.isAlpha || c == '-'

/-- The conditions on words that have names. -/
def wordLooks : List (String × WordLook) :=
  [("start", .start), ("end", .stop), ("start-half", .startHalf), ("end-half", .stopHalf)]

/-- Reads the name of a condition on words between braces. What does not look like one is left for
a repetition. -/
def wordLook? (start : Place) : Reading (Option WordLook) := do
  let saved ← get
  if !(← bumpSpaced) then fail .wordEnd ⟨start, ← here⟩
  let begin ← here
  if !((← current?).any isWordLookChar) then
    set saved
    return none
  let name ← takeOf isWordLookChar true
  if !(← isNext '\x7d') then fail .wordUnclosed ⟨saved.place, ← here⟩
  let stop ← here
  let _ ← bump
  match wordLooks.lookup (String.ofList name) with
  | some look => return some look
  | none => fail .wordUnknown ⟨begin, stop⟩

/-- The control characters that have a letter of their own. -/
def controls : List (Char × Char) :=
  [('a', '\x07'), ('f', '\x0c'), ('t', '\t'), ('n', '\n'), ('r', '\r'), ('v', '\x0b')]

/-- Reads the escape of a letter that is not read any further, and the condition or control
character that it stands for. -/
def letter (start : Place) (c : Char) : Reading Primitive := do
  let _ ← bump
  let span : Span := ⟨start, ← here⟩
  if isEscapable c then return .literal ⟨span, c, false⟩
  match controls.lookup c with
  | some control => return .literal ⟨span, control, false⟩
  | none =>
    match c with
    | 'A' => return .assertion span .textStart
    | 'z' => return .assertion span .textEnd
    | 'b' =>
      let look? ← if ← isNext '\x7b' then wordLook? start else pure none
      match look? with
      | some look => return .assertion ⟨start, ← here⟩ (.word look)
      | none => return .assertion span (.word .boundary)
    | 'B' => return .assertion span (.word .noBoundary)
    | '<' => return .assertion span (.word .start)
    | '>' => return .assertion span (.word .stop)
    | _ => fail .escapeUnknown span

/-- The classes that are written by a single letter. -/
def shorthands : List (Char × Shorthand × Bool) :=
  [('d', .digit, false), ('s', .space, false), ('w', .word, false), ('D', .digit, true),
    ('S', .space, true), ('W', .word, true)]

/-- The number of digits of a code point without braces, for each letter in front of it. -/
def codeLengths : List (Char × Nat) := [('x', 2), ('u', 4), ('U', 8)]

/-- Reads an escape. -/
def escape : Reading Primitive := do
  let start ← here
  if !(← bump) then fail .escapeEnd ⟨start, ← here⟩
  match ← current? with
  | none => fail .escapeEnd ⟨start, ← here⟩
  | some c =>
    if c.isDigit then fail .backreference ⟨start, (← spanNext).stop⟩
    match codeLengths.lookup c with
    | some count => return .literal (← code start count)
    | none =>
      if c = 'p' || c = 'P' then return .property (← property start (c = 'P'))
      else
        match shorthands.lookup c with
        | some (kind, negated) =>
          let _ ← bump
          return .shorthand ⟨⟨start, ← here⟩, kind, negated⟩
        | none => letter start c

end Escape

end SheetInspector.Pattern
