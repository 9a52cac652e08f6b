import SheetInspector.Pattern.Escape

set_option autoImplicit false

/-! # Classes between brackets

A class between brackets is a union of characters, ranges of characters and other classes, among
them further classes between brackets and, within these, classes with a name. Two ampersands,
hyphens or tildes put what is on their left, all of it, together with what follows.
-/

namespace SheetInspector.Pattern

/-- The classes with a name, all within ASCII. -/
def namedClasses : List (String × Ranges) :=
  [("alnum", .ofList [(0x30, 0x39), (0x41, 0x5A), (0x61, 0x7A)]),
    ("alpha", .ofList [(0x41, 0x5A), (0x61, 0x7A)]),
    ("ascii", .ofList [(0, 0x7F)]),
    ("blank", .ofList [(9, 9), (0x20, 0x20)]),
    ("cntrl", .ofList [(0, 0x1F), (0x7F, 0x7F)]),
    ("digit", .ofList [(0x30, 0x39)]),
    ("graph", .ofList [(0x21, 0x7E)]),
    ("lower", .ofList [(0x61, 0x7A)]),
    ("print", .ofList [(0x20, 0x7E)]),
    ("punct", .ofList [(0x21, 0x2F), (0x3A, 0x40), (0x5B, 0x60), (0x7B, 0x7E)]),
    ("space", .ofList [(9, 13), (0x20, 0x20)]),
    ("upper", .ofList [(0x41, 0x5A)]),
    ("word", .ofList [(0x30, 0x39), (0x41, 0x5A), (0x5F, 0x5F), (0x61, 0x7A)]),
    ("xdigit", .ofList [(0x30, 0x39), (0x41, 0x46), (0x61, 0x66)])]

/-- The items of a union, in reverse order, and the span that they take. -/
structure SetItems where
  span : Span
  reversed : List SetExpr

namespace SetItems

/-- The union with a further item. -/
def push (u : SetItems) (item : SetExpr) : SetItems :=
  ⟨⟨if u.reversed.isEmpty then item.span.start else u.span.start, item.span.stop⟩,
    item :: u.reversed⟩

/-- The union as a class. -/
def toExpr (u : SetItems) : SetExpr :=
  match u.reversed with
  | [] => .empty u.span
  | [item] => item
  | items => .union u.span items.reverse

end SetItems

/-- What is left open around the place reached in a class. -/
inductive SetFrame where
  /-- A bracket, with what its opening takes, in a union outside of it. -/
  | bracket (outer : SetItems) (opening : Span) (negated : Bool)
  /-- An operation without its right side. -/
  | operation (kind : SetOperation) (left : SetExpr)

namespace SetFrame

/-- Completes the operations around a class up to the innermost bracket. -/
def complete (right : SetExpr) : List SetFrame → SetExpr × List SetFrame
  | .operation kind left :: rest =>
    (.operation ⟨left.span.start, right.span.stop⟩ kind left right, rest)
  | frames => (right, frames)

/-- The opening of the innermost bracket. -/
def opening? : List SetFrame → Option Span
  | [] => none
  | .bracket _ opening _ :: _ => some opening
  | .operation _ _ :: rest => opening? rest

end SetFrame

namespace Bracket

open Reading

/-- Fails because the innermost bracket is not closed. -/
def unclosed {α : Type} (frames : List SetFrame) : Reading α := do
  fail .classUnclosed ((SetFrame.opening? frames).getD (← spanHere))

/-- Reads the hyphens that a class may begin with. -/
def hyphens (start : Place) : Nat → SetItems → Reading SetItems
  | 0, u => return u
  | fuel + 1, u => do
    if ← isNext '-' then
      let u := u.push (.literal ⟨← spanNext, '-', false⟩)
      if !(← bumpSpaced) then fail .classUnclosed (.within start)
      hyphens start fuel u
    else return u

/-- Reads the opening of a bracket: gives the span of it, whether the class is negated, and the
characters that stand for themselves because they come first. -/
def opening : Reading (Span × Bool × SetItems) := do
  let start ← here
  if !(← bumpSpaced) then fail .classUnclosed ⟨start, ← here⟩
  let negated ← isNext '^'
  if negated then
    if !(← bumpSpaced) then fail .classUnclosed ⟨start, ← here⟩
  let u ← hyphens start (← get).rest.length ⟨← spanHere, []⟩
  if u.reversed.isEmpty && (← isNext ']') then
    let u := u.push (.literal ⟨← spanNext, ']', false⟩)
    if !(← bumpSpaced) then fail .classUnclosed ⟨start, ← here⟩
    return (⟨start, ← here⟩, negated, u)
  else return (⟨start, ← here⟩, negated, u)

/-- Reads a class with a name, between brackets and colons, if there is one. -/
def named? : Reading (Option SetExpr) := do
  let saved ← get
  if ← bumpIf "[:" then
    let negated ← bumpIf "^"
    let name ← takeOf (· ≠ ':') false
    if ← bumpIf ":]" then
      match namedClasses.lookup (String.ofList name) with
      | some set => return some (.named ⟨saved.place, ← here⟩ negated set)
      | none => pure ()
  set saved
  return none

/-- Reads a character or an escape. -/
def item : Reading Primitive := do
  match ← current? with
  | some '\\' => Escape.escape
  | some c =>
    let span ← spanNext
    let _ ← bump
    return .literal ⟨span, c, false⟩
  | none => fail .classUnclosed (← spanHere)

/-- Reads a character, a range or an escape. A hyphen makes a range unless a closing bracket or
another hyphen follows. -/
def range (frames : List SetFrame) : Reading SetExpr := do
  let first ← item
  skip
  if ← atEnd then unclosed frames
  let beyond ← peekSpaced?
  if !(← isNext '-') || beyond == some ']' || beyond == some '-' then first.setExpr
  else
    if !(← bumpSpaced) then unclosed frames
    let second ← item
    let span : Span := ⟨first.span.start, second.span.stop⟩
    let low ← first.rangeEnd
    let high ← second.rangeEnd
    if high.char < low.char then fail .classRange span
    return .range span low high

/-- The operations and the character that is doubled for each. -/
def operations : List (Char × SetOperation) :=
  [('&', .intersection), ('-', .difference), ('~', .symmetricDifference)]

/-- Reads a class between brackets. Every round takes a character at least. -/
def readFrom : Nat → List SetFrame → SetItems → Reading Expr
  | 0, frames, _ => unclosed frames
  | fuel + 1, frames, u => do
    skip
    match ← current? with
    | none => unclosed frames
    | some c =>
      if c = '[' then
        match ← if frames.isEmpty then pure none else named? with
        | some class_ => readFrom fuel frames (u.push class_)
        | none =>
          let (span, negated, inner) ← opening
          readFrom fuel (.bracket u span negated :: frames) inner
      else if c = ']' then
        match SetFrame.complete u.toExpr frames with
        | (body, .bracket outer span negated :: rest) =>
          let _ ← bump
          let span : Span := ⟨span.start, ← here⟩
          if rest.isEmpty then return .set span negated body
          else readFrom fuel rest (outer.push (.bracketed span negated body))
        | _ => unclosed frames
      else
        let doubled := (← peek?) == some c
        match if doubled then operations.lookup c else none with
        | some kind =>
          let _ ← bump
          let _ ← bump
          let (left, frames) := SetFrame.complete u.toExpr frames
          readFrom fuel (.operation kind left :: frames) ⟨← spanHere, []⟩
        | none => readFrom fuel frames (u.push (← range frames))

/-- Reads a class between brackets. -/
def read : Reading Expr := do
  let s ← get
  readFrom (s.rest.length + 1) [] ⟨.within s.place, []⟩

end Bracket

end SheetInspector.Pattern
