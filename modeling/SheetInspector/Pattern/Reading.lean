import SheetInspector.Pattern.Fault
import SheetInspector.Text.Blank
import SheetInspector.Text.Hexadecimal

set_option autoImplicit false

/-! # Reading a pattern

A pattern is read character by character. What is left of it, the place reached and the names of
groups are kept while reading, and the first fault ends it. Where the pattern is verbose, blanks
do not count, nor does anything from a number sign up to the end of its line.
-/

namespace SheetInspector.Pattern

/-- The state of reading a pattern. -/
structure Cursor where
  rest : List Char
  place : Place
  /-- Whether blanks and comments do not count. -/
  verbose : Bool
  /-- The names of groups so far. -/
  names : List (List Char × Span)

/-- The start of a pattern. -/
def Cursor.start (pattern : List Char) : Cursor := ⟨pattern, .first, false, []⟩

/-- Passes over blanks and comments; gives the rest and its place. -/
def skipBlanks (inComment : Bool) (place : Place) : List Char → List Char × Place
  | [] => ([], place)
  | c :: rest =>
    if inComment then skipBlanks (c ≠ '\n') (place.after c) rest
    else if Text.isBlank c then skipBlanks false (place.after c) rest
    else if c = '#' then skipBlanks true (place.after c) rest
    else (c :: rest, place)

/-- The first character that is neither a blank nor a number sign, or else the first of all. Within
a comment no more than its blanks are passed over. -/
def peekBeyond (s : List Char) : Option Char :=
  (beyond false s).orElse fun _ => s.head?
where
  beyond (inComment : Bool) : List Char → Option Char
    | [] => none
    | c :: rest =>
      if Text.isBlank c then beyond inComment rest
      else if !inComment && c = '#' then beyond true rest
      else some c

/-- A computation that reads a pattern. -/
abbrev Reading := StateT Cursor (Except Fault)

namespace Reading

/-- Fails at a span. -/
def fail {α : Type} (kind : FaultKind) (span : Span) : Reading α := throw ⟨kind, span, none⟩

/-- The place reached. -/
def here : Reading Place := return (← get).place

/-- Nothing, at the place reached. -/
def spanHere : Reading Span := return .within (← here)

/-- The next character. -/
def current? : Reading (Option Char) := return (← get).rest.head?

/-- Whether the pattern ends. -/
def atEnd : Reading Bool := return (← get).rest.isEmpty

/-- Whether the next character is a given one. -/
def isNext (c : Char) : Reading Bool := return (← current?) == some c

/-- The span of the next character. -/
def spanNext : Reading Span := do
  let s ← get
  match s.rest with
  | [] => return .within s.place
  | c :: _ => return .char s.place c

/-- The character behind the next one. -/
def peek? : Reading (Option Char) := return (← get).rest.tail.head?

/-- The character behind the next one and behind what does not count. -/
def peekSpaced? : Reading (Option Char) := do
  let s ← get
  return if s.verbose then peekBeyond s.rest.tail else s.rest.tail.head?

/-- Passes over the next character; says whether the pattern goes on. -/
def bump : Reading Bool := do
  let s ← get
  match s.rest with
  | [] => return false
  | c :: rest =>
    set { s with rest, place := s.place.after c }
    return !rest.isEmpty

/-- Passes over what does not count. -/
def skip : Reading Unit := do
  let s ← get
  if s.verbose then
    let (rest, place) := skipBlanks false s.place s.rest
    set { s with rest, place }

/-- Passes over the next character and what does not count behind it; says whether the pattern goes
on. -/
def bumpSpaced : Reading Bool := do
  let _ ← bump
  skip
  return !(← atEnd)

/-- Passes over a text if it is what comes next; says whether it is. -/
def bumpIf (text : String) : Reading Bool := do
  let chars := text.toList
  if chars.isPrefixOf (← get).rest then
    modify fun s => { s with
      rest := s.rest.drop chars.length
      place := chars.foldl Place.after s.place }
    return true
  else return false

/-- Reads characters for as long as they are of a kind. -/
def takeFrom (p : Char → Bool) (spaced : Bool) : Nat → Reading (List Char)
  | 0 => return []
  | fuel + 1 => do
    match ← current? with
    | none => return []
    | some c =>
      if p c then
        let _ ← if spaced then bumpSpaced else bump
        return c :: (← takeFrom p spaced fuel)
      else return []

/-- Reads characters for as long as they are of a kind, no further than the pattern goes. If it is
`spaced`, what does not count is passed over behind each of them. -/
def takeOf (p : Char → Bool) (spaced : Bool) : Reading (List Char) := do
  takeFrom p spaced (← get).rest.length

end Reading

end SheetInspector.Pattern
