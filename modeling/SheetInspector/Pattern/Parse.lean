import SheetInspector.Pattern.Bracket
import SheetInspector.Pattern.Group

set_option autoImplicit false

/-! # Reading patterns

A pattern is a choice between sequences of parts. What is left open around the place reached,
groups and choices, is kept on a stack, so that the fault of a group that is not closed names the
innermost one.
-/

namespace SheetInspector.Pattern

/-- What is left open around the place reached in a pattern. -/
inductive Frame where
  /-- A group with its opening parenthesis, and the sequence that it stands in: its beginning, and
  the parts in front of the group in reverse order. -/
  | group (start : Place) (before : List Expr) (opening : Span) (kind : GroupKind)
    (verbose : Bool)
  /-- A choice: its beginning, and the branches so far in reverse order. -/
  | choice (start : Place) (branches : List Expr)

namespace Parse

open Reading

/-- Reads a number. Blanks around it do not count. Its fault is given, not raised. -/
def decimal : Reading (Except Fault Nat) := do
  let _ ← takeOf Text.isBlank false
  let start ← here
  let written ← takeOf Char.isDigit true
  let span : Span := ⟨start, ← here⟩
  let _ ← takeOf Text.isBlank true
  let n := written.foldl (fun n c => n * 10 + (c.toNat - '0'.toNat)) 0
  if written.isEmpty then return .error ⟨.countEmpty, span, none⟩
  else if 0xFFFFFFFF < n then return .error ⟨.decimalInvalid, span, none⟩
  else return .ok n

/-- The part that a repetition is about, and the parts in front of it. -/
def repeated : List Expr → Reading (Expr × List Expr)
  | [] => do fail .nothingToRepeat (← spanHere)
  | part :: before => do
    if part.isRepeatable then return (part, before)
    else fail .nothingToRepeat (← spanHere)

/-- The numbers of an uncounted repetition. -/
def uncounted : Char → Option (Nat × Option Nat)
  | '?' => some (0, some 1)
  | '*' => some (0, none)
  | '+' => some (1, none)
  | _ => none

/-- Reads an uncounted repetition of the last part. -/
def repeatUncounted (least : Nat) (most : Option Nat) (parts : List Expr) :
    Reading (List Expr) := do
  let (part, before) ← repeated parts
  if ← bump then
    if ← isNext '?' then let _ ← bump
  return .repetition ⟨part.span.start, ← here⟩ least most part :: before

/-- Reads the numbers of a counted repetition. -/
def counts (start : Place) : Reading (Nat × Option Nat) := do
  let unclosed {α : Type} : Reading α := do fail .countUnclosed ⟨start, ← here⟩
  if !(← bumpSpaced) then unclosed
  let first ← decimal
  if ← atEnd then unclosed
  if ← isNext ',' then
    if !(← bumpSpaced) then unclosed
    if ← isNext '\x7d' then return (← first, none)
    else
      let least ← first
      return (least, some (← (← decimal)))
  else
    let n ← first
    return (n, some n)

/-- Reads a counted repetition of the last part. -/
def repeatCounted (parts : List Expr) : Reading (List Expr) := do
  let start ← here
  let (part, before) ← repeated parts
  let (least, most) ← counts start
  if !(← isNext '\x7d') then fail .countUnclosed ⟨start, ← here⟩
  if ← bumpSpaced then
    if ← isNext '?' then let _ ← bump
  let stop ← here
  if most.any (· < least) then fail .countOrder ⟨start, stop⟩
  return .repetition ⟨part.span.start, stop⟩ least most part :: before

/-- Reads a part without parts of its own. -/
def primitive (c : Char) : Reading Expr := do
  if c = '\\' then return (← Escape.escape).expr
  let span ← spanNext
  let _ ← bump
  match c with
  | '.' => return .dot span
  | '^' => return .assertion span .lineStart
  | '$' => return .assertion span .lineEnd
  | _ => return .literal ⟨span, c, false⟩

/-- Sets whether blanks and comments do not count. -/
def setVerbose (verbose : Bool) : Reading Unit := modify fun s => { s with verbose }

/-- The pattern where it ends: a sequence that begins at `start`, given in reverse order, inside of
what is left open. -/
def finish (frames : List Frame) (start : Place) (parts : List Expr) : Reading Expr := do
  let stop ← here
  let last := Expr.ofParts ⟨start, stop⟩ parts
  match frames with
  | [] => return last
  | .choice begin branches :: rest =>
    match rest with
    | .group _ _ opening _ _ :: _ => fail .groupUnclosed opening
    | _ => return .alternation ⟨begin, stop⟩ (last :: branches).reverse
  | .group _ _ opening _ _ :: _ => fail .groupUnclosed opening

/-- Reads the rest of a pattern behind a sequence that begins at `start`, given in reverse order.
Every round takes a character at least. -/
def readFrom : Nat → List Frame → Place → List Expr → Reading Expr
  | 0, frames, start, parts => finish frames start parts
  | fuel + 1, frames, start, parts => do
    skip
    match ← current? with
    | none => finish frames start parts
    | some c =>
      if c = '(' then
        match ← Group.opening with
        | .flags span items =>
          setVerbose ((flagState? .verbose items).getD (← get).verbose)
          readFrom fuel frames start (.flags span items :: parts)
        | .group span kind =>
          let verbose := (← get).verbose
          match kind with
          | .flagged items => setVerbose ((flagState? .verbose items).getD verbose)
          | .capture => pure ()
          readFrom fuel (.group start parts span kind verbose :: frames) (← here) []
      else if c = ')' then
        let stop ← here
        let last := Expr.ofParts ⟨start, stop⟩ parts
        let (body, outer) := match frames with
          | .choice begin branches :: rest =>
            (Expr.alternation ⟨begin, stop⟩ (last :: branches).reverse, rest)
          | _ => (last, frames)
        match outer with
        | .group outerStart before opening kind verbose :: rest =>
          setVerbose verbose
          let _ ← bump
          readFrom fuel rest outerStart (.group ⟨opening.start, ← here⟩ kind body :: before)
        | _ => fail .groupUnopened (← spanNext)
      else if c = '|' then
        let stop ← here
        let last := Expr.ofParts ⟨start, stop⟩ parts
        let _ ← bump
        match frames with
        | .choice begin branches :: rest =>
          readFrom fuel (.choice begin (last :: branches) :: rest) (← here) []
        | _ => readFrom fuel (.choice start [last] :: frames) (← here) []
      else if c = '[' then
        let set ← Bracket.read
        readFrom fuel frames start (set :: parts)
      else if c = '\x7b' then readFrom fuel frames start (← repeatCounted parts)
      else
        match uncounted c with
        | some (least, most) =>
          readFrom fuel frames start (← repeatUncounted least most parts)
        | none => readFrom fuel frames start ((← primitive c) :: parts)

end Parse

/-- Reads a pattern. -/
def Expr.read (pattern : List Char) : Except Fault Expr := do
  let (e, _) ← (Parse.readFrom (pattern.length + 1) [] .first []).run (.start pattern)
  match e.tooDeep? nestLimit with
  | some span => throw ⟨.tooDeep nestLimit, span, none⟩
  | none => return e

end SheetInspector.Pattern
