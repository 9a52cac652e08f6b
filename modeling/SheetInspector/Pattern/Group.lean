import SheetInspector.Pattern.Expr
import SheetInspector.Pattern.Reading
import SheetInspector.Text.Letter

set_option autoImplicit false

/-! # Openings of groups

What stands behind an opening parenthesis: nothing, the name of the group, flags for the group,
or flags for the rest of the group outside.
-/

namespace SheetInspector.Pattern

/-- What an opening parenthesis begins. -/
inductive Opening where
  /-- Flags, up to the closing parenthesis. -/
  | flags (span : Span) (items : List FlagItem)
  /-- A group, with the span of its parenthesis. -/
  | group (span : Span) (kind : GroupKind)

namespace Group

open Reading

/-- The letters of flags. -/
def flagLetters : List (Char × Flag) :=
  [('i', .ignoreCase), ('m', .multiLine), ('s', .dotMatchesAll), ('U', .swapGreed),
    ('u', .unicode), ('R', .returns), ('x', .verbose)]

/-- Reads flags up to a colon or a closing parenthesis, behind those in `done`. -/
def flagsFrom (done : List (FlagItem × Span)) : Nat → Reading (List (FlagItem × Span))
  | 0 => return done
  | fuel + 1 => do
    match ← current? with
    | none => return done
    | some c =>
      let span ← spanNext
      if c = ':' || c = ')' then
        match done.getLast? with
        | some (.negation, dangling) => fail .flagDangling dangling
        | _ => return done
      else
        let item ← match c with
          | '-' => pure FlagItem.negation
          | _ => match flagLetters.lookup c with
            | some f => pure (.flag f)
            | none => fail .flagUnknown span
        match done.lookup item with
        | some earlier =>
          throw ⟨if item = .negation then .flagNegations else .flagDuplicate, span, some earlier⟩
        | none =>
          if !(← bump) then fail .flagEnd (← spanHere)
          flagsFrom (done ++ [(item, span)]) fuel

/-- Reads flags, and the colon or closing parenthesis behind them. -/
def flags (opening : Span) (question : Span) : Reading Opening := do
  if ← atEnd then fail .groupUnclosed opening
  let items := (← flagsFrom [] (← get).rest.length).map Prod.fst
  let closed ← isNext ')'
  let _ ← bump
  if closed then
    if items.isEmpty then fail .nothingToRepeat question
    return .flags ⟨opening.start, ← here⟩ items
  else return .group opening (.flagged items)

/-- Whether a character can belong to the name of a group. -/
def isNameChar (isFirst : Bool) (c : Char) : Bool :=
  c = '_' || Text.isLetter c ||
    (!isFirst && (c = '.' || c = '[' || c = ']' || Text.isNumeral c))

/-- Reads the name of a group up to the closing angle bracket. -/
def name : Reading Unit := do
  if ← atEnd then fail .nameEnd (← spanHere)
  let start ← here
  let first ← takeFrom (isNameChar true) false 1
  let further ← if first.isEmpty then pure [] else takeOf (isNameChar false) false
  let stop ← here
  if ← atEnd then fail .nameEnd (← spanHere)
  if !(← isNext '>') then fail .nameInvalid (← spanNext)
  let _ ← bump
  let written := first ++ further
  if written.isEmpty then fail .nameEmpty (.within start)
  match (← get).names.lookup written with
  | some earlier => throw ⟨.nameDuplicate, ⟨start, stop⟩, some earlier⟩
  | none => modify fun s => { s with names := (written, ⟨start, stop⟩) :: s.names }

/-- Reads whichever of several texts comes next; says whether one does. -/
def bumpAny : List String → Reading Bool
  | [] => return false
  | text :: rest => do
    if ← bumpIf text then return true
    else bumpAny rest

/-- Reads what an opening parenthesis begins. -/
def opening : Reading Opening := do
  let parenthesis ← spanNext
  let _ ← bumpSpaced
  if ← bumpAny ["?=", "?!", "?<=", "?<!"] then
    fail .lookAround ⟨parenthesis.start, ← here⟩
  let inner ← spanHere
  if ← bumpAny ["?P<", "?<"] then
    name
    return .group parenthesis .capture
  else if ← bumpIf "?" then flags parenthesis inner
  else return .group parenthesis .capture

end Group

end SheetInspector.Pattern
