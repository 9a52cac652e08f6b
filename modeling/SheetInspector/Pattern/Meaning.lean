import SheetInspector.Pattern.Bracket
import SheetInspector.Pattern.Expr
import SheetInspector.Pattern.Fault

set_option autoImplicit false

/-! # What patterns mean

A written pattern stands for a regular expression once the flags in force are known. By default
it is about characters; with the flag for that switched off it is about bytes, and then it may
not lead to bytes that are not ASCII other than through whole characters. The properties of
characters beyond ASCII are not at hand, so what needs them is a fault.
-/

namespace SheetInspector.Pattern

/-- The flags in force. -/
structure Mode where
  ignoreCase : Bool
  multiLine : Bool
  dotMatchesAll : Bool
  unicode : Bool
  returns : Bool
  deriving DecidableEq, Repr

namespace Mode

/-- The flags in force where a pattern begins. -/
def initial : Mode := ⟨false, false, false, true, false⟩

/-- The flags in force behind a list of flags. -/
def set (m : Mode) (items : List FlagItem) : Mode :=
  { ignoreCase := (flagState? .ignoreCase items).getD m.ignoreCase
    multiLine := (flagState? .multiLine items).getD m.multiLine
    dotMatchesAll := (flagState? .dotMatchesAll items).getD m.dotMatchesAll
    unicode := (flagState? .unicode items).getD m.unicode
    returns := (flagState? .returns items).getD m.returns }

/-- The code points in question are below this one. -/
def limit (m : Mode) : Nat := if m.unicode then 0x110000 else 0x100

end Mode

/-- A meaning, or the fault that keeps a pattern from having one. -/
abbrev Meaning := Except Fault

namespace Meaning

/-- There is no meaning because of what stands at a span. -/
def fail {α : Type} (kind : FaultKind) (span : Span) : Meaning α := .error ⟨kind, span, none⟩

/-- A condition that has to hold of what stands at a span. -/
def require (condition : Bool) (kind : FaultKind) (span : Span) : Meaning Unit :=
  if condition then .ok () else fail kind span

end Meaning

open Meaning

/-! ## Characters -/

/-- The character of a literal. -/
def Literal.meaning (m : Mode) (l : Literal) : Meaning Char :=
  if !m.unicode && l.byteLike && 0x80 ≤ l.char.toNat then fail .notUtf8 l.span else .ok l.char

/-- A literal as an expression. -/
def Literal.regex (m : Mode) (l : Literal) : Meaning Regex := do
  let c ← l.meaning m
  if !m.ignoreCase then return .one (.single c)
  else if m.unicode then fail .caseUnavailable l.span
  else return .one (Ranges.single c).foldCase

/-- The character of a literal in a class. -/
def Literal.member (m : Mode) (l : Literal) : Meaning Nat := do
  let c ← l.meaning m
  require (m.unicode || c.toNat < 0x80) .unicodeNotAllowed l.span
  return c.toNat

/-- The class of all characters but those that end lines, where these are not to be matched. -/
def dotMeaning (m : Mode) (span : Span) : Meaning Regex := do
  require m.unicode .notUtf8 span
  let excepted : Ranges :=
    if m.dotMatchesAll then .none
    else if m.returns then .ofList [(10, 10), (13, 13)]
    else .ofList [(10, 10)]
  return .one (excepted.complement m.limit)

/-- The name of the class that a shorthand stands for. -/
def Shorthand.className : Shorthand → String
  | .digit => "digit"
  | .space => "space"
  | .word => "word"

/-- The class of a shorthand. -/
def ShorthandClass.meaning (m : Mode) (c : ShorthandClass) : Meaning Ranges := do
  require (!m.unicode) .shorthandUnavailable c.span
  let set := (namedClasses.lookup c.kind.className).getD .none
  require (!c.negated) .notUtf8 c.span
  return set

/-- The name of a property in the form in which names are compared: in lower case, without blanks,
underscores and hyphens, and without a leading `is`. -/
def plainName (name : List Char) : List Char :=
  let lower := name.map Char.toLower
  let leads := ['i', 's'].isPrefixOf lower
  let plain := (if leads then lower.drop 2 else lower).filter fun c =>
    c ≠ ' ' && c ≠ '_' && c ≠ '-' && c.toNat < 0x80
  if leads && plain = ['c'] then ['i', 's', 'c'] else plain

/-- Two properties have values with these names, which are looked up among the values. -/
def valueNames : List String := ["cf", "sc", "lc"]

/-- The fault of the class of a property: no property is at hand. -/
def PropertyClass.fault (m : Mode) (c : PropertyClass) : FaultKind :=
  if !m.unicode then .unicodeNotAllowed
  else if c.value.isNone && valueNames.contains (String.ofList (plainName c.name)) then
    .propertyValueNotFound
  else .propertyNotFound

/-! ## Classes -/

/-- The set as it is once case is ignored, where that is asked for. Beyond ASCII it cannot be, so
then nothing may be in the class but through other classes. -/
def foldedSet (m : Mode) (span : Span) (hasOwn : Bool) (set : Ranges) : Meaning Ranges := do
  if !m.ignoreCase then return set
  else if m.unicode then
    require (!hasOwn) .caseUnavailable span
    return set
  else return set.foldCase

/-- The set of a class that is closed: with case ignored, and then negated, where either is asked
for. -/
def closedSet (m : Mode) (span : Span) (negated hasOwn : Bool) (set : Ranges) : Meaning Ranges := do
  let folded ← foldedSet m span hasOwn set
  let result := if negated then folded.complement m.limit else folded
  require (m.unicode || result.isBelow 0x80) .notUtf8 span
  return result

/-- The set that an operation gives. -/
def SetOperation.apply (limit : Nat) (left right : Ranges) : SetOperation → Ranges
  | .intersection => left.inter limit right
  | .difference => left.diff limit right
  | .symmetricDifference => left.symmDiff limit right

mutual

/-- Whether a class has characters or ranges of its own, rather than through other classes. -/
def SetExpr.hasOwn : SetExpr → Bool
  | .literal _ => true
  | .range _ _ _ => true
  | .union _ items => SetExpr.anyHasOwn items
  | _ => false

/-- Whether any of several classes has characters or ranges of its own. -/
def SetExpr.anyHasOwn : List SetExpr → Bool
  | [] => false
  | item :: rest => item.hasOwn || SetExpr.anyHasOwn rest

end

mutual

/-- The set of a class. -/
def SetExpr.meaning (m : Mode) : SetExpr → Meaning Ranges
  | .empty _ => .ok .none
  | .literal l => do
    let c ← l.member m
    return .ofList [(c, c)]
  | .range _ low high => do
    let a ← low.member m
    let b ← high.member m
    return .ofList [(a, b)]
  | .named span negated set => closedSet m span negated true set
  | .shorthand c => c.meaning m
  | .property c => fail (c.fault m) c.span
  | .bracketed span negated body => do
    let set ← body.meaning m
    closedSet m span negated body.hasOwn set
  | .union _ items => SetExpr.unionMeaning m items
  | .operation _ kind left right => do
    let a ← left.meaning m
    let b ← right.meaning m
    let b ← foldedSet m right.span right.hasOwn b
    let a ← foldedSet m left.span left.hasOwn a
    return kind.apply m.limit a b

/-- The set of a union of classes. -/
def SetExpr.unionMeaning (m : Mode) : List SetExpr → Meaning Ranges
  | [] => .ok .none
  | item :: rest => do
    let a ← item.meaning m
    let b ← SetExpr.unionMeaning m rest
    return a.union b

end

/-! ## Patterns -/

/-- The condition of an assertion. -/
def Assertion.look (m : Mode) : Assertion → Look
  | .lineStart => if m.multiLine then .lineStart m.returns else .textStart
  | .lineEnd => if m.multiLine then .lineEnd m.returns else .textEnd
  | .textStart => .textStart
  | .textEnd => .textEnd
  | .word look => .word look m.unicode

mutual

/-- The regular expression of a pattern, and the flags in force behind it. -/
def Expr.meaning (m : Mode) : Expr → Meaning (Regex × Mode)
  | .empty _ => .ok (.empty, m)
  | .flags _ items => .ok (.empty, m.set items)
  | .literal l => do return (← l.regex m, m)
  | .dot span => do return (← dotMeaning m span, m)
  | .assertion _ kind => .ok (.look (kind.look m), m)
  | .shorthand c => do return (.one (← c.meaning m), m)
  | .property c => fail (c.fault m) c.span
  | .set span negated body => do
    let set ← body.meaning m
    return (.one (← closedSet m span negated body.hasOwn set), m)
  | .repetition _ least most body => do
    let (r, m) ← body.meaning m
    return (r.repeated least most, m)
  | .group _ kind body => do
    match kind with
    | .capture =>
      let (r, _) ← body.meaning m
      return (.group r, m)
    | .flagged items =>
      let (r, _) ← body.meaning (m.set items)
      return (r, m)
  | .alternation _ branches => do
    let (rs, m) ← Expr.meanings m branches
    return (.choice rs, m)
  | .concat _ parts => do
    let (rs, m) ← Expr.meanings m parts
    return (.sequence rs, m)

/-- The regular expressions of patterns one behind the other, and the flags in force behind them. -/
def Expr.meanings (m : Mode) : List Expr → Meaning (List Regex × Mode)
  | [] => .ok ([], m)
  | part :: rest => do
    let (r, m) ← part.meaning m
    let (rs, m) ← Expr.meanings m rest
    return (r :: rs, m)

end

end SheetInspector.Pattern
