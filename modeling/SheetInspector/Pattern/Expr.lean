import SheetInspector.Pattern.Place
import SheetInspector.Pattern.Ranges
import SheetInspector.Pattern.Regex

set_option autoImplicit false

/-! # Written patterns

A pattern as it is written: literals, classes of characters, conditions, groups, repetitions and
choices, each with the span that it takes in the text of the pattern. What a part means depends
on the flags in force where it stands.
-/

namespace SheetInspector.Pattern

/-- A flag that changes what a pattern means. -/
inductive Flag where
  | ignoreCase
  | multiLine
  | dotMatchesAll
  | swapGreed
  | unicode
  /-- Carriage returns end lines too. -/
  | returns
  /-- Blanks and comments in the pattern do not count. -/
  | verbose
  deriving DecidableEq, Repr

/-- A part of a list of flags. -/
inductive FlagItem where
  /-- The flags behind it are switched off. -/
  | negation
  | flag (f : Flag)
  deriving DecidableEq, Repr

/-- What a list of flags says about a flag, if it is in the list. -/
def flagState? (f : Flag) (items : List FlagItem) : Option Bool :=
  if items.contains (.flag f) then
    some (!(items.takeWhile (· != .flag f)).contains .negation)
  else none

/-- A character that stands for itself. -/
structure Literal where
  span : Span
  char : Char
  /-- Whether it is written by two hexadecimal digits. -/
  byteLike : Bool
  deriving DecidableEq, Repr

/-- The classes that are written by a single letter. -/
inductive Shorthand where
  | digit
  | space
  | word
  deriving DecidableEq, Repr

/-- A class that is written by a single letter. -/
structure ShorthandClass where
  span : Span
  kind : Shorthand
  negated : Bool
  deriving DecidableEq, Repr

/-- The class of the characters with a property. -/
structure PropertyClass where
  span : Span
  negated : Bool
  /-- The name of the property, and of a value of it if there is one. -/
  name : List Char
  value : Option (List Char)
  deriving DecidableEq, Repr

/-- A condition as it is written; what some of them mean depends on flags. -/
inductive Assertion where
  | lineStart
  | lineEnd
  | textStart
  | textEnd
  | word (look : WordLook)
  deriving DecidableEq, Repr

/-- How two classes are put together. -/
inductive SetOperation where
  | intersection
  | difference
  | symmetricDifference
  deriving DecidableEq, Repr

/-- What stands between brackets. -/
inductive SetExpr where
  | empty (span : Span)
  | literal (l : Literal)
  | range (span : Span) (low high : Literal)
  /-- A class with a name, within ASCII. -/
  | named (span : Span) (negated : Bool) (set : Ranges)
  | shorthand (c : ShorthandClass)
  | property (c : PropertyClass)
  /-- A class between brackets of its own. -/
  | bracketed (span : Span) (negated : Bool) (body : SetExpr)
  | union (span : Span) (items : List SetExpr)
  | operation (span : Span) (kind : SetOperation) (left right : SetExpr)

/-- The span of a class. -/
def SetExpr.span : SetExpr → Span
  | .empty span => span
  | .literal l => l.span
  | .range span _ _ => span
  | .named span _ _ => span
  | .shorthand c => c.span
  | .property c => c.span
  | .bracketed span _ _ => span
  | .union span _ => span
  | .operation span _ _ _ => span

/-- What kind of group a group is. -/
inductive GroupKind where
  | capture
  /-- A group that flags are given for, possibly none. -/
  | flagged (items : List FlagItem)
  deriving DecidableEq, Repr

/-- A written pattern. -/
inductive Expr where
  | empty (span : Span)
  /-- Flags for the rest of the group. -/
  | flags (span : Span) (items : List FlagItem)
  | literal (l : Literal)
  | dot (span : Span)
  | assertion (span : Span) (kind : Assertion)
  | shorthand (c : ShorthandClass)
  | property (c : PropertyClass)
  /-- A class between brackets; the expression is one of those. -/
  | set (span : Span) (negated : Bool) (body : SetExpr)
  | repetition (span : Span) (least : Nat) (most : Option Nat) (body : Expr)
  | group (span : Span) (kind : GroupKind) (body : Expr)
  | alternation (span : Span) (branches : List Expr)
  | concat (span : Span) (parts : List Expr)

namespace Expr

/-- The span of a pattern. -/
def span : Expr → Span
  | .empty span => span
  | .flags span _ => span
  | .literal l => l.span
  | .dot span => span
  | .assertion span _ => span
  | .shorthand c => c.span
  | .property c => c.span
  | .set span _ _ => span
  | .repetition span _ _ _ => span
  | .group span _ _ => span
  | .alternation span _ => span
  | .concat span _ => span

/-- Whether a repetition can be put behind the pattern. -/
def isRepeatable : Expr → Bool
  | .empty _ => false
  | .flags _ _ => false
  | _ => true

/-- Parts one behind the other, given in reverse order. -/
def ofParts (span : Span) : List Expr → Expr
  | [] => .empty span
  | [part] => part
  | parts => .concat span parts.reverse

end Expr

/-! ## Depth -/

mutual

/-- The first part of a class, from the outside in, that is nested deeper than allowed. -/
def SetExpr.tooDeep? (allowed : Nat) : SetExpr → Option Span
  | .bracketed span _ body =>
    match allowed with
    | 0 => some span
    | n + 1 => body.tooDeep? n
  | .union span items =>
    match allowed with
    | 0 => some span
    | n + 1 => SetExpr.anyTooDeep? n items
  | .operation span _ left right =>
    match allowed with
    | 0 => some span
    | n + 1 =>
      match left.tooDeep? n with
      | some found => some found
      | none => right.tooDeep? n
  | _ => none

/-- The first part of several classes that is nested deeper than allowed. -/
def SetExpr.anyTooDeep? (allowed : Nat) : List SetExpr → Option Span
  | [] => none
  | item :: rest =>
    match item.tooDeep? allowed with
    | some found => some found
    | none => SetExpr.anyTooDeep? allowed rest

end

mutual

/-- The first part of a pattern, from the outside in, that is nested deeper than allowed. -/
def Expr.tooDeep? (allowed : Nat) : Expr → Option Span
  | .set span _ body =>
    match allowed with
    | 0 => some span
    | n + 1 => body.tooDeep? n
  | .repetition span _ _ body =>
    match allowed with
    | 0 => some span
    | n + 1 => body.tooDeep? n
  | .group span _ body =>
    match allowed with
    | 0 => some span
    | n + 1 => body.tooDeep? n
  | .alternation span branches =>
    match allowed with
    | 0 => some span
    | n + 1 => Expr.anyTooDeep? n branches
  | .concat span parts =>
    match allowed with
    | 0 => some span
    | n + 1 => Expr.anyTooDeep? n parts
  | _ => none

/-- The first part of several patterns that is nested deeper than allowed. -/
def Expr.anyTooDeep? (allowed : Nat) : List Expr → Option Span
  | [] => none
  | part :: rest =>
    match part.tooDeep? allowed with
    | some found => some found
    | none => Expr.anyTooDeep? allowed rest

end

/-- How deep patterns may be nested. -/
def nestLimit : Nat := 250

end SheetInspector.Pattern
