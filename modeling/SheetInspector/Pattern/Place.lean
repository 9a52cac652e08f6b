set_option autoImplicit false

/-! # Places in a pattern

Where something stands in the text of a pattern: the number of characters in front of it, and its
line and column, both counted from one.
-/

namespace SheetInspector.Pattern

/-- A place in a pattern. -/
structure Place where
  offset : Nat
  line : Nat
  column : Nat
  deriving DecidableEq, Repr

namespace Place

/-- The place in front of the first character. -/
def first : Place := ⟨0, 1, 1⟩

/-- The place behind a character that stands at a place. -/
def after (p : Place) (c : Char) : Place :=
  if c = '\n' then ⟨p.offset + 1, p.line + 1, 1⟩ else ⟨p.offset + 1, p.line, p.column + 1⟩

end Place

/-- What lies between two places. -/
structure Span where
  start : Place
  stop : Place
  deriving DecidableEq, Repr

namespace Span

/-- Nothing, at a place. -/
def within (p : Place) : Span := ⟨p, p⟩

/-- A character at a place. -/
def char (p : Place) (c : Char) : Span := ⟨p, p.after c⟩

/-- Whether a span stays on one line. -/
def isOneLine (s : Span) : Bool := s.start.line == s.stop.line

end Span

end SheetInspector.Pattern
