import SheetInspector.Value

set_option autoImplicit false

/-! # Stored content

What a cell stores is decided once, when a file is read: a literal value, or the text of a
formula with the result the file carried for it, if any. Nothing later looks at a text to find
out whether it is a formula.

Reading a cell turns its content into what can be seen of it: a value, a type, and the text
of its formula.
-/

namespace SheetInspector

/-- The character that marks a text as a formula. -/
def formulaMarker : Char := '='

/-- What is stored in a cell. -/
inductive Content where
  /-- A plain value. -/
  | literal (value : Value)
  /-- A formula, with its marker, and its result when that is known. -/
  | formula (text : String) (cached : Option Value)
  deriving DecidableEq, Repr

/-- A cell as it is read: the value shown, the type of what is stored, and the text of the
formula. -/
structure Cell where
  value : Value
  kind : Kind
  formula : Option String
  deriving DecidableEq, Repr

/-- A cell that stores nothing. -/
def Cell.blank : Cell := ⟨.null, .null, none⟩

namespace Content

/-- Whether the content is the literal that stands for nothing. -/
def isNull : Content → Bool
  | .literal value => value.isNull
  | .formula _ _ => false

/-- Whether the content is a formula. -/
def isFormula : Content → Bool
  | .literal _ => false
  | .formula _ _ => true

/-- The type of the content. -/
def kind : Content → Kind
  | .literal value => value.kind
  | .formula _ _ => .formula

/-- The value shown: the literal, or the known result of a formula. -/
def value : Content → Value
  | .literal value => value
  | .formula _ cached => cached.getD .null

/-- The text of a formula, unless it is empty. -/
def formulaText? : Content → Option String
  | .literal _ => none
  | .formula text _ => if text = "" then none else some text

/-- The cell that is seen where this content is stored. -/
def cell (c : Content) : Cell := ⟨c.value, c.kind, c.formulaText?⟩

theorem isNull_iff (c : Content) : c.isNull = true ↔ c = .literal .null := by
  cases c with
  | literal value => rw [isNull, Value.isNull_iff, literal.injEq]
  | formula text cached => simp [isNull]

theorem formulaText?_ne_none_iff (c : Content) :
    c.formulaText? ≠ none ↔ ∃ text cached, c = .formula text cached ∧ text ≠ "" := by
  cases c with
  | literal value => simp [formulaText?]
  | formula text cached => by_cases h : text = "" <;> simp [formulaText?, h]

end Content

end SheetInspector
