import Mathlib.Tactic
import SheetInspector.Content

set_option autoImplicit false

/-! # Definite content

Content is definite if it can be seen and agrees with itself: a literal is there, numbers are
finite, also where they are the result of a formula, and the text of a formula has its marker.
-/

namespace SheetInspector

/-- Whether there is a value, and not a number that is infinite or none. -/
def Value.Definite : Value → Prop
  | .null => False
  | .number n => n.isFinite = true
  | .boolean _ => True
  | .text _ => True
  | .error _ => True

namespace Value.Definite

variable {v : Value}

theorem ne_null (h : v.Definite) : v ≠ .null := by
  rintro rfl
  cases h

theorem ne_nan (h : v.Definite) : v ≠ .number .nan := by
  rintro rfl
  cases h

end Value.Definite

/-- Whether content is a definite value, or a formula with its marker whose result, if it is known,
is definite. -/
def Content.Definite : Content → Prop
  | .literal v => v.Definite
  | .formula text cached =>
    text.toList.head? = some formulaMarker ∧ ∀ v, cached = some v → v.Definite

namespace Content.Definite

variable {c : Content}

theorem ne_null (h : c.Definite) : c ≠ .literal .null := by
  rintro rfl
  cases h

theorem value_ne_nan (h : c.Definite) : c.value ≠ .number .nan := by
  cases c with
  | literal v => exact Value.Definite.ne_nan h
  | formula text cached =>
      cases cached with
      | none => exact Value.noConfusion
      | some v => exact (h.2 v rfl).ne_nan

/-- Definite content can be seen: it has a value, or else a text. -/
theorem value_or_text (h : c.Definite) : c.value ≠ .null ∨ c.formulaText? ≠ none := by
  cases c with
  | literal v => exact .inl (Value.Definite.ne_null h)
  | formula text cached =>
      have htext : text ≠ "" := by
        rintro rfl
        cases h.1
      refine .inr ?_
      rw [Content.formulaText?, if_neg htext]
      exact Option.some_ne_none text

end Content.Definite

end SheetInspector
