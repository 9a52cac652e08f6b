import SheetInspector.Proofs.Number.Plain
import SheetInspector.Value

set_option autoImplicit false

/-! # What values are shown as

A value is shown as a bare text, and its type is not part of it. Two values of one type are shown
alike only if they agree or are both NaN. Values of different types are shown alike only if one of
them is a text that spells what the other is shown as (`display_eq_iff`).
-/

namespace SheetInspector

namespace Number

theorem text_of_agrees {m n : Number} (h : m.agrees n = true) : m.text = n.text := by
  have hcases : m = n ∨ m.isZero = true ∧ n.isZero = true := by
    cases m with
    | nan => simp [agrees] at h
    | infinite a => cases n <;> simp_all [agrees, isZero]
    | finite a k => cases n <;> simp_all [agrees]
  rcases hcases with rfl | ⟨hm, hn⟩
  · rfl
  · -- zero is written without its sign
    have hzero (k : Number) (hk : k.isZero = true) : k.text = ['0'] := by
      cases k with
      | nan => cases hk
      | infinite a => cases hk
      | finite a k => rw [text, if_pos (beq_iff_eq.mp hk)]
    rw [hzero m hm, hzero n hn]

end Number

namespace Value

variable {v w : Value}

/-- Whether a value is the text that another one, which is no text, is shown as. -/
def Spells (v w : Value) : Prop := w.kind ≠ .text ∧ v = .text w.display

/-! ## Characters of values that are no texts -/

theorem isNumeral_of_mem_display {n : Number} {c : Char} (h : c ∈ (number n).display.toList) :
    Number.isNumeral c = true := by
  rw [display, String.toList_ofList] at h
  exact Number.isNumeral_of_mem_text h

/-- What is neither a number nor a text has a character that numbers do not have. -/
theorem display_number_ne {n : Number} (hnumber : v.kind ≠ .number) (htext : v.kind ≠ .text) :
    (number n).display ≠ v.display := by
  have hletter : ∃ c ∈ v.display.toList, Number.isNumeral c = false := by
    cases v with
    | null => exact ⟨'u', by decide, by decide⟩
    | boolean b => exact ⟨'E', by cases b <;> decide, by decide⟩
    | number n => exact absurd rfl hnumber
    | text s => exact absurd rfl htext
    | error code => exact ⟨'#', by cases code <;> decide, by decide⟩
  obtain ⟨c, hc, hnot⟩ := hletter
  intro h
  rw [← h] at hc
  rw [isNumeral_of_mem_display hc] at hnot
  cases hnot

/-- Only texts hold a comma. -/
theorem comma_not_mem_display (h : v.kind ≠ .text) : ',' ∉ v.display.toList := by
  cases v with
  | null => decide
  | boolean b => cases b <;> decide
  | number n => exact fun hmem => absurd (isNumeral_of_mem_display hmem) (by decide)
  | text s => exact absurd rfl h
  | error code => cases code <;> decide

/-! ## Values that are shown alike -/

theorem text_of_kind (h : v.kind = .text) : v = .text v.display := by
  cases v with
  | text s => rfl
  | null => cases h
  | boolean b => cases h
  | number n => cases h
  | error code => cases h

/-- Values of different types are shown differently, unless one of them is a text. -/
theorem display_ne_of_kind_ne (hkind : v.kind ≠ w.kind) (hv : v.kind ≠ .text)
    (hw : w.kind ≠ .text) : v.display ≠ w.display := by
  cases v with
  | text s => exact absurd rfl hv
  | number n => exact display_number_ne hkind.symm hw
  | null =>
      cases w with
      | null => exact absurd rfl hkind
      | boolean b => cases b <;> decide
      | number n => exact (display_number_ne hkind hv).symm
      | text s => exact absurd rfl hw
      | error code => cases code <;> decide
  | boolean a =>
      cases w with
      | null => cases a <;> decide
      | boolean b => exact absurd rfl hkind
      | number n => exact (display_number_ne hkind hv).symm
      | text s => exact absurd rfl hw
      | error code => cases a <;> cases code <;> decide
  | error code =>
      cases w with
      | null => cases code <;> decide
      | boolean b => cases b <;> cases code <;> decide
      | number n => exact (display_number_ne hkind hv).symm
      | text s => exact absurd rfl hw
      | error code' => exact absurd rfl hkind

/-- Values of one type are shown differently, unless they agree or are NaN. -/
theorem agrees_of_display (hkind : v.kind = w.kind) (h : v.display = w.display) :
    v.agrees w = true ∨ v = .number .nan ∧ w = .number .nan := by
  cases v with
  | null =>
      cases w with
      | null => exact .inl rfl
      | _ => cases hkind
  | boolean a =>
      cases w with
      | boolean b =>
          have hall : ∀ a b, (boolean a).display = (boolean b).display → a = b := by decide
          rw [hall a b h]
          exact .inl (beq_self_eq_true (boolean b))
      | _ => cases hkind
  | number m =>
      cases w with
      | number n =>
          rcases Number.text_inj (String.ofList_injective h) with hagrees | ⟨rfl, rfl⟩
          · exact .inl hagrees
          · exact .inr ⟨rfl, rfl⟩
      | _ => cases hkind
  | text s =>
      cases w with
      | text t =>
          have hst : s = t := h
          rw [hst]
          exact .inl (beq_self_eq_true (text t))
      | _ => cases hkind
  | error code =>
      cases w with
      | error code' =>
          have hcode : code = code' := by
            cases code <;> cases code' <;> first | rfl | exact absurd h (by decide)
          rw [hcode]
          exact .inl (beq_self_eq_true (error code'))
      | _ => cases hkind

theorem display_of_agrees (h : v.agrees w = true) : v.display = w.display := by
  by_cases hnumber : v.kind = .number ∧ w.kind = .number
  · cases v with
    | number m =>
        cases w with
        | number n => exact congrArg String.ofList (Number.text_of_agrees h)
        | _ => cases hnumber.2
    | _ => cases hnumber.1
  · have heq : v = w := by
      unfold agrees at h
      split at h
      · exact absurd ⟨rfl, rfl⟩ hnumber
      · exact eq_of_beq h
    rw [heq]

/-- **Values are shown alike if they agree**, if both are NaN, or if one of them is a text that
spells what the other one is shown as. -/
theorem display_eq_iff : v.display = w.display ↔
    v.agrees w = true ∨ (v = .number .nan ∧ w = .number .nan) ∨ v.Spells w ∨ w.Spells v := by
  constructor
  · intro h
    by_cases hkind : v.kind = w.kind
    · rcases agrees_of_display hkind h with hagrees | hnan
      · exact .inl hagrees
      · exact .inr (.inl hnan)
    · by_cases hv : v.kind = .text
      · have hw : w.kind ≠ .text := fun hw => hkind (hv.trans hw.symm)
        exact .inr (.inr (.inl ⟨hw, h ▸ text_of_kind hv⟩))
      · by_cases hw : w.kind = .text
        · exact .inr (.inr (.inr ⟨hv, h ▸ text_of_kind hw⟩))
        · exact absurd h (display_ne_of_kind_ne hkind hv hw)
  · rintro (hagrees | ⟨rfl, rfl⟩ | ⟨-, rfl⟩ | ⟨-, rfl⟩)
    · exact display_of_agrees hagrees
    · rfl
    · rfl
    · rfl

end Value

end SheetInspector
