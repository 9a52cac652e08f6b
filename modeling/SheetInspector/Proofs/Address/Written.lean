import SheetInspector.Proofs.Address.Spelling

set_option autoImplicit false

/-! # Reading a written address

The written form of an address is one of its spellings: the letters of its column and the digits of
its row. Read again, it gives the address back, for every address that a sheet can have
(`parse_text`), and an address that no sheet can have is not read from its written form.
-/

namespace SheetInspector.Address

variable {a : Address}

theorem toList_text (a : Address) :
    a.text.toList = Column.lettersOf a.column ++ Nat.toDigits 10 a.row := by
  rw [text, Column.letters, String.toList_append, String.toList_ofList]
  exact congrArg _ Nat.toList_repr

theorem isAlphanum_of_mem_text : ∀ c ∈ a.text.toList, c.isAlphanum = true := by
  intro c hc
  rw [toList_text] at hc
  rcases List.mem_append.mp hc with hc | hc
  · simp [Char.isAlphanum, Column.isAlpha_of_mem_lettersOf c hc]
  · simp [Char.isAlphanum, (Number.denotes_toDigits a.row).digits c hc]

/-- There are no blanks around a written address. -/
theorem trim_text (a : Address) : Text.trim a.text.toList = a.text.toList :=
  Text.trim_eq_self_iff.mpr (Text.bare_of_not_isBlank fun c hc =>
    Text.isBlank_of_isAlphanum (isAlphanum_of_mem_text c hc))

/-- The written form of an address is one of its spellings. -/
theorem spells_text (h : 1 ≤ a.column) : Spells [] a a.text.toList := by
  rw [toList_text]
  exact .intro (.inl rfl) (Column.names_lettersOf h) (.inl rfl) (Number.denotes_toDigits a.row)

/-- **A written address is read back**, for every address a sheet can have. -/
theorem parse_text (h : Extent.largest.Holds a) : parse a.text = .ok a := by
  refine parse_eq_ok_iff.mpr ⟨h, [], .inl rfl, ?_⟩
  rw [trim_text]
  exact spells_text h.2.2.1

/-- A written form spells no other address. -/
theorem eq_of_spells_text {sign : List Char} {b : Address} (hsign : Text.Optional '+' sign)
    (h : Spells sign b a.text.toList) : b = a := by
  by_cases hcolumn : 1 ≤ a.column
  · exact h.unique hsign (spells_text hcolumn) (.inl rfl)
  · -- column zero has no letters, and every spelling begins with some
    have hzero : a.column = 0 := by omega
    rw [toList_text, hzero, Column.lettersOf_zero, List.nil_append] at h
    obtain ⟨c, hc, halpha⟩ := h.exists_letter
    rw [Text.isAlpha_of_isDigit ((Number.denotes_toDigits a.row).digits c hc)] at halpha
    cases halpha

/-- **An address that no sheet can have is not read.** -/
theorem exists_error_of_not_holds (h : ¬ Extent.largest.Holds a) :
    ∃ fault, parse a.text = .error fault := by
  cases hparse : parse a.text with
  | error fault => exact ⟨fault, rfl⟩
  | ok b =>
      obtain ⟨hholds, sign, hsign, hspells⟩ := parse_eq_ok_iff.mp hparse
      rw [trim_text] at hspells
      rw [eq_of_spells_text hsign hspells] at hholds
      exact absurd hholds h

end SheetInspector.Address
