import SheetInspector.Proofs.Address.Written

set_option autoImplicit false

/-! # Canonical forms of addresses

Whatever an address is read from, its written form can be made from that text alone: `canonical`
takes away what may be left out of a spelling, and chooses among the forms of a letter and of a
number. So two texts that are read name the same cell exactly if their canonical forms are the same
(`canonical_of_parse`).
-/

namespace SheetInspector.Address

/-- The digits of a row without a plus sign and without zeros in front. -/
def plainRow (s : List Char) : List Char := (s.dropWhile (· == '+')).dropWhile (· == '0')

/-- A text that names a cell in its canonical form: without the blanks around it and without dollar
signs, its letters in upper case and its row in plain decimal. -/
def canonical (s : String) : String :=
  let bare := (Text.trim s.toList).filter (· != '$')
  String.ofList ((bare.takeWhile Char.isAlpha).map Char.toUpper
    ++ plainRow (bare.dropWhile Char.isAlpha))

variable {sign : List Char} {a : Address} {t : List Char}

theorem filter_mark {mark : List Char} (h : Text.Optional '$' mark) :
    mark.filter (· != '$') = [] := by
  rcases h with rfl | rfl
  · rfl
  · rfl

theorem filter_of_ne {s : List Char} (h : ∀ c ∈ s, c ≠ '$') : s.filter (· != '$') = s :=
  List.filter_eq_self.mpr fun c hc => bne_iff_ne.mpr (h c hc)

/-- Without dollar signs, a spelling is letters and a row. -/
theorem Spells.exists_bare (h : Spells sign a t) (hsign : Text.Optional '+' sign) :
    ∃ letters digits, t.filter (· != '$') = letters ++ (sign ++ digits) ∧
      Column.Names letters a.column ∧ Number.Denotes digits a.row := by
  obtain ⟨hmark, hletters, hmark', hdigits⟩ := h
  rename_i mark letters mark' digits
  have hne : ∀ c ∈ letters, c ≠ '$' := by
    rintro c hc rfl
    exact hletters.not_mem (by decide) hc
  refine ⟨letters, digits, ?_, hletters, hdigits⟩
  rw [List.filter_append, List.filter_append, List.filter_append, filter_mark hmark,
    filter_of_ne hne, filter_mark hmark', filter_of_ne (ne_dollar_of_mem hsign hdigits),
    List.nil_append, List.nil_append]

theorem plainRow_append {digits : List Char} {n : Nat} (hsign : Text.Optional '+' sign)
    (h : Number.Denotes digits n) (hn : n ≠ 0) :
    plainRow (sign ++ digits) = Nat.toDigits 10 n := by
  have hdigits : digits.dropWhile (· == '+') = digits := by
    refine Text.dropWhile_of_head? fun c hc => beq_false_of_ne ?_
    rintro rfl
    exact h.not_mem (by decide) (List.mem_of_mem_head? hc)
  have hfront : (sign ++ digits).dropWhile (· == '+') = digits := by
    rcases hsign with rfl | rfl
    · exact hdigits
    · exact hdigits
  rw [plainRow, hfront, h.toDigits_eq hn]

/-- **The written form of an address is the canonical form of every text it is read from.** -/
theorem canonical_eq {s : String} (h : parse s = .ok a) : canonical s = a.text := by
  obtain ⟨⟨hpos, -⟩, sign, hsign, hspells⟩ := parse_eq_ok_iff.mp h
  obtain ⟨letters, digits, hbare, hletters, hdigits⟩ := hspells.exists_bare hsign
  have hrow : ∀ c ∈ sign ++ digits, c.isAlpha = false :=
    isAlpha_of_mem_row (.inl rfl) hsign hdigits
  obtain ⟨htake, hdrop⟩ := Text.takeWhile_dropWhile_append hletters.letters hrow
  refine String.toList_injective ?_
  rw [canonical, hbare, htake, hdrop, plainRow_append hsign hdigits (by omega),
    String.toList_ofList, toList_text, hletters.lettersOf_eq]

/-- **Texts and addresses correspond.** An address that a sheet can have is read from its written
form, and any other is not. Whatever text is read, the address lies within the limits, its written
form is the canonical form of the text, and that is read as the same address. So two texts that are
read name the same cell exactly if their canonical forms are the same. -/
theorem canonical_of_parse :
    (∀ a : Address, (Extent.largest.Holds a → parse a.text = .ok a) ∧
      (¬ Extent.largest.Holds a → ∃ fault, parse a.text = .error fault)) ∧
    (∀ (s : String) (a : Address), parse s = .ok a →
      Extent.largest.Holds a ∧ a.text = canonical s ∧ parse (canonical s) = .ok a) ∧
    ∀ (s t : String) (a b : Address), parse s = .ok a → parse t = .ok b →
      (a = b ↔ canonical s = canonical t) := by
  refine ⟨fun a => ⟨parse_text, exists_error_of_not_holds⟩, ?read, ?same⟩
  case read =>
    intro s a h
    have hholds : Extent.largest.Holds a := (parse_eq_ok_iff.mp h).1
    rw [canonical_eq h]
    exact ⟨hholds, rfl, parse_text hholds⟩
  case same =>
    intro s t a b ha hb
    rw [canonical_eq ha, canonical_eq hb]
    constructor
    · rintro rfl
      rfl
    · intro htext
      have hread : parse a.text = .ok a := parse_text (parse_eq_ok_iff.mp ha).1
      rw [htext, parse_text (parse_eq_ok_iff.mp hb).1] at hread
      cases hread
      rfl

/-- The last cell that a sheet can have, two spellings of another, and an address that none has. -/
theorem canonical_of_parse_spellings :
    parse "XFD1048576" = .ok ⟨1048576, 16384⟩ ∧
      (⟨7, 2⟩ : Address).text = canonical " $b$+07 " ∧ canonical " $b$+07 " = canonical "B7" ∧
      ∃ fault, parse (⟨0, 1⟩ : Address).text = .error fault := by
  obtain ⟨hwritten, hread, hsame⟩ := canonical_of_parse
  have hlast : (⟨1048576, 16384⟩ : Address).text = "XFD1048576" := by decide +kernel
  have hmarked : parse " $b$+07 " = .ok ⟨7, 2⟩ := by rfl
  have hplain : parse "B7" = .ok ⟨7, 2⟩ := by rfl
  refine ⟨?_, (hread _ _ hmarked).2.1, (hsame _ _ _ _ hmarked hplain).mp rfl, ?_⟩
  · rw [← hlast]
    exact (hwritten ⟨1048576, 16384⟩).1 (by decide)
  · exact (hwritten ⟨0, 1⟩).2 (by decide)

end SheetInspector.Address
