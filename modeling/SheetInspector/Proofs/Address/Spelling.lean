import SheetInspector.Address.Basic
import SheetInspector.Proofs.Address.Letters
import SheetInspector.Proofs.Extent
import SheetInspector.Proofs.Number.Digits

set_option autoImplicit false

/-! # How addresses are spelled

An address is spelled with the letters of its column before the digits of its row, and with a
dollar sign in front of either or not (`Spells`). The reader takes a text apart from the left and
leaves the row to the reader of natural numbers, and that one takes a plus sign in front of the
digits. So the texts that are read are those that, without the blanks around them, spell an address
within the limits, perhaps with a plus sign before the row (`parse_eq_ok_iff`). A text spells at
most one address.
-/

namespace SheetInspector.Address

/-- A text that spells an address, where `sign` stands right in front of the digits of the row. -/
inductive Spells (sign : List Char) (a : Address) : List Char → Prop
  | intro {mark letters mark' digits : List Char} (hmark : Text.Optional '$' mark)
      (hletters : Column.Names letters a.column) (hmark' : Text.Optional '$' mark')
      (hdigits : Number.Denotes digits a.row) :
      Spells sign a (mark ++ (letters ++ (mark' ++ (sign ++ digits))))

/-! ## Taking a text apart -/

theorem skipDollar_of_head? {s : List Char} (h : ∀ c ∈ s.head?, c ≠ '$') : skipDollar s = s := by
  rw [skipDollar]
  rintro rest rfl
  exact h '$' rfl rfl

theorem skipDollar_append {mark s : List Char} (hmark : Text.Optional '$' mark)
    (hs : ∀ c ∈ s.head?, c ≠ '$') : skipDollar (mark ++ s) = s := by
  rcases hmark with rfl | rfl
  · exact skipDollar_of_head? hs
  · rfl

theorem exists_mark (s : List Char) :
    ∃ mark, Text.Optional '$' mark ∧ s = mark ++ skipDollar s := by
  by_cases h : ∀ c ∈ s.head?, c ≠ '$'
  · exact ⟨[], .inl rfl, by rw [skipDollar_of_head? h, List.nil_append]⟩
  · simp only [not_forall, Decidable.not_not] at h
    obtain ⟨c, hc, rfl⟩ := h
    obtain ⟨rest, rfl⟩ := List.head?_eq_some_iff.mp hc
    exact ⟨['$'], .inr rfl, rfl⟩

/-- What stands between the letters and the end holds no letter. -/
theorem isAlpha_of_mem_row {mark sign digits : List Char} {n : Nat}
    (hmark : Text.Optional '$' mark) (hsign : Text.Optional '+' sign)
    (hdigits : Number.Denotes digits n) :
    ∀ c ∈ mark ++ (sign ++ digits), c.isAlpha = false := by
  intro c hc
  rcases List.mem_append.mp hc with hc | hc
  · rw [hmark.eq_of_mem hc]
    rfl
  · rcases List.mem_append.mp hc with hc | hc
    · rw [hsign.eq_of_mem hc]
      rfl
    · exact Text.isAlpha_of_isDigit (hdigits.digits c hc)

theorem ne_dollar_of_mem {sign digits : List Char} {n : Nat} (hsign : Text.Optional '+' sign)
    (hdigits : Number.Denotes digits n) : ∀ c ∈ sign ++ digits, c ≠ '$' := by
  intro c hc
  rcases List.mem_append.mp hc with hc | hc
  · rw [hsign.eq_of_mem hc]
    decide
  · rintro rfl
    exact hdigits.not_mem (by decide) hc

variable {sign : List Char} {a : Address} {t : List Char}

/-- **A text that spells an address is taken apart into its letters and its digits.** -/
theorem Spells.parts (h : Spells sign a t) (hsign : Text.Optional '+' sign) :
    Column.Names ((skipDollar t).takeWhile Char.isAlpha) a.column ∧
      ∃ digits, skipDollar ((skipDollar t).dropWhile Char.isAlpha) = sign ++ digits ∧
        Number.Denotes digits a.row := by
  obtain ⟨hmark, hletters, hmark', hdigits⟩ := h
  rename_i mark letters mark' digits
  obtain ⟨htake, hdrop⟩ := Text.takeWhile_dropWhile_append hletters.letters
    (isAlpha_of_mem_row hmark' hsign hdigits)
  have hhead : ∀ c ∈ (letters ++ (mark' ++ (sign ++ digits))).head?, c ≠ '$' := by
    obtain ⟨c, rest, rfl⟩ := List.exists_cons_of_ne_nil hletters.ne_nil
    rintro d hd rfl
    cases hd
    exact hletters.not_mem (by decide) List.mem_cons_self
  rw [skipDollar_append hmark hhead, htake, hdrop, skipDollar_append hmark' fun c hc =>
    ne_dollar_of_mem hsign hdigits c (List.mem_of_mem_head? hc)]
  exact ⟨hletters, digits, rfl, hdigits⟩

/-- **A text spells at most one address.** -/
theorem Spells.unique {sign' : List Char} {b : Address} (ha : Spells sign a t)
    (hsign : Text.Optional '+' sign) (hb : Spells sign' b t) (hsign' : Text.Optional '+' sign') :
    a = b := by
  obtain ⟨hcolumn, digits, hrest, hdigits⟩ := ha.parts hsign
  obtain ⟨hcolumn', digits', hrest', hdigits'⟩ := hb.parts hsign'
  have hsame : sign ++ digits = sign' ++ digits' := hrest.symm.trans hrest'
  -- a plus sign is no digit, so neither row begins where the other has its sign
  have hplus : '+' ∉ digits := hdigits.not_mem (by decide)
  have hplus' : '+' ∉ digits' := hdigits'.not_mem (by decide)
  have heq : digits = digits' := by
    rcases hsign with rfl | rfl
    · rcases hsign' with rfl | rfl
      · exact hsame
      · rw [List.nil_append] at hsame
        exact absurd (hsame ▸ List.mem_cons_self) hplus
    · rcases hsign' with rfl | rfl
      · rw [List.nil_append] at hsame
        exact absurd (hsame ▸ List.mem_cons_self) hplus'
      · exact List.append_cancel_left hsame
  have hrow : a.row = b.row := by rw [← hdigits.value_eq, ← hdigits'.value_eq, heq]
  have hcol : a.column = b.column := hcolumn.value_eq.symm.trans hcolumn'.value_eq
  cases a
  cases b
  rw [mk.injEq]
  exact ⟨hrow, hcol⟩

theorem Spells.exists_letter (h : Spells sign a t) : ∃ c ∈ t, c.isAlpha = true := by
  obtain ⟨-, hletters, -, -⟩ := h
  obtain ⟨c, hc⟩ := List.exists_mem_of_ne_nil _ hletters.ne_nil
  exact ⟨c, List.mem_append_right _ (List.mem_append_left _ hc), hletters.letters c hc⟩

/-! ## Reading -/

theorem rowOf_eq_ok_iff {whole : String} {s : List Char} {row : Nat} :
    rowOf whole s = .ok row ↔ natOfBits? 32 s = some row ∧ 1 ≤ row ∧ row ≤ maxRows := by
  by_cases hs : s = []
  · subst hs
    exact iff_of_false nofun fun h => nomatch h.1
  · rw [rowOf, List.isEmpty_eq_false_iff.mpr hs, if_neg Bool.false_ne_true]
    cases natOfBits? 32 s with
    | none => simp
    | some n =>
        cases n with
        | zero =>
            refine iff_of_false nofun ?_
            rintro ⟨⟨⟩, ⟨⟩, -⟩
        | succ n =>
            show (if maxRows < n + 1 then _ else Except.ok (n + 1)) = .ok row ↔ _
            rw [Option.some.injEq]
            constructor
            · intro h
              split_ifs at h with hmax
              cases h
              exact ⟨rfl, Nat.le_add_left 1 n, Nat.not_lt.mp hmax⟩
            · rintro ⟨rfl, -, hmax⟩
              exact if_neg (Nat.not_lt.mpr hmax)

/-- The reader takes a text apart in the same way. -/
theorem parse_eq_ok_iff_parts {s : String} {a : Address} :
    parse s = .ok a ↔
      Column.numberOf ((skipDollar (Text.trim s.toList)).takeWhile Char.isAlpha) = .ok a.column ∧
        rowOf (String.ofList (Text.trim s.toList))
          (skipDollar ((skipDollar (Text.trim s.toList)).dropWhile Char.isAlpha)) = .ok a.row := by
  rw [parse]
  generalize Text.trim s.toList = t
  by_cases ht : t = []
  · subst ht
    exact iff_of_false nofun fun h => nomatch h.1
  · simp only [List.isEmpty_eq_false_iff.mpr ht]
    generalize (skipDollar t).takeWhile Char.isAlpha = letters
    by_cases hletters : letters = []
    · subst hletters
      exact iff_of_false nofun fun h => nomatch h.1
    · simp only [List.isEmpty_eq_false_iff.mpr hletters]
      cases Column.numberOf letters with
      | error fault => exact iff_of_false nofun fun h => nomatch h.1
      | ok column =>
          cases rowOf (String.ofList t) (skipDollar ((skipDollar t).dropWhile Char.isAlpha)) with
          | error fault => exact iff_of_false nofun fun h => nomatch h.2
          | ok row =>
              constructor
              · rintro ⟨⟩
                exact ⟨rfl, rfl⟩
              · rintro ⟨⟨⟩, ⟨⟩⟩
                rfl

/-- **The texts that are read are those that spell an address within the limits**, perhaps with a
plus sign in front of the row. -/
theorem parse_eq_ok_iff {s : String} {a : Address} :
    parse s = .ok a ↔ Extent.largest.Holds a ∧
      ∃ sign, Text.Optional '+' sign ∧ Spells sign a (Text.trim s.toList) := by
  rw [parse_eq_ok_iff_parts, Column.numberOf_eq_ok_iff, rowOf_eq_ok_iff, natOfBits?_eq_some_iff]
  constructor
  · rintro ⟨⟨hletters, hcolumns⟩, ⟨sign, digits, hsign, hrest, hdigits, -⟩, hpos, hrows⟩
    refine ⟨⟨hpos, hrows, hletters.one_le, hcolumns⟩, sign, hsign, ?_⟩
    obtain ⟨mark, hmark, hfront⟩ := exists_mark (Text.trim s.toList)
    obtain ⟨mark', hmark', hback⟩ :=
      exists_mark ((skipDollar (Text.trim s.toList)).dropWhile Char.isAlpha)
    rw [hfront, ← List.takeWhile_append_dropWhile (p := Char.isAlpha)
      (l := skipDollar (Text.trim s.toList)), hback, hrest]
    exact .intro hmark hletters hmark' hdigits
  · rintro ⟨⟨hpos, hrows, -, hcolumns⟩, sign, hsign, hspells⟩
    obtain ⟨hletters, digits, hrest, hdigits⟩ := hspells.parts hsign
    have hbits : a.row < 2 ^ 32 := lt_of_le_of_lt hrows (by decide)
    exact ⟨⟨hletters, hcolumns⟩, ⟨sign, digits, hsign, hrest, hdigits, hbits⟩, hpos, hrows⟩

theorem Spells.sign_mem (h : Spells ['+'] a t) : '+' ∈ t := by
  obtain ⟨-, -, -, -⟩ := h
  simp

theorem Spells.plus_not_mem (h : Spells [] a t) : '+' ∉ t := by
  obtain ⟨hmark, hletters, hmark', hdigits⟩ := h
  have hsign {mark : List Char} (hmark : Text.Optional '$' mark) : '+' ∉ mark :=
    fun hmem => absurd (hmark.eq_of_mem hmem) (by decide)
  simp only [List.mem_append, List.not_mem_nil, false_or, not_or]
  exact ⟨hsign hmark, hletters.not_mem (by decide), hsign hmark', hdigits.not_mem (by decide)⟩

/-- **Which texts are read as addresses, and as which.** A text is read if what is left of it
without the blanks around it is an optional dollar sign, the letters of a column, another optional
dollar sign and the digits of a row, where column and row are within the limits; a plus sign may
stand before the digits. So what is read are the spellings without that sign, unless the text is a
spelling with it. -/
theorem parse_accepts (s : String) :
    (∀ a : Address, parse s = .ok a ↔ Extent.largest.Holds a ∧ ∃ t sign,
      Text.Trimmed s.toList t ∧ Text.Optional '+' sign ∧ Spells sign a t) ∧
    ((∀ a : Address, parse s = .ok a ↔ Extent.largest.Holds a ∧ ∃ t,
        Text.Trimmed s.toList t ∧ Spells [] a t) ↔
      ∀ (a : Address) (t : List Char), Extent.largest.Holds a → Text.Trimmed s.toList t →
        ¬ Spells ['+'] a t) := by
  have haccepts : ∀ a : Address, parse s = .ok a ↔ Extent.largest.Holds a ∧ ∃ t sign,
      Text.Trimmed s.toList t ∧ Text.Optional '+' sign ∧ Spells sign a t := by
    intro a
    rw [parse_eq_ok_iff]
    refine and_congr_right fun _ => ?_
    constructor
    · rintro ⟨sign, hsign, hspells⟩
      exact ⟨_, sign, Text.trimmed_trim _, hsign, hspells⟩
    · rintro ⟨t, sign, ht, hsign, hspells⟩
      rw [← Text.trimmed_iff.mp ht] at hspells
      exact ⟨sign, hsign, hspells⟩
  refine ⟨haccepts, ?_, ?_⟩
  · intro hplain a t ha ht hsigned
    obtain ⟨-, t', ht', hspells⟩ :=
      (hplain a).mp ((haccepts a).mpr ⟨ha, t, _, ht, .inr rfl, hsigned⟩)
    -- both are what is left of the text, with a plus sign and without one
    rw [← Text.trimmed_iff.mp ht', Text.trimmed_iff.mp ht] at hspells
    exact hspells.plus_not_mem hsigned.sign_mem
  · intro hunsigned a
    rw [haccepts]
    refine and_congr_right fun ha => ?_
    constructor
    · rintro ⟨t, sign, ht, rfl | rfl, hspells⟩
      · exact ⟨t, ht, hspells⟩
      · exact absurd hspells (hunsigned a t ha ht)
    · rintro ⟨t, ht, hspells⟩
      exact ⟨t, [], ht, .inl rfl, hspells⟩

/-- A row with a plus sign is read, although no address is spelled with one. -/
theorem parse_plusSign :
    parse "A+1" = .ok ⟨1, 1⟩ ∧ ∀ t, Text.Trimmed "A+1".toList t → ∀ a, ¬ Spells [] a t := by
  refine ⟨by rfl, fun t ht a hspells => hspells.plus_not_mem ?_⟩
  rw [← Text.trimmed_iff.mp ht]
  decide

end SheetInspector.Address
