import Mathlib.Data.List.DropRight
import Mathlib.Tactic
import SheetInspector.Xlsx.EscapedText

set_option autoImplicit false

/-! # Which escapes are replaced

`Rewritten` says what decoding a text is, without saying how it is done: the text is read from the
left, an escape that begins where it is read is replaced by its character, and any other character
is kept. The decoder reads on behind the digits of what turns out to be no escape. It does not look
at them again, and it need not: an escape begins with an underscore, and there is none among the
digits, while an underscore that ends them is read as the first character of what follows. So the
decoder gives what the relation says (`rewritten_iff`), and a text without `_x`, at which it does
not look at all, is one that reading would have kept (`decodeEscapes_rewrites`).
-/

namespace SheetInspector.Xlsx

/-- A text that begins with an escape of the character `c`, behind which `rest` stands: between `_x`
and an underscore the code of `c` in four hexadecimal digits. A surrogate is no character, so its
code is no escape. -/
inductive Escaped (c : Char) (rest : List Char) : List Char → Prop
  | intro {d₁ d₂ d₃ d₄ : Char} {n₁ n₂ n₃ n₄ : Nat} (h₁ : Text.hexValue? d₁ = some n₁)
      (h₂ : Text.hexValue? d₂ = some n₂) (h₃ : Text.hexValue? d₃ = some n₃)
      (h₄ : Text.hexValue? d₄ = some n₄)
      (hcode : c.toNat = n₁ * 16 ^ 3 + n₂ * 16 ^ 2 + n₃ * 16 + n₄) :
      Escaped c rest ('_' :: 'x' :: d₁ :: d₂ :: d₃ :: d₄ :: '_' :: rest)

/-- A text with its escapes replaced, from the left and without overlap. -/
inductive Rewritten : List Char → List Char → Prop
  | nil : Rewritten [] []
  | escape {s rest t : List Char} {c : Char} (h : Escaped c rest s) (hrest : Rewritten rest t) :
      Rewritten s (c :: t)
  | copy {s t : List Char} {c : Char} (h : ∀ d rest, ¬ Escaped d rest (c :: s))
      (hs : Rewritten s t) : Rewritten (c :: s) (c :: t)

variable {s rest digits : List Char} {c : Char}

/-! ## Four digits -/

theorem hexNumber_four {d₁ d₂ d₃ d₄ : Char} {n₁ n₂ n₃ n₄ : Nat} (h₁ : Text.hexValue? d₁ = some n₁)
    (h₂ : Text.hexValue? d₂ = some n₂) (h₃ : Text.hexValue? d₃ = some n₃)
    (h₄ : Text.hexValue? d₄ = some n₄) :
    Text.hexNumber [d₁, d₂, d₃, d₄] = n₁ * 16 ^ 3 + n₂ * 16 ^ 2 + n₃ * 16 + n₄ := by
  simp only [Text.hexNumber, List.foldl_cons, List.foldl_nil, h₁, h₂, h₃, h₄, Option.getD_some]
  ring

/-- An escape, with its digits as a list. -/
theorem escaped_iff :
    Escaped c rest s ↔ ∃ digits : List Char, digits.length = 4 ∧
      (∀ d ∈ digits, Text.isHexDigit d = true) ∧ c.toNat = Text.hexNumber digits ∧
        s = '_' :: 'x' :: (digits ++ '_' :: rest) := by
  constructor
  · rintro ⟨h₁, h₂, h₃, h₄, hcode⟩
    refine ⟨[_, _, _, _], rfl, ?_, hcode.trans (hexNumber_four h₁ h₂ h₃ h₄).symm, rfl⟩
    simp [Text.isHexDigit, h₁, h₂, h₃, h₄]
  · rintro ⟨digits, hlength, hdigits, hcode, rfl⟩
    obtain ⟨d₁, tail, rfl, htail⟩ := List.length_eq_succ_iff.mp hlength
    obtain ⟨d₂, d₃, d₄, rfl⟩ := List.length_eq_three.mp htail
    simp only [List.forall_mem_cons, Text.isHexDigit, Option.isSome_iff_exists] at hdigits
    obtain ⟨⟨n₁, h₁⟩, ⟨n₂, h₂⟩, ⟨n₃, h₃⟩, ⟨n₄, h₄⟩, -⟩ := hdigits
    exact ⟨h₁, h₂, h₃, h₄, hcode.trans (hexNumber_four h₁ h₂ h₃ h₄)⟩

theorem Escaped.length_lt (h : Escaped c rest s) : rest.length < s.length := by
  obtain ⟨digits, -, -, -, rfl⟩ := escaped_iff.mp h
  simp only [List.length_cons, List.length_append]
  omega

/-- An escape begins with `_x`. -/
theorem Escaped.starts (h : Escaped c rest s) : ['_', 'x'] <+: s := by
  obtain ⟨digits, -, -, -, rfl⟩ := escaped_iff.mp h
  exact ⟨digits ++ '_' :: rest, rfl⟩

/-! ## What is read behind `_x` -/

theorem leadingDigits_append_drop (s : List Char) :
    leadingDigits s ++ s.drop (leadingDigits s).length = s := by
  have hcut : leadingDigits s <+: s.take 4 := List.takeWhile_prefix _
  exact List.prefix_iff_eq_append.mp (hcut.trans <| List.take_prefix 4 s)

theorem isHexDigit_of_mem_leadingDigits {d : Char} (h : d ∈ leadingDigits s) :
    Text.isHexDigit d = true :=
  List.mem_takeWhile_imp h

theorem leadingDigits_append (hlength : digits.length = 4)
    (hdigits : ∀ d ∈ digits, Text.isHexDigit d = true) (rest : List Char) :
    leadingDigits (digits ++ rest) = digits := by
  rw [leadingDigits, ← hlength, List.take_left, List.takeWhile_eq_self_iff]
  exact hdigits

/-- An underscore is no hexadecimal digit. -/
theorem underscore_not_mem_leadingDigits (s : List Char) : '_' ∉ leadingDigits s := fun h =>
  absurd (isHexDigit_of_mem_leadingDigits h) (by decide)

theorem toNat_ofNat {n : Nat} (h : n.isValidChar) : (Char.ofNat n).toNat = n := by
  rw [Char.ofNat, dif_pos h]
  rfl

theorem escapedChar?_eq_some_iff :
    escapedChar? digits = some c ↔ digits.length = 4 ∧ c.toNat = Text.hexNumber digits := by
  rw [escapedChar?]
  constructor
  · intro h
    obtain ⟨⟨hlength, hvalid⟩, hc⟩ := Option.ite_none_right_eq_some.mp h
    cases hc
    exact ⟨hlength, toNat_ofNat hvalid⟩
  · rintro ⟨hlength, hcode⟩
    rw [← hcode, if_pos ⟨hlength, c.valid⟩, Char.ofNat_toNat]

/-- **What is read behind `_x` is an escape exactly if one begins there.** -/
theorem escapeBehind?_eq_some_iff :
    escapeBehind? s = some (c, rest) ↔ Escaped c rest ('_' :: 'x' :: s) := by
  rw [escaped_iff]
  constructor
  · intro h
    rw [escapeBehind?] at h
    split at h
    · rename_i after hdrop
      obtain ⟨d, hd, hpair⟩ := Option.map_eq_some_iff.mp h
      cases hpair
      obtain ⟨hlength, hcode⟩ := escapedChar?_eq_some_iff.mp hd
      refine ⟨leadingDigits s, hlength, fun d => isHexDigit_of_mem_leadingDigits, hcode, ?_⟩
      rw [← hdrop, leadingDigits_append_drop]
    · cases h
  · rintro ⟨digits, hlength, hdigits, hcode, hs⟩
    obtain rfl : s = digits ++ '_' :: rest := List.tail_eq_of_cons_eq (List.tail_eq_of_cons_eq hs)
    rw [escapeBehind?, leadingDigits_append hlength hdigits, List.drop_left,
      escapedChar?_eq_some_iff.mpr ⟨hlength, hcode⟩]
    rfl

/-! ## The decoder -/

theorem expandEscapes_nil : expandEscapes [] = [] := by
  rw [expandEscapes]

theorem expandEscapes_of_ne (h : c ≠ '_') : expandEscapes (c :: s) = c :: expandEscapes s := by
  rw [expandEscapes]
  intro rest hc
  exact absurd hc h

/-- A piece of text without underscores is kept. -/
theorem expandEscapes_append (h : '_' ∉ digits) :
    expandEscapes (digits ++ rest) = digits ++ expandEscapes rest := by
  induction digits with
  | nil => rfl
  | cons d ds ih =>
      obtain ⟨hd, hds⟩ := not_or.mp (mt List.mem_cons.mpr h)
      rw [List.cons_append, expandEscapes_of_ne (Ne.symm hd), ih hds, List.cons_append]

/-- An escape is replaced by its character. -/
theorem expandEscapes_of_escaped (h : Escaped c rest s) :
    expandEscapes s = c :: expandEscapes rest := by
  obtain ⟨behind, rfl⟩ := h.starts
  have hbehind := escapeBehind?_eq_some_iff.mpr h
  show expandEscapes ('_' :: 'x' :: behind) = c :: expandEscapes rest
  rw [expandEscapes]
  split
  · rename_i after hread
    cases hbehind.symm.trans hread
    rfl
  · rename_i hread
    cases hbehind.symm.trans hread

theorem expandEscapes_of_escapeBehind?_eq_none (h : escapeBehind? s = none) :
    expandEscapes ('_' :: 'x' :: s) =
      '_' :: 'x' :: (leadingDigits s ++ expandEscapes (s.drop (leadingDigits s).length)) := by
  rw [expandEscapes]
  split
  · rename_i hread
    cases h.symm.trans hread
  · rfl

/-- **Where no escape begins, one character is kept.** Behind `_x` the decoder keeps the digits as
well, but these it would keep in any case. -/
theorem expandEscapes_of_not_escaped (h : ∀ d rest, ¬ Escaped d rest (c :: s)) :
    expandEscapes (c :: s) = c :: expandEscapes s := by
  by_cases hx : ['_', 'x'] <+: c :: s
  · obtain ⟨behind, hbehind⟩ := hx
    cases hbehind
    have hnone : escapeBehind? behind = none := Option.eq_none_iff_forall_ne_some.mpr
      fun read hread => h read.1 read.2 (escapeBehind?_eq_some_iff.mp hread)
    have hkept : expandEscapes behind = leadingDigits behind ++
        expandEscapes (behind.drop (leadingDigits behind).length) := by
      rw [← expandEscapes_append (underscore_not_mem_leadingDigits behind),
        leadingDigits_append_drop]
    show expandEscapes ('_' :: 'x' :: behind) = '_' :: expandEscapes ('x' :: behind)
    rw [expandEscapes_of_escapeBehind?_eq_none hnone, expandEscapes_of_ne (by decide), hkept]
  · rw [expandEscapes]
    rintro rest rfl rfl
    exact hx ⟨rest, rfl⟩

theorem rewritten_expandEscapes (s : List Char) : Rewritten s (expandEscapes s) := by
  induction hn : s.length using Nat.strong_induction_on generalizing s with
  | _ n ih =>
      subst hn
      by_cases hs : ∃ c rest, Escaped c rest s
      · obtain ⟨c, rest, h⟩ := hs
        rw [expandEscapes_of_escaped h]
        exact .escape h (ih rest.length h.length_lt rest rfl)
      · simp only [not_exists] at hs
        cases s with
        | nil =>
            rw [expandEscapes_nil]
            exact .nil
        | cons c s =>
            rw [expandEscapes_of_not_escaped hs]
            exact .copy hs (ih s.length (Nat.lt_succ_self _) s rfl)

/-- **The decoder replaces the escapes of a text, from the left and without overlap, and nothing
else.** -/
theorem rewritten_iff {t : List Char} : Rewritten s t ↔ expandEscapes s = t := by
  constructor
  · intro h
    induction h with
    | nil => exact expandEscapes_nil
    | escape h _ ih => rw [expandEscapes_of_escaped h, ih]
    | copy h _ ih => rw [expandEscapes_of_not_escaped h, ih]
  · rintro rfl
    exact rewritten_expandEscapes s

/-! ## Texts that cannot hold an escape -/

theorem mayHoldEscape_iff : mayHoldEscape s = true ↔ ['_', 'x'] <:+: s := by
  fun_induction mayHoldEscape s with
  | case1 rest => exact iff_of_true rfl ⟨[], rest, rfl⟩
  | case2 c rest hne ih =>
      rw [ih, List.infix_cons_iff, or_iff_right]
      rintro ⟨behind, hbehind⟩
      cases hbehind
      exact hne behind rfl rfl
  | case3 => simp

/-- A text without `_x` is kept as it is. -/
theorem expandEscapes_eq_self (h : ¬ ['_', 'x'] <:+: s) : expandEscapes s = s := by
  induction s with
  | nil => exact expandEscapes_nil
  | cons c s ih =>
      rw [expandEscapes_of_not_escaped fun d rest hd => h hd.starts.isInfix,
        ih fun hs => h (List.infix_cons hs)]

/-- Whether a text is looked at or not, what comes out is what the loop makes of it. -/
theorem toList_decodeEscapes (s : String) : (decodeEscapes s).toList = expandEscapes s.toList := by
  rw [decodeEscapes]
  split
  · exact String.toList_ofList
  · rename_i hx
    exact (expandEscapes_eq_self (mt mayHoldEscape_iff.mpr hx)).symm

/-- **What decoding makes of a text.** It is the text with its escapes replaced from the left, and
there is just one such text; a text without `_x` stays as it is, whether or not it is looked at.
What follows an `_x` with which no escape begins is kept up to the next underscore, and there
decoding goes on: if an escape begins with that underscore, it is replaced. -/
theorem decodeEscapes_rewrites :
    (∀ s t : String, decodeEscapes s = t ↔ Rewritten s.toList t.toList) ∧
      (∀ s : String, ¬ ['_', 'x'] <:+: s.toList →
        decodeEscapes s = s ∧ expandEscapes s.toList = s.toList) ∧
      ∀ kept rest : String, '_' ∉ kept.toList →
        (∀ d after, ¬ Escaped d after ("_x" ++ kept ++ rest).toList) →
          decodeEscapes ("_x" ++ kept ++ rest) = "_x" ++ kept ++ decodeEscapes rest ∧
            ∀ (c : Char) (after : String), Escaped c after.toList rest.toList →
              decodeEscapes ("_x" ++ kept ++ rest) =
                "_x" ++ kept ++ String.singleton c ++ decodeEscapes after := by
  refine ⟨fun s t => ?_, fun s hx => ?_, fun kept rest hkept hnone => ?_⟩
  · rw [rewritten_iff, ← toList_decodeEscapes, String.toList_inj]
  · have hs := expandEscapes_eq_self hx
    exact ⟨String.toList_inj.mp ((toList_decodeEscapes s).trans hs), hs⟩
  · have hdecoded : decodeEscapes ("_x" ++ kept ++ rest) = "_x" ++ kept ++ decodeEscapes rest := by
      have hx : "_x".toList = ['_', 'x'] := rfl
      have hbehind : '_' ∉ 'x' :: kept.toList := by
        simpa using hkept
      simp only [← String.toList_inj, toList_decodeEscapes, String.toList_append, hx,
        List.cons_append, List.nil_append] at hnone ⊢
      rw [expandEscapes_of_not_escaped hnone, ← List.cons_append, expandEscapes_append hbehind,
        List.cons_append]
    refine ⟨hdecoded, fun c after h => ?_⟩
    have hrest : decodeEscapes rest = String.singleton c ++ decodeEscapes after := by
      rw [← String.toList_inj, toList_decodeEscapes, expandEscapes_of_escaped h]
      simp [toList_decodeEscapes]
    rw [hdecoded, hrest, String.append_assoc, String.append_assoc, String.append_assoc]

/-- An escape that begins with the underscore at which another one fails. -/
theorem decodeEscapes_overlap : decodeEscapes "_x00_x0041_" = "_x00A" := by
  have hnone : ∀ d after, ¬ Escaped d after ("_x" ++ "00" ++ "_x0041_").toList := by
    intro d after h
    have hread : escapeBehind? "00_x0041_".toList = none := by decide
    cases hread.symm.trans (escapeBehind?_eq_some_iff.mpr h)
  have hescaped : Escaped 'A' "".toList "_x0041_".toList :=
    escapeBehind?_eq_some_iff.mp (by decide)
  exact (decodeEscapes_rewrites.2.2 "00" "_x0041_" (by decide) hnone).2 'A' "" hescaped

end SheetInspector.Xlsx
