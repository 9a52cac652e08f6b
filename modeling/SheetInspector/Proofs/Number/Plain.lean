import Mathlib.Data.List.DropRight
import SheetInspector.Number.Text
import SheetInspector.Proofs.Number.Digits
import SheetInspector.Proofs.Number.Shortest

set_option autoImplicit false

/-! # Plain texts tell numbers apart

A decimal written out with all its places can be read back: the digits are those of a whole number,
and how many of them stand behind the point says by which power of ten it is divided (`read_plain`).
What is written for a magnitude is a decimal that rounds to it and to no other, so different
magnitudes are written differently, and so are all numbers that do not agree, but for NaN
(`text_inj`).
-/

namespace SheetInspector

namespace Decimal

/-! ## Reading a decimal -/

/-- The value of a decimal. -/
def value (d : Decimal) : ℚ :=
  Nat.ofDigitChars 10 d.digits 0 * 10 ^ (d.point - d.digits.length)

/-- The value of digits with at most one point among them. -/
def read (s : List Char) : ℚ :=
  Nat.ofDigitChars 10 (s.filter (· ≠ '.')) 0 / 10 ^ (s.dropWhile (· ≠ '.')).tail.length

variable {s t : List Char} {d : Decimal}

theorem read_whole (hs : '.' ∉ s) : read s = Nat.ofDigitChars 10 s 0 := by
  have hall : ∀ c ∈ s, decide (c ≠ '.') = true := by
    intro c hc
    exact decide_eq_true fun heq => hs (heq ▸ hc)
  rw [read, List.filter_eq_self.mpr hall, List.dropWhile_eq_nil_iff.mpr hall]
  simp

theorem read_fraction (hs : '.' ∉ s) (ht : '.' ∉ t) :
    read (s ++ '.' :: t) = Nat.ofDigitChars 10 (s ++ t) 0 / 10 ^ t.length := by
  have hall (u : List Char) (hu : '.' ∉ u) : ∀ c ∈ u, decide (c ≠ '.') = true := by
    intro c hc
    exact decide_eq_true fun heq => hu (heq ▸ hc)
  rw [read, List.filter_append, List.filter_cons_of_neg (by simp),
    List.filter_eq_self.mpr (hall s hs), List.filter_eq_self.mpr (hall t ht),
    List.dropWhile_append_of_pos (hall s hs), List.dropWhile_cons_of_neg (by simp), List.tail_cons]

theorem ofDigitChars_zeros_append (k : Nat) (s : List Char) :
    Nat.ofDigitChars 10 (zeros k ++ s) 0 = Nat.ofDigitChars 10 s 0 := by
  rw [zeros, Nat.ofDigitChars_append, Nat.ofDigitChars_replicate_zero, Nat.mul_zero]

theorem ofDigitChars_append_zeros (k : Nat) (s : List Char) :
    Nat.ofDigitChars 10 (s ++ zeros k) 0 = 10 ^ k * Nat.ofDigitChars 10 s 0 := by
  rw [zeros, Nat.ofDigitChars_append, Nat.ofDigitChars_replicate_zero]

theorem point_not_mem_zeros (k : Nat) : '.' ∉ zeros k := by
  intro h
  cases List.eq_of_mem_replicate h

/-- The three ways in which a decimal is written out: the point stands before the digits, behind
them or among them. -/
theorem plain_eq (d : Decimal) :
    d.plain = if d.point ≤ 0 then '0' :: '.' :: (zeros (-d.point).toNat ++ d.digits)
      else if (d.digits.length : Int) ≤ d.point then
        d.digits ++ zeros (d.point - d.digits.length).toNat
      else d.digits.take d.point.toNat ++ '.' :: d.digits.drop d.point.toNat := rfl

/-- **A decimal that is written out is read back.** -/
theorem read_plain (h : ∀ c ∈ d.digits, c.isDigit = true) : read d.plain = d.value := by
  have hpoint : '.' ∉ d.digits := fun hmem => by cases h _ hmem
  rw [plain_eq, value]
  split_ifs with hsmall hwhole
  · obtain ⟨k, hk⟩ := Int.eq_ofNat_of_zero_le (show 0 ≤ -d.point by omega)
    have hfront : '.' ∉ zeros k ++ d.digits := by
      rw [List.mem_append, not_or]
      exact ⟨point_not_mem_zeros k, hpoint⟩
    have hzero : (['0'] : List Char) ++ (zeros k ++ d.digits) = zeros (k + 1) ++ d.digits := rfl
    have hexp : d.point - d.digits.length = -((k + d.digits.length : Nat) : Int) := by
      push_cast
      omega
    rw [hk, Int.toNat_natCast]
    show read (['0'] ++ '.' :: (zeros k ++ d.digits)) = _
    rw [read_fraction (by decide) hfront, hzero, ofDigitChars_zeros_append, hexp, zpow_neg,
      zpow_natCast, List.length_append, zeros, List.length_replicate, div_eq_mul_inv]
  · obtain ⟨k, hk⟩ := Int.eq_ofNat_of_zero_le (show 0 ≤ d.point - d.digits.length by omega)
    have hpoint : '.' ∉ d.digits ++ zeros k := by
      rw [List.mem_append, not_or]
      exact ⟨hpoint, point_not_mem_zeros k⟩
    rw [hk, Int.toNat_natCast, read_whole hpoint, ofDigitChars_append_zeros, zpow_natCast]
    push_cast
    ring
  · obtain ⟨k, hk⟩ := Int.eq_ofNat_of_zero_le (show 0 ≤ d.point by omega)
    have htake : '.' ∉ d.digits.take k := fun hmem => hpoint (List.mem_of_mem_take hmem)
    have hdrop : '.' ∉ d.digits.drop k := fun hmem => hpoint (List.mem_of_mem_drop hmem)
    have hexp : d.point - d.digits.length = -((d.digits.length - k : Nat) : Int) := by omega
    rw [hexp, zpow_neg, zpow_natCast, hk, Int.toNat_natCast, read_fraction htake hdrop,
      List.take_append_drop, List.length_drop, div_eq_mul_inv]

/-- The digits and the point of a decimal that is written out. -/
theorem mem_plain (h : ∀ c ∈ d.digits, c.isDigit = true) :
    ∀ c ∈ d.plain, c.isDigit = true ∨ c = '.' := by
  have hzeros (k : Nat) : ∀ c ∈ zeros k, c.isDigit = true := by
    intro c hc
    rw [List.eq_of_mem_replicate hc]
    decide
  intro c hc
  rw [plain_eq] at hc
  split_ifs at hc
  · rcases List.mem_cons.mp hc with rfl | hc
    · exact .inl (by decide)
    · rcases List.mem_cons.mp hc with rfl | hc
      · exact .inr rfl
      · rcases List.mem_append.mp hc with hc | hc
        · exact .inl (hzeros _ c hc)
        · exact .inl (h c hc)
  · rcases List.mem_append.mp hc with hc | hc
    · exact .inl (h c hc)
    · exact .inl (hzeros _ c hc)
  · rcases List.mem_append.mp hc with hc | hc
    · exact .inl (h c (List.mem_of_mem_take hc))
    · rcases List.mem_cons.mp hc with rfl | hc
      · exact .inr rfl
      · exact .inl (h c (List.mem_of_mem_drop hc))

end Decimal

namespace Number

/-! ## Decimals of magnitudes -/

/-- The digits of a decimal without the zeros behind them. -/
theorem toDigits_eq_append (c : Nat) (step : Int) :
    ∃ k, Nat.toDigits 10 c = (decimalOf c step).digits ++ Decimal.zeros k := by
  set digits := Nat.toDigits 10 c
  have hdigits : (decimalOf c step).digits = digits.rdropWhile (· == '0') := rfl
  refine ⟨(digits.rtakeWhile (· == '0')).length, ?_⟩
  have hzeros : digits.rtakeWhile (· == '0')
      = Decimal.zeros (digits.rtakeWhile (· == '0')).length :=
    List.eq_replicate_of_mem fun d hd => by simpa using List.mem_rtakeWhile_imp hd
  rw [hdigits, ← hzeros, List.rdropWhile_append_rtakeWhile]

theorem isDigit_decimalOf (c : Nat) (step : Int) :
    ∀ d ∈ (decimalOf c step).digits, d.isDigit = true := by
  obtain ⟨k, hk⟩ := toDigits_eq_append c step
  intro d hd
  refine Nat.isDigit_of_mem_toDigits (b := 10) (n := c) (by decide) (by decide) ?_
  rw [hk]
  exact List.mem_append_left _ hd

/-- A decimal is worth what it is made of. -/
theorem value_decimalOf (c : Nat) (step : Int) : (decimalOf c step).value = c * 10 ^ step := by
  obtain ⟨k, hk⟩ := toDigits_eq_append c step
  have hvalue : c = 10 ^ k * Nat.ofDigitChars 10 (decimalOf c step).digits 0 := by
    rw [← Decimal.ofDigitChars_append_zeros, ← hk, Nat.ofDigitChars_ten_toDigits]
  have hlength : (Nat.toDigits 10 c).length = (decimalOf c step).digits.length + k := by
    rw [hk, List.length_append, Decimal.zeros, List.length_replicate]
  have hpoint : (decimalOf c step).point - (decimalOf c step).digits.length = k + step := by
    show ((Nat.toDigits 10 c).length + step : Int) - _ = _
    rw [hlength]
    push_cast
    ring
  have hcast : (c : ℚ) = 10 ^ k * Nat.ofDigitChars 10 (decimalOf c step).digits 0 := by
    exact_mod_cast hvalue
  rw [Decimal.value, hpoint, zpow_add₀ (by norm_num), zpow_natCast, hcast]
  ring

/-- What is written for the magnitude with an ordinal. -/
def magnitudeText (ordinal : Nat) : List Char :=
  if ordinal = 0 then ['0'] else (shortest .up ordinal).plain

theorem mem_magnitudeText (ordinal : Nat) :
    ∀ c ∈ magnitudeText ordinal, c.isDigit = true ∨ c = '.' := by
  unfold magnitudeText
  split_ifs with h
  · intro c hc
    rw [List.mem_singleton.mp hc]
    exact .inl (by decide)
  · obtain ⟨c, step, hshortest, -⟩ := shortest_rounds (Nat.pos_of_ne_zero h) .up
    rw [hshortest]
    exact Decimal.mem_plain (isDigit_decimalOf c step)

theorem read_magnitudeText_zero : Decimal.read (magnitudeText 0) = 0 := by
  rw [magnitudeText, if_pos rfl, Decimal.read_whole (by decide)]
  norm_num [Nat.ofDigitChars_cons]

/-- **What is written for a magnitude rounds to it.** -/
theorem rounds_read_magnitudeText {ordinal : Nat} (h : 0 < ordinal) :
    Rounds ordinal (Decimal.read (magnitudeText ordinal)) := by
  obtain ⟨c, step, hshortest, hrounds⟩ := shortest_rounds h .up
  rw [magnitudeText, if_neg h.ne', hshortest, Decimal.read_plain (isDigit_decimalOf c step),
    value_decimalOf]
  exact hrounds

theorem magnitudeText_inj {m n : Nat} (h : magnitudeText m = magnitudeText n) : m = n := by
  have hread := congrArg Decimal.read h
  rcases Nat.eq_zero_or_pos m with rfl | hm
  · rcases Nat.eq_zero_or_pos n with rfl | hn
    · rfl
    · have hpos := (rounds_read_magnitudeText hn).pos hn
      rw [← hread, read_magnitudeText_zero] at hpos
      exact absurd hpos (lt_irrefl _)
  · rcases Nat.eq_zero_or_pos n with rfl | hn
    · have hpos := (rounds_read_magnitudeText hm).pos hm
      rw [hread, read_magnitudeText_zero] at hpos
      exact absurd hpos (lt_irrefl _)
    · have hrounds := rounds_read_magnitudeText hn
      rw [← hread] at hrounds
      exact (rounds_read_magnitudeText hm).unique hrounds

/-! ## Texts of numbers -/

/-- A finite number is written with its sign, unless it is zero. -/
theorem text_finite (negative : Bool) (ordinal : Fin ordinalLimit) :
    (Number.finite negative ordinal).text
      = signText (negative && ordinal.val != 0) ++ magnitudeText ordinal.val := by
  unfold text magnitudeText
  dsimp only
  split_ifs with h
  · simp [h, signText]
  · have hne : (ordinal.val != 0) = true := bne_iff_ne.mpr h
    rw [hne, Bool.and_true]

theorem mem_text_finite {negative : Bool} {ordinal : Fin ordinalLimit} {c : Char}
    (h : c ∈ (Number.finite negative ordinal).text) : c.isDigit = true ∨ c = '.' ∨ c = '-' := by
  rw [text_finite, List.mem_append] at h
  rcases h with h | h
  · unfold signText at h
    split_ifs at h
    · exact .inr (.inr (List.mem_singleton.mp h))
    · cases h
  · rcases mem_magnitudeText _ c h with hdigit | hpoint
    · exact .inl hdigit
    · exact .inr (.inl hpoint)

/-- Whether numbers are written with a character. -/
def isNumeral (c : Char) : Bool := c.isDigit || ['.', '-', 'N', 'a', 'i', 'n', 'f'].contains c

theorem isNumeral_of_mem_text {n : Number} {c : Char} (h : c ∈ n.text) : isNumeral c = true := by
  cases n with
  | nan =>
      have hall : Number.nan.text.all isNumeral = true := by decide
      exact List.all_eq_true.mp hall c h
  | infinite negative =>
      have hall : (Number.infinite negative).text.all isNumeral = true := by
        cases negative with
        | false => decide
        | true => decide
      exact List.all_eq_true.mp hall c h
  | finite negative ordinal =>
      rcases mem_text_finite h with hdigit | rfl | rfl
      · rw [isNumeral, hdigit, Bool.true_or]
      · decide
      · decide

/-- A sign in front of something without one can be told from it. -/
theorem signText_append_inj {a b : Bool} {s t : List Char} (hs : '-' ∉ s) (ht : '-' ∉ t)
    (h : signText a ++ s = signText b ++ t) : a = b ∧ s = t := by
  cases a with
  | false =>
      cases b with
      | false => exact ⟨rfl, h⟩
      | true =>
          have hmem : '-' ∈ signText false ++ s := h ▸ List.mem_cons_self
          exact absurd hmem hs
  | true =>
      cases b with
      | false =>
          have hmem : '-' ∈ signText false ++ t := h ▸ List.mem_cons_self
          exact absurd hmem ht
      | true => exact ⟨rfl, (List.cons.inj h).2⟩

theorem finite_agrees_of_text {a b : Bool} {m n : Fin ordinalLimit}
    (h : (Number.finite a m).text = (Number.finite b n).text) :
    (Number.finite a m).agrees (.finite b n) = true := by
  have hsign (k : Nat) : '-' ∉ magnitudeText k := by
    intro hmem
    rcases mem_magnitudeText k _ hmem with hdigit | hpoint
    · exact absurd hdigit (by decide)
    · exact absurd hpoint (by decide)
  rw [text_finite, text_finite] at h
  obtain ⟨hab, hmagnitude⟩ := signText_append_inj (hsign m) (hsign n) h
  obtain rfl : m = n := Fin.ext (magnitudeText_inj hmagnitude)
  by_cases hzero : m.val = 0
  · simp [agrees, isZero, hzero]
  · have hne : (m.val != 0) = true := bne_iff_ne.mpr hzero
    rw [hne, Bool.and_true, Bool.and_true] at hab
    simp [agrees, hab]

/-- **Numbers that are written alike agree**, or both are NaN. -/
theorem text_inj {m n : Number} (h : m.text = n.text) :
    m.agrees n = true ∨ m = .nan ∧ n = .nan := by
  -- a letter of one text is nowhere in a text with digits
  have hfinite {a : Bool} {k : Fin ordinalLimit} {s : List Char} {c : Char} (hc : c ∈ s)
      (hletter : ¬ (c.isDigit = true ∨ c = '.' ∨ c = '-'))
      (heq : (Number.finite a k).text = s) : False :=
    hletter (mem_text_finite (heq ▸ hc))
  cases m with
  | nan =>
      cases n with
      | nan => exact .inr ⟨rfl, rfl⟩
      | infinite b =>
          have hne : ∀ b, Number.nan.text ≠ (Number.infinite b).text := by decide
          exact absurd h (hne b)
      | finite b k => exact (hfinite (c := 'N') (by decide) (by decide) h.symm).elim
  | infinite a =>
      have hmem : 'i' ∈ (Number.infinite a).text := by
        cases a with
        | false => decide
        | true => decide
      cases n with
      | nan =>
          have hne : ∀ a, (Number.infinite a).text ≠ Number.nan.text := by decide
          exact absurd h (hne a)
      | infinite b =>
          have hall : ∀ a b, (Number.infinite a).text = (Number.infinite b).text →
              (Number.infinite a).agrees (.infinite b) = true := by decide
          exact .inl (hall a b h)
      | finite b k => exact (hfinite hmem (by decide) h.symm).elim
  | finite a k =>
      cases n with
      | nan => exact (hfinite (c := 'N') (by decide) (by decide) h).elim
      | infinite b =>
          have hmem : 'i' ∈ (Number.infinite b).text := by
            cases b with
            | false => decide
            | true => decide
          exact (hfinite hmem (by decide) h).elim
      | finite b l => exact .inl (finite_agrees_of_text h)

end Number

end SheetInspector
