import Mathlib.Tactic
import SheetInspector.Number.Notation
import SheetInspector.Proofs.Text.Pieces

set_option autoImplicit false

/-! # Digits of natural numbers

`Denotes` says which natural number decimal digits stand for, zeros in front included. A natural
number of limited size is read from its digits behind an optional plus sign and from nothing else
(`natOfBits?_eq_some_iff`), and its digits without the zeros in front are its decimal text.
-/

namespace SheetInspector

namespace Number

/-- Whether decimal digits stand for a natural number. -/
structure Denotes (s : List Char) (n : Nat) : Prop where
  ne_nil : s ≠ []
  digits : ∀ c ∈ s, c.isDigit = true
  value_eq : Nat.ofDigitChars 10 s 0 = n

theorem Denotes.not_mem {s : List Char} {n : Nat} (h : Denotes s n) {c : Char}
    (hc : c.isDigit = false) : c ∉ s := by
  intro hmem
  rw [h.digits c hmem] at hc
  cases hc

theorem digitsValue_eq (s : List Char) : digitsValue s = Nat.ofDigitChars 10 s 0 := by
  simp only [digitsValue, Nat.ofDigitChars_eq_foldl, Nat.mul_comm]

theorem denotes_toDigits (n : Nat) : Denotes (Nat.toDigits 10 n) n where
  ne_nil := Nat.toDigits_ne_nil
  digits := fun _ hc => Nat.isDigit_of_mem_toDigits (by decide) (by decide) hc
  value_eq := Nat.ofDigitChars_ten_toDigits

/-! ## Zeros in front -/

/-- The character of the value of a digit is that digit. -/
theorem digitChar_of_isDigit {c : Char} (h : c.isDigit = true) :
    Nat.digitChar (c.toNat - 48) = c := by
  have hrange : 48 ≤ c.toNat ∧ c.toNat ≤ 57 := Char.isDigit_iff_toNat.mp h
  rw [← Char.toNat_inj, Nat.toNat_digitChar_of_lt_ten (by omega)]
  omega

/-- Further digits behind a number that is not zero are digits of its text. -/
theorem toDigits_append {n : Nat} (hn : 0 < n) {s : List Char}
    (h : ∀ c ∈ s, c.isDigit = true) :
    Nat.toDigits 10 n ++ s = Nat.toDigits 10 (Nat.ofDigitChars 10 s n) := by
  induction s generalizing n with
  | nil => rw [List.append_nil, Nat.ofDigitChars_nil]
  | cons c s ih =>
      obtain ⟨hc, hs⟩ := List.forall_mem_cons.mp h
      have hrange : 48 ≤ c.toNat ∧ c.toNat ≤ 57 := Char.isDigit_iff_toNat.mp hc
      have hdigit : c.toNat - 48 < 10 := by omega
      have hnext : Nat.toDigits 10 n ++ [c] = Nat.toDigits 10 (10 * n + (c.toNat - 48)) := by
        rw [← Nat.toDigits_append_toDigits (by decide) hn hdigit, Nat.toDigits_of_lt_base hdigit,
          digitChar_of_isDigit hc]
      calc Nat.toDigits 10 n ++ c :: s
          = (Nat.toDigits 10 n ++ [c]) ++ s := by rw [List.append_assoc, List.singleton_append]
        _ = Nat.toDigits 10 (Nat.ofDigitChars 10 s (10 * n + (c.toNat - 48))) := by
            rw [hnext, ih (by omega) hs]
        _ = Nat.toDigits 10 (Nat.ofDigitChars 10 (c :: s) n) := by rw [Nat.ofDigitChars_cons]; rfl

/-- **The digits of a number without the zeros in front are its decimal text.** -/
theorem toDigits_ofDigitChars {s : List Char} (h : ∀ c ∈ s, c.isDigit = true)
    (hvalue : Nat.ofDigitChars 10 s 0 ≠ 0) :
    Nat.toDigits 10 (Nat.ofDigitChars 10 s 0) = s.dropWhile (· == '0') := by
  induction s with
  | nil => exact absurd Nat.ofDigitChars_nil hvalue
  | cons c s ih =>
      obtain ⟨hc, hs⟩ := List.forall_mem_cons.mp h
      rw [Nat.ofDigitChars_cons] at hvalue ⊢
      by_cases hzero : c = '0'
      · subst hzero
        exact ih hs hvalue
      · have hrange : 48 ≤ c.toNat ∧ c.toNat ≤ 57 := Char.isDigit_iff_toNat.mp hc
        have hcode : c.toNat ≠ 48 := fun heq => hzero (Char.toNat_inj.mp heq)
        have hdigit : 10 * 0 + (c.toNat - '0'.toNat) = c.toNat - 48 := by simp
        have hfront : Nat.toDigits 10 (c.toNat - 48) = [c] := by
          rw [Nat.toDigits_of_lt_base (by omega), digitChar_of_isDigit hc]
        rw [hdigit, ← toDigits_append (by omega) hs, hfront, List.dropWhile_cons,
          beq_false_of_ne hzero, if_neg Bool.false_ne_true, List.singleton_append]

theorem Denotes.toDigits_eq {s : List Char} {n : Nat} (h : Denotes s n) (hn : n ≠ 0) :
    Nat.toDigits 10 n = s.dropWhile (· == '0') := by
  have hvalue := h.value_eq
  subst hvalue
  exact toDigits_ofDigitChars h.digits hn

end Number

/-! ## Reading -/

/-- What is made of the digits behind the sign. -/
theorem natOfDigits_eq_some_iff {bits n : Nat} {s : List Char} :
    (if s.isEmpty || !s.all Char.isDigit then none
      else if Number.digitsValue s < Nat.pow 2 bits then some (Number.digitsValue s) else none)
        = some n ↔ Number.Denotes s n ∧ n < 2 ^ bits := by
  rw [Number.digitsValue_eq, Option.ite_none_left_eq_some, Option.ite_none_right_eq_some,
    Option.some.injEq, Bool.or_eq_true, Bool.not_eq_true', not_or, Bool.not_eq_false,
    List.all_eq_true, List.isEmpty_iff]
  constructor
  · rintro ⟨⟨hne, hdigits⟩, hlt, rfl⟩
    exact ⟨⟨hne, hdigits, rfl⟩, hlt⟩
  · rintro ⟨⟨hne, hdigits, rfl⟩, hlt⟩
    exact ⟨⟨hne, hdigits⟩, hlt, rfl⟩

theorem natOfBits?_of_sign {bits n : Nat} {s : List Char} :
    natOfBits? bits ('+' :: s) = some n ↔ Number.Denotes s n ∧ n < 2 ^ bits :=
  natOfDigits_eq_some_iff

theorem natOfBits?_of_ne {bits n : Nat} {s : List Char} (h : ∀ rest, s ≠ '+' :: rest) :
    natOfBits? bits s = some n ↔ Number.Denotes s n ∧ n < 2 ^ bits := by
  rw [natOfBits?]
  · exact natOfDigits_eq_some_iff
  · exact h

/-- **A natural number of limited size is read from its digits**, with or without a plus sign in
front of them. -/
theorem natOfBits?_eq_some_iff {bits n : Nat} {s : List Char} :
    natOfBits? bits s = some n ↔
      ∃ sign digits, Text.Optional '+' sign ∧ s = sign ++ digits ∧ Number.Denotes digits n ∧
        n < 2 ^ bits := by
  constructor
  · intro h
    by_cases hsign : ∃ rest, s = '+' :: rest
    · obtain ⟨rest, rfl⟩ := hsign
      exact ⟨['+'], rest, .inr rfl, rfl, natOfBits?_of_sign.mp h⟩
    · exact ⟨[], s, .inl rfl, rfl, (natOfBits?_of_ne (not_exists.mp hsign)).mp h⟩
  · rintro ⟨sign, digits, rfl | rfl, hs, hdigits, hlt⟩
    · rw [hs, List.nil_append]
      refine (natOfBits?_of_ne fun rest hrest => ?_).mpr ⟨hdigits, hlt⟩
      -- a plus sign is no digit
      exact hdigits.not_mem (by decide) (hrest ▸ List.mem_cons_self)
    · rw [hs, List.singleton_append]
      exact natOfBits?_of_sign.mpr ⟨hdigits, hlt⟩

end SheetInspector
