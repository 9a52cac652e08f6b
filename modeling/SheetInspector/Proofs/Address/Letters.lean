import Mathlib.Data.Nat.Digits.Defs
import Mathlib.Tactic
import SheetInspector.Address.Letters
import SheetInspector.Proofs.Text.Pieces

set_option autoImplicit false

/-! # The numbers of column names

A column name is a numeral in base 26 with the digits 1 to 26, and `value` is its number. Every
number from one upwards has exactly one name in capital letters: `lettersOf` writes it, and the
name of the number of some letters is the letters themselves, in upper case (`lettersOf_value`).
Reading a name refuses it at the first letter that shows that it is beyond the limit. Further
letters never make a number smaller, so the names that are read are those whose number is within
the limit, however long the others may be (`numberOf_eq_ok_iff`).
-/

namespace SheetInspector.Column

/-! ## Digits -/

/-- The letter of a digit is a letter, and it stands for that digit. -/
theorem digit_letter {d : Nat} (h : d < 26) :
    (letter d).isAlpha = true ∧ digit (letter d) = d + 1 := by
  have hall : ∀ d < 26, (letter d).isAlpha = true ∧ digit (letter d) = d + 1 := by decide
  exact hall d h

theorem toNat_toUpper {c : Char} (h : c.isAlpha = true) :
    65 ≤ c.toUpper.toNat ∧ c.toUpper.toNat ≤ 90 := by
  have hall : ∀ n < 123, (Char.ofNat n).isAlpha = true →
      65 ≤ (Char.ofNat n).toUpper.toNat ∧ (Char.ofNat n).toUpper.toNat ≤ 90 := by decide
  have hcode := Text.toNat_of_isAlpha h
  have hc := hall c.toNat (by omega)
  rw [Char.ofNat_toNat] at hc
  exact hc h

theorem digit_le {c : Char} (h : c.isAlpha = true) : digit c ≤ 26 := by
  have hrange := toNat_toUpper h
  show c.toUpper.toNat - 65 + 1 ≤ 26
  omega

theorem one_le_digit (c : Char) : 1 ≤ digit c := Nat.le_add_left 1 _

/-- The letter of the digit of a letter is that letter in upper case. -/
theorem letter_digit {c : Char} (h : c.isAlpha = true) : letter (digit c - 1) = c.toUpper := by
  have hrange := toNat_toUpper h
  have hcode : 65 + (c.toUpper.toNat - 65 + 1 - 1) = c.toUpper.toNat := by omega
  show Char.ofNat (65 + (c.toUpper.toNat - 65 + 1 - 1)) = c.toUpper
  rw [hcode, Char.ofNat_toNat]

/-! ## Numbers -/

/-- The number in base 26 that letters stand for. -/
def value (s : List Char) : Nat := Nat.ofDigits 26 (s.reverse.map digit)

@[simp] theorem value_nil : value [] = 0 := rfl

theorem value_concat (s : List Char) (c : Char) : value (s ++ [c]) = value s * 26 + digit c := by
  rw [value, List.reverse_append, List.reverse_singleton, List.singleton_append, List.map_cons,
    Nat.ofDigits_cons, ← value]
  omega

theorem value_cons (c : Char) (s : List Char) :
    value (c :: s) = digit c * 26 ^ s.length + value s := by
  rw [value, List.reverse_cons, List.map_append, Nat.ofDigits_append, List.map_singleton,
    Nat.ofDigits_singleton, List.length_map, List.length_reverse, ← value]
  ring

theorem value_ne_zero {s : List Char} (h : s ≠ []) : value s ≠ 0 := by
  cases s with
  | nil => exact absurd rfl h
  | cons c s =>
      have hdigit : 0 < digit c * 26 ^ s.length :=
        Nat.mul_pos (one_le_digit c) (Nat.pow_pos (by decide))
      rw [value_cons]
      omega

/-! ## Writing -/

theorem lettersOf_zero : lettersOf 0 = [] := by rw [lettersOf, dif_pos rfl]

theorem lettersOf_of_ne_zero {n : Nat} (h : n ≠ 0) :
    lettersOf n = lettersOf ((n - 1) / 26) ++ [letter ((n - 1) % 26)] := by
  rw [lettersOf, dif_neg h]

theorem lettersOf_ne_nil {n : Nat} (h : n ≠ 0) : lettersOf n ≠ [] := by
  rw [lettersOf_of_ne_zero h]
  simp

theorem isAlpha_of_mem_lettersOf {n : Nat} : ∀ c ∈ lettersOf n, c.isAlpha = true := by
  induction n using Nat.strong_induction_on with
  | _ n ih =>
      by_cases hn : n = 0
      · simp [hn, lettersOf_zero]
      · intro c hc
        rw [lettersOf_of_ne_zero hn, List.mem_append, List.mem_singleton] at hc
        rcases hc with hc | rfl
        · exact ih ((n - 1) / 26) (by omega) c hc
        · exact (digit_letter (Nat.mod_lt _ (by decide))).1

/-- **The name of a number stands for it.** -/
theorem value_lettersOf (n : Nat) : value (lettersOf n) = n := by
  induction n using Nat.strong_induction_on with
  | _ n ih =>
      by_cases hn : n = 0
      · rw [hn, lettersOf_zero, value_nil]
      · obtain ⟨-, hdigit⟩ := digit_letter (Nat.mod_lt (n - 1) (by decide : 0 < 26))
        rw [lettersOf_of_ne_zero hn, value_concat, ih ((n - 1) / 26) (by omega), hdigit]
        omega

/-- **The name of the number of some letters is these letters**, in upper case. -/
theorem lettersOf_value {s : List Char} (h : ∀ c ∈ s, c.isAlpha = true) :
    lettersOf (value s) = s.map Char.toUpper := by
  -- the name is written from its end, so the induction takes the last letter off
  induction s using List.reverseRecOn with
  | nil => exact lettersOf_zero
  | append_singleton s c ih =>
      have hc : c.isAlpha = true := h c (List.mem_append_right _ (List.mem_singleton_self c))
      have hs : ∀ d ∈ s, d.isAlpha = true := fun d hd => h d (List.mem_append_left _ hd)
      have hone := one_le_digit c
      have hle := digit_le hc
      have hfront : (value s * 26 + digit c - 1) / 26 = value s := by omega
      have hlast : (value s * 26 + digit c - 1) % 26 = digit c - 1 := by omega
      rw [value_concat, lettersOf_of_ne_zero (by omega), hfront, hlast, ih hs, letter_digit hc,
        List.map_append, List.map_singleton]

/-! ## Reading -/

/-- Whether letters name the column with a number. -/
structure Names (s : List Char) (n : Nat) : Prop where
  ne_nil : s ≠ []
  letters : ∀ c ∈ s, c.isAlpha = true
  value_eq : value s = n

theorem Names.not_mem {s : List Char} {n : Nat} (h : Names s n) {c : Char}
    (hc : c.isAlpha = false) : c ∉ s := by
  intro hmem
  rw [h.letters c hmem] at hc
  cases hc

theorem Names.one_le {s : List Char} {n : Nat} (h : Names s n) : 1 ≤ n := by
  have hvalue := value_ne_zero h.ne_nil
  rw [h.value_eq] at hvalue
  omega

theorem Names.lettersOf_eq {s : List Char} {n : Nat} (h : Names s n) :
    lettersOf n = s.map Char.toUpper := by
  rw [← h.value_eq, lettersOf_value h.letters]

theorem names_lettersOf {n : Nat} (h : 1 ≤ n) : Names (lettersOf n) n where
  ne_nil := lettersOf_ne_nil (by omega)
  letters := isAlpha_of_mem_lettersOf
  value_eq := value_lettersOf n

/-- Reading on after the number `n` succeeds for letters whose number, with that of the letters
before them, is within the limit. -/
theorem numberFrom_eq_ok_iff {n m : Nat} {s : List Char} (hn : n ≤ maxColumns) :
    numberFrom n s = .ok m ↔
      (∀ c ∈ s, c.isAlpha = true) ∧ n * 26 ^ s.length + value s = m ∧ m ≤ maxColumns := by
  induction s generalizing n with
  | nil =>
      rw [numberFrom, Except.ok.injEq]
      simp only [List.not_mem_nil, false_imp_iff, implies_true, List.length_nil, pow_zero, mul_one,
        value_nil, add_zero, true_and]
      constructor
      · rintro rfl
        exact ⟨rfl, hn⟩
      · exact fun h => h.1
  | cons c s ih =>
      have hsplit : n * 26 ^ (c :: s).length + value (c :: s)
          = (n * 26 + digit c) * 26 ^ s.length + value s := by
        rw [value_cons, List.length_cons]
        ring
      rw [numberFrom, List.forall_mem_cons, hsplit]
      by_cases hc : c.isAlpha = true
      · rw [if_pos hc]
        simp only [hc, true_and]
        by_cases hmax : maxColumns < n * 26 + digit c
        · -- whatever follows, the number stays beyond the limit
          have hgrows : n * 26 + digit c ≤ (n * 26 + digit c) * 26 ^ s.length :=
            Nat.le_mul_of_pos_right _ (Nat.pow_pos (by decide))
          rw [if_pos hmax]
          constructor
          · intro h
            cases h
          · rintro ⟨-, hvalue, hle⟩
            omega
        · rw [if_neg hmax]
          exact ih (Nat.not_lt.mp hmax)
      · rw [if_neg hc]
        constructor
        · intro h
          cases h
        · rintro ⟨⟨h, -⟩, -⟩
          exact absurd h hc

/-- **The letters that are read are those that name a column within the limit.** -/
theorem numberOf_eq_ok_iff {s : List Char} {n : Nat} :
    numberOf s = .ok n ↔ Names s n ∧ n ≤ maxColumns := by
  rw [numberOf]
  by_cases hs : s = []
  · subst hs
    constructor
    · intro h
      cases h
    · rintro ⟨h, -⟩
      exact absurd rfl h.ne_nil
  · rw [List.isEmpty_eq_false_iff.mpr hs, if_neg Bool.false_ne_true,
      numberFrom_eq_ok_iff (Nat.zero_le _), Nat.zero_mul, Nat.zero_add]
    constructor
    · rintro ⟨hletters, hvalue, hle⟩
      exact ⟨⟨hs, hletters, hvalue⟩, hle⟩
    · rintro ⟨⟨-, hletters, hvalue⟩, hle⟩
      exact ⟨hletters, hvalue, hle⟩

end SheetInspector.Column
