import Mathlib.Data.List.Shortlex
import SheetInspector.Proofs.Address.Letters

set_option autoImplicit false

/-! # The order of column names

Names of columns are ordered like a list of words in which shorter words come first, and words of
one length by the alphabet (`Before`). In a base whose digits are 1 to 26 this is the order of the
numbers, since a name with one more letter has a larger number than any that is shorter, and among
names of one length the first letter in which they differ decides (`value_lt_of_before`). A name is
read with sums and products that stay within a few bits: it is given up at the first letter that
leads beyond the limit, so no name is long enough to overflow a word (`numberOfIn_eq`). Together the
letters number the columns (`letters_number_columns`).
-/

namespace SheetInspector.Column

/-! ## Capital letters -/

theorem isUpper_letter {d : Nat} (h : d < 26) : (letter d).isUpper = true := by
  have hall : ∀ d < 26, (letter d).isUpper = true := by decide
  exact hall d h

theorem isUpper_of_mem_lettersOf {n : Nat} : ∀ c ∈ lettersOf n, c.isUpper = true := by
  induction n using Nat.strong_induction_on with
  | _ n ih =>
      by_cases hn : n = 0
      · simp [hn, lettersOf_zero]
      · intro c hc
        rw [lettersOf_of_ne_zero hn, List.mem_append, List.mem_singleton] at hc
        rcases hc with hc | rfl
        · exact ih ((n - 1) / 26) (by omega) c hc
        · exact isUpper_letter (Nat.mod_lt _ (by decide))

/-- The digit of a capital letter is its place in the alphabet. -/
theorem digit_of_isUpper {c : Char} (h : c.isUpper = true) :
    c.toNat = 64 + digit c ∧ digit c ≤ 26 := by
  have hall : ∀ n < 91, (Char.ofNat n).isUpper = true →
      (Char.ofNat n).toNat = 64 + digit (Char.ofNat n) ∧ digit (Char.ofNat n) ≤ 26 := by decide
  obtain ⟨-, hcode⟩ := of_decide_eq_true h
  have hcode : c.toNat ≤ 90 := hcode
  have hc := hall c.toNat (by omega)
  rw [Char.ofNat_toNat] at hc
  exact hc h

/-! ## The order of names -/

/-- Whether a word comes before another: shorter words first, then by the alphabet. -/
def Before (s t : List Char) : Prop := List.Shortlex (· < ·) s t

/-- The numbers of words of one length lie between that of `A…A` and that of `Z…Z`. -/
theorem value_bounds {s : List Char} (h : ∀ c ∈ s, c.isUpper = true) :
    26 ^ s.length ≤ 25 * value s + 1 ∧ 25 * value s + 26 ≤ 26 * 26 ^ s.length := by
  induction s with
  | nil => simp
  | cons c s ih =>
      obtain ⟨hc, hs⟩ := List.forall_mem_cons.mp h
      obtain ⟨hlow, hhigh⟩ := ih hs
      have hone := one_le_digit c
      obtain ⟨-, hle⟩ := digit_of_isUpper hc
      have hfirst : 26 ^ s.length ≤ digit c * 26 ^ s.length := Nat.le_mul_of_pos_left _ hone
      have hlast : digit c * 26 ^ s.length ≤ 26 * 26 ^ s.length := Nat.mul_le_mul_right _ hle
      rw [value_cons, List.length_cons, pow_succ]
      omega

theorem value_lt_of_length_lt {s t : List Char} (hs : ∀ c ∈ s, c.isUpper = true)
    (ht : ∀ c ∈ t, c.isUpper = true) (h : s.length < t.length) : value s < value t := by
  have hpow : 26 ^ (s.length + 1) ≤ 26 ^ t.length := Nat.pow_le_pow_right (by decide) h
  have hlow := (value_bounds ht).1
  have hhigh := (value_bounds hs).2
  rw [pow_succ] at hpow
  omega

/-- Among words of one length the first letter in which they differ decides. -/
theorem value_lt_of_lex {s t : List Char} (hs : ∀ c ∈ s, c.isUpper = true)
    (ht : ∀ c ∈ t, c.isUpper = true) (hlength : s.length = t.length)
    (h : List.Lex (· < ·) s t) : value s < value t := by
  induction h with
  | nil => cases hlength
  | @cons c s t hlex ih =>
      have hlt := ih (List.forall_mem_cons.mp hs).2 (List.forall_mem_cons.mp ht).2
        (Nat.succ.inj hlength)
      have hlength : s.length = t.length := Nat.succ.inj hlength
      rw [value_cons, value_cons, hlength]
      omega
  | @rel c s d t hcd =>
      obtain ⟨hc, hs⟩ := List.forall_mem_cons.mp hs
      obtain ⟨hd, ht⟩ := List.forall_mem_cons.mp ht
      have hlength : s.length = t.length := Nat.succ.inj hlength
      have hdigit : digit c + 1 ≤ digit d := by
        have hcode : c.toNat < d.toNat := hcd
        have hc := (digit_of_isUpper hc).1
        have hd := (digit_of_isUpper hd).1
        omega
      -- one more at the front outweighs everything behind it
      have hfront : (digit c + 1) * 26 ^ t.length ≤ digit d * 26 ^ t.length :=
        Nat.mul_le_mul_right _ hdigit
      have hhigh := (value_bounds hs).2
      have hlow := (value_bounds ht).1
      rw [hlength] at hhigh
      rw [value_cons, value_cons, hlength]
      rw [Nat.add_mul, Nat.one_mul] at hfront
      omega

/-- **Words in capital letters are in the order of their numbers.** -/
theorem value_lt_of_before {s t : List Char} (hs : ∀ c ∈ s, c.isUpper = true)
    (ht : ∀ c ∈ t, c.isUpper = true) (h : Before s t) : value s < value t := by
  rcases List.shortlex_def.mp h with hlength | ⟨hlength, hlex⟩
  · exact value_lt_of_length_lt hs ht hlength
  · exact value_lt_of_lex hs ht hlength hlex

/-- **The names of columns are in the order of the columns.** -/
theorem before_lettersOf_iff {m n : Nat} : Before (lettersOf m) (lettersOf n) ↔ m < n := by
  constructor
  · intro h
    have hlt := value_lt_of_before isUpper_of_mem_lettersOf isUpper_of_mem_lettersOf h
    rwa [value_lettersOf, value_lettersOf] at hlt
  · intro h
    by_contra hnot
    -- names that are not in order either way are the same
    by_cases hback : Before (lettersOf n) (lettersOf m)
    · have hlt := value_lt_of_before isUpper_of_mem_lettersOf isUpper_of_mem_lettersOf hback
      rw [value_lettersOf, value_lettersOf] at hlt
      omega
    · have heq : lettersOf m = lettersOf n :=
        Std.Trichotomous.trichotomous (r := List.Shortlex (· < ·)) _ _ hnot hback
      have hvalue := congrArg value heq
      rw [value_lettersOf, value_lettersOf] at hvalue
      omega

/-! ## Reading with words of a machine -/

/-- A number where it is below the limit of a machine word. -/
def within (limit n : Nat) : Option Nat := if n < limit then some n else none

/-- The digit of a letter in words below a limit; there is none below the letter A. -/
def digitIn (limit : Nat) (c : Char) : Option Nat :=
  if 'A'.toNat ≤ c.toUpper.toNat then within limit (c.toUpper.toNat - 'A'.toNat + 1) else none

/-- The number after one more letter, in words below a limit. -/
def nextIn (limit n : Nat) (c : Char) : Option Nat := do
  let product ← within limit (n * 26)
  let d ← digitIn limit c
  within limit (product + d)

/-- Reads further letters after those whose number is `n`, in words below a limit. There is no
result where a word overflows. -/
def numberFromIn (limit n : Nat) : List Char → Option (Except SheetFault Nat)
  | [] => some (.ok n)
  | c :: rest =>
    if c.isAlpha then do
      let next ← nextIn limit n c
      if maxColumns < next then some (.error (.columnOutOfBounds next maxColumns))
      else numberFromIn limit next rest
    else some (.error (.ofAddress (.badLetter c)))

/-- The number of the column with the given letters, in words below a limit. -/
def numberOfIn (limit : Nat) (s : List Char) : Option (Except SheetFault Nat) :=
  if s.isEmpty then some (.error (.ofAddress .emptyLetters)) else numberFromIn limit 0 s

variable {limit : Nat}

theorem within_of_lt {n : Nat} (h : n < limit) : within limit n = some n := if_pos h

theorem digitIn_eq {c : Char} (hc : c.isAlpha = true) (hlimit : 26 < limit) :
    digitIn limit c = some (digit c) := by
  have hdigit := digit_le hc
  have hlow : 'A'.toNat ≤ c.toUpper.toNat := (toNat_toUpper hc).1
  rw [digitIn, if_pos hlow]
  show within limit (digit c) = some (digit c)
  exact within_of_lt (by omega)

/-- A number within the limit of columns leaves room for one more letter. -/
theorem nextIn_eq {n : Nat} {c : Char} (hc : c.isAlpha = true) (hn : n ≤ maxColumns)
    (hlimit : maxColumns * 26 + 26 < limit) : nextIn limit n c = some (n * 26 + digit c) := by
  have hdigit := digit_le hc
  have hmax : n * 26 ≤ maxColumns * 26 := Nat.mul_le_mul_right _ hn
  rw [nextIn, within_of_lt (by omega), digitIn_eq hc (by omega)]
  exact within_of_lt (by omega)

theorem numberFromIn_eq {n : Nat} (s : List Char) (hn : n ≤ maxColumns)
    (hlimit : maxColumns * 26 + 26 < limit) : numberFromIn limit n s = some (numberFrom n s) := by
  induction s generalizing n with
  | nil => rfl
  | cons c s ih =>
      unfold numberFromIn numberFrom
      by_cases hc : c.isAlpha = true
      · rw [if_pos hc, if_pos hc, nextIn_eq hc hn hlimit]
        show (if maxColumns < n * 26 + digit c then _ else _) = some (if _ then _ else _)
        by_cases hmax : maxColumns < n * 26 + digit c
        · rw [if_pos hmax, if_pos hmax]
        · rw [if_neg hmax, if_neg hmax, ih (Nat.not_lt.mp hmax)]
      · rw [if_neg hc, if_neg hc]

/-- **No name overflows a word** that has room for the largest number of columns and one letter
more. -/
theorem numberOfIn_eq (s : List Char) (hlimit : maxColumns * 26 + 26 < limit) :
    numberOfIn limit s = some (numberOf s) := by
  unfold numberOfIn numberOf
  by_cases hs : s.isEmpty = true
  · rw [if_pos hs, if_pos hs]
  · rw [if_neg hs, if_neg hs]
    exact numberFromIn_eq s (Nat.zero_le _) hlimit

/-! ## The numbering -/

/-- **Letters number the columns**, in their order. Every column has a name in capital letters that
stands for its number, and a column further right has a name further back in the order of words.
Letters are read as the number `n` if they stand for it and there are that many columns, and then
they are the name of `n` but for their case; a word of 64 bits never overflows on the way. -/
theorem letters_number_columns :
    (∀ n, 1 ≤ n → Names (letters n).toList n ∧ ∀ c ∈ (letters n).toList, c.isUpper = true) ∧
      (∀ m n, Before (letters m).toList (letters n).toList ↔ m < n) ∧
      (∀ s n, numberOf s = .ok n ↔ Names s n ∧ n ≤ maxColumns) ∧
      (∀ s n, numberOf s = .ok n → letters n = String.ofList (s.map Char.toUpper)) ∧
      ∀ s, numberOfIn (2 ^ 64) s = some (numberOf s) := by
  simp only [letters, String.toList_ofList]
  refine ⟨fun n hn => ⟨names_lettersOf hn, isUpper_of_mem_lettersOf⟩,
    fun m n => before_lettersOf_iff, fun s n => numberOf_eq_ok_iff, ?_,
    fun s => numberOfIn_eq s (by decide)⟩
  intro s n h
  rw [(numberOf_eq_ok_iff.mp h).1.lettersOf_eq]

/-- The last column before names get a letter more, and the last of all columns. -/
theorem letters_number_columns_ends :
    (Names (letters 702).toList 702 ∧ (letters 702).toList = ['Z', 'Z']) ∧
      Before (letters 702).toList (letters 703).toList ∧
      letters 16384 = String.ofList (['x', 'F', 'd'].map Char.toUpper) := by
  obtain ⟨hnames, horder, -, hread, -⟩ := letters_number_columns
  exact ⟨⟨(hnames 702 (by decide)).1, by decide +kernel⟩, (horder 702 703).mpr (by decide),
    hread ['x', 'F', 'd'] 16384 (by decide +kernel)⟩

end SheetInspector.Column
