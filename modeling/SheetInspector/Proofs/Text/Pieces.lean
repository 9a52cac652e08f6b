import Mathlib.Data.List.DropRight
import Mathlib.Data.String.Basic
import Mathlib.Tactic
import SheetInspector.Text.Blank

set_option autoImplicit false

/-! # Pieces of texts

What a text is put together from, where a reader takes it apart: letters and digits, signs that may
be left out, and blanks at its ends. `Trimmed` says what trimming is for: what is left neither
begins nor ends with a blank, and only blanks have gone from either side. Every text is trimmed to
exactly one text (`trimmed_iff`), and one without blanks at its ends is left as it stands.
-/

namespace SheetInspector.Text

/-! ## Letters and digits among other characters -/

/-- The codes of the ASCII letters. -/
theorem toNat_of_isAlpha {c : Char} (h : c.isAlpha = true) :
    65 ≤ c.toNat ∧ c.toNat ≤ 90 ∨ 97 ≤ c.toNat ∧ c.toNat ≤ 122 := by
  rcases Bool.or_eq_true_iff.mp h with h | h
  · obtain ⟨hlow, hhigh⟩ := of_decide_eq_true h
    exact Or.inl ⟨hlow, hhigh⟩
  · have hlower : (decide (c.val ≥ 97) && decide (c.val ≤ 122)) = true := h
    obtain ⟨hlow, hhigh⟩ := Bool.and_eq_true_iff.mp hlower
    exact Or.inr ⟨of_decide_eq_true hlow, of_decide_eq_true hhigh⟩

theorem isAlpha_of_isDigit {c : Char} (h : c.isDigit = true) : c.isAlpha = false := by
  rw [Bool.eq_false_iff]
  intro halpha
  have hdigit : 48 ≤ c.toNat ∧ c.toNat ≤ 57 := Char.isDigit_iff_toNat.mp h
  have hletter := toNat_of_isAlpha halpha
  omega

theorem isBlank_of_isAlphanum {c : Char} (h : c.isAlphanum = true) : isBlank c = false := by
  have hrange : 48 ≤ c.toNat ∧ c.toNat ≤ 122 := by
    rcases Bool.or_eq_true_iff.mp h with h | h
    · have hletter := toNat_of_isAlpha h
      omega
    · have hdigit : 48 ≤ c.toNat ∧ c.toNat ≤ 57 := Char.isDigit_iff_toNat.mp h
      omega
  simp only [isBlank, Bool.or_eq_false_iff, Bool.and_eq_false_iff, decide_eq_false_iff_not,
    beq_eq_false_iff_ne]
  omega

/-- A text is cut where a kind of character ends, if none of that kind follows. -/
theorem takeWhile_dropWhile_append {p : Char → Bool} {s t : List Char}
    (hs : ∀ c ∈ s, p c = true) (ht : ∀ c ∈ t, p c = false) :
    (s ++ t).takeWhile p = s ∧ (s ++ t).dropWhile p = t := by
  rw [List.takeWhile_append_of_pos hs, List.dropWhile_append_of_pos hs]
  cases t with
  | nil => exact ⟨List.append_nil s, rfl⟩
  | cons c t => simp [ht c List.mem_cons_self]

theorem dropWhile_of_head? {p : Char → Bool} {s : List Char} (h : ∀ c ∈ s.head?, p c = false) :
    s.dropWhile p = s := by
  cases s with
  | nil => rfl
  | cons c s => rw [List.dropWhile_cons, h c rfl, if_neg Bool.false_ne_true]

/-- A text in which a character stands alone, or nothing at all. -/
def Optional (c : Char) (s : List Char) : Prop := s = [] ∨ s = [c]

theorem Optional.eq_of_mem {c d : Char} {s : List Char} (h : Optional c s) (hd : d ∈ s) :
    d = c := by
  rcases h with rfl | rfl
  · cases hd
  · exact List.mem_singleton.mp hd

/-! ## Splitting -/

/-- Where two divisions of a text are compared and the mark behind the second front does not stand
in the first one, the second front goes on behind the first. -/
theorem append_eq_append_cons_iff {mark : Char} {s p q r : List Char} (hs : mark ∉ s) :
    s ++ p = q ++ mark :: r ↔ ∃ t, q = s ++ t ∧ p = t ++ mark :: r := by
  constructor
  · intro h
    rcases List.append_eq_append_iff.mp h with ⟨a, hq, hp⟩ | ⟨a, hs', hr⟩
    · exact ⟨a, hq, hp⟩
    · cases a with
      | nil => exact ⟨[], by rw [hs', List.append_nil, List.append_nil], hr.symm⟩
      | cons c a =>
          -- the mark would stand in the first front
          obtain ⟨rfl, -⟩ := List.cons.inj hr
          exact absurd (hs' ▸ by simp) hs
  · rintro ⟨t, rfl, rfl⟩
    rw [List.append_assoc]

/-- Fronts without a mark are told apart by the mark that what follows them begins with. -/
theorem append_inj_of_head? {mark : Char} {s t p q : List Char} (hs : mark ∉ s) (ht : mark ∉ t)
    (hp : ∀ c ∈ p.head?, c = mark) (hq : ∀ c ∈ q.head?, c = mark) (h : s ++ p = t ++ q) :
    s = t ∧ p = q := by
  -- neither front goes on where the other one ends
  have hends {u a x y : List Char} (hu : mark ∉ u ++ a) (hx : ∀ c ∈ x.head?, c = mark)
      (hxa : x = a ++ y) : a = [] := by
    cases a with
    | nil => rfl
    | cons c a =>
        obtain rfl : c = mark := hx c (by rw [hxa]; rfl)
        exact absurd (by simp) hu
  rcases List.append_eq_append_iff.mp h with ⟨a, rfl, hpa⟩ | ⟨a, rfl, hqa⟩
  · obtain rfl := hends ht hp hpa
    exact ⟨(List.append_nil s).symm, hpa⟩
  · obtain rfl := hends hs hq hqa
    exact ⟨List.append_nil t, hqa.symm⟩

/-- Splitting goes through to the end where the mark does not stand. -/
theorem splitOnAux_of_not_mem {mark : Char} (s : List Char) {t : List Char} (h : mark ∉ t) :
    (String.ofList (s ++ t)).splitOnAux (String.ofList [mark]) 0 ⟨String.utf8Len s⟩ 0 []
      = [String.ofList (s ++ t)] := by
  induction t generalizing s with
  | nil =>
      have hend : String.Pos.Raw.atEnd (String.ofList (s ++ [])) ⟨String.utf8Len s⟩ = true :=
        (String.atEnd_of_valid s []).mpr rfl
      have hwhole := String.extract_of_valid [] s []
      rw [String.splitOnAux, if_pos hend]
      simpa using hwhole
  | cons c t ih =>
      obtain ⟨hne, ht⟩ := not_or.mp (List.mem_cons.not.mp h)
      have hend :
          ¬ String.Pos.Raw.atEnd (String.ofList (s ++ c :: t)) ⟨String.utf8Len s⟩ = true := by
        rw [String.atEnd_of_valid]
        exact List.cons_ne_nil c t
      have hget : String.Pos.Raw.get (String.ofList (s ++ c :: t)) ⟨String.utf8Len s⟩ = c :=
        String.get_of_valid s (c :: t)
      have hmark : String.Pos.Raw.get (String.ofList [mark]) 0 = mark :=
        String.get_of_valid [] [mark]
      have hnext : String.Pos.Raw.next (String.ofList (s ++ c :: t))
          (String.Pos.Raw.unoffsetBy ⟨String.utf8Len s⟩ 0) = ⟨String.utf8Len (s ++ [c])⟩ := by
        rw [String.utf8Len_append, String.utf8Len_cons, String.utf8Len_nil, Nat.zero_add]
        exact String.next_of_valid s c t
      have hrest := ih (s ++ [c]) ht
      rw [List.append_assoc] at hrest
      rw [String.splitOnAux, if_neg hend, hget, hmark, if_neg (by simpa using Ne.symm hne), hnext]
      exact hrest

/-- **A text in which a mark does not stand is not split at it.** -/
theorem splitOn_of_not_mem (mark : Char) (s : List Char) (h : mark ∉ s) :
    (String.ofList s).splitOn (String.ofList [mark]) = [String.ofList s] := by
  rw [String.splitOn, if_neg (by simp)]
  exact splitOnAux_of_not_mem [] h

/-! ## Trimming -/

/-- A text in which only blanks stand. -/
def Blank (s : List Char) : Prop := ∀ c ∈ s, isBlank c = true

/-- A text with no blank at either end. -/
structure Bare (s : List Char) : Prop where
  first : ∀ c ∈ s.head?, isBlank c = false
  last : ∀ c ∈ s.getLast?, isBlank c = false

/-- What is left of the text `s` without the blanks around it is `t`. -/
structure Trimmed (s t : List Char) : Prop where
  bare : Bare t
  within : ∃ front back, Blank front ∧ Blank back ∧ s = front ++ t ++ back

variable {s t : List Char}

/-- A text without blanks has none at its ends. -/
theorem bare_of_not_isBlank (h : ∀ c ∈ s, isBlank c = false) : Bare s where
  first := fun c hc => h c (List.mem_of_mem_head? hc)
  last := fun c hc => h c (List.mem_of_mem_getLast? hc)

theorem trimEnd_append (h : ∀ c ∈ s.getLast?, isBlank c = false) (ht : Blank t) :
    trimEnd (s ++ t) = s := by
  have hreverse : ∀ c ∈ t.reverse, isBlank c = true := fun c hc => ht c (List.mem_reverse.mp hc)
  rw [← List.head?_reverse] at h
  rw [trimEnd, List.reverse_append, List.dropWhile_append_of_pos hreverse, dropWhile_of_head? h,
    List.reverse_reverse]

/-- Trimming leaves what it is for. -/
theorem trimmed_trim (s : List Char) : Trimmed s (trim s) := by
  have hend : trim s = (s.dropWhile isBlank).rdropWhile isBlank := rfl
  refine ⟨⟨?_, ?_⟩, s.takeWhile isBlank, (s.dropWhile isBlank).rtakeWhile isBlank, ?_, ?_, ?_⟩
  · -- the text that is left begins as it does before its end is trimmed
    intro c hc
    obtain ⟨rest, hrest⟩ := List.rdropWhile_prefix isBlank (s.dropWhile isBlank)
    have hhead : (s.dropWhile isBlank).head? = some c := by
      rw [← hrest, ← hend, List.head?_append, hc]
      rfl
    have hnot := List.head?_dropWhile_not isBlank s
    rw [hhead] at hnot
    exact hnot
  · intro c hc
    obtain ⟨hne, rfl⟩ := List.mem_getLast?_eq_getLast hc
    exact Bool.eq_false_iff.mpr (List.rdropWhile_last_not isBlank (s.dropWhile isBlank) hne)
  · exact fun c hc => List.mem_takeWhile_imp hc
  · exact fun c hc => List.mem_rtakeWhile_imp hc
  · rw [hend, List.append_assoc, List.rdropWhile_append_rtakeWhile, List.takeWhile_append_dropWhile]

/-- **A text is trimmed to exactly one text.** -/
theorem trimmed_iff : Trimmed s t ↔ trim s = t := by
  constructor
  · rintro ⟨hbare, front, back, hfront, hback, rfl⟩
    rw [trim, List.append_assoc, List.dropWhile_append_of_pos hfront]
    cases t with
    | nil =>
        have hdrop : back.dropWhile isBlank = [] := List.dropWhile_eq_nil_iff.mpr hback
        rw [List.nil_append, hdrop]
        rfl
    | cons c t =>
        have hhead : ∀ d ∈ (c :: t ++ back).head?, isBlank d = false := hbare.first
        rw [dropWhile_of_head? hhead, trimEnd_append hbare.last hback]
  · rintro rfl
    exact trimmed_trim s

theorem trim_eq_self_iff : trim s = s ↔ Bare s := by
  constructor
  · intro h
    rw [← h]
    exact (trimmed_trim s).bare
  · intro h
    exact trimmed_iff.mp ⟨h, [], [], by simp [Blank], by simp [Blank], by simp⟩

theorem trim_eq_nil_iff : trim s = [] ↔ Blank s := by
  constructor
  · intro h
    obtain ⟨front, back, hfront, hback, hs⟩ := (trimmed_trim s).within
    rw [hs, h, List.append_nil]
    exact List.forall_mem_append.mpr ⟨hfront, hback⟩
  · intro h
    exact trimmed_iff.mp ⟨bare_of_not_isBlank (by simp), s, [], h, by simp [Blank], by simp⟩

end SheetInspector.Text
