import SheetInspector.Csv.Sheet
import SheetInspector.Proofs.Sheet.Edit

set_option autoImplicit false

/-! # What a field stores

The text of a field alone decides what its cell holds, given the options and whether it stands in
a row of column names. `Stores` has one clause for each kind of field. The clauses exclude each
other, since nothing that is blank or one of the words for a boolean can be read as a number, and
`stores_iff` says that the reader goes by them.
-/

namespace SheetInspector

/-! ## Words that are no numbers -/

namespace Number

/-- A digit has no case. -/
theorem toLower_of_isDigit {c : Char} (h : c.isDigit = true) : c.toLower = c := by
  have hdigit : c.val ≤ 57 := by
    rw [Char.isDigit, Bool.and_eq_true, decide_eq_true_iff, decide_eq_true_iff] at h
    exact h.2
  have hupper : ¬ (c.val ≥ 'A'.val ∧ c.val ≤ 'Z'.val) := fun hupper =>
    absurd (UInt32.le_trans hupper.1 hdigit) (by decide)
  exact dif_neg hupper

/-- A decimal starts with a digit or with a point. -/
theorem decimal?_cons_eq_none {c : Char} (hdigit : c.isDigit = false) (hpoint : c ≠ '.')
    (negative : Bool) (s : List Char) : decimal? negative (c :: s) = none := by
  have hfraction : splitFraction (c :: s) = ([], c :: s) := by
    rw [splitFraction]
    rintro rest ⟨⟩
    exact hpoint rfl
  simp [decimal?, hdigit, hfraction]

theorem splitSign_cons {c : Char} (hminus : c ≠ '-') (hplus : c ≠ '+') (s : List Char) :
    splitSign (c :: s) = (false, c :: s) := by
  rw [splitSign]
  · rintro rest ⟨⟩
    exact hminus rfl
  · rintro rest ⟨⟩
    exact hplus rfl

/-- No number starts with one of these letters. -/
theorem parse?_cons_eq_none {c : Char} (h : c.toLower = 't' ∨ c.toLower = 'f') (s : List Char) :
    parse? (c :: s) = none := by
  have hne (d : Char) (hd : d.toLower ≠ 't' ∧ d.toLower ≠ 'f') : c ≠ d := by
    rintro rfl
    exact h.elim hd.1 hd.2
  have hdigit : c.isDigit = false := by
    rw [Bool.eq_false_iff]
    intro hc
    rw [toLower_of_isDigit hc] at h
    rcases h with rfl | rfl
    · cases hc
    · cases hc
  have hword {d : Char} {word : List Char} (hd : d ≠ 't' ∧ d ≠ 'f') :
      (c :: s).map Char.toLower ≠ d :: word := by
    intro heq
    rw [(List.cons.inj heq).1] at h
    exact h.elim hd.1 hd.2
  have hinfinite : ¬ ((c :: s).map Char.toLower = "inf".toList ∨
      (c :: s).map Char.toLower = "infinity".toList) := by
    rintro (heq | heq)
    · exact hword (by decide) heq
    · exact hword (by decide) heq
  have hnan : (c :: s).map Char.toLower ≠ "nan".toList := hword (by decide)
  rw [parse?, splitSign_cons (hne '-' (by decide)) (hne '+' (by decide))]
  simp only [if_neg hinfinite, if_neg hnan]
  exact decimal?_cons_eq_none hdigit (hne '.' (by decide)) false s

/-- The words for the booleans are no numbers, in any case. -/
theorem parse?_eq_none_of_word {s : List Char}
    (h : s.map Char.toLower = "true".toList ∨ s.map Char.toLower = "false".toList) :
    parse? s = none := by
  cases s with
  | nil =>
      rcases h with h | h
      · cases h
      · cases h
  | cons c s =>
      refine parse?_cons_eq_none ?_ s
      rcases h with h | h
      · exact .inl (List.cons.inj h).1
      · exact .inr (List.cons.inj h).1

end Number

namespace Csv

/-! ## Fields -/

/-- What a field that is kept as it stands shows. -/
inductive Verbatim (field : String) : Option Value → Prop
  | empty (h : field = "") : Verbatim field none
  | text (h : field ≠ "") : Verbatim field (some (.text field))

/-- What a field whose type is detected shows. The blanks around it do not count. -/
inductive Detected (field : String) : Option Value → Prop
  | blank (h : Text.trim field.toList = []) : Detected field none
  | true (h : (Text.trim field.toList).map Char.toLower = "true".toList) :
      Detected field (some (.boolean true))
  | false (h : (Text.trim field.toList).map Char.toLower = "false".toList) :
      Detected field (some (.boolean false))
  | number {n : Number} (h : Number.parse? (Text.trim field.toList) = some n)
      (hfinite : n.isFinite = true) : Detected field (some (.number n))
  | text (hblank : Text.trim field.toList ≠ [])
      (htrue : (Text.trim field.toList).map Char.toLower ≠ "true".toList)
      (hfalse : (Text.trim field.toList).map Char.toLower ≠ "false".toList)
      (hnumber : ∀ n, Number.parse? (Text.trim field.toList) = some n → n.isFinite = false) :
      Detected field (some (.text (String.ofList (Text.trim field.toList))))

/-- Whether a row holds the names of the columns. -/
def Options.Names (o : Options) (row : Nat) : Prop := o.hasHeader = true ∧ row = 1

/-- Whether a field is taken for a formula: it has a marker in front and more behind it. -/
def Options.Calculates (o : Options) (field : String) : Prop :=
  o.detectFormulas = true ∧ ∃ c rest, field.toList = formulaMarker :: c :: rest

/-- What a field stores in a row, if anything. -/
inductive Stores (o : Options) (row : Nat) (field : String) : Option Content → Prop
  | name {v : Option Value} (hrow : o.Names row) (hv : Verbatim field v) :
      Stores o row field (v.map .literal)
  | formula (hrow : ¬ o.Names row) (hfield : o.Calculates field) :
      Stores o row field (some (.formula field none))
  | detected {v : Option Value} (hrow : ¬ o.Names row) (hfield : ¬ o.Calculates field)
      (htypes : o.detectTypes = true) (hv : Detected field v) :
      Stores o row field (v.map .literal)
  | verbatim {v : Option Value} (hrow : ¬ o.Names row) (hfield : ¬ o.Calculates field)
      (htypes : o.detectTypes = false) (hv : Verbatim field v) :
      Stores o row field (v.map .literal)

/-! ## The reader goes by the clauses -/

end Csv

/-- A value, if it is one. -/
def Value.shown? (v : Value) : Option Value := if v = .null then none else some v

theorem Content.kept?_literal (v : Value) :
    (Content.literal v).kept? = v.shown?.map Content.literal := by
  cases v with
  | null => rfl
  | boolean b => rfl
  | number n => rfl
  | text s => rfl
  | error code => rfl

namespace Csv

theorem verbatim_iff {field : String} {v : Option Value} :
    Verbatim field v ↔ v = (verbatim field).shown? := by
  rw [verbatim]
  by_cases hfield : field = ""
  · rw [if_pos hfield]
    constructor
    · rintro (h | h)
      · rfl
      · exact absurd hfield h
    · rintro rfl
      exact .empty hfield
  · rw [if_neg hfield]
    constructor
    · rintro (h | h)
      · exact absurd h hfield
      · rfl
    · rintro rfl
      exact .text hfield

theorem detect_eq (field : String) :
    detect field
      = if Text.trim field.toList = [] then .null
        else if (Text.trim field.toList).map Char.toLower = "true".toList then .boolean true
        else if (Text.trim field.toList).map Char.toLower = "false".toList then .boolean false
        else match Number.parse? (Text.trim field.toList) with
          | some (.finite negative ordinal) => .number (.finite negative ordinal)
          | _ => .text (String.ofList (Text.trim field.toList)) := by
  have hword {word : List Char} (hlower : word.map Char.toLower = word) (text : List Char) :
      Text.equalsIgnoringAsciiCase text word = true ↔ text.map Char.toLower = word := by
    rw [Text.equalsIgnoringAsciiCase, hlower, beq_iff_eq]
  have htrue := hword (show "true".toList.map Char.toLower = "true".toList by decide)
  have hfalse := hword (show "false".toList.map Char.toLower = "false".toList by decide)
  exact if_congr List.isEmpty_iff rfl (if_congr (htrue _) rfl (if_congr (hfalse _) rfl rfl))

/-- **The clauses for detected types are those that detection follows.** -/
theorem detected_iff {field : String} {v : Option Value} :
    Detected field v ↔ v = (detect field).shown? := by
  rw [detect_eq]
  constructor
  · intro h
    cases h with
    | blank h => rw [if_pos h]; rfl
    | true h =>
        have hblank : Text.trim field.toList ≠ [] := by
          intro hnil
          rw [hnil] at h
          cases h
        rw [if_neg hblank, if_pos h]
        rfl
    | false h =>
        have hblank : Text.trim field.toList ≠ [] := by
          intro hnil
          rw [hnil] at h
          cases h
        have htrue : (Text.trim field.toList).map Char.toLower ≠ "true".toList := by
          rw [h]
          decide
        rw [if_neg hblank, if_neg htrue, if_pos h]
        rfl
    | @number n h hfinite =>
        -- what can be read as a number is neither blank nor a word, so the tests before it fail
        have hblank : Text.trim field.toList ≠ [] := by
          intro hnil
          rw [hnil] at h
          cases h
        have hword : ¬ ((Text.trim field.toList).map Char.toLower = "true".toList ∨
            (Text.trim field.toList).map Char.toLower = "false".toList) := by
          intro hword
          rw [Number.parse?_eq_none_of_word hword] at h
          cases h
        rw [if_neg hblank, if_neg fun htrue => hword (.inl htrue),
          if_neg fun hfalse => hword (.inr hfalse), h]
        cases n with
        | nan => cases hfinite
        | infinite negative => cases hfinite
        | finite negative ordinal => rfl
    | text hblank htrue hfalse hnumber =>
        rw [if_neg hblank, if_neg htrue, if_neg hfalse]
        split
        · rename_i negative ordinal h
          cases hnumber _ h
        · rfl
  · rintro rfl
    split_ifs with hblank htrue hfalse
    · exact .blank hblank
    · exact .true htrue
    · exact .false hfalse
    · split
      · rename_i negative ordinal h
        exact .number h rfl
      · rename_i h
        refine .text hblank htrue hfalse fun n hn => ?_
        cases n with
        | nan => rfl
        | infinite negative => rfl
        | finite negative ordinal => exact absurd hn (h negative ordinal)

theorem calculates_iff {o : Options} {field : String} :
    (o.detectFormulas && isFormula field) = true ↔ o.Calculates field := by
  rw [Bool.and_eq_true, Options.Calculates, isFormula]
  refine and_congr_right fun _ => ?_
  match field.toList with
  | [] => simp
  | [c] => simp
  | c :: d :: rest => simp

theorem names_iff {o : Options} {row : Nat} :
    (o.hasHeader && row == 1) = true ↔ o.Names row := by
  rw [Bool.and_eq_true, beq_iff_eq, Options.Names]

variable {o : Options} {row : Nat} {field : String}

theorem kept?_of_names (hrow : o.Names row) :
    (content o row field).kept? = (verbatim field).shown?.map Content.literal := by
  rw [content, if_pos (names_iff.mpr hrow), Content.kept?_literal]

theorem kept?_of_calculates (hrow : ¬ o.Names row) (hfield : o.Calculates field) :
    (content o row field).kept? = some (.formula field none) := by
  rw [content, if_neg fun h => hrow (names_iff.mp h), fieldContent,
    if_pos (calculates_iff.mpr hfield)]
  rfl

theorem kept?_of_not_calculates (hrow : ¬ o.Names row) (hfield : ¬ o.Calculates field) :
    (content o row field).kept?
      = (if o.detectTypes then detect field else verbatim field).shown?.map Content.literal := by
  rw [content, if_neg fun h => hrow (names_iff.mp h), fieldContent,
    if_neg fun h => hfield (calculates_iff.mp h), Content.kept?_literal]

/-- **What a field stores is what is left of its content.** -/
theorem stores_iff {c : Option Content} :
    Stores o row field c ↔ c = (content o row field).kept? := by
  constructor
  · intro h
    cases h with
    | name hrow hv => rw [kept?_of_names hrow, verbatim_iff.mp hv]
    | formula hrow hfield => rw [kept?_of_calculates hrow hfield]
    | detected hrow hfield htypes hv =>
        rw [kept?_of_not_calculates hrow hfield, if_pos htypes, detected_iff.mp hv]
    | verbatim hrow hfield htypes hv =>
        rw [kept?_of_not_calculates hrow hfield, if_neg (by simp [htypes]), verbatim_iff.mp hv]
  · rintro rfl
    by_cases hrow : o.Names row
    · rw [kept?_of_names hrow]
      exact .name hrow (verbatim_iff.mpr rfl)
    · by_cases hfield : o.Calculates field
      · rw [kept?_of_calculates hrow hfield]
        exact .formula hrow hfield
      · rw [kept?_of_not_calculates hrow hfield]
        cases htypes : o.detectTypes with
        | true => exact .detected hrow hfield htypes (detected_iff.mpr rfl)
        | false => exact .verbatim hrow hfield htypes (verbatim_iff.mpr rfl)

/-- A field stores a formula only where it is taken for one. -/
theorem Stores.formula_eq {text : String} {cached : Option Value}
    (h : Stores o row field (some (.formula text cached))) :
    ¬ o.Names row ∧ o.Calculates field ∧ text = field := by
  rw [stores_iff] at h
  by_cases hrow : o.Names row
  · rw [kept?_of_names hrow] at h
    obtain ⟨v, -, hv⟩ := Option.map_eq_some_iff.mp h.symm
    cases hv
  · by_cases hfield : o.Calculates field
    · rw [kept?_of_calculates hrow hfield] at h
      cases h
      exact ⟨hrow, hfield, rfl⟩
    · rw [kept?_of_not_calculates hrow hfield] at h
      obtain ⟨v, -, hv⟩ := Option.map_eq_some_iff.mp h.symm
      cases hv

end Csv

end SheetInspector
