import SheetInspector.Proofs.Csv.Records
import SheetInspector.Proofs.Text.Pieces

set_option autoImplicit false

/-! # What the detection of types changes

The same records can be read with types detected or with every field that is no formula kept as a
text. `Retyped` says what detection may make of what a field stores without it: a text becomes a
boolean, a number or nothing, or it loses the blanks around it. So a text that is detected is the
field itself where the field has no blanks at its ends, and in a row of column names; elsewhere
fields that differ in those blanks alone store the same text (`texts_of_detection`).
-/

namespace SheetInspector.Csv

/-- The same options with types detected, or with no types detected. -/
def Options.withTypes (o : Options) (detect : Bool) : Options := { o with detectTypes := detect }

/-- What a field stores without and with the detection of types. -/
inductive Retyped (field : String) : Option Content → Option Content → Prop
  | kept (c : Option Content) : Retyped field c c
  | blank (h : Text.Blank field.toList) : Retyped field (some (.literal (.text field))) none
  | boolean (b : Bool) :
      Retyped field (some (.literal (.text field))) (some (.literal (.boolean b)))
  | number {n : Number} (h : n.isFinite = true) :
      Retyped field (some (.literal (.text field))) (some (.literal (.number n)))
  | text {t : String} (h : Text.Trimmed field.toList t.toList) :
      Retyped field (some (.literal (.text field))) (some (.literal (.text t)))

/-! ## Fields -/

variable {o : Options} {row : Nat} {field : String}

/-- What is detected in a field that is kept as a text otherwise. -/
theorem retyped_of_detected {v : Option Value} (h : Detected field v) :
    Retyped field (some (.literal (.text field))) (v.map .literal) := by
  cases h with
  | blank h => exact .blank (Text.trim_eq_nil_iff.mp h)
  | true _ => exact .boolean true
  | false _ => exact .boolean false
  | number _ hfinite => exact .number hfinite
  | text _ _ _ _ =>
      refine .text ?_
      rw [String.toList_ofList]
      exact Text.trimmed_trim _

/-- **What detection makes of what a field stores.** -/
theorem Stores.retyped {c c' : Option Content} (h : Stores (o.withTypes false) row field c)
    (h' : Stores (o.withTypes true) row field c') : Retyped field c c' := by
  rw [stores_iff] at h'
  cases h with
  | name hrow hv =>
      -- the names of columns are kept as they stand either way
      rw [h', kept?_of_names (o := o.withTypes true) hrow, verbatim_iff.mp hv]
      exact .kept _
  | formula hrow hfield =>
      rw [h', kept?_of_calculates (o := o.withTypes true) hrow hfield]
      exact .kept _
  | detected _ _ htypes _ => cases htypes
  | verbatim hrow hfield _ hv =>
      rw [h', kept?_of_not_calculates (o := o.withTypes true) hrow hfield]
      cases hv with
      | empty hempty =>
          subst hempty
          exact .kept none
      | text _ => exact retyped_of_detected (detected_iff.mpr rfl)

/-- **What a field stores as a text** where types are detected: the field in a row of names, and
elsewhere what is left of it without the blanks around it. Without detection it is the field. -/
theorem Stores.text_eq {t : String}
    (h : Stores (o.withTypes true) row field (some (.literal (.text t)))) :
    Stores (o.withTypes false) row field (some (.literal (.text field))) ∧
      (o.Names row → t = field) ∧ (¬ o.Names row → Text.Trimmed field.toList t.toList) := by
  generalize hc : some (Content.literal (.text t)) = c at h
  cases h with
  | name hrow hv =>
      obtain ⟨v, hv', hvt⟩ := Option.map_eq_some_iff.mp hc.symm
      cases hvt
      subst hv'
      cases hv with
      | text hfield =>
          have hstores :
              Stores (o.withTypes false) row field ((some (Value.text field)).map .literal) :=
            .name hrow (.text hfield)
          exact ⟨hstores, fun _ => rfl, fun hnot => absurd hrow hnot⟩
  | formula _ _ => cases hc
  | detected hrow hfield _ hv =>
      obtain ⟨v, hv', hvt⟩ := Option.map_eq_some_iff.mp hc.symm
      cases hvt
      subst hv'
      cases hv with
      | text hblank _ _ _ =>
          have hne : field ≠ "" := by
            rintro rfl
            exact hblank rfl
          have hstores :
              Stores (o.withTypes false) row field ((some (Value.text field)).map .literal) :=
            .verbatim hrow hfield rfl (.text hne)
          refine ⟨hstores, fun hnames => absurd hnames hrow, fun _ => ?_⟩
          rw [String.toList_ofList]
          exact Text.trimmed_trim _
  | verbatim _ _ htypes _ => cases htypes

/-- Detection leaves a text as it stands in a row of names and where there are no blanks at the ends
of the field, and nowhere else. -/
theorem Stores.text_eq_field_iff {t : String}
    (h : Stores (o.withTypes true) row field (some (.literal (.text t)))) :
    t = field ↔ o.Names row ∨ Text.Bare field.toList := by
  obtain ⟨-, hnames, htrimmed⟩ := h.text_eq
  by_cases hrow : o.Names row
  · exact iff_of_true (hnames hrow) (.inl hrow)
  · rw [or_iff_right hrow, ← Text.trim_eq_self_iff, Text.trimmed_iff.mp (htrimmed hrow)]
    exact String.toList_inj.symm

/-- Two texts that are detected outside a row of names are the same exactly if their fields differ
in the blanks around them at most. -/
theorem Stores.text_eq_text_iff {row' : Nat} {field' t t' : String} (hrow : ¬ o.Names row)
    (hrow' : ¬ o.Names row')
    (h : Stores (o.withTypes true) row field (some (.literal (.text t))))
    (h' : Stores (o.withTypes true) row' field' (some (.literal (.text t')))) :
    t = t' ↔ Text.trim field.toList = Text.trim field'.toList := by
  rw [Text.trimmed_iff.mp (h.text_eq.2.2 hrow), Text.trimmed_iff.mp (h'.text_eq.2.2 hrow')]
  exact String.toList_inj.symm

/-! ## Sheets -/

/-- What detection makes of a sheet: the extent is kept, and what is stored at an address changes as
what a field stores does. -/
structure RetypedSheet (s t : Sheet) : Prop where
  extent : t.extent = s.extent
  content : ∀ a, ∃ field, Retyped field (s.content? a) (t.content? a)

/-- What detection makes of the outcome of reading: a fault is kept. -/
inductive RetypedOutcome {ε : Type} : Except ε Sheet → Except ε Sheet → Prop
  | error (fault : ε) : RetypedOutcome (.error fault) (.error fault)
  | ok {s t : Sheet} (h : RetypedSheet s t) : RetypedOutcome (.ok s) (.ok t)

variable {s t : Sheet}

theorem RetypedSheet.refl (s : Sheet) : RetypedSheet s s where
  extent := rfl
  content := fun _ => ⟨"", .kept _⟩

/-- Storing a field keeps sheets alike, or ends in the same fault in both. -/
theorem RetypedSheet.set (h : RetypedSheet s t) (o : Options) (a : Address) (field : String) :
    RetypedOutcome (s.set a (Csv.content (o.withTypes false) a.row field))
      (t.set a (Csv.content (o.withTypes true) a.row field)) := by
  by_cases ha : Extent.largest.Holds a
  · rw [Sheet.set_of_holds ha, Sheet.set_of_holds ha]
    refine .ok ⟨?_, fun b => ?_⟩
    · rw [Sheet.extent_mention, Sheet.extent_mention, h.extent]
    · rw [Sheet.content?_mention, Sheet.content?_mention]
      by_cases hab : a = b
      · refine ⟨field, ?_⟩
        simp only [Option.elim, if_pos hab]
        exact Stores.retyped (stores_iff.mpr rfl) (stores_iff.mpr rfl)
      · simp only [Option.elim, if_neg hab]
        exact h.content b
  · obtain ⟨fault, hset⟩ := Sheet.set_of_not_holds ha
    rw [hset, hset]
    exact .error fault

/-- Filling in a row keeps sheets alike, or ends in the same fault in both. -/
theorem RetypedOutcome.fillRow (h : RetypedSheet s t) (o : Options) (row column : Nat)
    (fields : List String) :
    RetypedOutcome (Csv.fillRow (o.withTypes false) row column s fields)
      (Csv.fillRow (o.withTypes true) row column t fields) := by
  induction fields generalizing column s t with
  | nil => exact .ok h
  | cons field fields ih =>
      have hset := h.set o ⟨row, column⟩ field
      rw [Csv.fillRow, Csv.fillRow]
      generalize s.set ⟨row, column⟩ (Csv.content (o.withTypes false) row field) = x at hset ⊢
      generalize t.set ⟨row, column⟩ (Csv.content (o.withTypes true) row field) = y at hset ⊢
      cases hset with
      | error fault => exact .error fault
      | ok hmid => exact ih hmid (column + 1)

theorem RetypedOutcome.fillRows (h : RetypedSheet s t) (o : Options) (row : Nat)
    (rs : List (Except RecordFault (List String))) :
    RetypedOutcome (Csv.fillRows (o.withTypes false) row s rs)
      (Csv.fillRows (o.withTypes true) row t rs) := by
  induction rs generalizing row s t with
  | nil => exact .ok h
  | cons record rs ih =>
      cases record with
      | error fault => exact .error _
      | ok fields =>
          have hrow := RetypedOutcome.fillRow h o row 1 fields
          rw [Csv.fillRows, Csv.fillRows]
          generalize Csv.fillRow (o.withTypes false) row 1 s fields = x at hrow ⊢
          generalize Csv.fillRow (o.withTypes true) row 1 t fields = y at hrow ⊢
          cases hrow with
          | error fault => exact .error _
          | ok hmid => exact ih hmid (row + 1)

/-- **What the detection of types does to texts.** It changes what a field stores as `Retyped` says,
and what records are read as with it is what they are read as without it, changed in this way. A
field that is stored as a text with it is stored as a text without it, and then as it stands: with
detection it is the same text if the row holds names or the field has no blanks at its ends, and
otherwise the field without these blanks. So outside a row of names two fields that are stored as
texts store the same one exactly if they differ in the blanks around them at most. -/
theorem texts_of_detection (o : Options) :
    (∀ row field c c', Stores (o.withTypes false) row field c →
      Stores (o.withTypes true) row field c' → Retyped field c c') ∧
    (∀ rs, RetypedOutcome (sheetOfRecords (o.withTypes false) rs)
      (sheetOfRecords (o.withTypes true) rs)) ∧
    (∀ row field t, Stores (o.withTypes true) row field (some (.literal (.text t))) →
      Stores (o.withTypes false) row field (some (.literal (.text field))) ∧
        (¬ o.Names row → Text.Trimmed field.toList t.toList) ∧
        (t = field ↔ o.Names row ∨ Text.Bare field.toList)) ∧
    ∀ row row' field field' t t', ¬ o.Names row → ¬ o.Names row' →
      Stores (o.withTypes true) row field (some (.literal (.text t))) →
      Stores (o.withTypes true) row' field' (some (.literal (.text t'))) →
      (t = t' ↔ Text.trim field.toList = Text.trim field'.toList) := by
  refine ⟨fun _ _ _ _ h h' => h.retyped h', fun rs => ?_, fun _ _ _ h => ?_,
    fun _ _ _ _ _ _ hrow hrow' h h' => Stores.text_eq_text_iff hrow hrow' h h'⟩
  · exact RetypedOutcome.fillRows (RetypedSheet.refl _) o 1 rs
  · obtain ⟨hplain, -, htrimmed⟩ := h.text_eq
    exact ⟨hplain, htrimmed, h.text_eq_field_iff⟩

/-- A text loses the blank at its end, so an edit that takes it away goes unnoticed. Without the
detection of types it does not. -/
theorem edgeBlank_lost :
    Stores .comma 2 "a " (some (.literal (.text "a"))) ∧
    Stores (Options.comma.withTypes false) 2 "a " (some (.literal (.text "a "))) ∧
    sheetOfRecords .comma [.ok ["n"], .ok ["a "]] =
      sheetOfRecords .comma [.ok ["n"], .ok ["a"]] := by
  refine ⟨stores_iff.mpr (by decide), stores_iff.mpr (by decide), ?_⟩
  have hsame : content .comma 2 "a " = content .comma 2 "a" := by decide
  simp only [sheetOfRecords, fillRows, fillRow, hsame]

end SheetInspector.Csv
