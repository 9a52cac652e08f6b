import SheetInspector.Proofs.Xlsx.ReadSheet

set_option autoImplicit false

/-! # Which cells are stored as formulas

A cell is stored as a formula exactly if a text was taken for that of its formula
(`PendingCell.Holds.isFormula_iff`). Where values and formulas do not stand in one another, these
are the texts that stand in a formula (`Scope.readsFormula_events_iff`). So a cell without a
formula is never stored as one, and neither is a cell whose formula is an element without text:
`formulas_of_readSheetPart` says which are.
-/

namespace SheetInspector.Xlsx

/-- Whether a name is that of a value or of a formula. -/
def valueOrFormula (name : Bytes) : Bool :=
  SheetElement.value.names name || SheetElement.formula.names name

theorem valueOrFormula_of_value (name : Bytes) (h : SheetElement.value.names name = true) :
    valueOrFormula name = true := by
  rw [valueOrFormula, h, Bool.true_or]

theorem valueOrFormula_of_formula (name : Bytes) (h : SheetElement.formula.names name = true) :
    valueOrFormula name = true := by
  rw [valueOrFormula, h, Bool.or_true]

/-- Whether a text stands among some nodes, at any depth. -/
def HasText (f : Xml.Forest) : Prop := ∃ raw, Xml.Event.text raw ∈ f.events

namespace Scope

/-! ## Texts of formulas -/

/-- Whether a text among some events is taken for that of a formula. -/
def ReadsFormula (o : Scope) (es : List Xml.Event) : Prop := ∃ text ∈ o.texts es, text.1 = .formula

theorem not_readsFormula_nil (o : Scope) : ¬ o.ReadsFormula [] := by
  rintro ⟨text, hmem, -⟩
  cases hmem

theorem role?_eq_formula_iff (o : Scope) :
    o.role? = some .formula ↔ o.value = false ∧ o.formula = true := by
  obtain ⟨value, formula, inline, inlineText⟩ := o
  cases value <;> cases formula <;> cases inlineText <;> simp [role?]

theorem readsFormula_cons_iff (o : Scope) (e : Xml.Event) (es : List Xml.Event) :
    o.ReadsFormula (e :: es) ↔
      (o.value = false ∧ o.formula = true ∧ ∃ raw, e = .text raw) ∨
        (o.after e).ReadsFormula es := by
  have hfirst : (∃ text ∈ (o.text? e).toList, text.1 = .formula) ↔
      o.value = false ∧ o.formula = true ∧ ∃ raw, e = .text raw := by
    rw [← and_assoc, ← role?_eq_formula_iff]
    cases e with
    | text raw => cases hrole : o.role? <;> simp [text?, hrole]
    | start tag => simp [text?]
    | empty tag => simp [text?]
    | finish name => simp [text?]
    | aside => simp [text?]
  rw [← hfirst, ReadsFormula, texts]
  simp only [List.mem_append, or_and_right, exists_or, ReadsFormula]

theorem readsFormula_append_iff (o : Scope) (es fs : List Xml.Event) :
    o.ReadsFormula (es ++ fs) ↔ o.ReadsFormula es ∨ (es.foldl after o).ReadsFormula fs := by
  rw [ReadsFormula, texts_append]
  simp only [List.mem_append, or_and_right, exists_or, ReadsFormula]

/-- No text is one of a formula while a flag keeps it from being one. -/
theorem not_readsFormula_of_flag {k : SheetElement} {up : Bool}
    (hflag : ∀ o : Scope, flag k o = up → o.role? ≠ some .formula) {o : Scope}
    {es : List Xml.Event} (ho : flag k o = up) (hes : ∀ e ∈ es, e.Apart k.names) :
    ¬ o.ReadsFormula es := by
  induction es generalizing o with
  | nil => exact o.not_readsFormula_nil
  | cons e es ih =>
      obtain ⟨he, hes⟩ := List.forall_mem_cons.mp hes
      rw [readsFormula_cons_iff, not_or]
      refine ⟨fun h => ?_, ih ((flag_after he o).trans ho) hes⟩
      exact hflag o ho (o.role?_eq_formula_iff.mpr ⟨h.1, h.2.1⟩)

/-- Outside of formulas no text is one of a formula. -/
theorem not_readsFormula_of_formula {o : Scope} {es : List Xml.Event} (ho : o.formula = false)
    (hes : ∀ e ∈ es, e.Apart SheetElement.formula.names) : ¬ o.ReadsFormula es := by
  refine not_readsFormula_of_flag (k := .formula) (fun o ho hrole => ?_) ho hes
  obtain ⟨-, hformula⟩ := o.role?_eq_formula_iff.mp hrole
  exact Bool.eq_false_iff.mp ho hformula

/-- A text of a value is none of a formula. -/
theorem not_readsFormula_of_value {o : Scope} {es : List Xml.Event} (ho : o.value = true)
    (hes : ∀ e ∈ es, e.Apart SheetElement.value.names) : ¬ o.ReadsFormula es := by
  refine not_readsFormula_of_flag (k := .value) (fun o ho hrole => ?_) ho hes
  obtain ⟨hvalue, -⟩ := o.role?_eq_formula_iff.mp hrole
  exact Bool.eq_false_iff.mp hvalue ho

/-- Every text in a formula is one of it. -/
theorem readsFormula_iff_of_formula {o : Scope} {es : List Xml.Event} (hvalue : o.value = false)
    (hformula : o.formula = true) (hes : ∀ e ∈ es, e.Apart valueOrFormula) :
    o.ReadsFormula es ↔ ∃ raw, Xml.Event.text raw ∈ es := by
  induction es generalizing o with
  | nil =>
      constructor
      · intro h
        exact absurd h o.not_readsFormula_nil
      · rintro ⟨raw, hraw⟩
        cases hraw
  | cons e es ih =>
      obtain ⟨he, hes⟩ := List.forall_mem_cons.mp hes
      have hrest := ih ((flag_after (he.of_imp valueOrFormula_of_value) o).trans hvalue)
        ((flag_after (he.of_imp valueOrFormula_of_formula) o).trans hformula) hes
      rw [readsFormula_cons_iff, hrest]
      simp only [hvalue, hformula, true_and, List.mem_cons, exists_or, eq_comm]

/-- What the texts in an element are part of depends on its name. -/
theorem readsFormula_inside_iff {tag : Xml.Tag} {inside : Xml.Forest} {o : Scope}
    (hvalue : o.value = false) (hformula : o.formula = false)
    (hbody : valueOrFormula tag.name = true → inside.elements valueOrFormula = [])
    (hother : ∀ {o : Scope}, o.value = false → o.formula = false →
      (o.ReadsFormula inside.events ↔
        ∃ e ∈ inside.elements SheetElement.formula.names, HasText e.body)) :
    (o.after (.start tag)).ReadsFormula inside.events ↔
      (SheetElement.formula.names tag.name = true ∧ HasText inside) ∨
        ∃ e ∈ inside.elements SheetElement.formula.names, HasText e.body := by
  have hnone (h : valueOrFormula tag.name = true) :
      (∀ e ∈ inside.events, e.Apart valueOrFormula) ∧
        inside.elements SheetElement.formula.names = [] := by
    refine ⟨fun e he => Xml.Forest.apart_of_elements_eq_nil (hbody h) he, ?_⟩
    rw [inside.elements_of_imp valueOrFormula_of_formula, hbody h]
    rfl
  cases hv : SheetElement.value.names tag.name with
  | true =>
      have hkind : SheetElement.of tag.name = .value := SheetElement.names_iff.mp hv
      obtain ⟨hapart, hempty⟩ := hnone (valueOrFormula_of_value _ hv)
      have hopen : (o.after (.start tag)).value = true := by rw [after, hkind]
      have hnot := not_readsFormula_of_value hopen fun e he =>
        (hapart e he).of_imp valueOrFormula_of_value
      have hname : SheetElement.formula.names tag.name = false :=
        SheetElement.names_eq_false_iff.mpr (by simp [hkind])
      simp [hnot, hempty, hname]
  | false =>
      have hstill : (o.after (.start tag)).value = false :=
        (flag_after (Xml.Event.apart_of_name hv rfl) o).trans hvalue
      cases hf : SheetElement.formula.names tag.name with
      | true =>
          have hkind : SheetElement.of tag.name = .formula := SheetElement.names_iff.mp hf
          obtain ⟨hapart, hempty⟩ := hnone (valueOrFormula_of_formula _ hf)
          have hopen : (o.after (.start tag)).formula = true := by rw [after, hkind]
          rw [readsFormula_iff_of_formula hstill hopen hapart, hempty]
          simp [HasText]
      | false =>
          have hclosed : (o.after (.start tag)).formula = false :=
            (flag_after (Xml.Event.apart_of_name hf rfl) o).trans hformula
          rw [hother hstill hclosed]
          simp

/-- **The texts of formulas are those that stand in one**, where values and formulas do not stand
in one another. -/
theorem readsFormula_events_iff {f : Xml.Forest} (hf : Separate valueOrFormula valueOrFormula f)
    {o : Scope} (hvalue : o.value = false) (hformula : o.formula = false) :
    o.ReadsFormula f.events ↔ ∃ e ∈ f.elements SheetElement.formula.names, HasText e.body := by
  induction f generalizing o with
  | nil =>
      constructor
      · intro h
        exact absurd h o.not_readsFormula_nil
      · rintro ⟨e, he, -⟩
        cases he
  | element tag inside rest ihInside ihRest =>
      -- behind the element both flags are down again
      have hbehind (k : SheetElement) (ho : flag k o = false) :
          flag k ((inside.events.foldl after (o.after (.start tag))).after (.finish tag.name))
            = false := by
        have hdown := (latch k).foldl_events (.element tag inside .nil) ho
        rwa [Xml.Forest.events, List.foldl_cons, List.foldl_append] at hdown
      rw [Xml.Forest.events, readsFormula_cons_iff, readsFormula_append_iff,
        readsFormula_cons_iff,
        ihRest hf.rest (hbehind .value hvalue) (hbehind .formula hformula),
        readsFormula_inside_iff hvalue hformula (fun h => hf.body h h) (ihInside hf.inside)]
      cases hname : SheetElement.formula.names tag.name with
      | true =>
          rw [Xml.Forest.elements_element_of_true hname]
          simp [Xml.Element.body, or_and_right, exists_or, or_assoc]
      | false =>
          rw [Xml.Forest.elements_element_of_false hname]
          simp [or_and_right, exists_or]
  | empty tag rest ih =>
      have hrest := ih hf.rest_of_empty hvalue hformula
      have hnot : ¬ HasText (⟨tag, none⟩ : Xml.Element).body := by
        rintro ⟨raw, hraw⟩
        cases hraw
      have hafter : o.after (.empty tag) = o := rfl
      rw [Xml.Forest.events, readsFormula_cons_iff, hafter]
      cases hname : SheetElement.formula.names tag.name with
      | true =>
          rw [Xml.Forest.elements_empty_of_true hname]
          simpa [hnot] using hrest
      | false =>
          rw [Xml.Forest.elements_empty_of_false hname]
          simpa using hrest
  | text raw rest ih =>
      have hafter : o.after (.text raw) = o := rfl
      rw [Xml.Forest.events, readsFormula_cons_iff, hafter, Xml.Forest.elements]
      simpa [hformula] using ih hf hvalue hformula
  | aside rest ih =>
      have hafter : o.after .aside = o := rfl
      rw [Xml.Forest.events, readsFormula_cons_iff, hafter, Xml.Forest.elements]
      simpa using ih hf hvalue hformula

end Scope

/-! ## Cells -/

/-- Whether a cell is stored, and as a formula. -/
def PendingCell.IsFormula (c : PendingCell) (shared : Array String) : Prop :=
  ∃ content, c.stored? shared = some content ∧ content.isFormula = true

/-- What decides whether a cell, which has been read as `c`, is stored as a formula. -/
structure DecidesFormula (shared : Array String) (e : Xml.Element) (texts : List CellText)
    (c : PendingCell) : Prop where
  /-- It is one exactly if a text was taken for that of a formula. -/
  iff_text : c.IsFormula shared ↔ ∃ text ∈ texts, text.1 = .formula
  /-- A cell without a formula is never stored as one. -/
  of_none : e.body.elements SheetElement.formula.names = [] → ¬ c.IsFormula shared
  /-- A cell with a formula is stored as one exactly if a text stands in it. -/
  iff_element : Separate valueOrFormula valueOrFormula e.body →
    (c.IsFormula shared ↔
      ∃ x ∈ e.body.elements SheetElement.formula.names, HasText x.body)

theorem PendingCell.Holds.isFormula_iff {c : PendingCell} {tag : Xml.Tag} {texts : List CellText}
    {shared : Array String} (h : c.Holds tag texts)
    (hcontent : c.content? shared = .ok (c.stored? shared)) :
    c.IsFormula shared ↔ ∃ text ∈ texts, text.1 = .formula := by
  rw [← h.formula_iff]
  constructor
  · rintro ⟨content, hstored, hformula⟩
    exact (PendingCell.yields_of_stored hstored).isFormula_iff.mp hformula
  · intro hformula
    obtain ⟨content, hstored⟩ := Option.isSome_iff_exists.mp
      ((PendingCell.yields_of_ok hcontent).isSome_iff.mpr (.inr hformula))
    exact ⟨content, hstored, (PendingCell.yields_of_stored hstored).isFormula_iff.mpr hformula⟩

theorem PendingCell.Holds.decidesFormula {c : PendingCell} {e : Xml.Element} {inlineText : Bool}
    {shared : Array String} (h : c.Holds e.tag (cellTexts inlineText e))
    (hcontent : c.content? shared = .ok (c.stored? shared)) :
    DecidesFormula shared e (cellTexts inlineText e) c where
  iff_text := h.isFormula_iff hcontent
  of_none := by
    intro hnone
    rw [h.isFormula_iff hcontent]
    refine Scope.not_readsFormula_of_formula rfl fun x hx => ?_
    exact Xml.Forest.apart_of_elements_eq_nil hnone hx
  iff_element := by
    intro hseparate
    rw [h.isFormula_iff hcontent]
    exact Scope.readsFormula_events_iff hseparate rfl rfl

theorem decidesFormula_of_holds {shared : Array String} {inlineText : Bool}
    {es : List Xml.Element} {read : List PendingCell}
    (h : List.Forall₂ (fun x c => PendingCell.Holds c x.1.tag x.2) (withTexts inlineText es) read)
    (hcontent : ∀ c ∈ read, c.content? shared = .ok (c.stored? shared)) :
    List.Forall₂ (fun x c => DecidesFormula shared x.1 x.2 c) (withTexts inlineText es) read := by
  induction es generalizing inlineText read with
  | nil =>
      cases h
      exact .nil
  | cons e es ih =>
      cases h with
      | cons hc hrest =>
          obtain ⟨hcontent, hcontents⟩ := List.forall_mem_cons.mp hcontent
          exact .cons (hc.decidesFormula hcontent) (ih hrest hcontents)

/-- **Which cells are stored as formulas.** The cells of a well-formed part that can be read, and
whose cells hold no rows and no cells, are stored as formulas as `DecidesFormula` says: never
without a formula in the cell, and with one exactly if a text stands in it. What is stored for
a cell is there in the end unless a later cell with content stands at its address, and nothing
else is stored. -/
theorem formulas_of_readSheetPart {shared : Array String} {name : String} {f : Xml.Forest}
    {s : Sheet} (hf : CellsApart f) (h : readSheetPart shared name f.document = .ok s) :
    ∃ read : List PendingCell,
      read.map PendingCell.address = places 0 0 (f.elements rowOrCell) ∧
      List.Forall₂ (fun x c => DecidesFormula shared x.1 x.2 c)
        (withTexts false (f.elements SheetElement.cell.names)) read ∧
      (∀ before c after content, read = before ++ c :: after →
        c.stored? shared = some content →
        (∀ c' ∈ after, c'.address = c.address → c'.stored? shared = none) →
        s.content? c.address = some content) ∧
      ∀ a content, s.content? a = some content →
        ∃ c ∈ read, c.address = a ∧ c.stored? shared = some content := by
  obtain ⟨read, hread, -, hplaces⟩ := readSheetPart_reads hf h
  refine ⟨read, hplaces, decidesFormula_of_holds hread.holds hread.content_eq, ?_, ?_⟩
  · intro before c after content hsplit hc hafter
    exact hread.content_of_last hsplit hc hafter
  · intro a content hcontent
    exact hread.exists_of_content hcontent

theorem formulas_of_mixedPart :
    ∃ s read, readSheetPart #[] "A" mixedPart.document = .ok s ∧
      read.map PendingCell.address = [⟨2, 3⟩, ⟨2, 4⟩, ⟨3, 1⟩] ∧
      List.Forall₂ (fun x c => DecidesFormula #[] x.1 x.2 c)
        (withTexts false (mixedPart.elements SheetElement.cell.names)) read := by
  obtain ⟨s, hs⟩ := readSheetPart_mixedPart
  have hplaces : places 0 0 (mixedPart.elements rowOrCell)
      = [⟨2, 3⟩, ⟨2, 4⟩, ⟨3, 1⟩] := by
    decide +kernel
  obtain ⟨read, haddresses, hdecides, -, -⟩ := formulas_of_readSheetPart (by decide +kernel) hs
  exact ⟨s, read, hs, haddresses.trans hplaces, hdecides⟩

/-- A cell whose formula is that of another cell: the element is there, but it is a single tag. -/
def followerPart : Xml.Forest :=
  .element ⟨Xml.asciiName "row", Xml.asciiName " r=\"1\""⟩
    (.element ⟨Xml.asciiName "c", Xml.asciiName " r=\"A1\""⟩
      (.empty ⟨Xml.asciiName "f", Xml.asciiName " t=\"shared\" si=\"0\""⟩
        (.element ⟨Xml.asciiName "v", []⟩ (.text (Xml.asciiName "3") .nil) .nil)) .nil) .nil

/-- A formula without text is lost: its cell stores the result as if it had been typed in. -/
theorem followerPart_is_literal :
    ∃ s, readSheetPart #[] "A" followerPart.document = .ok s ∧
      (∀ e ∈ followerPart.elements SheetElement.cell.names,
        reference? e.tag = some ⟨1, 1⟩ ∧ e.body.elements SheetElement.formula.names ≠ []) ∧
      s.content? ⟨1, 1⟩ = some (.literal (numberOrText "3")) := by
  have hread : (readSheetPart #[] "A" followerPart.document).toOption.map
      (fun s => s.content? ⟨1, 1⟩) = some (some (.literal (numberOrText "3"))) := by
    decide +kernel
  obtain ⟨s, hs, hcontent⟩ := Option.map_eq_some_iff.mp hread
  exact ⟨s, toOption_eq_some_iff.mp hs, by decide +kernel, hcontent⟩

end SheetInspector.Xlsx
