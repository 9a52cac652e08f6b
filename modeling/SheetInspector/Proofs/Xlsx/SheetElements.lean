import SheetInspector.Proofs.Xlsx.CellText

set_option autoImplicit false

/-! # The rows and cells of a part

Outside of cells nothing is pending and no flag is up but that of texts, which an odd cell may
leave behind. From there a row matters by its tag, and a cell as a whole: where it stands is read
off its tag and the counters of row and column, its content off its texts. So reading a part is
reading its rows and cells in document order (`SheetScan.readsElements`).
-/

namespace SheetInspector.Xlsx

/-- The texts that count in a cell, where the flag of texts may still be up from the cell before. -/
def cellTexts (inlineText : Bool) (e : Xml.Element) : List CellText :=
  (Scope.start inlineText).texts e.body.events

/-- The flag of texts behind a cell. -/
def inlineTextBehind (inlineText : Bool) (e : Xml.Element) : Bool :=
  (e.body.events.foldl Scope.after (Scope.start inlineText)).inlineText

/-- What is read of a cell in the given row and behind the given column. -/
def PendingCell.collect (row column : Nat) (inlineText : Bool) (e : Xml.Element) :
    Except Fault PendingCell := do
  let c ← PendingCell.start row column e.tag
  (cellTexts inlineText e).foldlM PendingCell.take c

/-! ## The flag of texts -/

/-- Whether no inline text begins in a text of another, where one may be open around the nodes. -/
structure TextsClose (opened : Bool) (f : Xml.Forest) : Prop where
  within : ∀ x ∈ f.elements SheetElement.inlineText.names,
    ∀ t ∈ x.body.elements SheetElement.text.names,
      t.body.elements SheetElement.inlineText.names = []
  around : opened = true → ∀ t ∈ f.elements SheetElement.text.names,
    t.body.elements SheetElement.inlineText.names = []

instance (opened : Bool) (f : Xml.Forest) : Decidable (TextsClose opened f) :=
  decidable_of_iff (_ ∧ _) ⟨fun h => ⟨h.1, h.2⟩, fun h => ⟨h.within, h.around⟩⟩

namespace TextsClose

variable {opened : Bool} {tag : Xml.Tag} {f g : Xml.Forest}

theorem of_imp {opened' : Bool} (h : TextsClose opened f) (himp : opened' = true → opened = true) :
    TextsClose opened' f := ⟨h.within, fun ho => h.around (himp ho)⟩

theorem inside (h : TextsClose opened (.element tag f g)) : TextsClose opened f where
  within := fun x hx => h.within x (Xml.Forest.mem_elements_inside hx)
  around := fun ho t ht => h.around ho t (Xml.Forest.mem_elements_inside ht)

theorem inside_inlineText (h : TextsClose opened (.element tag f g))
    (hk : SheetElement.of tag.name = .inlineText) : TextsClose true f where
  within := h.inside.within
  around := fun _ => h.within ⟨tag, some f⟩ (by simp [SheetElement.names_iff.mpr hk])

theorem rest (h : TextsClose opened (.element tag f g)) : TextsClose opened g where
  within := fun x hx => h.within x (Xml.Forest.mem_elements_rest hx)
  around := fun ho t ht => h.around ho t (Xml.Forest.mem_elements_rest ht)

theorem rest_of_empty (h : TextsClose opened (.empty tag g)) : TextsClose opened g where
  within := fun x hx => h.within x (Xml.Forest.mem_elements_rest_of_empty hx)
  around := fun ho t ht => h.around ho t (Xml.Forest.mem_elements_rest_of_empty ht)

/-- It is enough that no inline text holds another at all. -/
theorem of_separate
    (h : Separate SheetElement.inlineText.names SheetElement.inlineText.names f) :
    TextsClose false f where
  within := by
    intro x hx t ht
    have hnone := h x hx (Xml.Forest.name_of_mem_elements hx)
    refine List.eq_nil_iff_forall_not_mem.mpr fun y hy => ?_
    have hmem := Xml.Forest.mem_elements_of_mem_body ht hy
    rw [hnone] at hmem
    cases hmem
  around := fun ho => by cases ho

end TextsClose

namespace Scope

theorem flag_foldl_after {k : SheetElement} {es : List Xml.Event}
    (hes : ∀ e ∈ es, e.Apart k.names) (o : Scope) : flag k (es.foldl after o) = flag k o := by
  induction es generalizing o with
  | nil => rfl
  | cons e es ih =>
      obtain ⟨he, hes⟩ := List.forall_mem_cons.mp hes
      rw [List.foldl_cons, ih hes, flag_after he]

/-- An inline text that is open behind nodes was open in front of them. -/
theorem inline_of_foldl_after {f : Xml.Forest} {o : Scope}
    (h : (f.events.foldl after o).inline = true) : o.inline = true := by
  by_contra hclosed
  have hflag : flag .inlineText o = false := by simpa [flag] using hclosed
  have hdown := (latch .inlineText).foldl_events f hflag
  rw [flag, h] at hdown
  cases hdown

/-- What stands in an element is no less closed in the scope that its start tag leads to. -/
theorem textsClose_inside {tag : Xml.Tag} {inside rest : Xml.Forest} {o : Scope}
    (h : TextsClose o.inline (.element tag inside rest)) :
    TextsClose (o.after (.start tag)).inline inside := by
  rw [after]
  cases hk : SheetElement.of tag.name with
  | inlineText => exact h.inside_inlineText hk
  | _ => exact h.inside

/-- **No text stays open behind nodes**, where no inline text begins in a text of another. -/
theorem inlineText_foldl_after {f : Xml.Forest} {o : Scope} (h : TextsClose o.inline f)
    (ho : o.inlineText = false) : (f.events.foldl after o).inlineText = false := by
  induction f generalizing o with
  | nil => exact ho
  | element tag inside rest ihInside ihRest =>
      have hevents : (Xml.Forest.element tag inside rest).events
          = (Xml.Forest.element tag inside .nil).events ++ rest.events := by
        simp [Xml.Forest.events]
      rw [hevents, List.foldl_append]
      refine ihRest (h.rest.of_imp inline_of_foldl_after) ?_
      rw [Xml.Forest.events, List.foldl_cons, List.foldl_append]
      show ((inside.events.foldl after (o.after (.start tag))).after
        (.finish tag.name)).inlineText = false
      cases hk : SheetElement.of tag.name with
      | text =>
          have hfinish (o' : Scope) :
              (o'.after (.finish tag.name)).inlineText = (o'.inlineText && !o'.inline) := by
            rw [after, hk]
          rw [hfinish]
          cases hopen : o.inline with
          | true =>
              -- nothing in the text closes the inline text around it, so the end of the text counts
              have hnone := h.around hopen ⟨tag, some inside⟩
                (by simp [SheetElement.names_iff.mpr hk])
              have hstart : (o.after (.start tag)).inline = true := by rw [after, hk, hopen]
              have hstays : (inside.events.foldl after (o.after (.start tag))).inline = true :=
                (flag_foldl_after (k := .inlineText)
                  (fun e he => Xml.Forest.apart_of_elements_eq_nil hnone he) _).trans hstart
              rw [hstays, Bool.not_true, Bool.and_false]
          | false =>
              -- a text outside of inline texts does not count from its start on
              have hstart : (o.after (.start tag)).inlineText = false := by
                simp [after, hk, ho, hopen]
              rw [ihInside (textsClose_inside h) hstart, Bool.false_and]
      | _ =>
          have hstart : (o.after (.start tag)).inlineText = false := by rw [after, hk, ho]
          have hfinish (o' : Scope) : (o'.after (.finish tag.name)).inlineText = o'.inlineText := by
            rw [after, hk]
          rw [hfinish]
          exact ihInside (textsClose_inside h) hstart
  | empty tag rest ih => exact ih h.rest_of_empty ho
  | text raw rest ih => exact ih ⟨h.within, h.around⟩ ho
  | aside rest ih => exact ih ⟨h.within, h.around⟩ ho

end Scope

/-- A cell in which no inline text begins in a text of another leaves no text open. -/
theorem inlineTextBehind_eq_false {e : Xml.Element} (h : TextsClose false e.body) :
    inlineTextBehind false e = false :=
  Scope.inlineText_foldl_after (o := Scope.start false) h rfl

/-! ## Reading cells -/

namespace SheetScan

/-- The state outside of cells. -/
structure Rests (s : SheetScan) : Prop where
  pending : s.pending = none
  value : s.inValue = false
  formula : s.inFormula = false
  inline : s.inInline = false

/-- Reads a row's tag or a cell as a whole. -/
def readElement (shared : Array String) (s : SheetScan) (e : Xml.Element) :
    Except Fault SheetScan :=
  if SheetElement.of e.tag.name = .row then s.beginRow e.tag
  else do
    let c ← PendingCell.collect s.row s.column s.inInlineText e
    { s with inInlineText := inlineTextBehind s.inInlineText e }.storeCell shared c

theorem Rests.step_of_apart {s : SheetScan} (hs : s.Rests) (shared : Array String)
    {e : Xml.Event} (he : e.Apart rowOrCell) : s.step shared e = .ok s := by
  obtain ⟨sheet, row, column, pending, inValue, inFormula, inInline, inInlineText⟩ := s
  obtain ⟨rfl, rfl, rfl, rfl⟩ := hs
  cases e with
  | start tag =>
      obtain ⟨hrow, hcell⟩ := rowOrCell_eq_false_iff.mp (he tag.name rfl)
      rw [step, startElement]
      cases hk : SheetElement.of tag.name with
      | row => exact absurd hk hrow
      | cell => exact absurd hk hcell
      | value => rfl
      | formula => rfl
      | inlineText => rfl
      | text => rfl
      | other => rfl
  | empty tag =>
      obtain ⟨hrow, hcell⟩ := rowOrCell_eq_false_iff.mp (he tag.name rfl)
      rw [step, emptyElement]
      cases hk : SheetElement.of tag.name with
      | row => exact absurd hk hrow
      | cell => exact absurd hk hcell
      | value => rfl
      | formula => rfl
      | inlineText => rfl
      | text => rfl
      | other => rfl
  | finish name =>
      obtain ⟨hrow, hcell⟩ := rowOrCell_eq_false_iff.mp (he name rfl)
      rw [step, endElement]
      cases hk : SheetElement.of name with
      | row => rfl
      | cell => exact absurd hk hcell
      | value => rfl
      | formula => rfl
      | inlineText => rfl
      | text => exact congrArg Except.ok (by simp)
      | other => rfl
  | text raw => rfl
  | aside => rfl

/-- The beginning of a cell outside of cells leads into it. -/
theorem Rests.step_start {s : SheetScan} (hs : s.Rests) (shared : Array String) {tag : Xml.Tag}
    (hcell : SheetElement.of tag.name = .cell) :
    s.step shared (.start tag)
      = (PendingCell.start s.row s.column tag).map
          (s.within (.start s.inInlineText)) := by
  obtain ⟨sheet, row, column, pending, inValue, inFormula, inInline, inInlineText⟩ := s
  obtain ⟨rfl, rfl, rfl, rfl⟩ := hs
  rw [step, startElement, hcell]
  rfl

/-- The end of a cell stores it and leads out of it. -/
theorem Rests.step_finish {s : SheetScan} (hs : s.Rests) (shared : Array String) {name : Bytes}
    (hcell : SheetElement.of name = .cell) (inlineText : Bool) (c : PendingCell) :
    (s.within (.start inlineText) c).step shared (.finish name)
      = { s with inInlineText := inlineText }.storeCell shared c := by
  obtain ⟨sheet, row, column, pending, inValue, inFormula, inInline, inInlineText⟩ := s
  obtain ⟨rfl, rfl, rfl, rfl⟩ := hs
  rw [step, endElement, hcell]
  rfl

/-- A cell that is a single tag is stored at once. -/
theorem Rests.step_empty {s : SheetScan} (hs : s.Rests) (shared : Array String) {tag : Xml.Tag}
    (hcell : SheetElement.of tag.name = .cell) :
    s.step shared (.empty tag)
      = PendingCell.start s.row s.column tag >>= s.storeCell shared := by
  obtain ⟨sheet, row, column, pending, inValue, inFormula, inInline, inInlineText⟩ := s
  obtain ⟨rfl, rfl, rfl, rfl⟩ := hs
  rw [step, emptyElement, hcell]
  refine bind_congr_ok fun c _ => ?_
  rw [storeCell]
  cases c.finish shared sheet with
  | error fault => rfl
  | ok sheet' => rfl

/-- **A cell is read as a whole.** -/
theorem Rests.foldlM_events {s : SheetScan} (hs : s.Rests) (shared : Array String)
    {e : Xml.Element} (hcell : SheetElement.of e.tag.name = .cell)
    (hbody : e.body.elements rowOrCell = []) :
    e.events.foldlM (step shared) s = s.readElement shared e := by
  have hrow : SheetElement.of e.tag.name ≠ .row := by
    rw [hcell]
    decide
  obtain ⟨tag, inside⟩ := e
  rw [readElement, if_neg hrow, PendingCell.collect, bind_assoc]
  cases inside with
  | none =>
      rw [Xml.Element.events, List.foldlM_cons, hs.step_empty shared hcell]
      exact bind_pure _
  | some inside =>
      rw [Xml.Element.events, List.foldlM_cons, hs.step_start shared hcell]
      cases PendingCell.start s.row s.column tag with
      | error fault => rfl
      | ok c =>
          have hapart (e : Xml.Event) (he : e ∈ inside.events) : e.Apart rowOrCell :=
            Xml.Forest.apart_of_elements_eq_nil hbody he
          show (inside.events ++ [Xml.Event.finish tag.name]).foldlM (step shared)
              (s.within (.start s.inInlineText) c) = _
          rw [List.foldlM_append, foldlM_step_within shared s _ c hapart,
            Scope.foldl_after_start]
          show _ = (cellTexts s.inInlineText ⟨tag, some inside⟩).foldlM PendingCell.take c >>= _
          rw [cellTexts, Xml.Element.body, Option.getD_some]
          cases ((Scope.start s.inInlineText).texts inside.events).foldlM PendingCell.take c with
          | error fault => rfl
          | ok c' =>
              have hfinish := hs.step_finish shared hcell
                (inside.events.foldl Scope.after (Scope.start s.inInlineText)).inlineText c'
              show [Xml.Event.finish tag.name].foldlM (step shared) (s.within _ c') = _
              rw [List.foldlM_cons, hfinish]
              exact bind_pure _

/-- Storing a cell leads out of it. -/
theorem Rests.storeCell {s s' : SheetScan} (hs : s.Rests) {shared : Array String}
    {c : PendingCell} (h : s.storeCell shared c = .ok s') : s'.Rests := by
  rw [SheetScan.storeCell, map_eq_ok_iff] at h
  obtain ⟨sheet, -, rfl⟩ := h
  exact ⟨rfl, hs.value, hs.formula, hs.inline⟩

theorem Rests.readElement {s s' : SheetScan} (hs : s.Rests) {shared : Array String}
    {e : Xml.Element} (h : s.readElement shared e = .ok s') : s'.Rests := by
  rw [SheetScan.readElement] at h
  by_cases hrow : SheetElement.of e.tag.name = .row
  · rw [if_pos hrow, beginRow, map_eq_ok_iff] at h
    obtain ⟨row, -, rfl⟩ := h
    exact ⟨hs.pending, hs.value, hs.formula, hs.inline⟩
  · rw [if_neg hrow, bind_eq_ok_iff] at h
    obtain ⟨c, -, hstore⟩ := h
    have hflag : { s with inInlineText := inlineTextBehind s.inInlineText e }.Rests :=
      ⟨hs.pending, hs.value, hs.formula, hs.inline⟩
    exact hflag.storeCell hstore

/-- The names of rows and cells other than those of cells. -/
theorem of_eq_row {name : Bytes} (h : rowOrCell name = true)
    (hcell : SheetElement.cell.names name = false) : SheetElement.of name = .row := by
  by_contra hrow
  rw [rowOrCell_eq_false_iff.mpr ⟨hrow, SheetElement.names_eq_false_iff.mp hcell⟩] at h
  cases h

/-- **Reading a part is reading its rows and cells.** -/
theorem readsElements (shared : Array String) :
    ReadsElements (step shared) rowOrCell SheetElement.cell.names (SheetScan.readElement shared)
      Rests where
  other := fun s hs e he => hs.step_of_apart shared he
  begins := by
    intro s _ tag hname hcell inside
    have hrow := of_eq_row hname hcell
    rw [step, startElement, hrow, SheetScan.readElement, if_pos hrow]
  single := by
    intro s _ tag hname hcell
    have hrow := of_eq_row hname hcell
    rw [step, emptyElement, hrow, SheetScan.readElement, if_pos hrow]
  ends := by
    intro s _ name hname hcell
    rw [step, endElement, of_eq_row hname hcell]
  reads := by
    intro s hs e _ hcell hbody
    exact hs.foldlM_events shared (SheetElement.names_iff.mp hcell) hbody
  rests := fun s s' e hs _ _ h => hs.readElement h

end SheetScan

end SheetInspector.Xlsx
