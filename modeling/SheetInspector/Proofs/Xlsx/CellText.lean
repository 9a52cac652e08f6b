import SheetInspector.Proofs.Xlsx.CellTag

set_option autoImplicit false

/-! # The texts of a cell

While a cell is read, four flags say which of its elements have begun. They depend on the tags
alone, so the texts that count and what each of them is part of can be told without reading any
(`Scope.texts`), and a cell that has been read is what its tag says with these texts taken in one
after the other (`foldlM_step_within`).
-/

namespace SheetInspector.Xlsx

/-- Whether a name is that of a certain element. -/
def SheetElement.names (k : SheetElement) (name : Bytes) : Bool := SheetElement.of name = k

/-- Whether a name is that of a row or of a cell. -/
def rowOrCell (name : Bytes) : Bool := SheetElement.row.names name || SheetElement.cell.names name

theorem SheetElement.names_iff {k : SheetElement} {name : Bytes} :
    k.names name = true ↔ SheetElement.of name = k := decide_eq_true_iff

theorem SheetElement.names_eq_false_iff {k : SheetElement} {name : Bytes} :
    k.names name = false ↔ SheetElement.of name ≠ k := decide_eq_false_iff_not

theorem rowOrCell_eq_false_iff {name : Bytes} :
    rowOrCell name = false ↔ SheetElement.of name ≠ .row ∧ SheetElement.of name ≠ .cell := by
  rw [rowOrCell, Bool.or_eq_false_iff, SheetElement.names_eq_false_iff,
    SheetElement.names_eq_false_iff]

/-! ## What a text is part of -/

/-- What a text in a cell is part of. -/
inductive TextRole where
  | value
  | formula
  /-- The text of a cell's own. -/
  | inline
  deriving DecidableEq, Repr

/-- A text of a cell, as it stands in the document, and what it is part of. -/
abbrev CellText := TextRole × Bytes

/-- Which elements of a cell have begun. -/
structure Scope where
  value : Bool
  formula : Bool
  inline : Bool
  inlineText : Bool
  deriving DecidableEq, Repr

namespace Scope

/-- The scope in which a cell begins. -/
def start (inlineText : Bool) : Scope := ⟨false, false, false, inlineText⟩

/-- The scope behind an event within a cell. -/
def after (o : Scope) : Xml.Event → Scope
  | .start tag =>
    match SheetElement.of tag.name with
    | .value => { o with value := true }
    | .formula => { o with formula := true }
    | .inlineText => { o with inline := true }
    | .text => { o with inlineText := o.inline || o.inlineText }
    | _ => o
  | .finish name =>
    match SheetElement.of name with
    | .value => { o with value := false }
    | .formula => { o with formula := false }
    | .inlineText => { o with inline := false }
    | .text => { o with inlineText := o.inlineText && !o.inline }
    | _ => o
  | _ => o

/-- What a text in a scope is part of, if it counts. -/
def role? (o : Scope) : Option TextRole :=
  if o.value then some .value
  else if o.formula then some .formula
  else if o.inlineText then some .inline
  else none

/-- The text that an event in a scope contributes. -/
def text? (o : Scope) : Xml.Event → Option CellText
  | .text raw => o.role?.map (·, raw)
  | _ => none

/-- The texts that count among some events, in their order. -/
def texts (o : Scope) : List Xml.Event → List CellText
  | [] => []
  | e :: es => (o.text? e).toList ++ (o.after e).texts es

theorem texts_append (o : Scope) (es fs : List Xml.Event) :
    o.texts (es ++ fs) = o.texts es ++ (es.foldl after o).texts fs := by
  induction es generalizing o with
  | nil => rfl
  | cons e es ih => rw [List.cons_append, texts, texts, ih, List.append_assoc, List.foldl_cons]

/-- Whether an element is open, for those that a scope keeps account of. -/
def flag : SheetElement → Scope → Bool
  | .value, o => o.value
  | .formula, o => o.formula
  | .inlineText, o => o.inline
  | _, _ => false

/-- No other element moves the flag of one. -/
theorem flag_after {k : SheetElement} {e : Xml.Event} (he : e.Apart k.names) (o : Scope) :
    flag k (o.after e) = flag k o := by
  have hother {name : Bytes} (hname : e.name? = some name) : SheetElement.of name ≠ k :=
    SheetElement.names_eq_false_iff.mp (he name hname)
  cases e with
  | start tag =>
      have hk := hother rfl
      rw [after]
      cases htag : SheetElement.of tag.name <;> cases k <;> first | rfl | exact absurd htag hk
  | finish name =>
      have hk := hother rfl
      rw [after]
      cases hname : SheetElement.of name <;> cases k <;> first | rfl | exact absurd hname hk
  | empty tag => rfl
  | text raw => rfl
  | aside => rfl

/-- Behind an element that is closed its flag is down. -/
theorem latch (k : SheetElement) : Xml.Latch after k.names (flag k) where
  ends := by
    intro o name hname
    rw [after, SheetElement.names_iff.mp hname]
    cases k <;> rfl
  single := fun _ _ _ ho => ho
  apart := fun o _ he ho => (flag_after he o).trans ho

/-- Behind nodes only the flag of texts can be up. -/
theorem foldl_after_start (inlineText : Bool) (f : Xml.Forest) :
    f.events.foldl after (start inlineText)
      = start (f.events.foldl after (start inlineText)).inlineText := by
  have hvalue := (latch .value).foldl_events f (s := start inlineText) rfl
  have hformula := (latch .formula).foldl_events f (s := start inlineText) rfl
  have hinline := (latch .inlineText).foldl_events f (s := start inlineText) rfl
  rw [start, Scope.mk.injEq]
  exact ⟨hvalue, hformula, hinline, rfl⟩

end Scope

/-! ## Taking texts in -/

/-- The cell with one more of its texts taken in. -/
def PendingCell.take (c : PendingCell) (text : CellText) : Except Fault PendingCell :=
  (unescape text.2).map fun s =>
    match text.1 with
    | .value => { c with value := some s }
    | .formula => { c with formula := some s }
    | .inline => { c with value := some (c.value.getD "" ++ s), type := some inlineType }

/-- The state within a cell. -/
def SheetScan.within (s : SheetScan) (o : Scope) (c : PendingCell) : SheetScan :=
  { s with
    pending := some c
    inValue := o.value
    inFormula := o.formula
    inInline := o.inline
    inInlineText := o.inlineText }

/-- A text in a cell is taken in, if it counts. -/
theorem readText_within (s : SheetScan) (o : Scope) (c : PendingCell) (raw : Bytes) :
    (s.within o c).readText raw
      = match o.role? with
        | none => .ok (s.within o c)
        | some role => (c.take (role, raw)).map (s.within o) := by
  obtain ⟨value, formula, inline, inlineText⟩ := o
  cases value with
  | true =>
      show _ = (c.take (.value, raw)).map _
      rw [PendingCell.take, map_map]
      rfl
  | false =>
      cases formula with
      | true =>
          show _ = (c.take (.formula, raw)).map _
          rw [PendingCell.take, map_map]
          rfl
      | false =>
          cases inlineText with
          | true =>
              show _ = (c.take (.inline, raw)).map _
              rw [PendingCell.take, map_map]
              rfl
          | false => rfl

/-- **Within a cell the scope moves with the tags, and the texts that count are taken in.** -/
theorem step_within (shared : Array String) (s : SheetScan) (o : Scope) (c : PendingCell)
    {e : Xml.Event} (he : e.Apart rowOrCell) :
    SheetScan.step shared (s.within o c) e
      = ((o.text? e).toList.foldlM PendingCell.take c).map (s.within (o.after e)) := by
  cases e with
  | start tag =>
      obtain ⟨hrow, hcell⟩ := rowOrCell_eq_false_iff.mp (he tag.name rfl)
      show (s.within o c).startElement tag = .ok (s.within (o.after (.start tag)) c)
      rw [SheetScan.startElement, Scope.after]
      cases hk : SheetElement.of tag.name with
      | row => exact absurd hk hrow
      | cell => exact absurd hk hcell
      | value => rfl
      | formula => rfl
      | inlineText => rfl
      | text => rfl
      | other => rfl
  | empty tag =>
      obtain ⟨hrow, hcell⟩ := rowOrCell_eq_false_iff.mp (he tag.name rfl)
      show (s.within o c).emptyElement shared tag = .ok (s.within o c)
      rw [SheetScan.emptyElement]
      cases hk : SheetElement.of tag.name with
      | row => exact absurd hk hrow
      | cell => exact absurd hk hcell
      | value => rfl
      | formula => rfl
      | inlineText => rfl
      | text => rfl
      | other => rfl
  | finish name =>
      obtain ⟨hrow, hcell⟩ := rowOrCell_eq_false_iff.mp (he name rfl)
      show (s.within o c).endElement shared name = .ok (s.within (o.after (.finish name)) c)
      rw [SheetScan.endElement, Scope.after]
      cases hk : SheetElement.of name with
      | row => exact absurd hk hrow
      | cell => exact absurd hk hcell
      | value => rfl
      | formula => rfl
      | inlineText => rfl
      | text => rfl
      | other => rfl
  | text raw =>
      show (s.within o c).readText raw = _
      rw [readText_within, Scope.text?]
      cases o.role? with
      | none => rfl
      | some role => exact congrArg (Except.map (s.within o)) (bind_pure _).symm
  | aside => rfl

/-- **Reading what stands in a cell is taking its texts in.** -/
theorem foldlM_step_within (shared : Array String) (s : SheetScan) (o : Scope) (c : PendingCell)
    {es : List Xml.Event} (hes : ∀ e ∈ es, e.Apart rowOrCell) :
    es.foldlM (SheetScan.step shared) (s.within o c)
      = ((o.texts es).foldlM PendingCell.take c).map (s.within (es.foldl Scope.after o)) := by
  induction es generalizing o c with
  | nil => rfl
  | cons e es ih =>
      obtain ⟨he, hes⟩ := List.forall_mem_cons.mp hes
      rw [List.foldlM_cons, step_within shared s o c he, Scope.texts, List.foldlM_append,
        List.foldl_cons]
      cases (o.text? e).toList.foldlM PendingCell.take c with
      | error fault => rfl
      | ok c' => exact ih (o.after e) c' hes

end SheetInspector.Xlsx
