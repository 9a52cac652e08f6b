import SheetInspector.Proofs.Xlsx.CellContent
import SheetInspector.Proofs.Xlsx.SheetElements

set_option autoImplicit false

/-! # Where the cells of a part stand

The format puts a cell at its reference or else behind the cell before it, and a row at its number
or else behind the row before it. `places` lists the addresses that follow from this, with the rows
and cells of a part in document order, and `readSheetPart_reads` says that these are the addresses
at which a part that can be read is read, cell by cell, and what the sheet holds in the end.
-/

namespace SheetInspector.Xlsx

/-! ## What the format says -/

/-- The addresses of the cells among some rows and cells, behind the given row and column. -/
def places (row column : Nat) : List Xml.Element → List Address
  | [] => []
  | e :: es =>
    if SheetElement.of e.tag.name = .row then
      places ((writtenRow? e.tag).getD (row + 1)) 0 es
    else
      let a := (reference? e.tag).getD ⟨row, column + 1⟩
      a :: places row a.column es

/-- The numbers of the rows among some rows and cells, behind the given row. -/
def rowNumbers (row : Nat) : List Xml.Element → List Nat
  | [] => []
  | e :: es =>
    if SheetElement.of e.tag.name = .row then
      let number := (writtenRow? e.tag).getD (row + 1)
      number :: rowNumbers number es
    else rowNumbers row es

/-- Cells together with the texts that count in them, where the flag of texts may be up before
the first one. -/
def withTexts (inlineText : Bool) : List Xml.Element → List (Xml.Element × List CellText)
  | [] => []
  | e :: es => (e, cellTexts inlineText e) :: withTexts (inlineTextBehind inlineText e) es

/-- Whether the attributes that matter in the tag of a row or cell can be read. -/
def LegibleTag (e : Xml.Element) : Prop :=
  if SheetElement.of e.tag.name = .row then Legible e.tag.attributes "r" rowOf?
  else LegibleCell e.tag.attributes

theorem places_cons_row {row column : Nat} {e : Xml.Element} {es : List Xml.Element}
    (he : SheetElement.of e.tag.name = .row) :
    places row column (e :: es) = places ((writtenRow? e.tag).getD (row + 1)) 0 es := by
  rw [places, if_pos he]

theorem places_cons_cell {row column : Nat} {e : Xml.Element} {es : List Xml.Element}
    (he : SheetElement.of e.tag.name ≠ .row) :
    places row column (e :: es)
      = (reference? e.tag).getD ⟨row, column + 1⟩
        :: places row ((reference? e.tag).getD ⟨row, column + 1⟩).column es := by
  rw [places, if_neg he]

theorem rowNumbers_cons_row {row : Nat} {e : Xml.Element} {es : List Xml.Element}
    (he : SheetElement.of e.tag.name = .row) :
    rowNumbers row (e :: es) = (writtenRow? e.tag).getD (row + 1)
      :: rowNumbers ((writtenRow? e.tag).getD (row + 1)) es := by
  rw [rowNumbers, if_pos he]

theorem rowNumbers_cons_cell {row : Nat} {e : Xml.Element} {es : List Xml.Element}
    (he : SheetElement.of e.tag.name ≠ .row) : rowNumbers row (e :: es) = rowNumbers row es := by
  rw [rowNumbers, if_neg he]

/-- The cells of a part are those among its rows and cells. -/
theorem elements_cell (f : Xml.Forest) : f.elements SheetElement.cell.names
    = (f.elements rowOrCell).filter fun e => SheetElement.cell.names e.tag.name :=
  f.elements_of_imp fun name hname => by simp [rowOrCell, hname]

/-- The rows of a part are those among its rows and cells. -/
theorem elements_row (f : Xml.Forest) : f.elements SheetElement.row.names
    = (f.elements rowOrCell).filter fun e => SheetElement.row.names e.tag.name :=
  f.elements_of_imp fun name hname => by simp [rowOrCell, hname]

/-! ## Reading rows and cells -/

/-- **What reading a row does**: it moves on the row, as far as its number is a word, and the
column. -/
theorem SheetScan.readElement_row {shared : Array String} {s s' : SheetScan} {e : Xml.Element}
    (he : SheetElement.of e.tag.name = .row) :
    s.readElement shared e = .ok s' ↔ Legible e.tag.attributes "r" rowOf? ∧
      (writtenRow? e.tag).getD (s.row + 1) < 2 ^ 32 ∧
      s' = { s with row := (writtenRow? e.tag).getD (s.row + 1), column := 0 } := by
  rw [readElement, if_pos he, beginRow, map_eq_ok_iff]
  constructor
  · rintro ⟨row, hrow, rfl⟩
    obtain ⟨hlegible, rfl, hword⟩ := rowNumber_eq_ok_iff.mp hrow
    exact ⟨hlegible, hword, rfl⟩
  · rintro ⟨hlegible, hword, rfl⟩
    exact ⟨_, rowNumber_eq_ok_iff.mpr ⟨hlegible, rfl, hword⟩, rfl⟩

/-- A cell as it is read outside of cells. -/
structure ReadsCell (shared : Array String) (s : SheetScan) (e : Xml.Element) (c : PendingCell) :
    Prop where
  legible : LegibleCell e.tag.attributes
  address : c.address = (reference? e.tag).getD ⟨s.row, s.column + 1⟩
  holds : c.Holds e.tag (cellTexts s.inInlineText e)
  content : c.content? shared = .ok (c.stored? shared)
  place : (c.edit shared).place = .ok c.address

/-- The state behind a cell. -/
def SheetScan.behind (shared : Array String) (s : SheetScan) (e : Xml.Element) (c : PendingCell) :
    SheetScan :=
  { s with
    sheet := s.sheet.run [c.edit shared]
    column := c.address.column
    pending := none
    inInlineText := inlineTextBehind s.inInlineText e }

/-- **What reading a cell does.** -/
theorem SheetScan.readElement_cell {shared : Array String} {s s' : SheetScan} {e : Xml.Element}
    (he : SheetElement.of e.tag.name ≠ .row) (h : s.readElement shared e = .ok s') :
    ∃ c, ReadsCell shared s e c ∧ s' = s.behind shared e c := by
  rw [readElement, if_neg he, bind_eq_ok_iff] at h
  obtain ⟨c, hcollect, hstore⟩ := h
  rw [PendingCell.collect, bind_eq_ok_iff] at hcollect
  obtain ⟨c₀, hstart, htake⟩ := hcollect
  obtain ⟨hlegible, -, rfl⟩ := PendingCell.start_eq_ok_iff.mp hstart
  rw [storeCell, map_eq_ok_iff] at hstore
  obtain ⟨sheet, hfinish, rfl⟩ := hstore
  obtain ⟨hcontent, hplace, rfl⟩ := PendingCell.finish_eq_ok hfinish
  have haddress : c.address = (reference? e.tag).getD ⟨s.row, s.column + 1⟩ :=
    (PendingCell.fills_foldlM htake).address
  rw [← haddress] at htake
  exact ⟨c, ⟨hlegible, haddress, ⟨htake⟩, hcontent, hplace⟩, rfl⟩

/-- A cell that is as it is read can be read. -/
theorem ReadsCell.readElement {shared : Array String} {s : SheetScan} {e : Xml.Element}
    {c : PendingCell} (he : SheetElement.of e.tag.name ≠ .row) (h : ReadsCell shared s e c) :
    s.readElement shared e = .ok (s.behind shared e c) := by
  have hrow : c.address.row ≠ 0 := by
    have hholds := (SheetEdit.place_eq_ok_iff.mp h.place).2
    exact Nat.ne_of_gt hholds.1
  have hstart : PendingCell.start s.row s.column e.tag
      = .ok ⟨c.address, typeName? e.tag, none, none⟩ :=
    PendingCell.start_eq_ok_iff.mpr ⟨h.legible, hrow, by rw [← h.address]⟩
  rw [SheetScan.readElement, if_neg he, bind_eq_ok_iff]
  refine ⟨c, ?_, ?_⟩
  · rw [PendingCell.collect, hstart]
    exact h.holds.collected
  · rw [SheetScan.storeCell, PendingCell.finish_of_ok h.content h.place]
    rfl

/-- A run over rows and cells, and the cells as they were read. -/
structure Traces (shared : Array String) (s s' : SheetScan) (es : List Xml.Element)
    (read : List PendingCell) : Prop where
  places : read.map PendingCell.address = places s.row s.column es
  holds : List.Forall₂ (fun x c => PendingCell.Holds c x.1.tag x.2)
    (withTexts s.inInlineText (es.filter fun e => SheetElement.cell.names e.tag.name)) read
  legible : ∀ e ∈ es, LegibleTag e
  content : ∀ c ∈ read, c.content? shared = .ok (c.stored? shared)
  place : ∀ c ∈ read, (c.edit shared).place = .ok c.address
  sheet : s'.sheet = s.sheet.run (read.map fun c => c.edit shared)

theorem Traces.cons_row {shared : Array String} {s s' : SheetScan} {e : Xml.Element}
    {es : List Xml.Element} {read : List PendingCell} (he : SheetElement.of e.tag.name = .row)
    (hlegible : Legible e.tag.attributes "r" rowOf?)
    (h : Traces shared
      { s with row := (writtenRow? e.tag).getD (s.row + 1), column := 0 } s' es read) :
    Traces shared s s' (e :: es) read where
  places := by
    rw [places_cons_row he]
    exact h.places
  holds := by
    have hcell : SheetElement.cell.names e.tag.name = false :=
      SheetElement.names_eq_false_iff.mpr (by simp [he])
    rw [List.filter_cons_of_neg (by simp [hcell])]
    exact h.holds
  legible := by
    intro e' he'
    rcases List.mem_cons.mp he' with rfl | he'
    · rw [LegibleTag, if_pos he]
      exact hlegible
    · exact h.legible e' he'
  content := h.content
  place := h.place
  sheet := h.sheet

theorem Traces.cons_cell {shared : Array String} {s s' : SheetScan} {e : Xml.Element}
    {es : List Xml.Element} {c : PendingCell} {read : List PendingCell}
    (he : SheetElement.of e.tag.name = .cell) (hc : ReadsCell shared s e c)
    (h : Traces shared (s.behind shared e c) s' es read) :
    Traces shared s s' (e :: es) (c :: read) where
  places := by
    rw [places_cons_cell (by simp [he]), ← hc.address, List.map_cons]
    exact congrArg (c.address :: ·) h.places
  holds := by
    rw [List.filter_cons_of_pos (by simpa using SheetElement.names_iff.mpr he), withTexts]
    exact .cons hc.holds h.holds
  legible := by
    intro e' he'
    rcases List.mem_cons.mp he' with rfl | he'
    · rw [LegibleTag, if_neg (by simp [he])]
      exact hc.legible
    · exact h.legible e' he'
  content := List.forall_mem_cons.mpr ⟨hc.content, h.content⟩
  place := List.forall_mem_cons.mpr ⟨hc.place, h.place⟩
  sheet := h.sheet

/-- **A run over rows and cells that succeeds leaves a trace.** -/
theorem traces_foldlM {shared : Array String} {s s' : SheetScan} {es : List Xml.Element}
    (hes : ∀ e ∈ es, rowOrCell e.tag.name = true)
    (h : es.foldlM (SheetScan.readElement shared) s = .ok s') :
    ∃ read, Traces shared s s' es read := by
  induction es generalizing s with
  | nil =>
      cases h
      exact ⟨[], ⟨rfl, .nil, by simp, by simp, by simp, rfl⟩⟩
  | cons e es ih =>
      rw [List.foldlM_cons, bind_eq_ok_iff] at h
      obtain ⟨mid, hmid, hrest⟩ := h
      have hnames (e' : Xml.Element) (he' : e' ∈ es) : rowOrCell e'.tag.name = true :=
        hes e' (List.mem_cons_of_mem e he')
      by_cases he : SheetElement.of e.tag.name = .row
      · obtain ⟨hlegible, -, rfl⟩ := (SheetScan.readElement_row he).mp hmid
        obtain ⟨read, hread⟩ := ih hnames hrest
        exact ⟨read, hread.cons_row he hlegible⟩
      · -- the only other elements that are read are cells
        have hcell : SheetElement.of e.tag.name = .cell := by
          by_contra hother
          have hname := hes e List.mem_cons_self
          rw [rowOrCell_eq_false_iff.mpr ⟨he, hother⟩] at hname
          cases hname
        obtain ⟨c, hc, rfl⟩ := SheetScan.readElement_cell he hmid
        obtain ⟨read, hread⟩ := ih hnames hrest
        exact ⟨c :: read, hread.cons_cell hcell hc⟩

end SheetInspector.Xlsx
