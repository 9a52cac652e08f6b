import SheetInspector.Proofs.Sheet.Inspection
import SheetInspector.Proofs.Xlsx.ReadSheet

set_option autoImplicit false

/-! # Cells in another arrangement

While a part is read, the row and the column before and a flag of texts are carried along. None of
them gets into a well-formed cell with a reference of its own (`SelfPlaced.readsAnywhere`), so a
part with no other cells is read by storing what each of them is on its own
(`Arranges.readSheetPart_iff`). As long as their references differ, it does not matter in which
order this is done, nor how the cells stand in rows (`readSheetPart_rearranged`).
-/

namespace SheetInspector.Xlsx

/-! ## Cells with references -/

/-- Whether a cell has a reference and is well-formed: it holds no rows and no cells, and no inline
text begins in a text of another. -/
structure SelfPlaced (e : Xml.Element) : Prop where
  referenced : (attribute? e.tag.attributes "r").isSome
  apart : e.body.elements rowOrCell = []
  closed : TextsClose false e.body

instance (e : Xml.Element) : Decidable (SelfPlaced e) :=
  decidable_of_iff (_ ∧ _ ∧ _)
    ⟨fun h => ⟨h.1, h.2.1, h.2.2⟩, fun h => ⟨h.referenced, h.apart, h.closed⟩⟩

/-- What a cell is read as in every row, behind every column and into every sheet, as long as no
text has been left open. -/
structure ReadsAnywhere (shared : Array String) (e : Xml.Element) (c : PendingCell) : Prop where
  reference : reference? e.tag = some c.address
  reads : ∀ s : SheetScan, s.inInlineText = false → ReadsCell shared s e c

theorem ReadsAnywhere.content {shared : Array String} {e : Xml.Element} {c : PendingCell}
    (h : ReadsAnywhere shared e c) : c.content? shared = .ok (c.stored? shared) :=
  (h.reads (.initial (Sheet.new "")) rfl).content

theorem ReadsAnywhere.place {shared : Array String} {e : Xml.Element} {c : PendingCell}
    (h : ReadsAnywhere shared e c) : (c.edit shared).place = .ok c.address :=
  (h.reads (.initial (Sheet.new "")) rfl).place

/-- **Nothing that is carried along gets into a cell with a reference of its own.** -/
theorem SelfPlaced.readsAnywhere {shared : Array String} {s : SheetScan} {e : Xml.Element}
    {c : PendingCell} (he : SelfPlaced e) (hs : s.inInlineText = false)
    (h : ReadsCell shared s e c) : ReadsAnywhere shared e c := by
  have hreference : reference? e.tag = some c.address := by
    obtain ⟨a, ha⟩ := Option.isSome_iff_exists.mp (h.legible.reference he.referenced)
    have haddress : c.address = a := by
      rw [h.address, reference?, ha]
      rfl
    rw [haddress]
    exact ha
  have hholds : c.Holds e.tag (cellTexts false e) := hs ▸ h.holds
  refine ⟨hreference, fun t ht => ⟨h.legible, ?_, ht ▸ hholds, h.content, h.place⟩⟩
  rw [hreference]
  rfl

/-- The references of cells are the addresses at which they are read. -/
theorem filterMap_reference? {shared : Array String} {cells : List Xml.Element}
    {read : List PendingCell} (h : List.Forall₂ (ReadsAnywhere shared) cells read) :
    cells.filterMap (fun e => reference? e.tag) = read.map PendingCell.address := by
  induction h with
  | nil => rfl
  | cons hc _ ih => rw [List.filterMap_cons, hc.reference, ih, List.map_cons]

/-! ## Reading them -/

/-- **Reading such a cell is storing what it is on its own.** -/
theorem SelfPlaced.readElement_iff {shared : Array String} {s s' : SheetScan} {e : Xml.Element}
    (he : SelfPlaced e) (hcell : SheetElement.of e.tag.name = .cell)
    (hs : s.inInlineText = false) :
    s.readElement shared e = .ok s' ↔
      ∃ c, ReadsAnywhere shared e c ∧ s' = s.behind shared e c := by
  have hnot : SheetElement.of e.tag.name ≠ .row := by
    rw [hcell]
    decide
  constructor
  · intro h
    obtain ⟨c, hc, rfl⟩ := SheetScan.readElement_cell hnot h
    exact ⟨c, he.readsAnywhere hs hc, rfl⟩
  · rintro ⟨c, hc, rfl⟩
    exact (hc.reads s hs).readElement hnot

/-- Such a cell leaves no text open. -/
theorem SelfPlaced.inInlineText_behind {s : SheetScan} {e : Xml.Element} (he : SelfPlaced e)
    (hs : s.inInlineText = false) (shared : Array String) (c : PendingCell) :
    (s.behind shared e c).inInlineText = false := by
  show inlineTextBehind s.inInlineText e = false
  rw [hs]
  exact inlineTextBehind_eq_false he.closed

/-- Whether an element is a row with a number that can be read, or without one, or a cell that
stands by itself. -/
def RowOrSelfPlaced (e : Xml.Element) : Prop :=
  (SheetElement.of e.tag.name = .row ∧ Legible e.tag.attributes "r" rowOf?) ∨
    (SheetElement.of e.tag.name = .cell ∧ SelfPlaced e)

/-- **Reading rows and such cells is storing what each cell is on its own**, as far as the numbers
of the rows are words. -/
theorem foldlM_readElement_iff {shared : Array String} {es : List Xml.Element}
    (hes : ∀ e ∈ es, RowOrSelfPlaced e) {s : SheetScan} (hs : s.inInlineText = false) {t : Sheet} :
    (∃ s', es.foldlM (SheetScan.readElement shared) s = .ok s' ∧ s'.sheet = t) ↔
      (∀ n ∈ rowNumbers s.row es, n < 2 ^ 32) ∧
      ∃ read, List.Forall₂ (ReadsAnywhere shared)
          (es.filter fun e => SheetElement.cell.names e.tag.name) read ∧
        t = s.sheet.run (read.map fun c => c.edit shared) := by
  -- between elements the flag of texts stays down, and the column may be anything
  induction es generalizing s with
  | nil =>
      constructor
      · rintro ⟨s', hread, rfl⟩
        cases hread
        exact ⟨by simp [rowNumbers], [], .nil, rfl⟩
      · rintro ⟨-, read, hread, rfl⟩
        cases hread
        exact ⟨s, rfl, rfl⟩
  | cons e es ih =>
      obtain ⟨he, hes⟩ := List.forall_mem_cons.mp hes
      rcases he with ⟨hrow, hlegible⟩ | ⟨hcell, hplaced⟩
      · have hother : ¬ SheetElement.cell.names e.tag.name = true := by
          rw [SheetElement.names_iff, hrow]
          decide
        have hrest := ih (s := { s with row := (writtenRow? e.tag).getD (s.row + 1), column := 0 })
          hes hs
        rw [List.foldlM_cons, rowNumbers_cons_row hrow, List.forall_mem_cons,
          List.filter_cons_of_neg (by simpa using hother), and_assoc, ← hrest]
        constructor
        · rintro ⟨s', hread, hsheet⟩
          obtain ⟨mid, hmid, hread⟩ := bind_eq_ok_iff.mp hread
          obtain ⟨-, hword, rfl⟩ := (SheetScan.readElement_row hrow).mp hmid
          exact ⟨hword, s', hread, hsheet⟩
        · rintro ⟨hword, hread⟩
          rw [(SheetScan.readElement_row hrow).mpr ⟨hlegible, hword, rfl⟩]
          exact hread
      · have hnot : SheetElement.of e.tag.name ≠ .row := by
          rw [hcell]
          decide
        rw [List.foldlM_cons, rowNumbers_cons_cell hnot,
          List.filter_cons_of_pos (by simpa using SheetElement.names_iff.mpr hcell)]
        constructor
        · rintro ⟨s', hread, rfl⟩
          obtain ⟨mid, hmid, hrest⟩ := bind_eq_ok_iff.mp hread
          obtain ⟨c, hc, rfl⟩ := (hplaced.readElement_iff hcell hs).mp hmid
          have hbehind := hplaced.inInlineText_behind hs shared c
          obtain ⟨hrows, read, hcells, hsheet⟩ := (ih hes hbehind).mp ⟨s', hrest, rfl⟩
          exact ⟨hrows, c :: read, .cons hc hcells, hsheet⟩
        · rintro ⟨hrows, _, hcells, rfl⟩
          obtain ⟨c, read, hc, hrest, rfl⟩ := List.forall₂_cons_left_iff.mp hcells
          have hbehind := hplaced.inInlineText_behind hs shared c
          obtain ⟨s', hread, hsheet⟩ := (ih hes hbehind).mpr ⟨hrows, read, hrest, rfl⟩
          rw [(hplaced.readElement_iff hcell hs).mpr ⟨c, hc, rfl⟩]
          exact ⟨s', hread, hsheet⟩

/-! ## Arrangements -/

/-- Whether a part holds some cells, in any order and in any rows, each of which has a number that
can be read or none. -/
structure Arranges (cells : List Xml.Element) (f : Xml.Forest) : Prop where
  cells : (f.elements SheetElement.cell.names).Perm cells
  rows : ∀ e ∈ f.elements SheetElement.row.names, Legible e.tag.attributes "r" rowOf?

namespace Arranges

variable {cells : List Xml.Element} {f : Xml.Forest}

theorem mem_of_cell (h : Arranges cells f) {e : Xml.Element} (he : e ∈ f.elements rowOrCell)
    (hcell : SheetElement.cell.names e.tag.name = true) : e ∈ cells := by
  have hmem : e ∈ f.elements SheetElement.cell.names := by
    rw [elements_cell]
    exact List.mem_filter.mpr ⟨he, hcell⟩
  exact h.cells.mem_iff.mp hmem

theorem cellsApart (h : Arranges cells f) (hcells : ∀ e ∈ cells, SelfPlaced e) : CellsApart f :=
  fun e he hcell => (hcells e (h.mem_of_cell he hcell)).apart

theorem rowOrSelfPlaced (h : Arranges cells f) (hcells : ∀ e ∈ cells, SelfPlaced e) :
    ∀ e ∈ f.elements rowOrCell, RowOrSelfPlaced e := by
  intro e he
  cases hcell : SheetElement.cell.names e.tag.name with
  | true => exact .inr ⟨SheetElement.names_iff.mp hcell, hcells e (h.mem_of_cell he hcell)⟩
  | false =>
      have hrow : SheetElement.of e.tag.name = .row :=
        SheetScan.of_eq_row (Xml.Forest.name_of_mem_elements he) hcell
      have hmem : e ∈ f.elements SheetElement.row.names := by
        rw [elements_row]
        exact List.mem_filter.mpr ⟨he, SheetElement.names_iff.mpr hrow⟩
      exact .inl ⟨hrow, h.rows e hmem⟩

/-- **A part is read by storing what each of its cells is on its own**, where all of them have
references, as far as the numbers of its rows are words. -/
theorem readSheetPart_iff (h : Arranges cells f) (hcells : ∀ e ∈ cells, SelfPlaced e)
    {shared : Array String} {name : String} {s : Sheet} :
    readSheetPart shared name f.document = .ok s ↔
      (∀ n ∈ rowNumbers 0 (f.elements rowOrCell), n < 2 ^ 32) ∧
      ∃ read, List.Forall₂ (ReadsAnywhere shared) (f.elements SheetElement.cell.names) read ∧
        s = (Sheet.new name).run (read.map fun c => c.edit shared) := by
  have hrests : (SheetScan.initial (Sheet.new name)).Rests := ⟨rfl, rfl, rfl, rfl⟩
  rw [readSheetPart, readDocument_document, map_eq_ok_iff,
    (SheetScan.readsElements shared).foldlM_events (h.cellsApart hcells) hrests, elements_cell]
  exact foldlM_readElement_iff (h.rowOrSelfPlaced hcells) rfl

end Arranges

/-- What cells are on their own can be stored. -/
theorem storesCells_of_readsAnywhere {shared : Array String} {cells : List Xml.Element}
    {read : List PendingCell} (h : List.Forall₂ (ReadsAnywhere shared) cells read) (s : Sheet) :
    StoresCells shared s read (s.run (read.map fun c => c.edit shared)) := by
  induction h generalizing s with
  | nil => exact .nil shared s
  | cons hc _ ih =>
      have hstore := PendingCell.finish_of_ok hc.content hc.place s
      exact (StoresCells.of_finish hstore).append (ih _)

/-- **Cells with different addresses can be stored in any order.** -/
theorem StoresCells.same_of_perm {shared : Array String} {name : String}
    {read read' : List PendingCell} {s s' : Sheet} (h : StoresCells shared (Sheet.new name) read s)
    (h' : StoresCells shared (Sheet.new name) read' s') (hperm : read'.Perm read)
    (hnodup : (read.map PendingCell.address).Nodup) : s'.Same s := by
  have haddresses : (read'.map PendingCell.address).Perm (read.map PendingCell.address) :=
    hperm.map _
  refine Sheet.same_of_content (fun a => ?_) ?_
  · ext x
    rw [h.content?_eq_some_iff hnodup,
      h'.content?_eq_some_iff (haddresses.nodup_iff.mpr hnodup)]
    simp only [hperm.mem_iff]
  · have hplaces := List.toFinset_eq_of_perm _ _ haddresses
    calc s'.extent = ⟨s'.extent.rows, s'.extent.columns⟩ := rfl
      _ = ⟨s.extent.rows, s.extent.columns⟩ := by
        rw [h.rows, h'.rows, h.columns, h'.columns, hplaces]
      _ = s.extent := rfl

/-- **The order of cells with references does not matter.** Let some well-formed cells have
references, no two of them the same. If a part with these cells can be read, then so can every other
one, whatever order the cells are in and whatever rows they stand in, as long as the numbers of the
rows can be read and, where rows have none, counting them stays within words of 32 bits; and both
sheets are the same. Each cell is stored at its reference, as what it is read as wherever it
stands. -/
theorem readSheetPart_rearranged (shared : Array String) (name : String) {cells : List Xml.Element}
    (hcells : ∀ e ∈ cells, SelfPlaced e)
    (hdistinct : (cells.filterMap fun e => reference? e.tag).Nodup) {f g : Xml.Forest}
    (hf : Arranges cells f) (hg : Arranges cells g)
    (hrows : ∀ n ∈ rowNumbers 0 (g.elements rowOrCell), n < 2 ^ 32) {s : Sheet}
    (hs : readSheetPart shared name f.document = .ok s) :
    (∃ s', readSheetPart shared name g.document = .ok s' ∧ s'.Same s) ∧
      ∀ e ∈ cells, ∃ c, ReadsAnywhere shared e c ∧ s.content? c.address = c.stored? shared := by
  obtain ⟨-, read, hread, rfl⟩ := (hf.readSheetPart_iff hcells).mp hs
  have hnodup : (read.map PendingCell.address).Nodup := by
    rw [← filterMap_reference? hread]
    exact (hf.cells.filterMap _).nodup_iff.mpr hdistinct
  have hstores := storesCells_of_readsAnywhere hread (Sheet.new name)
  constructor
  · have hperm : (g.elements SheetElement.cell.names).Perm (f.elements SheetElement.cell.names) :=
      hg.cells.trans hf.cells.symm
    -- what the cells are read as is rearranged along with them
    obtain ⟨read', hread', hpermRead⟩ := List.perm_comp_forall₂ hperm hread
    refine ⟨_, (hg.readSheetPart_iff hcells).mpr ⟨hrows, read', hread', rfl⟩, ?_⟩
    exact hstores.same_of_perm (storesCells_of_readsAnywhere hread' _) hpermRead hnodup
  · intro e he
    obtain ⟨i, hi⟩ := List.mem_iff_getElem?.mp (hf.cells.mem_iff.mpr he)
    obtain ⟨c, hc, hreads⟩ := getElem?_of_forall₂ hread hi
    exact ⟨c, hreads, hstores.content?_of_mem hnodup (List.mem_of_getElem? hc)⟩

/-- A number, a formula and a cell without content, each with a reference. -/
def referencedCells : List Xml.Element :=
  [⟨⟨Xml.asciiName "c", Xml.asciiName " r=\"A1\""⟩,
      some (.element ⟨Xml.asciiName "v", []⟩ (.text (Xml.asciiName "7") .nil) .nil)⟩,
    ⟨⟨Xml.asciiName "c", Xml.asciiName " r=\"B2\""⟩,
      some (.element ⟨Xml.asciiName "f", []⟩ (.text (Xml.asciiName "A1") .nil) .nil)⟩,
    ⟨⟨Xml.asciiName "c", Xml.asciiName " r=\"C3\""⟩, none⟩]

/-- The cells, each in a row of its own. -/
def tidyPart : Xml.Forest :=
  .element ⟨Xml.asciiName "row", Xml.asciiName " r=\"1\""⟩
    (.element ⟨Xml.asciiName "c", Xml.asciiName " r=\"A1\""⟩
      (.element ⟨Xml.asciiName "v", []⟩ (.text (Xml.asciiName "7") .nil) .nil) .nil)
    (.element ⟨Xml.asciiName "row", []⟩
      (.element ⟨Xml.asciiName "c", Xml.asciiName " r=\"B2\""⟩
        (.element ⟨Xml.asciiName "f", []⟩ (.text (Xml.asciiName "A1") .nil) .nil) .nil)
      (.element ⟨Xml.asciiName "row", []⟩
        (.empty ⟨Xml.asciiName "c", Xml.asciiName " r=\"C3\""⟩ .nil) .nil))

/-- The same cells from the last to the first, two of them in a row with another number. -/
def scatteredPart : Xml.Forest :=
  .element ⟨Xml.asciiName "row", Xml.asciiName " r=\"9\""⟩
    (.empty ⟨Xml.asciiName "c", Xml.asciiName " r=\"C3\""⟩
      (.element ⟨Xml.asciiName "c", Xml.asciiName " r=\"B2\""⟩
        (.element ⟨Xml.asciiName "f", []⟩ (.text (Xml.asciiName "A1") .nil) .nil) .nil))
    (.element ⟨Xml.asciiName "row", []⟩
      (.element ⟨Xml.asciiName "c", Xml.asciiName " r=\"A1\""⟩
        (.element ⟨Xml.asciiName "v", []⟩ (.text (Xml.asciiName "7") .nil) .nil) .nil) .nil)

theorem readSheetPart_scattered :
    ∃ s s', readSheetPart #[] "A" tidyPart.document = .ok s ∧
      readSheetPart #[] "A" scatteredPart.document = .ok s' ∧ s'.Same s ∧
      s'.content? ⟨2, 2⟩ = some (.formula "=A1" none) ∧ s'.extent = ⟨3, 3⟩ := by
  have hread : (readSheetPart #[] "A" tidyPart.document).toOption.map
      (fun s => (s.content? ⟨2, 2⟩, s.extent)) = some (some (.formula "=A1" none), ⟨3, 3⟩) := by
    decide +kernel
  obtain ⟨s, hs, hseen⟩ := Option.map_eq_some_iff.mp hread
  obtain ⟨hformula, hextent⟩ := Prod.mk.inj hseen
  rw [toOption_eq_some_iff] at hs
  have hcells : ∀ e ∈ referencedCells, SelfPlaced e := by decide +kernel
  have htidy : Arranges referencedCells tidyPart := ⟨by decide +kernel, by decide +kernel⟩
  have hscattered : Arranges referencedCells scatteredPart :=
    ⟨by decide +kernel, by decide +kernel⟩
  have hrows : ∀ n ∈ rowNumbers 0 (scatteredPart.elements rowOrCell), n < 2 ^ 32 := by
    decide +kernel
  obtain ⟨⟨s', hs', hsame⟩, -⟩ :=
    readSheetPart_rearranged #[] "A" hcells (by decide +kernel) htidy hscattered hrows hs
  exact ⟨s, s', hs, hs', hsame, (hsame.content _).trans hformula, hsame.extent.trans hextent⟩

-- A cell in which an inline text begins and ends in a text of another leaves a text open: what
-- stands in the cell behind it counts as a text, so the order of the two does matter.
example :
    let opens : Xml.Forest → Xml.Forest :=
      .element ⟨Xml.asciiName "c", Xml.asciiName " r=\"A1\""⟩
        (.element ⟨Xml.asciiName "is", []⟩
          (.element ⟨Xml.asciiName "t", []⟩
            (.element ⟨Xml.asciiName "is", []⟩ .nil .nil) .nil) .nil)
    let plain : Xml.Forest → Xml.Forest :=
      .element ⟨Xml.asciiName "c", Xml.asciiName " r=\"B1\""⟩ (.text (Xml.asciiName "x") .nil)
    let stored? (f : Xml.Forest) : Option (Option Content) :=
      (readSheetPart #[] "A" f.document).toOption.map fun s => s.content? ⟨1, 2⟩
    stored? (opens (plain .nil)) = some (some (.literal (.text "x"))) ∧
      stored? (plain (opens .nil)) = some none := by
  decide +kernel

end SheetInspector.Xlsx
