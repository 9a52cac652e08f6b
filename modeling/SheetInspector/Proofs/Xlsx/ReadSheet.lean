import SheetInspector.Proofs.Xlsx.Package
import SheetInspector.Proofs.Xlsx.Places

set_option autoImplicit false

/-! # What a sheet read from a part holds

Reading a part stores its cells one after the other, and a sheet refines its plain account, so
what the sheet holds can be told from the list of the cells as they were read (`ReadFrom`): at an
address it holds the content of the last of them that has any, and its extent is the greatest row
and the greatest column among all of them, with or without content.
-/

namespace SheetInspector.Xlsx

/-- Whether no cell of a part holds a row or a cell. -/
def CellsApart (f : Xml.Forest) : Prop := Separate rowOrCell SheetElement.cell.names f

instance (f : Xml.Forest) : Decidable (CellsApart f) :=
  inferInstanceAs (Decidable (Separate rowOrCell SheetElement.cell.names f))

/-- What a sheet holds, where `read` are the cells of a part as they were read. -/
structure ReadFrom (shared : Array String) (f : Xml.Forest) (read : List PendingCell) (s : Sheet) :
    Prop where
  /-- One cell for each in the part, which is what its own tag and texts say. -/
  holds : List.Forall₂ (fun x c => PendingCell.Holds c x.1.tag x.2)
    (withTexts false (f.elements SheetElement.cell.names)) read
  content_eq : ∀ c ∈ read, c.content? shared = .ok (c.stored? shared)
  /-- A cell has content exactly if a value or a formula was collected. -/
  stored_iff : ∀ c ∈ read, (c.stored? shared).isSome ↔ c.value.isSome ∨ c.formula.isSome
  rows : s.extent.rows = (read.map PendingCell.address).toFinset.sup Address.row
  columns : s.extent.columns = (read.map PendingCell.address).toFinset.sup Address.column
  content : ∀ a, s.content? a =
    ((read.filter fun c => c.address = a).filterMap fun c => c.stored? shared).getLast?

/-- A trace of a part tells what the sheet holds. -/
theorem Traces.readFrom {shared : Array String} {name : String} {f : Xml.Forest} {s : SheetScan}
    {read : List PendingCell}
    (h : Traces shared (.initial (Sheet.new name)) s (f.elements rowOrCell) read) :
    ReadFrom shared f read s.sheet := by
  have hstores : StoresCells shared (Sheet.new name) read s.sheet := ⟨h.content, h.place, h.sheet⟩
  constructor
  · have hholds := h.holds
    rw [← elements_cell] at hholds
    exact hholds
  · exact h.content
  · intro c hc
    exact (PendingCell.yields_of_ok (h.content c hc)).isSome_iff
  · exact hstores.rows
  · exact hstores.columns
  · exact hstores.content?_eq

namespace ReadFrom

variable {shared : Array String} {f : Xml.Forest} {read : List PendingCell} {s : Sheet}

/-- The content of a cell stays unless a later cell with content stands at its address. -/
theorem content_of_last (h : ReadFrom shared f read s) {before after : List PendingCell}
    {c : PendingCell} {content : Content} (hsplit : read = before ++ c :: after)
    (hc : c.stored? shared = some content)
    (hafter : ∀ c' ∈ after, c'.address = c.address → c'.stored? shared = none) :
    s.content? c.address = some content := by
  have hnone : (after.filter fun c' => c'.address = c.address).filterMap
      (fun c' => c'.stored? shared) = [] := by
    rw [List.filterMap_eq_nil_iff]
    intro c' hc'
    obtain ⟨hmem, haddress⟩ := List.mem_filter.mp hc'
    exact hafter c' hmem (by simpa using haddress)
  rw [h.content, hsplit, List.filter_append, List.filter_cons_of_pos (by simp),
    List.filterMap_append, List.filterMap_cons, hc, hnone]
  exact List.getLast?_concat

/-- What is stored at an address is the content of a cell there. -/
theorem exists_of_content (h : ReadFrom shared f read s) {a : Address} {content : Content}
    (hcontent : s.content? a = some content) :
    ∃ c ∈ read, c.address = a ∧ c.stored? shared = some content := by
  rw [h.content] at hcontent
  exact exists_of_lastStored hcontent

end ReadFrom

/-- **What a part that can be read is read as.** -/
theorem readSheetPart_reads {shared : Array String} {name : String} {f : Xml.Forest} {s : Sheet}
    (hf : CellsApart f) (h : readSheetPart shared name f.document = .ok s) :
    ∃ read, ReadFrom shared f read s ∧ (∀ e ∈ f.elements rowOrCell, LegibleTag e) ∧
      read.map PendingCell.address = places 0 0 (f.elements rowOrCell) := by
  rw [readSheetPart, readDocument_document, map_eq_ok_iff] at h
  obtain ⟨scan, hscan, rfl⟩ := h
  have hrests : (SheetScan.initial (Sheet.new name)).Rests := ⟨rfl, rfl, rfl, rfl⟩
  rw [(SheetScan.readsElements shared).foldlM_events hf hrests] at hscan
  obtain ⟨read, hread⟩ := traces_foldlM (fun e he => Xml.Forest.name_of_mem_elements he) hscan
  exact ⟨read, hread.readFrom, hread.legible, hread.places⟩

/-- A part of whatever bytes that can be read is well-formed, unless it leaves an element open. -/
theorem forest_of_readSheetPart {shared : Array String} {name : String} {pieces : List Bytes}
    {damage : Option String} {s : Sheet}
    (h : readSheetPart shared name (Xml.scan pieces damage) = .ok s) :
    (Xml.scan pieces damage).LeavesOpen ∨
      ∃ f : Xml.Forest, Xml.scan pieces damage = f.document := by
  rw [readSheetPart, map_eq_ok_iff] at h
  obtain ⟨scan, hscan, -⟩ := h
  exact Xml.forest_of_scan (readDocument_eq_ok_iff.mp hscan).2

/-- **Where the cells of a part stand, and what its sheet holds.** Let the cells of a well-formed
part hold no rows and no cells. If the part can be read, its rows and cells, in document order,
stand where the format puts them: a cell at its reference, or else in its row behind the cell before
it; a row at its number, or else behind the row before it. The sheet is what `ReadFrom` says, for
these addresses. If the part cannot be read, there is no workbook at all. Every part that can be
read is well-formed, as long as it leaves no element open. -/
theorem readSheetPart_places (shared : Array String) (name : String) :
    (∀ f : Xml.Forest, CellsApart f →
      (∀ s, readSheetPart shared name f.document = .ok s →
        ∃ read, ReadFrom shared f read s ∧ (∀ e ∈ f.elements rowOrCell, LegibleTag e) ∧
          read.map PendingCell.address = places 0 0 (f.elements rowOrCell)) ∧
      ∀ p fault, LeadsTo p shared name f.document →
        readSheetPart shared name f.document = .error fault →
        ∃ fault', (loadPackage p).result = .error fault') ∧
    ∀ pieces damage s, readSheetPart shared name (Xml.scan pieces damage) = .ok s →
      (Xml.scan pieces damage).LeavesOpen ∨
        ∃ f : Xml.Forest, Xml.scan pieces damage = f.document := by
  refine ⟨fun f hf => ⟨fun s hs => readSheetPart_reads hf hs, fun p fault hl hfault => ?_⟩,
    fun pieces damage s hs => forest_of_readSheetPart hs⟩
  exact loadPackage_fails hl hfault

/-- Two rows, the second one without a number, with a cell that has a reference, one that has
none and is a single tag, and a formula. -/
def mixedPart : Xml.Forest :=
  .element ⟨Xml.asciiName "row", Xml.asciiName " r=\"2\""⟩
    (.element ⟨Xml.asciiName "c", Xml.asciiName " r=\"C2\""⟩
      (.element ⟨Xml.asciiName "v", []⟩ (.text (Xml.asciiName "7") .nil) .nil)
      (.empty ⟨Xml.asciiName "c", []⟩ .nil))
    (.element ⟨Xml.asciiName "row", []⟩
      (.element ⟨Xml.asciiName "c", []⟩
        (.element ⟨Xml.asciiName "f", []⟩ (.text (Xml.asciiName "A1") .nil) .nil) .nil) .nil)

theorem readSheetPart_mixedPart : ∃ s, readSheetPart #[] "A" mixedPart.document = .ok s := by
  have hread : (readSheetPart #[] "A" mixedPart.document).toOption.isSome = true := by
    decide +kernel
  obtain ⟨s, hs⟩ := Option.isSome_iff_exists.mp hread
  exact ⟨s, toOption_eq_some_iff.mp hs⟩

/-- A part whose only cell has a reference that is no address. -/
def brokenPart : Xml.Forest :=
  .element ⟨Xml.asciiName "row", []⟩
    (.empty ⟨Xml.asciiName "c", Xml.asciiName " r=\"1A\""⟩ .nil) .nil

/-- A package with that part. -/
def brokenPackage : Package := fun name =>
  let part (s : String) : Option Zip.Content := some ⟨[Xml.asciiName s], none⟩
  if name = "xl/workbook.xml" then part "<sheet name=\"A\" r:id=\"1\"/>"
  else if name = "xl/_rels/workbook.xml.rels" then
    part "<Relationship Id=\"1\" Target=\"a\" Type=\"/worksheet\"/>"
  else if name = "xl/a" then part "<row><c r=\"1A\"/></row>"
  else none

theorem leadsTo_brokenPart : LeadsTo brokenPackage #[] "A" brokenPart.document where
  shared := rfl
  listed := by
    refine ⟨⟨[⟨"A", "1"⟩], 0⟩, [("1", "xl/a")], ⟨"A", "1"⟩, "xl/a", ?_, ?_, ?_, rfl, ?_, ?_⟩
    · decide +kernel
    · decide +kernel
    · decide +kernel
    · decide +kernel
    · decide +kernel

theorem readSheetPart_places_mixed :
    (∃ s read, readSheetPart #[] "A" mixedPart.document = .ok s ∧ ReadFrom #[] mixedPart read s ∧
      read.map PendingCell.address = [⟨2, 3⟩, ⟨2, 4⟩, ⟨3, 1⟩]) ∧
    ∃ fault, (loadPackage brokenPackage).result = .error fault := by
  constructor
  · obtain ⟨s, hs⟩ := readSheetPart_mixedPart
    have hplaces : places 0 0 (mixedPart.elements rowOrCell)
        = [⟨2, 3⟩, ⟨2, 4⟩, ⟨3, 1⟩] := by
      decide +kernel
    obtain ⟨read, hread, -, haddresses⟩ :=
      ((readSheetPart_places #[] "A").1 mixedPart (by decide +kernel)).1 s hs
    exact ⟨s, read, hs, hread, haddresses.trans hplaces⟩
  · cases hread : readSheetPart #[] "A" brokenPart.document with
    | ok s =>
        have hnone : (readSheetPart #[] "A" brokenPart.document).toOption.isSome = false := by
          decide +kernel
        rw [hread] at hnone
        cases hnone
    | error fault =>
        obtain ⟨hforests, -⟩ := readSheetPart_places #[] "A"
        exact (hforests brokenPart (by decide +kernel)).2 brokenPackage fault leadsTo_brokenPart
          hread

end SheetInspector.Xlsx
