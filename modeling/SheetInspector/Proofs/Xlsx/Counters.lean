import SheetInspector.Proofs.Xlsx.EndedCells

set_option autoImplicit false

/-! # The counters of rows and columns

The reader of a part counts rows and columns to know where the next row and the next cell stand.
`Counter` counts on as the format does, without a bound, and `Counter.places` lists the addresses
at which the cells that a part ends stand by that. The reader's counters are words of 32 bits. The
one of columns is never beyond the last column, since a cell further on cannot be stored. The one of
rows is taken from the file and moved on by rows in which nothing is stored, so it can reach the
last word, and reading breaks off where a row without a number follows
(`Tracks.step_eq_overflow_iff`). In a part that can be read, the cells stand exactly at the places
that are counted (`address_of_counters`).
-/

namespace SheetInspector.Xlsx

/-! ## Counting without a bound -/

/-- The position in a part, counted without a bound. -/
structure Counter where
  row : Nat
  column : Nat
  /-- The address of the cell that has begun and not ended. -/
  pending : Option Address
  deriving DecidableEq, Repr

namespace Counter

/-- The position before the first event. -/
def initial : Counter := ⟨0, 0, none⟩

/-- A row begins: it has the number in its tag or the next one. -/
def beginRow (k : Counter) (tag : Xml.Tag) : Counter :=
  { k with row := (writtenRow? tag).getD (k.row + 1), column := 0 }

/-- The address of a cell that begins: the reference in its tag or the next address. -/
def address (k : Counter) (tag : Xml.Tag) : Address :=
  (reference? tag).getD ⟨k.row, k.column + 1⟩

/-- The position behind an event. -/
def after (k : Counter) : Xml.Event → Counter
  | .start tag =>
    match SheetElement.of tag.name with
    | .row => k.beginRow tag
    | .cell => { k with pending := some (k.address tag) }
    | _ => k
  | .empty tag =>
    match SheetElement.of tag.name with
    | .row => k.beginRow tag
    | .cell => { k with column := (k.address tag).column }
    | _ => k
  | .finish name =>
    match SheetElement.of name with
    | .cell => { k with column := (k.pending.map Address.column).getD k.column, pending := none }
    | _ => k
  | _ => k

/-- The address of the cell that an event ends. -/
def ended? (k : Counter) : Xml.Event → Option Address
  | .empty tag => if SheetElement.cell.names tag.name then some (k.address tag) else none
  | .finish name => if SheetElement.cell.names name then k.pending else none
  | _ => none

/-- The addresses of the cells that events end. -/
def places (k : Counter) : List Xml.Event → List Address
  | [] => []
  | e :: es => (k.ended? e).toList ++ (k.after e).places es

/-- The rows that events lead through. -/
def rows (k : Counter) : List Xml.Event → List Nat
  | [] => []
  | e :: es => (k.after e).row :: (k.after e).rows es

/-- Whether an event begins a row without a number behind the last one that is a word. -/
def Overflows (k : Counter) (e : Xml.Event) : Prop :=
  ∃ tag : Xml.Tag, (e = .start tag ∨ e = .empty tag) ∧ SheetElement.of tag.name = .row ∧
    attribute? tag.attributes "r" = none ∧ 2 ^ 32 ≤ k.row + 1

theorem after_of_apart (k : Counter) {e : Xml.Event} (he : e.Apart rowOrCell) :
    k.after e = k := by
  have hother {name : Bytes} (hname : e.name? = some name) :
      SheetElement.of name ≠ .row ∧ SheetElement.of name ≠ .cell :=
    rowOrCell_eq_false_iff.mp (he name hname)
  cases e with
  | start tag =>
      obtain ⟨hrow, hcell⟩ := hother rfl
      rw [after]
      cases hk : SheetElement.of tag.name <;> first | rfl | exact absurd hk ‹_›
  | empty tag =>
      obtain ⟨hrow, hcell⟩ := hother rfl
      rw [after]
      cases hk : SheetElement.of tag.name <;> first | rfl | exact absurd hk ‹_›
  | finish name =>
      obtain ⟨hrow, hcell⟩ := hother rfl
      rw [after]
      cases hk : SheetElement.of name <;> first | rfl | exact absurd hk ‹_›
  | text raw => rfl
  | aside => rfl

theorem ended?_of_apart (k : Counter) {e : Xml.Event} (he : e.Apart rowOrCell) :
    k.ended? e = none := by
  have hother {name : Bytes} (hname : e.name? = some name) :
      SheetElement.cell.names name = false :=
    SheetElement.names_eq_false_iff.mpr (rowOrCell_eq_false_iff.mp (he name hname)).2
  cases e with
  | empty tag => rw [ended?, hother rfl, if_neg Bool.false_ne_true]
  | finish name => rw [ended?, hother rfl, if_neg Bool.false_ne_true]
  | start tag => rfl
  | text raw => rfl
  | aside => rfl

/-- Each event leads into one of the rows. -/
theorem row_mem_rows (k : Counter) (before : List Xml.Event) (e : Xml.Event)
    (after : List Xml.Event) :
    ((before.foldl Counter.after k).after e).row ∈ k.rows (before ++ e :: after) := by
  induction before generalizing k with
  | nil => exact List.mem_cons_self
  | cons e' before ih => exact List.mem_cons_of_mem _ (ih (k.after e'))

/-- Such a row is counted beyond a word. -/
theorem Overflows.le_row {k : Counter} {e : Xml.Event} (h : k.Overflows e) :
    2 ^ 32 ≤ (k.after e).row := by
  obtain ⟨tag, he, hkind, hnone, hlarge⟩ := h
  have hwritten : writtenRow? tag = none := lookup?_of_none hnone
  have hrow : (k.beginRow tag).row = k.row + 1 := by
    rw [beginRow, hwritten]
    rfl
  rcases he with rfl | rfl
  · rw [after, hkind]
    exact hlarge.trans_eq hrow.symm
  · rw [after, hkind]
    exact hlarge.trans_eq hrow.symm

end Counter

/-! ## The reader's counters -/

/-- Whether the counters of a reader are those of a position, the row is a word of 32 bits, and the
column is none beyond the last. -/
structure Tracks (s : SheetScan) (k : Counter) : Prop where
  row : s.row = k.row
  word : s.row < 2 ^ 32
  column : s.column = k.column
  bound : s.column ≤ maxColumns
  pending : s.pending.map PendingCell.address = k.pending

namespace Tracks

variable {shared : Array String} {s s' : SheetScan} {k : Counter} {tag : Xml.Tag} {c : PendingCell}

theorem address (h : Tracks s k) (hstart : PendingCell.start s.row s.column tag = .ok c) :
    c.address = k.address tag := by
  obtain ⟨-, -, rfl⟩ := PendingCell.start_eq_ok_iff.mp hstart
  rw [Counter.address, h.row, h.column]

theorem beginRow {row : Nat} (h : Tracks s k) (hrow : rowNumber tag s.row = .ok row) :
    Tracks { s with row, column := 0 } (k.beginRow tag) := by
  obtain ⟨-, hnumber, hword⟩ := rowNumber_eq_ok_iff.mp hrow
  rw [h.row] at hnumber
  exact ⟨hnumber, hword, rfl, Nat.zero_le _, h.pending⟩

/-- **A cell that is stored is in none but the first 16384 columns.** -/
theorem column_le_of_finish {sheet sheet' : Sheet} (h : c.finish shared sheet = .ok sheet') :
    c.address.column ≤ maxColumns := by
  obtain ⟨-, hplace, -⟩ := PendingCell.finish_eq_ok h
  exact (SheetEdit.place_eq_ok_iff.mp hplace).2.2.2.2

/-- Where an event neither begins nor ends a row or a cell, the position stays. -/
theorem of_same (h : Tracks s k) (hs : s.SameBut s') : Tracks s' k where
  row := hs.row.trans h.row
  word := hs.row.trans_lt h.word
  column := hs.column.trans h.column
  bound := hs.column.trans_le h.bound
  pending := by rw [hs.pending, h.pending]

/-- **An event keeps the reader's counters those of the position**, and ends a cell at the address
that is counted. -/
theorem step {e : Xml.Event} (h : Tracks s k) (hstep : s.step shared e = .ok s') :
    Tracks s' (k.after e) ∧ (s.ended? e).map PendingCell.address = k.ended? e := by
  cases SheetScan.moves_of_step hstep with
  | @row _ tag row he hkind hrow hs =>
      have hbegins := h.beginRow hrow
      subst hs
      rcases he with rfl | rfl
      · rw [Counter.after, hkind]
        exact ⟨hbegins, rfl⟩
      · have hother : SheetElement.cell.names tag.name = false :=
          SheetElement.names_eq_false_iff.mpr (by simp [hkind])
        rw [Counter.after, hkind, SheetScan.ended?, Counter.ended?, hother]
        exact ⟨hbegins, rfl⟩
  | @begins tag c hkind hstart hs =>
      subst hs
      rw [Counter.after, hkind]
      exact ⟨⟨h.row, h.word, h.column, h.bound, congrArg some (h.address hstart)⟩, rfl⟩
  | @single tag c sheet hkind hstart hfinish hs =>
      have haddress := h.address hstart
      have hcolumn : c.address.column = (k.address tag).column := by rw [haddress]
      subst hs
      rw [Counter.after, hkind, SheetScan.ended?, Counter.ended?, SheetElement.names_iff.mpr hkind,
        hstart]
      exact ⟨⟨h.row, h.word, hcolumn, column_le_of_finish hfinish, h.pending⟩,
        congrArg some haddress⟩
  | @ends name c sheet hkind hpending hfinish hs =>
      have haddress : some c.address = k.pending := by
        rw [← h.pending, hpending]
        rfl
      subst hs
      rw [Counter.after, hkind, SheetScan.ended?, Counter.ended?, SheetElement.names_iff.mpr hkind,
        hpending, ← haddress]
      exact ⟨⟨h.row, h.word, rfl, column_le_of_finish hfinish, rfl⟩, rfl⟩
  | @takes raw role c c' hpending hrole htake hs =>
      have haddress : c'.address = c.address := (PendingCell.fills_take htake).address
      subst hs
      refine ⟨⟨h.row, h.word, h.column, h.bound, ?_⟩, rfl⟩
      show some c'.address = k.pending
      rw [← h.pending, hpending, haddress]
      rfl
  | skips _ hs =>
      subst hs
      exact ⟨h, rfl⟩
  | @closes name hclosed hs =>
      subst hs
      rw [Counter.after, SheetScan.ended?, Counter.ended?, SheetElement.names]
      rcases hclosed with hkind | ⟨hkind, hpending⟩
      · rw [hkind]
        exact ⟨h, rfl⟩
      · have hnone : k.pending = none := by
          rw [← h.pending, hpending]
          rfl
        rw [hkind, hpending, hnone]
        exact ⟨⟨h.row, h.word, h.column, h.bound, by rw [hpending]; rfl⟩, rfl⟩
  | passes he _ hs =>
      rw [k.after_of_apart he, SheetScan.ended?_of_apart he, k.ended?_of_apart he]
      exact ⟨h.of_same hs, rfl⟩

/-- **So does a run over events**, and it leads through no row that is not a word. -/
theorem foldlM {es : List Xml.Event} (h : Tracks s k)
    (hrun : es.foldlM (SheetScan.step shared) s = .ok s') :
    Tracks s' (es.foldl Counter.after k) ∧
      (s.ended shared es).map PendingCell.address = k.places es ∧ ∀ n ∈ k.rows es, n < 2 ^ 32 := by
  induction es generalizing s k with
  | nil =>
      cases hrun
      exact ⟨h, rfl, by simp [Counter.rows]⟩
  | cons e es ih =>
      rw [List.foldlM_cons, bind_eq_ok_iff] at hrun
      obtain ⟨mid, hmid, hrest⟩ := hrun
      obtain ⟨hnext, hended⟩ := h.step hmid
      obtain ⟨hlast, hplaces, hrows⟩ := ih hnext hrest
      refine ⟨hlast, ?_, List.forall_mem_cons.mpr ⟨hnext.row.symm.trans_lt hnext.word, hrows⟩⟩
      rw [SheetScan.ended, Counter.places, List.map_append, ← Option.toList_map, hended, hmid]
      exact congrArg (_ ++ ·) hplaces

end Tracks

theorem tracks_initial (name : String) :
    Tracks (SheetScan.initial (Sheet.new name)) Counter.initial :=
  ⟨rfl, (by decide : 0 < 2 ^ 32), rfl, Nat.zero_le _, rfl⟩

/-! ## Where reading breaks off -/

/-- Whether a computation does not break off: what it fails with, if it fails, is reported. -/
def Reported {α : Type} (x : Except Fault α) : Prop := x ≠ .error .overflow

namespace Reported

variable {α β : Type} {x : Except Fault α}

theorem ok (a : α) : Reported (.ok a) := by
  intro h
  cases h

theorem part (fault : PartFault) : Reported (.error (.part fault) : Except Fault α) := by
  intro h
  cases h

theorem map (h : Reported x) (f : α → β) : Reported (x.map f) := fun hmap =>
  h (map_eq_error_iff.mp hmap)

theorem mapError {ε : Type} {x : Except ε α} {f : ε → Fault} (h : ∀ fault, f fault ≠ .overflow) :
    Reported (x.mapError f) := by
  intro hmap
  obtain ⟨fault, -, hfault⟩ := mapError_eq_error_iff.mp hmap
  exact h fault hfault

theorem bind {f : α → Except Fault β} (h : Reported x) (hf : ∀ a, Reported (f a)) :
    Reported (x >>= f) := by
  cases x with
  | error fault => exact fun hbind => h (congrArg Except.error (Except.error.inj hbind))
  | ok a => exact hf a

theorem foldlM {step : β → α → Except Fault β} (h : ∀ s a, Reported (step s a)) (as : List α)
    (s : β) : Reported (as.foldlM step s) := by
  intro hfold
  obtain ⟨_, a, _, s', -, -, hfault⟩ := foldlM_eq_error_iff.mp hfold
  exact h s' a hfault

end Reported

theorem reported_unescape (raw : Bytes) : Reported (unescape raw) := .mapError (by simp)

theorem PendingCell.reported_readAttribute (c : PendingCell) (a : Xml.Attribute) :
    Reported (c.readAttribute a) := by
  by_cases hr : a.key = Xml.asciiName "r"
  · rw [readAttribute, if_pos hr]
    refine (reported_unescape a.value).bind fun reference => ?_
    cases hparse : Address.parse reference with
    | error fault => exact .part _
    | ok address => exact .ok _
  · rw [readAttribute, if_neg hr]
    by_cases ht : a.key = Xml.asciiName "t"
    · rw [if_pos ht]
      exact (reported_unescape a.value).bind fun _ => .ok _
    · rw [if_neg ht]
      exact .ok c

theorem PendingCell.reported_start (row column : Nat) (tag : Xml.Tag) :
    Reported (start row column tag) := by
  refine (Reported.foldlM reported_readAttribute tag.attributes _).bind fun c => ?_
  by_cases hrow : c.address.row = 0
  · rw [if_pos hrow]
    exact .part .looseCell
  · rw [if_neg hrow]
    exact .ok c

theorem PendingCell.reported_finish (c : PendingCell) (shared : Array String) (s : Sheet) :
    Reported (c.finish shared s) := by
  rw [finish]
  cases c.content? shared with
  | error fault => exact .part fault
  | ok content =>
      cases content with
      | none => exact .mapError (by simp)
      | some content => exact .mapError (by simp)

namespace SheetScan

variable {shared : Array String} {s : SheetScan}

theorem reported_storeCell (s : SheetScan) (shared : Array String) (c : PendingCell) :
    Reported (s.storeCell shared c) := (c.reported_finish shared s.sheet).map _

theorem reported_endElement (s : SheetScan) (shared : Array String) (name : Bytes) :
    Reported (s.endElement shared name) := by
  rw [endElement]
  cases SheetElement.of name with
  | cell =>
      cases s.pending with
      | none => exact .ok s
      | some c => exact s.reported_storeCell shared c
  | _ => exact .ok _

theorem reported_readText (s : SheetScan) (raw : Bytes) : Reported (s.readText raw) := by
  have hread (f : String → SheetScan) : Reported ((unescape raw).map f) :=
    (reported_unescape raw).map f
  rw [readText]
  cases s.pending with
  | none => exact .ok s
  | some c =>
      cases s.inValue <;> cases s.inFormula <;> cases s.inInlineText <;>
        first | exact hread _ | exact .ok s

/-- A tag breaks reading off only if it begins a row. -/
theorem reported_startElement {tag : Xml.Tag} (hkind : SheetElement.of tag.name ≠ .row) :
    Reported (s.startElement tag) := by
  rw [startElement]
  cases hk : SheetElement.of tag.name with
  | row => exact absurd hk hkind
  | cell => exact (PendingCell.reported_start s.row s.column tag).map _
  | _ => exact .ok _

theorem reported_emptyElement {tag : Xml.Tag} (hkind : SheetElement.of tag.name ≠ .row) :
    Reported (s.emptyElement shared tag) := by
  rw [emptyElement]
  cases hk : SheetElement.of tag.name with
  | row => exact absurd hk hkind
  | cell =>
      refine (PendingCell.reported_start s.row s.column tag).bind fun c => ?_
      exact (s.reported_storeCell shared c).bind fun _ => .ok _
  | _ => exact .ok s

theorem beginRow_eq_overflow_iff {tag : Xml.Tag} : s.beginRow tag = .error .overflow ↔
    attribute? tag.attributes "r" = none ∧ 2 ^ 32 ≤ s.row + 1 := by
  rw [beginRow, map_eq_error_iff, rowNumber_eq_overflow_iff]

end SheetScan

/-- **An event breaks reading off exactly if it begins a row without a number behind the last one
that is a word.** -/
theorem Tracks.step_eq_overflow_iff {shared : Array String} {s : SheetScan} {k : Counter}
    (h : Tracks s k) {e : Xml.Event} : s.step shared e = .error .overflow ↔ k.Overflows e := by
  constructor
  · intro hstep
    cases e with
    | start tag =>
        by_cases hkind : SheetElement.of tag.name = .row
        · rw [SheetScan.step, SheetScan.startElement, hkind] at hstep
          obtain ⟨hnone, hlarge⟩ := SheetScan.beginRow_eq_overflow_iff.mp hstep
          exact ⟨tag, .inl rfl, hkind, hnone, h.row ▸ hlarge⟩
        · exact absurd hstep (SheetScan.reported_startElement hkind)
    | empty tag =>
        by_cases hkind : SheetElement.of tag.name = .row
        · rw [SheetScan.step, SheetScan.emptyElement, hkind] at hstep
          obtain ⟨hnone, hlarge⟩ := SheetScan.beginRow_eq_overflow_iff.mp hstep
          exact ⟨tag, .inr rfl, hkind, hnone, h.row ▸ hlarge⟩
        · exact absurd hstep (SheetScan.reported_emptyElement hkind)
    | finish name => exact absurd hstep (s.reported_endElement shared name)
    | text raw => exact absurd hstep (s.reported_readText raw)
    | aside => cases hstep
  · rintro ⟨tag, he, hkind, hnone, hlarge⟩
    have hbegin := SheetScan.beginRow_eq_overflow_iff.mpr ⟨hnone, h.row ▸ hlarge⟩
    rcases he with rfl | rfl
    · rw [SheetScan.step, SheetScan.startElement, hkind]
      exact hbegin
    · rw [SheetScan.step, SheetScan.emptyElement, hkind]
      exact hbegin

/-- **Reading a part breaks off exactly where counting its rows leaves the words**, if it has come
so far. -/
theorem readSheetPart_eq_overflow_iff {shared : Array String} {name : String} {d : Xml.Document} :
    readSheetPart shared name d = .error .overflow ↔
      ∃ before e after s, d.events = before ++ e :: after ∧
        before.foldlM (SheetScan.step shared) (.initial (Sheet.new name)) = .ok s ∧
        (before.foldl Counter.after .initial).Overflows e := by
  have hread : readSheetPart shared name d = .error .overflow ↔
      d.events.foldlM (SheetScan.step shared) (.initial (Sheet.new name)) = .error .overflow := by
    rw [readSheetPart, map_eq_error_iff, readDocument]
    cases d.events.foldlM (SheetScan.step shared) (.initial (Sheet.new name)) with
    | error fault => exact Iff.rfl
    | ok s => cases d.fault <;> simp
  rw [hread, foldlM_eq_error_iff]
  refine exists_congr fun before => exists_congr fun e => exists_congr fun after =>
    exists_congr fun s => and_congr_right fun _ => and_congr_right fun hbefore => ?_
  exact ((tracks_initial name).foldlM hbefore).1.step_eq_overflow_iff

/-- **The counters of a part, and where its cells stand.** Whatever events a part has, as long as
reading goes on the counters are words of 32 bits, and are what is counted without a bound; so is
the next column. If the part can be read, the cells that it ends are stored exactly at the places
that are counted, through rows that are words. Only counting on from the last row breaks reading
off, so a part that counts no row beyond a word is read or its fault is reported. -/
theorem address_of_counters (shared : Array String) (name : String) :
    (∀ (es : List Xml.Event) (s : SheetScan),
      es.foldlM (SheetScan.step shared) (.initial (Sheet.new name)) = .ok s →
      s.column + 1 < 2 ^ 32 ∧ s.row < 2 ^ 32 ∧
        s.row = (es.foldl Counter.after .initial).row ∧
        s.column = (es.foldl Counter.after .initial).column) ∧
    ∀ d : Xml.Document,
      (∀ s, readSheetPart shared name d = .ok s →
        StoresCells shared (Sheet.new name) (endedCells shared name d) s ∧
        (endedCells shared name d).map PendingCell.address = Counter.initial.places d.events ∧
        ∀ n ∈ Counter.initial.rows d.events, n < 2 ^ 32) ∧
      (readSheetPart shared name d = .error .overflow ↔
        ∃ before e after s, d.events = before ++ e :: after ∧
          before.foldlM (SheetScan.step shared) (.initial (Sheet.new name)) = .ok s ∧
          (before.foldl Counter.after .initial).Overflows e) ∧
      ((∀ n ∈ Counter.initial.rows d.events, n < 2 ^ 32) →
        readSheetPart shared name d ≠ .error .overflow) := by
  refine ⟨fun es s hrun => ?_, fun d => ⟨fun s hread => ?_, readSheetPart_eq_overflow_iff, ?_⟩⟩
  · obtain ⟨⟨hrow, hword, hcolumn, hbound, -⟩, -⟩ := (tracks_initial name).foldlM hrun
    have hcolumns : maxColumns + 1 < 2 ^ 32 := by decide
    exact ⟨by omega, hword, hrow, hcolumn⟩
  · have hstores := storesCells_readSheetPart hread
    rw [readSheetPart, map_eq_ok_iff] at hread
    obtain ⟨scan, hscan, -⟩ := hread
    obtain ⟨-, hplaces⟩ := (tracks_initial name).foldlM (readDocument_eq_ok_iff.mp hscan).1
    exact ⟨hstores, hplaces⟩
  · intro hrows hbreaks
    obtain ⟨before, e, after, s, hevents, -, hoverflows⟩ :=
      readSheetPart_eq_overflow_iff.mp hbreaks
    have hmem := Counter.initial.row_mem_rows before e after
    rw [← hevents] at hmem
    exact absurd (hrows _ hmem) (Nat.not_lt_of_le hoverflows.le_row)

/-- A row with a number, and one behind it with a cell. -/
def numberedRows : Xml.Document :=
  Xml.scan [Xml.asciiName "<row r=\"5\"/><row><c><v>1</v></c></row>"] none

theorem places_numberedRows :
    ∃ s, readSheetPart #[] "S" numberedRows = .ok s ∧
      (endedCells #[] "S" numberedRows).map PendingCell.address = [⟨6, 1⟩] := by
  obtain ⟨-, hdocuments⟩ := address_of_counters #[] "S"
  obtain ⟨hplaces, -, -⟩ := hdocuments numberedRows
  have hsome : (readSheetPart #[] "S" numberedRows).toOption.isSome = true := by decide +kernel
  obtain ⟨s, hs⟩ := Option.isSome_iff_exists.mp hsome
  have hread := toOption_eq_some_iff.mp hs
  have hcounted : Counter.initial.places numberedRows.events = [⟨6, 1⟩] := by decide +kernel
  exact ⟨s, hread, (hplaces s hread).2.1.trans hcounted⟩

/-- The row with the last number, an empty one behind it, and one more with a cell. -/
def endlessRows : Xml.Document :=
  Xml.scan [Xml.asciiName "<row r=\"4294967295\"/><row/><row><c><v>1</v></c></row>"] none

/-- **Counting on from the last row there can be breaks reading off**, where a cell in a row that
far cannot be stored. -/
theorem readSheetPart_endlessRows :
    Counter.initial.places endlessRows.events = [⟨4294967297, 1⟩] ∧
      readSheetPart #[] "S" endlessRows = .error .overflow := by
  constructor
  · decide +kernel
  · have hbreaks : (readSheetPart #[] "S" endlessRows).map Sheet.extent = .error .overflow := by
      decide +kernel
    exact map_eq_error_iff.mp hbreaks

end SheetInspector.Xlsx
