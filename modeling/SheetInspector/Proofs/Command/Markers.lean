import SheetInspector.Proofs.Loading.Contents
import SheetInspector.Proofs.Sheet.Findings
import SheetInspector.Proofs.Xlsx.ReadSheet

set_option autoImplicit false

/-! # Markers that are doubled in a file

Records keep a formula as it stands in its field, and parts put a marker in front of the text of a
formula. Either way no formula of a loaded sheet is without a marker, and what is found is exactly
the fields with two markers or more, and the texts of formulas that begin with a marker of their
own (`check_flags_doubled`).
-/

namespace SheetInspector

/-- Whether inspecting a sheet leads to some findings. -/
def Sheet.Finds (s : Sheet) (findings : List Finding) : Prop :=
  ∃ ds, s.grid.inspect = .ok ds ∧ Finding.ofDescriptors ds = findings

/-- Whether the texts that a sheet is checked for are the marked ones, where `finding` is what is
found at the address of a text. -/
structure Sheet.Flags (s : Sheet) (finding : Address → String → Finding)
    (Marked : Address → String → Prop) : Prop where
  /-- There is one finding for each marked text, in the order of the addresses. -/
  findings : ∃ marked : List (Address × String), Address.Ordered (marked.map Prod.fst) ∧
    (∀ a text, (a, text) ∈ marked ↔ Marked a text) ∧ s.Finds (marked.map fun x => finding x.1 x.2)
  /-- Where the sheet is the active one of a file, the report on the file has these findings, and
  fails if there is a marked text. -/
  report : ∀ storage o input w, (loadFile storage o input).result = .ok w →
    w.activeSheet = .ok s → ∃ count findings, s.Finds findings ∧
      (Work.report storage o (.check input)).result = .ok (.check (s.label input) count findings) ∧
        ((Report.check (s.label input) count findings).failed = true ↔ ∃ a text, Marked a text)

namespace Sheet

variable {s : Sheet}

theorem finds_iff {findings : List Finding} :
    s.Finds findings ↔ findings = Finding.ofDescriptors s.descriptors := by
  rw [Finds, s.inspect_grid]
  constructor
  · rintro ⟨ds, hds, rfl⟩
    cases hds
    rfl
  · rintro rfl
    exact ⟨_, rfl, rfl⟩

/-- Where texts at addresses are made of others, by a map that keeps them apart, a list of the ones is
made of a list of the others. -/
theorem exists_map_eq {xs : List (Address × String)} {full : String → String}
    (hfull : Function.Injective full) {Marked : Address → String → Prop}
    (h : ∀ a text, (a, text) ∈ xs ↔ ∃ u, full u = text ∧ Marked a u) :
    ∃ marked : List (Address × String), marked.map (fun y => (y.1, full y.2)) = xs ∧
      ∀ a u, (a, u) ∈ marked ↔ Marked a u := by
  have hrange : ∀ x ∈ xs, x ∈ Set.range fun y : Address × String => (y.1, full y.2) := by
    rintro ⟨a, text⟩ hx
    obtain ⟨u, rfl, -⟩ := (h a text).mp hx
    exact ⟨(a, u), rfl⟩
  obtain ⟨marked, rfl⟩ :
      xs ∈ Set.range (List.map fun y : Address × String => (y.1, full y.2)) := by
    rw [Set.range_list_map]
    exact hrange
  refine ⟨marked, rfl, fun a u => ?_⟩
  constructor
  · intro hu
    obtain ⟨u', hu', hmarked⟩ := (h a (full u)).mp (List.mem_map_of_mem hu)
    exact hfull hu' ▸ hmarked
  · intro hu
    obtain ⟨⟨b, u'⟩, hy, heq⟩ := List.mem_map.mp ((h a (full u)).mpr ⟨u, rfl, hu⟩)
    obtain ⟨rfl, hu'⟩ := Prod.mk.inj heq
    exact hfull hu' ▸ hy

/-- **A sheet flags the texts that its doubled formulas are made of.** -/
theorem Definite.flags (h : s.Definite) (hs : s.Sound) {full : String → String}
    (hfull : Function.Injective full) {Marked : Address → String → Prop}
    (hdoubled : ∀ a text, (a, text) ∈ s.doubled ↔ ∃ u, full u = text ∧ Marked a u) :
    s.Flags (fun a u => ⟨a.text, full u, .duplicate (MarkerAnomaly.leadingMarkers (full u))⟩)
      Marked := by
  obtain ⟨marked, hmarked, hmem⟩ := exists_map_eq hfull hdoubled
  have hkeys : marked.map Prod.fst = s.doubled.map Prod.fst := by
    rw [← hmarked, List.map_map]
    rfl
  have hfound : Finding.ofDescriptors s.descriptors = marked.map fun x =>
      ⟨x.1.text, full x.2, .duplicate (MarkerAnomaly.leadingMarkers (full x.2))⟩ := by
    rw [hs.findings_doubled h.content, ← hmarked, List.map_map]
    rfl
  refine ⟨⟨marked, hkeys ▸ s.doubled_ordered, hmem, finds_iff.mpr hfound.symm⟩, ?_⟩
  intro storage o input w hload hactive
  refine ⟨_, _, finds_iff.mpr rfl, Work.result_check (Work.result_load_eq_ok hload) hactive, ?_⟩
  rw [Report.failed, hfound, Bool.not_eq_true', List.isEmpty_eq_false_iff, Ne, List.map_eq_nil_iff]
  constructor
  · intro hne
    obtain ⟨⟨a, u⟩, hu⟩ := List.exists_mem_of_ne_nil marked hne
    exact ⟨a, u, (hmem a u).mp hu⟩
  · rintro ⟨a, u, hu⟩
    exact List.ne_nil_of_mem ((hmem a u).mpr hu)

/-- No finding of a definite sheet is a missing marker. -/
theorem Definite.anomaly_ne_missing (h : s.Definite) (hs : s.Sound) {findings : List Finding}
    (hfinds : s.Finds findings) : ∀ f ∈ findings, f.anomaly ≠ .missing := by
  rw [finds_iff.mp hfinds, hs.findings_doubled h.content]
  intro f hf
  obtain ⟨x, -, rfl⟩ := List.mem_map.mp hf
  exact MarkerAnomaly.noConfusion

end Sheet

/-! ## Records -/

namespace Csv

/-- What is found at a field: it stands as it is, and all its markers count. -/
def finding (a : Address) (field : String) : Finding :=
  ⟨a.text, field, .duplicate (MarkerAnomaly.leadingMarkers field)⟩

/-- A field of records that has a marker too many: formulas are detected, it is no column name, and
it starts with two markers or more. -/
structure Doubled (o : Options) (records : List (List String)) (a : Address) (field : String) :
    Prop where
  formulas : o.detectFormulas = true
  row : ¬ o.Names a.row
  place : ∃ (i j : Nat) (fields : List String),
    records[i]? = some fields ∧ fields[j]? = some field ∧ a = ⟨i + 1, j + 1⟩
  markers : 2 ≤ MarkerAnomaly.leadingMarkers field

variable {o : Options} {records : List (List String)} {s : Sheet}

theorem Doubled.calculates {a : Address} {field : String} (h : Doubled o records a field) :
    o.Calculates field := by
  obtain ⟨rest, hrest⟩ := MarkerAnomaly.exists_of_two_le h.markers
  exact ⟨h.formulas, _, _, hrest⟩

theorem mem_doubled_iff (h : ∀ x ∈ placed 1 records, Extent.largest.Holds x.1) (name : String)
    {a : Address} {text : String} :
    (a, text) ∈ ((Sheet.new name).run ((placed 1 records).map (store o))).doubled ↔
      Doubled o records a text := by
  rw [Sheet.mem_doubled]
  constructor
  · rintro ⟨⟨cached, hc⟩, hmarkers⟩
    obtain ⟨field, hplaced, hstores⟩ := exists_of_content h hc
    obtain ⟨hrow, hfield, rfl⟩ := hstores.formula_eq
    obtain ⟨i, j, fields, field, hi, hj, heq⟩ := mem_placed.mp hplaced
    cases heq
    exact ⟨hfield.1, hrow, ⟨i, j, fields, hi, hj, rfl⟩, hmarkers⟩
  · intro hdoubled
    obtain ⟨i, j, fields, hi, hj, rfl⟩ := hdoubled.place
    have hc := (content?_run_store (o := o) h name).1 _
      (mem_placed.mpr ⟨i, j, fields, text, hi, hj, rfl⟩)
    rw [kept?_of_calculates hdoubled.row hdoubled.calculates] at hc
    exact ⟨⟨none, hc⟩, hdoubled.markers⟩

/-- **What is found in records**, each field as it stands. -/
theorem flags_sheetOfRecords {rs : List (Except RecordFault (List String))}
    (h : sheetOfRecords o rs = .ok s) :
    ∃ records : List (List String), rs = records.map .ok ∧
      s.Flags finding (Doubled o records) := by
  have hdefinite := definite_sheetOfRecords h
  have hsound := (made_sheetOfRecords h).sound
  obtain ⟨records, rfl, hplaced, rfl⟩ := sheetOfRecords_eq_ok h
  refine ⟨records, rfl, hdefinite.flags hsound Function.injective_id fun a text => ?_⟩
  rw [mem_doubled_iff hplaced]
  exact exists_eq_left.symm

end Csv

/-! ## Packages -/

namespace Xlsx

/-- What is found at the text of a formula: it stands behind a marker that counts as well. -/
def finding (a : Address) (text : String) : Finding :=
  ⟨a.text, formulaMarker.toString ++ text, .duplicate (1 + MarkerAnomaly.leadingMarkers text)⟩

/-- The text of a formula that has a marker too many: the last of some cells that stores content at
an address has it, and it starts with a marker. -/
def Doubled (shared : Array String) (cells : List PendingCell) (a : Address) (text : String) : Prop :=
  ∃ c, lastStoring shared cells a = some c ∧ c.formula = some text ∧
    text.toList.head? = some formulaMarker

variable {shared : Array String} {cells : List PendingCell} {s : Sheet}

theorem isSome_of_lastStoring {a : Address} {c : PendingCell}
    (h : lastStoring shared cells a = some c) : (c.stored? shared).isSome :=
  (List.mem_filter.mp (List.mem_of_getLast? h)).2

/-- **What is found in cells that are stored**, each text behind the marker it gets. -/
theorem flags_cells (hdefinite : s.Definite) (hsound : s.Sound)
    (hlast : ∀ a, s.content? a = (lastStoring shared cells a).bind fun c => c.stored? shared) :
    s.Flags finding (Doubled shared cells) := by
  have hfull : Function.Injective fun text : String => formulaMarker.toString ++ text :=
    fun _ _ heq => String.append_right_inj _ |>.mp heq
  have hmarkers (text : String) :
      2 ≤ MarkerAnomaly.leadingMarkers (formulaMarker.toString ++ text) ↔
        text.toList.head? = some formulaMarker := by
    rw [MarkerAnomaly.leadingMarkers_marker, ← MarkerAnomaly.one_le_leadingMarkers_iff]
    omega
  have hdoubled (a : Address) (text : String) :
      (a, text) ∈ s.doubled ↔
        ∃ u, formulaMarker.toString ++ u = text ∧ Doubled shared cells a u := by
    rw [Sheet.mem_doubled, hlast]
    constructor
    · rintro ⟨⟨cached, hformula⟩, htwo⟩
      obtain ⟨c, hc, hstored⟩ := Option.bind_eq_some_iff.mp hformula
      obtain ⟨u, rfl, hu⟩ :=
        (PendingCell.yields_of_stored hstored).formula_iff.mp ⟨cached, rfl⟩
      exact ⟨u, rfl, c, hc, hu, (hmarkers u).mp htwo⟩
    · rintro ⟨u, rfl, c, hc, hu, hhead⟩
      obtain ⟨x, hx⟩ := Option.isSome_iff_exists.mp (isSome_of_lastStoring hc)
      obtain ⟨cached, rfl⟩ :=
        (PendingCell.yields_of_stored hx).formula_iff.mpr ⟨u, rfl, hu⟩
      exact ⟨⟨cached, by rw [hc]; exact hx⟩, (hmarkers u).mpr hhead⟩
  have hflags := hdefinite.flags hsound hfull hdoubled
  simp only [MarkerAnomaly.leadingMarkers_marker] at hflags
  exact hflags

/-- **What is found in a part**, whatever events it has. -/
theorem flags_readSheetPart {name : String} {d : Xml.Document}
    (h : readSheetPart shared name d = .ok s) :
    s.Flags finding (Doubled shared (endedCells shared name d)) :=
  flags_cells (definite_readSheetPart h) (made_readSheetPart h).sound
    (storesCells_readSheetPart h).content?_last

/-- What is found in a well-formed part: its cells are what their tags and texts say. -/
theorem flags_of_reads {name : String} {f : Xml.Forest} {read : List PendingCell}
    (h : readSheetPart shared name f.document = .ok s) (hread : ReadFrom shared f read s) :
    s.Flags finding (Doubled shared read) := by
  refine flags_cells (definite_readSheetPart h) (made_readSheetPart h).sound fun a => ?_
  rw [hread.content, lastStoring, getLast?_filterMap_eq]

end Xlsx

/-! ## Files -/

/-- A text with a marker too many in the file that a sheet comes from: a field of its records, or the
text of a formula in a part of its package. -/
inductive Sheet.DoubledIn (storage : Storage) (o : LoadOptions) (path : String) (s : Sheet) : Prop
  | field {format : FileFormat} {bytes : Bytes} {records : List (List String)} {a : Address}
      {field : String} (hformat : FileFormat.ofPath? path = some format)
      (hrecords : format ≠ .xlsx) (hfile : storage path = .file bytes)
      (hdecode : Csv.decodeRecords (Csv.records (o.csvFor format).dialect bytes)
        = records.map .ok)
      (hread : Csv.readSheet (o.csvFor format) bytes = .ok s)
      (hdoubled : Csv.Doubled (o.csvFor format) records a field)
  | formula {bytes : Bytes} {archive : Zip.Archive} {shared : Array String} {name part : String}
      {d : Xml.Document} {a : Address} {text : String}
      (hformat : FileFormat.ofPath? path = some .xlsx) (hfile : storage path = .file bytes)
      (harchive : Zip.openArchive bytes = .ok archive)
      (hshared : Xlsx.sharedTexts archive.content? = .ok shared)
      (hpart : Xlsx.neededDocument archive.content? part = .ok d)
      (hread : Xlsx.readSheetPart shared name d = .ok s)
      (hdoubled : Xlsx.Doubled shared (Xlsx.endedCells shared name d) a text)

section Files

variable {storage : Storage} {o : LoadOptions} {input : String} {w : Workbook} {s : Sheet}

/-- What a sheet without content is checked for. -/
theorem Sheet.flags_new (name : String) : (new name).Flags Csv.finding fun _ _ => False := by
  refine (definite_new name).flags (sound_new name) Function.injective_id fun a text => ?_
  rw [mem_doubled, content?, new, CellStore.find?_empty]
  simp

/-- What a sheet is checked for by the report on its file. -/
theorem Sheet.Flags.failed_iff {finding : Address → String → Finding}
    {Marked : Address → String → Prop} (h : s.Flags finding Marked)
    (hload : (loadFile storage o input).result = .ok w) (hactive : w.activeSheet = .ok s) :
    ∃ r, (Work.report storage o (.check input)).result = .ok r ∧
      (r.failed = true ↔ ∃ a text, Marked a text) := by
  obtain ⟨count, findings, -, hreport, hfailed⟩ := h.report storage o input w hload hactive
  exact ⟨_, hreport, hfailed⟩

/-- A text that is doubled in a file makes the report on it fail. -/
theorem Sheet.DoubledIn.failed (h : s.DoubledIn storage o input)
    (hload : (loadFile storage o input).result = .ok w) (hactive : w.activeSheet = .ok s) :
    ∃ r, (Work.report storage o (.check input)).result = .ok r ∧ r.failed = true := by
  cases h with
  | field _ _ _ hdecode hread hdoubled =>
      obtain ⟨records', hdecode', hflags⟩ := Csv.flags_sheetOfRecords hread
      obtain rfl : _ = records' :=
        List.map_injective_iff.mpr (fun _ _ => Except.ok.inj) (hdecode.symm.trans hdecode')
      obtain ⟨r, hreport, hfailed⟩ := hflags.failed_iff hload hactive
      exact ⟨r, hreport, hfailed.mpr ⟨_, _, hdoubled⟩⟩
  | formula _ _ _ _ _ hread hdoubled =>
      obtain ⟨r, hreport, hfailed⟩ := (Xlsx.flags_readSheetPart hread).failed_iff hload hactive
      exact ⟨r, hreport, hfailed.mpr ⟨_, _, hdoubled⟩⟩

/-- **The report on a file fails exactly for what is doubled in it.** -/
theorem Sheet.From.failed_iff (h : Sheet.From storage o input s)
    (hload : (loadFile storage o input).result = .ok w) (hactive : w.activeSheet = .ok s) :
    ∃ r, (Work.report storage o (.check input)).result = .ok r ∧
      (r.failed = true ↔ s.DoubledIn storage o input) := by
  have hconverse {r : Report} (hreport : (Work.report storage o (.check input)).result = .ok r)
      (hdoubled : s.DoubledIn storage o input) : r.failed = true := by
    obtain ⟨r', hreport', hfailed⟩ := hdoubled.failed hload hactive
    -- there is only one report on a file
    cases hreport.symm.trans hreport'
    exact hfailed
  cases h with
  | records hformat hrecords hfile hread =>
      obtain ⟨records, hdecode, hflags⟩ := Csv.flags_sheetOfRecords hread
      obtain ⟨r, hreport, hfailed⟩ := hflags.failed_iff hload hactive
      refine ⟨r, hreport, fun hr => ?_, hconverse hreport⟩
      obtain ⟨a, text, hdoubled⟩ := hfailed.mp hr
      exact .field hformat hrecords hfile hdecode hread hdoubled
  | package hformat hfile harchive hsheet =>
      cases hsheet with
      | part hshared hpart hread =>
          obtain ⟨r, hreport, hfailed⟩ := (Xlsx.flags_readSheetPart hread).failed_iff hload hactive
          refine ⟨r, hreport, fun hr => ?_, hconverse hreport⟩
          obtain ⟨a, text, hdoubled⟩ := hfailed.mp hr
          exact .formula hformat hfile harchive hshared hpart hread hdoubled
      | filler hnew =>
          subst hnew
          obtain ⟨r, hreport, hfailed⟩ := (Sheet.flags_new "Sheet1").failed_iff hload hactive
          refine ⟨r, hreport, fun hr => ?_, hconverse hreport⟩
          obtain ⟨a, text, hdoubled⟩ := hfailed.mp hr
          exact hdoubled.elim

end Files

/-- **The command that looks for wrong markers flags exactly those that are doubled.** What it finds
in a sheet of records are the fields outside the column names with two markers or more, where
formulas are detected: each as it stands, with the number of its markers. What it finds in a sheet
from a part are the texts of the stored formulas that begin with a marker: each behind one more
marker, which counts. In a part that is well-formed these are the texts that its cells say. No
sheet of a file has a formula without a marker, and the report on a file fails if and only if there
is such a field or text. -/
theorem check_flags_doubled :
    (∀ (o : Csv.Options) (rs : List (Except Csv.RecordFault (List String))) (s : Sheet),
      Csv.sheetOfRecords o rs = .ok s →
        ∃ records : List (List String), rs = records.map .ok ∧
          s.Flags Csv.finding (Csv.Doubled o records)) ∧
    (∀ (shared : Array String) (name : String) (d : Xml.Document) (s : Sheet),
      Xlsx.readSheetPart shared name d = .ok s →
        s.Flags Xlsx.finding (Xlsx.Doubled shared (Xlsx.endedCells shared name d)) ∧
        ∀ f : Xml.Forest, d = f.document → Xlsx.CellsApart f →
          ∃ read, Xlsx.ReadFrom shared f read s ∧
            s.Flags Xlsx.finding (Xlsx.Doubled shared read)) ∧
    ∀ (storage : Storage) (o : LoadOptions) (input : String) (w : Workbook),
      (loadFile storage o input).result = .ok w →
        (∀ s ∈ w.sheets, ∀ findings, s.Finds findings →
          ∀ f ∈ findings, f.anomaly ≠ .missing) ∧
        ∃ s r, w.activeSheet = .ok s ∧ (Work.report storage o (.check input)).result = .ok r ∧
          (r.failed = true ↔ s.DoubledIn storage o input) := by
  refine ⟨?records, ?parts, ?files⟩
  case records => exact fun o rs s => Csv.flags_sheetOfRecords
  case parts =>
    intro shared name d s h
    refine ⟨Xlsx.flags_readSheetPart h, fun f hd hf => ?_⟩
    subst hd
    obtain ⟨read, hread, -, -⟩ := Xlsx.readSheetPart_reads hf h
    exact ⟨read, hread, Xlsx.flags_of_reads h hread⟩
  case files =>
    intro storage o input w hload
    have husable := usable_of_result hload
    constructor
    · intro s hs findings hfinds
      have hdefinite := (from_of_loadFile hload s hs).definite
      exact hdefinite.anomaly_ne_missing (husable.made s hs).sound hfinds
    · obtain ⟨s, hs, hactive⟩ := husable.activeSheet
      obtain ⟨r, hreport, hfailed⟩ := (from_of_loadFile hload s hs).failed_iff hload hactive
      exact ⟨s, r, hactive, hreport, hfailed⟩

-- neither the name of a column nor a formula with one marker is found
example : (Csv.sheetOfRecords .comma [.ok ["==a"], .ok ["==1", "=2", "'==3", "===4"]]).toOption.map
    (fun s => Finding.ofDescriptors s.descriptors)
      = some [⟨"A2", "==1", .duplicate 2⟩, ⟨"D2", "===4", .duplicate 3⟩] := by
  decide +kernel

/-- A name of a column and a field, each with two markers. -/
def markedRecords : List (Except Csv.RecordFault (List String)) := [.ok ["==a"], .ok ["==1"]]

/-- A cell with the formula `=A1`, marker included. -/
def markedPart : Xml.Forest :=
  .element ⟨Xml.asciiName "row", []⟩
    (.element ⟨Xml.asciiName "c", []⟩
      (.element ⟨Xml.asciiName "f", []⟩ (.text (Xml.asciiName "=A1") .nil) .nil) .nil) .nil

theorem check_flags_marked :
    (∃ s records, Csv.sheetOfRecords .comma markedRecords = .ok s ∧
      s.Flags Csv.finding (Csv.Doubled .comma records)) ∧
    (∃ s read, Xlsx.readSheetPart #[] "A" markedPart.document = .ok s ∧
      Xlsx.ReadFrom #[] markedPart read s ∧ s.Flags Xlsx.finding (Xlsx.Doubled #[] read)) ∧
    ∃ w s r, (loadFile oneFile .plain "a.csv").result = .ok w ∧ w.activeSheet = .ok s ∧
      (Work.report oneFile .plain (.check "a.csv")).result = .ok r ∧
        (r.failed = true ↔ s.DoubledIn oneFile .plain "a.csv") := by
  obtain ⟨hrecords, hparts, hfiles⟩ := check_flags_doubled
  have hsheet : (Csv.sheetOfRecords .comma markedRecords).toOption.isSome := by
    decide +kernel
  have hpart : (Xlsx.readSheetPart #[] "A" markedPart.document).toOption.isSome := by
    decide +kernel
  obtain ⟨s, hs⟩ := Option.isSome_iff_exists.mp hsheet
  obtain ⟨t, ht⟩ := Option.isSome_iff_exists.mp hpart
  rw [Xlsx.toOption_eq_some_iff] at hs ht
  obtain ⟨records, -, hflags⟩ := hrecords _ _ s hs
  obtain ⟨read, hread, hpartFlags⟩ :=
    (hparts _ _ _ t ht).2 markedPart rfl (by decide +kernel)
  obtain ⟨w, hw⟩ := loadFile_oneFile
  obtain ⟨-, u, r, hactive, hreport, hfailed⟩ := hfiles _ _ _ w hw
  exact ⟨⟨s, records, hs, hflags⟩, ⟨t, read, ht, hread, hpartFlags⟩,
    ⟨w, u, r, hw, hactive, hreport, hfailed⟩⟩

end SheetInspector
