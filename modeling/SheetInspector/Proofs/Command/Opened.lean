import SheetInspector.Proofs.Command.Report
import SheetInspector.Proofs.Loading.Workbooks
import SheetInspector.Proofs.Text.Pieces

set_option autoImplicit false

/-! # Commands that have opened their files

A workbook that is loaded can be inspected: it has an active sheet, and every reader of any of its
sheets succeeds (`Workbook.Usable.inspectable`). So a command whose files can be loaded ends in a
report (`Work.result_of_loaded`), and all that a command can fail on is loading one of its files
(`Work.fault_of_report`).
-/

namespace SheetInspector

/-- Whether every reader of a sheet succeeds, and with what result. -/
structure Sheet.Readable (s : Sheet) : Prop where
  inspect : s.grid.inspect = .ok s.descriptors
  preview : ∀ limit, s.grid.preview limit = .ok (s.firstRows limit)
  headers : s.grid.headers = .ok s.columnNames
  compare : ∀ t : Sheet, Comparison.ofGrids s.grid t.grid
    = .ok (Comparison.ofDescriptors s.descriptors t.descriptors)

theorem Sheet.readable (s : Sheet) : s.Readable where
  inspect := s.inspect_grid
  preview := s.preview_grid
  headers := s.headers_grid
  compare := s.ofGrids_grid

/-- Whether a workbook can be inspected: one of its sheets is active, and all of them can be read.
Their extents lie in the largest one, and hold all that they store. -/
structure Workbook.Inspectable (w : Workbook) : Prop where
  sheets_ne_nil : w.sheets ≠ []
  active : ∃ s ∈ w.sheets, w.activeSheet = .ok s
  sound : ∀ s ∈ w.sheets, s.Sound
  readable : ∀ s ∈ w.sheets, s.Readable

theorem Workbook.Usable.activeSheet {w : Workbook} (h : w.Usable) :
    ∃ s ∈ w.sheets, w.activeSheet = .ok s := by
  obtain ⟨s, hs, hactive⟩ := h.sound.activeSheet_eq_ok h.sheets_ne_nil
  exact ⟨s, List.mem_of_getElem? hs, hactive⟩

theorem Workbook.Usable.inspectable {w : Workbook} (h : w.Usable) : w.Inspectable where
  sheets_ne_nil := h.sheets_ne_nil
  active := h.activeSheet
  sound := fun s hs => (h.made s hs).sound
  readable := fun s _ => s.readable

namespace Work

variable {storage : Storage} {o : LoadOptions} {w : Workbook}

theorem steady_load (storage : Storage) (o : LoadOptions) (path : String) :
    (load storage o path).Steady :=
  (steady_loadFile storage o path).mapFault _

theorem result_load_eq_ok {path : String} (h : (loadFile storage o path).result = .ok w) :
    (load storage o path).result = .ok w := by
  obtain ⟨log, hrun⟩ := Logged.result_eq_ok_iff.mp h
  exact Logged.result_eq_ok_iff.mpr ⟨log, Logged.run_mapFault_eq_ok_iff.mpr hrun⟩

/-- **The report of the command that compares two files.** -/
theorem result_diff {before after : String} {old new : Workbook} {s t : Sheet} {failOnChange : Bool}
    (hold : (load storage o before).result = .ok old)
    (hnew : (load storage o after).result = .ok new)
    (hs : old.activeSheet = .ok s) (ht : new.activeSheet = .ok t) :
    (report storage o (.diff before after failOnChange)).result
      = .ok (.comparison (s.label before) (t.label after)
          (Comparison.ofDescriptors s.descriptors t.descriptors) failOnChange) := by
  obtain ⟨first, hfirst⟩ := Logged.result_eq_ok_iff.mp hold
  -- the second file is loaded on the log that loading the first one has left
  obtain ⟨second, hsecond⟩ := (steady_load storage o after).run_of_result hnew first
  obtain ⟨compared, hcompared⟩ := run_compare s t second
  refine Logged.result_eq_ok_iff.mpr ⟨compared, ?_⟩
  calc (report storage o (.diff before after failOnChange)).run []
      = _ := Logged.run_bind_of_ok hfirst _
    _ = _ := Logged.run_bind_of_ok hsecond _
    _ = _ := Logged.run_bind_of_ok (run_activeSheet hs second) _
    _ = _ := Logged.run_bind_of_ok (run_activeSheet ht second) _
    _ = _ := Logged.run_bind_of_ok hcompared _

/-- **A command whose files can be loaded ends in a report.** -/
theorem result_of_loaded {command : Command}
    (h : ∀ path ∈ command.inputs, ∃ w, (loadFile storage o path).result = .ok w) :
    ∃ r, (report storage o command).result = .ok r := by
  have hactive : ∀ path ∈ command.inputs, ∃ w s,
      (load storage o path).result = .ok w ∧ w.activeSheet = .ok s := by
    intro path hpath
    obtain ⟨w, hw⟩ := h path hpath
    obtain ⟨s, -, hs⟩ := (usable_of_result hw).activeSheet
    exact ⟨w, s, result_load_eq_ok hw, hs⟩
  cases command with
  | inspect input =>
      obtain ⟨w, s, hload, hs⟩ := hactive input List.mem_cons_self
      exact ⟨_, result_inspect hload hs⟩
  | preview input rows =>
      obtain ⟨w, s, hload, hs⟩ := hactive input List.mem_cons_self
      exact ⟨_, result_preview hload hs⟩
  | check input =>
      obtain ⟨w, s, hload, hs⟩ := hactive input List.mem_cons_self
      exact ⟨_, result_check hload hs⟩
  | diff before after failOnChange =>
      obtain ⟨old, s, hold, hs⟩ := hactive before List.mem_cons_self
      obtain ⟨new, t, hnew, ht⟩ := hactive after (List.mem_cons_of_mem _ List.mem_cons_self)
      exact ⟨_, result_diff hold hnew hs ht⟩
  | info input =>
      obtain ⟨w, s, hload, -⟩ := hactive input List.mem_cons_self
      exact ⟨_, result_info hload⟩

/-- A file that cannot be loaded is what the command that opens it fails on. -/
theorem fault_of_load {path : String} {f : LoadFault} {k : Workbook → Work Report}
    {fault : CommandFault} {log : List LogRecord}
    (hload : (loadFile storage o path).result = .error f)
    (h : ((load storage o path >>= k).run log).1 = .error fault) : fault = .loading path f := by
  obtain ⟨log', hrun⟩ := steady_loadFile storage o path log
  have hfails : (load storage o path).run log = (.error (.loading path f), log') := by
    rw [load, Logged.run_mapFault, hrun, hload]
    rfl
  rw [Logged.run_bind_of_error hfails] at h
  cases h
  rfl

/-- A command that begins with opening its only file can only fail on that. -/
theorem fault_of_single {command : Command} {input : String} {k : Workbook → Work Report}
    {fault : CommandFault} (hinputs : command.inputs = [input])
    (hreport : report storage o command = load storage o input >>= k)
    (h : (report storage o command).result = .error fault) :
    ∃ path ∈ command.inputs, ∃ f,
      (loadFile storage o path).result = .error f ∧ fault = .loading path f := by
  cases hload : (loadFile storage o input).result with
  | error f =>
      rw [hreport] at h
      rw [hinputs]
      exact ⟨input, List.mem_cons_self, f, hload, fault_of_load hload h⟩
  | ok w =>
      have hloaded : ∀ path ∈ command.inputs, ∃ w, (loadFile storage o path).result = .ok w := by
        intro path hpath
        rw [hinputs] at hpath
        obtain rfl := List.mem_singleton.mp hpath
        exact ⟨w, hload⟩
      obtain ⟨r, hr⟩ := result_of_loaded hloaded
      rw [hr] at h
      cases h

/-- **All that a command can fail on is loading one of its files.** -/
theorem fault_of_report {command : Command} {fault : CommandFault}
    (h : (report storage o command).result = .error fault) :
    ∃ path ∈ command.inputs, ∃ f,
      (loadFile storage o path).result = .error f ∧ fault = .loading path f := by
  cases command with
  | inspect input => exact fault_of_single rfl rfl h
  | preview input rows => exact fault_of_single rfl rfl h
  | check input => exact fault_of_single rfl rfl h
  | info input => exact fault_of_single rfl rfl h
  | diff before after failOnChange =>
      cases hold : (loadFile storage o before).result with
      | error f => exact ⟨before, List.mem_cons_self, f, hold, fault_of_load hold h⟩
      | ok old =>
          -- once the first file is loaded, what is left is a command with one file
          obtain ⟨first, hfirst⟩ := Logged.result_eq_ok_iff.mp (result_load_eq_ok hold)
          have hrest := (congrArg Prod.fst (Logged.run_bind_of_ok hfirst _)).symm.trans h
          have hafter : after ∈ [before, after] := List.mem_cons_of_mem _ List.mem_cons_self
          cases hnew : (loadFile storage o after).result with
          | error f => exact ⟨after, hafter, f, hnew, fault_of_load hnew hrest⟩
          | ok new =>
              have hloaded : ∀ path ∈ [before, after],
                  ∃ w, (loadFile storage o path).result = .ok w :=
                List.forall_mem_cons.mpr ⟨⟨old, hold⟩, List.forall_mem_singleton.mpr ⟨new, hnew⟩⟩
              have hreport : ∃ r, (report storage o (.diff before after failOnChange)).result = .ok r :=
                result_of_loaded hloaded
              obtain ⟨r, hr⟩ := hreport
              rw [hr] at h
              cases h

end Work

/-- **Whatever a file contains, a workbook that is loaded can be inspected.** That goes for all lists
of records, for sheets from parts with any events, and for all packages and files. A command whose
files can be loaded ends in a report, and all that it can fail on is that one of them cannot. -/
theorem inspectable_of_loaded :
    (∀ (o : Csv.Options) (records : List (Except Csv.RecordFault (List String))) (s : Sheet),
      Csv.sheetOfRecords o records = .ok s → (Workbook.single s).Inspectable) ∧
    (∀ (shared : Array String) (name : String) (d : Xml.Document) (s : Sheet),
      Xlsx.readSheetPart shared name d = .ok s → s.Sound ∧ s.Readable) ∧
    (∀ (p : Xlsx.Package) (w : Workbook),
      (Xlsx.loadPackage p).result = .ok w → w.Inspectable) ∧
    (∀ (storage : Storage) (o : LoadOptions) (path : String) (w : Workbook),
      (loadFile storage o path).result = .ok w → w.Inspectable) ∧
    ∀ (storage : Storage) (o : LoadOptions) (command : Command),
      ((∀ path ∈ command.inputs, ∃ w, (loadFile storage o path).result = .ok w) →
        ∃ r, (Work.report storage o command).result = .ok r) ∧
      ∀ fault, (Work.report storage o command).result = .error fault →
        ∃ path ∈ command.inputs, ∃ f,
          (loadFile storage o path).result = .error f ∧ fault = .loading path f := by
  refine ⟨?records, ?parts, ?packages, ?files, ?commands⟩
  case records =>
    intro o records s h
    exact (Csv.usable_sheetOfRecords h).inspectable
  case parts =>
    intro shared name d s h
    exact ⟨(Xlsx.made_readSheetPart h).sound, s.readable⟩
  case packages =>
    intro p w h
    obtain ⟨log, hrun⟩ := Logged.result_eq_ok_iff.mp h
    exact (Xlsx.usable_loadPackage hrun).inspectable
  case files =>
    intro storage o path w h
    exact (usable_of_result h).inspectable
  case commands =>
    intro storage o command
    exact ⟨Work.result_of_loaded, fun fault => Work.fault_of_report⟩

/-- Events that no part with matching tags has: the end of a cell, and a row without an end. -/
def strayDocument : Xml.Document :=
  ⟨[.finish (Xml.asciiName "c"), .start ⟨Xml.asciiName "row", []⟩, .empty ⟨Xml.asciiName "c", []⟩],
    none⟩

/-- A package that lists a sheet without a part. -/
def skippingPackage : Xlsx.Package := fun name =>
  if name = "xl/workbook.xml" then some ⟨[Xml.asciiName "<sheet name='A' r:id='9'/>"], none⟩
  else some ⟨[], none⟩

/-- A single file with a record of a blank field and a formula. -/
def oneFile : Storage := fun path =>
  if path = "a.csv" then .file (Xml.asciiName ",=1\n") else .unavailable .absent

theorem ofPath?_oneFile : FileFormat.ofPath? "a.csv" = some .csv := by
  have hparts : "a.csv".splitOn "/" = ["a.csv"] :=
    Text.splitOn_of_not_mem '/' "a.csv".toList (by decide)
  rw [FileFormat.ofPath?, Path.extension?, Path.fileName?, Path.parts, hparts]
  decide +kernel

theorem ofPath?_empty : FileFormat.ofPath? "" = none := by
  have hparts : "".splitOn "/" = [""] := Text.splitOn_of_not_mem '/' [] (by decide)
  rw [FileFormat.ofPath?, Path.extension?, Path.fileName?, Path.parts, hparts]
  decide +kernel

theorem loadFile_oneFile : ∃ w, (loadFile oneFile .plain "a.csv").result = .ok w := by
  have hfile : (loadFile oneFile .plain "a.csv").result.toOption.isSome := by
    rw [loadFile_of_isFile ofPath?_oneFile (by decide +kernel)]
    decide +kernel
  obtain ⟨w, hw⟩ := Option.isSome_iff_exists.mp hfile
  exact ⟨w, Xlsx.toOption_eq_some_iff.mp hw⟩

theorem loadPackage_skippingPackage :
    ∃ w, (Xlsx.loadPackage skippingPackage).result = .ok w ∧ w.names = ["Sheet1"] := by
  have hpackage : (Xlsx.loadPackage skippingPackage).result.toOption.map Workbook.names
      = some ["Sheet1"] := by
    decide +kernel
  obtain ⟨w, hw, hnames⟩ := Option.map_eq_some_iff.mp hpackage
  exact ⟨w, Xlsx.toOption_eq_some_iff.mp hw, hnames⟩

theorem inspectable_of_oneFile :
    (∃ s, Csv.sheetOfRecords .comma [.ok [""], .ok [], .ok ["x", "=1"]] = .ok s ∧
      (Workbook.single s).Inspectable) ∧
    (∃ s, Xlsx.readSheetPart #[] "A" strayDocument = .ok s ∧ s.Sound ∧ s.Readable) ∧
    (∃ w, (Xlsx.loadPackage skippingPackage).result = .ok w ∧ w.names = ["Sheet1"] ∧
      w.Inspectable) ∧
    (∃ w, (loadFile oneFile .plain "a.csv").result = .ok w ∧ w.Inspectable) ∧
    (∃ r, (Work.report oneFile .plain (.diff "a.csv" "a.csv" true)).result = .ok r) ∧
    ∃ path f, (loadFile oneFile .plain path).result = .error f ∧
      (Work.report oneFile .plain (.info "")).result = .error (.loading path f) := by
  obtain ⟨hrecords, hparts, hpackages, hfiles, hcommands⟩ := inspectable_of_loaded
  have hsheet : (Csv.sheetOfRecords .comma [.ok [""], .ok [], .ok ["x", "=1"]]).toOption.isSome := by
    decide +kernel
  have hpart : (Xlsx.readSheetPart #[] "A" strayDocument).toOption.isSome := by
    decide +kernel
  obtain ⟨s, hs⟩ := Option.isSome_iff_exists.mp hsheet
  obtain ⟨t, ht⟩ := Option.isSome_iff_exists.mp hpart
  rw [Xlsx.toOption_eq_some_iff] at hs ht
  obtain ⟨v, hv, hnames⟩ := loadPackage_skippingPackage
  obtain ⟨w, hw⟩ := loadFile_oneFile
  have hinputs : ∀ path ∈ ["a.csv", "a.csv"],
      ∃ w, (loadFile oneFile .plain path).result = .ok w :=
    List.forall_mem_cons.mpr ⟨⟨w, hw⟩, List.forall_mem_singleton.mpr ⟨w, hw⟩⟩
  have hinfo : (Work.report oneFile .plain (.info "")).result
      = .error (.loading "" (.unsupported "")) := by
    rw [Work.report, Work.load, loadFile_of_unsupported ofPath?_empty]
    rfl
  obtain ⟨path, -, f, hf, hfault⟩ := (hcommands oneFile .plain (.info "")).2 _ hinfo
  exact ⟨⟨s, hs, hrecords _ _ s hs⟩, ⟨t, ht, hparts _ _ _ t ht⟩,
    ⟨v, hv, hnames, hpackages _ v hv⟩, ⟨w, hw, hfiles _ _ _ w hw⟩,
    (hcommands oneFile .plain (.diff "a.csv" "a.csv" true)).1 hinputs,
    ⟨path, f, hf, hinfo.trans (congrArg Except.error hfault)⟩⟩

end SheetInspector
