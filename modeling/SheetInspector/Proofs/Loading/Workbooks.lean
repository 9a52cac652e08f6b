import SheetInspector.Loading.Load
import SheetInspector.Proofs.Loading.Sheets
import SheetInspector.Proofs.Xlsx.Package

set_option autoImplicit false

/-! # Workbooks that are loaded

Whatever a file contains, a workbook that is loaded from it is `Usable`: it is sound, it has a
sheet, and all its sheets are made by changes (`usable_loadFile`). That goes for records and
packages of any kind: a package whose listed sheets all lead nowhere gets an empty sheet, and a
sheet may have no cells. Each of the sheets comes from the file (`from_of_loadFile`). Whether a file
can be loaded does not depend on what has been logged before (`steady_loadFile`).
-/

namespace SheetInspector

/-- What holds of every workbook that is loaded. -/
structure Workbook.Usable (w : Workbook) : Prop where
  sound : w.Sound
  sheets_ne_nil : w.sheets ≠ []
  made : ∀ s ∈ w.sheets, s.Made s.name

theorem Workbook.Usable.withActive {w : Workbook} (h : w.Usable) {index : Nat}
    (hindex : index < w.sheets.length) : (w.withActive index).Usable where
  sound := h.sound.withActive hindex
  sheets_ne_nil := h.sheets_ne_nil
  made := h.made

theorem Sheet.Made.usable_single {name : String} {s : Sheet} (h : s.Made name) :
    (Workbook.single s).Usable where
  sound := Workbook.sound_single s
  sheets_ne_nil := List.cons_ne_nil s []
  made := by
    intro t ht
    obtain rfl : t = s := List.mem_singleton.mp ht
    exact h.name_eq.symm ▸ h

variable {storage : Storage} {path : String} {w : Workbook} {log log' : List LogRecord}

/-! ## Records -/

namespace Csv

theorem usable_sheetOfRecords {o : Options} {records : List (Except RecordFault (List String))}
    {s : Sheet} (h : sheetOfRecords o records = .ok s) : (Workbook.single s).Usable :=
  (made_sheetOfRecords h).usable_single

/-- A workbook from a file of records is the sheet of its bytes. -/
theorem run_loadFile {o : Options} (h : (loadFile storage o path).run log = (.ok w, log')) :
    ∃ bytes s, storage path = .file bytes ∧ readSheet o bytes = .ok s ∧ w = .single s := by
  obtain ⟨_, started, -, hrest⟩ := Logged.run_bind_eq_ok h
  cases hentry : storage path with
  | unavailable fault =>
      rw [hentry] at hrest
      cases hrest
  | directory =>
      rw [hentry] at hrest
      cases hrest
  | file bytes =>
      rw [hentry] at hrest
      obtain ⟨s, mid, hs, hlast⟩ := Logged.run_bind_eq_ok hrest
      rw [Logged.run_ofExcept] at hs
      cases hlast
      exact ⟨bytes, s, rfl, congrArg Prod.fst hs, rfl⟩

theorem usable_loadFile {o : Options}
    (h : (loadFile storage o path).run log = (.ok w, log')) : w.Usable := by
  obtain ⟨bytes, s, -, hs, rfl⟩ := run_loadFile h
  exact usable_sheetOfRecords hs

theorem steady_loadFile (storage : Storage) (o : Options) (path : String) :
    (loadFile storage o path).Steady := by
  refine (Logged.steady_log _).bind fun _ => ?_
  cases storage path with
  | unavailable fault => exact Logged.steady_throw _
  | directory => exact Logged.steady_throw _
  | file content =>
      exact (Logged.steady_ofExcept _).bind fun s =>
        (Logged.steady_log _).bind fun _ => Logged.steady_pure _

end Csv

/-! ## Packages -/

namespace Xlsx

variable {p : Package}

/-- Where a sheet of a workbook from a package comes from: a part of the package, or nowhere if none
of the sheets that are listed leads to one. -/
inductive SheetOf (p : Package) (s : Sheet) : Prop
  | part {shared : Array String} {name part : String} {d : Xml.Document}
      (hshared : sharedTexts p = .ok shared) (hpart : neededDocument p part = .ok d)
      (hread : readSheetPart shared name d = .ok s)
  | filler (h : s = Sheet.new "Sheet1")

theorem SheetOf.made {s : Sheet} (h : SheetOf p s) : s.Made s.name := by
  cases h with
  | part _ _ hread =>
      have hmade := made_readSheetPart hread
      exact hmade.name_eq.symm ▸ hmade
  | filler h =>
      subst h
      exact Sheet.made_new _

theorem ReadsPackage.sheetOf {shared : Array String} {outline : Outline} {r : Relationships}
    {sheets : List Sheet} (h : ReadsPackage p shared outline r sheets w) :
    ∀ s ∈ w.sheets, SheetOf p s := by
  intro s hs
  rw [h.sheets_eq] at hs
  split_ifs at hs with hnil
  · exact .filler (List.mem_singleton.mp hs)
  · obtain ⟨k, hk⟩ := List.mem_iff_getElem?.mp hs
    obtain ⟨x, -, d, hd, hread⟩ := getElem?_of_forall₂ (List.Forall₂.flip h.read) hk
    exact .part h.shared_eq hd hread

/-- **A workbook that is read from a package is usable**, whichever sheets the package leads to. -/
theorem usable_loadPackage (h : (loadPackage p).run log = (.ok w, log')) : w.Usable := by
  obtain ⟨shared, outline, r, sheets, hreads⟩ := run_loadPackage h
  refine ⟨hreads.sound, ?_, fun s hs => (hreads.sheetOf s hs).made⟩
  rw [hreads.sheets_eq]
  split_ifs with hnil
  · exact List.cons_ne_nil _ _
  · exact hnil

/-- A workbook from a package file is that of the package in its bytes. -/
theorem run_loadFile (h : (loadFile storage path).run log = (.ok w, log')) :
    ∃ bytes archive mid, storage path = .file bytes ∧ Zip.openArchive bytes = .ok archive ∧
      (loadPackage archive.content?).run mid = (.ok w, log') := by
  obtain ⟨_, started, -, hrest⟩ := Logged.run_bind_eq_ok h
  cases hentry : storage path with
  | unavailable fault =>
      rw [hentry] at hrest
      cases hrest
  | directory =>
      rw [hentry] at hrest
      cases hrest
  | file bytes =>
      rw [hentry] at hrest
      obtain ⟨archive, mid, harchive, hpackage⟩ := Logged.run_bind_eq_ok hrest
      rw [Logged.run_ofExcept] at harchive
      exact ⟨bytes, archive, mid, rfl, mapError_eq_ok_iff.mp (congrArg Prod.fst harchive), hpackage⟩

theorem usable_loadFile (h : (loadFile storage path).run log = (.ok w, log')) : w.Usable := by
  obtain ⟨bytes, archive, mid, -, -, hpackage⟩ := run_loadFile h
  exact usable_loadPackage hpackage

theorem steady_loadSharedTexts (p : Package) : (loadSharedTexts p).Steady := by
  rw [loadSharedTexts]
  cases p "xl/sharedStrings.xml" with
  | none => exact Logged.steady_pure _
  | some c =>
      exact (Logged.steady_ofExcept _).bind fun shared =>
        (Logged.steady_log _).bind fun _ => Logged.steady_pure _

theorem steady_loadSheet (p : Package) (shared : Array String) (name part : String) :
    (loadSheet p shared name part).Steady :=
  (Logged.steady_ofExcept _).bind fun _ =>
    (Logged.steady_ofExcept _).bind fun _ =>
      (Logged.steady_log _).bind fun _ => Logged.steady_pure _

theorem steady_addSheets (p : Package) (shared : Array String) (r : Relationships)
    (activeTab tab : Nat) (a : Assembly) (entries : List SheetEntry) :
    (addSheets p shared r activeTab tab a entries).Steady := by
  induction entries generalizing tab a with
  | nil => exact Logged.steady_pure a
  | cons entry entries ih =>
      rw [addSheets]
      cases r.part? entry.relationship with
      | none => exact (Logged.steady_log _).bind fun _ => ih (tab + 1) a
      | some part =>
          exact (steady_loadSheet p shared entry.name part).bind fun s =>
            (Logged.steady_ofExcept _).bind fun added => ih (tab + 1) _

theorem steady_loadPackage (p : Package) : (loadPackage p).Steady := by
  rw [loadPackage]
  by_cases htypes : (p "[Content_Types].xml").isNone
  · rw [if_pos htypes]
    exact Logged.steady_throw _
  · rw [if_neg htypes]
    exact (steady_loadSharedTexts p).bind fun shared =>
      (Logged.steady_ofExcept _).bind fun outline =>
        (Logged.steady_ofExcept _).bind fun r =>
          (steady_addSheets p shared r outline.activeTab 0 _ outline.entries).bind fun a =>
            Logged.steady_ofExcept _

theorem steady_loadFile (storage : Storage) (path : String) :
    (loadFile storage path).Steady := by
  refine (Logged.steady_log _).bind fun _ => ?_
  cases storage path with
  | unavailable fault => exact Logged.steady_throw _
  | directory => exact Logged.steady_throw _
  | file content =>
      exact (Logged.steady_ofExcept _).bind fun archive => steady_loadPackage _

end Xlsx

/-! ## Files -/

theorem LoadOptions.usable_select {o : LoadOptions} {w' : Workbook} (hw : w.Usable)
    (h : o.select w = .ok w') : w'.Usable := by
  rw [select] at h
  cases hsheet : o.sheet with
  | none =>
      rw [hsheet] at h
      cases h
      exact hw
  | some name =>
      rw [hsheet] at h
      obtain ⟨index, hindex, rfl⟩ := Workbook.select_eq_ok_iff.mp (Xlsx.mapError_eq_ok_iff.mp h)
      exact hw.withActive (Workbook.lt_of_indexOf? hindex)

/-- Reads a file in a given format. -/
def readFormat (storage : Storage) (o : LoadOptions) (path : String) :
    FileFormat → Logged LoadFault Workbook
  | .xlsx => (Xlsx.loadFile storage path).mapFault .xlsx
  | format => (Csv.loadFile storage (o.csvFor format) path).mapFault .csv

variable {o : LoadOptions}

theorem loadFile_of_unsupported (h : FileFormat.ofPath? path = none) :
    loadFile storage o path = throw (.unsupported path) := by
  rw [loadFile, h]

theorem loadFile_of_not_isFile {format : FileFormat} (h : FileFormat.ofPath? path = some format)
    (hfile : (storage path).isFile = false) :
    loadFile storage o path = throw (.notFound path) := by
  rw [loadFile, h]
  simp only [hfile]
  rfl

/-- Loading a file that is there is reading it in its format, and selecting a sheet. -/
theorem loadFile_of_isFile {format : FileFormat} (h : FileFormat.ofPath? path = some format)
    (hfile : (storage path).isFile = true) :
    loadFile storage o path = (do
      Logged.debug toolName ("loading " ++ path ++ " as " ++ format.name)
      let w ← readFormat storage o path format
      Logged.ofExcept (o.select w)) := by
  rw [loadFile, h]
  simp only [hfile]
  cases format with
  | xlsx => rfl
  | csv => rfl
  | tsv => rfl

/-- A workbook that is loaded has been read in the format of its file. -/
theorem run_loadFile (h : (loadFile storage o path).run log = (.ok w, log')) :
    ∃ format read mid mid', FileFormat.ofPath? path = some format ∧
      (readFormat storage o path format).run mid = (.ok read, mid') ∧ o.select read = .ok w := by
  cases hformat : FileFormat.ofPath? path with
  | none =>
      rw [loadFile_of_unsupported hformat] at h
      cases h
  | some format =>
      cases hfile : (storage path).isFile with
      | false =>
          rw [loadFile_of_not_isFile hformat hfile] at h
          cases h
      | true =>
          rw [loadFile_of_isFile hformat hfile] at h
          obtain ⟨_, mid, -, hrest⟩ := Logged.run_bind_eq_ok h
          obtain ⟨read, mid', hread, hselected⟩ := Logged.run_bind_eq_ok hrest
          rw [Logged.run_ofExcept] at hselected
          exact ⟨format, read, mid, mid', rfl, hread, congrArg Prod.fst hselected⟩

/-- **A workbook that is loaded from a file is usable.** -/
theorem usable_loadFile (h : (loadFile storage o path).run log = (.ok w, log')) : w.Usable := by
  obtain ⟨format, read, mid, mid', -, hread, hselected⟩ := run_loadFile h
  refine LoadOptions.usable_select ?_ hselected
  cases format with
  | xlsx => exact Xlsx.usable_loadFile (Logged.run_mapFault_eq_ok_iff.mp hread)
  | csv => exact Csv.usable_loadFile (Logged.run_mapFault_eq_ok_iff.mp hread)
  | tsv => exact Csv.usable_loadFile (Logged.run_mapFault_eq_ok_iff.mp hread)

theorem usable_of_result (h : (loadFile storage o path).result = .ok w) : w.Usable := by
  obtain ⟨log, hrun⟩ := Logged.result_eq_ok_iff.mp h
  exact usable_loadFile hrun

theorem steady_readFormat (storage : Storage) (o : LoadOptions) (path : String)
    (format : FileFormat) : (readFormat storage o path format).Steady := by
  cases format with
  | xlsx => exact (Xlsx.steady_loadFile storage path).mapFault _
  | csv => exact (Csv.steady_loadFile storage _ path).mapFault _
  | tsv => exact (Csv.steady_loadFile storage _ path).mapFault _

/-- **Loading a file does not look at the log.** -/
theorem steady_loadFile (storage : Storage) (o : LoadOptions) (path : String) :
    (loadFile storage o path).Steady := by
  cases hformat : FileFormat.ofPath? path with
  | none =>
      rw [loadFile_of_unsupported hformat]
      exact Logged.steady_throw _
  | some format =>
      cases hfile : (storage path).isFile with
      | false =>
          rw [loadFile_of_not_isFile hformat hfile]
          exact Logged.steady_throw _
      | true =>
          rw [loadFile_of_isFile hformat hfile]
          exact (Logged.steady_log _).bind fun _ =>
            (steady_readFormat storage o path format).bind fun _ => Logged.steady_ofExcept _

/-! ## Where sheets come from -/

/-- Where a sheet of a workbook that is loaded comes from: the records of the file, or the package
in it. -/
inductive Sheet.From (storage : Storage) (o : LoadOptions) (path : String) (s : Sheet) : Prop
  | records {format : FileFormat} {bytes : Bytes} (hformat : FileFormat.ofPath? path = some format)
      (hrecords : format ≠ .xlsx) (hfile : storage path = .file bytes)
      (hread : Csv.readSheet (o.csvFor format) bytes = .ok s)
  | package {bytes : Bytes} {archive : Zip.Archive} (hformat : FileFormat.ofPath? path = some .xlsx)
      (hfile : storage path = .file bytes) (harchive : Zip.openArchive bytes = .ok archive)
      (hsheet : Xlsx.SheetOf archive.content? s)

/-- Selecting a sheet changes none. -/
theorem LoadOptions.sheets_select {w' : Workbook} (h : o.select w = .ok w') :
    w'.sheets = w.sheets := by
  rw [select] at h
  cases hsheet : o.sheet with
  | none =>
      rw [hsheet] at h
      cases h
      rfl
  | some name =>
      rw [hsheet] at h
      obtain ⟨index, -, rfl⟩ := Workbook.select_eq_ok_iff.mp (Xlsx.mapError_eq_ok_iff.mp h)
      rfl

/-- **Every sheet of a workbook that is loaded comes from its file.** -/
theorem from_of_loadFile (h : (loadFile storage o path).result = .ok w) :
    ∀ s ∈ w.sheets, Sheet.From storage o path s := by
  obtain ⟨log, hrun⟩ := Logged.result_eq_ok_iff.mp h
  obtain ⟨format, read, mid, mid', hformat, hread, hselected⟩ := run_loadFile hrun
  rw [LoadOptions.sheets_select hselected]
  have hrecords (hne : format ≠ .xlsx)
      (hrun : ((Csv.loadFile storage (o.csvFor format) path).mapFault LoadFault.csv).run mid
        = (.ok read, mid')) : ∀ s ∈ read.sheets, Sheet.From storage o path s := by
    obtain ⟨bytes, s, hfile, hs, rfl⟩ := Csv.run_loadFile (Logged.run_mapFault_eq_ok_iff.mp hrun)
    intro t ht
    obtain rfl := List.mem_singleton.mp ht
    exact .records hformat hne hfile hs
  cases format with
  | xlsx =>
      obtain ⟨bytes, archive, mid, hfile, harchive, hpackage⟩ :=
        Xlsx.run_loadFile (Logged.run_mapFault_eq_ok_iff.mp hread)
      obtain ⟨shared, outline, r, sheets, hreads⟩ := Xlsx.run_loadPackage hpackage
      exact fun s hs => .package hformat hfile harchive (hreads.sheetOf s hs)
  | csv => exact hrecords (by decide) hread
  | tsv => exact hrecords (by decide) hread

end SheetInspector
