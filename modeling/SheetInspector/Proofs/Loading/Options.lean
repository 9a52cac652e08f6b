import SheetInspector.Proofs.Loading.Workbooks
import SheetInspector.Proofs.Text.Pieces

set_option autoImplicit false

/-! # What the options of loading change

Loading a file with a sheet to select is loading it without, and selecting the sheet afterwards
(`loadFile_eq_bind`): it fails as it does without, or the sheet is missing, or the workbook is the
same but for the active sheet (`Selects`). How a file is loaded without depends on its format
(`Loads`). An extension that is not known is reported before a missing file, whatever the options
are; the options for records matter for records only, and nothing of them changes but the delimiter,
which is the one that is asked for, or else the one of the format (`LoadOptions.Prepares`).
`options_of_loadFile` has all of this.
-/

namespace SheetInspector

/-! ## Options -/

namespace LoadOptions

/-- The same options with no sheet asked for. -/
def unselected (o : LoadOptions) : LoadOptions := { o with sheet := none }

/-- The same options with a sheet asked for. -/
def selecting (o : LoadOptions) (name : String) : LoadOptions := { o with sheet := some name }

/-- The same options with others for records. -/
def forRecords (o : LoadOptions) (csv : Csv.Options) (delimiter : Option UInt8) : LoadOptions :=
  { o with csv, delimiter }

/-- The delimiter of records in a format: the one that is asked for, or else the tabulator of its
format, or else that of the options for records. -/
def delimiterFor (o : LoadOptions) (format : FileFormat) : UInt8 :=
  o.delimiter.getD (if format = .tsv then 9 else o.csv.dialect.delimiter)

/-- Whether options for records are those of a format: the delimiter is the one of the format, and
all else is as it is asked for. -/
structure Prepares (o : LoadOptions) (format : FileFormat) (csv : Csv.Options) : Prop where
  delimiter : csv.dialect.delimiter = o.delimiterFor format
  quote : csv.dialect.quote = o.csv.dialect.quote
  hasHeader : csv.hasHeader = o.csv.hasHeader
  detectTypes : csv.detectTypes = o.csv.detectTypes
  detectFormulas : csv.detectFormulas = o.csv.detectFormulas
  sheetName : csv.sheetName = o.csv.sheetName

/-- **Of the options for records only the delimiter is changed.** -/
theorem prepares_csvFor (o : LoadOptions) (format : FileFormat) :
    o.Prepares format (o.csvFor format) := by
  unfold csvFor
  cases hdelimiter : o.delimiter with
  | some delimiter =>
      have hfor : o.delimiterFor format = delimiter := by rw [delimiterFor, hdelimiter]; rfl
      exact ⟨hfor.symm, rfl, rfl, rfl, rfl, rfl⟩
  | none =>
      have hfor : o.delimiterFor format
          = if format = .tsv then 9 else o.csv.dialect.delimiter := by
        rw [delimiterFor, hdelimiter]
        rfl
      by_cases hformat : format = .tsv
      · rw [if_pos hformat] at hfor ⊢
        exact ⟨hfor.symm, rfl, rfl, rfl, rfl, rfl⟩
      · rw [if_neg hformat] at hfor ⊢
        exact ⟨hfor.symm, rfl, rfl, rfl, rfl, rfl⟩

/-- There are no other options of a format. -/
theorem Prepares.eq {o : LoadOptions} {format : FileFormat} {csv : Csv.Options}
    (h : o.Prepares format csv) : csv = ⟨⟨o.delimiterFor format, o.csv.dialect.quote⟩,
      o.csv.hasHeader, o.csv.detectTypes, o.csv.detectFormulas, o.csv.sheetName⟩ := by
  rw [← h.delimiter, ← h.quote, ← h.hasHeader, ← h.detectTypes, ← h.detectFormulas, ← h.sheetName]

end LoadOptions

/-! ## Selecting a sheet -/

/-- How loading with a sheet to select relates to loading without. -/
inductive Selects (name : String) : Except LoadFault Workbook → Except LoadFault Workbook → Prop
  | fault (f : LoadFault) : Selects name (.error f) (.error f)
  | missing {w : Workbook} (h : name ∉ w.names) :
      Selects name (.ok w) (.error (.sheet (.sheetNotFound name)))
  /-- The active sheet is the only one with the name. -/
  | found {w : Workbook} {index : Nat}
      (h : ∀ i, i = index ↔ ∃ s, w.sheet? i = some s ∧ s.name = name) :
      Selects name (.ok w) (.ok (w.withActive index))

variable {storage : Storage} {o : LoadOptions} {path : String} {w : Workbook}

theorem selects_of_sound (h : w.Sound) (o : LoadOptions) (name : String) :
    Selects name (.ok w) ((o.selecting name).select w) := by
  show Selects name (.ok w) ((w.select name).mapError .sheet)
  rw [Workbook.select, Workbook.Update.result, Workbook.Update.on_select]
  cases hindex : w.indexOf? name with
  | none => exact .missing (Workbook.indexOf?_eq_none_iff.mp hindex)
  | some index =>
      refine .found fun i => ?_
      rw [← h.indexOf?_eq_some_iff, hindex, Option.some.injEq, eq_comm]

/-- **A sheet is selected after all else is done.** -/
theorem loadFile_eq_bind (storage : Storage) (o : LoadOptions) (path : String) :
    loadFile storage o path
      = loadFile storage o.unselected path >>= fun w => Logged.ofExcept (o.select w) := by
  cases hformat : FileFormat.ofPath? path with
  | none =>
      rw [loadFile_of_unsupported hformat, loadFile_of_unsupported hformat]
      rfl
  | some format =>
      cases hfile : (storage path).isFile with
      | false =>
          rw [loadFile_of_not_isFile hformat hfile, loadFile_of_not_isFile hformat hfile]
          rfl
      | true =>
          rw [loadFile_of_isFile hformat hfile, loadFile_of_isFile hformat hfile]
          simp only [bind_assoc]
          rfl

/-- Loading with a sheet to select logs the same, and ends in the sheet being selected. -/
theorem outcome_loadFile (storage : Storage) (o : LoadOptions) (path : String) :
    (loadFile storage o path).outcome
      = ((loadFile storage o.unselected path).result.bind o.select,
          (loadFile storage o.unselected path).outcome.2) := by
  rw [loadFile_eq_bind, Logged.outcome_bind_ofExcept]

theorem records_loadFile (storage : Storage) (o : LoadOptions) (path name : String) :
    (loadFile storage (o.selecting name) path).outcome.2
      = (loadFile storage o.unselected path).outcome.2 := by
  rw [outcome_loadFile]
  rfl

/-- **Selecting a sheet changes what is loaded in the active sheet only**, and fails only where the
sheet is missing. -/
theorem selects_of_loadFile (storage : Storage) (o : LoadOptions) (path name : String) :
    Selects name (loadFile storage o.unselected path).result
      (loadFile storage (o.selecting name) path).result := by
  have houtcome := congrArg Prod.fst (outcome_loadFile storage (o.selecting name) path)
  rw [Logged.result, Logged.result, houtcome]
  show Selects name (loadFile storage o.unselected path).result
    ((loadFile storage o.unselected path).result.bind (o.selecting name).select)
  cases hresult : (loadFile storage o.unselected path).result with
  | error f => exact .fault f
  | ok w => exact selects_of_sound (usable_of_result hresult).sound o name

/-! ## What is loaded -/

/-- What a file is loaded as where no sheet is asked for. -/
inductive Loads (storage : Storage) (o : LoadOptions) (path : String) :
    Except LoadFault Workbook → Prop
  /-- The extension is not known, whatever there is at the path. -/
  | unsupported (hformat : FileFormat.ofPath? path = none) :
      Loads storage o path (.error (.unsupported path))
  | notFound {format : FileFormat} (hformat : FileFormat.ofPath? path = some format)
      (hfile : (storage path).isFile = false) : Loads storage o path (.error (.notFound path))
  /-- Records are read with the options of their format. -/
  | records {format : FileFormat} {csv : Csv.Options}
      (hformat : FileFormat.ofPath? path = some format) (hrecords : format ≠ .xlsx)
      (hfile : (storage path).isFile = true) (hcsv : o.Prepares format csv) :
      Loads storage o path ((Csv.loadFile storage csv path).result.mapError .csv)
  | package (hformat : FileFormat.ofPath? path = some .xlsx)
      (hfile : (storage path).isFile = true) :
      Loads storage o path ((Xlsx.loadFile storage path).result.mapError .xlsx)

/-- What a file that is there is loaded as is what is read in its format. -/
theorem result_loadFile_unselected {format : FileFormat}
    (hformat : FileFormat.ofPath? path = some format) (hfile : (storage path).isFile = true) :
    (loadFile storage o.unselected path).result = (readFormat storage o path format).result := by
  have hread : (readFormat storage o path format >>= fun w => pure w)
      = readFormat storage o path format := bind_pure _
  have hsteady := steady_readFormat storage o path format
  rw [loadFile_of_isFile hformat hfile,
    ← hsteady.result_debug_bind toolName ("loading " ++ path ++ " as " ++ format.name)]
  exact congrArg (fun x => (Logged.debug toolName _ >>= fun _ => x).result) hread

/-- **How a file is loaded depends on its format**, once it has one and is there. -/
theorem loads_of_loadFile (storage : Storage) (o : LoadOptions) (path : String) :
    Loads storage o path (loadFile storage o.unselected path).result := by
  cases hformat : FileFormat.ofPath? path with
  | none =>
      rw [loadFile_of_unsupported hformat]
      exact .unsupported hformat
  | some format =>
      cases hfile : (storage path).isFile with
      | false =>
          rw [loadFile_of_not_isFile hformat hfile]
          exact .notFound hformat hfile
      | true =>
          rw [result_loadFile_unselected hformat hfile]
          have hrecords (hne : format ≠ .xlsx) : Loads storage o path
              ((Csv.loadFile storage (o.csvFor format) path).mapFault .csv).result := by
            rw [Logged.result_mapFault]
            exact .records hformat hne hfile (o.prepares_csvFor format)
          cases format with
          | xlsx =>
              rw [readFormat, Logged.result_mapFault]
              exact .package hformat hfile
          | csv => exact hrecords (by decide)
          | tsv => exact hrecords (by decide)

/-- How a file of records that is there is loaded. -/
theorem Loads.eq_of_records {x : Except LoadFault Workbook} (h : Loads storage o path x)
    {format : FileFormat} (hformat : FileFormat.ofPath? path = some format)
    (hrecords : format ≠ .xlsx) (hfile : (storage path).isFile = true) :
    ∃ csv, o.Prepares format csv ∧ x = (Csv.loadFile storage csv path).result.mapError .csv := by
  cases h with
  | unsupported hformat' => cases hformat.symm.trans hformat'
  | notFound _ hfile' => cases hfile.symm.trans hfile'
  | records hformat' _ _ hcsv =>
      cases hformat.symm.trans hformat'
      exact ⟨_, hcsv, rfl⟩
  | package hformat' =>
      cases hformat.symm.trans hformat'
      exact absurd rfl hrecords

/-- The options for records do not matter for packages. -/
theorem loadFile_forRecords (hformat : FileFormat.ofPath? path = some .xlsx) (csv : Csv.Options)
    (delimiter : Option UInt8) :
    loadFile storage (o.forRecords csv delimiter) path = loadFile storage o path := by
  cases hfile : (storage path).isFile with
  | false => rw [loadFile_of_not_isFile hformat hfile, loadFile_of_not_isFile hformat hfile]
  | true =>
      rw [loadFile_of_isFile hformat hfile, loadFile_of_isFile hformat hfile]
      rfl

/-! ## Reports about the path -/

/-- A fault about the path itself: its extension is not known, or there is no file. -/
inductive PathFault (storage : Storage) (path : String) : LoadFault → Prop
  | unsupported (hformat : FileFormat.ofPath? path = none) :
      PathFault storage path (.unsupported path)
  | notFound {format : FileFormat} (hformat : FileFormat.ofPath? path = some format)
      (hfile : (storage path).isFile = false) : PathFault storage path (.notFound path)

/-- Whether a fault is about the path, and not about what the file holds. -/
def LoadFault.IsAboutPath : LoadFault → Prop
  | .unsupported _ => True
  | .notFound _ => True
  | _ => False

theorem not_isAboutPath_of_select {f : LoadFault} (h : o.select w = .error f) :
    ¬ f.IsAboutPath := by
  unfold LoadOptions.select at h
  cases hsheet : o.sheet with
  | none =>
      rw [hsheet] at h
      cases h
  | some name =>
      rw [hsheet] at h
      cases hselect : w.select name with
      | error fault =>
          simp only [hselect, Except.mapError, Except.error.injEq] at h
          subst h
          exact id
      | ok w' => simp [hselect, Except.mapError] at h

/-- **What is reported about a path depends on the path and what is there**, on no option: first
that its extension is not known, then that there is no file. -/
theorem pathFault_iff {f : LoadFault} (hf : f.IsAboutPath) :
    (loadFile storage o path).result = .error f ↔ PathFault storage path f := by
  constructor
  · intro h
    have hresult : (loadFile storage o path).result
        = (loadFile storage o.unselected path).result.bind o.select :=
      congrArg Prod.fst (outcome_loadFile storage o path)
    rw [hresult] at h
    -- neither a reader nor selecting a sheet reports anything about the path
    have hread {ε : Type} {x : Except ε Workbook} {tag : ε → LoadFault}
        (htag : ∀ e, ¬ (tag e).IsAboutPath) (hx : (x.mapError tag).bind o.select = .error f) :
        PathFault storage path f := by
      cases x with
      | error e =>
          cases hx
          exact absurd hf (htag e)
      | ok w => exact absurd hf (not_isAboutPath_of_select hx)
    have hloads := loads_of_loadFile storage o path
    generalize (loadFile storage o.unselected path).result = x at h hloads
    cases hloads with
    | unsupported hformat =>
        cases h
        exact .unsupported hformat
    | notFound hformat hfile =>
        cases h
        exact .notFound hformat hfile
    | records => exact hread (fun _ => id) h
    | package => exact hread (fun _ => id) h
  · intro h
    cases h with
    | unsupported hformat =>
        rw [loadFile_of_unsupported hformat]
        rfl
    | notFound hformat hfile =>
        rw [loadFile_of_not_isFile hformat hfile]
        rfl

/-- **Options change only what they name.** With a sheet to select, a file is loaded as without, and
then the sheet is made active or found to be missing; nothing else is logged. Without one, records
are read with the options for records and the delimiter that has precedence, and packages with no
options at all. What is reported about the path has nothing to do with the options, and an extension
that is not known comes before everything else. -/
theorem options_of_loadFile (storage : Storage) (o : LoadOptions) (path : String) :
    Loads storage o path (loadFile storage o.unselected path).result ∧
      (∀ name, Selects name (loadFile storage o.unselected path).result
          (loadFile storage (o.selecting name) path).result) ∧
      (∀ name, (loadFile storage (o.selecting name) path).outcome.2
          = (loadFile storage o.unselected path).outcome.2) ∧
      (FileFormat.ofPath? path = some .xlsx → ∀ csv delimiter,
        loadFile storage (o.forRecords csv delimiter) path = loadFile storage o path) ∧
      ∀ f : LoadFault, f.IsAboutPath →
        ((loadFile storage o path).result = .error f ↔ PathFault storage path f) :=
  ⟨loads_of_loadFile storage o path, selects_of_loadFile storage o path,
    records_loadFile storage o path, loadFile_forRecords, fun _ => pathFault_iff⟩

/-- A place where every path leads to the same file. -/
def sameFile : Storage := fun _ => .file (Xml.asciiName ",=1\n")

theorem ofPath?_package : FileFormat.ofPath? "a.xlsx" = some .xlsx := by
  have hparts : "a.xlsx".splitOn "/" = ["a.xlsx"] :=
    Text.splitOn_of_not_mem '/' "a.xlsx".toList (by decide)
  rw [FileFormat.ofPath?, Path.extension?, Path.fileName?, Path.parts, hparts]
  decide +kernel

theorem ofPath?_tabulated : FileFormat.ofPath? "a.tsv" = some .tsv := by
  have hparts : "a.tsv".splitOn "/" = ["a.tsv"] :=
    Text.splitOn_of_not_mem '/' "a.tsv".toList (by decide)
  rw [FileFormat.ofPath?, Path.extension?, Path.fileName?, Path.parts, hparts]
  decide +kernel

/-- A comma divides the record of the file only where it is asked for, as the file is one of tables
with tabulators. A file that is no package is reported alike whatever the delimiter of records is,
and not as missing. -/
theorem options_of_loadFile_sameFile :
    (loadFile sameFile .plain "a.tsv").result.toOption.map (fun w => w.sheets.map Sheet.cells)
        = some [[(⟨1, 1⟩, .literal (.text ",=1"))]] ∧
      ((loadFile sameFile (LoadOptions.plain.forRecords .comma (some 44)) "a.tsv").result.toOption
        |>.map fun w => w.sheets.map Sheet.cells) = some [[(⟨1, 2⟩, .literal (.text "=1"))]] ∧
      loadFile sameFile (LoadOptions.plain.forRecords .tab (some 59)) "a.xlsx"
        = loadFile sameFile .plain "a.xlsx" ∧
      (loadFile sameFile .plain "a.xlsx").result ≠ .error (.notFound "a.xlsx") := by
  refine ⟨?_, ?_, ?_⟩
  · obtain ⟨hloads, -⟩ := options_of_loadFile sameFile .plain "a.tsv"
    obtain ⟨csv, hcsv, hresult⟩ := hloads.eq_of_records ofPath?_tabulated (by decide) rfl
    have hload : loadFile sameFile .plain "a.tsv"
        = loadFile sameFile LoadOptions.plain.unselected "a.tsv" := rfl
    rw [hload, hresult, hcsv.eq]
    decide +kernel
  · obtain ⟨hloads, -⟩ :=
      options_of_loadFile sameFile (LoadOptions.plain.forRecords .comma (some 44)) "a.tsv"
    obtain ⟨csv, hcsv, hresult⟩ := hloads.eq_of_records ofPath?_tabulated (by decide) rfl
    have hload : loadFile sameFile (LoadOptions.plain.forRecords .comma (some 44)) "a.tsv" =
        loadFile sameFile (LoadOptions.plain.forRecords .comma (some 44)).unselected "a.tsv" := rfl
    rw [hload, hresult, hcsv.eq]
    decide +kernel
  · obtain ⟨-, -, -, hpackage, hpath⟩ := options_of_loadFile sameFile .plain "a.xlsx"
    refine ⟨hpackage ofPath?_package .tab (some 59), fun h => ?_⟩
    cases (hpath (.notFound "a.xlsx") trivial).mp h with
    | notFound _ hfile => exact Bool.noConfusion hfile

end SheetInspector
