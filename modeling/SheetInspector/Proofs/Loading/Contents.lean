import SheetInspector.Proofs.Command.Opened
import SheetInspector.Proofs.Comparison.Patch
import SheetInspector.Proofs.Sheet.Dense

set_option autoImplicit false

/-! # What a loaded sheet stores

Records and parts decode texts in many ways, and each of them ends in content that is definite: a
field that is blank stores nothing, a number that is not finite is kept as a text, and a formula
has its marker. So a sheet that is loaded can be compared: it does not differ from itself, and the
cells that are not blank are those that it stores (`definite_of_loaded`).
-/

namespace SheetInspector

/-! ## Definite sheets -/

/-- What holds of every sheet that is loaded. -/
structure Sheet.Definite (s : Sheet) : Prop where
  content : ∀ a c, s.content? a = some c → c.Definite
  position : ∀ a c, s.content? a = some c →
    1 ≤ a.row ∧ a.row ≤ maxRows ∧ 1 ≤ a.column ∧ a.column ≤ maxColumns
  /-- A comparison with itself has no changes. -/
  unchanged : ∃ c, Comparison.ofGrids s.grid s.grid = .ok c ∧ c.changes = []
  /-- There are as many descriptors that are not blank as cells that store something. -/
  filled : ∃ ds, s.grid.inspect = .ok ds ∧ (ds.filter fun d => !d.isBlank).length = s.cellCount

namespace Sheet

variable {s : Sheet}

theorem Sound.changes_self (h : s.Sound)
    (hcontent : ∀ a c, s.content? a = some c → c.Definite) :
    (Comparison.ofDescriptors s.descriptors s.descriptors).changes = [] := by
  refine List.eq_nil_iff_forall_not_mem.mpr fun x hx => ?_
  have hbetween := (h.mem_changes h).mp hx
  -- a descriptor only differs from itself where its value is no number
  rw [Change.between?_self] at hbetween
  · cases hbetween
  · intro d hd
    obtain ⟨c, hc, rfl, -⟩ := side_eq_some_iff.mp hd
    exact (hcontent _ c hc).value_ne_nan

theorem Sound.length_filled (h : s.Sound)
    (hcontent : ∀ a c, s.content? a = some c → c.Definite) :
    (s.descriptors.filter fun d => !d.isBlank).length = s.cellCount := by
  have hvisible : ∀ x ∈ s.cells, decide x.2.Visible = true := by
    intro x hx
    have hc : s.content? x.1 = some x.2 := (CellStore.mem_cells s.stored x.1 x.2).mp hx
    exact decide_eq_true (Content.visible_iff.mpr (hcontent x.1 x.2 hc).value_or_text)
  rw [h.filter_descriptors, List.length_map, List.filter_eq_self.mpr hvisible, cells, cellCount,
    CellStore.count_eq_length_cells]

theorem Sound.definite (h : s.Sound) (hcontent : ∀ a c, s.content? a = some c → c.Definite) :
    s.Definite where
  content := hcontent
  position := fun _ _ hc => h.holds_largest hc
  unchanged := ⟨_, s.ofGrids_grid s, h.changes_self hcontent⟩
  filled := ⟨_, s.inspect_grid, h.length_filled hcontent⟩

theorem definite_new (name : String) : (new name).Definite := by
  refine (sound_new name).definite fun a c hc => ?_
  rw [content?, new, CellStore.find?_empty] at hc
  cases hc

end Sheet

/-! ## Records -/

namespace Csv

variable {o : Options} {row : Nat} {field : String}

theorem Verbatim.definite {v : Value} (h : Verbatim field (some v)) : v.Definite := by
  cases h with
  | text _ => trivial

theorem Detected.definite {v : Value} (h : Detected field (some v)) : v.Definite := by
  cases h with
  | true _ => trivial
  | false _ => trivial
  | number _ hfinite => exact hfinite
  | text _ _ _ _ => trivial

/-- **What a field stores is definite**, whichever clause it falls under. -/
theorem Stores.definite {c : Option Content} (h : Stores o row field c) :
    ∀ x, c = some x → x.Definite := by
  have hliteral {v : Option Value} (hv : ∀ u, v = some u → u.Definite) :
      ∀ x, v.map Content.literal = some x → x.Definite := by
    intro x hx
    obtain ⟨u, hu, rfl⟩ := Option.map_eq_some_iff.mp hx
    exact hv u hu
  cases h with
  | name _ hv => exact hliteral fun u hu => (hu ▸ hv).definite
  | detected _ _ _ hv => exact hliteral fun u hu => (hu ▸ hv).definite
  | verbatim _ _ _ hv => exact hliteral fun u hu => (hu ▸ hv).definite
  | formula _ hfield =>
      intro x hx
      cases hx
      obtain ⟨-, c, rest, hlist⟩ := hfield
      refine ⟨by rw [hlist]; rfl, fun v hv => ?_⟩
      cases hv

theorem definite_sheetOfRecords {rs : List (Except RecordFault (List String))} {s : Sheet}
    (h : sheetOfRecords o rs = .ok s) : s.Definite := by
  refine (made_sheetOfRecords h).sound.definite fun a c hc => ?_
  obtain ⟨records, -, hplaced, rfl⟩ := sheetOfRecords_eq_ok h
  obtain ⟨field, -, hstores⟩ := exists_of_content hplaced hc
  exact hstores.definite c rfl

end Csv

/-! ## Packages -/

namespace Xlsx

theorem definite_readSheetPart {shared : Array String} {name : String} {d : Xml.Document}
    {s : Sheet} (h : readSheetPart shared name d = .ok s) : s.Definite :=
  (made_readSheetPart h).sound.definite fun _ _ hc => (storesCells_readSheetPart h).definite hc

theorem SheetOf.definite {p : Package} {s : Sheet} (h : SheetOf p s) : s.Definite := by
  cases h with
  | part _ _ hread => exact definite_readSheetPart hread
  | filler h =>
      subst h
      exact Sheet.definite_new _

end Xlsx

/-! ## Files -/

theorem Sheet.From.definite {storage : Storage} {o : LoadOptions} {path : String} {s : Sheet}
    (h : Sheet.From storage o path s) : s.Definite := by
  cases h with
  | records _ _ _ hread => exact Csv.definite_sheetOfRecords hread
  | package _ _ _ hsheet => exact hsheet.definite

/-- **What is stored in a sheet that is loaded is definite.** Whatever records or events a reader is
given, every literal of the sheet is there, every number of it is finite, also where it is the known
result of a formula, every formula has its marker, and every position lies within the limits. So the
sheet does not differ from itself, and its descriptors that are not blank are as many as its
cells. That goes for every sheet of every package and of every file. -/
theorem definite_of_loaded :
    (∀ (o : Csv.Options) (records : List (Except Csv.RecordFault (List String))) (s : Sheet),
      Csv.sheetOfRecords o records = .ok s → s.Definite) ∧
    (∀ (shared : Array String) (name : String) (d : Xml.Document) (s : Sheet),
      Xlsx.readSheetPart shared name d = .ok s → s.Definite) ∧
    (∀ (p : Xlsx.Package) (w : Workbook),
      (Xlsx.loadPackage p).result = .ok w → ∀ s ∈ w.sheets, s.Definite) ∧
    ∀ (storage : Storage) (o : LoadOptions) (path : String) (w : Workbook),
      (loadFile storage o path).result = .ok w → ∀ s ∈ w.sheets, s.Definite := by
  refine ⟨?records, ?parts, ?packages, ?files⟩
  case records => exact fun o records s => Csv.definite_sheetOfRecords
  case parts => exact fun shared name d s => Xlsx.definite_readSheetPart
  case packages =>
    intro p w h s hs
    obtain ⟨shared, outline, r, sheets, hreads⟩ := Xlsx.loadPackage_reads h
    exact (hreads.sheetOf s hs).definite
  case files =>
    intro storage o path w h s hs
    exact (from_of_loadFile h s hs).definite

/-- A number that is none, and a formula without a text whose result is infinite. -/
def infinitePart : Xml.Forest :=
  .element ⟨Xml.asciiName "row", []⟩
    (.element ⟨Xml.asciiName "c", []⟩
      (.element ⟨Xml.asciiName "v", []⟩ (.text (Xml.asciiName "nan") .nil) .nil)
      (.element ⟨Xml.asciiName "c", []⟩
        (.element ⟨Xml.asciiName "f", []⟩ (.text [] .nil)
          (.element ⟨Xml.asciiName "v", []⟩ (.text (Xml.asciiName "inf") .nil) .nil)) .nil)) .nil

theorem definite_of_infinitePart :
    (∃ s, Csv.sheetOfRecords .comma [.ok [""], .ok ["=", "inf", "==1", " "]] = .ok s ∧
      s.Definite) ∧
    (∃ s, Xlsx.readSheetPart #[] "A" infinitePart.document = .ok s ∧ s.Definite) ∧
    (∃ w, (Xlsx.loadPackage skippingPackage).result = .ok w ∧ ∀ s ∈ w.sheets, s.Definite) ∧
    ∃ w, (loadFile oneFile .plain "a.csv").result = .ok w ∧ ∀ s ∈ w.sheets, s.Definite := by
  obtain ⟨hrecords, hparts, hpackages, hfiles⟩ := definite_of_loaded
  have hsheet :
      (Csv.sheetOfRecords .comma [.ok [""], .ok ["=", "inf", "==1", " "]]).toOption.isSome := by
    decide +kernel
  have hpart : (Xlsx.readSheetPart #[] "A" infinitePart.document).toOption.isSome := by
    decide +kernel
  obtain ⟨s, hs⟩ := Option.isSome_iff_exists.mp hsheet
  obtain ⟨t, ht⟩ := Option.isSome_iff_exists.mp hpart
  rw [Xlsx.toOption_eq_some_iff] at hs ht
  obtain ⟨v, hv, -⟩ := loadPackage_skippingPackage
  obtain ⟨w, hw⟩ := loadFile_oneFile
  exact ⟨⟨s, hs, hrecords _ _ s hs⟩, ⟨t, ht, hparts _ _ _ t ht⟩, ⟨v, hv, hpackages _ v hv⟩,
    ⟨w, hw, hfiles _ _ _ w hw⟩⟩

end SheetInspector
