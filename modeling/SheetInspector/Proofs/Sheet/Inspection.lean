import SheetInspector.Proofs.Comparison.Changes
import SheetInspector.Proofs.Grid.Walk
import SheetInspector.Proofs.Sheet.Edit

set_option autoImplicit false

/-! # Inspecting a sheet

Inspecting a sheet always succeeds, and so do a preview, the names of its columns and a comparison
with another: every address of the extent has a cell. What a comparison
makes of the descriptors follows from the content alone. The side of a sound sheet at an address
is the description of what is stored there, unless that is blank, and the extent of the
descriptors is the extent of the sheet.
-/

namespace SheetInspector.Sheet

/-- The description of the cell at an address. -/
def descriptor (s : Sheet) (a : Address) : Descriptor :=
  Descriptor.of a (((s.content? a).map Content.cell).getD .blank)

/-- The descriptions of all cells of the extent. -/
def descriptors (s : Sheet) : List Descriptor := s.extent.places.map s.descriptor

/-- The description of what is stored at an address, if that has a value or a formula. -/
def side (s : Sheet) (a : Address) : Option Descriptor :=
  ((s.content? a).map fun c => Descriptor.of a c.cell).filter fun d =>
    d.value ≠ .null ∨ d.formula ≠ none

theorem extent_grid (s : Sheet) : s.grid.extent = s.extent := rfl

theorem read_grid {s : Sheet} {a : Address} (h : s.extent.Holds a) :
    s.grid.read a = .ok (((s.content? a).map Content.cell).getD .blank) :=
  cell_of_holds h

/-- No read inside the extent fails. -/
theorem fault?_grid {s : Sheet} {as : List Address} (h : ∀ a ∈ as, s.extent.Holds a) :
    s.grid.fault? as = none :=
  Grid.fault?_eq_none_iff.mpr fun a ha => ⟨_, read_grid (h a ha)⟩

/-- The description of a cell of the extent is that of what the grid reads there. -/
theorem descriptor_eq {s : Sheet} {a : Address} (h : s.extent.Holds a) :
    Descriptor.of a (s.grid.cellAt a) = s.descriptor a := by
  rw [Grid.cellAt_eq (read_grid h), descriptor]

theorem value_cellAt {s : Sheet} {a : Address} (h : s.extent.Holds a) :
    (s.grid.cellAt a).value = (s.descriptor a).value :=
  congrArg Descriptor.value (descriptor_eq h)

/-- **Inspecting a sheet succeeds.** -/
theorem inspect_grid (s : Sheet) : s.grid.inspect = .ok s.descriptors := by
  have hholds (a : Address) (ha : a ∈ s.extent.places) : s.extent.Holds a := Extent.mem_places.mp ha
  rw [s.grid.scans_inspect.plain, extent_grid, Grid.ending_of_none (fault?_grid hholds),
    descriptors]
  exact congrArg Except.ok (List.map_congr_left fun a ha => descriptor_eq (hholds a ha))

/-- The values of the first rows. -/
def firstRows (s : Sheet) (limit : Nat) : List (List Value) :=
  (s.extent.top limit).table fun a => (s.descriptor a).value

/-- **Previewing a sheet succeeds**, with any number of rows. -/
theorem preview_grid (s : Sheet) (limit : Nat) : s.grid.preview limit = .ok (s.firstRows limit) := by
  have hholds (a : Address) (ha : (s.extent.top limit).Holds a) : s.extent.Holds a := ha.of_top
  have hnone : s.grid.fault? (s.extent.top limit).places = none :=
    fault?_grid fun a ha => hholds a (Extent.mem_places.mp ha)
  rw [(s.grid.scans_preview limit).plain, extent_grid, Grid.ending_of_none hnone, firstRows]
  exact congrArg Except.ok (Extent.table_congr fun a ha => value_cellAt (hholds a ha))

/-- The names of the columns. -/
def columnNames (s : Sheet) : List String :=
  (s.extent.top 1).places.map fun a => Grid.headerOf a.column (s.descriptor a).value

/-- **Naming the columns of a sheet succeeds.** -/
theorem headers_grid (s : Sheet) : s.grid.headers = .ok s.columnNames := by
  have hholds (a : Address) (ha : a ∈ (s.extent.top 1).places) : s.extent.Holds a :=
    (Extent.mem_places.mp ha).of_top
  rw [s.grid.scans_headers.plain, extent_grid, Grid.ending_of_none (fault?_grid hholds),
    columnNames]
  refine congrArg Except.ok (List.map_congr_left fun a ha => ?_)
  rw [value_cellAt (hholds a ha)]

/-- **Comparing two sheets succeeds.** -/
theorem ofGrids_grid (a b : Sheet) :
    Comparison.ofGrids a.grid b.grid
      = .ok (Comparison.ofDescriptors a.descriptors b.descriptors) := by
  rw [Comparison.ofGrids, inspect_grid, inspect_grid]
  rfl

/-- Whether two sheets hold the same content in the same extent, so that they are inspected
alike. -/
structure Same (s t : Sheet) : Prop where
  content : ∀ a, s.content? a = t.content? a
  cells : s.cells = t.cells
  extent : s.extent = t.extent
  inspect : s.grid.inspect = t.grid.inspect

/-- What a sheet lists is determined by what it holds at each address. -/
theorem cells_eq_of_content {s t : Sheet} (h : ∀ a, s.content? a = t.content? a) :
    s.cells = t.cells := by
  have hs := CellStore.cells_ordered s.stored
  have ht := CellStore.cells_ordered t.stored
  have hperm : s.cells.Perm t.cells := by
    refine (List.perm_ext_iff_of_nodup hs.nodup.of_map ht.nodup.of_map).mpr fun x => ?_
    show x ∈ s.stored.cells ↔ x ∈ t.stored.cells
    rw [CellStore.mem_cells s.stored x.1 x.2, CellStore.mem_cells t.stored x.1 x.2]
    exact iff_of_eq (congrArg (· = some x.2) (h x.1))
  refine hperm.eq_of_pairwise (fun x y _ _ hxy hyx => ?_) (List.pairwise_map.mp hs)
    (List.pairwise_map.mp ht)
  -- no two addresses are in order both ways
  rw [Address.compare_swap, hyx] at hxy
  cases hxy

/-- **Content and extent are all there is to see of a sheet.** -/
theorem same_of_content {s t : Sheet} (hcontent : ∀ a, s.content? a = t.content? a)
    (hextent : s.extent = t.extent) : s.Same t where
  content := hcontent
  cells := cells_eq_of_content hcontent
  extent := hextent
  inspect := by
    have hdescriptor : s.descriptor = t.descriptor := by
      funext a
      rw [descriptor, descriptor, hcontent a]
    rw [inspect_grid, inspect_grid, descriptors, descriptors, hextent, hdescriptor]

theorem map_address_descriptors (s : Sheet) :
    s.descriptors.map Descriptor.address = s.extent.places := by
  rw [descriptors, List.map_map]
  exact List.map_id _

theorem side_eq_some_iff {s : Sheet} {a : Address} {d : Descriptor} :
    s.side a = some d ↔
      ∃ c, s.content? a = some c ∧ Descriptor.of a c.cell = d ∧ d.isBlank = false := by
  rw [side, Option.filter_eq_some_iff, Option.map_eq_some_iff, decide_eq_true_eq,
    ← d.isBlank_eq_false_iff]
  constructor
  · rintro ⟨⟨c, hc, hd⟩, hblank⟩
    exact ⟨c, hc, hd, hblank⟩
  · rintro ⟨c, hc, hd, hblank⟩
    exact ⟨⟨c, hc, hd⟩, hblank⟩

/-- **The sides of a sheet are what it stores**, where that is not blank. -/
theorem Sound.side_descriptors {s : Sheet} (h : s.Sound) :
    Comparison.side s.descriptors = s.side := by
  have hnodup : (s.descriptors.map Descriptor.address).Nodup := by
    rw [map_address_descriptors]
    exact (Extent.places_ordered s.extent).nodup
  funext a
  ext d
  rw [Comparison.side_eq_some_iff hnodup, side_eq_some_iff]
  constructor
  · rintro ⟨hd, rfl, hblank⟩
    obtain ⟨b, -, rfl⟩ := List.mem_map.mp hd
    -- what is described here is not blank, so something is stored here
    cases hc : s.content? b with
    | none =>
        simp only [descriptor, hc] at hblank
        cases hblank
    | some c =>
        refine ⟨c, hc, ?_, hblank⟩
        rw [descriptor, hc]
        rfl
  · rintro ⟨c, hc, rfl, hblank⟩
    refine ⟨List.mem_map.mpr ⟨a, Extent.mem_places.mpr (h.holds_of_content a c hc), ?_⟩, rfl, hblank⟩
    rw [descriptor, hc]
    rfl

/-- **The extent of the descriptors is that of the sheet.** -/
theorem Sound.extentOf_descriptors {s : Sheet} (h : s.Sound) :
    Comparison.extentOf s.descriptors = s.extent := by
  rw [Comparison.extentOf, ← List.foldl_map (f := Descriptor.address) (g := Extent.cover),
    map_address_descriptors, Extent.foldl_cover_places h.rows_eq_zero_iff]

end SheetInspector.Sheet
