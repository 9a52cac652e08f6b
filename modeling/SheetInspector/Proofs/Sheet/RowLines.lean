import Mathlib.Data.List.TakeWhile
import SheetInspector.Proofs.Sheet.Inspection

set_option autoImplicit false

/-! # Cutting descriptors into lines

Descriptors are printed line by line. Any lines that a list of descriptors can be printed in are a
division of it (`Cuts`): nothing is lost or moved, no line is empty, and a line has the row of all
its cells. Of these divisions `ofDescriptors` makes the coarsest, whatever the order of the list:
lines of one row never stand side by side, and all other divisions only divide its lines further
(`Cuts.refines`). A walk through the list by positions makes the same lines, one in each round, and
never leaves the list (`walk_eq`). What inspecting a grid gives is in the order of the rows, so
there is one line for each row of the grid (`lines_of_descriptors`).
-/

namespace SheetInspector.RowLine

/-- Whether lines are what a list of descriptors is cut into. -/
structure Cuts (lines : List RowLine) (ds : List Descriptor) : Prop where
  flatten : (lines.map cells).flatten = ds
  ne_nil : ∀ line ∈ lines, line.cells ≠ []
  row_eq : ∀ line ∈ lines, ∀ d ∈ line.cells, d.address.row = line.row

/-- Whether no two lines of one row stand side by side. -/
def Apart (lines : List RowLine) : Prop := lines.IsChain fun line next => line.row ≠ next.row

/-- Whether the lines `fine` cut up each of the lines `coarse`, in their order. -/
def Refines (fine coarse : List RowLine) : Prop :=
  ∃ groups : List (List RowLine), groups.flatten = fine ∧
    List.Forall₂ (fun group line => Cuts group line.cells) groups coarse

/-! ## Where a line ends -/

variable {lines : List RowLine} {ds : List Descriptor}

/-- Cells of one row in front of a cell of another row are cut off there. -/
theorem span_of_row {row : Nat} {front : List Descriptor}
    (hfront : ∀ d ∈ front, d.address.row = row) (hnext : ∀ d ∈ ds.head?, d.address.row ≠ row) :
    (front ++ ds).takeWhile (·.address.row = row) = front ∧
      (front ++ ds).dropWhile (·.address.row = row) = ds := by
  have hall : ∀ d ∈ front, decide (d.address.row = row) = true := by simpa using hfront
  rw [List.takeWhile_append_of_pos hall, List.dropWhile_append_of_pos hall]
  cases ds with
  | nil => simp
  | cons d ds =>
      have hd : d.address.row ≠ row := hnext d rfl
      simp [hd]

/-- The first line of a list is made of the cells of its row that the list begins with. -/
theorem ofDescriptors_append {row : Nat} {front : List Descriptor} (hne : front ≠ [])
    (hfront : ∀ d ∈ front, d.address.row = row) (hnext : ∀ d ∈ ds.head?, d.address.row ≠ row) :
    ofDescriptors (front ++ ds) = ⟨row, front⟩ :: ofDescriptors ds := by
  cases front with
  | nil => exact absurd rfl hne
  | cons d front =>
      obtain ⟨hd, hrest⟩ := List.forall_mem_cons.mp hfront
      obtain ⟨htake, hdrop⟩ := span_of_row hrest hnext
      rw [List.cons_append, ofDescriptors, hd, htake, hdrop]

/-- Lines that cut up a list begin with the cell that the list begins with. -/
theorem Cuts.head? (h : Cuts lines ds) :
    ds.head?.map (·.address.row) = lines.head?.map RowLine.row := by
  have hflatten := h.flatten
  cases lines with
  | nil => simp [← hflatten]
  | cons line lines =>
      have hrow := h.row_eq line List.mem_cons_self
      cases hcells : line.cells with
      | nil => exact absurd hcells (h.ne_nil line List.mem_cons_self)
      | cons d cells =>
          rw [hcells] at hrow
          simp [← hflatten, hcells, hrow d List.mem_cons_self]

theorem Cuts.row_ne (h : Cuts lines ds) {row : Nat}
    (hlines : ∀ line ∈ lines.head?, line.row ≠ row) : ∀ d ∈ ds.head?, d.address.row ≠ row := by
  intro d hd
  have hhead := h.head?
  rw [hd, Option.map_some] at hhead
  obtain ⟨line, hline, hrow⟩ := Option.map_eq_some_iff.mp hhead.symm
  rw [← hrow]
  exact hlines line hline

/-! ## The lines of a list -/

theorem cuts_nil : Cuts [] [] where
  flatten := rfl
  ne_nil := by simp
  row_eq := by simp

theorem Cuts.cons {line : RowLine} (hne : line.cells ≠ [])
    (hrow : ∀ d ∈ line.cells, d.address.row = line.row) (h : Cuts lines ds) :
    Cuts (line :: lines) (line.cells ++ ds) where
  flatten := by rw [List.map_cons, List.flatten_cons, h.flatten]
  ne_nil := List.forall_mem_cons.mpr ⟨hne, h.ne_nil⟩
  row_eq := List.forall_mem_cons.mpr ⟨hrow, h.row_eq⟩

/-- Some of the lines that a list is cut into cut up what stands in them. -/
theorem Cuts.of_subset (h : Cuts lines ds) (chosen : List RowLine) (hchosen : chosen ⊆ lines) :
    Cuts chosen (chosen.map cells).flatten where
  flatten := rfl
  ne_nil := fun line hline => h.ne_nil line (hchosen hline)
  row_eq := fun line hline => h.row_eq line (hchosen hline)

/-- **A list is cut into its lines.** -/
theorem cuts_ofDescriptors (ds : List Descriptor) : Cuts (ofDescriptors ds) ds := by
  fun_induction ofDescriptors ds with
  | case1 => exact cuts_nil
  | case2 d rest ih =>
      have hrow : ∀ e ∈ d :: rest.takeWhile (·.address.row = d.address.row),
          e.address.row = d.address.row := by
        intro e he
        rcases List.mem_cons.mp he with rfl | he
        · rfl
        · simpa using List.mem_takeWhile_imp he
      set line : RowLine := ⟨d.address.row, d :: rest.takeWhile (·.address.row = d.address.row)⟩
      have hcuts : Cuts (line :: _) _ := ih.cons (List.cons_ne_nil _ _) hrow
      rw [List.cons_append, List.takeWhile_append_dropWhile] at hcuts
      exact hcuts

/-- **Neighbouring lines are of different rows.** -/
theorem apart_ofDescriptors (ds : List Descriptor) : Apart (ofDescriptors ds) := by
  fun_induction ofDescriptors ds with
  | case1 => exact List.isChain_nil
  | case2 d rest ih =>
      refine List.isChain_cons.mpr ⟨?_, ih⟩
      -- the next line begins with the first cell that is not of the row
      intro line hline
      have hhead := (cuts_ofDescriptors (rest.dropWhile (·.address.row = d.address.row))).head?
      rw [hline, Option.map_some] at hhead
      obtain ⟨e, he, hrow⟩ := Option.map_eq_some_iff.mp hhead
      have hnot :=
        List.head?_dropWhile_not (fun e : Descriptor => e.address.row = d.address.row) rest
      rw [he] at hnot
      have hne : e.address.row ≠ d.address.row := by simpa using hnot
      show d.address.row ≠ line.row
      omega

/-- Every line takes up a descriptor at least. -/
theorem length_ofDescriptors_le (ds : List Descriptor) : (ofDescriptors ds).length ≤ ds.length := by
  fun_induction ofDescriptors ds with
  | case1 => simp
  | case2 d rest ih =>
      have hle := (List.dropWhile_sublist (l := rest) (·.address.row = d.address.row)).length_le
      simp only [List.length_cons]
      omega

/-- **There is no other way to cut a list into lines** of which neighbours have different rows. -/
theorem Cuts.eq_ofDescriptors (h : Cuts lines ds) (hapart : Apart lines) :
    lines = ofDescriptors ds := by
  induction lines generalizing ds with
  | nil =>
      obtain rfl : [] = ds := h.flatten
      rw [ofDescriptors]
  | cons line lines ih =>
      obtain ⟨hnext, hrest⟩ := List.isChain_cons.mp hapart
      have hne := h.ne_nil line List.mem_cons_self
      have hrow := h.row_eq line List.mem_cons_self
      have htail := h.of_subset lines (List.subset_cons_self line lines)
      have hahead := htail.row_ne fun next hmem => (hnext next hmem).symm
      have hds : ds = line.cells ++ (lines.map cells).flatten := h.flatten.symm
      rw [hds, ofDescriptors_append hne hrow hahead, ← ih htail hrest]

/-- **Any lines that a list is cut into cut up its lines**: those of the first row make up the first
line, and so on. -/
theorem Cuts.refines (h : Cuts lines ds) : Refines lines (ofDescriptors ds) := by
  induction ds using ofDescriptors.induct generalizing lines with
  | case1 =>
      cases lines with
      | nil =>
          rw [ofDescriptors]
          exact ⟨[], rfl, .nil⟩
      | cons line lines =>
          have hcells : line.cells = [] := (List.append_eq_nil_iff.mp h.flatten).1
          exact absurd hcells (h.ne_nil line List.mem_cons_self)
  | case2 d rest ih =>
      set row := d.address.row with hrow
      set group := lines.takeWhile (·.row = row) with hgroup
      set others := lines.dropWhile (·.row = row) with hothers
      have hlines : group ++ others = lines := List.takeWhile_append_dropWhile
      have hcuts := h.of_subset group (List.takeWhile_subset _)
      have hcuts' := h.of_subset others (List.dropWhile_subset _)
      have hds : (group.map cells).flatten ++ (others.map cells).flatten = d :: rest := by
        rw [← h.flatten, ← hlines, List.map_append, List.flatten_append]
      -- the first line ends where the first line of another row begins
      have hfront : ∀ e ∈ (group.map cells).flatten, e.address.row = row := by
        intro e he
        obtain ⟨_, hmem, hcell⟩ := List.mem_flatten.mp he
        obtain ⟨line, hline, rfl⟩ := List.mem_map.mp hmem
        have hsame : line.row = row := by simpa using List.mem_takeWhile_imp hline
        rw [hcuts.row_eq line hline e hcell, hsame]
      have hnext : ∀ e ∈ ((others.map cells).flatten).head?, e.address.row ≠ row := by
        refine hcuts'.row_ne fun line hline => ?_
        have hnot := List.head?_dropWhile_not (fun line : RowLine => line.row = row) lines
        rw [← hothers, hline] at hnot
        simpa using hnot
      obtain ⟨htake, hdrop⟩ := span_of_row hfront hnext
      rw [hds] at htake hdrop
      simp only [List.takeWhile_cons, List.dropWhile_cons, ← hrow, decide_true, if_true]
        at htake hdrop
      rw [← hdrop] at hcuts'
      rw [← htake] at hcuts
      obtain ⟨groups, hgroups, hall⟩ := ih hcuts'
      rw [ofDescriptors]
      exact ⟨group :: groups, by rw [List.flatten_cons, hgroups, hlines], .cons hcuts hall⟩

/-! ## The walk by positions -/

/-- The part of a list between two positions, if there is one. -/
def part? (ds : List Descriptor) (start stop : Nat) : Option (List Descriptor) :=
  if start ≤ stop ∧ stop ≤ ds.length then some ((ds.drop start).take (stop - start)) else none

/-- The line at a position: the cell there says which row the line is of, and the line goes on as
far as the cells behind it are of that row. There is none if a position or a part is asked for that
the list does not have. -/
def lineAt? (ds : List Descriptor) (start : Nat) : Option RowLine := do
  let d ← ds[start]?
  let rest ← part? ds start ds.length
  let cells ← part? ds start (start + (rest.takeWhile (·.address.row = d.address.row)).length)
  return ⟨d.address.row, cells⟩

/-- The lines from a position on, one in each round. There is no result if the rounds do not suffice
or there is no line where one is looked for. -/
def walk (ds : List Descriptor) : (rounds start : Nat) → Option (List RowLine)
  | 0, start => if start < ds.length then none else some []
  | rounds + 1, start =>
    if start < ds.length then do
      let line ← lineAt? ds start
      let lines ← walk ds rounds (start + line.cells.length)
      return line :: lines
    else some []

/-- The end of a list is the part from a position to its last one. -/
theorem part?_length {start : Nat} (h : start ≤ ds.length) :
    part? ds start ds.length = some (ds.drop start) := by
  rw [part?, if_pos ⟨h, le_rfl⟩, List.take_of_length_le (by simp)]

/-- The part taken up by what the end of a list begins with. -/
theorem part?_append {start : Nat} {front rest : List Descriptor} (hle : start ≤ ds.length)
    (h : ds.drop start = front ++ rest) : part? ds start (start + front.length) = some front := by
  have hlength := congrArg List.length h
  rw [List.length_drop, List.length_append] at hlength
  rw [part?, if_pos (by omega), Nat.add_sub_cancel_left, h, List.take_left]

/-- At every position of a list there is the first of the lines from there on. -/
theorem lineAt?_eq {start : Nat} (h : start < ds.length) :
    ∃ line, lineAt? ds start = some line ∧
      ofDescriptors (ds.drop start)
        = line :: ofDescriptors (ds.drop (start + line.cells.length)) := by
  set d := ds[start] with hd
  set rest := ds.drop (start + 1)
  have hdrop : ds.drop start = d :: rest := List.drop_eq_getElem_cons h
  set cells := d :: rest.takeWhile (·.address.row = d.address.row) with hcells
  set others := rest.dropWhile (·.address.row = d.address.row) with hothers
  have hsplit : ds.drop start = cells ++ others := by
    rw [hdrop, hcells, List.cons_append, List.takeWhile_append_dropWhile]
  have htake : (ds.drop start).takeWhile (·.address.row = d.address.row) = cells := by
    rw [hdrop, List.takeWhile_cons_of_pos (by simp)]
  have hnext : ds.drop (start + cells.length) = others := by
    rw [← List.drop_drop, hsplit, List.drop_left]
  refine ⟨⟨d.address.row, cells⟩, ?_, ?_⟩
  · simp only [lineAt?, List.getElem?_eq_getElem h, ← hd, part?_length h.le, htake,
      part?_append h.le hsplit, Option.bind_eq_bind, Option.bind_some, Option.pure_def]
  · rw [hnext, hdrop, ofDescriptors]

/-- **Walking by positions makes the lines**, with a round for each of them. -/
theorem walk_eq (ds : List Descriptor) {rounds start : Nat}
    (hrounds : (ofDescriptors (ds.drop start)).length ≤ rounds) :
    walk ds rounds start = some (ofDescriptors (ds.drop start)) := by
  induction rounds generalizing start with
  | zero =>
      have hnil : ofDescriptors (ds.drop start) = [] := List.length_eq_zero_iff.mp (by omega)
      have hdrop : ds.drop start = [] := by
        rw [← (cuts_ofDescriptors (ds.drop start)).flatten, hnil]
        rfl
      rw [walk, if_neg (Nat.not_lt.mpr (List.drop_eq_nil_iff.mp hdrop)), hnil]
  | succ rounds ih =>
      by_cases hstart : start < ds.length
      · obtain ⟨line, hline, hlines⟩ := lineAt?_eq hstart
        rw [hlines, List.length_cons] at hrounds
        rw [walk, if_pos hstart, hline, Option.bind_eq_bind, Option.bind_some, ih (by omega),
          hlines]
        rfl
      · have hdrop : ds.drop start = [] := List.drop_eq_nil_iff.mpr (Nat.not_lt.mp hstart)
        rw [walk, if_neg hstart, hdrop, ofDescriptors]

/-! ## The lines of a grid -/

/-- Whether lines are the rows of a rectangle from the first to the last, each with the cells of the
row from the first column to the last. -/
structure Covers (lines : List RowLine) (e : Extent) : Prop where
  length_eq : lines.length = e.rows
  rows : lines.map row = List.range' 1 e.rows
  cells : ∀ line ∈ lines, line.cells.map Descriptor.address
    = (List.range' 1 e.columns).map fun column => ⟨line.row, column⟩
  length_cells : ∀ line ∈ lines, line.cells.length = e.columns

/-- The descriptions of the cells of a rectangle, a line for each row. -/
def rowsOf (e : Extent) (f : Address → Descriptor) : List RowLine :=
  (List.range' 1 e.rows).map fun row =>
    ⟨row, (List.range' 1 e.columns).map fun column => f ⟨row, column⟩⟩

variable {e : Extent} {f : Address → Descriptor}

theorem covers_rowsOf (hf : ∀ a, (f a).address = a) : Covers (rowsOf e f) e where
  length_eq := by simp [rowsOf]
  rows := by simp [rowsOf, Function.comp_def]
  cells := by
    intro line hline
    obtain ⟨row, -, rfl⟩ := List.mem_map.mp hline
    simp [Function.comp_def, hf]
  length_cells := by
    intro line hline
    obtain ⟨row, -, rfl⟩ := List.mem_map.mp hline
    simp

/-- The rows cut up the cells of the rectangle, unless there are no columns. -/
theorem cuts_rowsOf (hf : ∀ a, (f a).address = a) (hcolumns : 0 < e.columns) :
    Cuts (rowsOf e f) (e.places.map f) where
  flatten := by
    rw [Extent.places_eq_flatMap, List.map_flatMap, List.flatMap_def, rowsOf, List.map_map]
    simp only [Function.comp_def, List.map_map]
  ne_nil := by
    intro line hline
    obtain ⟨row, -, rfl⟩ := List.mem_map.mp hline
    simp only [ne_eq, List.map_eq_nil_iff, List.range'_eq_nil_iff]
    omega
  row_eq := by
    intro line hline d hd
    obtain ⟨row, -, rfl⟩ := List.mem_map.mp hline
    obtain ⟨column, -, rfl⟩ := List.mem_map.mp hd
    rw [hf]

theorem apart_rowsOf : Apart (rowsOf e f) := by
  have hrows : (List.range' 1 e.rows).Pairwise (· < ·) := List.pairwise_lt_range'
  unfold Apart rowsOf
  rw [List.isChain_map]
  exact hrows.isChain.imp fun row next hlt => Nat.ne_of_lt hlt

/-- **The lines of a rectangle are its rows.** -/
theorem ofDescriptors_places (hf : ∀ a, (f a).address = a) (hcolumns : 0 < e.columns) :
    Covers (ofDescriptors (e.places.map f)) e := by
  rw [← (cuts_rowsOf hf hcolumns).eq_ofDescriptors apart_rowsOf]
  exact covers_rowsOf hf

/-- **Lines are the coarsest division of descriptors, and the rows of a grid.** Any list is cut into
its lines, by a walk that stays in the list and makes a line in each round: no division of the list
in which neighbours are of different rows is another one, and every division only cuts the lines up
further. Where a grid with rows and columns can be inspected, as every sheet can, there is one line
for each row, with a cell for each column. -/
theorem lines_of_descriptors :
    (∀ ds : List Descriptor, Cuts (ofDescriptors ds) ds ∧ Apart (ofDescriptors ds) ∧
      walk ds ds.length 0 = some (ofDescriptors ds) ∧
      ∀ lines, Cuts lines ds → Refines lines (ofDescriptors ds) ∧
        (Apart lines → lines = ofDescriptors ds)) ∧
      (∀ (g : Grid (Except SheetFault)) (ds : List Descriptor), g.inspect = .ok ds →
        0 < g.extent.rows → 0 < g.extent.columns → Covers (ofDescriptors ds) g.extent) ∧
      ∀ s : Sheet, 0 < s.extent.rows → 0 < s.extent.columns →
        ∃ ds, s.grid.inspect = .ok ds ∧ Covers (ofDescriptors ds) s.extent := by
  refine ⟨fun ds => ⟨cuts_ofDescriptors ds, apart_ofDescriptors ds,
    walk_eq ds (length_ofDescriptors_le ds), fun lines h => ⟨h.refines, h.eq_ofDescriptors⟩⟩,
    ?_, ?_⟩
  · intro g ds hds _ hcolumns
    obtain ⟨-, rfl⟩ := g.scans_inspect.of_eq_ok hds
    exact ofDescriptors_places (fun _ => rfl) hcolumns
  · intro s _ hcolumns
    exact ⟨s.descriptors, s.inspect_grid, ofDescriptors_places (fun _ => rfl) hcolumns⟩

/-- A cell printed twice in two lines of its row, where one line would do; and a sheet of two rows
of which only the last cell was mentioned. -/
theorem lines_of_descriptors_touched :
    let d := Descriptor.of ⟨2, 3⟩ .blank
    let s := (Sheet.new "sheet").run [.touch ⟨2, 3⟩]
    Refines [⟨2, [d]⟩, ⟨2, [d]⟩] (ofDescriptors [d, d]) ∧
      ofDescriptors [d, d] = [⟨2, [d, d]⟩] ∧
      Covers (ofDescriptors s.descriptors) ⟨2, 3⟩ ∧
      ∃ ds, s.grid.inspect = .ok ds ∧ Covers (ofDescriptors ds) ⟨2, 3⟩ := by
  intro d s
  have hextent : s.extent = ⟨2, 3⟩ := by decide +kernel
  have hrows : 0 < s.extent.rows := by simp [hextent]
  have hcolumns : 0 < s.extent.columns := by simp [hextent]
  obtain ⟨hlines, hgrid, hsheet⟩ := lines_of_descriptors
  rw [← hextent]
  exact ⟨((hlines [d, d]).2.2.2 _ ⟨rfl, by simp, by simp [d, Descriptor.of]⟩).1,
    (((hlines [d, d]).2.2.2 [⟨2, [d, d]⟩] ⟨rfl, by simp, by simp [d, Descriptor.of]⟩).2
      (List.isChain_singleton _)).symm,
    hgrid s.grid s.descriptors s.inspect_grid hrows hcolumns, hsheet s hrows hcolumns⟩

end SheetInspector.RowLine
