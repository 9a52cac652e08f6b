import SheetInspector.Proofs.Address.Ordered
import SheetInspector.Sheet

set_option autoImplicit false

/-! # Content stored by row and column

A store of content is a map of maps, and some of its rows may hold nothing. Seen from outside it
is a map from addresses to content: `find?_store` says what storing does to it, `mem_cells` and
`cells_ordered` that `cells` lists it, each cell once and in the order of addresses, and
`count_eq_length_cells` that `count` counts it.
-/

namespace SheetInspector.CellStore

theorem find?_empty (a : Address) : find? ∅ a = none := by
  simp [find?]

/-! ## Storing -/

/-- The content of one row after content is stored in it. -/
private theorem getElem?_store_row (t : CellStore) (a : Address) (c : Content) (column : Nat) :
    ((t.store a c)[a.row]?.bind fun row => row[column]?)
      = if a.column = column then (if c.isNull then none else some c)
        else t[a.row]?.bind fun row => row[column]? := by
  by_cases hc : c.isNull
  · simp only [store, if_pos hc, Std.TreeMap.getElem?_modify_self]
    cases t[a.row]? with
    | none => simp
    | some row =>
        simp only [Option.map_some, Option.bind_some, Std.TreeMap.getElem?_erase,
          Nat.compare_eq_eq]
  · simp only [store, if_neg hc, Std.TreeMap.getElem?_insert_self, Option.bind_some,
      Std.TreeMap.getElem?_insert, Nat.compare_eq_eq]
    -- a row that was not there before is as good as an empty one
    cases t[a.row]? with
    | none => simp
    | some row => rfl

/-- Storing leaves the other rows alone. -/
private theorem getElem?_store_of_ne (t : CellStore) (a : Address) (c : Content) {row : Nat}
    (h : a.row ≠ row) : (t.store a c)[row]? = t[row]? := by
  by_cases hc : c.isNull
  · simp only [store, if_pos hc, Std.TreeMap.getElem?_modify, Nat.compare_eq_eq, if_neg h]
  · simp only [store, if_neg hc, Std.TreeMap.getElem?_insert, Nat.compare_eq_eq, if_neg h]

/-- **What storing does**: the address it names holds the content, or nothing if that is the null
literal, and every other address holds what it held. -/
theorem find?_store (t : CellStore) (a b : Address) (c : Content) :
    (t.store a c).find? b = if a = b then (if c.isNull then none else some c) else t.find? b := by
  by_cases hrow : a.row = b.row
  · rw [find?, ← hrow, getElem?_store_row, find?, ← hrow]
    by_cases hcolumn : a.column = b.column
    · have hab : a = b := by
        cases a; cases b; simp_all
      rw [if_pos hcolumn, if_pos hab]
    · have hab : a ≠ b := fun h => hcolumn (congrArg Address.column h)
      rw [if_neg hcolumn, if_neg hab]
  · have hab : a ≠ b := fun h => hrow (congrArg Address.row h)
    rw [if_neg hab, find?, getElem?_store_of_ne t a c hrow]
    rfl

/-! ## Listing -/

theorem mem_rowCells {row : Nat} {cells : Std.TreeMap Nat Content} {a : Address} {c : Content} :
    (a, c) ∈ rowCells row cells ↔ row = a.row ∧ cells[a.column]? = some c := by
  rw [rowCells, List.mem_map]
  constructor
  · rintro ⟨⟨column, content⟩, hmem, heq⟩
    cases heq
    exact ⟨rfl, Std.TreeMap.mem_toList_iff_getElem?_eq_some.mp hmem⟩
  · rintro ⟨rfl, hc⟩
    exact ⟨(a.column, c), Std.TreeMap.mem_toList_iff_getElem?_eq_some.mpr hc, rfl⟩

/-- The cells listed are those that hold content. -/
theorem mem_cells (t : CellStore) (a : Address) (c : Content) :
    (a, c) ∈ t.cells ↔ t.find? a = some c := by
  rw [cells, List.mem_flatMap, find?, Option.bind_eq_some_iff]
  constructor
  · rintro ⟨⟨row, cells⟩, hrow, hcell⟩
    obtain ⟨rfl, hc⟩ := mem_rowCells.mp hcell
    exact ⟨cells, Std.TreeMap.mem_toList_iff_getElem?_eq_some.mp hrow, hc⟩
  · rintro ⟨cells, hrow, hc⟩
    exact ⟨(a.row, cells), Std.TreeMap.mem_toList_iff_getElem?_eq_some.mpr hrow,
      mem_rowCells.mpr ⟨rfl, hc⟩⟩

/-- The cells are listed in strictly increasing order. -/
theorem cells_ordered (t : CellStore) : Address.Ordered (t.cells.map Prod.fst) := by
  rw [Address.Ordered, List.pairwise_map, cells, List.pairwise_flatMap]
  constructor
  · rintro ⟨row, cells⟩ _
    show (rowCells row cells).Pairwise _
    rw [rowCells, List.pairwise_map]
    refine Std.TreeMap.ordered_keys_toList.imp fun {x y} hxy => ?_
    exact Address.compare_eq_lt.mpr (Or.inr ⟨rfl, Nat.compare_eq_lt.mp hxy⟩)
  · refine Std.TreeMap.ordered_keys_toList.imp fun {x y} hxy p hp q hq => ?_
    obtain ⟨hp', -⟩ := mem_rowCells.mp hp
    obtain ⟨hq', -⟩ := mem_rowCells.mp hq
    have hlt : x.1 < y.1 := Nat.compare_eq_lt.mp hxy
    exact Address.compare_eq_lt.mpr (Or.inl (by omega))

theorem length_rowCells (row : Nat) (cells : Std.TreeMap Nat Content) :
    (rowCells row cells).length = cells.size := by
  rw [rowCells, List.length_map, Std.TreeMap.length_toList]

/-- Counting row by row, on top of what was counted before. -/
private theorem foldl_size (rows : List (Nat × Std.TreeMap Nat Content)) (n : Nat) :
    rows.foldl (fun n p => n + p.2.size) n
      = n + (rows.flatMap fun p => rowCells p.1 p.2).length := by
  induction rows generalizing n with
  | nil => rfl
  | cons row rows ih =>
      rw [List.foldl_cons, ih, List.flatMap_cons, List.length_append, length_rowCells,
        Nat.add_assoc]

theorem count_eq_length_cells (t : CellStore) : t.count = t.cells.length := by
  rw [count, Std.TreeMap.foldl_eq_foldl_toList, foldl_size, Nat.zero_add]
  rfl

end SheetInspector.CellStore
