import SheetInspector.Proofs.Address.Ordered
import SheetInspector.Proofs.Extent

set_option autoImplicit false

/-! # The places of an extent, row by row

`Extent.places` numbers the addresses of an extent from zero, the first row from left to right,
then the second row, and so on. They are the addresses the extent holds, in order and each once,
and the places of the first rows of an extent are the first of its places.
-/

namespace SheetInspector.Extent

/-- The address numbered `i` where rows have `columns` cells. -/
def place (columns i : Nat) : Address := ⟨i / columns + 1, i % columns + 1⟩

/-- The addresses of an extent by their number. -/
def places (e : Extent) : List Address := (List.range (e.rows * e.columns)).map (place e.columns)

/-- The first `limit` rows of an extent, or all of them if there are fewer. -/
def top (e : Extent) (limit : Nat) : Extent := ⟨min e.rows limit, e.columns⟩

/-- Something for every address of an extent, in rows; without columns there are no rows. -/
def table {α : Type} (e : Extent) (f : Address → α) : List (List α) :=
  if e.columns = 0 then []
  else (List.range' 1 e.rows).map fun row => (List.range' 1 e.columns).map fun column =>
    f ⟨row, column⟩

@[simp] theorem length_places (e : Extent) : e.places.length = e.rows * e.columns := by
  simp [places]

theorem getElem?_places {e : Extent} {i : Nat} (h : i < e.rows * e.columns) :
    e.places[i]? = some (place e.columns i) := by
  rw [places, List.getElem?_map, List.getElem?_range h]
  rfl

/-- The numbers of the cells of one row. -/
theorem map_place_row (columns row : Nat) :
    (List.range columns).map (fun i => place columns (row * columns + i))
      = (List.range' 1 columns).map fun column => ⟨row + 1, column⟩ := by
  rw [List.range'_eq_map_range, List.map_map]
  refine List.map_congr_left fun i hi => ?_
  have hi : i < columns := List.mem_range.mp hi
  have hdiv : (row * columns + i) / columns = row := by
    rw [Nat.mul_comm, Nat.mul_add_div (by omega), Nat.div_eq_of_lt hi, Nat.add_zero]
  have hmod : (row * columns + i) % columns = i := by
    rw [Nat.mul_comm, Nat.mul_add_mod, Nat.mod_eq_of_lt hi]
  rw [place, hdiv, hmod, Function.comp_apply, Nat.add_comm 1 i]

/-- **Numbering is walking row by row.** -/
theorem places_eq_flatMap (e : Extent) :
    e.places = (List.range' 1 e.rows).flatMap fun row => (List.range' 1 e.columns).map fun column =>
      ⟨row, column⟩ := by
  obtain ⟨rows, columns⟩ := e
  rw [places]
  show (List.range (rows * columns)).map (place columns) = _
  induction rows with
  | zero => simp
  | succ rows ih =>
      -- the numbers of one more row go on where the rows above it end
      rw [Nat.succ_mul, List.range_add, List.map_append, List.map_map, ih, List.range'_1_concat,
        List.flatMap_append, List.flatMap_singleton, Nat.add_comm 1 rows]
      congr 1
      exact map_place_row columns rows

/-- The places of an extent are the addresses it holds. -/
theorem mem_places {e : Extent} {a : Address} : a ∈ e.places ↔ e.Holds a := by
  obtain ⟨row, column⟩ := a
  simp only [places_eq_flatMap, List.mem_flatMap, List.mem_map, List.mem_range'_1,
    Address.mk.injEq, Holds]
  constructor
  · rintro ⟨r, hr, c, hc, rfl, rfl⟩
    omega
  · rintro ⟨hrow, hrows, hcolumn, hcolumns⟩
    exact ⟨row, by omega, column, by omega, rfl, rfl⟩

theorem places_ordered (e : Extent) : Address.Ordered e.places := by
  rw [Address.Ordered, places_eq_flatMap, List.pairwise_flatMap]
  constructor
  · intro row _
    rw [List.pairwise_map]
    refine (List.pairwise_lt_range' 1).imp fun {c d} hcd => ?_
    exact Address.compare_eq_lt.mpr (Or.inr ⟨rfl, hcd⟩)
  · refine (List.pairwise_lt_range' 1).imp fun {r s} hrs a ha b hb => ?_
    obtain ⟨c, -, rfl⟩ := List.mem_map.mp ha
    obtain ⟨d, -, rfl⟩ := List.mem_map.mp hb
    exact Address.compare_eq_lt.mpr (Or.inl hrs)

theorem holds_place {e : Extent} {i : Nat} (h : i < e.rows * e.columns) :
    e.Holds (place e.columns i) :=
  mem_places.mp (List.mem_of_getElem? (getElem?_places h))

/-- **The places of an extent cover it**, if it has rows exactly where it has columns. -/
theorem foldl_cover_places {e : Extent} (h : e.rows = 0 ↔ e.columns = 0) :
    e.places.foldl cover empty = e := by
  by_cases hrows : e.rows = 0
  · obtain ⟨rows, columns⟩ := e
    obtain rfl : rows = 0 := hrows
    obtain rfl : columns = 0 := h.mp rfl
    rfl
  · have hholds : ∀ a ∈ e.places, e.Holds a := fun a ha => mem_places.mp ha
    obtain ⟨hle, hle'⟩ := foldl_cover_le (e := empty) hholds (Nat.zero_le _) (Nat.zero_le _)
    obtain ⟨hge, hge'⟩ := (le_foldl_cover e.places empty).2 _
      (mem_places.mpr (corner_holds hrows fun hcolumns => hrows (h.mpr hcolumns)))
    have hsame : (e.places.foldl cover empty).rows = e.rows := le_antisymm hle hge
    have hsame' : (e.places.foldl cover empty).columns = e.columns := le_antisymm hle' hge'
    calc e.places.foldl cover empty
        = ⟨(e.places.foldl cover empty).rows, (e.places.foldl cover empty).columns⟩ := rfl
      _ = ⟨e.rows, e.columns⟩ := by rw [hsame, hsame']

/-! ## The first rows -/

theorem Holds.of_top {e : Extent} {limit : Nat} {a : Address} (h : (e.top limit).Holds a) :
    e.Holds a :=
  ⟨h.1, le_trans h.2.1 (Nat.min_le_left _ _), h.2.2⟩

/-- The places of the first rows come first. -/
theorem places_top (e : Extent) (limit : Nat) :
    (e.top limit).places = e.places.take (min e.rows limit * e.columns) := by
  have hle : min e.rows limit * e.columns ≤ e.rows * e.columns :=
    Nat.mul_le_mul_right _ (Nat.min_le_left _ _)
  rw [places, places, ← List.map_take, List.take_range, Nat.min_eq_left hle]
  rfl

theorem row_place_le_iff {e : Extent} {i : Nat} (n : Nat) (h : i < e.rows * e.columns) :
    (place e.columns i).row ≤ n ↔ i < n * e.columns := by
  have hpos : 0 < e.columns := Nat.pos_of_mul_pos_left (Nat.zero_lt_of_lt h)
  rw [← Nat.div_lt_iff_lt_mul hpos]
  rfl

/-! ## Tables -/

/-- Whether `rows` are what a list is cut into at every `n` elements. -/
structure Cuts {α : Type} (rows : List (List α)) (n : Nat) (values : List α) : Prop where
  flatten : rows.flatten = values
  length : ∀ row ∈ rows, row.length = n
  ne_nil : ∀ row ∈ rows, row ≠ []

theorem table_congr {α : Type} {e : Extent} {f f' : Address → α}
    (h : ∀ a, e.Holds a → f a = f' a) : e.table f = e.table f' := by
  rw [table, table]
  by_cases he : e.columns = 0
  · rw [if_pos he, if_pos he]
  · rw [if_neg he, if_neg he]
    refine List.map_congr_left fun row hrow => List.map_congr_left fun column hcolumn => h _ ?_
    rw [List.mem_range'_1] at hrow hcolumn
    exact ⟨hrow.1, Nat.lt_one_add_iff.mp hrow.2, hcolumn.1, Nat.lt_one_add_iff.mp hcolumn.2⟩

theorem cuts_table {α : Type} (e : Extent) (f : Address → α) :
    Cuts (e.table f) e.columns (e.places.map f) where
  flatten := by
    rw [table, places_eq_flatMap]
    by_cases h : e.columns = 0
    · simp [h]
    · rw [if_neg h, List.map_flatMap, List.flatMap_def]
      simp [Function.comp_def]
  length := by
    intro row hrow
    rw [table] at hrow
    by_cases h : e.columns = 0
    · simp [h] at hrow
    · rw [if_neg h] at hrow
      obtain ⟨r, -, rfl⟩ := List.mem_map.mp hrow
      simp
  ne_nil := by
    intro row hrow
    rw [table] at hrow
    by_cases h : e.columns = 0
    · simp [h] at hrow
    · rw [if_neg h] at hrow
      obtain ⟨r, -, rfl⟩ := List.mem_map.mp hrow
      simp [h]

end SheetInspector.Extent
