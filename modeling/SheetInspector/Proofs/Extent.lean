import Mathlib.Tactic
import SheetInspector.Address.Order

set_option autoImplicit false

/-! # The addresses of an extent

`Holds` says which addresses lie in an extent. The check of an address succeeds for exactly
those, and its fault names the part that lies outside, the row first.
-/

namespace SheetInspector.Extent

/-- Whether an address lies in the rectangle: rows and columns count from one. -/
def Holds (e : Extent) (a : Address) : Prop :=
  1 ≤ a.row ∧ a.row ≤ e.rows ∧ 1 ≤ a.column ∧ a.column ≤ e.columns

instance (e : Extent) (a : Address) : Decidable (e.Holds a) :=
  inferInstanceAs (Decidable (_ ∧ _ ∧ _ ∧ _))

theorem check_of_holds {e : Extent} {a : Address} (h : e.Holds a) : e.check a = .ok () := by
  obtain ⟨hrow, hrows, hcolumn, hcolumns⟩ := h
  rw [check, if_neg (by omega), if_neg (by omega)]

/-- The fault of an address outside the rectangle is a position out of bounds. -/
theorem check_of_not_holds {e : Extent} {a : Address} (h : ¬ e.Holds a) :
    ∃ fault, e.check a = .error fault ∧ fault.isOutOfBounds = true := by
  by_cases hrow : a.row = 0 ∨ e.rows < a.row
  · exact ⟨.rowOutOfBounds a.row e.rows, by rw [check, if_pos hrow], rfl⟩
  · have hcolumn : a.column = 0 ∨ e.columns < a.column := by
      by_contra hcolumn
      exact h ⟨by omega, by omega, by omega, by omega⟩
    exact ⟨.columnOutOfBounds a.column e.columns, by rw [check, if_neg hrow, if_pos hcolumn], rfl⟩

theorem isEmpty_iff {e : Extent} : e.isEmpty = true ↔ e.rows = 0 ∨ e.columns = 0 := by
  simp [isEmpty]

/-- The corner of an extent that is not empty is one of its addresses. -/
theorem corner_holds {e : Extent} (hrows : e.rows ≠ 0) (hcolumns : e.columns ≠ 0) :
    e.Holds ⟨e.rows, e.columns⟩ :=
  ⟨Nat.pos_of_ne_zero hrows, le_refl _, Nat.pos_of_ne_zero hcolumns, le_refl _⟩

/-! ## Growing -/

theorem Holds.cover {e : Extent} {a : Address} (h : e.Holds a) (b : Address) :
    (e.cover b).Holds a := by
  obtain ⟨hrow, hrows, hcolumn, hcolumns⟩ := h
  exact ⟨hrow, le_trans hrows (Nat.le_max_left _ _), hcolumn,
    le_trans hcolumns (Nat.le_max_left _ _)⟩

theorem cover_holds_self {e f : Extent} {a : Address} (h : f.Holds a) : (e.cover a).Holds a :=
  ⟨h.1, Nat.le_max_right _ _, h.2.2.1, Nat.le_max_right _ _⟩

theorem cover_right_comm (e : Extent) (a b : Address) :
    (e.cover a).cover b = (e.cover b).cover a := by
  simp only [cover, Nat.max_right_comm]

/-- Growing an extent over some addresses reaches each of them. -/
theorem le_foldl_cover (as : List Address) (e : Extent) :
    (e.rows ≤ (as.foldl cover e).rows ∧ e.columns ≤ (as.foldl cover e).columns) ∧
      ∀ a ∈ as, a.row ≤ (as.foldl cover e).rows ∧ a.column ≤ (as.foldl cover e).columns := by
  induction as generalizing e with
  | nil => exact ⟨⟨le_refl _, le_refl _⟩, by simp⟩
  | cons b as ih =>
      obtain ⟨⟨hrows, hcolumns⟩, hrest⟩ := ih (e.cover b)
      rw [List.foldl_cons]
      refine ⟨⟨le_trans (Nat.le_max_left _ _) hrows, le_trans (Nat.le_max_left _ _) hcolumns⟩, ?_⟩
      intro a ha
      rcases List.mem_cons.mp ha with rfl | ha
      · exact ⟨le_trans (Nat.le_max_right _ _) hrows, le_trans (Nat.le_max_right _ _) hcolumns⟩
      · exact hrest a ha

/-- Growing an extent over addresses that lie in another does not leave the other. -/
theorem foldl_cover_le {as : List Address} {e f : Extent} (has : ∀ a ∈ as, f.Holds a)
    (hrows : e.rows ≤ f.rows) (hcolumns : e.columns ≤ f.columns) :
    (as.foldl cover e).rows ≤ f.rows ∧ (as.foldl cover e).columns ≤ f.columns := by
  induction as generalizing e with
  | nil => exact ⟨hrows, hcolumns⟩
  | cons b as ih =>
      obtain ⟨-, hrow, -, hcolumn⟩ := has b List.mem_cons_self
      exact ih (fun a ha => has a (List.mem_cons_of_mem b ha)) (Nat.max_le.mpr ⟨hrows, hrow⟩)
        (Nat.max_le.mpr ⟨hcolumns, hcolumn⟩)

end SheetInspector.Extent
