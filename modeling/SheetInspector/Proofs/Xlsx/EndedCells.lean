import SheetInspector.Proofs.Xlsx.CellContent
import SheetInspector.Proofs.Xlsx.SheetSteps

set_option autoImplicit false

/-! # The cells that a part ends

Whatever events a part has, whether its tags match or not, the sheet changes only where a cell
ends: at the end of the cell that is pending, and at a cell that is a single tag. `ended` lists
these cells in the order in which they end, each as it has been read by then, and reading the part
is storing them one after the other (`storesCells_readSheetPart`).
-/

namespace SheetInspector.Xlsx

namespace SheetScan

/-- The cell that an event ends, as it has been read. -/
def ended? (s : SheetScan) : Xml.Event → Option PendingCell
  | .empty tag =>
    if SheetElement.cell.names tag.name then (PendingCell.start s.row s.column tag).toOption
    else none
  | .finish name => if SheetElement.cell.names name then s.pending else none
  | _ => none

/-- The cells that events end, one after the other. -/
def ended (shared : Array String) (s : SheetScan) : List Xml.Event → List PendingCell
  | [] => []
  | e :: es =>
    (s.ended? e).toList ++ (s.step shared e).toOption.elim [] fun s' => s'.ended shared es

variable {shared : Array String} {s s' : SheetScan}

/-! ## One event -/

/-- Only the end of a cell ends one. -/
theorem ended?_of_apart {e : Xml.Event} (he : e.Apart rowOrCell) : s.ended? e = none := by
  have hother {name : Bytes} (hname : e.name? = some name) :
      SheetElement.cell.names name = false :=
    SheetElement.names_eq_false_iff.mpr (rowOrCell_eq_false_iff.mp (he name hname)).2
  cases e with
  | empty tag => rw [ended?, hother rfl, if_neg Bool.false_ne_true]
  | finish name => rw [ended?, hother rfl, if_neg Bool.false_ne_true]
  | start tag => rfl
  | text raw => rfl
  | aside => rfl

/-- Nothing is stored where the sheet stays what it is. -/
theorem storesCells_of_same (h : s'.sheet = s.sheet) :
    StoresCells shared s.sheet [] s'.sheet := by
  rw [h]
  exact .nil shared s.sheet

/-- **An event stores the cell that it ends**, if it ends one. -/
theorem storesCells_step {e : Xml.Event} (h : s.step shared e = .ok s') :
    StoresCells shared s.sheet (s.ended? e).toList s'.sheet := by
  cases moves_of_step h with
  | @row _ tag _ he hkind _ hs =>
      have hnone : s.ended? e = none := by
        rcases he with rfl | rfl <;> simp [ended?, SheetElement.names, hkind]
      subst hs
      rw [hnone]
      exact storesCells_of_same rfl
  | begins _ _ hs =>
      subst hs
      exact storesCells_of_same rfl
  | @single tag c sheet hkind hstart hfinish hs =>
      have hended : s.ended? (.empty tag) = some c := by
        rw [ended?, SheetElement.names_iff.mpr hkind, if_pos rfl, hstart]
        rfl
      subst hs
      rw [hended]
      exact .of_finish hfinish
  | @ends name c sheet hkind hpending hfinish hs =>
      have hended : s.ended? (.finish name) = some c := by
        rw [ended?, SheetElement.names_iff.mpr hkind, if_pos rfl, hpending]
      subst hs
      rw [hended]
      exact .of_finish hfinish
  | takes _ _ _ hs =>
      subst hs
      exact storesCells_of_same rfl
  | skips _ hs =>
      subst hs
      exact storesCells_of_same rfl
  | @closes name hclosed hs =>
      have hnone : s.ended? (.finish name) = none := by
        rcases hclosed with hkind | ⟨hkind, hpending⟩
        · simp [ended?, SheetElement.names, hkind]
        · simp [ended?, hpending]
      subst hs
      rw [hnone]
      exact storesCells_of_same rfl
  | passes he _ hs =>
      rw [ended?_of_apart he]
      exact storesCells_of_same hs.sheet

/-! ## A run -/

/-- **Reading events is storing the cells that they end.** -/
theorem storesCells_foldlM {es : List Xml.Event} (h : es.foldlM (step shared) s = .ok s') :
    StoresCells shared s.sheet (s.ended shared es) s'.sheet := by
  induction es generalizing s with
  | nil =>
      cases h
      exact .nil shared _
  | cons e es ih =>
      rw [List.foldlM_cons, bind_eq_ok_iff] at h
      obtain ⟨mid, hmid, hrest⟩ := h
      rw [ended, hmid]
      exact (storesCells_step hmid).append (ih hrest)

end SheetScan

/-- The cells that a part ends, as they have been read. -/
def endedCells (shared : Array String) (name : String) (d : Xml.Document) : List PendingCell :=
  (SheetScan.initial (Sheet.new name)).ended shared d.events

/-- **A part is read by storing the cells that it ends**, whatever events it has. -/
theorem storesCells_readSheetPart {shared : Array String} {name : String} {d : Xml.Document}
    {s : Sheet} (h : readSheetPart shared name d = .ok s) :
    StoresCells shared (Sheet.new name) (endedCells shared name d) s := by
  rw [readSheetPart, map_eq_ok_iff] at h
  obtain ⟨scan, hscan, rfl⟩ := h
  exact SheetScan.storesCells_foldlM (readDocument_eq_ok_iff.mp hscan).1

end SheetInspector.Xlsx
