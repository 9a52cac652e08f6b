import SheetInspector.Proofs.Content
import SheetInspector.Proofs.Sheet.History
import SheetInspector.Proofs.Xlsx.CellText

set_option autoImplicit false

/-! # What a cell is stored as

What has been collected of a cell is the last text of its value or the joined texts of its own,
and the last text of its formula. Which of them there are decides what it is stored as
(`PendingCell.yields_of_ok`); a cell with neither only mentions its address. Storing a cell is thus
one change to the sheet (`PendingCell.finish_eq_ok`), and storing several leaves at an address the
content of the last of them there that has any (`StoresCells.content?_eq`).
-/

namespace SheetInspector.Xlsx

namespace PendingCell

/-! ## What has been collected -/

/-- Whether a cell is what its tag and its texts, in this order, say. -/
structure Holds (c : PendingCell) (tag : Xml.Tag) (texts : List CellText) : Prop where
  collected : texts.foldlM take ⟨c.address, typeName? tag, none, none⟩ = .ok c

/-- Taking in texts keeps the address, and the formula is filled for good by those that are part of
it. -/
structure Fills (c c' : PendingCell) (texts : List CellText) : Prop where
  address : c'.address = c.address
  formula_iff : c'.formula.isSome ↔ c.formula.isSome ∨ ∃ text ∈ texts, text.1 = .formula

theorem fills_take {c c' : PendingCell} {text : CellText} (h : c.take text = .ok c') :
    c.Fills c' [text] := by
  rw [take, map_eq_ok_iff] at h
  obtain ⟨s, -, rfl⟩ := h
  obtain ⟨role, raw⟩ := text
  cases role with
  | value => exact ⟨rfl, by simp⟩
  | formula => exact ⟨rfl, by simp⟩
  | inline => exact ⟨rfl, by simp⟩

theorem Fills.cons {c mid c' : PendingCell} {text : CellText} {texts : List CellText}
    (h : c.Fills mid [text]) (hrest : mid.Fills c' texts) : c.Fills c' (text :: texts) where
  address := hrest.address.trans h.address
  formula_iff := by
    rw [hrest.formula_iff, h.formula_iff, List.exists_mem_cons_iff, or_assoc]
    simp

theorem fills_foldlM {c c' : PendingCell} {texts : List CellText}
    (h : texts.foldlM take c = .ok c') : c.Fills c' texts := by
  induction texts generalizing c with
  | nil =>
      cases h
      exact ⟨rfl, by simp⟩
  | cons text texts ih =>
      rw [List.foldlM_cons, bind_eq_ok_iff] at h
      obtain ⟨mid, hmid, hrest⟩ := h
      exact (fills_take hmid).cons (ih hrest)

theorem Holds.formula_iff {c : PendingCell} {tag : Xml.Tag} {texts : List CellText}
    (h : c.Holds tag texts) : c.formula.isSome ↔ ∃ text ∈ texts, text.1 = .formula := by
  have hfills := fills_foldlM h.collected
  simpa using hfills.formula_iff

/-! ## What is stored -/

/-- The content of a cell, if it has any and its value can be read. -/
def stored? (c : PendingCell) (shared : Array String) : Option Content :=
  (c.content? shared).toOption.join

/-- The change to the sheet that a cell makes. -/
def edit (c : PendingCell) (shared : Array String) : SheetEdit :=
  match c.stored? shared with
  | some content => .set c.address content
  | none => .touch c.address

end PendingCell

theorem definite_numberOrText (text : String) : (numberOrText text).Definite := by
  unfold numberOrText
  split
  · rfl
  · trivial

/-- Every text of a cell stands for something definite. -/
theorem definite_cellValue {shared : Array String} {type : Option String} {text : String}
    {v : Value} (h : cellValue shared type text = .ok v) : v.Definite := by
  cases type with
  | none =>
      cases h
      exact definite_numberOrText text
  | some type =>
      rw [cellValue] at h
      split_ifs at h
      · cases h
        exact definite_numberOrText text
      · obtain ⟨s, -, rfl⟩ := map_eq_ok_iff.mp h
        trivial
      · cases h
        trivial
      · cases h
        cases ErrorCode.parse? text with
        | none => trivial
        | some code => trivial
      · cases h
        trivial
      · cases h
        trivial

namespace PendingCell

/-- What a cell is stored as, by what has been collected of it: nothing, a value, or a formula
behind a marker of its own, with its result if there is one. -/
inductive Yields (shared : Array String) (c : PendingCell) : Option Content → Prop
  | nothing (hformula : c.formula = none) (hvalue : c.value = none) : Yields shared c none
  | value {text : String} {v : Value} (hformula : c.formula = none) (hvalue : c.value = some text)
      (hread : cellValue shared c.type text = .ok v) : Yields shared c (some (.literal v))
  | formula {text : String} (hformula : c.formula = some text) (hvalue : c.value = none) :
      Yields shared c (some (.formula (formulaMarker.toString ++ text) none))
  | result {text written : String} {v : Value} (hformula : c.formula = some text)
      (hvalue : c.value = some written) (hread : cellValue shared c.type written = .ok v) :
      Yields shared c (some (.formula (formulaMarker.toString ++ text) (some v)))

/-- **There are four kinds of cells**, as far as content goes. -/
theorem yields_of_ok {c : PendingCell} {shared : Array String} {content : Option Content}
    (h : c.content? shared = .ok content) : c.Yields shared content := by
  obtain ⟨address, type, value, formula⟩ := c
  cases formula with
  | none =>
      cases value with
      | none =>
          cases h
          exact .nothing rfl rfl
      | some text =>
          obtain ⟨v, hv, rfl⟩ := map_eq_ok_iff.mp h
          exact .value rfl rfl hv
  | some text =>
      cases value with
      | none =>
          cases h
          exact .formula rfl rfl
      | some written =>
          obtain ⟨v, hv, rfl⟩ := map_eq_ok_iff.mp h
          exact .result rfl rfl hv

theorem yields_of_stored {c : PendingCell} {shared : Array String} {x : Content}
    (h : c.stored? shared = some x) : c.Yields shared (some x) := by
  exact yields_of_ok (toOption_eq_some_iff.mp (Option.join_eq_some_iff.mp h))

/-- A formula is stored behind a marker of its own. -/
theorem head?_formula (text : String) :
    (formulaMarker.toString ++ text).toList.head? = some formulaMarker := by
  rw [String.toList_append]
  rfl

namespace Yields

variable {c : PendingCell} {shared : Array String} {x : Content}

/-- A cell has content exactly if a value or a formula was collected. -/
theorem isSome_iff {content : Option Content} (h : c.Yields shared content) :
    content.isSome ↔ c.value.isSome ∨ c.formula.isSome := by
  cases h with
  | nothing hformula hvalue => simp [hformula, hvalue]
  | value _ hvalue _ => simp [hvalue]
  | formula hformula _ => simp [hformula]
  | result hformula _ _ => simp [hformula]

theorem isFormula_iff (h : c.Yields shared (some x)) : x.isFormula ↔ c.formula.isSome := by
  cases h with
  | value hformula _ _ => simp [Content.isFormula, hformula]
  | formula hformula _ => simp [Content.isFormula, hformula]
  | result hformula _ _ => simp [Content.isFormula, hformula]

/-- A cell is stored as the formula that was collected, behind a marker. -/
theorem formula_iff (h : c.Yields shared (some x)) {text : String} :
    (∃ cached, x = .formula text cached) ↔
      ∃ u, formulaMarker.toString ++ u = text ∧ c.formula = some u := by
  cases h with
  | value hformula _ _ => simp [hformula]
  | formula hformula _ => simp [hformula, eq_comm]
  | result hformula _ _ => simp [hformula, eq_comm]

/-- **The content of a cell is definite**, whatever has been collected of it. -/
theorem definite (h : c.Yields shared (some x)) : x.Definite := by
  cases h with
  | value _ _ hread => exact definite_cellValue hread
  | formula _ _ => exact ⟨head?_formula _, fun v hv => by cases hv⟩
  | result _ _ hread =>
      refine ⟨head?_formula _, fun v hv => ?_⟩
      cases hv
      exact definite_cellValue hread

end Yields

theorem target_edit (c : PendingCell) (shared : Array String) :
    (c.edit shared).target = .ok c.address := by
  rw [edit]
  cases c.stored? shared with
  | none => rfl
  | some content => rfl

/-- Storing a cell whose value can be read is making its change. -/
theorem finish_of_content {c : PendingCell} {shared : Array String}
    (hcontent : c.content? shared = .ok (c.stored? shared)) (s : Sheet) :
    c.finish shared s = (s.edit (c.edit shared)).mapError Fault.sheet := by
  rw [finish, hcontent, edit]
  cases c.stored? shared with
  | none => rfl
  | some content => rfl

/-- **Storing a cell is one change to the sheet.** -/
theorem finish_eq_ok {c : PendingCell} {shared : Array String} {s s' : Sheet}
    (h : c.finish shared s = .ok s') :
    c.content? shared = .ok (c.stored? shared) ∧ (c.edit shared).place = .ok c.address ∧
      s' = s.run [c.edit shared] := by
  have hcontent : c.content? shared = .ok (c.stored? shared) := by
    rw [stored?]
    cases hread : c.content? shared with
    | ok content => rfl
    | error fault =>
        rw [finish, hread] at h
        cases h
  rw [finish_of_content hcontent, mapError_eq_ok_iff] at h
  obtain ⟨⟨a, ha⟩, hrun⟩ := Sheet.edit_eq_ok h
  have htarget := (SheetEdit.place_eq_ok_iff.mp ha).1
  rw [target_edit] at htarget
  cases htarget
  exact ⟨hcontent, ha, hrun⟩

/-- A cell whose value can be read, at an address within the limits, can be stored. -/
theorem finish_of_ok {c : PendingCell} {shared : Array String}
    (hcontent : c.content? shared = .ok (c.stored? shared))
    (hplace : (c.edit shared).place = .ok c.address) (s : Sheet) :
    c.finish shared s = .ok (s.run [c.edit shared]) := by
  rw [finish_of_content hcontent, Sheet.edit_of_ok hplace, Sheet.run_cons,
    Sheet.on_write_of_ok hplace]
  rfl

end PendingCell

/-! ## Storing several cells -/

namespace PendingCell

theorem stores?_edit {c : PendingCell} {shared : Array String}
    (hplace : (c.edit shared).place = .ok c.address) :
    (c.edit shared).stores? = (c.stored? shared).map fun content => (c.address, content) := by
  have hcontent : (c.edit shared).content? = c.stored? shared := by
    rw [edit]
    cases c.stored? shared with
    | none => rfl
    | some content => rfl
  rw [SheetEdit.stores?, hplace, hcontent]
  cases c.stored? shared with
  | none => rfl
  | some content => rfl

end PendingCell

/-- What the changes that some cells make store at an address. -/
theorem stores_edits {shared : Array String} {read : List PendingCell}
    (hplace : ∀ c ∈ read, (c.edit shared).place = .ok c.address) (a : Address) :
    (((read.map fun c => c.edit shared).filterMap SheetEdit.stores?).filter fun x => x.1 = a).map
        Prod.snd
      = (read.filter fun c => c.address = a).filterMap fun c => c.stored? shared := by
  induction read with
  | nil => rfl
  | cons c read ih =>
      obtain ⟨hc, hread⟩ := List.forall_mem_cons.mp hplace
      rw [List.map_cons, List.filterMap_cons, PendingCell.stores?_edit hc]
      cases hstored : c.stored? shared with
      | none =>
          -- a cell without content appears on neither side
          have hskip : ((c :: read).filter fun c => c.address = a).filterMap
              (fun c => c.stored? shared)
              = (read.filter fun c => c.address = a).filterMap fun c => c.stored? shared := by
            by_cases ha : c.address = a
            · rw [List.filter_cons_of_pos (by simpa using ha), List.filterMap_cons, hstored]
            · rw [List.filter_cons_of_neg (by simpa using ha)]
          rw [hskip]
          exact ih hread
      | some content =>
          by_cases ha : c.address = a
          · rw [List.filter_cons_of_pos (by simpa using ha), List.filterMap_cons, hstored]
            show (List.filter _ ((c.address, content) :: _)).map Prod.snd = content :: _
            rw [List.filter_cons_of_pos (by simpa using ha), List.map_cons, ih hread]
          · rw [List.filter_cons_of_neg (by simpa using ha)]
            show (List.filter _ ((c.address, content) :: _)).map Prod.snd = _
            rw [List.filter_cons_of_neg (by simpa using ha), ih hread]

/-- Whether storing some cells, one after the other, takes a sheet to another. -/
structure StoresCells (shared : Array String) (s : Sheet) (cells : List PendingCell) (s' : Sheet) :
    Prop where
  content : ∀ c ∈ cells, c.content? shared = .ok (c.stored? shared)
  place : ∀ c ∈ cells, (c.edit shared).place = .ok c.address
  run : s' = s.run (cells.map fun c => c.edit shared)

/-- The last of some cells that stores content at an address. -/
def lastStoring (shared : Array String) (cells : List PendingCell) (a : Address) :
    Option PendingCell :=
  ((cells.filter fun c => c.address = a).filter fun c => (c.stored? shared).isSome).getLast?

/-- The last of the values of a partial function is that of the last argument it is defined at. -/
theorem getLast?_filterMap_eq {α β : Type} (f : α → Option β) (xs : List α) :
    (xs.filterMap f).getLast? = (xs.filter fun x => (f x).isSome).getLast?.bind f := by
  induction xs using List.reverseRecOn with
  | nil => rfl
  | append_singleton xs x ih =>
      rw [List.filterMap_append, List.filter_append]
      cases hx : f x with
      | none => simpa [hx] using ih
      | some y => simp [hx]

/-- What is stored last at an address is the content of a cell there. -/
theorem exists_of_lastStored {shared : Array String} {cells : List PendingCell} {a : Address}
    {x : Content} (h : ((cells.filter fun c => c.address = a).filterMap
      fun c => c.stored? shared).getLast? = some x) :
    ∃ c ∈ cells, c.address = a ∧ c.stored? shared = some x := by
  obtain ⟨c, hc, hstored⟩ := List.mem_filterMap.mp (List.mem_of_getLast? h)
  obtain ⟨hmem, haddress⟩ := List.mem_filter.mp hc
  exact ⟨c, hmem, by simpa using haddress, hstored⟩

namespace StoresCells

variable {shared : Array String} {s mid s' : Sheet} {cells rest : List PendingCell}

theorem nil (shared : Array String) (s : Sheet) : StoresCells shared s [] s :=
  ⟨by simp, by simp, rfl⟩

theorem append (h : StoresCells shared s cells mid) (hrest : StoresCells shared mid rest s') :
    StoresCells shared s (cells ++ rest) s' where
  content := List.forall_mem_append.mpr ⟨h.content, hrest.content⟩
  place := List.forall_mem_append.mpr ⟨h.place, hrest.place⟩
  run := by
    rw [hrest.run, h.run, List.map_append]
    exact List.foldl_append.symm

theorem of_finish {c : PendingCell} (h : c.finish shared s = .ok s') :
    StoresCells shared s [c] s' := by
  obtain ⟨hcontent, hplace, hrun⟩ := PendingCell.finish_eq_ok h
  exact ⟨List.forall_mem_singleton.mpr hcontent, List.forall_mem_singleton.mpr hplace, hrun⟩

variable {name : String}

theorem made (h : StoresCells shared (Sheet.new name) cells s) : s.Made name := ⟨_, h.run⟩

theorem touched (h : StoresCells shared (Sheet.new name) cells s) :
    (PlainSheet.ofEdits (cells.map fun c => c.edit shared)).touched
      = (cells.map PendingCell.address).toFinset := by
  rw [PlainSheet.touched_ofEdits, SheetEdit.places_map h.place]

theorem rows (h : StoresCells shared (Sheet.new name) cells s) :
    s.extent.rows = (cells.map PendingCell.address).toFinset.sup Address.row := by
  rw [h.run, (Sheet.agrees_run name _).rows, h.touched]

theorem columns (h : StoresCells shared (Sheet.new name) cells s) :
    s.extent.columns = (cells.map PendingCell.address).toFinset.sup Address.column := by
  rw [h.run, (Sheet.agrees_run name _).columns, h.touched]

/-- **What cells that are stored leave at an address**: the content of the last one there that has
any. -/
theorem content?_eq (h : StoresCells shared (Sheet.new name) cells s) (a : Address) :
    s.content? a
      = ((cells.filter fun c => c.address = a).filterMap fun c => c.stored? shared).getLast? := by
  rw [h.run, (Sheet.agrees_run name _).content, PlainSheet.content_ofEdits, SheetEdit.lastStored,
    ← List.getLast?_map, stores_edits h.place]
  -- no cell stores the literal that stands for nothing
  cases hlast : ((cells.filter fun c => c.address = a).filterMap
      fun c => c.stored? shared).getLast? with
  | none => rfl
  | some content =>
      obtain ⟨c, -, -, hstored⟩ := exists_of_lastStored hlast
      have hnull := (PendingCell.yields_of_stored hstored).definite.ne_null
      simp [Option.filter, hnull]

/-- What an address holds is the content of the last cell there that has any. -/
theorem content?_last (h : StoresCells shared (Sheet.new name) cells s) (a : Address) :
    s.content? a = (lastStoring shared cells a).bind fun c => c.stored? shared := by
  rw [h.content?_eq, lastStoring, getLast?_filterMap_eq]

/-- **What cells store is definite.** -/
theorem definite (h : StoresCells shared (Sheet.new name) cells s) {a : Address} {x : Content}
    (hx : s.content? a = some x) : x.Definite := by
  rw [h.content?_eq] at hx
  obtain ⟨c, -, -, hstored⟩ := exists_of_lastStored hx
  exact (PendingCell.yields_of_stored hstored).definite

/-- **Where no two cells have the same address, each of them keeps its content.** -/
theorem content?_eq_some_iff (h : StoresCells shared (Sheet.new name) cells s)
    (hnodup : (cells.map PendingCell.address).Nodup) {a : Address} {x : Content} :
    s.content? a = some x ↔ ∃ c ∈ cells, c.address = a ∧ c.stored? shared = some x := by
  rw [h.content?_eq]
  constructor
  · exact exists_of_lastStored
  · rintro ⟨c, hc, rfl, hstored⟩
    have hmem : x ∈ (cells.filter fun c' => c'.address = c.address).filterMap
        fun c' => c'.stored? shared :=
      List.mem_filterMap.mpr ⟨c, List.mem_filter.mpr ⟨hc, by simp⟩, hstored⟩
    have hlast := List.getLast?_eq_some_getLast (List.ne_nil_of_mem hmem)
    -- what is stored there last is stored by a cell with this address, which is the only one
    obtain ⟨c', hc', haddress, hstored'⟩ := exists_of_lastStored hlast
    obtain rfl : c' = c := List.inj_on_of_nodup_map hnodup hc' hc haddress
    rw [hlast, ← hstored', hstored]

/-- The address of a cell then holds what the cell stores. -/
theorem content?_of_mem (h : StoresCells shared (Sheet.new name) cells s)
    (hnodup : (cells.map PendingCell.address).Nodup) {c : PendingCell} (hc : c ∈ cells) :
    s.content? c.address = c.stored? shared := by
  ext x
  rw [h.content?_eq_some_iff hnodup]
  constructor
  · rintro ⟨c', hc', haddress, hstored⟩
    obtain rfl : c' = c := List.inj_on_of_nodup_map hnodup hc' hc haddress
    exact hstored
  · intro hstored
    exact ⟨c, hc, rfl, hstored⟩

end StoresCells

end SheetInspector.Xlsx
