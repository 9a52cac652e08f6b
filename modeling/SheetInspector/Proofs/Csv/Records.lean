import SheetInspector.Loading.Load
import SheetInspector.Proofs.Csv.Fields
import SheetInspector.Proofs.Log.Result
import SheetInspector.Proofs.Sheet.History

set_option autoImplicit false

/-! # What becomes of records

Records are laid out row by row: field `j` of record `i` stands at row `i`, column `j`, whatever
the records before it look like. `placed` lists the fields with their addresses in reading order,
and reading records is storing one after the other. The addresses in the list are in order, so no
field comes in another's way (`Tabulated`), and the first record or field that cannot be read or
has no place ends the reading (`FirstOffence`). `sheet_of_records` puts both together, for records
of any kind and for those of a file.
-/

namespace SheetInspector.Csv

/-! ## Where fields stand -/

/-- The fields of a row from a column on, with their addresses. -/
def placedFrom (row column : Nat) : List String → List (Address × String)
  | [] => []
  | field :: rest => (⟨row, column⟩, field) :: placedFrom row (column + 1) rest

/-- The fields of records from a row on, with their addresses, in reading order. -/
def placed (row : Nat) : List (List String) → List (Address × String)
  | [] => []
  | fields :: rest => placedFrom row 1 fields ++ placed (row + 1) rest

/-- The change to the sheet that a field makes. -/
def store (o : Options) (x : Address × String) : SheetEdit := .set x.1 (content o x.1.row x.2)

theorem mem_placedFrom {row column : Nat} {fields : List String} {x : Address × String} :
    x ∈ placedFrom row column fields ↔
      ∃ j field, fields[j]? = some field ∧ x = (⟨row, j + column⟩, field) := by
  -- the column moves on with the fields, so the induction is for all of them
  induction fields generalizing column with
  | nil => simp [placedFrom]
  | cons field fields ih =>
      rw [placedFrom, List.mem_cons, ih]
      constructor
      · rintro (rfl | ⟨j, field', hj, rfl⟩)
        · exact ⟨0, field, rfl, by rw [Nat.zero_add]⟩
        · exact ⟨j + 1, field', hj, by rw [Nat.add_right_comm, Nat.add_assoc]⟩
      · rintro ⟨j, field', hj, rfl⟩
        cases j with
        | zero =>
            cases hj
            exact .inl (by rw [Nat.zero_add])
        | succ j => exact .inr ⟨j, field', hj, by rw [Nat.add_right_comm, Nat.add_assoc]⟩

/-- The fields that are placed are those of the records, each by its number in its record. -/
theorem mem_placed {row : Nat} {records : List (List String)} {x : Address × String} :
    x ∈ placed row records ↔
      ∃ i j fields field, records[i]? = some fields ∧ fields[j]? = some field ∧
        x = (⟨i + row, j + 1⟩, field) := by
  induction records generalizing row with
  | nil => simp [placed]
  | cons fields records ih =>
      rw [placed, List.mem_append, mem_placedFrom, ih]
      constructor
      · rintro (⟨j, field, hj, rfl⟩ | ⟨i, j, fields', field, hi, hj, rfl⟩)
        · exact ⟨0, j, fields, field, rfl, hj, by rw [Nat.zero_add]⟩
        · exact ⟨i + 1, j, fields', field, hi, hj, by rw [Nat.add_right_comm, Nat.add_assoc]⟩
      · rintro ⟨i, j, fields', field, hi, hj, rfl⟩
        cases i with
        | zero =>
            cases hi
            exact .inl ⟨j, field, hj, by rw [Nat.zero_add]⟩
        | succ i =>
            exact .inr ⟨i, j, fields', field, hi, hj, by rw [Nat.add_right_comm, Nat.add_assoc]⟩

theorem placedFrom_ordered (row column : Nat) (fields : List String) :
    Address.Ordered ((placedFrom row column fields).map Prod.fst) := by
  induction fields generalizing column with
  | nil => exact List.Pairwise.nil
  | cons field fields ih =>
      refine List.pairwise_cons.mpr ⟨fun a ha => ?_, ih (column + 1)⟩
      obtain ⟨x, hx, rfl⟩ := List.mem_map.mp ha
      obtain ⟨j, field', -, rfl⟩ := mem_placedFrom.mp hx
      exact Address.compare_eq_lt.mpr (.inr ⟨rfl, by show column < j + (column + 1); omega⟩)

/-- **Fields are read in the order of their addresses.** -/
theorem placed_ordered (row : Nat) (records : List (List String)) :
    Address.Ordered ((placed row records).map Prod.fst) := by
  induction records generalizing row with
  | nil => exact List.Pairwise.nil
  | cons fields records ih =>
      rw [placed, List.map_append]
      refine List.pairwise_append.mpr
        ⟨placedFrom_ordered row 1 fields, ih (row + 1), fun a ha b hb => ?_⟩
      obtain ⟨x, hx, rfl⟩ := List.mem_map.mp ha
      obtain ⟨y, hy, rfl⟩ := List.mem_map.mp hb
      obtain ⟨j, field, -, rfl⟩ := mem_placedFrom.mp hx
      obtain ⟨i, j', fields', field', -, -, rfl⟩ := mem_placed.mp hy
      exact Address.compare_eq_lt.mpr (.inl (by show row < i + (row + 1); omega))

/-! ## Reading is storing -/

theorem place_store {o : Options} {x : Address × String} (h : Extent.largest.Holds x.1) :
    (store o x).place = .ok x.1 :=
  SheetEdit.place_eq_ok_iff.mpr ⟨rfl, h⟩

theorem place_store_iff {o : Options} {x : Address × String} :
    (∃ a, (store o x).place = .ok a) ↔ Extent.largest.Holds x.1 := by
  constructor
  · rintro ⟨a, ha⟩
    obtain ⟨htarget, hholds⟩ := SheetEdit.place_eq_ok_iff.mp ha
    cases htarget
    exact hholds
  · intro hholds
    exact ⟨x.1, place_store hholds⟩

theorem forall_place_store_iff {o : Options} {xs : List (Address × String)} :
    (∀ e ∈ xs.map (store o), ∃ a, e.place = .ok a) ↔ ∀ x ∈ xs, Extent.largest.Holds x.1 := by
  rw [List.forall_mem_map]
  exact forall₂_congr fun _ _ => place_store_iff

theorem fillRow_eq (o : Options) (row column : Nat) (s : Sheet) (fields : List String) :
    fillRow o row column s fields
      = ((placedFrom row column fields).map (store o)).foldlM Sheet.edit s := by
  induction fields generalizing column s with
  | nil => rfl
  | cons field fields ih =>
      rw [fillRow, placedFrom, List.map_cons, List.foldlM_cons]
      show _ = s.set ⟨row, column⟩ (content o row field) >>= _
      cases s.set ⟨row, column⟩ (content o row field) with
      | error fault => rfl
      | ok mid => exact ih (column + 1) mid

variable {o : Options} {row : Nat} {s s' : Sheet}

/-- Records whose fields all have a place are stored, and reading goes on behind them. -/
theorem fillRows_append {records : List (List String)}
    (h : ∀ x ∈ placed row records, Extent.largest.Holds x.1)
    (rest : List (Except RecordFault (List String))) :
    fillRows o row s (records.map .ok ++ rest)
      = fillRows o (records.length + row) (s.run ((placed row records).map (store o))) rest := by
  induction records generalizing row s with
  | nil =>
      rw [List.length_nil, Nat.zero_add]
      rfl
  | cons fields records ih =>
      obtain ⟨hfields, hrecords⟩ := List.forall_mem_append.mp h
      have hrow : fillRow o row 1 s fields
          = .ok (s.run ((placedFrom row 1 fields).map (store o))) := by
        rw [fillRow_eq]
        exact Sheet.foldlM_edit (forall_place_store_iff.mpr hfields) s
      rw [List.map_cons, List.cons_append, fillRows, hrow]
      show fillRows o (row + 1) _ _ = _
      rw [ih hrecords, placed, List.map_append, List.length_cons, Nat.add_right_comm, Nat.add_assoc]
      congr 1
      exact (List.foldl_append).symm

/-- **Records that are read are stored**, and all their fields have a place. -/
theorem fillRows_eq_ok {rs : List (Except RecordFault (List String))}
    (h : fillRows o row s rs = .ok s') :
    ∃ records : List (List String), rs = records.map .ok ∧
      (∀ x ∈ placed row records, Extent.largest.Holds x.1) ∧
        s' = s.run ((placed row records).map (store o)) := by
  induction rs generalizing row s with
  | nil =>
      cases h
      exact ⟨[], rfl, by simp [placed], rfl⟩
  | cons record rs ih =>
      cases record with
      | error fault => cases h
      | ok fields =>
          rw [fillRows] at h
          cases hrow : fillRow o row 1 s fields with
          | error fault =>
              rw [hrow] at h
              cases h
          | ok mid =>
              rw [hrow] at h
              rw [fillRow_eq] at hrow
              obtain ⟨hfields, rfl⟩ := Sheet.foldlM_edit_eq_ok hrow
              obtain ⟨records, rfl, hrecords, rfl⟩ := ih h
              refine ⟨fields :: records, rfl, List.forall_mem_append.mpr
                ⟨forall_place_store_iff.mp hfields, hrecords⟩, ?_⟩
              rw [placed, List.map_append]
              exact (List.foldl_append).symm

theorem sheetOfRecords_eq_ok {rs : List (Except RecordFault (List String))}
    (h : sheetOfRecords o rs = .ok s) :
    ∃ records : List (List String), rs = records.map .ok ∧
      (∀ x ∈ placed 1 records, Extent.largest.Holds x.1) ∧
        s = (Sheet.new o.sheetName).run ((placed 1 records).map (store o)) :=
  fillRows_eq_ok h

/-! ## What is stored -/

/-- The number of fields of the longest record. -/
def longest (records : List (List String)) : Nat := (records.map List.length).foldr max 0

/-- What a sheet holds that records are laid out in: the field at each place alone decides. -/
structure Tabulated (o : Options) (records : List (List String)) (s : Sheet) : Prop where
  name : s.name = o.sheetName
  extent : s.extent = ⟨records.length, longest records⟩
  field : ∀ (i j : Nat) (fields : List String) (field : String), records[i]? = some fields →
    fields[j]? = some field → Stores o (i + 1) field (s.content? ⟨i + 1, j + 1⟩)
  elsewhere : ∀ a c, s.content? a = some c →
    ∃ (i j : Nat) (fields : List String) (field : String),
      records[i]? = some fields ∧ fields[j]? = some field ∧ a = ⟨i + 1, j + 1⟩

variable {records : List (List String)}

/-- What is stored at the address of a field is what is left of its content, and nothing else is
stored. -/
theorem content?_run_store (h : ∀ x ∈ placed 1 records, Extent.largest.Holds x.1) (name : String) :
    (∀ x ∈ placed 1 records,
        ((Sheet.new name).run ((placed 1 records).map (store o))).content? x.1
          = (content o x.1.row x.2).kept?) ∧
      ∀ a, (∀ x ∈ placed 1 records, x.1 ≠ a) →
        ((Sheet.new name).run ((placed 1 records).map (store o))).content? a = none := by
  have hstores : (placed 1 records).map (store o)
      = ((placed 1 records).map fun x => (x.1, content o x.1.row x.2)).map
          fun y => SheetEdit.set y.1 y.2 := by
    rw [List.map_map]
    rfl
  have hholds : ∀ y ∈ (placed 1 records).map fun x => (x.1, content o x.1.row x.2),
      Extent.largest.Holds y.1 := List.forall_mem_map.mpr h
  have haddresses :
      (((placed 1 records).map fun x => (x.1, content o x.1.row x.2)).map Prod.fst).Nodup := by
    rw [List.map_map]
    exact (placed_ordered 1 records).nodup
  obtain ⟨hat, helse⟩ := Sheet.content?_run_set hholds haddresses (Sheet.new name)
  rw [hstores]
  refine ⟨List.forall_mem_map.mp hat, fun a ha => ?_⟩
  exact (helse a (List.forall_mem_map.mpr ha)).trans (CellStore.find?_empty a)

/-- What is stored at an address is what the field there stores. -/
theorem exists_of_content (h : ∀ x ∈ placed 1 records, Extent.largest.Holds x.1) {name : String}
    {a : Address} {c : Content}
    (hc : ((Sheet.new name).run ((placed 1 records).map (store o))).content? a = some c) :
    ∃ field, (a, field) ∈ placed 1 records ∧ Stores o a.row field (some c) := by
  obtain ⟨hat, helse⟩ := content?_run_store (o := o) h name
  by_cases ha : ∃ x ∈ placed 1 records, x.1 = a
  · obtain ⟨x, hx, rfl⟩ := ha
    exact ⟨x.2, hx, stores_iff.mpr (hc.symm.trans (hat x hx))⟩
  · rw [helse a fun x hx hxa => ha ⟨x, hx, hxa⟩] at hc
    cases hc

theorem mem_addresses {i j : Nat} {fields : List String} (hi : records[i]? = some fields)
    (hj : j < fields.length) :
    (⟨i + 1, j + 1⟩ : Address) ∈ ((placed 1 records).map Prod.fst).toFinset := by
  have hplaced : (⟨i + 1, j + 1⟩, fields[j]) ∈ placed 1 records :=
    mem_placed.mpr ⟨i, j, fields, fields[j], hi, List.getElem?_eq_getElem hj, rfl⟩
  exact List.mem_toFinset.mpr (List.mem_map.mpr ⟨_, hplaced, rfl⟩)

/-- The greatest row with a field is the number of the last record, since a record has a field. -/
theorem sup_row_placed (hfields : ∀ fields ∈ records, fields ≠ []) :
    ((placed 1 records).map Prod.fst).toFinset.sup Address.row = records.length := by
  apply le_antisymm
  · refine Finset.sup_le fun a ha => ?_
    obtain ⟨x, hx, rfl⟩ := List.mem_map.mp (List.mem_toFinset.mp ha)
    obtain ⟨i, j, fields, field, hi, -, rfl⟩ := mem_placed.mp hx
    exact (List.getElem?_eq_some_iff.mp hi).1
  · rcases Nat.eq_zero_or_pos records.length with hzero | hpos
    · rw [hzero]
      exact Nat.zero_le _
    · have hlast : records.length - 1 < records.length := Nat.sub_lt hpos Nat.one_pos
      have hfirst := List.length_pos_of_ne_nil (hfields _ (List.getElem_mem hlast))
      have hle := Finset.le_sup (f := Address.row)
        (mem_addresses (List.getElem?_eq_getElem hlast) hfirst)
      rwa [Nat.sub_add_cancel hpos] at hle

/-- The greatest column with a field is the length of the longest record. -/
theorem sup_column_placed (records : List (List String)) :
    ((placed 1 records).map Prod.fst).toFinset.sup Address.column = longest records := by
  apply le_antisymm
  · refine Finset.sup_le fun a ha => ?_
    obtain ⟨x, hx, rfl⟩ := List.mem_map.mp (List.mem_toFinset.mp ha)
    obtain ⟨i, j, fields, field, hi, hj, rfl⟩ := mem_placed.mp hx
    exact List.le_max_of_le (List.mem_map_of_mem (List.mem_of_getElem? hi))
      (List.getElem?_eq_some_iff.mp hj).1
  · refine List.max_le_of_forall_le _ _ fun n hn => ?_
    obtain ⟨fields, hmem, rfl⟩ := List.mem_map.mp hn
    obtain ⟨i, hi⟩ := List.mem_iff_getElem?.mp hmem
    rcases Nat.eq_zero_or_pos fields.length with hzero | hpos
    · rw [hzero]
      exact Nat.zero_le _
    · have hle := Finset.le_sup (f := Address.column)
        (mem_addresses hi (Nat.sub_lt hpos Nat.one_pos))
      rwa [Nat.sub_add_cancel hpos] at hle

/-- **The sheet that the fields of records are stored in.** -/
theorem tabulated_run (o : Options) (hfields : ∀ fields ∈ records, fields ≠ [])
    (h : ∀ x ∈ placed 1 records, Extent.largest.Holds x.1) :
    Tabulated o records ((Sheet.new o.sheetName).run ((placed 1 records).map (store o))) := by
  obtain ⟨hat, -⟩ := content?_run_store (o := o) h o.sheetName
  have hagrees := Sheet.agrees_run o.sheetName ((placed 1 records).map (store o))
  have htouched : (PlainSheet.ofEdits ((placed 1 records).map (store o))).touched
      = ((placed 1 records).map Prod.fst).toFinset := by
    rw [PlainSheet.touched_ofEdits, SheetEdit.places_map fun x hx => place_store (h x hx)]
  constructor
  · exact Sheet.Made.name_eq ⟨_, rfl⟩
  · have hrows := hagrees.rows
    have hcolumns := hagrees.columns
    rw [htouched, sup_row_placed hfields] at hrows
    rw [htouched, sup_column_placed] at hcolumns
    rw [← hrows, ← hcolumns]
  · intro i j fields field hi hj
    exact stores_iff.mpr (hat _ (mem_placed.mpr ⟨i, j, fields, field, hi, hj, rfl⟩))
  · intro a c hc
    obtain ⟨field, hplaced, -⟩ := exists_of_content h hc
    obtain ⟨i, j, fields, field', hi, hj, heq⟩ := mem_placed.mp hplaced
    cases heq
    exact ⟨i, j, fields, field, hi, hj, rfl⟩

/-! ## Limits -/

/-- Whether records keep within the limits of a sheet. -/
def Fits (records : List (List String)) : Prop :=
  records.length ≤ maxRows ∧ ∀ fields ∈ records, fields.length ≤ maxColumns

instance (records : List (List String)) : Decidable (Fits records) :=
  inferInstanceAs (Decidable (_ ∧ _))

/-- The fault of a record in a given row: it cannot be decoded, its row is too many, which its
first field meets, or its fields are, which the first one too many meets. -/
inductive Offends (row : Nat) : Except RecordFault (List String) → Fault → Prop
  | record (fault : RecordFault) : Offends row (.error fault) (.record fault)
  | row {fields : List String} (hrow : maxRows < row) :
      Offends row (.ok fields) (.sheet (.rowOutOfBounds row maxRows))
  | column {fields : List String} (hrow : row ≤ maxRows) (hcolumns : maxColumns < fields.length) :
      Offends row (.ok fields) (.sheet (.columnOutOfBounds (maxColumns + 1) maxColumns))

/-- Whether a fault is the first one that is met when records are read in their order. -/
def FirstOffence (rs : List (Except RecordFault (List String))) (fault : Fault) : Prop :=
  ∃ (before : List (List String)) (record : Except RecordFault (List String))
    (after : List (Except RecordFault (List String))),
    rs = before.map .ok ++ record :: after ∧ Fits before ∧
      Offends (before.length + 1) record fault

/-- Among records there is a first one that offends, or they are all in order and fit. -/
theorem fits_or_firstOffence (rs : List (Except RecordFault (List String))) :
    (∃ records : List (List String), rs = records.map .ok ∧ Fits records) ∨
      ∃ fault, FirstOffence rs fault := by
  induction rs using List.reverseRecOn with
  | nil => exact .inl ⟨[], rfl, Nat.zero_le _, by simp⟩
  | append_singleton rs record ih =>
      rcases ih with ⟨records, rfl, hfits⟩ | ⟨fault, before, first, after, rfl, hfits, hfirst⟩
      · -- so far all is in order, and the new record decides
        have hoffence {fault : Fault} (h : Offends (records.length + 1) record fault) :
            FirstOffence (records.map .ok ++ [record]) fault :=
          ⟨records, record, [], rfl, hfits, h⟩
        cases record with
        | error fault => exact .inr ⟨_, hoffence (.record fault)⟩
        | ok fields =>
            by_cases hrow : maxRows < records.length + 1
            · exact .inr ⟨_, hoffence (.row hrow)⟩
            · by_cases hcolumns : maxColumns < fields.length
              · exact .inr ⟨_, hoffence (.column (not_lt.mp hrow) hcolumns)⟩
              · refine .inl ⟨records ++ [fields], by simp, ?_, ?_⟩
                · rw [List.length_append]
                  exact not_lt.mp hrow
                · exact List.forall_mem_append.mpr ⟨hfits.2, by simpa using hcolumns⟩
      · exact .inr ⟨fault, before, first, after ++ [record], by simp, hfits, hfirst⟩

/-- The fields of records that fit have a place. -/
theorem Fits.holds (h : Fits records) : ∀ x ∈ placed 1 records, Extent.largest.Holds x.1 := by
  intro x hx
  obtain ⟨i, j, fields, field, hi, hj, rfl⟩ := mem_placed.mp hx
  have hrow := (List.getElem?_eq_some_iff.mp hi).1
  have hcolumn := (List.getElem?_eq_some_iff.mp hj).1
  exact ⟨Nat.succ_pos i, le_trans hrow h.1, Nat.succ_pos j,
    le_trans hcolumn (h.2 fields (List.mem_of_getElem? hi))⟩

theorem placedFrom_append (row column : Nat) (fields rest : List String) :
    placedFrom row column (fields ++ rest)
      = placedFrom row column fields ++ placedFrom row (fields.length + column) rest := by
  induction fields generalizing column with
  | nil =>
      rw [List.length_nil, Nat.zero_add]
      rfl
  | cons field fields ih =>
      rw [List.cons_append, placedFrom, ih, placedFrom, List.length_cons, Nat.add_right_comm,
        Nat.add_assoc, List.cons_append]

/-- A row of fields ends in the fault of its first field without a place. -/
theorem fillRow_of_error {before after : List String} {field : String} {fault : SheetFault}
    (hbefore : ∀ x ∈ placedFrom row 1 before, Extent.largest.Holds x.1)
    (hfield : Extent.largest.check ⟨row, before.length + 1⟩ = .error fault) :
    fillRow o row 1 s (before ++ field :: after) = .error fault := by
  have hplace : (store o (⟨row, before.length + 1⟩, field)).place = .error fault := by
    rw [SheetEdit.place_of_target_ok rfl, hfield]
    rfl
  rw [fillRow_eq, placedFrom_append, placedFrom, List.map_append, List.map_cons]
  exact Sheet.foldlM_edit_of_error (forall_place_store_iff.mpr hbefore) hplace _ s

/-- The first field of a row that is too many has no place. -/
theorem fillRow_of_late {fields : List String} (hfields : fields ≠ []) (hlarge : maxRows < row) :
    fillRow o row 1 s fields = .error (.rowOutOfBounds row maxRows) := by
  obtain ⟨field, after, rfl⟩ := List.exists_cons_of_ne_nil hfields
  have hcheck : Extent.largest.check ⟨row, 1⟩ = .error (.rowOutOfBounds row maxRows) :=
    if_pos (.inr hlarge)
  have hnone : ∀ x ∈ placedFrom row 1 [], Extent.largest.Holds x.1 := by simp [placedFrom]
  exact fillRow_of_error hnone hcheck

/-- In a row with too many fields the first that is one too many has no place. -/
theorem fillRow_of_long {fields : List String} (hrow : 1 ≤ row) (hsmall : row ≤ maxRows)
    (hlong : maxColumns < fields.length) :
    fillRow o row 1 s fields = .error (.columnOutOfBounds (maxColumns + 1) maxColumns) := by
  have hsplit : fields
      = fields.take maxColumns ++ fields[maxColumns] :: fields.drop (maxColumns + 1) := by
    rw [← List.drop_eq_getElem_cons hlong, List.take_append_drop]
  have hlength : (fields.take maxColumns).length = maxColumns :=
    List.length_take_of_le (Nat.le_of_lt hlong)
  have hbefore : ∀ x ∈ placedFrom row 1 (fields.take maxColumns), Extent.largest.Holds x.1 := by
    intro x hx
    obtain ⟨j, field, hj, rfl⟩ := mem_placedFrom.mp hx
    have hcolumn := (List.getElem?_eq_some_iff.mp hj).1
    rw [hlength] at hcolumn
    exact ⟨hrow, hsmall, Nat.succ_pos j, hcolumn⟩
  -- the row is checked first, and it is within the limits
  have hcheck : Extent.largest.check ⟨row, (fields.take maxColumns).length + 1⟩
      = .error (.columnOutOfBounds (maxColumns + 1) maxColumns) := by
    rw [hlength, Extent.check, if_neg, if_pos]
    · rfl
    · exact .inr (Nat.lt_succ_self maxColumns)
    · rintro (hzero | hlarge)
      · exact absurd hzero (Nat.ne_of_gt hrow)
      · exact absurd hlarge (not_lt.mpr hsmall)
  rw [hsplit]
  exact fillRow_of_error hbefore hcheck

/-- **A record that offends ends the reading in its fault.** -/
theorem fillRows_of_offends {record : Except RecordFault (List String)} {fault : Fault}
    (hrow : 1 ≤ row) (hfields : ∀ fields, record = .ok fields → fields ≠ [])
    (h : Offends row record fault) (rest : List (Except RecordFault (List String))) :
    fillRows o row s (record :: rest) = .error fault := by
  cases h with
  | record fault => rfl
  | row hlarge => rw [fillRows, fillRow_of_late (hfields _ rfl) hlarge]
  | column hsmall hlong => rw [fillRows, fillRow_of_long hrow hsmall hlong]

/-! ## Records and sheets -/

/-- What records become: a sheet if they are in order and fit, and otherwise the fault of the first
record or field that offends. -/
structure Outcome (o : Options) (rs : List (Except RecordFault (List String))) : Prop where
  sheet : ∀ records : List (List String), rs = records.map .ok → Fits records →
    ∃ s, sheetOfRecords o rs = .ok s ∧ Tabulated o records s
  fails_iff : ∀ fault, sheetOfRecords o rs = .error fault ↔ FirstOffence rs fault
  fails : ¬ (∃ records : List (List String), rs = records.map .ok ∧ Fits records) →
    ∃ fault, sheetOfRecords o rs = .error fault

theorem sheetOfRecords_of_fits (o : Options) (h : Fits records) :
    sheetOfRecords o (records.map .ok)
      = .ok ((Sheet.new o.sheetName).run ((placed 1 records).map (store o))) := by
  have hall := fillRows_append (o := o) (s := Sheet.new o.sheetName) h.holds []
  rw [List.append_nil] at hall
  exact hall

theorem sheetOfRecords_of_firstOffence {rs : List (Except RecordFault (List String))}
    {fault : Fault} (hfields : ∀ fields, .ok fields ∈ rs → fields ≠ [])
    (h : FirstOffence rs fault) : sheetOfRecords o rs = .error fault := by
  obtain ⟨before, record, after, rfl, hfits, hoffends⟩ := h
  -- the records in front of the offender are stored, and it is met in the row behind them
  rw [sheetOfRecords, fillRows_append hfits.holds]
  refine fillRows_of_offends (Nat.succ_pos before.length) (fun fields hrecord => ?_) hoffends after
  exact hfields fields (List.mem_append_right _ (hrecord ▸ List.mem_cons_self))

theorem outcome (o : Options) {rs : List (Except RecordFault (List String))}
    (hfields : ∀ fields, .ok fields ∈ rs → fields ≠ []) : Outcome o rs where
  sheet := by
    rintro records rfl hfits
    refine ⟨_, sheetOfRecords_of_fits o hfits, tabulated_run o (fun fields hmem => ?_) hfits.holds⟩
    exact hfields fields (List.mem_map_of_mem hmem)
  fails_iff := by
    intro fault
    constructor
    · intro h
      rcases fits_or_firstOffence rs with ⟨records, rfl, hfits⟩ | ⟨first, hfirst⟩
      · rw [sheetOfRecords_of_fits o hfits] at h
        cases h
      · rw [sheetOfRecords_of_firstOffence hfields hfirst] at h
        cases h
        exact hfirst
    · exact sheetOfRecords_of_firstOffence hfields
  fails := by
    intro hnot
    obtain ⟨fault, hfirst⟩ := (fits_or_firstOffence rs).resolve_left hnot
    exact ⟨fault, sheetOfRecords_of_firstOffence hfields hfirst⟩

/-! ## Records of a file -/

/-- Whether all records that have been read have a field. -/
def Scan.Filled (s : Scan) : Prop := ∀ r ∈ s.records, r.fields ≠ []

namespace Scan

variable {s : Scan}

theorem Filled.endRecord (h : s.Filled) : s.endRecord.Filled :=
  List.forall_mem_cons.mpr ⟨by simp, h⟩

theorem Filled.plain (h : s.Filled) (d : Dialect) (b : UInt8) : (s.plain d b).Filled := by
  rw [Scan.plain]
  split_ifs
  · exact h
  · exact h.endRecord
  · exact h

theorem Filled.step (h : s.Filled) (d : Dialect) (b : UInt8) : (s.step d b).Filled := by
  have hfirst {t : Scan} (ht : t.Filled) : (t.first d b).Filled := by
    rw [Scan.first]
    split_ifs
    · exact ht
    · exact ht.plain d b
  have hhere : Filled { s with here := placeAfter s.here b } := h
  rw [Scan.step, Scan.read]
  cases s.mode with
  | recordStart =>
      dsimp only
      split_ifs
      · exact hhere
      · exact hfirst hhere
  | fieldStart => exact hfirst hhere
  | unquoted => exact hhere.plain d b
  | quoted =>
      dsimp only
      split_ifs
      · exact hhere
      · exact hhere
  | quoteSeen =>
      dsimp only
      split_ifs
      · exact hhere
      · exact hhere.plain d b

theorem Filled.foldl_step (h : s.Filled) (d : Dialect) (bytes : Bytes) :
    (bytes.foldl (Scan.step d) s).Filled := by
  induction bytes generalizing s with
  | nil => exact h
  | cons b bytes ih => exact ih (h.step d b)

theorem Filled.finish (h : s.Filled) : ∀ r ∈ s.finish, r.fields ≠ [] := by
  rw [Scan.finish]
  cases s.mode with
  | recordStart => exact fun r hr => h r (List.mem_reverse.mp hr)
  | _ => exact fun r hr => h.endRecord r (List.mem_reverse.mp hr)

end Scan

/-- **Every record of a file has a field.** -/
theorem fields_ne_nil (d : Dialect) (bytes : Bytes) : ∀ r ∈ Csv.records d bytes, r.fields ≠ [] := by
  have hstart (start here : Place) : (Scan.initial start here).Filled := by
    simp [Scan.Filled, Scan.initial]
  rw [Csv.records]
  split_ifs
  · exact ((hstart _ _).foldl_step d _).finish
  · exact ((hstart _ _).foldl_step d _).finish

theorem length_decodeFields {record field : Nat} {start : Place} {fs : List Bytes}
    {texts : List String} (h : decodeFields record start field fs = .ok texts) :
    texts.length = fs.length := by
  induction fs generalizing field texts with
  | nil =>
      cases h
      rfl
  | cons f fs ih =>
      rw [decodeFields] at h
      cases htext : Utf8.decodeText f with
      | error fault =>
          rw [htext] at h
          cases h
      | ok text =>
          rw [htext] at h
          cases hrest : decodeFields record start (field + 1) fs with
          | error fault =>
              simp only [hrest] at h
              cases h
          | ok rest =>
              simp only [hrest] at h
              cases h
              exact congrArg Nat.succ (ih hrest)

theorem decodeRecords_ne_nil (d : Dialect) (bytes : Bytes) :
    ∀ fields, .ok fields ∈ decodeRecords (Csv.records d bytes) → fields ≠ [] := by
  rintro fields hmem rfl
  obtain ⟨i, hi, hdecode⟩ := List.mem_mapIdx.mp hmem
  -- decoding keeps the number of fields, and the scan leaves none without
  have hlength := length_decodeFields hdecode
  exact fields_ne_nil d bytes _ (List.getElem_mem hi) (List.eq_nil_of_length_eq_zero hlength.symm)

/-- A file of records is loaded as the sheet of its records, or not at all. -/
theorem result_loadFile {storage : Storage} {path : String} {bytes : Bytes}
    (h : storage path = .file bytes) :
    (loadFile storage o path).result = (readSheet o bytes).map Workbook.single := by
  have hload : (loadFile storage o path).run []
      = (do
          let s ← Logged.ofExcept (readSheet o bytes)
          Logged.debug logSource
            ("read " ++ toString s.extent.rows ++ " rows x " ++ toString s.extent.columns ++
              " columns from CSV")
          return .single s : Logged Fault Workbook).run
          [⟨.debug, logSource, "reading CSV " ++ path⟩] := by
    rw [loadFile, h]
    rfl
  show ((loadFile storage o path).run []).1 = _
  rw [hload]
  cases readSheet o bytes with
  | error fault => rfl
  | ok s => rfl

/-- **Records become a sheet, or the fault of the first that offends.** Let each record that can be
decoded have a field. Where all can be decoded and keep within the limits, the sheet has a row for
each of them and a column for each field of the longest, and the field at each place alone decides
what is stored there. Otherwise the reading ends in the fault of the first record or field in
reading order that offends. So it is with the records of every file, and where they become no
sheet, there is no workbook. -/
theorem sheet_of_records (o : Options) :
    (∀ rs, (∀ fields, .ok fields ∈ rs → fields ≠ []) → Outcome o rs) ∧
      ∀ storage path bytes, storage path = .file bytes →
        Outcome o (decodeRecords (Csv.records o.dialect bytes)) ∧
          (loadFile storage o path).result
            = (sheetOfRecords o (decodeRecords (Csv.records o.dialect bytes))).map Workbook.single :=
  ⟨fun _ hfields => outcome o hfields, fun _ _ bytes hfile =>
    ⟨outcome o (decodeRecords_ne_nil o.dialect bytes), result_loadFile hfile⟩⟩

/-- Two records of different lengths; a record behind them that cannot be decoded; and a file with
them. -/
theorem sheet_of_ragged_records :
    (∃ s, sheetOfRecords .comma [.ok ["a"], .ok ["=1", " 2 ", "True"]] = .ok s ∧
      s.extent = ⟨2, 3⟩ ∧ s.content? ⟨2, 1⟩ = some (.formula "=1" none) ∧
        s.content? ⟨2, 3⟩ = some (.literal (.boolean true))) ∧
      sheetOfRecords .comma [.ok ["a"], .error ⟨1, ⟨2, 2⟩, 0, 0⟩, .ok ["b"]]
        = .error (.record ⟨1, ⟨2, 2⟩, 0, 0⟩) ∧
      (loadFile (fun _ => .file [97, 10, 255]) .comma "a.csv").result
        = (sheetOfRecords .comma
            (decodeRecords (Csv.records Options.comma.dialect [97, 10, 255]))).map
            Workbook.single := by
  refine ⟨?_, ?_, ?_⟩
  · have houtcome := (sheet_of_records .comma).1 ([["a"], ["=1", " 2 ", "True"]].map .ok) (by simp)
    obtain ⟨s, hs, htabulated⟩ := houtcome.sheet _ rfl (by decide)
    refine ⟨s, hs, htabulated.extent, ?_, ?_⟩
    · have hstores := htabulated.field 1 0 _ "=1" rfl rfl
      exact (stores_iff.mp hstores).trans (by decide)
    · have hstores := htabulated.field 1 2 _ "True" rfl rfl
      exact (stores_iff.mp hstores).trans (by decide)
  · refine (((sheet_of_records .comma).1 _ (by simp)).fails_iff _).mpr ?_
    exact ⟨[["a"]], _, _, rfl, by decide, .record _⟩
  · exact ((sheet_of_records .comma).2 _ "a.csv" _ rfl).2

end SheetInspector.Csv
