import Mathlib.Tactic
import SheetInspector.Workbook

set_option autoImplicit false

/-! # Changes to a workbook

What each of the three changes does, faults included (`on_add`, `on_activate`, `on_select`), and
the invariant `Sound` of the workbooks that changes lead to: no two sheets have the same name, and
the active index is that of a sheet, or zero as long as there is none. In such a workbook a name
leads to one index only, and the index of a sheet is found by its name
(`Sound.indexOf?_eq_some_iff`).
-/

namespace SheetInspector.Workbook

variable {w : Workbook}

/-! ## Looking sheets up -/

theorem indexOf?_eq_none_iff {name : String} : w.indexOf? name = none ↔ name ∉ w.names := by
  rw [indexOf?, List.findIdx?_eq_none_iff, names, List.mem_map]
  simp only [decide_eq_false_iff_not, not_exists, not_and]

theorem indexOf?_isSome_iff {name : String} : (w.indexOf? name).isSome ↔ name ∈ w.names := by
  rw [Option.isSome_iff_ne_none, Ne, indexOf?_eq_none_iff, not_not]

theorem mem_names_iff {name : String} :
    name ∈ w.names ↔ ∃ i s, w.sheet? i = some s ∧ s.name = name := by
  rw [names, List.mem_map]
  constructor
  · rintro ⟨s, hs, hname⟩
    obtain ⟨i, hi⟩ := List.mem_iff_getElem?.mp hs
    exact ⟨i, s, hi, hname⟩
  · rintro ⟨i, s, hi, hname⟩
    exact ⟨s, List.mem_of_getElem? hi, hname⟩

/-- The index of a name is that of a sheet with the name. -/
theorem sheet?_of_indexOf? {name : String} {i : Nat} (h : w.indexOf? name = some i) :
    ∃ s, w.sheet? i = some s ∧ s.name = name := by
  obtain ⟨hi, hname, -⟩ := List.findIdx?_eq_some_iff_getElem.mp h
  exact ⟨w.sheets[i], List.getElem?_eq_getElem hi, by simpa using hname⟩

/-- Looking a sheet up by name is looking it up at the index of the name. -/
theorem sheetNamed?_eq_bind (w : Workbook) (name : String) :
    w.sheetNamed? name = (w.indexOf? name).bind w.sheet? :=
  List.find?_eq_bind_findIdx?_getElem?

/-! ## The active sheet -/

theorem activeSheet_of_sheet? {s : Sheet} (h : w.sheet? w.active = some s) :
    w.activeSheet = .ok s := by
  have hsheets : w.sheets.isEmpty = false := by
    rw [List.isEmpty_eq_false_iff]
    exact List.ne_nil_of_mem (List.mem_of_getElem? h)
  rw [activeSheet, hsheets, h]
  rfl

theorem activeSheet_of_nil (h : w.sheets = []) : w.activeSheet = .error .noSheets := by
  rw [activeSheet, h]
  rfl

/-! ## What each change does -/

/-- The workbook with a sheet behind the others. -/
def append (w : Workbook) (s : Sheet) : Workbook := { w with sheets := w.sheets ++ [s] }

/-- The workbook with another active index. -/
def withActive (w : Workbook) (index : Nat) : Workbook := { w with active := index }

namespace Update

/-- What follows a look at the workbook is done with what was seen. -/
theorem on_get_bind {α : Type} (f : Workbook → Update α) (w : Workbook) :
    on (get >>= f) w = (f w).on w := rfl

/-- Adding a sheet fails at a name that is taken, before anything has changed. -/
theorem on_add (w : Workbook) (s : Sheet) :
    (add s).on w
      = if s.name ∈ w.names then (.error (.duplicateName s.name), w)
        else (.ok w.sheets.length, w.append s) := by
  by_cases hname : s.name ∈ w.names
  · have hfound : (w.indexOf? s.name).isSome = true := indexOf?_isSome_iff.mpr hname
    rw [if_pos hname, add, on_get_bind, if_pos hfound]
    rfl
  · have hfound : ¬ (w.indexOf? s.name).isSome = true := mt indexOf?_isSome_iff.mp hname
    have hlast : (w.sheets ++ [s]).length - 1 = w.sheets.length := by simp
    rw [if_neg hname, add, on_get_bind, if_neg hfound, ← hlast]
    rfl

theorem on_activate (w : Workbook) (index : Nat) :
    (activate index).on w
      = if index < w.sheets.length then (.ok (), w.withActive index)
        else (.error (.sheetOutOfBounds index w.sheets.length), w) := by
  rw [activate, on_get_bind]
  by_cases hindex : index < w.sheets.length
  · rw [if_pos hindex, if_neg (Nat.not_le.mpr hindex)]
    rfl
  · rw [if_neg hindex, if_pos (Nat.not_lt.mp hindex)]
    rfl

theorem on_select (w : Workbook) (name : String) :
    (select name).on w
      = match w.indexOf? name with
        | none => (.error (.sheetNotFound name), w)
        | some index => (.ok (), w.withActive index) := by
  rw [select, on_get_bind]
  cases w.indexOf? name with
  | none => rfl
  | some index => rfl

end Update

theorem add_eq_ok_iff {w' : Workbook} {s : Sheet} {index : Nat} :
    w.add s = .ok (w', index) ↔
      s.name ∉ w.names ∧ index = w.sheets.length ∧ w' = w.append s := by
  rw [add, Update.result, Update.on_add]
  by_cases hname : s.name ∈ w.names
  · simp [hname, Except.map]
  · simp [hname, Except.map, and_comm, eq_comm]

theorem activate_eq_ok_iff {w' : Workbook} {index : Nat} :
    w.activate index = .ok w' ↔ index < w.sheets.length ∧ w' = w.withActive index := by
  rw [activate, Update.result, Update.on_activate]
  by_cases hindex : index < w.sheets.length
  · simp [hindex, Except.map, eq_comm]
  · simp [hindex, Except.map]

theorem select_eq_ok_iff {w' : Workbook} {name : String} :
    w.select name = .ok w' ↔ ∃ index, w.indexOf? name = some index ∧ w' = w.withActive index := by
  rw [select, Update.result, Update.on_select]
  cases w.indexOf? name with
  | none => simp [Except.map]
  | some index => simp [Except.map, eq_comm]

/-! ## The invariant of workbooks -/

/-- What holds of every workbook that changes lead to. -/
structure Sound (w : Workbook) : Prop where
  nodup : w.names.Nodup
  active : w.active < w.sheets.length ∨ w.sheets = [] ∧ w.active = 0

theorem sound_empty : empty.Sound where
  nodup := List.nodup_nil
  active := .inr ⟨rfl, rfl⟩

theorem sound_single (s : Sheet) : (single s).Sound where
  nodup := List.nodup_singleton s.name
  active := .inl Nat.one_pos

theorem Sound.append (h : w.Sound) {s : Sheet} (hname : s.name ∉ w.names) :
    (w.append s).Sound where
  nodup := by
    have hnames : (w.append s).names = w.names ++ [s.name] := List.map_append
    rw [hnames, List.nodup_append]
    refine ⟨h.nodup, List.nodup_singleton _, fun a ha b hb => ?_⟩
    rw [List.mem_singleton.mp hb]
    rintro rfl
    exact hname ha
  active := by
    have hlength : (w.append s).sheets.length = w.sheets.length + 1 := List.length_append
    -- the first sheet of all is at the index that is active as long as there is none
    rcases h.active with hactive | ⟨-, hactive⟩
    · exact .inl (by rw [hlength]; exact Nat.lt_succ_of_lt hactive)
    · exact .inl (by rw [hlength]; exact hactive ▸ Nat.succ_pos _)

theorem Sound.withActive (h : w.Sound) {index : Nat} (hindex : index < w.sheets.length) :
    (w.withActive index).Sound where
  nodup := h.nodup
  active := .inl hindex

theorem lt_of_indexOf? {name : String} {index : Nat} (h : w.indexOf? name = some index) :
    index < w.sheets.length := by
  obtain ⟨s, hs, -⟩ := sheet?_of_indexOf? h
  exact (List.getElem?_eq_some_iff.mp hs).1

/-- **The names of a sound workbook lead to one sheet each.** -/
theorem Sound.indexOf?_eq_some_iff (h : w.Sound) {name : String} {i : Nat} :
    w.indexOf? name = some i ↔ ∃ s, w.sheet? i = some s ∧ s.name = name := by
  refine ⟨sheet?_of_indexOf?, ?_⟩
  rintro ⟨s, hs, hname⟩
  have hmem : name ∈ w.names := mem_names_iff.mpr ⟨i, s, hs, hname⟩
  obtain ⟨j, hj⟩ := Option.isSome_iff_exists.mp (indexOf?_isSome_iff.mpr hmem)
  obtain ⟨t, ht, hname'⟩ := sheet?_of_indexOf? hj
  -- two indices of one name are the same
  have hnames (k : Nat) (u : Sheet) (hu : w.sheet? k = some u) : w.names[k]? = some u.name := by
    rw [names, List.getElem?_map]
    exact congrArg (Option.map Sheet.name) hu
  have hsame : w.names[i]? = w.names[j]? := by
    rw [hnames i s hs, hnames j t ht, hname, hname']
  have hi : i < w.names.length := (List.getElem?_eq_some_iff.mp (hnames i s hs)).1
  rw [hj, (List.getElem?_inj hi h.nodup).mp hsame]

/-- The active sheet of a sound workbook is there as soon as there is any. -/
theorem Sound.activeSheet_eq_ok (h : w.Sound) (hsheets : w.sheets ≠ []) :
    ∃ s, w.sheet? w.active = some s ∧ w.activeSheet = .ok s := by
  have hactive : w.active < w.sheets.length := by
    rcases h.active with hactive | ⟨hnil, -⟩
    · exact hactive
    · exact absurd hnil hsheets
  have hsheet : w.sheet? w.active = some w.sheets[w.active] := List.getElem?_eq_getElem hactive
  exact ⟨_, hsheet, activeSheet_of_sheet? hsheet⟩

end SheetInspector.Workbook
