import SheetInspector.Proofs.Workbook.Edit

set_option autoImplicit false

/-! # Histories of a workbook

A workbook begins without sheets or with a single one, and is then changed any number of times,
with changes that fail anywhere among them. `consistent_run` says what holds of it at any time: its
names are different, its active index leads to a sheet unless there is none, the look-ups by name,
by index and by active index agree, and what the next change can do.
-/

namespace SheetInspector

/-- Whether a change fits a workbook: a new name, the index of a sheet, or the name of one. -/
def WorkbookEdit.Fits (w : Workbook) : WorkbookEdit → Prop
  | .add s => s.name ∉ w.names
  | .activate index => index < w.sheets.length
  | .select name => name ∈ w.names

namespace Workbook

/-- Whether a workbook is another one with a sheet added, which both its index and its name lead
to. -/
structure Adds (w w' : Workbook) (s : Sheet) (index : Nat) : Prop where
  /-- The sheets that were there stay where they are. -/
  sheets : w'.sheets = w.sheets ++ [s]
  active : w'.active = w.active
  sheet : w'.sheet? index = some s
  found : w'.indexOf? s.name = some index

/-- Whether a workbook is another one with the sheet of a name as its active one. -/
structure Selects (w w' : Workbook) (name : String) : Prop where
  sheets : w'.sheets = w.sheets
  /-- No other index leads to a sheet with the name. -/
  active : ∃ s, w'.activeSheet = .ok s ∧ s.name = name ∧
    ∀ i t, w'.sheet? i = some t → t.name = name → i = w'.active ∧ t = s

/-- What holds of a workbook at any time, and of the next change to it. -/
structure Consistent (w : Workbook) : Prop where
  names_nodup : w.names.Nodup
  active_lt : w.active < w.sheets.length ∨ w.sheets = [] ∧ w.active = 0
  /-- There is an active sheet as soon as there is any, and it is the one at the active index. -/
  activeSheet_iff : (∃ s, w.activeSheet = .ok s) ↔ w.sheets ≠ []
  sheet_active : ∀ s, w.activeSheet = .ok s → w.sheet? w.active = some s
  /-- The active index is never out of bounds. -/
  activeSheet_fault : ∀ fault, w.activeSheet = .error fault → fault = .noSheets
  indexOf_iff : ∀ name i, w.indexOf? name = some i ↔ ∃ s, w.sheet? i = some s ∧ s.name = name
  sheetNamed_iff : ∀ name s, w.sheetNamed? name = some s ↔ s ∈ w.sheets ∧ s.name = name
  /-- A change succeeds exactly if it fits, and otherwise leaves everything as it is. -/
  succeeds_iff : ∀ e : WorkbookEdit, (e.update.on w).1 = .ok () ↔ e.Fits w
  unchanged : ∀ (e : WorkbookEdit) fault, (e.update.on w).1 = .error fault →
    (e.update.on w).2 = w
  add : ∀ s index w', (Update.add s).on w = (.ok index, w') → w.Adds w' s index
  activate : ∀ index w', (Update.activate index).on w = (.ok (), w') →
    w'.sheets = w.sheets ∧ w'.active = index
  select : ∀ name w', (Update.select name).on w = (.ok (), w') → w.Selects w' name

variable {w : Workbook}

/-! ## One change -/

/-- Adding a sheet without asking for its index is adding it. -/
theorem on_update_add (w : Workbook) (s : Sheet) :
    (WorkbookEdit.add s).update.on w
      = (((Update.add s).on w).1.map fun _ => (), ((Update.add s).on w).2) := by
  show ExceptT.bindCont (m := StateM Workbook) (fun _ => pure ()) ((Update.add s).on w).1
    ((Update.add s).on w).2 = _
  cases ((Update.add s).on w).1 with
  | ok index => rfl
  | error fault => rfl

/-- **A change that fits succeeds; any other fails and leaves the workbook.** -/
theorem on_update (w : Workbook) (e : WorkbookEdit) :
    (e.Fits w → (e.update.on w).1 = .ok ()) ∧
      (¬ e.Fits w → ∃ fault, e.update.on w = (.error fault, w)) := by
  cases e with
  | add s =>
      rw [on_update_add, Update.on_add]
      by_cases hname : s.name ∈ w.names
      · rw [if_pos hname]
        exact ⟨fun hfits => absurd hname hfits, fun _ => ⟨_, rfl⟩⟩
      · rw [if_neg hname]
        exact ⟨fun _ => rfl, fun hfits => absurd hname hfits⟩
  | activate index =>
      have hon : (WorkbookEdit.activate index).update.on w = (Update.activate index).on w := rfl
      rw [hon, Update.on_activate]
      by_cases hindex : index < w.sheets.length
      · rw [if_pos hindex]
        exact ⟨fun _ => rfl, fun hfits => absurd hindex hfits⟩
      · rw [if_neg hindex]
        exact ⟨fun hfits => absurd hfits hindex, fun _ => ⟨_, rfl⟩⟩
  | select name =>
      have hon : (WorkbookEdit.select name).update.on w = (Update.select name).on w := rfl
      have hfits : (WorkbookEdit.select name).Fits w ↔ (w.indexOf? name).isSome :=
        indexOf?_isSome_iff.symm
      rw [hon, Update.on_select, hfits]
      cases w.indexOf? name with
      | none => simp
      | some index => simp

/-- **Changes keep workbooks sound.** -/
theorem Sound.update (h : w.Sound) (e : WorkbookEdit) : (e.update.on w).2.Sound := by
  cases e with
  | add s =>
      rw [on_update_add, Update.on_add]
      by_cases hname : s.name ∈ w.names
      · rw [if_pos hname]
        exact h
      · rw [if_neg hname]
        exact h.append hname
  | activate index =>
      show ((Update.activate index).on w).2.Sound
      rw [Update.on_activate]
      by_cases hindex : index < w.sheets.length
      · rw [if_pos hindex]
        exact h.withActive hindex
      · rw [if_neg hindex]
        exact h
  | select name =>
      show ((Update.select name).on w).2.Sound
      rw [Update.on_select]
      cases hindex : w.indexOf? name with
      | none => exact h
      | some index => exact h.withActive (lt_of_indexOf? hindex)

/-- **Any number of changes keeps a workbook sound.** -/
theorem Sound.run (h : w.Sound) (edits : List WorkbookEdit) : (w.run edits).Sound := by
  induction edits generalizing w with
  | nil => exact h
  | cons e edits ih => exact ih (h.update e)

/-! ## What soundness gives -/

theorem Sound.adds (h : w.Sound) {s : Sheet} (hname : s.name ∉ w.names) :
    w.Adds (w.append s) s w.sheets.length := by
  have hsheet : (w.append s).sheet? w.sheets.length = some s := List.getElem?_concat_length
  exact
    { sheets := rfl
      active := rfl
      sheet := hsheet
      found := (h.append hname).indexOf?_eq_some_iff.mpr ⟨s, hsheet, rfl⟩ }

theorem Sound.selects (h : w.Sound) {name : String} {index : Nat}
    (hindex : w.indexOf? name = some index) : w.Selects (w.withActive index) name := by
  obtain ⟨s, hs, hname⟩ := sheet?_of_indexOf? hindex
  refine ⟨rfl, s, activeSheet_of_sheet? hs, hname, fun i t ht htname => ?_⟩
  have hi : w.indexOf? name = some i := h.indexOf?_eq_some_iff.mpr ⟨t, ht, htname⟩
  have hsame : i = index := Option.some.inj (hi.symm.trans hindex)
  subst hsame
  exact ⟨rfl, Option.some.inj (ht.symm.trans hs)⟩

theorem Sound.sheetNamed?_eq_some_iff (h : w.Sound) {name : String} {s : Sheet} :
    w.sheetNamed? name = some s ↔ s ∈ w.sheets ∧ s.name = name := by
  rw [sheetNamed?_eq_bind, Option.bind_eq_some_iff]
  constructor
  · rintro ⟨i, hi, hs⟩
    obtain ⟨t, ht, hname⟩ := sheet?_of_indexOf? hi
    obtain rfl : t = s := Option.some.inj (ht.symm.trans hs)
    exact ⟨List.mem_of_getElem? hs, hname⟩
  · rintro ⟨hs, hname⟩
    obtain ⟨i, hi⟩ := List.mem_iff_getElem?.mp hs
    exact ⟨i, h.indexOf?_eq_some_iff.mpr ⟨s, hi, hname⟩, hi⟩

theorem Sound.consistent (h : w.Sound) : w.Consistent where
  names_nodup := h.nodup
  active_lt := h.active
  activeSheet_iff := by
    constructor
    · rintro ⟨s, hs⟩ hnil
      rw [activeSheet_of_nil hnil] at hs
      cases hs
    · intro hsheets
      obtain ⟨s, -, hs⟩ := h.activeSheet_eq_ok hsheets
      exact ⟨s, hs⟩
  sheet_active := by
    intro s hs
    by_cases hsheets : w.sheets = []
    · rw [activeSheet_of_nil hsheets] at hs
      cases hs
    · obtain ⟨t, ht, htok⟩ := h.activeSheet_eq_ok hsheets
      rw [htok] at hs
      cases hs
      exact ht
  activeSheet_fault := by
    intro fault hfault
    by_cases hsheets : w.sheets = []
    · rw [activeSheet_of_nil hsheets] at hfault
      cases hfault
      rfl
    · obtain ⟨s, -, hs⟩ := h.activeSheet_eq_ok hsheets
      rw [hs] at hfault
      cases hfault
  indexOf_iff := fun _ _ => h.indexOf?_eq_some_iff
  sheetNamed_iff := fun _ _ => h.sheetNamed?_eq_some_iff
  succeeds_iff := by
    intro e
    obtain ⟨hsucceeds, hfails⟩ := on_update w e
    refine ⟨fun hok => ?_, hsucceeds⟩
    by_contra hfits
    obtain ⟨fault, hfault⟩ := hfails hfits
    rw [hfault] at hok
    cases hok
  unchanged := by
    intro e fault hfault
    obtain ⟨hsucceeds, hfails⟩ := on_update w e
    by_cases hfits : e.Fits w
    · rw [hsucceeds hfits] at hfault
      cases hfault
    · obtain ⟨fault', hunchanged⟩ := hfails hfits
      rw [hunchanged]
  add := by
    intro s index w' hadd
    rw [Update.on_add] at hadd
    by_cases hname : s.name ∈ w.names
    · rw [if_pos hname] at hadd
      cases hadd
    · rw [if_neg hname] at hadd
      cases hadd
      exact h.adds hname
  activate := by
    intro index w' hactivate
    rw [Update.on_activate] at hactivate
    by_cases hindex : index < w.sheets.length
    · rw [if_pos hindex] at hactivate
      cases hactivate
      exact ⟨rfl, rfl⟩
    · rw [if_neg hindex] at hactivate
      cases hactivate
  select := by
    intro name w' hselect
    rw [Update.on_select] at hselect
    cases hindex : w.indexOf? name with
    | none =>
        rw [hindex] at hselect
        cases hselect
    | some index =>
        rw [hindex] at hselect
        cases hselect
        exact h.selects hindex

/-- **Every workbook that changes lead to is consistent**, whether it begins without sheets or with
a single one, and whatever the changes are. -/
theorem consistent_run (edits : List WorkbookEdit) :
    (empty.run edits).Consistent ∧ ∀ s : Sheet, ((single s).run edits).Consistent :=
  ⟨(sound_empty.run edits).consistent, fun s => ((sound_single s).run edits).consistent⟩

/-- A sheet of a name that is taken and an index behind the last sheet change nothing. -/
example :
    let w := empty.run
      [.activate 0, .add (.new "A"), .add (.new "B"), .activate 1, .add (.new "A"), .activate 2]
    w.names = ["A", "B"] ∧ w.active = 1 := by
  decide +kernel

end Workbook

end SheetInspector
