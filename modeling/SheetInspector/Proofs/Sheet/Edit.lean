import SheetInspector.Proofs.Extent
import SheetInspector.Proofs.Sheet.CellStore

set_option autoImplicit false

/-! # Changes to a sheet

Six kinds of change, one effect: a change names an address, and where that can be read and lies
in the largest extent, the sheet mentions the address and stores the content given for it, if
any. `on_write` says this of all six, faults included; the frame facts and the invariant `Sound`
of the sheets that changes lead to are read off it.
-/

namespace SheetInspector

/-- What is left of content once it is stored: the null literal stands for nothing. -/
def Content.kept? (c : Content) : Option Content := if c = .literal .null then none else some c

theorem Content.kept?_eq (c : Content) : c.kept? = if c.isNull then none else some c := by
  simp only [kept?, isNull_iff]

namespace SheetEdit

/-- The address a change names; a written address may not be one. -/
def target : SheetEdit → Except SheetFault Address
  | .set a _ => .ok a
  | .setValue a _ => .ok a
  | .setFormula a _ => .ok a
  | .setValueAt address _ => Address.parse address
  | .setFormulaAt address _ => Address.parse address
  | .touch a => .ok a

/-- The content a change stores; a touch stores none. -/
def content? : SheetEdit → Option Content
  | .set _ content => some content
  | .setValue _ value => some (.literal value)
  | .setFormula _ text => some (.formula text none)
  | .setValueAt _ value => some (.literal value)
  | .setFormulaAt _ text => some (.formula text none)
  | .touch _ => none

/-- The address a change succeeds at, or the fault it ends in. -/
def place (e : SheetEdit) : Except SheetFault Address := do
  let a ← e.target
  Extent.largest.check a
  return a

theorem place_of_target_error {e : SheetEdit} {fault : SheetFault} (h : e.target = .error fault) :
    e.place = .error fault := by
  rw [place, h]
  rfl

theorem place_of_target_ok {e : SheetEdit} {a : Address} (h : e.target = .ok a) :
    e.place = (Extent.largest.check a).map fun _ => a := by
  rw [place, h]
  rfl

theorem place_eq_ok_iff {e : SheetEdit} {a : Address} :
    e.place = .ok a ↔ e.target = .ok a ∧ Extent.largest.Holds a := by
  cases ht : e.target with
  | error fault => simp [place_of_target_error ht]
  | ok b =>
      rw [place_of_target_ok ht]
      by_cases hb : Extent.largest.Holds b
      · rw [Extent.check_of_holds hb]
        constructor
        · intro h
          cases h
          exact ⟨rfl, hb⟩
        · rintro ⟨h, -⟩
          exact h
      · obtain ⟨fault, hfault, -⟩ := Extent.check_of_not_holds hb
        rw [hfault]
        constructor
        · intro h
          cases h
        · rintro ⟨h, ha⟩
          cases h
          exact absurd ha hb

/-- A change fails where its address cannot be read or lies outside the largest extent. -/
theorem place_fails_iff (e : SheetEdit) :
    (∃ fault, e.place = .error fault) ↔
      (∃ fault, e.target = .error fault) ∨ ∃ a, e.target = .ok a ∧ ¬ Extent.largest.Holds a := by
  cases ht : e.target with
  | error fault => simp [place_of_target_error ht]
  | ok a =>
      rw [place_of_target_ok ht]
      by_cases ha : Extent.largest.Holds a
      · rw [Extent.check_of_holds ha]
        simp [Except.map, ha]
      · obtain ⟨fault, hfault, -⟩ := Extent.check_of_not_holds ha
        rw [hfault]
        simp [Except.map, ha]

end SheetEdit

namespace Sheet

/-! ## Reading a cell -/

/-- A cell of the extent that stores nothing is blank. -/
theorem cell_of_holds {s : Sheet} {a : Address} (h : s.extent.Holds a) :
    s.cell a = .ok (((s.content? a).map Content.cell).getD .blank) := by
  rw [cell, Extent.check_of_holds h]
  rfl

theorem cell_of_not_holds {s : Sheet} {a : Address} (h : ¬ s.extent.Holds a) :
    ∃ fault, s.cell a = .error fault ∧ fault.isOutOfBounds = true := by
  obtain ⟨fault, hfault, hbounds⟩ := Extent.check_of_not_holds h
  refine ⟨fault, ?_, hbounds⟩
  rw [cell, hfault]
  rfl

/-! ## Mentioning an address -/

/-- The sheet with an address mentioned and content stored at it, if any is given. -/
def mention (s : Sheet) (a : Address) (content : Option Content) : Sheet :=
  { s with
    stored := content.elim s.stored (s.stored.store a)
    extent := s.extent.cover a }

/-- What an address holds once another is mentioned. -/
theorem content?_mention (s : Sheet) (a b : Address) (content : Option Content) :
    (s.mention a content).content? b
      = content.elim (s.content? b) fun c => if a = b then c.kept? else s.content? b := by
  cases content with
  | none => rfl
  | some c =>
      rw [Option.elim, Content.kept?_eq]
      exact CellStore.find?_store s.stored a b c

@[simp] theorem extent_mention (s : Sheet) (a : Address) (content : Option Content) :
    (s.mention a content).extent = s.extent.cover a := rfl

/-! ## One effect for all changes -/

/-- What the writes that are given an address do: the check alone decides. -/
def mentionChecked (s : Sheet) (a : Address) (content : Option Content) :
    Except SheetFault Unit × Sheet :=
  match Extent.largest.check a with
  | .error fault => (.error fault, s)
  | .ok () => (.ok (), s.mention a content)

theorem on_touch (s : Sheet) (a : Address) : (Write.touch a).on s = s.mentionChecked a none := by
  cases h : Extent.largest.check a with
  | error fault =>
      simp only [Write.on, Write.touch, mentionChecked, h]
      rfl
  | ok u =>
      simp only [Write.on, Write.touch, mentionChecked, h]
      rfl

theorem on_set (s : Sheet) (a : Address) (c : Content) :
    (Write.set a c).on s = s.mentionChecked a (some c) := by
  cases h : Extent.largest.check a with
  | error fault =>
      simp only [Write.on, Write.set, Write.touch, mentionChecked, h]
      rfl
  | ok u =>
      simp only [Write.on, Write.set, Write.touch, mentionChecked, h]
      rfl

/-- A write at a written address reads the address first. -/
theorem on_written (s : Sheet) (address : String) (w : Address → Write) :
    Write.on (do w (← Address.parse address)) s
      = match Address.parse address with
        | .error fault => (.error fault, s)
        | .ok a => (w a).on s := by
  cases h : Address.parse address with
  | error fault => rfl
  | ok a => rfl

theorem on_write_target (s : Sheet) (e : SheetEdit) :
    e.write.on s
      = match e.target with
        | .error fault => (.error fault, s)
        | .ok a => s.mentionChecked a e.content? := by
  cases e with
  | set a c => exact on_set s a c
  | setValue a value => exact on_set s a (.literal value)
  | setFormula a text => exact on_set s a (.formula text none)
  | touch a => exact on_touch s a
  | setValueAt address value =>
      refine (on_written s address fun a => .setValue a value).trans ?_
      simp only [SheetEdit.target]
      cases Address.parse address with
      | error fault => rfl
      | ok a => exact on_set s a (.literal value)
  | setFormulaAt address text =>
      refine (on_written s address fun a => .setFormula a text).trans ?_
      simp only [SheetEdit.target]
      cases Address.parse address with
      | error fault => rfl
      | ok a => exact on_set s a (.formula text none)

/-- **What a change does**: it ends in the fault of its address and leaves the sheet as it is, or
it succeeds and its address is mentioned, with the content it stores. -/
theorem on_write (s : Sheet) (e : SheetEdit) :
    e.write.on s
      = match e.place with
        | .error fault => (.error fault, s)
        | .ok a => (.ok (), s.mention a e.content?) := by
  rw [on_write_target]
  cases ht : e.target with
  | error fault => rw [SheetEdit.place_of_target_error ht]
  | ok a =>
      rw [SheetEdit.place_of_target_ok ht]
      cases hc : Extent.largest.check a with
      | error fault => simp only [mentionChecked, hc, Except.map]
      | ok u => simp only [mentionChecked, hc, Except.map]

theorem on_write_of_error {s : Sheet} {e : SheetEdit} {fault : SheetFault}
    (h : e.place = .error fault) : e.write.on s = (.error fault, s) := by
  rw [on_write, h]

theorem on_write_of_ok {s : Sheet} {e : SheetEdit} {a : Address} (h : e.place = .ok a) :
    e.write.on s = (.ok (), s.mention a e.content?) := by
  rw [on_write, h]

theorem edit_of_ok {s : Sheet} {e : SheetEdit} {a : Address} (h : e.place = .ok a) :
    s.edit e = .ok (s.mention a e.content?) := by
  rw [edit, Write.result, on_write_of_ok h]

theorem set_of_holds {a : Address} (h : Extent.largest.Holds a) (s : Sheet) (c : Content) :
    s.set a c = .ok (s.mention a (some c)) := by
  have hplace : (SheetEdit.set a c).place = .ok a := SheetEdit.place_eq_ok_iff.mpr ⟨rfl, h⟩
  exact edit_of_ok (e := .set a c) hplace

/-- Where nothing can be stored, the fault is the same for all sheets and contents. -/
theorem set_of_not_holds {a : Address} (h : ¬ Extent.largest.Holds a) :
    ∃ fault, ∀ (s : Sheet) (c : Content), s.set a c = .error fault := by
  obtain ⟨fault, hcheck, -⟩ := Extent.check_of_not_holds h
  refine ⟨fault, fun s c => ?_⟩
  have hplace : (SheetEdit.set a c).place = .error fault := by
    rw [SheetEdit.place_of_target_ok rfl, hcheck]
    rfl
  show (SheetEdit.set a c).write.result s = _
  rw [Write.result, on_write_of_error hplace]

/-! ## Runs -/

theorem run_cons (s : Sheet) (e : SheetEdit) (edits : List SheetEdit) :
    s.run (e :: edits) = (e.write.on s).2.run edits := rfl

/-- A change that succeeds leaves what a run of it alone leaves. -/
theorem edit_eq_ok {s s' : Sheet} {e : SheetEdit} (h : s.edit e = .ok s') :
    (∃ a, e.place = .ok a) ∧ s' = s.run [e] := by
  cases hplace : e.place with
  | error fault =>
      rw [edit, Write.result, on_write_of_error hplace] at h
      cases h
  | ok a =>
      rw [edit_of_ok hplace] at h
      cases h
      refine ⟨⟨a, rfl⟩, ?_⟩
      rw [run_cons, on_write_of_ok hplace]
      rfl

theorem run_concat (s : Sheet) (edits : List SheetEdit) (e : SheetEdit) :
    s.run (edits ++ [e]) = (e.write.on (s.run edits)).2 := by
  rw [run, List.foldl_append]
  rfl

/-- What holds of a sheet and is kept by every mention of an address in the largest extent holds
of the sheet that any sequence of changes leaves. -/
theorem run_induct {s : Sheet} {motive : Sheet → Prop} (start : motive s)
    (step : ∀ s a content, motive s → Extent.largest.Holds a → motive (s.mention a content))
    (edits : List SheetEdit) : motive (s.run edits) := by
  induction edits using List.reverseRecOn with
  | nil => exact start
  | append_singleton edits e ih =>
      rw [run_concat]
      -- a change that fails leaves the sheet, so only a mention needs the step
      cases hp : e.place with
      | error fault =>
          rw [on_write_of_error hp]
          exact ih
      | ok a =>
          rw [on_write_of_ok hp]
          exact step _ a _ ih (SheetEdit.place_eq_ok_iff.mp hp).2

/-- Where no change fails, making them one after the other leads to what they leave. -/
theorem foldlM_edit {edits : List SheetEdit} (h : ∀ e ∈ edits, ∃ a, e.place = .ok a) (s : Sheet) :
    edits.foldlM edit s = .ok (s.run edits) := by
  induction edits generalizing s with
  | nil => rfl
  | cons e edits ih =>
      obtain ⟨a, ha⟩ := h e List.mem_cons_self
      rw [List.foldlM_cons, edit_of_ok ha, run_cons, on_write_of_ok ha]
      exact ih (fun e' he' => h e' (List.mem_cons_of_mem e he')) _

/-- A sequence of changes that succeeds is one in which none fails. -/
theorem foldlM_edit_eq_ok {edits : List SheetEdit} {s s' : Sheet}
    (h : edits.foldlM edit s = .ok s') :
    (∀ e ∈ edits, ∃ a, e.place = .ok a) ∧ s' = s.run edits := by
  induction edits generalizing s with
  | nil =>
      cases h
      exact ⟨by simp, rfl⟩
  | cons e edits ih =>
      rw [List.foldlM_cons] at h
      cases hmid : s.edit e with
      | error fault =>
          rw [hmid] at h
          cases h
      | ok mid =>
          rw [hmid] at h
          obtain ⟨he, rfl⟩ := edit_eq_ok hmid
          obtain ⟨hrest, hrun⟩ := ih h
          exact ⟨List.forall_mem_cons.mpr ⟨he, hrest⟩, hrun⟩

/-- The first change that fails ends a sequence of them in its fault. -/
theorem foldlM_edit_of_error {before : List SheetEdit} {e : SheetEdit} {fault : SheetFault}
    (hbefore : ∀ e' ∈ before, ∃ a, e'.place = .ok a) (he : e.place = .error fault)
    (after : List SheetEdit) (s : Sheet) :
    (before ++ e :: after).foldlM edit s = .error fault := by
  have hfails (s' : Sheet) : s'.edit e = .error fault := by
    rw [edit, Write.result, on_write_of_error he]
  rw [List.foldlM_append, foldlM_edit hbefore s]
  show (e :: after).foldlM edit (s.run before) = _
  rw [List.foldlM_cons, hfails]
  rfl

/-- Storing at several addresses, each once, stores at each of them and nowhere else. -/
theorem content?_run_set {xs : List (Address × Content)}
    (hxs : ∀ x ∈ xs, Extent.largest.Holds x.1) (hnodup : (xs.map Prod.fst).Nodup) (s : Sheet) :
    (∀ x ∈ xs, (s.run (xs.map fun x => .set x.1 x.2)).content? x.1 = x.2.kept?) ∧
      ∀ a, (∀ x ∈ xs, x.1 ≠ a) →
        (s.run (xs.map fun x => .set x.1 x.2)).content? a = s.content? a := by
  induction xs generalizing s with
  | nil => exact ⟨by simp, fun _ _ => rfl⟩
  | cons x xs ih =>
      obtain ⟨hx, hrest⟩ := List.forall_mem_cons.mp hxs
      obtain ⟨hnot, hnodup⟩ := List.nodup_cons.mp hnodup
      have hplace : (SheetEdit.set x.1 x.2).place = .ok x.1 :=
        SheetEdit.place_eq_ok_iff.mpr ⟨rfl, hx⟩
      rw [List.map_cons, run_cons, on_write_of_ok hplace]
      obtain ⟨hat, helse⟩ := ih hrest hnodup (s.mention x.1 (some x.2))
      constructor
      · intro y hy
        rcases List.mem_cons.mp hy with rfl | hy
        · -- nothing after the first change comes back to its address
          have hne : ∀ z ∈ xs, z.1 ≠ y.1 := fun z hz h => hnot (h ▸ List.mem_map_of_mem hz)
          refine (helse y.1 hne).trans ((content?_mention _ _ _ _).trans ?_)
          exact if_pos rfl
        · exact hat y hy
      · intro a ha
        obtain ⟨hxa, hxsa⟩ := List.forall_mem_cons.mp ha
        refine (helse a hxsa).trans ((content?_mention _ _ _ _).trans ?_)
        exact if_neg hxa

/-! ## The invariant of sheets -/

/-- What holds of every sheet that changes lead to: the extent lies in the largest one and has
rows exactly where it has columns, and content is stored inside it only. -/
structure Sound (s : Sheet) : Prop where
  rows_le : s.extent.rows ≤ maxRows
  columns_le : s.extent.columns ≤ maxColumns
  rows_eq_zero_iff : s.extent.rows = 0 ↔ s.extent.columns = 0
  holds_of_content : ∀ a c, s.content? a = some c → s.extent.Holds a

theorem Sound.holds_largest {s : Sheet} (h : s.Sound) {a : Address} {c : Content}
    (hc : s.content? a = some c) : Extent.largest.Holds a := by
  obtain ⟨hrow, hrows, hcolumn, hcolumns⟩ := h.holds_of_content a c hc
  exact ⟨hrow, le_trans hrows h.rows_le, hcolumn, le_trans hcolumns h.columns_le⟩

theorem sound_new (name : String) : (new name).Sound where
  rows_le := Nat.zero_le _
  columns_le := Nat.zero_le _
  rows_eq_zero_iff := Iff.rfl
  holds_of_content := by
    intro a c h
    rw [content?, new, CellStore.find?_empty] at h
    cases h

theorem Sound.mention {s : Sheet} (h : s.Sound) {a : Address} (ha : Extent.largest.Holds a)
    (content : Option Content) : (s.mention a content).Sound where
  rows_le := Nat.max_le.mpr ⟨h.rows_le, ha.2.1⟩
  columns_le := Nat.max_le.mpr ⟨h.columns_le, ha.2.2.2⟩
  rows_eq_zero_iff := by
    have hrow := ha.1
    have hcolumn := ha.2.2.1
    show max s.extent.rows a.row = 0 ↔ max s.extent.columns a.column = 0
    omega
  holds_of_content := by
    intro b c hb
    by_cases hab : a = b
    · subst hab
      exact Extent.cover_holds_self ha
    · refine (h.holds_of_content b c ?_).cover a
      rw [content?_mention] at hb
      cases content with
      | none => exact hb
      | some d => simpa only [Option.elim, if_neg hab] using hb

theorem Sound.run {s : Sheet} (h : s.Sound) (edits : List SheetEdit) : (s.run edits).Sound :=
  run_induct h (fun _ _ content hs ha => hs.mention ha content) edits

/-- **Every sheet that changes lead to is sound.** -/
theorem sound_run (name : String) (edits : List SheetEdit) : ((new name).run edits).Sound :=
  (sound_new name).run edits

/-! ## Sheets that changes lead to -/

/-- Whether a sheet is what changes make of an empty one with a name. -/
def Made (name : String) (s : Sheet) : Prop := ∃ edits, s = (new name).run edits

variable {name : String} {s s' : Sheet}

theorem made_new (name : String) : (new name).Made name := ⟨[], rfl⟩

theorem Made.sound (h : s.Made name) : s.Sound := by
  obtain ⟨edits, rfl⟩ := h
  exact sound_run name edits

/-- No change touches the name. -/
theorem Made.name_eq (h : s.Made name) : s.name = name := by
  obtain ⟨edits, rfl⟩ := h
  exact run_induct (motive := fun s => s.name = name) rfl (fun _ _ _ hs _ => hs) edits

end Sheet

end SheetInspector
