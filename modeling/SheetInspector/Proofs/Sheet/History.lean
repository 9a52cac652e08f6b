import SheetInspector.Proofs.Sheet.Edit

set_option autoImplicit false

/-! # The plain account of a sheet

A sheet keeps its content in rows and its extent apart from it. The plain account of the same
history is a finite map from addresses to content that is not null, and the set of the addresses
ever mentioned. `run_refines_plain` says that after any history of changes, with failing ones
anywhere in it, reading a sheet is reading the plain account, that the account is what the
history says it is, and what the next change can do.
-/

namespace SheetInspector

/-- A finite map from addresses to content that is not null, and the addresses mentioned. -/
structure PlainSheet where
  content : Address → Option Content
  touched : Finset Address
  ne_null : ∀ a c, content a = some c → c ≠ .literal .null
  mem_touched : ∀ a c, content a = some c → a ∈ touched

namespace PlainSheet

/-- The account of a sheet without cells. -/
def empty : PlainSheet where
  content := fun _ => none
  touched := ∅
  ne_null := by simp
  mem_touched := by simp

/-- The account after an address is mentioned. -/
def touch (p : PlainSheet) (a : Address) : PlainSheet where
  content := p.content
  touched := insert a p.touched
  ne_null := p.ne_null
  mem_touched := fun b c h => Finset.mem_insert_of_mem (p.mem_touched b c h)

/-- The account after content is stored at an address, where null stands for nothing. -/
def put (p : PlainSheet) (a : Address) (content : Content) : PlainSheet where
  content := Function.update p.content a (if content = .literal .null then none else some content)
  touched := insert a p.touched
  ne_null := by
    intro b c h
    by_cases hb : b = a
    · subst hb
      rw [Function.update_self] at h
      split at h
      · cases h
      · cases h
        assumption
    · rw [Function.update_of_ne hb] at h
      exact p.ne_null b c h
  mem_touched := by
    intro b c h
    by_cases hb : b = a
    · subst hb
      exact Finset.mem_insert_self _ _
    · rw [Function.update_of_ne hb] at h
      exact Finset.mem_insert_of_mem (p.mem_touched b c h)

/-- The account after a change; one that fails leaves it as it is. -/
def edit (p : PlainSheet) (e : SheetEdit) : PlainSheet :=
  match e.place, e.content? with
  | .error _, _ => p
  | .ok a, none => p.touch a
  | .ok a, some content => p.put a content

/-- The account of a history of changes to a sheet without cells. -/
def ofEdits (edits : List SheetEdit) : PlainSheet := edits.foldl edit empty

/-- The number of addresses that hold content. -/
def size (p : PlainSheet) : Nat := (p.touched.filter fun a => (p.content a).isSome).card

theorem ofEdits_concat (edits : List SheetEdit) (e : SheetEdit) :
    ofEdits (edits ++ [e]) = (ofEdits edits).edit e := by
  rw [ofEdits, List.foldl_append]
  rfl

end PlainSheet

/-! ## What the history says -/

namespace SheetEdit

/-- The addresses at which the changes of a history succeed. -/
def places (edits : List SheetEdit) : List Address := edits.filterMap fun e => e.place.toOption

/-- Changes that all succeed do so at the addresses they name. -/
theorem places_map {α : Type} {edit : α → SheetEdit} {address : α → Address} {xs : List α}
    (h : ∀ x ∈ xs, (edit x).place = .ok (address x)) : places (xs.map edit) = xs.map address := by
  induction xs with
  | nil => rfl
  | cons x xs ih =>
      obtain ⟨hx, hxs⟩ := List.forall_mem_cons.mp h
      rw [places, List.map_cons, List.filterMap_cons, hx, List.map_cons]
      exact congrArg (address x :: ·) (ih hxs)

/-- The address and the content that a change stores, if it succeeds and stores any. -/
def stores? (e : SheetEdit) : Option (Address × Content) :=
  match e.place, e.content? with
  | .ok a, some content => some (a, content)
  | _, _ => none

/-- The content that the last successful store of a history at an address gave it. -/
def lastStored (edits : List SheetEdit) (a : Address) : Option Content :=
  ((edits.filterMap stores?).filter fun x => x.1 = a).getLast?.map Prod.snd

theorem lastStored_concat (edits : List SheetEdit) (e : SheetEdit) (a : Address) :
    lastStored (edits ++ [e]) a
      = match e.stores? with
        | none => lastStored edits a
        | some (b, c) => if b = a then some c else lastStored edits a := by
  cases h : e.stores? with
  | none => simp [lastStored, List.filterMap_append, h]
  | some x =>
      obtain ⟨b, c⟩ := x
      by_cases hb : b = a
      · simp [lastStored, List.filterMap_append, h, hb]
      · simp [lastStored, List.filterMap_append, h, hb]

theorem places_concat (edits : List SheetEdit) (e : SheetEdit) :
    places (edits ++ [e]) = places edits ++ e.place.toOption.toList := by
  rw [places, List.filterMap_append]
  cases h : e.place with
  | error fault => simp [h, places, Except.toOption]
  | ok a => simp [h, places, Except.toOption]

end SheetEdit

namespace PlainSheet

/-- The account of a history holds what was stored last, unless that was null. -/
theorem content_ofEdits (edits : List SheetEdit) (a : Address) :
    (ofEdits edits).content a
      = (SheetEdit.lastStored edits a).filter fun c => c ≠ .literal .null := by
  induction edits using List.reverseRecOn with
  | nil => rfl
  | append_singleton edits e ih =>
      rw [ofEdits_concat, SheetEdit.lastStored_concat]
      cases hp : e.place with
      | error fault => simpa only [edit, SheetEdit.stores?, hp] using ih
      | ok b =>
          cases hc : e.content? with
          | none => simpa only [edit, SheetEdit.stores?, hp, hc, touch] using ih
          | some c =>
              simp only [edit, SheetEdit.stores?, hp, hc, put]
              by_cases hb : b = a
              · subst hb
                rw [Function.update_self, if_pos rfl]
                by_cases hnull : c = .literal .null
                · simp [Option.filter, hnull]
                · simp [Option.filter, hnull]
              · rw [Function.update_of_ne (Ne.symm hb), if_neg hb]
                exact ih

/-- The account of a history mentions the addresses at which its changes succeed. -/
theorem touched_ofEdits (edits : List SheetEdit) :
    (ofEdits edits).touched = (SheetEdit.places edits).toFinset := by
  induction edits using List.reverseRecOn with
  | nil => rfl
  | append_singleton edits e ih =>
      rw [ofEdits_concat, SheetEdit.places_concat, List.toFinset_append, ← ih]
      cases hp : e.place with
      | error fault => simp [edit, hp, Except.toOption]
      | ok a =>
          cases hc : e.content? with
          | none => simp [edit, hp, hc, touch, Except.toOption]
          | some c => simp [edit, hp, hc, put, Except.toOption]

end PlainSheet

/-! ## Reading a sheet is reading its account -/

/-- What refinement rests on: the content and the extent of a sheet are those of an account. -/
structure Sheet.Agrees (s : Sheet) (p : PlainSheet) : Prop where
  content : ∀ a, s.content? a = p.content a
  rows : s.extent.rows = p.touched.sup Address.row
  columns : s.extent.columns = p.touched.sup Address.column

/-- Everything that can be read of a sheet, in terms of its account. The extent is the greatest
row and the greatest column mentioned, zero where there is none. -/
structure Sheet.Shows (s : Sheet) (p : PlainSheet) : Prop extends s.Agrees p where
  mem_cells : ∀ a c, (a, c) ∈ s.cells ↔ p.content a = some c
  cells_ordered : Address.Ordered (s.cells.map Prod.fst)
  cellCount : s.cellCount = p.size
  length_cells : s.cells.length = p.size
  cell_of_holds : ∀ a, s.extent.Holds a →
    s.cell a = .ok (((p.content a).map Content.cell).getD .blank)
  cell_of_not_holds : ∀ a, ¬ s.extent.Holds a →
    ∃ fault, s.cell a = .error fault ∧ fault.isOutOfBounds = true

/-- What one change does to a sheet, seen from outside. -/
structure SheetEdit.Behaves (e : SheetEdit) (s : Sheet) : Prop where
  /-- It fails exactly where its address cannot be read or lies outside the largest extent. -/
  fails_iff : (∃ fault, (e.write.on s).1 = .error fault) ↔
    (∃ fault, e.target = .error fault) ∨ ∃ a, e.target = .ok a ∧ ¬ Extent.largest.Holds a
  /-- The fault of a written address is that of reading it. -/
  target_fault : ∀ fault, e.target = .error fault → (e.write.on s).1 = .error fault
  /-- The fault of any other address is its position. -/
  bounds_fault : ∀ a fault, e.target = .ok a → (e.write.on s).1 = .error fault →
    fault.isOutOfBounds = true
  /-- A change that fails leaves everything as it is. -/
  unchanged : ∀ fault, (e.write.on s).1 = .error fault → (e.write.on s).2 = s
  /-- No other address holds anything else afterwards. -/
  elsewhere : ∀ a, e.target ≠ .ok a → (e.write.on s).2.content? a = s.content? a
  /-- The extent does not shrink. -/
  grows : s.extent.rows ≤ (e.write.on s).2.extent.rows ∧
    s.extent.columns ≤ (e.write.on s).2.extent.columns

namespace Sheet

theorem agrees_new (name : String) : (new name).Agrees .empty where
  content := fun a => CellStore.find?_empty a
  rows := rfl
  columns := rfl

theorem Agrees.touch {s : Sheet} {p : PlainSheet} (h : s.Agrees p) (a : Address) :
    (s.mention a none).Agrees (p.touch a) where
  content := h.content
  rows := by
    rw [extent_mention, PlainSheet.touch, Finset.sup_insert, ← h.rows]
    exact Nat.max_comm _ _
  columns := by
    rw [extent_mention, PlainSheet.touch, Finset.sup_insert, ← h.columns]
    exact Nat.max_comm _ _

theorem Agrees.put {s : Sheet} {p : PlainSheet} (h : s.Agrees p) (a : Address) (c : Content) :
    (s.mention a (some c)).Agrees (p.put a c) where
  content := by
    intro b
    rw [content?_mention, h.content b]
    by_cases hb : a = b
    · subst hb
      simp [PlainSheet.put, Content.kept?]
    · simp [PlainSheet.put, hb, Function.update_of_ne (Ne.symm hb)]
  rows := (h.touch a).rows
  columns := (h.touch a).columns

/-- **The step of the refinement**: a change takes a sheet and its account to a sheet and its
account. -/
theorem Agrees.edit {s : Sheet} {p : PlainSheet} (h : s.Agrees p) (e : SheetEdit) :
    (e.write.on s).2.Agrees (p.edit e) := by
  cases hp : e.place with
  | error fault =>
      rw [on_write_of_error hp, PlainSheet.edit, hp]
      exact h
  | ok a =>
      rw [on_write_of_ok hp]
      cases hc : e.content? with
      | none =>
          rw [PlainSheet.edit, hp, hc]
          exact h.touch a
      | some c =>
          rw [PlainSheet.edit, hp, hc]
          exact h.put a c

theorem agrees_run (name : String) (edits : List SheetEdit) :
    ((new name).run edits).Agrees (PlainSheet.ofEdits edits) := by
  induction edits using List.reverseRecOn with
  | nil => exact agrees_new name
  | append_singleton edits e ih =>
      rw [run_concat, PlainSheet.ofEdits_concat]
      exact ih.edit e

theorem Agrees.mem_cells {s : Sheet} {p : PlainSheet} (h : s.Agrees p) (a : Address)
    (c : Content) : (a, c) ∈ s.cells ↔ p.content a = some c := by
  rw [cells, CellStore.mem_cells, ← h.content a]
  rfl

/-- The cells listed are those of the account, so there are as many. -/
theorem Agrees.length_cells {s : Sheet} {p : PlainSheet} (h : s.Agrees p) :
    s.cells.length = p.size := by
  have hnodup : (s.cells.map Prod.fst).Nodup := (CellStore.cells_ordered s.stored).nodup
  rw [PlainSheet.size, ← List.length_map Prod.fst, ← List.toFinset_card_of_nodup hnodup]
  congr 1
  ext a
  rw [List.mem_toFinset, List.mem_map, Finset.mem_filter, Option.isSome_iff_exists]
  constructor
  · rintro ⟨⟨b, c⟩, hbc, rfl⟩
    have hc := (h.mem_cells b c).mp hbc
    exact ⟨p.mem_touched b c hc, c, hc⟩
  · rintro ⟨-, c, hc⟩
    exact ⟨(a, c), (h.mem_cells a c).mpr hc, rfl⟩

theorem Agrees.shows {s : Sheet} {p : PlainSheet} (h : s.Agrees p) : s.Shows p where
  toAgrees := h
  mem_cells := h.mem_cells
  cells_ordered := CellStore.cells_ordered s.stored
  cellCount := (CellStore.count_eq_length_cells s.stored).trans h.length_cells
  length_cells := h.length_cells
  cell_of_holds := by
    intro a ha
    rw [Sheet.cell_of_holds ha, h.content a]
  cell_of_not_holds := fun _ ha => Sheet.cell_of_not_holds ha

end Sheet

namespace SheetEdit

theorem on_write_fst (e : SheetEdit) (s : Sheet) :
    (e.write.on s).1 = e.place.map fun _ => () := by
  rw [Sheet.on_write]
  cases e.place with
  | error fault => rfl
  | ok a => rfl

theorem place_of_fails {e : SheetEdit} {s : Sheet} {fault : SheetFault}
    (h : (e.write.on s).1 = .error fault) : e.place = .error fault := by
  rw [on_write_fst] at h
  cases hp : e.place with
  | error fault' =>
      rw [hp] at h
      cases h
      rfl
  | ok a =>
      rw [hp] at h
      cases h

/-- **What one change does**, at any sheet. -/
theorem behaves (e : SheetEdit) (s : Sheet) : e.Behaves s where
  fails_iff := by
    rw [← place_fails_iff]
    constructor
    · rintro ⟨fault, h⟩
      exact ⟨fault, place_of_fails h⟩
    · rintro ⟨fault, h⟩
      exact ⟨fault, by rw [Sheet.on_write_of_error h]⟩
  target_fault := by
    intro fault h
    rw [Sheet.on_write_of_error (place_of_target_error h)]
  bounds_fault := by
    intro a fault ht h
    have hp := place_of_fails h
    rw [place_of_target_ok ht] at hp
    by_cases ha : Extent.largest.Holds a
    · rw [Extent.check_of_holds ha] at hp
      cases hp
    · obtain ⟨fault', hcheck, hbounds⟩ := Extent.check_of_not_holds ha
      rw [hcheck] at hp
      cases hp
      exact hbounds
  unchanged := by
    intro fault h
    rw [Sheet.on_write_of_error (place_of_fails h)]
  elsewhere := by
    intro b hb
    cases hp : e.place with
    | error fault => rw [Sheet.on_write_of_error hp]
    | ok a =>
        have hab : a ≠ b := by
          rintro rfl
          exact hb (place_eq_ok_iff.mp hp).1
        rw [Sheet.on_write_of_ok hp, Sheet.content?_mention]
        cases e.content? with
        | none => rfl
        | some c => exact if_neg hab
  grows := by
    cases hp : e.place with
    | error fault =>
        rw [Sheet.on_write_of_error hp]
        exact ⟨le_refl _, le_refl _⟩
    | ok a =>
        rw [Sheet.on_write_of_ok hp]
        exact ⟨Nat.le_max_left _ _, Nat.le_max_left _ _⟩

end SheetEdit

/-- **A sheet refines its plain account.** After any history of changes, with any that fail among
them, a sheet shows what its account says; an address holds what the last successful store gave
it, unless that was null; the addresses mentioned are those at which a change succeeded; and the
next change, whatever it is, behaves as `SheetEdit.Behaves` says. -/
theorem run_refines_plain (name : String) (edits : List SheetEdit) :
    ((Sheet.new name).run edits).Shows (PlainSheet.ofEdits edits) ∧
      (∀ a, (PlainSheet.ofEdits edits).content a
        = (SheetEdit.lastStored edits a).filter fun c => c ≠ .literal .null) ∧
      (PlainSheet.ofEdits edits).touched = (SheetEdit.places edits).toFinset ∧
      ∀ e : SheetEdit, e.Behaves ((Sheet.new name).run edits) :=
  ⟨(Sheet.agrees_run name edits).shows, PlainSheet.content_ofEdits edits,
    PlainSheet.touched_ofEdits edits, fun e => e.behaves _⟩

example :
    let s := (Sheet.new "sheet").run
      [.setValue ⟨3, 2⟩ (.text "x"), .setValue ⟨0, 9⟩ (.text "y"), .setValue ⟨3, 2⟩ .null]
    s.cells = [] ∧ s.extent = ⟨3, 2⟩ := by
  decide +kernel

end SheetInspector
