import SheetInspector.Proofs.Xlsx.CellText

set_option autoImplicit false

/-! # What an event of a part does

The state of reading a part has a sheet, a position, a pending cell and four flags. What an event
can do to all of these but the flags is little, whatever stands around it: a row moves the position
on, a cell begins, ends or is stored at once, a text is taken in, and everything else passes.
`Moves` lists the ways, and `moves_of_step` says that there are no others, so what holds of every
run is shown way by way.
-/

namespace SheetInspector.Xlsx

namespace SheetScan

/-- Which elements of a cell have begun. -/
def scope (s : SheetScan) : Scope := ⟨s.inValue, s.inFormula, s.inInline, s.inInlineText⟩

/-- A state with a pending cell is one within a cell. -/
theorem eq_within {s : SheetScan} {c : PendingCell} (h : s.pending = some c) :
    s = s.within s.scope c := by
  rw [within, scope, ← h]

/-- Whether two states differ in their flags at most. -/
structure SameBut (s s' : SheetScan) : Prop where
  sheet : s'.sheet = s.sheet
  row : s'.row = s.row
  column : s'.column = s.column
  pending : s'.pending = s.pending

theorem SameBut.refl (s : SheetScan) : s.SameBut s := ⟨rfl, rfl, rfl, rfl⟩

/-- What an event does. -/
inductive Moves (shared : Array String) (s s' : SheetScan) : Xml.Event → Prop
  /-- A row begins. -/
  | row {e : Xml.Event} {tag : Xml.Tag} {row : Nat} (he : e = .start tag ∨ e = .empty tag)
      (hkind : SheetElement.of tag.name = .row) (hrow : rowNumber tag s.row = .ok row)
      (hs : s' = { s with row, column := 0 }) : Moves shared s s' e
  /-- A cell begins, in place of any that is pending. -/
  | begins {tag : Xml.Tag} {c : PendingCell} (hkind : SheetElement.of tag.name = .cell)
      (hstart : PendingCell.start s.row s.column tag = .ok c)
      (hs : s' = { s with pending := some c }) : Moves shared s s' (.start tag)
  /-- A cell that is a single tag is stored, and leaves one around it pending. -/
  | single {tag : Xml.Tag} {c : PendingCell} {sheet : Sheet}
      (hkind : SheetElement.of tag.name = .cell)
      (hstart : PendingCell.start s.row s.column tag = .ok c)
      (hfinish : c.finish shared s.sheet = .ok sheet)
      (hs : s' = { s with sheet, column := c.address.column }) : Moves shared s s' (.empty tag)
  /-- The pending cell ends and is stored. -/
  | ends {name : Bytes} {c : PendingCell} {sheet : Sheet} (hkind : SheetElement.of name = .cell)
      (hpending : s.pending = some c) (hfinish : c.finish shared s.sheet = .ok sheet)
      (hs : s' = { s with sheet, column := c.address.column, pending := none }) :
      Moves shared s s' (.finish name)
  /-- A text that counts is taken in. -/
  | takes {raw : Bytes} {role : TextRole} {c c' : PendingCell} (hpending : s.pending = some c)
      (hrole : s.scope.role? = some role) (htake : c.take (role, raw) = .ok c')
      (hs : s' = { s with pending := some c' }) : Moves shared s s' (.text raw)
  /-- A text that does not count is passed over, or one outside of cells. -/
  | skips {raw : Bytes} (h : s.pending = none ∨ s.scope.role? = none) (hs : s' = s) :
      Moves shared s s' (.text raw)
  /-- The end of a row, and of a cell where none is pending, is passed over. -/
  | closes {name : Bytes} (h : SheetElement.of name = .row ∨
        SheetElement.of name = .cell ∧ s.pending = none) (hs : s' = s) :
      Moves shared s s' (.finish name)
  /-- Other tags move flags, and asides nothing. -/
  | passes {e : Xml.Event} (he : e.Apart rowOrCell) (htext : ∀ raw, e ≠ .text raw)
      (hs : s.SameBut s') : Moves shared s s' e

variable {shared : Array String} {s s' : SheetScan}

theorem moves_of_startElement {tag : Xml.Tag} (h : s.startElement tag = .ok s') :
    Moves shared s s' (.start tag) := by
  rw [startElement] at h
  cases hk : SheetElement.of tag.name with
  | row =>
      rw [hk] at h
      obtain ⟨row, hrow, rfl⟩ := map_eq_ok_iff.mp h
      exact .row (.inl rfl) hk hrow rfl
  | cell =>
      rw [hk] at h
      obtain ⟨c, hstart, rfl⟩ := map_eq_ok_iff.mp h
      exact .begins hk hstart rfl
  | _ =>
      have hapart : rowOrCell tag.name = false := rowOrCell_eq_false_iff.mpr (by simp [hk])
      rw [hk] at h
      cases h
      exact .passes (Xml.Event.apart_of_name hapart rfl) (by simp) ⟨rfl, rfl, rfl, rfl⟩

theorem moves_of_emptyElement {tag : Xml.Tag} (h : s.emptyElement shared tag = .ok s') :
    Moves shared s s' (.empty tag) := by
  rw [emptyElement] at h
  cases hk : SheetElement.of tag.name with
  | row =>
      rw [hk] at h
      obtain ⟨row, hrow, rfl⟩ := map_eq_ok_iff.mp h
      exact .row (.inr rfl) hk hrow rfl
  | cell =>
      rw [hk] at h
      obtain ⟨c, hstart, hrest⟩ := bind_eq_ok_iff.mp h
      obtain ⟨mid, hstore, hpure⟩ := bind_eq_ok_iff.mp hrest
      obtain ⟨sheet, hfinish, rfl⟩ := map_eq_ok_iff.mp hstore
      cases hpure
      exact .single hk hstart hfinish rfl
  | _ =>
      have hapart : rowOrCell tag.name = false := rowOrCell_eq_false_iff.mpr (by simp [hk])
      rw [hk] at h
      cases h
      exact .passes (Xml.Event.apart_of_name hapart rfl) (by simp) (.refl s)

theorem moves_of_endElement {name : Bytes} (h : s.endElement shared name = .ok s') :
    Moves shared s s' (.finish name) := by
  rw [endElement] at h
  cases hk : SheetElement.of name with
  | row =>
      rw [hk] at h
      cases h
      exact .closes (.inl hk) rfl
  | cell =>
      rw [hk] at h
      cases hpending : s.pending with
      | none =>
          rw [hpending] at h
          cases h
          exact .closes (.inr ⟨hk, hpending⟩) rfl
      | some c =>
          rw [hpending] at h
          obtain ⟨sheet, hfinish, rfl⟩ := map_eq_ok_iff.mp h
          exact .ends hk hpending hfinish rfl
  | _ =>
      have hapart : rowOrCell name = false := rowOrCell_eq_false_iff.mpr (by simp [hk])
      rw [hk] at h
      cases h
      exact .passes (Xml.Event.apart_of_name hapart rfl) (by simp) ⟨rfl, rfl, rfl, rfl⟩

theorem moves_of_readText {raw : Bytes} (h : s.readText raw = .ok s') :
    Moves shared s s' (.text raw) := by
  cases hpending : s.pending with
  | none =>
      rw [readText, hpending] at h
      cases h
      exact .skips (.inl hpending) rfl
  | some c =>
      -- with a cell pending, the flags alone say what the text is part of
      rw [eq_within hpending, readText_within] at h
      cases hrole : s.scope.role? with
      | none =>
          rw [hrole] at h
          cases h
          exact .skips (.inr hrole) (eq_within hpending).symm
      | some role =>
          rw [hrole] at h
          obtain ⟨c', htake, rfl⟩ := map_eq_ok_iff.mp h
          exact .takes hpending hrole htake rfl

/-- **An event does one of these.** -/
theorem moves_of_step {e : Xml.Event} (h : s.step shared e = .ok s') : Moves shared s s' e := by
  cases e with
  | start tag => exact moves_of_startElement h
  | empty tag => exact moves_of_emptyElement h
  | finish name => exact moves_of_endElement h
  | text raw => exact moves_of_readText h
  | aside =>
      cases h
      exact .passes nofun nofun (.refl s)

end SheetScan

end SheetInspector.Xlsx
