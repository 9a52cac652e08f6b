import SheetInspector.Proofs.Sheet.Inspection

set_option autoImplicit false

/-! # A comparison as a patch

A change says what content an address should have: what its descriptor from after describes, or
nothing. Storing that for every change of a comparison takes the sheet from before to one that
does not differ from the sheet from after. The comparison the other way round is the same one
with its sides exchanged.
-/

namespace SheetInspector

theorem Value.agrees_self {v : Value} (h : v ≠ .number .nan) : v.agrees v = true := by
  cases v with
  | number n => exact (Number.agrees_self_iff n).mpr fun hn => h (congrArg Value.number hn)
  | null => rfl
  | boolean b => exact beq_self_eq_true (Value.boolean b)
  | text s => exact beq_self_eq_true (Value.text s)
  | error code => exact beq_self_eq_true (Value.error code)

/-! ## Descriptors and content -/

namespace Descriptor

/-- The content that a descriptor describes: a formula with its result, or a literal. -/
def content (d : Descriptor) : Content :=
  if d.kind = .formula then .formula (d.formula.getD "") (some d.value) else .literal d.value

/-- **Describing content and reading the description back** gives content that looks the same. -/
theorem cell_content (a : Address) (c : Content) : (of a c.cell).content.cell = c.cell := by
  cases c with
  | literal v =>
      have hkind : ¬ (of a (Content.literal v).cell).kind = .formula := Value.kind_ne_formula v
      rw [content, if_neg hkind]
      rfl
  | formula text cached =>
      have hkind : (of a (Content.formula text cached).cell).kind = .formula := rfl
      rw [content, if_pos hkind]
      by_cases htext : text = ""
      · simp [of, Content.cell, Content.value, Content.kind, Content.formulaText?, htext]
      · simp [of, Content.cell, Content.value, Content.kind, Content.formulaText?, htext]

theorem sameContent_self {d : Descriptor} (h : d.value ≠ .number .nan) :
    d.sameContent d = true := by
  simp [sameContent, Value.agrees_self h]

theorem sameContent_comm (d d' : Descriptor) : d.sameContent d' = d'.sameContent d := by
  rw [sameContent, sameContent, Value.agrees_comm, Bool.beq_comm, Bool.beq_comm (a := d.formula)]

end Descriptor

/-! ## The other way round -/

/-- The kind of a change seen from the other side. -/
def ChangeKind.flip : ChangeKind → ChangeKind
  | .added => .removed
  | .removed => .added
  | .modified => .modified

/-- A change with its two sides exchanged. -/
def Change.flip (x : Change) : Change :=
  { x with kind := x.kind.flip, before := x.after, after := x.before }

/-- A comparison with its two sides exchanged. -/
def Comparison.flip (c : Comparison) : Comparison :=
  { extentBefore := c.extentAfter
    extentAfter := c.extentBefore
    changes := c.changes.map Change.flip }

theorem ChangeKind.between?_flip (old new : Option Descriptor) :
    between? new old = (between? old new).map flip := by
  cases old with
  | none =>
      cases new with
      | none => rfl
      | some d' => rfl
  | some d =>
      cases new with
      | none => rfl
      | some d' =>
          rw [between?, between?, Descriptor.sameContent_comm]
          cases d.sameContent d' with
          | true => rfl
          | false => rfl

/-- Where the two sides have one written address, exchanging them exchanges the sides of the
change. -/
theorem Change.between?_flip {a : Address} {old new : Option Descriptor}
    (h : ∀ d d', old = some d → new = some d' → d.reference = d'.reference) :
    between? a new old = (between? a old new).map flip := by
  have hreference : ((new.or old).map Descriptor.reference).getD ""
      = ((old.or new).map Descriptor.reference).getD "" := by
    cases old with
    | none => rw [Option.or_none, Option.none_or]
    | some d =>
        cases new with
        | none => rfl
        | some d' => exact (h d d' rfl rfl).symm
  rw [between?, between?, ChangeKind.between?_flip, hreference, Option.map_map, Option.map_map]
  rfl

/-- Nothing changes between two sides that are the same and can be compared. -/
theorem Change.between?_self {a : Address} {side : Option Descriptor}
    (h : ∀ d, side = some d → d.value ≠ .number .nan) : between? a side side = none := by
  cases side with
  | none => rfl
  | some d =>
      rw [between?, ChangeKind.between?, Descriptor.sameContent_self (h d rfl)]
      rfl

theorem Comparison.ofDescriptors_flip {before after : List Descriptor}
    (h : ∀ a d d', side before a = some d → side after a = some d' → d.reference = d'.reference) :
    ofDescriptors after before = (ofDescriptors before after).flip := by
  have hlooked : looked after before = looked before after := by
    refine (looked_ordered after before).eq_of_mem_iff (looked_ordered before after) fun a => ?_
    rw [mem_looked, mem_looked, or_comm]
  have hchanges : (ofDescriptors after before).changes
      = (ofDescriptors before after).changes.map Change.flip := by
    rw [changes_ofDescriptors, changes_ofDescriptors, hlooked, List.map_filterMap]
    congr 1
    funext a
    exact Change.between?_flip (h a)
  calc ofDescriptors after before
      = ⟨extentOf after, extentOf before, (ofDescriptors after before).changes⟩ := rfl
    _ = (ofDescriptors before after).flip := by
      rw [hchanges]
      rfl

/-! ## Making the changes -/

namespace Change

/-- The content that the address of a change should have: what is there after, or nothing. -/
def content (x : Change) : Content := (x.after.map Descriptor.content).getD (.literal .null)

/-- The change to a sheet that stores it. -/
def edit (x : Change) : SheetEdit := .set x.address x.content

theorem place_edit {x : Change} (h : Extent.largest.Holds x.address) :
    x.edit.place = .ok x.address :=
  SheetEdit.place_eq_ok_iff.mpr ⟨rfl, h⟩

end Change

/-- The changes to a sheet that a comparison asks for, in its order. -/
def Comparison.patch (c : Comparison) : List SheetEdit := c.changes.map Change.edit

namespace Sheet

/-- Making changes at several addresses, each once, stores at each of them and nowhere else. -/
theorem content?_run_edit {xs : List Change} (hxs : ∀ x ∈ xs, Extent.largest.Holds x.address)
    (hnodup : (xs.map Change.address).Nodup) (s : Sheet) :
    (∀ x ∈ xs, (s.run (xs.map Change.edit)).content? x.address = x.content.kept?) ∧
      ∀ a, (∀ x ∈ xs, x.address ≠ a) → (s.run (xs.map Change.edit)).content? a = s.content? a := by
  have hstores : xs.map Change.edit
      = (xs.map fun x => (x.address, x.content)).map fun y => SheetEdit.set y.1 y.2 := by
    rw [List.map_map]
    rfl
  have hholds : ∀ y ∈ xs.map fun x => (x.address, x.content), Extent.largest.Holds y.1 :=
    List.forall_mem_map.mpr hxs
  have haddresses : ((xs.map fun x => (x.address, x.content)).map Prod.fst).Nodup := by
    rw [List.map_map]
    exact hnodup
  obtain ⟨hat, helse⟩ := content?_run_set hholds haddresses s
  rw [hstores]
  exact ⟨List.forall_mem_map.mp hat, fun a ha => helse a (List.forall_mem_map.mpr ha)⟩

/-- Whether no cell of a sheet shows a number that is none. -/
def ShowsNumbers (s : Sheet) : Prop := ∀ x ∈ s.cells, x.2.value ≠ .number .nan

instance (s : Sheet) : Decidable s.ShowsNumbers :=
  inferInstanceAs (Decidable (∀ x ∈ s.cells, _))

theorem ShowsNumbers.value_ne {s : Sheet} (h : s.ShowsNumbers) {a : Address} {d : Descriptor}
    (hd : s.side a = some d) : d.value ≠ .number .nan := by
  obtain ⟨c, hc, rfl, -⟩ := side_eq_some_iff.mp hd
  exact h (a, c) ((CellStore.mem_cells s.stored a c).mpr hc)

/-- The two sides at an address have one written address. -/
theorem reference_of_side {s s' : Sheet} {a : Address} {d d' : Descriptor} (h : s.side a = some d)
    (h' : s'.side a = some d') : d.reference = d'.reference := by
  obtain ⟨c, -, rfl, -⟩ := side_eq_some_iff.mp h
  obtain ⟨c', -, rfl, -⟩ := side_eq_some_iff.mp h'
  rfl

/-- A sheet that stores what a change asks for has the side that the change has after. -/
theorem side_of_content {s b : Sheet} {x : Change} (hx : x.after = b.side x.address)
    (hs : s.content? x.address = x.content.kept?) :
    s.side x.address = b.side x.address := by
  cases hb : b.side x.address with
  | none =>
      have hcontent : x.content = .literal .null := by rw [Change.content, hx, hb]; rfl
      rw [hcontent] at hs
      rw [side, hs]
      rfl
  | some d =>
      obtain ⟨c, -, rfl, hblank⟩ := side_eq_some_iff.mp hb
      have hcontent : x.content = (Descriptor.of x.address c.cell).content := by
        rw [Change.content, hx, hb]
        rfl
      have hcell : x.content.cell = c.cell := by
        rw [hcontent, Descriptor.cell_content]
      -- what stands for nothing is described as blank
      have hnull : x.content ≠ .literal .null := by
        intro hnull
        rw [← hcell, hnull] at hblank
        cases hblank
      rw [Content.kept?, if_neg hnull] at hs
      exact side_eq_some_iff.mpr ⟨x.content, hs, by rw [hcell], hblank⟩

variable {a b : Sheet}

theorem Sound.ofDescriptors_flip (ha : a.Sound) (hb : b.Sound) :
    Comparison.ofDescriptors b.descriptors a.descriptors
      = (Comparison.ofDescriptors a.descriptors b.descriptors).flip := by
  refine Comparison.ofDescriptors_flip fun p d d' hd hd' => ?_
  rw [ha.side_descriptors] at hd
  rw [hb.side_descriptors] at hd'
  exact reference_of_side hd hd'

/-- The changes between two sound sheets are those between what they store. -/
theorem Sound.mem_changes (ha : a.Sound) (hb : b.Sound) {x : Change} :
    x ∈ (Comparison.ofDescriptors a.descriptors b.descriptors).changes ↔
      Change.between? x.address (a.side x.address) (b.side x.address) = some x := by
  rw [Comparison.mem_changes, ha.side_descriptors, hb.side_descriptors]

/-- A change lies in one of the two sheets, so it can be made to any. -/
theorem Sound.holds_of_mem_changes (ha : a.Sound) (hb : b.Sound) {x : Change}
    (hx : x ∈ (Comparison.ofDescriptors a.descriptors b.descriptors).changes) :
    Extent.largest.Holds x.address := by
  have hx := (ha.mem_changes hb).mp hx
  cases hold : a.side x.address with
  | some d =>
      obtain ⟨c, hc, -⟩ := side_eq_some_iff.mp hold
      exact ha.holds_largest hc
  | none =>
      cases hnew : b.side x.address with
      | some d =>
          obtain ⟨c, hc, -⟩ := side_eq_some_iff.mp hnew
          exact hb.holds_largest hc
      | none =>
          rw [hold, hnew] at hx
          cases hx

/-- **What the changes lead to**: at every address the sheet then has no other side than the sheet
from after, up to what a comparison does not tell apart. -/
theorem Sound.between?_patched (ha : a.Sound) (hb : b.Sound) (hnumbers : b.ShowsNumbers)
    (p : Address) :
    Change.between? p
      ((a.run (Comparison.ofDescriptors a.descriptors b.descriptors).patch).side p) (b.side p)
        = none := by
  obtain ⟨hat, helse⟩ := content?_run_edit (fun x hx => ha.holds_of_mem_changes hb hx)
    (Comparison.ordered_ofDescriptors a.descriptors b.descriptors).nodup a
  cases hbetween : Change.between? p (a.side p) (b.side p) with
  | some x =>
      obtain rfl := Change.address_of_between? hbetween
      have hx := (ha.mem_changes hb).mpr hbetween
      have hside := side_of_content (Change.tells_of_between? hbetween).after (hat x hx)
      rw [Comparison.patch, hside]
      exact Change.between?_self fun d hd => hnumbers.value_ne hd
  | none =>
      have hne : ∀ x ∈ (Comparison.ofDescriptors a.descriptors b.descriptors).changes,
          x.address ≠ p := by
        rintro x hx rfl
        rw [(ha.mem_changes hb).mp hx] at hbetween
        cases hbetween
      -- nothing is stored where nothing changes, so the side is the one before
      rw [Comparison.patch, side, helse p hne]
      exact hbetween

end Sheet

/-- What makes a comparison of two sheets a patch from one to the other. -/
structure Comparison.Reconciles (c : Comparison) (a b : Sheet) : Prop where
  compares : ofGrids a.grid b.grid = .ok c
  /-- Every change of the comparison can be made, and what they lead to does not differ. -/
  patches : ∃ (s : Sheet) (rest : Comparison), c.patch.foldlM Sheet.edit a = .ok s ∧
    ofGrids s.grid b.grid = .ok rest ∧ rest.changes = [] ∧
      ∀ p, ¬ ∃ kind, ChangeKind.Between (s.side p) (b.side p) kind
  /-- The other way round the sides are exchanged, and nothing else. -/
  reverses : ofGrids b.grid a.grid = .ok c.flip
  extentBefore : c.extentBefore = a.extent
  extentAfter : c.extentAfter = b.extent

theorem Sheet.Sound.patches {a b : Sheet} (ha : a.Sound) (hb : b.Sound)
    (hnumbers : b.ShowsNumbers) :
    ∃ (s : Sheet) (rest : Comparison),
      (Comparison.ofDescriptors a.descriptors b.descriptors).patch.foldlM Sheet.edit a = .ok s ∧
        Comparison.ofGrids s.grid b.grid = .ok rest ∧ rest.changes = [] ∧
          ∀ p, ¬ ∃ kind, ChangeKind.Between (s.side p) (b.side p) kind := by
  have hplaces : ∀ e ∈ (Comparison.ofDescriptors a.descriptors b.descriptors).patch,
      ∃ p, e.place = .ok p := by
    intro e he
    obtain ⟨x, hx, rfl⟩ := List.mem_map.mp he
    exact ⟨_, Change.place_edit (ha.holds_of_mem_changes hb hx)⟩
  refine ⟨_, _, Sheet.foldlM_edit hplaces a, Sheet.ofGrids_grid _ b, ?_,
    fun p => Change.between?_eq_none_iff.mp (ha.between?_patched hb hnumbers p)⟩
  refine List.eq_nil_iff_forall_not_mem.mpr fun x hx => ?_
  have hbetween := ((ha.run _).mem_changes hb).mp hx
  rw [ha.between?_patched hb hnumbers] at hbetween
  cases hbetween

/-- **A comparison is a complete and reversible patch.** For any two sheets that changes lead to,
the one from after showing no number that is none: making the changes of their comparison to the
sheet from before leaves no difference, comparing the other way round exchanges the sides, and
the two extents are those of the sheets. -/
theorem Comparison.reconciles_runs (name name' : String) (edits edits' : List SheetEdit)
    (hnumbers : ((Sheet.new name').run edits').ShowsNumbers) :
    ∃ c : Comparison, c.Reconciles ((Sheet.new name).run edits) ((Sheet.new name').run edits') := by
  have ha := Sheet.sound_run name edits
  have hb := Sheet.sound_run name' edits'
  exact ⟨_, {
    compares := Sheet.ofGrids_grid _ _
    patches := ha.patches hb hnumbers
    reverses := by rw [Sheet.ofGrids_grid, ha.ofDescriptors_flip hb]
    extentBefore := ha.extentOf_descriptors
    extentAfter := hb.extentOf_descriptors }⟩

/-- A formula without a text, a formula whose result went away, and a cell that was cleared. -/
theorem Comparison.reconciles_cleared :
    ((Sheet.new "after").run
      [.set ⟨1, 1⟩ (.formula "" (some (.boolean true))), .set ⟨2, 1⟩ (.formula "=A1" none),
        .setValue ⟨5, 3⟩ (.text "x"), .setValue ⟨5, 3⟩ .null]).ShowsNumbers ∧
      ∃ c : Comparison, c.Reconciles
        ((Sheet.new "before").run
          [.set ⟨2, 1⟩ (.formula "=A1" (some (.number .nan))), .setValue ⟨5, 3⟩ (.text "x")])
        ((Sheet.new "after").run
          [.set ⟨1, 1⟩ (.formula "" (some (.boolean true))), .set ⟨2, 1⟩ (.formula "=A1" none),
            .setValue ⟨5, 3⟩ (.text "x"), .setValue ⟨5, 3⟩ .null]) :=
  ⟨by decide +kernel, reconciles_runs "before" "after" _ _ (by decide +kernel)⟩

end SheetInspector
