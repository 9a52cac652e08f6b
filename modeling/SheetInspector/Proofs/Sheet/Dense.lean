import SheetInspector.Proofs.Address.Written
import SheetInspector.Proofs.Command.Report

set_option autoImplicit false

/-! # The dense view of a sheet

A sheet stores the cells that hold something; inspecting it describes every cell of its extent.
`Represents` says how the two agree: what is not blank in the one is what can be seen in the
other, in the same order, and so are the formulas. The two are listed independently, one by
looking up every address of the extent and one by walking what is stored, so the argument is that
both lists are in order and have the same members (`Sound.filterMap_descriptors`).
-/

namespace SheetInspector

/-- Whether something can be seen where this content is stored: a value, or the text of a formula or
its result. -/
def Content.Visible : Content → Prop
  | .literal v => v ≠ .null
  | .formula text cached => text ≠ "" ∨ cached ≠ none ∧ cached ≠ some .null

instance (c : Content) : Decidable c.Visible :=
  match c with
  | .literal _ => inferInstanceAs (Decidable (_ ≠ _))
  | .formula _ _ => inferInstanceAs (Decidable (_ ∨ _ ∧ _))

/-- What can be seen is in the cell that is read. -/
theorem Content.visible_iff {c : Content} :
    c.Visible ↔ c.value ≠ .null ∨ c.formulaText? ≠ none := by
  rw [formulaText?_ne_none_iff]
  cases c with
  | literal v => simp [Visible, value]
  | formula text cached => cases cached <;> simp [Visible, value, or_comm]

/-- How the descriptors of all cells of a sheet agree with what the sheet stores. -/
structure Sheet.Represents (s : Sheet) (ds : List Descriptor) : Prop where
  /-- Every address of the extent is described, row by row. -/
  addresses : ds.map Descriptor.address = s.extent.places
  /-- What is not blank is what can be seen of the stored cells. -/
  filled : ds.filter (fun d => !d.isBlank)
    = (s.cells.filter fun x => x.2.Visible).map fun x => Descriptor.of x.1 x.2.cell
  /-- The formulas described are the formulas stored. -/
  formulas : ds.filterMap (fun d => d.formula.map (d.address, ·)) = s.formulas
  length_formulas : (ds.filter fun d => d.formula.isSome).length = s.formulas.length
  /-- Where nothing is stored the cell is blank. -/
  blank : ∀ d ∈ ds, s.content? d.address = none → d = Descriptor.of d.address .blank
  kind_formula_iff : ∀ d ∈ ds, d.kind = .formula ↔
    ∃ text cached, s.content? d.address = some (.formula text cached)
  kind_of_ne_formula : ∀ d ∈ ds, d.kind ≠ .formula → d.kind = d.value.kind
  anomaly_iff : ∀ d ∈ ds, d.anomaly.isSome ↔
    ∃ text, d.formula = some text ∧ MarkerAnomaly.leadingMarkers text ≠ 1
  /-- Every written address is read back. -/
  reference : ∀ d ∈ ds, Address.parse d.reference = .ok d.address

namespace MarkerAnomaly

theorem detect?_isSome_iff (text : String) :
    (detect? text).isSome ↔ leadingMarkers text ≠ 1 := by
  rw [detect?]
  split
  · rename_i h
    simp [h]
  · rename_i h
    simp [h]
  · rename_i h
    simpa using h

end MarkerAnomaly

namespace Descriptor

theorem isBlank_of_blank (a : Address) : (of a .blank).isBlank = true := rfl

theorem isBlank_cell_eq_false_iff {a : Address} {c : Content} :
    (of a c.cell).isBlank = false ↔ c.Visible := by
  have hvalue : (of a c.cell).value = c.value := rfl
  have hformula : (of a c.cell).formula = c.formulaText? := rfl
  rw [isBlank_eq_false_iff, hvalue, hformula, Content.visible_iff]

end Descriptor

namespace Sheet

/-- The addresses of the extent at which something is stored are those listed. -/
theorem Sound.filter_places {s : Sheet} (h : s.Sound) :
    s.extent.places.filter (fun a => (s.content? a).isSome) = s.cells.map Prod.fst := by
  refine Address.Ordered.eq_of_mem_iff ?_ (CellStore.cells_ordered s.stored) fun a => ?_
  · exact (Extent.places_ordered s.extent).sublist List.filter_sublist
  · rw [List.mem_filter, Extent.mem_places, Option.isSome_iff_exists, List.mem_map]
    constructor
    · rintro ⟨-, c, hc⟩
      exact ⟨(a, c), (CellStore.mem_cells s.stored a c).mpr hc, rfl⟩
    · rintro ⟨⟨b, c⟩, hbc, rfl⟩
      have hc := (CellStore.mem_cells s.stored b c).mp hbc
      exact ⟨h.holds_of_content b c hc, c, hc⟩

/-- **Going through the extent is going through what is stored**, for whatever is made of the
descriptors, if it makes nothing of a blank cell. -/
theorem Sound.filterMap_descriptors {β : Type} {s : Sheet} (h : s.Sound)
    {f : Descriptor → Option β} (hf : ∀ a, f (Descriptor.of a .blank) = none) :
    s.descriptors.filterMap f = s.cells.filterMap fun x => f (Descriptor.of x.1 x.2.cell) := by
  have hblank (a : Address) (ha : s.content? a = none) : f (s.descriptor a) = none := by
    rw [descriptor, ha]
    exact hf a
  calc s.descriptors.filterMap f
      = s.extent.places.filterMap fun a => f (s.descriptor a) := by
        rw [descriptors, List.filterMap_map]
        rfl
    _ = (s.extent.places.filter fun a => (s.content? a).isSome).filterMap
          fun a => f (s.descriptor a) := by
        rw [List.filterMap_filter]
        refine List.filterMap_congr fun a _ => ?_
        cases hc : s.content? a with
        | none => simp [hblank a hc]
        | some c => simp
    _ = s.cells.filterMap fun x => f (Descriptor.of x.1 x.2.cell) := by
        rw [h.filter_places, List.filterMap_map]
        refine List.filterMap_congr fun x hx => ?_
        have hc : s.content? x.1 = some x.2 := (CellStore.mem_cells s.stored x.1 x.2).mp hx
        rw [Function.comp_apply, descriptor, hc]
        rfl

theorem Sound.filter_descriptors {s : Sheet} (h : s.Sound) :
    s.descriptors.filter (fun d => !d.isBlank)
      = (s.cells.filter fun x => x.2.Visible).map fun x => Descriptor.of x.1 x.2.cell := by
  rw [← List.filterMap_eq_filter, h.filterMap_descriptors fun a => by
    simp [Option.guard, Descriptor.isBlank_of_blank], ← List.filterMap_eq_map,
    List.filterMap_filter]
  refine List.filterMap_congr fun x _ => ?_
  by_cases hx : x.2.Visible
  · simp [Option.guard, Descriptor.isBlank_cell_eq_false_iff.mpr hx, hx]
  · have hblank := mt (Descriptor.isBlank_cell_eq_false_iff (a := x.1)).mp hx
    simp [Option.guard, hblank, hx]

theorem Sound.formulas_descriptors {s : Sheet} (h : s.Sound) :
    s.descriptors.filterMap (fun d => d.formula.map (d.address, ·)) = s.formulas := by
  rw [h.filterMap_descriptors fun a => rfl]
  rfl

theorem Sound.length_formulas {s : Sheet} (h : s.Sound) :
    (s.descriptors.filter fun d => d.formula.isSome).length = s.formulas.length := by
  rw [← h.formulas_descriptors, List.length_filterMap_eq_countP, List.countP_eq_length_filter]
  simp only [Option.isSome_map]

theorem mem_descriptors {s : Sheet} {d : Descriptor} (hd : d ∈ s.descriptors) :
    s.extent.Holds d.address ∧ d = s.descriptor d.address := by
  obtain ⟨a, ha, rfl⟩ := List.mem_map.mp hd
  exact ⟨Extent.mem_places.mp ha, rfl⟩

theorem kind_descriptor_eq_formula_iff (s : Sheet) (a : Address) :
    (s.descriptor a).kind = .formula ↔
      ∃ text cached, s.content? a = some (.formula text cached) := by
  cases hc : s.content? a with
  | none => simp [descriptor, hc, Descriptor.of, Cell.blank]
  | some c =>
      cases c with
      | literal v =>
          simpa [descriptor, hc, Descriptor.of, Content.cell, Content.kind]
            using Value.kind_ne_formula v
      | formula text cached => simp [descriptor, hc, Descriptor.of, Content.cell, Content.kind]

theorem kind_descriptor_of_ne {s : Sheet} {a : Address} (h : (s.descriptor a).kind ≠ .formula) :
    (s.descriptor a).kind = (s.descriptor a).value.kind := by
  cases hc : s.content? a with
  | none =>
      rw [descriptor, hc]
      rfl
  | some c =>
      cases c with
      | literal v =>
          rw [descriptor, hc]
          rfl
      | formula text cached =>
          exact absurd ((s.kind_descriptor_eq_formula_iff a).mpr ⟨text, cached, hc⟩) h

theorem Sound.represents {s : Sheet} (h : s.Sound) : s.Represents s.descriptors where
  addresses := map_address_descriptors s
  filled := h.filter_descriptors
  formulas := h.formulas_descriptors
  length_formulas := h.length_formulas
  blank := by
    intro d hd hnone
    rw [(mem_descriptors hd).2, descriptor, hnone]
    rfl
  kind_formula_iff := by
    intro d hd
    rw [(mem_descriptors hd).2]
    exact s.kind_descriptor_eq_formula_iff _
  kind_of_ne_formula := by
    intro d hd hne
    rw [(mem_descriptors hd).2] at hne ⊢
    exact kind_descriptor_of_ne hne
  anomaly_iff := by
    intro d hd
    rw [(mem_descriptors hd).2]
    have hanomaly (a : Address) :
        (s.descriptor a).anomaly = (s.descriptor a).formula.bind MarkerAnomaly.detect? := rfl
    rw [hanomaly]
    cases (s.descriptor d.address).formula with
    | none => simp
    | some text => simp [MarkerAnomaly.detect?_isSome_iff]
  reference := by
    intro d hd
    obtain ⟨hholds, hsame⟩ := mem_descriptors hd
    have hlargest : Extent.largest.Holds d.address :=
      ⟨hholds.1, le_trans hholds.2.1 h.rows_le, hholds.2.2.1, le_trans hholds.2.2.2 h.columns_le⟩
    have hreference : d.reference = d.address.text := congrArg Descriptor.reference hsame
    rw [hreference]
    exact Address.parse_text hlargest

/-- Whether the two commands that count the formulas of a sheet agree, wherever it is the active
one of a file: one counts what it inspects, the other what is stored. -/
def CountedAlike (s : Sheet) : Prop :=
  ∀ storage o input w, (Work.load storage o input).result = .ok w → w.activeSheet = .ok s →
    ∃ formulas findings summary,
      (Work.report storage o (.check input)).result
        = .ok (.check (s.label input) formulas findings) ∧
      (Work.report storage o (.info input)).result = .ok (.contents input w.summaries) ∧
      w.summaries[w.active]? = some summary ∧ summary.active = true ∧
      summary.formulas = formulas

theorem Sound.countedAlike {s : Sheet} (h : s.Sound) : s.CountedAlike := by
  intro storage o input w hload hs
  refine ⟨_, _, _, Work.result_check hload hs, Work.result_info hload, Work.summaries_active hs,
    rfl, ?_⟩
  exact h.length_formulas.symm

/-- **The dense view agrees with what is stored.** Whatever changes lead to a sheet, inspecting it
succeeds, its descriptors are what `Represents` says, and formulas are counted alike in both
views. -/
theorem inspect_represents_run (name : String) (edits : List SheetEdit) :
    ∃ ds, ((new name).run edits).grid.inspect = .ok ds ∧
      ((new name).run edits).Represents ds ∧ ((new name).run edits).CountedAlike :=
  ⟨_, inspect_grid _, (sound_run name edits).represents, (sound_run name edits).countedAlike⟩

end Sheet

end SheetInspector
