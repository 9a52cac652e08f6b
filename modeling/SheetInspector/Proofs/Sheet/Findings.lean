import SheetInspector.Proofs.Content
import SheetInspector.Proofs.Sheet.Dense

set_option autoImplicit false

/-! # The findings in a sheet

Findings are made of descriptors, and so of the formulas that a sheet stores. Where every formula
has its marker, what is found is the formulas with more than one, in the order of their addresses
(`Sound.findings_doubled`).
-/

namespace SheetInspector

namespace MarkerAnomaly

/-- A marker in front is one more. -/
theorem leadingMarkers_marker (text : String) :
    leadingMarkers (formulaMarker.toString ++ text) = 1 + leadingMarkers text := by
  rw [leadingMarkers, leadingMarkers, String.toList_append, Nat.add_comm]
  rfl

theorem one_le_leadingMarkers_iff {text : String} :
    1 ≤ leadingMarkers text ↔ text.toList.head? = some formulaMarker := by
  rw [leadingMarkers]
  cases text.toList with
  | nil => simp
  | cons c rest =>
      by_cases hc : c = formulaMarker
      · simp [hc]
      · simp [hc]

/-- Two markers in front are the first two characters. -/
theorem exists_of_two_le {text : String} (h : 2 ≤ leadingMarkers text) :
    ∃ rest, text.toList = formulaMarker :: formulaMarker :: rest := by
  rw [leadingMarkers] at h
  match text.toList, h with
  | [], h => cases h
  | [c], h =>
      have hle := (List.takeWhile_prefix (l := [c]) (· == formulaMarker)).length_le
      exact absurd (le_trans h hle) (Nat.not_succ_le_self 1)
  | c :: d :: rest, h =>
      by_cases hc : c = formulaMarker
      · by_cases hd : d = formulaMarker
        · exact ⟨rest, by rw [hc, hd]⟩
        · simp [hc, hd] at h
      · simp [hc] at h

/-- What is wrong with a text that has a marker is that it has more than one. -/
theorem detect?_of_one_le {text : String} (h : 1 ≤ leadingMarkers text) :
    detect? text
      = if 2 ≤ leadingMarkers text then some (.duplicate (leadingMarkers text)) else none := by
  rw [detect?]
  cases hmarkers : leadingMarkers text with
  | zero =>
      rw [hmarkers] at h
      cases h
  | succ n =>
      cases n with
      | zero => rfl
      | succ n => exact (if_pos (Nat.le_add_left 2 n)).symm

end MarkerAnomaly

namespace Sheet

variable {s : Sheet}

/-! ## Formulas -/

theorem mem_formulas {a : Address} {text : String} :
    (a, text) ∈ s.formulas ↔
      text ≠ "" ∧ ∃ cached, s.content? a = some (.formula text cached) := by
  rw [formulas, List.mem_filterMap]
  constructor
  · rintro ⟨⟨b, c⟩, hmem, htext⟩
    obtain ⟨text', htext', heq⟩ := Option.map_eq_some_iff.mp htext
    cases heq
    have hc : s.content? a = some c := (CellStore.mem_cells s.stored a c).mp hmem
    cases c with
    | literal v => cases htext'
    | formula text'' cached =>
        simp only [Content.formulaText?] at htext'
        split_ifs at htext' with hempty
        cases htext'
        exact ⟨hempty, cached, hc⟩
  · rintro ⟨hempty, cached, hc⟩
    refine ⟨(a, .formula text cached), (CellStore.mem_cells s.stored _ _).mpr hc, ?_⟩
    simp only [Content.formulaText?, if_neg hempty, Option.map_some]

/-- The formulas are listed in strictly increasing order of their addresses. -/
theorem formulas_ordered (s : Sheet) : Address.Ordered (s.formulas.map Prod.fst) := by
  have hkeys : s.formulas.map Prod.fst
      = (s.cells.filter fun x => x.2.formulaText?.isSome).map Prod.fst := by
    rw [formulas, List.map_filterMap, ← List.filterMap_eq_map, List.filterMap_filter]
    refine List.filterMap_congr fun x _ => ?_
    obtain ⟨a, c⟩ := x
    show ((c.formulaText?.map (a, ·)).map Prod.fst : Option Address)
      = if c.formulaText?.isSome then some a else none
    cases c.formulaText? with
    | none => rfl
    | some text => rfl
  rw [hkeys]
  exact (CellStore.cells_ordered s.stored).sublist (List.filter_sublist.map Prod.fst)

/-! ## Findings -/

/-- The formulas with more than one marker. -/
def doubled (s : Sheet) : List (Address × String) :=
  s.formulas.filter fun x => 2 ≤ MarkerAnomaly.leadingMarkers x.2

theorem mem_doubled {a : Address} {text : String} :
    (a, text) ∈ s.doubled ↔
      (∃ cached, s.content? a = some (.formula text cached)) ∧
        2 ≤ MarkerAnomaly.leadingMarkers text := by
  rw [doubled, List.mem_filter, mem_formulas, decide_eq_true_iff]
  constructor
  · rintro ⟨⟨-, hc⟩, hmarkers⟩
    exact ⟨hc, hmarkers⟩
  · rintro ⟨hc, hmarkers⟩
    refine ⟨⟨?_, hc⟩, hmarkers⟩
    rintro rfl
    exact absurd hmarkers (by decide)

theorem doubled_ordered (s : Sheet) : Address.Ordered (s.doubled.map Prod.fst) :=
  s.formulas_ordered.sublist (List.filter_sublist.map Prod.fst)

/-- The findings of a sheet are made of its formulas. -/
theorem Sound.findings_formulas (h : s.Sound) :
    Finding.ofDescriptors s.descriptors
      = s.formulas.filterMap fun x =>
          (MarkerAnomaly.detect? x.2).map fun anomaly => ⟨x.1.text, x.2, anomaly⟩ := by
  rw [Finding.ofDescriptors, h.filterMap_descriptors fun a => rfl, formulas,
    List.filterMap_filterMap]
  refine List.filterMap_congr fun x _ => ?_
  obtain ⟨a, c⟩ := x
  have hanomaly : (Descriptor.of a c.cell).anomaly
      = c.formulaText?.bind MarkerAnomaly.detect? := rfl
  have hformula : (Descriptor.of a c.cell).formula = c.formulaText? := rfl
  show Finding.ofDescriptor? (Descriptor.of a c.cell) = (c.formulaText?.map (a, ·)).bind _
  rw [Finding.ofDescriptor?, hanomaly, hformula]
  cases c.formulaText? with
  | none => rfl
  | some text =>
      rw [Option.bind_some, Option.map_some, Option.bind_some]
      cases MarkerAnomaly.detect? text with
      | none => rfl
      | some anomaly => rfl

/-- **Where formulas have their marker, the findings are those with more than one.** -/
theorem Sound.findings_doubled (h : s.Sound)
    (hcontent : ∀ a c, s.content? a = some c → c.Definite) :
    Finding.ofDescriptors s.descriptors
      = s.doubled.map fun x =>
          ⟨x.1.text, x.2, .duplicate (MarkerAnomaly.leadingMarkers x.2)⟩ := by
  rw [h.findings_formulas, doubled, ← List.filterMap_eq_map, List.filterMap_filter]
  -- formula by formula: a marker is there, so only a second one is wrong
  refine List.filterMap_congr fun x hx => ?_
  obtain ⟨-, cached, hc⟩ := mem_formulas.mp hx
  have hmarked : 1 ≤ MarkerAnomaly.leadingMarkers x.2 :=
    MarkerAnomaly.one_le_leadingMarkers_iff.mpr (hcontent x.1 _ hc).1
  rw [MarkerAnomaly.detect?_of_one_le hmarked]
  by_cases hdouble : 2 ≤ MarkerAnomaly.leadingMarkers x.2
  · simp [hdouble]
  · simp [hdouble]

end Sheet

end SheetInspector
