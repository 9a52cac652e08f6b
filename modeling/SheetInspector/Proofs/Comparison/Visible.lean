import SheetInspector.Proofs.Sheet.Dense
import SheetInspector.Proofs.Value

set_option autoImplicit false

/-! # Modifications that can be seen

The report of a modified cell shows both of its sides, each with its value, its type and its
formula. Values are shown as bare texts with commas between the parts, so the two sides need not be
shown differently. They are shown alike in three cases only (`Descriptor.LooksAlike`): where NaN
takes the place of NaN, which differs from itself; where the result of a formula becomes the text
that it was shown as, or the other way round; and where the text of one side holds what separates
the value of the other side from its formula. In every other modification the two sides can be told
apart (`modified_shown_alike_iff`).
-/

namespace SheetInspector

namespace Descriptor

variable {d e : Descriptor}

/-! ## The parts of a description -/

/-- What is shown of the formula, if there is one. -/
def formulaPart (d : Descriptor) : String :=
  match d.formula with
  | some formula => ", formula=" ++ formula
  | none => ""

/-- What is shown behind the value and a comma. -/
def behindValue (d : Descriptor) : String := " type=" ++ d.kind.name ++ d.formulaPart

theorem summary_eq (d : Descriptor) :
    d.summary = "val=" ++ d.value.display ++ ", type=" ++ d.kind.name ++ d.formulaPart := rfl

theorem toList_behindValue (d : Descriptor) : d.behindValue.toList
    = " type=".toList ++ (d.kind.name.toList ++ d.formulaPart.toList) := by
  rw [behindValue, String.toList_append, String.toList_append, List.append_assoc]

theorem toList_summary (d : Descriptor) : d.summary.toList
    = "val=".toList ++ (d.value.display.toList ++ ',' :: d.behindValue.toList) := by
  rw [summary_eq, toList_behindValue]
  simp

theorem formulaPart_of_some {formula : String} (h : d.formula = some formula) :
    d.formulaPart.toList = ',' :: (" formula=".toList ++ formula.toList) := by
  rw [formulaPart, h]
  simp

theorem formulaPart_of_none (h : d.formula = none) : d.formulaPart.toList = [] := by
  rw [formulaPart, h]
  rfl

theorem head?_formulaPart (d : Descriptor) : ∀ c ∈ d.formulaPart.toList.head?, c = ',' := by
  intro c hc
  cases hformula : d.formula with
  | none =>
      rw [formulaPart_of_none hformula] at hc
      cases hc
  | some formula =>
      rw [formulaPart_of_some hformula] at hc
      exact (Option.some.inj hc).symm

theorem comma_not_mem_name (kind : Kind) : ',' ∉ kind.name.toList := by
  cases kind <;> decide

theorem name_inj {k l : Kind} (h : k.name.toList = l.name.toList) : k = l := by
  cases k <;> cases l <;> first | rfl | exact absurd h (by decide)

theorem formula_of_formulaPart (h : d.formulaPart.toList = e.formulaPart.toList) :
    d.formula = e.formula := by
  cases hd : d.formula with
  | none =>
      cases he : e.formula with
      | none => rfl
      | some g =>
          rw [formulaPart_of_none hd, formulaPart_of_some he] at h
          cases h
  | some f =>
      cases he : e.formula with
      | none =>
          rw [formulaPart_of_some hd, formulaPart_of_none he] at h
          cases h
      | some g =>
          rw [formulaPart_of_some hd, formulaPart_of_some he] at h
          have hfg := List.append_cancel_left (List.cons.inj h).2
          rw [String.toList_inj.mp hfg]

/-- Behind the value the parts can be told apart. -/
theorem behindValue_inj (h : d.behindValue.toList = e.behindValue.toList) :
    d.kind = e.kind ∧ d.formula = e.formula := by
  rw [toList_behindValue, toList_behindValue] at h
  obtain ⟨hname, hpart⟩ := Text.append_inj_of_head? (comma_not_mem_name _) (comma_not_mem_name _)
    d.head?_formulaPart e.head?_formulaPart (List.append_cancel_left h)
  exact ⟨name_inj hname, formula_of_formulaPart hpart⟩

/-! ## Texts that run on -/

/-- Whether the value of `e` is a text that goes on behind the value of `d` as the description of
`d` does, into its formula; and this formula ends as the description of `e` does. -/
def RunsOn (e d : Descriptor) : Prop :=
  ∃ y : String,
    e.value = .text (d.value.display ++ ", type=" ++ d.kind.name ++ ", formula=" ++ y) ∧
      d.formula = some (y ++ ", type=" ++ e.kind.name ++ e.formulaPart)

theorem RunsOn.summary_eq (h : e.RunsOn d) : d.summary = e.summary := by
  obtain ⟨y, hvalue, hformula⟩ := h
  have hpart : d.formulaPart
      = ", formula=" ++ (y ++ ", type=" ++ e.kind.name ++ e.formulaPart) := by
    rw [formulaPart, hformula]
  rw [Descriptor.summary_eq, Descriptor.summary_eq, hpart, hvalue, Value.display]
  simp only [String.append_assoc]

/-- Where what follows a comma in one description follows a later comma in another one, the text
between the two has its place in the formula. -/
theorem exists_of_behindValue {b : List Char}
    (h : d.behindValue.toList = b ++ ',' :: e.behindValue.toList) :
    ∃ y : String, b = " type=".toList ++ d.kind.name.toList ++ ", formula=".toList ++ y.toList ∧
      d.formula = some (y ++ ", type=" ++ e.kind.name ++ e.formulaPart) := by
  have hfront : ',' ∉ " type=".toList ++ d.kind.name.toList := by
    rw [List.mem_append, not_or]
    exact ⟨by decide, comma_not_mem_name _⟩
  rw [toList_behindValue, ← List.append_assoc, Text.append_eq_append_cons_iff hfront] at h
  obtain ⟨t, rfl, hpart⟩ := h
  cases hformula : d.formula with
  | none =>
      rw [formulaPart_of_none hformula] at hpart
      exact absurd hpart (by simp)
  | some formula =>
      rw [formulaPart_of_some hformula] at hpart
      cases t with
      | nil =>
          -- a comma before the formula is not one before the type
          have hword : " formula=".toList ++ formula.toList = e.behindValue.toList :=
            (List.cons.inj hpart).2
          rw [toList_behindValue] at hword
          exact absurd (congrArg (List.take 2) hword) (by simp)
      | cons c t =>
          obtain ⟨rfl, hrest⟩ := List.cons.inj hpart
          have hword : ',' ∉ " formula=".toList := by decide
          obtain ⟨y, rfl, hformula'⟩ := (Text.append_eq_append_cons_iff hword).mp hrest
          refine ⟨String.ofList y, ?_, ?_⟩
          · simp
          · rw [Option.some.injEq, ← String.toList_inj, hformula']
            simp [toList_behindValue]

/-! ## Descriptions that are alike -/

theorem runsOn_of_append {a : List Char} (ha : a ≠ [])
    (hvalue : e.value.display.toList = d.value.display.toList ++ a)
    (hbehind : ',' :: d.behindValue.toList = a ++ ',' :: e.behindValue.toList) : e.RunsOn d := by
  cases a with
  | nil => exact absurd rfl ha
  | cons c b =>
      obtain ⟨rfl, hrest⟩ := List.cons.inj hbehind
      obtain ⟨y, rfl, hformula⟩ := exists_of_behindValue hrest
      -- only a text holds a comma
      have htext : e.value.kind = .text := by
        by_contra hkind
        exact Value.comma_not_mem_display hkind (hvalue ▸ by simp)
      refine ⟨y, ?_, hformula⟩
      rw [Value.text_of_kind htext, Value.text.injEq, ← String.toList_inj, hvalue]
      simp

/-- **Two descriptions are alike** if all their parts are, or if the text of one of them runs on
into the other. -/
theorem summary_eq_iff : d.summary = e.summary ↔
    (d.value.display = e.value.display ∧ d.kind = e.kind ∧ d.formula = e.formula) ∨
      e.RunsOn d ∨ d.RunsOn e := by
  constructor
  · intro h
    rw [← String.toList_inj, toList_summary, toList_summary] at h
    rcases List.append_eq_append_iff.mp (List.append_cancel_left h) with ⟨a, he, hd⟩ | ⟨a, hd, he⟩
    · by_cases ha : a = []
      · subst ha
        obtain ⟨hkind, hformula⟩ := behindValue_inj (List.cons.inj hd).2
        exact .inl ⟨String.toList_inj.mp (by rw [he, List.append_nil]), hkind, hformula⟩
      · exact .inr (.inl (runsOn_of_append ha he hd))
    · by_cases ha : a = []
      · subst ha
        obtain ⟨hkind, hformula⟩ := behindValue_inj (List.cons.inj he).2
        exact .inl ⟨String.toList_inj.mp (by rw [hd, List.append_nil]), hkind.symm, hformula.symm⟩
      · exact .inr (.inr (runsOn_of_append ha hd he))
  · rintro (⟨hvalue, hkind, hformula⟩ | h | h)
    · rw [summary_eq, summary_eq, formulaPart, formulaPart, hvalue, hkind, hformula]
    · exact h.summary_eq
    · exact h.summary_eq.symm

/-! ## Modifications -/

/-- When two sides of a modified cell are shown alike. -/
inductive LooksAlike (d e : Descriptor) : Prop
  /-- Both show NaN, which differs from itself. -/
  | nan (hkind : d.kind = e.kind) (hformula : d.formula = e.formula)
      (hd : d.value = .number .nan) (he : e.value = .number .nan)
  /-- The result of a formula became the text that it was shown as, or the other way round. -/
  | result (hd : d.kind = .formula) (he : e.kind = .formula) (hformula : d.formula = e.formula)
      (h : d.value.Spells e.value ∨ e.value.Spells d.value)
  /-- The text of one side holds what separates the value of the other side from its formula. -/
  | runsOn (h : e.RunsOn d ∨ d.RunsOn e)

/-- Whether the type is that of the value, but for formulas. -/
def Typed (d : Descriptor) : Prop := d.kind ≠ .formula → d.kind = d.value.kind

theorem Typed.formula_of_spells (hd : d.Typed) (he : e.Typed) (hkind : d.kind = e.kind)
    (h : d.value.Spells e.value ∨ e.value.Spells d.value) : d.kind = .formula := by
  by_contra hne
  have hvalues : d.value.kind = e.value.kind := by
    rw [← hd hne, ← he (hkind ▸ hne), hkind]
  rcases h with ⟨hnot, hspelled⟩ | ⟨hnot, hspelled⟩
  · exact hnot (by rw [← hvalues, hspelled]; rfl)
  · exact hnot (by rw [hvalues, hspelled]; rfl)

/-- **Which different descriptions are alike.** -/
theorem Typed.summary_eq_iff_looksAlike (hd : d.Typed) (he : e.Typed)
    (h : d.sameContent e = false) : d.summary = e.summary ↔ LooksAlike d e := by
  rw [summary_eq_iff]
  constructor
  · rintro (⟨hvalue, hkind, hformula⟩ | hrest)
    · rcases Value.display_eq_iff.mp hvalue with hagrees | ⟨hnan, hnan'⟩ | hspells
      · rw [sameContent_eq_false_iff] at h
        rcases h with hdiff | hdiff | hdiff
        · exact absurd hkind hdiff
        · exact absurd hagrees (by simp [hdiff])
        · exact absurd hformula hdiff
      · exact .nan hkind hformula hnan hnan'
      · have hkindFormula := hd.formula_of_spells he hkind hspells
        exact .result hkindFormula (hkind ▸ hkindFormula) hformula hspells
    · exact .runsOn hrest
  · intro halike
    cases halike with
    | nan hkind hformula hd he => exact .inl ⟨by rw [hd, he], hkind, hformula⟩
    | result hd he hformula hspells =>
        have hvalue := Value.display_eq_iff.mpr (.inr (.inr hspells))
        exact .inl ⟨hvalue, hd.trans he.symm, hformula⟩
    | runsOn hrest => exact .inr hrest

end Descriptor

/-- What is described of a sheet has the type of its value, or that of a formula. -/
theorem Sheet.typed_of_side {s : Sheet} {a : Address} {d : Descriptor}
    (h : Comparison.side s.descriptors a = some d) : d.Typed := by
  have hmem := (List.mem_filter.mp (List.mem_of_getLast? h)).1
  rw [(mem_descriptors hmem).2]
  exact kind_descriptor_of_ne

/-- **Which modifications cannot be seen.** Any two sheets can be compared, and a modified cell is
reported with a description of both of its sides. The two are alike exactly where both sides show
NaN, where a formula has another result that is shown alike, and where the text of one side runs on
into the formula of the other; all other modifications can be seen. -/
theorem modified_shown_alike_iff (a b : Sheet) :
    ∃ c, Comparison.ofGrids a.grid b.grid = .ok c ∧ ∀ x ∈ c.changes, x.kind = .modified →
      ∃ d e, x.before = some d ∧ x.after = some e ∧
        x.text = x.kind.symbol.toString ++ " " ++ x.reference ++ ": " ++
          (d.summary ++ " -> " ++ e.summary) ∧
        (d.summary = e.summary ↔ d.LooksAlike e) := by
  refine ⟨_, Sheet.ofGrids_grid a b, fun x hx hkind => ?_⟩
  have hchange := Comparison.mem_changes.mp hx
  have htells := Change.tells_of_between? hchange
  generalize hold : Comparison.side a.descriptors x.address = old at htells
  generalize hnew : Comparison.side b.descriptors x.address = new at htells
  have hbetween := htells.kind
  rw [hkind] at hbetween
  cases hbetween with
  | modified d e differ =>
      refine ⟨d, e, htells.before, htells.after, ?_, ?_⟩
      · rw [Change.text, htells.before, htells.after]
        rfl
      · exact (Sheet.typed_of_side hold).summary_eq_iff_looksAlike (Sheet.typed_of_side hnew)
          (Descriptor.sameContent_eq_false_iff.mpr differ)

/-! ## Modifications that are shown alike -/

/-- A sheet of one cell. -/
def cellSheet (content : Content) : Sheet := (Sheet.new "Sheet1").run [.set ⟨1, 1⟩ content]

/-- What is shown of the changes between two sheets. -/
def shown (a b : Sheet) : List (ChangeKind × Option String × Option String) :=
  (Comparison.ofDescriptors a.descriptors b.descriptors).changes.map fun x =>
    (x.kind, x.before.map Descriptor.summary, x.after.map Descriptor.summary)

/-- Whether a cell is modified from one sheet to another, and both of its sides are shown alike. -/
def HasUnseen (a b : Sheet) : Prop :=
  ∃ c x d e, Comparison.ofGrids a.grid b.grid = .ok c ∧ x ∈ c.changes ∧ x.kind = .modified ∧
    x.before = some d ∧ x.after = some e ∧ d.summary = e.summary

theorem hasUnseen_of_shown {a b : Sheet} {s : String}
    (h : shown a b = [(.modified, some s, some s)]) : HasUnseen a b := by
  obtain ⟨x, hx, hshown⟩ := List.map_eq_singleton_iff.mp h
  obtain ⟨hkind, hsides⟩ := Prod.mk.inj hshown
  obtain ⟨hbefore, hafter⟩ := Prod.mk.inj hsides
  obtain ⟨d, hd, hleft⟩ := Option.map_eq_some_iff.mp hbefore
  obtain ⟨e, he, hright⟩ := Option.map_eq_some_iff.mp hafter
  exact ⟨_, x, d, e, Sheet.ofGrids_grid a b, by simp [hx], hkind, hd, he, hleft.trans hright.symm⟩

/-- The number 30 as the result of a formula becomes the text 30. -/
theorem hasUnseen_result : HasUnseen (cellSheet (.formula "=B1" (some (.number (.ofInt 30)))))
    (cellSheet (.formula "=B1" (some (.text "30")))) :=
  hasUnseen_of_shown (s := "val=30, type=formula, formula==B1") (by decide +kernel)

/-- A modification is shown alike on both sides in each of three ways: the number 30 as the result
of a formula becomes the text 30; NaN takes the place of NaN; and a text takes the place of a
formula that is shown like the text and its type. -/
theorem unseen_modifications :
    HasUnseen (cellSheet (.formula "=B1" (some (.number (.ofInt 30)))))
        (cellSheet (.formula "=B1" (some (.text "30")))) ∧
      HasUnseen (cellSheet (.literal (.number .nan))) (cellSheet (.literal (.number .nan))) ∧
      HasUnseen (cellSheet (.formula "=B1, type=text" (some (.number (.ofInt 1)))))
        (cellSheet (.literal (.text "1, type=formula, formula==B1"))) :=
  ⟨hasUnseen_result,
    hasUnseen_of_shown (s := "val=NaN, type=number") (by decide +kernel),
    hasUnseen_of_shown (s := "val=1, type=formula, formula==B1, type=text") (by decide +kernel)⟩

theorem modified_shown_alike_iff_result :
    ∃ c x d e, Comparison.ofGrids (cellSheet (.formula "=B1" (some (.number (.ofInt 30))))).grid
        (cellSheet (.formula "=B1" (some (.text "30")))).grid = .ok c ∧
      x ∈ c.changes ∧ x.before = some d ∧ x.after = some e ∧ d.LooksAlike e := by
  obtain ⟨c', x, d, e, hc', hx, hkind, hd, he, hsame⟩ := hasUnseen_result
  obtain ⟨c, hc, hall⟩ := modified_shown_alike_iff
    (cellSheet (.formula "=B1" (some (.number (.ofInt 30)))))
    (cellSheet (.formula "=B1" (some (.text "30"))))
  obtain rfl : c' = c := Except.ok.inj (hc'.symm.trans hc)
  obtain ⟨d', e', hd', he', -, hiff⟩ := hall x hx hkind
  obtain rfl : d = d' := Option.some.inj (hd.symm.trans hd')
  obtain rfl : e = e' := Option.some.inj (he.symm.trans he')
  exact ⟨c', x, d, e, hc, hx, hd, he, hiff.mp hsame⟩

end SheetInspector
