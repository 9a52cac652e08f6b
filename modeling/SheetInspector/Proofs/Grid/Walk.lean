import SheetInspector.Comparison
import SheetInspector.Proofs.Grid.Scan

set_option autoImplicit false

/-! # What the readers of a grid read

`inspect`, `preview` and `headers` walk an extent each: the whole one, its first rows, its first
row. `Walks` says what that means, with the reads in view: the cells of the extent are read row
by row, each once, and nothing else; the first that cannot be read ends the walk with its fault;
and where all can be read the result is made of them. A comparison of two grids walks the one
from before and then, unless that failed, the other.
-/

namespace SheetInspector.Grid

variable {α : Type} {g : Grid (Except SheetFault)}

/-- What a recorded reading ends in, and the addresses read in the order of the reads. -/
def Recorded.outcome (x : Recorded α) : Except SheetFault α × List Address :=
  ((x.run.run []).1, (x.run.run []).2.reverse)

/-- Whether the place numbered `i` is the first of an extent that cannot be read. -/
structure FailsAt (g : Grid (Except SheetFault)) (e : Extent) (i : Nat) (fault : SheetFault) :
    Prop where
  lt : i < e.rows * e.columns
  fails : g.read (Extent.place e.columns i) = .error fault
  before : ∀ j < i, ∃ cell, g.read (Extent.place e.columns j) = .ok cell

/-- Whether a reading, with its reads recorded and without, walks an extent for a value that is
made of the cells of the extent. -/
structure Walks (g : Grid (Except SheetFault)) (e : Extent) (value : (Address → Cell) → α)
    (x : Recorded α) (y : Except SheetFault α) : Prop where
  /-- There are no cases but the next two. -/
  cases : (∃ cell : Address → Cell, ∀ a, e.Holds a → g.read a = .ok (cell a)) ∨
    ∃ i fault, g.FailsAt e i fault
  /-- Where every cell can be read, all are, and the value is made of them. -/
  of_readable : ∀ cell : Address → Cell, (∀ a, e.Holds a → g.read a = .ok (cell a)) →
    x.outcome = (.ok (value cell), e.places)
  /-- The first cell that cannot be read is the last one read, and its fault is what the walk ends
  in. -/
  of_failsAt : ∀ i fault, g.FailsAt e i fault →
    x.outcome = (.error fault, e.places.take (i + 1))
  holds : ∀ a ∈ x.outcome.2, e.Holds a
  ordered : Address.Ordered x.outcome.2
  /-- Recording the reads changes nothing else. -/
  plain : y = x.outcome.1

/-! ## Scans of an extent are walks -/

theorem fault?_places_eq_none_iff {e : Extent} :
    g.fault? e.places = none ↔ ∀ a, e.Holds a → ∃ cell, g.read a = .ok cell := by
  simp only [fault?_eq_none_iff, Extent.mem_places]

/-- The first fault among the places of an extent, and what is read up to it. -/
theorem FailsAt.readUntil {e : Extent} {i : Nat} {fault : SheetFault} (h : g.FailsAt e i fault) :
    g.fault? e.places = some fault ∧ g.readUntil e.places = e.places.take (i + 1) := by
  have hlt : i < e.places.length := by
    rw [Extent.length_places]
    exact h.lt
  have hplace : e.places[i] = Extent.place e.columns i := by simp [Extent.places]
  have hsplit : e.places = e.places.take i ++ Extent.place e.columns i :: e.places.drop (i + 1) :=
    calc e.places = e.places.take i ++ e.places.drop i := (List.take_append_drop i _).symm
      _ = e.places.take i ++ Extent.place e.columns i :: e.places.drop (i + 1) := by
        rw [List.drop_eq_getElem_cons hlt, hplace]
  have hbefore : g.fault? (e.places.take i) = none := by
    refine fault?_eq_none_iff.mpr fun a ha => ?_
    obtain ⟨j, hj, rfl⟩ := List.mem_take_iff_getElem.mp ha
    rw [show e.places[j] = Extent.place e.columns j by simp [Extent.places]]
    exact h.before j (by omega)
  have hreads := readUntil_append_cons hbefore h.fails (e.places.drop (i + 1))
  rw [← hsplit] at hreads
  refine ⟨hreads.1, hreads.2.trans ?_⟩
  rw [List.take_succ_eq_append_getElem hlt, hplace]

theorem exists_failsAt {e : Extent} {fault : SheetFault} (h : g.fault? e.places = some fault) :
    ∃ i, g.FailsAt e i fault := by
  obtain ⟨before, a, after, hplaces, ha, hbefore⟩ := List.findSome?_eq_some_iff.mp h
  have hget (j : Nat) (hj : j < e.rows * e.columns) :
      (before ++ a :: after)[j]? = some (Extent.place e.columns j) := by
    rw [← hplaces, Extent.getElem?_places hj]
  have hlength : before.length < e.rows * e.columns := by
    have := congrArg List.length hplaces
    rw [Extent.length_places, List.length_append, List.length_cons] at this
    omega
  refine ⟨before.length, hlength, ?_, fun j hj => ?_⟩
  · have hplace := hget before.length hlength
    rw [List.getElem?_append_right (le_refl _), Nat.sub_self, List.getElem?_cons_zero,
      Option.some_inj] at hplace
    rw [← hplace]
    exact faultAt?_eq_some_iff.mp ha
  · have hplace := hget j (by omega)
    rw [List.getElem?_append_left hj] at hplace
    exact faultAt?_eq_none_iff.mp (hbefore _ (List.mem_of_getElem? hplace))

theorem Scans.outcome {as : List Address} {v : α} {x : Recorded α} {y : Except SheetFault α}
    (h : g.Scans as v x y) : x.outcome = (g.ending as v, g.readUntil as) := by
  rw [Recorded.outcome, h.recorded]
  simp

/-- **A scan of an extent is a walk**, if the value depends on the cells of the extent only. -/
theorem Scans.walks {e : Extent} {value : (Address → Cell) → α} {x : Recorded α}
    {y : Except SheetFault α}
    (hvalue : ∀ c c' : Address → Cell, (∀ a ∈ e.places, c a = c' a) → value c = value c')
    (h : g.Scans e.places (value g.cellAt) x y) : g.Walks e value x y where
  cases := by
    cases hf : g.fault? e.places with
    | none =>
        refine Or.inl ⟨g.cellAt, fun a ha => ?_⟩
        obtain ⟨cell, hcell⟩ := fault?_places_eq_none_iff.mp hf a ha
        rw [hcell, cellAt_eq hcell]
    | some fault =>
        obtain ⟨i, hi⟩ := exists_failsAt hf
        exact Or.inr ⟨i, fault, hi⟩
  of_readable := by
    intro cell hcell
    have hf : g.fault? e.places = none :=
      fault?_places_eq_none_iff.mpr fun a ha => ⟨cell a, hcell a ha⟩
    have hsame : value g.cellAt = value cell :=
      hvalue _ _ fun a ha => cellAt_eq (hcell a (Extent.mem_places.mp ha))
    rw [h.outcome, ending_of_none hf, readUntil_of_none hf, hsame]
  of_failsAt := by
    intro i fault hi
    rw [h.outcome, ending_of_some hi.readUntil.1, hi.readUntil.2]
  holds := by
    intro a ha
    rw [h.outcome] at ha
    exact Extent.mem_places.mp ((readUntil_sublist e.places).subset ha)
  ordered := by
    rw [h.outcome]
    exact (Extent.places_ordered e).sublist (readUntil_sublist e.places)
  plain := by rw [h.outcome, h.plain]

/-! ## The readers -/

/-- Reading one row and making something of each of its cells. -/
theorem scans_row (g : Grid (Except SheetFault)) (f : Address → Cell → α) (columns row : Nat) :
    g.Scans ((List.range' 1 columns).map fun column => (⟨row, column⟩ : Address))
      ((List.range' 1 columns).map fun column => f ⟨row, column⟩ (g.cellAt ⟨row, column⟩))
      (collect columns fun column => return f ⟨row, column⟩ (← g.recorded.read ⟨row, column⟩))
      (collect columns fun column => return f ⟨row, column⟩ (← g.read ⟨row, column⟩)) := by
  rw [List.map_eq_flatMap]
  exact scans_collect (fun column => (scans_read ⟨row, column⟩).bind_pure (f ⟨row, column⟩)) columns

theorem scans_inspect (g : Grid (Except SheetFault)) :
    g.Scans g.extent.places (g.extent.places.map fun a => Descriptor.of a (g.cellAt a))
      g.recorded.inspect g.inspect := by
  by_cases he : g.extent.isEmpty
  · have hplaces : g.extent.places = [] := by
      rcases Extent.isEmpty_iff.mp he with h | h
      · simp [Extent.places, h]
      · simp [Extent.places, h]
    have hrecorded : g.recorded.extent.isEmpty = true := he
    rw [hplaces, inspect, inspect, if_pos he, if_pos hrecorded]
    exact scans_pure []
  · have hrecorded : ¬ g.recorded.extent.isEmpty = true := he
    have hrows := (scans_collect (g.scans_row Descriptor.of g.extent.columns)
      g.extent.rows).bind_pure List.flatten
    rw [inspect, inspect, if_neg he, if_neg hrecorded, Extent.places_eq_flatMap, List.map_flatMap,
      List.flatMap_def (l := List.range' 1 g.extent.rows) (f := fun row => List.map _ _)]
    simp only [List.map_map]
    exact hrows

theorem scans_preview (g : Grid (Except SheetFault)) (limit : Nat) :
    g.Scans (g.extent.top limit).places ((g.extent.top limit).table fun a => (g.cellAt a).value)
      (g.recorded.preview limit) (g.preview limit) := by
  by_cases he : g.extent.columns = 0
  · have hplaces : (g.extent.top limit).places = [] := by simp [Extent.places, Extent.top, he]
    have htable : (g.extent.top limit).table (fun a => (g.cellAt a).value) = [] := if_pos he
    have hrecorded : g.recorded.extent.columns = 0 := he
    rw [hplaces, htable, preview, preview, if_pos he, if_pos hrecorded]
    exact scans_pure []
  · have hrecorded : ¬ g.recorded.extent.columns = 0 := he
    have htable : (g.extent.top limit).table (fun a => (g.cellAt a).value) = _ := if_neg he
    rw [preview, preview, if_neg he, if_neg hrecorded, Extent.places_eq_flatMap, htable]
    exact scans_collect (g.scans_row (fun _ cell => cell.value) g.extent.columns)
      (min g.extent.rows limit)

theorem scans_headers (g : Grid (Except SheetFault)) :
    g.Scans (g.extent.top 1).places
      ((g.extent.top 1).places.map fun a => headerOf a.column (g.cellAt a).value)
      g.recorded.headers g.headers := by
  by_cases he : g.extent.rows = 0
  · have hplaces : (g.extent.top 1).places = [] := by simp [Extent.places, Extent.top, he]
    have hrecorded : g.recorded.extent.rows = 0 := he
    rw [hplaces, headers, headers, if_pos he, if_pos hrecorded]
    exact scans_pure []
  · have hrecorded : ¬ g.recorded.extent.rows = 0 := he
    have hplaces : (g.extent.top 1).places
        = (List.range' 1 g.extent.columns).map fun column => ⟨1, column⟩ := by
      have hone : (g.extent.top 1).rows = 1 := Nat.min_eq_right (Nat.pos_of_ne_zero he)
      rw [Extent.places_eq_flatMap, hone]
      exact List.flatMap_singleton _ _
    rw [headers, headers, if_neg he, if_neg hrecorded, hplaces, List.map_map]
    exact g.scans_row (fun a cell => headerOf a.column cell.value) g.extent.columns 1

/-! ## Previews and comparisons -/

/-- How the preview of a grid relates to inspecting it. -/
structure Previews (g : Grid (Except SheetFault)) (limit : Nat) : Prop where
  /-- Where every cell can be read, a preview is the values of the first ones, cut into rows. -/
  of_inspect : ∀ ds, g.inspect = .ok ds → ∃ rows, g.preview limit = .ok rows ∧
    Extent.Cuts rows g.extent.columns
      ((ds.take (min g.extent.rows limit * g.extent.columns)).map Descriptor.value)
  /-- A preview can be had where inspecting fails only if the first fault is below its rows. -/
  of_fault : ∀ rows fault, g.preview limit = .ok rows → g.inspect = .error fault →
    ∃ i, g.FailsAt g.extent i fault ∧
      min g.extent.rows limit < (Extent.place g.extent.columns i).row

/-- How the comparison of a grid with another reads the two. -/
structure Compares (g : Grid (Except SheetFault)) : Prop where
  /-- Where inspecting the grid fails nothing is done with the other, whatever that would do. -/
  of_error : ∀ fault, g.inspect = .error fault → ∀ after : Grid Recorded,
    Recorded.outcome (Comparison.ofGrids g.recorded after)
      = (.error fault, (Recorded.outcome g.recorded.inspect).2)
  /-- Otherwise the other is inspected next, and its fault, if any, is that of the comparison. -/
  of_ok : ∀ ds, g.inspect = .ok ds → ∀ after : Grid (Except SheetFault),
    Recorded.outcome (Comparison.ofGrids g.recorded after.recorded)
      = (after.inspect.map (Comparison.ofDescriptors ds),
          (Recorded.outcome g.recorded.inspect).2 ++ (Recorded.outcome after.recorded.inspect).2)
  plain : ∀ after : Grid (Except SheetFault), Comparison.ofGrids g after
    = (Recorded.outcome (Comparison.ofGrids g.recorded after.recorded)).1

theorem Scans.of_eq_ok {as : List Address} {v w : α} {x : Recorded α} {y : Except SheetFault α}
    (h : g.Scans as v x y) (hy : y = .ok w) : g.fault? as = none ∧ w = v := by
  rw [h.plain] at hy
  cases hf : g.fault? as with
  | none =>
      rw [ending_of_none hf] at hy
      cases hy
      exact ⟨rfl, rfl⟩
  | some fault =>
      rw [ending_of_some hf] at hy
      cases hy

theorem Scans.of_eq_error {as : List Address} {v : α} {fault : SheetFault} {x : Recorded α}
    {y : Except SheetFault α} (h : g.Scans as v x y) (hy : y = .error fault) :
    g.fault? as = some fault := by
  rw [h.plain] at hy
  cases hf : g.fault? as with
  | none =>
      rw [ending_of_none hf] at hy
      cases hy
  | some fault' =>
      rw [ending_of_some hf] at hy
      cases hy
      rfl

theorem previews (g : Grid (Except SheetFault)) (limit : Nat) : g.Previews limit where
  of_inspect := by
    intro ds hds
    obtain ⟨hnone, rfl⟩ := g.scans_inspect.of_eq_ok hds
    have htop : g.fault? (g.extent.top limit).places = none :=
      fault?_places_eq_none_iff.mpr fun a ha =>
        fault?_places_eq_none_iff.mp hnone a ha.of_top
    refine ⟨_, (g.scans_preview limit).plain.trans (ending_of_none htop _), ?_⟩
    have hcuts := (g.extent.top limit).cuts_table fun a => (g.cellAt a).value
    rw [Extent.places_top, List.map_take] at hcuts
    rw [List.map_take, List.map_map]
    exact hcuts
  of_fault := by
    intro rows fault hrows hfault
    obtain ⟨htop, -⟩ := (g.scans_preview limit).of_eq_ok hrows
    obtain ⟨i, hi⟩ := exists_failsAt (g.scans_inspect.of_eq_error hfault)
    refine ⟨i, hi, Nat.lt_of_not_le fun hle => ?_⟩
    -- a place in the first rows was read by the preview
    have hholds : (g.extent.top limit).Holds (Extent.place g.extent.columns i) :=
      Extent.holds_place (e := g.extent.top limit) ((Extent.row_place_le_iff _ hi.lt).mp hle)
    obtain ⟨cell, hcell⟩ := fault?_places_eq_none_iff.mp htop _ hholds
    rw [hi.fails] at hcell
    cases hcell

/-- A comparison inspects one grid and goes on with the other. -/
theorem run_ofGrids (before after : Grid Recorded) (log : List Address) :
    (Comparison.ofGrids before after).run.run log
      = ExceptT.bindCont
          (fun old => after.inspect >>= fun new => pure (Comparison.ofDescriptors old new))
          (before.inspect.run.run log).1 (before.inspect.run.run log).2 := rfl

theorem outcome_ofGrids_of_error {fault : SheetFault} (h : g.inspect = .error fault)
    (after : Grid Recorded) :
    Recorded.outcome (Comparison.ofGrids g.recorded after)
      = (.error fault, (Recorded.outcome g.recorded.inspect).2) := by
  have hf := g.scans_inspect.of_eq_error h
  rw [g.scans_inspect.outcome, Recorded.outcome, run_ofGrids, g.scans_inspect.recorded,
    ending_of_some hf, List.append_nil]
  exact Prod.ext rfl (List.reverse_reverse _)

theorem outcome_ofGrids_of_ok {ds : List Descriptor} (h : g.inspect = .ok ds)
    (after : Grid (Except SheetFault)) :
    Recorded.outcome (Comparison.ofGrids g.recorded after.recorded)
      = (after.inspect.map (Comparison.ofDescriptors ds),
          (Recorded.outcome g.recorded.inspect).2 ++ (Recorded.outcome after.recorded.inspect).2) := by
  obtain ⟨hnone, hds⟩ := g.scans_inspect.of_eq_ok h
  have hafter := after.scans_inspect.bind_pure (Comparison.ofDescriptors ds)
  have hplain : after.inspect.map (Comparison.ofDescriptors ds) = _ := hafter.plain
  rw [g.scans_inspect.outcome, after.scans_inspect.outcome, Recorded.outcome, run_ofGrids,
    g.scans_inspect.recorded, ending_of_none hnone, ← hds, List.append_nil, hplain]
  -- what the other grid reads is recorded on top of what was read before
  have hrun := hafter.recorded (g.readUntil g.extent.places).reverse
  refine (congrArg (fun r => (r.1, r.2.reverse)) hrun).trans ?_
  simp

theorem compares (g : Grid (Except SheetFault)) : g.Compares where
  of_error := fun _ h after => outcome_ofGrids_of_error h after
  of_ok := fun _ h after => outcome_ofGrids_of_ok h after
  plain := by
    intro after
    rw [Comparison.ofGrids]
    cases h : g.inspect with
    | error fault =>
        rw [outcome_ofGrids_of_error h]
        rfl
    | ok ds =>
        rw [outcome_ofGrids_of_ok h]
        rfl

/-- **What the readers of a grid read and end in.** Inspecting walks the whole extent, a preview
its first rows, the headers its first row; a preview is the beginning of what inspecting gives;
and a comparison inspects the grid from before and then, if that succeeded, the other. -/
theorem readers_walk (g : Grid (Except SheetFault)) (limit : Nat) :
    g.Walks g.extent (fun cell => g.extent.places.map fun a => Descriptor.of a (cell a))
        g.recorded.inspect g.inspect ∧
      g.Walks (g.extent.top limit) (fun cell => (g.extent.top limit).table fun a => (cell a).value)
        (g.recorded.preview limit) (g.preview limit) ∧
      g.Walks (g.extent.top 1)
        (fun cell => (g.extent.top 1).places.map fun a => headerOf a.column (cell a).value)
        g.recorded.headers g.headers ∧
      g.Previews limit ∧ g.Compares := by
  refine ⟨g.scans_inspect.walks ?_, (g.scans_preview limit).walks ?_, g.scans_headers.walks ?_,
    g.previews limit, g.compares⟩
  · intro c c' hc
    exact List.map_congr_left fun a ha => by rw [hc a ha]
  · intro c c' hc
    refine Extent.table_congr fun a ha => ?_
    rw [hc a (Extent.mem_places.mpr ha)]
  · intro c c' hc
    exact List.map_congr_left fun a ha => by rw [hc a ha]

end SheetInspector.Grid
