import SheetInspector.Command.Run
import SheetInspector.Proofs.Log.Result
import SheetInspector.Proofs.Sheet.Inspection

set_option autoImplicit false

/-! # What commands report

Once its file is loaded, a command that looks at one sheet cannot fail: the sheet is inspected,
and what is logged on the way does not matter to what is reported.
-/

namespace SheetInspector.Work

theorem run_logInspection (s : Sheet) (log : List LogRecord) :
    ∃ log', (logInspection s).run log = (.ok (), log') := by
  rw [logInspection]
  by_cases he : s.isEmpty
  · exact ⟨log, by simp only [he]; rfl⟩
  · exact ⟨_, by simp only [he]; rfl⟩

theorem run_inspect (s : Sheet) (log : List LogRecord) :
    ∃ log', (inspect s).run log = (.ok s.descriptors, log') := by
  obtain ⟨log', hlog⟩ := run_logInspection s log
  refine ⟨log', ?_⟩
  rw [inspect, s.inspect_grid]
  exact (Logged.run_bind_of_ok (Logged.run_ofExcept _ log) _).trans
    (Logged.run_bind_of_ok hlog _)

theorem run_compare (s t : Sheet) (log : List LogRecord) :
    ∃ log', (compare s t).run log
      = (.ok (Comparison.ofDescriptors s.descriptors t.descriptors), log') := by
  obtain ⟨before, hbefore⟩ := run_logInspection s log
  obtain ⟨after, hafter⟩ := run_logInspection t before
  let count := (Comparison.ofDescriptors s.descriptors t.descriptors).changes.length
  refine ⟨⟨.debug, coreName ++ "::diff", "diff found " ++ toString count ++ " changed cells"⟩ ::
    after, ?_⟩
  rw [compare, s.inspect_grid, t.inspect_grid]
  calc _ = _ := Logged.run_bind_of_ok (Logged.run_ofExcept _ log) _
    _ = _ := Logged.run_bind_of_ok hbefore _
    _ = _ := Logged.run_bind_of_ok (Logged.run_ofExcept _ before) _
    _ = _ := Logged.run_bind_of_ok hafter _

theorem run_logFindings (findings : List Finding) (log : List LogRecord) :
    ∃ log', (logFindings findings).run log = (.ok (), log') := by
  induction findings generalizing log with
  | nil => exact ⟨log, rfl⟩
  | cons f rest ih => exact ih _

variable {storage : Storage} {o : LoadOptions} {input : String} {w : Workbook} {s : Sheet}

theorem run_activeSheet (h : w.activeSheet = .ok s) (log : List LogRecord) :
    (activeSheet w input).run log = (.ok s, log) := by
  rw [activeSheet, h]
  rfl

/-- **The report of the command that describes every cell.** -/
theorem result_inspect (hload : (load storage o input).result = .ok w)
    (hs : w.activeSheet = .ok s) :
    (report storage o (.inspect input)).result
      = .ok (.inspection (s.label input) s.descriptors) := by
  obtain ⟨loaded, hloaded⟩ := Logged.result_eq_ok_iff.mp hload
  obtain ⟨inspected, hinspected⟩ := run_inspect s loaded
  refine Logged.result_eq_ok_iff.mpr ⟨inspected, ?_⟩
  calc (report storage o (.inspect input)).run []
      = _ := Logged.run_bind_of_ok hloaded _
    _ = _ := Logged.run_bind_of_ok (run_activeSheet hs loaded) _
    _ = _ := Logged.run_bind_of_ok hinspected _

/-- **The report of the command that shows the first rows.** -/
theorem result_preview {rows : Nat} (hload : (load storage o input).result = .ok w)
    (hs : w.activeSheet = .ok s) :
    (report storage o (.preview input rows)).result
      = .ok (.preview (s.label input) s.columnNames (s.firstRows rows)) := by
  obtain ⟨loaded, hloaded⟩ := Logged.result_eq_ok_iff.mp hload
  refine Logged.result_eq_ok_iff.mpr ⟨loaded, ?_⟩
  have hheaders : (Logged.ofExcept (s.grid.headers.mapError CommandFault.headers)).run loaded
      = (.ok s.columnNames, loaded) := by
    rw [s.headers_grid]
    rfl
  have hrows : (Logged.ofExcept ((s.grid.preview rows).mapError
      (CommandFault.preview s.name))).run loaded = (.ok (s.firstRows rows), loaded) := by
    rw [s.preview_grid]
    rfl
  calc (report storage o (.preview input rows)).run []
      = _ := Logged.run_bind_of_ok hloaded _
    _ = _ := Logged.run_bind_of_ok (run_activeSheet hs loaded) _
    _ = _ := Logged.run_bind_of_ok hheaders _
    _ = _ := Logged.run_bind_of_ok hrows _

/-- **The report of the command that looks for wrong markers.** -/
theorem result_check (hload : (load storage o input).result = .ok w)
    (hs : w.activeSheet = .ok s) :
    (report storage o (.check input)).result
      = .ok (.check (s.label input) (s.descriptors.filter fun d => d.formula.isSome).length
          (Finding.ofDescriptors s.descriptors)) := by
  obtain ⟨loaded, hloaded⟩ := Logged.result_eq_ok_iff.mp hload
  obtain ⟨inspected, hinspected⟩ := run_inspect s loaded
  obtain ⟨found, hfound⟩ := run_logFindings (Finding.ofDescriptors s.descriptors) inspected
  refine Logged.result_eq_ok_iff.mpr ⟨found, ?_⟩
  calc (report storage o (.check input)).run []
      = _ := Logged.run_bind_of_ok hloaded _
    _ = _ := Logged.run_bind_of_ok (run_activeSheet hs loaded) _
    _ = _ := Logged.run_bind_of_ok hinspected _
    _ = _ := Logged.run_bind_of_ok hfound _

/-- **The report of the command that sums up a workbook.** -/
theorem result_info (hload : (load storage o input).result = .ok w) :
    (report storage o (.info input)).result = .ok (.contents input w.summaries) := by
  obtain ⟨loaded, hloaded⟩ := Logged.result_eq_ok_iff.mp hload
  exact Logged.result_eq_ok_iff.mpr ⟨loaded, Logged.run_bind_of_ok hloaded _⟩

/-- The summary of the active sheet. -/
theorem summaries_active (hs : w.activeSheet = .ok s) :
    w.summaries[w.active]? = some
      { index := w.active, name := s.name, active := true, extent := s.extent
        formulas := s.formulas.length } := by
  have hget : w.sheets[w.active]? = some s := by
    rw [Workbook.activeSheet, Workbook.sheet?] at hs
    by_cases hempty : w.sheets.isEmpty
    · rw [if_pos hempty] at hs
      cases hs
    · rw [if_neg hempty] at hs
      cases hsheet : w.sheets[w.active]? with
      | none =>
          rw [hsheet] at hs
          cases hs
      | some s' =>
          rw [hsheet] at hs
          cases hs
          rfl
  rw [Workbook.summaries, List.getElem?_mapIdx, hget, Option.map_some, beq_self_eq_true]

end SheetInspector.Work
