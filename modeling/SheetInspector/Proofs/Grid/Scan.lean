import SheetInspector.Grid
import SheetInspector.Proofs.Grid.Places

set_option autoImplicit false

/-! # Scanning addresses

A reading `Scans` a list of addresses when it reads them one after the other, ends with the first
fault there is, and otherwise gives a value fixed beforehand. Scans compose: what reads one list
and then another scans both (`Scans.bind`), and a loop whose rounds are scans is one
(`scans_collect`). Every reader of a grid is built from these, so what it reads and ends in
follows without looking at its reads again.
-/

namespace SheetInspector.Grid

variable {α β : Type} {g : Grid (Except SheetFault)}

/-! ## Reading addresses one after the other -/

/-- The fault of reading an address, if it is one. -/
def faultAt? (g : Grid (Except SheetFault)) (a : Address) : Option SheetFault :=
  match g.read a with
  | .error fault => some fault
  | .ok _ => none

/-- The cell read at an address, blank where reading fails. -/
def cellAt (g : Grid (Except SheetFault)) (a : Address) : Cell :=
  match g.read a with
  | .error _ => .blank
  | .ok cell => cell

/-- The first fault on the way through some addresses. -/
def fault? (g : Grid (Except SheetFault)) (as : List Address) : Option SheetFault :=
  as.findSome? g.faultAt?

/-- The addresses up to the first that cannot be read, and that one. -/
def readUntil (g : Grid (Except SheetFault)) : List Address → List Address
  | [] => []
  | a :: as => if (g.faultAt? a).isSome then [a] else a :: g.readUntil as

/-- What reading some addresses for a value ends in. -/
def ending (g : Grid (Except SheetFault)) (as : List Address) (v : α) : Except SheetFault α :=
  match g.fault? as with
  | some fault => .error fault
  | none => .ok v

theorem faultAt?_eq_some_iff {a : Address} {fault : SheetFault} :
    g.faultAt? a = some fault ↔ g.read a = .error fault := by
  cases h : g.read a with
  | error fault' => simp [faultAt?, h]
  | ok cell => simp [faultAt?, h]

theorem faultAt?_eq_none_iff {a : Address} :
    g.faultAt? a = none ↔ ∃ cell, g.read a = .ok cell := by
  cases h : g.read a with
  | error fault => simp [faultAt?, h]
  | ok cell => simp [faultAt?, h]

theorem cellAt_eq {a : Address} {cell : Cell} (h : g.read a = .ok cell) : g.cellAt a = cell := by
  rw [cellAt, h]

theorem fault?_eq_none_iff {as : List Address} :
    g.fault? as = none ↔ ∀ a ∈ as, ∃ cell, g.read a = .ok cell := by
  simp only [fault?, List.findSome?_eq_none_iff, faultAt?_eq_none_iff]

theorem ending_of_none {as : List Address} (h : g.fault? as = none) (v : α) :
    g.ending as v = .ok v := by
  rw [ending, h]

theorem ending_of_some {as : List Address} {fault : SheetFault} (h : g.fault? as = some fault)
    (v : α) : g.ending as v = .error fault := by
  rw [ending, h]

theorem readUntil_append_of_none {as : List Address} (h : g.fault? as = none)
    (bs : List Address) : g.readUntil (as ++ bs) = as ++ g.readUntil bs := by
  induction as with
  | nil => rfl
  | cons a as ih =>
      rw [fault?, List.findSome?_cons] at h
      cases ha : g.faultAt? a with
      | some fault => simp [ha] at h
      | none =>
          rw [ha] at h
          rw [List.cons_append, readUntil, ha, ih h]
          rfl

theorem readUntil_of_none {as : List Address} (h : g.fault? as = none) : g.readUntil as = as := by
  have happend := readUntil_append_of_none h []
  rwa [readUntil, List.append_nil] at happend

theorem readUntil_append_of_some {as : List Address} {fault : SheetFault}
    (h : g.fault? as = some fault) (bs : List Address) :
    g.readUntil (as ++ bs) = g.readUntil as := by
  induction as with
  | nil => cases h
  | cons a as ih =>
      rw [fault?, List.findSome?_cons] at h
      cases ha : g.faultAt? a with
      | some fault' => simp only [List.cons_append, readUntil, ha]; rfl
      | none =>
          rw [ha] at h
          rw [List.cons_append, readUntil, readUntil, ha, ih h]

theorem fault?_append_of_none {as : List Address} (h : g.fault? as = none) (bs : List Address) :
    g.fault? (as ++ bs) = g.fault? bs := by
  rw [fault?] at h
  rw [fault?, List.findSome?_append, h, Option.none_or]
  rfl

theorem fault?_append_of_some {as : List Address} {fault : SheetFault}
    (h : g.fault? as = some fault) (bs : List Address) : g.fault? (as ++ bs) = some fault := by
  rw [fault?] at h
  rw [fault?, List.findSome?_append, h, Option.some_or]

/-- Reading ends with the first address that cannot be read. -/
theorem readUntil_append_cons {as : List Address} {a : Address} {fault : SheetFault}
    (has : g.fault? as = none) (ha : g.read a = .error fault) (bs : List Address) :
    g.fault? (as ++ a :: bs) = some fault ∧ g.readUntil (as ++ a :: bs) = as ++ [a] := by
  have hfault : g.faultAt? a = some fault := faultAt?_eq_some_iff.mpr ha
  constructor
  · rw [fault?_append_of_none has, fault?, List.findSome?_cons, hfault]
  · rw [readUntil_append_of_none has, readUntil, hfault]
    rfl

theorem readUntil_sublist (as : List Address) : (g.readUntil as).Sublist as := by
  induction as with
  | nil => exact List.Sublist.refl _
  | cons a as ih =>
      rw [readUntil]
      by_cases h : (g.faultAt? a).isSome
      · rw [if_pos h]
        exact (List.nil_sublist as).cons_cons a
      · rw [if_neg h]
        exact ih.cons_cons a

/-! ## Scans -/

/-- Whether a reading, with its reads recorded and without, scans some addresses for a value. -/
structure Scans (g : Grid (Except SheetFault)) (as : List Address) (v : α) (x : Recorded α)
    (y : Except SheetFault α) : Prop where
  recorded : ∀ log, x.run.run log = (g.ending as v, (g.readUntil as).reverse ++ log)
  plain : y = g.ending as v

theorem scans_pure (v : α) : g.Scans [] v (pure v) (pure v) where
  recorded := fun _ => rfl
  plain := rfl

theorem scans_read (a : Address) : g.Scans [a] (g.cellAt a) (g.recorded.read a) (g.read a) where
  recorded := by
    intro log
    cases h : g.read a with
    | error fault =>
        simp only [Grid.recorded, ending, fault?, readUntil, faultAt?, List.findSome?_cons, h]
        rfl
    | ok cell =>
        simp only [Grid.recorded, ending, fault?, readUntil, faultAt?, cellAt, List.findSome?_cons,
          h]
        rfl
  plain := by
    cases h : g.read a with
    | error fault => simp [ending, fault?, faultAt?, h]
    | ok cell => simp [ending, fault?, faultAt?, cellAt, h]

/-- **Scans compose**: one reading after another scans the addresses of both, and the second is
given the value of the first. -/
theorem Scans.bind {as bs : List Address} {v : α} {w : β} {x : Recorded α}
    {y : Except SheetFault α} {f : α → Recorded β} {f' : α → Except SheetFault β}
    (hx : g.Scans as v x y) (hf : g.Scans bs w (f v) (f' v)) :
    g.Scans (as ++ bs) w (x >>= f) (y >>= f') := by
  constructor
  · intro log
    have hrun : (x >>= f).run.run log
        = ExceptT.bindCont f (x.run.run log).1 (x.run.run log).2 := rfl
    rw [hrun, hx.recorded]
    -- a fault of the first reading ends both; otherwise the second goes on with its log
    cases h : g.fault? as with
    | some fault =>
        rw [ending_of_some h, ending_of_some (fault?_append_of_some h bs),
          readUntil_append_of_some h]
        rfl
    | none =>
        rw [ending_of_none h, ending, fault?_append_of_none h, readUntil_append_of_none h,
          readUntil_of_none h, List.reverse_append, List.append_assoc]
        exact hf.recorded _
  · rw [hx.plain]
    cases h : g.fault? as with
    | some fault =>
        rw [ending_of_some h, ending_of_some (fault?_append_of_some h bs)]
        rfl
    | none =>
        rw [ending_of_none h, ending, fault?_append_of_none h]
        exact hf.plain

/-- A last step that reads nothing. -/
theorem Scans.bind_pure {as : List Address} {v : α} {x : Recorded α} {y : Except SheetFault α}
    (hx : g.Scans as v x y) (f : α → β) :
    g.Scans as (f v) (x >>= fun a => pure (f a)) (y >>= fun a => pure (f a)) := by
  have h : g.Scans (as ++ []) (f v) (x >>= fun a => pure (f a)) (y >>= fun a => pure (f a)) :=
    hx.bind (scans_pure (f v))
  rwa [List.append_nil] at h

theorem scans_collectFrom {as : Nat → List Address} {v : Nat → α} {x : Nat → Recorded α}
    {y : Nat → Except SheetFault α} (h : ∀ k, g.Scans (as k) (v k) (x k) (y k))
    (done : List α) (start count : Nat) :
    g.Scans ((List.range' start count).flatMap as)
      (done.reverse ++ (List.range' start count).map v)
      (collectFrom x done start count) (collectFrom y done start count) := by
  induction count generalizing done start with
  | zero =>
      rw [List.range'_zero, List.flatMap_nil, List.map_nil, List.append_nil]
      exact scans_pure done.reverse
  | succ count ih =>
      -- what is done stands in reverse, so the round just made goes in front of it
      have hrest := ih (v start :: done) (start + 1)
      rw [List.reverse_cons, List.append_assoc] at hrest
      rw [List.range'_succ, List.flatMap_cons, List.map_cons]
      exact (h start).bind hrest

/-- **A loop of scans is a scan.** -/
theorem scans_collect {as : Nat → List Address} {v : Nat → α} {x : Nat → Recorded α}
    {y : Nat → Except SheetFault α} (h : ∀ k, g.Scans (as k) (v k) (x k) (y k)) (last : Nat) :
    g.Scans ((List.range' 1 last).flatMap as) ((List.range' 1 last).map v)
      (collect last x) (collect last y) :=
  scans_collectFrom h [] 1 last

end SheetInspector.Grid
