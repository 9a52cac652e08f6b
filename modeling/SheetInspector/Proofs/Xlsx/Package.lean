import SheetInspector.Proofs.Log.Result
import SheetInspector.Proofs.Workbook.Edit
import SheetInspector.Proofs.Xlsx.Reading
import SheetInspector.Xlsx.Workbook

set_option autoImplicit false

/-! # Workbooks and the parts of their sheets

A workbook is read as a whole or not at all. Where it is, its sheets are those of the listed entries
that lead to a part, in the order of the list, each as its part is read, and the active one is that
of the entry with the index that the workbook part gives (`loadPackage_reads`). So every sheet that
the package leads to is in the workbook, and a part that cannot be read leaves no workbook
(`loadPackage_fails`).
-/

namespace SheetInspector.Xlsx

/-! ## Places in a list -/

section Places

variable {α β : Type} {f : α → Option β}

/-- The place of the element at an index among what `f` makes of all of them. -/
def placeAmong (f : α → Option β) (xs : List α) (i : Nat) : Nat := ((xs.take i).filterMap f).length

theorem placeAmong_zero (f : α → Option β) (xs : List α) : placeAmong f xs 0 = 0 := by
  rw [placeAmong, List.take_zero]
  rfl

theorem placeAmong_succ_of_some {x : α} {y : β} (hx : f x = some y) (xs : List α) (i : Nat) :
    placeAmong f (x :: xs) (i + 1) = placeAmong f xs i + 1 := by
  rw [placeAmong, List.take_succ_cons, List.filterMap_cons_some hx]
  rfl

theorem placeAmong_succ_of_none {x : α} (hx : f x = none) (xs : List α) (i : Nat) :
    placeAmong f (x :: xs) (i + 1) = placeAmong f xs i := by
  rw [placeAmong, List.take_succ_cons, List.filterMap_cons_none hx]
  rfl

/-- **What is made of an element is at its place**, and there is nothing else. -/
theorem getElem?_filterMap_iff {xs : List α} {k : Nat} {y : β} :
    (xs.filterMap f)[k]? = some y ↔
      ∃ i x, xs[i]? = some x ∧ f x = some y ∧ placeAmong f xs i = k := by
  induction xs generalizing k with
  | nil => simp
  | cons x xs ih =>
      cases hx : f x with
      | none =>
          rw [List.filterMap_cons_none hx, ih]
          constructor
          · rintro ⟨i, x', hi, hx', rfl⟩
            exact ⟨i + 1, x', hi, hx', placeAmong_succ_of_none hx xs i⟩
          · rintro ⟨i, x', hi, hx', rfl⟩
            cases i with
            | zero =>
                cases hi
                rw [hx] at hx'
                cases hx'
            | succ i => exact ⟨i, x', hi, hx', (placeAmong_succ_of_none hx xs i).symm⟩
      | some y' =>
          rw [List.filterMap_cons_some hx]
          cases k with
          | zero =>
              constructor
              · intro h
                cases h
                exact ⟨0, x, rfl, hx, placeAmong_zero f _⟩
              · rintro ⟨i, x', hi, hx', hplace⟩
                cases i with
                | zero =>
                    cases hi
                    exact hx.symm.trans hx'
                | succ i =>
                    rw [placeAmong_succ_of_some hx] at hplace
                    cases hplace
          | succ k =>
              rw [List.getElem?_cons_succ, ih]
              constructor
              · rintro ⟨i, x', hi, hx', rfl⟩
                exact ⟨i + 1, x', hi, hx', placeAmong_succ_of_some hx xs i⟩
              · rintro ⟨i, x', hi, hx', hplace⟩
                cases i with
                | zero =>
                    rw [placeAmong_zero] at hplace
                    cases hplace
                | succ i =>
                    rw [placeAmong_succ_of_some hx, Nat.succ.injEq] at hplace
                    exact ⟨i, x', hi, hx', hplace⟩

/-- Where something is made of every element, places are indices. -/
theorem placeAmong_eq_self {xs : List α} (h : ∀ x ∈ xs, (f x).isSome) {i : Nat}
    (hi : i ≤ xs.length) : placeAmong f xs i = i := by
  induction xs generalizing i with
  | nil =>
      obtain rfl : i = 0 := Nat.le_zero.mp hi
      exact placeAmong_zero f []
  | cons x xs ih =>
      obtain ⟨hx, hxs⟩ := List.forall_mem_cons.mp h
      obtain ⟨y, hy⟩ := Option.isSome_iff_exists.mp hx
      cases i with
      | zero => exact placeAmong_zero f _
      | succ i => rw [placeAmong_succ_of_some hy, ih hxs (Nat.le_of_succ_le_succ hi)]

end Places

/-! ## Parts -/

variable {p : Package} {shared : Array String}

/-- The shared texts of a package. -/
def sharedTexts (p : Package) : Except Fault (Array String) :=
  match p "xl/sharedStrings.xml" with
  | none => .ok #[]
  | some c => readSharedTexts (document c)

theorem run_loadSharedTexts {log log' : List LogRecord}
    (h : (loadSharedTexts p).run log = (.ok shared, log')) : sharedTexts p = .ok shared := by
  rw [loadSharedTexts] at h
  rw [sharedTexts]
  cases hpart : p "xl/sharedStrings.xml" with
  | none =>
      rw [hpart] at h
      cases h
      rfl
  | some c =>
      rw [hpart] at h
      obtain ⟨texts, mid, htexts, hrest⟩ := Logged.run_bind_eq_ok h
      rw [Logged.run_ofExcept] at htexts
      cases hrest
      exact congrArg Prod.fst htexts

/-- A listed sheet and the name of its part, if a worksheet relationship leads to one. -/
def Relationships.leads? (r : Relationships) (entry : SheetEntry) : Option (SheetEntry × String) :=
  (r.part? entry.relationship).map fun part => (entry, part)

theorem Relationships.leads?_eq_some_iff {r : Relationships} {entry : SheetEntry}
    {x : SheetEntry × String} :
    r.leads? entry = some x ↔ x.1 = entry ∧ r.part? entry.relationship = some x.2 := by
  rw [leads?, Option.map_eq_some_iff]
  constructor
  · rintro ⟨part, hpart, rfl⟩
    exact ⟨rfl, hpart⟩
  · rintro ⟨rfl, hpart⟩
    exact ⟨x.2, hpart, rfl⟩

/-- Whether a sheet is what the part of a listed sheet is read as. -/
def ReadsAs (p : Package) (shared : Array String) (x : SheetEntry × String) (s : Sheet) : Prop :=
  ∃ d, neededDocument p x.2 = .ok d ∧ readSheetPart shared x.1.name d = .ok s

theorem run_loadSheet {name part : String} {s : Sheet} {log log' : List LogRecord}
    (h : (loadSheet p shared name part).run log = (.ok s, log')) :
    ∃ d, neededDocument p part = .ok d ∧ readSheetPart shared name d = .ok s := by
  obtain ⟨d, mid, hd, hrest⟩ := Logged.run_bind_eq_ok h
  obtain ⟨s', mid', hs, hlog⟩ := Logged.run_bind_eq_ok hrest
  rw [Logged.run_ofExcept] at hd hs
  cases hlog
  exact ⟨d, congrArg Prod.fst hd, congrArg Prod.fst hs⟩

/-! ## Adding sheets -/

/-- What adding listed sheets from index `tab` on does: `sheets` are those that lead to a part. -/
structure AddsSheets (p : Package) (shared : Array String) (r : Relationships) (activeTab tab : Nat)
    (a b : Assembly) (entries : List SheetEntry) (sheets : List Sheet) : Prop where
  read : List.Forall₂ (ReadsAs p shared) (entries.filterMap r.leads?) sheets
  workbook : b.workbook = ⟨a.workbook.sheets ++ sheets, a.workbook.active⟩
  /-- The names stay different. -/
  sound : a.workbook.Sound → b.workbook.Sound
  /-- An entry that is to be active has the index of its sheet remembered, if it leads to one. -/
  active_at : ∀ i, activeTab = tab + i →
    b.active = (((entries[i]?).bind r.leads?).map fun _ =>
      a.workbook.sheets.length + placeAmong r.leads? entries i).or a.active
  active_behind : activeTab < tab → b.active = a.active

section Adding

variable {r : Relationships} {activeTab tab : Nat} {a b : Assembly} {entry : SheetEntry}
  {entries : List SheetEntry} {sheets : List Sheet}

theorem addsSheets_nil : AddsSheets p shared r activeTab tab a a [] [] where
  read := .nil
  workbook := by rw [List.append_nil]
  sound := id
  active_at := fun i _ => by simp
  active_behind := fun _ => rfl

/-- An entry without a part counts for the index, and nothing else. -/
theorem AddsSheets.skip (hentry : r.leads? entry = none)
    (h : AddsSheets p shared r activeTab (tab + 1) a b entries sheets) :
    AddsSheets p shared r activeTab tab a b (entry :: entries) sheets where
  read := by
    rw [List.filterMap_cons_none hentry]
    exact h.read
  workbook := h.workbook
  sound := h.sound
  active_at := by
    intro i hi
    cases i with
    | zero =>
        rw [h.active_behind (by omega), List.getElem?_cons_zero, Option.bind_some, hentry]
        rfl
    | succ i =>
        rw [h.active_at i (by omega), placeAmong_succ_of_none hentry, List.getElem?_cons_succ]
  active_behind := fun htab => h.active_behind (Nat.lt_succ_of_lt htab)

/-- An entry with a part is read and added. -/
theorem AddsSheets.cons {x : SheetEntry × String} {s : Sheet} (hentry : r.leads? entry = some x)
    (hs : ReadsAs p shared x s) (hname : s.name ∉ a.workbook.names)
    (h : AddsSheets p shared r activeTab (tab + 1)
      ⟨a.workbook.append s, if tab = activeTab then some a.workbook.sheets.length else a.active⟩ b
      entries sheets) :
    AddsSheets p shared r activeTab tab a b (entry :: entries) (s :: sheets) where
  read := by
    rw [List.filterMap_cons_some hentry]
    exact .cons hs h.read
  workbook := by
    rw [h.workbook, Workbook.append, List.append_assoc, List.singleton_append]
  sound := fun ha => h.sound (ha.append hname)
  active_at := by
    have hlength : (a.workbook.append s).sheets.length = a.workbook.sheets.length + 1 :=
      List.length_append
    intro i hi
    cases i with
    | zero =>
        have htab : tab = activeTab := by omega
        rw [h.active_behind (by omega), if_pos htab, List.getElem?_cons_zero, Option.bind_some,
          hentry, placeAmong_zero]
        rfl
    | succ i =>
        have htab : tab ≠ activeTab := by omega
        rw [h.active_at i (by omega), if_neg htab, hlength, placeAmong_succ_of_some hentry,
          List.getElem?_cons_succ, Nat.add_assoc, Nat.add_comm 1]
  active_behind := by
    intro htab
    rw [h.active_behind (Nat.lt_succ_of_lt htab), if_neg (Nat.ne_of_gt htab)]

/-- **What adding the listed sheets does.** -/
theorem run_addSheets {log log' : List LogRecord}
    (h : (addSheets p shared r activeTab tab a entries).run log = (.ok b, log')) :
    ∃ sheets, AddsSheets p shared r activeTab tab a b entries sheets := by
  induction entries generalizing tab a log with
  | nil =>
      cases h
      exact ⟨[], addsSheets_nil⟩
  | cons entry entries ih =>
      rw [addSheets] at h
      cases hpart : r.part? entry.relationship with
      | none =>
          rw [hpart] at h
          obtain ⟨_, mid, -, hrest⟩ := Logged.run_bind_eq_ok h
          obtain ⟨sheets, hsheets⟩ := ih hrest
          have hentry : r.leads? entry = none := by
            rw [Relationships.leads?, hpart]
            rfl
          exact ⟨sheets, hsheets.skip hentry⟩
      | some part =>
          rw [hpart] at h
          obtain ⟨s, mid, hs, hrest⟩ := Logged.run_bind_eq_ok h
          obtain ⟨⟨w, index⟩, mid', hadd, hrest'⟩ := Logged.run_bind_eq_ok hrest
          rw [Logged.run_ofExcept] at hadd
          obtain ⟨hname, -, rfl⟩ :=
            Workbook.add_eq_ok_iff.mp (mapError_eq_ok_iff.mp (congrArg Prod.fst hadd))
          obtain ⟨sheets, hsheets⟩ := ih hrest'
          have hentry : r.leads? entry = some (entry, part) :=
            Relationships.leads?_eq_some_iff.mpr ⟨rfl, hpart⟩
          exact ⟨s :: sheets, hsheets.cons hentry (run_loadSheet hs) hname⟩

end Adding

/-- The workbook with a sheet, if it has none. -/
def Assembly.filled (a : Assembly) : Except Fault Workbook :=
  if a.workbook.sheets = [] then
    ((a.workbook.add (Sheet.new "Sheet1")).mapError .sheet).map Prod.fst
  else .ok a.workbook

/-- Finishing a workbook is seeing to it that it has a sheet, and then making one active. -/
theorem Assembly.finish_eq (a : Assembly) :
    a.finish = a.filled >>= fun w =>
      a.active.elim (.ok w) fun index => (w.activate index).mapError .sheet := by
  obtain ⟨workbook, active⟩ := a
  rw [finish, filled]
  by_cases hnil : workbook.sheets = []
  · have hempty : workbook.sheets.isEmpty = true := List.isEmpty_iff.mpr hnil
    rw [if_pos hempty, if_pos hnil]
    cases (workbook.add (Sheet.new "Sheet1")).mapError Fault.sheet with
    | error fault => rfl
    | ok added =>
        cases active with
        | none => rfl
        | some index => rfl
  · have hempty : ¬ workbook.sheets.isEmpty = true := mt List.isEmpty_iff.mp hnil
    rw [if_neg hempty, if_neg hnil]
    cases active with
    | none => rfl
    | some index => rfl

theorem Assembly.filled_eq_ok {a : Assembly} {w : Workbook} (h : a.filled = .ok w) :
    w.sheets = (if a.workbook.sheets = [] then [Sheet.new "Sheet1"] else a.workbook.sheets) ∧
      w.active = a.workbook.active ∧ (a.workbook.Sound → w.Sound) := by
  rw [filled] at h
  by_cases hnil : a.workbook.sheets = []
  · rw [if_pos hnil, map_eq_ok_iff] at h
    obtain ⟨⟨w', index⟩, hadd, rfl⟩ := h
    obtain ⟨hname, -, rfl⟩ := Workbook.add_eq_ok_iff.mp (mapError_eq_ok_iff.mp hadd)
    refine ⟨?_, rfl, fun ha => ha.append hname⟩
    rw [if_pos hnil, Workbook.append, hnil]
    rfl
  · rw [if_neg hnil] at h
    cases h
    exact ⟨(if_neg hnil).symm, rfl, id⟩

/-- What finishing a workbook does. -/
theorem Assembly.finish_eq_ok {a : Assembly} {w : Workbook} (h : a.finish = .ok w) :
    w.sheets = (if a.workbook.sheets = [] then [Sheet.new "Sheet1"] else a.workbook.sheets) ∧
      w.active = a.active.getD a.workbook.active ∧ (a.workbook.Sound → w.Sound) := by
  rw [finish_eq, bind_eq_ok_iff] at h
  obtain ⟨filled, hfilled, hactive⟩ := h
  obtain ⟨hsheets, hkept, hsound⟩ := filled_eq_ok hfilled
  cases ha : a.active with
  | none =>
      rw [ha] at hactive
      cases hactive
      exact ⟨hsheets, hkept, hsound⟩
  | some index =>
      rw [ha] at hactive
      obtain ⟨hindex, rfl⟩ := Workbook.activate_eq_ok_iff.mp (mapError_eq_ok_iff.mp hactive)
      exact ⟨hsheets, rfl, fun ha => (hsound ha).withActive hindex⟩

/-! ## Packages -/

/-- What a workbook has been read from: the shared texts of its package, the outline in the
workbook part, the worksheet relationships, and the sheets that these lead to. -/
structure ReadsPackage (p : Package) (shared : Array String) (outline : Outline) (r : Relationships)
    (sheets : List Sheet) (w : Workbook) : Prop where
  shared_eq : sharedTexts p = .ok shared
  outline_eq : neededDocument p "xl/workbook.xml" >>= readOutline = .ok outline
  relationships_eq : neededDocument p "xl/_rels/workbook.xml.rels" >>= readRelationships = .ok r
  read : List.Forall₂ (ReadsAs p shared) (outline.entries.filterMap r.leads?) sheets
  sheets_eq : w.sheets = if sheets = [] then [Sheet.new "Sheet1"] else sheets
  /-- The active sheet is that of the entry with the index of the active one, and the first sheet
  if there is none. -/
  active_eq : w.active = (((outline.entries[outline.activeTab]?).bind r.leads?).map fun _ =>
    placeAmong r.leads? outline.entries outline.activeTab).getD 0
  sound : w.Sound

/-- **What a package is read as.** -/
theorem run_loadPackage {w : Workbook} {log log' : List LogRecord}
    (hrun : (loadPackage p).run log = (.ok w, log')) :
    ∃ shared outline r sheets, ReadsPackage p shared outline r sheets w := by
  rw [loadPackage] at hrun
  by_cases htypes : (p "[Content_Types].xml").isNone
  · rw [if_pos htypes] at hrun
    cases hrun
  · rw [if_neg htypes] at hrun
    obtain ⟨shared, _, hshared, hrest⟩ := Logged.run_bind_eq_ok hrun
    obtain ⟨outline, _, houtline, hrest'⟩ := Logged.run_bind_eq_ok hrest
    obtain ⟨r, _, hr, hrest''⟩ := Logged.run_bind_eq_ok hrest'
    obtain ⟨b, _, hadded, hfinish⟩ := Logged.run_bind_eq_ok hrest''
    rw [Logged.run_ofExcept] at houtline hr hfinish
    obtain ⟨sheets, hsheets⟩ := run_addSheets hadded
    obtain ⟨hfinished, hactive, hsound⟩ := Assembly.finish_eq_ok (congrArg Prod.fst hfinish)
    have hb : b.workbook = ⟨sheets, 0⟩ := hsheets.workbook
    refine ⟨shared, outline, r, sheets, ?_⟩
    constructor
    · exact run_loadSharedTexts hshared
    · exact congrArg Prod.fst houtline
    · exact congrArg Prod.fst hr
    · exact hsheets.read
    · rw [hfinished, hb]
    · rw [hactive, hb, hsheets.active_at outline.activeTab (Nat.zero_add _).symm, Option.or_none]
      simp only [Workbook.empty, List.length_nil, Nat.zero_add]
    · exact hsound (hsheets.sound Workbook.sound_empty)

theorem loadPackage_reads {w : Workbook} (h : (loadPackage p).result = .ok w) :
    ∃ shared outline r sheets, ReadsPackage p shared outline r sheets w := by
  obtain ⟨log, hrun⟩ := Logged.result_eq_ok_iff.mp h
  exact run_loadPackage hrun

/-- Whether a package leads to a sheet with a name, whose part is the given document. -/
structure LeadsTo (p : Package) (shared : Array String) (name : String) (d : Xml.Document) : Prop
    where
  shared : sharedTexts p = .ok shared
  listed : ∃ (outline : Outline) (relationships : Relationships) (entry : SheetEntry)
      (part : String),
    neededDocument p "xl/workbook.xml" >>= readOutline = .ok outline ∧
      neededDocument p "xl/_rels/workbook.xml.rels" >>= readRelationships = .ok relationships ∧
      entry ∈ outline.entries ∧ entry.name = name ∧
      relationships.part? entry.relationship = some part ∧ neededDocument p part = .ok d

/-- **The sheets that a package leads to are in the workbook.** -/
theorem sheet_of_loadPackage {w : Workbook} {name : String} {d : Xml.Document}
    (h : (loadPackage p).result = .ok w) (hl : LeadsTo p shared name d) :
    ∃ s, readSheetPart shared name d = .ok s ∧ s ∈ w.sheets := by
  obtain ⟨shared', outline', r', sheets, hreads⟩ := loadPackage_reads h
  obtain ⟨hshared, outline, r, entry, part, houtline, hr, hentry, rfl, hpart, hd⟩ := hl
  -- what the workbook was read from is what the package says
  obtain rfl : shared = shared' := Except.ok.inj (hshared.symm.trans hreads.shared_eq)
  obtain rfl : outline = outline' := Except.ok.inj (houtline.symm.trans hreads.outline_eq)
  obtain rfl : r = r' := Except.ok.inj (hr.symm.trans hreads.relationships_eq)
  have hlisted : (entry, part) ∈ outline.entries.filterMap r.leads? :=
    List.mem_filterMap.mpr ⟨entry, hentry, Relationships.leads?_eq_some_iff.mpr ⟨rfl, hpart⟩⟩
  obtain ⟨k, hk⟩ := List.mem_iff_getElem?.mp hlisted
  obtain ⟨s, hs, d', hd', hread⟩ := getElem?_of_forall₂ hreads.read hk
  obtain rfl : d = d' := Except.ok.inj (hd.symm.trans hd')
  refine ⟨s, hread, ?_⟩
  have hmem : s ∈ sheets := List.mem_of_getElem? hs
  rw [hreads.sheets_eq, if_neg (List.ne_nil_of_mem hmem)]
  exact hmem

/-- **A part that cannot be read leaves no workbook.** -/
theorem loadPackage_fails {name : String} {d : Xml.Document} {fault : Fault}
    (hl : LeadsTo p shared name d) (h : readSheetPart shared name d = .error fault) :
    ∃ fault', (loadPackage p).result = .error fault' := by
  cases hload : (loadPackage p).result with
  | error fault' => exact ⟨fault', rfl⟩
  | ok w =>
      obtain ⟨s, hs, -⟩ := sheet_of_loadPackage hload hl
      rw [hs] at h
      cases h

end SheetInspector.Xlsx
