import SheetInspector.Comparison
import SheetInspector.Proofs.Address.Ordered
import SheetInspector.Proofs.Extent

set_option autoImplicit false

/-! # The changes between two lists of descriptors

A list of descriptors, in any order and with addresses repeated, has at every address a `side`:
the last descriptor there that is not blank. `ChangeKind.Between` says, without reference to how
a comparison is made, when two sides differ and how. The changes of a comparison are exactly the
addresses whose sides differ, in order (`ofDescriptors_exact`).
-/

namespace SheetInspector

/-- How two sides of an address differ. -/
inductive ChangeKind.Between : Option Descriptor → Option Descriptor → ChangeKind → Prop
  | added (after : Descriptor) : Between none (some after) .added
  | removed (before : Descriptor) : Between (some before) none .removed
  | modified (before after : Descriptor)
      (differ : before.kind ≠ after.kind ∨ before.value.agrees after.value = false ∨
        before.formula ≠ after.formula) :
      Between (some before) (some after) .modified

theorem Descriptor.sameContent_eq_false_iff {a b : Descriptor} :
    a.sameContent b = false ↔
      a.kind ≠ b.kind ∨ a.value.agrees b.value = false ∨ a.formula ≠ b.formula := by
  simp only [sameContent, Bool.and_eq_false_iff, beq_eq_false_iff_ne, or_assoc]

theorem ChangeKind.between?_eq_some_iff {before after : Option Descriptor} {kind : ChangeKind} :
    between? before after = some kind ↔ Between before after kind := by
  constructor
  · intro h
    cases before with
    | none =>
        cases after with
        | none => cases h
        | some b =>
            cases h
            exact .added b
    | some a =>
        cases after with
        | none =>
            cases h
            exact .removed a
        | some b =>
            cases hs : a.sameContent b with
            | true => simp [between?, hs] at h
            | false =>
                rw [between?, hs] at h
                cases h
                exact .modified a b (Descriptor.sameContent_eq_false_iff.mp hs)
  · intro h
    cases h with
    | added b => rfl
    | removed a => rfl
    | modified a b differ =>
        rw [between?, Descriptor.sameContent_eq_false_iff.mpr differ]
        rfl

namespace Comparison

/-- The side that a list of descriptors has at an address: the last one there with a value or a
formula. -/
def side (ds : List Descriptor) (a : Address) : Option Descriptor :=
  (ds.filter fun d => d.address = a ∧ (d.value ≠ .null ∨ d.formula ≠ none)).getLast?

theorem address_of_side {ds : List Descriptor} {a : Address} {d : Descriptor}
    (h : side ds a = some d) : d.address = a := by
  have hmem := (List.mem_filter.mp (List.mem_of_getLast? h)).2
  exact (of_decide_eq_true hmem).1

theorem isBlank_of_side {ds : List Descriptor} {a : Address} {d : Descriptor}
    (h : side ds a = some d) : d.isBlank = false := by
  have hmem := (List.mem_filter.mp (List.mem_of_getLast? h)).2
  exact d.isBlank_eq_false_iff.mpr (of_decide_eq_true hmem).2

/-- Where no address occurs twice, a side is the descriptor at the address, if that is not
blank. -/
theorem side_eq_some_iff {ds : List Descriptor} (hds : (ds.map Descriptor.address).Nodup)
    {a : Address} {d : Descriptor} :
    side ds a = some d ↔ d ∈ ds ∧ d.address = a ∧ d.isBlank = false := by
  constructor
  · intro h
    exact ⟨(List.mem_filter.mp (List.mem_of_getLast? h)).1, address_of_side h, isBlank_of_side h⟩
  · rintro ⟨hd, ha, hblank⟩
    have hmem : d ∈ ds.filter fun d => d.address = a ∧ (d.value ≠ .null ∨ d.formula ≠ none) :=
      List.mem_filter.mpr ⟨hd, decide_eq_true ⟨ha, d.isBlank_eq_false_iff.mp hblank⟩⟩
    have hlast := List.getLast?_eq_some_getLast (List.ne_nil_of_mem hmem)
    -- the last one has the address of `d`, so it is `d`
    have hsame := List.inj_on_of_nodup_map hds
      (List.mem_filter.mp (List.getLast_mem (List.ne_nil_of_mem hmem))).1 hd
      ((address_of_side hlast).trans ha.symm)
    rw [side, hlast, hsame]

/-! ## The index of a list -/

/-- Of several descriptors put into a map one after the other, the last one at an address stays,
and what was there before stays where there is none. -/
private theorem getElem?_foldl_insert (ds : List Descriptor)
    (t : Std.TreeMap Address Descriptor Address.compare) (a : Address) :
    (ds.foldl (fun t d => t.insert d.address d) t)[a]?
      = ((ds.filter fun d => d.address = a).getLast?).or t[a]? := by
  induction ds generalizing t with
  | nil => rfl
  | cons d ds ih =>
      rw [List.foldl_cons, ih, Std.TreeMap.getElem?_insert]
      -- the descriptor counts only if none after it has its address
      by_cases hd : d.address = a
      · rw [List.filter_cons_of_pos (by simpa using hd), List.getLast?_cons,
          if_pos (Address.compare_eq_eq.mpr hd)]
        cases (ds.filter fun d => d.address = a).getLast? with
        | none => rfl
        | some last => rfl
      · rw [List.filter_cons_of_neg (by simpa using hd),
          if_neg fun h => hd (Address.compare_eq_eq.mp h)]

/-- **The index of a list holds its sides.** -/
theorem getElem?_filled (ds : List Descriptor) (a : Address) : (filled ds)[a]? = side ds a := by
  rw [filled, getElem?_foldl_insert, List.filter_filter, Std.TreeMap.getElem?_emptyc,
    Option.or_none, side]
  refine congrArg List.getLast? (List.filter_congr fun d _ => ?_)
  rw [Bool.decide_and, Bool.eq_iff_iff]
  simp [Descriptor.isBlank_eq_false_iff]

theorem mem_addresses {old new : Std.TreeMap Address Descriptor Address.compare} {a : Address} :
    a ∈ addresses old new ↔ old[a]?.isSome ∨ new[a]?.isSome := by
  rw [addresses, Std.TreeSet.mem_toList, Std.TreeSet.mem_ofList, List.contains_iff_mem,
    List.mem_append, Std.TreeMap.mem_keys, Std.TreeMap.mem_keys,
    Std.TreeMap.isSome_getElem?_iff_mem, Std.TreeMap.isSome_getElem?_iff_mem]

theorem addresses_ordered (old new : Std.TreeMap Address Descriptor Address.compare) :
    Address.Ordered (addresses old new) :=
  Std.TreeSet.ordered_toList

/-- The addresses that a comparison looks at: those with a side in either list. -/
def looked (before after : List Descriptor) : List Address :=
  addresses (filled before) (filled after)

theorem mem_looked {before after : List Descriptor} {a : Address} :
    a ∈ looked before after ↔ (side before a).isSome ∨ (side after a).isSome := by
  rw [looked, mem_addresses, getElem?_filled, getElem?_filled]

theorem looked_ordered (before after : List Descriptor) :
    Address.Ordered (looked before after) :=
  addresses_ordered _ _

theorem changes_ofDescriptors (before after : List Descriptor) :
    (ofDescriptors before after).changes
      = (looked before after).filterMap fun a =>
          Change.between? a (side before a) (side after a) := by
  rw [ofDescriptors]
  simp only [getElem?_filled]
  rfl

end Comparison

/-- Whether a change tells of two sides: how they differ, and what they are. -/
structure Change.Tells (x : Change) (old new : Option Descriptor) : Prop where
  kind : ChangeKind.Between old new x.kind
  before : x.before = old
  after : x.after = new
  /-- The written address is that of the side before, where there is one. -/
  reference : ∀ d, old.or new = some d → x.reference = d.reference

theorem Change.address_of_between? {a : Address} {before after : Option Descriptor} {x : Change}
    (h : Change.between? a before after = some x) : x.address = a := by
  obtain ⟨kind, -, rfl⟩ := Option.map_eq_some_iff.mp h
  rfl

theorem Change.tells_of_between? {a : Address} {before after : Option Descriptor} {x : Change}
    (h : Change.between? a before after = some x) : x.Tells before after := by
  obtain ⟨kind, hkind, rfl⟩ := Option.map_eq_some_iff.mp h
  exact ⟨ChangeKind.between?_eq_some_iff.mp hkind, rfl, rfl, fun d hd => by rw [hd]; rfl⟩

theorem Change.between?_eq_none_iff {a : Address} {before after : Option Descriptor} :
    Change.between? a before after = none ↔ ¬ ∃ kind, ChangeKind.Between before after kind := by
  rw [Change.between?, Option.map_eq_none_iff]
  constructor
  · rintro h ⟨kind, hkind⟩
    rw [ChangeKind.between?_eq_some_iff.mpr hkind] at h
    cases h
  · intro h
    cases hk : ChangeKind.between? before after with
    | none => rfl
    | some kind => exact absurd ⟨kind, ChangeKind.between?_eq_some_iff.mp hk⟩ h

namespace Comparison

/-- Where every address yields at most one change and that change is at the address, the changes
at an address are what it yields. -/
private theorem filter_filterMap_address {f : Address → Option Change}
    (hf : ∀ a x, f a = some x → x.address = a) {as : List Address} (has : as.Nodup) (a : Address) :
    (as.filterMap f).filter (fun x => x.address = a) = if a ∈ as then (f a).toList else [] := by
  induction as with
  | nil => rfl
  | cons b as ih =>
      obtain ⟨hb, hrest⟩ := List.nodup_cons.mp has
      by_cases hab : a = b
      · subst hab
        rw [if_pos List.mem_cons_self]
        have hnone := ih hrest
        rw [if_neg hb] at hnone
        cases hx : f a with
        | none =>
            rw [List.filterMap_cons_none hx, hnone]
            rfl
        | some x =>
            rw [List.filterMap_cons_some hx, List.filter_cons_of_pos (by simpa using hf a x hx),
              hnone]
            rfl
      · have hmem : a ∈ b :: as ↔ a ∈ as := by simp [hab]
        simp only [hmem]
        cases hx : f b with
        | none => rw [List.filterMap_cons_none hx, ih hrest]
        | some x =>
            have hxa : x.address ≠ a := fun h => hab (h.symm.trans (hf b x hx))
            rw [List.filterMap_cons_some hx, List.filter_cons_of_neg (by simpa using hxa), ih hrest]

/-- **The changes at an address** are the one between its sides, if they differ. -/
theorem changes_at (before after : List Descriptor) (a : Address) :
    (ofDescriptors before after).changes.filter (fun x => x.address = a)
      = (Change.between? a (side before a) (side after a)).toList := by
  rw [changes_ofDescriptors, filter_filterMap_address
    (fun a x h => Change.address_of_between? h) (looked_ordered before after).nodup]
  by_cases ha : a ∈ looked before after
  · rw [if_pos ha]
  · rw [if_neg ha]
    -- an address that is not looked at has no side at all
    rw [mem_looked, not_or, Option.not_isSome_iff_eq_none, Option.not_isSome_iff_eq_none] at ha
    rw [ha.1, ha.2]
    rfl

/-- The changes are those between the sides of their addresses. -/
theorem mem_changes {before after : List Descriptor} {x : Change} :
    x ∈ (ofDescriptors before after).changes ↔
      Change.between? x.address (side before x.address) (side after x.address) = some x := by
  have hfilter : x ∈ (ofDescriptors before after).changes ↔
      x ∈ (ofDescriptors before after).changes.filter fun y => y.address = x.address := by
    simp [List.mem_filter]
  rw [hfilter, changes_at, Option.mem_toList]

/-- What makes the changes of a comparison those between two lists of descriptors. -/
structure Exact (c : Comparison) (before after : List Descriptor) : Prop where
  ordered : Address.Ordered (c.changes.map Change.address)
  /-- Every change tells of the two sides of its address. -/
  tells : ∀ x ∈ c.changes, x.Tells (side before x.address) (side after x.address)
  /-- An address whose sides differ has one change. -/
  once : ∀ a kind, ChangeKind.Between (side before a) (side after a) kind →
    ∃ x, (c.changes.filter fun x => x.address = a) = [x]
  /-- An address whose sides do not differ has none. -/
  never : ∀ a, (¬ ∃ kind, ChangeKind.Between (side before a) (side after a) kind) →
    (c.changes.filter fun x => x.address = a) = []
  /-- The three kinds of change are all there are. -/
  counts : c.count .added + c.count .removed + c.count .modified = c.changes.length

theorem ordered_ofDescriptors (before after : List Descriptor) :
    Address.Ordered ((ofDescriptors before after).changes.map Change.address) := by
  rw [Address.Ordered, List.pairwise_map, changes_ofDescriptors, List.pairwise_filterMap]
  refine (looked_ordered before after).imp fun {a b} hab x hx y hy => ?_
  rw [Change.address_of_between? hx, Change.address_of_between? hy]
  exact hab

theorem count_add (c : Comparison) :
    c.count .added + c.count .removed + c.count .modified = c.changes.length := by
  simp only [count]
  induction c.changes with
  | nil => rfl
  | cons x xs ih =>
      have hcons (kind : ChangeKind) : ((x :: xs).filter (·.kind = kind)).length
          = (xs.filter (·.kind = kind)).length + if x.kind = kind then 1 else 0 := by
        by_cases h : x.kind = kind
        · simp [h]
        · simp [h]
      -- a change is of one of the three kinds
      have hone : (if x.kind = .added then 1 else 0) + (if x.kind = .removed then 1 else 0)
          + (if x.kind = .modified then 1 else 0) = 1 := by
        cases x.kind with
        | added => rfl
        | removed => rfl
        | modified => rfl
      rw [hcons, hcons, hcons, List.length_cons, ← ih]
      omega

theorem exact_ofDescriptors (before after : List Descriptor) :
    (ofDescriptors before after).Exact before after where
  ordered := ordered_ofDescriptors before after
  tells := by
    intro x hx
    exact Change.tells_of_between? (mem_changes.mp hx)
  once := by
    intro a kind h
    rw [changes_at]
    cases hx : Change.between? a (side before a) (side after a) with
    | none => exact absurd ⟨kind, h⟩ (Change.between?_eq_none_iff.mp hx)
    | some x => exact ⟨x, rfl⟩
  never := by
    intro a h
    rw [changes_at, Change.between?_eq_none_iff.mpr h]
    rfl
  counts := count_add _

/-! ## The order of the lists -/

theorem side_perm {ds ds' : List Descriptor} (h : ds.Perm ds')
    (hds : (ds.map Descriptor.address).Nodup) : side ds' = side ds := by
  funext a
  ext d
  have hds' : (ds'.map Descriptor.address).Nodup := (h.map Descriptor.address).nodup_iff.mp hds
  rw [side_eq_some_iff hds, side_eq_some_iff hds', h.mem_iff]

theorem extentOf_perm {ds ds' : List Descriptor} (h : ds.Perm ds') :
    extentOf ds' = extentOf ds := by
  refine (h.foldl_eq' (fun d _ d' _ e => ?_) _).symm
  exact e.cover_right_comm d.address d'.address

/-- A comparison depends on the sides and the extents of the lists only. -/
theorem ofDescriptors_congr {before before' after after' : List Descriptor}
    (hbefore : side before' = side before) (hafter : side after' = side after)
    (hextentBefore : extentOf before' = extentOf before)
    (hextentAfter : extentOf after' = extentOf after) :
    ofDescriptors before' after' = ofDescriptors before after := by
  have hlooked : looked before' after' = looked before after := by
    refine (looked_ordered before' after').eq_of_mem_iff (looked_ordered before after) fun a => ?_
    rw [mem_looked, mem_looked, hbefore, hafter]
  have hchanges : (ofDescriptors before' after').changes = (ofDescriptors before after).changes := by
    rw [changes_ofDescriptors, changes_ofDescriptors, hlooked, hbefore, hafter]
  calc ofDescriptors before' after'
      = ⟨extentOf before', extentOf after', (ofDescriptors before' after').changes⟩ := rfl
    _ = ⟨extentOf before, extentOf after, (ofDescriptors before after).changes⟩ := by
      rw [hextentBefore, hextentAfter, hchanges]

/-- **A comparison is exact**: its changes are the addresses whose sides differ, in order and each
once. Where no address occurs twice in a list, the order of the lists does not matter. -/
theorem ofDescriptors_exact (before after : List Descriptor) :
    (ofDescriptors before after).Exact before after ∧
      ∀ before' after' : List Descriptor, before.Perm before' → after.Perm after' →
        (before.map Descriptor.address).Nodup → (after.map Descriptor.address).Nodup →
          ofDescriptors before' after' = ofDescriptors before after := by
  refine ⟨exact_ofDescriptors before after, fun before' after' hb ha hbefore hafter => ?_⟩
  exact ofDescriptors_congr (side_perm hb hbefore) (side_perm ha hafter) (extentOf_perm hb)
    (extentOf_perm ha)

end Comparison

end SheetInspector
