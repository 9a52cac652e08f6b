import SheetInspector.Proofs.Number.Digits
import SheetInspector.Proofs.Xlsx.Reading
import SheetInspector.Xlsx.SheetPart

set_option autoImplicit false

/-! # The tags of cells and rows

A tag lists an attribute at most once (`Xml.Tag.fresh_attributes`), so going through the
attributes of a cell's tag one after the other is looking up the two that matter: the reference
and the name of the type. A cell that begins has the address of its reference or, without one,
the address behind the cell before it (`PendingCell.start_eq_ok_iff`).
-/

namespace SheetInspector

namespace Xml

/-! ## Attributes -/

/-- Whether attributes have different keys, none of which is among those seen before. -/
structure Fresh (seen : List Bytes) (as : List Attribute) : Prop where
  nodup : (as.map Attribute.key).Nodup
  unseen : ∀ a ∈ as, a.key ∉ seen

theorem Fresh.nil (seen : List Bytes) : Fresh seen [] where
  nodup := List.nodup_nil
  unseen := by
    intro a ha
    cases ha

theorem Fresh.of_cons_key {key : Bytes} {seen : List Bytes} {as : List Attribute}
    (h : Fresh (key :: seen) as) : Fresh seen as where
  nodup := h.nodup
  unseen := fun a ha hseen => h.unseen a ha (List.mem_cons_of_mem key hseen)

theorem Fresh.cons {a : Attribute} {seen : List Bytes} {as : List Attribute}
    (ha : a.key ∉ seen) (h : Fresh (a.key :: seen) as) : Fresh seen (a :: as) where
  nodup := by
    rw [List.map_cons, List.nodup_cons]
    refine ⟨fun hmem => ?_, h.nodup⟩
    obtain ⟨b, hb, hkey⟩ := List.mem_map.mp hmem
    exact h.unseen b hb (hkey ▸ List.mem_cons_self)
  unseen := by
    intro b hb
    rcases List.mem_cons.mp hb with rfl | hb
    · exact ha
    · exact h.of_cons_key.unseen b hb

theorem Fresh.tail {a : Attribute} {seen : List Bytes} {as : List Attribute}
    (h : Fresh seen (a :: as)) : Fresh (a.key :: seen) as where
  nodup := (List.nodup_cons.mp h.nodup).2
  unseen := by
    intro b hb hmem
    rcases List.mem_cons.mp hmem with hkey | hseen
    · have hnot := (List.nodup_cons.mp h.nodup).1
      exact hnot (hkey ▸ List.mem_map_of_mem hb)
    · exact h.unseen b (List.mem_cons_of_mem a hb) hseen

/-- The attributes found behind some keys are fresh; a key is remembered once it has been read. -/
theorem fresh_attributesFrom (seen : List Bytes) (s : Bytes) :
    Fresh seen (attributesFrom seen s) := by
  fun_induction attributesFrom seen s with
  | case1 => exact .nil _
  | case2 => exact .nil _
  | case3 => assumption
  | case4 => assumption
  | case5 => exact .nil _
  | case6 => exact .nil _
  -- the key is new, and the attribute is listed
  | case7 seen s _ _ _ _ key _ _ _ _ _ _ _ hunseen _ _ _ _ _ _ _ _ _ _ ih =>
      exact .cons (by simpa using hunseen) ih
  -- the value is not quoted, so the attribute is not listed, but its key has been seen
  | case8 seen s _ _ _ _ key _ _ _ _ _ _ _ hunseen _ _ _ _ _ _ _ ih =>
      exact ih.of_cons_key

theorem Tag.fresh_attributes (tag : Tag) : Fresh [] tag.attributes :=
  fresh_attributesFrom [] tag.rest

end Xml

namespace Xlsx

/-! ## Looking up an attribute -/

section Lookup

variable {α : Type}

/-- The first attribute with a key. -/
def attribute? (as : List Xml.Attribute) (key : String) : Option Xml.Attribute :=
  as.find? (·.key = Xml.asciiName key)

/-- What the attribute with a key says, where its text is understood by `read`. -/
def lookup? (as : List Xml.Attribute) (key : String) (read : String → Option α) : Option α :=
  (attribute? as key).bind fun a => (unescape a.value).toOption.bind read

/-- Whether the attribute with a key, if there is one, says anything. -/
def Legible (as : List Xml.Attribute) (key : String) (read : String → Option α) : Prop :=
  (attribute? as key).isSome → (lookup? as key read).isSome

instance (as : List Xml.Attribute) (key : String) (read : String → Option α) :
    Decidable (Legible as key read) :=
  inferInstanceAs (Decidable ((attribute? as key).isSome → (lookup? as key read).isSome))

variable {a : Xml.Attribute} {as : List Xml.Attribute} {key : String} {read : String → Option α}

theorem attribute?_cons_of_key (h : a.key = Xml.asciiName key) :
    attribute? (a :: as) key = some a := by
  rw [attribute?, List.find?_cons_of_pos (by simpa using h)]

theorem attribute?_cons_of_ne (h : a.key ≠ Xml.asciiName key) :
    attribute? (a :: as) key = attribute? as key := by
  rw [attribute?, List.find?_cons_of_neg (by simpa using h), attribute?]

/-- A key that has been seen does not come again. -/
theorem attribute?_of_fresh_cons {seen : List Bytes} (h : Xml.Fresh seen (a :: as))
    (hkey : a.key = Xml.asciiName key) : attribute? as key = none := by
  rw [attribute?, List.find?_eq_none]
  intro b hb hbkey
  have hsame : b.key = Xml.asciiName key := by simpa using hbkey
  refine h.tail.unseen b hb ?_
  rw [hsame, hkey]
  exact List.mem_cons_self

theorem lookup?_of_none (h : attribute? as key = none) : lookup? as key read = none := by
  rw [lookup?, h, Option.bind_none]

theorem lookup?_of_some (h : attribute? as key = some a) :
    lookup? as key read = (unescape a.value).toOption.bind read := by
  rw [lookup?, h, Option.bind_some]

theorem legible_of_none (h : attribute? as key = none) : Legible as key read := by
  intro hsome
  rw [h] at hsome
  cases hsome

/-- Where no key comes twice, it does not matter which attribute is asked first. -/
theorem lookup?_cons {seen : List Bytes} (h : Xml.Fresh seen (a :: as)) :
    lookup? (a :: as) key read = (lookup? as key read).or (lookup? [a] key read) := by
  by_cases hkey : a.key = Xml.asciiName key
  · have hnone := attribute?_of_fresh_cons h hkey
    rw [lookup?_of_none hnone, Option.none_or, lookup?_of_some (attribute?_cons_of_key hkey),
      lookup?_of_some (attribute?_cons_of_key hkey)]
  · have hnone : attribute? [a] key = none := attribute?_cons_of_ne hkey
    rw [lookup?_of_none hnone, Option.or_none, lookup?, attribute?_cons_of_ne hkey, lookup?]

theorem legible_cons {seen : List Bytes} (h : Xml.Fresh seen (a :: as)) :
    Legible (a :: as) key read ↔ Legible [a] key read ∧ Legible as key read := by
  by_cases hkey : a.key = Xml.asciiName key
  · have hnone := attribute?_of_fresh_cons h hkey
    have hcongr : Legible (a :: as) key read ↔ Legible [a] key read := by
      rw [Legible, Legible, lookup?_of_some (attribute?_cons_of_key hkey),
        lookup?_of_some (attribute?_cons_of_key hkey), attribute?_cons_of_key hkey,
        attribute?_cons_of_key hkey]
    rw [hcongr]
    exact (and_iff_left (legible_of_none hnone)).symm
  · have hcongr : Legible (a :: as) key read ↔ Legible as key read := by
      rw [Legible, Legible, lookup?, attribute?_cons_of_ne hkey, lookup?]
    rw [hcongr]
    exact (and_iff_right (legible_of_none (attribute?_cons_of_ne hkey))).symm

/-- What a single attribute with the right key says. -/
theorem lookup?_singleton_eq_some_iff (h : a.key = Xml.asciiName key) {x : α} :
    lookup? [a] key read = some x ↔ ∃ text, unescape a.value = .ok text ∧ read text = some x := by
  rw [lookup?_of_some (attribute?_cons_of_key h), Option.bind_eq_some_iff]
  simp only [toOption_eq_some_iff]

theorem legible_singleton_of_key (h : a.key = Xml.asciiName key) :
    Legible [a] key read ↔ ∃ x, lookup? [a] key read = some x := by
  rw [Legible, attribute?_cons_of_key h, imp_iff_right Option.isSome_some,
    Option.isSome_iff_exists]

end Lookup

/-! ## The tag of a cell -/

/-- How a reference is read. -/
def addressOf? (text : String) : Option Address := (Address.parse text).toOption

/-- How a row number is read. -/
def rowOf? (text : String) : Option Nat := natOfBits? 32 text.toList

/-- Whether the reference and the type among some attributes can be read, where they are there. -/
structure LegibleCell (as : List Xml.Attribute) : Prop where
  reference : Legible as "r" addressOf?
  type : Legible as "t" some

theorem legibleCell_cons {a : Xml.Attribute} {as : List Xml.Attribute} {seen : List Bytes}
    (h : Xml.Fresh seen (a :: as)) : LegibleCell (a :: as) ↔ LegibleCell [a] ∧ LegibleCell as := by
  constructor
  · rintro ⟨hr, ht⟩
    obtain ⟨hr, hrs⟩ := (legible_cons h).mp hr
    obtain ⟨ht, hts⟩ := (legible_cons h).mp ht
    exact ⟨⟨hr, ht⟩, ⟨hrs, hts⟩⟩
  · rintro ⟨⟨hr, ht⟩, ⟨hrs, hts⟩⟩
    exact ⟨(legible_cons h).mpr ⟨hr, hrs⟩, (legible_cons h).mpr ⟨ht, hts⟩⟩

namespace PendingCell

/-- A cell with what some attributes say of it. -/
def withAttributes (c : PendingCell) (as : List Xml.Attribute) : PendingCell :=
  { c with
    address := (lookup? as "r" addressOf?).getD c.address
    type := (lookup? as "t" some).or c.type }

theorem withAttributes_cons {a : Xml.Attribute} {as : List Xml.Attribute} {seen : List Bytes}
    (h : Xml.Fresh seen (a :: as)) (c : PendingCell) :
    c.withAttributes (a :: as) = (c.withAttributes [a]).withAttributes as := by
  rw [withAttributes, withAttributes, lookup?_cons h, lookup?_cons h, Option.getD_or,
    Option.or_assoc]
  rfl

theorem readAttribute_reference {a : Xml.Attribute} (hr : a.key = Xml.asciiName "r")
    {c c' : PendingCell} :
    c.readAttribute a = .ok c' ↔
      ∃ address, lookup? [a] "r" addressOf? = some address ∧ c' = { c with address } := by
  rw [readAttribute, if_pos hr, bind_eq_ok_iff]
  simp only [lookup?_singleton_eq_some_iff hr, addressOf?, toOption_eq_some_iff]
  constructor
  · rintro ⟨text, htext, h⟩
    cases hparse : Address.parse text with
    | error fault =>
        rw [hparse] at h
        cases h
    | ok address =>
        rw [hparse] at h
        cases h
        exact ⟨address, ⟨text, htext, hparse⟩, rfl⟩
  · rintro ⟨address, ⟨text, htext, hparse⟩, rfl⟩
    refine ⟨text, htext, ?_⟩
    rw [hparse]
    rfl

theorem readAttribute_type {a : Xml.Attribute} (hr : a.key ≠ Xml.asciiName "r")
    (ht : a.key = Xml.asciiName "t") {c c' : PendingCell} :
    c.readAttribute a = .ok c' ↔
      ∃ text, lookup? [a] "t" some = some text ∧ c' = { c with type := some text } := by
  rw [readAttribute, if_neg hr, if_pos ht, bind_eq_ok_iff]
  simp only [lookup?_singleton_eq_some_iff ht, Option.some.injEq]
  constructor
  · rintro ⟨text, htext, h⟩
    cases h
    exact ⟨text, ⟨text, htext, rfl⟩, rfl⟩
  · rintro ⟨text, ⟨_, htext, rfl⟩, rfl⟩
    exact ⟨_, htext, rfl⟩

/-- **What reading an attribute does**: it takes over the reference or the type that it says. -/
theorem readAttribute_eq_ok_iff {a : Xml.Attribute} {c c' : PendingCell} :
    c.readAttribute a = .ok c' ↔ LegibleCell [a] ∧ c' = c.withAttributes [a] := by
  by_cases hr : a.key = Xml.asciiName "r"
  · have ht : attribute? [a] "t" = none := by
      refine attribute?_cons_of_ne ?_
      rw [hr]
      decide
    have hlegible : LegibleCell [a] ↔ Legible [a] "r" addressOf? :=
      ⟨LegibleCell.reference, fun h => ⟨h, legible_of_none ht⟩⟩
    rw [readAttribute_reference hr, hlegible, legible_singleton_of_key hr, ← exists_and_right]
    refine exists_congr fun address => and_congr_right fun hlookup => ?_
    rw [withAttributes, hlookup, lookup?_of_none ht]
    rfl
  · have hnone : attribute? [a] "r" = none := attribute?_cons_of_ne hr
    by_cases ht : a.key = Xml.asciiName "t"
    · have hlegible : LegibleCell [a] ↔ Legible [a] "t" some :=
        ⟨LegibleCell.type, fun h => ⟨legible_of_none hnone, h⟩⟩
      rw [readAttribute_type hr ht, hlegible, legible_singleton_of_key ht, ← exists_and_right]
      refine exists_congr fun text => and_congr_right fun hlookup => ?_
      rw [withAttributes, hlookup, lookup?_of_none hnone]
      rfl
    · have htype : attribute? [a] "t" = none := attribute?_cons_of_ne ht
      have hlegible : LegibleCell [a] := ⟨legible_of_none hnone, legible_of_none htype⟩
      have hwith : c.withAttributes [a] = c := by
        rw [withAttributes, lookup?_of_none hnone, lookup?_of_none htype]
        rfl
      rw [readAttribute, if_neg hr, if_neg ht, hwith, and_iff_right hlegible]
      show Except.ok c = .ok c' ↔ c' = c
      rw [Except.ok.injEq, eq_comm]

/-- **Reading attributes is looking up the reference and the type.** -/
theorem foldlM_readAttribute {as : List Xml.Attribute} {seen : List Bytes}
    (hfresh : Xml.Fresh seen as) {c c' : PendingCell} :
    as.foldlM readAttribute c = .ok c' ↔ LegibleCell as ∧ c' = c.withAttributes as := by
  induction as generalizing c seen with
  | nil =>
      have hlegible : LegibleCell [] := ⟨legible_of_none rfl, legible_of_none rfl⟩
      constructor
      · intro h
        cases h
        exact ⟨hlegible, rfl⟩
      · rintro ⟨-, rfl⟩
        rfl
  | cons a as ih =>
      rw [List.foldlM_cons, bind_eq_ok_iff, withAttributes_cons hfresh, legibleCell_cons hfresh]
      constructor
      · rintro ⟨mid, hmid, hrest⟩
        obtain ⟨ha, rfl⟩ := readAttribute_eq_ok_iff.mp hmid
        obtain ⟨has, rfl⟩ := (ih hfresh.tail).mp hrest
        exact ⟨⟨ha, has⟩, rfl⟩
      · rintro ⟨⟨ha, has⟩, rfl⟩
        exact ⟨_, readAttribute_eq_ok_iff.mpr ⟨ha, rfl⟩, (ih hfresh.tail).mpr ⟨has, rfl⟩⟩

end PendingCell

/-- The address of the reference in a tag. -/
def reference? (tag : Xml.Tag) : Option Address := lookup? tag.attributes "r" addressOf?

/-- The name of the type in a tag. -/
def typeName? (tag : Xml.Tag) : Option String := lookup? tag.attributes "t" some

/-- **How a cell begins**: what can be read in its tag decides. -/
theorem PendingCell.start_eq_ok_iff {row column : Nat} {tag : Xml.Tag} {c : PendingCell} :
    start row column tag = .ok c ↔
      LegibleCell tag.attributes ∧ c.address.row ≠ 0 ∧
        c = ⟨(reference? tag).getD ⟨row, column + 1⟩, typeName? tag, none, none⟩ := by
  rw [start, bind_eq_ok_iff]
  constructor
  · rintro ⟨c', hfold, h⟩
    obtain ⟨hlegible, rfl⟩ := (foldlM_readAttribute tag.fresh_attributes).mp hfold
    by_cases hrow : (PendingCell.withAttributes ⟨⟨row, column + 1⟩, none, none, none⟩
        tag.attributes).address.row = 0
    · rw [if_pos hrow] at h
      cases h
    · rw [if_neg hrow] at h
      cases h
      refine ⟨hlegible, hrow, ?_⟩
      rw [withAttributes, Option.or_none]
      rfl
  · rintro ⟨hlegible, hrow, rfl⟩
    refine ⟨_, (foldlM_readAttribute tag.fresh_attributes).mpr ⟨hlegible, rfl⟩, ?_⟩
    have hwith : PendingCell.withAttributes ⟨⟨row, column + 1⟩, none, none, none⟩ tag.attributes
        = ⟨(reference? tag).getD ⟨row, column + 1⟩, typeName? tag, none, none⟩ := by
      rw [withAttributes, Option.or_none]
      rfl
    rw [hwith, if_neg hrow]
    rfl

/-! ## The tag of a row -/

/-- The row number in a tag. -/
def writtenRow? (tag : Xml.Tag) : Option Nat := lookup? tag.attributes "r" rowOf?

/-- The number in the tag of a row is a word of 32 bits. -/
theorem lt_of_writtenRow? {tag : Xml.Tag} {n : Nat} (h : writtenRow? tag = some n) :
    n < 2 ^ 32 := by
  obtain ⟨_, -, hread⟩ := Option.bind_eq_some_iff.mp h
  obtain ⟨text, -, hrow⟩ := Option.bind_eq_some_iff.mp hread
  obtain ⟨_, _, _, _, _, hlt⟩ := natOfBits?_eq_some_iff.mp hrow
  exact hlt

/-- Behind every row but the last one there is another. -/
theorem nextRow_of_lt {previous : Nat} (h : previous + 1 < 2 ^ 32) :
    nextRow previous = .ok (previous + 1) := if_pos h

theorem nextRow_of_le {previous : Nat} (h : 2 ^ 32 ≤ previous + 1) :
    nextRow previous = .error .overflow := if_neg (Nat.not_lt_of_le h)

theorem nextRow_eq_ok_iff {previous row : Nat} :
    nextRow previous = .ok row ↔ row = previous + 1 ∧ row < 2 ^ 32 := by
  rcases Nat.lt_or_ge (previous + 1) (2 ^ 32) with hlt | hle
  · rw [nextRow_of_lt hlt, Except.ok.injEq]
    exact ⟨fun h => ⟨h.symm, h ▸ hlt⟩, fun h => h.1.symm⟩
  · rw [nextRow_of_le hle]
    constructor
    · intro h
      cases h
    · rintro ⟨rfl, hlt⟩
      exact absurd hlt (Nat.not_lt_of_le hle)

theorem nextRow_eq_overflow_iff {previous : Nat} :
    nextRow previous = .error .overflow ↔ 2 ^ 32 ≤ previous + 1 := by
  refine ⟨fun h => ?_, nextRow_of_le⟩
  by_contra hlt
  rw [nextRow_of_lt (Nat.lt_of_not_le hlt)] at h
  cases h

/-- A row without a number follows the one before it. -/
theorem rowNumber_of_none {tag : Xml.Tag} (h : attribute? tag.attributes "r" = none)
    (previous : Nat) : rowNumber tag previous = nextRow previous := by
  have hfind : tag.attributes.find? (·.key = Xml.asciiName "r") = none := h
  rw [rowNumber, hfind]

/-- **What number a row gets**: the one in its tag or else the next one, which must be a word of 32
bits. -/
theorem rowNumber_eq_ok_iff {tag : Xml.Tag} {previous row : Nat} :
    rowNumber tag previous = .ok row ↔
      Legible tag.attributes "r" rowOf? ∧ row = (writtenRow? tag).getD (previous + 1) ∧
        row < 2 ^ 32 := by
  cases ha : attribute? tag.attributes "r" with
  | none =>
      rw [rowNumber_of_none ha, nextRow_eq_ok_iff, writtenRow?, lookup?_of_none ha]
      exact (and_iff_right (legible_of_none ha)).symm
  | some a =>
      have hfind : tag.attributes.find? (·.key = Xml.asciiName "r") = some a := ha
      have hwritten : writtenRow? tag = (unescape a.value).toOption.bind rowOf? :=
        lookup?_of_some ha
      have hlegible : Legible tag.attributes "r" rowOf? ↔ (writtenRow? tag).isSome := by
        rw [Legible, ha, imp_iff_right Option.isSome_some, writtenRow?]
      rw [rowNumber, hfind, hlegible]
      cases htext : unescape a.value with
      | error fault => simp [hwritten, htext, Except.toOption]
      | ok text =>
          cases hrow : natOfBits? 32 text.toList with
          | none => simp [hwritten, htext, hrow, Except.toOption, rowOf?]
          | some n =>
              have hnumber : writtenRow? tag = some n := by
                rw [hwritten, htext]
                exact hrow
              simp only [htext, hrow, hnumber, Option.isSome_some, Option.getD_some,
                Except.ok.injEq, true_and]
              exact ⟨fun h => ⟨h.symm, h ▸ lt_of_writtenRow? hnumber⟩, fun h => h.1.symm⟩

/-- **Counting rows breaks off** where a row without a number comes behind the last one. -/
theorem rowNumber_eq_overflow_iff {tag : Xml.Tag} {previous : Nat} :
    rowNumber tag previous = .error .overflow ↔
      attribute? tag.attributes "r" = none ∧ 2 ^ 32 ≤ previous + 1 := by
  cases ha : attribute? tag.attributes "r" with
  | none =>
      rw [rowNumber_of_none ha, nextRow_eq_overflow_iff]
      exact (and_iff_right rfl).symm
  | some a =>
      have hfind : tag.attributes.find? (·.key = Xml.asciiName "r") = some a := ha
      rw [rowNumber, hfind]
      cases htext : unescape a.value with
      | error fault =>
          obtain ⟨fault', -, rfl⟩ := mapError_eq_error_iff.mp htext
          simp [htext]
      | ok text => cases hrow : natOfBits? 32 text.toList <;> simp [htext, hrow]

end Xlsx

end SheetInspector
