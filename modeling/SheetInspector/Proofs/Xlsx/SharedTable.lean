import SheetInspector.Proofs.Xlsx.ItemText
import SheetInspector.Xlsx.SheetPart

set_option autoImplicit false

/-! # The table of shared texts and its items

The table gets an entry at the end tag of every item, so there are as many entries as items with
both of their tags (`size_readSharedTexts`). Where items hold no items the entries are the texts of
these items in document order. An item that is a single tag gets no entry, so the indices of the
items agree with those of the entries only as long as there is none: `items_of_readSharedTexts` has
all of this, and `gapPart_shifts` an item that shifts the ones behind it.
-/

namespace SheetInspector.Xlsx

/-- The items of a part, in document order. -/
def items (f : Xml.Forest) : List Xml.Element := f.elements TextElement.item.names

/-- The items that have both of their tags. -/
def tableItems (f : Xml.Forest) : List Xml.Element := (items f).filter fun e => e.inside.isSome

/-! ## The number of entries -/

/-- Whether an event is the end of an item. -/
def endsItem : Xml.Event → Bool
  | .finish name => TextElement.item.names name
  | _ => false

theorem length_items_step {s s' : TextScan} {e : Xml.Event} (h : s.step e = .ok s') :
    s'.items.length = s.items.length + (if endsItem e then 1 else 0) := by
  cases e with
  | start tag =>
      rw [TextScan.step] at h
      cases hk : TextElement.of tag.name <;> rw [hk] at h <;> cases h <;> rfl
  | empty tag =>
      cases h
      rfl
  | finish name =>
      rw [TextScan.step] at h
      cases hk : TextElement.of name <;> rw [hk] at h <;> cases h <;>
        simp [endsItem, TextElement.names, hk]
  | text raw =>
      rw [TextScan.step] at h
      split_ifs at h
      · obtain ⟨text, -, rfl⟩ := map_eq_ok_iff.mp h
        rfl
      · cases h
        rfl
  | aside =>
      cases h
      rfl

theorem length_items_foldlM {s s' : TextScan} {es : List Xml.Event}
    (h : es.foldlM TextScan.step s = .ok s') :
    s'.items.length = s.items.length + es.countP endsItem := by
  induction es generalizing s with
  | nil =>
      cases h
      rfl
  | cons e es ih =>
      rw [List.foldlM_cons, bind_eq_ok_iff] at h
      obtain ⟨mid, hmid, hrest⟩ := h
      rw [ih hrest, length_items_step hmid, List.countP_cons]
      omega

theorem tableItems_element (tag : Xml.Tag) (inside rest : Xml.Forest) :
    (tableItems (.element tag inside rest)).length
      = (if TextElement.item.names tag.name then 1 else 0) + (tableItems inside).length
        + (tableItems rest).length := by
  rw [tableItems, items, Xml.Forest.elements, List.filter_append, List.filter_append,
    List.length_append, List.length_append, Nat.add_assoc]
  cases hname : TextElement.item.names tag.name <;> rfl

theorem tableItems_empty (tag : Xml.Tag) (rest : Xml.Forest) :
    tableItems (.empty tag rest) = tableItems rest := by
  rw [tableItems, items]
  cases hname : TextElement.item.names tag.name with
  | true =>
      rw [Xml.Forest.elements_empty_of_true hname, List.filter_cons_of_neg (by simp)]
      rfl
  | false =>
      rw [Xml.Forest.elements_empty_of_false hname]
      rfl

theorem countP_endsItem (f : Xml.Forest) : f.events.countP endsItem = (tableItems f).length := by
  induction f with
  | nil => rfl
  | element tag inside rest ihInside ihRest =>
      have hstart : endsItem (.start tag) = false := rfl
      have hfinish : endsItem (.finish tag.name) = TextElement.item.names tag.name := rfl
      rw [Xml.Forest.events, List.countP_cons, hstart, List.countP_append, List.countP_cons,
        hfinish, ihInside, ihRest, tableItems_element]
      cases TextElement.item.names tag.name with
      | true =>
          simp only [Bool.false_eq_true, if_false, if_true]
          omega
      | false =>
          simp only [Bool.false_eq_true, if_false]
          omega
  | empty tag rest ih =>
      have hempty : endsItem (.empty tag) = false := rfl
      rw [Xml.Forest.events, List.countP_cons, hempty, ih, tableItems_empty]
      rfl
  | text raw rest ih => exact ih
  | aside rest ih => exact ih

theorem readSharedTexts_eq_ok {f : Xml.Forest} {table : Array String}
    (h : readSharedTexts f.document = .ok table) :
    ∃ s, f.events.foldlM TextScan.step .initial = .ok s ∧ table.toList = s.items.reverse := by
  rw [readSharedTexts, readDocument_document, map_eq_ok_iff] at h
  obtain ⟨s, hs, rfl⟩ := h
  exact ⟨s, hs, by simp⟩

/-- **There is an entry for every item with both of its tags**, wherever it stands. -/
theorem size_readSharedTexts {f : Xml.Forest} {table : Array String}
    (h : readSharedTexts f.document = .ok table) : table.size = (tableItems f).length := by
  obtain ⟨s, hs, htable⟩ := readSharedTexts_eq_ok h
  have hlength := length_items_foldlM hs
  rw [countP_endsItem] at hlength
  calc table.size
      = s.items.reverse.length := by rw [← htable, Array.length_toList]
    _ = s.items.length := List.length_reverse
    _ = (tableItems f).length := by simpa [TextScan.initial] using hlength

/-! ## The entries -/

namespace TextScan

/-- The state outside of items. -/
structure Rests (s : TextScan) : Prop where
  item : s.inItem = false
  text : s.inText = false
  phonetic : s.inPhonetic = false

/-- Reads an item as a whole. One that is a single tag gets no entry. -/
def readItem (s : TextScan) (e : Xml.Element) : Except Fault TextScan :=
  match e.inside with
  | none => .ok s
  | some inside =>
    (itemText inside).map fun text => { s with items := text :: s.items, current := "" }

theorem Rests.step_of_apart {s : TextScan} (hs : s.Rests) {e : Xml.Event}
    (he : e.Apart TextElement.item.names) : s.step e = .ok s := by
  have hother {name : Bytes} (hname : e.name? = some name) : TextElement.of name ≠ .item :=
    TextElement.names_eq_false_iff.mp (he name hname)
  obtain ⟨items, current, inItem, inText, inPhonetic⟩ := s
  obtain ⟨rfl, rfl, rfl⟩ := hs
  cases e with
  | start tag =>
      have hitem := hother rfl
      rw [step]
      cases hk : TextElement.of tag.name with
      | item => exact absurd hk hitem
      | phonetic => rfl
      | text => rfl
      | other => rfl
  | empty tag => rfl
  | finish name =>
      have hitem := hother rfl
      rw [step]
      cases hk : TextElement.of name with
      | item => exact absurd hk hitem
      | phonetic => rfl
      | text => rfl
      | other => rfl
  | text raw => rfl
  | aside => rfl

/-- **An item is read as a whole.** -/
theorem Rests.foldlM_events {s : TextScan} (hs : s.Rests) {e : Xml.Element}
    (hitem : TextElement.of e.tag.name = .item)
    (hbody : e.body.elements TextElement.item.names = []) :
    e.events.foldlM step s = s.readItem e := by
  obtain ⟨tag, inside⟩ := e
  cases inside with
  | none => rfl
  | some inside =>
      have hapart (e : Xml.Event) (he : e ∈ inside.events) : e.Apart TextElement.item.names :=
        Xml.Forest.apart_of_elements_eq_nil hbody he
      have hstart : s.step (.start tag) = .ok (s.within RunScope.start "") := by
        obtain ⟨items, current, inItem, inText, inPhonetic⟩ := s
        obtain ⟨rfl, rfl, rfl⟩ := hs
        rw [step, hitem]
        rfl
      have hfinish (text : String) : (s.within RunScope.start text).step (.finish tag.name)
          = .ok { s with items := decodeEscapes text :: s.items, current := "" } := by
        obtain ⟨items, current, inItem, inText, inPhonetic⟩ := s
        obtain ⟨rfl, rfl, rfl⟩ := hs
        rw [step, hitem]
        rfl
      rw [Xml.Element.events, List.foldlM_cons, hstart]
      show (inside.events ++ [Xml.Event.finish tag.name]).foldlM step
        (s.within RunScope.start "") = _
      show _ = (itemText inside).map _
      rw [List.foldlM_append, foldlM_step_within_item s _ _ hapart, RunScope.foldl_after_start,
        itemText]
      cases (RunScope.start.pieces inside.events).foldlM joinPiece "" with
      | error fault => rfl
      | ok text =>
          show [Xml.Event.finish tag.name].foldlM step (s.within RunScope.start text) = _
          rw [List.foldlM_cons, hfinish]
          exact bind_pure _

theorem Rests.readItem {s s' : TextScan} (hs : s.Rests) {e : Xml.Element}
    (h : s.readItem e = .ok s') : s'.Rests := by
  rw [TextScan.readItem] at h
  cases hinside : e.inside with
  | none =>
      rw [hinside] at h
      cases h
      exact hs
  | some inside =>
      rw [hinside] at h
      obtain ⟨text, -, rfl⟩ := map_eq_ok_iff.mp h
      exact ⟨hs.item, hs.text, hs.phonetic⟩

/-- **Reading the table is reading its items**, where items hold no items. -/
theorem readsElements :
    ReadsElements step TextElement.item.names TextElement.item.names TextScan.readItem Rests where
  other := fun s hs e he => hs.step_of_apart he
  begins := by
    intro s _ tag hp hw
    rw [hp] at hw
    cases hw
  single := by
    intro s _ tag hp hw
    rw [hp] at hw
    cases hw
  ends := by
    intro s _ name hp hw
    rw [hp] at hw
    cases hw
  reads := by
    intro s hs e hp _ hbody
    exact hs.foldlM_events (TextElement.names_iff.mp hp) hbody
  rests := fun s s' e hs _ _ h => hs.readItem h

theorem items_foldlM {s s' : TextScan} {es : List Xml.Element}
    (h : es.foldlM TextScan.readItem s = .ok s') :
    ∃ texts : List String,
      List.Forall₂ (fun e text => itemText e.body = .ok text)
        (es.filter fun e => e.inside.isSome) texts ∧
      s'.items.reverse = s.items.reverse ++ texts := by
  induction es generalizing s with
  | nil =>
      cases h
      exact ⟨[], .nil, by simp⟩
  | cons e es ih =>
      rw [List.foldlM_cons, bind_eq_ok_iff] at h
      obtain ⟨mid, hmid, hrest⟩ := h
      obtain ⟨texts, htexts, hitems⟩ := ih hrest
      obtain ⟨tag, inside⟩ := e
      cases inside with
      | none =>
          cases hmid
          exact ⟨texts, htexts, hitems⟩
      | some inside =>
          obtain ⟨text, htext, rfl⟩ := map_eq_ok_iff.mp hmid
          refine ⟨text :: texts, .cons htext htexts, ?_⟩
          rw [hitems]
          simp

end TextScan

/-- **The entries are the texts of the items with both of their tags**, in document order. -/
theorem entries_readSharedTexts {f : Xml.Forest} {table : Array String}
    (hf : Separate TextElement.item.names TextElement.item.names f)
    (h : readSharedTexts f.document = .ok table) :
    List.Forall₂ (fun e text => itemText e.body = .ok text) (tableItems f) table.toList := by
  obtain ⟨s, hs, htable⟩ := readSharedTexts_eq_ok h
  rw [TextScan.readsElements.foldlM_events hf ⟨rfl, rfl, rfl⟩] at hs
  obtain ⟨texts, htexts, hitems⟩ := TextScan.items_foldlM hs
  rw [htable, hitems]
  exact htexts

/-! ## Cells with a shared text -/

theorem cellValue_shared (table : Array String) {index : String} {i : Nat}
    (hindex : natOfBits? 64 index.toList = some i) :
    cellValue table (some "s") index
      = match table[i]? with
        | none => .error (.indexOutOfBounds i)
        | some text => .ok (.text text) := by
  have hn : ("s" : String) ≠ "n" := by decide
  rw [cellValue, if_neg hn, if_pos rfl, sharedText, hindex]
  cases hget : table[i]? with
  | none =>
      simp only [hget]
      rfl
  | some text =>
      simp only [hget]
      rfl

/-- **What a cell with a shared text reads as**: the text of the entry with its index, and a fault
exactly if there is no such entry. -/
theorem cellValue_entry {f : Xml.Forest} {table : Array String}
    (htable : List.Forall₂ (fun e text => itemText e.body = .ok text) (tableItems f) table.toList)
    {index : String} {i : Nat} (hindex : natOfBits? 64 index.toList = some i) :
    (∀ e, (tableItems f)[i]? = some e →
      ∃ text, itemText e.body = .ok text ∧
        cellValue table (some "s") index = .ok (.text text)) ∧
    ((tableItems f)[i]? = none →
      cellValue table (some "s") index = .error (.indexOutOfBounds i)) := by
  have hentry : table[i]? = table.toList[i]? := Array.getElem?_toList.symm
  rw [cellValue_shared table hindex, hentry]
  constructor
  · intro e he
    obtain ⟨text, htext, hitem⟩ := getElem?_of_forall₂ htable he
    exact ⟨text, hitem, by rw [htext]⟩
  · intro he
    have hi : (tableItems f).length ≤ i := List.getElem?_eq_none_iff.mp he
    rw [List.getElem?_eq_none_iff.mpr (htable.length_eq ▸ hi)]

/-- Where no item is a single tag, the entries have the indices of the items. -/
theorem cellValue_item {f : Xml.Forest} {table : Array String}
    (htable : List.Forall₂ (fun e text => itemText e.body = .ok text) (tableItems f) table.toList)
    (hfull : ∀ e ∈ items f, e.inside.isSome = true) {index : String} {i : Nat}
    (hindex : natOfBits? 64 index.toList = some i) :
    (∀ e, (items f)[i]? = some e →
      ∃ text, itemText e.body = .ok text ∧
        cellValue table (some "s") index = .ok (.text text)) ∧
    ((items f)[i]? = none → cellValue table (some "s") index = .error (.indexOutOfBounds i)) := by
  have hall : tableItems f = items f := List.filter_eq_self.mpr hfull
  rw [← hall]
  exact cellValue_entry htable hindex

/-- **The table of shared texts.** In a well-formed part that can be read there is an entry for
every item with both of its tags. Where items hold no items the entries are the texts of these
items in document order; and if no item is a single tag, a cell with the index of an item reads as
its text, and fails exactly if there is no such item. The text of an item in which no text stands
in a text and no phonetic run in one is that of its texts outside of phonetic runs. -/
theorem items_of_readSharedTexts {f : Xml.Forest} {table : Array String}
    (h : readSharedTexts f.document = .ok table) :
    table.size = (tableItems f).length ∧
    (Separate TextElement.item.names TextElement.item.names f →
      List.Forall₂ (fun e text => itemText e.body = .ok text) (tableItems f) table.toList ∧
      ((∀ e ∈ items f, e.inside.isSome = true) →
        ∀ index i, natOfBits? 64 index.toList = some i →
          (∀ e, (items f)[i]? = some e →
            ∃ text, itemText e.body = .ok text ∧
              cellValue table (some "s") index = .ok (.text text)) ∧
          ((items f)[i]? = none →
            cellValue table (some "s") index = .error (.indexOutOfBounds i)))) ∧
    ∀ e ∈ items f,
      Separate TextElement.text.names TextElement.text.names e.body →
      Separate TextElement.phonetic.names TextElement.phonetic.names e.body →
      itemText e.body
        = ((RunScope.runTexts false false e.body).foldlM joinPiece "").map decodeEscapes := by
  refine ⟨size_readSharedTexts h, fun hf => ?_, fun e _ htext hphonetic => ?_⟩
  · have htable := entries_readSharedTexts hf h
    exact ⟨htable, fun hfull index i hindex => cellValue_item htable hfull hindex⟩
  · exact itemText_of_plain htext hphonetic

/-- An item with a text, one with a run and a phonetic run, and one with nothing in it. -/
def threeItems : Xml.Forest :=
  .element ⟨Xml.asciiName "si", []⟩
    (.element ⟨Xml.asciiName "t", []⟩ (.text (Xml.asciiName "A") .nil) .nil)
    (.element ⟨Xml.asciiName "si", []⟩
      (.element ⟨Xml.asciiName "r", []⟩
        (.element ⟨Xml.asciiName "t", []⟩ (.text (Xml.asciiName "B") .nil) .nil)
        (.element ⟨Xml.asciiName "rPh", []⟩
          (.element ⟨Xml.asciiName "t", []⟩ (.text (Xml.asciiName "x") .nil) .nil) .nil))
      (.element ⟨Xml.asciiName "si", []⟩ .nil .nil))

theorem items_of_threeItems :
    readSharedTexts threeItems.document = .ok #["A", "B", ""] ∧
      (#["A", "B", ""] : Array String).size = (tableItems threeItems).length ∧
      cellValue #["A", "B", ""] (some "s") "3" = .error (.indexOutOfBounds 3) := by
  have hread : readSharedTexts threeItems.document = .ok #["A", "B", ""] := by decide +kernel
  obtain ⟨hsize, htable, -⟩ := items_of_readSharedTexts hread
  have hseparate : Separate TextElement.item.names TextElement.item.names threeItems := by
    decide +kernel
  refine ⟨hread, hsize, ?_⟩
  exact ((htable hseparate).2 (by decide +kernel) "3" 3 (by decide +kernel)).2 (by decide +kernel)

/-- An item that is a single tag, and one behind it. -/
def gapPart : Xml.Forest :=
  .empty ⟨Xml.asciiName "si", []⟩
    (.element ⟨Xml.asciiName "si", []⟩
      (.element ⟨Xml.asciiName "t", []⟩ (.text (Xml.asciiName "B") .nil) .nil) .nil)

/-- An item that is a single tag shifts the ones behind it: the second of two items has no entry
of its index, and its text has the index of the first one. -/
theorem gapPart_shifts :
    readSharedTexts gapPart.document = .ok #["B"] ∧ (items gapPart).length = 2 ∧
      cellValue #["B"] (some "s") "0" = .ok (.text "B") ∧
      cellValue #["B"] (some "s") "1" = .error (.indexOutOfBounds 1) := by
  refine ⟨?_, ?_, ?_, ?_⟩
  · decide +kernel
  · decide +kernel
  · decide +kernel
  · decide +kernel

end SheetInspector.Xlsx
