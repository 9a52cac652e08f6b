import SheetInspector.Proofs.Xlsx.Escapes
import SheetInspector.Proofs.Xlsx.TextForms
import SheetInspector.Proofs.Xml.Unescape
import SheetInspector.Proofs.Xml.Written

set_option autoImplicit false

/-! # Escaped forms of a text

A text has many escaped forms: any of its characters with a code of four digits may be written as
an escape, with digits of either case, and an underscore must be. In such a form every underscore
begins or ends an escape that was written, so the decoder never reads from one character's place
into the next one's, and what it gives back is the text (`decodeEscapes_written`). If all
characters that can be escaped are, nothing is left that means anything to XML, so the form can
stand in a document as it is: every text can be loaded from the table, and every text but the empty
one from its cell (`escapedForms_load`).
-/

namespace SheetInspector.Xlsx

/-! ## Ways of writing -/

/-- The hexadecimal digit for a number, in upper or in lower case. -/
def hexDigit (upper : Bool) (n : Nat) : Char :=
  if upper then n.digitChar.toUpper else n.digitChar

/-- How a character is written: as it is, or as an escape, in which each of the four digits is in
upper or in lower case. -/
inductive Writing where
  | kept
  | escaped (upper₁ upper₂ upper₃ upper₄ : Bool)
  deriving DecidableEq, Repr

/-- A character in one of the ways. -/
def Writing.chars : Writing → Char → List Char
  | kept, c => [c]
  | escaped upper₁ upper₂ upper₃ upper₄, c =>
    ['_', 'x', hexDigit upper₁ (c.toNat / 16 ^ 3), hexDigit upper₂ (c.toNat / 16 ^ 2 % 16),
      hexDigit upper₃ (c.toNat / 16 % 16), hexDigit upper₄ (c.toNat % 16), '_']

/-- A text, written character by character in ways that depend on the places. -/
def written (how : Nat → Writing) : List Char → List Char
  | [] => []
  | c :: s => (how 0).chars c ++ written (fun i => how (i + 1)) s

/-- Whether a text can be written in some ways: all underscores are escaped, and of the other
characters only some that have a code of four digits. -/
structure Escapable (how : Nat → Writing) (s : List Char) : Prop where
  underscore : ∀ (i : Nat) (h : i < s.length), s[i] = '_' → how i ≠ .kept
  short : ∀ (i : Nat) (h : i < s.length), how i ≠ .kept → s[i].toNat < 16 ^ 4

instance (how : Nat → Writing) (s : List Char) : Decidable (Escapable how s) :=
  decidable_of_iff (_ ∧ _) ⟨fun h => ⟨h.1, h.2⟩, fun h => ⟨h.underscore, h.short⟩⟩

theorem Escapable.tail {how : Nat → Writing} {c : Char} {s : List Char}
    (h : Escapable how (c :: s)) : Escapable (fun i => how (i + 1)) s where
  underscore := fun i hi => h.underscore (i + 1) (Nat.succ_lt_succ hi)
  short := fun i hi => h.short (i + 1) (Nat.succ_lt_succ hi)

/-! ## Decoding -/

theorem hexValue?_hexDigit (upper : Bool) {n : Nat} (h : n < 16) :
    Text.hexValue? (hexDigit upper n) = some n := by
  have hall : ∀ upper : Bool, ∀ n < 16, Text.hexValue? (hexDigit upper n) = some n := by decide
  exact hall upper n h

/-- A character with a code of four digits is escaped by these. -/
theorem escaped_chars {how : Writing} {c : Char} (hhow : how ≠ .kept) (hc : c.toNat < 16 ^ 4)
    (rest : List Char) : Escaped c rest (how.chars c ++ rest) := by
  cases how with
  | kept => exact absurd rfl hhow
  | escaped upper₁ upper₂ upper₃ upper₄ =>
      -- the digits are those of the code in base sixteen, the first of which may not be reduced
      have hcode : c.toNat = c.toNat / 16 ^ 3 * 16 ^ 3 + c.toNat / 16 ^ 2 % 16 * 16 ^ 2
          + c.toNat / 16 % 16 * 16 + c.toNat % 16 := by
        omega
      have hmod (n : Nat) : n % 16 < 16 := Nat.mod_lt n (by decide)
      exact .intro (hexValue?_hexDigit _ (by omega)) (hexValue?_hexDigit _ (hmod _))
        (hexValue?_hexDigit _ (hmod _)) (hexValue?_hexDigit _ (hmod _)) hcode

/-- **A character is decoded from the place where it is written**, whatever is behind it. -/
theorem expandEscapes_chars {how : Writing} {c : Char} (hunderscore : c = '_' → how ≠ .kept)
    (hshort : how ≠ .kept → c.toNat < 16 ^ 4) (rest : List Char) :
    expandEscapes (how.chars c ++ rest) = c :: expandEscapes rest := by
  by_cases hhow : how = .kept
  · have hc : c ≠ '_' := fun hc => hunderscore hc hhow
    rw [hhow, Writing.chars, List.singleton_append, expandEscapes_of_ne hc]
  · exact expandEscapes_of_escaped (escaped_chars hhow (hshort hhow) rest)

theorem expandEscapes_written {how : Nat → Writing} {s : List Char} (h : Escapable how s) :
    expandEscapes (written how s) = s := by
  -- behind the first character the places count from zero again
  induction s generalizing how with
  | nil => exact expandEscapes_nil
  | cons c s ih =>
      have hfirst : 0 < (c :: s).length := Nat.zero_lt_succ _
      have hdecoded := expandEscapes_chars (h.underscore 0 hfirst) (h.short 0 hfirst)
      exact (hdecoded _).trans (congrArg (c :: ·) (ih h.tail))

/-- **Decoding undoes escaping**, however a text is escaped. -/
theorem decodeEscapes_written {how : Nat → Writing} {s : String} (h : Escapable how s.toList) :
    decodeEscapes (String.ofList (written how s.toList)) = s := by
  rw [← String.toList_inj, toList_decodeEscapes, String.toList_ofList, expandEscapes_written h]

/-! ## A form that can stand in a document -/

/-- Every character that can be escaped is. -/
def escapedWherePossible (s : List Char) (i : Nat) : Writing :=
  match s[i]? with
  | none => .kept
  | some c => if c.toNat < 16 ^ 4 then .escaped true true true true else .kept

theorem escapable_wherePossible (s : List Char) : Escapable (escapedWherePossible s) s where
  underscore := by
    intro i hi hc
    rw [escapedWherePossible, List.getElem?_eq_getElem hi, hc]
    simp
  short := by
    intro i hi hhow
    rw [escapedWherePossible, List.getElem?_eq_getElem hi] at hhow
    by_contra hlong
    exact hhow (if_neg hlong)

/-- A text with all characters escaped that can be. -/
def storedForm (s : List Char) : List Char := written (escapedWherePossible s) s

theorem storedForm_cons (c : Char) (s : List Char) :
    storedForm (c :: s) = (escapedWherePossible [c] 0).chars c ++ storedForm s := rfl

/-- No character of an escape means anything to XML. -/
theorem not_mem_escaped {c : Char} (hc : c.toNat < 16 ^ 4) (upper₁ upper₂ upper₃ upper₄ : Bool) :
    '<' ∉ (Writing.escaped upper₁ upper₂ upper₃ upper₄).chars c ∧
      '&' ∉ (Writing.escaped upper₁ upper₂ upper₃ upper₄).chars c := by
  have hdigit : ∀ upper : Bool, ∀ n < 16, '<' ≠ hexDigit upper n ∧ '&' ≠ hexDigit upper n := by
    decide
  have hmod (n : Nat) : n % 16 < 16 := Nat.mod_lt n (by decide)
  have h₁ := hdigit upper₁ (c.toNat / 16 ^ 3) (by omega)
  have h₂ := hdigit upper₂ (c.toNat / 16 ^ 2 % 16) (hmod _)
  have h₃ := hdigit upper₃ (c.toNat / 16 % 16) (hmod _)
  have h₄ := hdigit upper₄ (c.toNat % 16) (hmod _)
  simp only [Writing.chars, List.mem_cons, List.not_mem_nil, not_or]
  exact ⟨⟨by decide, by decide, h₁.1, h₂.1, h₃.1, h₄.1, by decide, by decide⟩,
    ⟨by decide, by decide, h₁.2, h₂.2, h₃.2, h₄.2, by decide, by decide⟩⟩

theorem not_mem_storedForm (s : List Char) : '<' ∉ storedForm s ∧ '&' ∉ storedForm s := by
  induction s with
  | nil => exact ⟨List.not_mem_nil, List.not_mem_nil⟩
  | cons c s ih =>
      have hfirst : '<' ∉ (escapedWherePossible [c] 0).chars c ∧
          '&' ∉ (escapedWherePossible [c] 0).chars c := by
        rw [escapedWherePossible, List.getElem?_cons_zero]
        dsimp only
        split_ifs with hc
        · exact not_mem_escaped hc _ _ _ _
        · have hless : '<' ≠ c := fun h => hc (h ▸ by decide)
          have hamp : '&' ≠ c := fun h => hc (h ▸ by decide)
          simp [Writing.chars, hless, hamp]
      rw [storedForm_cons, List.mem_append, List.mem_append, not_or, not_or]
      exact ⟨⟨hfirst.1, ih.1⟩, ⟨hfirst.2, ih.2⟩⟩

/-! ## Loading -/

/-- The bytes that a text is stored as. -/
def storedBytes (s : String) : Bytes := Utf8.encode (storedForm s.toList)

/-- A body with the stored form of a text. An empty text is written as nothing. -/
def storedBody (s : String) : Xml.Forest :=
  textNode (if s = "" then none else some (storedBytes s)) .nil

theorem unescape_storedBytes (s : String) :
    unescape (storedBytes s) = .ok (String.ofList (storedForm s.toList)) :=
  mapError_eq_ok_iff.mpr (Xml.unescape_encode (not_mem_storedForm s.toList).2)

theorem decodeEscapes_storedForm (s : String) :
    decodeEscapes (String.ofList (storedForm s.toList)) = s :=
  decodeEscapes_written (escapable_wherePossible s.toList)

theorem itemText_storedBody (s : String) : itemText (storedBody s) = .ok s := by
  rw [storedBody]
  split_ifs with hs
  · rw [hs]
    decide +kernel
  · have hpieces : itemText (textNode (some (storedBytes s)) .nil)
        = ([storedBytes s].foldlM joinPiece "").map decodeEscapes := rfl
    rw [hpieces, List.foldlM_cons, joinPiece, unescape_storedBytes]
    show Except.ok (decodeEscapes ("" ++ String.ofList (storedForm s.toList))) = .ok s
    rw [String.empty_append, decodeEscapes_storedForm]

/-- The bytes of a stored form are a text, as far as XML goes. -/
theorem storedBytes_isText {s : String} (hs : s ≠ "") :
    storedBytes s ≠ [] ∧ 60 ∉ storedBytes s := by
  constructor
  · -- no bytes are the empty text, which no other text is decoded from
    intro hnil
    have hread := unescape_storedBytes s
    rw [hnil] at hread
    have hempty : unescape [] = .ok "" := by decide +kernel
    have hform := Except.ok.inj (hempty.symm.trans hread)
    refine hs ?_
    rw [← decodeEscapes_storedForm s, ← hform]
    decide
  · intro hmem
    have hless := Utf8.mem_of_mem_encode (by decide) hmem
    exact (not_mem_storedForm s.toList).1 hless

theorem writable_storedBody (s : String) : (storedBody s).Writable := by
  have htag : Xml.Tag.Writable ⟨Xml.asciiName "t", []⟩ [] := by decide +kernel
  rw [storedBody, textNode]
  split_ifs with hs
  · exact ⟨⟨htag, by decide⟩, trivial, trivial⟩
  · obtain ⟨hne, hless⟩ := storedBytes_isText hs
    exact ⟨⟨htag, by decide⟩, ⟨⟨hne, hless, rfl⟩, trivial⟩, trivial⟩

/-- The body has no elements but the text. -/
theorem elements_storedBody {p : Bytes → Bool} (hp : p (Xml.asciiName "t") = false) (s : String) :
    (storedBody s).elements p = [] := by
  rw [storedBody, textNode, Xml.Forest.elements_element_of_false hp]
  split_ifs <;> rfl

/-- A part with a single item reads as the table with its text. -/
theorem readSharedTexts_itemPart {body : Xml.Forest} {text : String}
    (hbody : body.elements TextElement.item.names = []) (htext : itemText body = .ok text) :
    Separate TextElement.item.names TextElement.item.names (itemPart body) ∧
      readSharedTexts (itemPart body).document = .ok #[text] := by
  have hname : TextElement.item.names (Xml.asciiName "si") = true := by decide
  have helements : (itemPart body).elements TextElement.item.names
      = [⟨⟨Xml.asciiName "si", []⟩, some body⟩] := by
    rw [itemPart, Xml.Forest.elements_element_of_true hname, hbody]
    rfl
  have hseparate : Separate TextElement.item.names TextElement.item.names (itemPart body) := by
    intro e he _
    rw [helements, List.mem_singleton] at he
    rw [he]
    exact hbody
  refine ⟨hseparate, ?_⟩
  rw [readSharedTexts, readDocument_document, map_eq_ok_iff]
  refine ⟨⟨[text], "", false, false, false⟩, ?_, rfl⟩
  rw [TextScan.readsElements.foldlM_events hseparate ⟨rfl, rfl, rfl⟩, helements,
    List.foldlM_cons, TextScan.readItem]
  dsimp only
  rw [htext]
  rfl

/-- A part with a single cell reads as a sheet with its content. -/
theorem readSheetPart_cellPart {tag : Xml.Tag} {body : Xml.Forest} {c : PendingCell}
    {shared : Array String} {content : Content} (hcell : SheetElement.of tag.name = .cell)
    (hbody : body.elements rowOrCell = [])
    (hcollect : PendingCell.collect 1 0 false ⟨tag, some body⟩ = .ok c)
    (haddress : c.address = ⟨1, 1⟩) (hcontent : c.content? shared = .ok (some content))
    (name : String) :
    ∃ s, readSheetPart shared name (cellPart ⟨tag, some body⟩).document = .ok s ∧
      s.content? ⟨1, 1⟩ = some content := by
  have hrow : rowOrCell (Xml.asciiName "row") = true := by decide
  have hname : rowOrCell tag.name = true := by
    rw [rowOrCell, SheetElement.names_iff.mpr hcell, Bool.or_true]
  have helements : (cellPart ⟨tag, some body⟩).elements rowOrCell
      = [⟨⟨Xml.asciiName "row", []⟩, some (.element tag body .nil)⟩, ⟨tag, some body⟩] := by
    rw [cellPart, Xml.Forest.elements_element_of_true hrow,
      Xml.Forest.elements_element_of_true hname, Xml.Element.body, Option.getD_some, hbody]
    rfl
  have happart : CellsApart (cellPart ⟨tag, some body⟩) := by
    intro e he hwhole
    rw [helements, List.mem_cons, List.mem_singleton] at he
    rcases he with rfl | rfl
    · have hother : SheetElement.cell.names (Xml.asciiName "row") = false := by decide
      cases hwhole.symm.trans hother
    · exact hbody
  have hstored : c.stored? shared = some content := by
    rw [PendingCell.stored?, hcontent]
    rfl
  have hplace : (c.edit shared).place = .ok c.address := by
    rw [SheetEdit.place_eq_ok_iff, PendingCell.target_edit, haddress]
    exact ⟨rfl, by decide⟩
  have hfinish := PendingCell.finish_of_ok (hstored.symm ▸ hcontent) hplace (Sheet.new name)
  have hbegin : (SheetScan.initial (Sheet.new name)).readElement shared
      ⟨⟨Xml.asciiName "row", []⟩, some (.element tag body .nil)⟩
        = .ok ⟨Sheet.new name, 1, 0, none, false, false, false, false⟩ := by
    have hnumber : rowNumber ⟨Xml.asciiName "row", []⟩ 0 = .ok 1 := by decide +kernel
    have hkind : SheetElement.of (Xml.asciiName "row") = .row := by decide
    rw [SheetScan.readElement, if_pos hkind, SheetScan.beginRow]
    exact congrArg (Except.map _) hnumber
  refine ⟨(Sheet.new name).run [c.edit shared], ?_, ?_⟩
  · rw [readSheetPart, readDocument_document, map_eq_ok_iff]
    refine ⟨⟨_, 1, c.address.column, none, false, false, false,
      inlineTextBehind false ⟨tag, some body⟩⟩, ?_, rfl⟩
    rw [(SheetScan.readsElements shared).foldlM_events happart ⟨rfl, rfl, rfl, rfl⟩, helements,
      List.foldlM_cons, bind_eq_ok_iff]
    refine ⟨_, hbegin, ?_⟩
    rw [List.foldlM_cons, bind_eq_ok_iff]
    refine ⟨_, (SheetScan.readElement_cell_iff hcell).mpr ⟨c, hcollect, ?_⟩, rfl⟩
    rw [SheetScan.storeCell, map_eq_ok_iff]
    exact ⟨_, hfinish, rfl⟩
  · have hcontent? := (StoresCells.of_finish hfinish).content?_of_mem (by simp)
      (List.mem_singleton_self c)
    rwa [haddress, hstored] at hcontent?

/-- The part with a cell that has an index is read as it is written. -/
theorem scan_itemCell :
    Xml.scan [(cellPart itemCell).bytes] none = (cellPart itemCell).document := by
  have hwritable : (cellPart itemCell).Writable := by
    refine ⟨⟨by decide +kernel, by decide⟩, ⟨⟨by decide +kernel, by decide +kernel⟩, ?_, trivial⟩,
      trivial⟩
    exact ⟨⟨by decide +kernel, by decide⟩, ⟨⟨by decide, by decide, rfl⟩, trivial⟩, trivial⟩
  exact Xml.Forest.scan_bytes hwritable (List.append_nil _) rfl

/-- **A text loads from its stored form in the table**, and the cell with its index holds it. -/
theorem load_shared (s name : String) :
    readSharedTexts (Xml.scan [(itemPart (storedBody s)).bytes] none) = .ok #[s] ∧
      ∃ sheet, readSheetPart #[s] name (Xml.scan [(cellPart itemCell).bytes] none) = .ok sheet ∧
        sheet.content? ⟨1, 1⟩ = some (.literal (.text s)) := by
  obtain ⟨hseparate, htable⟩ := readSharedTexts_itemPart
    (elements_storedBody (by decide) s) (itemText_storedBody s)
  have hscan : Xml.scan [(itemPart (storedBody s)).bytes] none
      = (itemPart (storedBody s)).document := by
    have hwritable : (itemPart (storedBody s)).Writable :=
      ⟨⟨by decide +kernel, by decide⟩, writable_storedBody s, trivial⟩
    exact Xml.Forest.scan_bytes hwritable (List.append_nil _) rfl
  have hentries := entries_readSharedTexts hseparate htable
  have hboth := storedBoth_itemPart (storedBody s)
  have hstart : PendingCell.start 1 0 itemCell.tag = .ok ⟨⟨1, 1⟩, some "s", none, none⟩ := by
    decide +kernel
  obtain ⟨index, _, _, _, hcollect⟩ := hboth.collect_shared_iff hentries
  have hc := (hcollect false _).mpr ⟨_, hstart, rfl⟩
  obtain ⟨text, htext, hcontent⟩ := hboth.shared_content hentries hc
  rw [itemText_storedBody] at htext
  cases htext
  rw [hscan, scan_itemCell]
  exact ⟨htable, readSheetPart_cellPart rfl rfl hc rfl hcontent name⟩

/-- **A text loads from its stored form in a cell**, unless there is nothing to store. -/
theorem load_inline {s : String} (hs : s ≠ "") (shared : Array String) (name : String) :
    ∃ sheet, readSheetPart shared name
        (Xml.scan [(cellPart (ownCell (storedBody s))).bytes] none) = .ok sheet ∧
      sheet.content? ⟨1, 1⟩ = some (.literal (.text s)) := by
  have hscan : Xml.scan [(cellPart (ownCell (storedBody s))).bytes] none
      = (cellPart (ownCell (storedBody s))).document := by
    have hwritable : (cellPart (ownCell (storedBody s))).Writable := by
      refine ⟨⟨by decide +kernel, by decide⟩, ⟨⟨?_, ?_⟩, ?_, trivial⟩, trivial⟩
      · show Xml.Tag.Writable (ownCell .nil).tag []
        decide +kernel
      · show (ownCell .nil).tag.bytes.getLast? ≠ some 47
        decide +kernel
      · exact ⟨⟨by decide +kernel, by decide⟩, writable_storedBody s, trivial⟩
    exact Xml.Forest.scan_bytes hwritable (List.append_nil _) rfl
  have hbody : ItemBody (storedBody s) := itemBody_textNode _ itemBody_nil
  have hspoken : Spoken (storedBody s) := by
    have htexts : allTexts false (storedBody s) = [storedBytes s] := by
      rw [storedBody, if_neg hs]
      rfl
    refine ⟨by rw [htexts]; exact List.cons_ne_nil _ _, ?_⟩
    rw [storedBody, if_neg hs]
    rfl
  have hboth := storedBoth_itemPart (storedBody s)
  have hstart : PendingCell.start 1 0 (ownCell (storedBody s)).tag
      = .ok ⟨⟨1, 1⟩, some inlineType, none, none⟩ := by
    show PendingCell.start 1 0 (ownCell .nil).tag = _
    decide +kernel
  have hown : ownText (storedBody s) = .ok (some s) := by
    rw [ownText_of_spoken hbody hspoken, itemText_storedBody]
    rfl
  obtain ⟨joined, hjoined, -⟩ := map_eq_ok_iff.mp hown
  have hc := (hboth.collect_inline_iff hbody).mpr ⟨_, joined, hstart, hjoined, rfl⟩
  obtain ⟨text, htext, hcontent⟩ := hboth.inline_content hbody hc
  rw [hown] at htext
  cases htext
  have helements : (Xml.Forest.element ⟨Xml.asciiName "is", []⟩ (storedBody s) .nil).elements
      rowOrCell = [] :=
    Xml.Forest.elements_element_eq_nil_iff.mpr ⟨by decide, elements_storedBody (by decide) s, rfl⟩
  rw [hscan]
  exact readSheetPart_cellPart rfl helements hc rfl hcontent name

/-- **Escaping is undone by decoding.** However a text is escaped, as long as all its underscores
are and only characters with a code of four digits are, decoding gives the text. So every text,
also one that looks like an escape itself, can be stored: there is a form of it with which a table
reads as this text and a cell with its index as well, and, unless the text is empty, with which a
cell reads as the text that holds it itself. -/
theorem decodeEscapes_undoes_escaping :
    (∀ (how : Nat → Writing) (s : String), Escapable how s.toList →
      decodeEscapes (String.ofList (written how s.toList)) = s) ∧
    ∀ s name : String,
      (readSharedTexts (Xml.scan [(itemPart (storedBody s)).bytes] none) = .ok #[s] ∧
        ∃ sheet, readSheetPart #[s] name (Xml.scan [(cellPart itemCell).bytes] none) = .ok sheet ∧
          sheet.content? ⟨1, 1⟩ = some (.literal (.text s))) ∧
      (s ≠ "" → ∀ shared, ∃ sheet, readSheetPart shared name
          (Xml.scan [(cellPart (ownCell (storedBody s))).bytes] none) = .ok sheet ∧
        sheet.content? ⟨1, 1⟩ = some (.literal (.text s))) :=
  ⟨fun _ _ => decodeEscapes_written,
    fun s name => ⟨load_shared s name, fun hs shared => load_inline hs shared name⟩⟩

/-- The characters at some places are escaped. -/
def escapedAt (places : List Nat) (i : Nat) : Writing :=
  if i ∈ places then .escaped true true true true else .kept

/-- A text that looks like an escape, with its underscores escaped. -/
theorem decodeEscapes_of_underscores :
    Escapable (escapedAt [0, 6]) "_x0041_".toList ∧
      decodeEscapes "_x005F_x0041_x005F_" = "_x0041_" ∧ "_x0041_" ≠ "" ∧
      ∃ sheet, readSheetPart #[] "S"
          (Xml.scan [(cellPart (ownCell (storedBody "_x0041_"))).bytes] none) = .ok sheet ∧
        sheet.content? ⟨1, 1⟩ = some (.literal (.text "_x0041_")) := by
  have hescapable : Escapable (escapedAt [0, 6]) "_x0041_".toList := by decide
  have hnonempty : "_x0041_" ≠ "" := by decide
  exact ⟨hescapable, decodeEscapes_undoes_escaping.1 (escapedAt [0, 6]) "_x0041_" hescapable,
    hnonempty, (decodeEscapes_undoes_escaping.2 "_x0041_" "S").2 hnonempty #[]⟩

end SheetInspector.Xlsx
