import SheetInspector.Proofs.Xlsx.Formulas
import SheetInspector.Proofs.Xlsx.SharedTable

set_option autoImplicit false

/-! # Texts in cells and texts in the table

A text stands either in its cell or as an item in the table of shared texts, where its cell refers
to it. The two forms are read by different readers: that of the table passes over phonetic runs
and keeps an item without texts as the empty text, while that of cells joins every text it meets
and stores nothing where there is none. So what is stored for either form is known for every body
(`StoredBoth.inline_content`, `StoredBoth.shared_content`), and a part reads as the same sheet with
its texts moved from cells to the table as long as these bodies are `Spoken`
(`readSheetPart_textForms`).
-/

namespace SheetInspector.Xlsx

/-! ## Bodies -/

/-- Whether a name is that of a value, of a formula or of a text of a cell's own. -/
def opensScope (name : Bytes) : Bool :=
  valueOrFormula name || SheetElement.inlineText.names name

/-- Whether nodes can be the body of an item: neither values nor formulas nor texts of cells, and
no text in a text and no phonetic run in one. -/
structure ItemBody (body : Xml.Forest) : Prop where
  plain : body.elements opensScope = []
  text : Separate TextElement.text.names TextElement.text.names body
  phonetic : Separate TextElement.phonetic.names TextElement.phonetic.names body

/-- The texts that stand in a text, in a phonetic run or not, where one may have begun around the
nodes. -/
def allTexts (inText : Bool) : Xml.Forest → List Bytes
  | .nil => []
  | .element tag inside rest =>
    allTexts (TextElement.text.names tag.name || inText) inside ++ allTexts inText rest
  | .empty _ rest => allTexts inText rest
  | .text raw rest => (if inText then [raw] else []) ++ allTexts inText rest
  | .aside rest => allTexts inText rest

/-- Whether a body has a text, and none in a phonetic run. -/
structure Spoken (body : Xml.Forest) : Prop where
  some : allTexts false body ≠ []
  all : RunScope.runTexts false false body = allTexts false body

/-- The name of a text is the same in cells and in the table. -/
theorem SheetElement.of_eq_text_iff {name : Bytes} :
    SheetElement.of name = .text ↔ TextElement.of name = .text := by
  have hsheet : SheetElement.of name = .text ↔ name = Xml.asciiName "t" := by
    constructor
    · intro h
      unfold SheetElement.of at h
      split_ifs at h
      assumption
    · rintro rfl
      decide
  have htable : TextElement.of name = .text ↔ name = Xml.asciiName "t" := by
    constructor
    · intro h
      unfold TextElement.of at h
      split_ifs at h
      assumption
    · rintro rfl
      decide
  rw [hsheet, htable]

/-! ### Bodies as they are written -/

/-- What the body of an item is written as: texts, runs of text, and phonetic runs, each with a
text that may have nothing in it. -/
inductive ItemPiece where
  | plain (raw : Option Bytes)
  | run (raw : Option Bytes)
  | phonetic (raw : Option Bytes)
  deriving DecidableEq, Repr

/-- A text, in front of some nodes. -/
def textNode (raw : Option Bytes) (rest : Xml.Forest) : Xml.Forest :=
  .element ⟨Xml.asciiName "t", []⟩ ((raw.map fun raw => .text raw .nil).getD .nil) rest

/-- The body that is written as some pieces. -/
def ItemPiece.body : List ItemPiece → Xml.Forest
  | [] => .nil
  | .plain raw :: pieces => textNode raw (body pieces)
  | .run raw :: pieces => .element ⟨Xml.asciiName "r", []⟩ (textNode raw .nil) (body pieces)
  | .phonetic raw :: pieces => .element ⟨Xml.asciiName "rPh", []⟩ (textNode raw .nil) (body pieces)

theorem itemBody_nil : ItemBody .nil := ⟨rfl, by decide, by decide⟩

theorem ItemBody.cons {tag : Xml.Tag} {inside rest : Xml.Forest} (hinside : ItemBody inside)
    (hrest : ItemBody rest) (hname : opensScope tag.name = false)
    (htext : TextElement.text.names tag.name = true →
      inside.elements TextElement.text.names = [])
    (hphonetic : TextElement.phonetic.names tag.name = true →
      inside.elements TextElement.phonetic.names = []) :
    ItemBody (.element tag inside rest) where
  plain := Xml.Forest.elements_element_eq_nil_iff.mpr ⟨hname, hinside.plain, hrest.plain⟩
  text := hinside.text.cons hrest.text fun h _ => htext h
  phonetic := hinside.phonetic.cons hrest.phonetic fun h _ => hphonetic h

theorem itemBody_textNode (raw : Option Bytes) {rest : Xml.Forest} (hrest : ItemBody rest) :
    ItemBody (textNode raw rest) := by
  have hnone (p : Bytes → Bool) :
      ((raw.map fun raw => Xml.Forest.text raw .nil).getD .nil).elements p = [] := by
    cases raw with
    | none => rfl
    | some raw => rfl
  have hinside : ItemBody ((raw.map fun raw => .text raw .nil).getD .nil) := by
    cases raw with
    | none => exact itemBody_nil
    | some raw => exact ⟨rfl, by rintro e ⟨⟩, by rintro e ⟨⟩⟩
  exact hinside.cons hrest (by decide) (fun _ => hnone _) (fun _ => hnone _)

/-- **Texts, runs and phonetic runs, in any order, are the body of an item.** -/
theorem itemBody_pieces (pieces : List ItemPiece) : ItemBody (ItemPiece.body pieces) := by
  induction pieces with
  | nil => exact itemBody_nil
  | cons piece pieces ih =>
      cases piece with
      | plain raw => exact itemBody_textNode raw ih
      | run raw =>
          exact (itemBody_textNode raw itemBody_nil).cons ih (by decide) (fun h => by cases h)
            (fun h => by cases h)
      | phonetic raw =>
          refine (itemBody_textNode raw itemBody_nil).cons ih (by decide) (fun h => by cases h)
            fun _ => ?_
          cases raw with
          | none => decide
          | some raw => rfl

/-! ## The texts in a cell -/

/-- The scope in a text of a cell's own. -/
def Scope.own (inText : Bool) : Scope := ⟨false, false, true, inText⟩

theorem opensScope_eq_false {name : Bytes} (h : opensScope name = false) :
    SheetElement.of name ≠ .value ∧ SheetElement.of name ≠ .formula ∧
      SheetElement.of name ≠ .inlineText := by
  rw [opensScope, valueOrFormula, Bool.or_eq_false_iff, Bool.or_eq_false_iff] at h
  obtain ⟨⟨hvalue, hformula⟩, hinline⟩ := h
  exact ⟨SheetElement.names_eq_false_iff.mp hvalue, SheetElement.names_eq_false_iff.mp hformula,
    SheetElement.names_eq_false_iff.mp hinline⟩

theorem Scope.own_after_start {tag : Xml.Tag} (h : opensScope tag.name = false) (inText : Bool) :
    (own inText).after (.start tag) = own (TextElement.text.names tag.name || inText) := by
  obtain ⟨hvalue, hformula, hinline⟩ := opensScope_eq_false h
  rw [after, TextElement.names]
  cases hk : SheetElement.of tag.name with
  | value => exact absurd hk hvalue
  | formula => exact absurd hk hformula
  | inlineText => exact absurd hk hinline
  | text => simp [own, SheetElement.of_eq_text_iff.mp hk]
  | _ =>
      have htext : TextElement.of tag.name ≠ .text := by
        rw [Ne, ← SheetElement.of_eq_text_iff, hk]
        decide
      simp [htext]

theorem Scope.own_after_finish {name : Bytes} (h : opensScope name = false) (inText : Bool) :
    (own inText).after (.finish name) = own (!TextElement.text.names name && inText) := by
  obtain ⟨hvalue, hformula, hinline⟩ := opensScope_eq_false h
  rw [after, TextElement.names]
  cases hk : SheetElement.of name with
  | value => exact absurd hk hvalue
  | formula => exact absurd hk hformula
  | inlineText => exact absurd hk hinline
  | text => simp [own, SheetElement.of_eq_text_iff.mp hk]
  | _ =>
      have htext : TextElement.of name ≠ .text := by
        rw [Ne, ← SheetElement.of_eq_text_iff, hk]
        decide
      simp [htext]

/-- **In a text of a cell's own every text in a text counts**, and behind the nodes the scope is
what it was. -/
theorem Scope.texts_own {f : Xml.Forest} {inText : Bool} (hplain : f.elements opensScope = [])
    (htext : Unnested TextElement.text.names inText f) :
    (own inText).texts f.events = (allTexts inText f).map (Prod.mk .inline) ∧
      f.events.foldl after (own inText) = own inText := by
  -- both at once: the texts behind an element depend on the scope that it leaves
  induction f generalizing inText with
  | nil => exact ⟨rfl, rfl⟩
  | element tag inside rest ihInside ihRest =>
      obtain ⟨hname, hinside, hrest⟩ := Xml.Forest.elements_element_eq_nil_iff.mp hplain
      have hwithin :
          Unnested TextElement.text.names (TextElement.text.names tag.name || inText) inside := by
        cases htag : TextElement.text.names tag.name with
        | true => exact htext.inside_of_true htag
        | false => exact htext.inside_of_false
      have hclosed :
          (!TextElement.text.names tag.name && (TextElement.text.names tag.name || inText))
            = inText := by
        cases htag : TextElement.text.names tag.name with
        | true => exact (htext.not_opened htag).symm
        | false => rfl
      obtain ⟨htexts, hscope⟩ := ihInside hinside hwithin
      obtain ⟨htextsRest, hscopeRest⟩ := ihRest hrest htext.rest
      have hbehind := own_after_finish hname (TextElement.text.names tag.name || inText)
      rw [hclosed] at hbehind
      constructor
      · rw [Xml.Forest.events, texts, texts_append, texts, own_after_start hname, hscope, hbehind,
          htexts, htextsRest, allTexts, List.map_append]
        rfl
      · rw [Xml.Forest.events, List.foldl_cons, List.foldl_append, List.foldl_cons,
          own_after_start hname, hscope, hbehind, hscopeRest]
  | empty tag rest ih =>
      exact ih (Xml.Forest.elements_empty_eq_nil_iff.mp hplain).2 htext.rest_of_empty
  | text raw rest ih =>
      obtain ⟨htexts, hscope⟩ := ih hplain ⟨htext.separate, htext.none⟩
      refine ⟨?_, hscope⟩
      have hafter : (own inText).after (.text raw) = own inText := rfl
      rw [Xml.Forest.events, texts, hafter, htexts, allTexts, List.map_append]
      cases inText with
      | true => rfl
      | false => rfl
  | aside rest ih => exact ih hplain ⟨htext.separate, htext.none⟩

/-- A text of a cell's own begins in the cell. -/
theorem Scope.start_after_own {tag : Xml.Tag} (h : SheetElement.of tag.name = .inlineText)
    (inText : Bool) : (start inText).after (.start tag) = own inText := by
  rw [after, h]
  rfl

/-- Of a body in a cell every text in a text counts. -/
theorem ItemBody.texts_own {body : Xml.Forest} (h : ItemBody body) :
    (Scope.own false).texts body.events = (allTexts false body).map (Prod.mk .inline) ∧
      body.events.foldl Scope.after (Scope.own false) = Scope.own false :=
  Scope.texts_own h.plain ⟨h.text, fun ho => by cases ho⟩

/-- A cell with its texts joined. -/
def PendingCell.withOwnText (c : PendingCell) (text : String) : PendingCell :=
  { c with value := some text, type := some inlineType }

theorem PendingCell.take_inline (c : PendingCell) (raw : Bytes) :
    c.take (.inline, raw) = (joinPiece (c.value.getD "") raw).map c.withOwnText := by
  rw [take, joinPiece, map_map]
  rfl

/-- **The texts of a cell's own are joined**, if there are any. -/
theorem PendingCell.foldlM_take_inline (c : PendingCell) (raw : Bytes) (raws : List Bytes) :
    ((raw :: raws).map (Prod.mk TextRole.inline)).foldlM take c
      = ((raw :: raws).foldlM joinPiece (c.value.getD "")).map c.withOwnText := by
  induction raws generalizing c raw with
  | nil =>
      have htake : ([raw].map (Prod.mk TextRole.inline)).foldlM take c = c.take (.inline, raw) :=
        bind_pure _
      have hjoin : [raw].foldlM joinPiece (c.value.getD "") = joinPiece (c.value.getD "") raw :=
        bind_pure _
      rw [htake, hjoin, take_inline]
  | cons next raws ih =>
      rw [List.map_cons, List.foldlM_cons, take_inline, List.foldlM_cons]
      cases joinPiece (c.value.getD "") raw with
      | error fault => rfl
      | ok text => exact ih (c.withOwnText text) next

/-- The joined texts of a body that stands in a cell; nothing if it has none. -/
def joinedTexts (body : Xml.Forest) : Except Fault (Option String) :=
  match allTexts false body with
  | [] => .ok none
  | raw :: raws => ((raw :: raws).foldlM joinPiece "").map some

/-- The text of a cell with a body in it; nothing if the body has no text. -/
def ownText (body : Xml.Forest) : Except Fault (Option String) :=
  (joinedTexts body).map (Option.map decodeEscapes)

/-- Where all texts are spoken, a body is the same text in a cell and in the table. -/
theorem ownText_of_spoken {body : Xml.Forest} (hbody : ItemBody body) (hspoken : Spoken body) :
    ownText body = (itemText body).map some := by
  obtain ⟨hsome, hall⟩ := hspoken
  rw [itemText_of_plain hbody.text hbody.phonetic, hall, ownText, joinedTexts]
  cases hraws : allTexts false body with
  | nil => exact absurd hraws hsome
  | cons raw raws =>
      show (((raw :: raws).foldlM joinPiece "").map some).map _ = _
      rw [map_map, map_map]
      rfl

/-! ## Cells in either form -/

/-- Whether a cell has a body in it, and another, with the same reference, has the index of an item
of the table with this body. -/
structure StoredBoth (st : Xml.Forest) (body : Xml.Forest) (e e' : Xml.Element) : Prop where
  cell : SheetElement.of e.tag.name = .cell
  cell' : SheetElement.of e'.tag.name = .cell
  reference : attribute? e.tag.attributes "r" = attribute? e'.tag.attributes "r"
  type : typeName? e.tag = some inlineType
  type' : typeName? e'.tag = some "s"
  inline : ∃ own : Xml.Tag, SheetElement.of own.name = .inlineText ∧
    e.body = .element own body .nil
  /-- The value of the other cell is a single text, that of the index. -/
  shared : ∃ (value : Xml.Tag) (raw : Bytes) (index : String) (i : Nat) (item : Xml.Element),
    SheetElement.of value.name = .value ∧ e'.body = .element value (.text raw .nil) .nil ∧
    unescape raw = .ok index ∧ natOfBits? 64 index.toList = some i ∧
    (tableItems st)[i]? = some item ∧ item.body = body

/-- A type that is there can be read. -/
theorem legible_of_typeName? {tag : Xml.Tag} {type : String} (h : typeName? tag = some type) :
    Legible tag.attributes "t" some := by
  intro _
  rw [typeName?] at h
  rw [h]
  rfl

/-- How a cell with a type begins. -/
theorem PendingCell.start_of_type {row column : Nat} {tag : Xml.Tag} {type : String}
    (h : typeName? tag = some type) {c : PendingCell} :
    start row column tag = .ok c ↔
      (Legible tag.attributes "r" addressOf? ∧ c.address.row ≠ 0) ∧
        c = ⟨(reference? tag).getD ⟨row, column + 1⟩, some type, none, none⟩ := by
  rw [start_eq_ok_iff, h, and_assoc]
  constructor
  · rintro ⟨hlegible, hrow, rfl⟩
    exact ⟨hlegible.reference, hrow, rfl⟩
  · rintro ⟨hlegible, hrow, rfl⟩
    exact ⟨⟨hlegible, legible_of_typeName? h⟩, hrow, rfl⟩

/-- What is stored for a cell whose text is its own. -/
theorem PendingCell.content?_own {c : PendingCell} (htype : c.type = some inlineType)
    (hformula : c.formula = none) (shared : Array String) :
    c.content? shared
      = .ok (c.value.map fun text => .literal (.text (decodeEscapes text))) := by
  obtain ⟨address, type, value, formula⟩ := c
  obtain rfl : type = some inlineType := htype
  obtain rfl : formula = none := hformula
  cases value with
  | none => rfl
  | some text =>
      have hvalue : cellValue shared (some inlineType) text = .ok (.text (decodeEscapes text)) := by
        have hother : inlineType ≠ "n" ∧ inlineType ≠ "s" ∧ inlineType ≠ "b" ∧ inlineType ≠ "e" := by
          decide
        rw [cellValue, if_neg hother.1, if_neg hother.2.1, if_neg hother.2.2.1,
          if_neg hother.2.2.2, if_pos (.inl rfl)]
      simp [content?, hvalue, Except.map]

namespace StoredBoth

variable {st body : Xml.Forest} {e e' : Xml.Element} {table : Array String} {row column : Nat}

theorem reference? (h : StoredBoth st body e e') :
    Xlsx.reference? e.tag = Xlsx.reference? e'.tag := by
  rw [Xlsx.reference?, Xlsx.reference?, lookup?, lookup?, h.reference]

theorem legible_iff (h : StoredBoth st body e e') :
    Legible e.tag.attributes "r" addressOf? ↔ Legible e'.tag.attributes "r" addressOf? := by
  rw [Legible, Legible, lookup?, lookup?, h.reference]

theorem cellTexts_inline (h : StoredBoth st body e e') (hbody : ItemBody body) :
    cellTexts false e = (allTexts false body).map (Prod.mk .inline) := by
  obtain ⟨own, hown, hinside⟩ := h.inline
  rw [cellTexts, hinside, Xml.Forest.events, Scope.texts, Scope.texts_append,
    Scope.start_after_own hown, hbody.texts_own.1]
  exact List.append_nil _

/-- **What is collected of the cell with the body**: what its tag says, and the joined texts. -/
theorem collect_inline_iff (h : StoredBoth st body e e') (hbody : ItemBody body)
    {c : PendingCell} :
    PendingCell.collect row column false e = .ok c ↔
      ∃ started text, PendingCell.start row column e.tag = .ok started ∧
        joinedTexts body = .ok text ∧ c = { started with value := text } := by
  rw [PendingCell.collect, bind_eq_ok_iff, h.cellTexts_inline hbody, joinedTexts]
  refine exists_congr fun started => ?_
  rw [exists_and_left]
  refine and_congr_right fun hstart => ?_
  obtain ⟨-, rfl⟩ := (PendingCell.start_of_type h.type).mp hstart
  cases allTexts false body with
  | nil =>
      constructor
      · intro hc
        cases hc
        exact ⟨none, rfl, rfl⟩
      · rintro ⟨text, htext, rfl⟩
        cases htext
        rfl
  | cons raw raws =>
      rw [PendingCell.foldlM_take_inline, map_eq_ok_iff]
      simp only [map_eq_ok_iff]
      constructor
      · rintro ⟨text, htext, rfl⟩
        exact ⟨some text, ⟨text, htext, rfl⟩, rfl⟩
      · rintro ⟨_, ⟨text, htext, rfl⟩, rfl⟩
        exact ⟨text, htext, rfl⟩

/-- **What is stored for the cell with the body**: its joined texts, and nothing if it has none. -/
theorem inline_content (h : StoredBoth st body e e') (hbody : ItemBody body)
    {c : PendingCell} (hc : PendingCell.collect row column false e = .ok c) :
    ∃ text, ownText body = .ok text ∧
      c.content? table = .ok (text.map fun s => .literal (.text s)) := by
  obtain ⟨started, text, hstart, htext, rfl⟩ := (h.collect_inline_iff hbody).mp hc
  obtain ⟨-, rfl⟩ := (PendingCell.start_of_type h.type).mp hstart
  refine ⟨text.map decodeEscapes, ?_, ?_⟩
  · rw [ownText, htext]
    rfl
  · rw [PendingCell.content?_own rfl rfl, Option.map_map]
    rfl

/-- **What is collected of the cell with the index, and stored for it**: what its tag says and the
index, which leads to the text of the item. -/
theorem collect_shared_iff (h : StoredBoth st body e e')
    (htable : List.Forall₂ (fun e text => itemText e.body = .ok text) (tableItems st) table.toList) :
    ∃ index text, itemText body = .ok text ∧
      cellValue table (some "s") index = .ok (.text text) ∧
      ∀ inText c, PendingCell.collect row column inText e' = .ok c ↔
        ∃ started, PendingCell.start row column e'.tag = .ok started ∧
          c = { started with value := some index } := by
  obtain ⟨value, raw, index, i, item, hvalue, hinside, hindex, hi, hget, rfl⟩ := h.shared
  obtain ⟨text, htext, hentry⟩ := (cellValue_entry htable hi).1 item hget
  refine ⟨index, text, htext, hentry, fun inText c => ?_⟩
  have htexts : cellTexts inText e' = [(.value, raw)] := by
    rw [cellTexts, hinside]
    simp [Xml.Forest.events, Scope.texts, Scope.text?, Scope.after, hvalue, Scope.role?]
  have htake (started : PendingCell) :
      [(TextRole.value, raw)].foldlM PendingCell.take started
        = .ok { started with value := some index } := by
    rw [List.foldlM_cons, PendingCell.take, hindex]
    rfl
  rw [PendingCell.collect, bind_eq_ok_iff, htexts]
  simp only [htake, Except.ok.injEq, eq_comm]

/-- **What is stored for the cell with the index**: the text of the item. -/
theorem shared_content (h : StoredBoth st body e e')
    (htable : List.Forall₂ (fun e text => itemText e.body = .ok text) (tableItems st) table.toList)
    {inText : Bool} {c : PendingCell} (hc : PendingCell.collect row column inText e' = .ok c) :
    ∃ text, itemText body = .ok text ∧
      c.content? table = .ok (some (.literal (.text text))) := by
  obtain ⟨index, text, htext, hvalue, hcollect⟩ := h.collect_shared_iff htable
  obtain ⟨started, hstart, rfl⟩ := (hcollect inText c).mp hc
  obtain ⟨-, rfl⟩ := (PendingCell.start_of_type h.type').mp hstart
  refine ⟨text, htext, ?_⟩
  simp [PendingCell.content?, hvalue, Except.map]

/-- Both cells begin at the same address. -/
theorem start_iff (h : StoredBoth st body e e') {a : Address} :
    (∃ c, PendingCell.start row column e.tag = .ok c ∧ c.address = a) ↔
      ∃ c, PendingCell.start row column e'.tag = .ok c ∧ c.address = a := by
  simp only [PendingCell.start_of_type h.type, PendingCell.start_of_type h.type', h.reference?,
    h.legible_iff]
  constructor
  · rintro ⟨c, ⟨hbegins, rfl⟩, rfl⟩
    exact ⟨{ type := some "s", value := none, formula := none, .. }, ⟨hbegins, rfl⟩, rfl⟩
  · rintro ⟨c, ⟨hbegins, rfl⟩, rfl⟩
    exact ⟨{ type := some inlineType, value := none, formula := none, .. }, ⟨hbegins, rfl⟩, rfl⟩

/-- **A spoken body is stored alike in either form.** -/
theorem collect_iff (h : StoredBoth st body e e') (hbody : ItemBody body) (hspoken : Spoken body)
    (htable : List.Forall₂ (fun e text => itemText e.body = .ok text) (tableItems st) table.toList)
    {a : Address} {content : Option Content} :
    (∃ c, PendingCell.collect row column false e = .ok c ∧ c.address = a ∧
        c.content? table = .ok content) ↔
      ∃ c, PendingCell.collect row column false e' = .ok c ∧ c.address = a ∧
        c.content? table = .ok content := by
  have hown := ownText_of_spoken hbody hspoken
  constructor
  · rintro ⟨c, hc, rfl, hcontent⟩
    obtain ⟨started, text, hstart, -, rfl⟩ := (h.collect_inline_iff hbody).mp hc
    obtain ⟨started', hstart', haddress⟩ := h.start_iff.mp ⟨started, hstart, rfl⟩
    obtain ⟨index, -, -, -, hcollect⟩ := h.collect_shared_iff htable
    have hc' := (hcollect false _).mpr ⟨started', hstart', rfl⟩
    refine ⟨_, hc', haddress, ?_⟩
    obtain ⟨text, htext, hinline⟩ := h.inline_content hbody hc
    obtain ⟨item, hitem, hshared⟩ := h.shared_content htable hc'
    rw [hown, hitem] at htext
    cases htext
    exact hshared.trans (hinline.symm.trans hcontent)
  · rintro ⟨c, hc, rfl, hcontent⟩
    obtain ⟨index, -, -, -, hcollect⟩ := h.collect_shared_iff htable
    obtain ⟨started', hstart', rfl⟩ := (hcollect false c).mp hc
    obtain ⟨started, hstart, haddress⟩ := h.start_iff.mpr ⟨started', hstart', rfl⟩
    obtain ⟨item, hitem, hshared⟩ := h.shared_content htable hc
    -- the item has a text, so the texts in the cell can be read as well
    have hjoined : ∃ text, joinedTexts body = .ok text := by
      rw [hitem, ownText] at hown
      obtain ⟨text, htext, -⟩ := map_eq_ok_iff.mp hown
      exact ⟨text, htext⟩
    obtain ⟨text, htext⟩ := hjoined
    have hc' := (h.collect_inline_iff hbody).mpr ⟨started, text, hstart, htext, rfl⟩
    refine ⟨_, hc', haddress, ?_⟩
    obtain ⟨own, hownText, hinline⟩ := h.inline_content hbody hc'
    rw [hown, hitem] at hownText
    cases hownText
    exact hinline.trans (hshared.symm.trans hcontent)

end StoredBoth

/-! ## Parts -/

namespace SheetScan

/-- What is stored of a cell is its address and its content. -/
theorem storeCell_congr {shared : Array String} {c c' : PendingCell}
    (haddress : c.address = c'.address) (hcontent : c.content? shared = c'.content? shared)
    (s : SheetScan) : s.storeCell shared c = s.storeCell shared c' := by
  rw [storeCell, storeCell, PendingCell.finish, PendingCell.finish, haddress, hcontent]

/-- Reading a cell is collecting it, and then storing its content at its address. -/
theorem readElement_cell_iff {shared : Array String} {s s' : SheetScan} {e : Xml.Element}
    (hcell : SheetElement.of e.tag.name = .cell) :
    s.readElement shared e = .ok s' ↔
      ∃ c, PendingCell.collect s.row s.column s.inInlineText e = .ok c ∧
        { s with inInlineText := inlineTextBehind s.inInlineText e }.storeCell shared c
          = .ok s' := by
  have hrow : SheetElement.of e.tag.name ≠ .row := by
    rw [hcell]
    decide
  rw [readElement, if_neg hrow, bind_eq_ok_iff]

/-- A cell that is stored has a content that can be read. -/
theorem content?_of_storeCell {shared : Array String} {s s' : SheetScan} {c : PendingCell}
    (h : s.storeCell shared c = .ok s') : ∃ content, c.content? shared = .ok content := by
  rw [storeCell, map_eq_ok_iff] at h
  obtain ⟨sheet, hfinish, -⟩ := h
  exact ⟨_, (PendingCell.finish_eq_ok hfinish).1⟩

/-- Cells in which no inline text holds another leave the flag of texts down. -/
theorem inInlineText_readElement {shared : Array String} {s s' : SheetScan} {e : Xml.Element}
    (he : Separate SheetElement.inlineText.names SheetElement.inlineText.names e.body)
    (hs : s.inInlineText = false) (h : s.readElement shared e = .ok s') :
    s'.inInlineText = false := by
  by_cases hrow : SheetElement.of e.tag.name = .row
  · obtain ⟨-, -, rfl⟩ := (readElement_row hrow).mp h
    exact hs
  · obtain ⟨c, -, rfl⟩ := readElement_cell hrow h
    show inlineTextBehind s.inInlineText e = false
    rw [hs]
    exact inlineTextBehind_eq_false (.of_separate he)

end SheetScan

/-- The cell with the index leaves the flag of texts as it is, and so does the one with the body. -/
theorem StoredBoth.inlineTextBehind {st body : Xml.Forest} {e e' : Xml.Element}
    (h : StoredBoth st body e e') (hbody : ItemBody body) :
    Xlsx.inlineTextBehind false e = false ∧ Xlsx.inlineTextBehind false e' = false := by
  constructor
  · obtain ⟨own, hown, hinside⟩ := h.inline
    rw [Xlsx.inlineTextBehind, hinside, Xml.Forest.events, List.foldl_cons, List.foldl_append,
      Scope.start_after_own hown, hbody.texts_own.2]
    simp [Xml.Forest.events, Scope.after, hown, Scope.own]
  · obtain ⟨value, raw, -, -, -, hvalue, hinside, -⟩ := h.shared
    rw [Xlsx.inlineTextBehind, hinside]
    simp [Xml.Forest.events, Scope.after, hvalue, Scope.start]

/-- **Reading a cell with a spoken body is reading the one with its index.** -/
theorem StoredBoth.readElement_iff {st body : Xml.Forest} {e e' : Xml.Element}
    {table : Array String} (h : StoredBoth st body e e') (hbody : ItemBody body)
    (hspoken : Spoken body)
    (htable : List.Forall₂ (fun e text => itemText e.body = .ok text) (tableItems st) table.toList)
    {s s' : SheetScan} (hs : s.inInlineText = false) :
    s.readElement table e = .ok s' ↔ s.readElement table e' = .ok s' := by
  obtain ⟨hbehind, hbehind'⟩ := h.inlineTextBehind hbody
  rw [SheetScan.readElement_cell_iff h.cell, SheetScan.readElement_cell_iff h.cell', hs, hbehind,
    hbehind']
  constructor
  · rintro ⟨c, hc, hstore⟩
    obtain ⟨content, hcontent⟩ := SheetScan.content?_of_storeCell hstore
    obtain ⟨c', hc', haddress, hcontent'⟩ :=
      (h.collect_iff hbody hspoken htable).mp ⟨c, hc, rfl, hcontent⟩
    refine ⟨c', hc', ?_⟩
    rw [SheetScan.storeCell_congr haddress (hcontent'.trans hcontent.symm)]
    exact hstore
  · rintro ⟨c, hc, hstore⟩
    obtain ⟨content, hcontent⟩ := SheetScan.content?_of_storeCell hstore
    obtain ⟨c', hc', haddress, hcontent'⟩ :=
      (h.collect_iff hbody hspoken htable).mpr ⟨c, hc, rfl, hcontent⟩
    refine ⟨c', hc', ?_⟩
    rw [SheetScan.storeCell_congr haddress (hcontent'.trans hcontent.symm)]
    exact hstore

/-- Whether two elements of a part differ only in where spoken bodies stand: rows have the same tag,
and cells are the same or hold the same body in either form. -/
inductive SameText (st : Xml.Forest) : Xml.Element → Xml.Element → Prop where
  | row {e e' : Xml.Element} (hrow : SheetElement.of e.tag.name = .row) (htag : e.tag = e'.tag) :
    SameText st e e'
  | same (e : Xml.Element) : SameText st e e
  | moved {body : Xml.Forest} {e e' : Xml.Element} (hbody : ItemBody body) (hspoken : Spoken body)
    (h : StoredBoth st body e e') : SameText st e e'

theorem SameText.readElement_iff {st : Xml.Forest} {e e' : Xml.Element} {table : Array String}
    (h : SameText st e e')
    (htable : List.Forall₂ (fun e text => itemText e.body = .ok text) (tableItems st) table.toList)
    {s s' : SheetScan} (hs : s.inInlineText = false) :
    s.readElement table e = .ok s' ↔ s.readElement table e' = .ok s' := by
  cases h with
  | row hrow htag =>
      rw [SheetScan.readElement, SheetScan.readElement, if_pos hrow, if_pos (htag ▸ hrow), htag]
  | same => exact Iff.rfl
  | moved hbody hspoken h => exact h.readElement_iff hbody hspoken htable hs

/-- **Texts in cells and texts in the table.** Let a table be read from a part whose items hold no
items. What is stored for a cell with a body in it is its texts joined, those of phonetic runs
included, and nothing if it has none; what is stored for a cell with the index of an item with this
body is the text of the item, which is there for every body. For a spoken body these are the same.
So two parts of which one has some texts in cells where the other has them in the table read as the
same sheet, or neither can be read, as long as the bodies are spoken. -/
theorem readSheetPart_textForms {st : Xml.Forest} {table : Array String}
    (hst : Separate TextElement.item.names TextElement.item.names st)
    (htable : readSharedTexts st.document = .ok table) :
    (∀ body e e', ItemBody body → StoredBoth st body e e' → ∀ row column,
      (∀ c, PendingCell.collect row column false e = .ok c →
        ∃ text, ownText body = .ok text ∧
          c.content? table = .ok (text.map fun s => .literal (.text s))) ∧
      (∀ c, PendingCell.collect row column false e' = .ok c →
        ∃ text, itemText body = .ok text ∧
          c.content? table = .ok (some (.literal (.text text)))) ∧
      (Spoken body → ownText body = (itemText body).map some)) ∧
    ∀ f g, CellsApart f → CellsApart g →
      Separate SheetElement.inlineText.names SheetElement.inlineText.names f →
      List.Forall₂ (SameText st) (f.elements rowOrCell) (g.elements rowOrCell) →
      ∀ name s, readSheetPart table name f.document = .ok s ↔
        readSheetPart table name g.document = .ok s := by
  have hentries := entries_readSharedTexts hst htable
  refine ⟨fun body e e' hbody h row column => ⟨fun c hc => ?_, fun c hc => ?_, fun hspoken => ?_⟩,
    fun f g hf hg hinline hsame name s => ?_⟩
  · exact h.inline_content hbody hc
  · exact h.shared_content hentries hc
  · exact ownText_of_spoken hbody hspoken
  · have hrests : (SheetScan.initial (Sheet.new name)).Rests := ⟨rfl, rfl, rfl, rfl⟩
    have hpairs : List.Forall₂ (fun e e' =>
        Separate SheetElement.inlineText.names SheetElement.inlineText.names e.body ∧
          SameText st e e') (f.elements rowOrCell) (g.elements rowOrCell) :=
      (List.forall₂_and_left _ _).mpr ⟨fun e he => hinline.of_mem he, hsame⟩
    rw [readSheetPart, readSheetPart, readDocument_document, readDocument_document, map_eq_ok_iff,
      map_eq_ok_iff, (SheetScan.readsElements table).foldlM_events hf hrests,
      (SheetScan.readsElements table).foldlM_events hg hrests]
    refine exists_congr fun scan => and_congr_left fun _ => ?_
    -- between cells the flag of texts stays down
    refine foldlM_eq_ok_iff_of_forall₂ (P := fun scan => scan.inInlineText = false) ?_ hpairs rfl
    rintro scan scan' e e' hscan ⟨he, hsame⟩
    exact ⟨hsame.readElement_iff hentries hscan, scan.inInlineText_readElement he hscan⟩

/-! ### Written parts -/

/-- A table with a single item. -/
def itemPart (body : Xml.Forest) : Xml.Forest := .element ⟨Xml.asciiName "si", []⟩ body .nil

/-- A cell with a body in it. -/
def ownCell (body : Xml.Forest) : Xml.Element :=
  ⟨⟨Xml.asciiName "c", Xml.asciiName " t=\"inlineStr\""⟩,
    some (.element ⟨Xml.asciiName "is", []⟩ body .nil)⟩

/-- A cell with the text of the first item. -/
def itemCell : Xml.Element :=
  ⟨⟨Xml.asciiName "c", Xml.asciiName " t=\"s\""⟩,
    some (.element ⟨Xml.asciiName "v", []⟩ (.text (Xml.asciiName "0") .nil) .nil)⟩

/-- A part with a single cell. -/
def cellPart (e : Xml.Element) : Xml.Forest :=
  .element ⟨Xml.asciiName "row", []⟩ (.element e.tag e.body .nil) .nil

theorem storedBoth_itemPart (body : Xml.Forest) :
    StoredBoth (itemPart body) body (ownCell body) itemCell where
  cell := rfl
  cell' := rfl
  reference := by
    have hnone : attribute? (ownCell .nil).tag.attributes "r" = none := by decide +kernel
    have hnone' : attribute? itemCell.tag.attributes "r" = none := by decide +kernel
    exact hnone.trans hnone'.symm
  type := by
    have htype : typeName? (ownCell .nil).tag = some inlineType := by decide +kernel
    exact htype
  type' := by decide +kernel
  inline := ⟨_, rfl, rfl⟩
  shared := ⟨_, _, "0", 0, ⟨⟨Xml.asciiName "si", []⟩, some body⟩, rfl, rfl, by decide +kernel,
    by decide +kernel, rfl, rfl⟩

/-- A body of a text and a run. -/
def twoRuns : Xml.Forest :=
  ItemPiece.body [.plain (some (Xml.asciiName "A")), .run (some (Xml.asciiName "B"))]

theorem readSheetPart_twoRuns :
    ∃ s, readSheetPart #["AB"] "S" (cellPart (ownCell twoRuns)).document = .ok s ∧
      readSheetPart #["AB"] "S" (cellPart itemCell).document = .ok s ∧
      s.content? ⟨1, 1⟩ = some (.literal (.text "AB")) := by
  have htable : readSharedTexts (itemPart twoRuns).document = .ok #["AB"] := by decide +kernel
  have hread : (readSheetPart #["AB"] "S" (cellPart (ownCell twoRuns)).document).toOption.map
      (fun s => s.content? ⟨1, 1⟩) = some (some (.literal (.text "AB"))) := by
    decide +kernel
  obtain ⟨s, hs, hcontent⟩ := Option.map_eq_some_iff.mp hread
  rw [toOption_eq_some_iff] at hs
  have hspoken : Spoken twoRuns := ⟨by decide +kernel, by decide +kernel⟩
  have hcells : SameText (itemPart twoRuns) (ownCell twoRuns) itemCell :=
    .moved (itemBody_pieces _) hspoken (storedBoth_itemPart twoRuns)
  have hiff := (readSheetPart_textForms (by decide +kernel) htable).2
    (cellPart (ownCell twoRuns)) (cellPart itemCell) (by decide +kernel) (by decide +kernel)
    (by decide +kernel) (.cons (.row rfl rfl) (.cons hcells .nil)) "S" s
  exact ⟨s, hs, hiff.mp hs, hcontent⟩

/-- A body with a phonetic run. -/
def annotatedBody : Xml.Forest :=
  ItemPiece.body [.plain (some (Xml.asciiName "A")), .phonetic (some (Xml.asciiName "x"))]

/-- A body with a text that has nothing in it. -/
def blankBody : Xml.Forest := ItemPiece.body [.plain none]

/-- The content of the only cell of a part. -/
def onlyContent? (table : Array String) (e : Xml.Element) : Option (Option Content) :=
  (readSheetPart table "S" (cellPart e).document).toOption.map fun s => s.content? ⟨1, 1⟩

/-- **Elsewhere the two forms differ**: the text of a phonetic run counts in a cell and not in the
table, and a body without any text is stored from the table and not from a cell. -/
theorem textForms_differ :
    (readSharedTexts (itemPart annotatedBody).document = .ok #["A"] ∧
      onlyContent? #["A"] (ownCell annotatedBody) = some (some (.literal (.text "Ax"))) ∧
      onlyContent? #["A"] itemCell = some (some (.literal (.text "A")))) ∧
    readSharedTexts (itemPart blankBody).document = .ok #[""] ∧
      onlyContent? #[""] (ownCell blankBody) = some none ∧
      onlyContent? #[""] itemCell = some (some (.literal (.text ""))) := by
  refine ⟨⟨?_, ?_, ?_⟩, ?_, ?_, ?_⟩
  · decide +kernel
  · decide +kernel
  · decide +kernel
  · decide +kernel
  · decide +kernel
  · decide +kernel

end SheetInspector.Xlsx
