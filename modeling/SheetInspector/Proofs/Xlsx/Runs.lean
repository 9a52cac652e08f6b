import SheetInspector.Proofs.Xlsx.EscapedForms

set_option autoImplicit false

/-! # Texts in several runs

A body may hold its text in several runs, each a text of its own. The readers join the runs and
then decode the whole, so an escape may begin in one run and end in a later one, where no run holds
one (`runs_divided`). What comes out is what the runs give when they are decoded one by one as long
as no escape that decoding gets to reaches into the next run (`expandEscapes_append_of_contained`),
and this is so in particular where every run is escaped as a text of its own: `runs_joined` has all
of it, for both readers.
-/

namespace SheetInspector.Xlsx

/-! ## Where a text may be divided -/

/-- Whether the escapes in a text, read from the left with `rest` behind it, end in the text. -/
inductive Contained (rest : List Char) : List Char → Prop
  | nil : Contained rest []
  | escape {s after : List Char} {c : Char} (h : Escaped c after s)
      (hafter : Contained rest after) : Contained rest s
  | copy {s : List Char} {c : Char} (h : ∀ d after, ¬ Escaped d after (c :: (s ++ rest)))
      (hs : Contained rest s) : Contained rest (c :: s)

/-- Whether the escapes in some texts, read one behind the other, each end in the text in which
they begin. -/
def AllContained : List (List Char) → Prop
  | [] => True
  | s :: rest => Contained rest.flatten s ∧ AllContained rest

/-- What stands behind a text stands behind the escape that it begins with. -/
theorem Escaped.append {c : Char} {after s : List Char} (h : Escaped c after s)
    (rest : List Char) : Escaped c (after ++ rest) (s ++ rest) := by
  obtain ⟨digits, hlength, hdigits, hcode, rfl⟩ := escaped_iff.mp h
  exact escaped_iff.mpr ⟨digits, hlength, hdigits, hcode, by simp⟩

/-- **A text may be divided where no escape reaches across.** -/
theorem expandEscapes_append_of_contained {s rest : List Char} (h : Contained rest s) :
    expandEscapes (s ++ rest) = expandEscapes s ++ expandEscapes rest := by
  induction h with
  | nil => rw [expandEscapes_nil, List.nil_append, List.nil_append]
  | escape h _ ih =>
      rw [expandEscapes_of_escaped (h.append rest), expandEscapes_of_escaped h, ih,
        List.cons_append]
  | copy h _ ih =>
      have halone (d : Char) (after : List Char) : ¬ Escaped d after (_ :: _) :=
        fun hd => h d (after ++ rest) (hd.append rest)
      rw [List.cons_append, expandEscapes_of_not_escaped h, expandEscapes_of_not_escaped halone,
        ih, List.cons_append]

theorem expandEscapes_flatten {texts : List (List Char)} (h : AllContained texts) :
    expandEscapes texts.flatten = texts.flatMap expandEscapes := by
  induction texts with
  | nil => exact expandEscapes_nil
  | cons s rest ih =>
      rw [List.flatten_cons, expandEscapes_append_of_contained h.1, ih h.2, List.flatMap_cons]

/-- A text in which all underscores are escaped may be followed by anything. -/
theorem contained_written {how : Nat → Writing} {s : List Char} (h : Escapable how s)
    (rest : List Char) : Contained rest (written how s) := by
  induction s generalizing how with
  | nil => exact .nil
  | cons c s ih =>
      have hfirst : 0 < (c :: s).length := Nat.zero_lt_succ _
      by_cases hhow : how 0 = .kept
      · have hc : c ≠ '_' := fun hc => h.underscore 0 hfirst hc hhow
        rw [written, hhow, Writing.chars, List.singleton_append]
        refine .copy (fun d after hd => ?_) (ih h.tail)
        obtain ⟨behind, hbehind⟩ := hd.starts
        exact hc (List.cons.inj hbehind).1.symm
      · exact .escape (escaped_chars hhow (h.short 0 hfirst hhow) _) (ih h.tail)

/-- Whether a text is an escaped form of another. -/
def EscapedForm (t s : String) : Prop :=
  ∃ how, Escapable how s.toList ∧ t = String.ofList (written how s.toList)

theorem allContained_of_forms {texts originals : List String}
    (h : List.Forall₂ EscapedForm texts originals) : AllContained (texts.map String.toList) := by
  induction h with
  | nil => trivial
  | cons hform _ ih =>
      obtain ⟨how, hescapable, rfl⟩ := hform
      rw [List.map_cons, String.toList_ofList]
      exact ⟨contained_written hescapable _, ih⟩

theorem map_decodeEscapes_of_forms {texts originals : List String}
    (h : List.Forall₂ EscapedForm texts originals) : texts.map decodeEscapes = originals := by
  induction h with
  | nil => rfl
  | cons hform _ ih =>
      obtain ⟨how, hescapable, rfl⟩ := hform
      rw [List.map_cons, decodeEscapes_written hescapable, ih]

/-- **Texts in which every escape ends where it begins may be decoded one by one.** -/
theorem decodeEscapes_join {texts : List String} (h : AllContained (texts.map String.toList)) :
    decodeEscapes (String.join texts) = String.join (texts.map decodeEscapes) := by
  rw [← String.toList_inj, toList_decodeEscapes, String.toList_join, String.toList_join,
    List.flatMap_map, List.flatMap_def, expandEscapes_flatten h, List.flatMap_map]
  simp only [toList_decodeEscapes]

/-! ## The runs of a body -/

/-- The runs of a body: its texts, each with what stands in it. -/
def runs (body : Xml.Forest) : List Xml.Element := body.elements TextElement.text.names

/-- The text of a run, from all the pieces that stand in it. -/
def runText (run : Xml.Element) : Except Fault String :=
  (allTexts true run.body).foldlM joinPiece ""

/-- The texts of a body are those of its runs. -/
theorem allTexts_runs {body : Xml.Forest}
    (h : Separate TextElement.text.names TextElement.text.names body) :
    allTexts false body = (runs body).flatMap fun run => allTexts true run.body := by
  induction body with
  | nil => rfl
  | element tag inside rest ihInside ihRest =>
      rw [allTexts, ihRest h.rest, runs, runs]
      cases hname : TextElement.text.names tag.name with
      | true =>
          rw [Xml.Forest.elements_element_of_true hname, h.body hname hname]
          rfl
      | false =>
          rw [Xml.Forest.elements_element_of_false hname, List.flatMap_append]
          exact congrArg (· ++ _) (ihInside h.inside)
  | empty tag rest ih =>
      rw [allTexts, ih h.rest_of_empty, runs, runs]
      cases hname : TextElement.text.names tag.name with
      | true =>
          rw [Xml.Forest.elements_empty_of_true hname]
          rfl
      | false => rw [Xml.Forest.elements_empty_of_false hname]
  | text raw rest ih => exact ih h
  | aside rest ih => exact ih h

/-- Without phonetic runs all texts count in the table. -/
theorem runTexts_eq_allTexts {body : Xml.Forest}
    (h : body.elements TextElement.phonetic.names = []) (inText : Bool) :
    RunScope.runTexts inText false body = allTexts inText body := by
  induction body generalizing inText with
  | nil => rfl
  | element tag inside rest ihInside ihRest =>
      obtain ⟨hname, hinside, hrest⟩ := Xml.Forest.elements_element_eq_nil_iff.mp h
      rw [RunScope.runTexts, allTexts, ihRest hrest, TextElement.names]
      cases hkind : TextElement.of tag.name with
      | phonetic => exact absurd hkind (TextElement.names_eq_false_iff.mp hname)
      | text => exact congrArg (· ++ _) (ihInside hinside true)
      | item => exact congrArg (· ++ _) (ihInside hinside inText)
      | other => exact congrArg (· ++ _) (ihInside hinside inText)
  | empty tag rest ih => exact ih (Xml.Forest.elements_empty_eq_nil_iff.mp h).2 inText
  | text raw rest ih => exact congrArg (_ ++ ·) (ih h inText)
  | aside rest ih => exact ih h inText

theorem foldlM_joinPiece (text : String) (raws : List Bytes) :
    raws.foldlM joinPiece text = (raws.foldlM joinPiece "").map (text ++ ·) := by
  induction raws generalizing text with
  | nil => exact congrArg Except.ok String.append_empty.symm
  | cons raw raws ih =>
      rw [List.foldlM_cons, List.foldlM_cons, joinPiece, joinPiece]
      cases unescape raw with
      | error fault => rfl
      | ok piece =>
          show raws.foldlM joinPiece (text ++ piece)
            = (raws.foldlM joinPiece ("" ++ piece)).map (text ++ ·)
          rw [ih (text ++ piece), ih ("" ++ piece), map_map]
          simp only [String.empty_append, String.append_assoc]

/-- **The texts of some runs, one behind the other, are joined.** -/
theorem foldlM_joinPiece_runs {runs : List Xml.Element} {texts : List String}
    (h : List.Forall₂ (fun run text => runText run = .ok text) runs texts) :
    (runs.flatMap fun run => allTexts true run.body).foldlM joinPiece "" =
      .ok (String.join texts) := by
  induction h with
  | nil => rfl
  | cons hrun _ ih =>
      rw [runText] at hrun
      rw [List.flatMap_cons, List.foldlM_append, hrun]
      show List.foldlM joinPiece _ _ = _
      rw [foldlM_joinPiece, ih, String.join_cons]
      rfl

/-! ## What is loaded -/

section Loaded

variable {body : Xml.Forest} {texts : List String}

theorem itemText_of_runs (hbody : ItemBody body)
    (hphonetic : body.elements TextElement.phonetic.names = [])
    (htexts : List.Forall₂ (fun run text => runText run = .ok text) (runs body) texts) :
    itemText body = .ok (decodeEscapes (String.join texts)) := by
  rw [itemText_of_plain hbody.text hbody.phonetic, runTexts_eq_allTexts hphonetic,
    allTexts_runs hbody.text, foldlM_joinPiece_runs htexts]
  rfl

/-- The text of a cell with the body in it, if a piece of text stands there at all. -/
def loadedText (body : Xml.Forest) (texts : List String) : Option String :=
  if allTexts false body = [] then none else some (decodeEscapes (String.join texts))

theorem ownText_of_runs (hbody : ItemBody body)
    (htexts : List.Forall₂ (fun run text => runText run = .ok text) (runs body) texts) :
    ownText body = .ok (loadedText body texts) := by
  have hjoin := foldlM_joinPiece_runs htexts
  rw [← allTexts_runs hbody.text] at hjoin
  rw [ownText, joinedTexts, loadedText]
  cases hraws : allTexts false body with
  | nil => rfl
  | cons raw raws =>
      rw [hraws] at hjoin
      dsimp only
      rw [hjoin]
      rfl

/-- **What a cell with a body in it stores**, whatever its tag says of its type. -/
theorem collect_own {own tag : Xml.Tag} (hown : SheetElement.of own.name = .inlineText)
    (hbody : ItemBody body) {row column : Nat} {started : PendingCell}
    (hstart : PendingCell.start row column tag = .ok started) {text : Option String}
    (htext : ownText body = .ok text) :
    ∃ c, PendingCell.collect row column false ⟨tag, some (.element own body .nil)⟩ = .ok c ∧
      c.address = started.address ∧
      ∀ shared, c.content? shared = .ok (text.map fun s => .literal (.text s)) := by
  have htexts : cellTexts false ⟨tag, some (.element own body .nil)⟩
      = (allTexts false body).map (Prod.mk .inline) := by
    rw [cellTexts, Xml.Element.body, Option.getD_some, Xml.Forest.events, Scope.texts,
      Scope.texts_append, Scope.start_after_own hown, hbody.texts_own.1]
    exact List.append_nil _
  obtain ⟨-, -, rfl⟩ := PendingCell.start_eq_ok_iff.mp hstart
  rw [ownText, joinedTexts] at htext
  rw [PendingCell.collect, hstart, htexts]
  cases hraws : allTexts false body with
  | nil =>
      rw [hraws] at htext
      cases htext
      exact ⟨_, rfl, rfl, fun shared => rfl⟩
  | cons raw raws =>
      rw [hraws] at htext
      obtain ⟨joined, hjoined, rfl⟩ := map_eq_ok_iff.mp htext
      obtain ⟨whole, hwhole, rfl⟩ := map_eq_ok_iff.mp hjoined
      have htake := PendingCell.foldlM_take_inline
        ⟨(reference? tag).getD ⟨row, column + 1⟩, typeName? tag, none, none⟩ raw raws
      rw [Option.getD_none, hwhole] at htake
      exact ⟨_, htake, rfl, fun shared => PendingCell.content?_own rfl rfl shared⟩

end Loaded

/-- **Runs are joined and then decoded.** Let a body without phonetic runs have runs with some
texts. In a table that can be read, an item with this body is its texts joined and then decoded as
a whole; a cell with the body in it stores the same, unless there is no piece of text in it at all.
This is what decoding the runs one by one gives as long as no escape reaches from one run into the
next; and where each run is an escaped form of some text, it is these texts, joined. -/
theorem runs_joined {body : Xml.Forest} {texts : List String} (hbody : ItemBody body)
    (hphonetic : body.elements TextElement.phonetic.names = [])
    (htexts : List.Forall₂ (fun run text => runText run = .ok text) (runs body) texts) :
    (itemText body = .ok (decodeEscapes (String.join texts)) ∧
      ∀ st table (i : Nat) (e : Xml.Element),
        Separate TextElement.item.names TextElement.item.names st →
        readSharedTexts st.document = .ok table → (tableItems st)[i]? = some e → e.body = body →
        table[i]? = some (decodeEscapes (String.join texts))) ∧
    (∀ (own tag : Xml.Tag) (row column : Nat) (started : PendingCell),
      SheetElement.of own.name = .inlineText →
      PendingCell.start row column tag = .ok started →
      ∃ c, PendingCell.collect row column false ⟨tag, some (.element own body .nil)⟩ = .ok c ∧
        c.address = started.address ∧ ∀ shared, c.content? shared
          = .ok ((loadedText body texts).map fun text => .literal (.text text))) ∧
    (AllContained (texts.map String.toList) →
      decodeEscapes (String.join texts) = String.join (texts.map decodeEscapes)) ∧
    ∀ originals, List.Forall₂ EscapedForm texts originals →
      decodeEscapes (String.join texts) = String.join originals := by
  have hitem := itemText_of_runs hbody hphonetic htexts
  refine ⟨⟨hitem, fun st table i e hst htable hget he => ?_⟩,
    fun own tag row column started hown hstart => ?_, decodeEscapes_join, fun originals h => ?_⟩
  · obtain ⟨text, htext, hread⟩ := getElem?_of_forall₂ (entries_readSharedTexts hst htable) hget
    rw [he, hitem] at hread
    cases hread
    rw [← Array.getElem?_toList]
    exact htext
  · exact collect_own hown hbody hstart (ownText_of_runs hbody htexts)
  · rw [decodeEscapes_join (allContained_of_forms h), map_decodeEscapes_of_forms h]

/-- A body with two runs. -/
def twoPieces (first second : String) : Xml.Forest :=
  ItemPiece.body [.run (some (Xml.asciiName first)), .run (some (Xml.asciiName second))]

/-- A text that looks like an escape, in two runs with their underscores escaped. -/
theorem runs_joined_forms : itemText (twoPieces "_x005F_x00" "41_x005F_") = .ok "_x0041_" := by
  have htexts : List.Forall₂ (fun run text => runText run = .ok text)
      (runs (twoPieces "_x005F_x00" "41_x005F_")) ["_x005F_x00", "41_x005F_"] :=
    .cons (by decide +kernel) (.cons (by decide +kernel) .nil)
  have hforms : List.Forall₂ EscapedForm ["_x005F_x00", "41_x005F_"] ["_x00", "41_"] :=
    .cons ⟨escapedAt [0], by decide, by decide⟩ (.cons ⟨escapedAt [2], by decide, by decide⟩ .nil)
  have hbody : ItemBody (twoPieces "_x005F_x00" "41_x005F_") := itemBody_pieces _
  obtain ⟨⟨hitem, -⟩, -, -, hjoin⟩ := runs_joined hbody (by decide +kernel) htexts
  rw [hitem, hjoin _ hforms]
  rfl

/-- **Elsewhere joining runs makes escapes**: no run here holds one, and decoded one by one they
stay as they are, but both readers read a single character. -/
theorem runs_divided :
    List.Forall₂ (fun run text => runText run = .ok text) (runs (twoPieces "_x00" "41_"))
        ["_x00", "41_"] ∧
      String.join (["_x00", "41_"].map decodeEscapes) = "_x0041_" ∧
      readSharedTexts (itemPart (twoPieces "_x00" "41_")).document = .ok #["A"] ∧
      onlyContent? #[] (ownCell (twoPieces "_x00" "41_")) = some (some (.literal (.text "A"))) := by
  refine ⟨.cons ?_ (.cons ?_ .nil), ?_, ?_, ?_⟩
  · decide +kernel
  · decide +kernel
  · decide +kernel
  · decide +kernel
  · decide +kernel

end SheetInspector.Xlsx
