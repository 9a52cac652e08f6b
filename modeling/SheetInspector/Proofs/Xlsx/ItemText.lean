import SheetInspector.Proofs.Xlsx.Reading
import SheetInspector.Xlsx.SharedText

set_option autoImplicit false

/-! # The text of a shared item

Within an item two flags say whether a text and whether a phonetic run has begun. They depend on
the tags alone, so the pieces of the item's text can be told without reading any
(`RunScope.pieces`), and the text of the item is these pieces joined, with the escapes in the whole
replaced (`itemText`). Where no text stands in a text and no phonetic run in one, the pieces are
those in a text that is not part of a phonetic run (`RunScope.pieces_events`).
-/

namespace SheetInspector.Xlsx

/-- Whether a name is that of a certain element. -/
def TextElement.names (k : TextElement) (name : Bytes) : Bool := TextElement.of name = k

theorem TextElement.names_iff {k : TextElement} {name : Bytes} :
    k.names name = true ↔ TextElement.of name = k := decide_eq_true_iff

theorem TextElement.names_eq_false_iff {k : TextElement} {name : Bytes} :
    k.names name = false ↔ TextElement.of name ≠ k := decide_eq_false_iff_not

/-- Which elements of an item have begun. -/
structure RunScope where
  text : Bool
  phonetic : Bool
  deriving DecidableEq, Repr

namespace RunScope

/-- The scope in which an item begins. -/
def start : RunScope := ⟨false, false⟩

/-- The scope behind an event within an item. -/
def after (o : RunScope) : Xml.Event → RunScope
  | .start tag =>
    match TextElement.of tag.name with
    | .text => { o with text := !o.phonetic || o.text }
    | .phonetic => { o with phonetic := true }
    | _ => o
  | .finish name =>
    match TextElement.of name with
    | .text => { o with text := false }
    | .phonetic => { o with phonetic := false }
    | _ => o
  | _ => o

/-- The piece of text that an event in a scope contributes. -/
def piece? (o : RunScope) : Xml.Event → Option Bytes
  | .text raw => if o.text then some raw else none
  | _ => none

/-- The pieces of text among some events, in their order. -/
def pieces (o : RunScope) : List Xml.Event → List Bytes
  | [] => []
  | e :: es => (o.piece? e).toList ++ (o.after e).pieces es

theorem pieces_append (o : RunScope) (es fs : List Xml.Event) :
    o.pieces (es ++ fs) = o.pieces es ++ (es.foldl after o).pieces fs := by
  induction es generalizing o with
  | nil => rfl
  | cons e es ih => rw [List.cons_append, pieces, pieces, ih, List.append_assoc, List.foldl_cons]

/-- Whether an element is open, for those that a scope keeps account of. -/
def flag : TextElement → RunScope → Bool
  | .text, o => o.text
  | .phonetic, o => o.phonetic
  | _, _ => false

/-- No other element moves the flag of one. -/
theorem flag_after {k : TextElement} {e : Xml.Event} (he : e.Apart k.names) (o : RunScope) :
    flag k (o.after e) = flag k o := by
  have hother {name : Bytes} (hname : e.name? = some name) : TextElement.of name ≠ k :=
    TextElement.names_eq_false_iff.mp (he name hname)
  cases e with
  | start tag =>
      have hk := hother rfl
      rw [after]
      cases htag : TextElement.of tag.name <;> cases k <;> first | rfl | exact absurd htag hk
  | finish name =>
      have hk := hother rfl
      rw [after]
      cases hname : TextElement.of name <;> cases k <;> first | rfl | exact absurd hname hk
  | empty tag => rfl
  | text raw => rfl
  | aside => rfl

/-- Behind an element that is closed its flag is down. -/
theorem latch (k : TextElement) : Xml.Latch after k.names (flag k) where
  ends := by
    intro o name hname
    rw [after, TextElement.names_iff.mp hname]
    cases k <;> rfl
  single := fun _ _ _ ho => ho
  apart := fun o _ he ho => (flag_after he o).trans ho

/-- Behind the nodes of an item no flag is up. -/
theorem foldl_after_start (f : Xml.Forest) : f.events.foldl after start = start := by
  have htext := (latch .text).foldl_events f (s := start) rfl
  have hphonetic := (latch .phonetic).foldl_events f (s := start) rfl
  rw [start, mk.injEq]
  exact ⟨htext, hphonetic⟩

/-! ## Pieces by where they stand -/

/-- The texts that stand in a text that is not part of a phonetic run, where a text or a phonetic
run may have begun around the nodes. -/
def runTexts (inText inPhonetic : Bool) : Xml.Forest → List Bytes
  | .nil => []
  | .element tag inside rest =>
    (match TextElement.of tag.name with
      | .text => runTexts (!inPhonetic || inText) inPhonetic inside
      | .phonetic => runTexts inText true inside
      | _ => runTexts inText inPhonetic inside) ++ runTexts inText inPhonetic rest
  | .empty _ rest => runTexts inText inPhonetic rest
  | .text raw rest => (if inText then [raw] else []) ++ runTexts inText inPhonetic rest
  | .aside rest => runTexts inText inPhonetic rest

/-- Whether no text stands in a text and no phonetic run in one, the open ones included. -/
structure Plain (o : RunScope) (f : Xml.Forest) : Prop where
  text : Unnested TextElement.text.names o.text f
  phonetic : Unnested TextElement.phonetic.names o.phonetic f

/-- Within a plain element the scope is plain, and behind it the scope is what it was. -/
theorem Plain.inside {o : RunScope} {tag : Xml.Tag} {f g : Xml.Forest}
    (h : o.Plain (.element tag f g)) :
    (o.after (.start tag)).Plain f ∧ (o.after (.start tag)).after (.finish tag.name) = o := by
  obtain ⟨htext, hphonetic⟩ := h
  obtain ⟨text, phonetic⟩ := o
  cases hkind : TextElement.of tag.name with
  | text =>
      have hname : TextElement.text.names tag.name = true := TextElement.names_iff.mpr hkind
      obtain rfl : text = false := htext.not_opened hname
      simp only [after, hkind]
      exact ⟨⟨(htext.inside_of_true hname).of_opened, hphonetic.inside_of_false⟩, trivial⟩
  | phonetic =>
      have hname : TextElement.phonetic.names tag.name = true := TextElement.names_iff.mpr hkind
      obtain rfl : phonetic = false := hphonetic.not_opened hname
      simp only [after, hkind]
      exact ⟨⟨htext.inside_of_false, hphonetic.inside_of_true hname⟩, trivial⟩
  | item =>
      simp only [after, hkind]
      exact ⟨⟨htext.inside_of_false, hphonetic.inside_of_false⟩, trivial⟩
  | other =>
      simp only [after, hkind]
      exact ⟨⟨htext.inside_of_false, hphonetic.inside_of_false⟩, trivial⟩

theorem runTexts_inside (o : RunScope) (tag : Xml.Tag) (f : Xml.Forest) :
    (match TextElement.of tag.name with
      | .text => runTexts (!o.phonetic || o.text) o.phonetic f
      | .phonetic => runTexts o.text true f
      | _ => runTexts o.text o.phonetic f)
      = runTexts (o.after (.start tag)).text (o.after (.start tag)).phonetic f := by
  rw [after]
  cases TextElement.of tag.name with
  | text => rfl
  | phonetic => rfl
  | item => rfl
  | other => rfl

/-- **The pieces of a plain item are told by where they stand.** -/
theorem pieces_events {f : Xml.Forest} {o : RunScope} (h : o.Plain f) :
    o.pieces f.events = runTexts o.text o.phonetic f ∧ f.events.foldl after o = o := by
  -- both at once: the pieces behind an element depend on the scope that it leaves
  induction f generalizing o with
  | nil => exact ⟨rfl, rfl⟩
  | element tag inside rest ihInside ihRest =>
      obtain ⟨hplain, hbehind⟩ := h.inside
      obtain ⟨hpieces, hscope⟩ := ihInside hplain
      obtain ⟨hrest, hend⟩ := ihRest ⟨h.text.rest, h.phonetic.rest⟩
      constructor
      · rw [Xml.Forest.events, pieces, pieces_append, pieces, hscope, hbehind, hpieces, hrest,
          runTexts, runTexts_inside]
        rfl
      · rw [Xml.Forest.events, List.foldl_cons, List.foldl_append, List.foldl_cons, hscope,
          hbehind, hend]
  | empty tag rest ih => exact ih ⟨h.text.rest_of_empty, h.phonetic.rest_of_empty⟩
  | text raw rest ih =>
      obtain ⟨hrest, hend⟩ := ih ⟨⟨h.text.separate, h.text.none⟩,
        ⟨h.phonetic.separate, h.phonetic.none⟩⟩
      refine ⟨?_, hend⟩
      have hafter : o.after (.text raw) = o := rfl
      rw [Xml.Forest.events, pieces, hafter, hrest, runTexts, piece?]
      cases o.text <;> rfl
  | aside rest ih =>
      exact ih ⟨⟨h.text.separate, h.text.none⟩, ⟨h.phonetic.separate, h.phonetic.none⟩⟩

end RunScope

/-! ## Reading an item -/

/-- The joined text with one more piece. -/
def joinPiece (text : String) (raw : Bytes) : Except Fault String :=
  (unescape raw).map fun piece => text ++ piece

/-- The text of an item, by what stands in it. -/
def itemText (f : Xml.Forest) : Except Fault String :=
  ((RunScope.start.pieces f.events).foldlM joinPiece "").map decodeEscapes

/-- The text of a plain item is that of its texts outside of phonetic runs. -/
theorem itemText_of_plain {f : Xml.Forest}
    (htext : Separate TextElement.text.names TextElement.text.names f)
    (hphonetic : Separate TextElement.phonetic.names TextElement.phonetic.names f) :
    itemText f = ((RunScope.runTexts false false f).foldlM joinPiece "").map decodeEscapes := by
  have hplain : RunScope.start.Plain f :=
    ⟨⟨htext, fun h => by cases h⟩, ⟨hphonetic, fun h => by cases h⟩⟩
  rw [itemText, (RunScope.pieces_events hplain).1]
  rfl

/-- The state within an item. -/
def TextScan.within (s : TextScan) (o : RunScope) (text : String) : TextScan :=
  { s with current := text, inItem := true, inText := o.text, inPhonetic := o.phonetic }

theorem step_within_item (s : TextScan) (o : RunScope) (text : String) {e : Xml.Event}
    (he : e.Apart TextElement.item.names) :
    (s.within o text).step e
      = ((o.piece? e).toList.foldlM joinPiece text).map (s.within (o.after e)) := by
  have hother {name : Bytes} (hname : e.name? = some name) : TextElement.of name ≠ .item :=
    TextElement.names_eq_false_iff.mp (he name hname)
  cases e with
  | start tag =>
      have hitem := hother rfl
      show (s.within o text).step (.start tag) = .ok (s.within (o.after (.start tag)) text)
      rw [TextScan.step, RunScope.after]
      cases hk : TextElement.of tag.name with
      | item => exact absurd hk hitem
      | phonetic => rfl
      | text => rfl
      | other => rfl
  | empty tag => rfl
  | finish name =>
      have hitem := hother rfl
      show (s.within o text).step (.finish name) = .ok (s.within (o.after (.finish name)) text)
      rw [TextScan.step, RunScope.after]
      cases hk : TextElement.of name with
      | item => exact absurd hk hitem
      | phonetic => rfl
      | text => rfl
      | other => rfl
  | text raw =>
      obtain ⟨inText, inPhonetic⟩ := o
      cases inText with
      | true =>
          have hpiece :
              (RunScope.piece? ⟨true, inPhonetic⟩ (.text raw)).toList.foldlM joinPiece text
                = joinPiece text raw := bind_pure _
          rw [hpiece, joinPiece, map_map]
          rfl
      | false => rfl
  | aside => rfl

/-- **Reading what stands in an item is joining its pieces.** -/
theorem foldlM_step_within_item (s : TextScan) (o : RunScope) (text : String)
    {es : List Xml.Event} (hes : ∀ e ∈ es, e.Apart TextElement.item.names) :
    es.foldlM TextScan.step (s.within o text)
      = ((o.pieces es).foldlM joinPiece text).map (s.within (es.foldl RunScope.after o)) := by
  induction es generalizing o text with
  | nil => rfl
  | cons e es ih =>
      obtain ⟨he, hes⟩ := List.forall_mem_cons.mp hes
      rw [List.foldlM_cons, step_within_item s o text he, RunScope.pieces, List.foldlM_append,
        List.foldl_cons]
      cases (o.piece? e).toList.foldlM joinPiece text with
      | error fault => rfl
      | ok text' => exact ih (o.after e) text' hes

end SheetInspector.Xlsx
