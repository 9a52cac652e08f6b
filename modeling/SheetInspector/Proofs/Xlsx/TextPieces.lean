import SheetInspector.Proofs.Xlsx.EndedCells
import SheetInspector.Proofs.Xlsx.ItemText
import SheetInspector.Proofs.Xml.Unescape
import SheetInspector.Proofs.Xml.Written

set_option autoImplicit false

/-! # Texts that come in pieces

A comment or a processing instruction divides the text that it stands in, so the text of a value, of
a formula or of a cell's own may come in several pieces. Of these the texts of a cell's own are
joined, while a piece of a value or of a formula takes the place of what came before it.
`endedTexts` lists, whatever events a part has, the cells that it ends together with the pieces
that count in them, and `pieces_of_readSheetPart` says which pieces each cell is made of, when
this is all of them, and what a comment in a text does to the sheet that is read.
-/

namespace SheetInspector.Xlsx

/-! ## The pieces that are kept -/

/-- The pieces that the value of a cell is made of, once one more text counts in it. -/
def keepValue (kept : List Bytes) : CellText → List Bytes
  | (.value, raw) => [raw]
  | (.inline, raw) => kept ++ [raw]
  | (.formula, _) => kept

/-- The pieces that the formula of a cell is made of, once one more text counts in it. -/
def keepFormula (kept : List Bytes) : CellText → List Bytes
  | (.formula, raw) => [raw]
  | _ => kept

/-- The pieces that the value of a cell is made of. -/
def valuePieces (texts : List CellText) : List Bytes := texts.foldl keepValue []

/-- The pieces that the formula of a cell is made of. -/
def formulaPieces (texts : List CellText) : List Bytes := texts.foldl keepFormula []

/-- Some pieces joined; nothing if there are none. -/
def joinPieces (raws : List Bytes) : Except Fault (Option String) :=
  match raws with
  | [] => .ok none
  | raw :: raws => ((raw :: raws).foldlM joinPiece "").map some

theorem joinPieces_singleton {raw : Bytes} {text : String} (h : unescape raw = .ok text) :
    joinPieces [raw] = .ok (some text) := by
  rw [joinPieces, List.foldlM_cons, joinPiece, h]
  exact congrArg (fun t => Except.ok (some t)) String.empty_append

/-- One more piece is joined to what there is, which is the empty text if there is nothing. -/
theorem joinPieces_concat {raws : List Bytes} {joined : Option String} {raw : Bytes}
    {text : String} (hraws : joinPieces raws = .ok joined) (h : unescape raw = .ok text) :
    joinPieces (raws ++ [raw]) = .ok (some (joined.getD "" ++ text)) := by
  cases raws with
  | nil =>
      cases hraws
      rw [List.nil_append, joinPieces_singleton h]
      exact congrArg (fun t => Except.ok (some t)) String.empty_append.symm
  | cons first raws =>
      obtain ⟨whole, hwhole, rfl⟩ := map_eq_ok_iff.mp hraws
      rw [List.cons_append, joinPieces, ← List.cons_append, List.foldlM_append, hwhole]
      show ([raw].foldlM joinPiece whole).map some = _
      rw [List.foldlM_cons, joinPiece, h]
      rfl

/-- Whether the value and the formula of a cell are made of certain texts. -/
structure PendingCell.MadeOf (c : PendingCell) (texts : List CellText) : Prop where
  value : joinPieces (valuePieces texts) = .ok c.value
  formula : joinPieces (formulaPieces texts) = .ok c.formula

/-- **A text that is taken in is one of those that the cell is made of.** -/
theorem PendingCell.MadeOf.take {c c' : PendingCell} {texts : List CellText} {text : CellText}
    (hc : c.MadeOf texts) (h : c.take text = .ok c') : c'.MadeOf (texts ++ [text]) := by
  obtain ⟨role, raw⟩ := text
  rw [PendingCell.take, map_eq_ok_iff] at h
  obtain ⟨s, hs, rfl⟩ := h
  have hvalue : valuePieces (texts ++ [(role, raw)]) = keepValue (valuePieces texts) (role, raw) :=
    List.foldl_concat ..
  have hformula :
      formulaPieces (texts ++ [(role, raw)]) = keepFormula (formulaPieces texts) (role, raw) :=
    List.foldl_concat ..
  constructor
  · rw [hvalue]
    cases role with
    | value => exact joinPieces_singleton hs
    | formula => exact hc.value
    | inline => exact joinPieces_concat hc.value hs
  · rw [hformula]
    cases role with
    | value => exact hc.formula
    | formula => exact joinPieces_singleton hs
    | inline => exact hc.formula

/-! ### When all pieces are kept -/

/-- The texts that are not those of a formula. -/
def ofValue (texts : List CellText) : List CellText := texts.filter fun text => text.1 ≠ .formula

/-- The texts of a formula. -/
def ofFormula (texts : List CellText) : List CellText := texts.filter fun text => text.1 = .formula

/-- The texts of a formula are of no account for the value. -/
theorem foldl_keepValue_ofValue (kept : List Bytes) (texts : List CellText) :
    texts.foldl keepValue kept = (ofValue texts).foldl keepValue kept := by
  induction texts generalizing kept with
  | nil => rfl
  | cons text texts ih =>
      obtain ⟨role, raw⟩ := text
      cases role with
      | value => exact ih _
      | formula => exact ih _
      | inline => exact ih _

theorem foldl_keepValue_of_inline {texts : List CellText} (h : ∀ text ∈ texts, text.1 = .inline)
    (kept : List Bytes) : texts.foldl keepValue kept = kept ++ texts.map Prod.snd := by
  induction texts generalizing kept with
  | nil => exact (List.append_nil _).symm
  | cons text texts ih =>
      obtain ⟨hfirst, hrest⟩ := List.forall_mem_cons.mp h
      obtain ⟨role, raw⟩ := text
      obtain rfl : role = .inline := hfirst
      show texts.foldl keepValue (kept ++ [raw]) = _
      rw [ih hrest, List.append_assoc, List.map_cons, List.singleton_append]

theorem length_foldl_keepValue (kept : List Bytes) (texts : List CellText) :
    (texts.foldl keepValue kept).length ≤ kept.length + texts.length := by
  induction texts generalizing kept with
  | nil => exact Nat.le_refl _
  | cons text texts ih =>
      have hstep := ih (keepValue kept text)
      have hlength : (keepValue kept text).length ≤ kept.length + 1 := by
        obtain ⟨role, raw⟩ := text
        cases role <;> simp [keepValue]
      rw [List.foldl_cons, List.length_cons]
      omega

/-- A text of a value loses what there is. -/
theorem length_foldl_keepValue_lt {kept : List Bytes} {texts : List CellText} (hkept : kept ≠ [])
    (h : ∃ text ∈ texts, text.1 = .value) :
    (texts.foldl keepValue kept).length < kept.length + texts.length := by
  obtain ⟨⟨role, raw⟩, hmem, hrole⟩ := h
  obtain rfl : role = .value := hrole
  obtain ⟨before, behind, rfl⟩ := List.append_of_mem hmem
  have hlength := length_foldl_keepValue [raw] behind
  have hpositive : 0 < kept.length := List.length_pos_of_ne_nil hkept
  rw [List.foldl_append, List.foldl_cons, keepValue, List.length_append, List.length_cons]
  rw [List.length_singleton] at hlength
  omega

/-- **All pieces of a value are kept exactly if no text of a value comes behind another.** -/
theorem valuePieces_eq_all_iff (texts : List CellText) :
    valuePieces texts = (ofValue texts).map Prod.snd ↔
      ∀ text ∈ (ofValue texts).tail, text.1 ≠ .value := by
  have hrole (text : CellText) (h : text ∈ ofValue texts) : text.1 ≠ .formula := by
    simpa using (List.mem_filter.mp h).2
  rw [valuePieces, foldl_keepValue_ofValue]
  cases hall : ofValue texts with
  | nil => simp
  | cons first rest =>
      rw [hall] at hrole
      have hfirst : keepValue [] first = [first.2] := by
        have hformula := hrole first List.mem_cons_self
        obtain ⟨role, raw⟩ := first
        cases role with
        | formula => exact absurd rfl hformula
        | _ => rfl
      rw [List.foldl_cons, hfirst, List.tail_cons]
      constructor
      · intro h text hmem hvalue
        have hlost := length_foldl_keepValue_lt (List.cons_ne_nil first.2 []) ⟨text, hmem, hvalue⟩
        rw [h] at hlost
        simp at hlost
        omega
      · intro h
        have hinline (text : CellText) (hmem : text ∈ rest) : text.1 = .inline := by
          have hvalue := h text hmem
          have hformula := hrole text (List.mem_cons_of_mem _ hmem)
          cases hkind : text.1 with
          | value => exact absurd hkind hvalue
          | formula => exact absurd hkind hformula
          | inline => rfl
        rw [foldl_keepValue_of_inline hinline]
        rfl

/-- **Of a formula the last piece is kept.** -/
theorem formulaPieces_eq (texts : List CellText) :
    formulaPieces texts = ((ofFormula texts).map Prod.snd).getLast?.toList := by
  induction texts using List.reverseRecOn with
  | nil => rfl
  | append_singleton texts text ih =>
      obtain ⟨role, raw⟩ := text
      have hlast : formulaPieces (texts ++ [(role, raw)])
          = keepFormula (formulaPieces texts) (role, raw) := List.foldl_concat ..
      rw [hlast, ofFormula, List.filter_append]
      cases role with
      | formula => simp [keepFormula]
      | value => simpa [keepFormula, ofFormula] using ih
      | inline => simpa [keepFormula, ofFormula] using ih

/-! ## The pieces of the cells that end -/

/-- A cell that begins is made of nothing. -/
theorem PendingCell.madeOf_start {row column : Nat} {tag : Xml.Tag} {c : PendingCell}
    (h : start row column tag = .ok c) : c.MadeOf [] := by
  obtain ⟨-, -, rfl⟩ := start_eq_ok_iff.mp h
  exact ⟨rfl, rfl⟩

namespace SheetScan

/-- Whether an event is the start tag of a cell. -/
def beginsCell : Xml.Event → Bool
  | .start tag => SheetElement.cell.names tag.name
  | _ => false

/-- The texts that count since the last start tag of a cell, behind an event. -/
def counted (s : SheetScan) (texts : List CellText) (e : Xml.Event) : List CellText :=
  if beginsCell e then [] else texts ++ (s.scope.text? e).toList

/-- The texts that count in the cell that an event ends. A single tag holds none. -/
def heldTexts (texts : List CellText) : Xml.Event → List CellText
  | .finish _ => texts
  | _ => []

/-- The cell that an event ends, together with the texts that count in it. -/
def endedWith? (s : SheetScan) (texts : List CellText) (e : Xml.Event) :
    Option (PendingCell × List CellText) :=
  (s.ended? e).map fun c => (c, heldTexts texts e)

/-- The cells that events end, together with the texts that count in them, where some have counted
since the last start tag of a cell. -/
def endedWith (shared : Array String) (s : SheetScan) (texts : List CellText) :
    List Xml.Event → List (PendingCell × List CellText)
  | [] => []
  | e :: es => (s.endedWith? texts e).toList ++
      (s.step shared e).toOption.elim [] fun s' => s'.endedWith shared (s.counted texts e) es

variable {shared : Array String} {s s' : SheetScan} {texts : List CellText}

theorem map_fst_endedWith (es : List Xml.Event) :
    (s.endedWith shared texts es).map Prod.fst = s.ended shared es := by
  induction es generalizing s texts with
  | nil => rfl
  | cons e es ih =>
      have hfirst : ((s.endedWith? texts e).toList).map Prod.fst = (s.ended? e).toList := by
        rw [endedWith?]
        cases s.ended? e <;> rfl
      rw [endedWith, ended, List.map_append, hfirst]
      cases (s.step shared e).toOption with
      | none => rfl
      | some s' => exact congrArg (_ ++ ·) ih

/-- Whether the cell that is pending, if there is one, is made of certain texts. -/
def PendingMadeOf (s : SheetScan) (texts : List CellText) : Prop :=
  ∀ c, s.pending = some c → c.MadeOf texts

/-- Where the pending cell stays what it is, no text counts. -/
theorem PendingMadeOf.of_same (hs : s.PendingMadeOf texts) {e : Xml.Event}
    (hbegins : beginsCell e = false) (htext : s.scope.text? e = none)
    (hpending : s'.pending = s.pending) : s'.PendingMadeOf (s.counted texts e) := by
  intro c hc
  rw [counted, hbegins, htext]
  simpa using hs c (hpending ▸ hc)

/-- **An event keeps the account of what the pending cell is made of.** -/
theorem PendingMadeOf.step (hs : s.PendingMadeOf texts) {e : Xml.Event}
    (h : s.step shared e = .ok s') : s'.PendingMadeOf (s.counted texts e) := by
  cases moves_of_step h with
  | @row _ tag _ he hkind _ hs' =>
      have hother : SheetElement.cell.names tag.name = false :=
        SheetElement.names_eq_false_iff.mpr (by simp [hkind])
      subst hs'
      rcases he with rfl | rfl
      · exact hs.of_same hother rfl rfl
      · exact hs.of_same rfl rfl rfl
  | @begins tag c hkind hstart hs' =>
      have hbegins : beginsCell (.start tag) = true := SheetElement.names_iff.mpr hkind
      subst hs'
      intro c' hc'
      cases hc'
      rw [counted, if_pos hbegins]
      exact PendingCell.madeOf_start hstart
  | single _ _ _ hs' =>
      subst hs'
      exact hs.of_same rfl rfl rfl
  | ends _ _ _ hs' =>
      subst hs'
      intro c hc
      cases hc
  | @takes raw role c c' hpending hrole htake hs' =>
      have htext : s.scope.text? (.text raw) = some (role, raw) := by
        rw [Scope.text?, hrole]
        rfl
      subst hs'
      intro c'' hc''
      cases hc''
      rw [counted, htext]
      exact (hs c hpending).take htake
  | @skips raw hskipped hs' =>
      subst hs'
      rcases hskipped with hpending | hrole
      · intro c hc
        cases hpending.symm.trans hc
      · exact hs.of_same rfl (by rw [Scope.text?, hrole]; rfl) rfl
  | closes _ hs' =>
      subst hs'
      exact hs.of_same rfl rfl rfl
  | passes he htext hs' =>
      have hbegins : beginsCell e = false := by
        cases e with
        | start tag =>
            exact SheetElement.names_eq_false_iff.mpr
              (rowOrCell_eq_false_iff.mp (he tag.name rfl)).2
        | _ => rfl
      have hnone : s.scope.text? e = none := by
        cases e with
        | text raw => exact absurd rfl (htext raw)
        | _ => rfl
      exact hs.of_same hbegins hnone hs'.pending

theorem PendingMadeOf.endedWith? (hs : s.PendingMadeOf texts) {e : Xml.Event}
    {x : PendingCell × List CellText} (h : s.endedWith? texts e = some x) :
    x.1.MadeOf x.2 := by
  obtain ⟨c, hc, rfl⟩ := Option.map_eq_some_iff.mp h
  cases e with
  | empty tag =>
      obtain ⟨-, hstart⟩ := Option.ite_none_right_eq_some.mp hc
      exact PendingCell.madeOf_start (toOption_eq_some_iff.mp hstart)
  | finish name =>
      obtain ⟨-, hpending⟩ := Option.ite_none_right_eq_some.mp hc
      exact hs c hpending
  | start tag => cases hc
  | text raw => cases hc
  | aside => cases hc

/-- **Every cell that events end is made of the texts that count in it.** -/
theorem PendingMadeOf.endedWith (hs : s.PendingMadeOf texts) {es : List Xml.Event}
    {x : PendingCell × List CellText} (h : x ∈ s.endedWith shared texts es) :
    x.1.MadeOf x.2 := by
  induction es generalizing s texts with
  | nil => cases h
  | cons e es ih =>
      rw [SheetScan.endedWith, List.mem_append] at h
      rcases h with hfirst | hrest
      · exact hs.endedWith? (Option.mem_toList.mp hfirst)
      · cases hstep : s.step shared e with
        | error fault =>
            rw [hstep] at hrest
            cases hrest
        | ok s' =>
            rw [hstep] at hrest
            exact ih (hs.step hstep) hrest

end SheetScan

/-- The cells that a part ends, together with the texts that count in them. -/
def endedTexts (shared : Array String) (name : String) (d : Xml.Document) :
    List (PendingCell × List CellText) :=
  (SheetScan.initial (Sheet.new name)).endedWith shared [] d.events

/-! ## Comments in texts -/

theorem unescape_append {a b : Bytes} {s t : String} (ha : unescape a = .ok s)
    (hb : unescape b = .ok t) : unescape (a ++ b) = .ok (s ++ t) :=
  mapError_eq_ok_iff.mpr
    (Xml.unescape_append (mapError_eq_ok_iff.mp ha) (mapError_eq_ok_iff.mp hb))

namespace SheetScan

variable {shared : Array String} {s : SheetScan} {a b : Bytes} {t u : String}

/-- Whether a text takes the place of what came before it. -/
def replaces (s : SheetScan) : Bool := s.pending.isSome && (s.inValue || s.inFormula)

/-- **Elsewhere than in a value or a formula the pieces of a text count as the text.** -/
theorem readText_pieces (hs : s.replaces = false) (ha : unescape a = .ok t)
    (hb : unescape b = .ok u) :
    (s.readText a >>= fun s' => s'.readText b) = s.readText (a ++ b) := by
  have hab := unescape_append ha hb
  obtain ⟨sheet, row, column, pending, inValue, inFormula, inInline, inInlineText⟩ := s
  cases pending with
  | none => rfl
  | some c =>
      obtain ⟨rfl, rfl⟩ : inValue = false ∧ inFormula = false := by
        simpa [replaces] using hs
      cases inInlineText with
      | false => rfl
      | true =>
          simp only [readText, Bool.false_eq_true, if_false, if_true, ha, hab, Except.map]
          show Except.map _ (unescape b) = _
          rw [hb]
          simp [Except.map, String.append_assoc]

/-- **In a value or a formula only the last piece counts.** -/
theorem readText_replaced (hs : s.replaces = true) (ha : unescape a = .ok t) :
    (s.readText a >>= fun s' => s'.readText b) = s.readText b := by
  obtain ⟨sheet, row, column, pending, inValue, inFormula, inInline, inInlineText⟩ := s
  cases pending with
  | none => cases hs
  | some c =>
      cases inValue with
      | true =>
          simp only [readText, if_true, ha, Except.map]
          rfl
      | false =>
          obtain rfl : inFormula = true := by simpa [replaces] using hs
          simp only [readText, Bool.false_eq_true, if_false, if_true, ha, Except.map]
          rfl

/-- Asides are passed over. -/
theorem foldlM_step_filter (es : List Xml.Event) :
    (es.filter (· ≠ .aside)).foldlM (step shared) s = es.foldlM (step shared) s := by
  induction es generalizing s with
  | nil => rfl
  | cons e es ih =>
      by_cases he : e = .aside
      · rw [he, List.filter_cons_of_neg (by simp), ih, List.foldlM_cons]
        rfl
      · rw [List.filter_cons_of_pos (by simpa using he), List.foldlM_cons, List.foldlM_cons]
        exact bind_congr_ok fun s' _ => ih

/-- Two ways to go on from wherever some events lead. -/
theorem foldlM_append_congr {before es fs : List Xml.Event}
    (h : ∀ s', before.foldlM (step shared) s = .ok s' →
      es.foldlM (step shared) s' = fs.foldlM (step shared) s') :
    (before ++ es).foldlM (step shared) s = (before ++ fs).foldlM (step shared) s := by
  rw [List.foldlM_append, List.foldlM_append]
  exact bind_congr_ok h

end SheetScan

/-- Whether a text behind some events of a part takes the place of what came before it. -/
def replacesBehind (shared : Array String) (name : String) (before : List Xml.Event) : Bool :=
  (before.foldlM (SheetScan.step shared) (.initial (Sheet.new name))).toOption.elim false
    SheetScan.replaces

/-- Parts whose events lead to the same read as the same sheet. -/
theorem readSheetPart_congr {shared : Array String} {name : String} {es fs : List Xml.Event}
    (h : es.foldlM (SheetScan.step shared) (.initial (Sheet.new name))
      = fs.foldlM (SheetScan.step shared) (.initial (Sheet.new name)))
    (fault : Option Xml.Fault) :
    readSheetPart shared name ⟨es, fault⟩ = readSheetPart shared name ⟨fs, fault⟩ := by
  simp only [readSheetPart, readDocument, h]

/-- **What a comment in a text does.** -/
theorem readSheetPart_commented {shared : Array String} {name : String} {a b : Bytes}
    {t u : String} (ha : unescape a = .ok t) (hb : unescape b = .ok u)
    (before behind : List Xml.Event) (fault : Option Xml.Fault) :
    readSheetPart shared name ⟨before ++ .text a :: .aside :: .text b :: behind, fault⟩ =
      readSheetPart shared name
        ⟨before ++ .text (if replacesBehind shared name before then b else a ++ b) :: behind,
          fault⟩ := by
  refine readSheetPart_congr (SheetScan.foldlM_append_congr fun s hs => ?_) fault
  have hreplaces : replacesBehind shared name before = s.replaces := by
    rw [replacesBehind, hs]
    rfl
  -- the two pieces are read as one text
  have hpieces : (s.readText a >>= fun s' => s'.readText b)
      = s.readText (if s.replaces then b else a ++ b) := by
    cases hkind : s.replaces with
    | true => exact SheetScan.readText_replaced hkind ha
    | false => exact SheetScan.readText_pieces hkind ha hb
  rw [hreplaces, List.foldlM_cons, List.foldlM_cons]
  show (s.readText a >>= fun s' => s'.readText b >>= fun s' =>
    behind.foldlM (SheetScan.step shared) s') = s.readText _ >>= _
  rw [← hpieces, bind_assoc]

/-- **Which pieces of its texts a cell is made of.** Whatever events a part has, each of the cells
that it ends is made of the texts that count in it: its value of the last piece of a value and the
pieces of the cell's own texts behind it, its formula of the last piece of a formula. So of texts of
its own all pieces are kept, joined in order, and of a value or a formula all are kept exactly if
there is just one. Comments and the like between texts are of no account. One that stands in a text
makes two pieces of it, with an aside between them, and the part then reads as with the whole text,
or, in a value or a formula, as with only what is behind the comment. -/
theorem pieces_of_readSheetPart (shared : Array String) (name : String) :
    (∀ d, (endedTexts shared name d).map Prod.fst = endedCells shared name d ∧
      (∀ x ∈ endedTexts shared name d, x.1.MadeOf x.2) ∧
      ∀ s, readSheetPart shared name d = .ok s →
        StoresCells shared (Sheet.new name) (endedCells shared name d) s) ∧
    (∀ texts, (valuePieces texts = (ofValue texts).map Prod.snd ↔
        ∀ text ∈ (ofValue texts).tail, text.1 ≠ .value) ∧
      formulaPieces texts = ((ofFormula texts).map Prod.snd).getLast?.toList) ∧
    (∀ es fault, readSheetPart shared name ⟨es.filter (· ≠ .aside), fault⟩
      = readSheetPart shared name ⟨es, fault⟩) ∧
    ∀ a b t u, unescape a = .ok t → unescape b = .ok u →
      (∀ supply done opened body rest, a ≠ [] ∧ 60 ∉ a → b ≠ [] ∧ 60 ∉ b →
        Xml.CommentBody body →
        Xml.scanFrom supply done opened (a ++ (Xml.comment body ++ (b ++ 60 :: rest)))
          = Xml.scanFrom supply (.text b :: .aside :: .text a :: done) opened (60 :: rest)) ∧
      ∀ before behind fault,
        readSheetPart shared name ⟨before ++ .text a :: .aside :: .text b :: behind, fault⟩ =
          readSheetPart shared name
            ⟨before ++ .text (if replacesBehind shared name before then b else a ++ b) :: behind,
              fault⟩ := by
  refine ⟨fun d => ⟨?_, fun x hx => ?_, fun s hs => ?_⟩, fun texts => ⟨?_, ?_⟩,
    fun es fault => ?_, fun a b t u ha hb => ⟨?_, ?_⟩⟩
  · exact SheetScan.map_fst_endedWith d.events
  · have hstart : (SheetScan.initial (Sheet.new name)).PendingMadeOf [] := by
      intro c hc
      cases hc
    exact hstart.endedWith hx
  · exact storesCells_readSheetPart hs
  · exact valuePieces_eq_all_iff texts
  · exact formulaPieces_eq texts
  · exact readSheetPart_congr (SheetScan.foldlM_step_filter es) fault
  · intro supply done opened body rest ha hb hbody
    exact Xml.scanFrom_commented ha hb hbody rest
  · exact readSheetPart_commented ha hb

/-- The sheet of a part with a single cell, as far as the address of the cell goes. -/
def writtenContent? (part : String) : Option (Option Content) :=
  (readSheetPart #[] "S" (Xml.scan [Xml.asciiName part] none)).toOption.map fun s =>
    s.content? ⟨1, 1⟩

/-- The tags in front of the text of a cell's own. -/
def ownTextFront : List Xml.Event :=
  ["row", "c", "is", "t"].map fun name => .start ⟨Xml.asciiName name, []⟩

/-- The tags behind it. -/
def ownTextBehind : List Xml.Event :=
  ["t", "is", "c", "row"].map fun name => .finish (Xml.asciiName name)

theorem commentedText_kept :
    readSheetPart #[] "S" ⟨ownTextFront ++ .text (Xml.asciiName "A") :: .aside ::
          .text (Xml.asciiName "B") :: ownTextBehind, none⟩
        = readSheetPart #[] "S"
            ⟨ownTextFront ++ .text (Xml.asciiName "AB") :: ownTextBehind, none⟩ ∧
      writtenContent? "<row><c><is><t>A<!-- -->B</t></is></c></row>"
        = some (some (.literal (.text "AB"))) := by
  obtain ⟨-, -, -, hcommented⟩ := pieces_of_readSheetPart #[] "S"
  obtain ⟨-, hread⟩ := hcommented (Xml.asciiName "A") (Xml.asciiName "B") "A" "B"
    (by decide +kernel) (by decide +kernel)
  have hjoins : replacesBehind #[] "S" ownTextFront = false := by decide +kernel
  have hpieces := hread ownTextFront ownTextBehind none
  rw [hjoins] at hpieces
  exact ⟨hpieces, by decide +kernel⟩

/-- **A comment in a value loses what is in front of it**, and one in a formula as well. -/
theorem commentedValue_lost :
    writtenContent? "<row><c><v>12</v></c></row>" = some (some (.literal (numberOrText "12"))) ∧
      writtenContent? "<row><c><v>1<!-- -->2</v></c></row>"
        = some (some (.literal (numberOrText "2"))) ∧
      numberOrText "2" ≠ numberOrText "12" ∧
      writtenContent? "<row><c><f>A1+B1</f></c></row>" = some (some (.formula "=A1+B1" none)) ∧
      writtenContent? "<row><c><f>A1+<!-- -->B1</f></c></row>"
        = some (some (.formula "=B1" none)) := by
  refine ⟨?_, ?_, ?_, ?_, ?_⟩
  · decide +kernel
  · decide +kernel
  · decide +kernel
  · decide +kernel
  · decide +kernel

end SheetInspector.Xlsx
