import SheetInspector.Xml.Event

set_option autoImplicit false

/-! # Scanning a document

How the bytes of a document are cut into events. A text reaches up to the next `<`. A tag
reaches up to the first `>` outside quotes, or to the end of the document if there is none. An
end tag has to name the innermost open element, but elements may still be open at the end.

The bytes of a document come in pieces, possibly from a damaged source that reports its fault at
their end. To reach the end of such a document is to meet that fault. Where the pieces begin
matters to document types alone: angle brackets are balanced within a piece.
-/

namespace SheetInspector.Xml

/-- What the bytes at some place of a document begin with. -/
inductive Step where
  /-- The document ends. -/
  | done
  /-- The reading of the document ends. -/
  | failed (fault : Fault)
  /-- An event, the names of the elements then open, the innermost first, and the bytes after
  the event. -/
  | event (e : Event) (opened : List Bytes) (rest : Bytes)
  deriving DecidableEq, Repr

/-- How the bytes of a document are supplied. -/
structure Supply where
  /-- For each piece, the number of bytes from its beginning to the end of the document. -/
  beginnings : List Nat
  /-- The fault that shows at the end of the bytes. -/
  damage : Option String
  deriving DecidableEq, Repr

/-- The supply of pieces. -/
def Supply.ofPieces (pieces : List Bytes) (damage : Option String) : Supply :=
  ⟨(pieces.foldr (fun piece (beginnings, after) =>
    ((piece.length + after) :: beginnings, piece.length + after)) ([], 0)).1, damage⟩

/-- How many bytes in front of a place come in the same piece, given how many would if no piece
began there; `left` is the number of bytes from that place on. -/
def Supply.inPiece (supply : Supply) (left count : Nat) : Nat :=
  if supply.beginnings.contains left then 0 else count

/-- A step that is taken only where the end of the document is in order. -/
def Step.atEnd (supply : Supply) (step : Step) : Step :=
  match supply.damage with
  | some reason => .failed (.damaged reason)
  | none => step

/-- Splits bytes at the first `>`; without one, there is nothing to give as the rest. -/
def untilClose (s : Bytes) : Bytes × Option Bytes :=
  match s.dropWhile (· != 62) with
  | [] => (s, none)
  | _ :: rest => (s.takeWhile (· != 62), some rest)

/-- Splits the bytes of a tag at the first `>` outside quotes, behind the bytes in `done`, which
are in reverse order. -/
def untilTagEnd (quote : Option UInt8) (done : Bytes) : Bytes → Bytes × Option Bytes
  | [] => (done.reverse, none)
  | b :: rest =>
    match quote with
    | some q => untilTagEnd (if b = q then none else some q) (b :: done) rest
    | none =>
      if b = 62 then (done.reverse, some rest)
      else untilTagEnd (if isQuote b then some b else none) (b :: done) rest

/-- Splits bytes at the first `>` where `stop` accepts the bytes before it, given in reverse order
behind the number of those that come in the same piece. The number of bytes from here on is
`left`, and `count` is that of those in the same piece, unless a new one begins here. -/
def untilMark (supply : Supply) (stop : Nat → Bytes → Bool) (left count : Nat) (before : Bytes) :
    Bytes → Option (Bytes × Bytes)
  | [] => none
  | b :: rest =>
    if b = 62 && stop (supply.inPiece left count) before then some (before.reverse, rest)
    else untilMark supply stop (left - 1) (supply.inPiece left count + 1) (b :: before) rest

/-- A construct that begins with `<!`. -/
structure Markup where
  name : String
  /-- The bytes it begins with after `<!`, where case does not count. -/
  keyword : Bytes
  /-- Whether a `>` ends it, given the bytes before that in reverse order, and how many of these
  come in the same piece. -/
  stop : Nat → Bytes → Bool

namespace Markup

/-- A comment: it ends in two hyphens that are not those it begins with. -/
def comment : Markup :=
  ⟨"Comment", asciiName "--", fun _ before => 4 ≤ before.length && [45, 45].isPrefixOf before⟩

/-- A character data section: it ends in two closing brackets. -/
def characterData : Markup :=
  ⟨"CData", asciiName "[CDATA[", fun _ before => [93, 93].isPrefixOf before⟩

/-- A document type: it ends where angle brackets are balanced within a piece. -/
def doctype : Markup :=
  ⟨"DOCTYPE", asciiName "DOCTYPE", fun inPiece before =>
    let piece := before.take inPiece
    piece.count 60 == piece.count 62⟩

/-- The construct that begins with `<!` and a byte. -/
def of? (b : UInt8) : Option Markup :=
  if b = 91 then some characterData
  else if b = 45 then some comment
  else if b = 68 || b = 100 then some doctype
  else none

end Markup

/-- A byte with ASCII letters in upper case. -/
def upperByte (b : UInt8) : UInt8 := if 97 ≤ b && b ≤ 122 then b - 32 else b

/-- Whether bytes begin with a keyword, in any case. -/
def beginsWith (keyword s : Bytes) : Bool :=
  (keyword.map upperByte).isPrefixOf (s.map upperByte)

/-- The step at bytes behind `<!`. -/
def markupStep (supply : Supply) (opened : List Bytes) (s : Bytes) : Step :=
  match s with
  | [] => Step.atEnd supply (.failed (.unfinished "Bang"))
  | b :: _ =>
    match Markup.of? b with
    | none => .failed (.unknownMarkup b)
    | some m =>
      match untilMark supply m.stop s.length 0 [] s with
      | none => Step.atEnd supply (.failed (.unfinished m.name))
      | some (content, rest) =>
        if !beginsWith m.keyword content then .failed (.unfinished m.name)
        else if b = 68 || b = 100 then
          if (content.drop m.keyword.length).all isSpace then .failed .emptyDoctype
          else .event .aside opened rest
        else .event .aside opened rest

/-- The name in an end tag: white space after it does not count, nor does a form feed. -/
def endName (s : Bytes) : Bytes :=
  let trimmed := (s.reverse.dropWhile fun b => isSpace b || b == 12).reverse
  if trimmed.isEmpty then s else trimmed

/-- A name as it is reported; one that is not UTF-8 is reported as nothing. -/
def reportedName (name : Bytes) : String :=
  match Utf8.decodeText name with
  | .ok s => s
  | .error _ => ""

/-- The step at an end tag with the given content, and the bytes after it. -/
def endStep (opened : List Bytes) (content rest : Bytes) : Step :=
  match opened with
  | [] => .failed (.mismatch "" (reportedName content))
  | name :: outer =>
    if endName content = name then .event (.finish name) outer rest
    else .failed (.mismatch (reportedName name) (reportedName (endName content)))

/-- The step at a processing instruction or declaration with the given content behind `<?`,
and the bytes after it. -/
def instructionStep (opened : List Bytes) (content rest : Bytes) : Step :=
  if 2 ≤ content.length && content.getLast? == some 63 then .event .aside opened rest
  else .failed (.unfinished "XmlDecl")

/-- The step at a start tag or at the tag of an element without content. -/
def tagStep (opened : List Bytes) (content rest : Bytes) : Step :=
  if content.getLast? = some 47 then
    let inner := content.dropLast
    .event (.empty ⟨inner.takeWhile (!isSpace ·), inner.dropWhile (!isSpace ·)⟩) opened rest
  else
    let name := content.takeWhile (!isSpace ·)
    .event (.start ⟨name, content.dropWhile (!isSpace ·)⟩) (name :: opened) rest

/-- A step at a construct that was split off: where its end is missing, the end of the document
takes its place. -/
def splitStep (supply : Supply) (parts : Bytes × Option Bytes)
    (step : Bytes → Bytes → Step) : Step :=
  match parts with
  | (content, some rest) => step content rest
  | (content, none) => Step.atEnd supply (step content [])

/-- The step at bytes behind `<`. -/
def openStep (supply : Supply) (opened : List Bytes) (s : Bytes) : Step :=
  match s with
  | [] => Step.atEnd supply .done
  | b :: rest =>
    if b = 33 then markupStep supply opened rest
    else if b = 47 then splitStep supply (untilClose rest) (endStep opened)
    else if b = 63 then splitStep supply (untilClose rest) (instructionStep opened)
    else splitStep supply (untilTagEnd none [] s) (tagStep opened)

/-- The step at some place outside of tags. -/
def nextStep (supply : Supply) (opened : List Bytes) (s : Bytes) : Step :=
  match s with
  | [] => Step.atEnd supply .done
  | b :: rest =>
    if b = 60 then openStep supply opened rest
    else
      let content := s.takeWhile (· != 60)
      match s.dropWhile (· != 60) with
      | [] => Step.atEnd supply (.event (.text content) opened [])
      | after => .event (.text content) opened after

/-! ## Every step consumes bytes -/

theorem untilClose_length {s content rest : Bytes} (h : untilClose s = (content, some rest)) :
    rest.length < s.length := by
  unfold untilClose at h
  have := length_dropWhile_le (· != 62) s
  split at h
  · simp at h
  · rename_i b tail hd
    rw [hd, List.length_cons] at this
    simp only [Prod.mk.injEq, Option.some.injEq] at h
    rw [← h.2]
    omega

theorem untilTagEnd_length {quote : Option UInt8} {done s content rest : Bytes}
    (h : untilTagEnd quote done s = (content, some rest)) : rest.length < s.length := by
  induction s generalizing quote done with
  | nil => simp [untilTagEnd] at h
  | cons b s ih =>
    simp only [List.length_cons]
    cases quote with
    | some q =>
      simp only [untilTagEnd] at h
      have := ih h
      omega
    | none =>
      simp only [untilTagEnd] at h
      split at h
      · simp only [Prod.mk.injEq, Option.some.injEq] at h
        rw [h.2]
        omega
      · have := ih h
        omega

theorem untilMark_length {supply : Supply} {stop : Nat → Bytes → Bool} {left count : Nat}
    {before s content rest : Bytes}
    (h : untilMark supply stop left count before s = some (content, rest)) :
    rest.length < s.length := by
  induction s generalizing left count before with
  | nil => simp [untilMark] at h
  | cons b s ih =>
    simp only [List.length_cons]
    simp only [untilMark] at h
    split at h
    · simp only [Option.some.injEq, Prod.mk.injEq] at h
      rw [h.2]
      omega
    · have := ih h
      omega

theorem atEnd_eq_event {supply : Supply} {step : Step} {e : Event} {opened : List Bytes}
    {rest : Bytes} (h : Step.atEnd supply step = .event e opened rest) :
    step = .event e opened rest := by
  unfold Step.atEnd at h
  split at h
  · simp at h
  · exact h

/-- A step at a construct leaves exactly the bytes behind it. -/
def Leaves (step : Bytes → Bytes → Step) : Prop :=
  ∀ content after e opened rest, step content after = .event e opened rest → rest = after

theorem endStep_leaves (opened : List Bytes) : Leaves (endStep opened) := by
  intro content after e opened' rest h
  unfold endStep at h
  split at h
  · simp at h
  · split at h
    · simp only [Step.event.injEq] at h
      exact h.2.2.symm
    · simp at h

theorem instructionStep_leaves (opened : List Bytes) : Leaves (instructionStep opened) := by
  intro content after e opened' rest h
  unfold instructionStep at h
  split at h
  · simp only [Step.event.injEq] at h
    exact h.2.2.symm
  · simp at h

theorem tagStep_leaves (opened : List Bytes) : Leaves (tagStep opened) := by
  intro content after e opened' rest h
  unfold tagStep at h
  split at h <;>
    (simp only [Step.event.injEq] at h
     exact h.2.2.symm)

theorem splitStep_length {supply : Supply} {parts : Bytes × Option Bytes}
    {step : Bytes → Bytes → Step} {s : Bytes} {e : Event} {opened : List Bytes} {rest : Bytes}
    (hstep : Leaves step) (hparts : ∀ content after, parts = (content, some after) →
      after.length < s.length + 1)
    (h : splitStep supply parts step = .event e opened rest) : rest.length < s.length + 1 := by
  obtain ⟨content, after⟩ := parts
  cases after with
  | some after =>
    rw [hstep content after e opened rest h]
    exact hparts content after rfl
  | none =>
    rw [hstep content [] e opened rest (atEnd_eq_event h)]
    simp

theorem markupStep_length {supply : Supply} {opened opened' : List Bytes}
    {s rest : Bytes} {e : Event} (h : markupStep supply opened s = .event e opened' rest) :
    rest.length < s.length := by
  unfold markupStep at h
  split at h
  · have := atEnd_eq_event h
    simp at this
  · split at h
    · simp at h
    · split at h
      · have := atEnd_eq_event h
        simp at this
      · rename_i hm
        have hlen := untilMark_length hm
        split at h
        · simp at h
        · split at h
          · split at h
            · simp at h
            · simp only [Step.event.injEq] at h
              rw [← h.2.2]
              exact hlen
          · simp only [Step.event.injEq] at h
            rw [← h.2.2]
            exact hlen

theorem openStep_length {supply : Supply} {opened opened' : List Bytes}
    {s rest : Bytes} {e : Event} (h : openStep supply opened s = .event e opened' rest) :
    rest.length < s.length := by
  unfold openStep at h
  split at h
  · have := atEnd_eq_event h
    simp at this
  · rename_i b tail
    simp only [List.length_cons]
    split at h
    · have := markupStep_length h
      omega
    · split at h
      · refine splitStep_length (endStep_leaves opened) ?_ h
        intro content after hp
        have := untilClose_length hp
        omega
      · split at h
        · refine splitStep_length (instructionStep_leaves opened) ?_ h
          intro content after hp
          have := untilClose_length hp
          omega
        · refine splitStep_length (tagStep_leaves opened) ?_ h
          intro content after hp
          have := untilTagEnd_length hp
          simp only [List.length_cons] at this
          omega

theorem nextStep_length {supply : Supply} {opened opened' : List Bytes}
    {s rest : Bytes} {e : Event} (h : nextStep supply opened s = .event e opened' rest) :
    rest.length < s.length := by
  unfold nextStep at h
  split at h
  · have := atEnd_eq_event h
    simp at this
  · rename_i b tail
    split at h
    · have := openStep_length h
      simp only [List.length_cons]
      omega
    · rename_i hb
      have hne : (b != 60) = true := by simpa using hb
      have hd : (b :: tail).dropWhile (· != 60) = tail.dropWhile (· != 60) := by
        simp [hne]
      split at h
      · have := atEnd_eq_event h
        simp only [Step.event.injEq] at this
        rw [← this.2.2]
        simp
      · simp only [Step.event.injEq] at h
        have hlen := length_dropWhile_le (· != 60) tail
        rw [← h.2.2, hd, List.length_cons]
        omega

/-- Scans bytes, with the given elements open, behind the events in `done`, which are in
reverse order. -/
def scanFrom (supply : Supply) (done : List Event) (opened : List Bytes) (s : Bytes) :
    Document :=
  match h : nextStep supply opened s with
  | .done => ⟨done.reverse, none⟩
  | .failed fault => ⟨done.reverse, some fault⟩
  | .event e opened' rest =>
    have := nextStep_length h
    scanFrom supply (e :: done) opened' rest
termination_by s.length

/-- The document in the given pieces, which end in damage if a reason is given. A byte order mark
in front is skipped, unless it is spread over pieces. -/
def scan (pieces : List Bytes) (damage : Option String) : Document :=
  let s := pieces.flatten
  scanFrom (.ofPieces pieces damage) [] []
    (if byteOrderMark.isPrefixOf (pieces.headD []) then s.drop 3 else s)

end SheetInspector.Xml
