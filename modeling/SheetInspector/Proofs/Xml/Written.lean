import Mathlib.Data.List.DropRight
import SheetInspector.Proofs.Xml.Forest

set_option autoImplicit false

/-! # Written documents

How nodes are written as bytes, and that scanning reads them back. A text reaches up to the next
`<`, so it is read as one text exactly if nothing of that kind stands in it; a comment that is
written into it makes two of it, with an aside between them (`scanFrom_commented`). Nodes whose tags
and texts can be told apart from what stands around them are what their bytes are scanned as
(`scan_bytes`).
-/

namespace SheetInspector.Xml

variable {supply : Supply} {done : List Event} {opened : List Bytes}

theorem scanFrom_event {opened' : List Bytes} {s rest : Bytes} {e : Event}
    (h : nextStep supply opened s = .event e opened' rest) :
    scanFrom supply done opened s = scanFrom supply (e :: done) opened' rest := by
  rw [scanFrom]
  split
  · rename_i hstep
    cases h.symm.trans hstep
  · rename_i hstep
    cases h.symm.trans hstep
  · rename_i hstep
    cases h.symm.trans hstep
    rfl

/-! ## Texts -/

theorem takeWhile_text {raw : Bytes} (h : 60 ∉ raw) (rest : Bytes) :
    (raw ++ 60 :: rest).takeWhile (· != 60) = raw ∧
      (raw ++ 60 :: rest).dropWhile (· != 60) = 60 :: rest := by
  have hall : ∀ b ∈ raw, (b != 60) = true := by
    intro b hb
    rw [bne_iff_ne]
    rintro rfl
    exact h hb
  rw [List.takeWhile_append_of_pos hall, List.dropWhile_append_of_pos hall]
  simp

/-- **A text reaches up to the next `<`.** -/
theorem scanFrom_text {raw : Bytes} (hne : raw ≠ []) (h : 60 ∉ raw) (rest : Bytes) :
    scanFrom supply done opened (raw ++ 60 :: rest)
      = scanFrom supply (.text raw :: done) opened (60 :: rest) := by
  obtain ⟨htake, hdrop⟩ := takeWhile_text h rest
  refine scanFrom_event ?_
  cases raw with
  | nil => exact absurd rfl hne
  | cons b raw =>
      have hb : b ≠ 60 := fun hb => h (hb ▸ List.mem_cons_self)
      rw [List.cons_append] at htake hdrop ⊢
      rw [nextStep, if_neg hb, htake, hdrop]

/-- A text at the end of a document reaches up to it. -/
theorem scanFrom_text_end (hsupply : supply.damage = none) {raw : Bytes} (hne : raw ≠ [])
    (h : 60 ∉ raw) :
    scanFrom supply done opened raw = scanFrom supply (.text raw :: done) opened [] := by
  have hall : ∀ b ∈ raw, (b != 60) = true := by
    intro b hb
    rw [bne_iff_ne]
    rintro rfl
    exact h hb
  refine scanFrom_event ?_
  cases raw with
  | nil => exact absurd rfl hne
  | cons b raw =>
      have hb : b ≠ 60 := fun hb => h (hb ▸ List.mem_cons_self)
      rw [nextStep, if_neg hb, List.takeWhile_eq_self_iff.mpr hall,
        List.dropWhile_eq_nil_iff.mpr hall]
      show Step.atEnd supply _ = _
      rw [Step.atEnd, hsupply]

/-! ## Comments -/

/-- A comment with some bytes in it. -/
def comment (body : Bytes) : Bytes := asciiName "<!--" ++ body ++ asciiName "-->"

/-- Whether bytes can stand in a comment: its end does not occur among them. -/
def CommentBody (body : Bytes) : Prop := ¬ asciiName "-->" <:+: body

instance (body : Bytes) : Decidable (CommentBody body) :=
  inferInstanceAs (Decidable (¬ asciiName "-->" <:+: body))

/-- Bytes in which no `>` is an end are passed over, up to one that is. -/
theorem untilMark_append {stop : Nat → Bytes → Bool} {body rest before : Bytes} {left count : Nat}
    (hbody : ∀ u v n, body = u ++ 62 :: v → stop n (u.reverse ++ before) = false)
    (hend : ∀ n, stop n (body.reverse ++ before) = true) :
    untilMark supply stop left count before (body ++ 62 :: rest)
      = some ((body.reverse ++ before).reverse, rest) := by
  induction body generalizing left count before with
  | nil =>
      rw [List.nil_append, untilMark, if_pos]
      · rfl
      · rw [decide_eq_true rfl, Bool.true_and]
        exact hend _
  | cons b body ih =>
      have hpassed : ¬ (decide (b = 62) && stop (supply.inPiece left count) before) = true := by
        rw [Bool.and_eq_true, decide_eq_true_iff]
        rintro ⟨rfl, hstop⟩
        rw [show stop _ before = false from hbody [] body _ rfl] at hstop
        cases hstop
      rw [List.cons_append, untilMark, if_neg hpassed]
      refine (ih (fun u v n hsplit => ?_) fun n => ?_).trans ?_
      · have h := hbody (b :: u) v n (by rw [hsplit, List.cons_append])
        simpa using h
      · have h := hend n
        simpa using h
      · simp

/-- The bytes of a comment behind `<!`, up to a `>` among them, are not its end. -/
theorem stop_comment {body u v : Bytes} (h : CommentBody body) (n : Nat)
    (hsplit : 45 :: 45 :: (body ++ [45, 45]) = u ++ 62 :: v) :
    Markup.comment.stop n u.reverse = false := by
  rw [Bool.eq_false_iff]
  intro hstop
  rw [Markup.comment, Bool.and_eq_true, decide_eq_true_iff, List.isPrefixOf_iff_prefix] at hstop
  obtain ⟨hlength, w, hw⟩ := hstop
  -- the hyphens in front of the `>` are not those that the comment begins with
  obtain rfl : u = w.reverse ++ [45, 45] := by
    rw [← List.reverse_reverse u, ← hw, List.reverse_append]
    rfl
  obtain ⟨x, y, w', hw'⟩ : ∃ x y w', w.reverse = x :: y :: w' := by
    rw [List.length_reverse, List.length_append, List.length_reverse] at hlength
    have hlong : 2 ≤ w.reverse.length := by
      rw [List.length_reverse]
      simpa using hlength
    match w.reverse, hlong with
    | x :: y :: w', _ => exact ⟨x, y, w', rfl⟩
  rw [hw'] at hsplit
  simp only [List.cons_append, List.cons.injEq] at hsplit
  have hinside : body ++ [45, 45] = (w' ++ [45, 45, 62]) ++ v := by
    simpa using hsplit.2.2
  refine h ?_
  rcases List.append_eq_append_iff.mp hinside with ⟨a, ha, hv⟩ | ⟨a, ha, -⟩
  · cases a with
    | nil => exact ⟨w', [], (List.append_nil _).trans (ha.trans (List.append_nil _))⟩
    | cons b a =>
        -- the `>` would be one of the hyphens at the end
        have hlast := congrArg List.getLast? ha
        rw [List.getLast?_append_of_ne_nil _ (by simp),
          List.getLast?_append_of_ne_nil _ (by simp)] at hlast
        have hmem : (62 : UInt8) ∈ b :: a := List.mem_of_getLast? hlast.symm
        have hhyphens : (62 : UInt8) ∈ ([45, 45] : Bytes) := hv ▸ List.mem_append_left v hmem
        exact absurd hhyphens (by decide)
  · exact ⟨w', a, ha.symm⟩

/-- **A comment is an aside**, whatever is behind it. -/
theorem nextStep_comment {body : Bytes} (h : CommentBody body) (rest : Bytes) :
    nextStep supply opened (comment body ++ rest) = .event .aside opened rest := by
  -- the bytes between `<!` and the last `>`
  have hsplit : comment body ++ rest
      = 60 :: 33 :: ((45 :: 45 :: (body ++ [45, 45])) ++ 62 :: rest) := by
    simp [comment, asciiName]
  have hmark (left count : Nat) :
      untilMark supply Markup.comment.stop left count []
          ((45 :: 45 :: (body ++ [45, 45])) ++ 62 :: rest)
        = some (45 :: 45 :: (body ++ [45, 45]), rest) := by
    refine (untilMark_append (fun u v n hu => ?_) fun n => ?_).trans ?_
    · rw [List.append_nil]
      exact stop_comment h n hu
    · simp [Markup.comment]
    · rw [List.append_nil, List.reverse_reverse]
  have hkeyword : beginsWith Markup.comment.keyword (45 :: 45 :: (body ++ [45, 45])) = true := rfl
  have hkind : Markup.of? 45 = some Markup.comment := rfl
  rw [hsplit, nextStep, if_pos rfl, openStep, if_pos rfl, List.cons_append, markupStep, hkind]
  dsimp only
  rw [← List.cons_append, hmark]
  dsimp only
  rw [hkeyword]
  rfl

/-- **A comment in a text divides it**, and is an aside between the pieces. -/
theorem scanFrom_commented {a b body : Bytes} (ha : a ≠ [] ∧ 60 ∉ a) (hb : b ≠ [] ∧ 60 ∉ b)
    (hbody : CommentBody body) (rest : Bytes) :
    scanFrom supply done opened (a ++ (comment body ++ (b ++ 60 :: rest)))
      = scanFrom supply (.text b :: .aside :: .text a :: done) opened (60 :: rest) := by
  have hcomment : comment body ++ (b ++ 60 :: rest)
      = 60 :: ((comment body).tail ++ (b ++ 60 :: rest)) := rfl
  calc scanFrom supply done opened (a ++ (comment body ++ (b ++ 60 :: rest)))
      = scanFrom supply (.text a :: done) opened (comment body ++ (b ++ 60 :: rest)) := by
        rw [hcomment, scanFrom_text ha.1 ha.2]
    _ = scanFrom supply (.aside :: .text a :: done) opened (b ++ 60 :: rest) :=
        scanFrom_event (nextStep_comment hbody _)
    _ = scanFrom supply (.text b :: .aside :: .text a :: done) opened (60 :: rest) :=
        scanFrom_text hb.1 hb.2 rest

/-! ## Tags -/

/-- What stands between the brackets of a start tag. -/
def Tag.bytes (tag : Tag) : Bytes := tag.name ++ tag.rest

/-- Whether a tag, with some bytes behind it, is read as it is written: it ends at the bracket that
is written behind it, its name ends where it does, and the name can stand in an end tag. -/
structure Tag.Writable (tag : Tag) (last : Bytes) : Prop where
  first : tag.bytes.head? ∉ [some 33, some 47, some 63]
  nonempty : tag.name ≠ []
  ends : untilTagEnd none [] (tag.bytes ++ last ++ [62]) = (tag.bytes ++ last, some [])
  name : tag.bytes.takeWhile (!isSpace ·) = tag.name
  rest : tag.bytes.dropWhile (!isSpace ·) = tag.rest
  close : 62 ∉ tag.name
  endName : Xml.endName tag.name = tag.name

instance (tag : Tag) (last : Bytes) : Decidable (tag.Writable last) :=
  decidable_of_iff (_ ∧ _ ∧ _ ∧ _ ∧ _ ∧ _ ∧ _)
    ⟨fun h => ⟨h.1, h.2.1, h.2.2.1, h.2.2.2.1, h.2.2.2.2.1, h.2.2.2.2.2.1, h.2.2.2.2.2.2⟩,
      fun h => ⟨h.first, h.nonempty, h.ends, h.name, h.rest, h.close, h.endName⟩⟩

/-- What is read of a tag does not depend on what is behind it. -/
theorem untilTagEnd_append {quote : Option UInt8} {before s content rest : Bytes}
    (h : untilTagEnd quote before s = (content, some rest)) (t : Bytes) :
    untilTagEnd quote before (s ++ t) = (content, some (rest ++ t)) := by
  induction s generalizing quote before with
  | nil => cases h
  | cons b s ih =>
      rw [List.cons_append]
      cases quote with
      | some q =>
          rw [untilTagEnd] at h ⊢
          exact ih h
      | none =>
          rw [untilTagEnd] at h ⊢
          by_cases hb : b = 62
          · rw [if_pos hb] at h ⊢
            cases h
            rfl
          · rw [if_neg hb] at h ⊢
            exact ih h

namespace Tag.Writable

variable {tag : Tag} {last : Bytes}

theorem openStep_eq (h : tag.Writable last) (rest : Bytes) :
    openStep supply opened (tag.bytes ++ last ++ 62 :: rest)
      = tagStep opened (tag.bytes ++ last) rest := by
  have hsplit : untilTagEnd none [] (tag.bytes ++ last ++ 62 :: rest)
      = (tag.bytes ++ last, some rest) := by
    have hread := untilTagEnd_append h.ends rest
    rwa [List.append_assoc _ [62], List.singleton_append, List.nil_append] at hread
  obtain ⟨b, name, hname⟩ := List.exists_cons_of_ne_nil h.nonempty
  have hbytes : tag.bytes = b :: (name ++ tag.rest) := by
    rw [Tag.bytes, hname, List.cons_append]
  have hfirst := h.first
  rw [hbytes, List.head?_cons] at hfirst
  simp only [List.mem_cons, Option.some.injEq, not_or] at hfirst
  obtain ⟨hmark, hslash, hquestion, -⟩ := hfirst
  rw [hbytes] at hsplit ⊢
  simp only [List.cons_append] at hsplit ⊢
  rw [openStep, if_neg hmark, if_neg hslash, if_neg hquestion, hsplit, splitStep]

/-- **A start tag is read as it is written.** -/
theorem nextStep_start (h : tag.Writable []) (hlast : tag.bytes.getLast? ≠ some 47)
    (rest : Bytes) :
    nextStep supply opened (60 :: (tag.bytes ++ 62 :: rest))
      = .event (.start tag) (tag.name :: opened) rest := by
  have hopen : openStep supply opened (tag.bytes ++ [] ++ 62 :: rest)
      = tagStep opened (tag.bytes ++ []) rest := h.openStep_eq rest
  rw [List.append_nil] at hopen
  rw [nextStep, if_pos rfl, hopen, tagStep, if_neg hlast, h.name, h.rest]

/-- **The tag of an element without content is read as it is written.** -/
theorem nextStep_empty (h : tag.Writable [47]) (rest : Bytes) :
    nextStep supply opened (60 :: (tag.bytes ++ 47 :: 62 :: rest))
      = .event (.empty tag) opened rest := by
  have hopen : openStep supply opened (tag.bytes ++ [47] ++ 62 :: rest)
      = tagStep opened (tag.bytes ++ [47]) rest := h.openStep_eq rest
  rw [List.append_assoc, List.singleton_append] at hopen
  rw [nextStep, if_pos rfl, hopen, tagStep, if_pos List.getLast?_concat, List.dropLast_concat]
  dsimp only
  rw [h.name, h.rest]

/-- **An end tag is read as it is written.** -/
theorem nextStep_finish (h : tag.Writable last) (rest : Bytes) :
    nextStep supply (tag.name :: opened) (60 :: 47 :: (tag.name ++ 62 :: rest))
      = .event (.finish tag.name) opened rest := by
  have hall : ∀ b ∈ tag.name, (b != 62) = true := by
    intro b hb
    rw [bne_iff_ne]
    rintro rfl
    exact h.close hb
  have hsplit : untilClose (tag.name ++ 62 :: rest) = (tag.name, some rest) := by
    rw [untilClose, List.dropWhile_append_of_pos hall, List.takeWhile_append_of_pos hall]
    simp
  rw [nextStep, if_pos rfl, openStep, if_neg (by decide), if_pos rfl, hsplit, splitStep, endStep,
    if_pos h.endName]

end Tag.Writable

/-! ## Documents -/

namespace Forest

/-- Nodes as they are written. -/
def bytes : Forest → Bytes
  | nil => []
  | element tag inside rest =>
    60 :: (tag.bytes ++ 62 :: (inside.bytes ++ 60 :: 47 :: (tag.name ++ 62 :: rest.bytes)))
  | empty tag rest => 60 :: (tag.bytes ++ 47 :: 62 :: rest.bytes)
  | text raw rest => raw ++ rest.bytes
  | aside rest => comment [] ++ rest.bytes

/-- Whether nodes begin with a text. -/
def startsText : Forest → Bool
  | text _ _ => true
  | _ => false

/-- Whether nodes are read as they are written. -/
def Writable : Forest → Prop
  | nil => True
  | element tag inside rest =>
    (tag.Writable [] ∧ tag.bytes.getLast? ≠ some 47) ∧ inside.Writable ∧ rest.Writable
  | empty tag rest => tag.Writable [47] ∧ rest.Writable
  | text raw rest => (raw ≠ [] ∧ 60 ∉ raw ∧ rest.startsText = false) ∧ rest.Writable
  | aside rest => rest.Writable

/-- Nodes that do not begin with a text are written as nothing or begin with `<`. -/
theorem bytes_of_startsText {f : Forest} (h : f.startsText = false) :
    f.bytes = [] ∨ ∃ s, f.bytes = 60 :: s := by
  cases f with
  | nil => exact .inl rfl
  | text raw rest => cases h
  | element tag inside rest => exact .inr ⟨_, rfl⟩
  | empty tag rest => exact .inr ⟨_, rfl⟩
  | aside rest => exact .inr ⟨_, rfl⟩

/-- **Written nodes are read as they are**, in front of the end of a document or of a `<`. -/
theorem scanFrom_bytes (hsupply : supply.damage = none) {f : Forest} (h : f.Writable)
    (done : List Event) (opened : List Bytes) {s : Bytes} (hs : s = [] ∨ ∃ t, s = 60 :: t) :
    scanFrom supply done opened (f.bytes ++ s)
      = scanFrom supply (f.events.reverse ++ done) opened s := by
  induction f generalizing done opened s with
  | nil => rfl
  | element tag inside rest ihInside ihRest =>
      obtain ⟨⟨htag, hlast⟩, hinside, hrest⟩ := h
      simp only [bytes, events, List.cons_append, List.append_assoc]
      rw [scanFrom_event (htag.nextStep_start hlast _),
        ihInside hinside _ _ (.inr ⟨_, rfl⟩), scanFrom_event (htag.nextStep_finish _),
        ihRest hrest _ _ hs]
      simp
  | empty tag rest ih =>
      obtain ⟨htag, hrest⟩ := h
      simp only [bytes, events, List.cons_append, List.append_assoc]
      rw [scanFrom_event (htag.nextStep_empty _), ih hrest _ _ hs]
      simp
  | text raw rest ih =>
      obtain ⟨⟨hne, hraw, hstarts⟩, hrest⟩ := h
      -- behind the text the document ends, or there is a `<`
      have hbehind : rest.bytes ++ s = [] ∨ ∃ t, rest.bytes ++ s = 60 :: t := by
        rcases bytes_of_startsText hstarts with hbytes | ⟨t, hbytes⟩
        · rwa [hbytes, List.nil_append]
        · exact .inr ⟨t ++ s, by rw [hbytes, List.cons_append]⟩
      have htext : scanFrom supply done opened (raw ++ (rest.bytes ++ s))
          = scanFrom supply (.text raw :: done) opened (rest.bytes ++ s) := by
        rcases hbehind with hnil | ⟨t, ht⟩
        · rw [hnil, List.append_nil]
          exact scanFrom_text_end hsupply hne hraw
        · rw [ht]
          exact scanFrom_text hne hraw t
      rw [bytes, List.append_assoc, htext, ih hrest _ _ hs, events]
      simp
  | aside rest ih =>
      have hcomment : CommentBody [] := by decide
      rw [bytes, List.append_assoc, scanFrom_event (nextStep_comment hcomment _), ih h _ _ hs,
        events]
      simp

/-- **A document is read as it is written**, in whatever pieces its bytes come. -/
theorem scan_bytes {f : Forest} (h : f.Writable) {pieces : List Bytes}
    (hpieces : pieces.flatten = f.bytes)
    (hmark : byteOrderMark.isPrefixOf (pieces.headD []) = false) :
    scan pieces none = f.document := by
  have hsupply : (Supply.ofPieces pieces none).damage = none := rfl
  have hread := scanFrom_bytes hsupply h [] [] (.inl rfl)
  have hend : scanFrom (.ofPieces pieces none) (f.events.reverse ++ []) [] []
      = ⟨f.events, none⟩ := by
    rw [scanFrom]
    split
    · simp
    · rename_i hstep
      cases hstep
    · rename_i hstep
      cases hstep
  rw [scan, hmark, hpieces]
  rw [List.append_nil] at hread
  exact hread.trans hend

end Forest

end SheetInspector.Xml
