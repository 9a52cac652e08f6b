import SheetInspector.Proofs.Xml.Forest
import SheetInspector.Xlsx.Fault

set_option autoImplicit false

/-! # Reading elements one after the other

A part is read event by event, but its format speaks of elements. `ReadsElements` says of a reader
of events what it takes to speak of elements as well: at rest it passes over the tags and texts it
does not look for, and an element it looks for either is read as a whole, or is entered by its
tag and left without a trace. Such a reader reads a forest by reading its elements in document
order (`ReadsElements.foldlM_events`).
-/

namespace SheetInspector.Xlsx

/-! ## Outcomes -/

section Outcomes

variable {ε α β : Type}

theorem bind_eq_ok_iff {x : Except ε α} {f : α → Except ε β} {b : β} :
    x >>= f = .ok b ↔ ∃ a, x = .ok a ∧ f a = .ok b := by
  cases x with
  | error fault =>
      constructor
      · intro h
        cases h
      · rintro ⟨a, h, -⟩
        cases h
  | ok a =>
      constructor
      · intro h
        exact ⟨a, rfl, h⟩
      · rintro ⟨a', h, hf⟩
        cases h
        exact hf

theorem map_eq_ok_iff {x : Except ε α} {f : α → β} {b : β} :
    x.map f = .ok b ↔ ∃ a, x = .ok a ∧ f a = b := by
  cases x with
  | error fault => simp [Except.map]
  | ok a => simp [Except.map]

theorem map_map {γ : Type} (x : Except ε α) (f : α → β) (g : β → γ) :
    (x.map f).map g = x.map fun a => g (f a) := by
  cases x with
  | error fault => rfl
  | ok a => rfl

theorem mapError_eq_ok_iff {ε' : Type} {x : Except ε α} {f : ε → ε'} {a : α} :
    x.mapError f = .ok a ↔ x = .ok a := by
  cases x with
  | error fault => simp [Except.mapError]
  | ok a => simp [Except.mapError]

theorem map_eq_error_iff {x : Except ε α} {f : α → β} {fault : ε} :
    x.map f = .error fault ↔ x = .error fault := by
  cases x with
  | error fault' => simp [Except.map]
  | ok a => simp [Except.map]

theorem mapError_eq_error_iff {ε' : Type} {x : Except ε α} {f : ε → ε'} {fault : ε'} :
    x.mapError f = .error fault ↔ ∃ fault', x = .error fault' ∧ f fault' = fault := by
  cases x with
  | error fault' => simp [Except.mapError]
  | ok a => simp [Except.mapError]

theorem toOption_eq_some_iff {x : Except ε α} {a : α} : x.toOption = some a ↔ x = .ok a := by
  cases x with
  | error fault => simp [Except.toOption]
  | ok a => simp [Except.toOption]

/-- What follows a computation matters only where it succeeds. -/
theorem bind_congr_ok {x : Except ε α} {f g : α → Except ε β}
    (h : ∀ a, x = .ok a → f a = g a) : x >>= f = x >>= g := by
  cases x with
  | error fault => rfl
  | ok a => exact h a rfl

/-- A loop keeps what each of its steps keeps. -/
theorem foldlM_induct {step : β → α → Except ε β} {P : β → Prop} {as : List α}
    (hstep : ∀ s s' a, P s → a ∈ as → step s a = .ok s' → P s') {s s' : β} (hs : P s)
    (h : as.foldlM step s = .ok s') : P s' := by
  induction as generalizing s with
  | nil =>
      cases h
      exact hs
  | cons a as ih =>
      rw [List.foldlM_cons, bind_eq_ok_iff] at h
      obtain ⟨mid, hmid, hrest⟩ := h
      have hmidP : P mid := hstep s mid a hs List.mem_cons_self hmid
      exact ih (fun s s' a hs ha => hstep s s' a hs (List.mem_cons_of_mem _ ha)) hmidP hrest

/-- A loop fails where one of its steps does, behind others that succeed. -/
theorem foldlM_eq_error_iff {step : β → α → Except ε β} {as : List α} {s : β} {fault : ε} :
    as.foldlM step s = .error fault ↔ ∃ before a after s', as = before ++ a :: after ∧
      before.foldlM step s = .ok s' ∧ step s' a = .error fault := by
  constructor
  · intro h
    induction as generalizing s with
    | nil => cases h
    | cons a as ih =>
        rw [List.foldlM_cons] at h
        cases hstep : step s a with
        | error fault' =>
            rw [hstep] at h
            cases h
            exact ⟨[], a, as, s, rfl, rfl, hstep⟩
        | ok mid =>
            rw [hstep] at h
            obtain ⟨before, a', after, s', rfl, hbefore, hfault⟩ := ih h
            refine ⟨a :: before, a', after, s', rfl, ?_, hfault⟩
            rw [List.foldlM_cons, hstep]
            exact hbefore
  · rintro ⟨before, a, after, s', rfl, hbefore, hfault⟩
    rw [List.foldlM_append, hbefore]
    show (step s' a >>= fun mid => after.foldlM step mid) = _
    rw [hfault]
    rfl

/-- What is related pair by pair is related at every index. -/
theorem getElem?_of_forall₂ {R : α → β → Prop} {as : List α} {bs : List β}
    (h : List.Forall₂ R as bs) {i : Nat} {a : α} (ha : as[i]? = some a) :
    ∃ b, bs[i]? = some b ∧ R a b := by
  induction h generalizing i with
  | nil => cases ha
  | @cons x y xs ys hxy _ ih =>
      cases i with
      | zero =>
          cases ha
          exact ⟨y, rfl, hxy⟩
      | succ i => exact ih ha

/-- Loops over inputs that are related pair by pair leave the same, if each of their steps does. -/
theorem foldlM_eq_ok_iff_of_forall₂ {step : β → α → Except ε β} {P : β → Prop} {R : α → α → Prop}
    (hstep : ∀ s s' a b, P s → R a b → (step s a = .ok s' ↔ step s b = .ok s') ∧
      (step s a = .ok s' → P s'))
    {as bs : List α} (h : List.Forall₂ R as bs) {s s' : β} (hs : P s) :
    as.foldlM step s = .ok s' ↔ bs.foldlM step s = .ok s' := by
  induction h generalizing s with
  | nil => exact Iff.rfl
  | @cons a b as bs hab _ ih =>
      rw [List.foldlM_cons, List.foldlM_cons, bind_eq_ok_iff, bind_eq_ok_iff]
      refine exists_congr fun mid => ?_
      obtain ⟨hsame, hkept⟩ := hstep s mid a b hs hab
      constructor
      · rintro ⟨hmid, hrest⟩
        exact ⟨hsame.mp hmid, (ih (hkept hmid)).mp hrest⟩
      · rintro ⟨hmid, hrest⟩
        have hmid' := hsame.mpr hmid
        exact ⟨hmid', (ih (hkept hmid')).mpr hrest⟩

end Outcomes

/-! ## Elements apart from one another -/

section Separate

variable {p whole : Bytes → Bool} {tag : Xml.Tag} {f g : Xml.Forest}

/-- Whether, of the elements with names that pass `p`, those with names that pass `whole` hold none
of the elements. -/
def Separate (p whole : Bytes → Bool) (f : Xml.Forest) : Prop :=
  ∀ e ∈ f.elements p, whole e.tag.name = true → e.body.elements p = []

instance (p whole : Bytes → Bool) (f : Xml.Forest) : Decidable (Separate p whole f) :=
  inferInstanceAs (Decidable
    (∀ e ∈ f.elements p, whole e.tag.name = true → e.body.elements p = []))

theorem Separate.inside (h : Separate p whole (.element tag f g)) : Separate p whole f :=
  fun e he => h e (Xml.Forest.mem_elements_inside he)

theorem Separate.rest (h : Separate p whole (.element tag f g)) : Separate p whole g :=
  fun e he => h e (Xml.Forest.mem_elements_rest he)

theorem Separate.rest_of_empty (h : Separate p whole (.empty tag g)) : Separate p whole g :=
  fun e he => h e (Xml.Forest.mem_elements_rest_of_empty he)

/-- What stands in an element of the nodes is no less apart. -/
theorem Separate.of_mem {q : Bytes → Bool} {e : Xml.Element} (h : Separate p whole f)
    (he : e ∈ f.elements q) : Separate p whole e.body :=
  fun x hx => h x (Xml.Forest.mem_elements_of_mem_body he hx)

/-- The first element of all holds none of them, if it is one that must not. -/
theorem Separate.body (h : Separate p whole (.element tag f g)) (hp : p tag.name = true)
    (hw : whole tag.name = true) : f.elements p = [] := by
  refine h ⟨tag, some f⟩ ?_ hw
  rw [Xml.Forest.elements_element_of_true hp]
  exact List.mem_cons_self

/-- Nodes are apart if those in the first element and those behind it are, and the element itself
holds none where it must not. -/
theorem Separate.cons (hf : Separate p whole f) (hg : Separate p whole g)
    (hbody : p tag.name = true → whole tag.name = true → f.elements p = []) :
    Separate p whole (.element tag f g) := by
  intro e he hw
  rw [Xml.Forest.elements, List.mem_append, List.mem_append] at he
  rcases he with he | he | he
  · by_cases hp : p tag.name
    · rw [if_pos hp, List.mem_singleton] at he
      subst he
      exact hbody hp hw
    · rw [if_neg hp] at he
      cases he
  · exact hf e he hw
  · exact hg e he hw

/-- Whether no element with a certain name stands in another, where one may be open around the
nodes. -/
structure Unnested (p : Bytes → Bool) (opened : Bool) (f : Xml.Forest) : Prop where
  separate : Separate p p f
  none : opened = true → f.elements p = []

variable {opened : Bool}

theorem Unnested.of_opened (h : Unnested p true f) : Unnested p opened f where
  separate := h.separate
  none := fun _ => h.none rfl

theorem Unnested.inside_of_false (h : Unnested p opened (.element tag f g)) :
    Unnested p opened f where
  separate := h.separate.inside
  none := by
    intro ho
    have hnone := h.none ho
    rw [Xml.Forest.elements, List.append_eq_nil_iff, List.append_eq_nil_iff] at hnone
    exact hnone.2.1

/-- The nodes in an element with the name hold no other. -/
theorem Unnested.inside_of_true (h : Unnested p opened (.element tag f g))
    (hp : p tag.name = true) : Unnested p true f where
  separate := h.separate.inside
  none := fun _ => h.separate.body hp hp

theorem Unnested.not_opened (h : Unnested p opened (.element tag f g)) (hp : p tag.name = true) :
    opened = false := by
  by_contra ho
  have hnone := h.none (by simpa using ho)
  rw [Xml.Forest.elements_element_of_true hp] at hnone
  cases hnone

theorem Unnested.rest (h : Unnested p opened (.element tag f g)) : Unnested p opened g where
  separate := h.separate.rest
  none := by
    intro ho
    have hnone := h.none ho
    rw [Xml.Forest.elements, List.append_eq_nil_iff, List.append_eq_nil_iff] at hnone
    exact hnone.2.2

theorem Unnested.rest_of_empty (h : Unnested p opened (.empty tag g)) : Unnested p opened g where
  separate := h.separate.rest_of_empty
  none := by
    intro ho
    have hnone := h.none ho
    rw [Xml.Forest.elements, List.append_eq_nil_iff] at hnone
    exact hnone.2

end Separate

/-! ## Documents -/

section Documents

variable {σ : Type} {step : σ → Xml.Event → Except Fault σ}

/-- The reading of a document succeeds where that of its events does, unless the document itself has
a fault. -/
theorem readDocument_eq_ok_iff {start s : σ} {d : Xml.Document} :
    readDocument step start d = .ok s ↔ d.events.foldlM step start = .ok s ∧ d.fault = none := by
  rw [readDocument]
  cases d.events.foldlM step start with
  | error fault => simp
  | ok s' => cases d.fault <;> simp

/-- The reading of a document that is well-formed ends with its events. -/
theorem readDocument_document (start : σ) (f : Xml.Forest) :
    readDocument step start f.document = f.events.foldlM step start := by
  rw [readDocument, Xml.Forest.document]
  cases f.events.foldlM step start with
  | error fault => rfl
  | ok s => rfl

/-- What a reader of events does at rest, where `p` are the names it looks for, and `whole` are
those of elements that hold no others of them and that it reads as a whole. -/
structure ReadsElements (step : σ → Xml.Event → Except Fault σ) (p whole : Bytes → Bool)
    (read : σ → Xml.Element → Except Fault σ) (Rests : σ → Prop) : Prop where
  /-- Nothing happens at what it does not look for. -/
  other : ∀ s, Rests s → ∀ e : Xml.Event, e.Apart p → step s e = .ok s
  /-- An element that is not read as a whole is read where it begins. -/
  begins : ∀ s, Rests s → ∀ tag : Xml.Tag, p tag.name = true → whole tag.name = false →
    ∀ inside, step s (.start tag) = read s ⟨tag, some inside⟩
  single : ∀ s, Rests s → ∀ tag : Xml.Tag, p tag.name = true → whole tag.name = false →
    step s (.empty tag) = read s ⟨tag, none⟩
  ends : ∀ s, Rests s → ∀ name, p name = true → whole name = false →
    step s (.finish name) = .ok s
  /-- An element that holds none of them is read as a whole. -/
  reads : ∀ s, Rests s → ∀ e : Xml.Element, p e.tag.name = true → whole e.tag.name = true →
    e.body.elements p = [] → e.events.foldlM step s = read s e
  /-- Behind an element it is at rest again. -/
  rests : ∀ s s' e, Rests s → p e.tag.name = true →
    (whole e.tag.name = true → e.body.elements p = []) → read s e = .ok s' → Rests s'

variable {p whole : Bytes → Bool} {read : σ → Xml.Element → Except Fault σ} {Rests : σ → Prop}

/-- Behind the elements of a forest such a reader is at rest. -/
theorem ReadsElements.rests_foldlM (hr : ReadsElements step p whole read Rests) {f : Xml.Forest}
    (hf : Separate p whole f) {s s' : σ} (hs : Rests s)
    (h : (f.elements p).foldlM read s = .ok s') : Rests s' :=
  foldlM_induct (fun s s' e hs he =>
    hr.rests s s' e hs (Xml.Forest.name_of_mem_elements he) (hf e he)) hs h

/-- **Reading events is reading elements.** -/
theorem ReadsElements.foldlM_events (hr : ReadsElements step p whole read Rests) {f : Xml.Forest}
    (hf : Separate p whole f) {s : σ} (hs : Rests s) :
    f.events.foldlM step s = (f.elements p).foldlM read s := by
  induction f generalizing s with
  | nil => rfl
  | element tag inside rest ihInside ihRest =>
      -- what is left of an element that has been entered
      have hentered (s : σ) (hs : Rests s)
          (hends : ∀ s, Rests s → step s (.finish tag.name) = .ok s) :
          (inside.events ++ .finish tag.name :: rest.events).foldlM step s
            = (inside.elements p ++ rest.elements p).foldlM read s := by
        rw [List.foldlM_append, List.foldlM_append, ihInside hf.inside hs]
        refine bind_congr_ok fun mid hmid => ?_
        have hrests : Rests mid := hr.rests_foldlM hf.inside hs hmid
        rw [List.foldlM_cons, hends mid hrests]
        exact ihRest hf.rest hrests
      rw [Xml.Forest.events]
      cases hp : p tag.name with
      | false =>
          have hstart : Xml.Event.Apart p (.start tag) := Xml.Event.apart_of_name hp rfl
          have hfinish : Xml.Event.Apart p (.finish tag.name) := Xml.Event.apart_of_name hp rfl
          rw [Xml.Forest.elements_element_of_false hp, List.foldlM_cons, hr.other s hs _ hstart]
          exact hentered s hs fun s hs => hr.other s hs _ hfinish
      | true =>
          rw [Xml.Forest.elements_element_of_true hp, List.foldlM_cons]
          have hbody := hf.body hp
          cases hw : whole tag.name with
          | false =>
              rw [List.foldlM_cons, hr.begins s hs tag hp hw inside]
              refine bind_congr_ok fun mid hmid => ?_
              have hrests : Rests mid := hr.rests s mid _ hs hp hbody hmid
              exact hentered mid hrests fun s hs => hr.ends s hs _ hp hw
          | true =>
              -- the events from tag to tag are read in one go
              have hread := hr.reads s hs ⟨tag, some inside⟩ hp hw (hbody hw)
              have hsplit :
                  Xml.Event.start tag :: (inside.events ++ .finish tag.name :: rest.events)
                  = (⟨tag, some inside⟩ : Xml.Element).events ++ rest.events := by
                simp [Xml.Element.events]
              rw [← List.foldlM_cons, hsplit, List.foldlM_append, hread, hbody hw, List.nil_append]
              refine bind_congr_ok fun mid hmid => ?_
              exact ihRest hf.rest (hr.rests s mid _ hs hp hbody hmid)
  | empty tag rest ih =>
      rw [Xml.Forest.events, List.foldlM_cons]
      cases hp : p tag.name with
      | false =>
          rw [Xml.Forest.elements_empty_of_false hp,
            hr.other s hs _ (Xml.Event.apart_of_name hp rfl)]
          exact ih hf.rest_of_empty hs
      | true =>
          have hstep : step s (.empty tag) = read s ⟨tag, none⟩ := by
            cases hw : whole tag.name with
            | false => exact hr.single s hs tag hp hw
            | true =>
                have hread := hr.reads s hs ⟨tag, none⟩ hp hw rfl
                rw [← hread]
                exact (bind_pure _).symm
          rw [Xml.Forest.elements_empty_of_true hp, List.foldlM_cons, hstep]
          refine bind_congr_ok fun mid hmid => ?_
          exact ih hf.rest_of_empty (hr.rests s mid _ hs hp (fun _ => rfl) hmid)
  | text raw rest ih =>
      rw [Xml.Forest.events, List.foldlM_cons, hr.other s hs _ fun _ h => by cases h]
      exact ih hf hs
  | aside rest ih =>
      rw [Xml.Forest.events, List.foldlM_cons, hr.other s hs _ fun _ h => by cases h]
      exact ih hf hs

end Documents

end SheetInspector.Xlsx
