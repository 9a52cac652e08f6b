import Mathlib.Tactic
import SheetInspector.Xml.Scan

set_option autoImplicit false

/-! # Documents as forests

The events of a document in which every element is closed are those of a sequence of nodes:
elements with what stands in them, elements without content, texts and asides. Whatever bytes are
scanned, no end tag is out of place (`openAfter_scan`), so a document is well-formed as soon as
its reading does not fail and nothing is left open at its end; and the well-formed documents are
those that a forest can be read off (`Document.wellFormed_iff`). So every document that is read to
its end and leaves nothing open is that of a forest (`forest_of_scan`).
-/

namespace SheetInspector.Xml

/-- A sequence of nodes, as a document or an element holds it. -/
inductive Forest where
  | nil
  /-- An element with both of its tags, and the nodes between them. -/
  | element (tag : Tag) (inside rest : Forest)
  /-- An element that is a single tag. -/
  | empty (tag : Tag) (rest : Forest)
  | text (raw : Bytes) (rest : Forest)
  | aside (rest : Forest)
  deriving DecidableEq, Repr

/-- An element. -/
structure Element where
  tag : Tag
  /-- What stands between the tags of the element; nothing for a single tag. -/
  inside : Option Forest
  deriving DecidableEq, Repr

namespace Forest

/-- The events of a sequence of nodes. -/
@[simp]
def events : Forest → List Event
  | nil => []
  | element tag inside rest => .start tag :: (inside.events ++ .finish tag.name :: rest.events)
  | empty tag rest => .empty tag :: rest.events
  | text raw rest => .text raw :: rest.events
  | aside rest => .aside :: rest.events

/-- The document of a sequence of nodes. -/
def document (f : Forest) : Document := ⟨f.events, none⟩

/-- The elements whose names pass a test, in document order; an element comes before those that
stand in it. -/
@[simp]
def elements (p : Bytes → Bool) : Forest → List Element
  | nil => []
  | element tag inside rest =>
    (if p tag.name then [⟨tag, some inside⟩] else []) ++ (inside.elements p ++ rest.elements p)
  | empty tag rest => (if p tag.name then [⟨tag, none⟩] else []) ++ rest.elements p
  | text _ rest => rest.elements p
  | aside rest => rest.elements p

end Forest

namespace Element

/-- What stands in an element; nothing if it is a single tag. -/
def body (e : Element) : Forest := e.inside.getD .nil

/-- The events of an element. -/
def events (e : Element) : List Event :=
  match e.inside with
  | none => [.empty e.tag]
  | some inside => .start e.tag :: (inside.events ++ [.finish e.tag.name])

end Element

/-- The name in the tag of an event. -/
def Event.name? : Event → Option Bytes
  | .start tag => some tag.name
  | .empty tag => some tag.name
  | .finish name => some name
  | .text _ => none
  | .aside => none

/-- Whether the tag of an event, if it has one, fails a test. -/
def Event.Apart (p : Bytes → Bool) (e : Event) : Prop :=
  ∀ name, e.name? = some name → p name = false

theorem Event.apart_of_name {p : Bytes → Bool} {e : Event} {name : Bytes} (hp : p name = false)
    (hname : e.name? = some name) : e.Apart p := by
  intro name' hname'
  rw [hname] at hname'
  cases hname'
  exact hp

/-- What fails a test fails every stronger one. -/
theorem Event.Apart.of_imp {p q : Bytes → Bool} (h : ∀ name, q name = true → p name = true)
    {e : Event} (he : e.Apart p) : e.Apart q := by
  intro name hname
  have hp : p name = false := he name hname
  by_contra hq
  rw [h name (by simpa using hq)] at hp
  cases hp

namespace Forest

theorem elements_element_of_false {p : Bytes → Bool} {tag : Tag} (h : p tag.name = false)
    (inside rest : Forest) :
    (element tag inside rest).elements p = inside.elements p ++ rest.elements p := by
  rw [elements, if_neg (by simp [h]), List.nil_append]

theorem elements_element_of_true {p : Bytes → Bool} {tag : Tag} (h : p tag.name = true)
    (inside rest : Forest) :
    (element tag inside rest).elements p
      = ⟨tag, some inside⟩ :: (inside.elements p ++ rest.elements p) := by
  rw [elements, if_pos h, List.singleton_append]

theorem elements_empty_of_false {p : Bytes → Bool} {tag : Tag} (h : p tag.name = false)
    (rest : Forest) : (empty tag rest).elements p = rest.elements p := by
  rw [elements, if_neg (by simp [h]), List.nil_append]

theorem elements_empty_of_true {p : Bytes → Bool} {tag : Tag} (h : p tag.name = true)
    (rest : Forest) : (empty tag rest).elements p = ⟨tag, none⟩ :: rest.elements p := by
  rw [elements, if_pos h, List.singleton_append]

/-- No element passes a test exactly if neither the first one does nor any in it or behind it. -/
theorem elements_element_eq_nil_iff {p : Bytes → Bool} {tag : Tag} {inside rest : Forest} :
    (element tag inside rest).elements p = [] ↔
      p tag.name = false ∧ inside.elements p = [] ∧ rest.elements p = [] := by
  rw [elements, List.append_eq_nil_iff, List.append_eq_nil_iff]
  cases p tag.name <;> simp

theorem elements_empty_eq_nil_iff {p : Bytes → Bool} {tag : Tag} {rest : Forest} :
    (empty tag rest).elements p = [] ↔ p tag.name = false ∧ rest.elements p = [] := by
  rw [elements, List.append_eq_nil_iff]
  cases p tag.name <;> simp

theorem mem_elements_inside {p : Bytes → Bool} {tag : Tag} {inside rest : Forest} {e : Element}
    (h : e ∈ inside.elements p) : e ∈ (element tag inside rest).elements p := by
  rw [elements, List.mem_append, List.mem_append]
  exact .inr (.inl h)

theorem mem_elements_rest {p : Bytes → Bool} {tag : Tag} {inside rest : Forest} {e : Element}
    (h : e ∈ rest.elements p) : e ∈ (element tag inside rest).elements p := by
  rw [elements, List.mem_append, List.mem_append]
  exact .inr (.inr h)

theorem mem_elements_rest_of_empty {p : Bytes → Bool} {tag : Tag} {rest : Forest} {e : Element}
    (h : e ∈ rest.elements p) : e ∈ (empty tag rest).elements p := by
  rw [elements, List.mem_append]
  exact .inr h

theorem name_of_mem_elements {p : Bytes → Bool} {f : Forest} {e : Element}
    (h : e ∈ f.elements p) : p e.tag.name = true := by
  -- the element that a node itself is passes the test, if it is listed at all
  have hself {tag : Tag} {inside : Option Forest}
      (h : e ∈ if p tag.name then [(⟨tag, inside⟩ : Element)] else []) : p e.tag.name = true := by
    by_cases hp : p tag.name
    · rw [if_pos hp, List.mem_singleton] at h
      rw [h]
      exact hp
    · rw [if_neg hp] at h
      cases h
  induction f with
  | nil => cases h
  | element tag inside rest ihInside ihRest =>
      rw [elements, List.mem_append, List.mem_append] at h
      rcases h with h | h | h
      · exact hself h
      · exact ihInside h
      · exact ihRest h
  | empty tag rest ih =>
      rw [elements, List.mem_append] at h
      rcases h with h | h
      · exact hself h
      · exact ih h
  | text raw rest ih => exact ih h
  | aside rest ih => exact ih h

/-- What stands in an element of some nodes stands among the nodes. -/
theorem mem_elements_of_mem_body {p q : Bytes → Bool} {f : Forest} {e x : Element}
    (he : e ∈ f.elements q) (hx : x ∈ e.body.elements p) : x ∈ f.elements p := by
  induction f with
  | nil => cases he
  | element tag inside rest ihInside ihRest =>
      rw [elements, List.mem_append, List.mem_append] at he
      rcases he with he | he | he
      · by_cases hq : q tag.name
        · rw [if_pos hq, List.mem_singleton] at he
          rw [he] at hx
          exact mem_elements_inside hx
        · rw [if_neg hq] at he
          cases he
      · exact mem_elements_inside (ihInside he)
      · exact mem_elements_rest (ihRest he)
  | empty tag rest ih =>
      rw [elements, List.mem_append] at he
      rcases he with he | he
      · by_cases hq : q tag.name
        · rw [if_pos hq, List.mem_singleton] at he
          rw [he] at hx
          cases hx
        · rw [if_neg hq] at he
          cases he
      · exact mem_elements_rest_of_empty (ih he)
  | text raw rest ih => exact ih he
  | aside rest ih => exact ih he

/-- The elements that pass one more test. -/
theorem filter_elements (p q : Bytes → Bool) (f : Forest) :
    (f.elements p).filter (fun e => q e.tag.name) = f.elements fun name => p name && q name := by
  -- the element that a node itself is
  have hself (tag : Tag) (inside : Option Forest) :
      (if p tag.name then [(⟨tag, inside⟩ : Element)] else []).filter (fun e => q e.tag.name)
        = if p tag.name && q tag.name then [⟨tag, inside⟩] else [] := by
    cases hp : p tag.name with
    | true => cases hq : q tag.name <;> simp [hq]
    | false => rfl
  induction f with
  | nil => rfl
  | element tag inside rest ihInside ihRest =>
      rw [elements, List.filter_append, List.filter_append, hself, ihInside, ihRest, elements]
  | empty tag rest ih => rw [elements, List.filter_append, hself, ih, elements]
  | text raw rest ih => exact ih
  | aside rest ih => exact ih

/-- The elements that pass a test are among those that pass a weaker one. -/
theorem elements_of_imp {p q : Bytes → Bool} (h : ∀ name, q name = true → p name = true)
    (f : Forest) : f.elements q = (f.elements p).filter fun e => q e.tag.name := by
  have hboth : (fun name => p name && q name) = q := by
    funext name
    cases hq : q name with
    | true => rw [h name hq, Bool.and_true]
    | false => rw [Bool.and_false]
  rw [filter_elements, hboth]

/-- Where no element passes a test, no tag does. -/
theorem apart_of_elements_eq_nil {p : Bytes → Bool} {f : Forest} (h : f.elements p = [])
    {e : Event} (he : e ∈ f.events) : e.Apart p := by
  induction f with
  | nil => cases he
  | element tag inside rest ihInside ihRest =>
      cases hp : p tag.name with
      | true =>
          rw [elements_element_of_true hp] at h
          cases h
      | false =>
          rw [elements_element_of_false hp, List.append_eq_nil_iff] at h
          rw [events, List.mem_cons, List.mem_append, List.mem_cons] at he
          rcases he with rfl | he | rfl | he
          · exact Event.apart_of_name hp rfl
          · exact ihInside h.1 he
          · exact Event.apart_of_name hp rfl
          · exact ihRest h.2 he
  | empty tag rest ih =>
      cases hp : p tag.name with
      | true =>
          rw [elements_empty_of_true hp] at h
          cases h
      | false =>
          rw [elements_empty_of_false hp] at h
          rw [events, List.mem_cons] at he
          rcases he with rfl | he
          · exact Event.apart_of_name hp rfl
          · exact ih h he
  | text raw rest ih =>
      rw [events, List.mem_cons] at he
      rcases he with rfl | he
      · intro name hname
        cases hname
      · exact ih h he
  | aside rest ih =>
      rw [events, List.mem_cons] at he
      rcases he with rfl | he
      · intro name hname
        cases hname
      · exact ih h he

end Forest

/-! ## Flags -/

/-- What keeps a flag of a reader down at rest: the end of an element with a certain name lowers
it, and nothing but the start of one raises it. -/
structure Latch {σ : Type} (step : σ → Event → σ) (p : Bytes → Bool) (flag : σ → Bool) : Prop where
  ends : ∀ s name, p name = true → flag (step s (.finish name)) = false
  single : ∀ s tag, p tag.name = true → flag s = false → flag (step s (.empty tag)) = false
  apart : ∀ s (e : Event), e.Apart p → flag s = false → flag (step s e) = false

/-- **Elements leave such a flag down**, whatever stands in them. -/
theorem Latch.foldl_events {σ : Type} {step : σ → Event → σ} {p : Bytes → Bool} {flag : σ → Bool}
    (hl : Latch step p flag) (f : Forest) {s : σ} (hs : flag s = false) :
    flag (f.events.foldl step s) = false := by
  induction f generalizing s with
  | nil => exact hs
  | element tag inside rest ihInside ihRest =>
      rw [Forest.events, List.foldl_cons, List.foldl_append, List.foldl_cons]
      refine ihRest ?_
      cases hp : p tag.name with
      -- what stands in the element does not matter, as its end lowers the flag
      | true => exact hl.ends _ tag.name hp
      | false =>
          have hstart := hl.apart s (.start tag) (Event.apart_of_name hp rfl) hs
          exact hl.apart _ _ (Event.apart_of_name hp rfl) (ihInside hstart)
  | empty tag rest ih =>
      rw [Forest.events, List.foldl_cons]
      refine ih ?_
      cases hp : p tag.name with
      | true => exact hl.single s tag hp hs
      | false => exact hl.apart s _ (Event.apart_of_name hp rfl) hs
  | text raw rest ih => exact ih (hl.apart s _ (fun _ h => by cases h) hs)
  | aside rest ih => exact ih (hl.apart s _ (fun _ h => by cases h) hs)

/-! ## Well-formed documents -/

/-- The names of the elements open after some events, the innermost first, given those open
before; nothing if an end tag is not that of the innermost open element. -/
def openAfter : List Bytes → List Event → Option (List Bytes)
  | opened, [] => some opened
  | opened, .start tag :: es => openAfter (tag.name :: opened) es
  | [], .finish _ :: _ => none
  | innermost :: outer, .finish name :: es =>
    if name = innermost then openAfter outer es else none
  | opened, .empty _ :: es => openAfter opened es
  | opened, .text _ :: es => openAfter opened es
  | opened, .aside :: es => openAfter opened es

/-- Whether a document is read to its end and leaves no element open. -/
structure Document.WellFormed (d : Document) : Prop where
  fault : d.fault = none
  closed : openAfter [] d.events = some []

theorem openAfter_append {opened mid : List Bytes} {es : List Event}
    (h : openAfter opened es = some mid) (fs : List Event) :
    openAfter opened (es ++ fs) = openAfter mid fs := by
  induction es generalizing opened with
  | nil =>
      cases h
      rfl
  | cons e es ih =>
      rw [List.cons_append]
      cases e with
      | start tag => exact ih h
      | finish name =>
          cases opened with
          | nil => cases h
          | cons innermost outer =>
              rw [openAfter] at h ⊢
              by_cases hname : name = innermost
              · rw [if_pos hname] at h ⊢
                exact ih h
              · rw [if_neg hname] at h
                cases h
      | empty tag => rw [openAfter] at h ⊢; exact ih h
      | text raw => rw [openAfter] at h ⊢; exact ih h
      | aside => rw [openAfter] at h ⊢; exact ih h

theorem Forest.openAfter_events (f : Forest) (opened : List Bytes) :
    openAfter opened f.events = some opened := by
  induction f generalizing opened with
  | nil => rw [events, openAfter]
  | element tag inside rest ihInside ihRest =>
      rw [events, openAfter, openAfter_append (ihInside (tag.name :: opened)), openAfter,
        if_pos rfl]
      exact ihRest opened
  | empty tag rest ih => rw [events, openAfter]; exact ih opened
  | text raw rest ih => rw [events, openAfter]; exact ih opened
  | aside rest ih => rw [events, openAfter]; exact ih opened

/-- Events that close the open elements one after the other, with nodes before each end tag and
behind the last one. -/
def Closes : List Bytes → List Event → Prop
  | [], es => ∃ f : Forest, es = f.events
  | innermost :: outer, es =>
    ∃ (f : Forest) (rest : List Event), es = f.events ++ .finish innermost :: rest ∧
      Closes outer rest

/-- A node in front of events that close the open elements. -/
theorem Closes.cons_node {opened : List Bytes} {es node : List Event} (h : Closes opened es)
    (hnode : ∀ f : Forest, ∃ g : Forest, node ++ f.events = g.events) :
    Closes opened (node ++ es) := by
  cases opened with
  | nil =>
      obtain ⟨f, rfl⟩ := h
      exact hnode f
  | cons innermost outer =>
      obtain ⟨f, rest, rfl, hrest⟩ := h
      obtain ⟨g, hg⟩ := hnode f
      exact ⟨g, rest, by rw [← List.append_assoc, hg], hrest⟩

theorem closes_of_openAfter {opened : List Bytes} {es : List Event}
    (h : openAfter opened es = some []) : Closes opened es := by
  induction es generalizing opened with
  | nil =>
      cases opened with
      | nil => exact ⟨.nil, rfl⟩
      | cons innermost outer => cases h
  | cons e es ih =>
      cases e with
      | start tag =>
          -- the nodes up to the end tag are what stands in the element
          have hclosed : openAfter (tag.name :: opened) es = some [] := h
          obtain ⟨inside, rest, rfl, hrest⟩ := ih hclosed
          have hnode (f : Forest) : ∃ g : Forest,
              .start tag :: (inside.events ++ [.finish tag.name]) ++ f.events = g.events :=
            ⟨.element tag inside f, by simp [Forest.events]⟩
          have hcloses := hrest.cons_node hnode
          rwa [List.cons_append, List.append_assoc, List.singleton_append] at hcloses
      | finish name =>
          cases opened with
          | nil => cases h
          | cons innermost outer =>
              rw [openAfter] at h
              by_cases hname : name = innermost
              · rw [if_pos hname] at h
                subst hname
                -- no node is left in front of the end tag
                exact ⟨.nil, es, rfl, ih h⟩
              · rw [if_neg hname] at h
                cases h
      | empty tag =>
          rw [openAfter] at h
          have hnode (f : Forest) : ∃ g : Forest, [Event.empty tag] ++ f.events = g.events :=
            ⟨.empty tag f, rfl⟩
          exact (ih h).cons_node hnode
      | text raw =>
          rw [openAfter] at h
          have hnode (f : Forest) : ∃ g : Forest, [Event.text raw] ++ f.events = g.events :=
            ⟨.text raw f, rfl⟩
          exact (ih h).cons_node hnode
      | aside =>
          rw [openAfter] at h
          have hnode (f : Forest) : ∃ g : Forest, [Event.aside] ++ f.events = g.events :=
            ⟨.aside f, rfl⟩
          exact (ih h).cons_node hnode

/-- **The well-formed documents are those of forests.** -/
theorem Document.wellFormed_iff {d : Document} : d.WellFormed ↔ ∃ f : Forest, d = f.document := by
  constructor
  · rintro ⟨hfault, hclosed⟩
    obtain ⟨f, hf⟩ := closes_of_openAfter hclosed
    obtain ⟨es, fault⟩ := d
    obtain rfl : fault = none := hfault
    obtain rfl : es = f.events := hf
    exact ⟨f, rfl⟩
  · rintro ⟨f, rfl⟩
    exact ⟨rfl, f.openAfter_events []⟩

/-! ## Scanned documents -/

/-- Whether a step keeps account of the open elements. -/
def Step.Nests (opened : List Bytes) : Step → Prop
  | .event e opened' _ => openAfter opened [e] = some opened'
  | _ => True

theorem Step.Nests.atEnd {opened : List Bytes} {step : Step} (h : step.Nests opened)
    (supply : Supply) : (Step.atEnd supply step).Nests opened := by
  unfold Step.atEnd
  split
  · trivial
  · exact h

theorem Step.nests_atEnd_done (supply : Supply) (opened : List Bytes) :
    (Step.atEnd supply .done).Nests opened := by
  have h : Step.Nests opened .done := trivial
  exact h.atEnd supply

theorem Step.nests_atEnd_failed (supply : Supply) (opened : List Bytes) (fault : Fault) :
    (Step.atEnd supply (.failed fault)).Nests opened := by
  have h : Step.Nests opened (.failed fault) := trivial
  exact h.atEnd supply

theorem markupStep_nests (supply : Supply) (opened : List Bytes) (s : Bytes) :
    (markupStep supply opened s).Nests opened := by
  unfold markupStep
  split
  · exact Step.nests_atEnd_failed supply opened _
  · split
    · trivial
    · split
      · exact Step.nests_atEnd_failed supply opened _
      · split
        · trivial
        · split
          · split
            · trivial
            · exact rfl
          · exact rfl

theorem endStep_nests (opened : List Bytes) (content rest : Bytes) :
    (endStep opened content rest).Nests opened := by
  unfold endStep
  split
  · trivial
  · split
    · exact if_pos rfl
    · trivial

theorem instructionStep_nests (opened : List Bytes) (content rest : Bytes) :
    (instructionStep opened content rest).Nests opened := by
  unfold instructionStep
  split
  · exact rfl
  · trivial

theorem tagStep_nests (opened : List Bytes) (content rest : Bytes) :
    (tagStep opened content rest).Nests opened := by
  unfold tagStep
  split
  · exact rfl
  · exact rfl

theorem splitStep_nests {opened : List Bytes} {step : Bytes → Bytes → Step}
    (h : ∀ content rest, (step content rest).Nests opened) (supply : Supply)
    (parts : Bytes × Option Bytes) : (splitStep supply parts step).Nests opened := by
  obtain ⟨content, after⟩ := parts
  cases after with
  | none => exact (h content []).atEnd supply
  | some rest => exact h content rest

theorem openStep_nests (supply : Supply) (opened : List Bytes) (s : Bytes) :
    (openStep supply opened s).Nests opened := by
  unfold openStep
  split
  · exact Step.nests_atEnd_done supply opened
  · split
    · exact markupStep_nests supply opened _
    · split
      · exact splitStep_nests (endStep_nests opened) supply _
      · split
        · exact splitStep_nests (instructionStep_nests opened) supply _
        · exact splitStep_nests (tagStep_nests opened) supply _

/-- **No step leaves an end tag out of place.** -/
theorem nextStep_nests (supply : Supply) (opened : List Bytes) (s : Bytes) :
    (nextStep supply opened s).Nests opened := by
  unfold nextStep
  split
  · exact Step.nests_atEnd_done supply opened
  · split
    · exact openStep_nests supply opened _
    · dsimp only
      split
      · have h (raw : Bytes) : Step.Nests opened (.event (.text raw) opened []) := rfl
        exact (h _).atEnd supply
      · exact rfl

theorem openAfter_scanFrom (supply : Supply) (done : List Event) (opened : List Bytes) (s : Bytes)
    (h : openAfter [] done.reverse = some opened) :
    ∃ opened', openAfter [] (scanFrom supply done opened s).events = some opened' := by
  fun_induction scanFrom supply done opened s with
  | case1 done opened s hstep => exact ⟨opened, h⟩
  | case2 done opened s fault hstep => exact ⟨opened, h⟩
  | case3 done opened s e opened' rest hstep _ ih =>
      have hnests := nextStep_nests supply opened s
      rw [hstep] at hnests
      refine ih ?_
      -- `done` has the last event first
      rw [List.reverse_cons, openAfter_append h]
      exact hnests

/-- **The end tags of a scanned document are in place**, whatever its bytes are; only elements
that are still open can keep it from being well-formed. -/
theorem openAfter_scan (pieces : List Bytes) (damage : Option String) :
    ∃ opened, openAfter [] (scan pieces damage).events = some opened :=
  openAfter_scanFrom _ [] [] _ rfl

/-- Whether an element is open at the end of a document. -/
def Document.LeavesOpen (d : Document) : Prop :=
  ∃ innermost outer, openAfter [] d.events = some (innermost :: outer)

/-- **A document that is scanned to its end is that of a forest**, unless it leaves an element
open. -/
theorem forest_of_scan {pieces : List Bytes} {damage : Option String}
    (h : (scan pieces damage).fault = none) :
    (scan pieces damage).LeavesOpen ∨ ∃ f : Forest, scan pieces damage = f.document := by
  obtain ⟨opened, hopened⟩ := openAfter_scan pieces damage
  cases opened with
  | nil => exact .inr (Document.wellFormed_iff.mp ⟨h, hopened⟩)
  | cons innermost outer => exact .inl ⟨innermost, outer, hopened⟩

end SheetInspector.Xml
