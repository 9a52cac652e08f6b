import SheetInspector.Proofs.Xlsx.Package

set_option autoImplicit false

/-! # The tags that list sheets, and the active one among them

The workbook part and the relationships part matter by their tags alone, wherever these stand: what
is read of such a part is what its tags say one after the other (`readDocument_tags`). So the sheets
of a workbook can be told from the tags that list them, and the active one is told by its place
among those of these tags that have a name and a relationship (`tabs_of_loadPackage`). A tag without
them is not counted, so behind one the active sheet is another than the one with that index among
all tags (`chartTabs_shift`).
-/

namespace SheetInspector

namespace Xml

/-- The tag in an event, unless it is an end tag. -/
def Event.tag? : Event → Option Tag
  | .start tag => some tag
  | .empty tag => some tag
  | _ => none

/-- The tags among some events with a name, in document order. -/
def tagsNamed (name : String) (es : List Event) : List Tag :=
  (es.filterMap Event.tag?).filter fun tag => tag.name = asciiName name

end Xml

namespace Xlsx

/-- **A reader that looks at tags alone reads what they say one after the other.** -/
theorem readDocument_tags {σ : Type} {step : σ → Xml.Event → Except Fault σ}
    {read : σ → Xml.Tag → σ}
    (hstep : ∀ s e, step s e = .ok ((e.tag?.map (read s)).getD s)) {start s : σ} {d : Xml.Document}
    (h : readDocument step start d = .ok s) :
    s = (d.events.filterMap Xml.Event.tag?).foldl read start := by
  have hfold (es : List Xml.Event) (start : σ) :
      es.foldlM step start = .ok ((es.filterMap Xml.Event.tag?).foldl read start) := by
    induction es generalizing start with
    | nil => rfl
    | cons e es ih =>
        rw [List.foldlM_cons, hstep]
        cases htag : e.tag? with
        | none =>
            rw [List.filterMap_cons_none htag]
            exact ih start
        | some tag =>
            rw [List.filterMap_cons_some htag]
            exact ih (read start tag)
  rw [readDocument_eq_ok_iff, hfold] at h
  exact (Except.ok.inj h.1).symm

/-! ## The workbook part -/

namespace Outline

/-- The sheet that a tag lists, if it has a name and a relationship. -/
def listed? (tag : Xml.Tag) : Option SheetEntry :=
  match lastAttribute? tag "name", lastAttribute? tag "r:id" with
  | some name, some relationship => some ⟨name, relationship⟩
  | _, _ => none

/-- The index of the active sheet in the tag of a view, if there is one. What is no index counts as
zero. -/
def tab? (tag : Xml.Tag) : Option Nat :=
  if tag.attributes.any (·.key = Xml.asciiName "activeTab") then
    some (((lastAttribute? tag "activeTab").bind fun text => natOfBits? 64 text.toList).getD 0)
  else none

theorem readTag_sheet {tag : Xml.Tag} (h : tag.name = Xml.asciiName "sheet") (o : Outline) :
    o.readTag tag = { o with reversed := (listed? tag).toList ++ o.reversed } := by
  rw [readTag, if_pos h, listed?]
  cases lastAttribute? tag "name" with
  | none => rfl
  | some name =>
      cases lastAttribute? tag "r:id" with
      | none => rfl
      | some relationship => rfl

theorem readTag_view {tag : Xml.Tag} (h : tag.name = Xml.asciiName "workbookView") (o : Outline) :
    o.readTag tag = { o with activeTab := (tab? tag).getD o.activeTab } := by
  have hsheet : tag.name ≠ Xml.asciiName "sheet" := by
    rw [h]
    decide
  rw [readTag, if_neg hsheet, if_pos h, tab?]
  by_cases hany : (tag.attributes.any (·.key = Xml.asciiName "activeTab")) = true
  · rw [if_pos hany, if_pos hany]
    rfl
  · rw [if_neg hany, if_neg hany]
    rfl

theorem readTag_of_ne {tag : Xml.Tag} (hsheet : tag.name ≠ Xml.asciiName "sheet")
    (hview : tag.name ≠ Xml.asciiName "workbookView") (o : Outline) : o.readTag tag = o := by
  rw [readTag, if_neg hsheet, if_neg hview]

/-- **What the tags of the workbook part say**: sheets and views do not get in each other's way. -/
theorem foldl_readTag (tags : List Xml.Tag) (o : Outline) :
    (tags.foldl readTag o).entries
        = o.entries ++ (tags.filter fun tag => tag.name = Xml.asciiName "sheet").filterMap listed? ∧
      (tags.foldl readTag o).activeTab
        = ((tags.filter fun tag => tag.name = Xml.asciiName "workbookView").filterMap
            tab?).getLast?.getD o.activeTab := by
  induction tags generalizing o with
  | nil => exact ⟨(List.append_nil _).symm, rfl⟩
  | cons tag tags ih =>
      rw [List.foldl_cons, (ih _).1, (ih _).2]
      by_cases hsheet : tag.name = Xml.asciiName "sheet"
      · have hview : tag.name ≠ Xml.asciiName "workbookView" := by
          rw [hsheet]
          decide
        rw [readTag_sheet hsheet, List.filter_cons_of_pos (by simpa using hsheet),
          List.filter_cons_of_neg (by simpa using hview), entries, entries, List.reverse_append]
        cases hentry : listed? tag with
        | none =>
            rw [List.filterMap_cons_none hentry]
            exact ⟨by simp, rfl⟩
        | some entry =>
            rw [List.filterMap_cons_some hentry]
            exact ⟨by simp, rfl⟩
      · rw [List.filter_cons_of_neg (by simpa using hsheet)]
        by_cases hview : tag.name = Xml.asciiName "workbookView"
        · rw [readTag_view hview, List.filter_cons_of_pos (by simpa using hview)]
          refine ⟨rfl, ?_⟩
          cases htab : tab? tag with
          | none =>
              rw [List.filterMap_cons_none htab]
              rfl
          | some tab =>
              rw [List.filterMap_cons_some htab, List.getLast?_cons]
              rfl
        · rw [readTag_of_ne hsheet hview, List.filter_cons_of_neg (by simpa using hview)]
          exact ⟨rfl, rfl⟩

end Outline

/-- The tags that list sheets. -/
def sheetTags (d : Xml.Document) : List Xml.Tag := Xml.tagsNamed "sheet" d.events

/-- The index of the active sheet: the last view that gives one decides. -/
def activeTab (d : Xml.Document) : Nat :=
  ((Xml.tagsNamed "workbookView" d.events).filterMap Outline.tab?).getLast?.getD 0

theorem readOutline_eq_ok {d : Xml.Document} {o : Outline} (h : readOutline d = .ok o) :
    o.entries = (sheetTags d).filterMap Outline.listed? ∧ o.activeTab = activeTab d := by
  have hstep (o : Outline) (e : Xml.Event) :
      o.step e = .ok ((e.tag?.map o.readTag).getD o) := by
    cases e <;> rfl
  rw [readDocument_tags hstep h]
  exact Outline.foldl_readTag _ .initial

/-! ## The relationships part -/

namespace Relationships

/-- The worksheet relationship in a tag. -/
def link? (tag : Xml.Tag) : Option (String × String) :=
  match lastAttribute? tag "Id", lastAttribute? tag "Target", lastAttribute? tag "Type" with
  | some id, some target, some type =>
    if type.endsWith "/worksheet" then some (id, resolveTarget target) else none
  | _, _, _ => none

theorem readTag_relationship {tag : Xml.Tag} (h : tag.name = Xml.asciiName "Relationship")
    (r : Relationships) : r.readTag tag = (link? tag).toList ++ r := by
  rw [readTag, if_pos h, link?]
  cases lastAttribute? tag "Id" with
  | none => rfl
  | some id =>
      cases lastAttribute? tag "Target" with
      | none => rfl
      | some target =>
          cases lastAttribute? tag "Type" with
          | none => rfl
          | some type => cases htype : type.endsWith "/worksheet" <;> simp [htype]

theorem foldl_readTag (tags : List Xml.Tag) (r : Relationships) :
    tags.foldl readTag r
      = ((tags.filter fun tag => tag.name = Xml.asciiName "Relationship").filterMap link?).reverse
          ++ r := by
  induction tags generalizing r with
  | nil => rfl
  | cons tag tags ih =>
      rw [List.foldl_cons, ih]
      by_cases hname : tag.name = Xml.asciiName "Relationship"
      · rw [readTag_relationship hname, List.filter_cons_of_pos (by simpa using hname)]
        cases hlink : link? tag with
        | none =>
            rw [List.filterMap_cons_none hlink]
            rfl
        | some link =>
            rw [List.filterMap_cons_some hlink, List.reverse_cons, List.append_assoc]
            rfl
      · rw [readTag, if_neg hname, List.filter_cons_of_neg (by simpa using hname)]

end Relationships

/-- The worksheet relationships that the tags of a part give, the latest first. -/
def worksheetLinks (d : Xml.Document) : Relationships :=
  ((Xml.tagsNamed "Relationship" d.events).filterMap Relationships.link?).reverse

theorem readRelationships_eq_ok {d : Xml.Document} {r : Relationships}
    (h : readRelationships d = .ok r) : r = worksheetLinks d := by
  have hstep (r : Relationships) (e : Xml.Event) :
      r.step e = .ok ((e.tag?.map r.readTag).getD r) := by
    cases e <;> rfl
  rw [readDocument_tags hstep h, Relationships.foldl_readTag]
  exact List.append_nil _

/-! ## Sheets -/

/-- The sheet that a tag lists and the name of its part, if the tag is complete and a worksheet
relationship leads to one. -/
def worksheet? (relationships : Xml.Document) (tag : Xml.Tag) : Option (SheetEntry × String) :=
  (Outline.listed? tag).bind (worksheetLinks relationships).leads?

/-- The place among what is made of what is made of elements. -/
theorem placeAmong_bind {α β γ : Type} (f : α → Option β) (g : β → Option γ) (xs : List α)
    (i : Nat) :
    placeAmong g (xs.filterMap f) (placeAmong f xs i)
      = placeAmong (fun x => (f x).bind g) xs i := by
  have hsplit : xs.filterMap f = (xs.take i).filterMap f ++ (xs.drop i).filterMap f := by
    rw [← List.filterMap_append, List.take_append_drop]
  rw [placeAmong, placeAmong, hsplit, List.take_left, List.filterMap_filterMap, placeAmong]

/-- **Which sheets a workbook has, and which one is active.** The sheets are, in file order, those
of the tags that list one to which a worksheet relationship leads, each as its part is read, and a
single empty one if there are none. The active one is that of the tag whose place, among the tags
that have a name and a relationship, is the index that the views give; if no such tag leads to a
sheet, it is the first one. Where all tags have a name and a relationship, these places are the
indices among all tags. -/
theorem tabs_of_loadPackage {p : Package} {w : Workbook} (h : (loadPackage p).result = .ok w) :
    ∃ shared d relationships sheets,
      sharedTexts p = .ok shared ∧ neededDocument p "xl/workbook.xml" = .ok d ∧
      neededDocument p "xl/_rels/workbook.xml.rels" = .ok relationships ∧
      List.Forall₂ (ReadsAs p shared) ((sheetTags d).filterMap (worksheet? relationships)) sheets ∧
      w.sheets = (if sheets = [] then [Sheet.new "Sheet1"] else sheets) ∧
      (∀ i tag x, (sheetTags d)[i]? = some tag → worksheet? relationships tag = some x →
        placeAmong Outline.listed? (sheetTags d) i = activeTab d →
          w.active = placeAmong (worksheet? relationships) (sheetTags d) i ∧
          ∃ s, w.sheet? w.active = some s ∧ ReadsAs p shared x s) ∧
      ((∀ i tag, (sheetTags d)[i]? = some tag →
        placeAmong Outline.listed? (sheetTags d) i = activeTab d →
          worksheet? relationships tag = none) → w.active = 0) ∧
      ((∀ tag ∈ sheetTags d, (Outline.listed? tag).isSome) →
        ∀ i ≤ (sheetTags d).length, placeAmong Outline.listed? (sheetTags d) i = i) := by
  obtain ⟨shared, outline, r, sheets, hreads⟩ := loadPackage_reads h
  obtain ⟨d, hd, houtline⟩ := bind_eq_ok_iff.mp hreads.outline_eq
  obtain ⟨relationships, hrelationships, hlinks⟩ := bind_eq_ok_iff.mp hreads.relationships_eq
  obtain ⟨hentries, htab⟩ := readOutline_eq_ok houtline
  obtain rfl : r = worksheetLinks relationships := readRelationships_eq_ok hlinks
  have hread := hreads.read
  have hactive := hreads.active_eq
  rw [hentries, List.filterMap_filterMap] at hread
  rw [hentries, htab] at hactive
  refine ⟨shared, d, relationships, sheets, hreads.shared_eq, hd, hrelationships, hread,
    hreads.sheets_eq, fun i tag x htag hx hplace => ?_, fun hnone => ?_, fun hall i hi => ?_⟩
  · obtain ⟨entry, hentry, hleads⟩ := Option.bind_eq_some_iff.mp hx
    have hat : ((sheetTags d).filterMap Outline.listed?)[activeTab d]? = some entry :=
      getElem?_filterMap_iff.mpr ⟨i, tag, htag, hentry, hplace⟩
    rw [hat, Option.bind_some, hleads, ← hplace, placeAmong_bind] at hactive
    have hindex : w.active = placeAmong (worksheet? relationships) (sheetTags d) i := hactive
    refine ⟨hindex, ?_⟩
    have hlisted : ((sheetTags d).filterMap (worksheet? relationships))[w.active]? = some x :=
      getElem?_filterMap_iff.mpr ⟨i, tag, htag, hx, hindex.symm⟩
    obtain ⟨s, hs, hreadsAs⟩ := getElem?_of_forall₂ hread hlisted
    have hne : sheets ≠ [] := List.ne_nil_of_mem (List.mem_of_getElem? hs)
    rw [Workbook.sheet?, hreads.sheets_eq, if_neg hne]
    exact ⟨s, hs, hreadsAs⟩
  · -- no tag with the place of the active one leads to a sheet
    have hmissing : (((sheetTags d).filterMap Outline.listed?)[activeTab d]?).bind
        (worksheetLinks relationships).leads? = none := by
      cases hat : ((sheetTags d).filterMap Outline.listed?)[activeTab d]? with
      | none => rfl
      | some entry =>
          obtain ⟨i, tag, htag, hentry, hplace⟩ := getElem?_filterMap_iff.mp hat
          have htagNone := hnone i tag htag hplace
          rw [worksheet?, hentry] at htagNone
          exact htagNone
    rw [hactive, hmissing]
    rfl
  · exact placeAmong_eq_self hall hi

/-- A package with the given workbook part, and a worksheet relationship that leads to an empty
part. -/
def onePartPackage (workbook : String) : Package := fun name =>
  let part (s : String) : Option Zip.Content := some ⟨[Xml.asciiName s], none⟩
  if name = "[Content_Types].xml" then part ""
  else if name = "xl/workbook.xml" then part workbook
  else if name = "xl/_rels/workbook.xml.rels" then
    part "<Relationship Id='1' Target='a' Type='/worksheet'/>"
  else if name = "xl/a" then part ""
  else none

/-- A list of two sheets, the first without a worksheet relationship. -/
def twoTabs : String :=
  "<workbookView activeTab='1'/><sheet name='A' r:id='9'/><sheet name='B' r:id='1'/>"

theorem tabs_of_twoTabs :
    ∃ w s, (loadPackage (onePartPackage twoTabs)).result = .ok w ∧ w.names = ["B"] ∧
      w.active = 0 ∧ w.activeSheet = .ok s ∧
      ReadsAs (onePartPackage twoTabs) #[] (⟨"B", "1"⟩, "xl/a") s := by
  have hload : (loadPackage (onePartPackage twoTabs)).result.toOption.map Workbook.names
      = some ["B"] := by
    decide +kernel
  obtain ⟨w, hw, hnames⟩ := Option.map_eq_some_iff.mp hload
  rw [toOption_eq_some_iff] at hw
  obtain ⟨shared, d, relationships, sheets, hshared, hd, hrelationships, -, -, hactive, -⟩ :=
    tabs_of_loadPackage hw
  cases hshared
  cases hd
  cases hrelationships
  have hevents : (document ⟨[Xml.asciiName twoTabs], none⟩).events
      = [.empty ⟨Xml.asciiName "workbookView", Xml.asciiName " activeTab='1'"⟩,
        .empty ⟨Xml.asciiName "sheet", Xml.asciiName " name='A' r:id='9'"⟩,
        .empty ⟨Xml.asciiName "sheet", Xml.asciiName " name='B' r:id='1'"⟩] := by
    decide +kernel
  rw [sheetTags, activeTab, hevents] at hactive
  obtain ⟨hindex, s, hs, hreads⟩ := hactive 1
    ⟨Xml.asciiName "sheet", Xml.asciiName " name='B' r:id='1'"⟩ (⟨"B", "1"⟩, "xl/a")
    (by decide +kernel) (by decide +kernel) (by decide +kernel)
  have hplace : w.active = 0 := hindex.trans (by decide +kernel)
  exact ⟨w, s, hw, hnames, hplace, Workbook.activeSheet_of_sheet? hs, hreads⟩

/-- A list of three sheets, the first without any relationship. -/
def chartTabs : String :=
  "<workbookView activeTab='1'/><sheet name='A'/><sheet name='B' r:id='1'/>" ++
    "<sheet name='C' r:id='1'/>"

/-- **A tag without a relationship shifts the active sheet**: the index of the active one is that of
the second tag, which lists the sheet B, but the sheet C is active. -/
theorem chartTabs_shift :
    (loadPackage (onePartPackage chartTabs)).result.toOption.map
        (fun w => (w.names, w.activeSheet.toOption.map Sheet.name))
      = some (["B", "C"], some "C") ∧
    (neededDocument (onePartPackage chartTabs) "xl/workbook.xml").toOption.map
        (fun d => (activeTab d, ((sheetTags d)[1]?).bind Outline.listed?))
      = some (1, some ⟨"B", "1"⟩) := by
  constructor
  · decide +kernel
  · decide +kernel

end Xlsx

end SheetInspector
