import SheetInspector.Log.Basic
import SheetInspector.Workbook
import SheetInspector.Xlsx.Catalog
import SheetInspector.Xlsx.SharedText
import SheetInspector.Xlsx.SheetPart

set_option autoImplicit false

/-! # Workbooks from packages

A workbook is read from its package in a fixed order: first the list of content types has to
be there, then come the shared texts, the workbook part, the relationships, and the sheets in
the order in which the workbook part lists them. A sheet that no worksheet relationship leads
to is left out, with a warning, but still counts for the index of the active sheet. A workbook
without any sheet gets an empty one.
-/

namespace SheetInspector.Xlsx

/-- The names that records of the package reader, of its shared texts and of its sheets come
under. -/
def logSource : String := "cellscope_xlsx::reader"

/-- The document in a part. -/
def document (c : Zip.Content) : Xml.Document := Xml.scan c.pieces c.damage

/-- The document in a part that is needed. -/
def neededDocument (p : Package) (name : String) : Except Fault Xml.Document :=
  match p name with
  | none => .error (.missingPart name)
  | some c => .ok (document c)

/-- The shared texts of a package; a package may do without them. -/
def loadSharedTexts (p : Package) : Logged Fault (Array String) := do
  match p "xl/sharedStrings.xml" with
  | none => return #[]
  | some c =>
    let shared ← Logged.ofExcept (readSharedTexts (document c))
    Logged.debug (logSource ++ "::strings")
      ("read " ++ toString shared.size ++ " shared strings")
    return shared

/-- The sheet in a part. -/
def loadSheet (p : Package) (shared : Array String) (name part : String) : Logged Fault Sheet := do
  let d ← Logged.ofExcept (neededDocument p part)
  let s ← Logged.ofExcept (readSheetPart shared name d)
  Logged.debug (logSource ++ "::sheet")
    ("read worksheet '" ++ name ++ "' from " ++ part ++ ": " ++ toString s.extent.rows ++
      " rows x " ++ toString s.extent.columns ++ " columns")
  return s

/-- A workbook under construction, and the index in it of the sheet that is to be active. -/
structure Assembly where
  workbook : Workbook
  active : Option Nat

/-- Adds the listed sheets from index `tab` on. -/
def addSheets (p : Package) (shared : Array String) (relationships : Relationships)
    (activeTab tab : Nat) (a : Assembly) : List SheetEntry → Logged Fault Assembly
  | [] => return a
  | entry :: rest => do
    match relationships.part? entry.relationship with
    | none =>
      Logged.warn logSource
        ("sheet '" ++ entry.name ++ "' has no worksheet relationship (" ++ entry.relationship ++
          "), skipping")
      addSheets p shared relationships activeTab (tab + 1) a rest
    | some part =>
      let s ← loadSheet p shared entry.name part
      let active := if tab = activeTab then some a.workbook.sheets.length else a.active
      let (workbook, _) ← Logged.ofExcept ((a.workbook.add s).mapError .sheet)
      addSheets p shared relationships activeTab (tab + 1) { workbook, active } rest

/-- The finished workbook: it has at least one sheet, and the right one is active. -/
def Assembly.finish (a : Assembly) : Except Fault Workbook := do
  let w ←
    if a.workbook.sheets.isEmpty then
      (a.workbook.add (Sheet.new "Sheet1")).mapError .sheet >>= fun (w, _) => pure w
    else pure a.workbook
  match a.active with
  | none => return w
  | some index => (w.activate index).mapError .sheet

/-- Reads the workbook of a package. -/
def loadPackage (p : Package) : Logged Fault Workbook := do
  if (p "[Content_Types].xml").isNone then throw .noContentTypes
  let shared ← loadSharedTexts p
  let outline ← Logged.ofExcept (neededDocument p "xl/workbook.xml" >>= readOutline)
  let relationships ←
    Logged.ofExcept (neededDocument p "xl/_rels/workbook.xml.rels" >>= readRelationships)
  let a ← addSheets p shared relationships outline.activeTab 0 ⟨.empty, none⟩ outline.entries
  Logged.ofExcept a.finish

/-- Reads the workbook in the bytes of a package. -/
def loadBytes (s : Bytes) : Logged Fault Workbook := do
  let archive ← Logged.ofExcept ((Zip.openArchive s).mapError .archive)
  loadPackage archive.content?

end SheetInspector.Xlsx
