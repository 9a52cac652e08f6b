import SheetInspector.Proofs.Csv.Records
import SheetInspector.Proofs.Xlsx.EndedCells

set_option autoImplicit false

/-! # Sheets that are read are made by changes

Whatever records or events a reader is given, what it does to the sheet it reads into is to change
it, so a sheet that is read is one that changes make of an empty sheet with the right name, and has
their invariant (`Csv.made_sheetOfRecords`, `Xlsx.made_readSheetPart`). Nothing is asked of the
records and of the events: no record needs to be as long as another, and no element to be closed.
-/

namespace SheetInspector

/-- **A sheet of records is made by changes**, whatever the records are. -/
theorem Csv.made_sheetOfRecords {o : Options} {rs : List (Except RecordFault (List String))}
    {s : Sheet} (h : sheetOfRecords o rs = .ok s) : s.Made o.sheetName := by
  obtain ⟨records, -, -, rfl⟩ := sheetOfRecords_eq_ok h
  exact ⟨_, rfl⟩

/-- **A sheet that is read from a part is made by changes**, whatever events the part has. -/
theorem Xlsx.made_readSheetPart {shared : Array String} {name : String} {d : Xml.Document}
    {s : Sheet} (h : readSheetPart shared name d = .ok s) : s.Made name :=
  (storesCells_readSheetPart h).made

end SheetInspector
