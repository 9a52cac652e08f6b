set_option autoImplicit false

/-! # Faults of sheets and workbooks

What can go wrong when an address is read, a position is used or a sheet is looked up, and
the text that reports it.
-/

namespace SheetInspector

/-- Why a text is not an address or not a column name. -/
inductive AddressFault where
  /-- The address is blank. -/
  | empty
  /-- No letters at the start of the address. -/
  | noLetters (address : String)
  /-- Nothing after the letters. -/
  | noRow (address : String)
  /-- What follows the letters is not a natural number of 32 bits. -/
  | badRow (address : String)
  /-- Row zero. -/
  | zeroRow (address : String)
  /-- A column name without letters. -/
  | emptyLetters
  /-- A column name with another character. -/
  | badLetter (letter : Char)
  deriving DecidableEq, Repr

/-- The reason as it is reported. -/
def AddressFault.message : AddressFault → String
  | .empty => "empty address"
  | .noLetters address => "no column letters in '" ++ address ++ "'"
  | .noRow address => "no row number in '" ++ address ++ "'"
  | .badRow address => "invalid row number in '" ++ address ++ "'"
  | .zeroRow address => "row number must be >= 1 in '" ++ address ++ "'"
  | .emptyLetters => "empty column letters"
  | .badLetter letter => "invalid column letter '" ++ letter.toString ++ "'"

/-- A fault in the use of a sheet or a workbook. -/
inductive SheetFault where
  /-- A text that is not an address, with the reason. -/
  | invalidAddress (reason : String)
  /-- A row outside `1 … max`. -/
  | rowOutOfBounds (row max : Nat)
  /-- A column outside `1 … max`. -/
  | columnOutOfBounds (column max : Nat)
  /-- A sheet index not below the number of sheets. -/
  | sheetOutOfBounds (index count : Nat)
  /-- No sheet has this name. -/
  | sheetNotFound (name : String)
  /-- A second sheet of the same name. -/
  | duplicateName (name : String)
  /-- The workbook holds no sheet at all. -/
  | noSheets
  /-- A fault that a source of cells reports in its own words. -/
  | other (text : String)
  deriving DecidableEq, Repr

namespace SheetFault

/-- The fault of a text that is not an address. -/
def ofAddress (fault : AddressFault) : SheetFault := .invalidAddress fault.message

/-- The text of the fault. -/
def message : SheetFault → String
  | .invalidAddress reason => "Invalid cell address: " ++ reason
  | .rowOutOfBounds row max =>
    "Row index " ++ toString row ++ " out of bounds (max: " ++ toString max ++ ")"
  | .columnOutOfBounds column max =>
    "Column index " ++ toString column ++ " out of bounds (max: " ++ toString max ++ ")"
  | .sheetOutOfBounds index count =>
    "Sheet index " ++ toString index ++ " out of bounds (count: " ++ toString count ++ ")"
  | .sheetNotFound name => "Sheet not found: " ++ name
  | .duplicateName name => "Sheet name already exists: " ++ name
  | .noSheets => "Workbook contains no worksheets"
  | .other text => text

/-- Whether the fault is a position outside the rows or columns that there are. -/
def isOutOfBounds : SheetFault → Bool
  | .rowOutOfBounds _ _ => true
  | .columnOutOfBounds _ _ => true
  | _ => false

end SheetFault

end SheetInspector
