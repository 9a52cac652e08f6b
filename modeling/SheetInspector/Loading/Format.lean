import SheetInspector.Storage.Path
import SheetInspector.Text.Casing

set_option autoImplicit false

/-! # File formats

The format of a file is told from the extension of its path, in any case.
-/

namespace SheetInspector

/-- The formats that can be read. -/
inductive FileFormat where
  | xlsx
  | csv
  | tsv
  deriving DecidableEq, Repr

namespace FileFormat

/-- The name of a format. -/
def name : FileFormat → String
  | .xlsx => "Xlsx"
  | .csv => "Csv"
  | .tsv => "Tsv"

/-- The extensions and their formats. -/
def extensions : List (List Char × FileFormat) :=
  [("xlsx".toList, .xlsx), ("xlsm".toList, .xlsx), ("csv".toList, .csv), ("tsv".toList, .tsv)]

/-- The format of the file at a path. -/
def ofPath? (path : String) : Option FileFormat :=
  (Path.extension? path).bind fun extension => extensions.lookup (Text.lower extension)

end FileFormat

end SheetInspector
