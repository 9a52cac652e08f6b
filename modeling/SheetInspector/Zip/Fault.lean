import SheetInspector.Storage.Basic

set_option autoImplicit false

/-! # Faults of archives

Why no archive is found in a file.
-/

namespace SheetInspector.Zip

/-- Why an archive cannot be read. -/
inductive Fault where
  /-- The file itself cannot be read. -/
  | unreadable (fault : StorageFault)
  /-- The file ends within a record. -/
  | truncated
  /-- There is no record at the end of an archive. -/
  | noEndRecord
  /-- The comment of the end record goes beyond the end of the file. -/
  | longComment
  /-- The end record places the directory behind itself. -/
  | misplacedDirectory
  /-- There is no directory where the end record places it. -/
  | noDirectory
  /-- The locator places the wide end record behind itself. -/
  | misplacedWideRecord
  /-- The archive is spread over several disks. -/
  | severalDisks
  /-- The wide end record is too short for its numbers. -/
  | shortWideRecord
  /-- The wide end record reaches into the locator. -/
  | longWideRecord
  /-- The wide end record and the locator name different disks. -/
  | otherDisk
  /-- The wide end record does not reach up to the locator. -/
  | looseWideRecord
  /-- There is no room for as many files as the wide end record counts. -/
  | tooManyFiles
  /-- There is no wide end record where the locator places it. -/
  | noWideRecord
  deriving DecidableEq, Repr

namespace Fault

/-- The report of a fault. -/
def message : Fault → String
  | .unreadable _ => "i/o error"
  | .truncated => "i/o error"
  | .noEndRecord => invalid "Could not find EOCD"
  | .longComment => invalid "EOCD comment exceeds file boundary"
  | .misplacedDirectory => invalid "Invalid CDFH offset in EOCD"
  | .noDirectory => invalid "No CDFH found"
  | .misplacedWideRecord => invalid "Invalid EOCD64 Locator CD offset"
  | .severalDisks => invalid "Multi-disk ZIP files are not supported"
  | .shortWideRecord => invalid "Low EOCD64 record size"
  | .longWideRecord => invalid "EOCD64 extends beyond EOCD64 locator"
  | .otherDisk => invalid "Invalid EOCD64: inconsistency with Locator data"
  | .looseWideRecord => invalid "Invalid EOCD64: inconsistent length"
  | .tooManyFiles => invalid "Invalid EOCD64: inconsistent number of files"
  | .noWideRecord => invalid "Could not find EOCD64"
where
  invalid (reason : String) : String := "invalid Zip archive: " ++ reason

/-- The reports of what is behind a fault. -/
def causes : Fault → List String
  | .unreadable fault => [fault.message]
  | .truncated => ["failed to fill whole buffer"]
  | _ => []

end Fault

end SheetInspector.Zip
