import SheetInspector.Text.Utf8

set_option autoImplicit false

/-! # Stored files

What can be found at a path: a file with its bytes, a directory, or nothing that can be
opened. A program that reads files needs no more than a function from paths to such entries,
so a tree of files in memory serves it as well as a disk does.
-/

namespace SheetInspector

/-- Why a path cannot be opened or read. -/
inductive StorageFault where
  /-- Nothing has this name. -/
  | absent
  /-- A part of the path that should be a directory is a file. -/
  | notDirectory
  /-- A directory was read as if it were a file. -/
  | isDirectory
  /-- A part of the path, or the whole path, is too long. -/
  | nameTooLong
  /-- The path holds the null character. -/
  | nullInName
  /-- Anything else, in the words of the operating system. -/
  | other (text : String)
  deriving DecidableEq, Repr

/-- The operating system's report of a fault. -/
def StorageFault.message : StorageFault → String
  | .absent => "No such file or directory (os error 2)"
  | .notDirectory => "Not a directory (os error 20)"
  | .isDirectory => "Is a directory (os error 21)"
  | .nameTooLong => "File name too long (os error 36)"
  | .nullInName => "file name contained an unexpected NUL byte"
  | .other text => text

/-- What is found at a path. -/
inductive StorageEntry where
  | unavailable (fault : StorageFault)
  | directory
  | file (content : Bytes)
  deriving DecidableEq, Repr

/-- Whether a path leads to a file. -/
def StorageEntry.isFile : StorageEntry → Bool
  | .file _ => true
  | _ => false

/-- What is found at each path. -/
abbrev Storage := String → StorageEntry

end SheetInspector
