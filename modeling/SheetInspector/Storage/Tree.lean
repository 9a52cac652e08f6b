import SheetInspector.Storage.Basic
import SheetInspector.Storage.Path

set_option autoImplicit false

/-! # A tree of files in memory

Files and directories given by their paths, and the walk along a path. Every part but the last
has to be a directory, and a path that ends in a slash has to lead to one. A path may lead out of
the tree, upwards or by a slash in front, but not into it again.
-/

namespace SheetInspector

/-- A tree of files: the parts of each path, and the bytes of a file or nothing for a
directory. The directories on the way to an entry exist without being listed. -/
structure FileTree where
  entries : List (List String × Option Bytes)
  deriving DecidableEq, Repr

namespace FileTree

/-- The tree of files with the given paths. -/
def ofList (files : List (String × Option Bytes)) : FileTree :=
  ⟨files.map fun (path, content) => (Path.parts path, content)⟩

/-- What is found at a place given by its parts. Of several entries for one place the last
one counts, and every place on the way to an entry is a directory. -/
def entryAt (t : FileTree) (place : List String) : StorageEntry :=
  match t.entries.reverse.find? (·.1 = place) with
  | some (_, some content) => .file content
  | some (_, none) => .directory
  | none =>
    if place.isEmpty || t.entries.any (place.isPrefixOf ·.1) then .directory
    else .unavailable .absent

/-- A place on the way along a path: a place of the tree, given by its parts in reverse order,
or the surroundings of the tree. -/
abbrev Position := Option (List String)

/-- What is found at a position. The surroundings are directories. -/
def entryOn (t : FileTree) : Position → StorageEntry
  | none => .directory
  | some place => t.entryAt place.reverse

/-- The position above another. -/
def above : Position → Position
  | some (_ :: place) => some place
  | _ => none

/-- Walks from a position along further parts. Nothing in the surroundings of the tree can be
found by its name, so that there is no way back. -/
def walk (t : FileTree) (position : Position) : List String → StorageEntry
  | [] => t.entryOn position
  | part :: rest =>
    match t.entryOn position with
    | .directory =>
      if 255 < part.utf8ByteSize then .unavailable .nameTooLong
      else if part = ".." then t.walk (above position) rest
      else
        match position with
        | none => .unavailable .absent
        | some place => t.walk (some (part :: place)) rest
    | .file _ => .unavailable .notDirectory
    | entry => entry

/-- Whether a path can only lead to a directory. -/
def namesDirectory (path : String) : Bool := path.endsWith "/" || path.endsWith "/."

/-- Paths have fewer bytes than this. -/
def pathLimit : Nat := 4096

/-- What is found at a path. -/
def storage (t : FileTree) : Storage := fun path =>
  if path = "" then .unavailable .absent
  else if path.contains '\x00' then .unavailable .nullInName
  else if pathLimit ≤ path.utf8ByteSize then .unavailable .nameTooLong
  else
    match t.walk (if path.startsWith "/" then none else some []) (Path.parts path) with
    | .file content =>
      if namesDirectory path then .unavailable .notDirectory else .file content
    | entry => entry

end FileTree

end SheetInspector
