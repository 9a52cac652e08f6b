set_option autoImplicit false

/-! # Paths

A path is a list of names between slashes. An empty name and a single dot stay where they are,
and two dots lead back up. The extension of a path is what follows the last dot of its last
name; a dot that this name begins with does not count, and two dots are not a name.
-/

namespace SheetInspector.Path

/-- The parts of a path that lead somewhere. -/
def parts (path : String) : List String :=
  (path.splitOn "/").filter fun part => part ≠ "" ∧ part ≠ "."

/-- The last part of a path, if that is a name. -/
def fileName? (path : String) : Option (List Char) :=
  match (parts path).getLast? with
  | some part => if part = ".." then none else some part.toList
  | none => none

/-- The extension of a path. -/
def extension? (path : String) : Option (List Char) :=
  match fileName? path with
  | none => none
  | some name =>
    let before := (name.reverse.dropWhile (· != '.')).tail
    if before.isEmpty then none else some (name.reverse.takeWhile (· != '.')).reverse

end SheetInspector.Path
