import SheetInspector.Command.Run

set_option autoImplicit false

/-! # The command-line tool

Looks up the environment and the files that the arguments name, runs the tool on them, and
prints what it says.
-/

namespace SheetInspector

/-- What a failed access to a file means. -/
def storageFaultOf : IO.Error → StorageEntry
  | .noFileOrDirectory _ _ _ => .unavailable .absent
  | .inappropriateType _ _ _ => .directory
  | error => .unavailable (.other (toString error))

/-- Looks a path up on the disk. -/
def lookUp (path : String) : IO StorageEntry := do
  try
    let content ← IO.FS.readBinFile path
    return .file content.toList
  catch error => return storageFaultOf error

/-- The files that arguments name. -/
def inputsOf (arguments : List String) : List String :=
  match Invocation.parse arguments with
  | .ok i => i.command.inputs
  | .error _ => []

end SheetInspector

open SheetInspector in
/-- Runs the tool. -/
def main (arguments : List String) : IO UInt32 := do
  let logSpec ← IO.getEnv "CELLSCOPE_LOG"
  let found ← (inputsOf arguments).mapM fun path => return (path, ← lookUp path)
  let storage : Storage := fun path => (found.lookup path).getD (.unavailable .absent)
  let outcome := runTool arguments logSpec storage
  IO.eprint outcome.errors
  IO.print outcome.output
  return outcome.exit.toUInt32
