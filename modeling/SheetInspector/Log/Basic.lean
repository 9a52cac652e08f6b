set_option autoImplicit false

/-! # Log records

Messages about the work in progress, each with a level and the name of the part of the program
it comes from. A computation that logs keeps its records whether it succeeds or fails.
-/

namespace SheetInspector

/-- How important a message is. -/
inductive LogLevel where
  | error
  | warn
  | info
  | debug
  | trace
  deriving DecidableEq, Repr

namespace LogLevel

/-- The rank of a level: the more detail, the higher. -/
def rank : LogLevel → Nat
  | .error => 1
  | .warn => 2
  | .info => 3
  | .debug => 4
  | .trace => 5

/-- The name of a level, five characters wide. -/
def label : LogLevel → String
  | .error => "ERROR"
  | .warn => "WARN "
  | .info => "INFO "
  | .debug => "DEBUG"
  | .trace => "TRACE"

end LogLevel

/-- A message. -/
structure LogRecord where
  level : LogLevel
  /-- The part of the program that the message comes from. -/
  source : String
  message : String
  deriving DecidableEq, Repr

/-- A computation that may fail and that logs; the records are in reverse order. -/
abbrev Logged (ε : Type) : Type → Type := ExceptT ε (StateM (List LogRecord))

namespace Logged

variable {ε α : Type}

/-- Adds a record. -/
def log (record : LogRecord) : Logged ε Unit := modify (record :: ·)

/-- Logs a message with details for debugging. -/
def debug (source message : String) : Logged ε Unit := log ⟨.debug, source, message⟩

/-- Logs a warning. -/
def warn (source message : String) : Logged ε Unit := log ⟨.warn, source, message⟩

/-- A computation that does not log. -/
def ofExcept (x : Except ε α) : Logged ε α :=
  match x with
  | .ok a => pure a
  | .error e => throw e

/-- The outcome of a computation, and its records in order. -/
def outcome (x : Logged ε α) : Except ε α × List LogRecord :=
  match x.run [] with
  | (result, records) => (result, records.reverse)

/-- The result of a computation without its records. -/
def result (x : Logged ε α) : Except ε α := x.outcome.1

/-- The same computation with a function applied to its faults. -/
def mapFault {ε' : Type} (f : ε → ε') (x : Logged ε α) : Logged ε' α := fun records =>
  match x records with
  | (.ok a, records') => (.ok a, records')
  | (.error e, records') => (.error (f e), records')

end Logged

end SheetInspector
