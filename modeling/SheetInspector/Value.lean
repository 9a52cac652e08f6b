import SheetInspector.Number.Text
import SheetInspector.Text.Casing

set_option autoImplicit false

/-! # Cell values

The scalar values a cell can show: nothing, a boolean, a number, a text, or one of the error
codes a calculation can end in.
-/

namespace SheetInspector

/-- The error codes of spreadsheet calculations. -/
inductive ErrorCode where
  /-- A wrong range operator. -/
  | null
  /-- Division by zero. -/
  | divisionByZero
  /-- An argument of the wrong type. -/
  | value
  /-- A reference to no cell. -/
  | reference
  /-- An unknown name. -/
  | name
  /-- An impossible number. -/
  | number
  /-- No value available. -/
  | notAvailable
  /-- Data still being fetched. -/
  | gettingData
  /-- An array that finds no room. -/
  | spill
  /-- A failed calculation. -/
  | calculation
  deriving DecidableEq, Repr

namespace ErrorCode

/-- All error codes. -/
def all : List ErrorCode :=
  [.null, .divisionByZero, .value, .reference, .name, .number, .notAvailable, .gettingData,
    .spill, .calculation]

/-- The written form of an error code. -/
def text : ErrorCode → String
  | .null => "#NULL!"
  | .divisionByZero => "#DIV/0!"
  | .value => "#VALUE!"
  | .reference => "#REF!"
  | .name => "#NAME?"
  | .number => "#NUM!"
  | .notAvailable => "#N/A"
  | .gettingData => "#GETTING_DATA"
  | .spill => "#SPILL!"
  | .calculation => "#CALC!"

/-- The error code a text stands for, in any case. -/
def parse? (s : String) : Option ErrorCode :=
  let upper := Text.upper s.toList
  all.find? fun code => code.text.toList == upper

end ErrorCode

/-- The value of a cell. -/
inductive Value where
  | null
  | boolean (b : Bool)
  | number (n : Number)
  | text (s : String)
  | error (code : ErrorCode)
  deriving DecidableEq, Repr

/-- The type of what a cell stores: that of its literal value, or a formula. -/
inductive Kind where
  | null
  | boolean
  | number
  | text
  | error
  | formula
  deriving DecidableEq, Repr

/-- The name of a type. -/
def Kind.name : Kind → String
  | .null => "null"
  | .boolean => "boolean"
  | .number => "number"
  | .text => "text"
  | .error => "error"
  | .formula => "formula"

namespace Value

/-- The type of a literal value. -/
def kind : Value → Kind
  | .null => .null
  | .boolean _ => .boolean
  | .number _ => .number
  | .text _ => .text
  | .error _ => .error

/-- Whether there is no value. -/
def isNull : Value → Bool
  | .null => true
  | _ => false

/-- The text of a text value. -/
def asText? : Value → Option String
  | .text s => some s
  | _ => none

/-- A value as a sheet shows it. -/
def display : Value → String
  | .null => "null"
  | .boolean b => if b then "TRUE" else "FALSE"
  | .number n => String.ofList n.text
  | .text s => s
  | .error code => code.text

/-- Equality of values, where numbers are compared as numbers. -/
def agrees (a b : Value) : Bool :=
  match a, b with
  | .number m, .number n => m.agrees n
  | a, b => a == b

theorem isNull_iff (v : Value) : v.isNull = true ↔ v = .null := by
  cases v <;> simp [isNull]

theorem kind_ne_formula (v : Value) : v.kind ≠ .formula := by
  cases v with
  | null => simp [kind]
  | boolean b => simp [kind]
  | number n => simp [kind]
  | text s => simp [kind]
  | error code => simp [kind]

theorem agrees_comm (a b : Value) : a.agrees b = b.agrees a := by
  cases a <;> cases b <;> simp [agrees, Number.agrees_comm, Bool.beq_comm]

end Value

end SheetInspector
