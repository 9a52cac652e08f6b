import SheetInspector.Value

set_option autoImplicit false

/-! # JSON documents

A JSON value as a tree, and its written form over several lines: two spaces more for each
level, one item or field a line, and no line break in an empty array or object. Fields keep
the order they are given in. A string escapes the quotation mark, the reverse solidus and the
control characters below U+0020, and nothing else.
-/

namespace SheetInspector.Report

/-- A JSON value. -/
inductive Json where
  | null
  | bool (b : Bool)
  /-- A number that may be a fraction; one that is not finite is written as null. -/
  | number (n : Number)
  /-- A natural number, written without a point. -/
  | count (n : Nat)
  | string (s : String)
  | array (items : List Json)
  | object (fields : List (String × Json))

namespace Json

/-- The written form of one character inside a string. -/
def escape (c : Char) : List Char :=
  if c = '"' then ['\\', '"']
  else if c = '\\' then ['\\', '\\']
  else if c.toNat = 8 then ['\\', 'b']
  else if c.toNat = 9 then ['\\', 't']
  else if c.toNat = 10 then ['\\', 'n']
  else if c.toNat = 12 then ['\\', 'f']
  else if c.toNat = 13 then ['\\', 'r']
  else if c.toNat < 32 then
    ['\\', 'u', '0', '0', Nat.digitChar (c.toNat / 16), Nat.digitChar (c.toNat % 16)]
  else [c]

/-- The written form of a string. -/
def quote (s : String) : String :=
  "\"" ++ String.ofList (s.toList.flatMap escape) ++ "\""

/-- A line break and the blanks in front of a line at the given level. -/
def lineBreak (level : Nat) : String := "\n" ++ String.ofList (List.replicate (2 * level) ' ')

mutual

/-- The written form of a value whose first line stands at the given level. -/
def render (level : Nat) : Json → String
  | .null => "null"
  | .bool b => if b then "true" else "false"
  | .number n => String.ofList (n.json?.getD "null".toList)
  | .count n => toString n
  | .string s => quote s
  | .array [] => "[]"
  | .array (item :: rest) =>
    "[" ++ lineBreak (level + 1) ++ render (level + 1) item ++ renderItems (level + 1) rest ++
      lineBreak level ++ "]"
  | .object [] => "\x7b\x7d"
  | .object ((name, value) :: rest) =>
    "\x7b" ++ lineBreak (level + 1) ++ quote name ++ ": " ++ render (level + 1) value ++
      renderFields (level + 1) rest ++ lineBreak level ++ "\x7d"

/-- The items after the first one, each behind a comma. -/
def renderItems (level : Nat) : List Json → String
  | [] => ""
  | item :: rest => "," ++ lineBreak level ++ render level item ++ renderItems level rest

/-- The fields after the first one, each behind a comma. -/
def renderFields (level : Nat) : List (String × Json) → String
  | [] => ""
  | (name, value) :: rest =>
    "," ++ lineBreak level ++ quote name ++ ": " ++ render level value ++ renderFields level rest

end

/-- The written form of a value as a whole document. -/
def text (j : Json) : String := j.render 0

end Json

/-- A cell value in a JSON document. -/
def valueJson : Value → Json
  | .null => .null
  | .boolean b => .bool b
  | .number n => .number n
  | .text s => .string s
  | .error code => .string code.text

end SheetInspector.Report
