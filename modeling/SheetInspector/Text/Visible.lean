import SheetInspector.Text.Shape

set_option autoImplicit false

/-! # Making a text visible

A text between quotation marks in which every character that could be misread is escaped:
quotation marks, backslashes, and characters without a shape of their own. Four control
characters have a short escape, any other character is given by its code point.
-/

namespace SheetInspector.Text

/-- The visible form of a character within quotation marks. -/
def visibleChar (c : Char) : List Char :=
  if c = '"' then ['\\', '"']
  else if c = '\\' then ['\\', '\\']
  else if c.toNat = 0 then ['\\', '0']
  else if c = '\t' then ['\\', 't']
  else if c = '\n' then ['\\', 'n']
  else if c = '\r' then ['\\', 'r']
  else if isShapeless c then '\\' :: 'u' :: '\x7b' :: (Nat.toDigits 16 c.toNat ++ ['\x7d'])
  else [c]

/-- The visible form of a text. -/
def visible (s : List Char) : String :=
  "\"" ++ String.ofList (s.flatMap visibleChar) ++ "\""

end SheetInspector.Text
