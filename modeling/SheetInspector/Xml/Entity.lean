import SheetInspector.Text.Hexadecimal
import SheetInspector.Text.Utf8
import SheetInspector.Text.Visible

set_option autoImplicit false

/-! # Character references

Text in an XML document writes some characters as references between `&` and `;`: the five
named ones, and any character by its decimal or hexadecimal code point. Positions in faults
count bytes of the text.
-/

namespace SheetInspector.Xml

/-- Why a reference is wrong. -/
inductive EntityFault where
  /-- No `;` follows before the next `&` or the end of the text at `stop`. -/
  | unterminated (start stop : Nat)
  /-- The name between `start` and `stop` stands for nothing. -/
  | unknown (start stop : Nat) (name : String)
  /-- Code point zero, or no digits at all. -/
  | null (start stop : Nat)
  /-- More than six hexadecimal digits. -/
  | longHexadecimal
  /-- More than seven decimal digits. -/
  | longDecimal
  | badHexadecimal (digit : Char)
  | badDecimal (digit : Char)
  /-- A number that is no code point. -/
  | badCodePoint (code : Nat)
  deriving DecidableEq, Repr

/-- The report of a fault. -/
def EntityFault.message : EntityFault → String
  | .unterminated start stop =>
    range start stop ++ "Cannot find ';' after '&'"
  | .unknown start stop name =>
    range start stop ++ "Unrecognized escape symbol: " ++ Text.visible name.toList
  | .null start stop => range start stop ++ "Null character entity not allowed"
  | .longHexadecimal => "Cannot convert hexadecimal to utf8"
  | .longDecimal => "Cannot convert decimal to utf8"
  | .badHexadecimal digit => "'" ++ digit.toString ++ "' is not a valid hexadecimal character"
  | .badDecimal digit => "'" ++ digit.toString ++ "' is not a valid decimal character"
  | .badCodePoint code => "'" ++ toString code ++ "' is not a valid codepoint"
where
  range (start stop : Nat) : String :=
    "Error while escaping character at range " ++ toString start ++ ".." ++ toString stop ++ ": "

namespace Entity

/-- The number of bytes of a list of characters. -/
def byteLength (s : List Char) : Nat := s.foldl (fun n c => n + c.utf8Size) 0

/-- The character that a faulty digit is reported as: its first byte, taken as a code
point. -/
def reportedDigit (c : Char) : Char :=
  Char.ofNat (((String.singleton c).toUTF8.toList.headD 0).toNat)

/-- The number written by hexadecimal digits after those whose number is `n`. -/
def hexadecimal (n : Nat) : List Char → Except EntityFault Nat
  | [] => .ok n
  | c :: rest =>
    match Text.hexValue? c with
    | some d => hexadecimal (n * 16 + d) rest
    | none => .error (.badHexadecimal (reportedDigit c))

/-- The number written by decimal digits after those whose number is `n`. -/
def decimal (n : Nat) : List Char → Except EntityFault Nat
  | [] => .ok n
  | c :: rest =>
    if c.isDigit then decimal (n * 10 + (c.toNat - '0'.toNat)) rest
    else .error (.badDecimal (reportedDigit c))

/-- The code point written after `&#`. -/
def codePoint : List Char → Except EntityFault Nat
  | 'x' :: digits =>
    if 6 < byteLength digits then .error .longHexadecimal else hexadecimal 0 digits
  | digits => if 7 < byteLength digits then .error .longDecimal else decimal 0 digits

/-- The character a name stands for. -/
def named? (name : List Char) : Option Char :=
  [("lt", '<'), ("gt", '>'), ("amp", '&'), ("apos", '\x27'), ("quot", '"')].findSome?
    fun (n, c) => if n.toList = name then some c else none

/-- The character that the text between `&` and `;` stands for; `&` is byte number `start` and
`;` is byte number `stop`. -/
def resolve (start stop : Nat) (name : List Char) : Except EntityFault Char :=
  match name with
  | '#' :: number =>
    match codePoint number with
    | .error fault => .error fault
    | .ok 0 => .error (.null start stop)
    | .ok code => if code.isValidChar then .ok (Char.ofNat code) else .error (.badCodePoint code)
  | name =>
    match named? name with
    | some c => .ok c
    | none => .error (.unknown (start + 1) stop (String.ofList name))

/-- Whether a character can belong to the text between `&` and `;`. -/
def isInside (c : Char) : Bool := c ≠ '&' && c ≠ ';'

/-- Replaces the references in the characters from byte number `index` on, in a text of
`total` bytes, behind the characters in `done`, which are in reverse order. -/
def replaceFrom (total : Nat) (done : List Char) (index : Nat) (s : List Char) :
    Except EntityFault (List Char) :=
  match s with
  | [] => .ok done.reverse
  | c :: rest =>
    if c = '&' then
      match h : rest.dropWhile isInside with
      | ';' :: after =>
        let name := rest.takeWhile isInside
        let stop := index + 1 + byteLength name
        have : after.length < rest.length := by
          have := (List.dropWhile_sublist (l := rest) isInside).length_le
          rw [h, List.length_cons] at this
          omega
        match resolve index stop name with
        | .error fault => .error fault
        | .ok c => replaceFrom total (c :: done) (stop + 1) after
      | _ => .error (.unterminated index total)
    else replaceFrom total (c :: done) (index + c.utf8Size) rest
termination_by s.length

/-- Replaces all references in a text. -/
def replace (s : List Char) : Except EntityFault (List Char) :=
  replaceFrom (byteLength s) [] 0 s

end Entity

end SheetInspector.Xml
