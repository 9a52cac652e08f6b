set_option autoImplicit false

/-! # Upper and lower case

Comparing a text with a fixed ASCII word while ignoring case. Two rules are in use. The
narrow one folds the ASCII letters only. The wide one takes the full Unicode upper-case or
lower-case form, and there a few characters beyond ASCII become ASCII letters as well: the
dotless i, the long s, the sharp s and the Latin ligatures in upper case, the Kelvin sign in
lower case. Every other character beyond ASCII keeps a form beyond ASCII, so it is left as
it is: it can never take part in an ASCII word.
-/

namespace SheetInspector.Text

/-- Whether two texts differ at most in the case of ASCII letters. -/
def equalsIgnoringAsciiCase (a b : List Char) : Bool :=
  a.map Char.toLower == b.map Char.toLower

/-- The upper-case form of a character, where that form is ASCII; any other character is
its own form. -/
def upperForm (c : Char) : List Char :=
  match c.toNat with
  | 0xDF => ['S', 'S']
  | 0x131 => ['I']
  | 0x17F => ['S']
  | 0xFB00 => ['F', 'F']
  | 0xFB01 => ['F', 'I']
  | 0xFB02 => ['F', 'L']
  | 0xFB03 => ['F', 'F', 'I']
  | 0xFB04 => ['F', 'F', 'L']
  | 0xFB05 => ['S', 'T']
  | 0xFB06 => ['S', 'T']
  | _ => [c.toUpper]

/-- The lower-case form of a character, where that form is ASCII; any other character is
its own form. -/
def lowerForm (c : Char) : Char :=
  if c.toNat = 0x212A then 'k' else c.toLower

/-- A text in upper case, as far as it matters to a comparison with an ASCII word. -/
def upper (s : List Char) : List Char := s.flatMap upperForm

/-- A text in lower case, as far as it matters to a comparison with an ASCII word. -/
def lower (s : List Char) : List Char := s.map lowerForm

end SheetInspector.Text
