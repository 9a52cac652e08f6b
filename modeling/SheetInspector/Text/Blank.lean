set_option autoImplicit false

/-! # Blank characters

Which characters count as blank, and the trimming of a text at both ends. Blank means the
Unicode property White_Space, so the no-break space and the ideographic space are blank,
while the zero-width space and the byte order mark are not.
-/

namespace SheetInspector.Text

/-- Whether a character has the Unicode property White_Space. -/
def isBlank (c : Char) : Bool :=
  let n := c.toNat
  (9 ≤ n && n ≤ 13) || n == 0x20 || n == 0x85 || n == 0xA0 || n == 0x1680 ||
    (0x2000 ≤ n && n ≤ 0x200A) || n == 0x2028 || n == 0x2029 || n == 0x202F ||
    n == 0x205F || n == 0x3000

/-- A list of characters without the blank ones at its end. -/
def trimEnd (s : List Char) : List Char := (s.reverse.dropWhile isBlank).reverse

/-- A list of characters without the blank ones at either end. -/
def trim (s : List Char) : List Char := trimEnd (s.dropWhile isBlank)

end SheetInspector.Text
