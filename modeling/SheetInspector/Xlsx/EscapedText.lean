import SheetInspector.Text.Hexadecimal

set_option autoImplicit false

/-! # Escaped characters in texts

Some characters cannot stand in an XML document, so texts in a package write a character as
`_xHHHH_`, with its code in four hexadecimal digits; an underscore that could be taken for the
start of such an escape is itself written as `_x005F_`.
-/

namespace SheetInspector.Xlsx

/-- The character that four hexadecimal digits stand for, unless they are the code of a
surrogate. -/
def escapedChar? (digits : List Char) : Option Char :=
  let code := Text.hexNumber digits
  if digits.length = 4 ∧ code.isValidChar then some (Char.ofNat code) else none

/-- The hexadecimal digits, four at most, that a text begins with. -/
def leadingDigits (s : List Char) : List Char := (s.take 4).takeWhile Text.isHexDigit

/-- The character escaped by what stands behind `_x`, and the text behind the escape. -/
def escapeBehind? (s : List Char) : Option (Char × List Char) :=
  match s.drop (leadingDigits s).length with
  | '_' :: after => (escapedChar? (leadingDigits s)).map (·, after)
  | _ => none

theorem escapeBehind?_length {s after : List Char} {c : Char}
    (h : escapeBehind? s = some (c, after)) : after.length < s.length := by
  unfold escapeBehind? at h
  split at h
  · rename_i tail hd
    have hlen := congrArg List.length hd
    rw [List.length_drop, List.length_cons] at hlen
    cases hc : escapedChar? (leadingDigits s) with
    | none => simp [hc] at h
    | some d =>
      simp only [hc, Option.map_some, Option.some.injEq, Prod.mk.injEq] at h
      rw [← h.2]
      omega
  · simp at h

/-- Replaces the escapes in a text. Behind `_x` the digits that follow are read; if they and
the underscore after them do not form an escape, what has been read is kept as it is, and
reading goes on behind it. -/
def expandEscapes (s : List Char) : List Char :=
  match s with
  | '_' :: 'x' :: rest =>
    match h : escapeBehind? rest with
    | some (c, after) =>
      have := escapeBehind?_length h
      c :: expandEscapes after
    | none =>
      '_' :: 'x' :: (leadingDigits rest ++ expandEscapes (rest.drop (leadingDigits rest).length))
  | c :: rest => c :: expandEscapes rest
  | [] => []
termination_by s.length
decreasing_by
  all_goals simp only [List.length_cons, List.length_drop]
  all_goals omega

/-- Whether a text holds `_x` anywhere. -/
def mayHoldEscape : List Char → Bool
  | '_' :: 'x' :: _ => true
  | _ :: rest => mayHoldEscape rest
  | [] => false

/-- A text with its escapes replaced. A text without `_x` is not looked at any closer. -/
def decodeEscapes (s : String) : String :=
  if mayHoldEscape s.toList then String.ofList (expandEscapes s.toList) else s

end SheetInspector.Xlsx
