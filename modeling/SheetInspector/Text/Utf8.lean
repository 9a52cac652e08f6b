set_option autoImplicit false

/-! # UTF-8

Decoding bytes to characters. A fault names the index of the first byte of the sequence that
cannot be decoded: either so many bytes there begin no character, or the bytes end in the
middle of one.
-/

namespace SheetInspector

/-- A sequence of bytes. -/
abbrev Bytes := List UInt8

/-- Why bytes are not UTF-8. -/
inductive Utf8Fault where
  /-- The sequence of `length` bytes at `index` begins no character. -/
  | invalid (index length : Nat)
  /-- The bytes end within the character that begins at `index`. -/
  | incomplete (index : Nat)
  deriving DecidableEq, Repr

namespace Utf8Fault

/-- How many bytes in front of the fault are in order. -/
def index : Utf8Fault → Nat
  | .invalid index _ => index
  | .incomplete index => index

/-- The report of the fault. -/
def message : Utf8Fault → String
  | .invalid index length =>
    "invalid utf-8 sequence of " ++ toString length ++ " bytes from index " ++ toString index
  | .incomplete index => "incomplete utf-8 byte sequence from index " ++ toString index

end Utf8Fault

namespace Utf8

/-- What the first byte of a character says: its part of the code point, the number of bytes
that follow, and the least and greatest value of the first of those. -/
structure Lead where
  value : Nat
  following : Nat
  low : Nat
  high : Nat
  deriving DecidableEq, Repr

/-- Reads the first byte of a character. -/
def lead? (b : Nat) : Option Lead :=
  if b < 0x80 then some ⟨b, 0, 0x80, 0xBF⟩
  else if b < 0xC2 then none
  else if b < 0xE0 then some ⟨b - 0xC0, 1, 0x80, 0xBF⟩
  else if b = 0xE0 then some ⟨0, 2, 0xA0, 0xBF⟩
  else if b = 0xED then some ⟨0xD, 2, 0x80, 0x9F⟩
  else if b < 0xF0 then some ⟨b - 0xE0, 2, 0x80, 0xBF⟩
  else if b = 0xF0 then some ⟨0, 3, 0x90, 0xBF⟩
  else if b < 0xF4 then some ⟨b - 0xF0, 3, 0x80, 0xBF⟩
  else if b = 0xF4 then some ⟨4, 3, 0x80, 0x8F⟩
  else none

/-- Reads the bytes that follow the first one: gives the code point and the bytes after the
character, or the number of bytes of the faulty sequence, or nothing where the bytes end. -/
def follow (value seen low high : Nat) : Nat → Bytes → Except (Option Nat) (Nat × Bytes)
  | 0, s => .ok (value, s)
  | _ + 1, [] => .error none
  | n + 1, b :: rest =>
    if low ≤ b.toNat ∧ b.toNat ≤ high then
      follow (value * 64 + b.toNat % 64) (seen + 1) 0x80 0xBF n rest
    else .error (some seen)

theorem follow_length {value seen low high n : Nat} {s rest : Bytes} {code : Nat}
    (h : follow value seen low high n s = .ok (code, rest)) : rest.length ≤ s.length := by
  induction n generalizing value seen low high s with
  | zero =>
    simp only [follow, Except.ok.injEq, Prod.mk.injEq] at h
    exact Nat.le_of_eq (congrArg List.length h.2.symm)
  | succ n ih =>
    cases s with
    | nil => simp [follow] at h
    | cons b s =>
      simp only [follow] at h
      split at h
      · have := ih h
        simp only [List.length_cons]
        omega
      · simp at h

/-- Decodes the bytes from `index` on behind the characters in `done`, which are in reverse
order. -/
def decodeFrom (done : List Char) (index : Nat) (s : Bytes) : Except Utf8Fault (List Char) :=
  match s with
  | [] => .ok done.reverse
  | b :: rest =>
    match lead? b.toNat with
    | none => .error (.invalid index 1)
    | some l =>
      match h : follow l.value 1 l.low l.high l.following rest with
      | .error none => .error (.incomplete index)
      | .error (some length) => .error (.invalid index length)
      | .ok (code, rest') =>
        have := follow_length h
        decodeFrom (Char.ofNat code :: done) (index + 1 + l.following) rest'
termination_by s.length

/-- Decodes bytes to characters. -/
def decode (s : Bytes) : Except Utf8Fault (List Char) := decodeFrom [] 0 s

/-- Decodes the bytes behind the characters in `done`, which are in reverse order; the replacement
character stands for each sequence that cannot be decoded. -/
def decodeLossyFrom (done : List Char) (s : Bytes) : List Char :=
  match s with
  | [] => done.reverse
  | b :: rest =>
    match lead? b.toNat with
    | none => decodeLossyFrom ('\uFFFD' :: done) rest
    | some l =>
      match h : follow l.value 1 l.low l.high l.following rest with
      | .error none => ('\uFFFD' :: done).reverse
      | .error (some length) => decodeLossyFrom ('\uFFFD' :: done) (rest.drop (length - 1))
      | .ok (code, rest') =>
        have := follow_length h
        decodeLossyFrom (Char.ofNat code :: done) rest'
termination_by s.length

/-- Decodes bytes to a text, whatever they are. -/
def decodeLossy (s : Bytes) : String := String.ofList (decodeLossyFrom [] s)

/-- Decodes bytes to a text. -/
def decodeText (s : Bytes) : Except Utf8Fault String := (decode s).map String.ofList

end Utf8

/-- The bytes of a text. -/
def Utf8.encodeText (s : String) : Bytes := s.toUTF8.toList

/-- The mark that may stand in front of a text in UTF-8. -/
def byteOrderMark : Bytes := [0xEF, 0xBB, 0xBF]

end SheetInspector
