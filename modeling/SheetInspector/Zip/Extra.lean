import SheetInspector.Zip.Checksum
import SheetInspector.Zip.Header

set_option autoImplicit false

/-! # Extra fields

A header may be followed by extra fields, each with a kind and a length: wide numbers for large
archives, times, the kind of encryption, and a name or comment in UTF-8. Where the bytes end
within a field, what has been read up to there counts. A field that makes no sense makes the
entry unreadable.
-/

namespace SheetInspector.Zip

/-- Why the reading of extra fields stops. -/
inductive ExtraStop where
  /-- The bytes end. -/
  | short
  /-- A field makes no sense. -/
  | wrong
  deriving DecidableEq, Repr

/-- The bytes not yet read, and the header as changed by the fields so far. -/
structure ExtraState where
  rest : Bytes
  header : Header
  deriving DecidableEq, Repr

/-- A computation that reads extra fields. -/
abbrev ExtraReading := ExceptT ExtraStop (StateM ExtraState)

namespace ExtraReading

/-- The next `n` bytes. -/
def bytes (n : Nat) : ExtraReading Bytes := do
  let s ← get
  if s.rest.length < n then throw .short
  set { s with rest := s.rest.drop n }
  return s.rest.take n

/-- The next number of so many bytes. -/
def number (width : Nat) : ExtraReading Nat := do return littleEndian (← bytes width)

/-- What is true of a field that makes sense. -/
def require (condition : Bool) : ExtraReading Unit := do
  if !condition then throw .wrong

/-- Changes the header. -/
def change (f : Header → Header) : ExtraReading Unit := modify fun s => { s with header := f s.header }

/-- The text of bytes that have to be UTF-8. -/
def text (raw : Bytes) : ExtraReading String :=
  match Utf8.decodeText raw with
  | .ok s => return s
  | .error _ => throw .wrong

end ExtraReading

namespace Extra

open ExtraReading

/-- The number of 32 bits that stands for one that does not fit. -/
def overflow : Nat := 0xFFFFFFFF

/-- A number of 64 bits, if the field has all of them or the header has none in its place; gives
the number of bytes read. -/
def wideNumber (complete : Bool) (current : Header → Nat) (put : Header → Nat → Header) :
    ExtraReading Nat := do
  if complete || current (← get).header == overflow then
    let n ← number 8
    change (put · n)
    return 8
  else return 0

/-- Numbers of 64 bits in place of those of a header. -/
def wideNumbers (length : Nat) : ExtraReading Unit := do
  let complete := 24 ≤ length
  let a ← wideNumber complete (·.fullSize) fun h n => { h with fullSize := n }
  let b ← wideNumber complete (·.size) fun h n => { h with size := n }
  let c ← wideNumber complete (·.offset) fun h n => { h with offset := n }
  require (a + b + c ≤ length)
  let _ ← bytes (length - (a + b + c))

/-- Three times, counted finely. -/
def fineTimes (length : Nat) : ExtraReading Unit := do
  require (length == 32)
  let _ ← number 4
  require ((← number 2) == 1)
  require ((← number 2) == 24)
  let _ ← bytes 8
  let _ ← bytes 8
  let _ ← bytes 8

/-- How an encrypted entry is encrypted and compressed. -/
def encryption (length : Nat) : ExtraReading Unit := do
  require (length == 7)
  let version ← number 2
  let vendor ← number 2
  let strength ← number 1
  let method ← number 2
  require (vendor == 0x4541)
  require (version == 1 || version == 2)
  require (1 ≤ strength && strength ≤ 3)
  change fun h => { h with strongly := true, method }

/-- Up to three times in seconds. -/
def coarseTimes (length : Nat) : ExtraReading Unit := do
  let flags ← number 1
  require (length == 5 || length == 1 + 4 * ((List.range 8).filter flags.testBit).length)
  if flags.testBit 0 || length == 5 then let _ ← number 4
  if flags.testBit 1 && 5 < length then let _ ← number 4
  if flags.testBit 2 && 5 < length then let _ ← number 4

/-- Bytes that take the place of others, which have to be those with the given checksum. -/
def replacement (length : Nat) (current : Header → Bytes) : ExtraReading Bytes := do
  let _ ← number 1
  let checksum ← number 4
  require (5 ≤ length)
  let raw ← bytes (length - 5)
  require ((crc32 (current (← get).header)).toNat == checksum)
  return raw

/-- A comment in UTF-8. -/
def comment (length : Nat) : ExtraReading Unit := do
  let s ← text (← replacement length fun h => Utf8.encodeText h.comment)
  change fun h => { h with comment := s }

/-- A name in UTF-8. -/
def name (length : Nat) : ExtraReading Unit := do
  let raw ← replacement length (·.rawName)
  let s ← text raw
  change fun h => { h with rawName := raw, name := s }

/-- Reads a field of a kind. -/
def field (kind length : Nat) : ExtraReading Unit :=
  if kind = 0x0001 then wideNumbers length
  else if kind = 0x000A then fineTimes length
  else if kind = 0x9901 then encryption length
  else if kind = 0x5455 then coarseTimes length
  else if kind = 0x6375 then comment length
  else if kind = 0x7075 then name length
  else do let _ ← bytes length

/-- Reads fields until the bytes end. A field takes at least four bytes. -/
def fields : Nat → ExtraReading Unit
  | 0 => return
  | fuel + 1 => do
    let kind ← number 2
    let length ← number 2
    field kind length
    fields fuel

end Extra

/-- The header with its extra fields taken into account, unless one of them makes no sense. -/
def Header.withExtra? (h : Header) (extra : Bytes) : Option Header :=
  match (Extra.fields extra.length).run.run ⟨extra, h⟩ with
  | (.error .wrong, _) => none
  | (_, s) => some s.header

end SheetInspector.Zip
