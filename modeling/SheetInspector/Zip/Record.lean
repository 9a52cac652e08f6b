import SheetInspector.Text.Utf8

set_option autoImplicit false

/-! # Records of an archive

An archive is made of records that begin with a mark of four bytes and hold numbers, the lowest
byte first. A record is read where it stands in a file, by the offsets of its numbers.
-/

namespace SheetInspector.Zip

/-- The number whose bytes are given, the lowest one first. -/
def littleEndian : Bytes → Nat
  | [] => 0
  | b :: rest => b.toNat + 256 * littleEndian rest

/-- The number in the `width` bytes from `offset` on. -/
def numberAt (s : Bytes) (offset width : Nat) : Nat := littleEndian ((s.drop offset).take width)

/-- The bytes of a number, the lowest one first. -/
def bytesOfNat : Nat → Nat → Bytes
  | 0, _ => []
  | width + 1, n => (n % 256).toUInt8 :: bytesOfNat width (n / 256)

/-- The marks that the records of an archive begin with. -/
def contentMark : Bytes := [0x50, 0x4B, 3, 4]

@[inherit_doc contentMark]
def directoryMark : Bytes := [0x50, 0x4B, 1, 2]

@[inherit_doc contentMark]
def endMark : Bytes := [0x50, 0x4B, 5, 6]

@[inherit_doc contentMark]
def wideEndMark : Bytes := [0x50, 0x4B, 6, 6]

@[inherit_doc contentMark]
def locatorMark : Bytes := [0x50, 0x4B, 6, 7]

/-- The places, from `offset` on, where a mark stands. -/
def placesOf (mark : Bytes) (offset : Nat) : Bytes → List Nat
  | [] => []
  | b :: rest =>
    if mark.isPrefixOf (b :: rest) then offset :: placesOf mark (offset + 1) rest
    else placesOf mark (offset + 1) rest

/-- The places of a mark that stands between two places of a file. -/
def placesBetween (mark : Bytes) (s : Bytes) (start stop : Nat) : List Nat :=
  placesOf mark start ((s.take stop).drop start)

end SheetInspector.Zip
