import SheetInspector.Zip.Record

set_option autoImplicit false

/-! # Directory headers

What the directory of an archive says about an entry, before its extra fields are looked at.
Names and comments are in UTF-8 if a flag says so, and in the characters of the first personal
computers otherwise.
-/

namespace SheetInspector.Zip

/-- What the directory says about an entry. -/
structure Header where
  /-- The bytes of the name. -/
  rawName : Bytes
  name : String
  comment : String
  encrypted : Bool
  /-- Whether extra fields say how the content is encrypted. -/
  strongly : Bool
  /-- The number of the way in which the content is compressed. -/
  method : Nat
  checksum : Nat
  /-- The number of bytes that the content takes in the archive. -/
  size : Nat
  /-- The number of bytes of the content itself. -/
  fullSize : Nat
  /-- Where the entry begins, in the archive as it was written. -/
  offset : Nat
  deriving DecidableEq, Repr

/-- The characters with the codes from 128 on in names that are not marked as UTF-8. -/
def oldCharacters : List Char :=
  ("ÇüéâäàåçêëèïîìÄÅÉæÆôöòûùÿÖÜ¢£¥₧ƒáíóúñÑªº¿⌐¬½¼¡«»░▒▓│┤╡╢╖╕╣║╗╝╜╛┐└┴┬├─┼╞╟╚╔╩╦╠═╬╧╨╤╥╙╘╒╓╫╪┘┌█▄▌▐▀" ++
    "αßΓπΣσµτΦΘΩδ∞φε∩≡±≥≤⌠⌡÷≈°∙·√ⁿ²■\xA0").toList

/-- The text of a name or comment. -/
def decodeLabel (utf8 : Bool) (raw : Bytes) : String :=
  if utf8 then Utf8.decodeLossy raw
  else
    String.ofList (raw.map fun b =>
      if b < 128 then Char.ofNat b.toNat else oldCharacters.getD (b.toNat - 128) '?')

/-- The number of bytes of a header without its name, extra fields and comment. -/
def headerLength : Nat := 46

/-- Reads the header that bytes begin with; gives the extra fields and the bytes behind the
header as well. -/
def readHeader? (s : Bytes) : Option (Header × Bytes × Bytes) :=
  let nameLength := numberAt s 28 2
  let extraLength := numberAt s 30 2
  let commentLength := numberAt s 32 2
  let fields := s.drop headerLength
  if !directoryMark.isPrefixOf s || s.length < headerLength ||
      fields.length < nameLength + extraLength + commentLength then none
  else
    let flags := numberAt s 8 2
    let utf8 := flags / 2048 % 2 == 1
    let rawName := fields.take nameLength
    let behindName := fields.drop nameLength
    let behindExtra := behindName.drop extraLength
    some
      ({ rawName
         name := decodeLabel utf8 rawName
         comment := decodeLabel utf8 (behindExtra.take commentLength)
         encrypted := flags % 2 == 1
         strongly := false
         method := numberAt s 10 2
         checksum := numberAt s 16 4
         size := numberAt s 20 4
         fullSize := numberAt s 24 4
         offset := numberAt s 42 4 },
        behindName.take extraLength, behindExtra.drop commentLength)

end SheetInspector.Zip
