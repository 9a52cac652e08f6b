import SheetInspector.Text.Utf8

set_option autoImplicit false

/-! # Checksums

The CRC-32 of a sequence of bytes: the remainder of a polynomial division over the field of
two elements, with the bits of every byte and of the result in reflected order.
-/

namespace SheetInspector.Zip

/-- The divisor, in reflected order. -/
def crcDivisor : UInt32 := 0xEDB88320

/-- The remainder after one more bit. -/
def crcBit (r : UInt32) : UInt32 := if r &&& 1 = 1 then (r >>> 1) ^^^ crcDivisor else r >>> 1

/-- The remainder after one more byte. -/
def crcByte (r : UInt32) (b : UInt8) : UInt32 :=
  crcBit (crcBit (crcBit (crcBit (crcBit (crcBit (crcBit (crcBit (r ^^^ b.toUInt32))))))))

/-- The CRC-32 of a sequence of bytes. -/
def crc32 (s : Bytes) : UInt32 := s.foldl crcByte 0xFFFFFFFF ^^^ 0xFFFFFFFF

end SheetInspector.Zip
