import MapPainter.ImageFile.Bytes

/-!
# Checksums

The 32-bit cyclic redundancy check of the polynomial `0xedb88320`, least significant bit first,
with all bits inverted before and after.
-/

namespace MapPainter.ImageFile.Crc

/-- Shifts one bit out. -/
def shift (r : UInt32) : UInt32 :=
  if r &&& 1 = 1 then (r >>> 1) ^^^ 0xedb88320 else r >>> 1

/-- The register after eight shifts. -/
def shiftByte (r : UInt32) : UInt32 :=
  shift (shift (shift (shift (shift (shift (shift (shift r)))))))

/-- The register after `n` bytes from position `i` on. -/
def feed (data : ByteArray) (r : UInt32) (i : Nat) : Nat → UInt32
  | 0 => r
  | n + 1 => feed data (shiftByte (r ^^^ (Bytes.byteD data i).toUInt32)) (i + 1) n

/-- The checksum of `n` bytes from position `i` on. -/
def checksum (data : ByteArray) (i n : Nat) : UInt32 := feed data 0xffffffff i n ^^^ 0xffffffff

end MapPainter.ImageFile.Crc
