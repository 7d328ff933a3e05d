import MapPainter.ImageFile.Bytes

/-!
# Checksums of zlib

The checksum of a byte sequence consists of two numbers modulo a prime: one more than the sum of
the bytes, and the sum of what the first number is behind each byte.
-/

namespace MapPainter.ImageFile.Adler

def modulus : Nat := 65521

/-- Both numbers behind one more byte. -/
def step (sums : Nat × Nat) (byte : UInt8) : Nat × Nat :=
  let first := (sums.1 + byte.toNat) % modulus
  (first, (sums.2 + first) % modulus)

/-- The checksum, in 32 bits. -/
def checksum (data : ByteArray) : Nat :=
  let sums := data.foldl step (1, 0)
  65536 * sums.2 + sums.1

end MapPainter.ImageFile.Adler
