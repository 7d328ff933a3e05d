/-!
# Numbers in byte arrays

Unsigned numbers of one, two and four bytes at a position of a byte array, least or most
significant byte first. A number that does not lie in the array is `none`.
-/

namespace MapPainter.ImageFile.Bytes

def byte? (data : ByteArray) (i : Nat) : Option Nat := data[i]?.map (·.toNat)

/-- The number of `n` bytes, least significant first. -/
def little? (data : ByteArray) (i : Nat) : Nat → Option Nat
  | 0 => some 0
  | n + 1 => do
    let low ← byte? data i
    let high ← little? data (i + 1) n
    return low + 256 * high

/-- The number of `n` bytes, most significant first, behind the digits `high`. -/
def bigFrom? (data : ByteArray) (high i : Nat) : Nat → Option Nat
  | 0 => some high
  | n + 1 => do
    let low ← byte? data i
    bigFrom? data (256 * high + low) (i + 1) n

/-- The number of `n` bytes, most significant first. -/
def big? (data : ByteArray) (i n : Nat) : Option Nat := bigFrom? data 0 i n

/-- The byte at a position that is known to be there; zero elsewhere. -/
def byteD (data : ByteArray) (i : Nat) : UInt8 := data[i]?.getD 0

/-- The sample of `depth` bits, at most 8, with the number `col` in the row that begins at `start`.
Samples are packed from the most significant bit on. -/
def sample (data : ByteArray) (start depth col : Nat) : Nat :=
  let bit := col * depth
  ((byteD data (start + bit / 8)).toNat >>> (8 - depth - bit % 8)) % (1 <<< depth)

end MapPainter.ImageFile.Bytes
