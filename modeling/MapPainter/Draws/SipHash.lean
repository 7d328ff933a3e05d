/-!
# SipHash with one and three rounds

The keyed hash of whole 64-bit words under the zero key: one round for every word, three at the
end.
-/

namespace MapPainter.SipHash

structure State where
  v0 : UInt64
  v1 : UInt64
  v2 : UInt64
  v3 : UInt64

def rotateLeft (w : UInt64) (n : UInt64) : UInt64 := w <<< n ||| w >>> (64 - n)

/-- The state before the first word, under the zero key. -/
def start : State :=
  ⟨0x736f6d6570736575, 0x646f72616e646f6d, 0x6c7967656e657261, 0x7465646279746573⟩

def round (s : State) : State :=
  let v0 := s.v0 + s.v1
  let v1 := rotateLeft s.v1 13 ^^^ v0
  let v0 := rotateLeft v0 32
  let v2 := s.v2 + s.v3
  let v3 := rotateLeft s.v3 16 ^^^ v2
  let v0 := v0 + v3
  let v3 := rotateLeft v3 21 ^^^ v0
  let v2 := v2 + v1
  let v1 := rotateLeft v1 17 ^^^ v2
  let v2 := rotateLeft v2 32
  ⟨v0, v1, v2, v3⟩

/-- Takes in one word. -/
def absorb (s : State) (w : UInt64) : State :=
  let s := round { s with v3 := s.v3 ^^^ w }
  { s with v0 := s.v0 ^^^ w }

/-- The hash of a list of words. The last word taken in holds the length in bytes on top. -/
def hash (words : List UInt64) : UInt64 :=
  let s := words.foldl absorb start
  let s := absorb s (UInt64.ofNat (8 * words.length) <<< 56)
  let s := { s with v2 := s.v2 ^^^ 0xff }
  let s := round (round (round s))
  s.v0 ^^^ s.v1 ^^^ s.v2 ^^^ s.v3

end MapPainter.SipHash
