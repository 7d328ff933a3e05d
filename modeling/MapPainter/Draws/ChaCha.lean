import MapPainter.Draws

/-!
# The ChaCha stream with eight rounds

Sixteen words are mixed by quarter rounds and added to themselves. The state of block `n` holds
four constants, the eight words of the key, the block number in two words, and two zero words.
-/

namespace MapPainter.ChaCha

/-- The state of a block: sixteen words. -/
abbrev State := Vector UInt32 16

def rotateLeft (w : UInt32) (n : UInt32) : UInt32 := w <<< n ||| w >>> (32 - n)

/-- Mixes the words at four places. -/
def quarterRound (a b c d : Fin 16) (s : State) : State :=
  let s := s.set a (s.get a + s.get b)
  let s := s.set d (rotateLeft (s.get d ^^^ s.get a) 16)
  let s := s.set c (s.get c + s.get d)
  let s := s.set b (rotateLeft (s.get b ^^^ s.get c) 12)
  let s := s.set a (s.get a + s.get b)
  let s := s.set d (rotateLeft (s.get d ^^^ s.get a) 8)
  let s := s.set c (s.get c + s.get d)
  s.set b (rotateLeft (s.get b ^^^ s.get c) 7)

/-- One round over the columns and one over the diagonals. -/
def doubleRound (s : State) : State :=
  s |> quarterRound 0 4 8 12 |> quarterRound 1 5 9 13
    |> quarterRound 2 6 10 14 |> quarterRound 3 7 11 15
    |> quarterRound 0 5 10 15 |> quarterRound 1 6 11 12
    |> quarterRound 2 7 8 13 |> quarterRound 3 4 9 14

/-- The state that block `n` starts from. -/
def start (key : Vector UInt32 8) (n : Nat) : State :=
  let constants : Vector UInt32 4 := #v[0x61707865, 0x3320646e, 0x79622d32, 0x6b206574]
  let counter : Vector UInt32 4 := #v[UInt32.ofNat n, UInt32.ofNat (n / UInt32.size), 0, 0]
  (constants ++ key ++ counter :)

/-- The sixteen words of block `n`, after four double rounds. -/
def block (key : Vector UInt32 8) (n : Nat) : State :=
  let s := start key n
  let mixed := s |> doubleRound |> doubleRound |> doubleRound |> doubleRound
  mixed.zipWith (· + ·) s

/-- The `n`-th word of the stream. -/
def word (key : Vector UInt32 8) (n : Nat) : UInt32 :=
  (block key (n / 16)).get ⟨n % 16, Nat.mod_lt n (by decide)⟩

/-- One step of the generator that spreads a seed over the key. -/
def stretch (s : UInt64) : UInt32 × UInt64 :=
  let s := s * 6364136223846793005 + 11634580027462260723
  let x := (((s >>> 18) ^^^ s) >>> 27).toUInt32
  let r := (s >>> 59).toUInt32
  (x >>> r ||| x <<< (32 - r), s)

/-- Eight words spread from a seed. -/
def keyOfSeed (seed : UInt64) : Vector UInt32 8 :=
  let (k0, s) := stretch seed
  let (k1, s) := stretch s
  let (k2, s) := stretch s
  let (k3, s) := stretch s
  let (k4, s) := stretch s
  let (k5, s) := stretch s
  let (k6, s) := stretch s
  let (k7, _) := stretch s
  #v[k0, k1, k2, k3, k4, k5, k6, k7]

end MapPainter.ChaCha

namespace MapPainter.Draws

/-- The stream of a seed. -/
def chacha (seed : UInt64) : Draws :=
  let key := ChaCha.keyOfSeed seed
  ofWords (ChaCha.word key)

end MapPainter.Draws
