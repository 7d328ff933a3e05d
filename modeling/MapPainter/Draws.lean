/-!
# Random draws

A source of randomness is the sequence of 32-bit words it would give, together with the number of
words taken from it so far. A source is a value: taking a word gives the word and the source that
is one word further, so a pass can be run again from the same state.
-/

namespace MapPainter

/-- A sequence of random words, of which some are taken. -/
structure Draws where
  /-- The `n`-th word, from 0 on. -/
  word : Nat → UInt32
  taken : Nat

namespace Draws

/-- The source of a sequence of which nothing is taken. -/
def ofWords (word : Nat → UInt32) : Draws := ⟨word, 0⟩

/-- The same word for ever. -/
def fixed (w : UInt32) : Draws := ofWords fun _ => w

/-- A list of words, repeated for ever; zeros if it is empty. -/
def cycle (ws : Array UInt32) : Draws := ofWords fun n => ws.getD (n % ws.size) 0

/-- The next word. -/
def peek (d : Draws) : UInt32 := d.word d.taken

/-- The source after one more word is taken. -/
def skip (d : Draws) : Draws := { d with taken := d.taken + 1 }

def next (d : Draws) : UInt32 × Draws := (d.peek, d.skip)

/-- A word scaled to the numbers below `limit`; 0 if there is none. It grows with the word. -/
def scale (w : UInt32) (limit : Nat) : Nat := w.toNat * limit / UInt32.size

/-- A number below `limit`, for the price of one word. -/
def below (d : Draws) (limit : Nat) : Nat × Draws := (scale d.peek limit, d.skip)

/-- Two words as one of 64 bits, the first one low. -/
def next64 (d : Draws) : UInt64 × Draws :=
  let (low, d) := d.next
  let (high, d) := d.next
  (high.toUInt64 <<< 32 ||| low.toUInt64, d)

/-- The four bytes of a word, lowest first. -/
def wordBytes (w : UInt32) : List UInt8 :=
  [w.toUInt8, (w >>> 8).toUInt8, (w >>> 16).toUInt8, (w >>> 24).toUInt8]

/-- `n` bytes, four from each word; what is left of the last word is lost. -/
def bytes (d : Draws) (n : Nat) : List UInt8 × Draws :=
  let words := (n + 3) / 4
  let all := (List.range words).flatMap fun i => wordBytes (d.word (d.taken + i))
  (all.take n, { d with taken := d.taken + words })

end Draws

end MapPainter
