import MapPainter.ImageFile.Bytes

/-!
# Bits

A byte array is read bit by bit, each byte from its least significant bit on. Only a part of the
array may have arrived: what asks for more is short of bits, which is not a fault.
-/

namespace MapPainter.ImageFile

/-- Why nothing could be read. -/
inductive Trouble where
  /-- The bits have not arrived. -/
  | short
  /-- The bits have no meaning. -/
  | bad
  deriving DecidableEq, Repr

structure Bits where
  data : ByteArray
  /-- The number of bits that have arrived. -/
  stop : Nat
  /-- The number of bits taken. -/
  taken : Nat
  /-- Whether bits that have not arrived count as zeros. -/
  padded : Bool := false

namespace Bits

def left (b : Bits) : Nat := b.stop - b.taken

/-- A computation that takes bits. -/
abbrev Reading := StateT Bits (Except Trouble)

def bit : Reading Nat := fun b =>
  if b.taken < b.stop then
    let byte := (Bytes.byteD b.data (b.taken / 8)).toNat
    .ok ((byte >>> (b.taken % 8)) % 2, { b with taken := b.taken + 1 })
  else if b.padded then .ok (0, { b with taken := b.taken + 1 })
  else .error .short

/-- A number of `n` bits, least significant first. -/
def number : Nat → Reading Nat
  | 0 => return 0
  | n + 1 => do
    let low ← bit
    let high ← number n
    return low + 2 * high

/-- `count` numbers of `n` bits. -/
def numbers (n : Nat) : Nat → Reading (List Nat)
  | 0 => return []
  | count + 1 => do
    let first ← number n
    return first :: (← numbers n count)

/-- Skips to the next byte. -/
def align : Reading Unit := fun b => .ok ((), { b with taken := (b.taken + 7) / 8 * 8 })

/-- Asks for bits without taking them. -/
def require (n : Nat) : Reading Unit := fun b =>
  if n ≤ b.left then .ok ((), b) else .error .short

/-- How many bits a computation takes, along with its result. -/
def measured {α : Type} (reading : Reading α) : Reading (α × Nat) := fun b =>
  match reading b with
  | .ok (a, after) => .ok ((a, after.taken - b.taken), after)
  | .error e => .error e

/-- Repeats a step until it gives a result. A step that takes no bits has no meaning. -/
def repeatStep {α β : Type} (step : α → Reading (α ⊕ β)) (a : α) (b : Bits) :
    Except Trouble (β × Bits) :=
  match step a b with
  | .error e => .error e
  | .ok (.inr result, rest) => .ok (result, rest)
  | .ok (.inl next, rest) => if rest.left < b.left then repeatStep step next rest else .error .bad
termination_by b.left

end Bits

end MapPainter.ImageFile
