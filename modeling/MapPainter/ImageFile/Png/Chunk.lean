import MapPainter.ImageFile.Crc

/-!
# Chunks of PNG files

A file is a signature and a sequence of chunks, each with a length, a kind, a body and a checksum.
Kinds are critical or ancillary.
-/

namespace MapPainter.ImageFile.Png

def signature : List UInt8 := [0x89, 0x50, 0x4e, 0x47, 0x0d, 0x0a, 0x1a, 0x0a]

/-- Kinds of chunks, as numbers of four letters. -/
def kindHeader : Nat := 0x49484452
def kindData : Nat := 0x49444154
def kindFrameData : Nat := 0x66644154

/-- The first letter of a critical kind is upper case. -/
def isCritical (kind : Nat) : Bool := (kind >>> 29) % 2 == 0

/-- A chunk that begins at a position of a file. -/
structure Chunk where
  start : Nat
  kind : Nat
  /-- The length of its body. -/
  length : Nat

namespace Chunk

/-- The chunk at a position, if its length and kind are there. -/
def at? (file : ByteArray) (start : Nat) : Option Chunk := do
  let length ← Bytes.big? file start 4
  let kind ← Bytes.big? file (start + 4) 4
  return ⟨start, kind, length⟩

theorem start_of_at? {file : ByteArray} {start : Nat} {c : Chunk} (h : at? file start = some c) :
    c.start = start := by
  simp only [at?, Option.bind_eq_bind, Option.bind_eq_some_iff, Option.pure_def] at h
  obtain ⟨length, -, kind, -, h⟩ := h
  cases h
  rfl

def body (c : Chunk) : Nat := c.start + 8

/-- Where the next chunk begins. -/
def stop (c : Chunk) : Nat := c.start + 12 + c.length

/-- Whether the file holds the whole chunk. -/
def isWhole (file : ByteArray) (c : Chunk) : Bool := c.stop ≤ file.size

/-- Behind a chunk there is less of the file than where it was found. -/
theorem left_after_lt {file : ByteArray} {start : Nat} {c : Chunk} (h : at? file start = some c)
    (hw : c.isWhole file = true) : file.size - c.stop < file.size - start := by
  have hs := start_of_at? h
  have hl : c.stop ≤ file.size := of_decide_eq_true hw
  rw [stop] at hl ⊢
  omega

/-- Whether the checksum belongs to kind and body. -/
def isSound (file : ByteArray) (c : Chunk) : Bool :=
  Bytes.big? file (c.body + c.length) 4 ==
    some (Crc.checksum file (c.start + 4) (4 + c.length)).toNat

end Chunk

end MapPainter.ImageFile.Png
