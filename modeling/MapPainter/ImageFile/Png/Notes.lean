import MapPainter.ImageFile.Inflate
import MapPainter.ImageFile.Png.Header

/-!
# What PNG files tell between header and data

Most of what is wrong with an ancillary chunk does not matter, as long as the chunk is all there:
one that is not sound, or does not have a length of its kind, is passed over. An announced frame, a
colour space or a background may still spoil the file. What is kept of the chunks counts as memory.
-/

namespace MapPainter.ImageFile.Png

/-! ## Topics -/

/-- What a chunk is about. -/
inductive Topic where
  | palette
  | transparency
  /-- The next frame of an animation. -/
  | frame
  /-- A colour space, by its numbers in a list. -/
  | colourSpace
  | background
  | text
  /-- How a photograph was taken. -/
  | photograph
  /-- A colour profile. -/
  | profile
  deriving DecidableEq, Repr

namespace Topic

/-- What a kind of chunk is about. -/
def ofKind? (kind : Nat) : Option Topic :=
  [(0x504c5445, palette), (0x74524e53, transparency), (0x6663544c, frame),
    (0x63494350, colourSpace), (0x624b4744, background), (0x74455874, text), (0x7a545874, text),
    (0x69545874, text), (0x65584966, photograph), (0x69434350, profile)].lookup kind

/-- The lengths that a body may have. -/
def admits : Topic → Nat → Bool
  | palette, n => 3 ≤ n && n ≤ 768
  | transparency, n => 1 ≤ n && n ≤ 256
  | frame, n => n == 26
  | colourSpace, n => n == 4
  | background, n => 1 ≤ n && n ≤ 6
  | text, _ | photograph, _ | profile, _ => true

end Topic

/-! ## Colour profiles -/

/-- The greatest length of a profile's name. -/
def maxProfileName : Nat := 80

/-- The bytes of a colour profile: behind its name, a zero and a zero for the method, they are
compressed. -/
def profile? (file : ByteArray) (c : Chunk) (most : Nat) : Option ByteArray := do
  let body := file.extract c.body (c.body + c.length)
  let name ← (List.range body.size).find? fun i => Bytes.byte? body i == some 0
  guard (0 < name ∧ name ≤ maxProfileName)
  guard (Bytes.byte? body (name + 1) = some 0)
  inflateWhole? (body.extract (name + 2) body.size) most

/-! ## Memory -/

/-- The most bytes that are kept, with one row of decoded pixels. -/
def maxBytes : Nat := 536870912

/-- The first size of the buffer for the bodies of chunks. -/
def firstBuffer : Nat := 128

/-- The size of a buffer, doubled until a body fits in. -/
def enlarged (buffer length : Nat) : Nat :=
  if 0 < buffer ∧ buffer < length then enlarged (2 * buffer) length else buffer
termination_by length - buffer

/-! ## Notes -/

/-- What the chunks between header and data tell. -/
structure Notes where
  palette : Option Chunk := none
  /-- Whether a colour is transparent. -/
  transparent : Bool := false
  /-- How many frames have been announced. -/
  frames : Nat := 0
  /-- The topics of which there is at most one chunk, and that has come. -/
  settled : List Topic := []
  /-- The size of the buffer for bodies. -/
  buffer : Nat := firstBuffer
  /-- Bytes that are kept of the chunks. -/
  kept : Nat := 0

namespace Notes

/-- Whether a chunk tells which colour is transparent. With a palette, it has to follow it. -/
def isTransparency (h : Header) (n : Notes) (c : Chunk) : Bool :=
  (h.colour.transparencyBytes.any fun least => least ≤ c.length) &&
    match h.colour with
    | .indexed => n.palette.isSome
    | _ => true

/-- Whether a chunk announces the next frame, and that as the whole picture: its number, its sides,
its place, and how it is put on the one before. -/
def isFrame (file : ByteArray) (h : Header) (n : Notes) (c : Chunk) : Bool :=
  let word (i : Nat) : Option Nat := Bytes.big? file (c.body + 4 * i) 4
  let isUpTo (max i : Nat) : Bool := (Bytes.byte? file (c.body + i)).any fun value => value ≤ max
  word 0 == some n.frames && word 1 == some h.width && word 2 == some h.height &&
    word 3 == some 0 && word 4 == some 0 && isUpTo 2 24 && isUpTo 1 25

/-- Whether a colour space is one of red, green and blue, in the full or in the narrow range. -/
def isColourSpace (file : ByteArray) (c : Chunk) : Bool :=
  Bytes.byte? file (c.body + 2) == some 0 &&
    (Bytes.byte? file (c.body + 3)).any fun range => range ≤ 1

/-- Notes with a topic settled. -/
def settle (n : Notes) (topic : Topic) : Notes := { n with settled := topic :: n.settled }

/-- What is known behind a sound chunk about a topic. -/
def take (file : ByteArray) (h : Header) (n : Notes) (c : Chunk) : Topic → Option Notes
  | .palette => if n.palette.isNone then some { n with palette := some c } else none
  | .transparency => some { n with transparent := n.transparent || isTransparency h n c }
  | .frame => if isFrame file h n c then some { n with frames := n.frames + 1 } else none
  | .colourSpace =>
    if n.palette.isSome || .colourSpace ∈ n.settled then some n
    else if isColourSpace file c then some (n.settle .colourSpace)
    else none
  | .background =>
    match h.colour, n.palette with
    | .indexed, none => none
    | _, _ => some n
  | .text => some { n with kept := n.kept + c.length }
  | .photograph =>
    if .photograph ∈ n.settled then some n
    else some { n.settle .photograph with kept := n.kept + c.length }
  | .profile =>
    if .profile ∈ n.settled then some n
    else
      let size := (profile? file c maxBytes).elim 0 ByteArray.size
      some { n.settle .profile with kept := n.kept + size }

/-- What is known behind a chunk. -/
def add (file : ByteArray) (h : Header) (n : Notes) (c : Chunk) : Option Notes :=
  match Topic.ofKind? c.kind with
  | none => if isCritical c.kind then none else some n
  | some topic =>
    if topic.admits c.length then
      let n := { n with buffer := enlarged n.buffer c.length }
      if c.isSound file then n.take file h c topic
      else if isCritical c.kind then none
      else some n
    else if topic = .palette ∨ topic = .frame then none
    else some n

/-- Bytes of memory that the chunks have taken. -/
def bytes (n : Notes) : Nat := n.kept + (n.buffer - firstBuffer)

end Notes

end MapPainter.ImageFile.Png
