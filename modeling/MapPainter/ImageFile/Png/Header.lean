import MapPainter.ImageFile.Png.Chunk

/-!
# Headers of PNG files

The first chunk of a file tells the sides of the picture and how its pixels are written.
-/

namespace MapPainter.ImageFile.Png

/-- What a pixel consists of. -/
inductive Colour where
  | grey
  | rgb
  | indexed
  | greyAlpha
  | rgbAlpha

namespace Colour

def ofCode? : Nat → Option Colour
  | 0 => some grey
  | 2 => some rgb
  | 3 => some indexed
  | 4 => some greyAlpha
  | 6 => some rgbAlpha
  | _ => none

/-- Samples of a pixel. -/
def channels : Colour → Nat
  | grey | indexed => 1
  | rgb => 3
  | greyAlpha => 2
  | rgbAlpha => 4

/-- The sizes in bits that a sample may have. -/
def depths : Colour → List Nat
  | grey => [1, 2, 4, 8, 16]
  | indexed => [1, 2, 4, 8]
  | rgb | greyAlpha | rgbAlpha => [8, 16]

/-- Samples of a decoded pixel. -/
def decodedChannels : Colour → Nat
  | indexed => 3
  | colour => colour.channels

/-- The fewest bytes that tell which colour is transparent; `none` where pixels tell that. -/
def transparencyBytes : Colour → Option Nat
  | grey => some 2
  | rgb => some 6
  | indexed => some 1
  | greyAlpha | rgbAlpha => none

end Colour

structure Header where
  width : Nat
  height : Nat
  depth : Nat
  colour : Colour
  interlaced : Bool

/-- The header chunk, which is the first. -/
def Header.read? (file : ByteArray) : Option Header := do
  let chunk ← Chunk.at? file 8
  guard (chunk.kind = kindHeader ∧ chunk.length = 13)
  guard (chunk.isSound file)
  let width ← Bytes.big? file chunk.body 4
  let height ← Bytes.big? file (chunk.body + 4) 4
  let depth ← Bytes.byte? file (chunk.body + 8)
  let colour ← Colour.ofCode? (← Bytes.byte? file (chunk.body + 9))
  let method ← Bytes.big? file (chunk.body + 10) 2
  let interlace ← Bytes.byte? file (chunk.body + 12)
  guard (0 < width ∧ 0 < height ∧ depth ∈ colour.depths)
  guard (method = 0 ∧ interlace ≤ 1)
  return ⟨width, height, depth, colour, interlace = 1⟩

end MapPainter.ImageFile.Png
