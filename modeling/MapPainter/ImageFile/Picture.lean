import MapPainter.Raster.Pixels

/-!
# Pictures

What is decoded from an image file: a size, and three bytes for the colour of every position. Grey
values become three equal channels, transparency is left out, and samples of any depth are brought
to eight bits. A file that is not sound has no picture, and the error tells which part of it is at
fault.
-/

namespace MapPainter.ImageFile

open Raster (Rgb)

/-! ## Errors -/

/-- Why an image file is not decoded. -/
inductive DecodeError where
  /-- The header is not sound. -/
  | header
  /-- The picture is interlaced. -/
  | interlaced
  /-- There is no palette of whole colours. -/
  | palette
  /-- A chunk of the data is not sound. -/
  | chunk
  /-- The data are not what a compressed picture of this size consists of. -/
  | compression
  /-- A row has an unknown filter. -/
  | filter
  /-- The file ends before the last pixel. -/
  | pixels
  /-- A reason that another decoder gives. -/
  | other (reason : String)
  deriving DecidableEq, Repr

def DecodeError.message : DecodeError → String
  | header => "the header is not sound"
  | interlaced => "interlaced pictures are not decoded"
  | palette => "the palette is missing"
  | chunk => "a data chunk is not sound"
  | compression => "the data cannot be decompressed"
  | filter => "a row has an unknown filter"
  | pixels => "pixels are missing"
  | other reason => reason

/-- What there is; if there is nothing, that is an error. -/
def demand {α : Type} (error : DecodeError) : Option α → Except DecodeError α
  | some a => .ok a
  | none => .error error

/-! ## Pictures -/

structure Picture where
  width : Nat
  height : Nat
  /-- The bytes of the colours, row by row. -/
  bytes : ByteArray

/-- The picture whose colour at `(row, col)` is `f row col`. -/
def Picture.ofFn (width height : Nat) (f : Nat → Nat → Rgb) : Picture :=
  ⟨width, height, Raster.Pixels.pushRows f width 0 height .empty⟩

/-! ## Colours -/

def black : Rgb := ⟨0, 0, 0⟩

def grey (value : UInt8) : Rgb := ⟨value, value, value⟩

/-- A value of 0, …, `max` as one of 0, …, 255. -/
def spread (value max : Nat) : UInt8 := UInt8.ofNat (value * 255 / max)

/-- A value of 16 bits as one of eight: the nearest. -/
def narrow (value : Nat) : UInt8 := UInt8.ofNat ((value + 128) / 257)

end MapPainter.ImageFile
