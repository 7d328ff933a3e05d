import MapPainter.ImageFile.Bytes
import MapPainter.ImageFile.Picture

/-!
# BMP files

A file has a file header, an information header of one of several sizes, a palette if a pixel has
eight bits or fewer, and rows of pixels, padded to four bytes. Rows run from the bottom to the
top unless the height is negative. Pixels of 16 and 32 bits may have masks for their channels.
Only files that are not compressed are read.
-/

namespace MapPainter.ImageFile.Bmp

open Raster (Rgb)

/-- The longest side of a picture. -/
def maxSide : Nat := 65535

/-! ## Masks -/

/-- The bits of a pixel that belong to a channel: `length` bits from the bit `shift` on. -/
structure Mask where
  shift : Nat
  length : Nat

namespace Mask

/-- The mask that is given by a number, in a pixel of that many bits. -/
def ofNumber? (bits n : Nat) : Option Mask :=
  (List.range bits).findSome? fun shift => (List.range' 1 (bits - shift)).findSome? fun length =>
    if n = ((1 <<< length) - 1) <<< shift then some ⟨shift, length⟩ else none

/-- The value of the channel in eight bits: the nearest one, or the first bits if there are more. -/
def level (m : Mask) (pixel : Nat) : UInt8 :=
  let value := (pixel >>> m.shift) % (1 <<< m.length)
  let max := (1 <<< m.length) - 1
  if m.length ≤ 8 then UInt8.ofNat ((2 * 255 * value + max) / (2 * max))
  else UInt8.ofNat (value >>> (m.length - 8))

end Mask

/-- The masks of the three channels. -/
structure Masks where
  red : Mask
  green : Mask
  blue : Mask

namespace Masks

/-- Five bits for each channel. -/
def five : Masks := ⟨⟨10, 5⟩, ⟨5, 5⟩, ⟨0, 5⟩⟩

/-- Reads the masks behind an information header of 40 bytes. Some longer headers have one for
transparency as well, which may be zero. -/
def read? (file : ByteArray) (bits size : Nat) : Option Masks := do
  let mask (i : Nat) : Option Mask := do Mask.ofNumber? bits (← Bytes.little? file i 4)
  let red ← mask 54
  let green ← mask 58
  let blue ← mask 62
  if size ∈ [56, 108, 124] then
    let alpha ← Bytes.little? file 66 4
    guard (alpha = 0 ∨ (Mask.ofNumber? bits alpha).isSome)
  return ⟨red, green, blue⟩

def colour (m : Masks) (pixel : Nat) : Rgb :=
  ⟨m.red.level pixel, m.green.level pixel, m.blue.level pixel⟩

end Masks

/-! ## Headers -/

structure Header where
  width : Nat
  height : Nat
  topDown : Bool
  bitsPerPixel : Nat
  /-- Where the pixels begin. -/
  dataStart : Nat
  paletteStart : Nat
  /-- Colours in the palette, at most 256. -/
  paletteSize : Nat
  /-- Bytes of a colour in the palette. -/
  paletteStep : Nat
  masks : Option Masks := none

/-- A signed number of four bytes. -/
def signed? (file : ByteArray) (i : Nat) : Option Int := do
  let n ← Bytes.little? file i 4
  return if n < 0x80000000 then (n : Int) else (n : Int) - 0x100000000

/-- How many colours the palette has, of which `used` are given; 0 stands for all. -/
def paletteSize? (bits used : Nat) : Option Nat :=
  if used = 0 then some (1 <<< bits) else if used ≤ 1 <<< bits then some used else none

/-- The header with sides of two bytes. -/
def readShort? (file : ByteArray) (dataStart : Nat) : Option Header := do
  let width ← Bytes.little? file 18 2
  let height ← Bytes.little? file 20 2
  let planes ← Bytes.little? file 22 2
  let bits ← Bytes.little? file 24 2
  guard (0 < width ∧ 0 < height ∧ planes = 1 ∧ bits ∈ [1, 4, 8, 24])
  return {
    width, height, topDown := false, bitsPerPixel := bits, dataStart, paletteStart := 26
    paletteSize := if bits ≤ 8 then 1 <<< bits else 0, paletteStep := 3 }

/-- A header with sides of four bytes and `size` bytes in all. -/
def readLong? (file : ByteArray) (dataStart size : Nat) : Option Header := do
  let width ← signed? file 18
  let height ← signed? file 22
  let planes ← Bytes.little? file 26 2
  let bits ← Bytes.little? file 28 2
  let compression ← Bytes.little? file 30 4
  let used ← Bytes.little? file 46 4
  let _ ← Bytes.little? file 50 4
  guard (0 < width ∧ width ≤ maxSide ∧ -0x80000000 < height ∧ height ≤ maxSide ∧ height ≠ 0)
  guard (planes = 1)
  let masks ← match compression with
    | 0 => do
      guard (bits ∈ [1, 2, 4, 8, 16, 24, 32])
      pure (if bits = 16 then some Masks.five else none)
    | 3 => do
      guard (bits ∈ [16, 32])
      pure (some (← Masks.read? file bits size))
    | _ => none
  let paletteSize ← if bits ≤ 8 then paletteSize? bits used else some 0
  return {
    width := width.toNat, height := height.natAbs, topDown := height < 0, bitsPerPixel := bits
    dataStart, paletteStart := 14 + size, paletteSize, paletteStep := 4, masks }

/-- Reads both headers. The palette has to be there as a whole. -/
def Header.read? (file : ByteArray) : Option Header := do
  guard ((file.extract 0 2).toList = [0x42, 0x4d])
  let dataStart ← Bytes.little? file 10 4
  let size ← Bytes.little? file 14 4
  let header ←
    if size = 12 then readShort? file dataStart
    else if size ∈ [40, 52, 56, 108, 124] then readLong? file dataStart size
    else none
  guard (header.paletteSize = 0 ∨
    header.paletteStart + header.paletteSize * header.paletteStep ≤ file.size)
  return header

/-! ## Pixels -/

/-- Bytes of a row with its padding. -/
def Header.rowBytes (h : Header) : Nat := (h.width * h.bitsPerPixel + 31) / 32 * 4

/-- The colour whose bytes, blue first, begin at a position. -/
def colourFrom (file : ByteArray) (i : Nat) : Rgb :=
  ⟨Bytes.byteD file (i + 2), Bytes.byteD file (i + 1), Bytes.byteD file i⟩

/-- The colour at a position. An index beyond the palette is black. -/
def colourAt (file : ByteArray) (h : Header) (row col : Nat) : Rgb :=
  let line := if h.topDown then row else h.height - 1 - row
  let start := h.dataStart + line * h.rowBytes
  let step := h.bitsPerPixel / 8
  match h.masks with
  | some masks => masks.colour ((Bytes.little? file (start + col * step) step).getD 0)
  | none =>
  if 8 < h.bitsPerPixel then colourFrom file (start + col * step)
  else
    let index := Bytes.sample file start h.bitsPerPixel col
    if index < h.paletteSize then colourFrom file (h.paletteStart + index * h.paletteStep)
    else black

def size (file : ByteArray) : Except DecodeError (Nat × Nat) := do
  let h ← demand .header (Header.read? file)
  return (h.width, h.height)

def decode (file : ByteArray) : Except DecodeError Picture := do
  let h ← demand .header (Header.read? file)
  if file.size < h.dataStart + h.height * h.rowBytes then throw .pixels
  return .ofFn h.width h.height (colourAt file h)

end MapPainter.ImageFile.Bmp
