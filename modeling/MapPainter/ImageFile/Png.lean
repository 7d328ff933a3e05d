import MapPainter.ImageFile.Inflate
import MapPainter.ImageFile.Picture
import MapPainter.ImageFile.Png.Preamble

/-!
# PNG files

The pixels of a file are in its data chunks, compressed, row by row, and each row is filtered. All
data chunks have to be sound. Interlaced files have a size, but their pixels are not decoded.
-/

namespace MapPainter.ImageFile.Png

open Raster (Rgb)

/-! ## Data -/

/-- The bodies of the data chunks, as they arrive. -/
structure Data where
  bytes : ByteArray := .empty
  /-- Where a portion ends, the last one first. -/
  stops : List Nat := []

/-- The length of the blocks in which a file is read. -/
def blockLength : Nat := 8192

/-- The ends of the blocks of a file within a part of it, and the end of the part. -/
def blockEnds (start stop : Nat) : List Nat :=
  let first := start / blockLength + 1
  ((List.range' first (stop / blockLength + 1 - first)).map (· * blockLength)).filter (· < stop) ++
    [stop]

/-- Appends a part of the file. It arrives in as many portions as the blocks of the file that it
lies in. -/
def Data.add (file : ByteArray) (d : Data) (start stop : Nat) : Data :=
  let size := d.bytes.size
  let stops := (blockEnds start stop).map fun place => size + (place - start)
  ⟨d.bytes ++ file.extract start stop, stops.reverse ++ d.stops⟩

/-- Appends the bodies of the data chunks from a position on. They are followed by another chunk. -/
def collect? (file : ByteArray) (start : Nat) (data : Data) : Option Data :=
  match h : Chunk.at? file start with
  | none => none
  | some chunk =>
    if chunk.kind ≠ kindData then some data
    else if hw : chunk.isWhole file = true then
      have := Chunk.left_after_lt h hw
      if chunk.isSound file then
        collect? file chunk.stop (data.add file chunk.body (chunk.body + chunk.length))
      else none
    else none
termination_by file.size - start

/-! ## Rows -/

namespace Header

def bitsPerPixel (h : Header) : Nat := h.colour.channels * h.depth

def rowBytes (h : Header) : Nat := (h.width * h.bitsPerPixel + 7) / 8

/-- How far the byte stands back that a byte is predicted from. -/
def step (h : Header) : Nat := max 1 (h.bitsPerPixel / 8)

/-- Bytes of all rows, each of which has a byte for its filter in front. -/
def filteredBytes (h : Header) : Nat := (1 + h.rowBytes) * h.height

end Header

/-- Of three neighbours, the one nearest to `left + up - corner`; in a tie the earlier one. -/
def nearest (left up corner : Nat) : Nat :=
  let distance (n : Nat) : Nat := ((left : Int) + up - corner - n).natAbs
  if distance left ≤ distance up ∧ distance left ≤ distance corner then left
  else if distance up ≤ distance corner then up
  else corner

/-- What a filter adds to a byte with these neighbours. -/
def predicted (filter left up corner : Nat) : Nat :=
  match filter with
  | 1 => left
  | 2 => up
  | 3 => (left + up) / 2
  | 4 => nearest left up corner
  | _ => 0

/-- Appends the last `n` bytes of a row. The filtered bytes begin at `source`; `row` is where the
row begins in the output. -/
def unfilterRow (h : Header) (data : ByteArray) (filter source row : Nat) (out : ByteArray) :
    Nat → ByteArray
  | 0 => out
  | n + 1 =>
    let col := out.size - row
    let left := if h.step ≤ col then (Bytes.byteD out (out.size - h.step)).toNat else 0
    let up := if h.rowBytes ≤ row then (Bytes.byteD out (out.size - h.rowBytes)).toNat else 0
    let corner := if h.step ≤ col ∧ h.rowBytes ≤ row then
      (Bytes.byteD out (out.size - h.rowBytes - h.step)).toNat else 0
    let byte := (Bytes.byteD data source).toNat + predicted filter left up corner
    unfilterRow h data filter (source + 1) row (out.push (UInt8.ofNat byte)) n

/-- Appends the last `n` rows of the picture. -/
def unfilterRows (h : Header) (data : ByteArray) (source : Nat) (out : ByteArray) :
    Nat → Option ByteArray
  | 0 => some out
  | n + 1 => do
    let filter ← Bytes.byte? data source
    guard (filter ≤ 4)
    unfilterRows h data (source + 1 + h.rowBytes)
      (unfilterRow h data filter (source + 1) out.size out h.rowBytes) n

/-! ## Pixels -/

/-- The sample of a channel, in eight bits. -/
def level (h : Header) (data : ByteArray) (row col channel : Nat) : UInt8 :=
  let start := row * h.rowBytes
  let place := col * h.colour.channels + channel
  if h.depth = 16 then narrow ((Bytes.big? data (start + 2 * place) 2).getD 0)
  else spread (Bytes.sample data start h.depth place) ((1 <<< h.depth) - 1)

/-- The colour of a palette entry; black where there is none. -/
def paletteColour (file : ByteArray) (palette : Chunk) (index : Nat) : Rgb :=
  let start := palette.body + 3 * index
  if 3 * index + 3 ≤ palette.length then
    ⟨Bytes.byteD file start, Bytes.byteD file (start + 1), Bytes.byteD file (start + 2)⟩
  else black

/-- The colour at a position, from the bytes of all rows. -/
def colourAt (file : ByteArray) (p : Preamble) (data : ByteArray) (row col : Nat) : Rgb :=
  let channel := level p.header data row col
  match p.header.colour with
  | .rgb | .rgbAlpha => ⟨channel 0, channel 1, channel 2⟩
  | .grey | .greyAlpha => grey (channel 0)
  | .indexed => match p.notes.palette with
    | none => black
    | some palette => paletteColour file palette
        (Bytes.sample data (row * p.header.rowBytes) p.header.depth col)

/-- Whether a picture has the palette that it needs. -/
def hasPalette (p : Preamble) : Bool :=
  match p.header.colour with
  | .indexed => p.notes.palette.any fun palette => palette.length % 3 = 0
  | _ => true

def size (file : ByteArray) : Except DecodeError (Nat × Nat) := do
  let p ← demand .header (Preamble.read? file)
  return (p.header.width, p.header.height)

/-- The bytes of all rows of a picture. -/
def rows (file : ByteArray) (p : Preamble) : Except DecodeError ByteArray := do
  if p.header.interlaced then throw .interlaced
  if !hasPalette p then throw .palette
  let data ← demand .chunk (collect? file p.dataStart {})
  let data ← demand .compression
    (inflate? data.bytes data.stops.reverse p.header.filteredBytes)
  demand .filter (unfilterRows p.header data 0 ByteArray.empty p.header.height)

def decode (file : ByteArray) : Except DecodeError Picture := do
  let p ← demand .header (Preamble.read? file)
  let data ← rows file p
  return .ofFn p.header.width p.header.height (colourAt file p data)

end MapPainter.ImageFile.Png
