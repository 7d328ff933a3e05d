import MapPainter.ImageFile.Png.Notes

/-!
# What PNG files tell before their data

The size of a picture can be told when everything before the first data chunk is sound enough, and
a row of the picture fits into memory.
-/

namespace MapPainter.ImageFile.Png

/-- What is known of a file before its data. -/
structure Preamble where
  header : Header
  notes : Notes
  /-- Where the first data chunk begins. -/
  dataStart : Nat

/-- Goes through the chunks before the data from a position on. The data of a frame may not come
before them. -/
def findData? (file : ByteArray) (h : Header) (start : Nat) (notes : Notes) : Option Preamble :=
  match hc : Chunk.at? file start with
  | none => none
  | some chunk =>
    if chunk.kind = kindData then some ⟨h, notes, start⟩
    else if chunk.kind = kindFrameData then none
    else if hw : chunk.isWhole file = true then
      have := Chunk.left_after_lt hc hw
      match notes.add file h chunk with
      | some notes => findData? file h chunk.stop notes
      | none => none
    else none
termination_by file.size - start

/-- Bytes of a decoded row. Where a colour is transparent, pixels have one sample more. -/
def Preamble.rowBytes (p : Preamble) : Nat :=
  let h := p.header
  h.width * (h.colour.decodedChannels + if p.notes.transparent then 1 else 0) * max 1 (h.depth / 8)

/-- Reads up to the data. -/
def Preamble.read? (file : ByteArray) : Option Preamble := do
  guard ((file.extract 0 8).toList = signature)
  let p ← findData? file (← Header.read? file) 33 {}
  guard (p.rowBytes + p.notes.bytes ≤ maxBytes)
  return p

end MapPainter.ImageFile.Png
