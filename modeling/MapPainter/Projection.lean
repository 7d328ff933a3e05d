import MapPainter.Raster.Pixels
import MapPainter.Settings

/-!
# Projections

A projection lays a raster on a map. The raster is scaled uniformly until it fills the map along
its relatively longer axis, and is centred along the other; what it does not cover is padding.
The scale is a whole number of 16384ths of a tile per pixel, rounded down, so all results are
exact.

Map sides are measured along the axes of the raster: turned clockwise, the rows of the raster run
along the X axis of the map.
-/

namespace MapPainter

/-- Subdivisions of one unit of scale. -/
def Projection.unit : Nat := 16384

/-- A raster of one size on a map of one size. -/
structure Projection where
  rotation : Rotation
  rasterWidth : Nat
  rasterHeight : Nat
  mapWidth : Nat
  mapHeight : Nat
  /-- Tiles per pixel, times `unit`. -/
  scale : Nat
  /-- Rows left out above and below the raster. -/
  rowPad : Nat
  /-- Columns left out on both sides of the raster. -/
  colPad : Nat
  deriving DecidableEq, Repr

namespace Projection

/-- The sides of a map along the axes of a raster: columns first, then rows. -/
def axes (sizeX sizeY : Nat) : Rotation → Nat × Nat
  | .counterClockwise => (sizeX, sizeY)
  | .clockwise => (sizeY, sizeX)

/-- How often one side goes into another, in units. -/
def ratio (side into : Nat) : Except Fault Nat := do
  let scaled ← Word.fit 64 (side * unit)
  Word.div scaled into

/-- The padding that centres `raster` pixels at a scale on `map` tiles. -/
def padding (map raster scale : Nat) : Except Fault Nat := do
  let length ← Word.fit 64 (raster * scale)
  return (1 + map - length / unit) / 2 % UInt32.size

/-- The projection of a raster on a map. The raster is fitted along its rows if it is wider in
proportion than the map, else along its columns. -/
def fit (rasterWidth rasterHeight sizeX sizeY : Nat) (rotation : Rotation) :
    Except Fault Projection := do
  let (mapWidth, mapHeight) := axes sizeX sizeY rotation
  let rasterRatio ← ratio rasterWidth rasterHeight
  let mapRatio ← ratio mapWidth mapHeight
  let p : Projection :=
    { rotation, rasterWidth, rasterHeight, mapWidth, mapHeight
      scale := 0, rowPad := 0, colPad := 0 }
  if rasterRatio > mapRatio then
    let scale ← ratio mapWidth rasterWidth
    let rowPad ← padding mapHeight rasterHeight scale
    return { p with scale, rowPad }
  else
    let scale ← ratio mapHeight rasterHeight
    let colPad ← padding mapWidth rasterWidth scale
    return { p with scale, colPad }

/-- The first row of the footprint and the first one after it, which may be smaller. -/
def rows (p : Projection) : Nat × Nat := (p.rowPad, p.mapHeight - p.rowPad)

/-- The first column of the footprint and the first one after it, which may be smaller. -/
def cols (p : Projection) : Nat × Nat := (p.colPad, p.mapWidth - p.colPad)

/-- The position on the map of a row and column. -/
def tilePosition (p : Projection) (row col : Nat) : Nat × Nat :=
  match p.rotation with
  | .counterClockwise => (col, row)
  | .clockwise => (row, col)

/-- The pixel index at a distance from the padding. -/
def sourceIndex (p : Projection) (offset : Nat) : Except Fault Nat := do
  let scaled ← Word.fit 64 (offset * unit)
  Word.div scaled p.scale

/-- The distance of a column from the padding. Counter-clockwise the columns count from the far
side, so that the picture keeps its left and right. -/
def colOffset (p : Projection) (col : Nat) : Except Fault Nat :=
  match p.rotation with
  | .counterClockwise => do
    let last ← Word.sub p.mapWidth 1
    let fromFar ← Word.sub last col
    Word.sub fromFar p.colPad
  | .clockwise => Word.sub col p.colPad

/-- The pixel, by row and column, that a row and column of the map is painted with. -/
def sourcePixel (p : Projection) (row col : Nat) : Except Fault (Nat × Nat) := do
  let rowOffset ← Word.sub row p.rowPad
  let sourceRow ← p.sourceIndex rowOffset
  let colOffset ← p.colOffset col
  let sourceCol ← p.sourceIndex colOffset
  if p.rasterHeight ≤ sourceRow then throw (.rowOutside sourceRow p.rasterHeight)
  if p.rasterWidth ≤ sourceCol then throw (.columnOutside sourceCol p.rasterWidth)
  return (sourceRow, sourceCol)

end Projection

end MapPainter
