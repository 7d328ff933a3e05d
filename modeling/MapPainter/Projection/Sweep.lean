import MapPainter.Projection
import MapPainter.TileMap

/-!
# Sweeps

A sweep goes through the footprint of a projection row by row and hands every inner tile, with
the pixel that falls on it, to a step. Tiles on the border of the map are counted and passed
over. The first fault ends the sweep.
-/

namespace MapPainter

/-- How many tiles of the footprint were handed on, and how many lay on the border. -/
structure SweepCount where
  visited : Nat := 0
  border : Nat := 0
  deriving DecidableEq, Repr

namespace Projection

/-- The numbers from the first one of a range up to the one before its end. -/
def span (range : Nat × Nat) : List Nat := List.range' range.1 (range.2 - range.1)

/-- The footprint by rows and columns, in the order of a sweep. -/
def footprint (p : Projection) : List (Nat × Nat) :=
  (span p.rows).flatMap fun row => (span p.cols).map fun col => (row, col)

/-- What a sweep carries: the state of its steps, and its counts. -/
structure Progress (σ : Type) where
  state : σ
  count : SweepCount

/-- One place of the footprint. -/
def visit {σ : Type} (p : Projection) (extent : Extent) (raster : Raster.Pixels)
    (step : σ → Raster.Rgb → Nat → Except Fault σ) (row col : Nat) (s : Progress σ) :
    Except Fault (Progress σ) := do
  let (x, y) := p.tilePosition row col
  let tile ← extent.index x y
  let (sourceRow, sourceCol) ← p.sourcePixel row col
  let pixel ← raster.pixel sourceRow sourceCol
  let ⟨state, count⟩ := s
  if extent.isInner tile then
    let state ← step state pixel tile
    return ⟨state, { count with visited := count.visited + 1 }⟩
  else
    return ⟨state, { count with border := count.border + 1 }⟩

/-- The places of one row, from column `col` on. -/
def visitRow {σ : Type} (p : Projection) (extent : Extent) (raster : Raster.Pixels)
    (step : σ → Raster.Rgb → Nat → Except Fault σ) (row col : Nat) :
    Nat → Progress σ → Except Fault (Progress σ)
  | 0, s => .ok s
  | n + 1, s => do
    let s ← p.visit extent raster step row col s
    p.visitRow extent raster step row (col + 1) n s

/-- The rows of the footprint, from row `row` on. -/
def visitRows {σ : Type} (p : Projection) (extent : Extent) (raster : Raster.Pixels)
    (step : σ → Raster.Rgb → Nat → Except Fault σ) (row : Nat) :
    Nat → Progress σ → Except Fault (Progress σ)
  | 0, s => .ok s
  | n + 1, s => do
    let (first, stop) := p.cols
    let s ← p.visitRow extent raster step row first (stop - first) s
    p.visitRows extent raster step (row + 1) n s

/-- A whole sweep, from the state `init`. -/
def sweep {σ : Type} (p : Projection) (extent : Extent) (raster : Raster.Pixels)
    (step : σ → Raster.Rgb → Nat → Except Fault σ) (init : σ) : Except Fault (Progress σ) :=
  let (first, stop) := p.rows
  p.visitRows extent raster step first (stop - first) ⟨init, {}⟩

end Projection

/-- Projects a raster on a map of an extent and sweeps over it. -/
def paintOver {σ : Type} (extent : Extent) (rotation : Rotation) (raster : Raster.Pixels)
    (step : σ → Raster.Rgb → Nat → Except Fault σ) (init : σ) :
    Except Fault (Projection.Progress σ) := do
  let p ← Projection.fit raster.width raster.height extent.sizeX extent.sizeY rotation
  p.sweep extent raster step init

end MapPainter
