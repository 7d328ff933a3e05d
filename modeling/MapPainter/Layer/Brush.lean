import MapPainter.Gradient
import MapPainter.Raster.Pixels
import MapPainter.TileMap

/-!
# Brushes

A brush paints one tile from one pixel. It sees the climate of the map and the tile under it,
and nothing else of the map; it draws from the source of the pass. A brush looks at the tile only
when it has to, so `Spot.tile` may be a fault that never shows.
-/

namespace MapPainter

/-- Settings of an import. -/
structure ImportSettings where
  climate : Climate := .temperate
  rotation : Rotation := .counterClockwise
  species : SpeciesTable := .standard
  deriving DecidableEq, Repr

/-- What a brush sees of the map. -/
structure Spot where
  climate : Climate
  tile : Except Fault Tile

namespace Spot

def ofMap (m : TileMap) (index : Nat) : Spot := ⟨m.climate, m.tile index⟩

end Spot

/-- The outcome of a brush: the new contents of the tile, if it was touched, and the source
after the draws taken. -/
abbrev Stroke := Except Fault (Option Tile × Draws)

namespace Stroke

/-- The tile is left alone. -/
def skip (d : Draws) : Stroke := .ok (none, d)

/-- The tile under the brush is changed. -/
def change (spot : Spot) (f : Tile → Tile) (d : Draws) : Stroke := do
  let t ← spot.tile
  return (some (f t), d)

end Stroke

end MapPainter
