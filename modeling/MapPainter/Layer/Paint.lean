import MapPainter.Layer
import MapPainter.Layer.Ground
import MapPainter.Layer.Trees
import MapPainter.Layer.Water

/-!
# Painting a tile

The brush of every layer, and its stroke on a tile of a map.
-/

namespace MapPainter

namespace Layer

open Raster (Rgb)

/-- The zone that a pixel of the tropics layer asks for; the first bright channel counts. -/
def wantedZone (pixel : Rgb) : Option Zone :=
  if pixel.r > Gradient.on then some .desert
  else if pixel.g > Gradient.on then some .rainforest
  else if pixel.b > Gradient.on then some .normal
  else none

/-- Tropics: red marks desert, green rainforest, blue goes back to normal. -/
def tropics.brush (spot : Spot) (pixel : Rgb) (d : Draws) : Stroke :=
  match wantedZone pixel with
  | some zone => Stroke.change spot (·.setZone zone) d
  | none => Stroke.skip d

/-- The brush of a layer. -/
def brush (layer : Layer) (settings : ImportSettings) : Spot → Rgb → Draws → Stroke :=
  match layer with
  | terrain => terrain.brush
  | fields => fields.brush
  | water => water.brush
  | trees => trees.brush settings
  | snow => snow.brush
  | desert => desert.brush
  | tropics => tropics.brush

end Layer

/-- A map and the source its brushes draw from. -/
structure Canvas where
  map : TileMap
  draws : Draws

namespace Canvas

/-- One stroke on the tile of an index. -/
def stroke (layer : Layer) (settings : ImportSettings) (c : Canvas) (pixel : Raster.Rgb)
    (index : Nat) : Except Fault Canvas := do
  let ⟨map, draws⟩ := c
  let (tile, draws) ← layer.brush settings (Spot.ofMap map index) pixel draws
  match tile with
  | some t => return ⟨map.put index t, draws⟩
  | none => return ⟨map, draws⟩

end Canvas

end MapPainter
