import MapPainter.Layer.Brush

/-!
# The water layer

Red builds canals, green rivers, blue sea, in this order. What a bright pixel becomes depends on
the slope: canals need flat land, rivers flow on half tiles too, and the sea fills flat land at
height zero.
-/

namespace MapPainter.Layer

open Raster (Rgb)

/-- What a pixel of the water layer asks for on a slope. A canal pixel on a half tile is still a
river if green is set; on any other slope it is dropped. -/
def wantedWater (pixel : Rgb) (slope : Slope) (height : UInt8) : Option WaterClass :=
  if pixel.r ≥ Gradient.on then
    if slope.isFlat then some .canal
    else if pixel.g ≥ Gradient.on && slope.isHalftile then some .river
    else none
  else if pixel.g ≥ Gradient.on then
    if slope.isFlat || slope.isHalftile then some .river else none
  else if pixel.b ≥ Gradient.on && slope.isFlat && height == 0 then some .sea
  else none

/-- Whoever owned the land owns the canal, but the water itself owns none. -/
def canalOwner (owner : Owner) : Owner := if owner = .water then .nobody else owner

/-- Canals and rivers take one word each, also where a structure keeps them out. -/
def water.brush (spot : Spot) (pixel : Rgb) (d : Draws) : Stroke := do
  let t ← spot.tile
  match wantedWater pixel t.slope t.height with
  | some .canal => return (some (t.makeCanal (canalOwner t.owner) d.peek), d.skip)
  | some .river => return (some (t.makeRiver d.peek), d.skip)
  | some .sea => return (some t.makeSea, d)
  | none => return (none, d)

end MapPainter.Layer
