import MapPainter.Layer.Brush

/-!
# Ground layers

Terrain, fields, snow and desert change the ground of land and leave water and structures as
they are. Dark channels change nothing.
-/

namespace MapPainter.Layer

open Raster (Rgb)

/-- Red of the terrain layer: bright means bare. -/
def grassLevels : Gradient := .falling 3

/-- A channel that is either set or not. -/
def presence : Gradient := .rising 1

/-- Depth of snow. -/
def snowDepth : Gradient := .rising 4

/-- Half or full desert. -/
def desertDepth : Gradient := .rising 2

/-- The ways a field can look. -/
def fieldTypes : Int := 9

/-- Lays `ground` if the channel, when looked at, turns out set. -/
def layIfPresent (channel : UInt8) (ground : ClearGround) (t : Tile) (d : Draws) :
    Except Fault (Tile × Draws) := do
  if channel < Gradient.dim then return (t, d)
  let (level, d) ← presence.read channel d
  return (if level ≠ 0 then t.replaceGround ground 3 else t, d)

/-- Thins out grass by the red channel; full grass is left as it is. -/
def thinGrass (channel : UInt8) (t : Tile) (d : Draws) : Except Fault (Tile × Draws) := do
  if channel < Gradient.dim then return (t, d)
  let (density, d) ← grassLevels.read channel d
  return (if density < 3 then t.replaceGround .grass density.toNat else t, d)

/-- Terrain: red thins out grass, green adds rough land, blue adds rocks. The later channels
win. -/
def terrain.brush (spot : Spot) (pixel : Rgb) (d : Draws) : Stroke := do
  let t ← spot.tile
  if !t.isLand then return (none, d)
  let (t, d) ← thinGrass pixel.r t d
  let (t, d) ← layIfPresent pixel.g .rough t d
  let (t, d) ← layIfPresent pixel.b .rocks t d
  return (some t, d)

/-- The field type that a red channel names, in steps of 16. The lowest step counts as the one
before the first and so wraps to the last. -/
def fieldType (channel : UInt8) : Nat :=
  ((Int.ofNat (channel.toNat / 16) - 1) % fieldTypes).toNat

/-- Fields: red picks the type, green decides whether there is a field at all. -/
def fields.brush (spot : Spot) (pixel : Rgb) (d : Draws) : Stroke := do
  if pixel.r < Gradient.off then return (none, d)
  let (level, d) ← presence.read pixel.g d
  if level ≠ 0 then Stroke.change spot (·.makeField (fieldType pixel.r)) d
  else return (none, d)

/-- Snows a tile over. Where snow lies already only its depth changes; shores take no snow. -/
def snowOver (density : Nat) (t : Tile) : Tile :=
  match t.surface with
  | .clear land =>
    if land.visibleGround = .snow then t.setClearGround .snow density else t.makeSnow density
  | .trees grove =>
    match grove.ground with
    | .grass | .snowDesert => t.setTreeGround .snowDesert density
    | .rough | .roughSnow => t.setTreeGround .roughSnow density
    | .shore => t
  | .water _ | .built => t

/-- Snow: blue sets the depth. -/
def snow.brush (spot : Spot) (pixel : Rgb) (d : Draws) : Stroke := do
  let (level, d) ← snowDepth.read pixel.b d
  if level - 1 < 0 then return (none, d)
  Stroke.change spot (snowOver (level - 1).toNat) d

/-- Desert: red lays desert ground at half or full density, bright green marks the zone as
well. -/
def desert.brush (spot : Spot) (pixel : Rgb) (d : Draws) : Stroke := do
  let (level, d) ← desertDepth.read pixel.r d
  let density := level * 2 - 1
  if density < 0 then return (none, d)
  let zoned (t : Tile) : Tile := if pixel.g > Gradient.on then t.setZone .desert else t
  Stroke.change spot (fun t => zoned (t.replaceGround .desert density.toNat)) d

end MapPainter.Layer
