import MapPainter.Layer.Brush

/-!
# The trees layer

Red sets the growth stage, green the number of trees, blue the species. A dark blue channel
leaves the species to the place.
-/

namespace MapPainter.Layer

open Raster (Rgb)

/-- Growth stages of trees. -/
def growthLevels : Gradient := .rising 6

/-- Numbers of trees; the lowest level is none. -/
def treeLevels : Gradient := .rising 4

/-- The stage of trees without a red channel. -/
def defaultGrowth : Int := 3

/-- The growth stage; only a red channel that is set takes a word. -/
def growth (channel : UInt8) (d : Draws) : Except Fault (Int × Draws) :=
  if channel < Gradient.dim then .ok (defaultGrowth, d) else growthLevels.read channel d

/-- The species that a blue channel picks from a range, in steps of 16. -/
def pickedSpecies (range : SpeciesRange) (channel : UInt8) : Species :=
  range.base.offset ((channel.toNat / 16 - 1) % range.count)

/-- The species to plant; one that is left to the place takes a word. -/
def species (settings : ImportSettings) (spot : Spot) (channel : UInt8) (d : Draws) :
    Except Fault (Species × Draws) :=
  if channel < Gradient.dim then do
    let species ← TileMap.nativeSpecies spot.climate spot.tile (d.peek >>> 24).toNat
    return (species, d.skip)
  else .ok (pickedSpecies (settings.species.range settings.climate) channel, d)

def trees.brush (settings : ImportSettings) (spot : Spot) (pixel : Rgb) (d : Draws) : Stroke := do
  let (growth, d) ← growth pixel.r d
  let (level, d) ← treeLevels.read pixel.g d
  let count := level - 1
  if count < 0 then return (none, d)
  let (species, d) ← species settings spot pixel.b d
  if !decide species.IsValid then return (none, d)
  let t ← spot.tile
  if t.canPlant true then
    let plant := Edit.plant species count.toNat growth.toNat
    plant.check
    return (some (plant.apply t), d)
  else return (none, d)

end MapPainter.Layer
