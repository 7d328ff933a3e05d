import MapPainter.Fault
import MapPainter.Tile

/-!
# Edits of a tile

The ten ways to change a tile. Each keeps to the surfaces it is meant for and leaves every other
tile as it is: ground is set on land, water is not laid over a structure, trees grow on clear
land only. `Edit` lists the ten as data, so that a history of a map is a list of edits.
-/

namespace MapPainter

namespace Tile

/-- Covers clear land with `ground`; snow is laid on top of the raw ground. -/
def setClearGround (t : Tile) (ground : ClearGround) (density : Nat) : Tile :=
  match t.surface with
  | .clear land =>
    let land :=
      if ground = .snow then { land with snow := true }
      else { land with ground := ground, snow := false }
    { t with surface := .clear { land with density := density } }
  | _ => t

/-- Changes the ground under trees. -/
def setTreeGround (t : Tile) (ground : TreeGround) (density : Nat) : Tile :=
  match t.surface with
  | .trees grove => { t with surface := .trees { grove with ground := ground, density := density } }
  | _ => t

/-- Clears land; snow is grass with snow on it. -/
def makeClear (t : Tile) (ground : ClearGround) (density : Nat) : Tile :=
  if t.isLand then
    let land : ClearLand :=
      if ground = .snow then ⟨.grass, density, true, 0⟩ else ⟨ground, density, false, 0⟩
    { t with surface := .clear land }
  else t

/-- Snows clear land over. Of the ground below, only roughness is remembered. -/
def makeSnow (t : Tile) (density : Nat) : Tile :=
  match t.surface with
  | .clear land =>
    let ground := if land.ground = .rough then ClearGround.rough else .grass
    { t with surface := .clear { land with ground := ground, snow := true, density := density } }
  | _ => t

/-- Turns land into a field. -/
def makeField (t : Tile) (fieldType : Nat) : Tile :=
  if t.isLand then { t with surface := .clear ⟨.fields, 3, false, fieldType⟩ } else t

/-- Lays water over anything but a structure. -/
def flood (t : Tile) (cls : WaterClass) (owner : Owner) (bits : UInt32) : Tile :=
  match t.surface with
  | .built => t
  | _ => { t with owner := owner, surface := .water ⟨cls, bits⟩ }

/-- A canal belongs to whoever built it. -/
def makeCanal (t : Tile) (owner : Owner) (bits : UInt32) : Tile := t.flood .canal owner bits

def makeRiver (t : Tile) (bits : UInt32) : Tile := t.flood .river .water bits

def makeSea (t : Tile) : Tile := t.flood .sea .water 0

def setZone (t : Tile) (zone : Zone) : Tile := { t with zone := zone }

/-- Whether trees can be planted: on clear land that is neither field nor rocks, and on desert
only if asked for. -/
def canPlant (t : Tile) (allowDesert : Bool) : Bool :=
  match t.surface with
  | .clear land =>
    land.ground ≠ .fields && land.ground ≠ .rocks &&
      (allowDesert || land.visibleGround ≠ .desert)
  | _ => false

/-- The ground and its density that clear land gives to trees planted on it. Rough ground counts
as full; whatever is neither grass nor rough is shared with snow and desert. -/
def groundUnderTrees (land : ClearLand) : TreeGround × Nat :=
  if land.snow then
    (if land.ground = .rough then .roughSnow else .snowDesert, land.density)
  else
    match land.ground with
    | .grass => (.grass, land.density)
    | .rough => (.rough, 3)
    | _ => (.snowDesert, land.density)

/-- Plants trees on clear land. -/
def plant (t : Tile) (species : Species) (count growth : Nat) : Tile :=
  match t.surface with
  | .clear land =>
    let (ground, density) := groundUnderTrees land
    { t with surface := .trees ⟨species, count, growth, ground, density⟩ }
  | _ => t

/-- The species that grows on the tile by itself, picked by a byte of randomness. On a tropic map
the zone decides; in the desert only the lowest bytes yield a cactus, the others nothing. -/
def nativeSpecies (t : Tile) (seed : Nat) : Species :=
  match t.zone with
  | .normal => SpeciesRange.subTropical.pick seed
  | .desert => if seed > 12 then .invalid else SpeciesRange.cactus.base
  | .rainforest => SpeciesRange.rainforest.pick seed

/-- Replaces the ground of land. Trees stay where their ground has a counterpart; rocks and
fields carry no trees, so those clear the tile. -/
def replaceGround (t : Tile) (ground : ClearGround) (density : Nat) : Tile :=
  match t.surface with
  | .clear _ => t.setClearGround ground density
  | .trees _ =>
    match ground with
    | .grass => t.setTreeGround .grass density
    | .rough => t.setTreeGround .rough density
    | .rocks | .fields => t.makeClear ground density
    | .snow | .desert => t.setTreeGround .snowDesert density
  | .water _ | .built => t

end Tile

/-- The ten edits of a tile. -/
inductive Edit where
  | setClearGround (ground : ClearGround) (density : Nat)
  | setTreeGround (ground : TreeGround) (density : Nat)
  | makeClear (ground : ClearGround) (density : Nat)
  | makeSnow (density : Nat)
  | makeField (fieldType : Nat)
  | makeCanal (owner : Owner) (bits : UInt32)
  | makeRiver (bits : UInt32)
  | makeSea
  | setZone (zone : Zone)
  | plant (species : Species) (count growth : Nat)
  deriving DecidableEq, Repr

namespace Edit

/-- What an edit asks of its arguments before it looks at a tile: planting needs a species. -/
def check : Edit → Except Fault Unit
  | plant species _ _ => if species.IsValid then .ok () else .error .invalidSpecies
  | _ => .ok ()

def apply (t : Tile) : Edit → Tile
  | setClearGround ground density => t.setClearGround ground density
  | setTreeGround ground density => t.setTreeGround ground density
  | makeClear ground density => t.makeClear ground density
  | makeSnow density => t.makeSnow density
  | makeField fieldType => t.makeField fieldType
  | makeCanal owner bits => t.makeCanal owner bits
  | makeRiver bits => t.makeRiver bits
  | makeSea => t.makeSea
  | setZone zone => t.setZone zone
  | plant species count growth => t.plant species count growth

end Edit

end MapPainter
