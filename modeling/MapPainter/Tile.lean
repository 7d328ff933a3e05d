import MapPainter.Species

/-!
# Tiles

A tile has a height, a slope, an owner, a climate zone and a surface. The surface is clear land,
trees, water, or a structure that no import touches.
-/

namespace MapPainter

/-- The slope of a tile as flags: four raised corners, steep, half tile. -/
structure Slope where
  bits : UInt8
  deriving DecidableEq, Repr

namespace Slope

def flat : Slope := ⟨0⟩

def isFlat (s : Slope) : Bool := s.bits == 0

def isSteep (s : Slope) : Bool := s.bits &&& 0x10 != 0

def isHalftile (s : Slope) : Bool := s.bits &&& 0x20 != 0

/-- The half-tile slope with the raised corners of `s`. -/
def halftile (s : Slope) : Slope := ⟨s.bits &&& 0x0f ||| 0x20⟩

end Slope

/-- Who owns a tile: companies below 15, then the town, nobody, and the water. -/
structure Owner where
  id : UInt8
  deriving DecidableEq, Repr

namespace Owner

def town : Owner := ⟨0x0f⟩
def nobody : Owner := ⟨0x10⟩
def water : Owner := ⟨0x11⟩

def isCompany (o : Owner) : Bool := o.id < town.id

end Owner

/-- Ground of clear land. -/
inductive ClearGround where
  | grass
  | rough
  | rocks
  | fields
  | snow
  | desert
  deriving DecidableEq, Repr

/-- Ground under trees. -/
inductive TreeGround where
  | grass
  | rough
  | snowDesert
  | shore
  | roughSnow
  deriving DecidableEq, Repr

/-- Climate zones of a tropic map. -/
inductive Zone where
  | normal
  | desert
  | rainforest
  deriving DecidableEq, Repr

inductive WaterClass where
  | sea
  | canal
  | river
  deriving DecidableEq, Repr

/-- Clear land. Snow lies on top of a raw ground, which is never `ClearGround.snow` itself. -/
structure ClearLand where
  ground : ClearGround
  density : Nat
  snow : Bool
  fieldType : Nat
  deriving DecidableEq, Repr

namespace ClearLand

def grass (density : Nat) : ClearLand := ⟨.grass, density, false, 0⟩

/-- The ground one sees: snow where snow lies, else the raw ground. -/
def visibleGround (c : ClearLand) : ClearGround := if c.snow then .snow else c.ground

end ClearLand

/-- Trees of one species: `count` is one less than their number, `growth` their stage. -/
structure Grove where
  species : Species
  count : Nat
  growth : Nat
  ground : TreeGround
  density : Nat
  deriving DecidableEq, Repr

/-- Water with the random bits that vary its looks. -/
structure Water where
  cls : WaterClass
  bits : UInt32
  deriving DecidableEq, Repr

/-- What a tile is covered with. -/
inductive Surface where
  | clear (land : ClearLand)
  | trees (grove : Grove)
  | water (water : Water)
  | built
  deriving DecidableEq, Repr

/-- A surface without its contents. -/
inductive SurfaceKind where
  | clear
  | trees
  | water
  | built
  deriving DecidableEq, Repr

def Surface.kind : Surface → SurfaceKind
  | clear _ => .clear
  | trees _ => .trees
  | water _ => .water
  | built => .built

structure Tile where
  height : UInt8
  slope : Slope
  owner : Owner
  zone : Zone
  surface : Surface
  deriving DecidableEq, Repr

namespace Tile

/-- Flat land at sea level under full grass, owned by nobody. -/
def fresh : Tile := ⟨0, .flat, .nobody, .normal, .clear (.grass 3)⟩

instance : Inhabited Tile := ⟨fresh⟩

def kind (t : Tile) : SurfaceKind := t.surface.kind

/-- The visible ground of clear land. -/
def clearGround? (t : Tile) : Option ClearGround :=
  match t.surface with
  | .clear land => some land.visibleGround
  | _ => none

/-- The ground under trees. -/
def treeGround? (t : Tile) : Option TreeGround :=
  match t.surface with
  | .trees grove => some grove.ground
  | _ => none

/-- Whether the surface is land without structures: clear or trees. -/
def isLand (t : Tile) : Bool :=
  match t.surface with
  | .clear _ | .trees _ => true
  | .water _ | .built => false

end Tile

end MapPainter
