import MapPainter.Tile.Edit

/-!
# Tile maps

A map is a rectangle of tiles in row-major order. `Extent` is the rectangle alone: it numbers the
positions, tells inner tiles from border tiles, and never looks at a tile. Both sides of a map
are non-empty and there is one tile for every position; the type says so.
-/

namespace MapPainter

/-- The sides of a map. -/
structure Extent where
  sizeX : Nat
  sizeY : Nat
  deriving DecidableEq, Repr

namespace Extent

/-- The index of the tile at a position, an unsigned word of 32 bits. -/
def index (e : Extent) (x y : Nat) : Except Fault Nat :=
  if x < e.sizeX ∧ y < e.sizeY then do
    let row ← Word.fit 32 (y * e.sizeX)
    Word.fit 32 (row + x)
  else .error .offMap

/-- The position of a tile index. -/
def position (e : Extent) (index : Nat) : Nat × Nat := (index % e.sizeX, index / e.sizeX)

/-- Whether a tile has neighbours on all sides. -/
def isInner (e : Extent) (index : Nat) : Bool :=
  let (x, y) := e.position index
  decide (0 < x ∧ 0 < y ∧ x + 1 < e.sizeX ∧ y + 1 < e.sizeY)

end Extent

/-- A map with one tile for every position of its extent. -/
structure TileMap extends Extent where
  climate : Climate
  tiles : Array Tile
  sizeX_pos : 0 < sizeX
  sizeY_pos : 0 < sizeY
  size_tiles : tiles.size = sizeX * sizeY

namespace TileMap

/-- The map of fresh tiles, for non-empty sides. -/
def plain (sizeX sizeY : Nat) (climate : Climate) (hx : 0 < sizeX) (hy : 0 < sizeY) : TileMap where
  sizeX := sizeX
  sizeY := sizeY
  climate := climate
  tiles := Array.replicate (sizeX * sizeY) Tile.fresh
  sizeX_pos := hx
  sizeY_pos := hy
  size_tiles := Array.size_replicate

/-- A map of fresh tiles. -/
def fresh (sizeX sizeY : Nat) (climate : Climate) : Except Fault TileMap :=
  if h : 0 < sizeX ∧ 0 < sizeY then .ok (plain sizeX sizeY climate h.1 h.2)
  else .error .emptySide

/-- The tile of an index. -/
def tile (m : TileMap) (index : Nat) : Except Fault Tile :=
  match m.tiles[index]? with
  | some t => .ok t
  | none => .error .noSuchTile

/-- The map with the tile of an index replaced, if there is one. -/
def put (m : TileMap) (index : Nat) (t : Tile) : TileMap :=
  { m with
    tiles := m.tiles.setIfInBounds index t
    size_tiles := by rw [Array.size_setIfInBounds, m.size_tiles] }

/-- The map after an edit of one tile. The arguments of the edit are looked at first, then the
index. -/
def edit (m : TileMap) (index : Nat) (e : Edit) : Except Fault TileMap := do
  e.check
  let t ← m.tile index
  return m.put index (e.apply t)

/-- All tiles in order, each with its index as a word of 32 bits. -/
def indexed (m : TileMap) : Array (UInt32 × Tile) :=
  m.tiles.mapIdx fun i t => (UInt32.ofNat i, t)

/-- The species that grows on a tile by itself, picked by a byte of randomness. Only on a tropic
map is the tile looked at. -/
def nativeSpecies (climate : Climate) (tile : Except Fault Tile) (seed : Nat) :
    Except Fault Species :=
  match climate with
  | .temperate => .ok (SpeciesRange.temperate.pick seed)
  | .arctic => .ok (SpeciesRange.subArctic.pick seed)
  | .toyland => .ok (SpeciesRange.toyland.pick seed)
  | .tropic => tile.map (·.nativeSpecies seed)

end TileMap

end MapPainter
