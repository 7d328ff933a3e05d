import MapPainter.TileMap

/-!
# Census

Every tile counts once, by its visible surface; tiles in a zone other than the normal one count
a second time, by zone.
-/

namespace MapPainter

structure Census where
  grass : Nat := 0
  rough : Nat := 0
  rocks : Nat := 0
  fields : Nat := 0
  snow : Nat := 0
  desert : Nat := 0
  trees : Nat := 0
  sea : Nat := 0
  canal : Nat := 0
  river : Nat := 0
  structures : Nat := 0
  desertZone : Nat := 0
  rainforestZone : Nat := 0
  deriving DecidableEq, Repr

namespace Census

/-- Counts a visible surface. -/
def countSurface (c : Census) : Surface → Census
  | .clear land =>
    match land.visibleGround with
    | .grass => { c with grass := c.grass + 1 }
    | .rough => { c with rough := c.rough + 1 }
    | .rocks => { c with rocks := c.rocks + 1 }
    | .fields => { c with fields := c.fields + 1 }
    | .snow => { c with snow := c.snow + 1 }
    | .desert => { c with desert := c.desert + 1 }
  | .trees _ => { c with trees := c.trees + 1 }
  | .water ⟨.sea, _⟩ => { c with sea := c.sea + 1 }
  | .water ⟨.canal, _⟩ => { c with canal := c.canal + 1 }
  | .water ⟨.river, _⟩ => { c with river := c.river + 1 }
  | .built => { c with structures := c.structures + 1 }

/-- Counts a zone; the normal one has no counter. -/
def countZone (c : Census) : Zone → Census
  | .normal => c
  | .desert => { c with desertZone := c.desertZone + 1 }
  | .rainforest => { c with rainforestZone := c.rainforestZone + 1 }

def countTile (c : Census) (t : Tile) : Census := (c.countSurface t.surface).countZone t.zone

/-- The counters with their labels, in the order they are printed in. -/
def counters (c : Census) : List (String × Nat) :=
  [("grass", c.grass), ("rough", c.rough), ("rocks", c.rocks), ("fields", c.fields),
    ("snow", c.snow), ("desert", c.desert), ("trees", c.trees), ("sea", c.sea),
    ("canal", c.canal), ("river", c.river), ("structures", c.structures),
    ("desert_zone", c.desertZone), ("rainforest_zone", c.rainforestZone)]

/-- The counters in one line. -/
def text (c : Census) : String :=
  " ".intercalate (c.counters.map fun (label, n) => s!"{label}={n}")

end Census

def TileMap.census (m : TileMap) : Census := m.tiles.foldl Census.countTile {}

end MapPainter
