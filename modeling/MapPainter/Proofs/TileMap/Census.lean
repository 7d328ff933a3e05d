import MapPainter.Proofs.TileMap
import MapPainter.TileMap.Census
import Mathlib.Data.List.Forall2
import Mathlib.Logic.ExistsUnique

/-!
# What a census counts

A tile shows exactly one of eleven sights, which `Tile.shows` tells without the counting code: snow
hides the ground it lies on. Every counter of a census is the number of tiles that show its sight,
so the eleven add up to the number of tiles (`TileMap.counted`).

A census goes through the tiles one by one. What counting one tile does to a counter is a case
analysis over surfaces, and the induction over the tiles is made once for all counters
(`Census.foldl_countTile`).
-/

namespace MapPainter

/-- What is seen of a tile. -/
inductive Sight where
  | ground (ground : ClearGround)
  | trees
  | water (cls : WaterClass)
  | built
  deriving DecidableEq, Repr

def ClearLand.shows (land : ClearLand) : ClearGround → Bool
  | .snow => land.snow || land.ground = .snow
  | ground => !land.snow && land.ground = ground

def Tile.shows (t : Tile) (s : Sight) : Bool :=
  match t.surface, s with
  | .clear land, .ground ground => land.shows ground
  | .water water, .water cls => water.cls = cls
  | .trees _, .trees | .built, .built => true
  | _, _ => false

theorem Tile.shows_built_iff {t : Tile} : t.shows .built = true ↔ t.surface = .built := by
  obtain ⟨height, slope, owner, zone, surface⟩ := t
  cases surface <;> simp [shows]

/-- Every tile shows something, and nothing else. -/
theorem Tile.existsUnique_shows (t : Tile) : ∃! s, t.shows s = true := by
  obtain ⟨height, slope, owner, zone, surface⟩ := t
  rcases surface with ⟨ground, density, snow, fieldType⟩ | grove | ⟨cls, bits⟩ | _
  · refine ⟨.ground (if snow then .snow else ground), ?_, ?_⟩
    · cases snow <;> cases ground <;> rfl
    · rintro (seen | _ | _ | _) hs
      case ground => cases snow <;> cases seen <;> simp_all [shows, ClearLand.shows]
      all_goals cases hs
  · refine ⟨.trees, rfl, ?_⟩
    rintro (_ | _ | _ | _) hs
    case trees => rfl
    all_goals cases hs
  · refine ⟨.water cls, by simp [shows], ?_⟩
    rintro (_ | _ | seen | _) hs
    case water => exact congrArg Sight.water (of_decide_eq_true hs).symm
    all_goals cases hs
  · refine ⟨.built, rfl, ?_⟩
    rintro (_ | _ | _ | _) hs
    case built => rfl
    all_goals cases hs

namespace Census

/-- The counter of a sight. -/
def seen (c : Census) : Sight → Nat
  | .ground .grass => c.grass
  | .ground .rough => c.rough
  | .ground .rocks => c.rocks
  | .ground .fields => c.fields
  | .ground .snow => c.snow
  | .ground .desert => c.desert
  | .trees => c.trees
  | .water .sea => c.sea
  | .water .canal => c.canal
  | .water .river => c.river
  | .built => c.structures

/-- The sum of the eleven counters of surfaces. -/
def total (c : Census) : Nat :=
  c.grass + c.rough + c.rocks + c.fields + c.snow + c.desert + c.trees + c.sea + c.canal +
    c.river + c.structures

/-- Tiles with water of any class. -/
def waters (c : Census) : Nat := c.sea + c.canal + c.river

/-! ## Counting one tile -/

section

variable (c : Census) (t : Tile) (s : Sight)

theorem seen_countZone (zone : Zone) : (c.countZone zone).seen s = c.seen s := by
  cases zone <;> rcases s with ⟨_ | _ | _ | _ | _ | _⟩ | _ | ⟨_ | _ | _⟩ | _ <;> rfl

theorem seen_countTile : (c.countTile t).seen s = c.seen s + if t.shows s then 1 else 0 := by
  obtain ⟨height, slope, owner, zone, surface⟩ := t
  rw [countTile, seen_countZone]
  rcases surface with ⟨ground, density, snow, fieldType⟩ | grove | ⟨cls, bits⟩ | _
  · cases snow <;> cases ground <;>
      rcases s with ⟨_ | _ | _ | _ | _ | _⟩ | _ | ⟨_ | _ | _⟩ | _ <;> rfl
  · rcases s with ⟨_ | _ | _ | _ | _ | _⟩ | _ | ⟨_ | _ | _⟩ | _ <;> rfl
  · cases cls <;> rcases s with ⟨_ | _ | _ | _ | _ | _⟩ | _ | ⟨_ | _ | _⟩ | _ <;> rfl
  · rcases s with ⟨_ | _ | _ | _ | _ | _⟩ | _ | ⟨_ | _ | _⟩ | _ <;> rfl

theorem total_countTile : (c.countTile t).total = c.total + 1 := by
  obtain ⟨height, slope, owner, zone, surface⟩ := t
  have hzone (c : Census) : (c.countZone zone).total = c.total := by cases zone <;> rfl
  rw [countTile, hzone]
  rcases surface with ⟨ground, density, snow, fieldType⟩ | grove | ⟨cls, bits⟩ | _
  · cases snow <;> cases ground <;>
      simp only [countSurface, ClearLand.visibleGround, total, if_true, if_false,
        Bool.false_eq_true] <;> omega
  · simp only [countSurface, total]
    omega
  · cases cls <;> simp only [countSurface, total] <;> omega
  · simp only [countSurface, total]
    omega

theorem waters_countTile :
    (c.countTile t).waters = c.waters + if decide (t.kind = .water) then 1 else 0 := by
  obtain ⟨height, slope, owner, zone, surface⟩ := t
  have hzone (c : Census) : (c.countZone zone).waters = c.waters := by cases zone <;> rfl
  rw [countTile, hzone]
  rcases surface with ⟨ground, density, snow, fieldType⟩ | grove | ⟨cls, bits⟩ | _
  · cases snow <;> cases ground <;> rfl
  · rfl
  · cases cls <;>
      simp only [countSurface, waters, Tile.kind, Surface.kind, decide_true, if_true] <;> omega
  · rfl

/-- Surfaces are not counted as zones. -/
theorem zones_countSurface (surface : Surface) :
    (c.countSurface surface).desertZone = c.desertZone ∧
      (c.countSurface surface).rainforestZone = c.rainforestZone := by
  rcases surface with ⟨ground, density, snow, fieldType⟩ | grove | ⟨cls, bits⟩ | _
  · cases snow <;> cases ground <;> exact ⟨rfl, rfl⟩
  · exact ⟨rfl, rfl⟩
  · cases cls <;> exact ⟨rfl, rfl⟩
  · exact ⟨rfl, rfl⟩

theorem desertZone_countTile :
    (c.countTile t).desertZone = c.desertZone + if decide (t.zone = .desert) then 1 else 0 := by
  rw [countTile, ← (zones_countSurface c t.surface).1]
  cases t.zone <;> rfl

theorem rainforestZone_countTile :
    (c.countTile t).rainforestZone =
      c.rainforestZone + if decide (t.zone = .rainforest) then 1 else 0 := by
  rw [countTile, ← (zones_countSurface c t.surface).2]
  cases t.zone <;> rfl

end

/-! ## Counting them all -/

/-- A counter that goes up by one with every tile of a kind counts the tiles of that kind. -/
theorem foldl_countTile {counter : Census → Nat} {p : Tile → Bool}
    (h : ∀ c t, counter (c.countTile t) = counter c + if p t then 1 else 0)
    (tiles : List Tile) (c : Census) :
    counter (tiles.foldl countTile c) = counter c + tiles.countP p := by
  induction tiles generalizing c with
  | nil => rfl
  | cons t tiles ih =>
    rw [List.foldl_cons, ih, h, List.countP_cons]
    omega

theorem seen_empty (s : Sight) : ({} : Census).seen s = 0 := by
  rcases s with ⟨_ | _ | _ | _ | _ | _⟩ | _ | ⟨_ | _ | _⟩ | _ <;> rfl

end Census

namespace TileMap

variable {m m' : TileMap}

theorem counter_census (m : TileMap) (counter : Census → Nat) (p : Tile → Bool)
    (h : ∀ c t, counter (Census.countTile c t) = counter c + if p t then 1 else 0)
    (hempty : counter {} = 0) : counter m.census = m.tiles.countP p := by
  rw [census, ← Array.foldl_toList, Census.foldl_countTile h, hempty, Nat.zero_add,
    Array.countP_toList]

theorem seen_census (m : TileMap) (s : Sight) : m.census.seen s = m.tiles.countP (·.shows s) :=
  m.counter_census (·.seen s) (·.shows s) (fun c t => c.seen_countTile t s) (Census.seen_empty s)

theorem total_census (m : TileMap) : m.census.total = m.sizeX * m.sizeY := by
  have h := m.counter_census Census.total (fun _ => true) Census.total_countTile rfl
  rw [h, ← Array.countP_toList, List.countP_true, Array.length_toList, m.size_tiles]

theorem waters_census (m : TileMap) : m.census.waters = m.tiles.countP (·.kind = .water) :=
  m.counter_census Census.waters _ Census.waters_countTile rfl

/-- The census `c` has counted every tile of the map once by what it shows, and those in a desert
or in a rainforest by their zone. -/
structure Counted (m : TileMap) (c : Census) : Prop where
  total : c.total = m.sizeX * m.sizeY
  shows : ∀ i t, m.tile i = .ok t → ∃! s, t.shows s = true
  seen : ∀ s, c.seen s = m.tiles.countP (·.shows s)
  desertZone : c.desertZone = m.tiles.countP (·.zone = .desert)
  rainforestZone : c.rainforestZone = m.tiles.countP (·.zone = .rainforest)
  /-- No counter needs more room than the number of tiles. -/
  counters : ∀ entry ∈ c.counters, entry.2 ≤ m.sizeX * m.sizeY

theorem counted (m : TileMap) : m.Counted m.census := by
  have hdesert := m.counter_census Census.desertZone _ Census.desertZone_countTile rfl
  have hrainforest := m.counter_census Census.rainforestZone _ Census.rainforestZone_countTile rfl
  refine ⟨m.total_census, fun _ t _ => t.existsUnique_shows, m.seen_census, hdesert, hrainforest,
    ?_⟩
  have hsize : ∀ p : Tile → Bool, m.tiles.countP p ≤ m.sizeX * m.sizeY :=
    fun p => m.size_tiles ▸ Array.countP_le_size
  have hseen : ∀ s, m.census.seen s ≤ m.sizeX * m.sizeY := fun s => m.seen_census s ▸ hsize _
  intro entry hentry
  simp only [Census.counters, List.mem_cons, List.not_mem_nil, or_false] at hentry
  rcases hentry with rfl | rfl | rfl | rfl | rfl | rfl | rfl | rfl | rfl | rfl | rfl | rfl | rfl
  · exact hseen (.ground .grass)
  · exact hseen (.ground .rough)
  · exact hseen (.ground .rocks)
  · exact hseen (.ground .fields)
  · exact hseen (.ground .snow)
  · exact hseen (.ground .desert)
  · exact hseen .trees
  · exact hseen (.water .sea)
  · exact hseen (.water .canal)
  · exact hseen (.water .river)
  · exact hseen .built
  · exact hdesert ▸ hsize _
  · exact hrainforest ▸ hsize _

/-! ## Two maps -/

theorem countP_le_of_forall₂ {p q : Tile → Bool} {ts ts' : List Tile}
    (h : List.Forall₂ (fun t t' => p t = true → q t' = true) ts ts') :
    ts.countP p ≤ ts'.countP q := by
  induction h with
  | nil => exact Nat.le_refl 0
  | @cons t t' ts ts' hpq _ ih =>
    rw [List.countP_cons, List.countP_cons]
    by_cases hp : p t = true
    · rw [if_pos hp, if_pos (hpq hp)]
      exact Nat.add_le_add_right ih 1
    · rw [if_neg hp]
      exact Nat.le_trans ih (Nat.le_add_right _ _)

/-- Where each tile that is counted on one map is counted on the other, the other has no fewer. -/
theorem countP_le_countP {p q : Tile → Bool} (hextent : m'.toExtent = m.toExtent)
    (h : ∀ i t t', m.tile i = .ok t → m'.tile i = .ok t' → p t = true → q t' = true) :
    m.tiles.countP p ≤ m'.tiles.countP q := by
  have hsize : m.tiles.toList.length = m'.tiles.toList.length := by
    rw [Array.length_toList, Array.length_toList, m.size_tiles, m'.size_tiles, hextent]
  rw [← Array.countP_toList, ← Array.countP_toList]
  refine countP_le_of_forall₂ (List.forall₂_iff_get.mpr ⟨hsize, fun i hi hi' => ?_⟩)
  exact h i _ _ (tile_eq_ok.mpr (Array.getElem?_eq_getElem hi))
    (tile_eq_ok.mpr (Array.getElem?_eq_getElem hi'))

end TileMap

end MapPainter
