import MapPainter.Proofs.Import.Run
import MapPainter.Proofs.Layer.Watered
import Mathlib.Data.Set.Basic

/-!
# Water of a map under construction

A map starts out dry: fresh tiles on a relief of heights and slopes (`TileMap.shape`). Imports lay
water and never drain it (`TileMap.Imports.waters_subset`). Since one import leaves the water of
every tile in order, so does any run of them, and at no time is there water out of its bed or sea
that belongs to somebody (`TileMap.watered_of_run`).
-/

namespace MapPainter.TileMap

/-- The map on a relief: every tile with the height and the slope of its index. -/
def shape (m : TileMap) (height : Nat → UInt8) (slope : Nat → Slope) : TileMap :=
  { m with
    tiles := m.tiles.mapIdx fun i t => { t with height := height i, slope := slope i }
    size_tiles := by rw [Array.size_mapIdx, m.size_tiles] }

/-- The water of every tile is in order. -/
def Watered (m : TileMap) : Prop := ∀ i t, m.tile i = .ok t → t.Watered

/-- The indices of the tiles with water. -/
def waters (m : TileMap) : Set Nat := { i | ∃ t, m.tile i = .ok t ∧ t.kind = .water }

variable {m m' m₁ : TileMap} {layer : Layer} {height : Nat → UInt8} {slope : Nat → Slope}

theorem tile_shape (m : TileMap) (height : Nat → UInt8) (slope : Nat → Slope) (i : Nat) :
    (m.shape height slope).tile i =
      (m.tile i).map fun t => { t with height := height i, slope := slope i } := by
  unfold tile shape
  rw [Array.getElem?_mapIdx]
  cases m.tiles[i]? <;> rfl

/-- A fresh map is dry, whatever its relief. -/
theorem watered_of_fresh {sizeX sizeY : Nat} {climate : Climate}
    (h : fresh sizeX sizeY climate = .ok m) : (m.shape height slope).Watered := by
  obtain ⟨hx, hy, rfl⟩ := eq_plain_of_fresh h
  intro i t ht
  rw [tile_shape] at ht
  obtain ⟨t₀, ht₀, rfl⟩ := Outcome.map_eq_ok.mp ht
  have howner : Tile.fresh.owner ≠ .water := by decide
  rw [tile_plain ht₀]
  exact Tile.watered_of_dry rfl howner

theorem Imports.watered (h : Imports layer m m') (hm : m.Watered) : m'.Watered :=
  h.forall_tile (fun _ _ => Touch.apply_watered) hm

/-- Where there is water, there is water after an import. -/
theorem Imports.waters_subset (h : Imports layer m m') : m.waters ⊆ m'.waters := by
  rintro i ⟨t, ht, hwater⟩
  rcases h.touched i with hsame | ⟨t₀, touch, ht₀, hlayer, -, htouch⟩
  · exact ⟨t, hsame.trans ht, hwater⟩
  · obtain rfl := Except.ok.inj (ht₀.symm.trans ht)
    have hkept : t₀.Kept (fun _ => True) (touch.apply t₀) := touch.kept t₀ trivial
    exact ⟨_, htouch, hkept.water hwater⟩

theorem Run.watered (h : Run m m') (hm : m.Watered) : m'.Watered := by
  induction h with
  | refl => exact hm
  | tail _ hstep ih =>
    obtain ⟨layer, himports⟩ := hstep
    exact himports.watered ih

theorem Run.waters_subset (h : Run m m') : m.waters ⊆ m'.waters := by
  induction h with
  | refl => exact subset_rfl
  | tail _ hstep ih =>
    obtain ⟨layer, himports⟩ := hstep
    exact ih.trans himports.waters_subset

/-- **Water stays in order.** Whatever is imported in whatever order onto a fresh map of any
relief, the water owns exactly the tiles of sea and rivers; canals lie on flat tiles, sea on flat
tiles of height 0, rivers on flat tiles and on half tiles; and whatever is imported from there on,
no tile with water is lost. -/
theorem watered_of_run {sizeX sizeY : Nat} {climate : Climate}
    (hfresh : fresh sizeX sizeY climate = .ok m) (h : Run (m.shape height slope) m₁) :
    m₁.Watered ∧ ∀ m₂, Run m₁ m₂ → m₁.waters ⊆ m₂.waters :=
  ⟨h.watered (watered_of_fresh hfresh), fun _ hlater => hlater.waters_subset⟩

/-- How many tiles have water of a class, with the water for their owner or without. -/
def countWater (m : TileMap) (cls : WaterClass) (owned : Bool) : Nat :=
  m.tiles.countP fun t => t.waterClass? = some cls ∧ (t.owner = .water ↔ owned)

/-- Canals with a river on the one half tile, and then sea wherever it can be: it takes two of the
canals, and leaves the one above sea level and the river. -/
theorem sea_and_canals_watered :
    ∃ (m m₁ m₂ : TileMap) (height : Nat → UInt8) (slope : Nat → Slope),
      fresh 4 4 .temperate = .ok m ∧ Imports .water (m.shape height slope) m₁ ∧
        Imports .water m₁ m₂ ∧ m₁.countWater .canal false = 3 ∧ m₁.countWater .river true = 1 ∧
        m₂.countWater .sea true = 2 ∧ m₂.countWater .canal false = 1 ∧
        m₂.countWater .river true = 1 ∧ m₁.Watered ∧ m₂.Watered ∧ m₁.waters ⊆ m₂.waters := by
  let m := plain 4 4 .temperate (by decide) (by decide)
  let height (i : Nat) : UInt8 := if i = 6 then 1 else 0
  let slope (i : Nat) : Slope := if i = 9 then ⟨0x21⟩ else .flat
  let answer (colour : Raster.Rgb) : Raster.Source :=
    .answering (.ok ⟨2, 2, some (Raster.Pixels.plain 2 2 colour (by decide))⟩)
  let request : Raster.Request := ⟨.png, "water.png", .base⟩
  let dug := Workspace.load ⟨⟨m.shape height slope, .fixed 0⟩, false⟩ (answer ⟨255, 255, 0⟩) {}
    .water request
  let flooded (w : Workspace) := w.load (answer ⟨0, 0, 255⟩) {} .water request
  have hrun : (dug >>= fun r => (flooded r.2).map fun r' =>
      (r.1, r'.1, [r.2.map.countWater .canal false, r.2.map.countWater .river true,
        r'.2.map.countWater .sea true, r'.2.map.countWater .canal false,
        r'.2.map.countWater .river true])) =
      .ok (.ok ⟨.water, 2, 2, ⟨4, 12⟩⟩, .ok ⟨.water, 2, 2, ⟨4, 12⟩⟩, [3, 1, 2, 1, 1]) := by
    decide +kernel
  obtain ⟨⟨report, w₁⟩, hdug, hrest⟩ := Outcome.bind_eq_ok.mp hrun
  obtain ⟨⟨report', w₂⟩, hflooded, hvalue⟩ := Outcome.map_eq_ok.mp hrest
  simp only [Prod.mk.injEq, List.cons.injEq, and_true] at hvalue
  obtain ⟨rfl, rfl, hcanals, hrivers, hsea, hcanal, hriver⟩ := hvalue
  have hfresh : fresh 4 4 .temperate = .ok m := rfl
  have hfirst : Imports .water (m.shape height slope) w₁.map := ⟨_, _, _, _, _, _, w₁, hdug, rfl⟩
  have hsecond : Imports .water w₁.map w₂.map := ⟨_, _, _, _, _, _, w₂, hflooded, rfl⟩
  have hruns : Run (m.shape height slope) w₁.map := .single ⟨_, hfirst⟩
  have hlater : Run w₁.map w₂.map := .single ⟨_, hsecond⟩
  obtain ⟨hwatered, hgrows⟩ := watered_of_run hfresh hruns
  obtain ⟨hwatered', -⟩ := watered_of_run hfresh (hruns.trans hlater)
  exact ⟨m, w₁.map, w₂.map, height, slope, hfresh, hfirst, hsecond, hcanals, hrivers, hsea,
    hcanal, hriver, hwatered, hwatered', hgrows w₂.map hlater⟩

end MapPainter.TileMap
