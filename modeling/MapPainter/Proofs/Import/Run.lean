import MapPainter.Proofs.Import.Pass
import MapPainter.Proofs.Layer.Sound
import MapPainter.Proofs.Raster.Pixels
import MapPainter.Proofs.TileMap
import Mathlib.Logic.Relation

/-!
# Runs of imports

A map is worked on by one import after the other, each from its own source of rasters and draws
and under its own settings (`TileMap.Run`). What an import keeps of every map, a run keeps: on a
map that starts out sound, no tile ever leaves the range of its numbers (`TileMap.sound_of_run`).
-/

namespace MapPainter.TileMap

/-- The map `m'` is what a successful import of a layer has made of `m`. -/
def Imports (layer : Layer) (m m' : TileMap) : Prop :=
  ∃ (draws : Draws) (dirty : Bool) (source : Raster.Source) (settings : ImportSettings)
    (request : Raster.Request) (report : ImportReport) (w' : Workspace),
    Workspace.load ⟨⟨m, draws⟩, dirty⟩ source settings layer request = .ok (.ok report, w') ∧
      w'.map = m'

/-- The map `m'` is what some number of successful imports have made of `m`. -/
def Run : TileMap → TileMap → Prop :=
  Relation.ReflTransGen fun m m' => ∃ layer, Imports layer m m'

/-- Every tile of the map is sound. -/
def Sound (m : TileMap) : Prop := ∀ i t, m.tile i = .ok t → t.Sound

variable {m m' : TileMap} {layer : Layer}

theorem Imports.painted (h : Imports layer m m') :
    ∃ settings calls, Canvas.Painted layer settings calls m m' := by
  obtain ⟨draws, dirty, source, settings, request, report, w', hload, rfl⟩ := h
  obtain ⟨pixels, progress, -, hpaint, -, rfl⟩ := Workspace.load_eq_ok.mp hload
  obtain ⟨p, -, hpainted⟩ := Canvas.painted_of_paint hpaint
  exact ⟨settings, _, hpainted⟩

/-- An import leaves a tile alone, or touches it once in the way of its layer. -/
theorem Imports.touched (h : Imports layer m m') (i : Nat) :
    m'.tile i = m.tile i ∨
      ∃ (t : Tile) (touch : Touch), m.tile i = .ok t ∧ touch.layer = layer ∧ touch.Suits t ∧
        m'.tile i = .ok (touch.apply t) := by
  obtain ⟨settings, calls, hpainted⟩ := h.painted
  exact hpainted.touched i

theorem sound_of_fresh {sizeX sizeY : Nat} {climate : Climate}
    (h : fresh sizeX sizeY climate = .ok m) : m.Sound := by
  obtain ⟨hx, hy, rfl⟩ := eq_plain_of_fresh h
  intro i t ht
  rw [tile_plain ht]
  exact Tile.fresh_sound

/-- What suitable touches keep of a tile, an import keeps of every tile of a map. -/
theorem Imports.forall_tile {P : Tile → Prop} (h : Imports layer m m')
    (hP : ∀ (touch : Touch) (t : Tile), P t → touch.Suits t → P (touch.apply t))
    (hm : ∀ i t, m.tile i = .ok t → P t) : ∀ i t, m'.tile i = .ok t → P t := by
  intro i t' ht'
  rcases h.touched i with hsame | ⟨t, touch, ht, -, hsuits, htouch⟩
  · exact hm i t' (hsame.symm.trans ht')
  · cases htouch.symm.trans ht'
    exact hP touch t (hm i t ht) hsuits

theorem Imports.sound (h : Imports layer m m') (hm : m.Sound) : m'.Sound :=
  h.forall_tile (fun _ _ => Touch.apply_sound) hm

/-- **Tiles stay sound.** After any run of imports, of whatever layers and rasters, from a fresh
map or from any map whose tiles are sound, every tile is sound: clear land has a raw ground other
than snow, a density of at most 3 and one of nine field types, and snow only on grass or rough
land; trees have a proper species and a count, growth and density in range. -/
theorem sound_of_run (h : Run m m')
    (hm : (∃ sizeX sizeY climate, fresh sizeX sizeY climate = .ok m) ∨ m.Sound) : m'.Sound := by
  have hstart : m.Sound := by
    rcases hm with ⟨sizeX, sizeY, climate, hfresh⟩ | hm
    · exact sound_of_fresh hfresh
    · exact hm
  induction h with
  | refl => exact hstart
  | tail _ hstep ih =>
    obtain ⟨layer, himports⟩ := hstep
    exact himports.sound ih

/-- Trees planted on a fresh map and then snowed over stand on snow, and are sound. -/
theorem snowy_forest_sound :
    ∃ (m m₁ m₂ : TileMap), fresh 4 4 .arctic = .ok m ∧ Imports .trees m m₁ ∧ Imports .snow m₁ m₂ ∧
      m₂.tiles.countP (fun t => t.treeGround? = some .snowDesert) = 4 ∧ m₂.Sound := by
  let m := plain 4 4 .arctic (by decide) (by decide)
  let trees := Raster.Pixels.plain 2 2 ⟨255, 255, 0⟩ (by decide)
  let snow := Raster.Pixels.plain 2 2 ⟨0, 0, 120⟩ (by decide)
  let request : Raster.Request := ⟨.png, "layer.png", .base⟩
  let answer (pixels : Raster.Pixels) : Raster.Source := .answering (.ok ⟨2, 2, some pixels⟩)
  let planted := Workspace.load ⟨⟨m, .fixed 0⟩, false⟩ (answer trees) {} .trees request
  let snowed (w : Workspace) := w.load (answer snow) {} .snow request
  have hrun : (planted >>= fun r => (snowed r.2).map fun r' =>
      (r.1, r'.1, r'.2.map.tiles.countP (fun t => t.treeGround? = some .snowDesert))) =
        .ok (.ok ⟨.trees, 2, 2, ⟨4, 12⟩⟩, .ok ⟨.snow, 2, 2, ⟨4, 12⟩⟩, 4) := by decide +kernel
  obtain ⟨⟨report, w₁⟩, hplanted, hrest⟩ := Outcome.bind_eq_ok.mp hrun
  obtain ⟨⟨report', w₂⟩, hsnowed, hvalue⟩ := Outcome.map_eq_ok.mp hrest
  simp only [Prod.mk.injEq] at hvalue
  obtain ⟨rfl, rfl, hcount⟩ := hvalue
  have htrees : Imports .trees m w₁.map := ⟨_, _, _, _, _, _, w₁, hplanted, rfl⟩
  have hsnow : Imports .snow w₁.map w₂.map := ⟨_, _, _, _, _, _, w₂, hsnowed, rfl⟩
  have hruns : Run m w₂.map := (Relation.ReflTransGen.single ⟨_, htrees⟩).tail ⟨_, hsnow⟩
  exact ⟨m, w₁.map, w₂.map, rfl, htrees, hsnow, hcount,
    sound_of_run hruns (Or.inl ⟨4, 4, .arctic, rfl⟩)⟩

end MapPainter.TileMap
