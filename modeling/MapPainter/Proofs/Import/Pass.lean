import MapPainter.Import
import MapPainter.Proofs.Layer.Suits
import MapPainter.Proofs.Projection.Calls

/-!
# Passes over a map

Painting a layer is one stroke for each call of a sweep. A stroke changes the tile of its index and
nothing else of the map, and a pass hands no index on twice: each tile of the map is what its own
brush has made of it, or what it was before (`Canvas.Painted`).
-/

namespace MapPainter

namespace Canvas

open Projection (Call onCall)

/-- The map after a brush has changed the tile of an index, or left it alone. -/
def settle (m : TileMap) (index : Nat) (o : Option Tile) : TileMap :=
  match o with
  | some t => m.put index t
  | none => m

section

variable {m : TileMap} {i j : Nat} {o : Option Tile}

@[simp] theorem settle_toExtent : (settle m i o).toExtent = m.toExtent := by
  cases o <;> rfl

@[simp] theorem settle_climate : (settle m i o).climate = m.climate := by
  cases o <;> rfl

theorem settle_tile_of_ne (h : i ≠ j) : (settle m i o).tile j = m.tile j := by
  cases o with
  | none => rfl
  | some t => exact TileMap.tile_put_of_ne h

theorem settle_tile {t : Tile} (ht : m.tile i = .ok t) :
    (settle m i o).tile i = .ok (o.getD t) := by
  cases o with
  | none => exact ht
  | some t' => exact TileMap.tile_put_self ht

/-- A brush that has changed a tile has found it on the map. -/
theorem settle_tile_self {layer : Layer} {settings : ImportSettings} {pixel : Raster.Rgb}
    {d d' : Draws} (h : layer.brush settings (Spot.ofMap m i) pixel d = .ok (o, d')) :
    (settle m i o).tile i = o.elim (m.tile i) .ok := by
  cases o with
  | none => rfl
  | some t =>
    obtain ⟨t₀, -, ht₀, -⟩ := Layer.touch_of_brush h
    exact TileMap.tile_put_self ht₀

end

variable {layer : Layer} {settings : ImportSettings} {c c' : Canvas} {calls : List Call}

theorem stroke_eq_ok {pixel : Raster.Rgb} {index : Nat} :
    c.stroke layer settings pixel index = .ok c' ↔
      ∃ o, layer.brush settings (Spot.ofMap c.map index) pixel c.draws = .ok (o, c'.draws) ∧
        c'.map = settle c.map index o := by
  unfold stroke
  obtain ⟨m, d⟩ := c
  obtain ⟨m', d'⟩ := c'
  simp only [Outcome.bind_eq_ok, Outcome.pure_eq_ok]
  constructor
  · rintro ⟨⟨o, d₁⟩, hbrush, h⟩
    cases o with
    | none =>
      cases h
      exact ⟨none, hbrush, rfl⟩
    | some t =>
      cases h
      exact ⟨some t, hbrush, rfl⟩
  · rintro ⟨o, hbrush, rfl⟩
    exact ⟨(o, d'), hbrush, by cases o <;> rfl⟩

section

variable {pixel : Raster.Rgb} {index i : Nat}

theorem stroke_climate (h : c.stroke layer settings pixel index = .ok c') :
    c'.map.climate = c.map.climate := by
  obtain ⟨o, -, hmap⟩ := stroke_eq_ok.mp h
  rw [hmap, settle_climate]

theorem stroke_tile_of_ne (h : c.stroke layer settings pixel index = .ok c') (hi : index ≠ i) :
    c'.map.tile i = c.map.tile i := by
  obtain ⟨o, -, hmap⟩ := stroke_eq_ok.mp h
  rw [hmap, settle_tile_of_ne hi]

end

/-- The map `m'` is `m` after the strokes of some calls, one for each tile that they name. -/
structure Painted (layer : Layer) (settings : ImportSettings) (calls : List Call)
    (m m' : TileMap) : Prop where
  toExtent : m'.toExtent = m.toExtent
  climate : m'.climate = m.climate
  /-- Tiles that no call names are as they were. -/
  frame : ∀ i, i ∉ calls.map Call.tile → m'.tile i = m.tile i
  /-- The tile of a call is what the brush has made of it. -/
  brushed : ∀ call ∈ calls, ∃ d o d',
    layer.brush settings (Spot.ofMap m call.tile) call.pixel d = .ok (o, d') ∧
      m'.tile call.tile = o.elim (m.tile call.tile) .ok

theorem painted_of_foldlM (hnodup : (calls.map Call.tile).Nodup)
    (h : calls.foldlM (onCall (stroke layer settings)) c = .ok c') :
    Painted layer settings calls c.map c'.map := by
  induction calls generalizing c with
  | nil =>
    cases h
    exact ⟨rfl, rfl, fun _ _ => rfl, fun call hcall => absurd hcall List.not_mem_nil⟩
  | cons call calls ih =>
    obtain ⟨c₁, hstroke, hrest⟩ := Outcome.foldlM_cons_eq_ok.mp h
    obtain ⟨o, hbrush, hmap⟩ := stroke_eq_ok.mp hstroke
    obtain ⟨hnot, hnodup⟩ := List.nodup_cons.mp hnodup
    have hp := ih hnodup hrest
    have hother : ∀ i, call.tile ≠ i → c₁.map.tile i = c.map.tile i :=
      fun i hi => stroke_tile_of_ne hstroke hi
    constructor
    · rw [hp.toExtent, hmap, settle_toExtent]
    · rw [hp.climate, stroke_climate hstroke]
    · intro i hi
      have hne : i ≠ call.tile := List.ne_of_not_mem_cons hi
      rw [hp.frame i (List.not_mem_of_not_mem_cons hi), hother i hne.symm]
    · intro later hlater
      rcases List.mem_cons.mp hlater with rfl | hlater
      · refine ⟨c.draws, o, c₁.draws, hbrush, ?_⟩
        rw [hp.frame later.tile hnot, hmap, settle_tile_self hbrush]
      · have hne : call.tile ≠ later.tile := fun heq =>
          hnot (heq ▸ List.mem_map_of_mem hlater)
        have hspot : Spot.ofMap c₁.map later.tile = Spot.ofMap c.map later.tile := by
          rw [Spot.ofMap, Spot.ofMap, hother _ hne, hmap, settle_climate]
        have hlater := hp.brushed later hlater
        rwa [hspot, hother _ hne] at hlater

/-- A pass leaves a tile alone or touches it once. -/
theorem Painted.touched {m m' : TileMap} (h : Painted layer settings calls m m') (i : Nat) :
    m'.tile i = m.tile i ∨
      ∃ (t : Tile) (touch : Touch), m.tile i = .ok t ∧ touch.layer = layer ∧ touch.Suits t ∧
        m'.tile i = .ok (touch.apply t) := by
  by_cases hi : i ∈ calls.map Call.tile
  · obtain ⟨call, hcall, rfl⟩ := List.mem_map.mp hi
    obtain ⟨d, o, d', hbrush, htile⟩ := h.brushed call hcall
    cases o with
    | none => exact Or.inl htile
    | some t' =>
      obtain ⟨t, touch, ht, -, hlayer, hsuits, rfl⟩ := Layer.touch_of_brush hbrush
      exact Or.inr ⟨t, touch, ht, hlayer, hsuits, htile⟩
  · exact Or.inl (h.frame i hi)

/-- Painting a raster succeeds exactly if it can be projected, every place of the footprint leads
somewhere, and the strokes of all calls succeed. -/
theorem paint_eq_ok {raster : Raster.Pixels} {progress : Projection.Progress Canvas} :
    c.paint layer settings raster = .ok progress ↔
      ∃ p, Projection.fit raster.width raster.height c.map.sizeX c.map.sizeY settings.rotation =
          .ok p ∧
        (∀ place ∈ p.footprint, ∃ call, p.look c.map.toExtent raster place = .ok call) ∧
        (p.calls c.map.toExtent raster).foldlM (onCall (stroke layer settings)) c =
          .ok progress.state ∧
        progress.count.visited = (p.calls c.map.toExtent raster).length ∧
        progress.count.border + (p.calls c.map.toExtent raster).length = p.footprint.length := by
  rw [paint, paintOver, Outcome.bind_eq_ok]
  exact exists_congr fun p => and_congr_right fun _ => Projection.sweep_eq_ok_iff

/-- Painting a raster onto a map paints the tiles that the raster covers. -/
theorem painted_of_paint {raster : Raster.Pixels} {progress : Projection.Progress Canvas}
    (h : c.paint layer settings raster = .ok progress) :
    ∃ p, Projection.fit raster.width raster.height c.map.sizeX c.map.sizeY settings.rotation =
        .ok p ∧
      Painted layer settings (p.calls c.map.toExtent raster) c.map progress.state.map := by
  obtain ⟨p, hfit, -, hfold, -⟩ := paint_eq_ok.mp h
  exact ⟨p, hfit, painted_of_foldlM (p.calls_tile_nodup _ _) hfold⟩

end Canvas

namespace Workspace

variable {w w' : Workspace} {source : Raster.Source} {settings : ImportSettings} {layer : Layer}
  {request : Raster.Request} {report : ImportReport}

/-- A load succeeds exactly if its source has the pixels and they can be painted. -/
theorem load_eq_ok :
    w.load source settings layer request = .ok (.ok report, w') ↔
      ∃ pixels progress, source.pixels request = .ok pixels ∧
        w.toCanvas.paint layer settings pixels = .ok progress ∧
        report = ⟨layer, pixels.width, pixels.height, progress.count⟩ ∧
        w' = { toCanvas := progress.state, dirty := true } := by
  unfold load
  split
  case h_1 error herror =>
    rw [herror]
    simp
  case h_2 pixels hpixels =>
    simp only [hpixels, Outcome.bind_eq_ok, Outcome.pure_eq_ok, Except.ok.injEq, Prod.mk.injEq]
    constructor
    · rintro ⟨progress, hpaint, hreport, hw⟩
      exact ⟨pixels, progress, rfl, hpaint, hreport.symm, hw.symm⟩
    · rintro ⟨_, progress, rfl, hpaint, rfl, rfl⟩
      exact ⟨progress, hpaint, rfl, rfl⟩

/-- A load is refused exactly if its source has no pixels, and then nothing has happened. -/
theorem load_eq_error {error : ImportError} :
    w.load source settings layer request = .ok (.error error, w') ↔
      source.pixels request = .error error ∧ w' = w := by
  unfold load
  split
  case h_1 error' herror => simp [herror, eq_comm]
  case h_2 pixels hpixels => simp [hpixels, Outcome.bind_eq_ok]

end Workspace

end MapPainter
