import MapPainter.Proofs.Import.Pass
import MapPainter.Proofs.Layer.Again
import MapPainter.Proofs.Raster.Pixels

/-!
# Importing a layer again

The words a brush draws depend on the tile it meets, so a second pass over a map that the first
one has changed could fall out of step with it. It does not: a tile is met once in a pass, and a
brush that meets the tile it has changed takes the same words and leaves it alone
(`Layer.brush_again`). From the same source of draws, a pass over its own result repeats itself.
-/

namespace MapPainter

namespace Canvas

open Projection (Call onCall)

variable {layer : Layer} {settings : ImportSettings} {c c' : Canvas} {calls : List Call}

/-- A stroke done again, on a map where its tile is as the stroke has left it. -/
theorem stroke_again {pixel : Raster.Rgb} {index : Nat} {m : TileMap}
    (h : c.stroke layer settings pixel index = .ok c') (htile : m.tile index = c'.map.tile index)
    (hclimate : m.climate = c.map.climate) :
    Canvas.stroke layer settings ⟨m, c.draws⟩ pixel index = .ok ⟨m, c'.draws⟩ := by
  obtain ⟨o, hbrush, hmap⟩ := stroke_eq_ok.mp h
  rw [hmap, settle_tile_self hbrush] at htile
  cases o with
  | none =>
    have hspot : Spot.ofMap m index = Spot.ofMap c.map index := by
      rw [Spot.ofMap, Spot.ofMap, hclimate, htile]
      rfl
    exact stroke_eq_ok.mpr ⟨none, by rw [hspot, hbrush], rfl⟩
  | some t =>
    obtain ⟨again, hagain, hsame⟩ := Layer.brush_again hbrush
    have hspot : Spot.ofMap m index = ⟨c.map.climate, .ok t⟩ := by
      rw [Spot.ofMap, hclimate, htile]
      rfl
    refine stroke_eq_ok.mpr ⟨again, by rw [hspot, ← hagain]; rfl, ?_⟩
    cases again with
    | none => rfl
    | some later =>
      obtain rfl := hsame later rfl
      exact (TileMap.put_of_tile_eq htile).symm

/-- Strokes on different tiles, done again on the map they have made. -/
theorem foldlM_stroke_again (hnodup : (calls.map Call.tile).Nodup)
    (h : calls.foldlM (onCall (stroke layer settings)) c = .ok c') :
    calls.foldlM (onCall (stroke layer settings)) ⟨c'.map, c.draws⟩ = .ok c' := by
  induction calls generalizing c with
  | nil =>
    cases h
    rfl
  | cons call calls ih =>
    obtain ⟨c₁, hstroke, hrest⟩ := Outcome.foldlM_cons_eq_ok.mp h
    obtain ⟨hnot, hnodup⟩ := List.nodup_cons.mp hnodup
    -- the later strokes leave the tile of the first one alone
    have hp := painted_of_foldlM hnodup hrest
    have hclimate : c'.map.climate = c.map.climate := by
      rw [hp.climate, stroke_climate hstroke]
    have hagain := stroke_again hstroke (hp.frame call.tile hnot) hclimate
    exact Outcome.foldlM_cons_eq_ok.mpr ⟨⟨c'.map, c₁.draws⟩, hagain, ih hnodup hrest⟩

/-- Painting a layer again, from the same draws, onto the map it has been painted on. -/
theorem paint_again {raster : Raster.Pixels} {progress : Projection.Progress Canvas}
    (h : c.paint layer settings raster = .ok progress) :
    Canvas.paint ⟨progress.state.map, c.draws⟩ layer settings raster = .ok progress := by
  obtain ⟨p, hfit, hall, hfold, hcount⟩ := paint_eq_ok.mp h
  have hnodup := p.calls_tile_nodup c.map.toExtent raster
  have hextent := (painted_of_foldlM hnodup hfold).toExtent
  refine paint_eq_ok.mpr ⟨p, ?_, ?_⟩
  · rw [hextent]
    exact hfit
  · rw [hextent]
    exact ⟨hall, foldlM_stroke_again hnodup hfold, hcount⟩

end Canvas

/-- **Importing again changes nothing.** After a load has succeeded, a load of the same raster as
the same layer under the same settings, from the draws that the first one started from, succeeds as
well: it reports the same, leaves the map as it is and takes the same words. -/
theorem Workspace.load_again {w w' : Workspace} {source : Raster.Source}
    {settings : ImportSettings} {layer : Layer} {request : Raster.Request} {report : ImportReport}
    (h : w.load source settings layer request = .ok (.ok report, w'))
    {later : Raster.Source} {request' : Raster.Request}
    (hsame : later.pixels request' = source.pixels request) (dirty : Bool) :
    Workspace.load ⟨⟨w'.map, w.draws⟩, dirty⟩ later settings layer request' =
      .ok (.ok report, w') := by
  obtain ⟨pixels, progress, hpixels, hpaint, rfl, rfl⟩ := Workspace.load_eq_ok.mp h
  exact Workspace.load_eq_ok.mpr
    ⟨pixels, progress, hsame.trans hpixels, Canvas.paint_again hpaint, rfl, rfl⟩

/-- A first load plants trees on the four inner tiles of a map and draws three words for each; a
second load finds the trees, draws as many words and plants nothing. -/
theorem Workspace.trees_again :
    ∃ (w w' : Workspace) (source : Raster.Source) (request : Raster.Request)
      (report : ImportReport),
      w.load source {} .trees request = .ok (.ok report, w') ∧
        report.count = ⟨4, 12⟩ ∧ w'.draws.taken = 12 ∧
        w.map.tiles.countP (fun t => t.kind = .trees) = 0 ∧
        w'.map.tiles.countP (fun t => t.kind = .trees) = 4 ∧
        Workspace.load ⟨⟨w'.map, w.draws⟩, false⟩ source {} .trees request =
          .ok (.ok report, w') := by
  let pixels := Raster.Pixels.plain 2 2 ⟨255, 255, 0⟩ (by decide)
  let source := Raster.Source.answering (.ok ⟨2, 2, some pixels⟩)
  let request : Raster.Request := ⟨.png, "trees.png", .base⟩
  let w : Workspace := ⟨⟨TileMap.plain 4 4 .temperate (by decide) (by decide), .fixed 0⟩, false⟩
  have hrun : (w.load source {} .trees request).map
      (fun r => (r.1, r.2.draws.taken, r.2.map.tiles.countP (fun t => t.kind = .trees))) =
        .ok (.ok ⟨.trees, 2, 2, ⟨4, 12⟩⟩, 12, 4) := by decide +kernel
  obtain ⟨⟨answer, w'⟩, hload, hvalue⟩ := Outcome.map_eq_ok.mp hrun
  obtain ⟨rfl, hrest⟩ := Prod.mk.inj hvalue
  obtain ⟨htaken, htrees⟩ := Prod.mk.inj hrest
  exact ⟨w, w', source, request, _, hload, rfl, htaken, by decide +kernel, htrees,
    load_again hload rfl false⟩

end MapPainter
