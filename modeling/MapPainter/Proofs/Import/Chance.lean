import MapPainter.Proofs.Import.Abreast
import MapPainter.Proofs.Layer.Steady

/-!
# Imports that chance does not move

A raster without middle tones says all there is to say. From any source of draws it takes as many of
them to import, and makes the same map but for the random bits of canals and rivers
(`saturated_leaves_no_chance`). Two passes stay abreast because every brush has taken as many words
from the one source as from the other.
-/

namespace MapPainter

theorem Layer.abreast_of_saturated {layer : Layer} {settings : ImportSettings} {climate : Climate}
    {pixel : Raster.Rgb} (h : pixel.Saturated) (hbright : layer = .trees → Gradient.dim ≤ pixel.b)
    (d e : Draws) (t : Tile) :
    layer.Abreast settings climate pixel (fun x y => ∃ n, x = d.advance n ∧ y = e.advance n)
      (fun x y => y.map Tile.still = x.map Tile.still) t t := by
  rintro _ _ o x' ⟨n, rfl, rfl⟩ hbrush
  obtain ⟨k, rfl, hany⟩ := brush_steady h hbright hbrush
  obtain ⟨o', hbrush', hsame⟩ := hany (e.advance n)
  refine ⟨o', _, hbrush', ⟨n + k, ?_, ?_⟩, congrArg Except.ok hsame⟩
  · exact Draws.advance_advance
  · exact Draws.advance_advance

/-- **Saturated rasters leave nothing to chance.** An import succeeds, and every channel of its
raster is at most `0x10` or at least `0xf0`; of a raster of trees, blue is at least `0x10`. Then it
succeeds from any other source of draws as well. It reports the same and takes as many words, and
the map is the same but for the random bits of its canals and rivers. -/
theorem saturated_leaves_no_chance {im : Import} {m : TileMap} {report : ImportReport} {c : Canvas}
    (h : im.Makes m report c) (hsaturated : ∀ pixel, im.Shows pixel → pixel.Saturated)
    (hbright : im.layer = .trees → ∀ pixel, im.Shows pixel → Gradient.dim ≤ pixel.b) (d : Draws) :
    (∃ report' c', { im with draws := d }.Makes m report' c') ∧
      ∀ report' c', { im with draws := d }.Makes m report' c' →
        report' = report ∧ c'.map.toExtent = c.map.toExtent ∧ c'.map.climate = c.map.climate ∧
          (∃ n, c.draws = im.draws.advance n ∧ c'.draws = d.advance n) ∧
          ∀ i, (c'.map.tile i).map Tile.still = (c.map.tile i).map Tile.still := by
  obtain ⟨c', hmakes, hdraws, hstill⟩ := h.abreast (d := d)
    (R := fun x y => ∃ n, x = im.draws.advance n ∧ y = d.advance n)
    (Q := fun _ x y => y.map Tile.still = x.map Tile.still) rfl rfl ⟨0, rfl, rfl⟩ (fun _ => rfl)
    fun i t t' ht ht' pixel hshows => by
      obtain rfl := Except.ok.inj (ht.symm.trans ht')
      exact Layer.abreast_of_saturated (hsaturated pixel hshows)
        (fun htrees => hbright htrees pixel hshows) im.draws d t
  refine ⟨⟨report, c', hmakes⟩, fun report'' c'' hmakes' => ?_⟩
  obtain ⟨rfl, rfl⟩ := hmakes.unique hmakes'
  obtain ⟨_, hpainted, -⟩ := h.painted
  obtain ⟨_, hpainted', -⟩ := hmakes.painted
  refine ⟨rfl, ?_, ?_, hdraws, hstill⟩
  · rw [hpainted.toExtent, hpainted'.toExtent]
  · rw [hpainted.climate, hpainted'.climate]

/-- The lowest and the highest words that there are plant the same four trees, from channels at the
very edges of what is saturated. -/
theorem trees_leave_no_chance :
    ∃ (im : Import) (m : TileMap) (report : ImportReport) (c c' : Canvas),
      im.layer = .trees ∧ im.draws = .fixed 0 ∧ im.Makes m report c ∧
        { im with draws := .fixed 0xffffffff }.Makes m report c' ∧
        report.count = ⟨4, 12⟩ ∧ c.draws.taken = 8 ∧ c'.draws.taken = 8 ∧
        c.map.tiles.countP (fun t => t.kind = .trees) = 4 ∧
        ∀ i, (c'.map.tile i).map Tile.still = (c.map.tile i).map Tile.still := by
  let pixels := Raster.Pixels.plain 2 2 ⟨0x10, 0xf0, 0x10⟩ (by decide)
  let source : Raster.Source := .answering (.ok ⟨2, 2, some pixels⟩)
  let im : Import := ⟨.trees, {}, source, ⟨.png, "trees.png", .base⟩, .fixed 0⟩
  let m := TileMap.plain 4 4 .temperate (by decide) (by decide)
  have hrun : (Workspace.load ⟨⟨m, im.draws⟩, false⟩ im.source im.settings im.layer im.request).map
      (fun r => (r.1, r.2.dirty, r.2.draws.taken,
        r.2.map.tiles.countP (fun t => t.kind = .trees))) =
      .ok (.ok ⟨.trees, 2, 2, ⟨4, 12⟩⟩, true, 8, 4) := by decide +kernel
  obtain ⟨⟨answer, c, dirty⟩, hload, hvalue⟩ := Outcome.map_eq_ok.mp hrun
  simp only [Prod.mk.injEq] at hvalue
  obtain ⟨rfl, rfl, htaken, htrees⟩ := hvalue
  have hmakes : im.Makes m ⟨.trees, 2, 2, ⟨4, 12⟩⟩ c := ⟨false, hload⟩
  have hshows : ∀ pixel, im.Shows pixel → pixel = ⟨0x10, 0xf0, 0x10⟩ :=
    Import.forall_shows rfl (by decide +kernel)
  have hsaturated : ∀ pixel, im.Shows pixel → pixel.Saturated := by
    intro pixel hpixel
    rw [hshows pixel hpixel]
    constructor <;> decide
  have hbright : im.layer = .trees → ∀ pixel, im.Shows pixel → Gradient.dim ≤ pixel.b := by
    intro _ pixel hpixel
    rw [hshows pixel hpixel]
    decide
  obtain ⟨⟨report', c', hmakes'⟩, hsame⟩ :=
    saturated_leaves_no_chance hmakes hsaturated hbright (.fixed 0xffffffff)
  obtain ⟨rfl, -, -, ⟨n, hdraws, hdraws'⟩, hstill⟩ := hsame report' c' hmakes'
  have htaken' : c'.draws.taken = 8 := by
    rw [← htaken, hdraws, hdraws']
    rfl
  exact ⟨im, m, _, c, c', rfl, rfl, hmakes, hmakes', rfl, htaken, htaken', htrees, hstill⟩

end MapPainter
