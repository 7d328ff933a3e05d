import MapPainter.Proofs.Import.Order
import MapPainter.Proofs.Layer.Zone

/-!
# Zones before or after

Of all layers only desert and tropics write zones, and only trees on a tropic map read them. So
the tropics layer can be imported before or after terrain, fields, water or snow, and on a map of
another climate before or after trees (`tropics_in_either_order`).
-/

namespace MapPainter

variable {tropics other : Import} {m : TileMap} {report : ImportReport} {c : Canvas}

/-- New zones leave site and land as they are, and only on a tropic map do trees ask for more. -/
theorem Import.Makes.inStep_of_tropics (h : tropics.Makes m report c)
    (htropics : tropics.layer = .tropics)
    (hother : other.layer = .trees → m.climate ≠ .tropic) :
    other.InStep m c.map ∧ other.InStep c.map m := by
  refine h.inStep_of_tile fun i t t' ht ht' pixel _ => ?_
  by_cases htrees : other.layer = .trees
  · have hclimate := hother htrees
    rw [htrees]
    exact ⟨Layer.trees.inStep (Layer.species_congr_of_unread (Or.inl hclimate)),
      Layer.trees.inStep (Layer.species_congr_of_unread (Or.inl hclimate))⟩
  · have hsite : t'.site = t.site := h.preserves (fun touch t _ => touch.apply_site t) ht ht'
    have hland : t'.isLand = t.isLand :=
      h.preserves (fun touch t htouch => touch.apply_isLand t (by rw [htouch, htropics]; decide))
        ht ht'
    exact ⟨Layer.inStep_of_site htrees hsite hland,
      Layer.inStep_of_site htrees hsite.symm hland.symm⟩

/-- The tropics layer asks a tile for nothing. -/
theorem Import.Makes.tropics_inStep (h : other.Makes m report c)
    (htropics : tropics.layer = .tropics) : tropics.InStep m c.map ∧ tropics.InStep c.map m := by
  refine h.inStep_of_tile fun i t t' _ _ pixel _ => ?_
  rw [htropics]
  exact ⟨Layer.inStep_of_plan_eq (by decide) fun _ => rfl,
    Layer.inStep_of_plan_eq (by decide) fun _ => rfl⟩

/-- **Zones before or after.** An import of the tropics layer and one of terrain, fields, water or
snow can be done in either order on any map; so can one of the tropics layer and one of trees, if
the map is not a tropic one. Reports, draws and the map that comes out are the same, whatever the
two rasters and the parts of the map that they fall on. -/
theorem tropics_in_either_order (htropics : tropics.layer = .tropics)
    (hother : other.layer ∈ [.terrain, .fields, .water, .snow] ∨
      other.layer = .trees ∧ m.climate ≠ .tropic) : tropics.Interchange other m := by
  have hdesert : other.layer ≠ .desert := by
    intro heq
    simp [heq] at hother
  have htropics' : other.layer ≠ .tropics := by
    intro heq
    simp [heq] at hother
  have hclimate : other.layer = .trees → m.climate ≠ .tropic := by
    intro heq
    simpa [heq] using hother
  refine Import.interchange (fun _ _ h => h.inStep_of_tropics htropics hclimate)
    (fun _ _ h => h.tropics_inStep htropics) fun i t _ f g hf hg => ?_
  exact (htropics ▸ hf : Layer.Way .tropics f).comm_of_tropics hg hdesert htropics' t

/-- A desert zone on all eight inner tiles of a map and a river on the four in the middle, in either
order. -/
theorem desert_zone_and_river_in_either_order :
    ∃ (tropics rivers : Import) (m m' : TileMap) (report report' : ImportReport) (d d' : Draws),
      tropics.layer = .tropics ∧ rivers.layer = .water ∧ m.climate = .tropic ∧
        (∃ m₁, tropics.Makes m report ⟨m₁, d⟩ ∧ rivers.Makes m₁ report' ⟨m', d'⟩) ∧
        (∃ m₂, rivers.Makes m report' ⟨m₂, d'⟩ ∧ tropics.Makes m₂ report ⟨m', d⟩) ∧
        d.taken = 0 ∧ d'.taken = 4 ∧ m'.tiles.countP (fun t => t.zone = .desert) = 8 ∧
        m'.tiles.countP (fun t => t.zone = .desert ∧ t.kind = .water) = 4 := by
  let red := Raster.Pixels.plain 3 2 ⟨255, 0, 0⟩ (by decide)
  let green := Raster.Pixels.plain 1 2 ⟨0, 255, 0⟩ (by decide)
  let answer (pixels : Raster.Pixels) : Raster.Source :=
    .answering (.ok ⟨pixels.width, pixels.height, some pixels⟩)
  let request : Raster.Request := ⟨.png, "layer.png", .base⟩
  let tropics : Import := ⟨.tropics, {}, answer red, request, .fixed 7⟩
  let rivers : Import := ⟨.water, {}, answer green, request, .fixed 7⟩
  let m := TileMap.plain 6 4 .tropic (by decide) (by decide)
  let run (im : Import) (m : TileMap) :=
    Workspace.load ⟨⟨m, im.draws⟩, false⟩ im.source im.settings im.layer im.request
  have hrun : (run tropics m >>= fun r => (run rivers r.2.map).map fun r' =>
      (r.1, r.2.dirty, r'.1, r'.2.dirty, [r.2.draws.taken, r'.2.draws.taken,
        r'.2.map.tiles.countP (fun t => t.zone = .desert),
        r'.2.map.tiles.countP (fun t => t.zone = .desert ∧ t.kind = .water)])) =
      .ok (.ok ⟨.tropics, 3, 2, ⟨8, 16⟩⟩, true, .ok ⟨.water, 1, 2, ⟨4, 4⟩⟩, true,
        [0, 4, 8, 4]) := by decide +kernel
  obtain ⟨⟨answer₁, c₁, dirty₁⟩, htropics, hrest⟩ := Outcome.bind_eq_ok.mp hrun
  obtain ⟨⟨answer₂, c₂, dirty₂⟩, hrivers, hvalue⟩ := Outcome.map_eq_ok.mp hrest
  simp only [Prod.mk.injEq, List.cons.injEq, and_true] at hvalue
  obtain ⟨rfl, rfl, rfl, rfl, htaken, htaken', hzone, hriver⟩ := hvalue
  have hfirst : ∃ m₁, tropics.Makes m ⟨.tropics, 3, 2, ⟨8, 16⟩⟩ ⟨m₁, c₁.draws⟩ ∧
      rivers.Makes m₁ ⟨.water, 1, 2, ⟨4, 4⟩⟩ ⟨c₂.map, c₂.draws⟩ :=
    ⟨c₁.map, ⟨false, htropics⟩, ⟨false, hrivers⟩⟩
  have hsecond := ((tropics_in_either_order rfl (Or.inl (by decide))).either _ _ _ _ _).mp hfirst
  exact ⟨tropics, rivers, m, c₂.map, _, _, c₁.draws, c₂.draws, rfl, rfl, rfl, hfirst, hsecond,
    htaken, htaken', hzone, hriver⟩

end MapPainter
