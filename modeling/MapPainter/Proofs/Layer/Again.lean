import MapPainter.Proofs.Layer.Suits

/-!
# The same pixel again

A brush that meets a tile it has just changed, with the same pixel and the same words, plans the
same touch again, or nothing where trees now stand; it draws as many words as before and leaves
the tile as it is (`Layer.brush_again`).
-/

namespace MapPainter.Layer

open Raster (Rgb)

variable {settings : ImportSettings} {climate : Climate} {t t' : Tile} {pixel : Rgb}
  {d d' : Draws} {touch : Touch}

/-- The plan for terrain only asks whether there is land. -/
theorem terrain.plan_congr (h : t'.isLand = t.isLand) :
    terrain.plan ⟨climate, .ok t'⟩ pixel d = terrain.plan ⟨climate, .ok t⟩ pixel d := by
  unfold terrain.plan
  simp only [Outcome.ok_bind, h]

/-- The plan for water only asks for height and slope. -/
theorem water.plan_congr (h : t'.site = t.site) :
    water.plan ⟨climate, .ok t'⟩ pixel d = water.plan ⟨climate, .ok t⟩ pixel d := by
  obtain ⟨hheight, hslope⟩ := Prod.mk.inj h
  unfold water.plan
  simp only [Outcome.ok_bind, hheight, hslope]

/-- The choice of a species only asks for the zone. -/
theorem species_congr (h : t'.zone = t.zone) (channel : UInt8) :
    species settings ⟨climate, .ok t'⟩ channel d =
      species settings ⟨climate, .ok t⟩ channel d := by
  have hnative : t'.nativeSpecies = t.nativeSpecies := by
    funext seed
    unfold Tile.nativeSpecies
    rw [h]
  unfold species TileMap.nativeSpecies
  simp only [Except.map, hnative]

/-- Where trees have been planted none are planned again, for the same number of words. -/
theorem trees.plan_again
    (h : trees.plan settings ⟨climate, .ok t⟩ pixel d = .ok (some touch, d')) :
    trees.plan settings ⟨climate, .ok (touch.apply t)⟩ pixel d = .ok (none, d') := by
  obtain ⟨stage, d₁, level, d₂, chosen, hgrowth, hlevel, hcount, hspecies, hvalid, -, rfl⟩ :=
    trees.plan_eq_some h
  have hzone : ((Touch.plant chosen (level - 1).toNat stage.toNat).apply t).zone = t.zone :=
    t.plant_zone chosen (level - 1).toNat stage.toNat
  unfold trees.plan
  simp only [hgrowth, Outcome.ok_bind, hlevel, if_neg hcount, species_congr hzone, hspecies,
    decide_eq_true hvalid]
  simp [Touch.apply, Tile.canPlant_plant]

theorem plan_again {layer : Layer} {spot : Spot}
    (h : layer.plan settings spot pixel d = .ok (some touch, d')) (ht : spot.tile = .ok t) :
    ∃ again, layer.plan settings ⟨spot.climate, .ok (touch.apply t)⟩ pixel d = .ok (again, d') ∧
      ∀ later ∈ again, later = touch := by
  obtain ⟨climate, tile⟩ := spot
  cases ht
  obtain ⟨hlayer, -⟩ := suits_of_plan h rfl
  have hsame : ∀ later ∈ some touch, later = touch := fun later hlater =>
    (Option.some.inj hlater).symm
  cases layer with
  | terrain =>
    have hland := touch.apply_isLand t (by rw [hlayer]; decide)
    exact ⟨some touch, (terrain.plan_congr hland).trans h, hsame⟩
  | water => exact ⟨some touch, (water.plan_congr (touch.apply_site t)).trans h, hsame⟩
  | trees => exact ⟨none, trees.plan_again h, fun later hlater => by cases hlater⟩
  | fields => exact ⟨some touch, h, hsame⟩
  | snow => exact ⟨some touch, h, hsame⟩
  | desert => exact ⟨some touch, h, hsame⟩
  | tropics => exact ⟨some touch, h, hsame⟩

/-- A brush on a tile that it has changed draws the same words and changes nothing. -/
theorem brush_again {layer : Layer} {spot : Spot}
    (h : layer.brush settings spot pixel d = .ok (some t', d')) :
    ∃ o, layer.brush settings ⟨spot.climate, .ok t'⟩ pixel d = .ok (o, d') ∧
      ∀ later ∈ o, later = t' := by
  obtain ⟨t, touch, ht, hplan, -, -, rfl⟩ := touch_of_brush h
  obtain ⟨again, hagain, hsame⟩ := plan_again hplan ht
  cases again with
  | none =>
    refine ⟨none, ?_, fun later hlater => by cases hlater⟩
    rw [brush_eq]
    exact Plan.stroke_eq_ok.mpr ⟨none, hagain, rfl⟩
  | some later =>
    obtain rfl := hsame later rfl
    refine ⟨some (later.apply (later.apply t)), ?_, ?_⟩
    · rw [brush_eq]
      exact Plan.stroke_eq_ok.mpr ⟨some later, hagain, _, rfl, rfl⟩
    · rintro t'' ⟨⟩
      exact later.apply_apply t

end MapPainter.Layer
