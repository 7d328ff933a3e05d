import MapPainter.Proofs.Import.History
import MapPainter.Proofs.Layer.Frame
import MapPainter.Proofs.TileMap.Census

/-!
# The census over a history

No import adds a tile, puts up a structure or takes one down, or drains water
(`Import.Makes.onward`). So over a history of imports the eleven counters of surfaces keep their
sum, the structures keep their number, and the tiles with water become no fewer
(`census_of_history`).
-/

namespace MapPainter

/-- What may become of the counters of a census while imports go on. -/
structure Census.Onward (c c' : Census) : Prop where
  total : c'.total = c.total
  structures : c'.structures = c.structures
  waters : c.waters ≤ c'.waters

namespace Census.Onward

variable {c c' c'' : Census}

theorem refl (c : Census) : c.Onward c := ⟨rfl, rfl, Nat.le_refl _⟩

theorem trans (h : c.Onward c') (h' : c'.Onward c'') : c.Onward c'' where
  total := h'.total.trans h.total
  structures := h'.structures.trans h.structures
  waters := Nat.le_trans h.waters h'.waters

end Census.Onward

variable {im : Import} {m m' : TileMap} {report : ImportReport} {c : Canvas}

/-- Each tile before an import and after it: it is the same, or it has been touched. -/
theorem Import.Makes.eq_or_touched (h : im.Makes m report c) {i : Nat} {t t' : Tile}
    (ht : m.tile i = .ok t) (ht' : c.map.tile i = .ok t') :
    t' = t ∨ ∃ touch : Touch, t' = touch.apply t := by
  rcases h.touched i with hsame | ⟨-, t₀, touch, ht₀, -, -, htouch⟩
  · exact Or.inl (Except.ok.inj (ht'.symm.trans (hsame.trans ht)))
  · obtain rfl := Except.ok.inj (ht₀.symm.trans ht)
    exact Or.inr ⟨touch, Except.ok.inj (ht'.symm.trans htouch)⟩

theorem Import.Makes.onward (h : im.Makes m report c) : m.census.Onward c.map.census := by
  obtain ⟨calls, hpainted, -⟩ := h.painted
  have hextent := hpainted.toExtent
  have hbuilt : ∀ i t t', m.tile i = .ok t → c.map.tile i = .ok t' →
      (t'.shows .built = true ↔ t.shows .built = true) := by
    intro i t t' ht ht'
    rw [Tile.shows_built_iff, Tile.shows_built_iff]
    rcases h.eq_or_touched ht ht' with rfl | ⟨touch, rfl⟩
    · exact Iff.rfl
    · exact touch.apply_surface_eq_built_iff t
  have hwater : ∀ i t t', m.tile i = .ok t → c.map.tile i = .ok t' →
      t.kind = .water → t'.kind = .water := by
    intro i t t' ht ht' hkind
    rcases h.eq_or_touched ht ht' with rfl | ⟨touch, rfl⟩
    · exact hkind
    · have hkept : t.Kept (fun _ => True) (touch.apply t) := touch.kept t trivial
      exact hkept.water hkind
  constructor
  · rw [TileMap.total_census, TileMap.total_census, hextent]
  · have hstructures (m : TileMap) := m.seen_census .built
    refine ((hstructures c.map).trans ?_).trans (hstructures m).symm
    refine Nat.le_antisymm (TileMap.countP_le_countP hextent.symm ?_)
      (TileMap.countP_le_countP hextent ?_)
    · intro i t' t ht' ht
      exact (hbuilt i t t' ht ht').mp
    · intro i t t' ht ht'
      exact (hbuilt i t t' ht ht').mpr
  · rw [TileMap.waters_census, TileMap.waters_census]
    refine TileMap.countP_le_countP hextent fun i t t' ht ht' hp => ?_
    exact decide_eq_true (hwater i t t' ht ht' (of_decide_eq_true hp))

theorem History.onward {imports : List Import} (h : History imports m m') :
    m.census.Onward m'.census := by
  induction h with
  | nil m => exact .refl _
  | cons head _ ih => exact head.onward.trans ih

/-- **The census counts every tile once.** On every map each of the eleven counters of surfaces is
the number of tiles with that surface, where snow is all that is seen of the ground below it, and
the two others are the numbers of tiles in a desert zone and in a rainforest zone. The eleven add up
to the number of tiles, and no counter is greater, so on sides of 32 bits none exceeds 64 bits. At
every point of a history of imports the same is true of the map as it is then; the sum has not
changed, nor has the number of structures, and the tiles with water have not become fewer. -/
theorem census_of_history (m : TileMap) :
    m.Counted m.census ∧
      ∀ imports m', History imports m m' → ∀ before after, imports = before ++ after →
        ∃ m₁, History before m m₁ ∧ History after m₁ m' ∧ m₁.Counted m₁.census ∧
          m₁.census.total = m.sizeX * m.sizeY ∧ m.census.Onward m₁.census ∧
          m₁.census.Onward m'.census := by
  refine ⟨m.counted, ?_⟩
  rintro imports m' h before after rfl
  obtain ⟨m₁, hbefore, hafter⟩ := h.exists_between
  have honward := hbefore.onward
  exact ⟨m₁, hbefore, hafter, m₁.counted, honward.total.trans m.total_census, honward,
    hafter.onward⟩

/-- A map with a structure in a desert, rough land under snow, and desert ground. Snow falls on all
of its inner tiles and stays off the structure, and rivers drown the snow. -/
theorem census_of_snow_and_rivers :
    ∃ (m m₁ m' : TileMap) (snow rivers : Import), History [snow] m m₁ ∧ History [rivers] m₁ m' ∧
      m.census =
        { grass := 13, snow := 1, desert := 1, structures := 1, desertZone := 1 } ∧
      m₁.census = { grass := 12, snow := 3, structures := 1, desertZone := 1 } ∧
      m'.census = { grass := 12, river := 3, structures := 1, desertZone := 1 } ∧
      m.census.Onward m₁.census ∧ m₁.census.Onward m'.census := by
  let station : Tile := { Tile.fresh with zone := .desert, surface := .built }
  let snowy : Tile := { Tile.fresh with surface := .clear ⟨.rough, 2, true, 0⟩ }
  let sandy : Tile := { Tile.fresh with surface := .clear ⟨.desert, 1, false, 0⟩ }
  let m := (((TileMap.plain 4 4 .arctic (by decide) (by decide)).put 5 station).put 6 snowy).put 9
    sandy
  let answer (colour : Raster.Rgb) : Raster.Source :=
    .answering (.ok ⟨2, 2, some (Raster.Pixels.plain 2 2 colour (by decide))⟩)
  let request : Raster.Request := ⟨.png, "layer.png", .base⟩
  let snow : Import := ⟨.snow, {}, answer ⟨0, 0, 120⟩, request, .fixed 0⟩
  let rivers : Import := ⟨.water, {}, answer ⟨0, 255, 0⟩, request, .fixed 0⟩
  let run (im : Import) (m : TileMap) :=
    Workspace.load ⟨⟨m, im.draws⟩, false⟩ im.source im.settings im.layer im.request
  have hrun : (run snow m >>= fun r => (run rivers r.2.map).map fun r' =>
      (r.1, r.2.dirty, r.2.map.census, r'.1, r'.2.dirty, r'.2.map.census)) =
      .ok (.ok ⟨.snow, 2, 2, ⟨4, 12⟩⟩, true,
        { grass := 12, snow := 3, structures := 1, desertZone := 1 },
        .ok ⟨.water, 2, 2, ⟨4, 12⟩⟩, true,
        { grass := 12, river := 3, structures := 1, desertZone := 1 }) := by
    decide +kernel
  obtain ⟨⟨report, c₁, dirty₁⟩, hsnow, hrest⟩ := Outcome.bind_eq_ok.mp hrun
  obtain ⟨⟨report', c₂, dirty₂⟩, hrivers, hvalue⟩ := Outcome.map_eq_ok.mp hrest
  simp only [Prod.mk.injEq] at hvalue
  obtain ⟨rfl, rfl, hcensus₁, rfl, rfl, hcensus⟩ := hvalue
  have hhistory : History [snow, rivers] m c₂.map :=
    .cons ⟨false, hsnow⟩ (.cons ⟨false, hrivers⟩ (.nil c₂.map))
  obtain ⟨m₁, hbefore, hafter, -, -, honward, honward'⟩ :=
    (census_of_history m).2 _ _ hhistory [snow] [rivers] rfl
  obtain _ | ⟨hfirst, ⟨⟩⟩ := hbefore
  obtain ⟨-, rfl⟩ := hfirst.unique ⟨false, hsnow⟩
  exact ⟨m, _, c₂.map, snow, rivers, .cons hfirst (.nil _), hafter, by decide +kernel,
    hcensus₁, hcensus, honward, honward'⟩

end MapPainter
