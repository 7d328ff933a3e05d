import MapPainter.Proofs.Import.Abreast
import MapPainter.Proofs.Layer.Way

/-!
# Imports tile by tile

All brushes of a pass draw from one source. A brush that let its tile decide how many words it takes
would pass that on to all the tiles after it. Terrain and water do, the others do not
(`Layer.taken_of_brush`): they make up their minds for the same words over every tile. What they
make of a tile is then a matter of this tile and its place, and no other tile of the map counts
(`tile_by_tile`).
-/

namespace MapPainter

namespace Layer

variable {settings : ImportSettings} {climate : Climate} {pixel : Raster.Rgb} {t t' : Tile}
  {d d' : Draws}

/-- The species is left to the tile, but the word is taken over any tile. -/
theorem taken_of_species {channel : UInt8} {chosen : Species} (t' : Tile)
    (h : species settings ⟨climate, .ok t⟩ channel d = .ok (chosen, d')) :
    ∃ chosen', species settings ⟨climate, .ok t'⟩ channel d = .ok (chosen', d') := by
  unfold species at h ⊢
  split
  case isTrue hdark =>
    rw [if_pos hdark] at h
    cases climate with
    | tropic =>
      cases h
      exact ⟨_, rfl⟩
    | temperate | arctic | toyland => exact ⟨chosen, h⟩
  case isFalse hbright =>
    rw [if_neg hbright] at h
    exact ⟨chosen, h⟩

theorem trees.taken_of_choice {touch : Option Touch} (t' : Tile)
    (h : trees.choice settings ⟨climate, .ok t⟩ pixel d = .ok (touch, d')) :
    ∃ touch', trees.choice settings ⟨climate, .ok t'⟩ pixel d = .ok (touch', d') := by
  obtain ⟨⟨stage, d₁⟩, hgrowth, h⟩ := Outcome.bind_eq_ok.mp h
  obtain ⟨⟨level, d₂⟩, hlevel, h⟩ := Outcome.bind_eq_ok.mp h
  unfold trees.choice
  simp only [hgrowth, hlevel, Outcome.ok_bind]
  dsimp only at h
  split at h
  case isTrue hnone =>
    rw [if_pos hnone]
    exact ⟨touch, h⟩
  case isFalse hsome =>
    rw [if_neg hsome]
    obtain ⟨⟨chosen, d₃⟩, hspecies, h⟩ := Outcome.bind_eq_ok.mp h
    cases h
    obtain ⟨chosen', hspecies'⟩ := taken_of_species t' hspecies
    rw [hspecies']
    exact ⟨_, rfl⟩

/-- But for terrain and water, a brush succeeds on all tiles alike and takes the same words. -/
theorem taken_of_brush {layer : Layer} (hterrain : layer ≠ .terrain) (hwater : layer ≠ .water)
    {o : Option Tile} (t' : Tile)
    (h : layer.brush settings ⟨climate, .ok t⟩ pixel d = .ok (o, d')) :
    ∃ o', layer.brush settings ⟨climate, .ok t'⟩ pixel d = .ok (o', d') := by
  cases layer with
  | terrain => exact absurd rfl hterrain
  | water => exact absurd rfl hwater
  | trees =>
    obtain ⟨touch, hchoice, -⟩ := trees.brush_eq_ok.mp h
    obtain ⟨touch', hchoice'⟩ := trees.taken_of_choice t' hchoice
    exact ⟨_, trees.brush_eq_ok.mpr ⟨touch', hchoice', rfl⟩⟩
  | fields | snow | desert | tropics =>
    rw [brush_eq] at h
    obtain ⟨touch, hplan, -⟩ := Plan.stroke_tile_eq_ok.mp h
    refine ⟨touch.map (·.apply t'), ?_⟩
    rw [brush_eq]
    exact Plan.stroke_tile_eq_ok.mpr ⟨touch, hplan, rfl⟩

end Layer

/-- **Tile by tile.** Fields, trees, snow, desert or tropics are imported on two maps of one size
and climate. If the import succeeds on the one map then it does on the other, with the same report
and the same draws, and wherever the two maps had the same tile, they have the same tile again:
nothing that another tile holds makes a difference. -/
theorem tile_by_tile {im : Import} {m n : TileMap} {report : ImportReport} {c : Canvas}
    (h : im.Makes m report c) (hterrain : im.layer ≠ .terrain) (hwater : im.layer ≠ .water)
    (hextent : n.toExtent = m.toExtent) (hclimate : n.climate = m.climate) :
    (∃ report' c', im.Makes n report' c') ∧
      ∀ report' c', im.Makes n report' c' →
        report' = report ∧ c'.draws = c.draws ∧
          ∀ i, n.tile i = m.tile i → c'.map.tile i = c.map.tile i := by
  obtain ⟨c', hmakes, hdraws, htile⟩ := h.abreast (R := Eq)
    (Q := fun i x y => n.tile i = m.tile i → y = x) hextent hclimate rfl (fun _ hi => hi)
    fun i t t' ht ht' pixel _ => by
      rintro d _ o d' rfl hbrush
      by_cases hsame : n.tile i = m.tile i
      · obtain rfl := Except.ok.inj (ht.symm.trans (hsame.symm.trans ht'))
        exact ⟨o, d', hbrush, rfl, fun _ => rfl⟩
      · -- whatever comes of the tile, the words taken are the same
        obtain ⟨o', hbrush'⟩ := Layer.taken_of_brush hterrain hwater t' hbrush
        exact ⟨o', d', hbrush', rfl, fun hi => absurd hi hsame⟩
  refine ⟨⟨report, c', hmakes⟩, fun report' c'' hmakes' => ?_⟩
  obtain ⟨rfl, rfl⟩ := hmakes.unique hmakes'
  exact ⟨rfl, hdraws.symm, htile⟩

/-- One of two tropic maps has a desert tile, on which no tree comes up for the word drawn there.
The other three inner tiles are planted, and just as on the map without the desert. -/
theorem trees_around_a_desert :
    ∃ (im : Import) (m n : TileMap) (report : ImportReport) (c c' : Canvas),
      im.layer = .trees ∧ im.Makes m report c ∧ im.Makes n report c' ∧
        (∀ i, 5 ≠ i → n.tile i = m.tile i) ∧
        c.map.tiles.countP (fun t => t.kind = .trees) = 4 ∧
        c'.map.tiles.countP (fun t => t.kind = .trees) = 3 ∧
        c.draws.taken = 12 ∧ c'.draws.taken = 12 ∧
        ∀ i, 5 ≠ i → c'.map.tile i = c.map.tile i := by
  let pixels := Raster.Pixels.plain 2 2 ⟨255, 255, 0⟩ (by decide)
  let source : Raster.Source := .answering (.ok ⟨2, 2, some pixels⟩)
  let im : Import := ⟨.trees, {}, source, ⟨.png, "trees.png", .base⟩, .fixed 0xffffffff⟩
  let m := TileMap.plain 4 4 .tropic (by decide) (by decide)
  let n := m.put 5 { Tile.fresh with zone := .desert }
  let run (m : TileMap) :=
    (Workspace.load ⟨⟨m, im.draws⟩, false⟩ im.source im.settings im.layer im.request).map fun r =>
      (r.1, r.2.dirty, r.2.draws.taken, r.2.map.tiles.countP (fun t => t.kind = .trees))
  have hrun : run m = .ok (.ok ⟨.trees, 2, 2, ⟨4, 12⟩⟩, true, 12, 4) := by decide +kernel
  have hrun' : run n = .ok (.ok ⟨.trees, 2, 2, ⟨4, 12⟩⟩, true, 12, 3) := by decide +kernel
  obtain ⟨⟨answer, c, dirty⟩, hload, hvalue⟩ := Outcome.map_eq_ok.mp hrun
  obtain ⟨⟨answer', c', dirty'⟩, hload', hvalue'⟩ := Outcome.map_eq_ok.mp hrun'
  simp only [Prod.mk.injEq] at hvalue hvalue'
  obtain ⟨rfl, rfl, htaken, htrees⟩ := hvalue
  obtain ⟨rfl, rfl, htaken', htrees'⟩ := hvalue'
  have hmakes : im.Makes m ⟨.trees, 2, 2, ⟨4, 12⟩⟩ c := ⟨false, hload⟩
  have hmakes' : im.Makes n ⟨.trees, 2, 2, ⟨4, 12⟩⟩ c' := ⟨false, hload'⟩
  have hother : ∀ i, 5 ≠ i → n.tile i = m.tile i := fun i hi => TileMap.tile_put_of_ne hi
  obtain ⟨-, hlocal⟩ := tile_by_tile hmakes (by decide) (by decide) (rfl : n.toExtent = _) rfl
  obtain ⟨-, -, htile⟩ := hlocal _ c' hmakes'
  exact ⟨im, m, n, _, c, c', rfl, hmakes, hmakes', hother, htrees, htrees', htaken, htaken',
    fun i hi => htile i (hother i hi)⟩

end MapPainter
