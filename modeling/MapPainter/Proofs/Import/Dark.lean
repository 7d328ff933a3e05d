import MapPainter.Proofs.Gradient.Edges
import MapPainter.Proofs.Import.Turns

/-!
# Dark rasters

The lowest value that is looked at is one above the lower end of every gradient of the layers, and
so next to the edge of a band: no word lifts it (`Layer.read_of_dark`). Read upwards it is nothing,
and downwards it is full grass. So a dark pixel leaves every tile as it is
(`Layer.brush_of_dark`), and a dark raster the whole map (`dark_changes_nothing`).
-/

namespace MapPainter

open Raster (Rgb)

/-- No channel is above the lowest value that is looked at. -/
structure Raster.Rgb.Dark (pixel : Rgb) : Prop where
  r : pixel.r ≤ Gradient.dim
  g : pixel.g ≤ Gradient.dim
  b : pixel.b ≤ Gradient.dim

instance (pixel : Rgb) : Decidable pixel.Dark :=
  decidable_of_iff (pixel.r ≤ Gradient.dim ∧ pixel.g ≤ Gradient.dim ∧ pixel.b ≤ Gradient.dim)
    ⟨fun ⟨hr, hg, hb⟩ => ⟨hr, hg, hb⟩, fun h => ⟨h.r, h.g, h.b⟩⟩

/-- The two lowest samples are not lifted from the lowest band. -/
theorem Gradient.levelFor_of_offset_le {g : Gradient} {sample level : Int} {w : UInt32}
    (hwidth : 2 ≤ g.width) (hoffset : g.offset sample ≤ 1)
    (h : g.levelFor sample w = .ok level) : level = g.levelAt 0 := by
  obtain ⟨-, -, -, rfl⟩ := levelFor_eq_ok_iff.mp h
  have hdepth : g.offset sample % g.width ≤ 1 := (Nat.mod_le _ _).trans hoffset
  rw [rise_of_depth_le hdepth, Nat.div_eq_of_lt (by omega)]

namespace Layer

variable {settings : ImportSettings} {climate : Climate} {t : Tile} {pixel : Rgb}
  {touch : Option Touch} {o : Option Tile} {channel : UInt8} {level : Int} {d d' : Draws}

theorem read_of_dark {g : Gradient} (hfoot : min g.start g.stop = 0x0f) (hwidth : 2 ≤ g.width)
    (hdark : channel ≤ Gradient.dim) (h : g.read channel d = .ok (level, d')) :
    level = g.levelAt 0 := by
  have hle : channel.toNat ≤ 0x10 := UInt8.le_iff_toNat_le.mp hdark
  refine Gradient.levelFor_of_offset_le hwidth ?_ (Gradient.read_eq_ok.mp h).1
  rw [Gradient.offset, hfoot]
  omega

theorem thinning_of_dark {grass : Option Nat} (hdark : channel ≤ Gradient.dim)
    (h : thinning channel d = .ok (grass, d')) : grass = none := by
  unfold thinning at h
  split at h
  case isTrue =>
    cases h
    rfl
  case isFalse =>
    obtain ⟨⟨density, d₁⟩, hread, h⟩ := Outcome.bind_eq_ok.mp h
    obtain rfl : density = 3 := read_of_dark (by decide) (by decide) hdark hread
    cases h
    rfl

theorem isPresent_of_dark {present : Bool} (hdark : channel ≤ Gradient.dim)
    (h : isPresent channel d = .ok (present, d')) : present = false := by
  unfold isPresent at h
  split at h
  case isTrue =>
    cases h
    rfl
  case isFalse =>
    obtain ⟨⟨level, d₁⟩, hread, h⟩ := Outcome.bind_eq_ok.mp h
    obtain rfl : level = 0 := read_of_dark (by decide) (by decide) hdark hread
    cases h
    rfl

theorem terrain.plan_of_dark (hdark : pixel.Dark)
    (h : terrain.plan ⟨climate, .ok t⟩ pixel d = .ok (touch, d')) :
    (touch.map (·.apply t)).getD t = t := by
  unfold terrain.plan at h
  rw [Outcome.ok_bind] at h
  split at h
  case isTrue =>
    cases h
    rfl
  case isFalse =>
    obtain ⟨⟨grass, d₁⟩, hgrass, h⟩ := Outcome.bind_eq_ok.mp h
    obtain ⟨⟨rough, d₂⟩, hrough, h⟩ := Outcome.bind_eq_ok.mp h
    obtain ⟨⟨rocks, d₃⟩, hrocks, h⟩ := Outcome.bind_eq_ok.mp h
    obtain rfl := thinning_of_dark hdark.r hgrass
    obtain rfl := isPresent_of_dark hdark.g hrough
    obtain rfl := isPresent_of_dark hdark.b hrocks
    cases h
    rfl

theorem fields.plan_of_dark (hdark : pixel.Dark) (h : fields.plan pixel d = .ok (touch, d')) :
    touch = none := by
  unfold fields.plan at h
  split at h
  case isTrue =>
    cases h
    rfl
  case isFalse =>
    obtain ⟨⟨level, d₁⟩, hread, h⟩ := Outcome.bind_eq_ok.mp h
    obtain rfl : level = 0 := read_of_dark (by decide) (by decide) hdark.g hread
    cases h
    rfl

theorem water.plan_of_dark (hdark : pixel.Dark)
    (h : water.plan ⟨climate, .ok t⟩ pixel d = .ok (touch, d')) : touch = none := by
  have hon : ∀ {channel : UInt8}, channel ≤ Gradient.dim → ¬ Gradient.on ≤ channel := by
    intro channel hle hon
    exact absurd (UInt8.le_trans hon hle) (by decide)
  have hnone : wantedWater pixel t.slope t.height = none := by
    simp [wantedWater, hon hdark.r, hon hdark.g, hon hdark.b]
  unfold water.plan at h
  rw [Outcome.ok_bind, hnone] at h
  cases h
  rfl

theorem trees.plan_of_dark {spot : Spot} (hdark : pixel.Dark)
    (h : trees.plan settings spot pixel d = .ok (touch, d')) : touch = none := by
  obtain ⟨⟨stage, d₁⟩, -, h⟩ := Outcome.bind_eq_ok.mp h
  obtain ⟨⟨level, d₂⟩, hread, h⟩ := Outcome.bind_eq_ok.mp h
  obtain rfl : level = 0 := read_of_dark (by decide) (by decide) hdark.g hread
  cases h
  rfl

theorem snow.plan_of_dark (hdark : pixel.Dark) (h : snow.plan pixel d = .ok (touch, d')) :
    touch = none := by
  obtain ⟨⟨level, d₁⟩, hread, h⟩ := Outcome.bind_eq_ok.mp h
  obtain rfl : level = 0 := read_of_dark (by decide) (by decide) hdark.b hread
  cases h
  rfl

theorem desert.plan_of_dark (hdark : pixel.Dark) (h : desert.plan pixel d = .ok (touch, d')) :
    touch = none := by
  obtain ⟨⟨level, d₁⟩, hread, h⟩ := Outcome.bind_eq_ok.mp h
  obtain rfl : level = 0 := read_of_dark (by decide) (by decide) hdark.r hread
  cases h
  rfl

theorem tropics.plan_of_dark (hdark : pixel.Dark) (h : tropics.plan pixel d = .ok (touch, d')) :
    touch = none := by
  have hon : ∀ {channel : UInt8}, channel ≤ Gradient.dim → ¬ Gradient.on < channel := by
    intro channel hle hon
    exact absurd (UInt8.lt_of_lt_of_le hon hle) (by decide)
  have hnone : wantedZone pixel = none := by
    simp [wantedZone, hon hdark.r, hon hdark.g, hon hdark.b]
  unfold tropics.plan at h
  rw [hnone] at h
  cases h
  rfl

/-- A dark pixel leaves every tile as it is. -/
theorem brush_of_dark {layer : Layer} (hdark : pixel.Dark)
    (h : layer.brush settings ⟨climate, .ok t⟩ pixel d = .ok (o, d')) : o.getD t = t := by
  rw [brush_eq] at h
  obtain ⟨touch, hplan, rfl⟩ := Plan.stroke_tile_eq_ok.mp h
  cases layer with
  | terrain => exact terrain.plan_of_dark hdark hplan
  | fields =>
    obtain rfl := fields.plan_of_dark hdark hplan
    rfl
  | water =>
    obtain rfl := water.plan_of_dark hdark hplan
    rfl
  | trees =>
    obtain rfl := trees.plan_of_dark hdark hplan
    rfl
  | snow =>
    obtain rfl := snow.plan_of_dark hdark hplan
    rfl
  | desert =>
    obtain rfl := desert.plan_of_dark hdark hplan
    rfl
  | tropics =>
    obtain rfl := tropics.plan_of_dark hdark hplan
    rfl

end Layer

/-- **Dark rasters.** An import that succeeds leaves the map exactly as it was if no channel of its
raster is above the lowest value that is looked at, whatever the layer, the tiles, the settings and
the draws. -/
theorem dark_changes_nothing {im : Import} {m : TileMap} {report : ImportReport} {c : Canvas}
    (h : im.Makes m report c) (hdark : ∀ pixel, im.Shows pixel → pixel.Dark) : c.map = m := by
  have hturn := h.inTurn
  refine TileMap.eq_of_tile hturn.toExtent hturn.climate fun i => ?_
  rcases hturn.called_or_kept i with ⟨turn, hmem, rfl⟩ | hkept
  · obtain ⟨hshows, t, o, d', ht, hbrush, htile⟩ := hturn.brushed turn hmem
    rw [htile, ht, Layer.brush_of_dark (hdark _ hshows) hbrush]
  · exact hkept

/-- For the lowest word, terrain of the lowest value that is looked at draws three words for each of
four tiles and leaves them. One step brighter they are covered with rocks. -/
theorem dark_terrain_changes_nothing :
    ∃ (dark bright : Import) (m : TileMap) (report report' : ImportReport) (c c' : Canvas),
      (∀ pixel, dark.Shows pixel → pixel = ⟨0x10, 0x10, 0x10⟩ ∧ pixel.Dark) ∧
        (∀ pixel, bright.Shows pixel → pixel = ⟨0x11, 0x11, 0x11⟩) ∧
        dark.Makes m report c ∧ bright.Makes m report' c' ∧
        c.draws.taken = 12 ∧ c'.map.tiles.countP (fun t => t.clearGround? = some .rocks) = 4 ∧
        c.map = m := by
  let answer (colour : Rgb) : Raster.Source :=
    .answering (.ok ⟨2, 2, some (Raster.Pixels.plain 2 2 colour (by decide))⟩)
  let terrain (value : UInt8) : Import :=
    ⟨.terrain, {}, answer ⟨value, value, value⟩, ⟨.png, "terrain.png", .base⟩, .fixed 0⟩
  let m := TileMap.plain 4 4 .temperate (by decide) (by decide)
  let run (im : Import) :=
    (Workspace.load ⟨⟨m, im.draws⟩, false⟩ im.source im.settings im.layer im.request).map fun r =>
      (r.1, r.2.dirty, r.2.draws.taken,
        r.2.map.tiles.countP fun t => t.clearGround? = some .rocks)
  have hrun : run (terrain 0x10) = .ok (.ok ⟨.terrain, 2, 2, ⟨4, 12⟩⟩, true, 12, 0) := by
    decide +kernel
  have hrun' : run (terrain 0x11) = .ok (.ok ⟨.terrain, 2, 2, ⟨4, 12⟩⟩, true, 12, 4) := by
    decide +kernel
  obtain ⟨⟨answer₁, c, dirty⟩, hload, hvalue⟩ := Outcome.map_eq_ok.mp hrun
  obtain ⟨⟨answer₂, c', dirty'⟩, hload', hvalue'⟩ := Outcome.map_eq_ok.mp hrun'
  simp only [Prod.mk.injEq] at hvalue hvalue'
  obtain ⟨rfl, rfl, htaken, -⟩ := hvalue
  obtain ⟨rfl, rfl, -, hrocks⟩ := hvalue'
  have hdark : ∀ pixel, (terrain 0x10).Shows pixel → pixel = ⟨0x10, 0x10, 0x10⟩ ∧ pixel.Dark :=
    Import.forall_shows rfl (by decide +kernel)
  have hbright : ∀ pixel, (terrain 0x11).Shows pixel → pixel = ⟨0x11, 0x11, 0x11⟩ :=
    Import.forall_shows rfl (by decide +kernel)
  have hmakes : (terrain 0x10).Makes m ⟨.terrain, 2, 2, ⟨4, 12⟩⟩ c := ⟨false, hload⟩
  exact ⟨terrain 0x10, terrain 0x11, m, _, _, c, c', hdark, hbright, hmakes, ⟨false, hload'⟩,
    htaken, hrocks, dark_changes_nothing hmakes fun pixel hpixel => (hdark pixel hpixel).2⟩

end MapPainter
