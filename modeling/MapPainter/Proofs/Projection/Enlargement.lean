import MapPainter.Proofs.Projection.Proportion

/-!
# Enlarging by a whole factor

If the map has `k` by `k` tiles for every pixel, nothing is rounded: the scale is exactly `k`
(`Enlarges.scale_eq`), the footprint is the whole map, and a tile gets the pixel that its row and
column lead to when they are divided by `k` (`Enlarges.sourcePixel_eq`). So every pixel is shown by
one block of `k` by `k` tiles (`along_div_eq_iff`), and a sweep passes over the border of the map
and nothing else.
-/

namespace MapPainter

namespace Projection

/-- The map has `k` by `k` tiles for every pixel. -/
structure Enlarges (p : Projection) (k : Nat) : Prop where
  mapWidth_eq : p.mapWidth = k * p.rasterWidth
  mapHeight_eq : p.mapHeight = k * p.rasterHeight

/-- A column among `width`, counted the way the raster is laid: from the far side
counter-clockwise. -/
def along (rotation : Rotation) (width col : Nat) : Nat :=
  match rotation with
  | .counterClockwise => width - 1 - col
  | .clockwise => col

theorem along_lt (rotation : Rotation) {width col : Nat} (hcol : col < width) :
    along rotation width col < width := by
  cases rotation with
  | counterClockwise =>
    simp only [along]
    omega
  | clockwise => exact hcol

/-- A block of `k` lies before the end of `n` blocks. -/
theorem lt_mul_of_lt_block {k n row r : Nat} (hr : r < n) (hrow : row < r * k + k) :
    row < k * n := by
  have hle : (r + 1) * k ≤ n * k := Nat.mul_le_mul_right k hr
  rw [Nat.succ_mul] at hle
  rw [Nat.mul_comm]
  omega

theorem div_eq_iff_block {k row r : Nat} (hk : 0 < k) :
    row / k = r ↔ r * k ≤ row ∧ row < r * k + k := by
  rw [Nat.div_eq_iff hk]
  omega

/-- The columns that lead to a column of pixels are `k` in a row. -/
theorem along_div_eq_iff (rotation : Rotation) {k width col c : Nat} (hk : 0 < k)
    (hcol : col < k * width) (hc : c < width) :
    along rotation (k * width) col / k = c ↔
      along rotation width c * k ≤ col ∧ col < along rotation width c * k + k := by
  rw [div_eq_iff_block hk]
  cases rotation with
  | counterClockwise =>
    -- `rest` columns of pixels are laid before the one at `c`.
    obtain ⟨rest, rfl⟩ : ∃ rest, width = rest + c + 1 := ⟨width - (c + 1), by omega⟩
    have hrest : rest + c + 1 - 1 - c = rest := by omega
    have hwidth : k * (rest + c + 1) = rest * k + c * k + k := by
      rw [Nat.mul_comm, Nat.succ_mul, Nat.add_mul]
    simp only [along, hrest, hwidth] at hcol ⊢
    omega
  | clockwise => exact Iff.rfl

namespace Enlarges

variable {p : Projection} {k row col : Nat}

theorem factor_pos (h : p.Enlarges k) (hp : p.Fitted) : 0 < k := by
  have hpos := hp.mapWidth_pos
  rw [h.mapWidth_eq] at hpos
  exact Nat.pos_of_mul_pos_right hpos

theorem proportional (h : p.Enlarges k) : p.Proportional := by
  rw [Proportional, h.mapHeight_eq, h.mapWidth_eq, Nat.mul_left_comm, Nat.mul_comm p.rasterWidth,
    Nat.mul_left_comm]

theorem rowAxis_map_mul_unit (h : p.Enlarges k) :
    p.rowAxis.map * unit = k * unit * p.rowAxis.raster := by
  rw [Nat.mul_right_comm]
  exact congrArg (· * unit) h.mapHeight_eq

/-- Nothing is lost to rounding. -/
theorem scale_eq (h : p.Enlarges k) (hp : p.Fitted) : p.scale = k * unit := by
  have hscale : p.scale = p.rowAxis.map * unit / p.rowAxis.raster :=
    (h.proportional.filled hp).scale_eq
  rw [hscale, h.rowAxis_map_mul_unit]
  exact Nat.mul_div_cancel _ hp.rasterHeight_pos

theorem lost_eq_zero (h : p.Enlarges k) (hp : p.Fitted) : p.filledAxis.lost = 0 := by
  rw [filledAxis_of_not_wide (h.proportional.not_isWide hp), Axis.lost, h.rowAxis_map_mul_unit]
  exact Nat.mul_mod_left _ _

theorem lost_lt (h : p.Enlarges k) (hp : p.Fitted) : p.filledAxis.lost < unit :=
  h.lost_eq_zero hp ▸ unit_pos

theorem rowPad_eq_zero (h : p.Enlarges k) (hp : p.Fitted) : p.rowPad = 0 :=
  (h.proportional.filled hp).pad_eq

theorem colPad_eq_zero (h : p.Enlarges k) (hp : p.Fitted) : p.colPad = 0 :=
  (h.proportional.colPad_eq_zero_iff hp).mpr (Dvd.intro_left (k * unit) h.rowAxis_map_mul_unit.symm)

theorem covers_iff (h : p.Enlarges k) (hp : p.Fitted) :
    p.Covers row col ↔ row < p.mapHeight ∧ col < p.mapWidth := by
  simp only [Covers, rows, cols, h.rowPad_eq_zero hp, h.colPad_eq_zero hp]
  omega

/-- A tile gets the pixel of its row and column, divided by the factor. -/
theorem sourcePixel_eq (h : p.Enlarges k) (hp : p.Fitted) (hrow : row < p.mapHeight)
    (hcol : col < p.mapWidth) :
    p.sourcePixel row col = .ok (row / k, along p.rotation p.mapWidth col / k) := by
  have hrowDistance : p.rowDistance row = row := by
    rw [rowDistance, h.rowPad_eq_zero hp, Nat.sub_zero]
  have hcolDistance : p.colDistance col = along p.rotation p.mapWidth col := by
    unfold colDistance along
    rw [h.colPad_eq_zero hp]
    rfl
  have hc : p.Covers row col := (h.covers_iff hp).mpr ⟨hrow, hcol⟩
  rw [(hp.sourcePixel_eq_source (h.lost_lt hp) hc).1, source, hrowDistance, hcolDistance]
  simp only [Axis.index, rowAxis, colAxis, h.scale_eq hp, Nat.mul_div_mul_right _ _ unit_pos]

/-- The tiles that show a pixel are one block of `k` by `k`. -/
theorem block_iff (h : p.Enlarges k) (hp : p.Fitted) {r c : Nat} (hr : r < p.rasterHeight)
    (hc : c < p.rasterWidth) :
    p.Covers row col ∧ p.sourcePixel row col = .ok (r, c) ↔
      (r * k ≤ row ∧ row < r * k + k) ∧
        along p.rotation p.rasterWidth c * k ≤ col ∧
        col < along p.rotation p.rasterWidth c * k + k := by
  have hk := h.factor_pos hp
  have hwidth := h.mapWidth_eq
  constructor
  · rintro ⟨hcovers, hsource⟩
    obtain ⟨hrow, hcol⟩ := (h.covers_iff hp).mp hcovers
    rw [h.sourcePixel_eq hp hrow hcol, Except.ok.injEq, Prod.mk.injEq, hwidth] at hsource
    rw [hwidth] at hcol
    exact ⟨(div_eq_iff_block hk).mp hsource.1, (along_div_eq_iff _ hk hcol hc).mp hsource.2⟩
  · rintro ⟨hrows, hcols⟩
    have hrow : row < p.mapHeight := h.mapHeight_eq ▸ lt_mul_of_lt_block hr hrows.2
    have hcol : col < k * p.rasterWidth := lt_mul_of_lt_block (along_lt _ hc) hcols.2
    have hcol' : col < p.mapWidth := hwidth ▸ hcol
    refine ⟨(h.covers_iff hp).mpr ⟨hrow, hcol'⟩, ?_⟩
    rw [h.sourcePixel_eq hp hrow hcol', (div_eq_iff_block hk).mpr hrows, hwidth,
      (along_div_eq_iff _ hk hcol hc).mpr hcols]

variable {e : Extent} {raster : Raster.Pixels} {rotation : Rotation}

theorem forall_look (h : p.Enlarges k) (hp : p.Fitted)
    (hj : p.Joins raster.width raster.height e.sizeX e.sizeY rotation)
    (he : e.sizeX * e.sizeY ≤ 2 ^ 32) :
    ∀ place ∈ p.footprint, ∃ c, p.look e raster place = .ok c := by
  rw [hp.forall_look_iff hj he, hp.exists_overshoot_iff]
  exact fun hlost => Nat.not_le.mpr (h.lost_lt hp) hlost.2

theorem length_footprint (h : p.Enlarges k) (hp : p.Fitted) :
    p.footprint.length = p.mapHeight * p.mapWidth := by
  simp only [Projection.length_footprint, rows, cols, h.rowPad_eq_zero hp, h.colPad_eq_zero hp,
    Nat.sub_zero]

end Enlarges

/-- The axes of the raster only exchange the sides of the map. -/
theorem Joins.mapHeight_mul_mapWidth {p : Projection} {rasterWidth rasterHeight sizeX sizeY : Nat}
    {rotation : Rotation} (hj : p.Joins rasterWidth rasterHeight sizeX sizeY rotation) :
    p.mapHeight * p.mapWidth = sizeX * sizeY := by
  obtain ⟨hw, hh⟩ := Prod.mk.inj hj.axes_eq
  cases rotation with
  | counterClockwise => rw [hw, hh, Nat.mul_comm]
  | clockwise => rw [hw, hh]

end Projection

open Projection

/-- **Whole factors.** On a map with `k` by `k` tiles for every pixel of a raster of a valid size,
there is no padding and the footprint is the whole map. The tile in a row and column gets the pixel
that both lead to when divided by `k`, with the columns counted from the far side
counter-clockwise, so the tiles of one pixel are a block of `k` by `k`. Whatever its step does, a
sweep is the fold of the step over all inner tiles, each with this pixel, and counts all other
tiles as border. -/
theorem paintOver_enlarged (rasterWidth rasterHeight k sizeX sizeY : Nat) (rotation : Rotation)
    (hr : Raster.ValidSize rasterWidth rasterHeight) (hk : 1 ≤ k) (hx : sizeX ≤ 65536)
    (hy : sizeY ≤ 65536)
    (haxes : axes sizeX sizeY rotation = (k * rasterWidth, k * rasterHeight)) :
    ∃ p, fit rasterWidth rasterHeight sizeX sizeY rotation = .ok p ∧
      (p.rowPad = 0 ∧ p.colPad = 0) ∧
      (p.rows = (0, k * rasterHeight) ∧ p.cols = (0, k * rasterWidth)) ∧
      (∀ row col, row < k * rasterHeight → col < k * rasterWidth →
        p.sourcePixel row col = .ok (row / k, along rotation (k * rasterWidth) col / k)) ∧
      (∀ r c, r < rasterHeight → c < rasterWidth → ∀ row col,
        (p.Covers row col ∧ p.sourcePixel row col = .ok (r, c)) ↔
          (r * k ≤ row ∧ row < r * k + k) ∧
            along rotation rasterWidth c * k ≤ col ∧
            col < along rotation rasterWidth c * k + k) ∧
      ∀ raster : Raster.Pixels, raster.width = rasterWidth → raster.height = rasterHeight →
        p.Enumerates ⟨sizeX, sizeY⟩ raster (p.calls ⟨sizeX, sizeY⟩ raster) ∧
        ((p.calls ⟨sizeX, sizeY⟩ raster).map Call.tile).Perm (Extent.inner ⟨sizeX, sizeY⟩) ∧
        (∀ c ∈ p.calls ⟨sizeX, sizeY⟩ raster,
          raster.pixel (c.row / k) (along rotation (k * rasterWidth) c.col / k) = .ok c.pixel) ∧
        ∀ (σ : Type) (step : σ → Raster.Rgb → Nat → Except Fault σ) (init : σ),
          paintOver ⟨sizeX, sizeY⟩ rotation raster step init =
            ((p.calls ⟨sizeX, sizeY⟩ raster).foldlM (fun s c => step s c.pixel c.tile) init).map
              fun state =>
                ⟨state, ⟨(Extent.inner ⟨sizeX, sizeY⟩).length,
                  sizeX * sizeY - (Extent.inner ⟨sizeX, sizeY⟩).length⟩⟩ := by
  have hw : 0 < k * rasterWidth := Nat.mul_pos hk hr.2.1
  have hh : 0 < k * rasterHeight := Nat.mul_pos hk hr.2.2.2.1
  have hsides : 0 < sizeX ∧ 0 < sizeY := by
    cases rotation with
    | counterClockwise =>
      obtain ⟨rfl, rfl⟩ := Prod.mk.inj haxes
      exact ⟨hw, hh⟩
    | clockwise =>
      obtain ⟨rfl, rfl⟩ := Prod.mk.inj haxes
      exact ⟨hh, hw⟩
  obtain ⟨p, hfit, hj, hp⟩ := exists_fit_of_validSize rasterWidth rasterHeight sizeX sizeY rotation
    hr (by omega) (by omega)
  have he : sizeX * sizeY ≤ 2 ^ 32 := calc
    sizeX * sizeY ≤ 65536 * 65536 := Nat.mul_le_mul hx hy
    _ = 2 ^ 32 := by decide
  obtain ⟨rfl, rfl, rfl, hmap⟩ := id hj
  obtain ⟨hwidth, hheight⟩ := Prod.mk.inj (hmap.trans haxes)
  have h : p.Enlarges k := ⟨hwidth, hheight⟩
  refine ⟨p, hfit, ⟨h.rowPad_eq_zero hp, h.colPad_eq_zero hp⟩, ⟨?_, ?_⟩, ?_,
    fun r c hr hc row col => h.block_iff hp hr hc, ?_⟩
  · rw [rows, h.rowPad_eq_zero hp, hheight, Nat.sub_zero]
  · rw [cols, h.colPad_eq_zero hp, hwidth, Nat.sub_zero]
  · intro row col hrow hcol
    rw [← hwidth]
    exact h.sourcePixel_eq hp (hheight ▸ hrow) (hwidth ▸ hcol)
  · intro raster hrasterWidth hrasterHeight
    rw [← hrasterWidth, ← hrasterHeight] at hfit hj
    have hall := h.forall_look (e := ⟨sizeX, sizeY⟩) hp hj he
    have hperm := calls_tile_perm (e := ⟨sizeX, sizeY⟩) hj (h.rowPad_eq_zero hp)
      (h.colPad_eq_zero hp ▸ Nat.zero_le 1) hsides.1 hall
    have henum := enumerates_calls hall
    refine ⟨henum, hperm, ?_, ?_⟩
    · intro c hc
      obtain ⟨hcovers, -, -, source, hsource, hpixel⟩ := henum.sound c hc
      obtain ⟨hrow, hcol⟩ := (h.covers_iff hp).mp hcovers
      rw [h.sourcePixel_eq hp hrow hcol, hwidth] at hsource
      obtain rfl := Except.ok.inj hsource
      exact hpixel
    · intro σ step init
      have hlength : (p.calls ⟨sizeX, sizeY⟩ raster).length =
          (Extent.inner ⟨sizeX, sizeY⟩).length := by
        rw [← hperm.length_eq, List.length_map]
      have hplaces : p.footprint.length = sizeX * sizeY :=
        (h.length_footprint hp).trans hj.mapHeight_mul_mapWidth
      rw [paintOver, hfit, Outcome.ok_bind, sweep_eq_map hall, hlength, hplaces]
      rfl

/-- Two by three pixels, three times as large and laid clockwise: the last tile gets the last pixel,
and 28 of 54 tiles are painted. -/
theorem tripled_raster :
    ∃ (raster : Raster.Pixels) (p : Projection) (r : Progress (List (Nat × Raster.Rgb))),
      Raster.ValidSize 2 3 ∧ axes 9 6 .clockwise = (3 * 2, 3 * 3) ∧
      fit 2 3 9 6 .clockwise = .ok p ∧ p.sourcePixel 8 5 = .ok (2, 1) ∧
      paintOver ⟨9, 6⟩ .clockwise raster note [] = .ok r ∧ r.count = ⟨28, 26⟩ := by
  let raster := Raster.Pixels.plain 2 3 ⟨10, 20, 30⟩ (by decide)
  obtain ⟨p, hp, -, -, hsource, -, hsweep⟩ := paintOver_enlarged 2 3 3 9 6 .clockwise (by decide)
    (by decide) (by decide) (by decide) (by decide)
  obtain ⟨-, -, -, hfold⟩ := hsweep raster rfl rfl
  have hrun := hfold _ note []
  have hnotes : (p.calls ⟨9, 6⟩ raster).foldlM (fun s c => note s c.pixel c.tile) [] = _ :=
    foldlM_note (p.calls ⟨9, 6⟩ raster) []
  rw [hnotes] at hrun
  have hinner : (Extent.inner ⟨9, 6⟩).length = 28 := by decide +kernel
  refine ⟨raster, p, _, by decide, rfl, hp, hsource 8 5 (by decide) (by decide), hrun, ?_⟩
  change (⟨(Extent.inner ⟨9, 6⟩).length, 9 * 6 - (Extent.inner ⟨9, 6⟩).length⟩ : SweepCount) = _
  rw [hinner]

end MapPainter
