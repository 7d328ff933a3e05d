import MapPainter.Proofs.Projection.Footprint

/-!
# Margins

The footprint leaves the same margin before and after it (`Axis.start_add_stop`). Along the filled
axis there is none. Along the centred axis the tiles that the scaled raster leaves free are shared
out evenly; an odd one is taken from the raster, so that both margins get it
(`Axis.Centred.length_range`). A raster that is wider than the map in proportion leaves a row free
(`Fitted.covered_lt_of_wide`). Otherwise it may be as wide as the map or wider, and then no column
is left out.
-/

namespace MapPainter.Projection

namespace Axis

/-- The first tile between the paddings and the first one after it, which may be smaller. -/
def range (a : Axis) : Nat × Nat := (a.pad, a.map - a.pad)

variable {a : Axis}

theorem start_add_stop (hpad : a.pad ≤ a.map) : a.range.1 + a.range.2 = a.map :=
  Nat.add_sub_cancel' hpad

theorem length_range (a : Axis) : (span a.range).length = a.map - 2 * a.pad := by
  rw [span, List.length_range', range, Nat.sub_sub, Nat.two_mul]

theorem Filled.range_eq (h : a.Filled) : a.range = (0, a.map) := by
  rw [range, h.pad_eq, Nat.sub_zero]

theorem Filled.pad_le (h : a.Filled) : a.pad ≤ a.map := by
  rw [h.pad_eq]
  exact Nat.zero_le _

theorem Centred.pad_le (h : a.Centred) (hm : 0 < a.map) : a.pad ≤ a.map := by
  have := h.pad_eq
  omega

theorem Centred.pad_pos (h : a.Centred) (hlt : a.covered < a.map) : 0 < a.pad := by
  have := h.pad_eq
  omega

theorem Centred.two_mul_pad (h : a.Centred) (hle : a.covered ≤ a.map) :
    2 * a.pad = a.map - a.covered + (a.map - a.covered) % 2 := by
  have := h.pad_eq
  omega

/-- Both margins get the odd tile, so the raster loses one where its rest is odd. -/
theorem Centred.length_range (h : a.Centred) (hle : a.covered ≤ a.map) :
    (span a.range).length = a.covered - (a.map - a.covered) % 2 := by
  have htwo := h.two_mul_pad hle
  rw [a.length_range]
  omega

/-- A raster no narrower than the map leaves nothing free. -/
theorem Centred.pad_eq_zero (h : a.Centred) (hle : a.map ≤ a.covered) : a.pad = 0 := by
  have := h.pad_eq
  omega

theorem Centred.length_range_of_le (h : a.Centred) (hle : a.map ≤ a.covered) :
    (span a.range).length = a.map := by
  rw [a.length_range, h.pad_eq_zero hle, Nat.mul_zero, Nat.sub_zero]

end Axis

namespace Fitted

variable {p : Projection}

theorem rowPad_le (h : p.Fitted) : p.rowPad ≤ p.mapHeight := by
  by_cases hw : p.IsWide
  · exact (h.centred_of_wide hw).pad_le h.mapHeight_pos
  · exact (h.filled_of_not_wide hw).pad_le

theorem colPad_le (h : p.Fitted) : p.colPad ≤ p.mapWidth := by
  by_cases hw : p.IsWide
  · exact (h.filled_of_wide hw).pad_le
  · exact (h.centred_of_not_wide hw).pad_le h.mapWidth_pos

theorem rowPad_or_colPad (h : p.Fitted) : p.rowPad = 0 ∨ p.colPad = 0 := by
  by_cases hw : p.IsWide
  · exact Or.inr (h.filled_of_wide hw).pad_eq
  · exact Or.inl (h.filled_of_not_wide hw).pad_eq

/-- A raster wider than the map in proportion is lower than the map once it is scaled. -/
theorem covered_lt_of_wide (h : p.Fitted) (hw : p.IsWide) : p.rowAxis.covered < p.mapHeight := by
  have hscale : p.rowAxis.scale = p.mapWidth * unit / p.rasterWidth :=
    (h.filled_of_wide hw).scale_eq
  rw [Axis.covered, hscale, Nat.div_lt_iff_lt_mul unit_pos]
  exact mul_scale_lt_of_wide h.rasterHeight_pos h.mapHeight_pos hw

end Fitted

/-- **Margins.** For all sides below `2 ^ 32`, at most one of the paddings is not zero, and what is
left out before the footprint is left out after it. If the raster is wider than the map in
proportion, all columns are covered and the scaled raster, of `F` rows, leaves at least one free;
`F` rows are covered, or `F - 1` if an odd number is free. If it is not, all rows are covered, and
so are all columns if the scaled raster has as many; else its `F` columns are, or `F - 1` if an odd
number is free. -/
theorem fit_margins (rasterWidth rasterHeight sizeX sizeY : Nat) (rotation : Rotation)
    (hrw : 0 < rasterWidth ∧ rasterWidth < 2 ^ 32) (hrh : 0 < rasterHeight ∧ rasterHeight < 2 ^ 32)
    (hx : 0 < sizeX ∧ sizeX < 2 ^ 32) (hy : 0 < sizeY ∧ sizeY < 2 ^ 32) :
    ∃ p, fit rasterWidth rasterHeight sizeX sizeY rotation = .ok p ∧
      p.Joins rasterWidth rasterHeight sizeX sizeY rotation ∧
      (p.rowPad = 0 ∨ p.colPad = 0) ∧
      (p.rows.1 + p.rows.2 = p.mapHeight ∧ p.cols.1 + p.cols.2 = p.mapWidth) ∧
      if p.IsWide then
        let covered := rasterHeight * p.scale / unit
        p.cols = (0, p.mapWidth) ∧ covered < p.mapHeight ∧ 1 ≤ p.rowPad ∧
          (span p.rows).length = covered - (p.mapHeight - covered) % 2
      else
        let covered := rasterWidth * p.scale / unit
        p.rows = (0, p.mapHeight) ∧
          (span p.cols).length =
            if p.mapWidth ≤ covered then p.mapWidth
            else covered - (p.mapWidth - covered) % 2 := by
  obtain ⟨p, hfit, hj, hp⟩ := exists_fit rasterWidth rasterHeight sizeX sizeY rotation
    ⟨hrw.1, hrw.2.le⟩ ⟨hrh.1, hrh.2.le⟩ ⟨hx.1, hx.2.le⟩ ⟨hy.1, hy.2.le⟩
  obtain rfl := hj.rasterWidth_eq
  obtain rfl := hj.rasterHeight_eq
  refine ⟨p, hfit, hj, hp.rowPad_or_colPad,
    ⟨p.rowAxis.start_add_stop hp.rowPad_le, p.colAxis.start_add_stop hp.colPad_le⟩, ?_⟩
  split
  case isTrue hw =>
    have hcentred := hp.centred_of_wide hw
    have hlt := hp.covered_lt_of_wide hw
    exact ⟨(hp.filled_of_wide hw).range_eq, hlt, hcentred.pad_pos hlt,
      hcentred.length_range hlt.le⟩
  case isFalse hw =>
    have hcentred := hp.centred_of_not_wide hw
    refine ⟨(hp.filled_of_not_wide hw).range_eq, ?_⟩
    split
    case isTrue hle => exact hcentred.length_range_of_le hle
    case isFalse hlt => exact hcentred.length_range (Nat.le_of_not_le hlt)

/-- Four columns and one row on four by four tiles leave three rows free, so the single row gives
way to the margins; eight rows of two columns on sixteen by sixteen tiles cover columns 6 to 9. -/
theorem thin_raster_margins :
    ∃ p q, fit 4 1 4 4 .counterClockwise = .ok p ∧ p.IsWide ∧ (span p.rows).length = 0 ∧
      p.rows.1 + p.rows.2 = 4 ∧ fit 2 8 16 16 .clockwise = .ok q ∧ ¬ q.IsWide ∧
      (span q.cols).length = 4 ∧ q.cols.1 + q.cols.2 = 16 := by
  obtain ⟨p, hp, -, -, ⟨hrows, -⟩, hcount⟩ := fit_margins 4 1 4 4 .counterClockwise (by decide)
    (by decide) (by decide) (by decide)
  obtain ⟨q, hq, -, -, ⟨-, hcols⟩, hcount'⟩ := fit_margins 2 8 16 16 .clockwise (by decide)
    (by decide) (by decide) (by decide)
  have hfit : fit 4 1 4 4 .counterClockwise =
      .ok ⟨.counterClockwise, 4, 1, 4, 4, 16384, 2, 0⟩ := by decide
  have hfit' : fit 2 8 16 16 .clockwise =
      .ok ⟨.clockwise, 2, 8, 16, 16, 32768, 0, 6⟩ := by decide
  obtain rfl := Except.ok.inj (hfit.symm.trans hp)
  obtain rfl := Except.ok.inj (hfit'.symm.trans hq)
  rw [if_pos (by decide)] at hcount
  rw [if_neg (by decide)] at hcount'
  exact ⟨_, _, hp, by decide, hcount.2.2.2, hrows, hq, by decide, hcount'.2, hcols⟩

end MapPainter.Projection
