import MapPainter.Proofs.Projection.Margins

/-!
# Rasters wider than their map

Raster and map are compared by their proportions in whole subdivisions. A raster that is wider
than the map by less than one subdivision counts as no wider. It is then scaled to the rows of the
map, and on a map of more than 16384 rows its columns may need more tiles than there are
(`Fitted.isCropped_iff`). They need at most one tile more for every 16384 rows
(`Fitted.covered_le`). The padding is zero where it would have to be negative, so the last columns
of the raster run over the side of the map (`Fitted.source_of_cropped`).
-/

namespace MapPainter.Projection

/-- Scaled, the raster has more columns than the map. -/
def IsCropped (p : Projection) : Prop := p.mapWidth < p.colAxis.covered

variable {p : Projection} {row col : Nat}

theorem isCropped_iff_mul_le : p.IsCropped ↔ (p.mapWidth + 1) * unit ≤ p.rasterWidth * p.scale :=
  Nat.le_div_iff_mul_le unit_pos

namespace Fitted

theorem rows_covered_le (h : p.Fitted) : p.rowAxis.covered ≤ p.mapHeight := by
  by_cases hw : p.IsWide
  · exact (h.covered_lt_of_wide hw).le
  · exact (h.filled_of_not_wide hw).covered_le

theorem not_wide_of_cropped (h : p.Fitted) (hcrop : p.IsCropped) : ¬ p.IsWide := fun hw =>
  Nat.not_lt.mpr (h.filled_of_wide hw).covered_le hcrop

/-- A raster that counts as narrower than the map has room on it. -/
theorem not_cropped_of_ratio_lt (h : p.Fitted)
    (hlt : p.rasterWidth * unit / p.rasterHeight < p.mapWidth * unit / p.mapHeight) :
    ¬ p.IsCropped := by
  have hw : ¬ p.IsWide := Nat.not_lt.mpr hlt.le
  have hscale : p.scale = p.mapHeight * unit / p.rasterHeight := (h.filled_of_not_wide hw).scale_eq
  have hbelow : p.rasterWidth * p.scale < p.mapWidth * unit := by
    rw [hscale]
    calc p.rasterWidth * (p.mapHeight * unit / p.rasterHeight)
        < (p.rasterWidth * unit / p.rasterHeight + 1) * p.mapHeight :=
          mul_scale_lt_of_ratio_le h.rasterHeight_pos h.mapHeight_pos (Nat.le_refl _)
      _ ≤ p.mapWidth * unit / p.mapHeight * p.mapHeight := Nat.mul_le_mul_right _ hlt
      _ ≤ p.mapWidth * unit := Nat.div_mul_le_self _ _
  rw [isCropped_iff_mul_le, Nat.succ_mul]
  omega

/-- Only a raster whose proportions cannot be told from those of the map is cropped. -/
theorem ratio_eq_of_cropped (h : p.Fitted) (hcrop : p.IsCropped) :
    p.mapWidth * unit / p.mapHeight = p.rasterWidth * unit / p.rasterHeight :=
  Nat.le_antisymm (Nat.not_lt.mp fun hlt => h.not_cropped_of_ratio_lt hlt hcrop)
    (Nat.not_lt.mp (h.not_wide_of_cropped hcrop))

theorem isCropped_iff (h : p.Fitted) :
    p.IsCropped ↔
      p.mapWidth * unit / p.mapHeight = p.rasterWidth * unit / p.rasterHeight ∧
        (p.mapWidth + 1) * unit ≤ p.rasterWidth * (p.mapHeight * unit / p.rasterHeight) := by
  have hscale (hw : ¬ p.IsWide) : p.scale = p.mapHeight * unit / p.rasterHeight :=
    (h.filled_of_not_wide hw).scale_eq
  constructor
  · intro hcrop
    refine ⟨h.ratio_eq_of_cropped hcrop, ?_⟩
    rw [← hscale (h.not_wide_of_cropped hcrop)]
    exact isCropped_iff_mul_le.mp hcrop
  · rintro ⟨hratio, hle⟩
    have hw : ¬ p.IsWide := Nat.not_lt.mpr hratio.ge
    rw [← hscale hw] at hle
    exact isCropped_iff_mul_le.mpr hle

/-- A cropped raster is wider than the map, and not only in whole subdivisions. -/
theorem mul_lt_of_cropped (h : p.Fitted) (hcrop : p.IsCropped) :
    p.mapWidth * p.rasterHeight < p.rasterWidth * p.mapHeight := by
  have hsum := (h.filled_of_not_wide (h.not_wide_of_cropped hcrop)).scale_mul_add_lost
  have hscale : p.scale * p.rasterHeight ≤ p.mapHeight * unit :=
    Nat.le_of_add_right_le hsum.le
  have hle : (p.mapWidth + 1) * p.rasterHeight ≤ p.rasterWidth * p.mapHeight := by
    refine Nat.le_of_mul_le_mul_right (c := unit) ?_ unit_pos
    calc (p.mapWidth + 1) * p.rasterHeight * unit
        = (p.mapWidth + 1) * unit * p.rasterHeight := Nat.mul_right_comm _ _ _
      _ ≤ p.rasterWidth * p.scale * p.rasterHeight :=
        Nat.mul_le_mul_right _ (isCropped_iff_mul_le.mp hcrop)
      _ = p.rasterWidth * (p.scale * p.rasterHeight) := Nat.mul_assoc _ _ _
      _ ≤ p.rasterWidth * (p.mapHeight * unit) := Nat.mul_le_mul_left _ hscale
      _ = p.rasterWidth * p.mapHeight * unit := (Nat.mul_assoc _ _ _).symm
  rw [Nat.succ_mul] at hle
  have hpos := h.rasterHeight_pos
  omega

/-- What is too wide is less than a subdivision for every row. -/
theorem covered_le (h : p.Fitted) :
    p.colAxis.covered ≤
      p.mapWidth + (p.mapHeight - 1 - p.mapWidth * unit % p.mapHeight) / unit := by
  by_cases hw : p.IsWide
  · exact (h.filled_of_wide hw).covered_le.trans (Nat.le_add_right _ _)
  · have hscale : p.scale = p.mapHeight * unit / p.rasterHeight :=
      (h.filled_of_not_wide hw).scale_eq
    have hlt := mul_scale_lt_of_ratio_le h.rasterHeight_pos h.mapHeight_pos (Nat.le_of_not_lt hw)
    have hsplit := Nat.div_add_mod' (p.mapWidth * unit) p.mapHeight
    have hmod := Nat.mod_lt (p.mapWidth * unit) h.mapHeight_pos
    rw [← hscale, Nat.succ_mul] at hlt
    calc p.rasterWidth * p.scale / unit
        ≤ (p.mapWidth * unit + (p.mapHeight - 1 - p.mapWidth * unit % p.mapHeight)) / unit :=
          Nat.div_le_div_right (by omega)
      _ = p.mapWidth + (p.mapHeight - 1 - p.mapWidth * unit % p.mapHeight) / unit := by
          rw [Nat.mul_comm p.mapWidth unit, Nat.mul_add_div unit_pos]

/-- If pixels are narrower than two tiles, no tile shows the last column of a cropped raster. -/
theorem source_of_cropped (h : p.Fitted) (hcrop : p.IsCropped) (hs : p.scale < 2 * unit)
    (hc : p.Covers row col) : (p.source row col).2 + 1 < p.rasterWidth := by
  have hpos := h.scale_pos hc
  have hdistance : p.colDistance col + 2 * p.colPad < p.mapWidth := hc.colDistance_lt
  have hle := isCropped_iff_mul_le.mp hcrop
  have htiles : (p.colDistance col + 2) * unit ≤ (p.mapWidth + 1) * unit :=
    Nat.mul_le_mul_right unit (by omega)
  rw [Nat.add_mul] at htiles
  change p.colDistance col * unit / p.scale + 1 < p.rasterWidth
  rw [← Nat.add_div_right _ hpos, Nat.div_lt_iff_lt_mul hpos]
  omega

end Fitted

/-- **Cropping.** A raster of a valid size on a map with sides from 3 to 65536 never needs more
rows than there are. It needs more columns exactly if its proportions come out as those of the map
in whole subdivisions, while the scale of the rows makes it a tile too wide. That takes more than
16384 rows and is at most one column for every 16384 rows, so at most 3. A cropped raster is wider
than the map in proportion; all the same the rows are filled and no column is left out. If its
pixels are narrower than two tiles, no tile gets a pixel of its last column. -/
theorem scaled_raster_cropped_iff (rasterWidth rasterHeight sizeX sizeY : Nat)
    (rotation : Rotation) (hr : Raster.ValidSize rasterWidth rasterHeight)
    (hx : 3 ≤ sizeX ∧ sizeX ≤ 65536) (hy : 3 ≤ sizeY ∧ sizeY ≤ 65536) :
    ∃ p, fit rasterWidth rasterHeight sizeX sizeY rotation = .ok p ∧
      p.Joins rasterWidth rasterHeight sizeX sizeY rotation ∧
      rasterHeight * p.scale / unit ≤ p.mapHeight ∧
      (p.mapWidth < rasterWidth * p.scale / unit ↔
        p.mapWidth * unit / p.mapHeight = rasterWidth * unit / rasterHeight ∧
          (p.mapWidth + 1) * unit ≤ rasterWidth * (p.mapHeight * unit / rasterHeight)) ∧
      rasterWidth * p.scale / unit ≤
        p.mapWidth + (p.mapHeight - 1 - p.mapWidth * unit % p.mapHeight) / unit ∧
      (p.mapHeight ≤ unit → rasterWidth * p.scale / unit ≤ p.mapWidth) ∧
      rasterWidth * p.scale / unit ≤ p.mapWidth + 3 ∧
      (p.mapWidth < rasterWidth * p.scale / unit →
        p.mapWidth * rasterHeight < rasterWidth * p.mapHeight ∧
        p.rows = (0, p.mapHeight) ∧ p.cols = (0, p.mapWidth) ∧
        (p.scale < 2 * unit → ∀ row col source, p.Covers row col →
          p.sourcePixel row col = .ok source → source.2 + 1 < rasterWidth)) := by
  obtain ⟨p, hfit, hj, hp⟩ := exists_fit_of_validSize rasterWidth rasterHeight sizeX sizeY rotation
    hr (by omega) (by omega)
  have hheight : p.mapHeight ≤ 65536 := hj.mapHeight_le hx.2 hy.2
  obtain rfl := hj.rasterWidth_eq
  obtain rfl := hj.rasterHeight_eq
  have hbound : p.rasterWidth * p.scale / unit ≤ _ := hp.covered_le
  have hthree : (p.mapHeight - 1 - p.mapWidth * unit % p.mapHeight) / unit ≤ 3 := by
    refine Nat.le_of_lt_succ ((Nat.div_lt_iff_lt_mul unit_pos).mpr ?_)
    rw [unit]
    omega
  refine ⟨p, hfit, hj, hp.rows_covered_le, hp.isCropped_iff, hbound, ?_,
    hbound.trans (Nat.add_le_add_left hthree _), ?_⟩
  · intro hle
    have hnone : (p.mapHeight - 1 - p.mapWidth * unit % p.mapHeight) / unit = 0 := by
      have hpos := hp.mapHeight_pos
      exact Nat.div_eq_of_lt (by omega)
    rwa [hnone] at hbound
  · intro hcrop
    have hw := hp.not_wide_of_cropped hcrop
    have hcol : p.colPad = 0 := (hp.centred_of_not_wide hw).pad_eq_zero (Nat.le_of_lt hcrop)
    refine ⟨hp.mul_lt_of_cropped hcrop, (hp.filled_of_not_wide hw).range_eq, ?_, ?_⟩
    · rw [cols, hcol, Nat.sub_zero]
    · intro hs row col source hc hsource
      rw [hp.eq_source hc hsource]
      exact hp.source_of_cropped hcrop hs hc

/-- Five columns on a map of four, both of 32768 rows: the last column of the raster is lost. -/
theorem fifth_column_cropped :
    Raster.ValidSize 5 32768 ∧
      ∃ p, fit 5 32768 4 32768 .counterClockwise = .ok p ∧ 4 < 5 * p.scale / unit ∧
        p.rows = (0, 32768) ∧ p.cols = (0, 4) ∧
        ∀ row col source, p.Covers row col → p.sourcePixel row col = .ok source →
          source.2 < 4 := by
  obtain ⟨p, hp, -, -, -, -, -, -, hcropped⟩ :=
    scaled_raster_cropped_iff 5 32768 4 32768 .counterClockwise (by decide) (by decide) (by decide)
  have hfit : fit 5 32768 4 32768 .counterClockwise =
      .ok ⟨.counterClockwise, 5, 32768, 4, 32768, 16384, 0, 0⟩ := by decide
  obtain rfl := Except.ok.inj (hfit.symm.trans hp)
  obtain ⟨-, hrows, hcols, hlost⟩ := hcropped (by decide)
  refine ⟨by decide, _, hp, by decide, hrows, hcols, fun row col source hc hsource => ?_⟩
  exact Nat.lt_of_add_lt_add_right (hlost (by decide) row col source hc hsource)

end MapPainter.Projection
