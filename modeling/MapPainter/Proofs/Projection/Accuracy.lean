import MapPainter.Proofs.Projection.Sampling

/-!
# The accuracy of sampling

The exact source of a tile is its distance times the pixels of the axis, over its tiles
(`Axis.exact`). The scale is rounded down before the distance is divided by it, so a source can only
run ahead of the exact one. It has reached a line exactly if what the scale loses, once for every
line up to there, makes up for the tiles that are still missing (`Axis.Filled.le_index_iff`). All
bounds come from this: the source never lags behind, it is at most one line ahead if the scale is no
less than the number of pixels, and it is exact for 128 pixels or fewer.
-/

namespace MapPainter.Projection

namespace Axis

variable {a : Axis} {offset line : Nat}

/-- The pixel at a distance from the padding, if nothing but the result is rounded. -/
def exact (a : Axis) (offset : Nat) : Nat := offset * a.raster / a.map

theorem exact_lt (hr : 0 < a.raster) (ho : offset < a.map) : a.exact offset < a.raster := by
  rw [exact, Nat.div_lt_iff_lt_mul (Nat.zero_lt_of_lt ho), Nat.mul_comm]
  exact Nat.mul_lt_mul_of_pos_left ho hr

theorem succ_exact_mul_sub (hm : 0 < a.map) (offset : Nat) :
    (a.exact offset + 1) * a.map - offset * a.raster = a.map - offset * a.raster % a.map := by
  have hsplit : a.map * a.exact offset + offset * a.raster % a.map = offset * a.raster :=
    Nat.div_add_mod _ _
  have hlt := Nat.mod_lt (offset * a.raster) hm
  rw [Nat.succ_mul, Nat.mul_comm (a.exact offset)]
  omega

namespace Filled

/-- A line is reached where the remainder of the scale, taken once for each line, makes up for the
tiles that are missing. -/
theorem le_index_iff (h : a.Filled) (hr : 0 < a.raster) (hs : 0 < a.scale) :
    line ≤ a.index offset ↔ (line * a.map - offset * a.raster) * unit ≤ line * a.lost := by
  have hsum : line * a.scale * a.raster + line * a.lost = line * a.map * unit := by
    rw [Nat.mul_assoc, ← Nat.mul_add, h.scale_mul_add_lost, Nat.mul_assoc]
  rw [index, Nat.le_div_iff_mul_le hs, ← Nat.mul_le_mul_right_iff hr, Nat.sub_mul,
    Nat.mul_right_comm offset]
  omega

theorem exact_le_index (h : a.Filled) (hr : 0 < a.raster) (hs : 0 < a.scale) :
    a.exact offset ≤ a.index offset := by
  have hreached : a.exact offset * a.map ≤ offset * a.raster := Nat.div_mul_le_self _ _
  rw [h.le_index_iff hr hs, Nat.sub_eq_zero_of_le hreached, Nat.zero_mul]
  exact Nat.zero_le _

theorem index_eq_exact_iff (h : a.Filled) (hr : 0 < a.raster) (hs : 0 < a.scale)
    (hm : 0 < a.map) :
    a.index offset = a.exact offset ↔
      (a.exact offset + 1) * a.lost < (a.map - offset * a.raster % a.map) * unit := by
  have hle : a.exact offset ≤ a.index offset := h.exact_le_index hr hs
  have hnext : a.exact offset + 1 ≤ a.index offset ↔ _ := h.le_index_iff hr hs
  rw [succ_exact_mul_sub hm offset] at hnext
  rw [← Nat.not_le, ← hnext]
  omega

/-- What the scale loses for all lines is less than the square of the raster. -/
theorem succ_exact_mul_lost_le (hr : 0 < a.raster) (ho : offset < a.map) :
    (a.exact offset + 1) * a.lost + a.raster ≤ a.raster * a.raster := by
  have hline : a.exact offset + 1 ≤ a.raster := exact_lt hr ho
  have hlost : a.lost + 1 ≤ a.raster := Nat.mod_lt _ hr
  calc (a.exact offset + 1) * a.lost + a.raster ≤ a.raster * a.lost + a.raster :=
        Nat.add_le_add_right (Nat.mul_le_mul_right _ hline) _
    _ = a.raster * (a.lost + 1) := (Nat.mul_succ _ _).symm
    _ ≤ a.raster * a.raster := Nat.mul_le_mul_left _ hlost

theorem index_eq_exact (h : a.Filled) (hr : 0 < a.raster) (hs : 0 < a.scale)
    (hsquare : a.raster * a.raster ≤ unit) (ho : offset < a.map) :
    a.index offset = a.exact offset := by
  have hm : 0 < a.map := Nat.zero_lt_of_lt ho
  rw [h.index_eq_exact_iff hr hs hm]
  have hlost := succ_exact_mul_lost_le hr ho
  have hmissing : 1 * unit ≤ (a.map - offset * a.raster % a.map) * unit :=
    Nat.mul_le_mul_right unit (Nat.sub_pos_of_lt (Nat.mod_lt _ hm))
  omega

theorem index_le_exact_succ (h : a.Filled) (hr : 0 < a.raster) (hs : a.raster ≤ a.scale)
    (ho : offset < a.map) : a.index offset ≤ a.exact offset + 1 := by
  refine Nat.le_of_lt_succ (Nat.not_le.mp fun hahead => ?_)
  rw [Nat.succ_eq_add_one, h.le_index_iff hr (Nat.lt_of_lt_of_le hr hs)] at hahead
  -- Two lines ahead, more than a whole side is missing, and no remainder makes up for that.
  have hmissing : a.map ≤ (a.exact offset + 1 + 1) * a.map - offset * a.raster := by
    have hm : 0 < a.map := Nat.zero_lt_of_lt ho
    have hnext := succ_exact_mul_sub hm offset
    have hrest := Nat.mod_lt (offset * a.raster) hm
    rw [Nat.succ_mul]
    omega
  have hlost : (a.exact offset + 1 + 1) * a.lost < a.raster * a.raster := by
    have hlines := succ_exact_mul_lost_le hr ho
    have hlast : a.lost < a.raster := Nat.mod_lt _ hr
    rw [Nat.succ_mul]
    omega
  have hside : a.raster * a.raster ≤ a.map * unit := by
    have hsum := h.scale_mul_add_lost
    have hscale := Nat.mul_le_mul_right a.raster hs
    omega
  have hunits := Nat.mul_le_mul_right unit hmissing
  omega

end Filled

end Axis

/-- The line along the filled axis that a place is painted from. -/
theorem Fitted.sourceIndex_filledDistance {p : Projection} {row col : Nat} {source : Nat × Nat}
    (h : p.Fitted) (hc : p.Covers row col) (hs : p.sourcePixel row col = .ok source) :
    p.sourceIndex (p.filledDistance row col) = .ok (if p.IsWide then source.2 else source.1) := by
  obtain ⟨hrow, hcol⟩ := h.sourceIndex_of_covers hc hs
  unfold filledDistance
  split
  · exact hcol
  · exact hrow

/-- **Accuracy.** Let `M` and `R` be the tiles and pixels along the filled axis, for any sides below
`2 ^ 32`. If there is a scale, the source of every tile of that axis is no line before the exact
one, `offset * R / M`; it is at most one line after it if the scale is at least `R`, and equal to it
if `R` is at most 128. In general it is equal exactly if what the scale loses, `M * 16384 % R`,
taken once for each line up to and with the exact one, weighs less than the tiles that are missing
to the next line. The places of the footprint have their source from these. -/
theorem fit_accurate (rasterWidth rasterHeight sizeX sizeY : Nat) (rotation : Rotation)
    (hrw : 0 < rasterWidth ∧ rasterWidth < 2 ^ 32) (hrh : 0 < rasterHeight ∧ rasterHeight < 2 ^ 32)
    (hx : 0 < sizeX ∧ sizeX < 2 ^ 32) (hy : 0 < sizeY ∧ sizeY < 2 ^ 32) :
    ∃ p, fit rasterWidth rasterHeight sizeX sizeY rotation = .ok p ∧
      p.Joins rasterWidth rasterHeight sizeX sizeY rotation ∧
      (0 < p.scale → ∀ offset < p.filledAxis.map, ∃ line, p.sourceIndex offset = .ok line ∧
        offset * p.filledAxis.raster / p.filledAxis.map ≤ line ∧
        (p.filledAxis.raster ≤ p.scale →
          line ≤ offset * p.filledAxis.raster / p.filledAxis.map + 1) ∧
        (p.filledAxis.raster ≤ 128 → line = offset * p.filledAxis.raster / p.filledAxis.map) ∧
        (line = offset * p.filledAxis.raster / p.filledAxis.map ↔
          (offset * p.filledAxis.raster / p.filledAxis.map + 1) *
              (p.filledAxis.map * unit % p.filledAxis.raster) <
            (p.filledAxis.map - offset * p.filledAxis.raster % p.filledAxis.map) * unit)) ∧
      ∀ row col source, p.Covers row col → p.sourcePixel row col = .ok source →
        p.filledDistance row col < p.filledAxis.map ∧
          p.sourceIndex (p.filledDistance row col) =
            .ok (if p.IsWide then source.2 else source.1) := by
  obtain ⟨p, hfit, hj, hp⟩ := exists_fit rasterWidth rasterHeight sizeX sizeY rotation
    ⟨hrw.1, hrw.2.le⟩ ⟨hrh.1, hrh.2.le⟩ ⟨hx.1, hx.2.le⟩ ⟨hy.1, hy.2.le⟩
  have hr := hp.filledAxis_raster_pos
  refine ⟨p, hfit, hj, ?_, ?_⟩
  · intro hpos offset ho
    have hs : 0 < p.filledAxis.scale := p.filledAxis_scale ▸ hpos
    have hindex := sourceIndex_eq_index hpos (Nat.lt_of_lt_of_le ho hp.filledAxis_map_le)
    refine ⟨_, hindex, hp.filled.exact_le_index hr hs, ?_, ?_, ?_⟩
    · intro hle
      exact hp.filled.index_le_exact_succ hr (p.filledAxis_scale ▸ hle) ho
    · intro hle
      have hsquare : p.filledAxis.raster * p.filledAxis.raster ≤ unit := Nat.mul_le_mul hle hle
      exact hp.filled.index_eq_exact hr hs hsquare ho
    · exact hp.filled.index_eq_exact_iff hr hs (Nat.zero_lt_of_lt ho)
  · intro row col source hc hsource
    exact ⟨hc.filledDistance_lt, hp.sourceIndex_filledDistance hc hsource⟩

/-- From 129 pixels on, the last tile of 128 is a line ahead; 128 pixels on a thousand tiles end
with their last one. -/
theorem last_tile_ahead :
    ∃ p q, fit 129 1 128 3 .counterClockwise = .ok p ∧
      (∃ line, p.sourceIndex 127 = .ok line ∧ 127 * 129 / 128 < line ∧
        line ≤ 127 * 129 / 128 + 1) ∧
      fit 128 1 20 1000 .clockwise = .ok q ∧ q.sourceIndex 999 = .ok 127 := by
  obtain ⟨p, hp, -, hahead, -⟩ := fit_accurate 129 1 128 3 .counterClockwise (by decide)
    (by decide) (by decide) (by decide)
  obtain ⟨q, hq, -, hexact, -⟩ := fit_accurate 128 1 20 1000 .clockwise (by decide) (by decide)
    (by decide) (by decide)
  have hfit : fit 129 1 128 3 .counterClockwise =
      .ok ⟨.counterClockwise, 129, 1, 128, 3, 16256, 2, 0⟩ := by decide
  have hfit' : fit 128 1 20 1000 .clockwise =
      .ok ⟨.clockwise, 128, 1, 1000, 20, 128000, 7, 0⟩ := by decide
  obtain rfl := Except.ok.inj (hfit.symm.trans hp)
  obtain rfl := Except.ok.inj (hfit'.symm.trans hq)
  obtain ⟨line, hline, hle, hsucc, -, hiff⟩ := hahead (by decide) 127 (by decide)
  obtain ⟨line', hline', -, -, heq, -⟩ := hexact (by decide) 999 (by decide)
  refine ⟨_, _, hp, ⟨line, hline, ?_, hsucc (by decide)⟩, hq, ?_⟩
  · exact Nat.lt_of_le_of_ne hle fun h => absurd (hiff.mp h.symm) (by decide)
  · rw [hline', heq (by decide)]
    rfl

end MapPainter.Projection
