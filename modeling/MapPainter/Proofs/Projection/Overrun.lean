import MapPainter.Proofs.Projection.Coverage

/-!
# When a projection overruns its raster

For any sides below `2 ^ 32` a place of the footprint is read without a fault until its source
pixel is compared with the raster, and only the side along the filled axis can be overrun
(`Fitted.outcome`). It is overrun somewhere exactly if there are places at all and the remainder of
`M * 16384` by `R` is 16384 or more, for `M` tiles and `R` pixels on that axis
(`overruns_iff`). No remainder of 16384 pixels or fewer is that large, so a raster with such sides
is swept to the end, unless a position has no index or the step fails.
-/

namespace MapPainter.Projection

/-- The differences, products and quotients that lead to a source pixel. -/
structure Reads (p : Projection) (row col sourceRow sourceCol : Nat) : Prop where
  row : (Word.sub row p.rowPad >>= p.sourceIndex) = .ok sourceRow
  col : (p.colOffset col >>= p.sourceIndex) = .ok sourceCol

section

variable {p : Projection} {row col : Nat}

theorem Fitted.reads (h : p.Fitted) (hc : p.Covers row col) :
    p.Reads row col (p.source row col).1 (p.source row col).2 where
  row := by rw [hc.rowOffset_eq, Outcome.ok_bind, h.sourceRow_eq hc]
  col := by rw [hc.colOffset_eq, Outcome.ok_bind, h.sourceCol_eq hc]

/-- What becomes of a place: the side of the centred axis holds, and that of the filled axis
decides. -/
theorem Fitted.outcome (h : p.Fitted) (hc : p.Covers row col) :
    ∃ r c, p.Reads row col r c ∧
      if p.IsWide then
        r < p.rasterHeight ∧ p.sourcePixel row col =
          if p.rasterWidth ≤ c then .error (.columnOutside c p.rasterWidth) else .ok (r, c)
      else
        c < p.rasterWidth ∧ p.sourcePixel row col =
          if p.rasterHeight ≤ r then .error (.rowOutside r p.rasterHeight) else .ok (r, c) := by
  have hbounds := h.source_bounds hc
  refine ⟨_, _, h.reads hc, ?_⟩
  rw [h.sourcePixel_eq hc]
  split
  case isTrue hw =>
    rw [if_pos hw] at hbounds
    exact ⟨hbounds.1, if_neg (Nat.not_le.mpr hbounds.1)⟩
  case isFalse hw =>
    rw [if_neg hw] at hbounds
    exact ⟨hbounds.1, by rw [if_neg (Nat.not_le.mpr hbounds.1)]⟩

theorem lost_eq (p : Projection) :
    p.filledAxis.lost =
      if p.IsWide then p.mapWidth * unit % p.rasterWidth
      else p.mapHeight * unit % p.rasterHeight := by
  unfold filledAxis
  split <;> rfl

theorem Fitted.exists_fault_iff (h : p.Fitted) :
    (∃ row col fault, p.Covers row col ∧ p.sourcePixel row col = .error fault) ↔
      (p.rows.1 < p.rows.2 ∧ p.cols.1 < p.cols.2) ∧
        unit ≤ if p.IsWide then p.mapWidth * unit % p.rasterWidth
          else p.mapHeight * unit % p.rasterHeight := by
  rw [← lost_eq, ← exists_covers_iff, ← h.exists_overshoot_iff]
  refine exists_congr fun row => exists_congr fun col => ?_
  rw [exists_and_left]
  refine and_congr_right fun hc => ?_
  rw [h.sourcePixel_of_covers hc]
  split
  case isTrue ho => simpa using ho
  case isFalse ho => simpa using ho

/-- No place of the footprint leads out of the raster. -/
def Inside (p : Projection) : Prop :=
  ∀ row col, p.Covers row col → ∃ source, p.sourcePixel row col = .ok source ∧
    source.1 < p.rasterHeight ∧ source.2 < p.rasterWidth

/-- A raster of no more pixels on a side than there are subdivisions is never overrun. -/
theorem Fitted.inside (h : p.Fitted) (hw : p.rasterWidth ≤ unit) (hh : p.rasterHeight ≤ unit) :
    p.Inside := by
  intro row col hc
  have hlost : p.filledAxis.lost < unit := by
    unfold filledAxis
    split
    · exact Axis.lost_lt_unit h.rasterWidth_pos hw
    · exact Axis.lost_lt_unit h.rasterHeight_pos hh
  exact ⟨_, h.sourcePixel_eq_source hlost hc⟩

end

/-! ## Sweeps inside the raster -/

section

variable {p : Projection} {e : Extent} {raster : Raster.Pixels} {rotation : Rotation}
  (hj : p.Joins raster.width raster.height e.sizeX e.sizeY rotation) (hp : p.Inside)

include hj hp

/-- Inside the raster, only a position can fail. -/
theorem index_of_look_eq_error {row col : Nat} {fault : Fault} (hc : p.Covers row col)
    (h : p.look e raster (row, col) = .error fault) :
    e.index (p.tilePosition row col).1 (p.tilePosition row col).2 = .error fault := by
  obtain ⟨source, hsource, hrow, hcol⟩ := hp row col hc
  rw [hj.rasterHeight_eq] at hrow
  rw [hj.rasterWidth_eq] at hcol
  obtain ⟨pixel, hpixel⟩ := Raster.Pixels.exists_pixel hrow hcol
  unfold look at h
  dsimp only at h
  cases hindex : e.index (p.tilePosition row col).1 (p.tilePosition row col).2 with
  | error fault' =>
    rw [hindex, Outcome.error_bind] at h
    rw [Except.error.inj h]
  | ok tile =>
    rw [hindex, Outcome.ok_bind, hsource, Outcome.ok_bind, hpixel] at h
    cases h

variable {σ : Type} {step : σ → Raster.Rgb → Nat → Except Fault σ} {init : σ}

/-- Inside the raster, a sweep is ended by a position without an index or by its step. -/
theorem sweep_fault {fault : Fault} (h : p.sweep e raster step init = .error fault) :
    (∃ row col, p.Covers row col ∧
      e.index (p.tilePosition row col).1 (p.tilePosition row col).2 = .error fault) ∨
      ∃ done c rest state, p.calls e raster = done ++ c :: rest ∧
        done.foldlM (onCall step) init = .ok state ∧
        step state c.pixel c.tile = .error fault := by
  rcases sweep_eq_error h with ⟨⟨row, col⟩, hmem, hlook⟩ | hrefused
  · have hc := mem_footprint.mp hmem
    exact Or.inl ⟨row, col, hc, index_of_look_eq_error hj hp hc hlook⟩
  · exact Or.inr hrefused

theorem exists_sweep (he : e.sizeX * e.sizeY ≤ 2 ^ 32)
    (hstep : ∀ s pixel tile, ∃ s', step s pixel tile = .ok s') :
    ∃ result, p.sweep e raster step init = .ok result := by
  cases h : p.sweep e raster step init with
  | ok result => exact ⟨result, rfl⟩
  | error fault =>
    rcases sweep_fault hj hp h with ⟨row, col, hc, hindex⟩ | ⟨_, c, _, s, -, -, hfault⟩
    · obtain ⟨hx, hy⟩ := hc.tilePosition_lt hj
      cases (Extent.index_eq hx hy he).symm.trans hindex
    · obtain ⟨s', hs'⟩ := hstep s c.pixel c.tile
      cases hs'.symm.trans hfault

end

/-- **Overruns.** Sides below `2 ^ 32` have a projection. Some place of its footprint fails exactly
if there are places and the filled axis, of `M` tiles and `R` pixels, leaves a remainder of
`M * 16384` by `R` that is 16384 or more; the failure is that of the side of this axis, and nothing
fails before. Without a scale there are no places. If both sides of the raster are at most 16384,
every place has its pixel; then a sweep is ended only by a position without an index or by its
step, so on a map of at most `2 ^ 32` tiles it succeeds if the step does. -/
theorem overruns_iff (rasterWidth rasterHeight sizeX sizeY : Nat) (rotation : Rotation)
    (hrw : 0 < rasterWidth ∧ rasterWidth < 2 ^ 32) (hrh : 0 < rasterHeight ∧ rasterHeight < 2 ^ 32)
    (hx : 0 < sizeX ∧ sizeX < 2 ^ 32) (hy : 0 < sizeY ∧ sizeY < 2 ^ 32) :
    ∃ p, fit rasterWidth rasterHeight sizeX sizeY rotation = .ok p ∧
      p.Joins rasterWidth rasterHeight sizeX sizeY rotation ∧
      ((∃ row col fault, p.Covers row col ∧ p.sourcePixel row col = .error fault) ↔
        (p.rows.1 < p.rows.2 ∧ p.cols.1 < p.cols.2) ∧
          unit ≤ if p.IsWide then p.mapWidth * unit % rasterWidth
            else p.mapHeight * unit % rasterHeight) ∧
      (∀ row col, p.Covers row col → ∃ r c, p.Reads row col r c ∧
        if p.IsWide then
          r < rasterHeight ∧ p.sourcePixel row col =
            if rasterWidth ≤ c then .error (.columnOutside c rasterWidth) else .ok (r, c)
        else
          c < rasterWidth ∧ p.sourcePixel row col =
            if rasterHeight ≤ r then .error (.rowOutside r rasterHeight) else .ok (r, c)) ∧
      (p.scale = 0 → ∀ row col, ¬ p.Covers row col) ∧
      (rasterWidth ≤ unit → rasterHeight ≤ unit →
        p.Inside ∧
        ∀ raster : Raster.Pixels, raster.width = rasterWidth → raster.height = rasterHeight →
          ∀ (σ : Type) (step : σ → Raster.Rgb → Nat → Except Fault σ) (init : σ),
            (∀ fault, paintOver ⟨sizeX, sizeY⟩ rotation raster step init = .error fault →
              (∃ row col, p.Covers row col ∧ (Extent.mk sizeX sizeY).index
                (p.tilePosition row col).1 (p.tilePosition row col).2 = .error fault) ∨
              ∃ done c rest state, p.calls ⟨sizeX, sizeY⟩ raster = done ++ c :: rest ∧
                done.foldlM (onCall step) init = .ok state ∧
                step state c.pixel c.tile = .error fault) ∧
            (sizeX * sizeY ≤ 2 ^ 32 → (∀ s pixel tile, ∃ s', step s pixel tile = .ok s') →
              ∃ result, paintOver ⟨sizeX, sizeY⟩ rotation raster step init = .ok result)) := by
  obtain ⟨p, hfit, hj, hp⟩ := exists_fit rasterWidth rasterHeight sizeX sizeY rotation
    ⟨hrw.1, hrw.2.le⟩ ⟨hrh.1, hrh.2.le⟩ ⟨hx.1, hx.2.le⟩ ⟨hy.1, hy.2.le⟩
  obtain rfl := hj.rasterWidth_eq
  obtain rfl := hj.rasterHeight_eq
  refine ⟨p, hfit, hj, hp.exists_fault_iff, fun row col hc => hp.outcome hc, ?_, ?_⟩
  · intro hscale row col hc
    exact absurd hscale (hp.scale_pos hc).ne'
  · intro hw hh
    have hin := hp.inside hw hh
    refine ⟨hin, ?_⟩
    intro raster hwidth hheight σ step init
    rw [← hwidth, ← hheight] at hj hfit
    rw [paintOver, hfit, Outcome.ok_bind]
    exact ⟨fun fault => sweep_fault (e := ⟨sizeX, sizeY⟩) hj hin,
      exists_sweep (e := ⟨sizeX, sizeY⟩) hj hin⟩

/-- One row of 16385 pixels on 16386 by 3 tiles runs over its end; 16383 rows of 5 pixels stay
inside on the largest sides. -/
theorem long_row_overruns :
    ∃ p q, fit 16385 1 16386 3 .counterClockwise = .ok p ∧ p.IsWide ∧
      (∃ row col fault, p.Covers row col ∧ p.sourcePixel row col = .error fault) ∧
      fit 5 16383 4294967295 4294967295 .clockwise = .ok q ∧ q.Covers 0 2147483647 ∧ q.Inside := by
  obtain ⟨p, hp, -, hfails, -⟩ := overruns_iff 16385 1 16386 3 .counterClockwise (by decide)
    (by decide) (by decide) (by decide)
  obtain ⟨q, hq, -, -, -, -, hinside⟩ := overruns_iff 5 16383 4294967295 4294967295 .clockwise
    (by decide) (by decide) (by decide) (by decide)
  have hfit : fit 16385 1 16386 3 .counterClockwise =
      .ok ⟨.counterClockwise, 16385, 1, 16386, 3, 16384, 1, 0⟩ := by decide
  have hfit' : fit 5 16383 4294967295 4294967295 .clockwise =
      .ok ⟨.clockwise, 5, 16383, 4294967295, 4294967295, 4295229455, 0, 2146828248⟩ := by decide
  obtain rfl := Except.ok.inj (hfit.symm.trans hp)
  obtain rfl := Except.ok.inj (hfit'.symm.trans hq)
  exact ⟨_, _, hp, by decide, hfails.mpr (by decide), hq, by decide,
    (hinside (by decide) (by decide)).1⟩

end MapPainter.Projection
