import MapPainter.Proofs.Projection.Calls
import MapPainter.Proofs.Raster.Pixels

/-!
# Sweeps that leave the raster

A scale is rounded down, so the tiles count for a little more of the raster than they should. On
the centred axis the padding makes up for that. On the filled axis, of `M` tiles and `R` pixels,
the remainder of `M * 16384` by `R` adds up over the whole side, and if it comes to a whole tile
the last rows or columns of the map look beyond the last pixel. That takes more than 16384 pixels
on that axis.

* `Fitted.look_of_covers`: what every place of the footprint leads to.
* `sourcePixel_fails_iff`: the exact condition on which a raster of a valid size cannot be swept
  over a map with sides from 3 to 65536.
-/

namespace MapPainter.Projection

section

variable {p : Projection} {e : Extent} {raster : Raster.Pixels} {rotation : Rotation}
  {row col : Nat}

/-- A place of the footprint leads out of the raster where the filled axis overshoots, and to a
pixel elsewhere. -/
theorem Fitted.look_of_covers (h : p.Fitted)
    (hj : p.Joins raster.width raster.height e.sizeX e.sizeY rotation)
    (he : e.sizeX * e.sizeY ≤ 2 ^ 32) (hc : p.Covers row col) :
    if p.filledAxis.Overshoots (p.filledDistance row col) then
      p.look e raster (row, col) = .error (p.outside row col)
    else ∃ c, p.look e raster (row, col) = .ok c := by
  obtain ⟨hx, hy⟩ := hc.tilePosition_lt hj
  have hindex := Extent.index_eq hx hy he
  have hsource := h.sourcePixel_of_covers hc
  split
  case isTrue ho =>
    rw [if_pos ho] at hsource
    rw [look, hindex, Outcome.ok_bind, hsource, Outcome.error_bind]
  case isFalse ho =>
    rw [if_neg ho] at hsource
    obtain ⟨hrow, hcol⟩ := h.source_lt hc ho
    rw [hj.rasterHeight_eq] at hrow
    rw [hj.rasterWidth_eq] at hcol
    obtain ⟨pixel, hpixel⟩ := Raster.Pixels.exists_pixel hrow hcol
    rw [look, hindex, Outcome.ok_bind, hsource, Outcome.ok_bind, hpixel, Outcome.ok_bind]
    exact ⟨_, rfl⟩

/-- Every place of the footprint leads somewhere exactly if none overshoots. -/
theorem Fitted.forall_look_iff (h : p.Fitted)
    (hj : p.Joins raster.width raster.height e.sizeX e.sizeY rotation)
    (he : e.sizeX * e.sizeY ≤ 2 ^ 32) :
    (∀ place ∈ p.footprint, ∃ c, p.look e raster place = .ok c) ↔
      ¬ ∃ row col, p.Covers row col ∧ p.filledAxis.Overshoots (p.filledDistance row col) := by
  constructor
  · rintro hall ⟨row, col, hc, ho⟩
    obtain ⟨c, hlook⟩ := hall (row, col) (mem_footprint.mpr hc)
    have hfault := h.look_of_covers hj he hc
    rw [if_pos ho, hlook] at hfault
    cases hfault
  · intro hnone place hmem
    have hc := mem_footprint.mp hmem
    have hlook := h.look_of_covers hj he hc
    rwa [if_neg fun ho => hnone ⟨_, _, hc, ho⟩] at hlook

end

/-- A step that never fails folds over all calls. -/
theorem exists_foldlM_onCall {σ : Type} {step : σ → Raster.Rgb → Nat → Except Fault σ}
    (hstep : ∀ s pixel tile, ∃ s', step s pixel tile = .ok s') (calls : List Call) (init : σ) :
    ∃ final, calls.foldlM (onCall step) init = .ok final := by
  induction calls generalizing init with
  | nil => exact ⟨init, rfl⟩
  | cons c calls ih =>
    obtain ⟨s, hs⟩ := hstep init c.pixel c.tile
    obtain ⟨final, hfinal⟩ := ih s
    exact ⟨final, Outcome.foldlM_cons_eq_ok.mpr ⟨s, hs, hfinal⟩⟩

/-- With a step that never fails, a sweep succeeds exactly if every place leads somewhere. -/
theorem exists_sweep_iff {σ : Type} {p : Projection} {e : Extent} {raster : Raster.Pixels}
    {step : σ → Raster.Rgb → Nat → Except Fault σ}
    (hstep : ∀ s pixel tile, ∃ s', step s pixel tile = .ok s') (init : σ) :
    (∃ result, p.sweep e raster step init = .ok result) ↔
      ∀ place ∈ p.footprint, ∃ c, p.look e raster place = .ok c := by
  constructor
  · rintro ⟨result, h⟩
    exact (sweep_eq_ok_iff.mp h).1
  · intro hall
    obtain ⟨final, hfinal⟩ := exists_foldlM_onCall hstep (p.calls e raster) init
    rw [sweep_eq_map hall, hfinal]
    exact ⟨_, rfl⟩

/-- A raster has a projection on every map of at most `2 ^ 32` tiles. -/
theorem exists_fit_raster (raster : Raster.Pixels) (rotation : Rotation) {sizeX sizeY : Nat}
    (hx : 0 < sizeX) (hy : 0 < sizeY) (he : sizeX * sizeY ≤ 2 ^ 32) :
    ∃ p, fit raster.width raster.height sizeX sizeY rotation = .ok p ∧
      p.Joins raster.width raster.height sizeX sizeY rotation ∧ p.Fitted := by
  have hxle : sizeX ≤ 2 ^ 32 := (Nat.le_mul_of_pos_right _ hy).trans he
  have hyle : sizeY ≤ 2 ^ 32 := (Nat.le_mul_of_pos_left _ hx).trans he
  exact exists_fit_of_validSize _ _ _ _ rotation raster.valid ⟨hx, hxle⟩ ⟨hy, hyle⟩

/-- A raster of a valid size on a map with sides from 3 to 65536: on the footprint a source pixel
either lies in the raster or is the fault of the filled axis, never an overflow or a division by
zero. Some source pixel is such a fault, and every sweep with a step that never fails is ended by
one, exactly if the footprint is not empty and the scale has lost a whole tile. -/
theorem sourcePixel_fails_iff (rasterWidth rasterHeight sizeX sizeY : Nat) (rotation : Rotation)
    (hr : Raster.ValidSize rasterWidth rasterHeight) (hx : 3 ≤ sizeX ∧ sizeX ≤ 65536)
    (hy : 3 ≤ sizeY ∧ sizeY ≤ 65536) :
    ∃ p, fit rasterWidth rasterHeight sizeX sizeY rotation = .ok p ∧
      (∀ row col, p.Covers row col →
        if p.filledAxis.Overshoots (p.filledDistance row col) then
          p.sourcePixel row col = .error (p.outside row col)
        else
          ∃ r c, p.sourcePixel row col = .ok (r, c) ∧ r < rasterHeight ∧ c < rasterWidth) ∧
      ((∃ row col, p.Covers row col ∧ ∀ source, p.sourcePixel row col ≠ .ok source) ↔
        (p.rows.1 < p.rows.2 ∧ p.cols.1 < p.cols.2) ∧ unit ≤ p.filledAxis.lost) ∧
      ∀ raster : Raster.Pixels, raster.width = rasterWidth → raster.height = rasterHeight →
        ∀ (σ : Type) (step : σ → Raster.Rgb → Nat → Except Fault σ) (init : σ),
          (∀ s pixel tile, ∃ s', step s pixel tile = .ok s') →
          ((∀ result, paintOver ⟨sizeX, sizeY⟩ rotation raster step init ≠ .ok result) ↔
            (p.rows.1 < p.rows.2 ∧ p.cols.1 < p.cols.2) ∧ unit ≤ p.filledAxis.lost) := by
  obtain ⟨-, hrw, hrw', hrh, hrh'⟩ := hr
  unfold Raster.maxSide at hrw' hrh'
  obtain ⟨p, hfit, hj, hp⟩ := exists_fit rasterWidth rasterHeight sizeX sizeY rotation (by omega)
    (by omega) (by omega) (by omega)
  have hiff := hp.exists_overshoot_iff
  rw [exists_covers_iff] at hiff
  refine ⟨p, hfit, ?_, ?_, ?_⟩
  · intro row col hc
    have hsource := hp.sourcePixel_of_covers hc
    split
    case isTrue ho => rwa [if_pos ho] at hsource
    case isFalse ho =>
      rw [if_neg ho] at hsource
      have hlt := hp.source_lt hc ho
      rw [hj.rasterHeight_eq, hj.rasterWidth_eq] at hlt
      exact ⟨_, _, hsource, hlt⟩
  · rw [← hiff]
    refine exists_congr fun row => exists_congr fun col => and_congr_right fun hc => ?_
    rw [hp.sourcePixel_of_covers hc]
    split
    case isTrue ho => simpa using ho
    case isFalse ho => simpa using ho
  · rintro raster rfl rfl σ step init hstep
    have he : sizeX * sizeY ≤ 2 ^ 32 := calc
      sizeX * sizeY ≤ 65536 * 65536 := Nat.mul_le_mul hx.2 hy.2
      _ = 2 ^ 32 := by decide
    rw [← hiff, ← not_iff_not, ← hp.forall_look_iff (e := ⟨sizeX, sizeY⟩) hj he,
      ← exists_sweep_iff hstep init, paintOver, hfit, Outcome.ok_bind]
    simp

/-- A raster of one column and 16385 rows, on a map of one row more: the last row of the map looks
one row beyond the raster. -/
theorem narrow_raster_fails :
    Raster.ValidSize 1 16385 ∧
      ∃ p, fit 1 16385 3 16386 .counterClockwise = .ok p ∧ p.Covers 16385 1 ∧
        unit ≤ p.filledAxis.lost ∧
        p.sourcePixel 16385 1 = .error (.rowOutside 16385 16385) := by
  obtain ⟨p, hfit, hplace, -, -⟩ :=
    sourcePixel_fails_iff 1 16385 3 16386 .counterClockwise (by decide) (by decide) (by decide)
  have hp : fit 1 16385 3 16386 .counterClockwise =
      .ok ⟨.counterClockwise, 1, 16385, 3, 16386, 16384, 0, 1⟩ := by decide
  rw [hfit] at hp
  cases hp
  have hfault := hplace 16385 1 (by decide)
  rw [if_pos (by decide)] at hfault
  exact ⟨by decide, _, hfit, by decide, by decide, hfault⟩

end MapPainter.Projection
