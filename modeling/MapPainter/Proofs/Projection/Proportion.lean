import MapPainter.Proofs.Projection.Coverage
import Mathlib.Algebra.Order.Floor.Div

/-!
# Rasters in the proportions of the map

A raster in the proportions of its map fills the rows, but not always the columns. The scale is
rounded down on the rows and used on the columns as well, so the columns fall short by what the
rounding loses, once for every column of the raster (`Proportional.covered_add_short`). Half of that
becomes padding, which is zero exactly if the scale is exact (`Proportional.colPad_eq_zero_iff`).
One column of padding only costs the border of the map; more than that costs inner tiles
(`calls_tile_perm_iff`).
-/

namespace MapPainter

/-- The indices of the inner tiles. -/
def Extent.inner (e : Extent) : List Nat := (List.range (e.sizeX * e.sizeY)).filter e.isInner

namespace Projection

/-- What falls short of `m` whole tiles by `lost`, all counted `r` times over, covers as many
tiles less than `m` as `lost` takes up. -/
theorem div_add_ceilDiv {n lost m r : Nat} (hr : 0 < r) (h : n * r + lost = m * (r * unit)) :
    n / unit + lost ⌈/⌉ (r * unit) = m := by
  have hpos : 0 < r * unit := Nat.mul_pos hr unit_pos
  have hle : n / unit ≤ m := by
    refine Nat.div_le_of_le_mul (Nat.le_of_mul_le_mul_right (c := r) ?_ hr)
    rw [Nat.mul_comm unit, Nat.mul_assoc, Nat.mul_comm unit]
    omega
  have hshort : lost ⌈/⌉ (r * unit) = m - n / unit := by
    refine eq_of_forall_ge_iff fun k => ?_
    rw [ceilDiv_le_iff_le_mul hpos, Nat.mul_comm]
    rcases Nat.le_total k m with hk | hk
    · have hdiv : m - k ≤ n / unit ↔ (m - k) * (r * unit) ≤ n * r := by
        rw [Nat.le_div_iff_mul_le unit_pos, Nat.mul_left_comm, Nat.mul_comm n]
        exact (Nat.mul_le_mul_left_iff hr).symm
      have hsplit : (m - k) * (r * unit) + k * (r * unit) = m * (r * unit) := by
        rw [← Nat.add_mul, Nat.sub_add_cancel hk]
      omega
    · have hmul : m * (r * unit) ≤ k * (r * unit) := Nat.mul_le_mul_right _ hk
      exact ⟨fun _ => (Nat.sub_le _ _).trans hk, fun _ => by omega⟩
  omega

variable {p : Projection} {e : Extent} {raster : Raster.Pixels}

/-- Raster and map have the same proportions along the axes of the raster. -/
def Proportional (p : Projection) : Prop :=
  p.rasterWidth * p.mapHeight = p.rasterHeight * p.mapWidth

namespace Proportional

theorem not_isWide (h : p.Proportional) (hp : p.Fitted) : ¬ p.IsWide := by
  have hraster : p.rasterWidth * unit / p.rasterHeight =
      p.rasterHeight * p.mapWidth * unit / (p.rasterHeight * p.mapHeight) := by
    rw [← h, Nat.mul_right_comm, Nat.mul_div_mul_right _ _ hp.mapHeight_pos]
  have hmap : p.mapWidth * unit / p.mapHeight =
      p.rasterHeight * p.mapWidth * unit / (p.rasterHeight * p.mapHeight) := by
    rw [Nat.mul_assoc, Nat.mul_div_mul_left _ _ hp.rasterHeight_pos]
  rw [IsWide, hraster, hmap]
  exact Nat.lt_irrefl _

theorem filled (h : p.Proportional) (hp : p.Fitted) : p.rowAxis.Filled :=
  hp.filled_of_not_wide (h.not_isWide hp)

theorem centred (h : p.Proportional) (hp : p.Fitted) : p.colAxis.Centred :=
  hp.centred_of_not_wide (h.not_isWide hp)

/-- The columns that the scaled raster falls short of the map: what the scale loses on one row, for
every column of the raster. -/
theorem covered_add_short (h : p.Proportional) (hp : p.Fitted) :
    p.colAxis.covered + (p.rasterWidth * p.rowAxis.lost) ⌈/⌉ (p.rasterHeight * unit) =
      p.mapWidth := by
  have hsum : p.scale * p.rasterHeight + p.rowAxis.lost = p.mapHeight * unit :=
    (h.filled hp).scale_mul_add_lost
  refine div_add_ceilDiv hp.rasterHeight_pos ?_
  calc p.rasterWidth * p.scale * p.rasterHeight + p.rasterWidth * p.rowAxis.lost
      = p.rasterWidth * (p.scale * p.rasterHeight + p.rowAxis.lost) := by
        rw [Nat.mul_add, Nat.mul_assoc]
    _ = p.rasterWidth * p.mapHeight * unit := by rw [hsum, Nat.mul_assoc]
    _ = p.rasterHeight * p.mapWidth * unit := by rw [h]
    _ = p.mapWidth * (p.rasterHeight * unit) := by
        rw [Nat.mul_comm p.rasterHeight, Nat.mul_assoc]

theorem colPad_eq (h : p.Proportional) (hp : p.Fitted) :
    p.colPad =
      (1 + (p.rasterWidth * p.rowAxis.lost) ⌈/⌉ (p.rasterHeight * unit)) / 2 := by
  have hpad : p.colPad = (1 + p.mapWidth - p.colAxis.covered) / 2 := (h.centred hp).pad_eq
  have hshort := h.covered_add_short hp
  omega

/-- There is no padding exactly if the scale loses nothing. -/
theorem colPad_eq_zero_iff (h : p.Proportional) (hp : p.Fitted) :
    p.colPad = 0 ↔ p.rasterHeight ∣ p.mapHeight * unit := by
  have hpos : 0 < p.rasterHeight * unit := Nat.mul_pos hp.rasterHeight_pos unit_pos
  have hshort : (p.rasterWidth * p.rowAxis.lost) ⌈/⌉ (p.rasterHeight * unit) = 0 ↔
      p.rowAxis.lost = 0 := by
    rw [← Nat.le_zero, ceilDiv_le_iff_le_mul hpos, Nat.mul_zero, Nat.le_zero, Nat.mul_eq_zero]
    exact or_iff_right (Nat.ne_of_gt hp.rasterWidth_pos)
  rw [h.colPad_eq hp, Nat.dvd_iff_mod_eq_zero]
  refine Iff.trans ?_ hshort
  omega

end Proportional

/-! ## Visiting every inner tile -/

section

variable {rasterWidth rasterHeight : Nat} {rotation : Rotation}
  (hj : p.Joins rasterWidth rasterHeight e.sizeX e.sizeY rotation)

include hj in
/-- If no row and at most the border column on either side is left out, all inner tiles lie in the
footprint. -/
theorem exists_covers_of_isInner (hrow : p.rowPad = 0) (hcol : p.colPad ≤ 1) {x y : Nat}
    (hx : x < e.sizeX) (hinner : e.isInner (y * e.sizeX + x) = true) :
    ∃ row col, p.Covers row col ∧ p.tilePosition row col = (x, y) := by
  rw [Extent.isInner_index hx, decide_eq_true_eq] at hinner
  have haxes := hj.axes_eq
  simp only [Covers, rows, cols, tilePosition, hj.rotation_eq]
  cases rotation with
  | counterClockwise =>
    obtain ⟨hw, hh⟩ := Prod.mk.inj haxes
    refine ⟨y, x, ⟨⟨?_, ?_⟩, ?_, ?_⟩, rfl⟩ <;> omega
  | clockwise =>
    obtain ⟨hw, hh⟩ := Prod.mk.inj haxes
    refine ⟨x, y, ⟨⟨?_, ?_⟩, ?_, ?_⟩, rfl⟩ <;> omega

/-- The tile at `(1, 1)` lies in row 1 and column 1 whichever way the raster is laid. -/
theorem tilePosition_eq_one {row col : Nat} (h : p.tilePosition row col = (1, 1)) :
    row = 1 ∧ col = 1 := by
  unfold tilePosition at h
  split at h
  · exact (Prod.mk.inj h).symm
  · exact Prod.mk.inj h

theorem mem_inner_of_mem_calls {c : Call} (h : c ∈ p.calls e raster) : c.tile ∈ e.inner := by
  obtain ⟨hx, hy, htile⟩ := Extent.of_index_eq (index_of_mem_calls h)
  rw [Extent.inner, List.mem_filter, List.mem_range]
  refine ⟨?_, (mem_calls.mp h).2.2⟩
  rw [htile]
  exact Extent.mul_add_lt hx hy

include hj in
/-- If no row and at most the border column is left out on either side, all inner tiles are handed
on. -/
theorem calls_tile_perm (hrow : p.rowPad = 0) (hcol : p.colPad ≤ 1) (hx : 0 < e.sizeX)
    (hall : ∀ place ∈ p.footprint, ∃ c, p.look e raster place = .ok c) :
    ((p.calls e raster).map Call.tile).Perm e.inner := by
  refine (List.perm_ext_iff_of_nodup (p.calls_tile_nodup e raster)
    (List.nodup_range.filter _)).mpr fun i => ⟨?_, ?_⟩
  · intro hmem
    obtain ⟨c, hc, rfl⟩ := List.mem_map.mp hmem
    exact mem_inner_of_mem_calls hc
  · intro hmem
    obtain ⟨hlt, hinner⟩ := List.mem_filter.mp hmem
    have hi : i / e.sizeX * e.sizeX + i % e.sizeX = i := Nat.div_add_mod' i e.sizeX
    obtain ⟨row, col, hc, hposition⟩ := exists_covers_of_isInner hj hrow hcol
      (Nat.mod_lt i hx) (hi.symm ▸ hinner)
    obtain ⟨c, hcall, rfl, rfl⟩ := (enumerates_calls hall).complete row col _ _ hc hposition
      (hi.symm ▸ hinner)
    have htile := (Extent.of_index_eq (index_of_mem_calls hcall)).2.2
    rw [hposition, hi] at htile
    exact List.mem_map.mpr ⟨c, hcall, htile⟩

include hj in
/-- If no row is left out, all inner tiles are handed on exactly if at most the border column is
left out on either side. -/
theorem calls_tile_perm_iff (hrow : p.rowPad = 0) (hx : 3 ≤ e.sizeX) (hy : 3 ≤ e.sizeY)
    (hall : ∀ place ∈ p.footprint, ∃ c, p.look e raster place = .ok c) :
    ((p.calls e raster).map Call.tile).Perm e.inner ↔ p.colPad ≤ 1 := by
  refine ⟨fun hperm => ?_, fun hcol => calls_tile_perm hj hrow hcol (by omega) hall⟩
  have hinner : 1 * e.sizeX + 1 ∈ e.inner := by
    rw [Extent.inner, List.mem_filter, List.mem_range, Extent.isInner_index (by omega)]
    exact ⟨Extent.mul_add_lt (by omega) (by omega), decide_eq_true (by omega)⟩
  obtain ⟨c, hmem, htile⟩ := List.mem_map.mp (hperm.mem_iff.mpr hinner)
  obtain ⟨hcol, -, hindex⟩ := Extent.of_index_eq (index_of_mem_calls hmem)
  obtain ⟨hx', hy'⟩ :=
    (Extent.mul_add_eq_iff hcol (by omega)).mp (hindex.symm.trans htile)
  obtain ⟨-, hcol'⟩ := tilePosition_eq_one (Prod.ext hx' hy')
  have hc := (mem_calls.mp hmem).1.2.1
  rw [hcol'] at hc
  exact hc

include hj in
/-- No place leads out of the raster exactly if the scale loses less than a tile. -/
theorem Proportional.forall_look_iff (h : p.Proportional) (hp : p.Fitted) (hcol : p.colPad ≤ 1)
    (hw : 3 ≤ p.mapWidth) (he : e.sizeX * e.sizeY ≤ 2 ^ 32) (hrw : raster.width = rasterWidth)
    (hrh : raster.height = rasterHeight) :
    (∀ place ∈ p.footprint, ∃ c, p.look e raster place = .ok c) ↔ p.rowAxis.lost < unit := by
  subst hrw hrh
  have hplaces : ∃ row col, p.Covers row col := by
    have hrow : p.rowPad = 0 := (h.filled hp).pad_eq
    have hh := hp.mapHeight_pos
    rw [exists_covers_iff]
    simp only [rows, cols]
    omega
  rw [hp.forall_look_iff hj he, hp.exists_overshoot_iff,
    filledAxis_of_not_wide (h.not_isWide hp), ← Nat.not_le]
  exact not_congr (and_iff_right hplaces)

end

end Projection

open Projection

/-- **Equal proportions.** A raster in the proportions of its map fills it along the rows. Along the
columns it is one tile short for every tile, whole or begun, that the rounding of the scale loses on
them, and half of that is padding. So the footprint is the whole map exactly if the scale is exact,
and a sweep goes through every inner tile, each once, exactly if the padding is at most the border
column and the scale loses less than a tile along the rows. -/
theorem paintOver_proportional (rasterWidth rasterHeight sizeX sizeY : Nat) (rotation : Rotation)
    (hr : Raster.ValidSize rasterWidth rasterHeight) (hx : 3 ≤ sizeX ∧ sizeX ≤ 65536)
    (hy : 3 ≤ sizeY ∧ sizeY ≤ 65536)
    (hsame : rasterWidth * (axes sizeX sizeY rotation).2 =
      rasterHeight * (axes sizeX sizeY rotation).1) :
    ∃ p, fit rasterWidth rasterHeight sizeX sizeY rotation = .ok p ∧
      p.rowPad = 0 ∧
      p.colPad = (1 + (rasterWidth * (p.mapHeight * unit % rasterHeight)) ⌈/⌉
        (rasterHeight * unit)) / 2 ∧
      (p.rows = (0, p.mapHeight) ∧ p.cols = (0, p.mapWidth) ↔
        rasterHeight ∣ p.mapHeight * unit) ∧
      ∀ raster : Raster.Pixels, raster.width = rasterWidth → raster.height = rasterHeight →
        ((∃ result, paintOver ⟨sizeX, sizeY⟩ rotation raster note [] = .ok result ∧
            (result.state.map Prod.fst).Perm (Extent.inner ⟨sizeX, sizeY⟩)) ↔
          p.colPad ≤ 1 ∧ p.mapHeight * unit % rasterHeight < unit) := by
  obtain ⟨-, hrw, hrw', hrh, hrh'⟩ := hr
  unfold Raster.maxSide at hrw' hrh'
  obtain ⟨p, hfit, hj, hp⟩ := exists_fit rasterWidth rasterHeight sizeX sizeY rotation (by omega)
    (by omega) (by omega) (by omega)
  have hjoins := hj
  obtain ⟨-, rfl, rfl, haxes⟩ := hjoins
  have h : p.Proportional := by
    rw [← haxes] at hsame
    exact hsame
  have hrow : p.rowPad = 0 := (h.filled hp).pad_eq
  refine ⟨p, hfit, hrow, h.colPad_eq hp, ?_, ?_⟩
  · rw [← h.colPad_eq_zero_iff hp, rows, cols, hrow]
    constructor
    · rintro ⟨-, hcols⟩
      exact (Prod.mk.inj hcols).1
    · intro hcol
      rw [hcol]
      exact ⟨rfl, rfl⟩
  · intro raster hwidth hheight
    have hfit' : fit raster.width raster.height sizeX sizeY rotation = .ok p := by
      rw [hwidth, hheight, hfit]
    have he : sizeX * sizeY ≤ 2 ^ 32 := calc
      sizeX * sizeY ≤ 65536 * 65536 := Nat.mul_le_mul hx.2 hy.2
      _ = 2 ^ 32 := by decide
    have hw : 3 ≤ p.mapWidth := by
      cases rotation with
      | counterClockwise => exact (Prod.mk.inj haxes).1 ▸ hx.1
      | clockwise => exact (Prod.mk.inj haxes).1 ▸ hy.1
    have hsweep : (∃ result, paintOver ⟨sizeX, sizeY⟩ rotation raster note [] = .ok result) ↔
        ∀ place ∈ p.footprint, ∃ c, p.look ⟨sizeX, sizeY⟩ raster place = .ok c := by
      rw [paintOver, hfit', Outcome.ok_bind]
      exact exists_sweep_iff (fun _ _ _ => ⟨_, rfl⟩) []
    have hseen : ∀ result, paintOver ⟨sizeX, sizeY⟩ rotation raster note [] = .ok result →
        result.state.map Prod.fst = (p.calls ⟨sizeX, sizeY⟩ raster).map Call.tile := by
      intro result hresult
      rw [(notes_of_paintOver ⟨sizeX, sizeY⟩ hfit' hresult).1, List.map_map]
      rfl
    constructor
    · rintro ⟨result, hresult, hperm⟩
      have hall := hsweep.mp ⟨result, hresult⟩
      rw [hseen result hresult] at hperm
      have hcol := (calls_tile_perm_iff (e := ⟨sizeX, sizeY⟩) hj hrow hx.1 hy.1 hall).mp hperm
      exact ⟨hcol,
        (h.forall_look_iff (e := ⟨sizeX, sizeY⟩) hj hp hcol hw he hwidth hheight).mp hall⟩
    · rintro ⟨hcol, hlost⟩
      have hall :=
        (h.forall_look_iff (e := ⟨sizeX, sizeY⟩) hj hp hcol hw he hwidth hheight).mpr hlost
      obtain ⟨result, hresult⟩ := hsweep.mpr hall
      refine ⟨result, hresult, ?_⟩
      rw [hseen result hresult]
      exact (calls_tile_perm_iff (e := ⟨sizeX, sizeY⟩) hj hrow hx.1 hy.1 hall).mpr hcol

/-- Three by three pixels leave out both border columns of a square of four by four tiles; a long
strip leaves out inner columns as well, so no sweep goes through all inner tiles. -/
theorem proportional_rasters_padded :
    (∃ p, fit 3 3 4 4 .counterClockwise = .ok p ∧ 3 * 4 = 3 * 4 ∧ p.colPad = 1 ∧
      ¬ (p.rows = (0, 4) ∧ p.cols = (0, 4))) ∧
    ∃ p, fit 109225 15 21845 3 .counterClockwise = .ok p ∧ 109225 * 3 = 15 * 21845 ∧
      p.colPad = 3 ∧
      ∀ raster : Raster.Pixels, raster.width = 109225 → raster.height = 15 →
        ¬ ∃ result, paintOver ⟨21845, 3⟩ .counterClockwise raster note [] = .ok result ∧
          (result.state.map Prod.fst).Perm (Extent.inner ⟨21845, 3⟩) := by
  constructor
  · obtain ⟨p, hfit, -, -, hwhole, -⟩ := paintOver_proportional 3 3 4 4 .counterClockwise
      (by decide) (by decide) (by decide) (by decide)
    have hp : fit 3 3 4 4 .counterClockwise =
        .ok ⟨.counterClockwise, 3, 3, 4, 4, 21845, 0, 1⟩ := by decide
    obtain rfl := Except.ok.inj (hfit.symm.trans hp)
    exact ⟨_, hfit, rfl, rfl, fun h => absurd (hwhole.mp h) (by decide)⟩
  · obtain ⟨p, hfit, -, -, -, hsweep⟩ :=
      paintOver_proportional 109225 15 21845 3 .counterClockwise (by decide) (by decide)
        (by decide) (by decide)
    have hp : fit 109225 15 21845 3 .counterClockwise =
        .ok ⟨.counterClockwise, 109225, 15, 21845, 3, 3276, 0, 3⟩ := by decide
    obtain rfl := Except.ok.inj (hfit.symm.trans hp)
    refine ⟨_, hfit, by decide, rfl, fun raster hwidth hheight hall => ?_⟩
    exact absurd ((hsweep raster hwidth hheight).mp hall).1 (by decide)

end MapPainter
