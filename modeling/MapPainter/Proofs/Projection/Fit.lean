import MapPainter.Proofs.Outcome
import MapPainter.Proofs.Projection.Axis
import Mathlib.Tactic.Ring

/-!
# Fitting a raster

`Projection.fit` compares the proportions of raster and map, fills the axis along which the raster
is relatively longer, and centres the other one. `Fitted` says so in terms of axes, and
`exists_fit` proves that sides from 1 to `2 ^ 32` always have such a projection: no product leaves
its 64 bits and no padding its 32. For that alone the columns may be missing
(`exists_fit_of_rows`).
-/

namespace MapPainter.Projection

def rowAxis (p : Projection) : Axis := ⟨p.rasterHeight, p.mapHeight, p.scale, p.rowPad⟩

def colAxis (p : Projection) : Axis := ⟨p.rasterWidth, p.mapWidth, p.scale, p.colPad⟩

/-- The raster is wider in proportion than the map, as far as the subdivisions tell. -/
def IsWide (p : Projection) : Prop :=
  p.mapWidth * unit / p.mapHeight < p.rasterWidth * unit / p.rasterHeight

instance (p : Projection) : Decidable p.IsWide := inferInstanceAs (Decidable (_ < _))

/-- The axis that the scale was chosen for. -/
def filledAxis (p : Projection) : Axis := if p.IsWide then p.colAxis else p.rowAxis

/-- The axis whose padding was computed from the scale. -/
def centredAxis (p : Projection) : Axis := if p.IsWide then p.rowAxis else p.colAxis

/-- A projection of non-empty sides that fills one axis and centres the other. -/
structure Fitted (p : Projection) : Prop where
  rasterWidth_pos : 0 < p.rasterWidth
  rasterHeight_pos : 0 < p.rasterHeight
  mapWidth_pos : 0 < p.mapWidth
  mapHeight_pos : 0 < p.mapHeight
  mapWidth_le : p.mapWidth ≤ 2 ^ 32
  mapHeight_le : p.mapHeight ≤ 2 ^ 32
  filled : p.filledAxis.Filled
  centred : p.centredAxis.Centred

theorem filledAxis_of_wide {p : Projection} (h : p.IsWide) : p.filledAxis = p.colAxis := if_pos h

theorem filledAxis_of_not_wide {p : Projection} (h : ¬ p.IsWide) : p.filledAxis = p.rowAxis :=
  if_neg h

theorem centredAxis_of_wide {p : Projection} (h : p.IsWide) : p.centredAxis = p.rowAxis := if_pos h

theorem centredAxis_of_not_wide {p : Projection} (h : ¬ p.IsWide) : p.centredAxis = p.colAxis :=
  if_neg h

namespace Fitted

variable {p : Projection}

theorem filled_of_wide (h : p.Fitted) (hw : p.IsWide) : p.colAxis.Filled :=
  filledAxis_of_wide hw ▸ h.filled

theorem centred_of_wide (h : p.Fitted) (hw : p.IsWide) : p.rowAxis.Centred :=
  centredAxis_of_wide hw ▸ h.centred

theorem filled_of_not_wide (h : p.Fitted) (hw : ¬ p.IsWide) : p.rowAxis.Filled :=
  filledAxis_of_not_wide hw ▸ h.filled

theorem centred_of_not_wide (h : p.Fitted) (hw : ¬ p.IsWide) : p.colAxis.Centred :=
  centredAxis_of_not_wide hw ▸ h.centred

end Fitted

/-! ## The products stay within their widths -/

/-- Filled along its columns, the scaled raster is lower than the map. -/
theorem mul_scale_lt_of_wide {rw rh mw mh : Nat} (hrh : 0 < rh) (hmh : 0 < mh)
    (hwide : mw * unit / mh < rw * unit / rh) : rh * (mw * unit / rw) < mh * unit := by
  have hmap : mw * unit < rw * unit / rh * mh := (Nat.div_lt_iff_lt_mul hmh).mp hwide
  have hraster : rw * unit / rh * rh ≤ rw * unit := Nat.div_mul_le_self _ _
  have hscale : mw * unit / rw * rw ≤ mw * unit := Nat.div_mul_le_self _ _
  refine Nat.lt_of_mul_lt_mul_right (a := rw) ?_
  calc rh * (mw * unit / rw) * rw = rh * (mw * unit / rw * rw) := Nat.mul_assoc _ _ _
    _ ≤ rh * (mw * unit) := Nat.mul_le_mul_left rh hscale
    _ < rh * (rw * unit / rh * mh) := Nat.mul_lt_mul_of_pos_left hmap hrh
    _ = rw * unit / rh * rh * mh := by ring
    _ ≤ rw * unit * mh := Nat.mul_le_mul_right mh hraster
    _ = mh * unit * rw := by ring

/-- Filled along its rows, the scaled raster stays below the width that one subdivision more than
its proportions would give. -/
theorem mul_scale_lt_of_ratio_le {rw rh mh q : Nat} (hrh : 0 < rh) (hmh : 0 < mh)
    (hq : rw * unit / rh ≤ q) : rw * (mh * unit / rh) < (q + 1) * mh := by
  have hraster : rw * unit < (rw * unit / rh + 1) * rh :=
    Nat.mul_comm rh _ ▸ Nat.lt_mul_div_succ (rw * unit) hrh
  have hscale : mh * unit / rh * rh ≤ mh * unit := Nat.div_mul_le_self _ _
  refine Nat.lt_of_mul_lt_mul_right (a := rh) ?_
  calc rw * (mh * unit / rh) * rh = rw * (mh * unit / rh * rh) := Nat.mul_assoc _ _ _
    _ ≤ rw * (mh * unit) := Nat.mul_le_mul_left rw hscale
    _ = rw * unit * mh := by ring
    _ < (rw * unit / rh + 1) * rh * mh := Nat.mul_lt_mul_of_pos_right hraster hmh
    _ ≤ (q + 1) * rh * mh :=
      Nat.mul_le_mul_right mh (Nat.mul_le_mul_right rh (Nat.succ_le_succ hq))
    _ = (q + 1) * mh * rh := by ring

/-- Filled along its rows, the scaled raster is at most one subdivision for each row wider than
the map. -/
theorem mul_scale_lt_of_not_wide {rw rh mw mh : Nat} (hrh : 0 < rh) (hmh : 0 < mh)
    (hwide : ¬ mw * unit / mh < rw * unit / rh) :
    rw * (mh * unit / rh) < mw * unit + mh := by
  have hmap : mw * unit / mh * mh ≤ mw * unit := Nat.div_mul_le_self _ _
  have hlt := mul_scale_lt_of_ratio_le hrh hmh (Nat.le_of_not_lt hwide)
  rw [Nat.succ_mul] at hlt
  omega

/-- A raster without columns is not wide. -/
theorem rasterWidth_pos_of_wide {rw rh q : Nat} (hwide : q < rw * unit / rh) : 0 < rw := by
  refine Nat.pos_of_ne_zero ?_
  rintro rfl
  rw [Nat.zero_mul, Nat.zero_div] at hwide
  exact Nat.not_lt_zero _ hwide

theorem mul_unit_lt {side : Nat} (hs : side ≤ 2 ^ 32) : side * unit < 2 ^ 64 := by
  unfold unit
  omega

theorem ratio_eq {side into : Nat} (hs : side ≤ 2 ^ 32) (hi : 0 < into) :
    ratio side into = .ok (side * unit / into) := by
  rw [ratio, Word.fit_of_lt (mul_unit_lt hs), Outcome.ok_bind, Word.div_of_pos hi]

theorem padding_eq {map raster scale : Nat} (hm : map ≤ 2 ^ 32) (hl : raster * scale < 2 ^ 64) :
    padding map raster scale = .ok ((1 + map - raster * scale / unit) / 2) := by
  have hle : 1 + map - raster * scale / unit ≤ 1 + map := Nat.sub_le _ _
  have hpad : (1 + map - raster * scale / unit) / 2 < UInt32.size := by
    rw [UInt32.size]
    omega
  rw [padding, Word.fit_of_lt hl, Outcome.ok_bind, Nat.mod_eq_of_lt hpad, Outcome.pure_eq_ok]

/-! ## The fitted projection -/

section

variable (rasterWidth rasterHeight sizeX sizeY : Nat) (rotation : Rotation)

theorem axes_pos (hx : 0 < sizeX) (hy : 0 < sizeY) :
    0 < (axes sizeX sizeY rotation).1 ∧ 0 < (axes sizeX sizeY rotation).2 := by
  cases rotation
  · exact ⟨hx, hy⟩
  · exact ⟨hy, hx⟩

theorem axes_le {n : Nat} (hx : sizeX ≤ n) (hy : sizeY ≤ n) :
    (axes sizeX sizeY rotation).1 ≤ n ∧ (axes sizeX sizeY rotation).2 ≤ n := by
  cases rotation
  · exact ⟨hx, hy⟩
  · exact ⟨hy, hx⟩

/-- The raster and the map that a projection belongs to. -/
structure Joins (p : Projection) (rasterWidth rasterHeight sizeX sizeY : Nat)
    (rotation : Rotation) : Prop where
  rotation_eq : p.rotation = rotation
  rasterWidth_eq : p.rasterWidth = rasterWidth
  rasterHeight_eq : p.rasterHeight = rasterHeight
  axes_eq : (p.mapWidth, p.mapHeight) = axes sizeX sizeY rotation

theorem Joins.mapHeight_le {rasterWidth rasterHeight sizeX sizeY : Nat} {rotation : Rotation}
    {p : Projection} (hj : p.Joins rasterWidth rasterHeight sizeX sizeY rotation) {n : Nat}
    (hx : sizeX ≤ n) (hy : sizeY ≤ n) : p.mapHeight ≤ n := by
  have hle := (axes_le sizeX sizeY rotation hx hy).2
  rwa [← hj.axes_eq] at hle

/-- Whatever the other sides, a raster and a map with rows have a projection, which fills one axis
and centres the other. -/
theorem exists_fit_of_rows (hrw : rasterWidth ≤ 2 ^ 32) (hrh : 0 < rasterHeight)
    (hx : sizeX ≤ 2 ^ 32) (hy : sizeY ≤ 2 ^ 32) (hmh : 0 < (axes sizeX sizeY rotation).2) :
    ∃ p, fit rasterWidth rasterHeight sizeX sizeY rotation = .ok p ∧
      p.Joins rasterWidth rasterHeight sizeX sizeY rotation ∧
      p.filledAxis.Filled ∧ p.centredAxis.Centred := by
  obtain ⟨hmw', hmh'⟩ := axes_le sizeX sizeY rotation hx hy
  unfold fit
  generalize haxes : axes sizeX sizeY rotation = sides at *
  obtain ⟨mapWidth, mapHeight⟩ := sides
  dsimp only at hmh hmw' hmh' ⊢
  rw [ratio_eq hrw hrh, Outcome.ok_bind, ratio_eq hmw' hmh, Outcome.ok_bind]
  by_cases hwide : mapWidth * unit / mapHeight < rasterWidth * unit / rasterHeight
  · have hlength := mul_scale_lt_of_wide hrh hmh hwide
    have hcols : 0 < rasterWidth := rasterWidth_pos_of_wide hwide
    rw [if_pos hwide, ratio_eq hmw' hcols, Outcome.ok_bind, padding_eq hmh', Outcome.ok_bind]
    · refine ⟨_, rfl, ⟨rfl, rfl, rfl, haxes.symm⟩, ?_, ?_⟩
      · rw [filledAxis_of_wide]
        · exact ⟨rfl, rfl⟩
        · exact hwide
      · rw [centredAxis_of_wide]
        · exact ⟨rfl⟩
        · exact hwide
    · unfold unit at hlength ⊢
      omega
  · have hlength := mul_scale_lt_of_not_wide hrh hmh hwide
    rw [if_neg hwide, ratio_eq hmh' hrh, Outcome.ok_bind, padding_eq hmw', Outcome.ok_bind]
    · refine ⟨_, rfl, ⟨rfl, rfl, rfl, haxes.symm⟩, ?_, ?_⟩
      · rw [filledAxis_of_not_wide]
        · exact ⟨rfl, rfl⟩
        · exact hwide
      · rw [centredAxis_of_not_wide]
        · exact ⟨rfl⟩
        · exact hwide
    · unfold unit at hlength ⊢
      omega

/-- Sides from 1 to `2 ^ 32` have a projection, which fills one axis and centres the other. -/
theorem exists_fit (hrw : 0 < rasterWidth ∧ rasterWidth ≤ 2 ^ 32)
    (hrh : 0 < rasterHeight ∧ rasterHeight ≤ 2 ^ 32) (hx : 0 < sizeX ∧ sizeX ≤ 2 ^ 32)
    (hy : 0 < sizeY ∧ sizeY ≤ 2 ^ 32) :
    ∃ p, fit rasterWidth rasterHeight sizeX sizeY rotation = .ok p ∧
      p.Joins rasterWidth rasterHeight sizeX sizeY rotation ∧ p.Fitted := by
  obtain ⟨hmw, hmh⟩ := axes_pos sizeX sizeY rotation hx.1 hy.1
  obtain ⟨hmw', hmh'⟩ := axes_le sizeX sizeY rotation hx.2 hy.2
  obtain ⟨p, hfit, hj, hfilled, hcentred⟩ := exists_fit_of_rows rasterWidth rasterHeight sizeX sizeY
    rotation hrw.2 hrh.1 hx.2 hy.2 hmh
  rw [← hj.axes_eq] at hmw hmh hmw' hmh'
  exact ⟨p, hfit, hj, hj.rasterWidth_eq ▸ hrw.1, hj.rasterHeight_eq ▸ hrh.1, hmw, hmh, hmw', hmh',
    hfilled, hcentred⟩

/-- So does a raster of a valid size. -/
theorem exists_fit_of_validSize (hr : Raster.ValidSize rasterWidth rasterHeight)
    (hx : 0 < sizeX ∧ sizeX ≤ 2 ^ 32) (hy : 0 < sizeY ∧ sizeY ≤ 2 ^ 32) :
    ∃ p, fit rasterWidth rasterHeight sizeX sizeY rotation = .ok p ∧
      p.Joins rasterWidth rasterHeight sizeX sizeY rotation ∧ p.Fitted := by
  obtain ⟨-, hrw, hrw', hrh, hrh'⟩ := hr
  unfold Raster.maxSide at hrw' hrh'
  exact exists_fit rasterWidth rasterHeight sizeX sizeY rotation ⟨hrw, by omega⟩ ⟨hrh, by omega⟩
    hx hy

end

end MapPainter.Projection
