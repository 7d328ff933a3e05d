import MapPainter.Proofs.Projection.Margins

/-!
# Which sides have a projection

Proportions are quotients by the rows, of the raster and of the map. If either has none, there is no
projection, and that is all that can fail (`fit_fails_iff`). A raster without columns is not wide,
so nothing is divided by its columns. The axis to fill is chosen such that the scaled raster cannot
be much longer than the other side of the map, which keeps the last product small although both of
its factors may be large.
-/

namespace MapPainter.Projection

theorem Axis.Centred.pad_lt {a : Axis} (h : a.Centred) (hm : a.map < 2 ^ 32) : a.pad < 2 ^ 32 := by
  have := h.pad_eq
  omega

theorem Axis.Filled.pad_lt {a : Axis} (h : a.Filled) : a.pad < 2 ^ 32 := by
  rw [h.pad_eq]
  decide

theorem ratio_zero {side : Nat} (hs : side ≤ 2 ^ 32) : ratio side 0 = .error .zeroDivisor := by
  rw [ratio, Word.fit_of_lt (mul_unit_lt hs), Outcome.ok_bind]
  rfl

section

variable {rasterWidth rasterHeight sizeX sizeY : Nat} {rotation : Rotation}

theorem fit_eq_error (hrw : rasterWidth ≤ 2 ^ 32) (hx : sizeX ≤ 2 ^ 32) (hy : sizeY ≤ 2 ^ 32)
    (hrows : rasterHeight = 0 ∨ (axes sizeX sizeY rotation).2 = 0) :
    fit rasterWidth rasterHeight sizeX sizeY rotation = .error .zeroDivisor := by
  have hmw := (axes_le sizeX sizeY rotation hx hy).1
  unfold fit
  generalize axes sizeX sizeY rotation = sides at *
  obtain ⟨mapWidth, mapHeight⟩ := sides
  dsimp only at hrows hmw ⊢
  rcases Nat.eq_zero_or_pos rasterHeight with rfl | hrh
  · rw [ratio_zero hrw, Outcome.error_bind]
  · obtain rfl := hrows.resolve_left hrh.ne'
    rw [ratio_eq hrw hrh, Outcome.ok_bind, ratio_zero hmw, Outcome.error_bind]

end

variable {p : Projection}

/-- The centred side times the scale, which comes from the other side. -/
theorem raster_mul_scale_lt (hfilled : p.filledAxis.Filled) (hrh : 0 < p.rasterHeight)
    (hmh : 0 < p.mapHeight) (hmw' : p.mapWidth ≤ 2 ^ 32) (hmh' : p.mapHeight ≤ 2 ^ 32) :
    p.centredAxis.raster * p.scale < 2 ^ 64 := by
  by_cases hw : p.IsWide
  · rw [filledAxis_of_wide hw] at hfilled
    have hscale : p.scale = p.mapWidth * unit / p.rasterWidth := hfilled.scale_eq
    rw [centredAxis_of_wide hw, hscale]
    exact (mul_scale_lt_of_wide hrh hmh hw).trans (mul_unit_lt hmh')
  · rw [filledAxis_of_not_wide hw] at hfilled
    have hscale : p.scale = p.mapHeight * unit / p.rasterHeight := hfilled.scale_eq
    have hlength := mul_scale_lt_of_not_wide hrh hmh hw
    rw [centredAxis_of_not_wide hw, hscale]
    refine hlength.trans ?_
    unfold unit
    omega

theorem rowPad_lt (hfilled : p.filledAxis.Filled) (hcentred : p.centredAxis.Centred)
    (hmh : p.mapHeight < 2 ^ 32) : p.rowPad < 2 ^ 32 := by
  by_cases hw : p.IsWide
  · rw [centredAxis_of_wide hw] at hcentred
    exact hcentred.pad_lt hmh
  · rw [filledAxis_of_not_wide hw] at hfilled
    exact hfilled.pad_lt

theorem colPad_lt (hfilled : p.filledAxis.Filled) (hcentred : p.centredAxis.Centred)
    (hmw : p.mapWidth < 2 ^ 32) : p.colPad < 2 ^ 32 := by
  by_cases hw : p.IsWide
  · rw [filledAxis_of_wide hw] at hfilled
    exact hfilled.pad_lt
  · rw [centredAxis_of_not_wide hw] at hcentred
    exact hcentred.pad_lt hmw

/-- **Totality.** For any sides below `2 ^ 32` a projection fails exactly if the raster has no rows
or the map has none along the raster's, and then for a zero divisor. Otherwise all numbers are those
of exact arithmetic: no product leaves its 64 bits, no divisor is zero, and no padding leaves its 32
bits, so none is cut. -/
theorem fit_fails_iff (rasterWidth rasterHeight sizeX sizeY : Nat) (rotation : Rotation)
    (hrw : rasterWidth < 2 ^ 32) (hx : sizeX < 2 ^ 32) (hy : sizeY < 2 ^ 32) :
    ((∃ fault, fit rasterWidth rasterHeight sizeX sizeY rotation = .error fault) ↔
      rasterHeight = 0 ∨
        (match rotation with
          | .counterClockwise => sizeY
          | .clockwise => sizeX) = 0) ∧
      (∀ fault, fit rasterWidth rasterHeight sizeX sizeY rotation = .error fault →
        fault = .zeroDivisor) ∧
      ∀ p, fit rasterWidth rasterHeight sizeX sizeY rotation = .ok p →
        p.Joins rasterWidth rasterHeight sizeX sizeY rotation ∧
        (rasterWidth * unit < 2 ^ 64 ∧ p.mapWidth * unit < 2 ^ 64 ∧ p.mapHeight * unit < 2 ^ 64) ∧
        (if p.IsWide then
          0 < rasterWidth ∧ p.scale = p.mapWidth * unit / rasterWidth ∧
            rasterHeight * p.scale < 2 ^ 64 ∧
            p.rowPad = (1 + p.mapHeight - rasterHeight * p.scale / unit) / 2 ∧ p.colPad = 0
        else
          p.scale = p.mapHeight * unit / rasterHeight ∧ rasterWidth * p.scale < 2 ^ 64 ∧
            p.rowPad = 0 ∧ p.colPad = (1 + p.mapWidth - rasterWidth * p.scale / unit) / 2) ∧
        p.rowPad < 2 ^ 32 ∧ p.colPad < 2 ^ 32 := by
  have hmh : (match rotation with | .counterClockwise => sizeY | .clockwise => sizeX) =
      (axes sizeX sizeY rotation).2 := by
    cases rotation <;> rfl
  rw [hmh]
  by_cases hrows : rasterHeight = 0 ∨ (axes sizeX sizeY rotation).2 = 0
  · have herror := fit_eq_error hrw.le hx.le hy.le hrows
    rw [herror]
    refine ⟨⟨fun _ => hrows, fun _ => ⟨_, rfl⟩⟩, ?_, ?_⟩
    · intro fault h
      exact (Except.error.inj h).symm
    · intro p h
      cases h
  · obtain ⟨hrh, hmh⟩ := not_or.mp hrows
    have hrh := Nat.pos_of_ne_zero hrh
    have hmh := Nat.pos_of_ne_zero hmh
    obtain ⟨p, hfit, hj, hfilled, hcentred⟩ := exists_fit_of_rows rasterWidth rasterHeight
      sizeX sizeY rotation hrw.le hrh hx.le hy.le hmh
    have hle := axes_le sizeX sizeY rotation (Nat.le_sub_one_of_lt hx) (Nat.le_sub_one_of_lt hy)
    rw [← hj.axes_eq] at hmh hle
    have hmw' : p.mapWidth < 2 ^ 32 := by omega
    have hmh' : p.mapHeight < 2 ^ 32 := by omega
    obtain rfl := hj.rasterWidth_eq
    obtain rfl := hj.rasterHeight_eq
    have hlength := raster_mul_scale_lt hfilled hrh hmh hmw'.le hmh'.le
    rw [hfit]
    refine ⟨⟨?_, fun h => absurd h hrows⟩, ?_, ?_⟩
    · rintro ⟨fault, h⟩
      cases h
    · intro fault h
      cases h
    · rintro _ ⟨⟩
      refine ⟨hj, ⟨mul_unit_lt hrw.le, mul_unit_lt hmw'.le, mul_unit_lt hmh'.le⟩, ?_,
        rowPad_lt hfilled hcentred hmh', colPad_lt hfilled hcentred hmw'⟩
      split
      case isTrue hw =>
        rw [filledAxis_of_wide hw] at hfilled
        rw [centredAxis_of_wide hw] at hcentred hlength
        exact ⟨rasterWidth_pos_of_wide hw, hfilled.scale_eq, hlength, hcentred.pad_eq,
          hfilled.pad_eq⟩
      case isFalse hw =>
        rw [filledAxis_of_not_wide hw] at hfilled
        rw [centredAxis_of_not_wide hw] at hcentred hlength
        exact ⟨hfilled.scale_eq, hlength, hfilled.pad_eq, hcentred.pad_eq⟩

/-- A map of 0 by 9 tiles has rows for the raster counter-clockwise, but none clockwise. A raster
without columns has a projection, and one row of the largest raster is centred on the largest
map. -/
theorem empty_sides_projected :
    (∃ fault, fit 4 4 0 9 .clockwise = .error fault) ∧
      (¬ ∃ fault, fit 4 4 0 9 .counterClockwise = .error fault) ∧
      (¬ ∃ fault, fit 0 5 7 9 .counterClockwise = .error fault) ∧
      ∃ p, fit 4294967295 1 4294967295 4294967295 .counterClockwise = .ok p ∧ p.IsWide ∧
        1 * p.scale < 2 ^ 64 ∧ p.rowPad = 2147483647 ∧ p.rowPad < 2 ^ 32 := by
  obtain ⟨hturned, -⟩ := fit_fails_iff 4 4 0 9 .clockwise (by decide) (by decide) (by decide)
  obtain ⟨hupright, -⟩ := fit_fails_iff 4 4 0 9 .counterClockwise (by decide) (by decide)
    (by decide)
  obtain ⟨hnarrow, -⟩ := fit_fails_iff 0 5 7 9 .counterClockwise (by decide) (by decide)
    (by decide)
  have hfit : fit 4294967295 1 4294967295 4294967295 .counterClockwise =
      .ok ⟨.counterClockwise, 4294967295, 1, 4294967295, 4294967295, 16384, 2147483647, 0⟩ := by
    decide
  obtain ⟨-, -, hlargest⟩ := fit_fails_iff 4294967295 1 4294967295 4294967295 .counterClockwise
    (by decide) (by decide) (by decide)
  obtain ⟨-, -, hexact, hrow, -⟩ := hlargest _ hfit
  rw [if_pos (by decide)] at hexact
  obtain ⟨-, -, hlength, hpad, -⟩ := hexact
  exact ⟨hturned.mpr (by decide), hupright.not.mpr (by decide), hnarrow.not.mpr (by decide), _,
    hfit, by decide, hlength, hpad, hrow⟩

end MapPainter.Projection
