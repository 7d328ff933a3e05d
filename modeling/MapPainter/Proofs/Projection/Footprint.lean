import MapPainter.Projection.Sweep
import MapPainter.Proofs.Projection.Fit

/-!
# The footprint of a projection

The footprint lists the places where both ranges meet, each once, in reading order
(`mem_footprint`, `footprint_inOrder`, `length_footprint`).

On the footprint of a fitted projection the source pixel is known (`Fitted.sourcePixel_of_covers`):
no subtraction goes below zero, the scale is not zero, the centred axis stays in the raster, and
the filled one leaves it exactly where it overshoots. Somewhere it does exactly if the scale has
lost a whole tile (`Fitted.exists_overshoot_iff`).
-/

namespace MapPainter.Projection

variable {p : Projection} {row col : Nat}

/-! ## Places -/

/-- The place lies in both ranges. -/
def Covers (p : Projection) (row col : Nat) : Prop :=
  (p.rows.1 ≤ row ∧ row < p.rows.2) ∧ p.cols.1 ≤ col ∧ col < p.cols.2

instance (p : Projection) (row col : Nat) : Decidable (p.Covers row col) :=
  inferInstanceAs (Decidable (_ ∧ _))

/-- Reading order: by rows, and by columns within a row. -/
def Precedes (a b : Nat × Nat) : Prop := a.1 < b.1 ∨ a.1 = b.1 ∧ a.2 < b.2

theorem Precedes.ne {a b : Nat × Nat} (h : Precedes a b) : a ≠ b := by
  rintro rfl
  unfold Precedes at h
  omega

theorem mem_span {range : Nat × Nat} {i : Nat} : i ∈ span range ↔ range.1 ≤ i ∧ i < range.2 := by
  rw [span, List.mem_range'_1]
  omega

theorem span_pairwise_lt (range : Nat × Nat) : (span range).Pairwise (· < ·) :=
  List.pairwise_lt_range'

theorem mem_footprint : (row, col) ∈ p.footprint ↔ p.Covers row col := by
  simp only [footprint, List.mem_flatMap, List.mem_map, mem_span, Prod.mk.injEq, Covers]
  constructor
  · rintro ⟨_, hrow, _, hcol, rfl, rfl⟩
    exact ⟨hrow, hcol⟩
  · rintro ⟨hrow, hcol⟩
    exact ⟨row, hrow, col, hcol, rfl, rfl⟩

theorem footprint_inOrder (p : Projection) : p.footprint.Pairwise Precedes := by
  unfold footprint
  rw [List.pairwise_flatMap]
  refine ⟨fun row _ => ?_, ?_⟩
  · rw [List.pairwise_map]
    exact (span_pairwise_lt _).imp fun hlt => Or.inr ⟨rfl, hlt⟩
  · refine (span_pairwise_lt _).imp fun hlt => ?_
    intro a ha b hb
    obtain ⟨_, _, rfl⟩ := List.mem_map.mp ha
    obtain ⟨_, _, rfl⟩ := List.mem_map.mp hb
    exact Or.inl hlt

theorem length_footprint (p : Projection) :
    p.footprint.length = (p.rows.2 - p.rows.1) * (p.cols.2 - p.cols.1) := by
  simp [footprint, span, List.length_flatMap, List.map_const']

/-- There are places exactly if neither range is empty. -/
theorem exists_covers_iff :
    (∃ row col, p.Covers row col) ↔ p.rows.1 < p.rows.2 ∧ p.cols.1 < p.cols.2 := by
  constructor
  · rintro ⟨row, col, hrow, hcol⟩
    omega
  · rintro ⟨hrow, hcol⟩
    exact ⟨p.rows.1, p.cols.1, ⟨Nat.le_refl _, hrow⟩, Nat.le_refl _, hcol⟩

/-- A place of the footprint has a position on the map. -/
theorem Covers.tilePosition_lt {rasterWidth rasterHeight sizeX sizeY : Nat} {rotation : Rotation}
    (h : p.Covers row col) (hj : p.Joins rasterWidth rasterHeight sizeX sizeY rotation) :
    (p.tilePosition row col).1 < sizeX ∧ (p.tilePosition row col).2 < sizeY := by
  obtain ⟨⟨-, hrow⟩, -, hcol⟩ := h
  have haxes := hj.axes_eq
  simp only [rows, cols] at hrow hcol
  unfold tilePosition
  rw [hj.rotation_eq]
  cases rotation
  all_goals
    obtain ⟨hw, hh⟩ := Prod.mk.inj haxes
    constructor <;> dsimp only <;> omega

/-! ## Distances from the padding -/

def rowDistance (p : Projection) (row : Nat) : Nat := row - p.rowPad

/-- Counter-clockwise the columns count from the far side. -/
def colDistance (p : Projection) (col : Nat) : Nat :=
  match p.rotation with
  | .counterClockwise => p.mapWidth - 1 - col - p.colPad
  | .clockwise => col - p.colPad

/-- The distance along the filled axis. -/
def filledDistance (p : Projection) (row col : Nat) : Nat :=
  if p.IsWide then p.colDistance col else p.rowDistance row

theorem filledDistance_of_wide (h : p.IsWide) : p.filledDistance row col = p.colDistance col :=
  if_pos h

theorem filledDistance_of_not_wide (h : ¬ p.IsWide) :
    p.filledDistance row col = p.rowDistance row := if_neg h

theorem Covers.rowDistance_lt (h : p.Covers row col) :
    p.rowDistance row + 2 * p.rowAxis.pad < p.rowAxis.map := by
  obtain ⟨⟨hle, hlt⟩, _⟩ := h
  simp only [rows, rowDistance, rowAxis] at *
  omega

theorem Covers.colDistance_lt (h : p.Covers row col) :
    p.colDistance col + 2 * p.colAxis.pad < p.colAxis.map := by
  obtain ⟨_, hle, hlt⟩ := h
  simp only [cols, colAxis] at *
  unfold colDistance
  split <;> omega

theorem Covers.filledDistance_lt (h : p.Covers row col) :
    p.filledDistance row col < p.filledAxis.map := by
  by_cases hw : p.IsWide
  · rw [filledDistance_of_wide hw, filledAxis_of_wide hw]
    have := h.colDistance_lt
    omega
  · rw [filledDistance_of_not_wide hw, filledAxis_of_not_wide hw]
    have := h.rowDistance_lt
    omega

theorem Covers.rowOffset_eq (h : p.Covers row col) :
    Word.sub row p.rowPad = .ok (p.rowDistance row) := Word.sub_of_le h.1.1

theorem Covers.colOffset_eq (h : p.Covers row col) :
    p.colOffset col = .ok (p.colDistance col) := by
  obtain ⟨_, hle, hlt⟩ := h
  simp only [cols] at hle hlt
  unfold colOffset colDistance
  cases p.rotation with
  | counterClockwise =>
    dsimp only
    rw [Word.sub_of_le (by omega), Outcome.ok_bind, Word.sub_of_le (by omega), Outcome.ok_bind,
      Word.sub_of_le (by omega)]
  | clockwise => exact Word.sub_of_le hle

/-! ## Source pixels -/

theorem sourceIndex_eq {offset : Nat} (hs : 0 < p.scale) (ho : offset < 2 ^ 32) :
    p.sourceIndex offset = .ok (offset * unit / p.scale) := by
  rw [sourceIndex, Word.fit_of_lt (mul_unit_lt (Nat.le_of_lt ho)), Outcome.ok_bind,
    Word.div_of_pos hs]

/-- The row and column of the raster, before they are compared with its sides. -/
def source (p : Projection) (row col : Nat) : Nat × Nat :=
  (p.rowAxis.index (p.rowDistance row), p.colAxis.index (p.colDistance col))

/-- The fault of leaving the raster along the filled axis. -/
def outside (p : Projection) (row col : Nat) : Fault :=
  if p.IsWide then .columnOutside (p.source row col).2 p.rasterWidth
  else .rowOutside (p.source row col).1 p.rasterHeight

namespace Fitted

theorem scale_pos (h : p.Fitted) (hc : p.Covers row col) : 0 < p.scale := by
  by_cases hw : p.IsWide
  · have := hc.rowDistance_lt
    exact (h.centred_of_wide hw).scale_pos (by omega)
  · have := hc.colDistance_lt
    exact (h.centred_of_not_wide hw).scale_pos (by omega)

theorem sourceRow_eq (h : p.Fitted) (hc : p.Covers row col) :
    p.sourceIndex (p.rowDistance row) = .ok (p.source row col).1 := by
  refine sourceIndex_eq (h.scale_pos hc) ?_
  have := hc.rowDistance_lt
  have := h.mapHeight_le
  simp only [rowAxis] at *
  omega

theorem sourceCol_eq (h : p.Fitted) (hc : p.Covers row col) :
    p.sourceIndex (p.colDistance col) = .ok (p.source row col).2 := by
  refine sourceIndex_eq (h.scale_pos hc) ?_
  have := hc.colDistance_lt
  have := h.mapWidth_le
  simp only [colAxis] at *
  omega

/-- The sides of the raster are all that a source pixel is checked against. -/
theorem sourcePixel_eq (h : p.Fitted) (hc : p.Covers row col) :
    p.sourcePixel row col =
      if p.rasterHeight ≤ (p.source row col).1 then
        .error (.rowOutside (p.source row col).1 p.rasterHeight)
      else if p.rasterWidth ≤ (p.source row col).2 then
        .error (.columnOutside (p.source row col).2 p.rasterWidth)
      else .ok (p.source row col) := by
  rw [sourcePixel, hc.rowOffset_eq, Outcome.ok_bind, h.sourceRow_eq hc, Outcome.ok_bind,
    hc.colOffset_eq, Outcome.ok_bind, h.sourceCol_eq hc, Outcome.ok_bind]
  change (if p.rasterHeight ≤ (p.source row col).1 then _ else _) = _
  split
  · rfl
  · change (if p.rasterWidth ≤ (p.source row col).2 then _ else _) = _
    split <;> rfl

/-- Along the centred axis the raster is never left; along the filled one it is left where the
axis overshoots. -/
theorem source_bounds (h : p.Fitted) (hc : p.Covers row col) :
    if p.IsWide then
      (p.source row col).1 < p.rasterHeight ∧
        (p.rasterWidth ≤ (p.source row col).2 ↔
          p.filledAxis.Overshoots (p.filledDistance row col))
    else
      (p.source row col).2 < p.rasterWidth ∧
        (p.rasterHeight ≤ (p.source row col).1 ↔
          p.filledAxis.Overshoots (p.filledDistance row col)) := by
  have hs := h.scale_pos hc
  have hrow := hc.rowDistance_lt
  have hcol := hc.colDistance_lt
  split
  case isTrue hw =>
    rw [filledAxis_of_wide hw, filledDistance_of_wide hw]
    exact ⟨(h.centred_of_wide hw).index_lt hrow,
      (h.filled_of_wide hw).raster_le_index_iff hs (by omega)⟩
  case isFalse hw =>
    rw [filledAxis_of_not_wide hw, filledDistance_of_not_wide hw]
    exact ⟨(h.centred_of_not_wide hw).index_lt hcol,
      (h.filled_of_not_wide hw).raster_le_index_iff hs (by omega)⟩

/-- The source pixel on the footprint: a fault of the filled axis where it overshoots, and a pixel
of the raster elsewhere. -/
theorem sourcePixel_of_covers (h : p.Fitted) (hc : p.Covers row col) :
    p.sourcePixel row col =
      if p.filledAxis.Overshoots (p.filledDistance row col) then .error (p.outside row col)
      else .ok (p.source row col) := by
  have hbounds := h.source_bounds hc
  rw [h.sourcePixel_eq hc, outside]
  by_cases hw : p.IsWide
  · rw [if_pos hw] at hbounds
    rw [if_pos hw, if_neg (Nat.not_le.mpr hbounds.1)]
    simp only [hbounds.2]
  · rw [if_neg hw] at hbounds
    rw [if_neg hw, if_neg (Nat.not_le.mpr hbounds.1)]
    simp only [hbounds.2]

theorem eq_source (h : p.Fitted) (hc : p.Covers row col) {source : Nat × Nat}
    (hs : p.sourcePixel row col = .ok source) : source = p.source row col := by
  rw [h.sourcePixel_of_covers hc] at hs
  split at hs
  · cases hs
  · exact (Except.ok.inj hs).symm

theorem source_lt (h : p.Fitted) (hc : p.Covers row col)
    (ho : ¬ p.filledAxis.Overshoots (p.filledDistance row col)) :
    (p.source row col).1 < p.rasterHeight ∧ (p.source row col).2 < p.rasterWidth := by
  have hbounds := h.source_bounds hc
  by_cases hw : p.IsWide
  · rw [if_pos hw] at hbounds
    exact ⟨hbounds.1, Nat.not_le.mp (mt hbounds.2.mp ho)⟩
  · rw [if_neg hw] at hbounds
    exact ⟨Nat.not_le.mp (mt hbounds.2.mp ho), hbounds.1⟩

/-- Across every place, the footprint has a place at every distance along the filled axis. -/
theorem exists_covers_across (h : p.Fitted) (hc : p.Covers row col) {offset : Nat}
    (ho : offset < p.filledAxis.map) :
    if p.IsWide then ∃ col', p.Covers row col' ∧ p.colDistance col' = offset
    else ∃ row', p.Covers row' col ∧ p.rowDistance row' = offset := by
  obtain ⟨hrow, hcol⟩ := hc
  split
  case isTrue hw =>
    have hpad : p.colPad = 0 := (h.filled_of_wide hw).pad_eq
    rw [filledAxis_of_wide hw] at ho
    dsimp only [colAxis] at ho
    cases hrot : p.rotation with
    | counterClockwise =>
      refine ⟨p.mapWidth - 1 - offset, ⟨hrow, ?_⟩, ?_⟩
      · simp only [cols]
        omega
      · simp only [colDistance, hrot]
        omega
    | clockwise =>
      refine ⟨offset, ⟨hrow, ?_⟩, ?_⟩
      · simp only [cols]
        omega
      · simp only [colDistance, hrot]
        omega
  case isFalse hw =>
    have hpad : p.rowPad = 0 := (h.filled_of_not_wide hw).pad_eq
    rw [filledAxis_of_not_wide hw] at ho
    dsimp only [rowAxis] at ho
    refine ⟨offset, ⟨?_, hcol⟩, ?_⟩
    · simp only [rows]
      omega
    · simp only [rowDistance]
      omega

/-- A footprint that is not empty reaches the last tile of the filled axis. -/
theorem exists_last (h : p.Fitted) (hc : p.Covers row col) :
    ∃ row col, p.Covers row col ∧ p.filledDistance row col = p.filledAxis.map - 1 := by
  have hacross := h.exists_covers_across hc (Nat.sub_one_lt_of_lt hc.filledDistance_lt)
  unfold filledDistance
  by_cases hw : p.IsWide
  · rw [if_pos hw] at hacross
    obtain ⟨col', hc', hlast⟩ := hacross
    exact ⟨row, col', hc', by rw [if_pos hw, hlast]⟩
  · rw [if_neg hw] at hacross
    obtain ⟨row', hc', hlast⟩ := hacross
    exact ⟨row', col, hc', by rw [if_neg hw, hlast]⟩

/-- Some place overshoots exactly if there are places and the scale has lost a whole tile. -/
theorem exists_overshoot_iff (h : p.Fitted) :
    (∃ row col, p.Covers row col ∧ p.filledAxis.Overshoots (p.filledDistance row col)) ↔
      (∃ row col, p.Covers row col) ∧ unit ≤ p.filledAxis.lost := by
  constructor
  · rintro ⟨row, col, hc, ho⟩
    have hlt := hc.filledDistance_lt
    have hlast := Axis.overshoots_of_le (Nat.le_sub_one_of_lt hlt) ho
    exact ⟨⟨row, col, hc⟩, (Axis.overshoots_last_iff (by omega)).mp hlast⟩
  · rintro ⟨⟨row, col, hc⟩, hlost⟩
    have hlt := hc.filledDistance_lt
    obtain ⟨row, col, hc, hlast⟩ := h.exists_last hc
    refine ⟨row, col, hc, ?_⟩
    rw [hlast]
    exact (Axis.overshoots_last_iff (by omega)).mpr hlost

/-- If the scale loses less than a tile, every place has its source pixel. -/
theorem sourcePixel_eq_source (h : p.Fitted) (hlost : p.filledAxis.lost < unit)
    (hc : p.Covers row col) :
    p.sourcePixel row col = .ok (p.source row col) ∧
      (p.source row col).1 < p.rasterHeight ∧ (p.source row col).2 < p.rasterWidth := by
  have ho : ¬ p.filledAxis.Overshoots (p.filledDistance row col) := fun ho =>
    Nat.not_le.mpr hlost (h.exists_overshoot_iff.mp ⟨row, col, hc, ho⟩).2
  exact ⟨by rw [h.sourcePixel_of_covers hc, if_neg ho], h.source_lt hc ho⟩

end Fitted

end MapPainter.Projection
