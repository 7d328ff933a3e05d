import MapPainter.Proofs.Projection.Footprint
import Mathlib.Order.Monotone.Basic

/-!
# The lines that are sampled

From one tile to the next the source moves on by the reciprocal of the scale, rounded down at every
tile. A scale of at least one unit moves it by no line or by one (`Axis.index_succ_le`), so it
passes through all lines up to the last one that it reaches (`Axis.exists_index_eq`); on a filled
axis that does not leave the raster this is the last line of the raster (`Axis.Filled.index_last`).
A scale of at most one unit moves it by one line or more (`Axis.index_strictMono`), so no line is
met twice. Both axes share the scale, so what holds of the steps along one holds along the other.
-/

namespace MapPainter.Projection

namespace Axis

variable {a : Axis} {line last : Nat}

theorem index_zero (a : Axis) : a.index 0 = 0 := by
  rw [index, Nat.zero_mul, Nat.zero_div]

/-! ## Enlarging -/

theorem Filled.unit_le_scale (h : a.Filled) (hr : 0 < a.raster) (hle : a.raster ≤ a.map) :
    unit ≤ a.scale := by
  rw [h.scale_eq, Nat.le_div_iff_mul_le hr, Nat.mul_comm]
  exact Nat.mul_le_mul_right unit hle

theorem index_le_index_succ (a : Axis) (offset : Nat) : a.index offset ≤ a.index (offset + 1) :=
  Nat.div_le_div_right (Nat.mul_le_mul_right unit (Nat.le_succ offset))

theorem index_succ_le (hs : unit ≤ a.scale) (offset : Nat) :
    a.index (offset + 1) ≤ a.index offset + 1 := by
  have hpos : 0 < a.scale := Nat.lt_of_lt_of_le unit_pos hs
  rw [index, index, ← Nat.add_div_right _ hpos, Nat.succ_mul]
  exact Nat.div_le_div_right (Nat.add_le_add_left hs _)

theorem index_succ_eq (hs : unit ≤ a.scale) (offset : Nat) :
    a.index (offset + 1) = a.index offset ∨ a.index (offset + 1) = a.index offset + 1 := by
  have hle := a.index_le_index_succ offset
  have hle' := index_succ_le hs offset
  omega

/-- A source that never skips a line meets all of them up to the last. -/
theorem exists_index_eq (hs : unit ≤ a.scale) (hl : line ≤ a.index last) :
    ∃ offset ≤ last, a.index offset = line := by
  induction last with
  | zero =>
    rw [a.index_zero, Nat.le_zero] at hl
    exact ⟨0, Nat.le_refl 0, by rw [a.index_zero, hl]⟩
  | succ last ih =>
    by_cases hbefore : line ≤ a.index last
    · obtain ⟨offset, hle, heq⟩ := ih hbefore
      exact ⟨offset, Nat.le_succ_of_le hle, heq⟩
    · -- The line is new, and the last step moves on by no more than one.
      have hstep := index_succ_le hs last
      exact ⟨last + 1, Nat.le_refl _, by omega⟩

/-- Enlarged without loss, the raster ends on the last tile of the side that it fills. -/
theorem Filled.index_last (h : a.Filled) (hr : 0 < a.raster) (hle : a.raster ≤ a.map)
    (hlost : a.lost < unit) : a.index (a.map - 1) = a.raster - 1 := by
  have hs := h.unit_le_scale hr hle
  have hpos : 0 < a.scale := Nat.lt_of_lt_of_le unit_pos hs
  have hmap : 0 < a.map := Nat.lt_of_lt_of_le hr hle
  have hbelow : a.index (a.map - 1) < a.raster := by
    rw [← Nat.not_le, h.raster_le_index_iff hpos (Nat.sub_le _ _), overshoots_last_iff hmap]
    exact Nat.not_le.mpr hlost
  have hreach : a.raster - 1 ≤ a.index (a.map - 1) := by
    rw [index, Nat.le_div_iff_mul_le hpos, Nat.sub_one_mul, Nat.sub_one_mul]
    have hsum := h.scale_mul_add_lost
    rw [Nat.mul_comm a.scale] at hsum
    omega
  omega

/-! ## Reducing -/

theorem Filled.scale_le_unit (h : a.Filled) (hle : a.map ≤ a.raster) : a.scale ≤ unit := by
  rw [h.scale_eq]
  exact Nat.div_le_of_le_mul (Nat.mul_le_mul_right unit hle)

theorem index_lt_index_succ (hpos : 0 < a.scale) (hs : a.scale ≤ unit) (offset : Nat) :
    a.index offset < a.index (offset + 1) := by
  rw [← Nat.succ_le_iff, index, index, Nat.succ_eq_add_one, ← Nat.add_div_right _ hpos,
    Nat.succ_mul]
  exact Nat.div_le_div_right (Nat.add_le_add_left hs _)

theorem index_strictMono (hpos : 0 < a.scale) (hs : a.scale ≤ unit) : StrictMono a.index :=
  strictMono_nat_of_lt_succ (index_lt_index_succ hpos hs)

end Axis

section

variable {p : Projection} {row col row' col' line : Nat} {source source' : Nat × Nat}

/-- Both axes go by the scale alone. -/
theorem sourceIndex_eq_index (hs : 0 < p.scale) {offset : Nat} (ho : offset < 2 ^ 32) :
    p.sourceIndex offset = .ok (p.filledAxis.index offset) := by
  rw [sourceIndex_eq hs ho]
  unfold filledAxis
  split <;> rfl

theorem filledAxis_scale (p : Projection) : p.filledAxis.scale = p.scale := by
  unfold filledAxis
  split <;> rfl

namespace Fitted

theorem filledAxis_raster_pos (h : p.Fitted) : 0 < p.filledAxis.raster := by
  unfold filledAxis
  split
  · exact h.rasterWidth_pos
  · exact h.rasterHeight_pos

theorem filledAxis_map_le (h : p.Fitted) : p.filledAxis.map ≤ 2 ^ 32 := by
  unfold filledAxis
  split
  · exact h.mapWidth_le
  · exact h.mapHeight_le

theorem unit_le_scale (h : p.Fitted) (hle : p.filledAxis.raster ≤ p.filledAxis.map) :
    unit ≤ p.scale :=
  p.filledAxis_scale ▸ h.filled.unit_le_scale h.filledAxis_raster_pos hle

/-- Enlarged without loss, every line along the filled axis is the source of some tile. -/
theorem exists_sourceIndex_eq (h : p.Fitted) (hle : p.filledAxis.raster ≤ p.filledAxis.map)
    (hlost : p.filledAxis.lost < unit) (hl : line < p.filledAxis.raster) :
    ∃ offset < p.filledAxis.map, p.sourceIndex offset = .ok line := by
  have hs := h.unit_le_scale hle
  have hlast := h.filled.index_last h.filledAxis_raster_pos hle hlost
  obtain ⟨offset, hle', heq⟩ := Axis.exists_index_eq (p.filledAxis_scale ▸ hs)
    (hlast ▸ Nat.le_sub_one_of_lt hl)
  have ho : offset < p.filledAxis.map := by omega
  refine ⟨offset, ho, ?_⟩
  rw [sourceIndex_eq_index (Nat.lt_of_lt_of_le unit_pos hs)
    (Nat.lt_of_lt_of_le ho h.filledAxis_map_le), heq]

/-- The source of a place, axis by axis. -/
theorem sourceIndex_of_covers (h : p.Fitted) (hc : p.Covers row col)
    (hs : p.sourcePixel row col = .ok source) :
    p.sourceIndex (p.rowDistance row) = .ok source.1 ∧
      p.sourceIndex (p.colDistance col) = .ok source.2 := by
  rw [h.eq_source hc hs]
  exact ⟨h.sourceRow_eq hc, h.sourceCol_eq hc⟩

/-- Enlarged without loss, every line along the filled axis is met on the way across the footprint
from any of its places. -/
theorem exists_sourcePixel_across (h : p.Fitted)
    (hle : p.filledAxis.raster ≤ p.filledAxis.map) (hlost : p.filledAxis.lost < unit)
    (hc : p.Covers row col) (hl : line < p.filledAxis.raster) :
    if p.IsWide then
      ∃ col' source, p.Covers row col' ∧ p.sourcePixel row col' = .ok source ∧ source.2 = line
    else
      ∃ row' source, p.Covers row' col ∧ p.sourcePixel row' col = .ok source ∧
        source.1 = line := by
  obtain ⟨offset, ho, hline⟩ := h.exists_sourceIndex_eq hle hlost hl
  have hacross := h.exists_covers_across hc ho
  split
  case isTrue hw =>
    rw [if_pos hw] at hacross
    obtain ⟨col', hc', rfl⟩ := hacross
    refine ⟨col', _, hc', (h.sourcePixel_eq_source hlost hc').1, ?_⟩
    exact Except.ok.inj ((h.sourceCol_eq hc').symm.trans hline)
  case isFalse hw =>
    rw [if_neg hw] at hacross
    obtain ⟨row', hc', rfl⟩ := hacross
    refine ⟨row', _, hc', (h.sourcePixel_eq_source hlost hc').1, ?_⟩
    exact Except.ok.inj ((h.sourceRow_eq hc').symm.trans hline)

theorem scale_le_unit (h : p.Fitted) (hle : p.filledAxis.map ≤ p.filledAxis.raster) :
    p.scale ≤ unit :=
  p.filledAxis_scale ▸ h.filled.scale_le_unit hle

end Fitted

theorem Covers.row_eq_of_rowDistance (hc : p.Covers row col) (hc' : p.Covers row' col')
    (heq : p.rowDistance row = p.rowDistance row') : row = row' := by
  obtain ⟨⟨hrow, -⟩, -⟩ := hc
  obtain ⟨⟨hrow', -⟩, -⟩ := hc'
  simp only [rows] at hrow hrow'
  simp only [rowDistance] at heq
  omega

theorem Covers.col_eq_of_colDistance (hc : p.Covers row col) (hc' : p.Covers row' col')
    (heq : p.colDistance col = p.colDistance col') : col = col' := by
  obtain ⟨-, hcol, hstop⟩ := hc
  obtain ⟨-, hcol', hstop'⟩ := hc'
  simp only [cols] at hcol hstop hcol' hstop'
  unfold colDistance at heq
  split at heq <;> omega

/-- Reduced, two rows of tiles never show the same row of pixels, nor do two columns. -/
theorem Fitted.source_injective (h : p.Fitted) (hle : p.filledAxis.map ≤ p.filledAxis.raster)
    (hc : p.Covers row col) (hc' : p.Covers row' col')
    (hs : p.sourcePixel row col = .ok source) (hs' : p.sourcePixel row' col' = .ok source') :
    (source.1 = source'.1 → row = row') ∧ (source.2 = source'.2 → col = col') := by
  have hpos := h.scale_pos hc
  have hunit := h.scale_le_unit hle
  rw [h.eq_source hc hs, h.eq_source hc' hs']
  constructor
  · intro heq
    have hmono : StrictMono p.rowAxis.index := Axis.index_strictMono hpos hunit
    exact hc.row_eq_of_rowDistance hc' (hmono.injective heq)
  · intro heq
    have hmono : StrictMono p.colAxis.index := Axis.index_strictMono hpos hunit
    exact hc.col_eq_of_colDistance hc' (hmono.injective heq)

end

/-- **Sampling.** Let `M` and `R` be the tiles and pixels along the filled axis, for any sides below
`2 ^ 32`. If the raster is enlarged, `R ≤ M`, and the scale loses less than a tile, which it does
for 16384 pixels or fewer, the source starts with the first line, ends with the last one on the
last tile of the filled axis, and stays or moves on by one line from tile to tile, along both axes.
So every line along the filled axis is sampled, and it is met across the footprint from every place.
If the raster is reduced, `M ≤ R`, and there is a scale, the source moves on by a line or more from
tile to tile, so different rows or columns of tiles show different rows or columns of pixels. -/
theorem fit_samples_lines (rasterWidth rasterHeight sizeX sizeY : Nat) (rotation : Rotation)
    (hrw : 0 < rasterWidth ∧ rasterWidth < 2 ^ 32) (hrh : 0 < rasterHeight ∧ rasterHeight < 2 ^ 32)
    (hx : 0 < sizeX ∧ sizeX < 2 ^ 32) (hy : 0 < sizeY ∧ sizeY < 2 ^ 32) :
    ∃ p, fit rasterWidth rasterHeight sizeX sizeY rotation = .ok p ∧
      p.Joins rasterWidth rasterHeight sizeX sizeY rotation ∧
      (∀ row col source, p.Covers row col → p.sourcePixel row col = .ok source →
        p.sourceIndex (p.rowDistance row) = .ok source.1 ∧
          p.sourceIndex (p.colDistance col) = .ok source.2) ∧
      (p.filledAxis.raster ≤ unit →
        p.filledAxis.map * unit % p.filledAxis.raster < unit) ∧
      (p.filledAxis.raster ≤ p.filledAxis.map →
        p.filledAxis.map * unit % p.filledAxis.raster < unit →
        p.sourceIndex 0 = .ok 0 ∧
        p.sourceIndex (p.filledAxis.map - 1) = .ok (p.filledAxis.raster - 1) ∧
        (∀ offset, offset + 1 < 2 ^ 32 → ∃ line, p.sourceIndex offset = .ok line ∧
          (p.sourceIndex (offset + 1) = .ok line ∨
            p.sourceIndex (offset + 1) = .ok (line + 1))) ∧
        (∀ line < p.filledAxis.raster, ∃ offset < p.filledAxis.map,
          p.sourceIndex offset = .ok line) ∧
        ∀ row col line, p.Covers row col → line < p.filledAxis.raster →
          if p.IsWide then
            ∃ col' source, p.Covers row col' ∧ p.sourcePixel row col' = .ok source ∧
              source.2 = line
          else
            ∃ row' source, p.Covers row' col ∧ p.sourcePixel row' col = .ok source ∧
              source.1 = line) ∧
      (p.filledAxis.map ≤ p.filledAxis.raster → 0 < p.scale →
        (∀ offset later, offset < later → later < 2 ^ 32 → ∃ line line',
          p.sourceIndex offset = .ok line ∧ p.sourceIndex later = .ok line' ∧ line < line') ∧
        ∀ row col row' col' source source', p.Covers row col → p.Covers row' col' →
          p.sourcePixel row col = .ok source → p.sourcePixel row' col' = .ok source' →
          (source.1 = source'.1 → row = row') ∧ (source.2 = source'.2 → col = col')) := by
  obtain ⟨p, hfit, hj, hp⟩ := exists_fit rasterWidth rasterHeight sizeX sizeY rotation
    ⟨hrw.1, hrw.2.le⟩ ⟨hrh.1, hrh.2.le⟩ ⟨hx.1, hx.2.le⟩ ⟨hy.1, hy.2.le⟩
  have hraster := hp.filledAxis_raster_pos
  refine ⟨p, hfit, hj, fun row col source => hp.sourceIndex_of_covers, Axis.lost_lt_unit hraster,
    ?_, ?_⟩
  · intro hle hlost
    have hs := hp.unit_le_scale hle
    have hpos : 0 < p.scale := Nat.lt_of_lt_of_le unit_pos hs
    have hmap := hp.filledAxis_map_le
    refine ⟨?_, ?_, ?_, ?_, ?_⟩
    · rw [sourceIndex_eq_index hpos (by decide), Axis.index_zero]
    · rw [sourceIndex_eq_index hpos (by omega), hp.filled.index_last hraster hle hlost]
    · intro offset ho
      rw [sourceIndex_eq_index hpos ho, sourceIndex_eq_index hpos (Nat.lt_of_succ_lt ho)]
      refine ⟨_, rfl, ?_⟩
      rcases Axis.index_succ_eq (p.filledAxis_scale ▸ hs) offset with hsame | hnext
      · exact Or.inl (congrArg _ hsame)
      · exact Or.inr (congrArg _ hnext)
    · exact fun line hl => hp.exists_sourceIndex_eq hle hlost hl
    · exact fun row col line hc hl => hp.exists_sourcePixel_across hle hlost hc hl
  · intro hle hpos
    constructor
    · intro offset later hlt hlater
      have hmono : StrictMono p.filledAxis.index := Axis.index_strictMono
        (p.filledAxis_scale ▸ hpos) (p.filledAxis_scale ▸ hp.scale_le_unit hle)
      exact ⟨_, _, sourceIndex_eq_index hpos (hlt.trans hlater), sourceIndex_eq_index hpos hlater,
        hmono hlt⟩
    · exact fun row col row' col' source source' hc hc' => hp.source_injective hle hc hc'

/-- Three columns on seven by six tiles end with their last one; 300 columns on 128 by 64 tiles are
all different where they meet the map. -/
theorem enlarged_and_reduced_lines :
    ∃ p q, fit 3 2 7 6 .counterClockwise = .ok p ∧ p.filledAxis.raster ≤ p.filledAxis.map ∧
      p.filledAxis.map * unit % p.filledAxis.raster < unit ∧ p.sourceIndex 6 = .ok 2 ∧
      (∃ col source, p.Covers 1 col ∧ p.sourcePixel 1 col = .ok source ∧ source.2 = 1) ∧
      fit 300 11 64 128 .clockwise = .ok q ∧ q.filledAxis.map ≤ q.filledAxis.raster ∧
      0 < q.scale ∧ ∃ line line', q.sourceIndex 4 = .ok line ∧ q.sourceIndex 5 = .ok line' ∧
        line < line' := by
  obtain ⟨p, hp, -, -, -, henlarged, -⟩ := fit_samples_lines 3 2 7 6 .counterClockwise (by decide)
    (by decide) (by decide) (by decide)
  obtain ⟨q, hq, -, -, -, -, hreduced⟩ := fit_samples_lines 300 11 64 128 .clockwise (by decide)
    (by decide) (by decide) (by decide)
  have hfit : fit 3 2 7 6 .counterClockwise =
      .ok ⟨.counterClockwise, 3, 2, 7, 6, 38229, 1, 0⟩ := by decide
  have hfit' : fit 300 11 64 128 .clockwise =
      .ok ⟨.clockwise, 300, 11, 128, 64, 6990, 30, 0⟩ := by decide
  obtain rfl := Except.ok.inj (hfit.symm.trans hp)
  obtain rfl := Except.ok.inj (hfit'.symm.trans hq)
  obtain ⟨-, hlast, -, -, hacross⟩ := henlarged (by decide) (by decide)
  have hmet := hacross 1 0 1 (by decide) (by decide)
  rw [if_pos (by decide)] at hmet
  obtain ⟨hsteps, -⟩ := hreduced (by decide) (by decide)
  exact ⟨_, _, hp, by decide, by decide, hlast, hmet, hq, by decide, by decide,
    hsteps 4 5 (by decide) (by decide)⟩

end MapPainter.Projection
