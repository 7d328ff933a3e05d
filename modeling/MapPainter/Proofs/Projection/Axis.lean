import MapPainter.Projection

/-!
# One axis of a projection

A projection treats its rows and its columns alike: along each axis there is an extent of the
raster, one of the map, a padding, and the scale that both axes share. This file looks at one
axis alone.

* An axis is `Filled` if the scale was chosen for it: there is no padding, and the scale is the
  quotient of the extents, rounded down. What the rounding drops can push the last pixels over the
  end of the raster: at `offset` the raster is left exactly if the tiles from there on make up no
  more than that remainder (`Filled.raster_le_index_iff`).
* An axis is `Centred` if its padding was computed from the scale. There the raster is never left
  (`Centred.index_lt`), and a scale of zero leaves no tile to paint (`Centred.scale_pos`).
-/

namespace MapPainter.Projection

/-- One axis of a projection. -/
structure Axis where
  raster : Nat
  map : Nat
  /-- Tiles per pixel, times `unit`. -/
  scale : Nat
  pad : Nat

theorem unit_pos : 0 < unit := by decide

namespace Axis

/-- The pixel at a distance from the padding. -/
def index (a : Axis) (offset : Nat) : Nat := offset * unit / a.scale

/-- How many tiles the scaled raster covers. -/
def covered (a : Axis) : Nat := a.raster * a.scale / unit

/-- What the scale of a filled axis loses by rounding down. -/
def lost (a : Axis) : Nat := a.map * unit % a.raster

/-- The tiles from `offset` on weigh no more than what the scale loses. -/
def Overshoots (a : Axis) (offset : Nat) : Prop := (a.map - offset) * unit ≤ a.lost

instance (a : Axis) (offset : Nat) : Decidable (a.Overshoots offset) :=
  inferInstanceAs (Decidable (_ ≤ _))

structure Filled (a : Axis) : Prop where
  pad_eq : a.pad = 0
  scale_eq : a.scale = a.map * unit / a.raster

structure Centred (a : Axis) : Prop where
  pad_eq : a.pad = (1 + a.map - a.covered) / 2

variable {a : Axis} {offset : Nat}

/-! ## The filled axis -/

theorem Filled.scale_mul_add_lost (h : a.Filled) : a.scale * a.raster + a.lost = a.map * unit := by
  rw [h.scale_eq, lost, Nat.mul_comm]
  exact Nat.div_add_mod _ _

/-- The scaled raster is no longer than the side it was scaled for. -/
theorem Filled.covered_le (h : a.Filled) : a.covered ≤ a.map := by
  have hsum := h.scale_mul_add_lost
  rw [covered, Nat.mul_comm a.raster]
  refine Nat.div_le_of_le_mul ?_
  rw [Nat.mul_comm unit]
  omega

/-- The raster is left where the tiles that follow weigh no more than the remainder. -/
theorem Filled.raster_le_index_iff (h : a.Filled) (hs : 0 < a.scale) (ho : offset ≤ a.map) :
    a.raster ≤ a.index offset ↔ a.Overshoots offset := by
  have hsum := h.scale_mul_add_lost
  have hsplit : (a.map - offset) * unit + offset * unit = a.map * unit := by
    rw [← Nat.add_mul, Nat.sub_add_cancel ho]
  rw [index, Nat.le_div_iff_mul_le hs, Nat.mul_comm a.raster, Overshoots]
  omega

/-- Whether the raster is left at all is decided at the last tile. -/
theorem overshoots_of_le {later : Nat} (hle : offset ≤ later) (h : a.Overshoots offset) :
    a.Overshoots later :=
  Nat.le_trans (Nat.mul_le_mul_right unit (Nat.sub_le_sub_left hle a.map)) h

theorem overshoots_last_iff (hm : 0 < a.map) : a.Overshoots (a.map - 1) ↔ unit ≤ a.lost := by
  rw [Overshoots, Nat.sub_sub_self hm, Nat.one_mul]

/-- A raster of no more pixels than there are subdivisions is never left. -/
theorem lost_lt_unit (hr : 0 < a.raster) (hu : a.raster ≤ unit) : a.lost < unit :=
  Nat.lt_of_lt_of_le (Nat.mod_lt _ hr) hu

/-! ## The centred axis -/

/-- An axis with room between its paddings has a scale. -/
theorem Centred.covered_pos (h : a.Centred) (hroom : 2 * a.pad < a.map) : 0 < a.covered := by
  have := h.pad_eq
  omega

theorem Centred.scale_pos (h : a.Centred) (hroom : 2 * a.pad < a.map) : 0 < a.scale := by
  refine Nat.pos_of_ne_zero fun h0 => ?_
  have hpos := h.covered_pos hroom
  rw [covered, h0, Nat.mul_zero, Nat.zero_div] at hpos
  exact absurd hpos (Nat.lt_irrefl 0)

/-- The tiles between the paddings are no more than the scaled raster covers. -/
theorem Centred.lt_covered (h : a.Centred) (ho : offset + 2 * a.pad < a.map) :
    offset < a.covered := by
  have := h.pad_eq
  omega

theorem Centred.index_lt (h : a.Centred) (ho : offset + 2 * a.pad < a.map) :
    a.index offset < a.raster := by
  have hlt := h.lt_covered ho
  have hs := h.scale_pos (by omega)
  rw [index, Nat.div_lt_iff_lt_mul hs]
  calc offset * unit < (offset + 1) * unit := Nat.mul_lt_mul_of_pos_right (by omega) unit_pos
    _ ≤ a.covered * unit := Nat.mul_le_mul_right unit hlt
    _ ≤ a.raster * a.scale := Nat.div_mul_le_self _ _

end Axis

end MapPainter.Projection
