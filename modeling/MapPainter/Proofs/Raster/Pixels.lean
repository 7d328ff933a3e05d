import MapPainter.Raster.Pixels

/-!
# Rasters

A raster has a pixel at every position within its sides, and every valid size has its raster of
one colour.
-/

namespace MapPainter.Raster.Pixels

theorem exists_pixel {raster : Pixels} {row col : Nat} (hr : row < raster.height)
    (hc : col < raster.width) : ∃ pixel, raster.pixel row col = .ok pixel :=
  ⟨_, dif_pos ⟨hr, hc⟩⟩

theorem lt_of_pixel {raster : Pixels} {row col : Nat} {pixel : Rgb}
    (h : raster.pixel row col = .ok pixel) : row < raster.height ∧ col < raster.width := by
  unfold Pixels.pixel at h
  split at h
  case isTrue hlt => exact hlt
  case isFalse => cases h

/-- The raster of one colour, for a valid size. -/
def plain (width height : Nat) (colour : Rgb) (h : ValidSize width height) : Pixels :=
  tabulate width height (fun _ _ => colour) h

theorem filled_eq {width height : Nat} (colour : Rgb) (h : ValidSize width height) :
    filled width height colour = .ok (plain width height colour h) :=
  dif_pos h

end MapPainter.Raster.Pixels
