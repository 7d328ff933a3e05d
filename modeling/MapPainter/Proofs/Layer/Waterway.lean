import MapPainter.Proofs.Layer.Plan

/-!
# Waterways

A pixel asks a tile for a canal, a river or the sea. In the order in which the brush tries them a
canal on a half tile falls back to a river, and a bright red pixel on any other slope to nothing.
Taken apart, the three are conditions on pixel and site that exclude each other
(`Layer.water.wantedWater_eq_some_iff`), and each says what becomes of the tile
(`Layer.water.floods_of_brush`).
-/

namespace MapPainter

open Raster (Rgb)

theorem Slope.isHalftile_of_isFlat {slope : Slope} (h : slope.isFlat = true) :
    slope.isHalftile = false := by
  obtain ⟨bits⟩ := slope
  obtain rfl : bits = 0 := by simpa [isFlat] using h
  rfl

namespace Layer.water

/-- The pixel asks the tile for water of a class. -/
def Asks (pixel : Rgb) (t : Tile) : WaterClass → Prop
  | .canal => Gradient.on ≤ pixel.r ∧ t.slope.isFlat = true
  | .river => Gradient.on ≤ pixel.g ∧
      (t.slope.isHalftile = true ∨ t.slope.isFlat = true ∧ pixel.r < Gradient.on)
  | .sea => pixel.r < Gradient.on ∧ pixel.g < Gradient.on ∧ Gradient.on ≤ pixel.b ∧
      t.slope.isFlat = true ∧ t.height = 0

/-- Canals and rivers get random bits, the sea does not. -/
def AsksForBits (pixel : Rgb) (t : Tile) : Prop :=
  t.slope.isFlat = true ∧ (Gradient.on ≤ pixel.r ∨ Gradient.on ≤ pixel.g) ∨
    t.slope.isHalftile = true ∧ Gradient.on ≤ pixel.g

instance (pixel : Rgb) (t : Tile) : Decidable (AsksForBits pixel t) :=
  inferInstanceAs (Decidable (_ ∨ _))

variable {pixel : Rgb} {t : Tile} {cls : WaterClass}

theorem wantedWater_eq_some_iff :
    wantedWater pixel t.slope t.height = some cls ↔ Asks pixel t cls := by
  have hflat := t.slope.isHalftile_of_isFlat
  unfold wantedWater Asks
  cases cls <;> grind

theorem asksForBits_iff : AsksForBits pixel t ↔ Asks pixel t .canal ∨ Asks pixel t .river := by
  unfold AsksForBits Asks
  grind

/-- What the water layer makes of a tile, if `bits` is the word that the brush draws. -/
structure Floods (pixel : Rgb) (bits : UInt32) (t t' : Tile) : Prop where
  built : t.surface = .built → t' = t
  canal : t.surface ≠ .built → Asks pixel t .canal →
    t' = { t with
      owner := if t.owner = .water then .nobody else t.owner
      surface := .water ⟨.canal, bits⟩ }
  river : t.surface ≠ .built → Asks pixel t .river →
    t' = { t with owner := .water, surface := .water ⟨.river, bits⟩ }
  sea : t.surface ≠ .built → Asks pixel t .sea →
    t' = { t with owner := .water, surface := .water ⟨.sea, 0⟩ }
  dry : (∀ cls, ¬ Asks pixel t cls) → t' = t

theorem floods_of_brush {climate : Climate} {d d' : Draws} {o : Option Tile}
    (h : water.brush ⟨climate, .ok t⟩ pixel d = .ok (o, d')) :
    Floods pixel d.peek t (o.getD t) := by
  unfold water.brush at h
  simp only [Outcome.ok_bind] at h
  constructor
  case built =>
    intro hbuilt
    split at h
    case h_1 | h_2 | h_3 =>
      cases h
      exact t.flood_of_built _ _ _ hbuilt
    case h_4 =>
      cases h
      rfl
  case canal | river | sea =>
    intro hland hasks
    rw [wantedWater_eq_some_iff.mpr hasks] at h
    cases h
    exact t.flood_of_ne_built _ _ _ hland
  case dry =>
    intro hdry
    have hnone : wantedWater pixel t.slope t.height = none :=
      Option.eq_none_iff_forall_ne_some.mpr fun cls hcls =>
        hdry cls (wantedWater_eq_some_iff.mp hcls)
    rw [hnone] at h
    cases h
    rfl

end Layer.water

end MapPainter
