import MapPainter.Proofs.Draws
import MapPainter.Proofs.Layer.Waterway
import MapPainter.Proofs.Layer.Way

/-!
# The words that brushes take

A brush looks at a channel for one word, and leaves a dark channel alone. So the pixel says how many
words it takes (`Layer.words`), with two exceptions: terrain and water ask the tile, terrain whether
it is land and water for its slope, and trees go by a word that they have drawn, for a species is
drawn only where there are trees. What is counted is what is taken (`Layer.draws_of_brush`).
-/

namespace MapPainter

open Raster (Rgb)

theorem Gradient.read_takes (g : Gradient) (value : UInt8) : Takes (g.read value) 1 :=
  fun _ _ _ h => (read_eq_ok.mp h).2

namespace Layer

/-- A channel that is not dark is looked at, for one word. -/
def glance (channel : UInt8) : Nat := if channel < Gradient.dim then 0 else 1

/-- How many words the brush of a layer takes. -/
def words (layer : Layer) (spot : Spot) (pixel : Rgb) (d : Draws) : Nat :=
  match layer with
  | terrain =>
    if spot.tile.toOption.any Tile.isLand then glance pixel.r + glance pixel.g + glance pixel.b
    else 0
  | fields => if Gradient.off ≤ pixel.r then 1 else 0
  | water => if spot.tile.toOption.any (water.AsksForBits pixel) then 1 else 0
  | trees =>
    1 + glance pixel.r +
      if pixel.b < Gradient.dim ∧ treeLevels.raises pixel.g (d.advance (glance pixel.r)).peek then 1
      else 0
  | snow | desert => 1
  | tropics => 0

variable {settings : ImportSettings} {climate : Climate} {t : Tile} {pixel : Rgb} {d d' : Draws}
  {channel : UInt8}

theorem thinning_takes : Takes (thinning channel) (glance channel) :=
  .ite (.pure none) ((grassLevels.read_takes channel).bind_zero fun _ => .pure _)

theorem isPresent_takes : Takes (isPresent channel) (glance channel) :=
  .ite (.pure false) ((presence.read_takes channel).bind_zero fun _ => .pure _)

theorem terrain.plan_takes (d : Draws) :
    Takes (terrain.plan ⟨climate, .ok t⟩ pixel) (words .terrain ⟨climate, .ok t⟩ pixel d) := by
  have hwords : words .terrain ⟨climate, .ok t⟩ pixel d =
      if !t.isLand then 0 else glance pixel.r + (glance pixel.g + glance pixel.b) := by
    rw [← Nat.add_assoc]
    cases hland : t.isLand <;> simp [words, Except.toOption, hland]
  rw [hwords]
  exact .ite (.pure none) <| thinning_takes.bind fun grass => isPresent_takes.bind fun rough =>
    isPresent_takes.bind_zero fun rocks => .pure _

theorem fields.plan_takes :
    Takes (fields.plan pixel) (if Gradient.off ≤ pixel.r then 1 else 0) := by
  have htakes : Takes (fields.plan pixel) (if pixel.r < Gradient.off then 0 else 1) :=
    .ite (.pure none) ((presence.read_takes pixel.g).bind_zero fun _ => .pure _)
  simpa only [← UInt8.not_lt, ite_not] using htakes

theorem water.plan_takes (d : Draws) :
    Takes (water.plan ⟨climate, .ok t⟩ pixel) (words .water ⟨climate, .ok t⟩ pixel d) := by
  unfold water.plan words
  simp only [Outcome.ok_bind, Except.toOption, Option.any_some, decide_eq_true_eq,
    asksForBits_iff, ← wantedWater_eq_some_iff]
  cases wantedWater pixel t.slope t.height with
  | none => exact .pure none
  | some cls =>
    cases cls with
    | sea => exact .pure (some Touch.sea)
    | canal | river =>
      rintro d _ _ ⟨⟩
      rfl

theorem snow.plan_takes : Takes (snow.plan pixel) 1 :=
  (snowDepth.read_takes pixel.b).bind_zero fun _ => .pure _

theorem desert.plan_takes : Takes (desert.plan pixel) 1 :=
  (desertDepth.read_takes pixel.r).bind_zero fun _ => .pure _

theorem growth_takes : Takes (growth channel) (glance channel) :=
  .ite (.pure _) (growthLevels.read_takes channel)

theorem species_takes {spot : Spot} :
    Takes (species settings spot channel) (if channel < Gradient.dim then 1 else 0) := by
  refine .ite ?_ (.pure _)
  intro d chosen d' h
  obtain ⟨native, -, h⟩ := Outcome.bind_eq_ok.mp h
  cases h
  rfl

theorem trees.draws_of_choice {touch : Option Touch}
    (h : trees.choice settings ⟨climate, .ok t⟩ pixel d = .ok (touch, d')) :
    d' = d.advance (words .trees ⟨climate, .ok t⟩ pixel d) := by
  obtain ⟨⟨stage, d₁⟩, hgrowth, h⟩ := Outcome.bind_eq_ok.mp h
  obtain ⟨⟨level, d₂⟩, hlevel, h⟩ := Outcome.bind_eq_ok.mp h
  obtain rfl : d₁ = _ := growth_takes d stage d₁ hgrowth
  have hraises := Gradient.raises_iff_of_read hlevel
  obtain rfl : d₂ = _ := treeLevels.read_takes pixel.g _ level d₂ hlevel
  dsimp only at h
  rw [words, Nat.add_comm 1, ← Draws.advance_advance, ← Draws.advance_advance]
  -- a species is drawn only where there are trees
  split at h
  case isTrue hnone =>
    cases h
    have hbare : ¬ 0 < level := by omega
    simp only [hraises, hbare, and_false, if_false]
    rfl
  case isFalse hsome =>
    obtain ⟨⟨chosen, d₃⟩, hspecies, h⟩ := Outcome.bind_eq_ok.mp h
    obtain rfl : d₃ = d' := by
      cases h
      rfl
    rw [species_takes _ chosen d₃ hspecies]
    have hlevel : 0 < level := by omega
    simp only [hraises, hlevel, and_true]

/-- A brush that succeeds has taken the words that are counted. -/
theorem draws_of_brush {layer : Layer} {o : Option Tile}
    (h : layer.brush settings ⟨climate, .ok t⟩ pixel d = .ok (o, d')) :
    d' = d.advance (layer.words ⟨climate, .ok t⟩ pixel d) := by
  by_cases htrees : layer = .trees
  · subst htrees
    obtain ⟨touch, hchoice, -⟩ := trees.brush_eq_ok.mp h
    exact trees.draws_of_choice hchoice
  rw [brush_eq] at h
  obtain ⟨touch, hplan, -⟩ := Plan.stroke_tile_eq_ok.mp h
  cases layer with
  | trees => exact absurd rfl htrees
  | terrain => exact terrain.plan_takes d d touch d' hplan
  | fields => exact fields.plan_takes d touch d' hplan
  | water => exact water.plan_takes d d touch d' hplan
  | snow => exact snow.plan_takes d touch d' hplan
  | desert => exact desert.plan_takes d touch d' hplan
  | tropics => exact Takes.pure _ d touch d' hplan

end Layer

end MapPainter
