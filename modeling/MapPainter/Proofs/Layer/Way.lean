import MapPainter.Proofs.Layer.Again
import MapPainter.Proofs.Layer.Planting

/-!
# Brushes in step

What a brush makes of a tile, it makes of many others as well. A way of a layer is what it does to
tiles of all kinds: it attempts one touch, or does nothing (`Layer.Way`). On two tiles that it
cannot tell apart when it makes up its mind, a brush goes the same way for the same words
(`Layer.InStep`): terrain only asks for land, snow and desert ask for nothing, and trees ask for
what decides on the species.
-/

namespace MapPainter.Layer

open Raster (Rgb)

/-- What the brush of a layer may do to tiles. -/
inductive Way (layer : Layer) : (Tile → Tile) → Prop
  | idle : Way layer id
  | attempt (touch : Touch) (h : touch.layer = layer) : Way layer touch.attempt

/-- The brush of a layer takes the same words on both tiles and goes the same way. -/
def InStep (layer : Layer) (settings : ImportSettings) (climate : Climate) (pixel : Rgb)
    (t t' : Tile) : Prop :=
  ∀ d o d', layer.brush settings ⟨climate, .ok t⟩ pixel d = .ok (o, d') →
    ∃ f o', layer.Way f ∧ layer.brush settings ⟨climate, .ok t'⟩ pixel d = .ok (o', d') ∧
      o.getD t = f t ∧ o'.getD t' = f t'

variable {layer : Layer} {f : Tile → Tile}

/-- On open land ways of planting and ways of laying ground lead to the same tile in both orders. -/
theorem Way.comm {g : Tile → Tile} (hf : Way .trees f) (hg : layer.Way g)
    (hlayer : layer = .terrain ∨ layer = .snow ∨ layer = .desert) {t : Tile} (h : t.Open) :
    g (f t) = f (g t) := by
  cases hf with
  | idle => rfl
  | attempt trees htrees =>
    cases hg with
    | idle => rfl
    | attempt lay hlay => exact Touch.attempt_comm htrees (hlay ▸ hlayer) h

section

variable {settings : ImportSettings} {climate : Climate} {pixel : Rgb} {t t' : Tile}

theorem inStep_of_plan_eq (hlayer : layer ≠ .trees)
    (h : ∀ d, layer.plan settings ⟨climate, .ok t'⟩ pixel d =
      layer.plan settings ⟨climate, .ok t⟩ pixel d) :
    layer.InStep settings climate pixel t t' := by
  intro d o d' hbrush
  rw [brush_eq] at hbrush
  obtain ⟨touch, hplan, hdone⟩ := Plan.stroke_eq_ok.mp hbrush
  have hplan' := (h d).trans hplan
  cases touch with
  | none =>
    refine ⟨id, none, .idle, ?_, by rw [hdone]; rfl, rfl⟩
    rw [brush_eq]
    exact Plan.stroke_eq_ok.mpr ⟨none, hplan', rfl⟩
  | some touch =>
    obtain ⟨_, ⟨⟩, rfl⟩ := hdone
    obtain ⟨rfl, -⟩ := suits_of_plan hplan rfl
    refine ⟨touch.attempt, some (touch.apply t'), .attempt touch rfl, ?_,
      (Touch.attempt_of_ne_trees hlayer).symm, (Touch.attempt_of_ne_trees hlayer).symm⟩
    rw [brush_eq]
    exact Plan.stroke_eq_ok.mpr ⟨some touch, hplan', t', rfl, rfl⟩

/-- What is going to be planted, wherever it can be. -/
def trees.choice (settings : ImportSettings) (spot : Spot) (pixel : Rgb) (d : Draws) : Plan := do
  let (growth, d) ← growth pixel.r d
  let (level, d) ← treeLevels.read pixel.g d
  let count := level - 1
  if count < 0 then return (none, d)
  let (species, d) ← species settings spot pixel.b d
  return (if species.IsValid then some (.plant species count.toNat growth.toNat) else none, d)

/-- The tile is looked at last, when all words have been drawn. -/
theorem trees.plan_eq (t : Tile) (d : Draws) :
    trees.plan settings ⟨climate, .ok t⟩ pixel d =
      (trees.choice settings ⟨climate, .ok t⟩ pixel d >>= fun (touch, d) =>
        .ok (touch.filter fun _ => t.canPlant true, d)) := by
  unfold trees.plan trees.choice
  cases growth pixel.r d with
  | error fault => rfl
  | ok growth =>
    simp only [Outcome.ok_bind]
    cases treeLevels.read pixel.g growth.2 with
    | error fault => rfl
    | ok read =>
      simp only [Outcome.ok_bind]
      split
      · rfl
      · cases species settings ⟨climate, .ok t⟩ pixel.b read.2 with
        | error fault => rfl
        | ok species =>
          by_cases hvalid : species.1.IsValid
          · simp [hvalid, Option.filter]
          · simp [hvalid]

theorem trees.choice_layer {spot : Spot} {d d' : Draws} {touch : Touch}
    (h : trees.choice settings spot pixel d = .ok (some touch, d')) : touch.layer = .trees := by
  obtain ⟨⟨stage, d₁⟩, -, h⟩ := Outcome.bind_eq_ok.mp h
  obtain ⟨⟨level, d₂⟩, -, h⟩ := Outcome.bind_eq_ok.mp h
  dsimp only at h
  split at h
  case isTrue => cases h
  case isFalse =>
    obtain ⟨⟨chosen, d₃⟩, -, h⟩ := Outcome.bind_eq_ok.mp h
    dsimp only at h
    split at h
    · cases h
      rfl
    · cases h

theorem trees.brush_eq_ok {o : Option Tile} {d d' : Draws} :
    trees.brush settings ⟨climate, .ok t⟩ pixel d = .ok (o, d') ↔
      ∃ touch, trees.choice settings ⟨climate, .ok t⟩ pixel d = .ok (touch, d') ∧
        o = (touch.filter fun _ => t.canPlant true).map (·.apply t) := by
  rw [trees.brush_eq, Plan.stroke_eq_ok, trees.plan_eq]
  constructor
  · rintro ⟨touch, hplan, hdone⟩
    obtain ⟨⟨choice, d₁⟩, hchoice, hplan⟩ := Outcome.bind_eq_ok.mp hplan
    cases hplan
    refine ⟨choice, hchoice, ?_⟩
    cases hfilter : choice.filter fun _ => t.canPlant true with
    | none =>
      rw [hfilter] at hdone
      exact hdone
    | some touch =>
      rw [hfilter] at hdone
      obtain ⟨_, ⟨⟩, rfl⟩ := hdone
      rfl
  · rintro ⟨choice, hchoice, rfl⟩
    refine ⟨choice.filter fun _ => t.canPlant true, by rw [hchoice]; rfl, ?_⟩
    cases choice.filter fun _ => t.canPlant true with
    | none => rfl
    | some touch => exact ⟨t, rfl, rfl⟩

theorem trees.attempt_eq {touch : Touch} (h : touch.layer = .trees) (t : Tile) :
    (((some touch).filter fun _ => t.canPlant true).map (·.apply t)).getD t = touch.attempt t := by
  cases touch with
  | plant species count growth =>
    simp only [Option.filter_some, Touch.attempt, Tile.grow]
    split <;> rfl
  | _ => cases h

/-- The trees layer is in step on tiles with the same choice of a species. -/
theorem trees.inStep
    (h : ∀ d, species settings ⟨climate, .ok t'⟩ pixel.b d =
      species settings ⟨climate, .ok t⟩ pixel.b d) :
    InStep .trees settings climate pixel t t' := by
  intro d o d' hbrush
  obtain ⟨touch, hchoice, rfl⟩ := trees.brush_eq_ok.mp hbrush
  have hchoice' : trees.choice settings ⟨climate, .ok t'⟩ pixel d = .ok (touch, d') := by
    unfold trees.choice at hchoice ⊢
    simp only [h]
    exact hchoice
  have hbrush' := trees.brush_eq_ok.mpr ⟨touch, hchoice', rfl⟩
  cases touch with
  | none => exact ⟨id, none, .idle, hbrush', rfl, rfl⟩
  | some touch =>
    have hlayer := trees.choice_layer hchoice
    exact ⟨touch.attempt, _, .attempt touch hlayer, hbrush', trees.attempt_eq hlayer t,
      trees.attempt_eq hlayer t'⟩

/-- Only on a tropic map, and only for a dark blue channel, does the species depend on the tile. -/
theorem species_congr_of_unread (h : climate ≠ .tropic ∨ Gradient.dim ≤ pixel.b) (d : Draws) :
    species settings ⟨climate, .ok t'⟩ pixel.b d = species settings ⟨climate, .ok t⟩ pixel.b d := by
  unfold species
  split
  case isTrue hdark =>
    rcases h with hclimate | hbright
    · cases climate with
      | tropic => exact absurd rfl hclimate
      | temperate | arctic | toyland => rfl
    · exact absurd hdark (UInt8.not_lt.mpr hbright)
  case isFalse => rfl

/-- Terrain, snow and desert are in step on tiles that are land or are not. -/
theorem ground_inStep (hlayer : layer = .terrain ∨ layer = .snow ∨ layer = .desert)
    (h : t'.isLand = t.isLand) : layer.InStep settings climate pixel t t' := by
  rcases hlayer with rfl | rfl | rfl
  · exact inStep_of_plan_eq (by decide) fun d => terrain.plan_congr h
  · exact inStep_of_plan_eq (by decide) fun d => rfl
  · exact inStep_of_plan_eq (by decide) fun d => rfl

end

end MapPainter.Layer
