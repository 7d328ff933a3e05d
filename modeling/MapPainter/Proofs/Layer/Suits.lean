import MapPainter.Proofs.Layer.Plan

/-!
# What brushes plan

A plan only ever names a touch of its own layer that suits the tile under the brush
(`Layer.suits_of_plan`): numbers that come from a channel are in range, water goes where the slope
carries it, and trees go where trees can be planted.
-/

namespace MapPainter

open Raster (Rgb)

/-- A touch suits a tile if its numbers are in range and the tile is one that its brush looks
for. -/
def Touch.Suits (t : Tile) : Touch → Prop
  | ground grass _ _ => t.isLand = true ∧ ∀ density ∈ grass, density ≤ 2
  | field fieldType => fieldType ≤ 8
  | canal _ => t.slope.isFlat = true
  | river _ => t.slope.isFlat = true ∨ t.slope.isHalftile = true
  | sea => t.slope.isFlat = true ∧ t.height = 0
  | plant species count growth =>
    species.IsValid ∧ count ≤ 3 ∧ growth ≤ 6 ∧ t.canPlant true = true
  | snow density => density ≤ 3
  | desert density _ => density ≤ 3
  | rezone _ => True

namespace Layer

variable {settings : ImportSettings} {climate : Climate} {t : Tile} {pixel : Rgb} {d d' : Draws}
  {touch : Touch}

theorem thinning_le {channel : UInt8} {grass : Option Nat}
    (h : thinning channel d = .ok (grass, d')) : ∀ density ∈ grass, density ≤ 2 := by
  unfold thinning at h
  split at h
  · cases h
    simp
  · obtain ⟨⟨density, d₁⟩, hread, h⟩ := Outcome.bind_eq_ok.mp h
    have hlevel : 0 ≤ density ∧ density ≤ 3 := Gradient.read_mem hread
    cases h
    split
    · intro n hn
      cases hn
      omega
    · simp

theorem terrain.suits_of_plan
    (h : terrain.plan ⟨climate, .ok t⟩ pixel d = .ok (some touch, d')) :
    touch.layer = .terrain ∧ touch.Suits t := by
  unfold terrain.plan at h
  simp only [Outcome.ok_bind] at h
  split at h
  case isTrue => cases h
  case isFalse hland =>
    obtain ⟨⟨grass, d₁⟩, hgrass, h⟩ := Outcome.bind_eq_ok.mp h
    obtain ⟨⟨rough, d₂⟩, -, h⟩ := Outcome.bind_eq_ok.mp h
    obtain ⟨⟨rocks, d₃⟩, -, h⟩ := Outcome.bind_eq_ok.mp h
    cases h
    exact ⟨rfl, by simpa using hland, thinning_le hgrass⟩

theorem fieldType_le (channel : UInt8) : fieldType channel ≤ 8 := by
  unfold fieldType fieldTypes
  omega

theorem fields.suits_of_plan (h : fields.plan pixel d = .ok (some touch, d')) :
    touch.layer = .fields ∧ touch.Suits t := by
  unfold fields.plan at h
  split at h
  · cases h
  · obtain ⟨⟨level, d₁⟩, -, h⟩ := Outcome.bind_eq_ok.mp h
    dsimp only at h
    split at h
    · cases h
      exact ⟨rfl, fieldType_le pixel.r⟩
    · cases h

/-- What the slope of a tile has to be like for each class of water. -/
theorem wantedWater_suits {slope : Slope} {height : UInt8} {cls : WaterClass}
    (h : wantedWater pixel slope height = some cls) :
    match cls with
    | .canal => slope.isFlat = true
    | .river => slope.isFlat = true ∨ slope.isHalftile = true
    | .sea => slope.isFlat = true ∧ height = 0 := by
  unfold wantedWater at h
  grind

theorem water.suits_of_plan
    (h : water.plan ⟨climate, .ok t⟩ pixel d = .ok (some touch, d')) :
    touch.layer = .water ∧ touch.Suits t := by
  unfold water.plan at h
  simp only [Outcome.ok_bind] at h
  cases hwanted : wantedWater pixel t.slope t.height with
  | none =>
    rw [hwanted] at h
    cases h
  | some cls =>
    have hsuits := wantedWater_suits hwanted
    rw [hwanted] at h
    cases cls with
    | canal =>
      cases h
      exact ⟨rfl, hsuits⟩
    | river =>
      cases h
      exact ⟨rfl, hsuits⟩
    | sea =>
      cases h
      exact ⟨rfl, hsuits⟩

theorem growth_mem {channel : UInt8} {stage : Int} (h : growth channel d = .ok (stage, d')) :
    0 ≤ stage ∧ stage ≤ 6 := by
  unfold growth at h
  split at h
  · cases h
    decide
  · exact Gradient.read_mem h

/-- Trees are planned where all choices have been made and the tile takes them. -/
theorem trees.plan_eq_some {spot : Spot}
    (h : trees.plan settings spot pixel d = .ok (some touch, d')) :
    ∃ stage d₁ level d₂ chosen, growth pixel.r d = .ok (stage, d₁) ∧
      treeLevels.read pixel.g d₁ = .ok (level, d₂) ∧ ¬ level - 1 < 0 ∧
      species settings spot pixel.b d₂ = .ok (chosen, d') ∧ chosen.IsValid ∧
      (∃ t, spot.tile = .ok t ∧ t.canPlant true = true) ∧
      touch = .plant chosen (level - 1).toNat stage.toNat := by
  obtain ⟨⟨stage, d₁⟩, hgrowth, h⟩ := Outcome.bind_eq_ok.mp h
  obtain ⟨⟨level, d₂⟩, hlevel, h⟩ := Outcome.bind_eq_ok.mp h
  dsimp only at h
  split at h
  case isTrue => cases h
  case isFalse hcount =>
    obtain ⟨⟨chosen, d₃⟩, hspecies, h⟩ := Outcome.bind_eq_ok.mp h
    dsimp only at h
    split at h
    case isTrue => cases h
    case isFalse hvalid =>
      obtain ⟨t, ht, h⟩ := Outcome.bind_eq_ok.mp h
      cases hplant : t.canPlant true with
      | false => simp [hplant] at h
      | true =>
        rw [if_pos hplant] at h
        cases h
        exact ⟨stage, d₁, level, d₂, chosen, hgrowth, hlevel, hcount, hspecies,
          by simpa using hvalid, ⟨t, ht, hplant⟩, rfl⟩

theorem trees.suits_of_plan
    (h : trees.plan settings ⟨climate, .ok t⟩ pixel d = .ok (some touch, d')) :
    touch.layer = .trees ∧ touch.Suits t := by
  obtain ⟨stage, d₁, level, d₂, chosen, hgrowth, hlevel, -, -, hvalid, ⟨t, ⟨⟩, hplant⟩, rfl⟩ :=
    trees.plan_eq_some h
  have hstage := growth_mem hgrowth
  have hlevels : 0 ≤ level ∧ level ≤ 4 := Gradient.read_mem hlevel
  refine ⟨rfl, hvalid, ?_, ?_, hplant⟩
  · omega
  · omega

theorem snow.suits_of_plan (h : snow.plan pixel d = .ok (some touch, d')) :
    touch.layer = .snow ∧ touch.Suits t := by
  obtain ⟨⟨level, d₁⟩, hlevel, h⟩ := Outcome.bind_eq_ok.mp h
  have hlevels : 0 ≤ level ∧ level ≤ 4 := Gradient.read_mem hlevel
  dsimp only at h
  split at h
  · cases h
  · cases h
    refine ⟨rfl, ?_⟩
    unfold Touch.Suits
    omega

theorem desert.suits_of_plan (h : desert.plan pixel d = .ok (some touch, d')) :
    touch.layer = .desert ∧ touch.Suits t := by
  obtain ⟨⟨level, d₁⟩, hlevel, h⟩ := Outcome.bind_eq_ok.mp h
  have hlevels : 0 ≤ level ∧ level ≤ 2 := Gradient.read_mem hlevel
  dsimp only at h
  split at h
  · cases h
  · cases h
    refine ⟨rfl, ?_⟩
    unfold Touch.Suits
    omega

theorem tropics.suits_of_plan (h : tropics.plan pixel d = .ok (some touch, d')) :
    touch.layer = .tropics ∧ touch.Suits t := by
  unfold tropics.plan at h
  cases hzone : wantedZone pixel with
  | none =>
    rw [hzone] at h
    cases h
  | some zone =>
    rw [hzone] at h
    cases h
    exact ⟨rfl, trivial⟩

/-- A brush plans nothing but touches of its own layer that suit the tile. -/
theorem suits_of_plan {layer : Layer} {spot : Spot}
    (h : layer.plan settings spot pixel d = .ok (some touch, d')) (ht : spot.tile = .ok t) :
    touch.layer = layer ∧ touch.Suits t := by
  obtain ⟨climate, tile⟩ := spot
  cases ht
  cases layer with
  | terrain => exact terrain.suits_of_plan h
  | fields => exact fields.suits_of_plan h
  | water => exact water.suits_of_plan h
  | trees => exact trees.suits_of_plan h
  | snow => exact snow.suits_of_plan h
  | desert => exact desert.suits_of_plan h
  | tropics => exact tropics.suits_of_plan h

/-- What a brush that changes a tile has done to it. -/
theorem touch_of_brush {layer : Layer} {spot : Spot} {t' : Tile}
    (h : layer.brush settings spot pixel d = .ok (some t', d')) :
    ∃ t touch, spot.tile = .ok t ∧ layer.plan settings spot pixel d = .ok (some touch, d') ∧
      touch.layer = layer ∧ touch.Suits t ∧ t' = touch.apply t := by
  rw [brush_eq] at h
  obtain ⟨touch, hplan, htouch⟩ := Plan.stroke_eq_ok.mp h
  cases touch with
  | none => cases htouch
  | some touch =>
    obtain ⟨t, ht, hchange⟩ := htouch
    obtain ⟨hlayer, hsuits⟩ := suits_of_plan hplan ht
    exact ⟨t, touch, ht, hplan, hlayer, hsuits, Option.some.inj hchange⟩

end Layer

end MapPainter
