import MapPainter.Proofs.Layer.Touch

/-!
# Trees and the ground below them

The ground under trees is found in two ways: planting works it out from the land that it covers, and
whatever changes the ground of a tile with trees sets it there. The two agree on open land, that is
clear land fit for trees and without a trace of a field: terrain, snow and desert may come before
the trees or after them (`Touch.attempt_comm`). Rocks keep the trees off in both orders.
-/

namespace MapPainter

/-- Clear land with a raw ground that trees are planted on, and without a trace of a field. -/
structure ClearLand.Open (land : ClearLand) : Prop where
  ground : land.ground = .grass ∨ land.ground = .rough ∨ land.ground = .desert
  fieldType : land.fieldType = 0

namespace Tile

/-- If the tile is clear land, it is open. -/
def Open (t : Tile) : Prop := ∀ land, t.surface = .clear land → land.Open

/-- Plants trees where they can be planted. -/
def grow (t : Tile) (species : Species) (count growth : Nat) : Tile :=
  if t.canPlant true then t.plant species count growth else t

variable {t : Tile} (species : Species) (count growth : Nat)

/-- Grass and rough ground leave open land open. -/
theorem Open.replaceGround (h : t.Open) {ground : ClearGround}
    (hg : ground = .grass ∨ ground = .rough) (density : Nat) :
    (t.replaceGround ground density).Open := by
  obtain ⟨height, slope, owner, zone, surface⟩ := t
  intro land hland
  cases surface with
  | clear before =>
    have hfield := (h before rfl).fieldType
    rcases hg with rfl | rfl
    · obtain rfl := Surface.clear.inj hland
      exact ⟨Or.inl rfl, hfield⟩
    · obtain rfl := Surface.clear.inj hland
      exact ⟨Or.inr (Or.inl rfl), hfield⟩
  | trees grove => rcases hg with rfl | rfl <;> cases hland
  | water water => cases hland
  | built => cases hland

/-- On open land a new ground and trees make the same tile in both orders. Rough ground under trees
counts as full, so it has to be laid at full density. -/
theorem replaceGround_grow (h : t.Open) {ground : ClearGround} {density : Nat}
    (hsnow : ground ≠ .snow) (hrough : ground = .rough → density = 3) :
    (t.grow species count growth).replaceGround ground density =
      (t.replaceGround ground density).grow species count growth := by
  obtain ⟨height, slope, owner, zone, surface⟩ := t
  cases surface with
  | clear land =>
    obtain ⟨before, density₀, snow, fieldType⟩ := land
    obtain ⟨hbefore, hfield⟩ := h _ rfl
    cases hfield
    cases ground with
    | snow => exact absurd rfl hsnow
    | rough =>
      cases hrough rfl
      rcases hbefore with rfl | rfl | rfl <;> cases snow <;> rfl
    | grass | rocks | fields | desert =>
      rcases hbefore with rfl | rfl | rfl <;> cases snow <;> rfl
  | trees grove => cases ground <;> rfl
  | water water => rfl
  | built => rfl

theorem snowOver_grow (h : t.Open) (density : Nat) :
    Layer.snowOver density (t.grow species count growth) =
      (Layer.snowOver density t).grow species count growth := by
  obtain ⟨height, slope, owner, zone, surface⟩ := t
  cases surface with
  | clear land =>
    obtain ⟨ground, density₀, snow, fieldType⟩ := land
    obtain ⟨hground, -⟩ := h _ rfl
    rcases hground with rfl | rfl | rfl <;> cases snow <;> rfl
  | trees grove =>
    obtain ⟨species₀, count₀, growth₀, ground, density₀⟩ := grove
    cases ground <;> rfl
  | water water => rfl
  | built => rfl

theorem setZone_grow (zone : Zone) :
    (t.grow species count growth).setZone zone = (t.setZone zone).grow species count growth := by
  have hplant : (t.setZone zone).canPlant true = t.canPlant true := rfl
  unfold grow
  rw [hplant]
  split
  · obtain ⟨height, slope, owner, zone₀, surface⟩ := t
    cases surface <;> rfl
  · rfl

end Tile

namespace Touch

/-- The touch on a tile that may not take it: trees are planted only where they can be. -/
def attempt (touch : Touch) (t : Tile) : Tile :=
  match touch with
  | plant species count growth => t.grow species count growth
  | _ => touch.apply t

variable {touch : Touch} {t : Tile}

theorem attempt_of_ne_trees (h : touch.layer ≠ .trees) : touch.attempt t = touch.apply t := by
  cases touch with
  | plant species count growth => exact absurd rfl h
  | _ => rfl

theorem thin_open (h : t.Open) (grass : Option Nat) : (thin grass t).Open := by
  cases grass with
  | none => exact h
  | some density => exact h.replaceGround (Or.inl rfl) density

theorem layIf_rough_open (h : t.Open) (rough : Bool) : (layIf rough .rough t).Open := by
  cases rough with
  | false => exact h
  | true => exact h.replaceGround (Or.inr rfl) 3

section

variable (species : Species) (count growth : Nat)

theorem thin_grow (h : t.Open) (grass : Option Nat) :
    thin grass (t.grow species count growth) = (thin grass t).grow species count growth := by
  cases grass with
  | none => rfl
  | some density => exact Tile.replaceGround_grow species count growth h (by decide) (by simp)

theorem layIf_grow (h : t.Open) (present : Bool) {ground : ClearGround} (hsnow : ground ≠ .snow) :
    layIf present ground (t.grow species count growth) =
      (layIf present ground t).grow species count growth := by
  cases present with
  | false => rfl
  | true => exact Tile.replaceGround_grow species count growth h hsnow fun _ => rfl

/-- Grass, rough land and rocks in one stroke, before the trees or after them. -/
theorem ground_grow (h : t.Open) (grass : Option Nat) (rough rocks : Bool) :
    (ground grass rough rocks).apply (t.grow species count growth) =
      ((ground grass rough rocks).apply t).grow species count growth := by
  -- rocks come last, since land with rocks is open no longer
  have hthin := thin_open h grass
  calc layIf rocks .rocks (layIf rough .rough (thin grass (t.grow species count growth)))
    _ = layIf rocks .rocks (layIf rough .rough ((thin grass t).grow species count growth)) := by
      rw [thin_grow species count growth h]
    _ = layIf rocks .rocks ((layIf rough .rough (thin grass t)).grow species count growth) := by
      rw [layIf_grow species count growth hthin rough (by decide)]
    _ = (layIf rocks .rocks (layIf rough .rough (thin grass t))).grow species count growth :=
      layIf_grow species count growth (layIf_rough_open hthin rough) rocks (by decide)

end

/-- On open land trees and terrain, snow or desert make the same tile in both orders. -/
theorem attempt_comm {trees lay : Touch} (htrees : trees.layer = .trees)
    (hlay : lay.layer = .terrain ∨ lay.layer = .snow ∨ lay.layer = .desert) (h : t.Open) :
    lay.attempt (trees.attempt t) = trees.attempt (lay.attempt t) := by
  cases trees with
  | plant species count growth =>
    cases lay with
    | ground grass rough rocks => exact ground_grow species count growth h grass rough rocks
    | snow density => exact Tile.snowOver_grow species count growth h density
    | desert density zoned =>
      have hground : (t.grow species count growth).replaceGround .desert density =
          (t.replaceGround .desert density).grow species count growth :=
        Tile.replaceGround_grow species count growth h (by decide) (by simp)
      cases zoned with
      | false => exact hground
      | true =>
        calc ((t.grow species count growth).replaceGround .desert density).setZone .desert
          _ = ((t.replaceGround .desert density).grow species count growth).setZone .desert := by
            rw [hground]
          _ = ((t.replaceGround .desert density).setZone .desert).grow species count growth :=
            Tile.setZone_grow species count growth .desert
    | field fieldType | canal bits | river bits | plant species count growth | rezone zone =>
      simp [layer] at hlay
    | sea => simp [layer] at hlay
  | _ => cases htrees

end Touch

end MapPainter
