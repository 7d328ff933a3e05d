import MapPainter.Layer.Paint
import MapPainter.Proofs.Tile.Edit

/-!
# What brushes do to a tile

A brush that does anything to a tile does one of a few things, listed by `Touch`: each layer has
its own. A touch never moves or reshapes a tile, and doing it twice is doing it once
(`Touch.apply_apply`).
-/

namespace MapPainter

/-- What a brush does to the tile under it. -/
inductive Touch where
  /-- Grass at a density, then rough land, then rocks, each of them or not. -/
  | ground (grass : Option Nat) (rough rocks : Bool)
  | field (fieldType : Nat)
  /-- A canal, for whoever owned the land. -/
  | canal (bits : UInt32)
  | river (bits : UInt32)
  | sea
  | plant (species : Species) (count growth : Nat)
  | snow (density : Nat)
  /-- Desert ground, and the desert zone or not. -/
  | desert (density : Nat) (zoned : Bool)
  | rezone (zone : Zone)
  deriving DecidableEq, Repr

namespace Touch

/-- The layer whose brush does it. -/
def layer : Touch → Layer
  | ground .. => .terrain
  | field _ => .fields
  | canal _ | river _ | sea => .water
  | plant .. => .trees
  | snow _ => .snow
  | desert .. => .desert
  | rezone _ => .tropics

/-- Covers land with `ground` at full density, or not. -/
def layIf (present : Bool) (ground : ClearGround) (t : Tile) : Tile :=
  if present then t.replaceGround ground 3 else t

def thin (grass : Option Nat) (t : Tile) : Tile :=
  match grass with
  | some density => t.replaceGround .grass density
  | none => t

def apply (touch : Touch) (t : Tile) : Tile :=
  match touch with
  | ground grass rough rocks => layIf rocks .rocks (layIf rough .rough (thin grass t))
  | field fieldType => t.makeField fieldType
  | canal bits => t.makeCanal (Layer.canalOwner t.owner) bits
  | river bits => t.makeRiver bits
  | sea => t.makeSea
  | plant species count growth => t.plant species count growth
  | snow density => Layer.snowOver density t
  | desert density zoned =>
    let t := t.replaceGround .desert density
    if zoned then t.setZone .desert else t
  | rezone zone => t.setZone zone

variable (touch : Touch) (t : Tile)

@[simp] theorem layIf_site (present : Bool) (ground : ClearGround) :
    (layIf present ground t).site = t.site := by
  unfold layIf
  split <;> simp

@[simp] theorem layIf_isLand (present : Bool) (ground : ClearGround) :
    (layIf present ground t).isLand = t.isLand := by
  unfold layIf
  split <;> simp

@[simp] theorem thin_site (grass : Option Nat) : (thin grass t).site = t.site := by
  unfold thin
  split <;> simp

@[simp] theorem thin_isLand (grass : Option Nat) : (thin grass t).isLand = t.isLand := by
  unfold thin
  split <;> simp

/-- Snow covers a tile anew and leaves the rest of it. -/
theorem snowOver_eq (density : Nat) :
    Layer.snowOver density t = { t with surface := (Layer.snowOver density t).surface } := by
  obtain ⟨height, slope, owner, zone, surface⟩ := t
  cases surface with
  | clear land =>
    unfold Layer.snowOver
    dsimp only
    split <;> rfl
  | trees grove =>
    unfold Layer.snowOver
    dsimp only
    split <;> rfl
  | water water => rfl
  | built => rfl

theorem snowOver_site (density : Nat) : (Layer.snowOver density t).site = t.site := by
  rw [snowOver_eq]
  rfl

theorem snowOver_kind (density : Nat) : (Layer.snowOver density t).kind = t.kind := by
  obtain ⟨height, slope, owner, zone, surface⟩ := t
  cases surface with
  | clear land =>
    unfold Layer.snowOver
    dsimp only
    split <;> rfl
  | trees grove =>
    unfold Layer.snowOver
    dsimp only
    split <;> rfl
  | water water => rfl
  | built => rfl

theorem snowOver_isLand (density : Nat) : (Layer.snowOver density t).isLand = t.isLand :=
  Tile.isLand_of_kind_eq (snowOver_kind t density)

theorem apply_site : (touch.apply t).site = t.site := by
  cases touch with
  | ground grass rough rocks => simp [apply]
  | field fieldType => exact t.makeField_site fieldType
  | canal bits => exact t.flood_site _ _ bits
  | river bits => exact t.flood_site _ _ bits
  | sea => exact t.flood_site _ _ 0
  | plant species count growth => exact t.plant_site species count growth
  | snow density => exact snowOver_site t density
  | desert density zoned => cases zoned <;> simp [apply]
  | rezone zone => rfl

/-- Only water makes land of something else, or something else of land. -/
theorem apply_isLand (h : touch.layer ≠ .water) : (touch.apply t).isLand = t.isLand := by
  cases touch with
  | ground grass rough rocks => simp [apply]
  | field fieldType => exact t.makeField_isLand fieldType
  | canal bits | river bits => exact absurd rfl h
  | sea => exact absurd rfl h
  | plant species count growth => exact t.plant_isLand species count growth
  | snow density => exact snowOver_isLand t density
  | desert density zoned => cases zoned <;> simp [apply]
  | rezone zone => rfl

theorem canalOwner_canalOwner (owner : Owner) :
    Layer.canalOwner (Layer.canalOwner owner) = Layer.canalOwner owner := by
  by_cases h : owner = .water
  · rw [h]
    rfl
  · have heq : Layer.canalOwner owner = owner := if_neg h
    rw [heq, heq]

/-! ## Touching a tile twice -/

theorem ground_ground (grass : Option Nat) (rough rocks : Bool) :
    (ground grass rough rocks).apply ((ground grass rough rocks).apply t) =
      (ground grass rough rocks).apply t := by
  obtain ⟨height, slope, owner, zone, surface⟩ := t
  cases surface <;> cases grass <;> cases rough <;> cases rocks <;> rfl

theorem canal_canal (bits : UInt32) :
    (canal bits).apply ((canal bits).apply t) = (canal bits).apply t := by
  obtain ⟨height, slope, owner, zone, surface⟩ := t
  cases surface with
  | built => rfl
  | clear land | trees grove | water water =>
    simp only [apply, Tile.makeCanal, Tile.flood, canalOwner_canalOwner]

/-- Snow on snow is snow of the later depth. -/
theorem snowOver_snowOver (density later : Nat) :
    Layer.snowOver later (Layer.snowOver density t) = Layer.snowOver later t := by
  obtain ⟨height, slope, owner, zone, surface⟩ := t
  cases surface with
  | clear land =>
    obtain ⟨ground, density, snow, fieldType⟩ := land
    cases ground <;> cases snow <;> rfl
  | trees grove =>
    obtain ⟨species, count, growth, ground, density⟩ := grove
    cases ground <;> rfl
  | water water => rfl
  | built => rfl

/-- A touch done twice is done once. -/
theorem apply_apply : touch.apply (touch.apply t) = touch.apply t := by
  cases touch with
  | ground grass rough rocks => exact ground_ground t grass rough rocks
  | field fieldType => exact t.makeField_makeField fieldType fieldType
  | canal bits => exact canal_canal t bits
  | river bits => exact t.flood_flood _ _ _ _ bits bits
  | sea => exact t.flood_flood _ _ _ _ 0 0
  | plant species count growth => exact t.plant_plant species species count count growth growth
  | snow density => exact snowOver_snowOver t density density
  | desert density zoned =>
    obtain ⟨height, slope, owner, zone, surface⟩ := t
    cases surface <;> cases zoned <;> rfl
  | rezone zone => rfl

end Touch

end MapPainter
