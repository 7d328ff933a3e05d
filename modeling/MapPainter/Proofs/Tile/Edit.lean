import MapPainter.Tile.Edit

/-!
# What edits leave alone

An edit covers a tile anew; it does not move or reshape the ground below (`Tile.site`), and only
water and zones change what the tile is entered as (`Tile.entry`). Replacing the ground of a tile
never makes land of what is not land.
-/

namespace MapPainter.Tile

/-- What carries the surface of a tile: its height and its slope. -/
def site (t : Tile) : UInt8 × Slope := (t.height, t.slope)

variable (t : Tile)

@[simp] theorem setClearGround_site (ground : ClearGround) (density : Nat) :
    (t.setClearGround ground density).site = t.site := by
  unfold setClearGround
  split <;> rfl

@[simp] theorem setTreeGround_site (ground : TreeGround) (density : Nat) :
    (t.setTreeGround ground density).site = t.site := by
  unfold setTreeGround
  split <;> rfl

@[simp] theorem makeClear_site (ground : ClearGround) (density : Nat) :
    (t.makeClear ground density).site = t.site := by
  unfold makeClear
  split <;> rfl

@[simp] theorem makeSnow_site (density : Nat) : (t.makeSnow density).site = t.site := by
  unfold makeSnow
  split <;> rfl

@[simp] theorem makeField_site (fieldType : Nat) : (t.makeField fieldType).site = t.site := by
  unfold makeField
  split <;> rfl

@[simp] theorem flood_site (cls : WaterClass) (owner : Owner) (bits : UInt32) :
    (t.flood cls owner bits).site = t.site := by
  unfold flood
  split <;> rfl

@[simp] theorem plant_site (species : Species) (count growth : Nat) :
    (t.plant species count growth).site = t.site := by
  unfold plant
  split <;> rfl

@[simp] theorem setZone_site (zone : Zone) : (t.setZone zone).site = t.site := rfl

@[simp] theorem replaceGround_site (ground : ClearGround) (density : Nat) :
    (t.replaceGround ground density).site = t.site := by
  unfold replaceGround
  split
  case h_1 => simp
  case h_2 => split <;> simp
  case h_3 => rfl
  case h_4 => rfl

/-- What a tile is entered as: its owner and its zone. -/
def entry (t : Tile) : Owner × Zone := (t.owner, t.zone)

@[simp] theorem replaceGround_entry (ground : ClearGround) (density : Nat) :
    (t.replaceGround ground density).entry = t.entry := by
  obtain ⟨height, slope, owner, zone, surface⟩ := t
  cases surface <;> cases ground <;> rfl

theorem makeField_entry (fieldType : Nat) : (t.makeField fieldType).entry = t.entry := by
  unfold makeField
  split <;> rfl

theorem plant_entry (species : Species) (count growth : Nat) :
    (t.plant species count growth).entry = t.entry := by
  unfold plant
  split <;> rfl

theorem flood_zone (cls : WaterClass) (owner : Owner) (bits : UInt32) :
    (t.flood cls owner bits).zone = t.zone := by
  unfold flood
  split <;> rfl

theorem flood_of_built (cls : WaterClass) (owner : Owner) (bits : UInt32)
    (h : t.surface = .built) : t.flood cls owner bits = t := by
  unfold flood
  rw [h]

theorem flood_of_ne_built (cls : WaterClass) (owner : Owner) (bits : UInt32)
    (h : t.surface ≠ .built) :
    t.flood cls owner bits = { t with owner := owner, surface := .water ⟨cls, bits⟩ } := by
  unfold flood
  split
  case h_1 hbuilt => exact absurd hbuilt h
  case h_2 => rfl

theorem flood_kind (cls : WaterClass) (owner : Owner) (bits : UInt32) (h : t.surface ≠ .built) :
    (t.flood cls owner bits).kind = .water := by
  rw [t.flood_of_ne_built cls owner bits h]
  rfl

theorem isLand_eq_false_iff : t.isLand = false ↔ t.kind = .water ∨ t.surface = .built := by
  obtain ⟨height, slope, owner, zone, surface⟩ := t
  cases surface <;> simp [isLand, kind, Surface.kind]

/-- Whether a tile is land shows in the kind of its surface. -/
theorem isLand_of_kind_eq {t t' : Tile} (h : t'.kind = t.kind) : t'.isLand = t.isLand := by
  obtain ⟨height, slope, owner, zone, surface⟩ := t
  obtain ⟨height', slope', owner', zone', surface'⟩ := t'
  cases surface <;> cases surface' <;> first | rfl | cases h

@[simp] theorem replaceGround_isLand (ground : ClearGround) (density : Nat) :
    (t.replaceGround ground density).isLand = t.isLand := by
  obtain ⟨height, slope, owner, zone, surface⟩ := t
  cases surface <;> cases ground <;> rfl

@[simp] theorem setZone_isLand (zone : Zone) : (t.setZone zone).isLand = t.isLand := rfl

theorem makeField_isLand (fieldType : Nat) : (t.makeField fieldType).isLand = t.isLand := by
  obtain ⟨height, slope, owner, zone, surface⟩ := t
  cases surface <;> rfl

theorem plant_isLand (species : Species) (count growth : Nat) :
    (t.plant species count growth).isLand = t.isLand := by
  obtain ⟨height, slope, owner, zone, surface⟩ := t
  cases surface <;> rfl

@[simp] theorem plant_zone (species : Species) (count growth : Nat) :
    (t.plant species count growth).zone = t.zone := by
  unfold plant
  split <;> rfl

/-- Trees are planted on clear land only, and not again on the trees. -/
theorem canPlant_plant (species : Species) (count growth : Nat) (allowDesert : Bool) :
    (t.plant species count growth).canPlant allowDesert = false := by
  obtain ⟨height, slope, owner, zone, surface⟩ := t
  cases surface <;> rfl

/-- What floods a tile last decides. -/
theorem flood_flood (cls later : WaterClass) (owner owner' : Owner) (bits bits' : UInt32) :
    (t.flood cls owner bits).flood later owner' bits' = t.flood later owner' bits' := by
  obtain ⟨height, slope, owner, zone, surface⟩ := t
  cases surface <;> rfl

theorem makeField_makeField (fieldType later : Nat) :
    (t.makeField fieldType).makeField later = t.makeField later := by
  obtain ⟨height, slope, owner, zone, surface⟩ := t
  cases surface <;> rfl

/-- Trees stay as they are planted. -/
theorem plant_plant (species later : Species) (count count' growth growth' : Nat) :
    (t.plant species count growth).plant later count' growth' = t.plant species count growth := by
  obtain ⟨height, slope, owner, zone, surface⟩ := t
  cases surface <;> rfl

end MapPainter.Tile
