import MapPainter.Proofs.Layer.Suits

/-!
# Sound tiles

The numbers of a tile are small and its parts agree: a density fits in two bits, a field looks like
one of nine, trees are of some species, and snow lies on grass or rough land. Every touch that
suits a sound tile leaves it sound (`Touch.apply_sound`).
-/

namespace MapPainter

/-- Clear land whose raw ground can be stored, with snow only on ground that takes it. -/
structure ClearLand.Sound (land : ClearLand) : Prop where
  ground : land.ground ≠ .snow
  density : land.density ≤ 3
  fieldType : land.fieldType ≤ 8
  snow : land.snow = true → land.ground = .grass ∨ land.ground = .rough

structure Grove.Sound (grove : Grove) : Prop where
  species : grove.species.IsValid
  count : grove.count ≤ 3
  growth : grove.growth ≤ 6
  density : grove.density ≤ 3

/-- Nothing is asked of water and structures. -/
def Tile.Sound (t : Tile) : Prop :=
  match t.surface with
  | .clear land => land.Sound
  | .trees grove => grove.Sound
  | .water _ | .built => True

namespace Tile

variable {t : Tile}

theorem fresh_sound : fresh.Sound where
  ground := by decide
  density := by decide
  fieldType := by decide
  snow := by decide

theorem Sound.land (h : t.Sound) {land : ClearLand} (hs : t.surface = .clear land) :
    land.Sound := by
  unfold Tile.Sound at h
  rwa [hs] at h

theorem Sound.grove (h : t.Sound) {grove : Grove} (hs : t.surface = .trees grove) :
    grove.Sound := by
  unfold Tile.Sound at h
  rwa [hs] at h

/-- Ground other than snow sweeps the snow off. -/
theorem Sound.setClearGround (h : t.Sound) {ground : ClearGround} {density : Nat}
    (hg : ground ≠ .snow) (hd : density ≤ 3) : (t.setClearGround ground density).Sound := by
  unfold Tile.setClearGround
  split
  case h_1 land hsurface =>
    have hland := h.land hsurface
    rw [if_neg hg]
    exact ⟨hg, hd, hland.fieldType, by simp⟩
  case h_2 => exact h

/-- Where snow lies on sound land, the ground below takes it, and takes more of it. -/
theorem Sound.deepenSnow (h : t.Sound) {density : Nat} (hs : t.clearGround? = some .snow)
    (hd : density ≤ 3) : (t.setClearGround .snow density).Sound := by
  unfold Tile.setClearGround
  split
  case h_1 land hsurface =>
    have hland := h.land hsurface
    unfold clearGround? at hs
    rw [hsurface] at hs
    have hsnow : land.snow = true := by
      have hvisible := Option.some.inj hs
      unfold ClearLand.visibleGround at hvisible
      split at hvisible
      · assumption
      · exact absurd hvisible hland.ground
    rw [if_pos rfl]
    exact ⟨hland.ground, hd, hland.fieldType, fun _ => hland.snow hsnow⟩
  case h_2 => exact h

theorem Sound.setTreeGround (h : t.Sound) (ground : TreeGround) {density : Nat}
    (hd : density ≤ 3) : (t.setTreeGround ground density).Sound := by
  unfold Tile.setTreeGround
  split
  case h_1 grove hsurface =>
    have hgrove := h.grove hsurface
    exact ⟨hgrove.species, hgrove.count, hgrove.growth, hd⟩
  case h_2 => exact h

theorem Sound.makeClear (h : t.Sound) {ground : ClearGround} {density : Nat}
    (hg : ground ≠ .snow) (hd : density ≤ 3) : (t.makeClear ground density).Sound := by
  unfold Tile.makeClear
  split
  · exact ⟨hg, hd, Nat.zero_le 8, by simp⟩
  · exact h

/-- Snow turns the ground below into one that takes it. -/
theorem Sound.makeSnow (h : t.Sound) {density : Nat} (hd : density ≤ 3) :
    (t.makeSnow density).Sound := by
  unfold Tile.makeSnow
  split
  case h_1 land hsurface =>
    have hland := h.land hsurface
    by_cases hrough : land.ground = .rough
    · dsimp only
      rw [if_pos hrough]
      exact ⟨by simp, hd, hland.fieldType, fun _ => Or.inr rfl⟩
    · dsimp only
      rw [if_neg hrough]
      exact ⟨by simp, hd, hland.fieldType, fun _ => Or.inl rfl⟩
  case h_2 => exact h

theorem Sound.makeField (h : t.Sound) {fieldType : Nat} (hf : fieldType ≤ 8) :
    (t.makeField fieldType).Sound := by
  unfold Tile.makeField
  split
  · exact ⟨by simp, Nat.le_refl 3, hf, by simp⟩
  · exact h

theorem Sound.flood (h : t.Sound) (cls : WaterClass) (owner : Owner) (bits : UInt32) :
    (t.flood cls owner bits).Sound := by
  unfold Tile.flood
  split
  · exact h
  · trivial

theorem Sound.setZone (h : t.Sound) (zone : Zone) : (t.setZone zone).Sound := h

/-- Trees take over the density of the land, or stand on full rough ground. -/
theorem groundUnderTrees_le {land : ClearLand} (h : land.density ≤ 3) :
    (groundUnderTrees land).2 ≤ 3 := by
  unfold groundUnderTrees
  split
  · exact h
  · split
    · exact h
    · exact Nat.le_refl 3
    · exact h

theorem Sound.plant (h : t.Sound) {species : Species} {count growth : Nat}
    (hs : species.IsValid) (hc : count ≤ 3) (hg : growth ≤ 6) :
    (t.plant species count growth).Sound := by
  unfold Tile.plant
  split
  case h_1 land hsurface =>
    have hland := h.land hsurface
    exact ⟨hs, hc, hg, groundUnderTrees_le hland.density⟩
  case h_2 => exact h

theorem Sound.replaceGround (h : t.Sound) {ground : ClearGround} {density : Nat}
    (hg : ground ≠ .snow) (hd : density ≤ 3) : (t.replaceGround ground density).Sound := by
  unfold Tile.replaceGround
  split
  case h_1 => exact h.setClearGround hg hd
  case h_2 =>
    cases ground with
    | grass => exact h.setTreeGround .grass hd
    | rough => exact h.setTreeGround .rough hd
    | rocks | fields => exact h.makeClear hg hd
    | snow | desert => exact h.setTreeGround .snowDesert hd
  case h_3 => exact h
  case h_4 => exact h

/-- Snowing a tile over lays snow where there is none and deepens it where it lies. -/
theorem Sound.snowOver (h : t.Sound) {density : Nat} (hd : density ≤ 3) :
    (Layer.snowOver density t).Sound := by
  unfold Layer.snowOver
  split
  case h_1 land hsurface =>
    split
    case isTrue hvisible =>
      refine h.deepenSnow ?_ hd
      rw [clearGround?, hsurface]
      exact congrArg some hvisible
    case isFalse => exact h.makeSnow hd
  case h_2 =>
    split
    · exact h.setTreeGround .snowDesert hd
    · exact h.setTreeGround .snowDesert hd
    · exact h.setTreeGround .roughSnow hd
    · exact h.setTreeGround .roughSnow hd
    · exact h
  case h_3 => exact h
  case h_4 => exact h

end Tile

namespace Touch

variable {t : Tile}

theorem layIf_sound (h : t.Sound) (present : Bool) {ground : ClearGround} (hg : ground ≠ .snow) :
    (layIf present ground t).Sound := by
  unfold layIf
  split
  · exact h.replaceGround hg (Nat.le_refl 3)
  · exact h

theorem thin_sound (h : t.Sound) {grass : Option Nat} (hd : ∀ density ∈ grass, density ≤ 2) :
    (thin grass t).Sound := by
  cases grass with
  | none => exact h
  | some density => exact h.replaceGround (by decide) (Nat.le_succ_of_le (hd density rfl))

/-- A touch that suits a sound tile leaves it sound. -/
theorem apply_sound {touch : Touch} (h : t.Sound) (hs : touch.Suits t) :
    (touch.apply t).Sound := by
  cases touch with
  | ground grass rough rocks =>
    exact layIf_sound (layIf_sound (thin_sound h hs.2) rough (by decide)) rocks (by decide)
  | field fieldType => exact h.makeField hs
  | canal bits => exact h.flood _ _ bits
  | river bits => exact h.flood _ _ bits
  | sea => exact h.flood _ _ 0
  | plant species count growth =>
    obtain ⟨hvalid, hcount, hgrowth, -⟩ := hs
    exact h.plant hvalid hcount hgrowth
  | snow density => exact h.snowOver hs
  | desert density zoned =>
    have hdesert : (t.replaceGround .desert density).Sound := h.replaceGround (by decide) hs
    unfold apply
    dsimp only
    split
    · exact hdesert.setZone .desert
    · exact hdesert
  | rezone zone => exact h.setZone zone

end Touch

end MapPainter
