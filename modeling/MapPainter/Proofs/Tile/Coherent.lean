import MapPainter.Proofs.Tile.Edit

/-!
# Coherent tiles

Each edit is meant for tiles of some kind (`Edit.Fits`) and leaves the others as they are
(`Edit.apply_of_not_fits`). Whatever its arguments and whatever the tile, it moves no ground, keeps
off structures and drains no water (`Edit.lasting`); and a tile whose parts agree is still such a
tile afterwards: snow is never taken for the raw ground, and sea and rivers belong to the water
(`Edit.apply_coherent`).
-/

namespace MapPainter

namespace Tile

/-- The parts of a tile agree: clear land has a raw ground, and the water owns sea and rivers. -/
def Coherent (t : Tile) : Prop :=
  match t.surface with
  | .clear land => land.ground ≠ .snow
  | .water water => water.cls = .sea ∨ water.cls = .river → t.owner = .water
  | .trees _ | .built => True

instance : (t : Tile) → Decidable t.Coherent
  | ⟨_, _, _, _, .clear land⟩ => inferInstanceAs (Decidable (land.ground ≠ .snow))
  | ⟨_, _, owner, _, .water water⟩ =>
    inferInstanceAs (Decidable (water.cls = .sea ∨ water.cls = .river → owner = .water))
  | ⟨_, _, _, _, .trees _⟩ => inferInstanceAs (Decidable True)
  | ⟨_, _, _, _, .built⟩ => inferInstanceAs (Decidable True)

/-- What is lasting about a tile: its site, a structure with its owner, and that there is water. -/
structure Lasting (t t' : Tile) : Prop where
  site : t'.site = t.site
  built : t.surface = .built → t'.surface = .built ∧ t'.owner = t.owner
  water : t.kind = .water → t'.kind = .water

theorem Lasting.refl (t : Tile) : t.Lasting t := ⟨rfl, fun h => ⟨h, rfl⟩, id⟩

theorem Lasting.trans {t t' t'' : Tile} (h : t.Lasting t') (h' : t'.Lasting t'') :
    t.Lasting t'' where
  site := h'.site.trans h.site
  built hbuilt := by
    obtain ⟨hbuilt', howner⟩ := h.built hbuilt
    obtain ⟨hbuilt'', howner'⟩ := h'.built hbuilt'
    exact ⟨hbuilt'', howner'.trans howner⟩
  water hwater := h'.water (h.water hwater)

variable {t : Tile}

/-- Snow is laid on top of the raw ground, and any other ground becomes the raw one. -/
theorem Coherent.setClearGround (h : t.Coherent) (ground : ClearGround) (density : Nat) :
    (t.setClearGround ground density).Coherent := by
  obtain ⟨height, slope, owner, zone, surface⟩ := t
  cases surface with
  | clear land =>
    by_cases hsnow : ground = .snow
    · subst hsnow
      exact h
    · simp [Tile.setClearGround, Coherent, hsnow]
  | trees grove | water water | built => exact h

theorem Coherent.setTreeGround (h : t.Coherent) (ground : TreeGround) (density : Nat) :
    (t.setTreeGround ground density).Coherent := by
  obtain ⟨height, slope, owner, zone, surface⟩ := t
  cases surface with
  | trees grove => exact trivial
  | clear land | water water | built => exact h

/-- Cleared for snow, a tile has grass below it. -/
theorem Coherent.makeClear (h : t.Coherent) (ground : ClearGround) (density : Nat) :
    (t.makeClear ground density).Coherent := by
  unfold Tile.makeClear
  split
  · by_cases hsnow : ground = .snow
    · simp [Coherent, hsnow]
    · simp [Coherent, hsnow]
  · exact h

theorem Coherent.makeSnow (h : t.Coherent) (density : Nat) : (t.makeSnow density).Coherent := by
  obtain ⟨height, slope, owner, zone, surface⟩ := t
  cases surface with
  | clear land =>
    by_cases hrough : land.ground = .rough
    · simp [Tile.makeSnow, Coherent, hrough]
    · simp [Tile.makeSnow, Coherent, hrough]
  | trees grove | water water | built => exact h

theorem Coherent.makeField (h : t.Coherent) (fieldType : Nat) :
    (t.makeField fieldType).Coherent := by
  unfold Tile.makeField
  split
  · simp [Coherent]
  · exact h

/-- Sea and rivers are laid together with their owner. -/
theorem Coherent.flood (h : t.Coherent) {cls : WaterClass} {owner : Owner}
    (howner : cls = .sea ∨ cls = .river → owner = .water) (bits : UInt32) :
    (t.flood cls owner bits).Coherent := by
  by_cases hbuilt : t.surface = .built
  · rw [t.flood_of_built cls owner bits hbuilt]
    exact h
  · rw [t.flood_of_ne_built cls owner bits hbuilt]
    exact howner

theorem Coherent.plant (h : t.Coherent) (species : Species) (count growth : Nat) :
    (t.plant species count growth).Coherent := by
  obtain ⟨height, slope, owner, zone, surface⟩ := t
  cases surface with
  | clear land => exact trivial
  | trees grove | water water | built => exact h

end Tile

namespace Edit

/-- The tiles that an edit is meant for. -/
def Fits (t : Tile) : Edit → Prop
  | setClearGround .. | makeSnow _ | plant .. => t.kind = .clear
  | setTreeGround .. => t.kind = .trees
  | makeClear .. | makeField _ => t.isLand = true
  | makeCanal .. | makeRiver _ | makeSea => t.surface ≠ .built
  | setZone _ => True

variable (e : Edit) (t : Tile)

/-- An edit leaves a tile that it is not meant for as it is. -/
theorem apply_of_not_fits {e : Edit} {t : Tile} (h : ¬ e.Fits t) : e.apply t = t := by
  cases e with
  | setZone zone => exact absurd trivial h
  | makeCanal owner bits => exact t.flood_of_built .canal owner bits (Decidable.not_not.mp h)
  | makeRiver bits => exact t.flood_of_built .river .water bits (Decidable.not_not.mp h)
  | makeSea => exact t.flood_of_built .sea .water 0 (Decidable.not_not.mp h)
  | setTreeGround ground density =>
    obtain ⟨height, slope, owner, zone, surface⟩ := t
    cases surface with
    | trees grove => exact absurd rfl h
    | clear land | water water | built => rfl
  | makeClear ground density | makeField fieldType =>
    obtain ⟨height, slope, owner, zone, surface⟩ := t
    cases surface with
    | clear land | trees grove => exact absurd rfl h
    | water water | built => rfl
  | setClearGround ground density | makeSnow density | plant species count growth =>
    obtain ⟨height, slope, owner, zone, surface⟩ := t
    cases surface with
    | clear land => exact absurd rfl h
    | trees grove | water water | built => rfl

theorem apply_site : (e.apply t).site = t.site := by
  cases e with
  | setClearGround ground density => exact t.setClearGround_site ground density
  | setTreeGround ground density => exact t.setTreeGround_site ground density
  | makeClear ground density => exact t.makeClear_site ground density
  | makeSnow density => exact t.makeSnow_site density
  | makeField fieldType => exact t.makeField_site fieldType
  | makeCanal owner bits => exact t.flood_site .canal owner bits
  | makeRiver bits => exact t.flood_site .river .water bits
  | makeSea => exact t.flood_site .sea .water 0
  | setZone zone => exact t.setZone_site zone
  | plant species count growth => exact t.plant_site species count growth

/-- Whatever is done to a tile, its site, its structure and its water are lasting. -/
theorem lasting : t.Lasting (e.apply t) := by
  by_cases hfits : e.Fits t
  case neg =>
    rw [apply_of_not_fits hfits]
    exact .refl t
  refine ⟨e.apply_site t, ?_, ?_⟩
  · -- of the edits that fit a structure there is only the new zone
    intro hbuilt
    cases e with
    | setZone zone => exact ⟨hbuilt, rfl⟩
    | makeCanal owner bits | makeRiver bits => exact absurd hbuilt hfits
    | makeSea => exact absurd hbuilt hfits
    | _ => simp [Fits, Tile.kind, Tile.isLand, Surface.kind, hbuilt] at hfits
  · intro hwater
    cases e with
    | setZone zone => exact hwater
    | makeCanal owner bits => exact t.flood_kind .canal owner bits hfits
    | makeRiver bits => exact t.flood_kind .river .water bits hfits
    | makeSea => exact t.flood_kind .sea .water 0 hfits
    | makeClear ground density | makeField fieldType =>
      have hdry := t.isLand_eq_false_iff.mpr (Or.inl hwater)
      exact absurd (hdry.symm.trans hfits) Bool.false_ne_true
    | _ =>
      have hkind := hwater.symm.trans hfits
      cases hkind

/-- Whatever is done to a coherent tile, it stays coherent. -/
theorem apply_coherent {t : Tile} (h : t.Coherent) : (e.apply t).Coherent := by
  cases e with
  | setClearGround ground density => exact h.setClearGround ground density
  | setTreeGround ground density => exact h.setTreeGround ground density
  | makeClear ground density => exact h.makeClear ground density
  | makeSnow density => exact h.makeSnow density
  | makeField fieldType => exact h.makeField fieldType
  | makeCanal owner bits => exact h.flood (by simp) bits
  | makeRiver bits => exact h.flood (fun _ => rfl) bits
  | makeSea => exact h.flood (fun _ => rfl) 0
  | setZone zone => exact h
  | plant species count growth => exact h.plant species count growth

end Edit

end MapPainter
