import MapPainter.Proofs.Layer.Touch

/-!
# What touches leave alone

Height and slope of a tile stay for ever, a structure keeps its owner, and water stays water. Only
the water layer changes an owner or makes water, and only the desert and tropics layers change a
zone. `Tile.Kept` says this of a tile that the touches of some layers have reached; one touch keeps
to it (`Touch.kept`), and so does one after the other (`Tile.Kept.trans`).
-/

namespace MapPainter

/-- What becomes of a tile that at most the touches of some layers have reached. -/
structure Tile.Kept (layers : Layer → Prop) (t t' : Tile) : Prop where
  site : t'.site = t.site
  built : t.surface = .built → t'.surface = .built ∧ t'.owner = t.owner
  water : t.kind = .water → t'.kind = .water
  flooded : t.kind ≠ .water → t'.kind = .water → layers .water
  owner : t'.owner ≠ t.owner → layers .water
  zone : t'.zone ≠ t.zone → layers .desert ∨ layers .tropics
  changed : t' ≠ t → ∃ layer, layers layer

namespace Tile.Kept

variable {layers layers' : Layer → Prop} {t t' t'' : Tile}

theorem refl (t : Tile) : t.Kept layers t where
  site := rfl
  built h := ⟨h, rfl⟩
  water h := h
  flooded h h' := absurd h' h
  owner h := absurd rfl h
  zone h := absurd rfl h
  changed h := absurd rfl h

theorem trans (h : t.Kept layers t') (h' : t'.Kept layers t'') : t.Kept layers t'' where
  site := h'.site.trans h.site
  built hbuilt := by
    obtain ⟨hbuilt', howner⟩ := h.built hbuilt
    obtain ⟨hbuilt'', howner'⟩ := h'.built hbuilt'
    exact ⟨hbuilt'', howner'.trans howner⟩
  water hwater := h'.water (h.water hwater)
  flooded hdry hwater := by
    by_cases hmiddle : t'.kind = .water
    · exact h.flooded hdry hmiddle
    · exact h'.flooded hmiddle hwater
  owner hne := by
    by_cases hmiddle : t'.owner = t.owner
    · exact h'.owner (hmiddle ▸ hne)
    · exact h.owner hmiddle
  zone hne := by
    by_cases hmiddle : t'.zone = t.zone
    · exact h'.zone (hmiddle ▸ hne)
    · exact h.zone hmiddle
  changed hne := by
    by_cases hmiddle : t' = t
    · exact h'.changed (hmiddle ▸ hne)
    · exact h.changed hmiddle

/-- Where more layers have been, less is said. -/
theorem mono (h : t.Kept layers t') (hle : ∀ layer, layers layer → layers' layer) :
    t.Kept layers' t' where
  site := h.site
  built := h.built
  water := h.water
  flooded hdry hwater := hle _ (h.flooded hdry hwater)
  owner hne := hle _ (h.owner hne)
  zone hne := (h.zone hne).imp (hle _) (hle _)
  changed hne := (h.changed hne).imp hle

end Tile.Kept

namespace Touch

variable (touch : Touch) (t : Tile)

@[simp] theorem layIf_entry (present : Bool) (ground : ClearGround) :
    (layIf present ground t).entry = t.entry := by
  unfold layIf
  split <;> simp

@[simp] theorem thin_entry (grass : Option Nat) : (thin grass t).entry = t.entry := by
  unfold thin
  split <;> simp

theorem snowOver_entry (density : Nat) : (Layer.snowOver density t).entry = t.entry := by
  rw [snowOver_eq]
  rfl

theorem apply_owner (h : touch.layer ≠ .water) : (touch.apply t).owner = t.owner := by
  cases touch with
  | ground grass rough rocks =>
    have hentry : ((ground grass rough rocks).apply t).entry = t.entry := by simp [apply]
    exact (Prod.mk.inj hentry).1
  | field fieldType => exact (Prod.mk.inj (t.makeField_entry fieldType)).1
  | canal bits | river bits => exact absurd rfl h
  | sea => exact absurd rfl h
  | plant species count growth => exact (Prod.mk.inj (t.plant_entry species count growth)).1
  | snow density => exact (Prod.mk.inj (snowOver_entry t density)).1
  | desert density zoned =>
    have hentry := (Prod.mk.inj (t.replaceGround_entry .desert density)).1
    cases zoned <;> exact hentry
  | rezone zone => rfl

theorem apply_zone (h : touch.layer ≠ .desert) (h' : touch.layer ≠ .tropics) :
    (touch.apply t).zone = t.zone := by
  cases touch with
  | ground grass rough rocks =>
    have hentry : ((ground grass rough rocks).apply t).entry = t.entry := by simp [apply]
    exact (Prod.mk.inj hentry).2
  | field fieldType => exact (Prod.mk.inj (t.makeField_entry fieldType)).2
  | canal bits => exact t.flood_zone _ _ bits
  | river bits => exact t.flood_zone _ _ bits
  | sea => exact t.flood_zone _ _ 0
  | plant species count growth => exact (Prod.mk.inj (t.plant_entry species count growth)).2
  | snow density => exact (Prod.mk.inj (snowOver_entry t density)).2
  | desert density zoned => exact absurd rfl h
  | rezone zone => exact absurd rfl h'

/-- What is not land is left by all but the water layer as it is, up to its zone. -/
theorem apply_surface_of_not_land (h : touch.layer ≠ .water) (ht : t.isLand = false) :
    (touch.apply t).surface = t.surface := by
  obtain ⟨height, slope, owner, zone, surface⟩ := t
  cases surface with
  | clear land | trees grove => cases ht
  | water water | built =>
    cases touch with
    | ground grass rough rocks => cases grass <;> cases rough <;> cases rocks <;> rfl
    | desert density zoned => cases zoned <;> rfl
    | canal bits | river bits => exact absurd rfl h
    | sea => exact absurd rfl h
    | field fieldType => rfl
    | plant species count growth => rfl
    | snow density => rfl
    | rezone zone => rfl

/-- The water layer floods whatever is not built up. -/
theorem apply_of_water (h : touch.layer = .water) :
    if t.surface = .built then touch.apply t = t else (touch.apply t).kind = .water := by
  have hflood : ∃ cls owner bits, touch.apply t = t.flood cls owner bits := by
    cases touch with
    | canal bits => exact ⟨_, _, bits, rfl⟩
    | river bits => exact ⟨_, _, bits, rfl⟩
    | sea => exact ⟨_, _, 0, rfl⟩
    | _ => cases h
  obtain ⟨cls, owner, bits, heq⟩ := hflood
  rw [heq]
  split
  case isTrue hbuilt => exact t.flood_of_built cls owner bits hbuilt
  case isFalse hbuilt => exact t.flood_kind cls owner bits hbuilt

variable {layers : Layer → Prop}

theorem kept_of_water (h : touch.layer = .water) (hlayer : layers touch.layer) :
    t.Kept layers (touch.apply t) := by
  have hflood := touch.apply_of_water t h
  have hzone : (touch.apply t).zone = t.zone :=
    touch.apply_zone t (by rw [h]; decide) (by rw [h]; decide)
  have hwater : layers .water := h ▸ hlayer
  refine ⟨touch.apply_site t, ?_, ?_, fun _ _ => hwater, fun _ => hwater,
    fun hne => absurd hzone hne, fun _ => ⟨_, hlayer⟩⟩
  · intro hbuilt
    rw [if_pos hbuilt] at hflood
    rw [hflood]
    exact ⟨hbuilt, rfl⟩
  · intro hkind
    have hbuilt : t.surface ≠ .built := by
      intro hbuilt
      rw [Tile.kind, hbuilt] at hkind
      cases hkind
    rwa [if_neg hbuilt] at hflood

theorem kept_of_ne_water (h : touch.layer ≠ .water) (hlayer : layers touch.layer) :
    t.Kept layers (touch.apply t) := by
  have howner := touch.apply_owner t h
  have hsame := touch.apply_surface_of_not_land t h
  refine ⟨touch.apply_site t, ?_, ?_, ?_, fun hne => absurd howner hne, ?_, fun _ => ⟨_, hlayer⟩⟩
  · intro hbuilt
    exact ⟨(hsame (t.isLand_eq_false_iff.mpr (Or.inr hbuilt))).trans hbuilt, howner⟩
  · intro hkind
    rw [Tile.kind, hsame (t.isLand_eq_false_iff.mpr (Or.inl hkind))]
    exact hkind
  · -- land stays land, and a structure stays a structure
    intro hdry hkind
    have hland := touch.apply_isLand t h
    rw [(touch.apply t).isLand_eq_false_iff.mpr (Or.inl hkind)] at hland
    rw [Tile.kind, hsame hland.symm] at hkind
    exact absurd hkind hdry
  · intro hne
    by_cases hdesert : touch.layer = .desert
    · exact Or.inl (hdesert ▸ hlayer)
    · by_cases htropics : touch.layer = .tropics
      · exact Or.inr (htropics ▸ hlayer)
      · exact absurd (touch.apply_zone t hdesert htropics) hne

/-- A touch keeps to what its layer may do. -/
theorem kept (hlayer : layers touch.layer) : t.Kept layers (touch.apply t) := by
  by_cases h : touch.layer = .water
  · exact touch.kept_of_water t h hlayer
  · exact touch.kept_of_ne_water t h hlayer

/-- No touch puts a structure up or takes one down. -/
theorem apply_surface_eq_built_iff : (touch.apply t).surface = .built ↔ t.surface = .built := by
  constructor
  · intro hbuilt
    by_cases h : touch.layer = .water
    · have hflood := touch.apply_of_water t h
      split at hflood
      case isTrue hbefore => exact hbefore
      case isFalse =>
        rw [Tile.kind, hbuilt] at hflood
        cases hflood
    · have hland := touch.apply_isLand t h
      rw [(touch.apply t).isLand_eq_false_iff.mpr (Or.inr hbuilt)] at hland
      exact (touch.apply_surface_of_not_land t h hland.symm).symm.trans hbuilt
  · intro hbuilt
    have hkept : t.Kept (fun _ => True) (touch.apply t) := touch.kept t trivial
    exact (hkept.built hbuilt).1

end Touch

end MapPainter
