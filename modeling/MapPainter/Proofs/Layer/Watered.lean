import MapPainter.Proofs.Layer.Frame
import MapPainter.Proofs.Layer.Suits

/-!
# Water in its bed

Sea and rivers own themselves, a canal is owned by somebody else, and each class of water keeps to
the ground that carries it. Any touch that suits a tile leaves this in order, whichever water it
lays over whichever other (`Touch.apply_watered`); touches of the other layers do not even change
the class of the water (`Touch.apply_waterClass?`).
-/

namespace MapPainter

/-- The class of the water on a tile. -/
def Tile.waterClass? (t : Tile) : Option WaterClass :=
  match t.surface with
  | .water water => some water.cls
  | _ => none

/-- The ground that carries water of a class. -/
def WaterClass.Bed (t : Tile) : WaterClass → Prop
  | .canal => t.slope.isFlat = true
  | .sea => t.slope.isFlat = true ∧ t.height = 0
  | .river => t.slope.isFlat = true ∨ t.slope.isHalftile = true

/-- The water owns a tile exactly if it is sea or a river, and all water lies in its bed. -/
structure Tile.Watered (t : Tile) : Prop where
  owner : t.owner = .water ↔ t.waterClass? = some .sea ∨ t.waterClass? = some .river
  bed : ∀ cls, t.waterClass? = some cls → cls.Bed t

namespace Tile

variable {t t' : Tile}

theorem waterClass?_of_isLand (h : t.isLand = true) : t.waterClass? = none := by
  obtain ⟨height, slope, owner, zone, surface⟩ := t
  cases surface with
  | clear land | trees grove => rfl
  | water water => cases h
  | built => rfl

theorem watered_of_dry (hdry : t.waterClass? = none) (howner : t.owner ≠ .water) :
    t.Watered where
  owner := by simp [hdry, howner]
  bed := by simp [hdry]

/-- Owner, class and site are all that counts. -/
theorem Watered.congr (h : t.Watered) (hsite : t'.site = t.site) (howner : t'.owner = t.owner)
    (hclass : t'.waterClass? = t.waterClass?) : t'.Watered := by
  obtain ⟨hheight, hslope⟩ := Prod.mk.inj hsite
  constructor
  · rw [howner, hclass]
    exact h.owner
  · intro cls hcls
    have hbed := h.bed cls (hclass ▸ hcls)
    cases cls <;> simpa only [WaterClass.Bed, hheight, hslope] using hbed

/-- Water may be laid over anything that carries it, over water as well: the owner goes with the
class. -/
theorem Watered.flood (h : t.Watered) (cls : WaterClass) {owner : Owner}
    (howner : owner = .water ↔ cls = .sea ∨ cls = .river) (hbed : cls.Bed t) (bits : UInt32) :
    (t.flood cls owner bits).Watered := by
  by_cases hbuilt : t.surface = .built
  · rw [t.flood_of_built cls owner bits hbuilt]
    exact h
  · rw [t.flood_of_ne_built cls owner bits hbuilt]
    constructor
    · simpa only [waterClass?, Option.some.injEq] using howner
    · rintro _ ⟨⟩
      cases cls <;> exact hbed

end Tile

namespace Touch

variable {touch : Touch} {t : Tile}

theorem canalOwner_ne_water (owner : Owner) : Layer.canalOwner owner ≠ .water := by
  unfold Layer.canalOwner
  split
  · decide
  · assumption

/-- Only the water layer makes water, or makes other water of it. -/
theorem apply_waterClass? (h : touch.layer ≠ .water) :
    (touch.apply t).waterClass? = t.waterClass? := by
  have hsame := touch.apply_isLand t h
  cases hland : t.isLand with
  | true =>
    rw [Tile.waterClass?_of_isLand hland, Tile.waterClass?_of_isLand (hsame.trans hland)]
  | false =>
    rw [Tile.waterClass?, touch.apply_surface_of_not_land t h hland]
    rfl

/-- A touch that suits a tile leaves its water in order. -/
theorem apply_watered (h : t.Watered) (hs : touch.Suits t) : (touch.apply t).Watered := by
  by_cases hwater : touch.layer = .water
  · cases touch with
    | canal bits => exact h.flood .canal (by simp [canalOwner_ne_water]) hs bits
    | river bits => exact h.flood .river (by simp) hs bits
    | sea => exact h.flood .sea (by simp) hs 0
    | _ => cases hwater
  · exact h.congr (touch.apply_site t) (touch.apply_owner t hwater) (apply_waterClass? hwater)

end Touch

end MapPainter
