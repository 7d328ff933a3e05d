import MapPainter.Proofs.Import.Pass
import MapPainter.Proofs.Layer.Checked

/-!
# Strokes that plant trees

A stroke on a tile of the map always succeeds. Trees come from planting only
(`Touch.eq_plant_of_trees`), planting finds clear land without fields and rocks, and the species is
of the block that the settings name for their climate or, without a bright channel, of the one that
grows there by itself (`Canvas.exists_stroke_planted`).
-/

namespace MapPainter

open Raster (Rgb)

/-! ## Trees come from planting only -/

namespace Tile

variable {t : Tile}

theorem canPlant_iff :
    t.canPlant true = true ↔
      ∃ land, t.surface = .clear land ∧ land.ground ≠ .fields ∧ land.ground ≠ .rocks := by
  obtain ⟨height, slope, owner, zone, surface⟩ := t
  cases surface <;> simp [canPlant]

theorem replaceGround_kind (h : t.kind ≠ .trees) (ground : ClearGround) (density : Nat) :
    (t.replaceGround ground density).kind = t.kind := by
  obtain ⟨height, slope, owner, zone, surface⟩ := t
  cases surface with
  | trees grove => exact absurd rfl h
  | clear land => rfl
  | water water => rfl
  | built => rfl

theorem flood_kind_ne_trees (h : t.kind ≠ .trees) (cls : WaterClass) (owner : Owner)
    (bits : UInt32) : (t.flood cls owner bits).kind ≠ .trees := by
  by_cases hbuilt : t.surface = .built
  · rwa [t.flood_of_built cls owner bits hbuilt]
  · rw [t.flood_kind cls owner bits hbuilt]
    decide

theorem makeField_kind_ne_trees (h : t.kind ≠ .trees) (fieldType : Nat) :
    (t.makeField fieldType).kind ≠ .trees := by
  unfold makeField
  split
  · exact SurfaceKind.noConfusion
  · exact h

end Tile

namespace Touch

variable {t : Tile} {touch : Touch}

theorem thin_kind (h : t.kind ≠ .trees) (grass : Option Nat) : (thin grass t).kind = t.kind := by
  cases grass with
  | none => rfl
  | some density => exact Tile.replaceGround_kind h .grass density

theorem layIf_kind (h : t.kind ≠ .trees) (present : Bool) (ground : ClearGround) :
    (layIf present ground t).kind = t.kind := by
  cases present with
  | false => rfl
  | true => exact Tile.replaceGround_kind h ground 3

theorem ground_kind (h : t.kind ≠ .trees) (grass : Option Nat) (rough rocks : Bool) :
    ((ground grass rough rocks).apply t).kind = t.kind := by
  have hthin := thin_kind h grass
  have hrough := layIf_kind (hthin ▸ h) rough .rough
  have hrocks := layIf_kind ((hrough.trans hthin) ▸ h) rocks .rocks
  exact hrocks.trans (hrough.trans hthin)

theorem eq_plant_of_trees (h : t.kind ≠ .trees) (htrees : (touch.apply t).kind = .trees) :
    ∃ species count growth, touch = .plant species count growth := by
  cases touch with
  | plant species count growth => exact ⟨species, count, growth, rfl⟩
  | ground grass rough rocks => exact absurd ((ground_kind h grass rough rocks).symm.trans htrees) h
  | field fieldType => exact absurd htrees (Tile.makeField_kind_ne_trees h fieldType)
  | canal bits => exact absurd htrees (Tile.flood_kind_ne_trees h _ _ bits)
  | river bits => exact absurd htrees (Tile.flood_kind_ne_trees h _ _ bits)
  | sea => exact absurd htrees (Tile.flood_kind_ne_trees h _ _ 0)
  | snow density => exact absurd ((snowOver_kind t density).symm.trans htrees) h
  | desert density zoned =>
    have hkind : ((desert density zoned).apply t).kind = t.kind := by
      cases zoned <;> exact Tile.replaceGround_kind h .desert density
    exact absurd (hkind.symm.trans htrees) h
  | rezone zone => exact absurd htrees h

end Touch

/-! ## The block of a species -/

namespace Layer

variable {settings : ImportSettings} {climate : Climate} {t : Tile} {channel : UInt8}
  {chosen : Species} {d d' : Draws}

theorem species_holds_of_bright (hbright : Gradient.dim ≤ channel)
    (h : species settings ⟨climate, .ok t⟩ channel d = .ok (chosen, d')) :
    (settings.species.range settings.climate).Holds chosen := by
  rw [species, if_neg (UInt8.not_lt.mpr hbright)] at h
  cases h
  exact SpeciesRange.offset_holds _ (Nat.mod_lt _ (SpeciesRange.count_pos _))

theorem species_holds_of_dark (hdark : channel < Gradient.dim)
    (h : species settings ⟨climate, .ok t⟩ channel d = .ok (chosen, d'))
    (hvalid : chosen.IsValid) : (SpeciesRange.native climate t.zone).Holds chosen := by
  rw [species, if_pos hdark] at h
  obtain ⟨native, hnative, h⟩ := Outcome.bind_eq_ok.mp h
  cases h
  exact SpeciesRange.native_holds (topByte_lt d.peek) hnative hvalid

/-- Trees `t'` as they are planted on land `t`, for a blue channel. A bright one picks from the
block that the settings have for their climate, a dark one leaves the species to the place. -/
structure Planted (settings : ImportSettings) (climate : Climate) (channel : UInt8) (t t' : Tile) :
    Prop where
  land : ∃ land, t.surface = .clear land ∧ land.ground ≠ .fields ∧ land.ground ≠ .rocks
  grove : ∃ grove, t'.surface = .trees grove ∧
    (Gradient.dim ≤ channel → (settings.species.range settings.climate).Holds grove.species) ∧
    (channel < Gradient.dim → (SpeciesRange.native climate t.zone).Holds grove.species)

theorem planted_of_brush {layer : Layer} {pixel : Rgb} {t' : Tile}
    (h : layer.brush settings ⟨climate, .ok t⟩ pixel d = .ok (some t', d'))
    (hne : t.kind ≠ .trees) (htrees : t'.kind = .trees) :
    layer = .trees ∧ Planted settings climate pixel.b t t' := by
  obtain ⟨_, touch, ⟨⟩, hplan, rfl, hsuits, rfl⟩ := touch_of_brush h
  obtain ⟨species, count, growth, rfl⟩ := Touch.eq_plant_of_trees hne htrees
  obtain ⟨hvalid, -, -, hplant⟩ := hsuits
  obtain ⟨land, hland, hground⟩ := Tile.canPlant_iff.mp hplant
  obtain ⟨_, _, _, d₂, _, -, -, -, hspecies, -, -, ⟨⟩⟩ := trees.plan_eq_some hplan
  refine ⟨rfl, ⟨land, hland, hground⟩, ?_⟩
  unfold Touch.apply Tile.plant
  rw [hland]
  exact ⟨_, rfl, fun hbright => species_holds_of_bright hbright hspecies,
    fun hdark => species_holds_of_dark hdark hspecies hvalid⟩

end Layer

namespace Canvas

/-- **Strokes succeed, and plant what belongs.** On a tile of the map the brush of every layer
succeeds, for all settings, pixels and sources, and no operation on the way leaves its width. If it
turns the tile into trees, it is the brush of the trees layer, the tile was clear land without
fields and rocks, and the species is of the block that the blue channel asks for. -/
theorem exists_stroke_planted (layer : Layer) (settings : ImportSettings) (c : Canvas) (pixel : Rgb)
    {i : Nat} (hi : i < c.map.sizeX * c.map.sizeY) :
    layer.brush settings (Spot.ofMap c.map i) pixel c.draws =
        (layer.checkedPlan settings (Spot.ofMap c.map i) pixel c.draws).stroke
          (Spot.ofMap c.map i) ∧
      ∃ t t' c', c.map.tile i = .ok t ∧ c.stroke layer settings pixel i = .ok c' ∧
        c'.map.tile i = .ok t' ∧
        (t.kind ≠ .trees → t'.kind = .trees →
          layer = .trees ∧ Layer.Planted settings c.map.climate pixel.b t t') := by
  refine ⟨by rw [Layer.checkedPlan_eq, Layer.brush_eq], ?_⟩
  obtain ⟨t, ht⟩ := TileMap.exists_tile_of_lt hi
  have hspot : Spot.ofMap c.map i = ⟨c.map.climate, .ok t⟩ := by rw [Spot.ofMap, ht]
  have htotal : Total (layer.brush settings ⟨c.map.climate, .ok t⟩ pixel) := layer.brush_total
  obtain ⟨o, d', hbrush⟩ := htotal c.draws
  have hstroke : c.stroke layer settings pixel i = .ok ⟨settle c.map i o, d'⟩ :=
    stroke_eq_ok.mpr ⟨o, hspot ▸ hbrush, rfl⟩
  refine ⟨t, o.getD t, _, ht, hstroke, settle_tile ht, fun hne htrees => ?_⟩
  cases o with
  | none => exact absurd htrees hne
  | some t' => exact Layer.planted_of_brush hbrush hne htrees

/-- In the desert of a tropic map the lowest word plants a cactus, whatever climate the settings are
for. -/
theorem cactus_planted_in_desert :
    let m := (TileMap.plain 1 1 .tropic (by decide) (by decide)).put 0
      { Tile.fresh with zone := .desert }
    ∃ c' t' grove, Canvas.stroke .trees {} ⟨m, .fixed 0⟩ ⟨0, 0xff, 0⟩ 0 = .ok c' ∧
      c'.map.tile 0 = .ok t' ∧ t'.surface = .trees grove ∧ grove.species = ⟨0x1b⟩ := by
  intro m
  obtain ⟨-, t, t', c', ht, hstroke, ht', hplanted⟩ :=
    exists_stroke_planted .trees {} ⟨m, .fixed 0⟩ ⟨0, 0xff, 0⟩ (by decide : 0 < m.sizeX * m.sizeY)
  have hrun : (Canvas.stroke .trees {} ⟨m, .fixed 0⟩ ⟨0, 0xff, 0⟩ 0).map
      (fun c => (c.map.tile 0).map Tile.kind) = .ok (.ok .trees) := by decide +kernel
  rw [hstroke, Except.map, ht', Except.map] at hrun
  obtain rfl : { Tile.fresh with zone := .desert } = t := Except.ok.inj ht
  have hkind : t'.kind = .trees := Except.ok.inj (Except.ok.inj hrun)
  obtain ⟨-, -, grove, hgrove, -, hdark⟩ := hplanted (by decide) hkind
  obtain ⟨hlow, hhigh⟩ := hdark (by decide)
  have hspecies : grove.species.id.toNat = 0x1b := Nat.le_antisymm (Nat.le_of_lt_succ hhigh) hlow
  exact ⟨c', t', grove, hstroke, ht', hgrove, congrArg Species.mk (UInt8.toNat_inj.mp hspecies)⟩

end Canvas

end MapPainter
