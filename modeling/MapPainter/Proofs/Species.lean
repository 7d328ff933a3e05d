import MapPainter.TileMap

/-!
# Blocks of species

What is picked from a block of species is a species of that block: by an offset below its count
(`SpeciesRange.offset_holds`), or by any byte of randomness (`SpeciesRange.pick_holds`). A species
that grows by itself is one of the block of its climate, and on a tropic map of its zone
(`SpeciesRange.native_holds`).
-/

namespace MapPainter

theorem Species.offset_id {base : Species} {n : Nat} (h : base.id.toNat + n < 256) :
    (base.offset n).id.toNat = base.id.toNat + n := by
  rw [offset, if_pos h]
  exact UInt8.toNat_ofNat_of_lt' h

namespace SpeciesRange

/-- The species is one of the block. -/
def Holds (r : SpeciesRange) (s : Species) : Prop :=
  r.base.id.toNat ≤ s.id.toNat ∧ s.id.toNat < r.base.id.toNat + r.count

/-- The block that grows by itself in a climate. On a tropic map the zone decides; in the desert it
is the cactus alone. -/
def native (climate : Climate) (zone : Zone) : SpeciesRange :=
  match climate with
  | .temperate => .temperate
  | .arctic => .subArctic
  | .toyland => .toyland
  | .tropic =>
    match zone with
    | .normal => .subTropical
    | .desert => .cactus
    | .rainforest => .rainforest

variable (r : SpeciesRange) {s : Species} {n seed : Nat}

theorem offset_holds (h : n < r.count) : r.Holds (r.base.offset n) := by
  have hfits := r.fits
  unfold Holds
  rw [Species.offset_id (by omega)]
  omega

theorem base_holds : r.Holds r.base :=
  ⟨Nat.le_refl _, Nat.lt_add_of_pos_right r.count_pos⟩

theorem scaled_lt (hseed : seed < 256) : seed * r.count / 256 < r.count :=
  Nat.div_lt_of_lt_mul (Nat.mul_lt_mul_of_pos_right hseed r.count_pos)

theorem pick_holds (hseed : seed < 256) : r.Holds (r.pick seed) :=
  r.offset_holds (r.scaled_lt hseed)

theorem native_holds {climate : Climate} {t : Tile} (hseed : seed < 256)
    (h : TileMap.nativeSpecies climate (.ok t) seed = .ok s) (hvalid : s.IsValid) :
    (native climate t.zone).Holds s := by
  cases climate with
  | temperate => exact Except.ok.inj h ▸ pick_holds _ hseed
  | arctic => exact Except.ok.inj h ▸ pick_holds _ hseed
  | toyland => exact Except.ok.inj h ▸ pick_holds _ hseed
  | tropic =>
    have hnative : t.nativeSpecies seed = s := Except.ok.inj h
    unfold Tile.nativeSpecies at hnative
    unfold native
    cases hzone : t.zone with
    | normal =>
      rw [hzone] at hnative
      exact hnative ▸ pick_holds _ hseed
    | rainforest =>
      rw [hzone] at hnative
      exact hnative ▸ pick_holds _ hseed
    | desert =>
      rw [hzone] at hnative
      dsimp only at hnative
      split at hnative
      · exact absurd hnative.symm hvalid
      · exact hnative ▸ base_holds _

end SpeciesRange

end MapPainter
