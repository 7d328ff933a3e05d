import MapPainter.Proofs.Layer.Way

/-!
# Zones and the other layers

The zone of a tile stands beside its surface. Only the desert and tropics layers write it, and only
the trees of a tropic map read it. So a new zone and a touch of any other layer make the same tile
in both orders (`Touch.attempt_setZone`), and the brushes of the other layers, trees apart, ask a
tile for no more than its site and whether it is land (`Layer.inStep_of_site`).
-/

namespace MapPainter

namespace Tile

variable (t : Tile) (zone : Zone)

theorem setZone_replaceGround (ground : ClearGround) (density : Nat) :
    (t.replaceGround ground density).setZone zone =
      (t.setZone zone).replaceGround ground density := by
  obtain ⟨height, slope, owner, zone₀, surface⟩ := t
  cases surface <;> cases ground <;> rfl

theorem setZone_makeField (fieldType : Nat) :
    (t.makeField fieldType).setZone zone = (t.setZone zone).makeField fieldType := by
  obtain ⟨height, slope, owner, zone₀, surface⟩ := t
  cases surface <;> rfl

theorem setZone_flood (cls : WaterClass) (owner : Owner) (bits : UInt32) :
    (t.flood cls owner bits).setZone zone = (t.setZone zone).flood cls owner bits := by
  obtain ⟨height, slope, owner, zone₀, surface⟩ := t
  cases surface <;> rfl

theorem setZone_snowOver (density : Nat) :
    (Layer.snowOver density t).setZone zone = Layer.snowOver density (t.setZone zone) := by
  obtain ⟨height, slope, owner, zone₀, surface⟩ := t
  cases surface with
  | clear land =>
    obtain ⟨ground, density₀, snow, fieldType⟩ := land
    cases ground <;> cases snow <;> rfl
  | trees grove =>
    obtain ⟨species, count, growth, ground, density₀⟩ := grove
    cases ground <;> rfl
  | water water => rfl
  | built => rfl

end Tile

namespace Touch

variable (t : Tile) (zone : Zone)

theorem thin_setZone (grass : Option Nat) :
    thin grass (t.setZone zone) = (thin grass t).setZone zone := by
  cases grass with
  | none => rfl
  | some density => exact (t.setZone_replaceGround zone .grass density).symm

theorem layIf_setZone (present : Bool) (ground : ClearGround) :
    layIf present ground (t.setZone zone) = (layIf present ground t).setZone zone := by
  cases present with
  | false => rfl
  | true => exact (t.setZone_replaceGround zone ground 3).symm

/-- Only touches that write a zone themselves get in the way of a new one. -/
theorem attempt_setZone {touch : Touch} (hdesert : touch.layer ≠ .desert)
    (htropics : touch.layer ≠ .tropics) :
    touch.attempt (t.setZone zone) = (touch.attempt t).setZone zone := by
  cases touch with
  | ground grass rough rocks =>
    calc layIf rocks .rocks (layIf rough .rough (thin grass (t.setZone zone)))
      _ = layIf rocks .rocks ((layIf rough .rough (thin grass t)).setZone zone) := by
        rw [thin_setZone, layIf_setZone]
      _ = (layIf rocks .rocks (layIf rough .rough (thin grass t))).setZone zone :=
        layIf_setZone _ zone rocks .rocks
  | field fieldType => exact (t.setZone_makeField zone fieldType).symm
  | canal bits | river bits => exact (t.setZone_flood zone _ _ bits).symm
  | sea => exact (t.setZone_flood zone _ _ 0).symm
  | plant species count growth => exact (Tile.setZone_grow species count growth zone).symm
  | snow density => exact (t.setZone_snowOver zone density).symm
  | desert density zoned => exact absurd rfl hdesert
  | rezone later => exact absurd rfl htropics

end Touch

namespace Layer

variable {layer : Layer}

/-- A way of the tropics layer and one of a layer that writes no zone lead to the same tile in both
orders. -/
theorem Way.comm_of_tropics {f g : Tile → Tile} (hf : Way .tropics f) (hg : layer.Way g)
    (hdesert : layer ≠ .desert) (htropics : layer ≠ .tropics) (t : Tile) : g (f t) = f (g t) := by
  cases hf with
  | idle => rfl
  | attempt zoned hzoned =>
    cases hg with
    | idle => rfl
    | attempt touch htouch =>
      cases zoned with
      | rezone zone => exact Touch.attempt_setZone t zone (htouch ▸ hdesert) (htouch ▸ htropics)
      | _ => cases hzoned

/-- All brushes but that of the trees are in step on tiles of one site that are land or are not. -/
theorem inStep_of_site {settings : ImportSettings} {climate : Climate} {pixel : Raster.Rgb}
    {t t' : Tile} (hlayer : layer ≠ .trees) (hsite : t'.site = t.site)
    (hland : t'.isLand = t.isLand) : layer.InStep settings climate pixel t t' := by
  refine inStep_of_plan_eq hlayer fun d => ?_
  cases layer with
  | terrain => exact terrain.plan_congr hland
  | water => exact water.plan_congr hsite
  | trees => exact absurd rfl hlayer
  | fields | snow | desert | tropics => rfl

end Layer

end MapPainter
