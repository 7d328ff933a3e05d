import MapPainter.Proofs.Gradient.Ends
import MapPainter.Proofs.Layer.Plan

/-!
# Brushes that chance does not move

A pixel without middle tones leaves a brush nothing to decide by chance: its plan is a steady
reading (`Layer.plan_steady`). There are two exceptions. The bits of a canal or a river are the word
itself, so steady is what is planned but for these bits (`Touch.still`). And dark blue plants trees
of a random species, so for the trees layer a pixel must not be dark blue.
-/

namespace MapPainter

open Raster (Rgb)

/-- Every channel of the pixel is as good as "off" or "on". -/
structure Raster.Rgb.Saturated (pixel : Rgb) : Prop where
  r : Gradient.Saturated pixel.r
  g : Gradient.Saturated pixel.g
  b : Gradient.Saturated pixel.b

/-- The tile without the random bits of a canal or a river. -/
def Tile.still (t : Tile) : Tile :=
  match t.surface with
  | .water ⟨.canal, _⟩ => { t with surface := .water ⟨.canal, 0⟩ }
  | .water ⟨.river, _⟩ => { t with surface := .water ⟨.river, 0⟩ }
  | _ => t

namespace Touch

/-- The touch without the random bits of a canal or a river. -/
def still : Touch → Touch
  | canal _ => canal 0
  | river _ => river 0
  | touch => touch

theorem flood_still (t : Tile) {cls : WaterClass} (hcls : cls ≠ .sea) (owner : Owner)
    (bits bits' : UInt32) :
    (t.flood cls owner bits).still = (t.flood cls owner bits').still := by
  obtain ⟨height, slope, owner₀, zone, surface⟩ := t
  cases cls with
  | sea => exact absurd rfl hcls
  | canal | river => cases surface <;> rfl

/-- The bits of a touch show in the bits of the tile only. -/
theorem apply_still (touch : Touch) (t : Tile) :
    (touch.still.apply t).still = (touch.apply t).still := by
  cases touch with
  | canal bits => exact flood_still t (by decide) _ 0 bits
  | river bits => exact flood_still t (by decide) _ 0 bits
  | _ => rfl

theorem getD_still {touch touch' : Option Touch} (h : touch'.map still = touch.map still)
    (t : Tile) :
    ((touch'.map (·.apply t)).getD t).still = ((touch.map (·.apply t)).getD t).still := by
  cases touch with
  | none =>
    obtain rfl := Option.map_eq_none_iff.mp h
    rfl
  | some touch =>
    obtain ⟨touch', rfl, hsame⟩ := Option.map_eq_some_iff.mp h
    calc (touch'.apply t).still = (touch'.still.apply t).still := (apply_still touch' t).symm
      _ = (touch.still.apply t).still := by rw [hsame]
      _ = (touch.apply t).still := apply_still touch t

end Touch

namespace Layer

variable {settings : ImportSettings} {spot : Spot} {pixel : Rgb} {channel : UInt8}

theorem rising_steady (levels : Int) (h : Gradient.Saturated channel) :
    Steady ((Gradient.rising levels).read channel) :=
  Gradient.read_steady rfl rfl h

theorem falling_steady (levels : Int) (h : Gradient.Saturated channel) :
    Steady ((Gradient.falling levels).read channel) :=
  Gradient.read_steady rfl rfl h

theorem thinning_steady (h : Gradient.Saturated channel) : Steady (thinning channel) :=
  .ite (.pure none) ((falling_steady 3 h).bind fun _ => .pure _)

theorem isPresent_steady (h : Gradient.Saturated channel) : Steady (isPresent channel) :=
  .ite (.pure false) ((rising_steady 1 h).bind fun _ => .pure _)

theorem terrain.plan_steady (h : pixel.Saturated) :
    Steady (terrain.plan spot pixel) := by
  unfold terrain.plan
  cases spot.tile with
  | error fault => exact .error fault
  | ok t =>
    exact .ite (.pure none) <| (thinning_steady h.r).bind fun grass =>
      (isPresent_steady h.g).bind fun rough => (isPresent_steady h.b).bind fun rocks => .pure _

theorem fields.plan_steady (h : pixel.Saturated) : Steady (fields.plan pixel) :=
  .ite (.pure none) ((rising_steady 1 h.g).bind fun _ => .pure _)

theorem snow.plan_steady (h : pixel.Saturated) : Steady (snow.plan pixel) :=
  (rising_steady 4 h.b).bind fun _ => .pure _

theorem desert.plan_steady (h : pixel.Saturated) : Steady (desert.plan pixel) :=
  (rising_steady 2 h.r).bind fun _ => .pure _

theorem tropics.plan_steady : Steady (tropics.plan pixel) := .pure _

theorem growth_steady (h : Gradient.Saturated channel) : Steady (growth channel) :=
  .ite (.pure _) (rising_steady 6 h)

theorem species_steady (h : Gradient.dim ≤ channel) : Steady (species settings spot channel) := by
  unfold species
  simp only [if_neg (UInt8.not_lt.mpr h)]
  exact .pure _

theorem trees.plan_steady (h : pixel.Saturated) (hbright : Gradient.dim ≤ pixel.b) :
    Steady (trees.plan settings spot pixel) :=
  (growth_steady h.r).bind fun growth => (rising_steady 4 h.g).bind fun level =>
    .ite (.pure none) <| (species_steady hbright).bind fun species => .ite (.pure none) <| by
      cases spot.tile with
      | error fault => exact .error fault
      | ok t => exact .pure _

/-- Canals and rivers take a word, and only their bits tell which. -/
theorem water.plan_steady :
    Steady fun d => (water.plan spot pixel d).map fun (touch, d) => (touch.map Touch.still, d) := by
  unfold water.plan
  cases spot.tile with
  | error fault => exact .error fault
  | ok t =>
    simp only [Outcome.ok_bind]
    cases wantedWater pixel t.slope t.height with
    | none => exact .pure none
    | some cls =>
      cases cls with
      | sea => exact .pure (some Touch.sea)
      | canal => exact ⟨1, .ok (some (.canal 0)), fun _ => rfl⟩
      | river => exact ⟨1, .ok (some (.river 0)), fun _ => rfl⟩

/-- A pixel without middle tones settles what a brush does, and how many words it takes for it. -/
theorem plan_steady (layer : Layer) (h : pixel.Saturated)
    (hbright : layer = .trees → Gradient.dim ≤ pixel.b) :
    Steady fun d =>
      (layer.plan settings spot pixel d).map fun (touch, d) => (touch.map Touch.still, d) := by
  cases layer with
  | terrain => exact (terrain.plan_steady h).map _
  | fields => exact (fields.plan_steady h).map _
  | water => exact water.plan_steady
  | trees => exact (trees.plan_steady h (hbright rfl)).map _
  | snow => exact (snow.plan_steady h).map _
  | desert => exact (desert.plan_steady h).map _
  | tropics => exact tropics.plan_steady.map _

/-- A brush with such a pixel takes as many words from every source, and makes the same of the tile
but for random bits. -/
theorem brush_steady {layer : Layer} {climate : Climate} {t : Tile} {o : Option Tile}
    {d d' : Draws} (h : pixel.Saturated) (hbright : layer = .trees → Gradient.dim ≤ pixel.b)
    (hbrush : layer.brush settings ⟨climate, .ok t⟩ pixel d = .ok (o, d')) :
    ∃ n, d' = d.advance n ∧ ∀ e, ∃ o',
      layer.brush settings ⟨climate, .ok t⟩ pixel e = .ok (o', e.advance n) ∧
        (o'.getD t).still = (o.getD t).still := by
  rw [brush_eq] at hbrush
  obtain ⟨touch, hplan, rfl⟩ := Plan.stroke_tile_eq_ok.mp hbrush
  obtain ⟨n, hd, hsteady⟩ := (layer.plan_steady h hbright).eq_ok
    (Outcome.map_eq_ok.mpr ⟨_, hplan, rfl⟩)
  refine ⟨n, hd, fun e => ?_⟩
  obtain ⟨⟨touch', e'⟩, hplan', heq⟩ := Outcome.map_eq_ok.mp (hsteady e)
  obtain ⟨hsame, rfl⟩ := Prod.mk.inj heq
  refine ⟨touch'.map (·.apply t), ?_, Touch.getD_still hsame t⟩
  rw [brush_eq]
  exact Plan.stroke_tile_eq_ok.mpr ⟨touch', hplan', rfl⟩

end Layer

end MapPainter
