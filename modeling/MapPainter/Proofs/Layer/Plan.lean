import MapPainter.Proofs.Gradient
import MapPainter.Proofs.Layer.Touch

/-!
# Plans of brushes

A brush first makes up its mind and then touches the tile, if at all. Its plan says which touch
that is and how many words were drawn; four of the seven plans never look at the tile. Every brush
is its plan carried out (`Layer.brush_eq`), so what is said of plans and of touches is said of all
brushes.
-/

namespace MapPainter

open Raster (Rgb)

/-- What a brush is going to do to the tile under it, if anything, and the source after the draws
taken. -/
abbrev Plan := Except Fault (Option Touch × Draws)

/-- Carries a plan out on a spot. -/
def Plan.stroke (plan : Plan) (spot : Spot) : Stroke := do
  let (touch, d) ← plan
  match touch with
  | some touch => Stroke.change spot touch.apply d
  | none => Stroke.skip d

theorem Plan.stroke_eq_ok {plan : Plan} {spot : Spot} {o : Option Tile} {d : Draws} :
    plan.stroke spot = .ok (o, d) ↔
      ∃ touch, plan = .ok (touch, d) ∧
        match touch with
        | some touch => ∃ t, spot.tile = .ok t ∧ o = some (touch.apply t)
        | none => o = none := by
  cases plan with
  | error fault => simp [Plan.stroke]
  | ok plan =>
    obtain ⟨touch, d₀⟩ := plan
    cases touch with
    | none =>
      simp only [Plan.stroke, Stroke.skip, Outcome.ok_bind, Except.ok.injEq, Prod.mk.injEq]
      constructor
      · rintro ⟨rfl, rfl⟩
        exact ⟨none, ⟨rfl, rfl⟩, rfl⟩
      · rintro ⟨touch, ⟨rfl, rfl⟩, rfl⟩
        exact ⟨rfl, rfl⟩
    | some touch =>
      simp only [Plan.stroke, Stroke.change, Outcome.ok_bind, Outcome.bind_eq_ok,
        Outcome.pure_eq_ok, Except.ok.injEq, Prod.mk.injEq]
      constructor
      · rintro ⟨t, ht, rfl, rfl⟩
        exact ⟨some touch, ⟨rfl, rfl⟩, t, ht, rfl⟩
      · rintro ⟨touch, ⟨rfl, rfl⟩, t, ht, rfl⟩
        exact ⟨t, ht, rfl, rfl⟩

/-- A tile that is there takes every plan. -/
theorem Plan.stroke_tile_eq_ok {plan : Plan} {climate : Climate} {t : Tile} {o : Option Tile}
    {d : Draws} :
    plan.stroke ⟨climate, .ok t⟩ = .ok (o, d) ↔
      ∃ touch, plan = .ok (touch, d) ∧ o = touch.map (·.apply t) := by
  rw [Plan.stroke_eq_ok]
  refine exists_congr fun touch => and_congr_right fun _ => ?_
  cases touch with
  | none => exact Iff.rfl
  | some touch => simp

namespace Layer

/-- The density to which the red channel thins out grass, if it does. -/
def thinning (channel : UInt8) (d : Draws) : Except Fault (Option Nat × Draws) := do
  if channel < Gradient.dim then return (none, d)
  let (density, d) ← grassLevels.read channel d
  return (if density < 3 then some density.toNat else none, d)

/-- Whether a channel, when looked at, turns out set. -/
def isPresent (channel : UInt8) (d : Draws) : Except Fault (Bool × Draws) := do
  if channel < Gradient.dim then return (false, d)
  let (level, d) ← presence.read channel d
  return (decide (level ≠ 0), d)

def terrain.plan (spot : Spot) (pixel : Rgb) (d : Draws) : Plan := do
  let t ← spot.tile
  if !t.isLand then return (none, d)
  let (grass, d) ← thinning pixel.r d
  let (rough, d) ← isPresent pixel.g d
  let (rocks, d) ← isPresent pixel.b d
  return (some (.ground grass rough rocks), d)

def fields.plan (pixel : Rgb) (d : Draws) : Plan := do
  if pixel.r < Gradient.off then return (none, d)
  let (level, d) ← presence.read pixel.g d
  return (if level ≠ 0 then some (.field (fieldType pixel.r)) else none, d)

def water.plan (spot : Spot) (pixel : Rgb) (d : Draws) : Plan := do
  let t ← spot.tile
  match wantedWater pixel t.slope t.height with
  | some .canal => return (some (.canal d.peek), d.skip)
  | some .river => return (some (.river d.peek), d.skip)
  | some .sea => return (some .sea, d)
  | none => return (none, d)

def trees.plan (settings : ImportSettings) (spot : Spot) (pixel : Rgb) (d : Draws) : Plan := do
  let (growth, d) ← growth pixel.r d
  let (level, d) ← treeLevels.read pixel.g d
  let count := level - 1
  if count < 0 then return (none, d)
  let (species, d) ← species settings spot pixel.b d
  if !decide species.IsValid then return (none, d)
  let t ← spot.tile
  return (if t.canPlant true then some (.plant species count.toNat growth.toNat) else none, d)

def snow.plan (pixel : Rgb) (d : Draws) : Plan := do
  let (level, d) ← snowDepth.read pixel.b d
  return (if level - 1 < 0 then none else some (.snow (level - 1).toNat), d)

def desert.plan (pixel : Rgb) (d : Draws) : Plan := do
  let (level, d) ← desertDepth.read pixel.r d
  let density := level * 2 - 1
  return (if density < 0 then none
    else some (.desert density.toNat (decide (pixel.g > Gradient.on))), d)

def tropics.plan (pixel : Rgb) (d : Draws) : Plan := .ok ((wantedZone pixel).map .rezone, d)

/-- The plan of the brush of a layer. -/
def plan (layer : Layer) (settings : ImportSettings) (spot : Spot) (pixel : Rgb) (d : Draws) :
    Plan :=
  match layer with
  | terrain => terrain.plan spot pixel d
  | fields => fields.plan pixel d
  | water => water.plan spot pixel d
  | trees => trees.plan settings spot pixel d
  | snow => snow.plan pixel d
  | desert => desert.plan pixel d
  | tropics => tropics.plan pixel d

/-! ## Every brush is its plan -/

variable (settings : ImportSettings) (spot : Spot) (pixel : Rgb) (d : Draws)

theorem thinGrass_eq (channel : UInt8) (t : Tile) :
    thinGrass channel t d =
      (thinning channel d >>= fun (grass, d) => .ok (Touch.thin grass t, d)) := by
  unfold thinGrass thinning
  split
  · rfl
  · cases grassLevels.read channel d with
    | error fault => rfl
    | ok read =>
      simp only [Outcome.ok_bind, Outcome.pure_eq_ok]
      split <;> rfl

theorem layIfPresent_eq (channel : UInt8) (ground : ClearGround) (t : Tile) :
    layIfPresent channel ground t d =
      (isPresent channel d >>= fun (present, d) => .ok (Touch.layIf present ground t, d)) := by
  unfold layIfPresent isPresent Touch.layIf
  split
  · rfl
  · cases presence.read channel d with
    | error fault => rfl
    | ok read => simp

theorem terrain.brush_eq :
    terrain.brush spot pixel d = (terrain.plan spot pixel d).stroke spot := by
  unfold terrain.brush terrain.plan Plan.stroke Stroke.change
  cases spot.tile with
  | error fault => rfl
  | ok t =>
    simp only [Outcome.ok_bind, thinGrass_eq, layIfPresent_eq]
    split
    · rfl
    · cases thinning pixel.r d with
      | error fault => rfl
      | ok grass =>
        simp only [Outcome.ok_bind]
        cases isPresent pixel.g grass.2 with
        | error fault => rfl
        | ok rough =>
          simp only [Outcome.ok_bind]
          cases isPresent pixel.b rough.2 <;> rfl

theorem fields.brush_eq : fields.brush spot pixel d = (fields.plan pixel d).stroke spot := by
  unfold fields.brush fields.plan Plan.stroke
  split
  · rfl
  · cases presence.read pixel.g d with
    | error fault => rfl
    | ok read =>
      simp only [Outcome.ok_bind]
      split <;> rfl

theorem water.brush_eq : water.brush spot pixel d = (water.plan spot pixel d).stroke spot := by
  unfold water.brush water.plan Plan.stroke Stroke.change
  cases spot.tile with
  | error fault => rfl
  | ok t =>
    simp only [Outcome.ok_bind]
    cases wantedWater pixel t.slope t.height with
    | none => rfl
    | some cls => cases cls <;> rfl

theorem trees.brush_eq :
    trees.brush settings spot pixel d = (trees.plan settings spot pixel d).stroke spot := by
  unfold trees.brush trees.plan Plan.stroke Stroke.change
  cases growth pixel.r d with
  | error fault => rfl
  | ok growth =>
    simp only [Outcome.ok_bind]
    cases treeLevels.read pixel.g growth.2 with
    | error fault => rfl
    | ok read =>
      simp only [Outcome.ok_bind]
      split
      · rfl
      · cases species settings spot pixel.b read.2 with
        | error fault => rfl
        | ok species =>
          simp only [Outcome.ok_bind]
          by_cases hvalid : species.1.IsValid
          · -- the check of the edit is the one just made
            cases spot.tile with
            | error fault => simp [hvalid]
            | ok t =>
              cases hplant : t.canPlant true with
              | true => simp [hvalid, hplant, Edit.check, Edit.apply, Touch.apply]
              | false => simp [hvalid, hplant, Stroke.skip]
          · simp [hvalid, Stroke.skip]

theorem snow.brush_eq : snow.brush spot pixel d = (snow.plan pixel d).stroke spot := by
  unfold snow.brush snow.plan Plan.stroke
  cases snowDepth.read pixel.b d with
  | error fault => rfl
  | ok read =>
    simp only [Outcome.ok_bind]
    split <;> rfl

theorem desert.brush_eq : desert.brush spot pixel d = (desert.plan pixel d).stroke spot := by
  unfold desert.brush desert.plan Plan.stroke
  cases desertDepth.read pixel.r d with
  | error fault => rfl
  | ok read =>
    simp only [Outcome.ok_bind]
    split
    · rfl
    · refine congrArg (fun change => Stroke.change spot change read.2) (funext fun t => ?_)
      simp only [Touch.apply, decide_eq_true_eq]

theorem tropics.brush_eq : tropics.brush spot pixel d = (tropics.plan pixel d).stroke spot := by
  unfold tropics.brush tropics.plan
  cases wantedZone pixel <;> rfl

/-- A brush carries out its plan. -/
theorem brush_eq (layer : Layer) :
    layer.brush settings spot pixel d = (layer.plan settings spot pixel d).stroke spot := by
  cases layer with
  | terrain => exact terrain.brush_eq spot pixel d
  | fields => exact fields.brush_eq spot pixel d
  | water => exact water.brush_eq spot pixel d
  | trees => exact trees.brush_eq settings spot pixel d
  | snow => exact snow.brush_eq spot pixel d
  | desert => exact desert.brush_eq spot pixel d
  | tropics => exact tropics.brush_eq spot pixel d

end Layer

end MapPainter
