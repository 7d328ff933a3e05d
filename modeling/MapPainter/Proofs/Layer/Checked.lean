import MapPainter.Proofs.Gradient.Checked
import MapPainter.Proofs.Layer.Suits
import MapPainter.Proofs.Species

/-!
# Plans in bounded arithmetic

Brushes compute with bytes and with words. Every difference, product, remainder and narrowing on
the way to a plan could leave its width, and every species that is planted could be invalid.
`Layer.checkedPlan` looks at each of them, and is the plan all the same (`Layer.checkedPlan_eq`):
what is checked holds because of the levels of the gradients, the guards on dark channels and the
bounds of a block of species. On a tile that is there every plan comes to an end
(`Layer.plan_total`).
-/

namespace MapPainter

open Raster (Rgb)

namespace Word

/-- An integer that has to fit in a byte. -/
def byte (i : Int) : Except Fault Nat :=
  if 0 ≤ i ∧ i < 256 then .ok i.toNat else .error .overflow

/-- A remainder. -/
def mod (a b : Nat) : Except Fault Nat := if b = 0 then .error .zeroDivisor else .ok (a % b)

theorem byte_of_mem {i : Int} (hlow : 0 ≤ i) (hhigh : i < 256) : byte i = .ok i.toNat :=
  if_pos ⟨hlow, hhigh⟩

theorem mod_of_pos {a b : Nat} (h : 0 < b) : mod a b = .ok (a % b) :=
  if_neg (Nat.ne_of_gt h)

end Word

/-! ## Reading a channel, picking from a block -/

namespace Gradient

variable {g : Gradient} {value : UInt8} {d : Draws}

def checkedRead (g : Gradient) (value : UInt8) (d : Draws) : Except Fault (Int × Draws) := do
  let level ← g.checkedLevel value.toNat d.peek
  -- the draw has to be the same as a signed word
  let _ ← Word.fitSigned (Draws.scale d.peek g.range)
  return (level, d.skip)

theorem OnBytes.checkedRead_eq (h : g.OnBytes) (hlevels : Word.Signed g.levels) :
    g.checkedRead value d = g.read value d := by
  have hdraw : Word.Signed (Draws.scale d.peek g.range) := by
    have hrange := h.range_le
    have hscale := Draws.scale_le d.peek g.range
    unfold Word.Signed
    omega
  rw [checkedRead, checkedLevel_eq hlevels, Word.fitSigned_of_signed hdraw]
  rfl

theorem rising_onBytes (levels : Int) : (rising levels).OnBytes :=
  ⟨by simp [rising], by simp [rising]⟩

theorem falling_onBytes (levels : Int) : (falling levels).OnBytes :=
  ⟨by simp [falling], by simp [falling]⟩

theorem OnBytes.read_total (h : g.OnBytes) (hlevels : 0 < g.levels)
    (hroom : g.levels ≤ (g.stop - g.start).natAbs) : Total (g.read value) := fun d =>
  have ⟨level, hread⟩ := (h.read_succeeds_iff (d := d)).mpr ⟨hlevels, hroom⟩
  ⟨level, d.skip, hread⟩

theorem rising_total {levels : Int} (hlevels : 0 < levels ∧ levels ≤ 225) :
    Total ((rising levels).read value) :=
  (rising_onBytes levels).read_total hlevels.1 hlevels.2

theorem falling_total {levels : Int} (hlevels : 0 < levels ∧ levels ≤ 225) :
    Total ((falling levels).read value) :=
  (falling_onBytes levels).read_total hlevels.1 hlevels.2

end Gradient

namespace SpeciesRange

def checkedPick (r : SpeciesRange) (seed : Nat) : Except Fault Species := do
  let scaled ← Word.fit 32 (seed * r.count)
  let offset ← Word.fit 8 (scaled / 256)
  return r.base.offset offset

theorem checkedPick_eq (r : SpeciesRange) {seed : Nat} (hseed : seed < 256) :
    r.checkedPick seed = .ok (r.pick seed) := by
  have hfits := r.fits
  have hoffset := r.scaled_lt hseed
  have hproduct : seed * r.count ≤ 255 * 255 := Nat.mul_le_mul (by omega) (by omega)
  rw [checkedPick, Word.fit_of_lt (by omega), Outcome.ok_bind, Word.fit_of_lt (by omega)]
  rfl

end SpeciesRange

namespace Layer

/-! ## The checked plans

Each is its namesake with every operation checked. Water and tropics do not compute. -/

def checkedThinning (channel : UInt8) (d : Draws) : Except Fault (Option Nat × Draws) := do
  if channel < Gradient.dim then return (none, d)
  let (density, d) ← grassLevels.checkedRead channel d
  if density < 3 then
    let density ← Word.byte density
    return (some density, d)
  else return (none, d)

def checkedPresence (channel : UInt8) (d : Draws) : Except Fault (Bool × Draws) := do
  if channel < Gradient.dim then return (false, d)
  let (level, d) ← presence.checkedRead channel d
  return (decide (level ≠ 0), d)

def terrain.checkedPlan (spot : Spot) (pixel : Rgb) (d : Draws) : Plan := do
  let t ← spot.tile
  if !t.isLand then return (none, d)
  let (grass, d) ← checkedThinning pixel.r d
  let (rough, d) ← checkedPresence pixel.g d
  let (rocks, d) ← checkedPresence pixel.b d
  return (some (.ground grass rough rocks), d)

def checkedFieldType (channel : UInt8) : Except Fault Nat := do
  let step ← Word.fitSigned (Int.ofNat (channel.toNat / 16) - 1)
  Word.byte (step % fieldTypes)

def fields.checkedPlan (pixel : Rgb) (d : Draws) : Plan := do
  if pixel.r < Gradient.off then return (none, d)
  let fieldType ← checkedFieldType pixel.r
  let (level, d) ← presence.checkedRead pixel.g d
  return (if level ≠ 0 then some (.field fieldType) else none, d)

def checkedGrowth (channel : UInt8) (d : Draws) : Except Fault (Int × Draws) :=
  if channel < Gradient.dim then .ok (defaultGrowth, d) else growthLevels.checkedRead channel d

def checkedNative (climate : Climate) (tile : Except Fault Tile) (seed : Nat) :
    Except Fault Species :=
  match climate with
  | .temperate => SpeciesRange.temperate.checkedPick seed
  | .arctic => SpeciesRange.subArctic.checkedPick seed
  | .toyland => SpeciesRange.toyland.checkedPick seed
  | .tropic => do
    let t ← tile
    match t.zone with
    | .normal => SpeciesRange.subTropical.checkedPick seed
    | .desert => .ok (if seed > 12 then .invalid else SpeciesRange.cactus.base)
    | .rainforest => SpeciesRange.rainforest.checkedPick seed

/-- The species that a bright channel picks from a block. -/
def checkedChoice (range : SpeciesRange) (channel : UInt8) : Except Fault Species := do
  let step ← Word.sub (channel.toNat / 16) 1
  let offset ← Word.mod step range.count
  return range.base.offset offset

def checkedSpecies (settings : ImportSettings) (spot : Spot) (channel : UInt8) (d : Draws) :
    Except Fault (Species × Draws) :=
  if channel < Gradient.dim then do
    let seed ← Word.fit 8 (d.peek >>> 24).toNat
    let species ← checkedNative spot.climate spot.tile seed
    return (species, d.skip)
  else do
    let species ← checkedChoice (settings.species.range settings.climate) channel
    return (species, d)

/-- The planting itself, where both numbers become bytes. -/
def checkedPlanting (species : Species) (count growth : Int) : Except Fault Touch := do
  let count ← Word.byte count
  let growth ← Word.byte growth
  (Edit.plant species count growth).check
  return .plant species count growth

def trees.checkedPlan (settings : ImportSettings) (spot : Spot) (pixel : Rgb) (d : Draws) :
    Plan := do
  let (growth, d) ← checkedGrowth pixel.r d
  let (level, d) ← treeLevels.checkedRead pixel.g d
  let count ← Word.fitSigned (level - 1)
  if count < 0 then return (none, d)
  let (species, d) ← checkedSpecies settings spot pixel.b d
  if !decide species.IsValid then return (none, d)
  let t ← spot.tile
  if t.canPlant true then
    let touch ← checkedPlanting species count growth
    return (some touch, d)
  else return (none, d)

def snow.checkedPlan (pixel : Rgb) (d : Draws) : Plan := do
  let (level, d) ← snowDepth.checkedRead pixel.b d
  let density ← Word.fitSigned (level - 1)
  if density < 0 then return (none, d)
  let density ← Word.byte density
  return (some (.snow density), d)

def desert.checkedPlan (pixel : Rgb) (d : Draws) : Plan := do
  let (level, d) ← desertDepth.checkedRead pixel.r d
  let doubled ← Word.fitSigned (level * 2)
  let density ← Word.fitSigned (doubled - 1)
  if density < 0 then return (none, d)
  let density ← Word.byte density
  return (some (.desert density (decide (pixel.g > Gradient.on))), d)

def checkedPlan (layer : Layer) (settings : ImportSettings) (spot : Spot) (pixel : Rgb)
    (d : Draws) : Plan :=
  match layer with
  | terrain => terrain.checkedPlan spot pixel d
  | fields => fields.checkedPlan pixel d
  | water => water.plan spot pixel d
  | trees => trees.checkedPlan settings spot pixel d
  | snow => snow.checkedPlan pixel d
  | desert => desert.checkedPlan pixel d
  | tropics => tropics.plan pixel d

/-! ## No check fails -/

section

variable (settings : ImportSettings) (spot : Spot) (pixel : Rgb) (channel : UInt8) (d : Draws)

theorem checkedThinning_eq : checkedThinning channel d = thinning channel d := by
  unfold checkedThinning thinning
  rw [grassLevels, (Gradient.falling_onBytes 3).checkedRead_eq (by decide)]
  split
  · rfl
  · cases hread : (Gradient.falling 3).read channel d with
    | error fault => rfl
    | ok read =>
      have hlevel : 0 ≤ read.1 ∧ read.1 ≤ 3 := Gradient.read_mem hread
      simp only [Outcome.ok_bind]
      split
      · rw [Word.byte_of_mem hlevel.1 (by omega)]
        rfl
      · rfl

theorem checkedPresence_eq : checkedPresence channel d = isPresent channel d := by
  unfold checkedPresence isPresent
  rw [presence, (Gradient.rising_onBytes 1).checkedRead_eq (by decide)]

theorem terrain.checkedPlan_eq : terrain.checkedPlan spot pixel d = terrain.plan spot pixel d := by
  unfold terrain.checkedPlan terrain.plan
  simp only [checkedThinning_eq, checkedPresence_eq]

theorem checkedFieldType_eq : checkedFieldType channel = .ok (fieldType channel) := by
  have hchannel := channel.toNat_lt
  have hstep : Word.Signed (Int.ofNat (channel.toNat / 16) - 1) := by
    rw [Int.ofNat_eq_natCast]
    unfold Word.Signed
    omega
  rw [checkedFieldType, Word.fitSigned_of_signed hstep, Outcome.ok_bind]
  unfold fieldType fieldTypes
  exact Word.byte_of_mem (by omega) (by omega)

theorem fields.checkedPlan_eq : fields.checkedPlan pixel d = fields.plan pixel d := by
  unfold fields.checkedPlan fields.plan
  rw [checkedFieldType_eq, presence, (Gradient.rising_onBytes 1).checkedRead_eq (by decide)]
  rfl

theorem checkedGrowth_eq : checkedGrowth channel d = growth channel d := by
  unfold checkedGrowth growth
  rw [growthLevels, (Gradient.rising_onBytes 6).checkedRead_eq (by decide)]

theorem checkedNative_eq (climate : Climate) (tile : Except Fault Tile) {seed : Nat}
    (hseed : seed < 256) :
    checkedNative climate tile seed = TileMap.nativeSpecies climate tile seed := by
  unfold checkedNative TileMap.nativeSpecies
  simp only [SpeciesRange.checkedPick_eq _ hseed]
  cases climate with
  | tropic =>
    cases tile with
    | error fault => rfl
    | ok t =>
      simp only [Outcome.ok_bind, Except.map, Tile.nativeSpecies]
      cases t.zone <;> rfl
  | _ => rfl

theorem checkedChoice_eq (range : SpeciesRange) (h : Gradient.dim ≤ channel) :
    checkedChoice range channel = .ok (pickedSpecies range channel) := by
  have hdim : 16 ≤ channel.toNat := UInt8.le_iff_toNat_le.mp h
  rw [checkedChoice, Word.sub_of_le (by omega), Outcome.ok_bind, Word.mod_of_pos range.count_pos]
  rfl

theorem topByte_lt (w : UInt32) : (w >>> 24).toNat < 256 := by
  have hw := w.toNat_lt
  rw [UInt32.toNat_shiftRight]
  change w.toNat >>> 24 < 256
  rw [Nat.shiftRight_eq_div_pow]
  omega

theorem checkedSpecies_eq :
    checkedSpecies settings spot channel d = species settings spot channel d := by
  unfold checkedSpecies species
  split
  case isTrue =>
    have hseed := topByte_lt d.peek
    rw [Word.fit_of_lt hseed, Outcome.ok_bind, checkedNative_eq _ _ hseed]
  case isFalse hbright =>
    rw [checkedChoice_eq _ _ (UInt8.not_lt.mp hbright)]
    rfl

theorem checkedPlanting_eq {species : Species} {count growth : Int} (hvalid : species.IsValid)
    (hcount : 0 ≤ count ∧ count < 256) (hgrowth : 0 ≤ growth ∧ growth < 256) :
    checkedPlanting species count growth = .ok (.plant species count.toNat growth.toNat) := by
  rw [checkedPlanting, Word.byte_of_mem hcount.1 hcount.2, Outcome.ok_bind,
    Word.byte_of_mem hgrowth.1 hgrowth.2, Outcome.ok_bind, Edit.check, if_pos hvalid]
  rfl

theorem trees.checkedPlan_eq :
    trees.checkedPlan settings spot pixel d = trees.plan settings spot pixel d := by
  unfold trees.checkedPlan trees.plan
  rw [checkedGrowth_eq]
  cases hgrowth : growth pixel.r d with
  | error fault => simp only [Outcome.error_bind]
  | ok growth =>
    have hstage := growth_mem hgrowth
    simp only [Outcome.ok_bind]
    rw [treeLevels, (Gradient.rising_onBytes 4).checkedRead_eq (by decide)]
    cases hread : (Gradient.rising 4).read pixel.g growth.2 with
    | error fault => rfl
    | ok read =>
      have hlevel : 0 ≤ read.1 ∧ read.1 ≤ 4 := Gradient.read_mem hread
      have hcount : Word.Signed (read.1 - 1) := ⟨by omega, by omega⟩
      simp only [Outcome.ok_bind, Word.fitSigned_of_signed hcount, checkedSpecies_eq]
      split
      case isTrue => rfl
      case isFalse hplanted =>
        -- the species is the same, and only a valid one gets as far as the check of the planting
        refine congrArg _ (funext fun choice => ?_)
        by_cases hvalid : choice.1.IsValid
        · have hplanting : checkedPlanting choice.1 (read.1 - 1) growth.1 =
              .ok (.plant choice.1 (read.1 - 1).toNat growth.1.toNat) :=
            checkedPlanting_eq hvalid ⟨by omega, by omega⟩ ⟨by omega, by omega⟩
          cases spot.tile with
          | error fault => simp [hvalid]
          | ok t => cases hplant : t.canPlant true <;> simp [hvalid, hplant, hplanting]
        · simp [hvalid]

theorem snow.checkedPlan_eq : snow.checkedPlan pixel d = snow.plan pixel d := by
  unfold snow.checkedPlan snow.plan
  rw [snowDepth, (Gradient.rising_onBytes 4).checkedRead_eq (by decide)]
  cases hread : (Gradient.rising 4).read pixel.b d with
  | error fault => rfl
  | ok read =>
    have hlevel : 0 ≤ read.1 ∧ read.1 ≤ 4 := Gradient.read_mem hread
    have hdensity : Word.Signed (read.1 - 1) := ⟨by omega, by omega⟩
    simp only [Outcome.ok_bind, Word.fitSigned_of_signed hdensity]
    split
    case isTrue => rfl
    case isFalse hsnow =>
      rw [Word.byte_of_mem (Int.not_lt.mp hsnow) (by omega)]
      rfl

theorem desert.checkedPlan_eq : desert.checkedPlan pixel d = desert.plan pixel d := by
  unfold desert.checkedPlan desert.plan
  rw [desertDepth, (Gradient.rising_onBytes 2).checkedRead_eq (by decide)]
  cases hread : (Gradient.rising 2).read pixel.r d with
  | error fault => rfl
  | ok read =>
    have hlevel : 0 ≤ read.1 ∧ read.1 ≤ 2 := Gradient.read_mem hread
    have hdoubled : Word.Signed (read.1 * 2) := ⟨by omega, by omega⟩
    have hdensity : Word.Signed (read.1 * 2 - 1) := ⟨by omega, by omega⟩
    simp only [Outcome.ok_bind, Word.fitSigned_of_signed hdoubled,
      Word.fitSigned_of_signed hdensity]
    split
    case isTrue => rfl
    case isFalse hdesert =>
      rw [Word.byte_of_mem (Int.not_lt.mp hdesert) (by omega)]
      rfl

/-- **No check fails.** A plan computed with every operation checked is the plan. -/
theorem checkedPlan_eq (layer : Layer) :
    layer.checkedPlan settings spot pixel d = layer.plan settings spot pixel d := by
  cases layer with
  | terrain => exact terrain.checkedPlan_eq spot pixel d
  | fields => exact fields.checkedPlan_eq pixel d
  | trees => exact trees.checkedPlan_eq settings spot pixel d
  | snow => exact snow.checkedPlan_eq pixel d
  | desert => exact desert.checkedPlan_eq pixel d
  | water => rfl
  | tropics => rfl

end

/-! ## Every plan comes to an end -/

variable {settings : ImportSettings} {climate : Climate} {t : Tile} {pixel : Rgb} {channel : UInt8}

theorem thinning_total : Total (thinning channel) :=
  .ite (.pure none) ((Gradient.falling_total (by decide)).bind fun _ => .pure _)

theorem isPresent_total : Total (isPresent channel) :=
  .ite (.pure false) ((Gradient.rising_total (by decide)).bind fun _ => .pure _)

theorem terrain.plan_total : Total (terrain.plan ⟨climate, .ok t⟩ pixel) :=
  .ite (.pure none) <| thinning_total.bind fun _ => isPresent_total.bind fun _ =>
    isPresent_total.bind fun _ => .pure _

theorem fields.plan_total : Total (fields.plan pixel) :=
  .ite (.pure none) ((Gradient.rising_total (by decide)).bind fun _ => .pure _)

theorem water.plan_total : Total (water.plan ⟨climate, .ok t⟩ pixel) := by
  intro d
  unfold water.plan
  rw [Outcome.ok_bind]
  cases wantedWater pixel t.slope t.height with
  | none => exact ⟨_, _, rfl⟩
  | some cls => cases cls <;> exact ⟨_, _, rfl⟩

theorem growth_total : Total (growth channel) :=
  .ite (.pure _) (Gradient.rising_total (by decide))

theorem species_total : Total (species settings ⟨climate, .ok t⟩ channel) := by
  refine .ite (fun d => ?_) (.pure _)
  cases climate <;> exact ⟨_, _, rfl⟩

theorem trees.plan_total : Total (trees.plan settings ⟨climate, .ok t⟩ pixel) :=
  growth_total.bind fun _ => (Gradient.rising_total (by decide)).bind fun _ =>
    .ite (.pure none) <| species_total.bind fun _ => .ite (.pure none) (.pure _)

theorem snow.plan_total : Total (snow.plan pixel) :=
  (Gradient.rising_total (by decide)).bind fun _ => .pure _

theorem desert.plan_total : Total (desert.plan pixel) :=
  (Gradient.rising_total (by decide)).bind fun _ => .pure _

theorem tropics.plan_total : Total (tropics.plan pixel) := .pure _

/-- On a tile that is there, a brush makes a plan from every pixel and every source. -/
theorem plan_total (layer : Layer) : Total (layer.plan settings ⟨climate, .ok t⟩ pixel) := by
  cases layer with
  | terrain => exact terrain.plan_total
  | fields => exact fields.plan_total
  | water => exact water.plan_total
  | trees => exact trees.plan_total
  | snow => exact snow.plan_total
  | desert => exact desert.plan_total
  | tropics => exact tropics.plan_total

theorem brush_total (layer : Layer) : Total (layer.brush settings ⟨climate, .ok t⟩ pixel) := by
  intro d
  have htotal : Total (layer.plan settings ⟨climate, .ok t⟩ pixel) := layer.plan_total
  obtain ⟨touch, d', hplan⟩ := htotal d
  refine ⟨touch.map (·.apply t), d', ?_⟩
  rw [brush_eq]
  exact Plan.stroke_tile_eq_ok.mpr ⟨touch, hplan, rfl⟩

end Layer

end MapPainter
