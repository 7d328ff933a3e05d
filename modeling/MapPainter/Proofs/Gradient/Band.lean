import MapPainter.Proofs.Draws
import MapPainter.Proofs.Gradient

/-!
# Bands

From its lower end on, a gradient is cut into bands of one width. Counted from that end, the level
of a sample is the number of its band, or one more if the sample lies further into the band than the
threshold that the word draws (`Gradient.rise`). The highest level takes in all bands above, and the
direction decides which end has level 0 (`Gradient.levelAt`). While all numbers have room in 32 bits
(`Gradient.Fits`), this is the level that is computed, and there is no other way to get one
(`Gradient.levelFor_eq_ok_iff`).
-/

namespace MapPainter.Gradient

variable {g : Gradient} {sample level : Int} {w : UInt32}

/-- The width of the bands, negative if the gradient runs downwards. -/
def slope (g : Gradient) : Int := (g.stop - g.start).tdiv g.levels

def width (g : Gradient) : Nat := g.slope.natAbs

/-- How many values the threshold can take. -/
def range (g : Gradient) : Nat := (g.slope - 2).natAbs

/-- How far a sample lies above the lower end; 0 below it. -/
def offset (g : Gradient) (sample : Int) : Nat := (sample - min g.start g.stop).toNat

/-- The band of a sample, or the next one if the word lifts it. -/
def rise (g : Gradient) (sample : Int) (w : UInt32) : Nat :=
  g.offset sample / g.width +
    if Draws.scale w g.range + 1 < g.offset sample % g.width then 1 else 0

/-- The level of a band that is counted from the lower end. -/
def levelAt (g : Gradient) (band : Nat) : Int :=
  if g.start < g.stop then min (band : Int) g.levels else g.levels - min (band : Int) g.levels

/-- All numbers on the way from a sample to its level have room in 32 bits. -/
structure Fits (g : Gradient) (sample : Int) (w : UInt32) : Prop where
  span : Word.Signed (g.stop - g.start)
  offset : Word.Signed (sample - min g.start g.stop)
  inner : Word.Signed (g.slope - 2)
  threshold : Word.Signed (Draws.scale w g.range + 1)

/-- No word leads out of 32 bits if the thresholds have room. -/
theorem signed_threshold (h : g.range < 0x80000000) (w : UInt32) :
    Word.Signed (Draws.scale w g.range + 1) := by
  have hscale : Draws.scale w g.range < 0x7fffffff :=
    Draws.scale_lt_of_le w (by omega) (by decide)
  unfold Word.Signed
  omega

/-! ## Ends that are bytes -/

/-- Both ends are bytes. -/
structure OnBytes (g : Gradient) : Prop where
  start : 0 ≤ g.start ∧ g.start < 256
  stop : 0 ≤ g.stop ∧ g.stop < 256

theorem OnBytes.range_le (h : g.OnBytes) : g.range ≤ 257 := by
  obtain ⟨hstart, hstop⟩ := h
  have hslope : g.slope.natAbs ≤ (g.stop - g.start).natAbs := Int.natAbs_tdiv_le_natAbs _ _
  unfold range
  omega

/-- Between bytes there is always room in a word. -/
theorem OnBytes.fits (h : g.OnBytes) (value : UInt8) (w : UInt32) : g.Fits value.toNat w := by
  have hrange := h.range_le
  obtain ⟨hstart, hstop⟩ := h
  have hvalue := value.toNat_lt
  refine ⟨?_, ?_, ?_, signed_threshold (by omega) w⟩
  · unfold Word.Signed
    omega
  · unfold Word.Signed
    omega
  · unfold range at hrange
    unfold Word.Signed
    omega

/-! ## The direction -/

/-- A gradient that is no shorter than its levels has bands. -/
theorem slope_ne_zero (hlevels : 0 < g.levels) (hroom : g.levels ≤ (g.stop - g.start).natAbs) :
    g.slope ≠ 0 := by
  have hwidth : g.slope.natAbs = (g.stop - g.start).natAbs / g.levels.natAbs :=
    Int.natAbs_tdiv _ _
  have hpos : 0 < (g.stop - g.start).natAbs / g.levels.natAbs := Nat.div_pos (by omega) (by omega)
  omega

/-- The bands fill no more than the gradient. -/
theorem levels_mul_width_le (hlevels : 0 < g.levels) :
    g.levels.toNat * g.width ≤ (g.stop - g.start).natAbs := by
  have hwidth : g.width = (g.stop - g.start).natAbs / g.levels.natAbs := Int.natAbs_tdiv _ _
  have hcast : g.levels.toNat = g.levels.natAbs := by omega
  rw [hwidth, hcast]
  exact Nat.mul_div_le _ _

theorem slope_neg_iff (hlevels : 0 < g.levels) (hslope : g.slope ≠ 0) :
    g.slope < 0 ↔ ¬ g.start < g.stop := by
  unfold slope at *
  constructor
  · intro hneg hlt
    have := Int.tdiv_nonneg (a := g.stop - g.start) (by omega) (Int.le_of_lt hlevels)
    omega
  · intro hle
    have := Int.tdiv_nonneg (a := -(g.stop - g.start)) (by omega) (Int.le_of_lt hlevels)
    rw [Int.neg_tdiv] at this
    omega

/-! ## Offsets into a band -/

theorem tmod_eq_mod_natAbs (n : Nat) (s : Int) : (n : Int).tmod s = (n % s.natAbs : Nat) := by
  rw [Int.ofNat_tmod]
  rcases Int.natAbs_eq s with h | h
  · rw [← h]
  · generalize s.natAbs = k at h
    rw [h, Int.tmod_neg]

theorem coe_offset (g : Gradient) (sample : Int) :
    (g.offset sample : Int) = max (sample - min g.start g.stop) 0 := Int.ofNat_toNat _

/-! ## The computed level -/

theorem step_eq_ok_iff {step : Int} :
    g.step = .ok step ↔
      0 < g.levels ∧ Word.Signed (g.stop - g.start) ∧ g.slope ≠ 0 ∧ step = g.slope := by
  unfold Gradient.step
  constructor
  · intro h
    split at h
    case isTrue => cases h
    case isFalse hlevels =>
      obtain ⟨_, hspan, h⟩ := Outcome.bind_eq_ok.mp h
      obtain ⟨hsigned, rfl⟩ := Word.fitSigned_eq_ok_iff.mp hspan
      dsimp only at h
      split at h
      case isTrue => cases h
      case isFalse hne => exact ⟨Int.not_le.mp hlevels, hsigned, hne, (Except.ok.inj h).symm⟩
  · rintro ⟨hlevels, hspan, hne, rfl⟩
    rw [if_neg (Int.not_le.mpr hlevels), Word.fitSigned_of_signed hspan]
    exact if_neg hne

theorem locate_eq_ok_iff {place : Place} :
    g.locate sample = .ok place ↔
      (0 < g.levels ∧ Word.Signed (g.stop - g.start) ∧ g.slope ≠ 0) ∧
        Word.Signed (sample - min g.start g.stop) ∧ Word.Signed (g.slope - 2) ∧
        place = ⟨g.offset sample, g.slope, g.range⟩ := by
  rw [coe_offset]
  constructor
  · intro h
    obtain ⟨_, hstep, h⟩ := Outcome.bind_eq_ok.mp h
    obtain ⟨_, hoffset, h⟩ := Outcome.bind_eq_ok.mp h
    obtain ⟨_, hinner, h⟩ := Outcome.bind_eq_ok.mp h
    obtain ⟨hlevels, hspan, hne, rfl⟩ := step_eq_ok_iff.mp hstep
    obtain ⟨hoffset', rfl⟩ := Word.fitSigned_eq_ok_iff.mp hoffset
    obtain ⟨hinner', rfl⟩ := Word.fitSigned_eq_ok_iff.mp hinner
    exact ⟨⟨hlevels, hspan, hne⟩, hoffset', hinner', (Except.ok.inj h).symm⟩
  · rintro ⟨⟨hlevels, hspan, hne⟩, hoffset, hinner, rfl⟩
    rw [locate, step_eq_ok_iff.mpr ⟨hlevels, hspan, hne, rfl⟩, Outcome.ok_bind,
      Word.fitSigned_of_signed hoffset, Outcome.ok_bind, Word.fitSigned_of_signed hinner]
    rfl

theorem level_eq_levelAt (hlevels : 0 < g.levels) (hslope : g.slope ≠ 0)
    (hthreshold : Word.Signed (Draws.scale w g.range + 1)) :
    Place.level ⟨g.offset sample, g.slope, g.range⟩ g.levels w =
      .ok (g.levelAt (g.rise sample w)) := by
  rw [Place.level, Place.threshold, Word.fitSigned_of_signed hthreshold, Outcome.ok_bind]
  refine congrArg Except.ok ?_
  dsimp only
  rw [tmod_eq_mod_natAbs, ← Int.ofNat_tdiv, ite_congr (propext (slope_neg_iff hlevels hslope))
    (fun _ => rfl) (fun _ => rfl), ite_not]
  unfold levelAt rise width
  generalize g.offset sample / g.slope.natAbs = band
  generalize g.offset sample % g.slope.natAbs = depth
  split <;> split <;> split <;> omega

theorem levelFor_eq_ok_iff :
    g.levelFor sample w = .ok level ↔
      0 < g.levels ∧ g.slope ≠ 0 ∧ g.Fits sample w ∧ level = g.levelAt (g.rise sample w) := by
  constructor
  · intro h
    obtain ⟨_, hplace, h⟩ := Outcome.bind_eq_ok.mp h
    obtain ⟨⟨hlevels, hspan, hslope⟩, hoffset, hinner, rfl⟩ := locate_eq_ok_iff.mp hplace
    obtain ⟨_, hthreshold, -⟩ := Outcome.bind_eq_ok.mp h
    have hthreshold := (Word.fitSigned_eq_ok_iff.mp hthreshold).1
    rw [level_eq_levelAt hlevels hslope hthreshold] at h
    exact ⟨hlevels, hslope, ⟨hspan, hoffset, hinner, hthreshold⟩, (Except.ok.inj h).symm⟩
  · rintro ⟨hlevels, hslope, hfits, rfl⟩
    have hplace := locate_eq_ok_iff.mpr
      ⟨⟨hlevels, hfits.span, hslope⟩, hfits.offset, hfits.inner, rfl⟩
    rw [levelFor, hplace, Outcome.ok_bind, level_eq_levelAt hlevels hslope hfits.threshold]

/-- Only the next word of a source matters to the level. -/
theorem sample_fst (g : Gradient) (sample : Int) (d : Draws) :
    (g.sample sample d).1 = g.levelFor sample d.peek := by
  unfold Gradient.sample levelFor
  cases g.locate sample with
  | ok place => rw [Outcome.ok_bind]
  | error fault => rw [Outcome.error_bind]

theorem sample_eq_ok {d : Draws} (hlevels : 0 < g.levels) (hslope : g.slope ≠ 0)
    (hfits : g.Fits sample d.peek) :
    (g.sample sample d).1 = .ok (g.levelAt (g.rise sample d.peek)) := by
  rw [sample_fst]
  exact levelFor_eq_ok_iff.mpr ⟨hlevels, hslope, hfits, rfl⟩

end MapPainter.Gradient
