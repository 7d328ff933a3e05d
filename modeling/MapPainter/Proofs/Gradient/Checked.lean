import MapPainter.Proofs.Gradient.Band

/-!
# Gradients in 32-bit arithmetic

A level is computed from signed words of 32 bits, and every operation on them could leave that
width: the differences, the quotient and the absolute value at the least word, the remainder by -1,
the signed reading of a draw. `Gradient.checkedLevel` looks at each of them. All but four can never
fail, so the level that looks at these four only is the same (`Gradient.checkedLevel_eq`). What the
four ask for can be said of the gradient, the sample and the word (`Gradient.sample_succeeds_iff`),
and with ends of one byte it always holds.
-/

namespace MapPainter

namespace Word

/-- An unsigned word of 32 bits, read as a signed one. -/
def asSigned (n : Nat) : Int := (n : Int).bmod 0x100000000

theorem asSigned_of_lt {n : Nat} (h : n < 0x80000000) : asSigned n = n :=
  Int.bmod_eq_of_le_mul_two (by omega) (by omega)

end Word

namespace Gradient

variable {g : Gradient} {sample levels : Int} {w : UInt32}

/-! ## The checked level

Each definition is its namesake with every operation checked. The range of the thresholds is an
unsigned word, which has room for the absolute value of every signed one. -/

def checkedStep (g : Gradient) : Except Fault Int := do
  if g.levels ≤ 0 then throw .noLevels
  let span ← Word.fitSigned (g.stop - g.start)
  let step ← Word.fitSigned (span.tdiv g.levels)
  if step = 0 then throw (.shortGradient g.start g.stop g.levels)
  return step

def Place.checkedLevel (p : Place) (levels : Int) (w : UInt32) : Except Fault Int := do
  let threshold ← Word.fitSigned (Word.asSigned (Draws.scale w p.range) + 1)
  -- a remainder leaves the width where its quotient does
  let _ ← Word.fitSigned (p.offset.tdiv p.step)
  let jitter : Int := if p.offset.tmod p.step > threshold then 1 else 0
  let width ← Word.fitSigned p.step.natAbs
  let band ← Word.fitSigned (p.offset.tdiv width)
  let risen ← Word.fitSigned (band + jitter)
  let level := min (max risen 0) levels
  if p.step < 0 then Word.fitSigned (levels - level) else return level

def checkedLocate (g : Gradient) (sample : Int) : Except Fault Place := do
  let step ← g.checkedStep
  let offset ← Word.fitSigned (sample - min g.start g.stop)
  let inner ← Word.fitSigned (step - 2)
  return ⟨max offset 0, step, inner.natAbs⟩

def checkedLevel (g : Gradient) (sample : Int) (w : UInt32) : Except Fault Int := do
  let place ← g.checkedLocate sample
  place.checkedLevel g.levels w

/-! ## Checks that never fail -/

theorem signed_slope (hlevels : 0 < g.levels) (hspan : Word.Signed (g.stop - g.start)) :
    Word.Signed g.slope := by
  have hle : g.slope.natAbs ≤ (g.stop - g.start).natAbs := Int.natAbs_tdiv_le_natAbs _ _
  have hneg : g.slope ≠ 0 → (g.slope < 0 ↔ ¬ g.start < g.stop) := slope_neg_iff hlevels
  unfold Word.Signed at *
  omega

theorem checkedStep_eq (g : Gradient) : g.checkedStep = g.step := by
  unfold checkedStep step
  split
  case isTrue => rfl
  case isFalse hlevels =>
    by_cases hspan : Word.Signed (g.stop - g.start)
    · have hslope := signed_slope (Int.not_le.mp hlevels) hspan
      unfold slope at hslope
      rw [Word.fitSigned_of_signed hspan]
      simp only [Outcome.ok_bind, Word.fitSigned_of_signed hslope]
    · rw [Word.fitSigned_of_not_signed hspan]
      rfl

theorem div_add_one_le {n k : Nat} (hk : 0 < k) (hdepth : 0 < n % k) : n / k + 1 ≤ n :=
  calc n / k + 1 ≤ k * (n / k) + n % k := Nat.add_le_add (Nat.le_mul_of_pos_left _ hk) hdepth
    _ = n := Nat.div_add_mod n k

theorem Place.checkedLevel_eq {n range : Nat} {step : Int} (hoffset : Word.Signed n)
    (hstep : step ≠ 0) (hwidth : Word.Signed step.natAbs) (hrange : range ≤ 0x80000000)
    (hlevels : 0 < levels) (hlevels' : Word.Signed levels) (w : UInt32) :
    Place.checkedLevel ⟨n, step, range⟩ levels w = Place.level ⟨n, step, range⟩ levels w := by
  unfold Place.checkedLevel Place.level Place.threshold
  dsimp only
  -- a draw from half of all words is read as it is
  rw [Word.asSigned_of_lt (Draws.scale_lt_of_le w hrange (by decide))]
  by_cases hthreshold : Word.Signed (Draws.scale w range + 1)
  case neg =>
    rw [Word.fitSigned_of_not_signed hthreshold]
    rfl
  case pos =>
    have hquotient : ((n : Int).tdiv step).natAbs ≤ n := Int.natAbs_tdiv_le_natAbs _ _
    have hband : n / step.natAbs ≤ n := Nat.div_le_self _ _
    -- a sample that is lifted lies further up than there are bands below it
    have hrisen : 0 < n % step.natAbs → n / step.natAbs + 1 ≤ n :=
      div_add_one_le (Int.natAbs_pos.mpr hstep)
    unfold Word.Signed at hoffset hlevels' hthreshold
    rw [Word.fitSigned_of_signed hthreshold, Outcome.ok_bind,
      Word.fitSigned_of_signed (i := (n : Int).tdiv step) (by unfold Word.Signed; omega),
      Outcome.ok_bind, Word.fitSigned_of_signed hwidth, Outcome.ok_bind, tmod_eq_mod_natAbs,
      ← Int.ofNat_tdiv]
    generalize n / step.natAbs = band at *
    generalize n % step.natAbs = depth at *
    have hjitter : Word.Signed
        ((band : Int) + if (depth : Int) > Draws.scale w range + 1 then 1 else 0) := by
      unfold Word.Signed
      split <;> omega
    rw [Word.fitSigned_of_signed (by unfold Word.Signed; omega), Outcome.ok_bind,
      Word.fitSigned_of_signed hjitter, Outcome.ok_bind, Outcome.ok_bind]
    split
    case isTrue => exact Word.fitSigned_of_signed (by unfold Word.Signed; omega)
    case isFalse => rfl

theorem checkedLocate_eq (g : Gradient) (sample : Int) :
    g.checkedLocate sample = g.locate sample := by
  rw [checkedLocate, checkedStep_eq, locate]

/-- **Checks that never fail.** If the levels have room in a word, a level computed with every
operation checked is a level computed with the checks of `Gradient.levelFor`. -/
theorem checkedLevel_eq (hlevels : Word.Signed g.levels) :
    g.checkedLevel sample w = g.levelFor sample w := by
  rw [checkedLevel, checkedLocate_eq, levelFor]
  cases hplace : g.locate sample with
  | error fault => rw [Outcome.error_bind, Outcome.error_bind]
  | ok place =>
    obtain ⟨⟨hpos, hspan, hne⟩, hoffset, hinner, rfl⟩ := locate_eq_ok_iff.mp hplace
    have hslope := signed_slope hpos hspan
    have hoffset' : Word.Signed (g.offset sample) := by
      rw [coe_offset]
      unfold Word.Signed at *
      omega
    unfold Word.Signed at hslope hinner
    have hwidth : Word.Signed g.slope.natAbs := by
      unfold Word.Signed
      omega
    have hrange : g.range ≤ 0x80000000 := by
      unfold range
      omega
    rw [Outcome.ok_bind, Outcome.ok_bind]
    exact Place.checkedLevel_eq hoffset' hne hwidth hrange hpos hlevels w

/-! ## Checks that can fail -/

theorem slope_ne_zero_iff (hlevels : 0 < g.levels) :
    g.slope ≠ 0 ↔ g.levels ≤ (g.stop - g.start).natAbs := by
  refine ⟨fun hslope => ?_, slope_ne_zero hlevels⟩
  have hbands : g.levels.toNat * 1 ≤ g.levels.toNat * g.width :=
    Nat.mul_le_mul_left _ (Int.natAbs_pos.mpr hslope)
  have hroom := levels_mul_width_le hlevels
  omega

/-- Only the longest downward bands can draw a threshold beyond a word, and only from the two
highest draws. -/
theorem signed_threshold_iff (hinner : Word.Signed (g.slope - 2)) :
    Word.Signed (Draws.scale w g.range + 1) ↔
      ¬ (g.slope = -0x7ffffffe ∧ 0xfffffffe ≤ w.toNat) := by
  unfold Word.Signed at hinner
  by_cases hlongest : g.slope = -0x7ffffffe
  case pos =>
    have hrange : g.range = 0x80000000 := by
      unfold range
      rw [hlongest]
      rfl
    have hscale : Draws.scale w g.range = w.toNat * 0x80000000 / 0x100000000 := by
      rw [Draws.scale, hrange]
    have hw := w.toNat_lt
    unfold Word.Signed
    omega
  case neg =>
    have hrange : g.range < 0x80000000 := by
      unfold range
      omega
    exact iff_of_true (signed_threshold hrange w) fun h => hlongest h.1

theorem levelFor_succeeds_iff :
    (∃ level, g.levelFor sample w = .ok level) ↔
      0 < g.levels ∧ g.levels ≤ (g.stop - g.start).natAbs ∧ g.Fits sample w := by
  constructor
  · rintro ⟨level, h⟩
    obtain ⟨hlevels, hslope, hfits, -⟩ := levelFor_eq_ok_iff.mp h
    exact ⟨hlevels, (slope_ne_zero_iff hlevels).mp hslope, hfits⟩
  · rintro ⟨hlevels, hroom, hfits⟩
    exact ⟨_, levelFor_eq_ok_iff.mpr ⟨hlevels, slope_ne_zero hlevels hroom, hfits, rfl⟩⟩

/-- Reading a byte between two bytes fails only for want of levels or of room for them. -/
theorem OnBytes.read_succeeds_iff (h : g.OnBytes) {value : UInt8} {d : Draws} :
    (∃ level, g.read value d = .ok (level, d.skip)) ↔
      0 < g.levels ∧ g.levels ≤ (g.stop - g.start).natAbs := by
  simp only [read_eq_ok, and_true, levelFor_succeeds_iff, h.fits]

/-- **When there is a level.** A sample has a level exactly if the gradient has levels and is no
shorter than them, if its length and the offset of the sample have room in a word, and if a band
runs downwards by no more than a word has room for, less two; bands of just that width need a draw
below the two highest. The checks that are not made could not have failed. Between bytes only the
levels matter. -/
theorem sample_succeeds_iff (g : Gradient) (sample : Int) (d : Draws) :
    ((∃ level, (g.sample sample d).1 = .ok level) ↔
      0 < g.levels ∧ Word.Signed (g.stop - g.start) ∧ g.levels ≤ (g.stop - g.start).natAbs ∧
        Word.Signed (sample - min g.start g.stop) ∧ -0x80000000 + 2 ≤ g.slope ∧
        ¬ (g.slope = -0x80000000 + 2 ∧ 0x100000000 - 2 ≤ d.peek.toNat)) ∧
    (Word.Signed g.levels → g.checkedLevel sample d.peek = (g.sample sample d).1) ∧
    ∀ (levels : Int) (start stop value : UInt8),
      (∃ level, Gradient.read ⟨levels, start.toNat, stop.toNat⟩ value d = .ok (level, d.skip)) ↔
        0 < levels ∧ levels ≤ ((stop.toNat : Int) - start.toNat).natAbs := by
  refine ⟨?_, fun hlevels => ?_, fun levels start stop value => OnBytes.read_succeeds_iff ?_⟩
  · rw [sample_fst, levelFor_succeeds_iff]
    constructor
    · rintro ⟨hlevels, hroom, hspan, hoffset, hinner, hthreshold⟩
      exact ⟨hlevels, hspan, hroom, hoffset, by unfold Word.Signed at hinner; omega,
        (signed_threshold_iff hinner).mp hthreshold⟩
    · rintro ⟨hlevels, hspan, hroom, hoffset, hlow, hdraw⟩
      have hslope := signed_slope hlevels hspan
      have hinner : Word.Signed (g.slope - 2) := by
        unfold Word.Signed at *
        omega
      exact ⟨hlevels, hroom, hspan, hoffset, hinner, (signed_threshold_iff hinner).mpr hdraw⟩
  · rw [sample_fst, checkedLevel_eq hlevels]
  · have hstart := start.toNat_lt
    have hstop := stop.toNat_lt
    exact ⟨by dsimp only; omega, by dsimp only; omega⟩

/-- One level as far down as it can be: the two highest draws fail, the next one does not. -/
theorem longest_fall_succeeds :
    let g : Gradient := ⟨1, 0, -0x7ffffffe⟩
    (∃ level, (g.sample 0 (.fixed 0xfffffffd)).1 = .ok level) ∧
      (¬ ∃ level, (g.sample 0 (.fixed 0xfffffffe)).1 = .ok level) ∧
      g.checkedLevel 0 0xfffffffd = (g.sample 0 (.fixed 0xfffffffd)).1 := by
  intro g
  refine ⟨?_, ?_, ?_⟩
  · rw [(sample_succeeds_iff g 0 (.fixed 0xfffffffd)).1]
    decide
  · rw [(sample_succeeds_iff g 0 (.fixed 0xfffffffe)).1]
    decide
  · exact (sample_succeeds_iff g 0 (.fixed 0xfffffffd)).2.1 (by decide)

end Gradient

end MapPainter
