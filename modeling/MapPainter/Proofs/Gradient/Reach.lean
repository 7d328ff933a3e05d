import MapPainter.Proofs.Gradient.Edges

/-!
# The reach of jitter

Jitter lifts a sample by one level at most, and never over the ends of a gradient. Whatever the word
is, one end and everything beyond it has level 0, the other end and everything beyond it has the
highest level, and in between a sample has the level of its band or the next one
(`Gradient.sample_reach`). The levels are compared as counted from the lower end
(`Gradient.fromLow`), whichever way the gradient runs.
-/

namespace MapPainter.Gradient

variable {g : Gradient} {sample : Int}

/-- The level of a sample without jitter, counted from the lower end. The highest level takes in
what is left of the gradient above the bands. -/
def bandLevel (g : Gradient) (sample : Int) : Int :=
  min ((g.offset sample / g.width : Nat) : Int) g.levels

/-- A level counted from the lower end. -/
def fromLow (g : Gradient) (level : Int) : Int :=
  if g.start < g.stop then level else g.levels - level

theorem levelAt_mem (hlevels : 0 ≤ g.levels) (band : Nat) :
    0 ≤ g.levelAt band ∧ g.levelAt band ≤ g.levels := by
  unfold levelAt
  split <;> omega

theorem fromLow_levelAt (band : Nat) : g.fromLow (g.levelAt band) = min (band : Int) g.levels := by
  unfold fromLow levelAt
  split <;> omega

theorem rise_eq_or (g : Gradient) (sample : Int) (w : UInt32) :
    g.rise sample w = g.offset sample / g.width ∨
      g.rise sample w = g.offset sample / g.width + 1 := by
  unfold rise
  split
  · exact Or.inr rfl
  · exact Or.inl rfl

/-! ## The ends -/

theorem offset_of_le (h : sample ≤ min g.start g.stop) : g.offset sample = 0 := by
  unfold offset
  omega

theorem levels_le_of_max_le (hlevels : 0 < g.levels) (hslope : g.slope ≠ 0)
    (h : max g.start g.stop ≤ sample) : g.levels ≤ (g.offset sample / g.width : Nat) := by
  have hspan : (g.stop - g.start).natAbs ≤ g.offset sample := by
    unfold offset
    omega
  have hbands : g.levels.toNat ≤ g.offset sample / g.width :=
    (Nat.le_div_iff_mul_le (Int.natAbs_pos.mpr hslope)).mpr
      (Nat.le_trans (levels_mul_width_le hlevels) hspan)
  omega

theorem levelAt_rise_of_low (h : sample ≤ min g.start g.stop) (w : UInt32) :
    g.levelAt (g.rise sample w) = g.levelAt 0 := by
  have hdepth : g.offset sample % g.width ≤ 1 := by
    rw [offset_of_le h, Nat.zero_mod]
    exact Nat.zero_le 1
  rw [rise_of_depth_le hdepth, offset_of_le h, Nat.zero_div]

/-- Above the bands there is nothing to be lifted to. -/
theorem levelAt_rise_of_high (hlevels : 0 < g.levels) (hslope : g.slope ≠ 0)
    (h : max g.start g.stop ≤ sample) (w : UInt32) :
    g.levelAt (g.rise sample w) = g.levelAt g.levels.toNat := by
  have hbands := levels_le_of_max_le hlevels hslope h
  rw [levelAt_rise_of_le hbands, levelAt_of_le hbands]

/-- **Reach of jitter.** Let the gradient be no shorter than its levels and all numbers stay within
32 bits. From every source of draws a sample has a level, and one from 0 to the highest. It is 0 at
the start and on the far side of it, and the highest at the stop and on the far side of that.
Counted from the lower end it is the level of the band or one above. -/
theorem sample_reach (g : Gradient) (sample : Int) (d : Draws) (hlevels : 0 < g.levels)
    (hroom : g.levels ≤ (g.stop - g.start).natAbs) (hfits : g.Fits sample d.peek) :
    ∃ level, (g.sample sample d).1 = .ok level ∧ 0 ≤ level ∧ level ≤ g.levels ∧
      (g.start < g.stop ∧ sample ≤ g.start ∨ g.stop < g.start ∧ g.start ≤ sample → level = 0) ∧
      (g.start < g.stop ∧ g.stop ≤ sample ∨ g.stop < g.start ∧ sample ≤ g.stop →
        level = g.levels) ∧
      (g.fromLow level = g.bandLevel sample ∨ g.fromLow level = g.bandLevel sample + 1) := by
  have hslope := slope_ne_zero hlevels hroom
  obtain ⟨hnonneg, hle⟩ := levelAt_mem (Int.le_of_lt hlevels) (g.rise sample d.peek)
  refine ⟨_, sample_eq_ok hlevels hslope hfits, hnonneg, hle, ?_, ?_, ?_⟩
  · rintro (⟨hup, hlow⟩ | ⟨hdown, hhigh⟩)
    · rw [levelAt_rise_of_low (by omega), levelAt, if_pos hup]
      omega
    · rw [levelAt_rise_of_high hlevels hslope (by omega), levelAt, if_neg (by omega)]
      omega
  · rintro (⟨hup, hhigh⟩ | ⟨hdown, hlow⟩)
    · rw [levelAt_rise_of_high hlevels hslope (by omega), levelAt, if_pos hup]
      omega
    · rw [levelAt_rise_of_low (by omega), levelAt, if_neg (by omega)]
      omega
  · rw [fromLow_levelAt, bandLevel]
    rcases rise_eq_or g sample d.peek with hband | hnext
    · rw [hband]
      exact Or.inl rfl
    · rw [hnext]
      omega

/-- Four levels from 10 down to -9 leave three values above the bands of four. For all words 10 has
level 0 and -12 has level 4, and 5, which lies in the last band, has level 0 or 1. -/
theorem short_fall_reach :
    let g : Gradient := ⟨4, 10, -9⟩
    (∀ d, (g.sample 10 d).1 = .ok 0) ∧ (∀ d, (g.sample (-12) d).1 = .ok 4) ∧
      ∀ d, ∃ level, (g.sample 5 d).1 = .ok level ∧ (level = 0 ∨ level = 1) := by
  intro g
  have hfits : ∀ sample, Word.Signed (sample + 9) → ∀ w, g.Fits sample w := fun sample h w =>
    ⟨by decide, by rwa [← Int.sub_neg] at h, by decide, signed_threshold (by decide) w⟩
  refine ⟨fun d => ?_, fun d => ?_, fun d => ?_⟩
  · obtain ⟨level, h, -, -, hstart, -⟩ :=
      sample_reach g 10 d (by decide) (by decide) (hfits 10 (by decide) _)
    rw [h, hstart (by decide)]
  · obtain ⟨level, h, -, -, -, hstop, -⟩ :=
      sample_reach g (-12) d (by decide) (by decide) (hfits (-12) (by decide) _)
    rw [h, hstop (by decide)]
  · obtain ⟨level, h, -, -, -, -, hband⟩ :=
      sample_reach g 5 d (by decide) (by decide) (hfits 5 (by decide) _)
    have hlow : g.fromLow level = 4 - level := if_neg (by decide)
    have hthird : g.bandLevel 5 = 3 := by decide
    exact ⟨level, h, by omega⟩

end MapPainter.Gradient
