import MapPainter.Proofs.Gradient.Band

/-!
# The edges of bands

Some samples have the same level whatever the word is. These are the two lowest of every band, which
pass no threshold, and all from the last band on. Upwards, the top of a band belongs to them: the
thresholds end two short of the width, so every word lifts it. Downwards they go on to two beyond
the width, and it depends on the word whether the top of a band is lifted. There are no others
(`Gradient.level_fixed_iff`).
-/

namespace MapPainter.Gradient

variable {g : Gradient} {sample : Int} {w : UInt32} {band : Nat}

/-! ## The range of the threshold -/

theorem range_of_lt (hlevels : 0 < g.levels) (hwidth : 2 ≤ g.width) (hup : g.start < g.stop) :
    g.range = g.width - 2 := by
  unfold range width at *
  have hneg := slope_neg_iff hlevels (by omega)
  have hpos : ¬ g.slope < 0 := fun h => hneg.mp h hup
  omega

theorem range_of_not_lt (hlevels : 0 < g.levels) (hwidth : 0 < g.width)
    (hdown : ¬ g.start < g.stop) : g.range = g.width + 2 := by
  unfold range width at *
  have hneg := (slope_neg_iff hlevels (by omega)).mpr hdown
  omega

theorem Fits.range_le (h : g.Fits sample w) : g.range ≤ UInt32.size := by
  have hinner := h.inner
  unfold Word.Signed at hinner
  unfold range UInt32.size
  omega

/-! ## Which words lift a sample -/

theorem rise_of_depth_le (h : g.offset sample % g.width ≤ 1) (w : UInt32) :
    g.rise sample w = g.offset sample / g.width := by
  rw [rise, if_neg (by omega), Nat.add_zero]

/-- A sample above all thresholds is lifted by every word. -/
theorem rise_of_range_lt (hrange : 0 < g.range) (h : g.range < g.offset sample % g.width)
    (w : UInt32) : g.rise sample w = g.offset sample / g.width + 1 := by
  have hscale := Draws.scale_lt w hrange
  rw [rise, if_pos (by omega)]

theorem rise_lowest (h : 2 ≤ g.offset sample % g.width) :
    g.rise sample 0 = g.offset sample / g.width + 1 := by
  rw [rise, Draws.scale_lowest, if_pos (by omega)]

theorem rise_highest (hpos : 0 < g.range) (hle : g.range ≤ UInt32.size)
    (h : g.offset sample % g.width ≤ g.range) :
    g.rise sample 0xffffffff = g.offset sample / g.width := by
  rw [rise, Draws.scale_highest hpos hle, if_neg (by omega), Nat.add_zero]

/-! ## Levels of bands -/

theorem levelAt_of_le (h : g.levels ≤ band) : g.levelAt band = g.levelAt g.levels.toNat := by
  unfold levelAt
  split <;> omega

theorem levelAt_succ_ne (h : band < g.levels) : g.levelAt (band + 1) ≠ g.levelAt band := by
  unfold levelAt
  split <;> omega

theorem levelAt_rise_of_le (h : g.levels ≤ (g.offset sample / g.width : Nat)) (w : UInt32) :
    g.levelAt (g.rise sample w) = g.levelAt (g.offset sample / g.width) := by
  have hrise : g.levels ≤ g.rise sample w := by
    unfold rise
    omega
  rw [levelAt_of_le hrise, levelAt_of_le h]

/-- Upwards the last sample of a band is above all thresholds, and every other one is not. -/
theorem range_lt_depth_iff (hlevels : 0 < g.levels) (hwidth : 2 ≤ g.width) :
    g.range < g.offset sample % g.width ↔
      g.start < g.stop ∧ g.offset sample % g.width = g.width - 1 := by
  have hdepth : g.offset sample % g.width < g.width := Nat.mod_lt _ (by omega)
  by_cases hup : g.start < g.stop
  · have hrange := range_of_lt hlevels hwidth hup
    omega
  · have hrange := range_of_not_lt hlevels (by omega) hup
    omega

theorem range_pos (hlevels : 0 < g.levels) (hwidth : 3 ≤ g.width) : 0 < g.range := by
  by_cases hup : g.start < g.stop
  · have hrange := range_of_lt hlevels (by omega) hup
    omega
  · have hrange := range_of_not_lt hlevels (by omega) hup
    omega

/-- **Fixed samples.** Let the bands be at least three wide and all numbers stay within 32 bits. A
sample lies in some band, counted from the lower end, and at some depth in it. Its level is the same
for all sources of draws exactly if its depth is 0 or 1, or its band is beyond all levels, or the
gradient runs upwards and the sample is the last of its band. At depth 0 or 1 it has the level of
its band, and upwards the last has that of the next band. Downwards the last sample of a band has
the level of the next band for the lowest word and that of its own for the highest. -/
theorem level_fixed_iff (g : Gradient) (sample : Int) (hlevels : 0 < g.levels)
    (hwidth : 3 ≤ g.width) (hfits : ∀ w, g.Fits sample w) :
    let band := g.offset sample / g.width
    let depth := g.offset sample % g.width
    ((∀ d d', (g.sample sample d).1 = (g.sample sample d').1) ↔
      depth ≤ 1 ∨ g.levels ≤ band ∨ g.start < g.stop ∧ depth = g.width - 1) ∧
      (depth ≤ 1 → ∀ d, (g.sample sample d).1 = .ok (g.levelAt band)) ∧
      (g.start < g.stop → depth = g.width - 1 →
        ∀ d, (g.sample sample d).1 = .ok (g.levelAt (band + 1))) ∧
      (g.stop < g.start → depth = g.width - 1 →
        (g.sample sample (.fixed 0)).1 = .ok (g.levelAt (band + 1)) ∧
          (g.sample sample (.fixed 0xffffffff)).1 = .ok (g.levelAt band)) := by
  intro band depth
  have hslope : g.slope ≠ 0 := by
    unfold width at hwidth
    omega
  have hlevel : ∀ d, (g.sample sample d).1 = .ok (g.levelAt (g.rise sample d.peek)) :=
    fun d => sample_eq_ok hlevels hslope (hfits d.peek)
  have hpos := range_pos hlevels hwidth
  have hlast : g.range < depth ↔ g.start < g.stop ∧ depth = g.width - 1 :=
    range_lt_depth_iff hlevels (by omega)
  have hlow : depth ≤ 1 → ∀ d, (g.sample sample d).1 = .ok (g.levelAt band) := by
    intro hle d
    rw [hlevel, rise_of_depth_le hle]
  have htop : g.range < depth → ∀ d, (g.sample sample d).1 = .ok (g.levelAt (band + 1)) := by
    intro hlt d
    rw [hlevel, rise_of_range_lt hpos hlt]
  have hends : 2 ≤ depth → depth ≤ g.range →
      (g.sample sample (.fixed 0)).1 = .ok (g.levelAt (band + 1)) ∧
        (g.sample sample (.fixed 0xffffffff)).1 = .ok (g.levelAt band) := by
    intro hdeep hle
    constructor
    · rw [hlevel, Draws.peek_fixed, rise_lowest hdeep]
    · rw [hlevel, Draws.peek_fixed, rise_highest hpos (hfits 0).range_le hle]
  refine ⟨⟨?_, ?_⟩, hlow, fun hup htopmost => htop (hlast.mpr ⟨hup, htopmost⟩), ?_⟩
  · intro hsame
    refine Decidable.byContradiction fun hother => ?_
    rw [← hlast, not_or, not_or] at hother
    obtain ⟨hdeep, hbelow, hle⟩ := hother
    obtain ⟨hnext, hown⟩ := hends (by omega) (Nat.le_of_not_lt hle)
    have heq := hnext.symm.trans ((hsame _ _).trans hown)
    exact levelAt_succ_ne (Int.not_le.mp hbelow) (Except.ok.inj heq)
  · rw [← hlast]
    rintro (hle | hbeyond | hlt) d d'
    · rw [hlow hle, hlow hle]
    · rw [hlevel, hlevel, levelAt_rise_of_le hbeyond, levelAt_rise_of_le hbeyond]
    · rw [htop hlt, htop hlt]
  · intro hdown htopmost
    refine hends (by omega) (Nat.le_of_not_lt fun hlt => ?_)
    have := (hlast.mp hlt).1
    omega

/-- Three levels from 240 down to 15: 89 is the last of the 75 values of the lowest band, and the
lowest and the highest word disagree on it. Upwards it is lifted by every word. -/
theorem top_of_falling_band :
    (¬ ∀ d d', ((falling 3).sample 89 d).1 = ((falling 3).sample 89 d').1) ∧
      ((falling 3).sample 89 (.fixed 0)).1 = .ok 2 ∧
      ((falling 3).sample 89 (.fixed 0xffffffff)).1 = .ok 3 ∧
      ∀ d, ((rising 3).sample 89 d).1 = .ok 1 := by
  have hfits : ∀ w, (falling 3).Fits 89 w := fun w =>
    ⟨by decide, by decide, by decide, signed_threshold (by decide) w⟩
  have hfits' : ∀ w, (rising 3).Fits 89 w := fun w =>
    ⟨by decide, by decide, by decide, signed_threshold (by decide) w⟩
  obtain ⟨hiff, -, -, hends⟩ := level_fixed_iff (falling 3) 89 (by decide) (by decide) hfits
  obtain ⟨-, -, htop, -⟩ := level_fixed_iff (rising 3) 89 (by decide) (by decide) hfits'
  obtain ⟨hnext, hown⟩ := hends (by decide) (by decide)
  exact ⟨(not_congr hiff).mpr (by decide), hnext, hown, htop (by decide) (by decide)⟩

end MapPainter.Gradient
