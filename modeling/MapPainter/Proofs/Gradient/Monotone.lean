import MapPainter.Proofs.Gradient.Band
import Mathlib.Algebra.Order.BigOperators.Expect
import Mathlib.Data.FinEnum
import Mathlib.Data.Rat.Cast.Order

/-!
# Levels follow the samples

For one word, a higher sample never has a lower level on a gradient that runs upwards, nor a higher
one on a gradient that runs downwards (`Gradient.sample_monotone`). Within a band the word lifts
from some depth on, and no word lifts past the band that comes next, where it lets go of the sample
again (`Gradient.lift_mono`). So the same holds on average, over all words or some.
-/

namespace MapPainter.Gradient

variable {g : Gradient} {x y : Int}

theorem offset_mono (hle : x ≤ y) : g.offset x ≤ g.offset y := by
  unfold offset
  omega

/-- Bands of any width, lifted from any depth on. -/
theorem lift_mono {m n : Nat} (hle : m ≤ n) (width threshold : Nat) :
    (m / width + if threshold < m % width then 1 else 0) ≤
      n / width + if threshold < n % width then 1 else 0 := by
  rcases Nat.lt_or_eq_of_le (Nat.div_le_div_right (c := width) hle) with hlt | heq
  · have hlift : (if threshold < m % width then 1 else 0) ≤ 1 := by
      split <;> decide
    omega
  · -- In one band the depths are in the order of the samples.
    have hdepth : m % width ≤ n % width := by
      have hm := Nat.div_add_mod m width
      have hn := Nat.div_add_mod n width
      rw [heq] at hm
      omega
    rw [heq]
    split
    case isTrue hlift => rw [if_pos (by omega)]
    case isFalse => omega

theorem rise_mono (hle : x ≤ y) (w : UInt32) : g.rise x w ≤ g.rise y w :=
  lift_mono (offset_mono hle) g.width (Draws.scale w g.range + 1)

theorem levelAt_mono {m n : Nat} (hup : g.start < g.stop) (hle : m ≤ n) :
    g.levelAt m ≤ g.levelAt n := by
  rw [levelAt, levelAt, if_pos hup, if_pos hup]
  omega

theorem levelAt_anti {m n : Nat} (hdown : g.stop < g.start) (hle : m ≤ n) :
    g.levelAt n ≤ g.levelAt m := by
  have hnot : ¬ g.start < g.stop := by omega
  rw [levelAt, levelAt, if_neg hnot, if_neg hnot]
  omega

/-- **Monotone levels.** Let the gradient be no shorter than its levels and `x ≤ y`. As long as no
number leaves its 32 bits, both samples have a level for every word, and the level of `x` is at most
that of `y` if the gradient runs upwards and at least that of `y` if it runs downwards. So are the
averages of their levels over all words, and over any set of words. -/
theorem sample_monotone (g : Gradient) (x y : Int) (hlevels : 0 < g.levels)
    (hroom : g.levels ≤ (g.stop - g.start).natAbs) (hle : x ≤ y) :
    (∀ d d' : Draws, d.peek = d'.peek → g.Fits x d.peek → g.Fits y d.peek →
      ∃ level level', (g.sample x d).1 = .ok level ∧ (g.sample y d').1 = .ok level' ∧
        (g.start < g.stop → level ≤ level') ∧ (g.stop < g.start → level' ≤ level)) ∧
      ∀ words : Finset UInt32, (∀ w ∈ words, g.Fits x w ∧ g.Fits y w) →
        ∃ levels levels' : UInt32 → Int,
          (∀ w ∈ words, (g.sample x (.fixed w)).1 = .ok (levels w) ∧
            (g.sample y (.fixed w)).1 = .ok (levels' w)) ∧
          (g.start < g.stop →
            words.expect (fun w => (levels w : ℚ)) ≤ words.expect fun w => (levels' w : ℚ)) ∧
          (g.stop < g.start →
            words.expect (fun w => (levels' w : ℚ)) ≤ words.expect fun w => (levels w : ℚ)) := by
  have hslope := slope_ne_zero hlevels hroom
  constructor
  · intro d d' hpeek hx hy
    refine ⟨_, _, sample_eq_ok hlevels hslope hx, sample_eq_ok hlevels hslope (hpeek ▸ hy), ?_, ?_⟩
    · intro hup
      exact levelAt_mono hup (hpeek ▸ rise_mono hle _)
    · intro hdown
      exact levelAt_anti hdown (hpeek ▸ rise_mono hle _)
  · intro words hfits
    refine ⟨fun w => g.levelAt (g.rise x w), fun w => g.levelAt (g.rise y w), ?_, ?_, ?_⟩
    · intro w hw
      exact ⟨sample_eq_ok hlevels hslope (hfits w hw).1,
        sample_eq_ok hlevels hslope (hfits w hw).2⟩
    · intro hup
      refine Finset.expect_le_expect fun w _ => Int.cast_le.mpr ?_
      exact levelAt_mono hup (rise_mono hle w)
    · intro hdown
      refine Finset.expect_le_expect fun w _ => Int.cast_le.mpr ?_
      exact levelAt_anti hdown (rise_mono hle w)

/-- From 80 to 95 the level of a falling gradient falls from 2 to 1 for the lowest word. It rises
for no word, and so falls on average. -/
theorem falling_levels_fall :
    ((falling 3).sample 80 (.fixed 0)).1 = .ok 2 ∧ ((falling 3).sample 95 (.fixed 0)).1 = .ok 1 ∧
      ∃ levels levels' : UInt32 → Int,
        (∀ w, ((falling 3).sample 80 (.fixed w)).1 = .ok (levels w) ∧
          ((falling 3).sample 95 (.fixed w)).1 = .ok (levels' w) ∧ levels' w ≤ levels w) ∧
        Finset.univ.expect (fun w => (levels' w : ℚ)) <
          Finset.univ.expect fun w => (levels w : ℚ) := by
  have hfits : ∀ w, (falling 3).Fits 80 w := fun w =>
    ⟨by decide, by decide, by decide, signed_threshold (by decide) w⟩
  have hfits' : ∀ w, (falling 3).Fits 95 w := fun w =>
    ⟨by decide, by decide, by decide, signed_threshold (by decide) w⟩
  obtain ⟨hword, hwords⟩ := sample_monotone (falling 3) 80 95 (by decide) (by decide) (by decide)
  obtain ⟨levels, levels', hall, -⟩ :=
    hwords Finset.univ fun w _ => ⟨hfits w, hfits' w⟩
  have hfirst : ((falling 3).sample 80 (.fixed 0)).1 = .ok 2 := by decide
  have hsecond : ((falling 3).sample 95 (.fixed 0)).1 = .ok 1 := by decide
  have hpointwise : ∀ w, levels' w ≤ levels w := by
    intro w
    obtain ⟨hx, hy⟩ := hall w (Finset.mem_univ w)
    obtain ⟨level, level', hx', hy', -, hfall⟩ :=
      hword (.fixed w) (.fixed w) rfl (hfits w) (hfits' w)
    rw [Except.ok.inj (hx.symm.trans hx'), Except.ok.inj (hy.symm.trans hy')]
    exact hfall (by decide)
  have hstrict : levels' 0 < levels 0 := by
    obtain ⟨hx, hy⟩ := hall 0 (Finset.mem_univ 0)
    rw [Except.ok.inj (hx.symm.trans hfirst), Except.ok.inj (hy.symm.trans hsecond)]
    decide
  refine ⟨hfirst, hsecond, levels, levels', fun w => ?_, ?_⟩
  · obtain ⟨hx, hy⟩ := hall w (Finset.mem_univ w)
    exact ⟨hx, hy, hpointwise w⟩
  · refine Finset.expect_lt_expect (fun w _ => Int.cast_le.mpr (hpointwise w)) ?_
    exact ⟨0, Finset.mem_univ 0, Int.cast_lt.mpr hstrict⟩

end MapPainter.Gradient
