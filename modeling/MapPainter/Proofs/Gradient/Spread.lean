import MapPainter.Proofs.Draws.Shares
import MapPainter.Proofs.Gradient.Edges
import Mathlib.Algebra.BigOperators.Ring.Finset

/-!
# The chance of jitter

Where a gradient runs upwards, the chance that a sample is lifted to the next level rises with its
depth in the band, by the same amount from value to value. In a band of width `s` the threshold
takes `s - 2` values, and the lowest `m - 1` of them lie below depth `m`, so as many of them lift
the sample (`Gradient.lifting_thresholds`).
-/

namespace MapPainter.Gradient

variable {g : Gradient} {s q m : Nat}

/-- The gradient runs upwards, in bands of width `s`. -/
structure Ascends (g : Gradient) (s : Nat) : Prop where
  levels_pos : 0 < g.levels
  up : g.start < g.stop
  slope : g.slope = s
  span : Word.Signed (g.stop - g.start)

theorem ascends_of_step (h : g.step = .ok (s : Int)) (hs : 0 < s) : g.Ascends s := by
  obtain ⟨hlevels, hspan, hslope, heq⟩ := step_eq_ok_iff.mp h
  have hneg := slope_neg_iff hlevels hslope
  exact ⟨hlevels, by omega, heq.symm, hspan⟩

namespace Ascends

theorem width (h : g.Ascends s) : g.width = s := by
  rw [Gradient.width, h.slope, Int.natAbs_natCast]

theorem range (h : g.Ascends s) (hs : 2 ≤ s) : g.range = s - 2 := by
  rw [range_of_lt h.levels_pos (h.width ▸ hs) h.up, h.width]

theorem offset (h : g.Ascends s) : g.offset (g.start + q * s + m) = q * s + m := by
  have hup := h.up
  have hcast : ((q * s : Nat) : Int) = q * s := Int.natCast_mul q s
  unfold Gradient.offset
  omega

/-- Within the bands no number gets larger than the gradient is long. -/
theorem fits (h : g.Ascends s) (hs : 2 ≤ s) (hq : (q : Int) < g.levels) (hm : m < s)
    (w : UInt32) : g.Fits (g.start + q * s + m) w := by
  have hbands : q * s + s ≤ (g.stop - g.start).natAbs :=
    calc q * s + s = (q + 1) * s := (Nat.succ_mul q s).symm
      _ ≤ g.levels.toNat * s := Nat.mul_le_mul_right s (by omega)
      _ ≤ (g.stop - g.start).natAbs := h.width ▸ levels_mul_width_le h.levels_pos
  have hup := h.up
  have hspan := h.span
  have hslope := h.slope
  have hrange := h.range hs
  have hcast : ((q * s : Nat) : Int) = q * s := Int.natCast_mul q s
  unfold Word.Signed at hspan
  refine ⟨h.span, ?_, ?_, signed_threshold (by omega) w⟩
  · unfold Word.Signed
    omega
  · unfold Word.Signed
    omega

theorem sample_eq (h : g.Ascends s) (hs : 2 ≤ s) (hq : (q : Int) < g.levels) (hm : m < s)
    (d : Draws) :
    (g.sample (g.start + q * s + m) d).1 =
      .ok (q + if (d.below (s - 2)).1 < m - 1 then 1 else 0) := by
  have hslope : g.slope ≠ 0 := by
    rw [h.slope]
    omega
  rw [sample_eq_ok h.levels_pos hslope (h.fits hs hq hm d.peek), rise, h.offset, h.width,
    h.range hs, Division.number_div q hm, Nat.mul_add_mod_of_lt hm, levelAt, if_pos h.up]
  refine congrArg Except.ok ?_
  change min ((q + if (d.below (s - 2)).1 + 1 < m then 1 else 0 : Nat) : Int) g.levels = _
  generalize (d.below (s - 2)).1 = k
  split <;> split <;> omega

end Ascends

theorem filter_range_lt {k n : Nat} (hle : k ≤ n) :
    (Finset.range n).filter (· < k) = Finset.range k := by
  ext i
  simp only [Finset.mem_filter, Finset.mem_range]
  omega

/-- **Chance of jitter.** Let the bands be `s` wide, which is at least three and upwards, and let a
sample lie at depth `m` of band `q`. Its level is a function of the threshold drawn, which takes
exactly the values below `s - 2`. For exactly `m - 1` of them, none at depth 0, it is `q + 1`, and
for the others `q`. So the levels for all values add up to `q * (s - 2)` and those `m - 1`. -/
theorem lifting_thresholds (g : Gradient) (s q m : Nat) (hstep : g.step = .ok (s : Int))
    (hs : 3 ≤ s) (hq : (q : Int) < g.levels) (hm : m < s) :
    let values := Finset.range (s - 2)
    ∃ level : Nat → Int,
      (∀ d, (g.sample (g.start + q * s + m) d).1 = .ok (level (d.below (s - 2)).1)) ∧
      (∀ k, k ∈ values ↔ ∃ d : Draws, (d.below (s - 2)).1 = k) ∧
      (values.filter fun k => level k = q + 1).card = m - 1 ∧
      (∀ k ∈ values, level k = q + 1 ∨ level k = q) ∧
      ∑ k ∈ values, level k = (q * (s - 2) + (m - 1) : Nat) := by
  intro values
  have h := ascends_of_step hstep (by omega)
  have hsize : s - 2 ≤ UInt32.size :=
    h.range (by omega) ▸ (h.fits (by omega) hq hm 0).range_le
  have hcount : (values.filter fun k => k < m - 1).card = m - 1 := by
    rw [filter_range_lt (by omega), Finset.card_range]
  refine ⟨fun k => q + if k < m - 1 then 1 else 0, h.sample_eq (by omega) hq hm, ?_, ?_, ?_, ?_⟩
  · intro k
    rw [Finset.mem_range]
    constructor
    · intro hk
      obtain ⟨w, hw⟩ := Draws.exists_scale_eq hk hsize
      exact ⟨.fixed w, hw⟩
    · rintro ⟨d, rfl⟩
      exact Draws.scale_lt d.peek (by omega)
  · refine Eq.trans (congrArg Finset.card (Finset.filter_congr fun k _ => ?_)) hcount
    dsimp only
    split <;> omega
  · intro k _
    dsimp only
    split
    · exact Or.inl rfl
    · exact Or.inr (Int.add_zero _)
  · rw [Finset.sum_add_distrib, Finset.sum_const, Finset.card_range, Finset.sum_boole, hcount,
      nsmul_eq_mul, Nat.cast_add, Nat.cast_mul, Int.mul_comm]

/-- Three levels from 15 to 240 have bands of 75 values. 128 lies at depth 38 of the second band, so
37 of the 73 thresholds lift it, and the levels add up to 110. -/
theorem middle_of_band_thresholds :
    ∃ level : Nat → Int,
      (∀ d, ((rising 3).sample 128 d).1 = .ok (level (d.below 73).1)) ∧
      ((Finset.range 73).filter fun k => level k = 2).card = 37 ∧
      ∑ k ∈ Finset.range 73, level k = 110 := by
  obtain ⟨level, hlevel, -, hcount, -, hsum⟩ :=
    lifting_thresholds (rising 3) 75 1 38 (by decide) (by decide) (by decide) (by decide)
  exact ⟨level, hlevel, hcount, hsum⟩

end MapPainter.Gradient
