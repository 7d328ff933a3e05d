import MapPainter.Gradient
import MapPainter.Proofs.Outcome

/-!
# Levels of gradients

Reading a channel takes one word, whatever comes of it, and gives a level from 0 to the highest
level of the gradient. Often all that counts is whether the level is above 0 (`Gradient.raises`).
-/

namespace MapPainter.Gradient

variable {g : Gradient} {sample level : Int} {w : UInt32} {value : UInt8} {d d' : Draws}

theorem read_eq_ok :
    g.read value d = .ok (level, d') ↔
      g.levelFor value.toNat d.peek = .ok level ∧ d' = d.skip := by
  simp only [read, Outcome.bind_eq_ok, Outcome.pure_eq_ok, Except.ok.injEq, Prod.mk.injEq]
  constructor
  · rintro ⟨a, ha, rfl, rfl⟩
    exact ⟨ha, rfl⟩
  · rintro ⟨h, rfl⟩
    exact ⟨level, h, rfl, rfl⟩

theorem levels_pos_of_step {step : Int} (h : g.step = .ok step) : 0 < g.levels := by
  unfold Gradient.step at h
  split at h
  · cases h
  · omega

theorem levels_pos_of_locate {place : Place} (h : g.locate sample = .ok place) :
    0 < g.levels := by
  obtain ⟨step, hstep, -⟩ := Outcome.bind_eq_ok.mp h
  exact levels_pos_of_step hstep

/-- A place gives no level beyond the ends, whichever way the gradient runs. -/
theorem Place.level_mem {p : Place} {levels : Int} (h : p.level levels w = .ok level)
    (hlevels : 0 ≤ levels) : 0 ≤ level ∧ level ≤ levels := by
  obtain ⟨threshold, -, hlevel⟩ := Outcome.bind_eq_ok.mp h
  have heq := Except.ok.inj hlevel
  split at heq <;> omega

theorem levelFor_mem (h : g.levelFor sample w = .ok level) : 0 ≤ level ∧ level ≤ g.levels := by
  obtain ⟨place, hplace, hlevel⟩ := Outcome.bind_eq_ok.mp h
  exact place.level_mem hlevel (Int.le_of_lt (levels_pos_of_locate hplace))

theorem read_mem (h : g.read value d = .ok (level, d')) : 0 ≤ level ∧ level ≤ g.levels :=
  levelFor_mem (read_eq_ok.mp h).1

/-- With the word `w` the channel is read as a level above the lowest. -/
def raises (g : Gradient) (value : UInt8) (w : UInt32) : Bool :=
  (g.levelFor value.toNat w).toOption.any fun level => 0 < level

theorem raises_iff_of_read (h : g.read value d = .ok (level, d')) :
    g.raises value d.peek = true ↔ 0 < level := by
  rw [raises, (read_eq_ok.mp h).1]
  exact decide_eq_true_iff

end MapPainter.Gradient
