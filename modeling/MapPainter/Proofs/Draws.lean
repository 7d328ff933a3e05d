import MapPainter.Draws
import MapPainter.Proofs.Outcome

/-!
# Readings

A reading takes words from a source of draws and comes to a value or a fault. It is steady if the
words do not matter (`Steady`): it takes as many of them from every source and always comes to the
same end. It is total if it never comes to a fault (`Total`). Steady readings, one after the other,
make a steady reading (`Steady.bind`), and so do total ones (`Total.bind`). Many readings take a
fixed number of words, whatever they come to (`Takes`), and these numbers add up (`Takes.bind`).
-/

namespace MapPainter

namespace Draws

variable {d : Draws} {n k : Nat}

/-- The source after `n` more words are taken. -/
def advance (d : Draws) (n : Nat) : Draws := { d with taken := d.taken + n }

@[simp] theorem advance_advance : (d.advance n).advance k = d.advance (n + k) := by
  simp only [advance, Nat.add_assoc]

@[simp] theorem peek_fixed (w : UInt32) : (fixed w).peek = w := rfl

theorem scale_le (w : UInt32) (limit : Nat) : scale w limit ≤ limit := by
  have hw : w.toNat ≤ UInt32.size := Nat.le_of_lt w.toNat_lt
  calc w.toNat * limit / UInt32.size ≤ UInt32.size * limit / UInt32.size :=
        Nat.div_le_div_right (Nat.mul_le_mul_right limit hw)
    _ = limit := Nat.mul_div_cancel_left limit (by decide)

theorem scale_lt (w : UInt32) {limit : Nat} (hpos : 0 < limit) : scale w limit < limit := by
  rw [scale, Nat.div_lt_iff_lt_mul (by decide), Nat.mul_comm limit]
  exact Nat.mul_lt_mul_of_pos_right w.toNat_lt hpos

/-- With no limit at all the number is 0, which is below every other bound. -/
theorem scale_lt_of_le (w : UInt32) {limit bound : Nat} (hle : limit ≤ bound) (hpos : 0 < bound) :
    scale w limit < bound := by
  rcases Nat.eq_zero_or_pos limit with hzero | hlimit
  · exact Nat.lt_of_le_of_lt (scale_le w limit) (hzero ▸ hpos)
  · exact Nat.lt_of_lt_of_le (scale_lt w hlimit) hle

theorem scale_lowest (limit : Nat) : scale 0 limit = 0 := by
  change 0 * limit / UInt32.size = 0
  rw [Nat.zero_mul, Nat.zero_div]

/-- The highest word gives the last of the numbers. -/
theorem scale_highest {limit : Nat} (hpos : 0 < limit) (hle : limit ≤ UInt32.size) :
    scale 0xffffffff limit = limit - 1 := by
  unfold UInt32.size at hle
  change 4294967295 * limit / 4294967296 = limit - 1
  omega

end Draws

/-- Whatever the words are, the reading takes as many of them and comes to the same end. -/
def Steady {α : Type} (x : Draws → Except Fault (α × Draws)) : Prop :=
  ∃ (n : Nat) (r : Except Fault α), ∀ d, x d = r.map fun a => (a, d.advance n)

namespace Steady

variable {α β : Type} {x : Draws → Except Fault (α × Draws)}

theorem pure (a : α) : Steady fun d => .ok (a, d) := ⟨0, .ok a, fun _ => rfl⟩

theorem error (fault : Fault) : Steady fun _ => (.error fault : Except Fault (α × Draws)) :=
  ⟨0, .error fault, fun _ => rfl⟩

theorem bind {f : α × Draws → Except Fault (β × Draws)} (hx : Steady x)
    (hf : ∀ a, Steady fun d => f (a, d)) : Steady fun d => x d >>= f := by
  obtain ⟨n, r, hx⟩ := hx
  cases r with
  | error fault =>
    refine ⟨0, .error fault, fun d => ?_⟩
    dsimp only
    rw [hx]
    rfl
  | ok a =>
    obtain ⟨k, r, hf⟩ := hf a
    refine ⟨n + k, r, fun d => ?_⟩
    dsimp only at hf ⊢
    rw [hx, Except.map, Outcome.ok_bind, hf, Draws.advance_advance]

theorem ite {c : Prop} [Decidable c] {y : Draws → Except Fault (α × Draws)} (hx : Steady x)
    (hy : Steady y) : Steady fun d => if c then x d else y d := by
  by_cases hc : c
  · simpa only [if_pos hc] using hx
  · simpa only [if_neg hc] using hy

theorem map (hx : Steady x) (f : α → β) :
    Steady fun d => (x d).map fun (a, d) => (f a, d) := by
  obtain ⟨n, r, hx⟩ := hx
  refine ⟨n, r.map f, fun d => ?_⟩
  dsimp only
  rw [hx]
  cases r <;> rfl

/-- What a steady reading has found once, it finds in every source, for as many words. -/
theorem eq_ok {a : α} {d d' : Draws} (hx : Steady x) (h : x d = .ok (a, d')) :
    ∃ n, d' = d.advance n ∧ ∀ e, x e = .ok (a, e.advance n) := by
  obtain ⟨n, r, hx⟩ := hx
  obtain ⟨a', rfl, heq⟩ := Outcome.map_eq_ok.mp ((hx d).symm.trans h)
  obtain ⟨rfl, rfl⟩ := Prod.mk.inj heq
  exact ⟨n, rfl, hx⟩

end Steady

/-- From every source the reading comes to a value. -/
def Total {α : Type} (x : Draws → Except Fault (α × Draws)) : Prop :=
  ∀ d, ∃ a d', x d = .ok (a, d')

namespace Total

variable {α β : Type} {x : Draws → Except Fault (α × Draws)}

theorem pure (a : α) : Total fun d => .ok (a, d) := fun d => ⟨a, d, rfl⟩

theorem bind {f : α × Draws → Except Fault (β × Draws)} (hx : Total x)
    (hf : ∀ a, Total fun d => f (a, d)) : Total fun d => x d >>= f := by
  intro d
  obtain ⟨a, d₁, ha⟩ := hx d
  obtain ⟨b, d₂, hb⟩ := hf a d₁
  refine ⟨b, d₂, ?_⟩
  dsimp only
  rw [ha, Outcome.ok_bind]
  exact hb

theorem ite {c : Prop} [Decidable c] {y : Draws → Except Fault (α × Draws)} (hx : Total x)
    (hy : Total y) : Total fun d => if c then x d else y d := by
  by_cases hc : c
  · simpa only [if_pos hc] using hx
  · simpa only [if_neg hc] using hy

end Total

/-- Whenever the reading comes to a value, it has taken `n` words. -/
def Takes {α : Type} (x : Draws → Except Fault (α × Draws)) (n : Nat) : Prop :=
  ∀ d a d', x d = .ok (a, d') → d' = d.advance n

namespace Takes

variable {α β : Type} {x : Draws → Except Fault (α × Draws)} {n k : Nat}

theorem pure (a : α) : Takes (fun d => .ok (a, d)) 0 := by
  rintro d _ _ ⟨⟩
  rfl

theorem bind {f : α × Draws → Except Fault (β × Draws)} (hx : Takes x n)
    (hf : ∀ a, Takes (fun d => f (a, d)) k) : Takes (fun d => x d >>= f) (n + k) := by
  intro d b d' h
  obtain ⟨⟨a, d₁⟩, ha, hb⟩ := Outcome.bind_eq_ok.mp h
  rw [hf a d₁ b d' hb, hx d a d₁ ha, Draws.advance_advance]

/-- What comes after the last word is free. -/
theorem bind_zero {f : α × Draws → Except Fault (β × Draws)} (hx : Takes x n)
    (hf : ∀ a, Takes (fun d => f (a, d)) 0) : Takes (fun d => x d >>= f) n :=
  hx.bind hf

theorem ite {c : Prop} [Decidable c] {y : Draws → Except Fault (α × Draws)} (hx : Takes x n)
    (hy : Takes y k) : Takes (fun d => if c then x d else y d) (if c then n else k) := by
  by_cases hc : c
  · simpa only [if_pos hc] using hx
  · simpa only [if_neg hc] using hy

end Takes

end MapPainter
