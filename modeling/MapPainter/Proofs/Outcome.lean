import MapPainter.Fault
import Mathlib.Algebra.Group.Nat.Defs

/-!
# Results of computations that can fail

A chain of fallible steps succeeds exactly when each step succeeds in turn (`bind_eq_ok`), and a
fold over a list is such a chain (`foldlM_cons_eq_ok`). Arithmetic of a bounded width is exact
within it.
-/

namespace MapPainter.Outcome

variable {ε ζ α β γ : Type}

@[simp] theorem ok_bind (a : α) (f : α → Except ε β) : (Except.ok a >>= f) = f a := rfl

@[simp] theorem error_bind (e : ε) (f : α → Except ε β) :
    ((Except.error e : Except ε α) >>= f) = .error e := rfl

@[simp] theorem mapError_ok (a : α) (f : ε → ζ) :
    (Except.ok a : Except ε α).mapError f = .ok a := rfl

@[simp] theorem mapError_error (e : ε) (f : ε → ζ) :
    (Except.error e : Except ε α).mapError f = .error (f e) := rfl

@[simp] theorem pure_eq_ok (a : α) : (pure a : Except ε α) = .ok a := rfl

theorem bind_eq_ok {x : Except ε α} {f : α → Except ε β} {b : β} :
    x >>= f = .ok b ↔ ∃ a, x = .ok a ∧ f a = .ok b := by
  cases x <;> simp

theorem bind_eq_error {x : Except ε α} {f : α → Except ε β} {e : ε} :
    x >>= f = .error e ↔ x = .error e ∨ ∃ a, x = .ok a ∧ f a = .error e := by
  cases x <;> simp

theorem map_eq_ok {x : Except ε α} {f : α → β} {b : β} :
    x.map f = .ok b ↔ ∃ a, x = .ok a ∧ f a = b := by
  cases x <;> simp [Except.map]

theorem mapError_eq_ok {x : Except ε α} {f : ε → ζ} {a : α} :
    x.mapError f = .ok a ↔ x = .ok a := by
  cases x <;> simp

theorem mapError_eq_error {x : Except ε α} {f : ε → ζ} {e : ζ} :
    x.mapError f = .error e ↔ ∃ e', x = .error e' ∧ f e' = e := by
  cases x <;> simp

/-- A result behind a check. -/
theorem ite_error_eq_ok {p : Prop} [Decidable p] {x : Except ε α} {e : ε} {a : α} :
    (if p then x else .error e) = .ok a ↔ p ∧ x = .ok a := by
  by_cases h : p <;> simp [h]

theorem foldlM_cons_eq_ok {f : β → α → Except ε β} {b c : β} {a : α} {l : List α} :
    (a :: l).foldlM f b = .ok c ↔ ∃ b', f b a = .ok b' ∧ l.foldlM f b' = .ok c := by
  rw [List.foldlM_cons, bind_eq_ok]

/-- A fold over the parts of a list of lists is a fold of folds. -/
theorem foldlM_flatMap (l : List α) (g : α → List β) (f : γ → β → Except ε γ) (init : γ) :
    (l.flatMap g).foldlM f init = l.foldlM (fun acc a => (g a).foldlM f acc) init := by
  induction l generalizing init with
  | nil => rfl
  | cons a l ih =>
    rw [List.flatMap_cons, List.foldlM_append, List.foldlM_cons]
    exact congrArg _ (funext ih)

end MapPainter.Outcome

namespace MapPainter.Word

variable {a b n bits : Nat}

theorem sub_of_le (h : b ≤ a) : sub a b = .ok (a - b) := if_pos h

theorem div_of_pos (h : 0 < b) : div a b = .ok (a / b) := if_neg (Nat.ne_of_gt h)

theorem fit_of_lt (h : n < 2 ^ bits) : fit bits n = .ok n := by
  rw [← Nat.one_shiftLeft] at h
  exact if_pos h

theorem eq_of_fit {m : Nat} (h : fit bits n = .ok m) : m = n ∧ n < 2 ^ bits := by
  obtain ⟨hlt, heq⟩ := Outcome.ite_error_eq_ok.mp h
  rw [Nat.one_shiftLeft] at hlt
  exact ⟨(Except.ok.inj heq).symm, hlt⟩

/-- The number has room in a signed word of 32 bits. -/
def Signed (n : Int) : Prop := -0x80000000 ≤ n ∧ n < 0x80000000

instance (n : Int) : Decidable (Signed n) := inferInstanceAs (Decidable (_ ∧ _))

theorem fitSigned_of_signed {i : Int} (h : Signed i) : fitSigned i = .ok i := if_pos h

theorem fitSigned_of_not_signed {i : Int} (h : ¬ Signed i) : fitSigned i = .error .overflow :=
  if_neg h

theorem fitSigned_eq_ok_iff {i j : Int} : fitSigned i = .ok j ↔ Signed i ∧ j = i := by
  rw [fitSigned, Outcome.ite_error_eq_ok, Except.ok.injEq, eq_comm]
  rfl

end MapPainter.Word
