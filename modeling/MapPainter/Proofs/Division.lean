import Mathlib.Algebra.Order.Floor.Div

/-!
# Quotients

Where places are numbered row by row, `col` in row `row` has the number `row * width + col`, and
both are found again as the quotient and the remainder by the width (`Division.number_div`). The
quotients of the multiples of `n` by `c`, rounded up, grow from one to the next by `n / c`, rounded
down or up (`Division.ceilDiv_succ_mul_sub`).
-/

namespace MapPainter.Division

variable {row col width height m n c : Nat}

theorem number_lt (hr : row < height) (hc : col < width) : row * width + col < height * width :=
  calc row * width + col < row * width + width := Nat.add_lt_add_left hc _
    _ = (row + 1) * width := (Nat.succ_mul row width).symm
    _ ≤ height * width := Nat.mul_le_mul_right width hr

theorem number_div (row : Nat) (hc : col < width) : (row * width + col) / width = row := by
  rw [Nat.mul_comm, Nat.mul_add_div (Nat.zero_lt_of_lt hc), Nat.div_eq_of_lt hc, Nat.add_zero]

theorem ceilDiv_add_le (hc : 0 < c) : (m + n) ⌈/⌉ c ≤ m ⌈/⌉ c + n ⌈/⌉ c := by
  rw [ceilDiv_le_iff_le_mul hc, Nat.mul_add]
  exact Nat.add_le_add (le_smul_ceilDiv hc) (le_smul_ceilDiv hc)

theorem ceilDiv_add_div_le (hc : 0 < c) : m ⌈/⌉ c + n / c ≤ (m + n) ⌈/⌉ c := by
  have hsum : m + n ≤ c * ((m + n) ⌈/⌉ c) := le_smul_ceilDiv hc
  have hdiv : c * (n / c) ≤ n := Nat.mul_div_le n c
  have hle : n / c ≤ (m + n) ⌈/⌉ c :=
    Nat.le_of_mul_le_mul_left (hdiv.trans ((Nat.le_add_left n m).trans hsum)) hc
  have hm : m ⌈/⌉ c ≤ (m + n) ⌈/⌉ c - n / c := by
    rw [ceilDiv_le_iff_le_mul hc, Nat.mul_sub]
    omega
  omega

theorem ceilDiv_le_div_add_one (hc : 0 < c) : n ⌈/⌉ c ≤ n / c + 1 :=
  (ceilDiv_le_iff_le_mul hc).mpr (Nat.lt_mul_div_succ n hc).le

theorem ceilDiv_succ_mul_sub (hc : 0 < c) (k n : Nat) :
    ((k + 1) * n) ⌈/⌉ c - (k * n) ⌈/⌉ c = n / c ∨
      ((k + 1) * n) ⌈/⌉ c - (k * n) ⌈/⌉ c = n ⌈/⌉ c := by
  rw [Nat.succ_mul]
  have hhigh : (k * n + n) ⌈/⌉ c ≤ (k * n) ⌈/⌉ c + n ⌈/⌉ c := ceilDiv_add_le hc
  have hlow : (k * n) ⌈/⌉ c + n / c ≤ (k * n + n) ⌈/⌉ c := ceilDiv_add_div_le hc
  have hclose : n ⌈/⌉ c ≤ n / c + 1 := ceilDiv_le_div_add_one hc
  omega

end MapPainter.Division
