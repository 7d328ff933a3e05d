import MapPainter.Proofs.Division
import MapPainter.Proofs.Draws
import Mathlib.Data.Set.Card
import Mathlib.Order.Interval.Finset.Nat

/-!
# Shares of the words

A word is scaled to the numbers below a limit by a product and a shift. The words that are scaled to
one number follow each other: its share begins at `k * 2 ^ 32 / limit`, rounded up, and ends where
the share of the next number begins (`Draws.scale_eq_iff`). So the shares of two numbers differ by
one word at most, and no share is empty (`Draws.share_eq_or`). The product never leaves 64 bits
(`Draws.toNat_scaleWord`).
-/

namespace MapPainter.Draws

variable {w : UInt32} {k limit : Nat}

/-! ## Where a share begins -/

theorem scale_mono {w' : UInt32} (h : w ≤ w') (limit : Nat) : scale w limit ≤ scale w' limit :=
  Nat.div_le_div_right (Nat.mul_le_mul_right limit (UInt32.le_iff_toNat_le.mp h))

theorem le_scale_iff (hpos : 0 < limit) :
    k ≤ scale w limit ↔ (k * 2 ^ 32) ⌈/⌉ limit ≤ w.toNat := by
  have hsize : UInt32.size = 2 ^ 32 := by decide
  rw [scale, hsize, Nat.le_div_iff_mul_le (by decide), ceilDiv_le_iff_le_mul hpos,
    Nat.mul_comm limit]

theorem scale_eq_iff (hpos : 0 < limit) :
    scale w limit = k ↔
      (k * 2 ^ 32) ⌈/⌉ limit ≤ w.toNat ∧ w.toNat < ((k + 1) * 2 ^ 32) ⌈/⌉ limit := by
  rw [← le_scale_iff hpos, ← Nat.not_le, ← le_scale_iff hpos]
  omega

/-! ## The size of a share -/

/-- How many words are scaled to `k`. -/
def share (limit k : Nat) : Nat := ((k + 1) * 2 ^ 32) ⌈/⌉ limit - (k * 2 ^ 32) ⌈/⌉ limit

theorem share_eq_or (hpos : 0 < limit) (k : Nat) :
    share limit k = 2 ^ 32 / limit ∨ share limit k = (2 ^ 32) ⌈/⌉ limit :=
  Division.ceilDiv_succ_mul_sub hpos k _

theorem share_pos (hpos : 0 < limit) (hle : limit ≤ 2 ^ 32) (k : Nat) : 0 < share limit k := by
  have hfloor : 0 < 2 ^ 32 / limit := Nat.div_pos hle hpos
  have hceil : 2 ^ 32 / limit ≤ (2 ^ 32) ⌈/⌉ limit := by
    rw [← Nat.floorDiv_eq_div]
    exact floorDiv_le_ceilDiv
  rcases share_eq_or hpos k with h | h
  · exact h ▸ hfloor
  · exact h ▸ hfloor.trans_le hceil

/-- The share of a number below the limit lies among the words. -/
theorem image_toNat_scale_eq (hk : k < limit) :
    UInt32.toNat '' {w | scale w limit = k} =
      Finset.Ico ((k * 2 ^ 32) ⌈/⌉ limit) (((k + 1) * 2 ^ 32) ⌈/⌉ limit) := by
  have hpos : 0 < limit := Nat.zero_lt_of_lt hk
  have hend : ((k + 1) * 2 ^ 32) ⌈/⌉ limit ≤ 2 ^ 32 :=
    (ceilDiv_le_iff_le_mul hpos).mpr (Nat.mul_le_mul_right _ hk)
  ext n
  rw [Finset.mem_coe, Finset.mem_Ico]
  constructor
  · rintro ⟨w, hw, rfl⟩
    exact (scale_eq_iff hpos).mp hw
  · intro hn
    have hword : (UInt32.ofNat n).toNat = n := UInt32.toNat_ofNat_of_lt' (hn.2.trans_le hend)
    refine ⟨UInt32.ofNat n, (scale_eq_iff hpos).mpr ?_, hword⟩
    rwa [hword]

theorem ncard_scale_eq (hk : k < limit) : {w | scale w limit = k}.ncard = share limit k := by
  rw [← Set.ncard_image_of_injective _ fun _ _ => UInt32.toNat_inj.mp, image_toNat_scale_eq hk,
    Set.ncard_coe_finset, Nat.card_Ico, share]

/-- Every number below the limit is what some word is scaled to. -/
theorem exists_scale_eq (hk : k < limit) (hle : limit ≤ UInt32.size) :
    ∃ w, scale w limit = k := by
  have hshare := share_pos (Nat.zero_lt_of_lt hk) hle k
  rw [← ncard_scale_eq hk] at hshare
  exact Set.nonempty_of_ncard_ne_zero hshare.ne'

/-! ## Words of 64 bits -/

/-- A word scaled to a limit in words: the high half of the product in 64 bits. -/
def scaleWord (w limit : UInt32) : UInt32 := ((w.toUInt64 * limit.toUInt64) >>> 32).toUInt32

theorem toNat_mul_toNat_lt (w limit : UInt32) : w.toNat * limit.toNat < 2 ^ 64 :=
  calc w.toNat * limit.toNat < 2 ^ 32 * 2 ^ 32 := Nat.mul_lt_mul'' w.toNat_lt limit.toNat_lt
    _ = 2 ^ 64 := by decide

theorem toNat_scaleWord (w limit : UInt32) :
    (scaleWord w limit).toNat = scale w limit.toNat := by
  have hproduct := toNat_mul_toNat_lt w limit
  have hhigh : w.toNat * limit.toNat / 2 ^ 32 < 2 ^ 32 := Nat.div_lt_of_lt_mul hproduct
  calc (scaleWord w limit).toNat
      = w.toNat * limit.toNat % 2 ^ 64 / 2 ^ 32 % 2 ^ 32 := by
        rw [scaleWord, UInt64.toNat_toUInt32, UInt64.toNat_shiftRight, UInt64.toNat_mul,
          UInt32.toNat_toUInt64, UInt32.toNat_toUInt64, Nat.shiftRight_eq_div_pow]
        rfl
    _ = w.toNat * limit.toNat / 2 ^ 32 := by
        rw [Nat.mod_eq_of_lt hproduct, Nat.mod_eq_of_lt hhigh]
    _ = scale w limit.toNat := rfl

/-! ## Numbers below a limit -/

/-- **A number below a limit is nearly uniform.** It costs one word, whatever the limit, and it is
the high half of a product that has room in 64 bits. Without a limit it is 0. With one it lies below
it and grows with the word, and each number has a share of the words: it is drawn exactly if the
next word belongs to its share. The share of `k` reaches from `k * 2 ^ 32 / limit` to
`(k + 1) * 2 ^ 32 / limit`, both rounded up, so it has `2 ^ 32 / limit` words, rounded down or up,
and is never empty. -/
theorem below_nearly_uniform :
    (∀ (d : Draws) (limit : Nat), (d.below limit).2 = d.advance 1) ∧
    (∀ d : Draws, (d.below 0).1 = 0) ∧
    (∀ (d : Draws) (limit : UInt32),
      d.peek.toNat * limit.toNat < 2 ^ 64 ∧
      (d.below limit.toNat).1 = (scaleWord d.peek limit).toNat) ∧
    ∀ limit : Nat, 1 ≤ limit → limit < 2 ^ 32 →
      (∀ d : Draws, (d.below limit).1 < limit) ∧
      (∀ d e : Draws, d.peek ≤ e.peek → (d.below limit).1 ≤ (e.below limit).1) ∧
      ∀ k < limit, ∃ words : Set UInt32,
        (∀ d : Draws, (d.below limit).1 = k ↔ d.peek ∈ words) ∧
        words.ncard = ((k + 1) * 2 ^ 32) ⌈/⌉ limit - (k * 2 ^ 32) ⌈/⌉ limit ∧
        (words.ncard = 2 ^ 32 / limit ∨ words.ncard = (2 ^ 32) ⌈/⌉ limit) ∧
        words.Nonempty := by
  refine ⟨fun _ _ => rfl, fun d => Nat.le_zero.mp (scale_le d.peek 0), ?_, ?_⟩
  · intro d limit
    exact ⟨toNat_mul_toNat_lt d.peek limit, (toNat_scaleWord d.peek limit).symm⟩
  · intro limit hpos hlt
    refine ⟨fun d => scale_lt d.peek hpos, fun d e h => scale_mono h limit, ?_⟩
    intro k hk
    have hshare := ncard_scale_eq hk
    exact ⟨{w | scale w limit = k}, fun _ => Iff.rfl, hshare, hshare ▸ share_eq_or hpos k,
      exists_scale_eq hk hlt.le⟩

/-- Of three numbers the first has one word more than the others. -/
theorem three_numbers_shared :
    1 ≤ 3 ∧ 3 < 2 ^ 32 ∧
    (∃ words : Set UInt32, (∀ d : Draws, (d.below 3).1 = 0 ↔ d.peek ∈ words) ∧
      words.ncard = 1431655766) ∧
    ∃ words : Set UInt32, (∀ d : Draws, (d.below 3).1 = 2 ↔ d.peek ∈ words) ∧
      words.ncard = 1431655765 := by
  obtain ⟨-, -, hshares⟩ := below_nearly_uniform.2.2.2 3 (by decide) (by decide)
  obtain ⟨first, hfirst, hfirstCard, -⟩ := hshares 0 (by decide)
  obtain ⟨last, hlast, hlastCard, -⟩ := hshares 2 (by decide)
  exact ⟨by decide, by decide, ⟨first, hfirst, hfirstCard⟩, ⟨last, hlast, hlastCard⟩⟩

end MapPainter.Draws
