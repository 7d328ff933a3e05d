import MapPainter.Proofs.Gradient.Reach

/-!
# Samples at the ends of a gradient

No word moves a sample that lies at one end of its gradient or beyond it. At the lower end it is too
close to the edge of its band to jitter; at the upper end it has the last level already. So a
channel that is as good as "off" or "on" is read for one word and always as the same level
(`Gradient.read_steady`).
-/

namespace MapPainter.Gradient

/-- A channel value that is at one end of the gradients over the bytes, or beyond it. -/
def Saturated (value : UInt8) : Prop := value ≤ dim ∨ on ≤ value

instance (value : UInt8) : Decidable (Saturated value) := inferInstanceAs (Decidable (_ ∨ _))

variable {g : Gradient} {sample : Int} {value : UInt8}

theorem levelAt_rise_of_ends (hlevels : 0 < g.levels) (hslope : g.slope ≠ 0)
    (hends : sample ≤ min g.start g.stop + 1 ∨ max g.start g.stop ≤ sample) (w : UInt32) :
    g.levelAt (g.rise sample w) = g.levelAt (g.offset sample / g.width) := by
  rcases hends with hlow | hhigh
  · have hoffset : g.offset sample ≤ 1 := by
      unfold offset
      omega
    rw [rise_of_depth_le (Nat.le_trans (Nat.mod_le _ _) hoffset)]
  · exact levelAt_rise_of_le (levels_le_of_max_le hlevels hslope hhigh) w

/-- A saturated channel is read for one word, and as the same level for all words. -/
theorem read_steady (hlow : min g.start g.stop = 0x0f) (hhigh : max g.start g.stop = 0xf0)
    (h : Saturated value) : Steady (g.read value) := by
  have hends : (value.toNat : Int) ≤ min g.start g.stop + 1 ∨
      max g.start g.stop ≤ (value.toNat : Int) := by
    rw [hlow, hhigh]
    rcases h with hle | hle
    · have hle : value.toNat ≤ 0x10 := UInt8.le_iff_toNat_le.mp hle
      omega
    · have hle : 0xf0 ≤ value.toNat := UInt8.le_iff_toNat_le.mp hle
      omega
  cases hplace : g.locate value.toNat with
  | error fault =>
    refine ⟨0, .error fault, fun d => ?_⟩
    rw [read, levelFor, hplace]
    rfl
  | ok place =>
    obtain ⟨⟨hlevels, -, hslope⟩, -⟩ := locate_eq_ok_iff.mp hplace
    have hbytes : g.OnBytes := ⟨by omega, by omega⟩
    refine ⟨1, .ok (g.levelAt (g.offset value.toNat / g.width)), fun d => ?_⟩
    refine read_eq_ok.mpr ⟨levelFor_eq_ok_iff.mpr ⟨hlevels, hslope, hbytes.fits value _, ?_⟩, rfl⟩
    exact (levelAt_rise_of_ends hlevels hslope hends d.peek).symm

end MapPainter.Gradient
