import Mathlib.Data.UInt
import Mathlib.Algebra.Order.Group.Nat

/-! A counter read modulo a power of two: the difference of two readings is the
true elapsed time modulo the same power, and names it only inside one period. -/
namespace WrappingClock

theorem sub_mod_readings (m early late : ℕ) (hm : 0 < m) (h : early ≤ late) :
    (m-early%m+late%m)%m = (late-early)%m := by
  have hlt := Nat.mod_lt early hm
  obtain ⟨d, rfl⟩ := Nat.exists_eq_add_of_le h
  have hsplit : m-early%m+(early+d) = d+m*(early/m+1) := by
    have hdiv := Nat.div_add_mod early m
    rw [Nat.mul_add]
    omega
  calc
    (m-early%m+(early+d)%m)%m = (m-early%m+(early+d))%m := Nat.add_mod_mod _ _ _
    _ = (d+m*(early/m+1))%m := by rw [hsplit]
    _ = d%m := Nat.add_mul_mod_self_left _ _ _
    _ = (early+d-early)%m := by rw [Nat.add_sub_cancel_left]

theorem uint32_sub_toNat (early late : ℕ) (h : early ≤ late) :
    (UInt32.ofNat late - UInt32.ofNat early).toNat = (late-early)%2^32 := by
  rw [UInt32.toNat_sub, UInt32.toNat_ofNat', UInt32.toNat_ofNat',
    sub_mod_readings (2^32) early late (by decide) h]

theorem le_of_mod_le (m age limit : ℕ) (hage : age < m) (h : age%m ≤ limit) : age ≤ limit := by
  rwa [Nat.mod_eq_of_lt hage] at h

end WrappingClock
