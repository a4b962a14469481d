import Mathlib.Algebra.Order.Field.Rat
import Mathlib.Data.Nat.Digits.Lemmas
import Mathlib.Tactic.Linarith
import Mathlib.Tactic.Ring

/-! Finite decimals of arbitrary precision, multiplied in a context of bounded
precision and rounded half to even, as the `decimal` module of Python does it. -/

/-- Sign, coefficient and exponent; both zeros are kept. -/
structure PythonDecimal where
  negative : Bool
  coefficient : ℕ
  exponent : ℤ
  deriving DecidableEq, Repr

namespace PythonDecimal

def unit (d : PythonDecimal) : ℤ := if d.negative then -1 else 1

/-- The number a decimal denotes; comparisons compare these. -/
def toRat (d : PythonDecimal) : ℚ := (d.unit*d.coefficient : ℤ)*(10:ℚ)^d.exponent

/-- Drops `digits` digits, ties going to the even neighbour. -/
def roundHalfEven (coefficient digits : ℕ) : ℕ :=
  let quotient := coefficient/10^digits
  let remainder := coefficient%10^digits
  if 10^digits < 2*remainder ∨ (2*remainder = 10^digits ∧ quotient%2 = 1) then quotient+1
  else quotient

def fix (precision : ℕ) (d : PythonDecimal) : PythonDecimal :=
  let digits := (Nat.digits 10 d.coefficient).length
  if digits ≤ precision then d
  else
    let dropped := digits-precision
    let rounded := roundHalfEven d.coefficient dropped
    if rounded = 10^precision then ⟨d.negative, rounded/10, d.exponent+dropped+1⟩
    else ⟨d.negative, rounded, d.exponent+dropped⟩

/-- `self * other` for a natural number. -/
def mulNat (precision : ℕ) (d : PythonDecimal) (n : ℕ) : PythonDecimal :=
  fix precision ⟨d.negative, d.coefficient*n, d.exponent⟩

def toIntegralValue (d : PythonDecimal) : PythonDecimal :=
  if 0 ≤ d.exponent then d
  else ⟨d.negative, roundHalfEven d.coefficient (-d.exponent).toNat, 0⟩

/-- `int(self)`: truncation towards zero. -/
def toInt (d : PythonDecimal) : ℤ :=
  if 0 ≤ d.exponent then d.unit*(d.coefficient*10^d.exponent.toNat : ℕ)
  else d.unit*(d.coefficient/10^(-d.exponent).toNat : ℕ)

theorem fix_eq_self (precision : ℕ) (d : PythonDecimal) (h : d.coefficient < 10^precision) :
    fix precision d = d := by
  have hdigits := (Nat.digits_length_le_iff (by decide : 1 < 10) d.coefficient).mpr h
  exact if_pos hdigits

/-- A product that fits the precision is exact. -/
theorem toRat_mulNat (precision : ℕ) (d : PythonDecimal) (n : ℕ)
    (h : d.coefficient*n < 10^precision) : (d.mulNat precision n).toRat = d.toRat*n := by
  rw [mulNat, fix_eq_self _ _ h]
  simp only [toRat, unit]
  push_cast
  ring

theorem toRat_of_nonneg (d : PythonDecimal) (h : 0 ≤ d.exponent) : d.toRat = d.toInt := by
  obtain ⟨k, hk⟩ := Int.eq_ofNat_of_zero_le h
  rw [toRat, toInt, if_pos h, hk]
  push_cast
  rw [Int.toNat_natCast, zpow_natCast]
  ring

theorem toRat_toIntegralValue (d : PythonDecimal) :
    d.toIntegralValue.toRat = d.toIntegralValue.toInt := by
  apply toRat_of_nonneg
  unfold toIntegralValue
  split_ifs with h
  · exact h
  · exact le_refl _

/-- An integer survives the rounding. -/
theorem toRat_toIntegralValue_of_int (d : PythonDecimal) (z : ℤ) (h : d.toRat = z) :
    d.toIntegralValue.toRat = z := by
  unfold toIntegralValue
  split_ifs with he
  · exact h
  · obtain ⟨k, hk⟩ := Int.eq_ofNat_of_zero_le (show 0 ≤ -d.exponent by omega)
    have hexp : d.exponent = -(k : ℤ) := by omega
    have hten : ((10:ℚ)^k) ≠ 0 := pow_ne_zero _ (by norm_num)
    have hunit : d.unit*d.unit = 1 := by
      unfold unit
      split_ifs <;> rfl
    -- the coefficient is a multiple of the power of ten that is rounded off
    have hint : (d.unit*d.coefficient : ℤ) = z*10^k := by
      rw [toRat, hexp, zpow_neg, zpow_natCast] at h
      have hq := (mul_inv_eq_iff_eq_mul₀ hten).mp h
      exact_mod_cast hq
    have hcoeff : (d.coefficient : ℤ) = (d.unit*z)*10^k := by
      calc
        (d.coefficient : ℤ) = (d.unit*d.unit)*d.coefficient := by rw [hunit, one_mul]
        _ = d.unit*(d.unit*d.coefficient) := by ring
        _ = (d.unit*z)*10^k := by rw [hint]; ring
    have hdvd : ((10^k : ℕ) : ℤ) ∣ d.coefficient := ⟨d.unit*z, by rw [hcoeff]; push_cast; ring⟩
    obtain ⟨q, hq⟩ := Int.natCast_dvd_natCast.mp hdvd
    -- the dropped digits are all zero
    have hpos : 0 < 10^k := Nat.pow_pos (by decide)
    have hround : roundHalfEven d.coefficient k = q := by
      simp only [roundHalfEven, hq, Nat.mul_mod_right, Nat.mul_div_cancel_left q hpos]
      rw [if_neg (by omega)]
    have hquot : (q : ℤ) = d.unit*z := by
      apply mul_right_cancel₀ (b := (10:ℤ)^k) (pow_ne_zero _ (by decide))
      rw [← hcoeff, hq]
      push_cast
      ring
    have hk' : (-d.exponent).toNat = k := by rw [hk, Int.toNat_natCast]
    have hvalue : d.unit*(q : ℤ) = z := by rw [hquot, ← mul_assoc, hunit, one_mul]
    change ((d.unit*(roundHalfEven d.coefficient (-d.exponent).toNat : ℕ) : ℤ) : ℚ)*(10:ℚ)^(0:ℤ) = z
    rw [hk', hround, hvalue, zpow_zero, mul_one]

/-- A decimal equals its integral value exactly when it denotes an integer. -/
theorem toRat_eq_toIntegralValue_iff (d : PythonDecimal) (z : ℤ) :
    d.toRat = d.toIntegralValue.toRat ∧ d.toIntegralValue.toInt = z ↔ d.toRat = z := by
  constructor
  · rintro ⟨heq, rfl⟩
    rw [heq, toRat_toIntegralValue]
  · intro h
    have hsame := d.toRat_toIntegralValue_of_int z h
    refine ⟨h.trans hsame.symm, ?_⟩
    rw [toRat_toIntegralValue] at hsame
    exact_mod_cast hsame

example : (mulNat 28 ⟨true, 125, -1⟩ 100).toIntegralValue.toInt = -1250 := by decide

end PythonDecimal
