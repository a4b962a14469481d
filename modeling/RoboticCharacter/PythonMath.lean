import Mathlib.Algebra.Order.Floor.Defs
import Mathlib.Algebra.Order.Group.Unbundled.Abs
import Mathlib.Analysis.Real.Sqrt
import Mathlib.Data.Rat.Floor
import Mathlib.Data.Rat.Sqrt
import Mathlib.Tactic.Linarith

/-! `math.copysign`, `math.sqrt` and the built-in `round` over exact numbers. There is one
zero here, and it counts as positive. -/
namespace PythonMath

class SquareRoot (K : Type*) where
  sqrt : K → K

noncomputable instance : SquareRoot ℝ := ⟨Real.sqrt⟩

/-- Exact on the squares of fractions, which is what an evaluated run needs. -/
instance : SquareRoot ℚ := ⟨Rat.sqrt⟩

section Sign
variable {K : Type*} [AddCommGroup K] [LinearOrder K]

def copysign (magnitude sign : K) : K := if sign < 0 then -|magnitude| else |magnitude|

theorem copysign_of_neg (magnitude sign : K) (h : sign < 0) :
    copysign magnitude sign = -|magnitude| := if_pos h

theorem copysign_of_nonneg (magnitude sign : K) (h : 0 ≤ sign) :
    copysign magnitude sign = |magnitude| := if_neg (not_lt.mpr h)

end Sign

/-- `round(x)`: the nearest integer, and the even one of two that are equally near. -/
def roundHalfEven {K : Type*} [Field K] [LinearOrder K] [FloorRing K] (x : K) : ℤ :=
  let below := ⌊x⌋
  let rest := x-(below : K)
  if rest < 1-rest then below
  else if 1-rest < rest then below+1
  else if below % 2 = 0 then below
  else below+1

example : roundHalfEven (5/2 : ℚ) = 2 ∧ roundHalfEven (7/2 : ℚ) = 4 := by decide +kernel

section Round
variable {K : Type*} [Field K] [LinearOrder K] [IsStrictOrderedRing K] [FloorRing K]

/-- The number lies below the middle of its unit interval, above it, or on it; there the
even end is taken. -/
theorem roundHalfEven_cases (x : K) :
    ((⌊x⌋ : K) ≤ x ∧ x < ⌊x⌋+1/2 ∧ roundHalfEven x = ⌊x⌋) ∨
    (⌊x⌋+1/2 < x ∧ x < ⌊x⌋+1 ∧ roundHalfEven x = ⌊x⌋+1) ∨
    (x = ⌊x⌋+1/2 ∧ ⌊x⌋ % 2 = 0 ∧ roundHalfEven x = ⌊x⌋) ∨
    (x = ⌊x⌋+1/2 ∧ ⌊x⌋ % 2 = 1 ∧ roundHalfEven x = ⌊x⌋+1) := by
  have hlow := Int.floor_le x
  have hhigh := Int.lt_floor_add_one x
  unfold roundHalfEven
  dsimp only
  split_ifs with hbelow habove heven
  · exact .inl ⟨hlow, by linarith, rfl⟩
  · exact .inr (.inl ⟨by linarith, hhigh, rfl⟩)
  · exact .inr (.inr (.inl ⟨by linarith, heven, rfl⟩))
  · exact .inr (.inr (.inr ⟨by linarith, by omega, rfl⟩))

theorem abs_roundHalfEven_sub_le (x : K) : |(roundHalfEven x : K)-x| ≤ 1/2 := by
  rw [abs_le]
  rcases roundHalfEven_cases x with ⟨h1, h2, hr⟩ | ⟨h1, h2, hr⟩ | ⟨h1, _, hr⟩ | ⟨h1, _, hr⟩
  all_goals
    rw [hr]
    push_cast
    constructor <;> linarith

/-- An even bound is kept by every number no more than a half below it. -/
theorem le_roundHalfEven_iff (m : ℤ) (hm : m % 2 = 0) (x : K) :
    m ≤ roundHalfEven x ↔ (m : K)-1/2 ≤ x := by
  rcases roundHalfEven_cases x with ⟨h1, h2, hr⟩ | ⟨h1, h2, hr⟩ | ⟨h1, hb, hr⟩ | ⟨h1, hb, hr⟩
  · rw [hr]
    constructor
    · intro h
      have : (m : K) ≤ ⌊x⌋ := by exact_mod_cast h
      linarith
    · intro h
      have : (m : K) < ⌊x⌋+1 := by linarith
      exact Int.lt_add_one_iff.mp (by exact_mod_cast this)
  · rw [hr]
    constructor
    · intro h
      have : (m : K) ≤ ⌊x⌋+1 := by exact_mod_cast h
      linarith
    · intro h
      have : (m : K) < ⌊x⌋+1+1 := by linarith
      exact Int.lt_add_one_iff.mp (by exact_mod_cast this)
  · -- on the middle of an interval the bound decides by its parity
    rw [hr]
    constructor
    · intro h
      have : (m : K) ≤ ⌊x⌋ := by exact_mod_cast h
      linarith
    · intro h
      have : (m : K) ≤ ⌊x⌋+1 := by linarith
      have : m ≤ ⌊x⌋+1 := by exact_mod_cast this
      omega
  · rw [hr]
    constructor
    · intro h
      have : (m : K) ≤ ⌊x⌋+1 := by exact_mod_cast h
      linarith
    · intro h
      have : (m : K) ≤ ⌊x⌋+1 := by linarith
      exact_mod_cast this

theorem le_roundHalfEven (n : ℤ) (x : K) (h : (n : K) ≤ x) : n ≤ roundHalfEven x := by
  have hnear := (abs_le.mp (abs_roundHalfEven_sub_le x)).1
  have hlt : (n : K) < roundHalfEven x+1 := by linarith
  exact Int.lt_add_one_iff.mp (by exact_mod_cast hlt)

theorem roundHalfEven_le (n : ℤ) (x : K) (h : x ≤ n) : roundHalfEven x ≤ n := by
  have hnear := (abs_le.mp (abs_roundHalfEven_sub_le x)).2
  have hlt : (roundHalfEven x : K) < n+1 := by linarith
  exact Int.lt_add_one_iff.mp (by exact_mod_cast hlt)

theorem roundHalfEven_intCast (n : ℤ) : roundHalfEven (n : K) = n :=
  le_antisymm (roundHalfEven_le n _ le_rfl) (le_roundHalfEven n _ le_rfl)

/-- Of the integers at a distance of a half only the even one is the rounded number. -/
theorem roundHalfEven_eq_iff (x : K) (n : ℤ) :
    roundHalfEven x = n ↔ |x-n| < 1/2 ∨ |x-n| = 1/2 ∧ n % 2 = 0 := by
  constructor
  · rintro rfl
    rcases roundHalfEven_cases x with ⟨h1, h2, hr⟩ | ⟨h1, h2, hr⟩ | ⟨h1, hb, hr⟩ | ⟨h1, hb, hr⟩
    · left
      rw [hr, abs_lt]
      constructor <;> linarith
    · left
      rw [hr, abs_lt]
      push_cast
      constructor <;> linarith
    · right
      rw [hr]
      refine ⟨?_, hb⟩
      rw [show x-⌊x⌋ = 1/2 by linarith, abs_of_pos (by norm_num)]
    · right
      rw [hr]
      refine ⟨?_, by omega⟩
      push_cast
      rw [show x-(⌊x⌋+1) = -(1/2) by linarith, abs_neg, abs_of_pos (by norm_num)]
  · intro hn
    rcases hn with hnear | ⟨hhalf, heven⟩
    · have hround := abs_roundHalfEven_sub_le x
      have hdist : |((roundHalfEven x-n : ℤ) : K)| < 1 := by
        have htri := abs_add_le ((roundHalfEven x : K)-x) (x-n)
        push_cast
        rw [sub_add_sub_cancel] at htri
        linarith
      have hzero : |roundHalfEven x-n| < 1 := by exact_mod_cast hdist
      exact sub_eq_zero.mp (Int.abs_lt_one_iff.mp hzero)
    · -- the middle of the interval above `n`, or of the one below
      rcases eq_or_eq_neg_of_abs_eq hhalf with habove | hbelow
      · have hfloor : ⌊x⌋ = n := Int.floor_eq_iff.mpr ⟨by linarith, by linarith⟩
        rcases roundHalfEven_cases x with ⟨_, h, _⟩ | ⟨h, _, _⟩ | ⟨_, _, hr⟩ | ⟨_, hb, _⟩
        · rw [hfloor] at h
          linarith
        · rw [hfloor] at h
          linarith
        · rw [hr, hfloor]
        · omega
      · have hfloor : ⌊x⌋ = n-1 := by
          rw [Int.floor_eq_iff]
          push_cast
          constructor <;> linarith
        rcases roundHalfEven_cases x with ⟨_, h, _⟩ | ⟨h, _, _⟩ | ⟨_, hb, _⟩ | ⟨_, _, hr⟩
        · rw [hfloor] at h
          push_cast at h
          linarith
        · rw [hfloor] at h
          push_cast at h
          linarith
        · omega
        · rw [hr, hfloor, sub_add_cancel]

theorem roundHalfEven_mono (x y : K) (h : x ≤ y) : roundHalfEven x ≤ roundHalfEven y := by
  have hnear := abs_le.mp (abs_roundHalfEven_sub_le x)
  rcases (roundHalfEven_eq_iff x _).mp rfl with hstrict | ⟨_, heven⟩
  · -- the integer is less than a half above `x`, and so above `y`
    have hround := (abs_le.mp (abs_roundHalfEven_sub_le y)).1
    have hlt : (roundHalfEven x : K) < roundHalfEven y+1 := by linarith [(abs_lt.mp hstrict).1]
    exact Int.lt_add_one_iff.mp (by exact_mod_cast hlt)
  · rw [le_roundHalfEven_iff _ heven]
    linarith

theorem roundHalfEven_neg (x : K) : roundHalfEven (-x) = -roundHalfEven x := by
  rw [roundHalfEven_eq_iff]
  have hsame : |-x-((-roundHalfEven x : ℤ) : K)| = |x-roundHalfEven x| := by
    push_cast
    rw [← abs_neg]
    congr 1
    ring
  rw [hsame]
  rcases (roundHalfEven_eq_iff x _).mp rfl with hnear | ⟨hhalf, heven⟩
  · exact .inl hnear
  · exact .inr ⟨hhalf, by omega⟩

theorem roundHalfEven_nonneg (x : K) (h : 0 ≤ x) : 0 ≤ roundHalfEven x := by
  rw [le_roundHalfEven_iff 0 rfl, Int.cast_zero]
  linarith

end Round
end PythonMath
