import Mathlib.Algebra.Order.Group.Abs
import Mathlib.Algebra.Order.Group.Defs
import Mathlib.Algebra.Order.Group.Unbundled.Abs
import Mathlib.Tactic.Order

/-! Numbers with infinities and a not-a-number value, compared as IEEE 754 compares
them: every comparison with NaN fails, and NaN differs from itself. -/

inductive ExtendedNumber (α : Type*)
  | finite (value : α)
  | infinity
  | negInfinity
  | nan
  deriving DecidableEq, Repr

namespace ExtendedNumber

variable {α : Type*}

def isFinite : ExtendedNumber α → Bool
  | finite _ => true
  | _ => false

theorem ne_nan_of_isFinite (x : ExtendedNumber α) (h : x.isFinite = true) : x ≠ nan := by
  rintro rfl
  cases h

/-- The printed form, given one for the finite values. -/
def format [ToString α] : ExtendedNumber α → String
  | finite value => toString value
  | infinity => "inf"
  | negInfinity => "-inf"
  | nan => "nan"

section Order
variable [LinearOrder α]

def lt : ExtendedNumber α → ExtendedNumber α → Bool
  | finite a, finite b => decide (a < b)
  | finite _, infinity => true
  | negInfinity, finite _ => true
  | negInfinity, infinity => true
  | _, _ => false

def le : ExtendedNumber α → ExtendedNumber α → Bool
  | finite a, finite b => decide (a ≤ b)
  | finite _, infinity => true
  | negInfinity, finite _ => true
  | negInfinity, infinity => true
  | infinity, infinity => true
  | negInfinity, negInfinity => true
  | _, _ => false

def eq : ExtendedNumber α → ExtendedNumber α → Bool
  | nan, _ => false
  | x, y => decide (x = y)

theorem eq_iff (x y : ExtendedNumber α) : x.eq y = true ↔ x = y ∧ x ≠ nan := by
  cases x <;> simp [eq]

/-- Between two numbers that are not NaN, `y < x` is the negation of `x <= y`. -/
theorem lt_eq_false_iff (x y : ExtendedNumber α) (hx : x ≠ nan) (hy : y ≠ nan) :
    y.lt x = false ↔ x.le y = true := by
  cases x <;> cases y <;> simp_all [lt, le]

structure FiniteIn (low high x : ExtendedNumber α) : Prop where
  isFinite : x.isFinite = true
  low_le : low.le x = true
  le_high : x.le high = true

/-- The two refusals by which a range check is written: a lower bound that is a
number, and an upper bound that is not NaN. -/
theorem finiteIn_iff (low high x : ExtendedNumber α) (hl : low ≠ nan) (hh : high ≠ nan) :
    FiniteIn low high x ↔ ¬ (x.isFinite = false ∨ x.lt low = true) ∧ high.lt x = false := by
  constructor
  · intro h
    have hx := ne_nan_of_isFinite x h.isFinite
    refine ⟨?_, (lt_eq_false_iff x high hx hh).mpr h.le_high⟩
    rw [h.isFinite, (lt_eq_false_iff low x hl hx).mpr h.low_le]
    decide
  · intro hbounds
    obtain ⟨hlow, hhigh⟩ := hbounds
    simp only [not_or, Bool.not_eq_false, Bool.not_eq_true] at hlow
    have hx := ne_nan_of_isFinite x hlow.1
    exact ⟨hlow.1, (lt_eq_false_iff low x hl hx).mp hlow.2, (lt_eq_false_iff x high hx hh).mp hhigh⟩

/-- The built-in `min` of two numbers: the first, unless the second is less. -/
def min (x y : ExtendedNumber α) : ExtendedNumber α := if y.lt x then y else x

/-- An upper bound of the first is one of the minimum. -/
theorem min_le_of_left (x y bound : ExtendedNumber α) (h : x.le bound = true) :
    (x.min y).le bound = true := by
  unfold min
  split_ifs with hless
  · cases x <;> cases y <;> cases bound <;> simp_all [lt, le]
    order
  · exact h

/-- An upper bound of the second is one of the minimum, unless the first is NaN. -/
theorem min_le_of_right (x y bound : ExtendedNumber α) (hx : x ≠ nan) (h : y.le bound = true) :
    (x.min y).le bound = true := by
  unfold min
  split_ifs with hless
  · exact h
  · cases x <;> cases y <;> cases bound <;> simp_all [lt, le]
    order

theorem min_eq_right (x y : ExtendedNumber α) (h : y.le x = true) : x.min y = y := by
  unfold min
  split_ifs with hless
  · rfl
  · cases x <;> cases y <;> simp_all [lt, le]
    order

end Order

def neg [Neg α] : ExtendedNumber α → ExtendedNumber α
  | finite a => finite (-a)
  | infinity => negInfinity
  | negInfinity => infinity
  | nan => nan

theorem neg_neg [InvolutiveNeg α] (x : ExtendedNumber α) : x.neg.neg = x := by
  cases x <;> simp [neg]

theorem neg_le_neg [AddCommGroup α] [LinearOrder α] [IsOrderedAddMonoid α]
    (x y : ExtendedNumber α) : x.neg.le y.neg = y.le x := by
  cases x <;> cases y <;> simp [neg, le]

def abs [AddCommGroup α] [LinearOrder α] : ExtendedNumber α → ExtendedNumber α
  | finite a => finite |a|
  | infinity => infinity
  | negInfinity => infinity
  | nan => nan

theorem abs_neg [AddCommGroup α] [LinearOrder α] [IsOrderedAddMonoid α] (x : ExtendedNumber α) :
    x.neg.abs = x.abs := by
  cases x <;> simp [neg, abs]

theorem abs_ne_nan [AddCommGroup α] [LinearOrder α] (x : ExtendedNumber α) (h : x ≠ nan) :
    x.abs ≠ nan := by
  cases x <;> simp_all [abs]

end ExtendedNumber
