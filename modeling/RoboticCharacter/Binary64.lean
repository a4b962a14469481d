import RoboticCharacter.ExtendedNumber
import RoboticCharacter.PythonMath
import Mathlib.Data.Int.Log
import Mathlib.Tactic.Positivity
import Mathlib.Tactic.Ring

/-! Binary floating-point arithmetic: fractions rounded to 53 significant bits, half to even,
with the exponents of the 64-bit format. There is one zero. -/
namespace Binary64
open PythonMath

/-- The exponent of the last bit kept of a number. -/
def unitExponent (x : ℚ) : ℤ := max (Int.log 2 |x|-52) (-1074)

/-- The nearest number with that last bit, before the range is looked at. -/
def nearest (x : ℚ) : ℚ := roundHalfEven (x/2^unitExponent x)*2^unitExponent x

def round (x : ℚ) : ExtendedNumber ℚ :=
  if 2^1024 ≤ |nearest x| then if x < 0 then .negInfinity else .infinity
  else .finite (nearest x)

def isZero : ExtendedNumber ℚ → Bool
  | .finite a => a = 0
  | _ => false

def isNegative : ExtendedNumber ℚ → Bool
  | .finite a => a < 0
  | .negInfinity => true
  | _ => false

def signedInfinity (negative : Bool) : ExtendedNumber ℚ :=
  if negative then .negInfinity else .infinity

def add : ExtendedNumber ℚ → ExtendedNumber ℚ → ExtendedNumber ℚ
  | .finite a, .finite b => round (a+b)
  | .nan, _ => .nan
  | _, .nan => .nan
  | .infinity, .negInfinity => .nan
  | .negInfinity, .infinity => .nan
  | .finite _, y => y
  | x, _ => x

def sub (x y : ExtendedNumber ℚ) : ExtendedNumber ℚ := add x y.neg

def mul (x y : ExtendedNumber ℚ) : ExtendedNumber ℚ :=
  match x, y with
  | .finite a, .finite b => round (a*b)
  | .nan, _ => .nan
  | _, .nan => .nan
  | _, _ =>
    if isZero x || isZero y then .nan else signedInfinity (isNegative x != isNegative y)

/-- The quotient by a divisor that is not zero. -/
def div (x y : ExtendedNumber ℚ) : ExtendedNumber ℚ :=
  match x, y with
  | .finite a, .finite b => round (a/b)
  | .nan, _ => .nan
  | _, .nan => .nan
  | .finite _, _ => .finite 0
  | _, .finite _ => signedInfinity (isNegative x != isNegative y)
  | _, _ => .nan

/-- The nearest number to the root of a fraction that is not negative: the integer part of the
scaled root, and the side of the middle on which the rest lies. -/
def nearestSqrt (x : ℚ) : ℚ :=
  let unit : ℚ := 2^max (Int.log 4 x-52) (-1074)
  let scaled := x/unit^2
  let below : ℕ := Nat.sqrt ⌊scaled⌋₊
  let middle : ℚ := below+1/2
  let kept : ℕ :=
    if scaled < middle^2 then below
    else if middle^2 < scaled then below+1
    else if below % 2 = 0 then below
    else below+1
  kept*unit

/-- The square root of a number that is not negative. -/
def sqrt : ExtendedNumber ℚ → ExtendedNumber ℚ
  | .finite a => .finite (nearestSqrt a)
  | x => x

example : nearest (3/10) = 5404319552844595/2^54 := by decide +kernel
example : nearestSqrt 2 = 6369051672525773/2^52 := by decide +kernel
example : round (2^1024) = .infinity ∧ nearest (1/2^1075) = 0 := by decide +kernel

theorem unitExponent_ge (x : ℚ) : -1074 ≤ unitExponent x := le_max_right _ _

theorem unitExponent_neg (x : ℚ) : unitExponent (-x) = unitExponent x := by
  unfold unitExponent
  rw [abs_neg]

theorem unit_pos (e : ℤ) : (0 : ℚ) < 2^e := zpow_pos (by norm_num) e

/-- A power of two whose exponent is not smaller counts whole units. -/
theorem zpow_div_unit (k e : ℤ) (h : e ≤ k) : (2 : ℚ)^k/2^e = ((2^(k-e).toNat : ℤ) : ℚ) := by
  rw [← zpow_sub₀ (by norm_num), Int.cast_pow, Int.cast_ofNat, ← zpow_natCast,
    Int.toNat_of_nonneg (by omega)]

theorem nearest_neg (x : ℚ) : nearest (-x) = -nearest x := by
  unfold nearest
  rw [unitExponent_neg, neg_div, roundHalfEven_neg, Int.cast_neg, neg_mul]

theorem nearest_nonneg (x : ℚ) (h : 0 ≤ x) : 0 ≤ nearest x := by
  have hround := roundHalfEven_nonneg _ (div_nonneg h (unit_pos (unitExponent x)).le)
  exact mul_nonneg (by exact_mod_cast hround) (unit_pos _).le

theorem abs_nearest (x : ℚ) : |nearest x| = nearest |x| := by
  rcases le_total 0 x with h | h
  · rw [abs_of_nonneg h, abs_of_nonneg (nearest_nonneg x h)]
  · have hneg := nearest_nonneg (-x) (neg_nonneg.mpr h)
    rw [nearest_neg] at hneg
    rw [abs_of_nonpos h, nearest_neg, abs_of_nonpos (neg_nonneg.mp hneg)]

theorem abs_nearest_sub_le (x : ℚ) : |nearest x-x| ≤ 2^unitExponent x/2 := by
  have hunit := unit_pos (unitExponent x)
  have hscaled : nearest x-x =
      ((roundHalfEven (x/2^unitExponent x) : ℚ)-x/2^unitExponent x)*2^unitExponent x := by
    rw [sub_mul, div_mul_cancel₀ _ hunit.ne']
    rfl
  rw [hscaled, abs_mul, abs_of_pos hunit]
  refine (mul_le_mul_of_nonneg_right (abs_roundHalfEven_sub_le _) hunit.le).trans_eq ?_
  ring

theorem nearest_of_integral (x : ℚ) (n : ℤ) (h : x/2^unitExponent x = n) : nearest x = x := by
  unfold nearest
  rw [h, roundHalfEven_intCast, ← h, div_mul_cancel₀ _ (unit_pos _).ne']

theorem log_le (x : ℚ) (k : ℤ) (hx : 0 < x) (h : x ≤ 2^k) : Int.log 2 x ≤ k := by
  have hle := Int.log_mono_right (b := 2) hx h
  rwa [show ((2 : ℚ)^k) = ((2 : ℕ) : ℚ)^k by norm_num, Int.log_zpow (by norm_num)] at hle

/-- The unit of a number is no larger than a power of two above it. -/
theorem unitExponent_le (x : ℚ) (k : ℤ) (hk : -1074 ≤ k) (hx : 0 < x) (h : x ≤ 2^k) :
    unitExponent x ≤ k := by
  have hlog := log_le x k hx h
  unfold unitExponent
  rw [abs_of_pos hx]
  omega

/-- Rounding does not leave a range that ends at a power of two. -/
theorem nearest_le_zpow (x : ℚ) (k : ℤ) (hk : -1074 ≤ k) (hx : 0 < x) (h : x ≤ 2^k) :
    nearest x ≤ 2^k := by
  have hunit := unit_pos (unitExponent x)
  have hwhole := zpow_div_unit k _ (unitExponent_le x k hk hx h)
  have hround := roundHalfEven_le _ _ ((div_le_div_of_nonneg_right h hunit.le).trans_eq hwhole)
  have hcast : (roundHalfEven (x/2^unitExponent x) : ℚ) ≤ 2^k/2^unitExponent x := by
    rw [hwhole]
    exact_mod_cast hround
  exact (le_div_iff₀ hunit).mp hcast

theorem zpow_le_nearest (x : ℚ) (k : ℤ) (hk : -1074 ≤ k) (h : 2^k ≤ x) : 2^k ≤ nearest x := by
  have hx : 0 < x := (unit_pos k).trans_le h
  have hunit := unit_pos (unitExponent x)
  have hlog : k ≤ Int.log 2 x := by
    rw [← Int.zpow_le_iff_le_log (by norm_num) hx]
    exact_mod_cast h
  have hself : (2 : ℚ)^Int.log 2 x ≤ x := by
    have := Int.zpow_log_le_self (b := 2) (by norm_num) hx
    exact_mod_cast this
  have hle : unitExponent x ≤ Int.log 2 x := by
    unfold unitExponent
    rw [abs_of_pos hx]
    omega
  have hwhole := zpow_div_unit _ _ hle
  have hround := le_roundHalfEven _ _
    (hwhole.symm.trans_le (div_le_div_of_nonneg_right hself hunit.le))
  have hcast : (2 : ℚ)^Int.log 2 x/2^unitExponent x ≤ roundHalfEven (x/2^unitExponent x) := by
    rw [hwhole]
    exact_mod_cast hround
  calc
    (2 : ℚ)^k ≤ 2^Int.log 2 x := zpow_le_zpow_right₀ (by norm_num) hlog
    _ ≤ nearest x := (div_le_iff₀ hunit).mp hcast

/-- Numbers above half of the least one are not rounded to zero. -/
theorem nearest_pos (x : ℚ) (h : 2^(-1075 : ℤ) < x) : 0 < nearest x := by
  have hunit := unit_pos (unitExponent x)
  rcases le_or_gt ((2 : ℚ)^(-1074 : ℤ)) x with hnormal | hsmall
  · exact (unit_pos _).trans_le (zpow_le_nearest x (-1074) le_rfl hnormal)
  · have hx : 0 < x := (unit_pos _).trans h
    have hexp : unitExponent x = -1074 :=
      le_antisymm (unitExponent_le x (-1074) le_rfl hx hsmall.le) (unitExponent_ge x)
    have hhalf : 1/2 < x/2^unitExponent x := by
      rw [hexp, lt_div_iff₀ (unit_pos _)]
      refine lt_of_eq_of_lt ?_ h
      rw [show (-1074 : ℤ) = -1075+1 by norm_num, zpow_add₀ (by norm_num), zpow_one]
      ring
    have hnear := (abs_le.mp (abs_roundHalfEven_sub_le (x/2^unitExponent x))).1
    exact mul_pos (by linarith) hunit

theorem nearest_zero : nearest 0 = 0 := by decide +kernel

/-- The error of a number up to a power of two, in the range of the normal ones. -/
theorem abs_nearest_sub_le_zpow (x : ℚ) (k : ℤ) (hk : -1022 ≤ k) (h : |x| ≤ 2^k) :
    |nearest x-x| ≤ 2^(k-53) := by
  rcases eq_or_ne x 0 with rfl | hx
  · rw [nearest_zero, sub_zero, abs_zero]
    exact (unit_pos _).le
  · have hexp : unitExponent x ≤ k-52 := by
      have hlog := log_le |x| k (abs_pos.mpr hx) h
      unfold unitExponent
      omega
    calc
      |nearest x-x| ≤ 2^unitExponent x/2 := abs_nearest_sub_le x
      _ ≤ 2^(k-52)/2 :=
        div_le_div_of_nonneg_right (zpow_le_zpow_right₀ (by norm_num) hexp) (by norm_num)
      _ = 2^(k-53) := by
        rw [show k-52 = k-53+1 by ring, zpow_add₀ (by norm_num), zpow_one]
        ring

theorem nearest_of_int (n : ℤ) (h : |n| ≤ 2^52) : nearest n = n := by
  rcases eq_or_ne n 0 with rfl | hn
  · exact_mod_cast nearest_zero
  · have hpos : (0 : ℚ) < |(n : ℚ)| := abs_pos.mpr (by exact_mod_cast hn)
    have hle : |(n : ℚ)| ≤ 2^(52 : ℤ) := by exact_mod_cast h
    have hlog := log_le |(n : ℚ)| 52 hpos hle
    have hexp : unitExponent n ≤ 0 := by
      unfold unitExponent
      omega
    apply nearest_of_integral _ (n*2^(-unitExponent n).toNat)
    rw [Int.cast_mul, Int.cast_pow, Int.cast_ofNat, ← zpow_natCast, Int.toNat_of_nonneg (by omega),
      zpow_neg, div_eq_mul_inv]

/-- There is no overflow up to half of the range. -/
theorem round_eq_finite (x : ℚ) (k : ℤ) (hk : k ≤ 1023) (h : |x| ≤ 2^k) :
    round x = .finite (nearest x) := by
  have hrange : |x| ≤ 2^(1023 : ℤ) := h.trans (zpow_le_zpow_right₀ (by norm_num) hk)
  have hlt : |nearest x| < 2^1024 := by
    rcases eq_or_ne x 0 with rfl | hx
    · rw [nearest_zero, abs_zero]
      positivity
    · rw [abs_nearest]
      calc
        nearest |x| ≤ 2^(1023 : ℤ) := nearest_le_zpow _ 1023 (by norm_num) (abs_pos.mpr hx) hrange
        _ < 2^(1024 : ℤ) := zpow_lt_zpow_right₀ (by norm_num) (by norm_num)
        _ = 2^1024 := zpow_ofNat 2 1024
  unfold round
  rw [if_neg (not_le.mpr hlt)]

theorem round_zero : round 0 = .finite 0 := by
  rw [round_eq_finite 0 0 (by norm_num) (by norm_num), nearest_zero]

/-- An integer of hundredths as a number: the division makes the only error. -/
theorem div_hundred (n : ℤ) (h : |n| ≤ 2^52) :
    div (round n) (.finite 100) = .finite (nearest (n/100)) := by
  have hn : |(n : ℚ)| ≤ 2^(52 : ℤ) := by exact_mod_cast h
  have hquotient : |(n : ℚ)/100| ≤ 2^(52 : ℤ) := by
    rw [abs_div, abs_of_pos (by norm_num : (0 : ℚ) < 100)]
    exact (div_le_self (abs_nonneg _) (by norm_num)).trans hn
  rw [round_eq_finite _ 52 (by norm_num) hn, nearest_of_int n h]
  exact round_eq_finite _ 52 (by norm_num) hquotient

theorem round_neg (x : ℚ) : round (-x) = (round x).neg := by
  unfold round
  rw [nearest_neg, abs_neg]
  split_ifs with hlarge hneg hpos hpos
  · linarith
  · rfl
  · rfl
  · -- zero is not that large
    have hx : x = 0 := by linarith
    rw [hx, nearest_zero, abs_zero] at hlarge
    exact absurd hlarge (not_le.mpr (by positivity))
  · rfl

/-- A number of the format: rounding leaves it as it is. -/
structure Number where
  value : ExtendedNumber ℚ
  exact_eq : ∀ q, value = .finite q → nearest q = q

def Number.ofInt (n : ℤ) (h : |n| ≤ 2^52) : Number where
  value := .finite n
  exact_eq := by
    intro q hq
    rw [← ExtendedNumber.finite.inj hq]
    exact nearest_of_int n h

/-- The least positive number. -/
theorem Number.zpow_le (x : Number) (q : ℚ) (hx : x.value = .finite q) (hq : 0 < q) :
    2^(-1074 : ℤ) ≤ q := by
  have hunit := unit_pos (unitExponent q)
  have hself := x.exact_eq q hx
  have hunits : 0 < (roundHalfEven (q/2^unitExponent q) : ℚ) := by
    unfold nearest at hself
    rw [← hself] at hq
    exact pos_of_mul_pos_left hq hunit.le
  have hone : (1 : ℚ) ≤ roundHalfEven (q/2^unitExponent q) := by
    exact_mod_cast (Int.cast_pos.mp hunits : 0 < roundHalfEven (q/2^unitExponent q))
  calc
    (2 : ℚ)^(-1074 : ℤ) ≤ 2^unitExponent q :=
      zpow_le_zpow_right₀ (by norm_num) (unitExponent_ge q)
    _ ≤ nearest q := le_mul_of_one_le_left hunit.le hone
    _ = q := hself

end Binary64
