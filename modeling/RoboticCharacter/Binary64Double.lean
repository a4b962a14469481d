import RoboticCharacter.Binary64

/-! The numbers of the 64-bit format with their signed zeros. Rounding keeps the order of the
fractions and leaves a number of the format as it is, so that a result never leaves a range that
ends at two numbers. -/
namespace Binary64
open PythonMath
open ExtendedNumber (finite)

/-! The order. -/

theorem nearest_nonpos (x : ℚ) (h : x ≤ 0) : nearest x ≤ 0 := by
  have hneg := nearest_nonneg (-x) (neg_nonneg.mpr h)
  rw [nearest_neg] at hneg
  exact neg_nonneg.mp hneg

theorem pos_of_nearest_pos (x : ℚ) (h : 0 < nearest x) : 0 < x := by
  by_contra hnonpos
  exact absurd (nearest_nonpos x (not_lt.mp hnonpos)) (not_le.mpr h)

theorem neg_of_nearest_neg (x : ℚ) (h : nearest x < 0) : x < 0 := by
  by_contra hnonneg
  exact absurd (nearest_nonneg x (not_lt.mp hnonneg)) (not_le.mpr h)

theorem nearest_mono_pos (x y : ℚ) (hx : 0 < x) (h : x ≤ y) : nearest x ≤ nearest y := by
  have hy : 0 < y := hx.trans_le h
  have hlog := Int.log_mono_right (b := 2) hx h
  have hexp : unitExponent x = max (Int.log 2 x-52) (-1074) := by rw [unitExponent, abs_of_pos hx]
  have hexp' : unitExponent y = max (Int.log 2 y-52) (-1074) := by rw [unitExponent, abs_of_pos hy]
  rcases eq_or_lt_of_le hlog with hsame | hless
  · have hunit : unitExponent x = unitExponent y := by rw [hexp, hexp', hsame]
    have hpos := unit_pos (unitExponent y)
    have hround := roundHalfEven_mono _ _ (div_le_div_of_nonneg_right h hpos.le)
    unfold nearest
    rw [hunit]
    exact mul_le_mul_of_nonneg_right (by exact_mod_cast hround) hpos.le
  · rcases le_or_gt (-1074) (Int.log 2 y) with hlarge | hsmall
    · -- a power of two lies between the two
      have hbelow : x ≤ 2^Int.log 2 y := by
        have hlt := Int.lt_zpow_succ_log_self (b := 2) (by norm_num) x
        calc
          x ≤ 2^(Int.log 2 x+1) := by exact_mod_cast hlt.le
          _ ≤ 2^Int.log 2 y := zpow_le_zpow_right₀ (by norm_num) (by omega)
      have habove : (2 : ℚ)^Int.log 2 y ≤ y := by
        exact_mod_cast Int.zpow_log_le_self (b := 2) (by norm_num) hy
      exact (nearest_le_zpow x _ hlarge hx hbelow).trans (zpow_le_nearest y _ hlarge habove)
    · -- both are below the least number, in its unit
      have hunit : unitExponent x = unitExponent y := by
        rw [hexp, hexp']
        omega
      have hpos := unit_pos (unitExponent y)
      have hround := roundHalfEven_mono _ _ (div_le_div_of_nonneg_right h hpos.le)
      unfold nearest
      rw [hunit]
      exact mul_le_mul_of_nonneg_right (by exact_mod_cast hround) hpos.le

theorem nearest_mono (x y : ℚ) (h : x ≤ y) : nearest x ≤ nearest y := by
  rcases lt_or_ge 0 x with hx | hx
  · exact nearest_mono_pos x y hx h
  · rcases le_or_gt 0 y with hy | hy
    · exact (nearest_nonpos x hx).trans (nearest_nonneg y hy)
    · have hneg := nearest_mono_pos (-y) (-x) (neg_pos.mpr hy) (neg_le_neg h)
      rw [nearest_neg, nearest_neg] at hneg
      exact neg_le_neg_iff.mp hneg

/-! The numbers of the format. -/

theorem nearest_zpow (k : ℤ) (hk : -1074 ≤ k) : nearest (2^k) = 2^k :=
  le_antisymm (nearest_le_zpow _ k hk (unit_pos k) le_rfl) (zpow_le_nearest _ k hk le_rfl)

theorem nearest_units_of_lt (n e : ℤ) (he : -1074 ≤ e) (hn : |n| < 2^53) :
    nearest (n*2^e) = n*2^e := by
  rcases eq_or_ne n 0 with rfl | hzero
  · rw [Int.cast_zero, zero_mul, nearest_zero]
  · have hunit := unit_pos e
    have hpos : 0 < |(n : ℚ)*2^e| := abs_pos.mpr (mul_ne_zero (by exact_mod_cast hzero) hunit.ne')
    have hbound : |(n : ℚ)*2^e| < 2^(53+e) := by
      have hcast : |(n : ℚ)| < 2^(53 : ℤ) := by exact_mod_cast hn
      rw [abs_mul, abs_of_pos hunit, zpow_add₀ (by norm_num)]
      exact mul_lt_mul_of_pos_right hcast hunit
    have hlog : Int.log 2 |(n : ℚ)*2^e| < 53+e := by
      rw [← Int.lt_zpow_iff_log_lt (by norm_num) hpos]
      exact_mod_cast hbound
    have hexp : unitExponent (n*2^e) ≤ e := by
      unfold unitExponent
      omega
    apply nearest_of_integral _ (n*2^(e-unitExponent (n*2^e)).toNat)
    rw [mul_div_assoc, zpow_div_unit e _ hexp]
    push_cast
    rfl

theorem nearest_units (n e : ℤ) (he : -1074 ≤ e) (hn : |n| ≤ 2^53) :
    nearest (n*2^e) = n*2^e := by
  rcases hn.eq_or_lt with heq | hlt
  · -- a whole power of two more
    have hpower : ((2^53 : ℤ) : ℚ)*2^e = 2^(53+e) := by
      rw [zpow_add₀ (by norm_num)]
      norm_num
    rcases eq_or_eq_neg_of_abs_eq heq with rfl | rfl
    · rw [hpower, nearest_zpow _ (by omega)]
    · rw [Int.cast_neg, neg_mul, hpower, nearest_neg, nearest_zpow _ (by omega)]
  · exact nearest_units_of_lt n e he hlt

theorem nearest_nearest (x : ℚ) : nearest (nearest x) = nearest x := by
  apply nearest_units _ _ (unitExponent_ge x)
  have hunit := unit_pos (unitExponent x)
  have hscaled : |x/2^unitExponent x| ≤ ((2^53 : ℤ) : ℚ) := by
    rw [abs_div, abs_of_pos hunit, div_le_iff₀ hunit]
    rcases eq_or_ne x 0 with rfl | hx
    · rw [abs_zero]
      positivity
    · have hlt := Int.lt_zpow_succ_log_self (b := 2) (by norm_num) |x|
      have hexp : Int.log 2 |x|-52 ≤ unitExponent x := le_max_left _ _
      calc
        |x| ≤ 2^(Int.log 2 |x|+1) := by exact_mod_cast hlt.le
        _ ≤ 2^(53+unitExponent x) := zpow_le_zpow_right₀ (by norm_num) (by omega)
        _ = ((2^53 : ℤ) : ℚ)*2^unitExponent x := by
          rw [zpow_add₀ (by norm_num)]
          norm_num
  obtain ⟨hlow, hhigh⟩ := abs_le.mp hscaled
  rw [abs_le]
  constructor
  · apply le_roundHalfEven
    exact_mod_cast hlow
  · exact roundHalfEven_le _ _ hhigh

/-- A fraction that the format holds. -/
structure Holds (q : ℚ) : Prop where
  exact_eq : nearest q = q
  in_range : |q| < 2^1024

theorem holds_zero : Holds 0 := ⟨nearest_zero, by norm_num⟩

theorem holds_int (n : ℤ) (h : |n| ≤ 2^52) : Holds (n : ℚ) := by
  have hn : |(n : ℚ)| ≤ 2^52 := by exact_mod_cast h
  exact ⟨nearest_of_int n h, hn.trans_lt (pow_lt_pow_right₀ (by norm_num) (by norm_num))⟩

/-- An eighth of the range. -/
def eighth : ℚ := 2^(1021 : ℤ)

theorem eight_eighths : 8*eighth = 2^1024 := by
  unfold eighth
  rw [zpow_ofNat, show (8 : ℚ) = 2^3 by norm_num, ← pow_add]

theorem eighth_large : 1024 ≤ eighth := by
  calc
    (1024 : ℚ) = 2^(10 : ℤ) := by norm_num
    _ ≤ eighth := zpow_le_zpow_right₀ (by norm_num) (by norm_num)

theorem holds_eighths (n : ℤ) (h : |n| < 8) : Holds (n*eighth) := by
  have hunit : 0 < eighth := unit_pos 1021
  have hn : |(n : ℚ)| < 8 := by exact_mod_cast h
  refine ⟨nearest_units n 1021 (by norm_num) (h.le.trans (by norm_num)), ?_⟩
  rw [abs_mul, abs_of_pos hunit, ← eight_eighths]
  exact mul_lt_mul_of_pos_right hn hunit

theorem holds_neg (q : ℚ) (h : Holds q) : Holds (-q) :=
  ⟨by rw [nearest_neg, h.exact_eq], by rw [abs_neg]; exact h.in_range⟩

theorem holds_abs (q : ℚ) (h : Holds q) : Holds |q| :=
  ⟨by rw [← abs_nearest, h.exact_eq], by rw [abs_abs]; exact h.in_range⟩

/-- A number of the format that is below a rounded fraction is not above the fraction. -/
theorem le_of_lt_nearest (q x : ℚ) (hq : Holds q) (h : q < nearest x) : q ≤ x := by
  by_contra hless
  have hmono := nearest_mono x q (not_le.mp hless).le
  rw [hq.exact_eq] at hmono
  exact absurd h (not_lt.mpr hmono)

/-- A fraction between two numbers of the format is rounded into the range of the two. -/
theorem round_between (low high x : ℚ) (hlow : Holds low) (hhigh : Holds high)
    (hx : low ≤ x ∧ x ≤ high) :
    round x = finite (nearest x) ∧ low ≤ nearest x ∧ nearest x ≤ high := by
  have hbelow := nearest_mono low x hx.1
  have habove := nearest_mono x high hx.2
  rw [hlow.exact_eq] at hbelow
  rw [hhigh.exact_eq] at habove
  have hrange : |nearest x| < 2^1024 := by
    rw [abs_lt]
    exact ⟨(abs_lt.mp hlow.in_range).1.trans_le hbelow,
      habove.trans_lt (abs_lt.mp hhigh.in_range).2⟩
  unfold round
  rw [if_neg (not_le.mpr hrange)]
  exact ⟨rfl, hbelow, habove⟩

theorem round_of_holds (q : ℚ) (h : Holds q) : round q = finite q := by
  have hround := (round_between q q q h h ⟨le_rfl, le_rfl⟩).1
  rwa [h.exact_eq] at hround

theorem round_finite (x q : ℚ) (h : round x = finite q) : q = nearest x ∧ Holds q := by
  unfold round at h
  split_ifs at h with hrange
  have hq := ExtendedNumber.finite.inj h
  rw [← hq]
  exact ⟨rfl, nearest_nearest x, not_le.mp hrange⟩

theorem round_le_zero (x : ℚ) (h : x ≤ 0) : (round x).le (finite 0) = true := by
  unfold round
  split_ifs with hrange hneg
  · rfl
  · -- the only fraction left is zero, which is in the range
    rw [le_antisymm h (not_lt.mp hneg), nearest_zero, abs_zero] at hrange
    exact absurd hrange (not_le.mpr (by positivity))
  · exact decide_eq_true (nearest_nonpos x h)

/-- Every finite value is one of the format. -/
def OfFormat (x : ExtendedNumber ℚ) : Prop := ∀ q, x = finite q → Holds q

theorem ofFormat_finite (q : ℚ) (h : Holds q) : OfFormat (finite q) := by
  intro q' hq
  rwa [← ExtendedNumber.finite.inj hq]

theorem ofFormat_round (x : ℚ) : OfFormat (round x) := fun q h => (round_finite x q h).2

theorem ofFormat_infinite (x : ExtendedNumber ℚ) (h : x.isFinite = false) : OfFormat x := by
  intro q hq
  rw [hq] at h
  cases h

theorem ofFormat_neg (x : ExtendedNumber ℚ) (h : OfFormat x) : OfFormat x.neg := by
  cases x with
  | finite q => exact ofFormat_finite _ (holds_neg q (h q rfl))
  | infinity => exact ofFormat_infinite _ rfl
  | negInfinity => exact ofFormat_infinite _ rfl
  | nan => exact ofFormat_infinite _ rfl

theorem ofFormat_abs (x : ExtendedNumber ℚ) (h : OfFormat x) : OfFormat x.abs := by
  cases x with
  | finite q => exact ofFormat_finite _ (holds_abs q (h q rfl))
  | infinity => exact ofFormat_infinite _ rfl
  | negInfinity => exact ofFormat_infinite _ rfl
  | nan => exact ofFormat_infinite _ rfl

theorem ofFormat_add (x y : ExtendedNumber ℚ) : OfFormat (add x y) := by
  cases x <;> cases y <;> first | exact ofFormat_round _ | exact ofFormat_infinite _ rfl

theorem ofFormat_signedInfinity (negative : Bool) : OfFormat (signedInfinity negative) := by
  cases negative <;> exact ofFormat_infinite _ rfl

theorem ofFormat_mul (x y : ExtendedNumber ℚ) : OfFormat (mul x y) := by
  have hinfinite : OfFormat (if isZero x || isZero y then .nan
      else signedInfinity (isNegative x != isNegative y)) := by
    split_ifs
    · exact ofFormat_infinite _ rfl
    · exact ofFormat_signedInfinity _
  cases x <;> cases y <;>
    first | exact ofFormat_round _ | exact hinfinite | exact ofFormat_infinite _ rfl

theorem ofFormat_div (x y : ExtendedNumber ℚ) : OfFormat (div x y) := by
  cases x <;> cases y <;>
    first
    | exact ofFormat_round _
    | exact ofFormat_finite 0 holds_zero
    | exact ofFormat_signedInfinity _
    | exact ofFormat_infinite _ rfl

theorem nearestSqrt_nonneg (x : ℚ) : 0 ≤ nearestSqrt x :=
  mul_nonneg (Nat.cast_nonneg _) (unit_pos _).le

theorem sqrtUnits_lt (x : ℚ) (e : ℤ) (h : Int.log 4 x-52 ≤ e) :
    Nat.sqrt ⌊x/((2 : ℚ)^e)^2⌋₊ < 2^53 := by
  have hpos : (0 : ℚ) < (2^e)^2 := pow_pos (unit_pos e) 2
  have hlt := Int.lt_zpow_succ_log_self (b := 4) (by norm_num) x
  have hfour : (4 : ℚ)^(53+e) = ((2^53*2^53 : ℕ) : ℚ)*(2^e)^2 := by
    rw [zpow_add₀ (by norm_num), show (4 : ℚ)^e = (2^e)^2 by
      rw [← zpow_natCast, ← zpow_mul, mul_comm, zpow_mul]; norm_num]
    norm_num
  have hscaled : x/((2 : ℚ)^e)^2 < ((2^53*2^53 : ℕ) : ℚ) := by
    rw [div_lt_iff₀ hpos, ← hfour]
    calc
      x < 4^(Int.log 4 x+1) := by exact_mod_cast hlt
      _ ≤ 4^(53+e) := zpow_le_zpow_right₀ (by norm_num) (by omega)
  rw [Nat.sqrt_lt]
  exact (Nat.floor_lt' (by positivity)).mpr hscaled

/-- A root has as many bits as the format keeps. -/
theorem nearestSqrt_units (x : ℚ) : ∃ n : ℤ,
    |n| ≤ 2^53 ∧ nearestSqrt x = n*2^max (Int.log 4 x-52) (-1074) := by
  have hlt := sqrtUnits_lt x _ (le_max_left (Int.log 4 x-52) (-1074))
  unfold nearestSqrt
  dsimp only
  refine ⟨_, ?_, by rw [Int.cast_natCast]⟩
  rw [abs_of_nonneg (Int.natCast_nonneg _)]
  split_ifs <;> omega

theorem holds_nearestSqrt (x : ℚ) (h : |x| < 2^1024) : Holds (nearestSqrt x) := by
  obtain ⟨n, hn, hroot⟩ := nearestSqrt_units x
  have hlog : Int.log 4 x ≤ 511 := by
    rcases le_or_gt x 0 with hneg | hpos
    · rw [Int.log_of_right_le_zero _ hneg]
      norm_num
    · have hlt : x < ((4 : ℕ) : ℚ)^(512 : ℤ) := by
        refine ((le_abs_self x).trans_lt h).trans_eq ?_
        rw [zpow_ofNat, show ((4 : ℕ) : ℚ) = 2^2 by norm_num, ← pow_mul]
      have := (Int.lt_zpow_iff_log_lt (by norm_num) hpos).mp hlt
      omega
  rw [hroot]
  refine ⟨nearest_units n _ (le_max_right _ _) hn, ?_⟩
  have hunit : (2 : ℚ)^max (Int.log 4 x-52) (-1074) ≤ 2^(459 : ℤ) :=
    zpow_le_zpow_right₀ (by norm_num) (by omega)
  have hcount : |(n : ℚ)| ≤ 2^53 := by exact_mod_cast hn
  rw [abs_mul, abs_of_pos (unit_pos _)]
  calc
    |(n : ℚ)| * 2^max (Int.log 4 x-52) (-1074) ≤ 2^53*2^(459 : ℤ) :=
      mul_le_mul hcount hunit (unit_pos _).le (by norm_num)
    _ = 2^(53+459) := by rw [zpow_ofNat, ← pow_add]
    _ < 2^1024 := pow_lt_pow_right₀ (by norm_num) (by norm_num)

theorem ofFormat_sqrt (x : ExtendedNumber ℚ) (h : OfFormat x) : OfFormat (sqrt x) := by
  cases x with
  | finite q => exact ofFormat_finite _ (holds_nearestSqrt q (h q rfl).in_range)
  | infinity => exact ofFormat_infinite _ rfl
  | negInfinity => exact ofFormat_infinite _ rfl
  | nan => exact ofFormat_infinite _ rfl

/-- A number of the format, whose zeros have a sign. -/
structure Double where
  value : ExtendedNumber ℚ
  negativeZero : Bool
  ofFormat : OfFormat value
  zero_of_negative : negativeZero = true → value = finite 0

/-- The finite numbers of the format, with one zero. -/
def FiniteDouble := {q : ℚ // Holds q}

instance : LinearOrder FiniteDouble := inferInstanceAs (LinearOrder {q : ℚ // Holds q})

instance : Zero FiniteDouble := ⟨0, holds_zero⟩

/-- The conversions of `round` and of `int / float` that raise. -/
inductive ConversionError
  | floatNaN
  | floatInfinity
  | intTooLarge
  deriving DecidableEq

namespace Double

theorem eq_zero_of_isZero (x : ExtendedNumber ℚ) (h : isZero x = true) : x = finite 0 := by
  cases x with
  | finite q => rw [of_decide_eq_true h]
  | infinity => cases h
  | negInfinity => cases h
  | nan => cases h

/-- A value with the sign that it has if it is zero. -/
def signed (value : ExtendedNumber ℚ) (h : OfFormat value) (negative : Bool) : Double where
  value := value
  negativeZero := negative && isZero value
  ofFormat := h
  zero_of_negative := fun hzero => eq_zero_of_isZero value (Bool.and_eq_true_iff.mp hzero).2

def ofFinite (x : FiniteDouble) : Double := signed (finite x.1) (ofFormat_finite x.1 x.2) false

/-- A decimal literal. -/
def literal (q : ℚ) : Double := signed (Binary64.round q) (ofFormat_round q) false

/-- A number that is used as a float. -/
def ofInt (n : ℤ) : Except ConversionError Double :=
  match Binary64.round n with
  | .finite _ => .ok (literal n)
  | _ => .error .intTooLarge

/-- The sign bit. That of a NaN, which the format leaves open, counts as positive. -/
def isNegative (x : Double) : Bool := x.negativeZero || Binary64.isNegative x.value

def neg (x : Double) : Double := signed x.value.neg (ofFormat_neg _ x.ofFormat) (!x.isNegative)

def abs (x : Double) : Double := signed x.value.abs (ofFormat_abs _ x.ofFormat) false

def add (x y : Double) : Double :=
  signed (Binary64.add x.value y.value) (ofFormat_add _ _) (x.isNegative && y.isNegative)

def sub (x y : Double) : Double := x.add y.neg

def mul (x y : Double) : Double :=
  signed (Binary64.mul x.value y.value) (ofFormat_mul _ _) (x.isNegative != y.isNegative)

/-- The quotient by a divisor that is not zero. -/
def div (x y : Double) : Double :=
  signed (Binary64.div x.value y.value) (ofFormat_div _ _) (x.isNegative != y.isNegative)

/-- The square root of a number that is not negative. -/
def sqrt (x : Double) : Double :=
  signed (Binary64.sqrt x.value) (ofFormat_sqrt _ x.ofFormat) x.isNegative

def copysign (magnitude sign : Double) : Double :=
  if sign.isNegative then magnitude.abs.neg else magnitude.abs

def lt (x y : Double) : Bool := x.value.lt y.value

def le (x y : Double) : Bool := x.value.le y.value

/-- The number 0.0 bounds the value from below, so that it is not a NaN. -/
def NotNegative (x : Double) : Prop := (literal 0).le x = true

instance : DecidablePred NotNegative := fun _ => inferInstanceAs (Decidable (_ = true))

/-- The built-in `min`: the first, unless the second is less. -/
def min (x y : Double) : Double := if y.lt x then y else x

/-- The built-in `max`: the first, unless the second is greater. -/
def max (x y : Double) : Double := if x.lt y then y else x

/-- The built-in `round`. -/
def round (x : Double) : Except ConversionError ℤ :=
  match x.value with
  | .finite q => .ok (roundHalfEven q)
  | .nan => .error .floatNaN
  | _ => .error .floatInfinity

theorem round_eq_ok_iff (x : Double) (n : ℤ) :
    x.round = .ok n ↔ ∃ q, x.value = finite q ∧ roundHalfEven q = n := by
  unfold round
  cases x.value with
  | finite q =>
    constructor
    · intro h
      exact ⟨q, rfl, Except.ok.inj h⟩
    · intro h
      obtain ⟨_, hq, hn⟩ := h
      rw [ExtendedNumber.finite.inj hq]
      exact congrArg Except.ok hn
  | infinity => exact iff_of_false (fun h => by cases h) (fun ⟨_, hq, _⟩ => by cases hq)
  | negInfinity => exact iff_of_false (fun h => by cases h) (fun ⟨_, hq, _⟩ => by cases hq)
  | nan => exact iff_of_false (fun h => by cases h) (fun ⟨_, hq, _⟩ => by cases hq)

/-- A finite sum or product is that of two finite numbers. -/
theorem add_eq_finite (x y : Double) (r : ℚ) (h : (x.add y).value = finite r) :
    ∃ a b, x.value = finite a ∧ y.value = finite b ∧ Binary64.round (a+b) = finite r := by
  change Binary64.add x.value y.value = finite r at h
  revert h
  cases x.value with
  | finite a =>
    cases y.value with
    | finite b => exact fun h => ⟨a, b, rfl, rfl, h⟩
    | infinity => exact fun h => by cases h
    | negInfinity => exact fun h => by cases h
    | nan => exact fun h => by cases h
  | infinity => cases y.value <;> exact fun h => by cases h
  | negInfinity => cases y.value <;> exact fun h => by cases h
  | nan => cases y.value <;> exact fun h => by cases h

theorem signedInfinity_ne (negative : Bool) (r : ℚ) : signedInfinity negative ≠ finite r := by
  cases negative <;> exact fun h => by cases h

theorem mul_eq_finite (x y : Double) (r : ℚ) (h : (x.mul y).value = finite r) :
    ∃ a b, x.value = finite a ∧ y.value = finite b ∧ Binary64.round (a*b) = finite r := by
  change Binary64.mul x.value y.value = finite r at h
  have hinfinite (condition : Prop) [Decidable condition] (negative : Bool) :
      (if condition then .nan else signedInfinity negative) ≠ finite r := by
    split_ifs
    · exact fun h => by cases h
    · exact signedInfinity_ne negative r
  revert h
  cases x.value with
  | finite a =>
    cases y.value with
    | finite b => exact fun h => ⟨a, b, rfl, rfl, h⟩
    | infinity => exact fun h => absurd h (hinfinite _ _)
    | negInfinity => exact fun h => absurd h (hinfinite _ _)
    | nan => exact fun h => by cases h
  | infinity =>
    cases y.value <;> first | exact fun h => absurd h (hinfinite _ _) | exact fun h => by cases h
  | negInfinity =>
    cases y.value <;> first | exact fun h => absurd h (hinfinite _ _) | exact fun h => by cases h
  | nan => cases y.value <;> exact fun h => by cases h

theorem mul_eq_finite_iff (x y : Double) (b r : ℚ) (hy : y.value = finite b) :
    (x.mul y).value = finite r ↔ ∃ a, x.value = finite a ∧ Binary64.round (a*b) = finite r := by
  constructor
  · intro h
    obtain ⟨a, b', ha, hb, hround⟩ := mul_eq_finite x y r h
    rw [hy] at hb
    rw [← ExtendedNumber.finite.inj hb] at hround
    exact ⟨a, ha, hround⟩
  · intro h
    obtain ⟨a, ha, hround⟩ := h
    change Binary64.mul x.value y.value = finite r
    rw [ha, hy]
    exact hround

theorem isNegative_of_pos (x : Double) (q : ℚ) (hx : x.value = finite q) (hq : 0 < q) :
    x.isNegative = false := by
  have hzero : x.negativeZero = false := by
    rw [← Bool.not_eq_true]
    intro hneg
    have hvalue := x.zero_of_negative hneg
    rw [hx] at hvalue
    exact hq.ne' (ExtendedNumber.finite.inj hvalue)
  rw [isNegative, hzero, hx]
  exact decide_eq_false (not_lt.mpr hq.le)

theorem isNegative_of_neg (x : Double) (q : ℚ) (hx : x.value = finite q) (hq : q < 0) :
    x.isNegative = true := by
  rw [isNegative, hx]
  exact Bool.or_eq_true_iff.mpr (.inr (decide_eq_true hq))

theorem abs_value (x : Double) (q : ℚ) (hx : x.value = finite q) : x.abs.value = finite |q| := by
  change x.value.abs = _
  rw [hx]
  rfl

theorem abs_eq_finite (x : Double) (r : ℚ) (h : x.abs.value = finite r) :
    ∃ q, x.value = finite q ∧ r = |q| := by
  change x.value.abs = finite r at h
  cases hx : x.value with
  | finite q =>
    rw [hx] at h
    exact ⟨q, rfl, (ExtendedNumber.finite.inj h).symm⟩
  | infinity =>
    rw [hx] at h
    cases h
  | negInfinity =>
    rw [hx] at h
    cases h
  | nan =>
    rw [hx] at h
    cases h

theorem copysign_value (magnitude sign : Double) (q : ℚ) (h : magnitude.value = finite q) :
    (copysign magnitude sign).value = finite (if sign.isNegative then -|q| else |q|) := by
  have habs := abs_value magnitude q h
  unfold copysign
  split_ifs
  · change magnitude.abs.value.neg = _
    rw [habs]
    rfl
  · exact habs

theorem literal_value (q : ℚ) (h : Holds q) : (literal q).value = finite q := round_of_holds q h

section Between
variable (x y : Double) (a b low high : ℚ) (hx : x.value = finite a) (hy : y.value = finite b)
  (hlow : Holds low) (hhigh : Holds high)
include hx hy hlow hhigh

theorem add_between (h : low ≤ a+b ∧ a+b ≤ high) : (x.add y).value = finite (nearest (a+b)) ∧
    low ≤ nearest (a+b) ∧ nearest (a+b) ≤ high := by
  have hsum : (x.add y).value = Binary64.round (a+b) := by
    change Binary64.add x.value y.value = _
    rw [hx, hy]
    rfl
  rw [hsum]
  exact round_between low high _ hlow hhigh h

theorem sub_between (h : low ≤ a-b ∧ a-b ≤ high) : (x.sub y).value = finite (nearest (a-b)) ∧
    low ≤ nearest (a-b) ∧ nearest (a-b) ≤ high := by
  have hneg : y.neg.value = finite (-b) := by
    change y.value.neg = _
    rw [hy]
    rfl
  rw [sub_eq_add_neg] at h ⊢
  exact add_between x y.neg a (-b) low high hx hneg hlow hhigh h

theorem mul_between (h : low ≤ a*b ∧ a*b ≤ high) : (x.mul y).value = finite (nearest (a*b)) ∧
    low ≤ nearest (a*b) ∧ nearest (a*b) ≤ high := by
  have hproduct : (x.mul y).value = Binary64.round (a*b) := by
    change Binary64.mul x.value y.value = _
    rw [hx, hy]
    rfl
  rw [hproduct]
  exact round_between low high _ hlow hhigh h

end Between

theorem notNegative_iff (x : Double) : NotNegative x ↔ (finite 0).le x.value = true := by
  unfold NotNegative le
  rw [literal_value 0 holds_zero]

/-- What is not negative and below a finite number is finite. -/
theorem finite_of_lt (x y : Double) (b : ℚ) (hx : NotNegative x) (hy : y.value = finite b)
    (h : x.lt y = true) : ∃ a, x.value = finite a ∧ 0 ≤ a ∧ a < b := by
  rw [notNegative_iff] at hx
  unfold lt at h
  rw [hy] at h
  cases hvalue : x.value with
  | finite a =>
    rw [hvalue] at hx h
    exact ⟨a, rfl, of_decide_eq_true hx, of_decide_eq_true h⟩
  | infinity =>
    rw [hvalue] at h
    cases h
  | negInfinity =>
    rw [hvalue] at hx
    cases hx
  | nan =>
    rw [hvalue] at hx
    cases hx

/-- A product with a positive finite number keeps the sign. -/
theorem notNegative_mul (x y : Double) (b : ℚ) (hx : NotNegative x) (hy : y.value = finite b)
    (hb : 0 < b) : NotNegative (x.mul y) := by
  have hnonzero : isZero (finite b) = false := decide_eq_false hb.ne'
  have hpositive : Binary64.isNegative (finite b) = false := decide_eq_false (not_lt.mpr hb.le)
  rw [notNegative_iff] at hx ⊢
  change (finite 0).le (Binary64.mul x.value y.value) = true
  rw [hy]
  cases hvalue : x.value with
  | finite a =>
    rw [hvalue] at hx
    have ha : 0 ≤ a*b := mul_nonneg (of_decide_eq_true hx) hb.le
    change (finite 0).le (Binary64.round (a*b)) = true
    unfold Binary64.round
    rw [if_neg (not_lt.mpr ha)]
    split_ifs
    · rfl
    · exact decide_eq_true (nearest_nonneg _ ha)
  | infinity =>
    unfold Binary64.mul
    dsimp only
    rw [hnonzero, hpositive]
    rfl
  | negInfinity =>
    rw [hvalue] at hx
    cases hx
  | nan =>
    rw [hvalue] at hx
    cases hx

theorem notNegative_sqrt (x : Double) (h : NotNegative x) : NotNegative x.sqrt := by
  rw [notNegative_iff] at h ⊢
  change (finite 0).le (Binary64.sqrt x.value) = true
  cases hvalue : x.value with
  | finite a => exact decide_eq_true (nearestSqrt_nonneg a)
  | infinity => rfl
  | negInfinity =>
    rw [hvalue] at h
    cases h
  | nan =>
    rw [hvalue] at h
    cases h

/-- `max(0.0, x)` is a number that is not negative even if `x` is a NaN. -/
theorem notNegative_max (x : Double) : NotNegative (max (literal 0) x) := by
  have hzero := literal_value 0 holds_zero
  rw [notNegative_iff]
  unfold max lt
  rw [hzero]
  split_ifs with hless
  · cases hvalue : x.value with
    | finite a =>
      rw [hvalue] at hless
      exact decide_eq_true (of_decide_eq_true hless : (0 : ℚ) < a).le
    | infinity => rfl
    | negInfinity =>
      rw [hvalue] at hless
      cases hless
    | nan =>
      rw [hvalue] at hless
      cases hless
  · rw [hzero]
    exact decide_eq_true (le_refl (0 : ℚ))

/-- A minimum with a finite number is no larger than that in magnitude. -/
theorem min_value (x y : Double) (a : ℚ) (hx : x.value = finite a) (hy : NotNegative y) :
    ∃ q, (min x y).value = finite q ∧ |q| ≤ |a| := by
  unfold min
  split_ifs with hless
  · obtain ⟨b, hb, hpos, hlt⟩ := finite_of_lt y x a hy hx hless
    refine ⟨b, hb, ?_⟩
    rw [abs_of_nonneg hpos, abs_of_nonneg (hpos.trans hlt.le)]
    exact hlt.le
  · exact ⟨a, hx, le_rfl⟩

end Double

end Binary64
