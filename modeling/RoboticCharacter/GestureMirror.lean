import RoboticCharacter.GestureClassifier
import RoboticCharacter.Fallible

/-! The classifier under the reflection of the glove: which configurations see left and right
alike, sample by sample, and give every gesture a confidence between zero and one. -/
namespace RoboticCharacter.Gesture
open Fallible Machine
open ExtendedNumber (finite infinity negInfinity nan)

def GestureType.mirror : GestureType → GestureType
  | .tiltLeft => .tiltRight
  | .tiltRight => .tiltLeft
  | .flickLeft => .flickRight
  | .flickRight => .flickLeft
  | other => other

/-- The sample of the other hand: roll and the rate about `y` change their signs. -/
def mirrorTelemetry (telemetry : GloveTelemetry) : GloveTelemetry :=
  { telemetry with rollCdeg := -telemetry.rollCdeg, gyroYCdegS := -telemetry.gyroYCdegS }

def mirrorInput (input : GloveTelemetry × Bool) : GloveTelemetry × Bool :=
  (mirrorTelemetry input.1, input.2)

/-- Not zero or less, as the constructor asks it: a positive number, or NaN. -/
def PassesPositive (x : ExtendedNumber ℚ) : Prop := x.le (finite 0) = false

section Arithmetic

theorem PassesPositive.cases (x : ExtendedNumber ℚ) (h : PassesPositive x) :
    (∃ q, x = finite q ∧ 0 < q) ∨ x = infinity ∨ x = nan := by
  unfold PassesPositive at h
  cases x with
  | finite q =>
    simp only [ExtendedNumber.le, decide_eq_false_iff_not, not_le] at h
    exact .inl ⟨q, rfl, h⟩
  | infinity => exact .inr (.inl rfl)
  | negInfinity => cases h
  | nan => exact .inr (.inr rfl)

/-- Nothing is both at least a positive threshold and at most its negative. -/
theorem PassesPositive.exclusive (threshold value : ExtendedNumber ℚ) (h : PassesPositive threshold)
    (hup : threshold.le value = true) (hdown : value.le threshold.neg = true) : False := by
  rcases h.cases with ⟨q, rfl, hq⟩ | rfl | rfl
  · cases value with
    | finite a =>
      simp only [ExtendedNumber.le, ExtendedNumber.neg, decide_eq_true_eq] at hup hdown
      linarith
    | infinity => cases hdown
    | negInfinity => cases hup
    | nan => cases hup
  · cases value <;> simp [ExtendedNumber.le, ExtendedNumber.neg] at hup hdown
  · cases hup

/-- What reaches a positive threshold with its magnitude has a sign. -/
theorem PassesPositive.sign (threshold value : ExtendedNumber ℚ) (h : PassesPositive threshold)
    (hreach : threshold.le value.abs = true) :
    (finite 0).lt value.neg = !(finite 0).lt value := by
  rcases h.cases with ⟨q, rfl, hq⟩ | rfl | rfl
  · cases value with
    | finite a =>
      simp only [ExtendedNumber.abs, ExtendedNumber.le, decide_eq_true_eq] at hreach
      have hne : a ≠ 0 := by
        rintro rfl
        rw [abs_zero] at hreach
        linarith
      simp only [ExtendedNumber.neg, ExtendedNumber.lt, Left.neg_pos_iff, ← decide_not, not_lt,
        decide_eq_decide]
      exact ⟨le_of_lt, fun hle => lt_of_le_of_ne hle hne⟩
    | infinity => rfl
    | negInfinity => rfl
    | nan => cases hreach
  · cases value with
    | finite a => simp [ExtendedNumber.abs, ExtendedNumber.le] at hreach
    | infinity => rfl
    | negInfinity => rfl
    | nan => cases hreach
  · cases hreach

theorem PassesPositive.abs_eq (threshold value : ExtendedNumber ℚ) (h : PassesPositive threshold)
    (hreach : threshold.le value = true) : value.abs = value := by
  cases value with
  | finite a =>
    rcases h.cases with ⟨q, rfl, hq⟩ | rfl | rfl
    · simp only [ExtendedNumber.le, decide_eq_true_eq] at hreach
      rw [ExtendedNumber.abs, abs_of_pos (hq.trans_le hreach)]
    · cases hreach
    · cases hreach
  | infinity => rfl
  | negInfinity => rcases h.cases with ⟨q, rfl, _⟩ | rfl | rfl <;> cases hreach
  | nan => rfl

theorem div_neg_left (x : ExtendedNumber ℚ) (b : ℚ) :
    Binary64.div x.neg (finite b) = (Binary64.div x (finite b)).neg := by
  cases x with
  | finite a =>
    change Binary64.round (-a/b) = (Binary64.round (a/b)).neg
    rw [neg_div, Binary64.round_neg]
  | infinity | negInfinity =>
    change Binary64.signedInfinity (_ != decide (b < 0)) =
      (Binary64.signedInfinity (_ != decide (b < 0))).neg
    cases decide (b < 0) <;> rfl
  | nan => rfl

theorem mul_neg_self (x : ExtendedNumber ℚ) : Binary64.mul x.neg x.neg = Binary64.mul x x := by
  cases x with
  | finite a =>
    change Binary64.round (-a* -a) = Binary64.round (a*a)
    rw [neg_mul_neg]
  | infinity | negInfinity | nan => rfl

theorem centidegrees_neg (value : ℤ) :
    MotionGestureClassifier.centidegrees (-value) =
      (MotionGestureClassifier.centidegrees value).neg := by
  unfold MotionGestureClassifier.centidegrees
  rw [Int.cast_neg, Binary64.round_neg, div_neg_left]

theorem passesPositive_round (x : ℚ) (h : 2^(-1075 : ℤ) < x) :
    PassesPositive (Binary64.round x) := by
  have hpos : ¬ x < 0 := not_lt.mpr ((Binary64.unit_pos _).trans h).le
  unfold PassesPositive Binary64.round
  rw [if_neg hpos]
  split_ifs
  · rfl
  · exact decide_eq_false (not_le.mpr (Binary64.nearest_pos x h))

theorem passesPositive_mul (threshold : Binary64.Number) (factor : ℚ)
    (h : PassesPositive threshold.value) (hfactor : 1/2 < factor) :
    PassesPositive (Binary64.mul threshold.value (finite factor)) := by
  have hpos : 0 < factor := by linarith
  rcases h.cases with ⟨q, hvalue, hq⟩ | hvalue | hvalue
  · rw [hvalue]
    apply passesPositive_round
    have hleast := threshold.zpow_le q hvalue hq
    have hhalf : (2 : ℚ)^(-1075 : ℤ) = 2^(-1074 : ℤ)*(1/2) := by
      rw [show (-1075 : ℤ) = -1074+(-1) by norm_num, zpow_add₀ (by norm_num)]
      norm_num
    rw [hhalf]
    have hunit := Binary64.unit_pos (-1074)
    calc
      (2 : ℚ)^(-1074 : ℤ)*(1/2) < 2^(-1074 : ℤ)*factor := mul_lt_mul_of_pos_left hfactor hunit
      _ ≤ q*factor := mul_le_mul_of_nonneg_right hleast hpos.le
  · rw [hvalue]
    simp [Binary64.mul, Binary64.isZero, Binary64.isNegative, Binary64.signedInfinity,
      PassesPositive, ExtendedNumber.le, hpos.ne', hpos.not_gt]
  · rw [hvalue]
    rfl

theorem round_065 : ∃ factor, Binary64.round 0.65 = finite factor ∧ 1/2 < factor := by
  refine ⟨_, Binary64.round_eq_finite _ 0 (by norm_num) ?_, by decide +kernel⟩
  rw [abs_of_pos (by norm_num)]
  norm_num

end Arithmetic

namespace MotionGestureClassifier

def Motion.mirror (m : Motion) : Motion := { m with roll := m.roll.neg, gy := m.gy.neg }

theorem Motion.ofTelemetry_mirror (telemetry : GloveTelemetry) :
    Motion.ofTelemetry (mirrorTelemetry telemetry) = (Motion.ofTelemetry telemetry).mirror := by
  simp only [Motion.ofTelemetry, mirrorTelemetry, Motion.mirror, centidegrees_neg, mul_neg_self]

def mirror (c : MotionGestureClassifier) : MotionGestureClassifier :=
  { c with rollHistory := c.rollHistory.map ExtendedNumber.neg }

theorem appendRoll_mirror (c : MotionGestureClassifier) (roll : ExtendedNumber ℚ) :
    c.mirror.appendRoll roll.neg = (c.appendRoll roll).mirror := by
  have hsnoc : c.rollHistory.map ExtendedNumber.neg ++ [roll.neg] =
      (c.rollHistory ++ [roll]).map ExtendedNumber.neg := by
    rw [List.map_append, List.map_singleton]
  unfold appendRoll mirror
  dsimp only
  rw [hsnoc, List.map_drop, List.length_map]

theorem signs_mirror (threshold : ExtendedNumber ℚ) (h : PassesPositive threshold)
    (history : List (ExtendedNumber ℚ)) :
    signs threshold (history.map ExtendedNumber.neg) = (signs threshold history).map (- ·) := by
  unfold signs
  rw [List.filterMap_map, List.map_filterMap]
  congr 1
  funext value
  have hup : threshold.le value.neg = value.le threshold.neg := by
    rw [← ExtendedNumber.neg_le_neg, ExtendedNumber.neg_neg]
  simp only [Function.comp_apply, hup, ExtendedNumber.neg_le_neg]
  -- at most one of the two tests holds
  cases h₁ : threshold.le value <;> cases h₂ : value.le threshold.neg
  · rfl
  · rfl
  · rfl
  · exact (h.exclusive threshold value h₁ h₂).elim

theorem transitions_neg (signs : List ℤ) : transitions (signs.map (- ·)) = transitions signs := by
  unfold transitions
  rw [← List.map_tail, List.zip_map, List.filter_map, List.length_map]
  congr 2
  funext p
  simp only [Function.comp_apply, Prod.map_fst, Prod.map_snd, ne_eq, neg_inj]

/-- The thresholds of the two hands' tests are positive, or NaN. -/
structure SeesBothHands (c : MotionGestureClassifier) : Prop where
  tilt_passes : PassesPositive c.tiltThresholdDeg.value
  flick_passes : PassesPositive c.flickThresholdDegS.value

theorem isWave_mirror (c : MotionGestureClassifier) (h : PassesPositive c.tiltThresholdDeg.value) :
    c.mirror.isWave = c.isWave := by
  obtain ⟨factor, hfactor, hlarge⟩ := round_065
  have hwave : PassesPositive c.waveThreshold := by
    unfold waveThreshold
    rw [hfactor]
    exact passesPositive_mul _ factor h hlarge
  have hsigns : signs c.mirror.waveThreshold c.mirror.rollHistory =
      (signs c.waveThreshold c.rollHistory).map (- ·) := signs_mirror _ hwave _
  have hlength : c.mirror.rollHistory.length = c.rollHistory.length := List.length_map _
  unfold isWave
  rw [hlength, hsigns]
  dsimp only
  rw [List.length_map, transitions_neg]
  rfl

theorem scored_mirror (gesture : GestureType) (value threshold factor : ExtendedNumber ℚ) :
    (scored gesture value threshold factor).map (fun p => (p.1.mirror, p.2)) =
      scored gesture.mirror value threshold factor := by
  unfold scored
  cases ratio value threshold factor <;> rfl

theorem flickSide_mirror (threshold : ExtendedNumber ℚ) (h : PassesPositive threshold)
    (gy : ExtendedNumber ℚ) (hreach : threshold.le gy.abs = true) :
    flickSide gy.neg = (flickSide gy).mirror := by
  unfold flickSide
  rw [h.sign threshold gy hreach]
  cases (finite 0).lt gy <;> rfl

theorem recognise_mirror (c : MotionGestureClassifier) (h : c.SeesBothHands) (m : Motion) :
    c.mirror.recognise m.mirror = (c.recognise m).map fun p => (p.1.mirror, p.2) := by
  have hswap : c.tiltThresholdDeg.value.le m.roll.neg = m.roll.le c.tiltThresholdDeg.value.neg := by
    rw [← ExtendedNumber.neg_le_neg, ExtendedNumber.neg_neg]
  unfold recognise
  rw [isWave_mirror c h.tilt_passes]
  simp only [mirror, Motion.mirror, ExtendedNumber.abs_neg, hswap, ExtendedNumber.neg_le_neg]
  -- the two cascades go through the same tests, but for the tilts of the roll, which change places
  by_cases hwave : c.isWave = true
  · rw [if_pos hwave, if_pos hwave]
    rfl
  rw [if_neg hwave, if_neg hwave]
  by_cases hrotation : c.rotationThresholdDegS.value.le m.gz.abs = true
  · rw [if_pos hrotation, if_pos hrotation, scored_mirror]
    rfl
  rw [if_neg hrotation, if_neg hrotation]
  by_cases hflick : c.flickThresholdDegS.value.le m.gy.abs = true
  · rw [if_pos hflick, if_pos hflick, scored_mirror, flickSide_mirror _ h.flick_passes m.gy hflick]
  rw [if_neg hflick, if_neg hflick]
  by_cases hright : c.tiltThresholdDeg.value.le m.roll = true
  · -- to the right of one hand is to the left of the other
    have hleft : ¬ m.roll.le c.tiltThresholdDeg.value.neg = true :=
      fun hleft => h.tilt_passes.exclusive _ m.roll hright hleft
    rw [if_neg hleft, if_pos hright, if_pos hright, scored_mirror,
      h.tilt_passes.abs_eq _ m.roll hright]
    rfl
  rw [if_neg hright]
  by_cases hleft : m.roll.le c.tiltThresholdDeg.value.neg = true
  · have habs := h.tilt_passes.abs_eq _ m.roll.neg (hswap.trans hleft)
    rw [ExtendedNumber.abs_neg] at habs
    rw [if_pos hleft, if_neg hright, if_pos hleft, scored_mirror, habs]
    rfl
  rw [if_neg hleft, if_neg hright, if_neg hleft]
  by_cases hforward : c.tiltThresholdDeg.value.le m.pitch = true
  · rw [if_pos hforward, scored_mirror]
    rfl
  rw [if_neg hforward]
  by_cases hbackward : m.pitch.le c.tiltThresholdDeg.value.neg = true
  · rw [if_pos hbackward, scored_mirror]
    rfl
  rw [if_neg hbackward]
  split_ifs <;> rfl

/-- The other hand's observation: the same confidence for the mirrored gesture. -/
structure Mirrored (a b : Except ZeroDivisionError GestureObservation) : Prop where
  same_confidence : b.map GestureObservation.confidence = a.map GestureObservation.confidence
  mirrored_gesture : b.map GestureObservation.gesture = a.map fun o => o.gesture.mirror

theorem classify_mirror (c : MotionGestureClassifier) (h : c.SeesBothHands)
    (input : GloveTelemetry × Bool) :
    (c.mirror.classify (mirrorInput input)).1 = (c.classify input).1.mirror ∧
    Mirrored (c.classify input).2 (c.mirror.classify (mirrorInput input)).2 := by
  have hmotion := Motion.ofTelemetry_mirror input.1
  have happend := appendRoll_mirror c (Motion.ofTelemetry input.1).roll
  have hrecognise := recognise_mirror (c.appendRoll (Motion.ofTelemetry input.1).roll)
    ⟨h.tilt_passes, h.flick_passes⟩ (Motion.ofTelemetry input.1)
  have hroll : (Motion.ofTelemetry input.1).mirror.roll =
      (Motion.ofTelemetry input.1).roll.neg := rfl
  unfold classify mirrorInput
  dsimp only
  rw [hmotion, hroll, happend, hrecognise]
  refine ⟨rfl, ?_⟩
  cases (c.appendRoll (Motion.ofTelemetry input.1).roll).recognise (Motion.ofTelemetry input.1) with
  | error raised => exact ⟨rfl, rfl⟩
  | ok result => exact ⟨rfl, rfl⟩

theorem observations_mirror (c : MotionGestureClassifier) (h : c.SeesBothHands)
    (inputs : List (GloveTelemetry × Bool)) :
    List.Forall₂ Mirrored (c.observations inputs)
      (c.mirror.observations (inputs.map mirrorInput)) := by
  unfold observations
  induction inputs generalizing c with
  | nil => exact .nil
  | cons input rest ih =>
    obtain ⟨hstate, hmirrored⟩ := classify_mirror c h input
    rw [List.map_cons, trace_cons, trace_cons, List.map_cons, List.map_cons, hstate]
    exact .cons hmirrored (ih (c.classify input).1 ⟨h.tilt_passes, h.flick_passes⟩)

/-- A finite measurement of a 16-bit field: not too large, and not too small if it is not zero. -/
structure Measures (x : ExtendedNumber ℚ) (value : ℚ) : Prop where
  eq_finite : x = finite value
  le_bound : |value| ≤ 2^(9 : ℤ)
  ge_bound : value ≠ 0 → 2^(-7 : ℤ) ≤ |value|

theorem centidegrees_measures (n : ℤ) (h : |n| ≤ 32768) :
    ∃ value, Measures (centidegrees n) value := by
  have hrange : |(n : ℚ)| ≤ 32768 := by exact_mod_cast h
  -- 327.68 is below 2^9, and one hundredth above 2^-7
  have hquotient : |(n : ℚ)/100| ≤ 2^(9 : ℤ) := by
    rw [abs_div, abs_of_pos (by norm_num : (0 : ℚ) < 100)]
    norm_num
    linarith
  have hdegrees : centidegrees n = finite (Binary64.nearest (n/100)) :=
    Binary64.div_hundred n (h.trans (by norm_num))
  rcases eq_or_ne n 0 with rfl | hn
  · refine ⟨0, ?_, by norm_num, fun h0 => absurd rfl h0⟩
    rw [hdegrees, Int.cast_zero, zero_div, Binary64.nearest_zero]
  · have hone : (1 : ℚ) ≤ |(n : ℚ)| := by exact_mod_cast Int.one_le_abs hn
    have hleast : 2^(-7 : ℤ) ≤ |(n : ℚ)/100| := by
      rw [abs_div, abs_of_pos (by norm_num : (0 : ℚ) < 100)]
      norm_num
      linarith
    have hpos := (Binary64.unit_pos (-7)).trans_le hleast
    refine ⟨_, hdegrees, ?_, fun _ => ?_⟩
    · rw [Binary64.abs_nearest]
      exact Binary64.nearest_le_zpow _ 9 (by norm_num) hpos hquotient
    · rw [Binary64.abs_nearest]
      exact Binary64.zpow_le_nearest _ (-7) (by norm_num) hleast

/-- `min(1.0, quotient)` of a quotient that is not tiny. -/
theorem min_one_round (y : ℚ) (h : 2^(-17 : ℤ) ≤ y) :
    ∃ confidence, (finite 1).min (Binary64.round y) = finite confidence ∧
      0 < confidence ∧ confidence ≤ 1 := by
  have hunit := Binary64.unit_pos (-17)
  have hnearest := hunit.trans_le (Binary64.zpow_le_nearest y (-17) (by norm_num) h)
  have hpos : ¬ y < 0 := not_lt.mpr (hunit.trans_le h).le
  unfold Binary64.round
  rw [if_neg hpos]
  split_ifs
  · exact ⟨1, rfl, one_pos, le_rfl⟩
  · unfold ExtendedNumber.min
    split_ifs with hless
    · exact ⟨_, rfl, hnearest, (of_decide_eq_true hless).le⟩
    · exact ⟨1, rfl, one_pos, le_rfl⟩

/-- A measurement that reaches a positive threshold has a confidence. -/
theorem scored_confident (gesture : GestureType) (threshold : Binary64.Number) (factor value : ℚ)
    (h : PassesPositive threshold.value) (hfactor : 1 ≤ factor ∧ factor ≤ 2)
    (hvalue : value ≤ 2^(9 : ℤ)) (hleast : value ≠ 0 → 2^(-7 : ℤ) ≤ value)
    (hreach : threshold.value.le (finite value) = true) :
    ∃ confidence, scored gesture (finite value) threshold.value (finite factor) =
      .ok (gesture, finite confidence) ∧ 0 < confidence ∧ confidence ≤ 1 := by
  rcases h.cases with ⟨q, hq, hpos⟩ | hq | hq
  · have hle : q ≤ value := by
      rw [hq] at hreach
      exact of_decide_eq_true hreach
    -- the divisor is between the least number and 2^10, so that nothing overflows or vanishes
    have hfactorPos : 0 < factor := by linarith
    have hproduct : 0 < q*factor := mul_pos hpos hfactorPos
    have hhigh : q*factor ≤ 2^(10 : ℤ) := by
      calc
        q*factor ≤ 2^(9 : ℤ)*2 :=
          mul_le_mul (hle.trans hvalue) hfactor.2 hfactorPos.le (Binary64.unit_pos 9).le
        _ = 2^(10 : ℤ) := by norm_num
    have hlow : 2^(-1075 : ℤ) < q*factor := by
      calc
        (2 : ℚ)^(-1075 : ℤ) < 2^(-1074 : ℤ) := zpow_lt_zpow_right₀ (by norm_num) (by norm_num)
        _ ≤ q := threshold.zpow_le q hq hpos
        _ ≤ q*factor := le_mul_of_one_le_right hpos.le hfactor.1
    have hmul : Binary64.mul threshold.value (finite factor) =
        finite (Binary64.nearest (q*factor)) := by
      rw [hq]
      apply Binary64.round_eq_finite _ 10 (by norm_num)
      rwa [abs_of_pos hproduct]
    have hdivisor := Binary64.nearest_pos _ hlow
    have hdivisor' := Binary64.nearest_le_zpow _ 10 (by norm_num) hproduct hhigh
    have hquotient : 2^(-17 : ℤ) ≤ value/Binary64.nearest (q*factor) := by
      rw [le_div_iff₀ hdivisor]
      calc
        (2 : ℚ)^(-17 : ℤ)*Binary64.nearest (q*factor) ≤ 2^(-17 : ℤ)*2^(10 : ℤ) :=
          mul_le_mul_of_nonneg_left hdivisor' (Binary64.unit_pos _).le
        _ = 2^(-7 : ℤ) := by norm_num
        _ ≤ value := hleast (hpos.trans_le hle).ne'
    obtain ⟨confidence, hmin, hconfidence⟩ := min_one_round _ hquotient
    refine ⟨confidence, ?_, hconfidence⟩
    have hzero : Binary64.isZero (finite (Binary64.nearest (q*factor))) = false :=
      decide_eq_false hdivisor.ne'
    unfold scored ratio truediv
    rw [hmul, hzero]
    change Except.ok (gesture, (finite 1).min (Binary64.round (value/_))) = _
    rw [hmin]
  · -- no measurement reaches an infinite threshold, or NaN
    rw [hq] at hreach
    cases hreach
  · rw [hq] at hreach
    cases hreach

/-- A confidence in the unit interval, that is zero for an unknown gesture and for no other. -/
def Confident (result : GestureType × ExtendedNumber ℚ) : Prop :=
  ∃ confidence, result.2 = finite confidence ∧ 0 ≤ confidence ∧ confidence ≤ 1 ∧
    (confidence = 0 ↔ result.1 = .unknown)

theorem confident_of_pos (gesture : GestureType) (confidence : ℚ) (hgesture : gesture ≠ .unknown)
    (h : 0 < confidence ∧ confidence ≤ 1) : Confident (gesture, finite confidence) :=
  ⟨confidence, rfl, h.1.le, h.2, iff_of_false h.1.ne' hgesture⟩

/-- A test of the cascade on a measured value, or on its magnitude. -/
theorem confident_of_scored (gesture : GestureType) (threshold : Binary64.Number) (factor : ℚ)
    (x : ExtendedNumber ℚ) (value : ℚ) (hgesture : gesture ≠ .unknown)
    (h : PassesPositive threshold.value) (hfactor : 1 ≤ factor ∧ factor ≤ 2)
    (hx : Measures x value) (hreach : threshold.value.le x.abs = true) :
    ∃ result, scored gesture x.abs threshold.value (finite factor) = .ok result ∧
      Confident result := by
  have habs : x.abs = finite |value| := by rw [hx.eq_finite, ExtendedNumber.abs]
  rw [habs] at hreach ⊢
  obtain ⟨confidence, hscored, hconfidence⟩ := scored_confident gesture threshold factor |value| h
    hfactor hx.le_bound (fun h0 => hx.ge_bound (abs_ne_zero.mp h0)) hreach
  exact ⟨_, hscored, confident_of_pos gesture confidence hgesture hconfidence⟩

theorem round_18 : ∃ factor, Binary64.round 1.8 = finite factor ∧ 1 ≤ factor ∧ factor ≤ 2 := by
  refine ⟨_, Binary64.round_eq_finite _ 1 (by norm_num) ?_, by decide +kernel, by decide +kernel⟩
  rw [abs_of_pos (by norm_num)]
  norm_num

theorem confident_round (gesture : GestureType) (x : ℚ) (hgesture : gesture ≠ .unknown)
    (hlow : 2^(-1 : ℤ) ≤ x) (hhigh : x ≤ 1) : Confident (gesture, Binary64.round x) := by
  have hpos := (Binary64.unit_pos (-1)).trans_le hlow
  have hfinite : Binary64.round x = finite (Binary64.nearest x) := by
    apply Binary64.round_eq_finite _ 0 (by norm_num)
    rwa [abs_of_pos hpos, zpow_zero]
  have hnearest := Binary64.zpow_le_nearest x (-1) (by norm_num) hlow
  have hone := Binary64.nearest_le_zpow x 0 (by norm_num) hpos (by rwa [zpow_zero])
  rw [zpow_zero] at hone
  rw [hfinite]
  exact confident_of_pos gesture _ hgesture ⟨(Binary64.unit_pos _).trans_le hnearest, hone⟩

structure Motion.Measured (m : Motion) : Prop where
  pitch : ∃ value, Measures m.pitch value
  roll : ∃ value, Measures m.roll value
  gy : ∃ value, Measures m.gy value
  gz : ∃ value, Measures m.gz value

theorem recognise_confident (c : MotionGestureClassifier) (h : c.SeesBothHands)
    (hrotation : PassesPositive c.rotationThresholdDegS.value) (m : Motion) (hm : m.Measured) :
    ∃ result, c.recognise m = .ok result ∧ Confident result := by
  obtain ⟨factor, hfactor, hbounds⟩ := round_18
  obtain ⟨pitch, hpitch⟩ := hm.pitch
  obtain ⟨roll, hroll⟩ := hm.roll
  obtain ⟨gy, hgy⟩ := hm.gy
  obtain ⟨gz, hgz⟩ := hm.gz
  -- a value beyond the negative threshold reaches the threshold with its magnitude
  have hbeyond (x : ExtendedNumber ℚ) (hx : x.le c.tiltThresholdDeg.value.neg = true) :
      c.tiltThresholdDeg.value.le x.abs = true := by
    have hneg : c.tiltThresholdDeg.value.le x.neg = true := by
      rwa [← ExtendedNumber.neg_le_neg, ExtendedNumber.neg_neg]
    rwa [← ExtendedNumber.abs_neg, h.tilt_passes.abs_eq _ _ hneg]
  have hreaches (x : ExtendedNumber ℚ) (hx : c.tiltThresholdDeg.value.le x = true) :
      x = x.abs ∧ c.tiltThresholdDeg.value.le x.abs = true := by
    rw [h.tilt_passes.abs_eq _ x hx]
    exact ⟨rfl, hx⟩
  unfold recognise
  rw [hfactor]
  dsimp only
  split_ifs with hwave hgzReach hgyReach hright hleft hforward hbackward hhold
  · exact ⟨_, rfl, confident_round .wave 0.9 (by decide) (by norm_num) (by norm_num)⟩
  · exact confident_of_scored _ _ _ _ _ (by decide) hrotation hbounds hgz hgzReach
  · refine confident_of_scored _ _ _ _ _ ?_ h.flick_passes hbounds hgy hgyReach
    unfold flickSide
    split_ifs <;> decide
  · obtain ⟨habs, hreach⟩ := hreaches _ hright
    rw [habs]
    exact confident_of_scored _ _ _ _ _ (by decide) h.tilt_passes (by norm_num) hroll hreach
  · exact confident_of_scored _ _ _ _ _ (by decide) h.tilt_passes (by norm_num) hroll
      (hbeyond _ hleft)
  · obtain ⟨habs, hreach⟩ := hreaches _ hforward
    rw [habs]
    exact confident_of_scored _ _ _ _ _ (by decide) h.tilt_passes (by norm_num) hpitch hreach
  · exact confident_of_scored _ _ _ _ _ (by decide) h.tilt_passes (by norm_num) hpitch
      (hbeyond _ hbackward)
  · exact ⟨_, rfl, confident_round .hold 0.7 (by decide) (by norm_num) (by norm_num)⟩
  · exact ⟨_, rfl, 0, rfl, le_rfl, zero_le_one, iff_of_true rfl rfl⟩

/-- The signed fields that the classifier reads, each with a negative that fits as well. -/
structure Reversible (telemetry : GloveTelemetry) : Prop where
  pitch : |telemetry.pitchCdeg| ≤ 32767
  roll : |telemetry.rollCdeg| ≤ 32767
  gyroX : |telemetry.gyroXCdegS| ≤ 32767
  gyroY : |telemetry.gyroYCdegS| ≤ 32767
  gyroZ : |telemetry.gyroZCdegS| ≤ 32767

theorem measured_ofTelemetry (telemetry : GloveTelemetry) (h : Reversible telemetry) :
    (Motion.ofTelemetry telemetry).Measured :=
  ⟨centidegrees_measures _ (h.pitch.trans (by norm_num)),
    centidegrees_measures _ (h.roll.trans (by norm_num)),
    centidegrees_measures _ (h.gyroY.trans (by norm_num)),
    centidegrees_measures _ (h.gyroZ.trans (by norm_num))⟩

/-- An observation that is made, with a confidence as it should be. -/
def Sound (outcome : Except ZeroDivisionError GestureObservation) : Prop :=
  ∃ observation, outcome = .ok observation ∧
    Confident (observation.gesture, observation.confidence)

theorem observations_sound (c : MotionGestureClassifier) (h : c.SeesBothHands)
    (hrotation : PassesPositive c.rotationThresholdDegS.value)
    (inputs : List (GloveTelemetry × Bool)) (hinputs : ∀ input ∈ inputs, Reversible input.1) :
    ∀ outcome ∈ c.observations inputs, Sound outcome := by
  unfold observations
  induction inputs generalizing c with
  | nil => exact fun _ h => absurd h List.not_mem_nil
  | cons input rest ih =>
    rw [trace_cons, List.map_cons, List.forall_mem_cons]
    rw [List.forall_mem_cons] at hinputs
    refine ⟨?_, ih _ ⟨h.tilt_passes, h.flick_passes⟩ hrotation hinputs.2⟩
    obtain ⟨result, hrecognise, hconfident⟩ :=
      recognise_confident (c.appendRoll (Motion.ofTelemetry input.1).roll)
        ⟨h.tilt_passes, h.flick_passes⟩ hrotation _ (measured_ofTelemetry input.1 hinputs.1)
    have hclassify : ∃ observation, (c.classify input).2 = .ok observation ∧
        (observation.gesture, observation.confidence) = result := by
      unfold classify
      dsimp only
      rw [hrecognise]
      exact ⟨_, rfl, rfl⟩
    obtain ⟨observation, hobserved, rfl⟩ := hclassify
    exact ⟨observation, hobserved, hconfident⟩

/-- What the constructor has checked: the tilt threshold; and the others as well, unless the
tilt threshold is NaN, which hides them from its `min`. -/
theorem new_checks (tilt flick rotation hold : Binary64.Number) (window : ℤ)
    (c : MotionGestureClassifier) (h : new tilt flick rotation hold window = .ok c) :
    PassesPositive tilt.value ∧
      (tilt.value ≠ nan → PassesPositive flick.value ∧ PassesPositive rotation.value) ∧
      4 ≤ window ∧
      c = ⟨tilt, flick, rotation, hold, window.toNat, []⟩ := by
  unfold new at h
  split_ifs at h with hmin hrest
  rw [not_or, not_lt] at hrest
  have hnot (x : ExtendedNumber ℚ) (hx : x.le (finite 0) = true →
      ((tilt.value.min flick.value).min rotation.value).le (finite 0) = true) :
      PassesPositive x := by
    unfold PassesPositive
    rw [← Bool.not_eq_true]
    exact fun hle => hmin (hx hle)
  refine ⟨hnot _ fun hle => ?_, fun hnan => ⟨hnot _ fun hle => ?_, hnot _ fun hle => ?_⟩,
    hrest.2, (Except.ok.inj h).symm⟩
  -- `min` keeps its first argument unless the other is less, and nothing is less than NaN
  · exact ExtendedNumber.min_le_of_left _ _ _ (ExtendedNumber.min_le_of_left _ _ _ hle)
  · exact ExtendedNumber.min_le_of_left _ _ _ (ExtendedNumber.min_le_of_right _ _ _ hnan hle)
  · refine ExtendedNumber.min_le_of_right _ _ _ ?_ hle
    unfold ExtendedNumber.min
    split_ifs with hless
    · intro hflick
      rw [hflick] at hless
      cases htilt : tilt.value <;> rw [htilt] at hless <;> cases hless
    · exact hnan

/-- A glove that lies still. -/
def stillTelemetry : GloveTelemetry := ⟨0, 0, 0, 0, 0, 0, 0, 0, 0, 0, 0⟩

theorem centidegrees_zero : centidegrees 0 = finite 0 := by
  unfold centidegrees
  rw [Binary64.div_hundred 0 (by norm_num), Int.cast_zero, zero_div, Binary64.nearest_zero]

theorem div_zero_left (y : ExtendedNumber ℚ) (hy : y ≠ nan) :
    Binary64.div (finite 0) y = finite 0 := by
  cases y with
  | finite b =>
    change Binary64.round (0/b) = finite 0
    rw [zero_div, Binary64.round_zero]
  | infinity | negInfinity => rfl
  | nan => exact absurd rfl hy

theorem mul_ne_nan (x : ExtendedNumber ℚ) (factor : ℚ) (hx : x.le (finite 0) = true)
    (hfactor : 1 ≤ factor) : Binary64.mul x (finite factor) ≠ nan := by
  have hne : factor ≠ 0 := by linarith
  cases x with
  | finite q =>
    change Binary64.round (q*factor) ≠ nan
    unfold Binary64.round
    split_ifs <;> exact nofun
  | infinity => cases hx
  | negInfinity =>
    change (if (false || decide (factor = 0)) then nan
      else Binary64.signedInfinity (true != decide (factor < 0))) ≠ nan
    rw [decide_eq_false hne]
    cases decide (factor < 0) <;> exact nofun
  | nan => cases hx

/-- A threshold that is not positive is reached at rest, with no confidence at all. -/
theorem scored_at_rest (gesture : GestureType) (threshold : ExtendedNumber ℚ)
    (h : threshold.le (finite 0) = true) (result : GestureType × ExtendedNumber ℚ)
    (hscored : scored gesture (finite 0) threshold (Binary64.round 1.8) = .ok result) :
    result = (gesture, finite 0) := by
  obtain ⟨factor, hfactor, hone, _⟩ := round_18
  rw [hfactor] at hscored
  simp only [scored, ratio, truediv, bind_eq_ok_iff, pure_eq_ok_iff] at hscored
  obtain ⟨_, ⟨quotient, hquotient, rfl⟩, rfl⟩ := hscored
  split_ifs at hquotient
  rw [← Except.ok.inj hquotient, div_zero_left _ (mul_ne_nan threshold factor h hone)]
  rfl

theorem not_sound_at_rest (c : MotionGestureClassifier) (hhistory : c.rollHistory = [])
    (hwindow : 4 ≤ c.waveWindow) (h : ¬ (PassesPositive c.flickThresholdDegS.value ∧
      PassesPositive c.rotationThresholdDegS.value)) :
    ¬ Sound (c.classify (stillTelemetry, false)).2 := by
  have hmotion : (Motion.ofTelemetry stillTelemetry).gy = finite 0 ∧
      (Motion.ofTelemetry stillTelemetry).gz = finite 0 := ⟨centidegrees_zero, centidegrees_zero⟩
  -- one sample does not fill the window of a wave
  have hwave (roll : ExtendedNumber ℚ) : ¬ (c.appendRoll roll).isWave = true := by
    have hlength : (c.appendRoll roll).rollHistory.length < (c.appendRoll roll).waveWindow := by
      unfold appendRoll
      rw [hhistory, List.length_drop]
      change 1-(1-c.waveWindow) < c.waveWindow
      omega
    unfold isWave
    rw [if_pos hlength]
    decide
  rintro ⟨observation, hobserved, confidence, hconfidence, _, _, hzero⟩
  unfold classify at hobserved
  simp only [bind_eq_ok_iff, pure_eq_ok_iff] at hobserved
  obtain ⟨⟨gesture, score⟩, hrecognise, rfl⟩ := hobserved
  unfold recognise at hrecognise
  dsimp only at hrecognise hconfidence hzero
  rw [if_neg (hwave _), hmotion.1, hmotion.2, ExtendedNumber.abs, abs_zero] at hrecognise
  have hcontradiction (moving : GestureType) (hmoving : moving ≠ .unknown)
      (hresult : (gesture, score) = (moving, finite 0)) : False := by
    obtain ⟨rfl, rfl⟩ := Prod.mk.inj hresult
    exact hmoving (hzero.mp (ExtendedNumber.finite.inj hconfidence).symm)
  -- the rotation is tested before the flick
  by_cases hrotation : c.rotationThresholdDegS.value.le (finite 0) = true
  · rw [if_pos (by exact hrotation)] at hrecognise
    exact hcontradiction .rotation (by decide) (scored_at_rest _ _ hrotation _ hrecognise)
  · have hflick : c.flickThresholdDegS.value.le (finite 0) = true := by
      rw [← Bool.not_eq_false]
      exact fun hflick => h ⟨hflick, Bool.eq_false_of_not_eq_true hrotation⟩
    rw [if_neg (by exact hrotation), if_pos (by exact hflick)] at hrecognise
    exact hcontradiction (flickSide (finite 0)) (by decide) (scored_at_rest _ _ hflick _ hrecognise)

/-- A configuration that the constructor accepts treats left and right alike in every trace, with
proper confidences, exactly if its flick and rotation thresholds are positive, or NaN. -/
theorem mirror_symmetric_iff (tilt flick rotation hold : Binary64.Number) (window : ℤ)
    (c : MotionGestureClassifier) (hnew : new tilt flick rotation hold window = .ok c) :
    (∀ inputs : List (GloveTelemetry × Bool), (∀ input ∈ inputs, Reversible input.1) →
      List.Forall₂ Mirrored (c.observations inputs) (c.observations (inputs.map mirrorInput)) ∧
      ∀ outcome ∈ c.observations inputs, Sound outcome) ↔
    PassesPositive flick.value ∧ PassesPositive rotation.value := by
  obtain ⟨htilt, -, hwindow, rfl⟩ := new_checks tilt flick rotation hold window c hnew
  constructor
  · intro hall
    by_contra hnot
    have hstill : Reversible stillTelemetry := by constructor <;> decide
    have hsound := (hall [(stillTelemetry, false)] (List.forall_mem_singleton.mpr hstill)).2
    exact not_sound_at_rest _ rfl (by dsimp only; omega) hnot (hsound _ List.mem_cons_self)
  · rintro ⟨hflick, hrotation⟩ inputs hinputs
    exact ⟨observations_mirror _ ⟨htilt, hflick⟩ inputs,
      observations_sound _ ⟨htilt, hflick⟩ hrotation inputs hinputs⟩

theorem passesPositive_ofInt (n : ℤ) (h : |n| ≤ 2^52) (hn : 0 < n) :
    PassesPositive (Binary64.Number.ofInt n h).value :=
  decide_eq_false (not_le.mpr (by exact_mod_cast hn))

/-- A tilt of 18 degrees to the right. -/
def tiltedTelemetry : GloveTelemetry := { stillTelemetry with rollCdeg := 1800 }

/-- A flick of 120 degrees a second, 20 ms later. -/
def flickedTelemetry : GloveTelemetry :=
  { stillTelemetry with deviceTimeMsMod := 20, gyroYCdegS := 12000 }

def flickedInputs : List (GloveTelemetry × Bool) :=
  [(tiltedTelemetry, true), (flickedTelemetry, true), (tiltedTelemetry, false)]

theorem flickedInputs_reversible : ∀ input ∈ flickedInputs, Reversible input.1 := by
  have htilted : Reversible tiltedTelemetry := by constructor <;> decide
  have hflicked : Reversible flickedTelemetry := by constructor <;> decide
  unfold flickedInputs
  simp only [List.forall_mem_cons]
  exact ⟨htilted, hflicked, htilted, List.forall_mem_nil _⟩

theorem mirror_symmetric_default :
    List.Forall₂ Mirrored (default.observations flickedInputs)
      (default.observations (flickedInputs.map mirrorInput)) := by
  have hall := (mirror_symmetric_iff default.tiltThresholdDeg default.flickThresholdDegS
    default.rotationThresholdDegS default.holdRateDegS 8 default rfl).mpr
    ⟨passesPositive_ofInt 110 (by norm_num) (by norm_num),
      passesPositive_ofInt 90 (by norm_num) (by norm_num)⟩
  exact (hall flickedInputs flickedInputs_reversible).1

def notANumber : Binary64.Number where
  value := nan
  exact_eq := by
    intro q hq
    cases hq

def minusFive : Binary64.Number := .ofInt (-5) (by norm_num)

/-- A tilt threshold of NaN hides a flick threshold of -5 deg/s: the glove at rest flicks. -/
theorem nan_tilt_hides_flick : ∃ c, new notANumber minusFive default.rotationThresholdDegS
    default.holdRateDegS 8 = .ok c ∧
      ¬ ∀ outcome ∈ c.observations [(stillTelemetry, false)], Sound outcome := by
  refine ⟨_, rfl, ?_⟩
  intro hsound
  refine not_sound_at_rest _ rfl (by decide) ?_ (hsound _ List.mem_cons_self)
  intro hpasses
  have := hpasses.1
  cases this

end MotionGestureClassifier
end RoboticCharacter.Gesture
