import RoboticCharacter.Binary64
import RoboticCharacter.FirmwareHilGuard
import RoboticCharacter.PydanticModel

/-! The calibration of the servo under test as the host checks it, on the values that the firmware
is configured with. -/
namespace RoboticCharacter.Hil
open Fallible Pydantic
open ExtendedNumber (finite)

/-- The numeric fields of `ServoCalibrationEvidence`. -/
structure ServoCalibrationEvidence where
  pwmFrequencyHz : ExtendedNumber ℚ
  channel : ℤ
  protocolId : ℤ
  lowerAngleDeg : ExtendedNumber ℚ
  neutralAngleDeg : ExtendedNumber ℚ
  upperAngleDeg : ExtendedNumber ℚ
  lowerPulseUs : ℤ
  neutralPulseUs : ℤ
  upperPulseUs : ℤ
  testLowerAngleDeg : ExtendedNumber ℚ
  testUpperAngleDeg : ExtendedNumber ℚ
  maxTestStepDeg : ExtendedNumber ℚ

namespace ServoCalibrationEvidence

/-- The checks of the fields, with `allow_inf_nan=False`. -/
def fieldChecks (e : ServoCalibrationEvidence) : List (Validated Unit) :=
  [bounded "pwm_frequency_hz"
      (e.pwmFrequencyHz.isFinite = true ∧ (finite 0).lt e.pwmFrequencyHz = true),
    bounded "channel" (0 ≤ e.channel ∧ e.channel ≤ 15),
    bounded "protocol_id" (1 ≤ e.protocolId ∧ e.protocolId ≤ 255),
    bounded "lower_angle_deg" (e.lowerAngleDeg.isFinite = true),
    bounded "neutral_angle_deg" (e.neutralAngleDeg.isFinite = true),
    bounded "upper_angle_deg" (e.upperAngleDeg.isFinite = true),
    bounded "lower_pulse_us" (0 < e.lowerPulseUs),
    bounded "neutral_pulse_us" (0 < e.neutralPulseUs),
    bounded "upper_pulse_us" (0 < e.upperPulseUs),
    bounded "test_lower_angle_deg" (e.testLowerAngleDeg.isFinite = true),
    bounded "test_upper_angle_deg" (e.testUpperAngleDeg.isFinite = true),
    bounded "max_test_step_deg"
      (e.maxTestStepDeg.isFinite = true ∧ (finite 0).lt e.maxTestStepDeg = true)]

def validateRanges (e : ServoCalibrationEvidence) : Validated Unit := do
  require (e.lowerAngleDeg.lt e.neutralAngleDeg = true ∧
      e.neutralAngleDeg.lt e.upperAngleDeg = true)
    (valueError "measured angles must satisfy lower < neutral < upper")
  require (e.lowerPulseUs ≠ e.upperPulseUs)
    (valueError "measured pulse endpoints must be distinct")
  let pulseLow := min e.lowerPulseUs e.upperPulseUs
  let pulseHigh := max e.lowerPulseUs e.upperPulseUs
  require (pulseLow < e.neutralPulseUs ∧ e.neutralPulseUs < pulseHigh)
    (valueError "neutral pulse must lie strictly between measured pulse endpoints")
  require (e.lowerAngleDeg.le e.testLowerAngleDeg = true ∧
      e.testLowerAngleDeg.lt e.testUpperAngleDeg = true)
    (valueError "test lower angle must lie inside the measured angle range")
  require (e.testUpperAngleDeg.le e.upperAngleDeg = true)
    (valueError "test upper angle must lie inside the measured angle range")
  require (e.testLowerAngleDeg.le e.neutralAngleDeg = true ∧
      e.neutralAngleDeg.le e.testUpperAngleDeg = true)
    (valueError "neutral angle must lie inside the first-test envelope")
  require ((Binary64.sub e.testUpperAngleDeg e.testLowerAngleDeg).lt e.maxTestStepDeg = false)
    (valueError "max test step cannot exceed the first-test envelope width")

def validate (e : ServoCalibrationEvidence) : Validated Unit := do
  collect e.fieldChecks
  e.validateRanges

end ServoCalibrationEvidence

/-- An angle in degrees: an integer number of centidegrees divided by 100. -/
def degreesOf (cdeg : ℤ) : ExtendedNumber ℚ := Binary64.div (Binary64.round cdeg) (finite 100)

/-- The values of a calibration of the firmware. -/
def evidenceOf (pwmFrequencyHz : ExtendedNumber ℚ) (c : Firmware.SingleServoHilCalibration) :
    ServoCalibrationEvidence where
  pwmFrequencyHz
  channel := c.channel.toNat
  protocolId := c.protocolId.toNat
  lowerAngleDeg := degreesOf c.lowerCdeg.toInt
  neutralAngleDeg := degreesOf c.neutralCdeg.toInt
  upperAngleDeg := degreesOf c.upperCdeg.toInt
  lowerPulseUs := c.lowerPulseUs.toNat
  neutralPulseUs := c.neutralPulseUs.toNat
  upperPulseUs := c.upperPulseUs.toNat
  testLowerAngleDeg := degreesOf c.testLowerCdeg.toInt
  testUpperAngleDeg := degreesOf c.testUpperCdeg.toInt
  maxTestStepDeg := degreesOf c.maxStepCdeg.toNat

/-! Centidegrees as floating-point degrees. -/

theorem degreesOf_eq (n : ℤ) (h : |n| ≤ 65536) :
    degreesOf n = finite (Binary64.nearest (n/100)) :=
  Binary64.div_hundred n (h.trans (by norm_num))

theorem abs_degrees_sub_le (n : ℤ) (h : |n| ≤ 65536) :
    |Binary64.nearest ((n : ℚ)/100)-n/100| ≤ 2^(-43 : ℤ) := by
  have hn : |(n : ℚ)| ≤ 65536 := by exact_mod_cast h
  apply Binary64.abs_nearest_sub_le_zpow _ 10 (by norm_num)
  rw [abs_div, abs_of_pos (by norm_num : (0 : ℚ) < 100), div_le_iff₀ (by norm_num)]
  exact hn.trans (by norm_num)

/-- The degrees are in the order of the centidegrees. -/
theorem nearest_lt_iff (a b : ℤ) (ha : |a| ≤ 65536) (hb : |b| ≤ 65536) :
    Binary64.nearest ((a : ℚ)/100) < Binary64.nearest ((b : ℚ)/100) ↔ a < b := by
  have hnear := abs_le.mp (abs_degrees_sub_le a ha)
  have hnear' := abs_le.mp (abs_degrees_sub_le b hb)
  have hmono (x y : ℤ) (hxy : x < y) : (x : ℚ)/100+1/100 ≤ y/100 := by
    have hcast : (x : ℚ)+1 ≤ y := by exact_mod_cast hxy
    linarith
  norm_num at hnear hnear'
  constructor
  · intro hlt
    by_contra hge
    rcases (not_lt.mp hge).eq_or_lt with rfl | hgt
    · exact lt_irrefl _ hlt
    · linarith [hmono b a hgt]
  · intro hlt
    linarith [hmono a b hlt]

theorem degreesOf_lt (a b : ℤ) (ha : |a| ≤ 65536) (hb : |b| ≤ 65536) :
    (degreesOf a).lt (degreesOf b) = true ↔ a < b := by
  rw [degreesOf_eq a ha, degreesOf_eq b hb, ExtendedNumber.lt, decide_eq_true_iff,
    nearest_lt_iff a b ha hb]

theorem degreesOf_le (a b : ℤ) (ha : |a| ≤ 65536) (hb : |b| ≤ 65536) :
    (degreesOf a).le (degreesOf b) = true ↔ a ≤ b := by
  rw [degreesOf_eq a ha, degreesOf_eq b hb, ExtendedNumber.le, decide_eq_true_iff, ← not_lt,
    nearest_lt_iff b a hb ha, not_lt]

theorem degreesOf_zero : degreesOf 0 = finite 0 := by
  rw [degreesOf_eq 0 (by norm_num), Int.cast_zero, zero_div, Binary64.nearest_zero]

theorem degreesOf_isFinite (n : ℤ) (h : |n| ≤ 65536) : (degreesOf n).isFinite = true := by
  rw [degreesOf_eq n h]
  rfl

/-- The floating-point difference of the two angles is not below the width that it stands for. -/
def WidthKept (lowerCdeg upperCdeg : ℤ) : Prop :=
  Binary64.nearest (((upperCdeg-lowerCdeg : ℤ) : ℚ)/100) ≤
    Binary64.nearest (Binary64.nearest ((upperCdeg : ℚ)/100)-Binary64.nearest ((lowerCdeg : ℚ)/100))

instance (lowerCdeg upperCdeg : ℤ) : Decidable (WidthKept lowerCdeg upperCdeg) :=
  inferInstanceAs (Decidable (_ ≤ _))

section Width
variable (lower upper : ℤ) (hlower : |lower| ≤ 32768) (hupper : |upper| ≤ 32768)
include hlower hupper

/-- The computed width of an envelope, and how far it is from the true one. -/
theorem width_near : ∃ width : ℚ, width = Binary64.nearest
      (Binary64.nearest ((upper : ℚ)/100)-Binary64.nearest ((lower : ℚ)/100)) ∧
    Binary64.sub (degreesOf upper) (degreesOf lower) = finite width ∧
    |width-(upper-lower)/100| ≤ 3*2^(-43 : ℤ) := by
  have hnear := abs_degrees_sub_le lower (hlower.trans (by norm_num))
  have hnear' := abs_degrees_sub_le upper (hupper.trans (by norm_num))
  have hrange : |(lower : ℚ)| ≤ 32768 ∧ |(upper : ℚ)| ≤ 32768 :=
    ⟨by exact_mod_cast hlower, by exact_mod_cast hupper⟩
  rw [abs_le, abs_le] at hrange
  rw [abs_le] at hnear hnear'
  have hbound : |Binary64.nearest ((upper : ℚ)/100)-Binary64.nearest ((lower : ℚ)/100)| ≤
      2^(10 : ℤ) := by
    norm_num at hnear hnear' ⊢
    exact abs_le.mpr ⟨by linarith, by linarith⟩
  have hwidth := abs_le.mp (Binary64.abs_nearest_sub_le_zpow _ 10 (by norm_num) hbound)
  refine ⟨_, rfl, ?_, ?_⟩
  · rw [degreesOf_eq upper (hupper.trans (by norm_num)),
      degreesOf_eq lower (hlower.trans (by norm_num))]
    change Binary64.round (Binary64.nearest ((upper : ℚ)/100)+
      -Binary64.nearest ((lower : ℚ)/100)) = _
    rw [← sub_eq_add_neg]
    exact Binary64.round_eq_finite _ 10 (by norm_num) hbound
  · norm_num at hnear hnear' hwidth ⊢
    exact abs_le.mpr ⟨by linarith, by linarith⟩

/-- A step is refused for the width exactly if it is larger, or if it is the width itself and the
computed difference falls below it. -/
theorem step_le_width_iff (step : ℤ) (hstep : |step| ≤ 65536) :
    (Binary64.sub (degreesOf upper) (degreesOf lower)).lt (degreesOf step) = false ↔
      step ≤ upper-lower ∧ (step = upper-lower → WidthKept lower upper) := by
  obtain ⟨width, hwidth, hsub, hnear⟩ := width_near lower upper hlower hupper
  have hnear' := abs_le.mp (abs_degrees_sub_le step hstep)
  rw [abs_le] at hnear
  norm_num at hnear hnear'
  rw [hsub, degreesOf_eq step hstep, ExtendedNumber.lt, decide_eq_false_iff_not, not_lt]
  -- a difference of one centidegree is far above the rounding errors
  rcases lt_trichotomy step (upper-lower) with hlt | heq | hgt
  · have hcast : (step : ℚ)+1 ≤ upper-lower := by exact_mod_cast hlt
    exact iff_of_true (by linarith) ⟨hlt.le, fun h => absurd h hlt.ne⟩
  · rw [heq]
    unfold WidthKept
    rw [← hwidth]
    simp only [le_refl, true_and, forall_const]
  · have hcast : (upper : ℚ)-lower+1 ≤ step := by exact_mod_cast hgt
    exact iff_of_false (by linarith) (fun h => hgt.not_ge h.1)

end Width

/-! What both sides check. -/

/-- The inequalities that the two validators share, between the integers of the firmware. -/
structure Measured (c : Firmware.SingleServoHilCalibration) : Prop where
  protocolId : 0 < c.protocolId.toNat
  angles : c.lowerCdeg.toInt < c.neutralCdeg.toInt ∧ c.neutralCdeg.toInt < c.upperCdeg.toInt
  envelope : c.lowerCdeg.toInt ≤ c.testLowerCdeg.toInt ∧
    c.testLowerCdeg.toInt < c.testUpperCdeg.toInt ∧ c.testUpperCdeg.toInt ≤ c.upperCdeg.toInt
  neutral : c.testLowerCdeg.toInt ≤ c.neutralCdeg.toInt ∧
    c.neutralCdeg.toInt ≤ c.testUpperCdeg.toInt
  pulses : 0 < c.lowerPulseUs.toNat ∧ 0 < c.neutralPulseUs.toNat ∧ 0 < c.upperPulseUs.toNat
  between : min c.lowerPulseUs.toNat c.upperPulseUs.toNat < c.neutralPulseUs.toNat ∧
    c.neutralPulseUs.toNat < max c.lowerPulseUs.toNat c.upperPulseUs.toNat
  step_pos : 0 < c.maxStepCdeg.toNat
  step_le : (c.maxStepCdeg.toNat : ℤ) ≤ c.testUpperCdeg.toInt-c.testLowerCdeg.toInt

/-- The cast of a difference that is not negative loses nothing. -/
theorem testSpan_toNat (upper lower : Int16) (h : lower.toInt ≤ upper.toInt) :
    (((upper.toInt32-lower.toInt32).toUInt32.toUInt16.toNat : ℕ) : ℤ) =
      upper.toInt-lower.toInt := by
  have hdifference := Firmware.toInt_sub_toInt32 upper lower
  have hupper := upper.toInt_lt
  have hlower := lower.le_toInt
  have hpos : (0 : Int32) ≤ upper.toInt32-lower.toInt32 := by
    rw [Int32.le_iff_toInt_le, hdifference]
    change 0 ≤ _
    omega
  rw [UInt32.toNat_toUInt16, Int32.toNat_toUInt32_of_le hpos]
  change (((upper.toInt32-lower.toInt32).toInt.toNat % 2^16 : ℕ) : ℤ) = _
  rw [hdifference]
  omega

theorem validHilCalibration_iff (c : Firmware.SingleServoHilCalibration) :
    Firmware.validHilCalibration c = true ↔ Measured c := by
  have hlow : (if c.lowerPulseUs < c.upperPulseUs then c.lowerPulseUs else c.upperPulseUs).toNat =
      min c.lowerPulseUs.toNat c.upperPulseUs.toNat := by
    simp only [UInt16.lt_iff_toNat_lt]
    split_ifs <;> omega
  have hhigh : (if c.lowerPulseUs > c.upperPulseUs then c.lowerPulseUs else c.upperPulseUs).toNat =
      max c.lowerPulseUs.toNat c.upperPulseUs.toNat := by
    simp only [gt_iff_lt, UInt16.lt_iff_toNat_lt]
    split_ifs <;> omega
  have hspan := testSpan_toNat c.testUpperCdeg c.testLowerCdeg
  unfold Firmware.validHilCalibration
  simp only [Int16.lt_iff_toInt_lt, Int16.le_iff_toInt_le, UInt16.lt_iff_toNat_lt,
    UInt16.le_iff_toNat_le, ← UInt8.toNat_inj, ← UInt16.toNat_inj] at hlow hhigh ⊢
  rw [hlow, hhigh]
  constructor
  · intro h
    split_ifs at h with hid hangles henvelope hneutral hpulses hbetween
    have hstep := of_decide_eq_true h
    rw [not_or] at hid
    simp only [not_or] at hangles henvelope hneutral hpulses hbetween
    -- the pulses are compared unsigned, and the width after its cast
    refine ⟨Nat.pos_of_ne_zero hid.1, hangles, henvelope, hneutral,
      ⟨Nat.pos_of_ne_zero hpulses.1, Nat.pos_of_ne_zero hpulses.2.1,
        Nat.pos_of_ne_zero hpulses.2.2.1⟩, hbetween, Nat.pos_of_ne_zero hid.2, ?_⟩
    rw [← hspan henvelope.2.1.le]
    exact_mod_cast hstep
  · intro h
    have hdistinct := h.between
    have hid := h.protocolId.ne'
    have hstep := h.step_pos.ne'
    rw [if_neg (by rw [not_or]; exact ⟨hid, hstep⟩), if_neg (not_not.mpr h.angles),
      if_neg (not_not.mpr h.envelope), if_neg (not_not.mpr h.neutral), if_neg ?_,
      if_neg (not_not.mpr h.between)]
    · have hle := h.step_le
      rw [← hspan h.envelope.2.1.le] at hle
      exact decide_eq_true (by exact_mod_cast hle)
    · obtain ⟨hlower, hneutral, hupper⟩ := h.pulses
      change ¬ (c.lowerPulseUs.toNat = 0 ∨ c.neutralPulseUs.toNat = 0 ∨
        c.upperPulseUs.toNat = 0 ∨ c.lowerPulseUs.toNat = c.upperPulseUs.toNat)
      omega

theorem abs_toInt_le (x : Int16) : |x.toInt| ≤ 32768 :=
  abs_le.mpr ⟨x.le_toInt, x.toInt_lt.le⟩

theorem abs_toNat_le (x : UInt16) : |(x.toNat : ℤ)| ≤ 65536 := by
  rw [Nat.abs_cast]
  exact_mod_cast x.toNat_lt.le

/-- The host asks for the shared inequalities, for a channel of the driver, and that the step is
not above the width as it is computed. -/
theorem validate_evidenceOf_iff (pwmFrequencyHz : ExtendedNumber ℚ)
    (hpwm : pwmFrequencyHz.isFinite = true ∧ (finite 0).lt pwmFrequencyHz = true)
    (c : Firmware.SingleServoHilCalibration) :
    (evidenceOf pwmFrequencyHz c).validate = .ok () ↔ Measured c ∧ c.channel.toNat ≤ 15 ∧
      ((c.maxStepCdeg.toNat : ℤ) = c.testUpperCdeg.toInt-c.testLowerCdeg.toInt →
        WidthKept c.testLowerCdeg.toInt c.testUpperCdeg.toInt) := by
  have hangle (x : Int16) : |x.toInt| ≤ 65536 := (abs_toInt_le x).trans (by norm_num)
  have hlt (x y : Int16) := degreesOf_lt x.toInt y.toInt (hangle x) (hangle y)
  have hle (x y : Int16) := degreesOf_le x.toInt y.toInt (hangle x) (hangle y)
  have hfinite (x : Int16) := degreesOf_isFinite x.toInt (hangle x)
  have hstep := degreesOf_lt 0 c.maxStepCdeg.toNat (by norm_num) (abs_toNat_le _)
  rw [degreesOf_zero] at hstep
  have hprotocol := c.protocolId.toNat_lt
  have hwidth := step_le_width_iff c.testLowerCdeg.toInt c.testUpperCdeg.toInt (abs_toInt_le _)
    (abs_toInt_le _) c.maxStepCdeg.toNat (abs_toNat_le _)
  unfold ServoCalibrationEvidence.validate ServoCalibrationEvidence.validateRanges
    ServoCalibrationEvidence.fieldChecks evidenceOf bounded
  simp only [check_eq_ok_iff, collect_eq_ok_iff, List.forall_mem_cons, List.not_mem_nil,
    false_imp_iff, implies_true, and_true, require_eq_ok_iff, hlt, hle, hfinite, hpwm, hstep,
    degreesOf_isFinite _ (abs_toNat_le c.maxStepCdeg), hwidth, true_and]
  constructor
  · rintro ⟨⟨hchannel, hid, hlowerPulse, hneutralPulse, hupperPulse, hpositive⟩, hangles, _,
      hbetween, henvelope, hupper, hneutral, hle, hkept⟩
    refine ⟨⟨by omega, hangles, ⟨henvelope.1, henvelope.2, hupper⟩, hneutral, ⟨by omega, by omega,
      by omega⟩, by omega, by omega, hle⟩, by omega, hkept⟩
  · rintro ⟨h, hchannel, hkept⟩
    obtain ⟨hlowerPulse, hneutralPulse, hupperPulse⟩ := h.pulses
    have hbetween := h.between
    have hid := h.protocolId
    have hpositive := h.step_pos
    refine ⟨⟨by omega, by omega, by omega, by omega, by omega, by omega⟩, h.angles, by omega,
      by omega, ⟨h.envelope.1, h.envelope.2.1⟩, h.envelope.2.2, h.neutral, h.step_le, hkept⟩

/-- The two validators agree on a calibration exactly if it breaks an inequality that both check,
or else its channel is below 16 and, where the step is as wide as the envelope, the floating-point
width is not below it. -/
theorem hil_validators_agree_iff (pwmFrequencyHz : ExtendedNumber ℚ)
    (hpwm : pwmFrequencyHz.isFinite = true ∧ (finite 0).lt pwmFrequencyHz = true)
    (c : Firmware.SingleServoHilCalibration) :
    (Firmware.validHilCalibration c = true ↔ (evidenceOf pwmFrequencyHz c).validate = .ok ()) ↔
      (Measured c → c.channel.toNat ≤ 15 ∧
        ((c.maxStepCdeg.toNat : ℤ) = c.testUpperCdeg.toInt-c.testLowerCdeg.toInt →
          WidthKept c.testLowerCdeg.toInt c.testUpperCdeg.toInt)) := by
  rw [validHilCalibration_iff, validate_evidenceOf_iff pwmFrequencyHz hpwm c]
  exact iff_self_and

/-- A servo that was measured from -60 to 60 degrees, with a first envelope of 20 degrees. -/
def benchCalibration : Firmware.SingleServoHilCalibration where
  protocolId := 1
  channel := 0
  lowerCdeg := -6000
  neutralCdeg := 0
  upperCdeg := 6000
  lowerPulseUs := 1100
  neutralPulseUs := 1500
  upperPulseUs := 1900
  testLowerCdeg := -1000
  testUpperCdeg := 1000
  maxStepCdeg := 200

theorem hil_validators_agree_bench :
    Firmware.validHilCalibration benchCalibration = true ↔
      (evidenceOf (finite 50) benchCalibration).validate = .ok () :=
  (hil_validators_agree_iff (finite 50) (by decide) benchCalibration).mpr
    fun _ => ⟨by decide, fun h => absurd h (by decide)⟩

/-- The firmware accepts channel 16; and a step of 0.20 degrees in an envelope from 0.10 to 0.30,
whose computed width is less. -/
theorem hil_validators_disagree :
    (Firmware.validHilCalibration { benchCalibration with channel := 16 } = true ∧
      ¬ (evidenceOf (finite 50) { benchCalibration with channel := 16 }).validate = .ok ()) ∧
    (Firmware.validHilCalibration { benchCalibration with
        neutralCdeg := 20, testLowerCdeg := 10, testUpperCdeg := 30, maxStepCdeg := 20 } = true ∧
      ¬ (evidenceOf (finite 50) { benchCalibration with
        neutralCdeg := 20, testLowerCdeg := 10, testUpperCdeg := 30,
        maxStepCdeg := 20 }).validate = .ok ()) := by
  have hpwm : (finite (50 : ℚ)).isFinite = true ∧ (finite 0).lt (finite (50 : ℚ)) = true := by
    decide +kernel
  refine ⟨⟨by decide, ?_⟩, by decide, ?_⟩
  · rw [validate_evidenceOf_iff _ hpwm]
    exact fun h => absurd h.2.1 (by decide)
  · rw [validate_evidenceOf_iff _ hpwm]
    exact fun h => absurd (h.2.2 (by decide)) (by decide +kernel)

end RoboticCharacter.Hil
