import Mathlib.Data.Sign.Basic
import RoboticCharacter.AuditTamper
import RoboticCharacter.HilEvidence

/-! The host's readiness gate for the first physical single-servo run: which checks it makes, the
permit that it gives, and what the permit says about the targets the robot MCU lets through. -/
namespace RoboticCharacter.Hil
open Fallible Pydantic PythonJson
open ExtendedNumber (finite)

/-- What the gate reads of a joint of `servos.joints`. -/
structure JointWiring where
  channel : ℤ
  protocolId : Option ℤ := none

/-- What the gate reads of `settings.servos`. -/
structure ServoWiring (φ : Type) where
  joints : List (String × JointWiring)
  driver : String
  pwmFrequencyHz : φ

inductive HilGateReason
  | configJointMissing
  | configProtocolIdMissing
  | configProtocolIdMismatch
  | configChannelMismatch
  | configDriverMismatch
  | configPwmFrequencyMismatch
  | commonGroundUnverified
  | actuatorLogicRailsNotSeparate
  | independentEstopUnverified
  | powerCutUnverified
  | servoNotSecured
  | loadPathNotClear
  | manualRangeUnverified
  | hardStopClearanceUnverified
  deriving DecidableEq, Repr

namespace HilGateReason

def value : HilGateReason → String
  | configJointMissing => "config_joint_missing"
  | configProtocolIdMissing => "config_protocol_id_missing"
  | configProtocolIdMismatch => "config_protocol_id_mismatch"
  | configChannelMismatch => "config_channel_mismatch"
  | configDriverMismatch => "config_driver_mismatch"
  | configPwmFrequencyMismatch => "config_pwm_frequency_mismatch"
  | commonGroundUnverified => "common_ground_unverified"
  | actuatorLogicRailsNotSeparate => "actuator_logic_rails_not_separate"
  | independentEstopUnverified => "independent_estop_unverified"
  | powerCutUnverified => "power_cut_unverified"
  | servoNotSecured => "servo_not_secured"
  | loadPathNotClear => "load_path_not_clear"
  | manualRangeUnverified => "manual_range_unverified"
  | hardStopClearanceUnverified => "hard_stop_clearance_unverified"

/-- The reasons in the order of their checks. -/
def all : List HilGateReason :=
  [configJointMissing, configProtocolIdMissing, configProtocolIdMismatch, configChannelMismatch,
    configDriverMismatch, configPwmFrequencyMismatch, commonGroundUnverified,
    actuatorLogicRailsNotSeparate, independentEstopUnverified, powerCutUnverified,
    servoNotSecured, loadPathNotClear, manualRangeUnverified, hardStopClearanceUnverified]

end HilGateReason

structure HilActivationPermit (φ : Type) where
  evidenceSha256 : String
  jointName : String
  channel : ℤ
  protocolId : ℤ
  lowerAngleDeg : φ
  neutralAngleDeg : φ
  upperAngleDeg : φ
  lowerPulseUs : ℤ
  neutralPulseUs : ℤ
  upperPulseUs : ℤ
  testLowerAngleDeg : φ
  testUpperAngleDeg : φ
  maxTestStepDeg : φ

structure HilGateDecision (φ : Type) where
  approved : Bool
  reasons : List HilGateReason
  permit : Option (HilActivationPermit φ) := none

/-- The reason, unless its check is passed. -/
def failedUnless (passed : Bool) (reason : HilGateReason) : List HilGateReason :=
  if passed then [] else [reason]

section Gate
variable {φ δ : Type} [FloatValue φ]

/-- A float that `allow_inf_nan=False` admits. -/
def finiteFloat (name : String) (x : φ) : Validated Unit :=
  bounded name ((FloatValue.value x).isFinite = true)

def HilActivationPermit.validate (permit : HilActivationPermit φ) : Validated Unit :=
  collect [bounded "evidence_sha256" (isSha256 permit.evidenceSha256 = true),
    bounded "channel" (0 ≤ permit.channel ∧ permit.channel ≤ 15),
    bounded "protocol_id" (1 ≤ permit.protocolId ∧ permit.protocolId ≤ 255),
    finiteFloat "lower_angle_deg" permit.lowerAngleDeg,
    finiteFloat "neutral_angle_deg" permit.neutralAngleDeg,
    finiteFloat "upper_angle_deg" permit.upperAngleDeg,
    bounded "lower_pulse_us" (0 < permit.lowerPulseUs),
    bounded "neutral_pulse_us" (0 < permit.neutralPulseUs),
    bounded "upper_pulse_us" (0 < permit.upperPulseUs),
    finiteFloat "test_lower_angle_deg" permit.testLowerAngleDeg,
    finiteFloat "test_upper_angle_deg" permit.testUpperAngleDeg,
    positiveFloat "max_test_step_deg" permit.maxTestStepDeg]

/-- The permit's fields of a calibration. -/
def CalibrationEvidence.permit (c : CalibrationEvidence φ) (evidenceSha256 : String) :
    HilActivationPermit φ where
  evidenceSha256
  jointName := c.jointName
  channel := c.channel
  protocolId := c.protocolId
  lowerAngleDeg := c.lowerAngleDeg
  neutralAngleDeg := c.neutralAngleDeg
  upperAngleDeg := c.upperAngleDeg
  lowerPulseUs := c.lowerPulseUs
  neutralPulseUs := c.neutralPulseUs
  upperPulseUs := c.upperPulseUs
  testLowerAngleDeg := c.testLowerAngleDeg
  testUpperAngleDeg := c.testUpperAngleDeg
  maxTestStepDeg := c.maxTestStepDeg

namespace ServoWiring

/-- The checks against the configured joint. -/
def jointReasons (settings : ServoWiring φ) (calibration : CalibrationEvidence φ) :
    List HilGateReason :=
  match settings.joints.lookup calibration.jointName with
  | none => [.configJointMissing]
  | some joint =>
    (match joint.protocolId with
      | none => [.configProtocolIdMissing]
      | some protocolId =>
        failedUnless (decide (protocolId = calibration.protocolId)) .configProtocolIdMismatch) ++
      failedUnless (decide (joint.channel = calibration.channel)) .configChannelMismatch

/-- The other checks, each with whether it is passed. -/
def checks (settings : ServoWiring φ) (evidence : SingleServoHilEvidence φ δ) :
    List (Bool × HilGateReason) :=
  [(settings.driver = evidence.calibration.driver, .configDriverMismatch),
    ((FloatValue.value settings.pwmFrequencyHz).eq
      (FloatValue.value evidence.calibration.pwmFrequencyHz), .configPwmFrequencyMismatch),
    (evidence.electrical.commonGroundVerified, .commonGroundUnverified),
    (evidence.electrical.actuatorLogicRailsSeparate, .actuatorLogicRailsNotSeparate),
    (evidence.electrical.independentEstopVerified, .independentEstopUnverified),
    (evidence.electrical.powerCutVerified, .powerCutUnverified),
    (evidence.mechanical.servoSecured, .servoNotSecured),
    (evidence.mechanical.loadPathClear, .loadPathNotClear),
    (evidence.mechanical.manualRangeCheckVerified, .manualRangeUnverified),
    (evidence.mechanical.hardStopClearanceVerified, .hardStopClearanceUnverified)]

def reasons (settings : ServoWiring φ) (evidence : SingleServoHilEvidence φ δ) :
    List HilGateReason :=
  settings.jointReasons evidence.calibration ++
    (settings.checks evidence).flatMap fun check => failedUnless check.1 check.2

end ServoWiring

/-- `none` where the digest or the permit's own model raises. -/
def ServoWiring.evaluate [EvidenceTime δ] (settings : ServoWiring φ)
    (evidence : SingleServoHilEvidence φ δ) :
    Option (HilGateDecision φ) :=
  let reasons := settings.reasons evidence
  if reasons ≠ [] then some { approved := false, reasons }
  else
    (evidenceDigest evidence).bind fun digest =>
      let permit := evidence.calibration.permit digest
      match permit.validate with
      | .error _ => none
      | .ok _ => some { approved := true, reasons := [], permit := some permit }

/-! ### Decisions -/

/-- The check that a reason stands for is not passed. -/
def HilGateReason.Fails (settings : ServoWiring φ) (evidence : SingleServoHilEvidence φ δ) :
    HilGateReason → Prop
  | configJointMissing => settings.joints.lookup evidence.calibration.jointName = none
  | configProtocolIdMissing => ∃ joint,
      settings.joints.lookup evidence.calibration.jointName = some joint ∧ joint.protocolId = none
  | configProtocolIdMismatch => ∃ joint,
      settings.joints.lookup evidence.calibration.jointName = some joint ∧
        ∃ protocolId, joint.protocolId = some protocolId ∧
          protocolId ≠ evidence.calibration.protocolId
  | configChannelMismatch => ∃ joint,
      settings.joints.lookup evidence.calibration.jointName = some joint ∧
        joint.channel ≠ evidence.calibration.channel
  | configDriverMismatch => settings.driver ≠ evidence.calibration.driver
  | configPwmFrequencyMismatch => (FloatValue.value settings.pwmFrequencyHz).eq
      (FloatValue.value evidence.calibration.pwmFrequencyHz) = false
  | commonGroundUnverified => evidence.electrical.commonGroundVerified = false
  | actuatorLogicRailsNotSeparate => evidence.electrical.actuatorLogicRailsSeparate = false
  | independentEstopUnverified => evidence.electrical.independentEstopVerified = false
  | powerCutUnverified => evidence.electrical.powerCutVerified = false
  | servoNotSecured => evidence.mechanical.servoSecured = false
  | loadPathNotClear => evidence.mechanical.loadPathClear = false
  | manualRangeUnverified => evidence.mechanical.manualRangeCheckVerified = false
  | hardStopClearanceUnverified => evidence.mechanical.hardStopClearanceVerified = false

theorem failedUnless_sublist (passed : Bool) (reason : HilGateReason) :
    (failedUnless passed reason).Sublist [reason] := by
  cases passed with
  | true => exact List.nil_sublist _
  | false => exact List.Sublist.refl _

theorem mem_failedUnless {passed : Bool} {reason other : HilGateReason} :
    other ∈ failedUnless passed reason ↔ other = reason ∧ passed = false := by
  cases passed with
  | true => exact ⟨fun h => absurd h List.not_mem_nil, fun h => Bool.noConfusion h.2⟩
  | false => exact List.mem_singleton.trans (and_iff_left rfl).symm

theorem checks_sublist (checks : List (Bool × HilGateReason)) :
    (checks.flatMap fun check => failedUnless check.1 check.2).Sublist (checks.map Prod.snd) := by
  induction checks with
  | nil => exact List.nil_sublist _
  | cons check rest ih => exact (failedUnless_sublist check.1 check.2).append ih

variable (settings : ServoWiring φ)

omit [FloatValue φ] in
theorem jointReasons_sublist (calibration : CalibrationEvidence φ) :
    (settings.jointReasons calibration).Sublist
      [.configJointMissing, .configProtocolIdMissing, .configProtocolIdMismatch,
        .configChannelMismatch] := by
  unfold ServoWiring.jointReasons
  cases settings.joints.lookup calibration.jointName with
  | none => exact (List.nil_sublist _).cons_cons _
  | some joint =>
    dsimp only
    have hchannel := failedUnless_sublist (decide (joint.channel = calibration.channel))
      .configChannelMismatch
    cases joint.protocolId with
    | none => exact ((hchannel.cons _).cons_cons _).cons _
    | some protocolId =>
      exact (((failedUnless_sublist _ _).append hchannel).cons _).cons _

variable (evidence : SingleServoHilEvidence φ δ)

/-- The reasons come in the order of the checks, each once. -/
theorem reasons_sublist : (settings.reasons evidence).Sublist HilGateReason.all :=
  (jointReasons_sublist settings evidence.calibration).append
    (checks_sublist (settings.checks evidence))

theorem mem_jointReasons (reason : HilGateReason) :
    reason ∈ settings.jointReasons evidence.calibration ↔
      reason ∈ [HilGateReason.configJointMissing, .configProtocolIdMissing,
        .configProtocolIdMismatch, .configChannelMismatch] ∧
      reason.Fails settings evidence := by
  have hsub := (jointReasons_sublist settings evidence.calibration).subset
  refine ⟨fun h => ⟨hsub h, ?_⟩, ?_⟩
  · have hlisted := hsub h
    revert h
    unfold ServoWiring.jointReasons
    cases hjoint : settings.joints.lookup evidence.calibration.jointName with
    | none =>
      intro h
      rw [List.mem_singleton.mp h]
      exact hjoint
    | some joint =>
      intro h
      rcases List.mem_append.mp h with hid | hchannel
      · cases hprotocol : joint.protocolId with
        | none =>
          rw [hprotocol] at hid
          rw [List.mem_singleton.mp hid]
          exact ⟨joint, hjoint, hprotocol⟩
        | some protocolId =>
          rw [hprotocol] at hid
          obtain ⟨rfl, hne⟩ := mem_failedUnless.mp hid
          exact ⟨joint, hjoint, protocolId, hprotocol, of_decide_eq_false hne⟩
      · obtain ⟨rfl, hne⟩ := mem_failedUnless.mp hchannel
        exact ⟨joint, hjoint, of_decide_eq_false hne⟩
  · rintro ⟨hlisted, hfails⟩
    unfold ServoWiring.jointReasons
    cases reason with
    | configJointMissing =>
      rw [show settings.joints.lookup evidence.calibration.jointName = none from hfails]
      exact List.mem_singleton_self _
    | configProtocolIdMissing =>
      obtain ⟨joint, hjoint, hprotocol⟩ := hfails
      rw [hjoint]
      dsimp only
      rw [hprotocol]
      exact List.mem_append_left _ (List.mem_singleton_self _)
    | configProtocolIdMismatch =>
      obtain ⟨joint, hjoint, protocolId, hprotocol, hne⟩ := hfails
      rw [hjoint]
      dsimp only
      rw [hprotocol]
      exact List.mem_append_left _ (mem_failedUnless.mpr ⟨rfl, decide_eq_false hne⟩)
    | configChannelMismatch =>
      obtain ⟨joint, hjoint, hne⟩ := hfails
      rw [hjoint]
      exact List.mem_append_right _ (mem_failedUnless.mpr ⟨rfl, decide_eq_false hne⟩)
    | _ => exact absurd hlisted (by decide)

/-- The reasons are exactly those whose checks fail. -/
theorem mem_reasons (reason : HilGateReason) :
    reason ∈ settings.reasons evidence ↔ reason.Fails settings evidence := by
  have hjoint := mem_jointReasons settings evidence reason
  unfold ServoWiring.reasons ServoWiring.checks
  simp only [List.mem_append, hjoint, List.flatMap_cons, List.flatMap_nil, mem_failedUnless]
  cases reason <;> simp [HilGateReason.Fails]

/-- The permit of valid evidence is valid. -/
theorem permit_valid (c : CalibrationEvidence φ) (hvalid : c.validate = .ok ()) (digest : String)
    (hdigest : isSha256 digest = true) : (c.permit digest).validate = .ok () := by
  unfold CalibrationEvidence.validate at hvalid
  rw [check_eq_ok_iff, collect_eq_ok_iff] at hvalid
  have hfields := hvalid.1
  unfold ServoCalibrationEvidence.fieldChecks at hfields
  simp only [List.forall_mem_cons, List.not_mem_nil, false_imp_iff, implies_true,
    and_true] at hfields
  obtain ⟨_, _, _, _, hchannel, hprotocol, hlower, hneutral, hupper, hlowerPulse, hneutralPulse,
    hupperPulse, htestLower, htestUpper, hstep⟩ := hfields
  unfold HilActivationPermit.validate
  rw [collect_eq_ok_iff]
  simp only [List.forall_mem_cons, List.not_mem_nil, false_imp_iff, implies_true, and_true]
  exact ⟨(require_eq_ok_iff _ _ _).mpr hdigest, hchannel, hprotocol, hlower, hneutral, hupper,
    hlowerPulse, hneutralPulse, hupperPulse, htestLower, htestUpper, hstep⟩

variable [EvidenceTime δ]

theorem calibration_valid (hvalid : evidence.validate = .ok ()) :
    evidence.calibration.validate = .ok () := by
  unfold SingleServoHilEvidence.validate at hvalid
  rw [check_eq_ok_iff, collect_eq_ok_iff] at hvalid
  have hnested := hvalid.1 _ (List.mem_cons_of_mem _ List.mem_cons_self)
  exact (mapError_eq_ok_iff _ _ _).mp hnested

/-- What the gate answers: the reasons that there are, or the permit when there is none. -/
theorem evaluate_eq (hvalid : evidence.validate = .ok ()) :
    (settings.reasons evidence ≠ [] ∧ settings.evaluate evidence =
      some { approved := false, reasons := settings.reasons evidence }) ∨
    (settings.reasons evidence = [] ∧ ∃ text, evidenceText evidence = some text ∧
      settings.evaluate evidence = some
        { approved := true, reasons := [],
          permit := some (evidence.calibration.permit (Audit.textHash text).1) }) := by
  by_cases hreasons : settings.reasons evidence = []
  · right
    obtain ⟨text, htext, hdigest⟩ := evidenceDigest_eq evidence
    refine ⟨hreasons, text, htext, ?_⟩
    have hpermit := permit_valid _ (calibration_valid evidence hvalid) (Audit.textHash text).1
      (isSha256_hexdigest _)
    unfold ServoWiring.evaluate
    dsimp only
    rw [if_neg (not_not.mpr hreasons), hdigest, Option.bind_some]
    rw [show Sha256.hexdigest text.toUTF8.data.toList = (Audit.textHash text).1 from rfl, hpermit]
  · left
    refine ⟨hreasons, ?_⟩
    unfold ServoWiring.evaluate
    exact if_pos hreasons

/-- The permit that the gate gives on this evidence under these settings. -/
def Permits (settings : ServoWiring φ) (evidence : SingleServoHilEvidence φ δ)
    (permit : HilActivationPermit φ) : Prop :=
  evidence.validate = .ok () ∧ ∃ decision, settings.evaluate evidence = some decision ∧
    decision.permit = some permit

theorem Permits.eq {permit : HilActivationPermit φ} (h : Permits settings evidence permit) :
    settings.reasons evidence = [] ∧ ∃ text, evidenceText evidence = some text ∧
      permit = evidence.calibration.permit (Audit.textHash text).1 := by
  obtain ⟨hvalid, decision, hdecision, hpermit⟩ := h
  obtain ⟨_, hdenied⟩ | ⟨hreasons, text, htext, happroved⟩ :=
    evaluate_eq settings evidence hvalid
  · rw [hdenied] at hdecision
    rw [← Option.some.inj hdecision] at hpermit
    exact absurd hpermit nofun
  · rw [happroved] at hdecision
    rw [← Option.some.inj hdecision] at hpermit
    exact ⟨hreasons, text, htext, (Option.some.inj hpermit).symm⟩

/-- The gate decides on all evidence that validates. Its reasons are those whose checks fail, in
the order of the checks; it approves when there is none, and only then there is a permit. That is a
valid one, with the measured values and with the digest of this evidence and no other. -/
theorem hil_gate_binds_permit (hvalid : evidence.validate = .ok ()) :
    ∃ decision, settings.evaluate evidence = some decision ∧
      decision.reasons.Sublist HilGateReason.all ∧
      (∀ reason, reason ∈ decision.reasons ↔ reason.Fails settings evidence) ∧
      (decision.approved = true ↔ ∀ reason : HilGateReason, ¬ reason.Fails settings evidence) ∧
      decision.approved = decision.permit.isSome ∧
      ∀ permit, decision.permit = some permit → permit.validate = .ok () ∧
        ∃ text, evidenceText evidence = some text ∧
          permit = evidence.calibration.permit (Audit.textHash text).1 ∧
          ∀ otherSettings (other : SingleServoHilEvidence φ δ) otherPermit otherText,
            Permits otherSettings other otherPermit → evidenceText other = some otherText →
            Audit.CollisionFree [otherText, text] →
            otherPermit.evidenceSha256 = permit.evidenceSha256 →
              other = evidence ∧ otherPermit = permit := by
  have hnone : settings.reasons evidence = [] ↔
      ∀ reason : HilGateReason, ¬ reason.Fails settings evidence := by
    rw [List.eq_nil_iff_forall_not_mem]
    exact forall_congr' fun reason => not_congr (mem_reasons settings evidence reason)
  obtain ⟨hreasons, hdenied⟩ | ⟨hreasons, text, htext, happroved⟩ :=
    evaluate_eq settings evidence hvalid
  · refine ⟨_, hdenied, reasons_sublist settings evidence, mem_reasons settings evidence, ?_, rfl,
      nofun⟩
    exact iff_of_false Bool.false_ne_true (fun h => hreasons (hnone.mpr h))
  · refine ⟨_, happroved, List.nil_sublist _, ?_, iff_of_true rfl (hnone.mp hreasons), rfl, ?_⟩
    · intro reason
      rw [← mem_reasons, hreasons]
    · intro permit hpermit
      rw [← Option.some.inj hpermit]
      refine ⟨permit_valid _ (calibration_valid evidence hvalid) _ (isSha256_hexdigest _), text,
        htext, rfl, ?_⟩
      intro otherSettings other otherPermit otherText hother hotherText hfree hsame
      obtain ⟨_, text', htext', rfl⟩ := hother.eq
      have hsameText : text' = otherText := Option.some.inj (htext'.symm.trans hotherText)
      rw [hsameText] at hsame ⊢
      have hequal : otherText = text :=
        hfree otherText (by simp) text (by simp) (Subtype.ext hsame)
      have hevidence : other = evidence := by
        apply evidenceText_injective
        rw [hotherText, htext, hequal]
      rw [hevidence, hequal]
      exact ⟨rfl, rfl⟩

end Gate

/-! A bench whose measurements are -1.0, 0.0 and 1.0. -/

def signText : SignType → List Char
  | .neg => ['-', '1', '.', '0']
  | .zero => ['0', '.', '0']
  | .pos => ['1', '.', '0']

instance : FloatValue SignType where
  text := signText
  parse text := [SignType.neg, .zero, .pos].find? fun x => signText x = text
  less x y := decide (x < y)
  lessInt x n := decide ((x : ℤ) < n)
  intLess n x := decide (n < (x : ℤ))
  text_literal x := by
    have hone : ∀ d ∈ ['1'], d.isDigit = true := List.all_eq_true.mp rfl
    have hzero : ∀ d ∈ ['0'], d.isDigit = true := List.all_eq_true.mp rfl
    have hfraction : ∃ ds, ['.', '0'] = '.' :: ds ∧ ds ≠ [] ∧ ∀ d ∈ ds, d.isDigit = true :=
      ⟨['0'], rfl, List.cons_ne_nil _ _, hzero⟩
    have hwhole : ∃ c ds, ['1'] = c :: ds ∧ c ≠ '0' ∧ ∀ d ∈ ['1'], d.isDigit = true :=
      ⟨'1', [], rfl, by decide, hone⟩
    cases x with
    | neg =>
      exact .number ⟨['-'], ['1'], ['.', '0'], []⟩
        ⟨.inr rfl, .inr hwhole, .inr hfraction, .inl rfl⟩ (.inl (List.cons_ne_nil _ _))
    | zero =>
      exact .number ⟨[], ['0'], ['.', '0'], []⟩
        ⟨.inl rfl, .inl rfl, .inr hfraction, .inl rfl⟩ (.inl (List.cons_ne_nil _ _))
    | pos =>
      exact .number ⟨[], ['1'], ['.', '0'], []⟩
        ⟨.inl rfl, .inr hwhole, .inr hfraction, .inl rfl⟩ (.inl (List.cons_ne_nil _ _))
  parse_text x := by cases x <;> decide
  value x := finite (x : ℤ)

instance : EvidenceTime String where
  timeText text := text
  timeText_injective := Function.injective_id
  aware text := decide (text.toList.getLast? = some 'Z')

def benchWiring : ServoWiring SignType where
  joints := [("base", ⟨0, some 1⟩)]
  driver := "PCA9685"
  pwmFrequencyHz := .pos

def benchArtifact (kind : EvidenceKind) : EvidenceReference :=
  ⟨kind, "evidence", String.ofList (List.replicate 64 'a')⟩

def benchEvidence : SingleServoHilEvidence SignType String where
  recordedAt := "2026-09-02T00:00:00Z"
  operator := "operator"
  calibration :=
    { jointName := "base", servoModel := "servo", driver := "PCA9685", pwmFrequencyHz := .pos,
      channel := 0, protocolId := 1, lowerAngleDeg := .neg, neutralAngleDeg := .zero,
      upperAngleDeg := .pos, lowerPulseUs := 1100, neutralPulseUs := 1500, upperPulseUs := 1900,
      testLowerAngleDeg := .neg, testUpperAngleDeg := .pos, maxTestStepDeg := .pos }
  electrical := ⟨.pos, .pos, .pos, true, true, true, true⟩
  mechanical := ⟨true, true, true, true⟩
  evidenceRefs := [benchArtifact .wiring, benchArtifact .measurement]

theorem hil_gate_binds_permit_bench :
    ∃ permit, Permits benchWiring benchEvidence permit ∧ permit.validate = .ok () ∧
      permit.jointName = "base" := by
  have hvalid : benchEvidence.validate = .ok () := by decide +kernel
  obtain ⟨decision, hdecision, _, hreasons, happroved, hissued, hpermit⟩ :=
    hil_gate_binds_permit benchWiring benchEvidence hvalid
  have hnone : benchWiring.reasons benchEvidence = [] := by decide +kernel
  have happrove : decision.approved = true := by
    rw [happroved]
    intro reason hfails
    rw [← mem_reasons, hnone] at hfails
    exact List.not_mem_nil hfails
  rw [hissued] at happrove
  obtain ⟨permit, hsome⟩ := Option.isSome_iff_exists.mp happrove
  obtain ⟨hvalidPermit, text, _, rfl, _⟩ := hpermit permit hsome
  exact ⟨_, ⟨hvalid, decision, hdecision, hsome⟩, hvalidPermit, rfl⟩

end RoboticCharacter.Hil
