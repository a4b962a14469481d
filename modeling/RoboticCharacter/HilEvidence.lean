import RoboticCharacter.AsciiJson
import RoboticCharacter.HilCalibration
import RoboticCharacter.Sha256

/-! The operator's evidence for the single-servo HIL gate, and the digest that a permit is bound
to it by. -/
namespace RoboticCharacter.Hil
open Fallible Pydantic PythonJson
open ExtendedNumber (finite)

/-- A float by the text that JSON has for it, and the number that it is compared as. -/
class FloatValue (φ : Type) extends PyFloat φ where
  value : φ → ExtendedNumber ℚ

/-- A datetime by the text that it has in JSON mode, and whether it has a time zone. -/
class EvidenceTime (δ : Type) where
  timeText : δ → String
  timeText_injective : Function.Injective timeText
  aware : δ → Bool

inductive EvidenceKind
  | wiring
  | measurement
  | photo
  | video
  | telemetry
  deriving DecidableEq, Repr

def EvidenceKind.value : EvidenceKind → String
  | wiring => "wiring"
  | measurement => "measurement"
  | photo => "photo"
  | video => "video"
  | telemetry => "telemetry"

/-- `^[0-9a-f]{64}$`. -/
def isSha256 (text : String) : Bool :=
  text.length = 64 && text.toList.all fun c => c.isDigit || ('a' ≤ c && c ≤ 'f')

/-- What a nested model refuses, with the field that it is in. -/
def nested (name : String) (check : Validated Unit) : Validated Unit :=
  check.mapError (List.map (ErrorDetails.within name))

structure EvidenceReference where
  kind : EvidenceKind
  uri : String
  sha256 : String
  deriving DecidableEq

def EvidenceReference.validate (reference : EvidenceReference) : Validated Unit :=
  collect [bounded "uri" (1 ≤ reference.uri.length),
    bounded "sha256" (isSha256 reference.sha256 = true)]

structure ElectricalEvidence (φ : Type) where
  actuatorSupplyVoltageV : φ
  logicSupplyVoltageV : φ
  currentLimitA : φ
  commonGroundVerified : Bool := false
  actuatorLogicRailsSeparate : Bool := false
  independentEstopVerified : Bool := false
  powerCutVerified : Bool := false

structure MechanicalEvidence where
  servoSecured : Bool := false
  loadPathClear : Bool := false
  manualRangeCheckVerified : Bool := false
  hardStopClearanceVerified : Bool := false

/-- `ServoCalibrationEvidence` with its texts. -/
structure CalibrationEvidence (φ : Type) where
  jointName : String
  servoModel : String
  driver : String
  pwmFrequencyHz : φ
  channel : ℤ
  protocolId : ℤ
  lowerAngleDeg : φ
  neutralAngleDeg : φ
  upperAngleDeg : φ
  lowerPulseUs : ℤ
  neutralPulseUs : ℤ
  upperPulseUs : ℤ
  testLowerAngleDeg : φ
  testUpperAngleDeg : φ
  maxTestStepDeg : φ

structure SingleServoHilEvidence (φ δ : Type) where
  recordedAt : δ
  operator : String
  calibration : CalibrationEvidence φ
  electrical : ElectricalEvidence φ
  mechanical : MechanicalEvidence
  evidenceRefs : List EvidenceReference

section Checks
variable {φ δ : Type} [FloatValue φ] [EvidenceTime δ]

/-- `gt=0` with `allow_inf_nan=False`. -/
def positiveFloat (name : String) (x : φ) : Validated Unit :=
  bounded name ((FloatValue.value x).isFinite = true ∧
    (finite 0).lt (FloatValue.value x) = true)

def ElectricalEvidence.validate (electrical : ElectricalEvidence φ) : Validated Unit :=
  collect [positiveFloat "actuator_supply_voltage_v" electrical.actuatorSupplyVoltageV,
    positiveFloat "logic_supply_voltage_v" electrical.logicSupplyVoltageV,
    positiveFloat "current_limit_a" electrical.currentLimitA]

namespace CalibrationEvidence

/-- The numbers, as comparisons see them. -/
def numbers (c : CalibrationEvidence φ) : ServoCalibrationEvidence where
  pwmFrequencyHz := FloatValue.value c.pwmFrequencyHz
  channel := c.channel
  protocolId := c.protocolId
  lowerAngleDeg := FloatValue.value c.lowerAngleDeg
  neutralAngleDeg := FloatValue.value c.neutralAngleDeg
  upperAngleDeg := FloatValue.value c.upperAngleDeg
  lowerPulseUs := c.lowerPulseUs
  neutralPulseUs := c.neutralPulseUs
  upperPulseUs := c.upperPulseUs
  testLowerAngleDeg := FloatValue.value c.testLowerAngleDeg
  testUpperAngleDeg := FloatValue.value c.testUpperAngleDeg
  maxTestStepDeg := FloatValue.value c.maxTestStepDeg

def validate (c : CalibrationEvidence φ) : Validated Unit := do
  collect (bounded "joint_name" (1 ≤ c.jointName.length) ::
    bounded "servo_model" (1 ≤ c.servoModel.length) ::
    bounded "driver" (1 ≤ c.driver.length) :: c.numbers.fieldChecks)
  c.numbers.validateRanges

end CalibrationEvidence

namespace SingleServoHilEvidence

def kinds (evidence : SingleServoHilEvidence φ δ) : List EvidenceKind :=
  evidence.evidenceRefs.map EvidenceReference.kind

def requireArtifactClasses (evidence : SingleServoHilEvidence φ δ) : Validated Unit := do
  require (EvidenceTime.aware evidence.recordedAt = true)
    (valueError "recorded_at must be timezone-aware")
  require (EvidenceKind.wiring ∈ evidence.kinds)
    (valueError "HIL evidence must include a wiring artifact")
  require (EvidenceKind.measurement ∈ evidence.kinds)
    (valueError "HIL evidence must include a measurement artifact")

def validate (evidence : SingleServoHilEvidence φ δ) : Validated Unit := do
  collect [bounded "operator" (1 ≤ evidence.operator.length),
    nested "calibration" evidence.calibration.validate,
    nested "electrical" evidence.electrical.validate,
    nested "evidence_refs" (collect (bounded "" (2 ≤ evidence.evidenceRefs.length) ::
      evidence.evidenceRefs.map EvidenceReference.validate))]
  evidence.requireArtifactClasses

end SingleServoHilEvidence

end Checks

/-! ### The digest -/

section Digest
variable {φ δ : Type}

/-- The fields of a reference in JSON mode. -/
def EvidenceReference.json (reference : EvidenceReference) : JsonData φ :=
  .dict [("kind", .str reference.kind.value), ("uri", .str reference.uri),
    ("sha256", .str reference.sha256)]

def ElectricalEvidence.json (electrical : ElectricalEvidence φ) : JsonData φ :=
  .dict [("actuator_supply_voltage_v", .float electrical.actuatorSupplyVoltageV),
    ("logic_supply_voltage_v", .float electrical.logicSupplyVoltageV),
    ("current_limit_a", .float electrical.currentLimitA),
    ("common_ground_verified", .bool electrical.commonGroundVerified),
    ("actuator_logic_rails_separate", .bool electrical.actuatorLogicRailsSeparate),
    ("independent_estop_verified", .bool electrical.independentEstopVerified),
    ("power_cut_verified", .bool electrical.powerCutVerified)]

def MechanicalEvidence.json (mechanical : MechanicalEvidence) : JsonData φ :=
  .dict [("servo_secured", .bool mechanical.servoSecured),
    ("load_path_clear", .bool mechanical.loadPathClear),
    ("manual_range_check_verified", .bool mechanical.manualRangeCheckVerified),
    ("hard_stop_clearance_verified", .bool mechanical.hardStopClearanceVerified)]

def CalibrationEvidence.json (c : CalibrationEvidence φ) : JsonData φ :=
  .dict [("joint_name", .str c.jointName), ("servo_model", .str c.servoModel),
    ("driver", .str c.driver), ("pwm_frequency_hz", .float c.pwmFrequencyHz),
    ("channel", .int c.channel), ("protocol_id", .int c.protocolId),
    ("lower_angle_deg", .float c.lowerAngleDeg), ("neutral_angle_deg", .float c.neutralAngleDeg),
    ("upper_angle_deg", .float c.upperAngleDeg), ("lower_pulse_us", .int c.lowerPulseUs),
    ("neutral_pulse_us", .int c.neutralPulseUs), ("upper_pulse_us", .int c.upperPulseUs),
    ("test_lower_angle_deg", .float c.testLowerAngleDeg),
    ("test_upper_angle_deg", .float c.testUpperAngleDeg),
    ("max_test_step_deg", .float c.maxTestStepDeg)]

def hilEvidenceSchemaVersion : String := "rci.single_servo_hil_evidence.v1"

variable [EvidenceTime δ]

/-- `evidence.model_dump(mode="json")`. -/
def SingleServoHilEvidence.json (evidence : SingleServoHilEvidence φ δ) : JsonData φ :=
  .dict [("schema_version", .str hilEvidenceSchemaVersion),
    ("recorded_at", .str (EvidenceTime.timeText evidence.recordedAt)),
    ("operator", .str evidence.operator), ("calibration", evidence.calibration.json),
    ("electrical", evidence.electrical.json), ("mechanical", evidence.mechanical.json),
    ("evidence_refs", .list (evidence.evidenceRefs.map EvidenceReference.json))]

/-- The text that is hashed. -/
def evidenceText [PyFloat φ] (evidence : SingleServoHilEvidence φ δ) : Option String :=
  dumpsAscii evidence.json

def evidenceDigest [PyFloat φ] (evidence : SingleServoHilEvidence φ δ) : Option String :=
  (evidenceText evidence).map fun text => Sha256.hexdigest text.toUTF8.data.toList

/-! ### What the text tells -/

theorem EvidenceKind.value_injective : Function.Injective EvidenceKind.value := by
  intro a b h
  cases a <;> cases b <;> first | rfl | exact absurd h (by decide)

theorem EvidenceReference.json_injective {a b : EvidenceReference}
    (h : sortKeys (a.json : JsonData φ) = sortKeys b.json) : a = b := by
  obtain ⟨kind, uri, sha256⟩ := a
  obtain ⟨otherKind, otherUri, otherSha⟩ := b
  unfold EvidenceReference.json at h
  have hfields := sortKeys_record (by rfl) (by simp) h
  simp only [List.map_cons, List.map_nil, sortKeys, List.cons.injEq, Option.some.injEq,
    PyValue.str.injEq, and_true] at hfields
  obtain ⟨hkind, rfl, rfl⟩ := hfields
  rw [EvidenceKind.value_injective hkind]

theorem ElectricalEvidence.json_injective {a b : ElectricalEvidence φ}
    (h : sortKeys a.json = sortKeys b.json) : a = b := by
  obtain ⟨a1, a2, a3, a4, a5, a6, a7⟩ := a
  obtain ⟨b1, b2, b3, b4, b5, b6, b7⟩ := b
  unfold ElectricalEvidence.json at h
  have hfields := sortKeys_record (by rfl) (by simp) h
  simp only [List.map_cons, List.map_nil, sortKeys, List.cons.injEq, Option.some.injEq,
    PyValue.float.injEq, PyValue.bool.injEq, and_true] at hfields
  obtain ⟨rfl, rfl, rfl, rfl, rfl, rfl, rfl⟩ := hfields
  rfl

theorem MechanicalEvidence.json_injective {a b : MechanicalEvidence}
    (h : sortKeys (a.json : JsonData φ) = sortKeys b.json) : a = b := by
  obtain ⟨a1, a2, a3, a4⟩ := a
  obtain ⟨b1, b2, b3, b4⟩ := b
  unfold MechanicalEvidence.json at h
  have hfields := sortKeys_record (by rfl) (by simp) h
  simp only [List.map_cons, List.map_nil, sortKeys, List.cons.injEq, Option.some.injEq,
    PyValue.bool.injEq, and_true] at hfields
  obtain ⟨rfl, rfl, rfl, rfl⟩ := hfields
  rfl

theorem CalibrationEvidence.json_injective {a b : CalibrationEvidence φ}
    (h : sortKeys a.json = sortKeys b.json) : a = b := by
  obtain ⟨a1, a2, a3, a4, a5, a6, a7, a8, a9, a10, a11, a12, a13, a14, a15⟩ := a
  obtain ⟨b1, b2, b3, b4, b5, b6, b7, b8, b9, b10, b11, b12, b13, b14, b15⟩ := b
  unfold CalibrationEvidence.json at h
  have hfields := sortKeys_record (by rfl) (by simp) h
  simp only [List.map_cons, List.map_nil, sortKeys, List.cons.injEq, Option.some.injEq,
    PyValue.float.injEq, PyValue.int.injEq, PyValue.str.injEq, and_true] at hfields
  obtain ⟨rfl, rfl, rfl, rfl, rfl, rfl, rfl, rfl, rfl, rfl, rfl, rfl, rfl, rfl, rfl⟩ := hfields
  rfl

/-- Evidence is told by its JSON form, whatever order its fields are written in. -/
theorem SingleServoHilEvidence.json_injective {a b : SingleServoHilEvidence φ δ}
    (h : sortKeys a.json = sortKeys b.json) : a = b := by
  obtain ⟨recordedAt, operator, calibration, electrical, mechanical, refs⟩ := a
  obtain ⟨otherAt, otherOperator, otherCalibration, otherElectrical, otherMechanical, otherRefs⟩ :=
    b
  unfold SingleServoHilEvidence.json at h
  have hfields := sortKeys_record (by rfl) (by simp) h
  simp only [List.map_cons, List.map_nil, List.cons.injEq, and_true] at hfields
  obtain ⟨_, htime, hoperator, hcalibration, helectrical, hmechanical, hrefs⟩ := hfields
  simp only [sortKeys, Option.some.injEq, PyValue.str.injEq] at htime hoperator
  have hitems := sortKeys_items hrefs
  rw [List.map_map, List.map_map] at hitems
  have hsame : refs = otherRefs :=
    List.map_injective_iff.mpr (fun x y hxy => EvidenceReference.json_injective hxy) hitems
  rw [EvidenceTime.timeText_injective htime, hoperator,
    CalibrationEvidence.json_injective hcalibration, ElectricalEvidence.json_injective helectrical,
    MechanicalEvidence.json_injective hmechanical, hsame]

theorem evidenceText_injective [PyFloat φ] {a b : SingleServoHilEvidence φ δ}
    (h : evidenceText a = evidenceText b) : a = b :=
  SingleServoHilEvidence.json_injective (dumpsAscii_eq h)

theorem evidenceDigest_eq [PyFloat φ] (evidence : SingleServoHilEvidence φ δ) :
    ∃ text, evidenceText evidence = some text ∧
      evidenceDigest evidence = some (Sha256.hexdigest text.toUTF8.data.toList) := by
  obtain ⟨text, htext⟩ := Option.isSome_iff_exists.mp (dumpsAscii_isSome evidence.json)
  refine ⟨text, htext, ?_⟩
  unfold evidenceDigest evidenceText
  rw [htext]
  rfl

/-- A digest is what the pattern of the permit's field asks for. -/
theorem isSha256_hexdigest (message : List UInt8) : isSha256 (Sha256.hexdigest message) = true := by
  have hdigit : ∀ n < 16, ((Nat.digitChar n).isDigit ||
      ('a' ≤ Nat.digitChar n && Nat.digitChar n ≤ 'f')) = true := by decide
  unfold isSha256
  rw [Sha256.hexdigest_length, Bool.and_eq_true]
  refine ⟨rfl, List.all_eq_true.mpr ?_⟩
  intro c hc
  unfold Sha256.hexdigest at hc
  rw [String.toList_ofList] at hc
  obtain ⟨word, _, hword⟩ := List.mem_flatMap.mp hc
  obtain ⟨place, _, rfl⟩ := List.mem_map.mp hword
  exact hdigit _ (Nat.mod_lt _ (by omega))

end Digest

end RoboticCharacter.Hil
