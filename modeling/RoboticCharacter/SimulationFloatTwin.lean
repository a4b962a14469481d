import RoboticCharacter.Binary64Double
import RoboticCharacter.ProtocolMotionCodec
import RoboticCharacter.ProtocolTelemetry
import RoboticCharacter.RobotReferenceModel

/-! The digital twin as it computes: over binary floating-point numbers, and with the assignments
that a call has made when one of its conversions raises. -/
namespace RoboticCharacter.Floating
open Binary64

/-- The refusal of a joint vector: by the first joint, in the order of the vector, that is not
finite or outside its range. -/
inductive RobotModelError
  | notFinite (name : JointName)
  | outside (name : JointName) (value : Double) (lowerDeg upperDeg : FiniteDouble)

def checkJointPosition (model : RobotModel FiniteDouble) (jointsDeg : JointName → Double)
    (name : JointName) : Except RobotModelError Unit :=
  let value := jointsDeg name
  let spec := model.joint name
  if value.value.isFinite = false then .error (.notFinite name)
  else if (Double.ofFinite spec.lowerDeg).le value = true ∧
      value.le (Double.ofFinite spec.upperDeg) = true then .ok ()
  else .error (.outside name value spec.lowerDeg spec.upperDeg)

def validateJointPositions (model : RobotModel FiniteDouble) (jointsDeg : JointName → Double) :
    Except RobotModelError Unit :=
  model.jointNames.forM (checkJointPosition model jointsDeg)

/-- What a step leaves of one joint; the conversion of its current may raise. -/
structure JointStep where
  position : Double
  velocity : Double
  current : Except ConversionError ℤ
  moving : Bool

def settleTolerance : Double := .literal (1/1000000)

def Settled (error velocity : Double) : Prop :=
  error.abs.le settleTolerance = true ∧ velocity.abs.le settleTolerance = true

instance (error velocity : Double) : Decidable (Settled error velocity) :=
  inferInstanceAs (Decidable (_ ∧ _))

def desiredVelocity (velocityLimit accelerationLimit error : Double) : Double :=
  let brakingVelocity :=
    (Double.max (.literal 0) (((Double.literal 2).mul accelerationLimit).mul error.abs)).sqrt
  Double.copysign (velocityLimit.min brakingVelocity) error

/-- The velocity after a step, which is changed by `maxDeltaVelocity` at most. -/
def slew (maxDeltaVelocity desiredVelocity velocity : Double) : Double :=
  let deltaVelocity := desiredVelocity.sub velocity
  if maxDeltaVelocity.lt deltaVelocity.abs = true then
    velocity.add (Double.copysign maxDeltaVelocity deltaVelocity)
  else desiredVelocity

def simulatedCurrent (velocity error : Double) : Except ConversionError ℤ := do
  let current := ((Double.literal 80).add ((Double.literal 3).mul velocity.abs)).add
    ((Double.literal (3/5)).mul error.abs)
  let rounded ← current.round
  return min 1200 rounded

def velocityLimit (spec : ReferenceJoint FiniteDouble) (commandVelocityLimit : Double) : Double :=
  (Double.ofFinite spec.maxVelocityDegS).min commandVelocityLimit

def accelerationLimit (spec : ReferenceJoint FiniteDouble) (commandAccelerationLimit : Double) :
    Double :=
  (Double.ofFinite spec.maxAccelerationDegS2).min commandAccelerationLimit

/-- The body of the loop of `step`. -/
def stepJoint (spec : ReferenceJoint FiniteDouble)
    (commandVelocityLimit commandAccelerationLimit target dt position velocity : Double) :
    JointStep :=
  let error := target.sub position
  let velocityLimit := velocityLimit spec commandVelocityLimit
  let accelerationLimit := accelerationLimit spec commandAccelerationLimit
  if Settled error velocity then ⟨target, .literal 0, .ok 80, false⟩
  else
    let velocity := slew (accelerationLimit.mul dt)
      (desiredVelocity velocityLimit accelerationLimit error) velocity
    let nextPosition := position.add (velocity.mul dt)
    if ((target.sub position).mul (target.sub nextPosition)).le (.literal 0) = true then
      ⟨target, .literal 0, simulatedCurrent (.literal 0) error, true⟩
    else ⟨nextPosition, velocity, simulatedCurrent velocity error, true⟩

inductive DigitalTwinError
  | supplyVoltage
  | unknownJoint (jointId : ℤ)
  | violatesModel (error : RobotModelError)
  | stepNotPositive

/-- What a call may raise: an error of the twin, or one of a conversion, which nothing catches. -/
inductive Raised
  | digitalTwin (error : DigitalTwinError)
  | conversion (error : ConversionError)

structure DigitalTwinRobot where
  model : RobotModel FiniteDouble
  supplyMv : ℤ
  positions : JointName → Double
  velocities : JointName → Double
  targets : JointName → Double
  currents : JointName → ℤ
  uptimeMs : ℤ
  state : WireSystemState
  commandVelocityLimit : Double
  commandAccelerationLimit : Double
  supply_ge : 1 ≤ supplyMv
  supply_le : supplyMv ≤ 65535

inductive TwinCall
  | accept (command : ValidatedMotionCommand)
  | step (dt : Double)
  | estop
  | resetEstop

namespace DigitalTwinRobot

def minOverJoints (value : JointName → FiniteDouble) : FiniteDouble :=
  min (min (value .base) (value .shoulder)) (min (value .elbow) (value .gripper))

/-- The twin the constructor leaves: every joint at home and at rest. -/
def atHome (model : RobotModel FiniteDouble) (supplyMv : ℤ) (hge : 1 ≤ supplyMv)
    (hle : supplyMv ≤ 65535) : DigitalTwinRobot where
  model := model
  supplyMv := supplyMv
  positions := fun name => .ofFinite (model.home name)
  velocities := fun _ => .literal 0
  targets := fun name => .ofFinite (model.home name)
  currents := fun _ => 80
  uptimeMs := 0
  state := .idle
  commandVelocityLimit := .ofFinite (minOverJoints (fun name => (model.joint name).maxVelocityDegS))
  commandAccelerationLimit :=
    .ofFinite (minOverJoints (fun name => (model.joint name).maxAccelerationDegS2))
  supply_ge := hge
  supply_le := hle

def new (model : RobotModel FiniteDouble) (supplyMv : ℤ) :
    Except DigitalTwinError DigitalTwinRobot :=
  if hge : 1 ≤ supplyMv then
    if hle : supplyMv ≤ 65535 then .ok (atHome model supplyMv hge hle)
    else .error .supplyVoltage
  else .error .supplyVoltage

def idToName (twin : DigitalTwinRobot) (jointId : ℤ) : Option JointName :=
  twin.model.jointNames.find? (fun name => (twin.model.joint name).protocolId = jointId)

/-- `n / 100.0` of a wire field. -/
def hundredth (n : ℤ) : Except Raised Double :=
  match Double.ofInt n with
  | .ok x => .ok (x.div (.literal 100))
  | .error error => .error (.conversion error)

/-- The loop of `accept`: each target replaces that of its joint. -/
def mergeTargets (twin : DigitalTwinRobot) :
    List JointTarget → (JointName → Double) → Except Raised (JointName → Double)
  | [], targets => .ok targets
  | target :: rest, targets =>
    match twin.idToName target.jointId with
    | none => .error (.digitalTwin (.unknownJoint target.jointId))
    | some name => do
      let targetDeg ← hundredth target.targetCdeg
      twin.mergeTargets rest (Function.update targets name targetDeg)

/-- The targets that `accept` assigns once they have passed its checks. -/
def checkedTargets (twin : DigitalTwinRobot) (command : ValidatedMotionCommand) :
    Except Raised (JointName → Double) := do
  let targets ← twin.mergeTargets command.targets twin.targets
  (validateJointPositions twin.model targets).mapError (.digitalTwin ∘ .violatesModel)
  return targets

/-- The assignments of `accept`. A limit that is too large for a float raises when the targets, or
the targets and the other limit, are assigned already. -/
def assign (twin : DigitalTwinRobot) (command : ValidatedMotionCommand)
    (targets : JointName → Double) : DigitalTwinRobot × Option Raised :=
  let twin := { twin with targets := targets }
  match hundredth command.maxVelocityCdegS with
  | .error error => (twin, some error)
  | .ok limit =>
    let twin := { twin with commandVelocityLimit := limit }
    match hundredth command.maxAccelerationCdegS2 with
    | .error error => (twin, some error)
    | .ok limit => ({ twin with commandAccelerationLimit := limit, state := .executing }, none)

def accept (twin : DigitalTwinRobot) (command : ValidatedMotionCommand) :
    DigitalTwinRobot × Option Raised :=
  match twin.checkedTargets command with
  | .error error => (twin, some error)
  | .ok targets => twin.assign command targets

def estop (twin : DigitalTwinRobot) : DigitalTwinRobot :=
  { twin with targets := twin.positions, velocities := fun _ => .literal 0, state := .estop }

def resetEstop (twin : DigitalTwinRobot) : DigitalTwinRobot :=
  if twin.state = .estop then { twin with state := .idle } else twin

def jointStep (twin : DigitalTwinRobot) (dt : Double) (name : JointName) : JointStep :=
  stepJoint (twin.model.joint name) twin.commandVelocityLimit twin.commandAccelerationLimit
    (twin.targets name) dt (twin.positions name) (twin.velocities name)

/-- The joint is assigned its position and its velocity before its current is converted. -/
def moveJoint (twin : DigitalTwinRobot) (dt : Double) (name : JointName) : DigitalTwinRobot :=
  { twin with
    positions := Function.update twin.positions name (twin.jointStep dt name).position
    velocities := Function.update twin.velocities name (twin.jointStep dt name).velocity }

def setCurrent (twin : DigitalTwinRobot) (name : JointName) (current : ℤ) : DigitalTwinRobot :=
  { twin with currents := Function.update twin.currents name current }

/-- The loop of `step`, and whether a joint moved. -/
def moveJoints (dt : Double) :
    List JointName → Bool → DigitalTwinRobot → DigitalTwinRobot × Except ConversionError Bool
  | [], moving, twin => (twin, .ok moving)
  | name :: rest, moving, twin =>
    match (twin.jointStep dt name).current with
    | .error error => (twin.moveJoint dt name, .error error)
    | .ok current =>
      moveJoints dt rest (moving || (twin.jointStep dt name).moving)
        ((twin.moveJoint dt name).setCurrent name current)

def advance (twin : DigitalTwinRobot) (ticks : ℤ) : DigitalTwinRobot :=
  { twin with uptimeMs := min 0xFFFFFFFF (twin.uptimeMs+ticks) }

/-- A step of a twin that is not stopped. -/
def move (twin : DigitalTwinRobot) (dt : Double) : DigitalTwinRobot × Option Raised :=
  match moveJoints dt twin.model.jointNames false twin with
  | (after, .error error) => (after, some (.conversion error))
  | (after, .ok moving) =>
    ({ after with state := if moving then .executing else .idle }, none)

def step (twin : DigitalTwinRobot) (dt : Double) : DigitalTwinRobot × Option Raised :=
  if dt.le (.literal 0) = true then (twin, some (.digitalTwin .stepNotPositive))
  else
    match (dt.mul (.literal 1000)).round with
    | .error error => (twin, some (.conversion error))
    | .ok ticks =>
      let twin := twin.advance ticks
      if twin.state = .estop then ({ twin with currents := fun _ => 60 }, none)
      else twin.move dt

def call (twin : DigitalTwinRobot) : TwinCall → DigitalTwinRobot × Option Raised
  | .accept command => twin.accept command
  | .step dt => twin.step dt
  | .estop => (twin.estop, none)
  | .resetEstop => (twin.resetEstop, none)

/-- A number of degrees in the hundredths of a wire field. -/
def hundredths (x : Double) : Except ConversionError ℤ := (x.mul (.literal 100)).round

def jointTelemetry (twin : DigitalTwinRobot) (name : JointName) :
    Except ConversionError RobotJointTelemetry := do
  let positionCdeg ← hundredths (twin.positions name)
  let velocityCdegS ← hundredths (twin.velocities name)
  return {
    jointId := (twin.model.joint name).protocolId
    positionCdeg
    velocityCdegS
    currentMa := twin.currents name }

def telemetry (twin : DigitalTwinRobot) (flags : ℤ) : Except ConversionError RobotTelemetry := do
  let joints ← twin.model.jointNames.mapM twin.jointTelemetry
  return {
    uptimeMs := twin.uptimeMs
    state := twin.state
    flags := flags
    supplyMv := twin.supplyMv
    joints }

end DigitalTwinRobot

section ReferenceArm

/-- A whole number of the profile's file. -/
def wholeDegrees (n : ℤ) (h : |n| ≤ 2^52) : FiniteDouble := ⟨n, holds_int n h⟩

theorem wholeDegrees_lt (a b : ℤ) (ha : |a| ≤ 2^52) (hb : |b| ≤ 2^52) (h : a < b) :
    wholeDegrees a ha < wholeDegrees b hb := by
  change (a : ℚ) < b
  exact_mod_cast h

theorem wholeDegrees_pos (n : ℤ) (hn : |n| ≤ 2^52) (h : 0 < n) : 0 < wholeDegrees n hn := by
  change (0 : ℚ) < n
  exact_mod_cast h

structure RowHolds (row : JointRow) : Prop where
  lower : |row.lowerDeg| ≤ 2^52
  upper : |row.upperDeg| ≤ 2^52
  home : |row.homeDeg| ≤ 2^52
  velocity : |row.maxVelocityDegS| ≤ 2^52
  acceleration : |row.maxAccelerationDegS2| ≤ 2^52

def toJoint (row : JointRow) (h : row.Valid) (hholds : RowHolds row) :
    ReferenceJoint FiniteDouble where
  protocolId := row.protocolId
  lowerDeg := wholeDegrees row.lowerDeg hholds.lower
  upperDeg := wholeDegrees row.upperDeg hholds.upper
  homeDeg := wholeDegrees row.homeDeg hholds.home
  maxVelocityDegS := wholeDegrees row.maxVelocityDegS hholds.velocity
  maxAccelerationDegS2 := wholeDegrees row.maxAccelerationDegS2 hholds.acceleration
  protocolId_ge := h.protocolId_ge
  protocolId_le := h.protocolId_le
  maxVelocity_pos := wholeDegrees_pos _ _ h.maxVelocity_pos
  maxAcceleration_pos := wholeDegrees_pos _ _ h.maxAcceleration_pos
  lower_lt_home := wholeDegrees_lt _ _ _ _ h.lower_lt_home
  home_lt_upper := wholeDegrees_lt _ _ _ _ h.home_lt_upper

theorem referenceRow_holds (name : JointName) : RowHolds (referenceRow name) := by
  cases name <;> constructor <;> decide

/-- The repository's own profile in floating-point numbers. -/
def referenceArm : RobotModel FiniteDouble where
  profile := {
    joints := fun name =>
      toJoint (referenceRow name) (referenceRow_valid name) (referenceRow_holds name)
    order := referenceOrder
    order_nodup := referenceOrder_nodup
    order_complete := referenceOrder_complete
    ids_unique := referenceRow_ids }

end ReferenceArm
end RoboticCharacter.Floating
