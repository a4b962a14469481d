import RoboticCharacter.ExtendedNumber
import RoboticCharacter.PythonText
import Mathlib.Data.List.AList
import Mathlib.Data.Finset.Dedup

/-! The host's safety models: constraints, envelope, candidate, dynamics and verdicts.
The number type is a parameter; its infinities and NaN are `ExtendedNumber`'s. -/
namespace RoboticCharacter.Safety

/-- A Python mapping with string keys, in insertion order. -/
abbrev Dict (β : Type*) := AList (fun _ : String => β)

inductive SystemState
  | boot
  | selfTest
  | calibrating
  | idle
  | armed
  | executing
  | degraded
  | fault
  | estop
  | shutdown
  deriving DecidableEq, Repr

def SystemState.value : SystemState → String
  | boot => "BOOT"
  | selfTest => "SELF_TEST"
  | calibrating => "CALIBRATING"
  | idle => "IDLE"
  | armed => "ARMED"
  | executing => "EXECUTING"
  | degraded => "DEGRADED"
  | fault => "FAULT"
  | estop => "ESTOP"
  | shutdown => "SHUTDOWN"

inductive MotionDecision
  | approve
  | reject
  | estop
  deriving DecidableEq, Repr

inductive SafetySeverity
  | info
  | warning
  | critical
  deriving DecidableEq, Repr

inductive SafetyViolationCode
  | estopActive
  | stateNotAllowed
  | jointModelUnverified
  | workspaceModelUnverified
  | emptyJointTargets
  | unknownJoint
  | invalidNumericTarget
  | jointLimitViolation
  | workspaceTargetRequired
  | workspaceLimitViolation
  | motionPolicyUnavailable
  | commandAgeInvalid
  | commandStale
  | heartbeatAgeInvalid
  | heartbeatStale
  | velocitySampleMissing
  | accelerationSampleMissing
  | dynamicSampleUnknownJoint
  | velocityLimitViolation
  | accelerationLimitViolation
  | lifecycleEstopLatched
  | watchdogNotArmed
  | watchdogUnhealthy
  deriving DecidableEq, Repr

def SafetyViolationCode.value : SafetyViolationCode → String
  | estopActive => "ESTOP_ACTIVE"
  | stateNotAllowed => "STATE_NOT_ALLOWED"
  | jointModelUnverified => "JOINT_MODEL_UNVERIFIED"
  | workspaceModelUnverified => "WORKSPACE_MODEL_UNVERIFIED"
  | emptyJointTargets => "EMPTY_JOINT_TARGETS"
  | unknownJoint => "UNKNOWN_JOINT"
  | invalidNumericTarget => "INVALID_NUMERIC_TARGET"
  | jointLimitViolation => "JOINT_LIMIT_VIOLATION"
  | workspaceTargetRequired => "WORKSPACE_TARGET_REQUIRED"
  | workspaceLimitViolation => "WORKSPACE_LIMIT_VIOLATION"
  | motionPolicyUnavailable => "MOTION_POLICY_UNAVAILABLE"
  | commandAgeInvalid => "COMMAND_AGE_INVALID"
  | commandStale => "COMMAND_STALE"
  | heartbeatAgeInvalid => "HEARTBEAT_AGE_INVALID"
  | heartbeatStale => "HEARTBEAT_STALE"
  | velocitySampleMissing => "VELOCITY_SAMPLE_MISSING"
  | accelerationSampleMissing => "ACCELERATION_SAMPLE_MISSING"
  | dynamicSampleUnknownJoint => "DYNAMIC_SAMPLE_UNKNOWN_JOINT"
  | velocityLimitViolation => "VELOCITY_LIMIT_VIOLATION"
  | accelerationLimitViolation => "ACCELERATION_LIMIT_VIOLATION"
  | lifecycleEstopLatched => "LIFECYCLE_ESTOP_LATCHED"
  | watchdogNotArmed => "WATCHDOG_NOT_ARMED"
  | watchdogUnhealthy => "WATCHDOG_UNHEALTHY"

structure SafetyViolation where
  code : SafetyViolationCode
  detail : String
  severity : SafetySeverity := .critical
  deriving DecidableEq, Repr

structure MotionEligibility where
  decision : MotionDecision
  violations : List SafetyViolation
  deriving DecidableEq, Repr

def MotionEligibility.approved (e : MotionEligibility) : Bool :=
  decide (e.decision = .approve) && e.violations.isEmpty

variable {α : Type*}

structure JointConstraint (α : Type*) where
  name : String
  minDeg : Option (ExtendedNumber α)
  maxDeg : Option (ExtendedNumber α)
  neutralDeg : Option (ExtendedNumber α)
  verified : Bool := false

structure CartesianPoint (α : Type*) where
  xMm : ExtendedNumber α
  yMm : ExtendedNumber α
  zMm : ExtendedNumber α
  deriving DecidableEq, Repr

def CartesianPoint.finite (p : CartesianPoint α) : Bool :=
  p.xMm.isFinite && p.yMm.isFinite && p.zMm.isFinite

structure WorkspaceBounds (α : Type*) where
  minXMm : Option (ExtendedNumber α)
  maxXMm : Option (ExtendedNumber α)
  minYMm : Option (ExtendedNumber α)
  maxYMm : Option (ExtendedNumber α)
  minZMm : Option (ExtendedNumber α)
  maxZMm : Option (ExtendedNumber α)
  verified : Bool := false

structure MotionSafetyPolicy (α : Type*) where
  commandTtlMs : ExtendedNumber α
  heartbeatTimeoutMs : ExtendedNumber α
  maxVelocityDegS : ExtendedNumber α
  maxAccelerationDegS2 : ExtendedNumber α
  deriving DecidableEq, Repr

structure SafetyEnvelope (α : Type*) where
  joints : Dict (JointConstraint α)
  workspace : WorkspaceBounds α
  allowedStates : Finset SystemState
  robotVerified : Bool
  servosVerified : Bool
  motionPolicy : Option (MotionSafetyPolicy α)

structure MotionCandidate (α : Type*) where
  systemState : SystemState
  estopActive : Bool
  jointTargetsDeg : Dict (ExtendedNumber α)
  workspacePointMm : Option (CartesianPoint α)

structure MotionDynamics (α : Type*) where
  commandAgeMs : ExtendedNumber α
  heartbeatAgeMs : ExtendedNumber α
  jointVelocitiesDegS : Dict (ExtendedNumber α)
  jointAccelerationsDegS2 : Dict (ExtendedNumber α)

section Checks
variable [LinearOrder α]

def JointConstraint.verifiedComplete (c : JointConstraint α) : Bool :=
  match c.verified, c.minDeg, c.neutralDeg, c.maxDeg with
  | true, some low, some neutral, some high => low.lt neutral && neutral.lt high
  | _, _, _, _ => false

def JointConstraint.contains (c : JointConstraint α) (angleDeg : ExtendedNumber α) : Bool :=
  if c.verifiedComplete = false ∨ angleDeg.isFinite = false then false
  else
    match c.minDeg, c.maxDeg with
    | some low, some high => low.le angleDeg && angleDeg.le high
    | _, _ => false

def WorkspaceBounds.verifiedComplete (w : WorkspaceBounds α) : Bool :=
  match w.verified, w.minXMm, w.maxXMm, w.minYMm, w.maxYMm, w.minZMm, w.maxZMm with
  | true, some x0, some x1, some y0, some y1, some z0, some z1 =>
    x0.lt x1 && y0.lt y1 && z0.lt z1
  | _, _, _, _, _, _, _ => false

def WorkspaceBounds.contains (w : WorkspaceBounds α) (point : CartesianPoint α) : Bool :=
  if w.verifiedComplete = false ∨ point.finite = false then false
  else
    match w.minXMm, w.maxXMm, w.minYMm, w.maxYMm, w.minZMm, w.maxZMm with
    | some x0, some x1, some y0, some y1, some z0, some z1 =>
      (x0.le point.xMm && point.xMm.le x1) && (y0.le point.yMm && point.yMm.le y1) &&
        (z0.le point.zMm && point.zMm.le z1)
    | _, _, _, _, _, _ => false

def SafetyEnvelope.physicalConstraintsVerified (e : SafetyEnvelope α) : Bool :=
  e.robotVerified && e.servosVerified && !e.joints.entries.isEmpty &&
    e.joints.entries.all (fun entry => entry.2.verifiedComplete) && e.workspace.verifiedComplete

/-- `isfinite(value) and value > 0`. -/
def isPositive [Zero α] (value : ExtendedNumber α) : Bool :=
  value.isFinite && (ExtendedNumber.finite 0).lt value

def MotionSafetyPolicy.valid [Zero α] (p : MotionSafetyPolicy α) : Bool :=
  [p.commandTtlMs, p.heartbeatTimeoutMs, p.maxVelocityDegS, p.maxAccelerationDegS2].all isPositive

theorem isPositive_ne_nan [Zero α] (x : ExtendedNumber α) (h : isPositive x = true) :
    x ≠ .nan := by
  rintro rfl
  cases h

theorem JointConstraint.verifiedComplete_of_contains (c : JointConstraint α)
    (x : ExtendedNumber α) (h : c.contains x = true) :
    c.verifiedComplete = true ∧ x.isFinite = true := by
  unfold contains at h
  split_ifs at h with hg
  simpa only [not_or, Bool.not_eq_false] using hg

theorem WorkspaceBounds.verifiedComplete_of_contains (w : WorkspaceBounds α)
    (p : CartesianPoint α) (h : w.contains p = true) :
    w.verifiedComplete = true ∧ p.finite = true := by
  unfold contains at h
  split_ifs at h with hg
  simpa only [not_or, Bool.not_eq_false] using hg

end Checks

end RoboticCharacter.Safety
