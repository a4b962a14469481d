import RoboticCharacter.SafetyDynamics
import RoboticCharacter.SafetyLifecycle
import RoboticCharacter.ProtocolBytes

/-! The motion safety supervisor: lifecycle, static and dynamic safety composed into
one decision, and the authorization it mints. -/
namespace RoboticCharacter.Safety

structure MotionAuthorization (α : Type*) where
  authorizationId : Uuid
  lifecycleSequence : ℕ
  jointTargetsDeg : Dict (ExtendedNumber α)
  workspacePointMm : CartesianPoint α
  commandTtlMs : ExtendedNumber α
  maxVelocityDegS : ExtendedNumber α
  maxAccelerationDegS2 : ExtendedNumber α

structure MotionSafetyResult (α : Type*) where
  decision : MotionDecision
  violations : List SafetyViolation
  lifecycle : SafetyLifecycleSnapshot
  authorization : Option (MotionAuthorization α) := none

def MotionSafetyResult.approved {α : Type*} (r : MotionSafetyResult α) : Bool :=
  decide (r.decision = .approve) && r.violations.isEmpty && r.authorization.isSome

/-- A supervisor has checked at construction that both layers agree on the timeout. -/
structure MotionSafetySupervisor (α : Type*) [LinearOrder α] [Zero α] where
  envelope : SafetyEnvelope α
  lifecycle : SafetyLifecycleController α
  timeouts_match : ∀ policy ∈ envelope.motionPolicy,
    policy.heartbeatTimeoutMs.eq lifecycle.policy.heartbeatTimeoutMs = true

/-- `_evaluate_lifecycle`: the refusal a snapshot asks for, if any. -/
def evaluateLifecycle {α : Type*} (lifecycle : SafetyLifecycleSnapshot) :
    Option (MotionSafetyResult α) :=
  if lifecycle.estopLatched ∨ lifecycle.physicalEstopActive then
    -- an empty reason is falsy too
    let detail := match lifecycle.latestReason with
      | some reason => if reason = "" then "emergency-stop lifecycle is latched" else reason
      | none => "emergency-stop lifecycle is latched"
    some ⟨.estop, [{ code := .lifecycleEstopLatched, detail }], lifecycle, none⟩
  else if lifecycle.watchdogArmed = false then
    some ⟨.reject, [{ code := .watchdogNotArmed
                      detail := "watchdog must be armed before motion can be authorized" }],
      lifecycle, none⟩
  else if lifecycle.watchdogHealthy = false then
    some ⟨.reject,
      [{ code := .watchdogUnhealthy
         detail := "watchdog must observe a fresh heartbeat before motion can be authorized" }],
      lifecycle, none⟩
  else none

namespace MotionSafetySupervisor
variable {α : Type*} [LinearOrder α]

def new [Zero α] (envelope : SafetyEnvelope α) (lifecycle : SafetyLifecycleController α) :
    Except String (MotionSafetySupervisor α) :=
  if h : ∀ policy ∈ envelope.motionPolicy,
      policy.heartbeatTimeoutMs.eq lifecycle.policy.heartbeatTimeoutMs = true then
    .ok ⟨envelope, lifecycle, h⟩
  else .error "dynamic and lifecycle heartbeat timeouts must match"

def create [Zero α] (envelope : SafetyEnvelope α) (policy : SafetyLifecyclePolicy α) :
    Except String (MotionSafetySupervisor α) := do
  new envelope (← SafetyLifecycleController.new policy)

variable [AddCommGroup α] [ToString α]

def perform (sup : MotionSafetySupervisor α) (op : LifecycleOperation α) :
    MotionSafetySupervisor α where
  envelope := sup.envelope
  lifecycle := (sup.lifecycle.perform op).1
  timeouts_match policy hp := by
    rw [SafetyLifecycleController.perform_policy]
    exact sup.timeouts_match policy hp

def lifecycleSnapshot (sup : MotionSafetySupervisor α) : SafetyLifecycleSnapshot :=
  sup.lifecycle.snapshot

/-- The decision on a candidate once the lifecycle has seen its stop flag and heartbeat age. -/
def decideMotion (sup : MotionSafetySupervisor α) (candidate : MotionCandidate α)
    (dynamics : MotionDynamics α) (uuid : Uuid) : MotionSafetyResult α :=
  let lifecycle := sup.lifecycleSnapshot
  match evaluateLifecycle lifecycle with
  | some result => result
  | none =>
    let eligibility := assessDynamicMotionEligibility sup.envelope candidate dynamics
    if eligibility.approved = false then
      ⟨eligibility.decision, eligibility.violations, lifecycle, none⟩
    else
      -- an approval without a policy or a point to authorize fails closed
      let unavailable : MotionSafetyResult α :=
        ⟨.reject, [{ code := .motionPolicyUnavailable
                     detail := "approved safety result lacked a valid policy or workspace point" }],
          lifecycle, none⟩
      match sup.envelope.motionPolicy, candidate.workspacePointMm with
      | some policy, some point =>
        if policy.valid = false then unavailable
        else
          ⟨.approve, [], lifecycle,
            some
              { authorizationId := uuid
                lifecycleSequence := lifecycle.sequence
                jointTargetsDeg := candidate.jointTargetsDeg
                workspacePointMm := point
                commandTtlMs := policy.commandTtlMs
                maxVelocityDegS := policy.maxVelocityDegS
                maxAccelerationDegS2 := policy.maxAccelerationDegS2 }⟩
      | _, _ => unavailable

def observe (sup : MotionSafetySupervisor α) (candidate : MotionCandidate α)
    (dynamics : MotionDynamics α) : MotionSafetySupervisor α :=
  (sup.perform (.setPhysicalEstop candidate.estopActive)).perform
    (.observeHeartbeatAge dynamics.heartbeatAgeMs)

/-- `evaluate`; `uuid` is the value `uuid4()` gives if an authorization is minted. -/
def evaluate (sup : MotionSafetySupervisor α) (candidate : MotionCandidate α)
    (dynamics : MotionDynamics α) (uuid : Uuid) : MotionSafetySupervisor α × MotionSafetyResult α :=
  let observed := sup.observe candidate dynamics
  (observed, observed.decideMotion candidate dynamics uuid)

end MotionSafetySupervisor

end RoboticCharacter.Safety
