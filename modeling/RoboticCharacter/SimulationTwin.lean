import RoboticCharacter.RobotReferenceModel
import RoboticCharacter.RateLimitedMotion
import RoboticCharacter.ProtocolMotionCodec
import RoboticCharacter.Machine

/-! The digital twin: a plant of rate-limited joints driven by validated motion commands. The
numbers are exact, so that no conversion raises; the twin over floating-point numbers, where one
may, is `Floating.DigitalTwinRobot`. -/
namespace RoboticCharacter
open PythonMath RateLimited Fallible

section Joint
variable {K : Type} [Field K] [LinearOrder K]

/-- What a step leaves of one joint. -/
structure JointStep (K : Type) where
  position : K
  velocity : K
  current : ℤ
  moving : Bool

def settleTolerance : K := 1/1000000

def Settled (error velocity : K) : Prop := |error| ≤ settleTolerance ∧ |velocity| ≤ settleTolerance

instance (error velocity : K) : Decidable (Settled error velocity) :=
  inferInstanceAs (Decidable (_ ∧ _))

theorem not_settled [IsStrictOrderedRing K] (error velocity : K) (h : 1 ≤ |error|) :
    ¬ Settled error velocity := by
  intro hs
  have htolerance : (settleTolerance : K) < 1 := by
    unfold settleTolerance
    norm_num
  exact absurd (h.trans hs.1) (not_le.mpr htolerance)

variable [FloorRing K] [SquareRoot K]

def desiredVelocity (velocityLimit accelerationLimit error : K) : K :=
  let brakingVelocity := SquareRoot.sqrt (max 0 (stoppingSquare accelerationLimit |error|))
  copysign (min velocityLimit brakingVelocity) error

def simulatedCurrent (velocity error : K) : ℤ :=
  min 1200 (roundHalfEven (80+3*|velocity|+3/5*|error|))

/-- The body of the loop of `step`. -/
def stepJoint (spec : ReferenceJoint K) (commandVelocityLimit commandAccelerationLimit : K)
    (target dt position velocity : K) : JointStep K :=
  let error := target-position
  let velocityLimit := min spec.maxVelocityDegS commandVelocityLimit
  let accelerationLimit := min spec.maxAccelerationDegS2 commandAccelerationLimit
  if Settled error velocity then ⟨target, 0, 80, false⟩
  else
    let velocity := slew (accelerationLimit*dt)
      (desiredVelocity velocityLimit accelerationLimit error) velocity
    let nextPosition := position+velocity*dt
    if (target-position)*(target-nextPosition) ≤ 0 then
      ⟨target, 0, simulatedCurrent 0 error, true⟩
    else ⟨nextPosition, velocity, simulatedCurrent velocity error, true⟩

end Joint

inductive DigitalTwinError (K : Type)
  | supplyVoltage
  | unknownJoint (jointId : ℤ)
  | violatesModel (error : RobotModelError K)
  | stepNotPositive

/-- `DigitalTwinRobot`, with the check of its constructor. -/
structure DigitalTwinRobot (K : Type) [Field K] [LinearOrder K] where
  model : RobotModel K
  supplyMv : ℤ
  positions : JointName → K
  velocities : JointName → K
  targets : JointName → K
  currents : JointName → ℤ
  uptimeMs : ℤ
  state : WireSystemState
  commandVelocityLimit : K
  commandAccelerationLimit : K
  supply_ge : 1 ≤ supplyMv
  supply_le : supplyMv ≤ 65535

namespace DigitalTwinRobot
variable {K : Type} [Field K] [LinearOrder K]

/-- `min(...)` over the four joints. -/
def minOverJoints (value : JointName → K) : K :=
  min (min (value .base) (value .shoulder)) (min (value .elbow) (value .gripper))

/-- The twin the constructor leaves: every joint at home and at rest. -/
def atHome (model : RobotModel K) (supplyMv : ℤ) (hge : 1 ≤ supplyMv) (hle : supplyMv ≤ 65535) :
    DigitalTwinRobot K where
  model := model
  supplyMv := supplyMv
  positions := model.home
  velocities := fun _ => 0
  targets := model.home
  currents := fun _ => 80
  uptimeMs := 0
  state := .idle
  commandVelocityLimit := minOverJoints (fun name => (model.joint name).maxVelocityDegS)
  commandAccelerationLimit := minOverJoints (fun name => (model.joint name).maxAccelerationDegS2)
  supply_ge := hge
  supply_le := hle

def new (model : RobotModel K) (supplyMv : ℤ) : Except (DigitalTwinError K) (DigitalTwinRobot K) :=
  if hge : 1 ≤ supplyMv then
    if hle : supplyMv ≤ 65535 then .ok (atHome model supplyMv hge hle)
    else .error .supplyVoltage
  else .error .supplyVoltage

def defaultSupplyMv : ℤ := 6000

theorem defaultSupply_ge : 1 ≤ defaultSupplyMv := by decide
theorem defaultSupply_le : defaultSupplyMv ≤ 65535 := by decide

/-- `DigitalTwinRobot(model)`, with the default supply. -/
def ofModel (model : RobotModel K) : DigitalTwinRobot K :=
  atHome model defaultSupplyMv defaultSupply_ge defaultSupply_le

theorem new_default (model : RobotModel K) : new model defaultSupplyMv = .ok (ofModel model) := rfl

theorem atHome_of_new (model : RobotModel K) (supplyMv : ℤ) (twin : DigitalTwinRobot K)
    (h : new model supplyMv = .ok twin) : ∃ hge hle, twin = atHome model supplyMv hge hle := by
  unfold new at h
  split_ifs at h with hge hle
  exact ⟨hge, hle, (Except.ok.inj h).symm⟩

theorem model_of_new (model : RobotModel K) (supplyMv : ℤ) (twin : DigitalTwinRobot K)
    (h : new model supplyMv = .ok twin) : twin.model = model := by
  obtain ⟨_, _, rfl⟩ := atHome_of_new model supplyMv twin h
  rfl

def idToName (twin : DigitalTwinRobot K) (jointId : ℤ) : Option JointName :=
  twin.model.jointNames.find? (fun name => (twin.model.joint name).protocolId = jointId)

/-- The loop of `accept`: each target replaces that of its joint. -/
def mergeTargets (twin : DigitalTwinRobot K) :
    List JointTarget → (JointName → K) → Except (DigitalTwinError K) (JointName → K)
  | [], targets => .ok targets
  | target :: rest, targets =>
    match twin.idToName target.jointId with
    | none => .error (.unknownJoint target.jointId)
    | some name => twin.mergeTargets rest (Function.update targets name (target.targetCdeg/100))

def commandVelocity (command : ValidatedMotionCommand) : K := command.maxVelocityCdegS/100

def commandAcceleration (command : ValidatedMotionCommand) : K := command.maxAccelerationCdegS2/100

/-- The twin under a command that passed the checks, with its merged targets. -/
def commanded (twin : DigitalTwinRobot K) (command : ValidatedMotionCommand)
    (targets : JointName → K) : DigitalTwinRobot K :=
  { twin with
    targets := targets
    commandVelocityLimit := command.maxVelocityCdegS/100
    commandAccelerationLimit := commandAcceleration command
    state := .executing }

def accept (twin : DigitalTwinRobot K) (command : ValidatedMotionCommand) :
    Except (DigitalTwinError K) (DigitalTwinRobot K) := do
  let targets ← twin.mergeTargets command.targets twin.targets
  (twin.model.validateJointPositions targets).mapError .violatesModel
  return twin.commanded command targets

def estop (twin : DigitalTwinRobot K) : DigitalTwinRobot K :=
  { twin with targets := twin.positions, velocities := fun _ => 0, state := .estop }

def resetEstop (twin : DigitalTwinRobot K) : DigitalTwinRobot K :=
  if twin.state = .estop then { twin with state := .idle } else twin

section Step
variable [FloorRing K] [SquareRoot K]

def jointStep (twin : DigitalTwinRobot K) (dt : K) (name : JointName) : JointStep K :=
  stepJoint (twin.model.joint name) twin.commandVelocityLimit twin.commandAccelerationLimit
    (twin.targets name) dt (twin.positions name) (twin.velocities name)

def advance (twin : DigitalTwinRobot K) (dt : K) : DigitalTwinRobot K :=
  { twin with uptimeMs := min 0xFFFFFFFF (twin.uptimeMs+roundHalfEven (dt*1000)) }

/-- A step of a stopped twin: only the clock and the holding currents change. -/
def held (twin : DigitalTwinRobot K) (dt : K) : DigitalTwinRobot K :=
  { twin.advance dt with currents := fun _ => 60 }

/-- A step of a twin that is not stopped. -/
def moved (twin : DigitalTwinRobot K) (dt : K) : DigitalTwinRobot K :=
  { twin.advance dt with
    positions := fun name => (twin.jointStep dt name).position
    velocities := fun name => (twin.jointStep dt name).velocity
    currents := fun name => (twin.jointStep dt name).current
    state :=
      if twin.model.jointNames.any (fun name => (twin.jointStep dt name).moving) then .executing
      else .idle }

def step (twin : DigitalTwinRobot K) (dt : K) :
    Except (DigitalTwinError K) (DigitalTwinRobot K) :=
  if dt ≤ 0 then .error .stepNotPositive
  else if twin.state = .estop then .ok (twin.held dt)
  else .ok (twin.moved dt)

end Step

def telemetry [FloorRing K] (twin : DigitalTwinRobot K) (flags : ℤ) : RobotTelemetry where
  uptimeMs := twin.uptimeMs
  state := twin.state
  flags := flags
  supplyMv := twin.supplyMv
  joints := twin.model.jointNames.map (fun name =>
    { jointId := (twin.model.joint name).protocolId
      positionCdeg := roundHalfEven (twin.positions name*100)
      velocityCdegS := roundHalfEven (twin.velocities name*100)
      currentMa := twin.currents name })

/-- What a target of a command leaves of the target of the joint `jointId`. -/
def retarget (jointId : ℕ) (current : K) (target : JointTarget) : K :=
  if target.jointId = (jointId : ℤ) then target.targetCdeg/100 else current

/-- The target a command asks of a joint: the last one that names it. -/
def requested (twin : DigitalTwinRobot K) (command : ValidatedMotionCommand) (name : JointName) :
    K :=
  command.targets.foldl (retarget (twin.model.joint name).protocolId) (twin.targets name)

/-- What `accept` demands of a command. -/
structure Admits (twin : DigitalTwinRobot K) (command : ValidatedMotionCommand) : Prop where
  joints_known : ∀ target ∈ command.targets,
    ∃ name, target.jointId = (twin.model.joint name).protocolId
  within_limits : twin.model.WithinLimits (twin.requested command)

theorem idToName_eq_some_iff (twin : DigitalTwinRobot K) (jointId : ℤ) (name : JointName) :
    twin.idToName jointId = some name ↔ jointId = (twin.model.joint name).protocolId := by
  unfold idToName
  constructor
  · intro h
    have hid := List.find?_some h
    simp only [decide_eq_true_eq] at hid
    exact hid.symm
  · intro h
    cases hfind : twin.model.jointNames.find?
        (fun name => ((twin.model.joint name).protocolId : ℤ) = jointId) with
    | none =>
      have hnone := List.find?_eq_none.mp hfind name (twin.model.profile.order_complete name)
      simp only [decide_eq_true_eq] at hnone
      exact absurd h.symm hnone
    | some other =>
      -- the ids are unique, so the joint that was found is the one meant
      have hid := List.find?_some hfind
      simp only [decide_eq_true_eq] at hid
      rw [twin.model.profile.ids_unique other name (by exact_mod_cast hid.trans h)]

/-- A merge sets what was last requested of each joint. -/
theorem mergeTargets_eq_ok_iff (twin : DigitalTwinRobot K) (requests : List JointTarget)
    (targets merged : JointName → K) :
    twin.mergeTargets requests targets = .ok merged ↔
      (∀ target ∈ requests, ∃ name, target.jointId = (twin.model.joint name).protocolId) ∧
      merged = fun name =>
        requests.foldl (retarget (twin.model.joint name).protocolId) (targets name) := by
  induction requests generalizing targets with
  | nil =>
    simp only [mergeTargets, Except.ok.injEq, List.not_mem_nil, false_imp_iff, implies_true,
      List.foldl_nil, true_and]
    exact eq_comm
  | cons target rest ih =>
    rw [mergeTargets, List.forall_mem_cons]
    cases hname : twin.idToName target.jointId with
    | none =>
      -- the merge raises at a request that names no joint
      simp only [reduceCtorEq, false_iff]
      rintro ⟨⟨⟨name, hid⟩, _⟩, _⟩
      rw [(twin.idToName_eq_some_iff _ name).mpr hid] at hname
      cases hname
    | some name =>
      have hid := (twin.idToName_eq_some_iff _ name).mp hname
      simp only [ih, List.foldl_cons]
      have hupdate (other : JointName) :
          Function.update targets name (target.targetCdeg/100 : K) other =
            retarget (twin.model.joint other).protocolId (targets other) target := by
        rw [Function.update_apply, retarget]
        by_cases hother : other = name
        · rw [if_pos hother, if_pos (by rw [hother]; exact hid)]
        · have hne : ¬ target.jointId = (twin.model.joint other).protocolId := by
            intro h
            apply hother
            apply twin.model.profile.ids_unique
            exact_mod_cast h.symm.trans hid
          rw [if_neg hother, if_neg hne]
      simp only [hupdate]
      exact and_congr_left fun _ => ⟨fun h => ⟨⟨name, hid⟩, h⟩, fun h => h.2⟩

theorem accept_eq_ok_iff (twin after : DigitalTwinRobot K) (command : ValidatedMotionCommand) :
    twin.accept command = .ok after ↔
      twin.Admits command ∧ after = twin.commanded command (twin.requested command) := by
  simp only [accept, bind_eq_ok_iff, mergeTargets_eq_ok_iff, mapError_eq_ok_iff, pure_eq_ok_iff,
    RobotModel.validateJointPositions_eq_ok_iff]
  constructor
  · rintro ⟨_, ⟨hknown, rfl⟩, _, hlimits, rfl⟩
    exact ⟨⟨hknown, hlimits⟩, rfl⟩
  · rintro ⟨hadmits, rfl⟩
    exact ⟨_, ⟨hadmits.joints_known, rfl⟩, (), hadmits.within_limits, rfl⟩

/-- The statements of `accept`, in their order, on the object itself. -/
def acceptInPlace (command : ValidatedMotionCommand) :
    ExceptT (DigitalTwinError K) (StateM (DigitalTwinRobot K)) Unit := do
  let twin ← get
  let targets ← MonadExcept.ofExcept (twin.mergeTargets command.targets twin.targets)
  MonadExcept.ofExcept ((twin.model.validateJointPositions targets).mapError .violatesModel)
  modify fun t => { t with targets := targets }
  modify fun t => { t with commandVelocityLimit := command.maxVelocityCdegS/100 }
  modify fun t => { t with commandAccelerationLimit := commandAcceleration command }
  modify fun t => { t with state := .executing }

/-- The object is assigned to only after the last check. -/
theorem acceptInPlace_ok (twin after : DigitalTwinRobot K) (command : ValidatedMotionCommand)
    (h : twin.accept command = .ok after) :
    (acceptInPlace command).run.run twin = (.ok (), after) := by
  simp only [accept, bind_eq_ok_iff, pure_eq_ok_iff] at h
  obtain ⟨targets, hmerge, u, hlimits, rfl⟩ := h
  unfold acceptInPlace
  rw [run_get_bind, run_ofExcept_ok _ _ _ targets hmerge, run_ofExcept_ok _ _ _ u hlimits]
  rfl

theorem acceptInPlace_error (twin : DigitalTwinRobot K) (command : ValidatedMotionCommand)
    (error : DigitalTwinError K) (h : twin.accept command = .error error) :
    (acceptInPlace command).run.run twin = (.error error, twin) := by
  unfold accept at h
  unfold acceptInPlace
  rw [run_get_bind]
  cases hmerge : twin.mergeTargets command.targets twin.targets with
  | error raised =>
    rw [hmerge] at h
    rw [run_ofExcept_error _ _ _ raised rfl, ← Except.error.inj h]
  | ok targets =>
    rw [hmerge] at h
    rw [run_ofExcept_ok _ _ _ targets rfl]
    cases hlimits : twin.model.validateJointPositions targets with
    | error raised =>
      change (((twin.model.validateJointPositions targets).mapError _) >>= _) = _ at h
      rw [hlimits] at h
      exact (run_ofExcept_error _ _ _ _ rfl).trans (by rw [Except.error.inj h])
    | ok u =>
      change (((twin.model.validateJointPositions targets).mapError _) >>= _) = _ at h
      rw [hlimits] at h
      cases h

/-- What a call leaves, and whether it raised: then it left the twin as it was. -/
def finish (twin : DigitalTwinRobot K) :
    Except (DigitalTwinError K) (DigitalTwinRobot K) →
      DigitalTwinRobot K × Option (DigitalTwinError K)
  | .ok after => (after, none)
  | .error error => (twin, some error)

theorem finish_cases (twin : DigitalTwinRobot K)
    (result : Except (DigitalTwinError K) (DigitalTwinRobot K)) :
    result = .ok (twin.finish result).1 ∨ (twin.finish result).1 = twin := by
  cases result with
  | ok after => exact .inl rfl
  | error error => exact .inr rfl

end DigitalTwinRobot

inductive TwinCall (K : Type)
  | accept (command : ValidatedMotionCommand)
  | step (dt : K)
  | estop
  | resetEstop

namespace DigitalTwinRobot
variable {K : Type} [Field K] [LinearOrder K] [FloorRing K] [SquareRoot K]

def call (twin : DigitalTwinRobot K) :
    TwinCall K → DigitalTwinRobot K × Option (DigitalTwinError K)
  | .accept command => twin.finish (twin.accept command)
  | .step dt => twin.finish (twin.step dt)
  | .estop => (twin.estop, none)
  | .resetEstop => (twin.resetEstop, none)

theorem step_eq_ok_iff (twin after : DigitalTwinRobot K) (dt : K) :
    twin.step dt = .ok after ↔ 0 < dt ∧
      (twin.state = .estop ∧ after = twin.held dt ∨
        twin.state ≠ .estop ∧ after = twin.moved dt) := by
  unfold step
  by_cases hdt : dt ≤ 0
  · rw [if_pos hdt]
    simp only [reduceCtorEq, false_iff, not_and]
    exact fun h => absurd hdt (not_le.mpr h)
  · rw [if_neg hdt]
    by_cases hstop : twin.state = .estop
    · rw [if_pos hstop]
      simp only [Except.ok.injEq, not_le.mp hdt, hstop, true_and, ne_eq, not_true_eq_false,
        false_and, or_false, eq_comm]
    · rw [if_neg hstop]
      simp only [Except.ok.injEq, not_le.mp hdt, hstop, true_and, ne_eq, not_false_eq_true,
        false_and, false_or, eq_comm]

theorem call_accept (twin : DigitalTwinRobot K) (command : ValidatedMotionCommand)
    (h : twin.Admits command) :
    (twin.call (.accept command)).1 = twin.commanded command (twin.requested command) := by
  rw [call, (twin.accept_eq_ok_iff _ command).mpr ⟨h, rfl⟩]
  rfl

theorem call_step (twin : DigitalTwinRobot K) (dt : K) (hdt : 0 < dt)
    (hstate : twin.state ≠ .estop) : (twin.call (.step dt)).1 = twin.moved dt := by
  rw [call, (twin.step_eq_ok_iff _ dt).mpr ⟨hdt, .inr ⟨hstate, rfl⟩⟩]
  rfl

/-- What a call can do to a twin: nothing, where it raises or finds nothing to do, or one of these
updates. -/
inductive Performs (twin : DigitalTwinRobot K) : TwinCall K → DigitalTwinRobot K → Prop
  | nothing (c : TwinCall K) : Performs twin c twin
  | accepted (command : ValidatedMotionCommand) (hadmits : twin.Admits command) :
      Performs twin (.accept command) (twin.commanded command (twin.requested command))
  | held (dt : K) (hdt : 0 < dt) (hstopped : twin.state = .estop) :
      Performs twin (.step dt) (twin.held dt)
  | moved (dt : K) (hdt : 0 < dt) (hrunning : twin.state ≠ .estop) :
      Performs twin (.step dt) (twin.moved dt)
  | stopped : Performs twin .estop twin.estop
  | released (hstopped : twin.state = .estop) :
      Performs twin .resetEstop { twin with state := .idle }

theorem performs_call (twin : DigitalTwinRobot K) (c : TwinCall K) :
    twin.Performs c (twin.call c).1 := by
  cases c with
  | accept command =>
    rcases twin.finish_cases (twin.accept command) with hok | hkept
    · obtain ⟨hadmits, hafter⟩ := (twin.accept_eq_ok_iff _ command).mp hok
      rw [call, hafter]
      exact .accepted command hadmits
    · rw [call, hkept]
      exact .nothing _
  | step dt =>
    rcases twin.finish_cases (twin.step dt) with hok | hkept
    · obtain ⟨hdt, ⟨hstopped, hafter⟩ | ⟨hrunning, hafter⟩⟩ := (twin.step_eq_ok_iff _ dt).mp hok
      · rw [call, hafter]
        exact .held dt hdt hstopped
      · rw [call, hafter]
        exact .moved dt hdt hrunning
    · rw [call, hkept]
      exact .nothing _
  | estop => exact .stopped
  | resetEstop =>
    unfold call resetEstop
    split_ifs with hstopped
    · exact .released hstopped
    · exact .nothing _

theorem model_call (twin : DigitalTwinRobot K) (c : TwinCall K) :
    (twin.call c).1.model = twin.model := by
  have hperforms := twin.performs_call c
  generalize (twin.call c).1 = after at hperforms ⊢
  cases hperforms <;> rfl

section ReferenceArm
variable {K : Type} [Field K] [LinearOrder K] [IsStrictOrderedRing K]

/-- A command for the base joint alone. -/
def moveBase (targetCdeg maxVelocityCdegS maxAccelerationCdegS2 : ℤ) : ValidatedMotionCommand where
  commandId := .zero
  ttlMs := 250
  mode := .position
  targets := [⟨1, targetCdeg⟩]
  maxVelocityCdegS := maxVelocityCdegS
  maxAccelerationCdegS2 := maxAccelerationCdegS2

theorem requested_moveBase (twin : DigitalTwinRobot K) (hmodel : twin.model = referenceArm K)
    (target v a : ℤ) (name : JointName) :
    twin.requested (moveBase target v a) name =
      if name = .base then (target/100 : K) else twin.targets name := by
  unfold requested moveBase
  rw [hmodel]
  cases name <;> rfl

theorem admits_moveBase (twin : DigitalTwinRobot K) (hmodel : twin.model = referenceArm K)
    (htargets : twin.model.WithinLimits twin.targets) (target v a : ℤ) (hlow : -13500 ≤ target)
    (hhigh : target ≤ 13500) : twin.Admits (moveBase target v a) := by
  constructor
  · intro requested hrequested
    refine ⟨.base, ?_⟩
    rw [hmodel, List.mem_singleton.mp hrequested]
    rfl
  · intro name
    unfold RobotModel.Contains
    rw [requested_moveBase twin hmodel]
    split_ifs with hname
    · have hlow' : (-13500 : K) ≤ target := by exact_mod_cast hlow
      have hhigh' : (target : K) ≤ 13500 := by exact_mod_cast hhigh
      rw [hmodel, hname]
      change ((-135 : ℤ) : K) ≤ target/100 ∧ (target/100 : K) ≤ ((135 : ℤ) : K)
      push_cast
      constructor <;> linarith
    · exact htargets name

end ReferenceArm
end DigitalTwinRobot
end RoboticCharacter
