import RoboticCharacter.RobotController
import RoboticCharacter.SafetyAuthorization
import Mathlib.Analysis.SpecialFunctions.Trigonometric.Complex

/-! The supervisor of the simulation, with the sampled workspace as its envelope, and which
planned motions it approves. -/
namespace RoboticCharacter.Simulation
open PythonMath Fallible Safety Robotics DigitalTwinRobot

/-- What building the supervisor raises. -/
inductive SupervisorError (K : Type)
  | kinematics (error : KinematicsError K)
  | safety (message : String)

def workspaceBounds {K : Type} (workspace : WorkspaceEstimate K) : WorkspaceBounds K where
  minXMm := some (.finite workspace.minXMm)
  maxXMm := some (.finite workspace.maxXMm)
  minYMm := some (.finite workspace.minYMm)
  maxYMm := some (.finite workspace.maxYMm)
  minZMm := some (.finite workspace.minZMm)
  maxZMm := some (.finite workspace.maxZMm)
  verified := true

section Envelope
variable {K : Type} [Field K] [LinearOrder K]

def jointConstraint (arm : ArmModel K) (name : JointName) : JointConstraint K where
  name := name.name
  minDeg := some (.finite (arm.joint name).lowerDeg)
  maxDeg := some (.finite (arm.joint name).upperDeg)
  neutralDeg := some (.finite (arm.joint name).homeDeg)
  verified := true

def motionPolicy (arm : ArmModel K) : MotionSafetyPolicy K where
  commandTtlMs := .finite 250
  heartbeatTimeoutMs := .finite 500
  maxVelocityDegS := .finite arm.globalVelocityLimit
  maxAccelerationDegS2 := .finite arm.globalAccelerationLimit

def simulationEnvelope (arm : ArmModel K) (workspace : WorkspaceEstimate K) :
    SafetyEnvelope K where
  joints := jointDict arm.toRobotModel (jointConstraint arm)
  workspace := workspaceBounds workspace
  allowedStates := {.armed}
  robotVerified := true
  servosVerified := true
  motionPolicy := some (motionPolicy arm)

def simulationLifecyclePolicy : SafetyLifecyclePolicy K where
  heartbeatTimeoutMs := .finite 500

variable [Trigonometry K] [ToString K]

def buildSimulationSupervisor (arm : ArmModel K) :
    Except (SupervisorError K) (MotionSafetySupervisor K) := do
  let workspace ← (arm.estimateWorkspace 5).mapError .kinematics
  let supervisor ← (MotionSafetySupervisor.create (simulationEnvelope arm workspace)
    simulationLifecyclePolicy).mapError .safety
  return supervisor.perform .armWatchdog

end Envelope

section Lookup
variable {K β : Type} [Zero K] [LinearOrder K]

theorem lookup_jointDict (m : RobotModel K) (value : JointName → β) (name : JointName) :
    (jointDict m value).lookup name.name = some (value name) := by
  apply AList.mem_lookup_iff.mpr
  exact List.mem_map_of_mem (m.profile.order_complete name)

theorem mem_jointDict_iff (m : RobotModel K) (value : JointName → β) (key : String) :
    key ∈ jointDict m value ↔ ∃ name : JointName, name.name = key := by
  rw [AList.mem_keys]
  change key ∈ List.map Sigma.fst (jointEntries m value) ↔ _
  unfold jointEntries
  rw [List.map_map]
  constructor
  · intro h
    obtain ⟨name, -, hname⟩ := List.mem_map.mp h
    exact ⟨name, hname⟩
  · rintro ⟨name, hname⟩
    exact List.mem_map.mpr ⟨name, m.profile.order_complete name, hname⟩

theorem lookup_jointDict_cases (m : RobotModel K) (value : JointName → β) {key : String} {found : β}
    (h : (jointDict m value).lookup key = some found) :
    ∃ name : JointName, name.name = key ∧ found = value name := by
  have hmem : key ∈ jointDict m value := AList.lookup_isSome.mp (by rw [h]; rfl)
  obtain ⟨name, rfl⟩ := (mem_jointDict_iff m value key).mp hmem
  rw [lookup_jointDict] at h
  exact ⟨name, rfl, (Option.some.inj h).symm⟩

end Lookup

section Approval
variable {K : Type} [LinearOrder K]

theorem verifiedComplete_workspaceBounds (workspace : WorkspaceEstimate K) :
    (workspaceBounds workspace).verifiedComplete = true ↔
      ∀ axis, workspace.lower axis < workspace.upper axis := by
  simp only [WorkspaceBounds.verifiedComplete, workspaceBounds, ExtendedNumber.lt,
    Bool.and_eq_true, decide_eq_true_eq]
  constructor
  · intro h axis
    cases axis with
    | x => exact h.1.1
    | y => exact h.1.2
    | z => exact h.2
  · intro h
    exact ⟨⟨h .x, h .y⟩, h .z⟩

def finitePoint (pose : CartesianPose K) : CartesianPoint K where
  xMm := .finite pose.xMm
  yMm := .finite pose.yMm
  zMm := .finite pose.zMm

theorem contains_workspaceBounds (workspace : WorkspaceEstimate K) (pose : CartesianPose K) :
    (workspaceBounds workspace).contains (finitePoint pose) = true ↔
      (∀ axis, workspace.lower axis < workspace.upper axis) ∧ ∀ axis,
        workspace.lower axis ≤ pose.along axis ∧ pose.along axis ≤ workspace.upper axis := by
  have hcomplete := verifiedComplete_workspaceBounds workspace
  constructor
  · intro h
    have hverified := (WorkspaceBounds.verifiedComplete_of_contains _ _ h).1
    refine ⟨hcomplete.mp hverified, ?_⟩
    unfold WorkspaceBounds.contains at h
    rw [hverified] at h
    simp only [workspaceBounds, finitePoint, CartesianPoint.finite, ExtendedNumber.isFinite,
      ExtendedNumber.le, Bool.true_eq_false, Bool.and_self, or_self, if_false, Bool.and_eq_true,
      decide_eq_true_eq] at h
    intro axis
    cases axis with
    | x => exact h.1.1
    | y => exact h.1.2
    | z => exact h.2
  · rintro ⟨hspread, hbetween⟩
    unfold WorkspaceBounds.contains
    rw [hcomplete.mpr hspread]
    simp only [workspaceBounds, finitePoint, CartesianPoint.finite, ExtendedNumber.isFinite,
      ExtendedNumber.le, Bool.true_eq_false, Bool.and_self, or_self, if_false, Bool.and_eq_true,
      decide_eq_true_eq]
    exact ⟨⟨hbetween .x, hbetween .y⟩, hbetween .z⟩

variable [Field K]

theorem verifiedComplete_jointConstraint (arm : ArmModel K) (name : JointName) :
    (jointConstraint arm name).verifiedComplete = true := by
  have hlow := (arm.joint name).lower_lt_home
  have hhigh := (arm.joint name).home_lt_upper
  simp only [JointConstraint.verifiedComplete, jointConstraint, ExtendedNumber.lt, hlow, hhigh,
    decide_true, Bool.and_self]

theorem contains_jointConstraint (arm : ArmModel K) (name : JointName) (value : K) :
    (jointConstraint arm name).contains (.finite value) = true ↔
      (arm.joint name).lowerDeg ≤ value ∧ value ≤ (arm.joint name).upperDeg := by
  unfold JointConstraint.contains
  rw [verifiedComplete_jointConstraint]
  simp only [jointConstraint, ExtendedNumber.isFinite, ExtendedNumber.le, Bool.true_eq_false,
    or_self, if_false, Bool.and_eq_true, decide_eq_true_eq]

section Supervisor
variable [Trigonometry K] [ToString K] [IsStrictOrderedRing K]

/-- The supervisor of a model is always built, armed and not latched. -/
theorem buildSimulationSupervisor_spec (arm : ArmModel K) : ∃ workspace supervisor,
    arm.estimateWorkspace 5 = .ok workspace ∧ buildSimulationSupervisor arm = .ok supervisor ∧
      supervisor.envelope = simulationEnvelope arm workspace ∧
      supervisor.lifecycleSnapshot.estopLatched = false ∧
      supervisor.lifecycleSnapshot.watchdogArmed = true ∧
      ∀ pose, arm.InSampledBox 5 pose ↔
        (workspaceBounds workspace).contains (finitePoint pose) = true := by
  have hfive : 2 ≤ 5 := by omega
  obtain ⟨workspace, hworkspace, hbounds⟩ := arm.estimateWorkspace_spec hfive
  have hvalid : (simulationLifecyclePolicy : SafetyLifecyclePolicy K).valid = true := by
    have hpositive : (0 : K) < 500 := by norm_num
    simp only [SafetyLifecyclePolicy.valid, simulationLifecyclePolicy, isPositive,
      ExtendedNumber.isFinite, ExtendedNumber.lt, hpositive, decide_true, Bool.and_self]
  have hcreate : ∃ supervisor, MotionSafetySupervisor.create (simulationEnvelope arm workspace)
      simulationLifecyclePolicy = .ok supervisor ∧
        supervisor.envelope = simulationEnvelope arm workspace ∧
        supervisor.lifecycle.snapshot = {} := by
    have hcontroller : SafetyLifecycleController.new (simulationLifecyclePolicy :
        SafetyLifecyclePolicy K) = .ok ⟨simulationLifecyclePolicy, {}, hvalid⟩ := dif_pos hvalid
    have hmatch : ∀ policy ∈ (simulationEnvelope arm workspace).motionPolicy,
        policy.heartbeatTimeoutMs.eq
          (simulationLifecyclePolicy : SafetyLifecyclePolicy K).heartbeatTimeoutMs = true := by
      intro policy hpolicy
      rw [← Option.some.inj hpolicy]
      apply (ExtendedNumber.eq_iff _ _).mpr
      refine ⟨rfl, ?_⟩
      intro hnan
      cases hnan
    refine ⟨⟨simulationEnvelope arm workspace, ⟨simulationLifecyclePolicy, {}, hvalid⟩, hmatch⟩,
      ?_, rfl, rfl⟩
    unfold MotionSafetySupervisor.create
    rw [hcontroller]
    exact dif_pos hmatch
  obtain ⟨supervisor, hcreated, henvelope, hsnapshot⟩ := hcreate
  have harmed : (supervisor.perform .armWatchdog).lifecycleSnapshot =
      (supervisor.lifecycle.armWatchdog).snapshot := rfl
  refine ⟨workspace, supervisor.perform .armWatchdog, hworkspace, ?_, henvelope, ?_, ?_, ?_⟩
  · unfold buildSimulationSupervisor
    rw [hworkspace]
    simp only [Except.mapError, bind, Except.bind, hcreated]
    rfl
  · rw [harmed, SafetyLifecycleController.armWatchdog, hsnapshot]
    exact congrArg SafetyLifecycleSnapshot.estopLatched hsnapshot
  · rw [harmed, SafetyLifecycleController.armWatchdog, hsnapshot]
    rfl
  · intro pose
    rw [contains_workspaceBounds, arm.inSampledBox_iff 5 pose hbounds]

end Supervisor

theorem finiteIn_zero {limit : K} (h : 0 ≤ limit) :
    ExtendedNumber.FiniteIn (.finite 0) (.finite limit) (.finite (0 : K)) :=
  ⟨rfl, decide_eq_true le_rfl, decide_eq_true h⟩

theorem rateAdmitted_of_le {limit rate : K} (h : |rate| ≤ limit) :
    RateAdmitted (.finite limit) (.finite rate) := ⟨rfl, decide_eq_true h⟩

section Rates
variable [IsStrictOrderedRing K]

theorem motionPolicy_valid (arm : ArmModel K) : (motionPolicy arm).valid = true := by
  have hpositive (value : K) (h : 0 < value) : isPositive (.finite value) = true := by
    simp only [isPositive, ExtendedNumber.isFinite, ExtendedNumber.lt, h, decide_true,
      Bool.and_self]
  have httl := hpositive 250 (by norm_num)
  have hbeat := hpositive 500 (by norm_num)
  have hvelocity := hpositive _ arm.globalVelocityLimit_pos
  have hacceleration := hpositive _ arm.globalAccelerationLimit_pos
  simp only [MotionSafetyPolicy.valid, motionPolicy, List.all_cons, List.all_nil, httl, hbeat,
    hvelocity, hacceleration, Bool.and_self]

end Rates
end Approval

section Planned
variable {arm : ArmModel ℝ} {workspace : WorkspaceEstimate ℝ} {planned : Robotics.PlannedMotion ℝ}
  {currentJointsDeg targetJointsDeg : JointName → ℝ}

/-- The inputs with the arguments of a fresh command. -/
noncomputable def freshInputs (arm : ArmModel ℝ) (planned : Robotics.PlannedMotion ℝ) :
    MotionCandidate ℝ × MotionDynamics ℝ :=
  arm.terminalSafetyInputs planned .armed false (.finite 0) (.finite 0)

theorem planned_dynamicallySafe (workspace : WorkspaceEstimate ℝ)
    (hplanned : arm.EndsAt currentJointsDeg targetJointsDeg planned) :
    DynamicallySafe (simulationEnvelope arm workspace) (motionPolicy arm)
      (freshInputs arm planned).1 (freshInputs arm planned).2 := by
  have hsampled : ∀ key ∈ (freshInputs arm planned).1.jointTargetsDeg,
      ∃ name : JointName, name.name = key := fun key hkey =>
    (mem_jointDict_iff _ _ key).mp hkey
  constructor
  · exact motionPolicy_valid arm
  · exact finiteIn_zero (by norm_num)
  · exact finiteIn_zero (by norm_num)
  · intro key hkey
    obtain ⟨name, rfl⟩ := hsampled key hkey
    refine ⟨_, lookup_jointDict _ _ name, rateAdmitted_of_le ?_⟩
    rw [hplanned.velocities, abs_zero]
    exact arm.globalVelocityLimit_pos.le
  · intro key hkey
    obtain ⟨name, rfl⟩ := hsampled key hkey
    refine ⟨_, lookup_jointDict _ _ name, rateAdmitted_of_le ?_⟩
    rw [hplanned.accelerations]
    exact arm.terminalAcceleration_le currentJointsDeg targetJointsDeg name
  · intro key hkey
    apply (mem_jointDict_iff _ _ key).mpr
    obtain hvelocity | hacceleration := hkey
    · exact (mem_jointDict_iff _ _ key).mp hvelocity
    · exact (mem_jointDict_iff _ _ key).mp hacceleration

/-- Of a plan within the limits only the pose can be unsafe. -/
theorem planned_staticallySafe_iff (workspace : WorkspaceEstimate ℝ)
    (hplanned : arm.EndsAt currentJointsDeg targetJointsDeg planned)
    (htarget : arm.WithinLimits targetJointsDeg) :
    StaticallySafe (simulationEnvelope arm workspace) (freshInputs arm planned).1 ↔
      (workspaceBounds workspace).contains (finitePoint (arm.poseOf targetJointsDeg)) = true := by
  have hpoint : (freshInputs arm planned).1.workspacePointMm =
      some (finitePoint (arm.poseOf targetJointsDeg)) := by
    rw [← hplanned.pose]
    rfl
  constructor
  · intro hsafe
    obtain ⟨point, hsame, -, hcontains⟩ := hsafe.point_admitted
    rw [hpoint] at hsame
    rwa [← Option.some.inj hsame] at hcontains
  · intro hcontains
    constructor
    · rfl
    · exact Finset.mem_singleton_self SystemState.armed
    · intro hempty
      have hbase := lookup_jointDict arm.toRobotModel
        (fun name => ExtendedNumber.finite (planned.targetJointsDeg name)) .base
      have hmem : _ ∈ (freshInputs arm planned).1.jointTargetsDeg.entries :=
        AList.mem_lookup_iff.mp hbase
      rw [hempty] at hmem
      exact List.not_mem_nil hmem
    · rfl
    · intro key target hlookup
      obtain ⟨name, rfl, rfl⟩ := lookup_jointDict_cases _ _ hlookup
      refine ⟨rfl, jointConstraint arm name, lookup_jointDict _ _ name,
        verifiedComplete_jointConstraint arm name, ?_⟩
      rw [hplanned.targets]
      exact (contains_jointConstraint arm name _).mpr (htarget name)
    · rfl
    · exact (WorkspaceBounds.verifiedComplete_of_contains _ _ hcontains).1
    · exact ⟨finitePoint (arm.poseOf targetJointsDeg), hpoint, rfl, hcontains⟩

variable [ToString ℝ]

theorem planned_approved_iff {supervisor : MotionSafetySupervisor ℝ}
    (hplanned : arm.EndsAt currentJointsDeg targetJointsDeg planned)
    (htarget : arm.WithinLimits targetJointsDeg)
    (henvelope : supervisor.envelope = simulationEnvelope arm workspace)
    (hlatched : supervisor.lifecycleSnapshot.estopLatched = false)
    (harmed : supervisor.lifecycleSnapshot.watchdogArmed = true) (uuid : Uuid) :
    (supervisor.evaluate (freshInputs arm planned).1 (freshInputs arm planned).2 uuid).2.approved
        = true ↔
      (workspaceBounds workspace).contains (finitePoint (arm.poseOf targetJointsDeg)) = true := by
  have hdynamic := planned_dynamicallySafe workspace hplanned
  have hstatic := planned_staticallySafe_iff workspace hplanned htarget
  constructor
  · intro happroved
    by_cases hsafe : supervisor.SafeToMove (freshInputs arm planned).1 (freshInputs arm planned).2
    · have hadmitted := hsafe.statically_safe
      rw [henvelope] at hadmitted
      exact hstatic.mp hadmitted
    · have hnone := supervisor.evaluate_of_unsafe _ _ uuid hsafe
      rw [MotionSafetyResult.approved_of_unauthorized _ hnone] at happroved
      cases happroved
  · intro hcontains
    have hadmitted := hstatic.mpr hcontains
    have hsafe : supervisor.SafeToMove (freshInputs arm planned).1 (freshInputs arm planned).2 := by
      refine ⟨hlatched, harmed, ?_, motionPolicy arm, ?_, ?_⟩
      · rw [henvelope]
        exact hadmitted
      · rw [henvelope]
        rfl
      · rw [henvelope]
        exact hdynamic
    obtain ⟨policy, point, -, -, hresult⟩ := supervisor.evaluate_of_safe _ _ uuid hsafe
    rw [hresult]
    rfl

/-- A planned motion is approved exactly when its pose lies, along every axis, between two
poses of the five by five by five samples. -/
theorem planned_motion_approved_iff (arm : ArmModel ℝ)
    (currentJointsDeg targetJointsDeg : JointName → ℝ)
    (hcurrent : arm.WithinLimits currentJointsDeg) (htarget : arm.WithinLimits targetJointsDeg)
    (samplePeriodS : ℝ) (hperiod : 0 < samplePeriodS) (uuid : Uuid) :
    ∃ planned supervisor,
      arm.planJointTargets currentJointsDeg targetJointsDeg samplePeriodS = .ok planned ∧
      buildSimulationSupervisor arm = .ok supervisor ∧
      ((supervisor.evaluate (freshInputs arm planned).1 (freshInputs arm planned).2 uuid).2.approved
          = true ↔ arm.InSampledBox 5 (arm.poseOf targetJointsDeg)) := by
  obtain ⟨planned, hplan, hends⟩ := arm.planJointTargets_of_within hcurrent htarget hperiod
  obtain ⟨workspace, supervisor, -, hbuild, henvelope, hlatched, harmed, hbox⟩ :=
    buildSimulationSupervisor_spec arm
  refine ⟨planned, supervisor, hplan, hbuild, ?_⟩
  rw [hbox]
  exact planned_approved_iff hends htarget henvelope hlatched harmed uuid

end Planned

/-! ### The repository's arm -/

theorem poseOf_referenceArm (base shoulder elbow gripper : ℝ) :
    referenceArmModel.poseOf (jointVector base shoulder elbow gripper) =
      { xMm := (120*Real.cos (radians shoulder)+175*Real.cos (radians shoulder+radians elbow))*
          Real.cos (radians base)
        yMm := (120*Real.cos (radians shoulder)+175*Real.cos (radians shoulder+radians elbow))*
          Real.sin (radians base)
        zMm := 80+120*Real.sin (radians shoulder)+
          175*Real.sin (radians shoulder+radians elbow) } := by
  have hdistal : (120 : ℝ)+((55 : ℕ) : ℝ) = 175 := by norm_num
  have hshoulder : ((120 : ℕ) : ℝ) = 120 := by norm_num
  have hheight : ((80 : ℕ) : ℝ) = 80 := by norm_num
  unfold ArmModel.poseOf referenceArmModel referenceModel referenceGeometry
  simp only [hshoulder, hdistal, hheight]
  rfl

/-- The samples of the base are 67.5 degrees apart. -/
theorem mem_baseSamples_iff (value : ℝ) : value ∈ referenceArmModel.axisSamples 5 .base ↔
    ∃ index : ℕ, index < 5 ∧ value = -135+135/2*(index : ℝ) := by
  have hvalue (index : ℕ) : ((-135 : ℤ) : ℝ)+(((135 : ℤ) : ℝ)-((-135 : ℤ) : ℝ))*(index : ℝ)/
      ((5-1 : ℕ) : ℝ) = -135+135/2*(index : ℝ) := by
    push_cast
    ring
  unfold ArmModel.axisSamples
  simp only [List.mem_map, List.mem_range]
  constructor
  · rintro ⟨index, hindex, rfl⟩
    exact ⟨index, hindex, hvalue index⟩
  · rintro ⟨index, hindex, rfl⟩
    exact ⟨index, hindex, hvalue index⟩

/-- None of them points along the y axis. -/
theorem cos_baseSample_ne_zero {value : ℝ} (h : value ∈ referenceArmModel.axisSamples 5 .base) :
    Real.cos (radians value) ≠ 0 := by
  obtain ⟨index, hindex, rfl⟩ := (mem_baseSamples_iff value).mp h
  intro hzero
  obtain ⟨k, hk⟩ := Real.cos_eq_zero_iff.mp hzero
  have hangle : (-135+135/2*(index : ℝ))*(Real.pi/180) = (2*(k : ℝ)+1)*Real.pi/2 := hk
  have hpi := Real.pi_pos.ne'
  have hcancel : 3*(index : ℝ) = 8*(k : ℝ)+10 := by
    apply mul_right_cancel₀ hpi
    linarith
  have hinteger : 3*(index : ℤ) = 8*k+10 := by exact_mod_cast hcancel
  omega

theorem y_baseSample_lt {base shoulder elbow gripper : ℝ}
    (h : base ∈ referenceArmModel.axisSamples 5 .base) :
    (referenceArmModel.poseOf (jointVector base shoulder elbow gripper)).yMm < 295 := by
  rw [poseOf_referenceArm]
  have hsin : |Real.sin (radians base)| < 1 := by
    apply (sq_lt_one_iff_abs_lt_one _).mp
    have hsum := Real.sin_sq_add_cos_sq (radians base)
    have hcos := sq_pos_of_ne_zero (cos_baseSample_ne_zero h)
    linarith
  have hradial : |120*Real.cos (radians shoulder)+175*Real.cos (radians shoulder+radians elbow)| ≤
      295 := by
    have hfirst := abs_le.mp (Real.abs_cos_le_one (radians shoulder))
    have hsecond := abs_le.mp (Real.abs_cos_le_one (radians shoulder+radians elbow))
    apply abs_le.mpr
    constructor
    · linarith
    · linarith
  calc _ ≤ |_| := le_abs_self _
    _ = |120*Real.cos (radians shoulder)+175*Real.cos (radians shoulder+radians elbow)| *
        |Real.sin (radians base)| := abs_mul _ _
    _ ≤ 295*|Real.sin (radians base)| := mul_le_mul_of_nonneg_right hradial (abs_nonneg _)
    _ < 295*1 := mul_lt_mul_of_pos_left hsin (by norm_num)
    _ = 295 := mul_one 295

/-- The texts of refusals are of no account here. -/
local instance toStringReal : ToString ℝ := ⟨fun _ => ""⟩

/-- The arm stretched out along the y axis. -/
def stretchedSideways : JointName → ℝ := jointVector 90.0 0 0 20.0

theorem stretchedSideways_eq : stretchedSideways = jointVector 90 0 0 20 := by
  norm_num [stretchedSideways]

theorem stretchedSideways_within : referenceArmModel.WithinLimits stretchedSideways := by
  rw [stretchedSideways_eq]
  intro name
  cases name with
  | base =>
    change ((-135 : ℤ) : ℝ) ≤ 90 ∧ (90 : ℝ) ≤ ((135 : ℤ) : ℝ)
    norm_num
  | shoulder =>
    change ((-60 : ℤ) : ℝ) ≤ 0 ∧ (0 : ℝ) ≤ ((120 : ℤ) : ℝ)
    norm_num
  | elbow =>
    change ((-135 : ℤ) : ℝ) ≤ 0 ∧ (0 : ℝ) ≤ ((135 : ℤ) : ℝ)
    norm_num
  | gripper =>
    change ((0 : ℤ) : ℝ) ≤ 20 ∧ (20 : ℝ) ≤ ((70 : ℤ) : ℝ)
    norm_num

theorem y_stretchedSideways : (referenceArmModel.poseOf stretchedSideways).yMm = 295 := by
  have hquarter : radians (90 : ℝ) = Real.pi/2 := by
    change (90 : ℝ)*(Real.pi/180) = Real.pi/2
    ring
  have hzero : radians (0 : ℝ) = 0 := zero_mul _
  rw [stretchedSideways_eq, poseOf_referenceArm, hquarter, hzero, add_zero, Real.cos_zero,
    Real.sin_pi_div_two]
  norm_num

/-- The plan for this pose is refused: it reaches 295 mm sideways, and no sample does. -/
theorem planned_motion_refused : ∃ planned supervisor,
    referenceArmModel.planJointTargets referenceArmModel.home stretchedSideways (1/50) =
        .ok planned ∧
      buildSimulationSupervisor referenceArmModel = .ok supervisor ∧
      (supervisor.evaluate (freshInputs referenceArmModel planned).1
        (freshInputs referenceArmModel planned).2 .zero).2.approved = false := by
  obtain ⟨planned, hplan, hends⟩ := referenceArmModel.planJointTargets_of_within
    referenceArmModel.withinLimits_home stretchedSideways_within
    (by norm_num : (0 : ℝ) < 1/50)
  obtain ⟨workspace, supervisor, -, hbuild, henvelope, hlatched, harmed, hbox⟩ :=
    buildSimulationSupervisor_spec referenceArmModel
  refine ⟨planned, supervisor, hplan, hbuild, ?_⟩
  by_contra happroved
  have hcontains := (planned_approved_iff hends stretchedSideways_within henvelope hlatched harmed
    .zero).mp (Bool.eq_true_of_not_eq_false happroved)
  obtain ⟨v, hv, hbelow⟩ := ((hbox _).mpr hcontains).below .y
  obtain ⟨base, hbase, shoulder, -, elbow, -, rfl⟩ :=
    (referenceArmModel.mem_sampleVectors_iff 5 v).mp hv
  change (referenceArmModel.poseOf stretchedSideways).yMm ≤ _ at hbelow
  rw [y_stretchedSideways] at hbelow
  exact absurd hbelow (not_le.mpr (y_baseSample_lt hbase))

/-- The arm stretched out forwards and half up, which is a sample. -/
def stretchedUp : JointName → ℝ := jointVector 0 30.0 0 20.0

theorem stretchedUp_eq : stretchedUp = jointVector 0 30 0 20 := by
  norm_num [stretchedUp]

theorem stretched_sampled (baseIndex shoulderIndex : ℕ) (hbase : baseIndex < 5)
    (hshoulder : shoulderIndex < 5) :
    jointVector (-135+135/2*(baseIndex : ℝ)) (-60+45*(shoulderIndex : ℝ)) 0 20 ∈
      referenceArmModel.sampleVectors 5 := by
  apply (referenceArmModel.mem_sampleVectors_iff 5 _).mpr
  refine ⟨_, (mem_baseSamples_iff _).mpr ⟨baseIndex, hbase, rfl⟩, -60+45*(shoulderIndex : ℝ), ?_,
    0, ?_, ?_⟩
  · apply List.mem_map.mpr
    refine ⟨shoulderIndex, List.mem_range.mpr hshoulder, ?_⟩
    change ((-60 : ℤ) : ℝ)+(((120 : ℤ) : ℝ)-((-60 : ℤ) : ℝ))*(shoulderIndex : ℝ)/
      ((5-1 : ℕ) : ℝ) = -60+45*(shoulderIndex : ℝ)
    push_cast
    ring
  · apply List.mem_map.mpr
    refine ⟨2, List.mem_range.mpr (by decide), ?_⟩
    change ((-135 : ℤ) : ℝ)+(((135 : ℤ) : ℝ)-((-135 : ℤ) : ℝ))*((2 : ℕ) : ℝ)/((5-1 : ℕ) : ℝ) = 0
    norm_num
  · have hhome : referenceArmModel.home .gripper = 20 := by
      change ((20 : ℤ) : ℝ) = 20
      norm_num
    rw [hhome]

theorem stretchedUp_sampled : stretchedUp ∈ referenceArmModel.sampleVectors 5 := by
  have hsample := stretched_sampled 2 2 (by decide) (by decide)
  have hbase : (-135 : ℝ)+135/2*((2 : ℕ) : ℝ) = 0 := by norm_num
  have hshoulder : (-60 : ℝ)+45*((2 : ℕ) : ℝ) = 30 := by norm_num
  rwa [hbase, hshoulder, ← stretchedUp_eq] at hsample

theorem poseOf_stretched (base shoulder gripper : ℝ) :
    referenceArmModel.poseOf (jointVector base shoulder 0 gripper) =
      { xMm := 295*Real.cos (radians shoulder)*Real.cos (radians base)
        yMm := 295*Real.cos (radians shoulder)*Real.sin (radians base)
        zMm := 80+295*Real.sin (radians shoulder) } := by
  have hzero : radians (0 : ℝ) = 0 := zero_mul _
  rw [poseOf_referenceArm, hzero, add_zero]
  congr 1
  · ring
  · ring
  · ring

theorem stretchedUp_inSampledBox :
    referenceArmModel.InSampledBox 5 (referenceArmModel.poseOf stretchedUp) := by
  have hpi := Real.pi_pos
  have hthird : radians (30 : ℝ) = Real.pi/6 := by
    change (30 : ℝ)*(Real.pi/180) = Real.pi/6
    ring
  have hcos : 0 < Real.cos (radians (30 : ℝ)) := by
    rw [hthird]
    apply Real.cos_pos_of_mem_Ioo
    constructor <;> linarith
  refine ⟨?_, fun axis => ⟨stretchedUp, stretchedUp_sampled, le_rfl⟩,
    fun axis => ⟨stretchedUp, stretchedUp_sampled, le_rfl⟩⟩
  intro axis
  -- With the base at its upper limit the arm points backwards and sideways.
  have hback := stretched_sampled 4 2 (by decide) (by decide)
  have hbase : (-135 : ℝ)+135/2*((4 : ℕ) : ℝ) = 135 := by norm_num
  have hshoulder : (-60 : ℝ)+45*((2 : ℕ) : ℝ) = 30 := by norm_num
  rw [hbase, hshoulder] at hback
  have hangle : radians (135 : ℝ) = 3*Real.pi/4 := by
    change (135 : ℝ)*(Real.pi/180) = 3*Real.pi/4
    ring
  have hzero : radians (0 : ℝ) = 0 := zero_mul _
  cases axis with
  | x =>
    refine ⟨_, hback, stretchedUp, stretchedUp_sampled, ?_⟩
    have hneg : Real.cos (radians (135 : ℝ)) < 0 := by
      rw [hangle]
      apply Real.cos_neg_of_pi_div_two_lt_of_lt
      · linarith
      · linarith
    rw [stretchedUp_eq, poseOf_stretched, poseOf_stretched, hzero, Real.cos_zero]
    change 295*Real.cos (radians 30)*Real.cos (radians 135) < 295*Real.cos (radians 30)*1
    have hreach : 0 < 295*Real.cos (radians (30 : ℝ)) := mul_pos (by norm_num) hcos
    exact mul_lt_mul_of_pos_left (hneg.trans zero_lt_one) hreach
  | y =>
    refine ⟨stretchedUp, stretchedUp_sampled, _, hback, ?_⟩
    have hpos : 0 < Real.sin (radians (135 : ℝ)) := by
      rw [hangle]
      apply Real.sin_pos_of_pos_of_lt_pi
      · linarith
      · linarith
    rw [stretchedUp_eq, poseOf_stretched, poseOf_stretched, hzero, Real.sin_zero]
    change 295*Real.cos (radians 30)*0 < 295*Real.cos (radians 30)*Real.sin (radians 135)
    have hreach : 0 < 295*Real.cos (radians (30 : ℝ)) := mul_pos (by norm_num) hcos
    exact mul_lt_mul_of_pos_left hpos hreach
  | z =>
    -- With the shoulder at its lower limit the arm points down.
    have hdown := stretched_sampled 2 0 (by decide) (by decide)
    have hlowest : (-60 : ℝ)+45*((0 : ℕ) : ℝ) = -60 := by norm_num
    rw [hlowest] at hdown
    refine ⟨_, hdown, stretchedUp, stretchedUp_sampled, ?_⟩
    have hbelow : radians (-60 : ℝ) = -(Real.pi/3) := by
      change (-60 : ℝ)*(Real.pi/180) = -(Real.pi/3)
      ring
    have hneg : Real.sin (radians (-60 : ℝ)) < 0 := by
      rw [hbelow]
      apply Real.sin_neg_of_neg_of_neg_pi_lt
      · linarith
      · linarith
    have hpos : 0 < Real.sin (radians (30 : ℝ)) := by
      rw [hthird]
      apply Real.sin_pos_of_pos_of_lt_pi
      · linarith
      · linarith
    rw [stretchedUp_eq, poseOf_stretched, poseOf_stretched]
    change 80+295*Real.sin (radians (-60)) < 80+295*Real.sin (radians 30)
    linarith

theorem stretchedUp_within : referenceArmModel.WithinLimits stretchedUp :=
  referenceArmModel.sampleVectors_within (by decide : 2 ≤ 5) stretchedUp_sampled

theorem planned_motion_approved_stretchedUp : ∃ planned supervisor,
    referenceArmModel.planJointTargets referenceArmModel.home stretchedUp (1/50) = .ok planned ∧
      buildSimulationSupervisor referenceArmModel = .ok supervisor ∧
      (supervisor.evaluate (freshInputs referenceArmModel planned).1
        (freshInputs referenceArmModel planned).2 .zero).2.approved = true := by
  obtain ⟨planned, supervisor, hplan, hbuild, happroved⟩ :=
    planned_motion_approved_iff referenceArmModel referenceArmModel.home stretchedUp
      referenceArmModel.withinLimits_home stretchedUp_within (1/50) (by norm_num) .zero
  exact ⟨planned, supervisor, hplan, hbuild, happroved.mpr stretchedUp_inSampledBox⟩

end RoboticCharacter.Simulation
