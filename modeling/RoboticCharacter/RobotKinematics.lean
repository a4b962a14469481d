import RoboticCharacter.RobotReferenceModel
import RoboticCharacter.Fallible
import Mathlib.Analysis.SpecialFunctions.Trigonometric.Basic
import Mathlib.Order.Bounds.Basic

/-! Forward kinematics of the three-axis arm, and the workspace that a grid of its poses spans. -/

namespace PythonMath

class Trigonometry (K : Type*) where
  pi : K
  sin : K → K
  cos : K → K

noncomputable instance : Trigonometry ℝ := ⟨Real.pi, Real.sin, Real.cos⟩

def radians {K : Type*} [Field K] [Trigonometry K] (x : K) : K := x*(Trigonometry.pi/180)

end PythonMath

namespace RoboticCharacter.Robotics
open PythonMath Fallible

/-- The links of a profile, with the checks of their fields. -/
structure ReferenceGeometry (K : Type) [Zero K] [LinearOrder K] where
  baseHeightMm : K
  shoulderLinkMm : K
  forearmLinkMm : K
  toolLengthMm : K
  baseHeight_pos : 0 < baseHeightMm
  shoulderLink_pos : 0 < shoulderLinkMm
  forearmLink_pos : 0 < forearmLinkMm
  toolLength_nonneg : 0 ≤ toolLengthMm

/-- A robot model with the geometry of its profile. -/
structure ArmModel (K : Type) [Zero K] [LinearOrder K] extends RobotModel K where
  geometry : ReferenceGeometry K

section Reference
variable (K : Type) [Field K] [LinearOrder K] [IsStrictOrderedRing K]

/-- The links that `configs/simulation/reference_arm.yaml` gives. -/
def referenceGeometry : ReferenceGeometry K where
  baseHeightMm := ((80 : ℕ) : K)
  shoulderLinkMm := ((120 : ℕ) : K)
  forearmLinkMm := ((120 : ℕ) : K)
  toolLengthMm := ((55 : ℕ) : K)
  baseHeight_pos := Nat.cast_pos.mpr (Nat.succ_pos 79)
  shoulderLink_pos := Nat.cast_pos.mpr (Nat.succ_pos 119)
  forearmLink_pos := Nat.cast_pos.mpr (Nat.succ_pos 119)
  toolLength_nonneg := Nat.cast_nonneg 55

/-- The arm of the reference profile. -/
def referenceModel : ArmModel K where
  toRobotModel := referenceArm K
  geometry := referenceGeometry K

end Reference

noncomputable abbrev referenceArmModel : ArmModel ℝ := referenceModel ℝ

inductive Axis
  | x
  | y
  | z

structure CartesianPose (K : Type) where
  xMm : K
  yMm : K
  zMm : K

def CartesianPose.along {K : Type} (pose : CartesianPose K) : Axis → K
  | .x => pose.xMm
  | .y => pose.yMm
  | .z => pose.zMm

structure WorkspaceEstimate (K : Type) where
  minXMm : K
  maxXMm : K
  minYMm : K
  maxYMm : K
  minZMm : K
  maxZMm : K
  samples : ℕ

namespace WorkspaceEstimate
variable {K : Type}

def lower (estimate : WorkspaceEstimate K) : Axis → K
  | .x => estimate.minXMm
  | .y => estimate.minYMm
  | .z => estimate.minZMm

def upper (estimate : WorkspaceEstimate K) : Axis → K
  | .x => estimate.maxXMm
  | .y => estimate.maxYMm
  | .z => estimate.maxZMm

end WorkspaceEstimate

/-- What the kinematics raise: a KinematicsError, or a RobotModelError of a joint or of the
whole estimate. -/
inductive KinematicsError (K : Type)
  | kinematics (message : String)
  | violatesModel (error : RobotModelError K)
  | robotModel (message : String)

/-- A joint vector from its four values. -/
def jointVector {K : Type} (base shoulder elbow gripper : K) : JointName → K
  | .base => base
  | .shoulder => shoulder
  | .elbow => elbow
  | .gripper => gripper

theorem map_ne_nil {α β : Type*} (f : α → β) {values : List α} (h : values ≠ []) :
    values.map f ≠ [] := fun hmap => h (List.map_eq_nil_iff.mp hmap)

section Estimate
variable {K : Type} [LinearOrder K]

/-- The estimate of points of which there is one. -/
def spannedBy (points : List (CartesianPose K)) (h : points ≠ []) : WorkspaceEstimate K where
  minXMm := (points.map CartesianPose.xMm).min (map_ne_nil _ h)
  maxXMm := (points.map CartesianPose.xMm).max (map_ne_nil _ h)
  minYMm := (points.map CartesianPose.yMm).min (map_ne_nil _ h)
  maxYMm := (points.map CartesianPose.yMm).max (map_ne_nil _ h)
  minZMm := (points.map CartesianPose.zMm).min (map_ne_nil _ h)
  maxZMm := (points.map CartesianPose.zMm).max (map_ne_nil _ h)
  samples := points.length

def workspaceEstimateFromPoints (points : List (CartesianPose K)) :
    Except (KinematicsError K) (WorkspaceEstimate K) :=
  if h : points = [] then .error (.robotModel "workspace estimate requires at least one point")
  else .ok (spannedBy points h)

/-- An estimate is as wide as its points, along every axis. -/
theorem spannedBy_bounds (points : List (CartesianPose K)) (h : points ≠ []) (axis : Axis) :
    IsLeast {c | ∃ point ∈ points, c = point.along axis} ((spannedBy points h).lower axis) ∧
      IsGreatest {c | ∃ point ∈ points, c = point.along axis}
        ((spannedBy points h).upper axis) := by
  have hleast (f : CartesianPose K → K) :
      IsLeast {c | ∃ point ∈ points, c = f point} ((points.map f).min (map_ne_nil f h)) := by
    constructor
    · obtain ⟨point, hpoint, heq⟩ := List.mem_map.mp (List.min_mem (map_ne_nil f h))
      exact ⟨point, hpoint, heq.symm⟩
    · rintro c ⟨point, hpoint, rfl⟩
      exact List.min_le_of_mem (List.mem_map_of_mem hpoint)
  have hgreatest (f : CartesianPose K → K) :
      IsGreatest {c | ∃ point ∈ points, c = f point} ((points.map f).max (map_ne_nil f h)) := by
    constructor
    · obtain ⟨point, hpoint, heq⟩ := List.mem_map.mp (List.max_mem (map_ne_nil f h))
      exact ⟨point, hpoint, heq.symm⟩
    · rintro c ⟨point, hpoint, rfl⟩
      exact List.le_max_of_mem (List.mem_map_of_mem hpoint)
  cases axis with
  | x => exact ⟨hleast CartesianPose.xMm, hgreatest CartesianPose.xMm⟩
  | y => exact ⟨hleast CartesianPose.yMm, hgreatest CartesianPose.yMm⟩
  | z => exact ⟨hleast CartesianPose.zMm, hgreatest CartesianPose.zMm⟩

end Estimate

namespace ArmModel
variable {K : Type} [Field K] [LinearOrder K]

/-- `axis_samples`. -/
def axisSamples (arm : ArmModel K) (samplesPerJoint : ℕ) (name : JointName) : List K :=
  (List.range samplesPerJoint).map fun index : ℕ =>
    let spec := arm.joint name
    spec.lowerDeg+(spec.upperDeg-spec.lowerDeg)*(index : K)/((samplesPerJoint-1 : ℕ) : K)

/-- The joint vectors of the three loops of `estimate_workspace`. -/
def sampleVectors (arm : ArmModel K) (samplesPerJoint : ℕ) : List (JointName → K) :=
  (arm.axisSamples samplesPerJoint .base).flatMap fun base =>
    (arm.axisSamples samplesPerJoint .shoulder).flatMap fun shoulder =>
      (arm.axisSamples samplesPerJoint .elbow).map fun elbow =>
        jointVector base shoulder elbow (arm.home .gripper)

section Forward
variable [Trigonometry K]

/-- The pose that `forward` gives a vector that it accepts. -/
def poseOf (arm : ArmModel K) (jointsDeg : JointName → K) : CartesianPose K :=
  let base := radians (jointsDeg .base)
  let shoulder := radians (jointsDeg .shoulder)
  let elbow := radians (jointsDeg .elbow)
  let distal := arm.geometry.forearmLinkMm+arm.geometry.toolLengthMm
  let radial := arm.geometry.shoulderLinkMm*Trigonometry.cos shoulder+
    distal*Trigonometry.cos (shoulder+elbow)
  { xMm := radial*Trigonometry.cos base
    yMm := radial*Trigonometry.sin base
    zMm := arm.geometry.baseHeightMm+arm.geometry.shoulderLinkMm*Trigonometry.sin shoulder+
      distal*Trigonometry.sin (shoulder+elbow) }

def forward (arm : ArmModel K) (jointsDeg : JointName → K) :
    Except (RobotModelError K) (CartesianPose K) :=
  (arm.validateJointPositions jointsDeg).map fun _ => arm.poseOf jointsDeg

def estimateWorkspace (arm : ArmModel K) (samplesPerJoint : ℕ) :
    Except (KinematicsError K) (WorkspaceEstimate K) := do
  if samplesPerJoint < 2 then
    .error (.kinematics "workspace sampling requires at least two samples per arm joint")
  else
    let points ← ((arm.sampleVectors samplesPerJoint).mapM arm.forward).mapError .violatesModel
    workspaceEstimateFromPoints points

theorem forward_of_within (arm : ArmModel K) {jointsDeg : JointName → K}
    (h : arm.WithinLimits jointsDeg) : arm.forward jointsDeg = .ok (arm.poseOf jointsDeg) := by
  unfold forward
  rw [(arm.validateJointPositions_eq_ok_iff jointsDeg ()).mpr h]
  rfl

theorem forward_eq_ok_iff (arm : ArmModel K) (jointsDeg : JointName → K)
    (pose : CartesianPose K) :
    arm.forward jointsDeg = .ok pose ↔
      arm.WithinLimits jointsDeg ∧ arm.poseOf jointsDeg = pose := by
  unfold forward
  rw [← arm.validateJointPositions_eq_ok_iff jointsDeg ()]
  cases arm.validateJointPositions jointsDeg <;> simp [Except.map]

/-- Along every axis the sampled poses are not all at one coordinate, and the pose lies between
two of them. -/
structure InSampledBox (arm : ArmModel K) (n : ℕ) (pose : CartesianPose K) : Prop where
  spread : ∀ axis, ∃ v ∈ arm.sampleVectors n, ∃ w ∈ arm.sampleVectors n,
    (arm.poseOf v).along axis < (arm.poseOf w).along axis
  above : ∀ axis, ∃ v ∈ arm.sampleVectors n, (arm.poseOf v).along axis ≤ pose.along axis
  below : ∀ axis, ∃ v ∈ arm.sampleVectors n, pose.along axis ≤ (arm.poseOf v).along axis

/-- What the box of an estimate says, in terms of the sampled poses. -/
theorem inSampledBox_iff (arm : ArmModel K) (n : ℕ) (pose : CartesianPose K)
    {workspace : WorkspaceEstimate K}
    (h : ∀ axis, IsLeast {c | ∃ v ∈ arm.sampleVectors n, c = (arm.poseOf v).along axis}
        (workspace.lower axis) ∧
      IsGreatest {c | ∃ v ∈ arm.sampleVectors n, c = (arm.poseOf v).along axis}
        (workspace.upper axis)) :
    arm.InSampledBox n pose ↔ (∀ axis, workspace.lower axis < workspace.upper axis) ∧
      ∀ axis, workspace.lower axis ≤ pose.along axis ∧ pose.along axis ≤ workspace.upper axis := by
  constructor
  · intro hbox
    refine ⟨?_, ?_⟩
    · intro axis
      obtain ⟨v, hv, w, hw, hlt⟩ := hbox.spread axis
      have hlower := (h axis).1.2 ⟨v, hv, rfl⟩
      have hupper := (h axis).2.2 ⟨w, hw, rfl⟩
      exact hlower.trans_lt (hlt.trans_le hupper)
    · intro axis
      obtain ⟨v, hv, habove⟩ := hbox.above axis
      obtain ⟨w, hw, hbelow⟩ := hbox.below axis
      exact ⟨((h axis).1.2 ⟨v, hv, rfl⟩).trans habove, hbelow.trans ((h axis).2.2 ⟨w, hw, rfl⟩)⟩
  · intro hbox
    -- The bounds of the box are coordinates of sampled poses.
    have hlower (axis : Axis) := (h axis).1.1
    have hupper (axis : Axis) := (h axis).2.1
    refine ⟨?_, ?_, ?_⟩
    · intro axis
      obtain ⟨v, hv, hlow⟩ := hlower axis
      obtain ⟨w, hw, hup⟩ := hupper axis
      refine ⟨v, hv, w, hw, ?_⟩
      rw [← hlow, ← hup]
      exact hbox.1 axis
    · intro axis
      obtain ⟨v, hv, hlow⟩ := hlower axis
      exact ⟨v, hv, hlow.symm.trans_le (hbox.2 axis).1⟩
    · intro axis
      obtain ⟨w, hw, hup⟩ := hupper axis
      exact ⟨w, hw, (hbox.2 axis).2.trans_eq hup⟩

end Forward

theorem mem_sampleVectors_iff (arm : ArmModel K) (n : ℕ) (v : JointName → K) :
    v ∈ arm.sampleVectors n ↔ ∃ base ∈ arm.axisSamples n .base,
      ∃ shoulder ∈ arm.axisSamples n .shoulder, ∃ elbow ∈ arm.axisSamples n .elbow,
        jointVector base shoulder elbow (arm.home .gripper) = v := by
  unfold sampleVectors
  simp only [List.mem_flatMap, List.mem_map]

theorem sampleVectors_ne_nil (arm : ArmModel K) {n : ℕ} (hn : 2 ≤ n) :
    arm.sampleVectors n ≠ [] := by
  have hsome (name : JointName) : ∃ value, value ∈ arm.axisSamples n name :=
    ⟨_, List.mem_map_of_mem (List.mem_range.mpr (Nat.lt_of_lt_of_le Nat.zero_lt_two hn))⟩
  obtain ⟨base, hbase⟩ := hsome .base
  obtain ⟨shoulder, hshoulder⟩ := hsome .shoulder
  obtain ⟨elbow, helbow⟩ := hsome .elbow
  exact List.ne_nil_of_mem ((arm.mem_sampleVectors_iff n _).mpr
    ⟨base, hbase, shoulder, hshoulder, elbow, helbow, rfl⟩)

variable [IsStrictOrderedRing K]

/-- The samples of a joint are within its range. -/
theorem axisSamples_bounds (arm : ArmModel K) {n : ℕ} (hn : 2 ≤ n) (name : JointName) {value : K}
    (h : value ∈ arm.axisSamples n name) :
    (arm.joint name).lowerDeg ≤ value ∧ value ≤ (arm.joint name).upperDeg := by
  obtain ⟨index, hindex, rfl⟩ := List.mem_map.mp h
  have hspan : 0 ≤ (arm.joint name).upperDeg-(arm.joint name).lowerDeg := by
    have hrange := (arm.joint name).lower_lt_home.trans (arm.joint name).home_lt_upper
    linarith
  have hsteps : (0 : K) < ((n-1 : ℕ) : K) := by
    apply Nat.cast_pos.mpr
    omega
  have hlast : (index : K) ≤ ((n-1 : ℕ) : K) := by
    have hbelow := List.mem_range.mp hindex
    apply Nat.cast_le.mpr
    omega
  have hpart : 0 ≤ ((arm.joint name).upperDeg-(arm.joint name).lowerDeg)*(index : K) /
      ((n-1 : ℕ) : K) := div_nonneg (mul_nonneg hspan (Nat.cast_nonneg index)) hsteps.le
  have hwhole : ((arm.joint name).upperDeg-(arm.joint name).lowerDeg)*(index : K) /
      ((n-1 : ℕ) : K) ≤ (arm.joint name).upperDeg-(arm.joint name).lowerDeg := by
    rw [div_le_iff₀ hsteps]
    exact mul_le_mul_of_nonneg_left hlast hspan
  constructor
  · linarith
  · linarith

theorem sampleVectors_within (arm : ArmModel K) {n : ℕ} (hn : 2 ≤ n) {v : JointName → K}
    (h : v ∈ arm.sampleVectors n) : arm.WithinLimits v := by
  obtain ⟨base, hbase, shoulder, hshoulder, elbow, helbow, rfl⟩ :=
    (arm.mem_sampleVectors_iff n v).mp h
  intro name
  cases name with
  | base => exact arm.axisSamples_bounds hn .base hbase
  | shoulder => exact arm.axisSamples_bounds hn .shoulder hshoulder
  | elbow => exact arm.axisSamples_bounds hn .elbow helbow
  | gripper => exact arm.withinLimits_home .gripper

variable [Trigonometry K]

/-- With two samples or more the estimate is never refused, and its box spans the sampled
poses. -/
theorem estimateWorkspace_spec (arm : ArmModel K) {n : ℕ} (hn : 2 ≤ n) :
    ∃ workspace, arm.estimateWorkspace n = .ok workspace ∧ ∀ axis,
      IsLeast {c | ∃ v ∈ arm.sampleVectors n, c = (arm.poseOf v).along axis}
        (workspace.lower axis) ∧
      IsGreatest {c | ∃ v ∈ arm.sampleVectors n, c = (arm.poseOf v).along axis}
        (workspace.upper axis) := by
  have hne := map_ne_nil arm.poseOf (arm.sampleVectors_ne_nil hn)
  have hposes : (arm.sampleVectors n).mapM arm.forward =
      .ok ((arm.sampleVectors n).map arm.poseOf) :=
    mapM_eq_ok _ _ _ fun v hv => arm.forward_of_within (arm.sampleVectors_within hn hv)
  refine ⟨spannedBy ((arm.sampleVectors n).map arm.poseOf) hne, ?_, ?_⟩
  · unfold estimateWorkspace
    rw [if_neg (Nat.not_lt.mpr hn), hposes]
    exact dif_neg hne
  · intro axis
    have hbounds := spannedBy_bounds ((arm.sampleVectors n).map arm.poseOf) hne axis
    simpa only [List.mem_map, exists_exists_and_eq_and] using hbounds

end ArmModel
end RoboticCharacter.Robotics
