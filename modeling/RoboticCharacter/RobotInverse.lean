import RoboticCharacter.PlanarLinkage
import RoboticCharacter.RobotKinematics
import Mathlib.Analysis.SpecialFunctions.Trigonometric.Inverse
import Mathlib.Data.List.MinMax

/-! Inverse kinematics of the three-axis arm: two branches of the elbow, those of them that are
within the limits, and the choice between these. -/

namespace PythonMath

class InverseTrigonometry (K : Type*) extends Trigonometry K where
  acos : K → K
  atan2 : K → K → K
  hypot : K → K → K

noncomputable instance : InverseTrigonometry ℝ where
  acos := Real.arccos
  atan2 y x := Complex.arg ⟨x, y⟩
  hypot x y := √(x^2+y^2)

def degrees {K : Type*} [Field K] [Trigonometry K] (x : K) : K := x*(180.0/Trigonometry.pi)

end PythonMath

namespace RoboticCharacter.Robotics
open PythonMath PlanarLinkage

structure JointSolution (K : Type) where
  baseDeg : K
  shoulderDeg : K
  elbowDeg : K
  gripperDeg : K

namespace JointSolution
variable {K : Type}

def asDict (solution : JointSolution K) : JointName → K :=
  jointVector solution.baseDeg solution.shoulderDeg solution.elbowDeg solution.gripperDeg

/-- `distance`: the sum of the squared differences to the seed. -/
def distance [Field K] (seedDeg : JointName → K) (solution : JointSolution K) : K :=
  (solution.baseDeg-seedDeg .base)^2+(solution.shoulderDeg-seedDeg .shoulder)^2+
    (solution.elbowDeg-seedDeg .elbow)^2+(solution.gripperDeg-seedDeg .gripper)^2

end JointSolution

/-- A KinematicsError: with a message of its own, or for a seed that the model refuses. -/
inductive InverseError (K : Type)
  | kinematics (message : String)
  | invalidSeed (error : RobotModelError K)

namespace ArmModel

section Inverse
variable {K : Type} [Field K] [LinearOrder K] [InverseTrigonometry K] (arm : ArmModel K)
  (target : CartesianPose K)

def distal : K := arm.geometry.forearmLinkMm+arm.geometry.toolLengthMm

def radial : K := InverseTrigonometry.hypot target.xMm target.yMm

def vertical : K := target.zMm-arm.geometry.baseHeightMm

def cosineElbow : K :=
  (radial target*radial target+arm.vertical target*arm.vertical target-
    arm.geometry.shoulderLinkMm^2-arm.distal^2)/(2.0*arm.geometry.shoulderLinkMm*arm.distal)

/-- The tolerance `1e-9` of the test of the reach. -/
def reachTolerance : K := 1/1000000000

/-- The solution of one turn of the loop over the elbow's two angles. -/
def branch (gripperDeg elbow : K) : JointSolution K :=
  let shoulder := InverseTrigonometry.atan2 (arm.vertical target) (radial target)-
    InverseTrigonometry.atan2 (arm.distal*Trigonometry.sin elbow)
      (arm.geometry.shoulderLinkMm+arm.distal*Trigonometry.cos elbow)
  { baseDeg := degrees (InverseTrigonometry.atan2 target.yMm target.xMm)
    shoulderDeg := degrees shoulder
    elbowDeg := degrees elbow
    gripperDeg }

def elbowMagnitude : K := InverseTrigonometry.acos (min 1 (max (-1) (arm.cosineElbow target)))

def branches (gripperDeg : K) : List (JointSolution K) :=
  [arm.branch target gripperDeg (arm.elbowMagnitude target),
    arm.branch target gripperDeg (-arm.elbowMagnitude target)]

instance (m : RobotModel K) (jointsDeg : JointName → K) : Decidable (m.WithinLimits jointsDeg) :=
  decidable_of_iff (m.Contains jointsDeg .base ∧ m.Contains jointsDeg .shoulder ∧
      m.Contains jointsDeg .elbow ∧ m.Contains jointsDeg .gripper)
    ⟨fun h name => by cases name <;> simp [h], fun h => ⟨h _, h _, h _, h _⟩⟩

def candidates (gripperDeg : K) : List (JointSolution K) :=
  (arm.branches target gripperDeg).filter fun solution => arm.WithinLimits solution.asDict

/-- `min(candidates, key=...)`, of candidates of which there is one. -/
def best (found : List (JointSolution K)) (key : JointSolution K → K) :
    Except (InverseError K) (JointSolution K) :=
  match found.argmin key with
  | some solution => .ok solution
  | none => .error (.kinematics "target has no solution within reference joint limits")

def requestedGripper (gripperDeg : Option K) : K := gripperDeg.getD (arm.home .gripper)

def inverse (gripperDeg : Option K) (seedDeg : Option (JointName → K)) :
    Except (InverseError K) (JointSolution K) :=
  let cosine := arm.cosineElbow target
  let found := arm.candidates target (arm.requestedGripper gripperDeg)
  if cosine < -1-reachTolerance ∨ 1+reachTolerance < cosine then
    .error (.kinematics "target is outside the reference arm reach")
  else if found = [] then
    .error (.kinematics "target has no solution within reference joint limits")
  else
    match seedDeg with
    | none => best found fun solution => |solution.elbowDeg|
    | some seed =>
      match arm.validateJointPositions seed with
      | .error error => .error (.invalidSeed error)
      | .ok _ => best found (JointSolution.distance seed)

/-- A solution is a branch within the limits; and if a seed was given, it is valid, and no such
branch is closer to it. -/
theorem inverse_eq_ok (gripperDeg : Option K) (seedDeg : Option (JointName → K))
    (solution : JointSolution K) (h : arm.inverse target gripperDeg seedDeg = .ok solution) :
    solution ∈ arm.branches target (arm.requestedGripper gripperDeg) ∧
      arm.WithinLimits solution.asDict ∧
      ∀ seed, seedDeg = some seed →
        ∀ other ∈ arm.branches target (arm.requestedGripper gripperDeg),
          arm.WithinLimits other.asDict → solution.distance seed ≤ other.distance seed := by
  have hbest (key : JointSolution K → K)
      (h : best (arm.candidates target (arm.requestedGripper gripperDeg)) key = .ok solution) :
      solution ∈ (arm.candidates target (arm.requestedGripper gripperDeg)).argmin key := by
    unfold best at h
    split at h
    · case _ found hfound =>
      rw [← Except.ok.inj h]
      exact hfound
    · cases h
  -- both choices take the first candidate with the least key
  have hfound : solution ∈ arm.candidates target (arm.requestedGripper gripperDeg) ∧
      ∀ seed, seedDeg = some seed →
        ∀ other ∈ arm.candidates target (arm.requestedGripper gripperDeg),
          solution.distance seed ≤ other.distance seed := by
    unfold inverse at h
    dsimp only at h
    split_ifs at h
    cases seedDeg with
    | none => exact ⟨List.argmin_mem (hbest _ h), fun seed hseed => by cases hseed⟩
    | some seed =>
      dsimp only at h
      split at h
      · cases h
      · refine ⟨List.argmin_mem (hbest _ h), fun given hgiven other hother => ?_⟩
        obtain rfl := Option.some.inj hgiven
        exact List.le_of_mem_argmin hother (hbest _ h)
  obtain ⟨hmem, hclosest⟩ := hfound
  unfold candidates at hmem hclosest
  simp only [List.mem_filter, decide_eq_true_eq] at hmem hclosest
  exact ⟨hmem.1, hmem.2, fun seed hseed other hother hwithin =>
    hclosest seed hseed other ⟨hother, hwithin⟩⟩

/-- With a valid seed a solution is found as soon as one branch is within the limits. -/
theorem inverse_succeeds (gripperDeg : Option K) (seed : JointName → K)
    (hcosine : -1-reachTolerance ≤ arm.cosineElbow target ∧
      arm.cosineElbow target ≤ 1+reachTolerance)
    (hseed : arm.WithinLimits seed)
    (hbranch : ∃ solution ∈ arm.branches target (arm.requestedGripper gripperDeg),
      arm.WithinLimits solution.asDict) :
    ∃ solution, arm.inverse target gripperDeg (some seed) = .ok solution := by
  have hne : arm.candidates target (arm.requestedGripper gripperDeg) ≠ [] := by
    obtain ⟨solution, hmem, hwithin⟩ := hbranch
    exact List.ne_nil_of_mem (List.mem_filter.mpr ⟨hmem, decide_eq_true hwithin⟩)
  unfold inverse best
  dsimp only
  rw [if_neg (by rw [not_or, not_lt, not_lt]; exact hcosine), if_neg hne,
    (arm.validateJointPositions_eq_ok_iff seed ()).mpr hseed]
  dsimp only
  cases hargmin : (arm.candidates target (arm.requestedGripper gripperDeg)).argmin
    (JointSolution.distance seed) with
  | some solution => exact ⟨solution, rfl⟩
  | none => exact absurd (List.argmin_eq_none.mp hargmin) hne

end Inverse

section Real
variable (arm : ArmModel ℝ) (target : CartesianPose ℝ)

theorem degrees_eq (x : ℝ) : degrees x = x*(180/Real.pi) := by
  change x*(180.0/Real.pi) = x*(180/Real.pi)
  norm_num

theorem radians_degrees (x : ℝ) : radians (degrees x) = x := by
  rw [degrees_eq]
  change x*(180/Real.pi)*(Real.pi/180) = x
  field_simp

theorem degrees_radians (x : ℝ) : degrees (radians x) = x := by
  rw [degrees_eq]
  change x*(Real.pi/180)*(180/Real.pi) = x
  field_simp

theorem distal_pos : 0 < arm.distal :=
  add_pos_of_pos_of_nonneg arm.geometry.forearmLink_pos arm.geometry.toolLength_nonneg

/-- The target in the vertical plane of the arm, seen from the shoulder. -/
noncomputable def wrist : ℂ := ⟨radial target, arm.vertical target⟩

theorem radial_eq_norm : radial target = ‖(⟨target.xMm, target.yMm⟩ : ℂ)‖ := by
  rw [Complex.norm_def, Complex.normSq_apply]
  change √(target.xMm^2+target.yMm^2) = _
  rw [sq, sq]

theorem cosineElbow_eq : arm.cosineElbow target =
    (radial target^2+arm.vertical target^2-arm.geometry.shoulderLinkMm^2-arm.distal^2)/
      (2*arm.geometry.shoulderLinkMm*arm.distal) := by
  have htwo : (2.0 : ℝ) = 2 := by norm_num
  unfold cosineElbow
  rw [htwo, sq (radial target), sq (arm.vertical target)]

/-- The law of cosines: an elbow with the computed cosine brings the tip to the right distance. -/
theorem norm_reach_of_cos (elbow : ℝ) (h : Real.cos elbow = arm.cosineElbow target) :
    ‖reach arm.geometry.shoulderLinkMm arm.distal elbow‖ = ‖arm.wrist target‖ := by
  have hshoulder := arm.geometry.shoulderLink_pos.ne'
  have hdistal := arm.distal_pos.ne'
  rw [Complex.norm_def, Complex.norm_def, normSq_reach, h, cosineElbow_eq, Complex.normSq_apply]
  unfold wrist
  congr 1
  field_simp
  ring

/-- The tip of the arm in its vertical plane, seen from the shoulder. -/
noncomputable def armTip (v : JointName → ℝ) : ℂ :=
  tip arm.geometry.shoulderLinkMm arm.distal (radians (v .shoulder)) (radians (v .elbow))

/-- The tip of the arm with the first link on the axis. -/
noncomputable def armReach (v : JointName → ℝ) : ℂ :=
  reach arm.geometry.shoulderLinkMm arm.distal (radians (v .elbow))

theorem poseOf_eq (v : JointName → ℝ) :
    arm.poseOf v = {
      xMm := (arm.armTip v).re*Real.cos (radians (v .base))
      yMm := (arm.armTip v).re*Real.sin (radians (v .base))
      zMm := arm.geometry.baseHeightMm+(arm.armTip v).im } := by
  unfold armTip
  rw [tip_re, tip_im, ← add_assoc]
  rfl

theorem branch_shoulder (gripperDeg elbow : ℝ) :
    radians (arm.branch target gripperDeg elbow).shoulderDeg =
      (arm.wrist target).arg-(reach arm.geometry.shoulderLinkMm arm.distal elbow).arg := by
  have hreach : (⟨arm.geometry.shoulderLinkMm+arm.distal*Real.cos elbow,
      arm.distal*Real.sin elbow⟩ : ℂ) = reach arm.geometry.shoulderLinkMm arm.distal elbow :=
    Complex.ext (reach_re ..).symm (reach_im ..).symm
  rw [← hreach]
  exact radians_degrees _

theorem branch_tip (gripperDeg elbow : ℝ) (h : Real.cos elbow = arm.cosineElbow target) :
    arm.armTip (arm.branch target gripperDeg elbow).asDict = arm.wrist target := by
  change tip _ _ (radians (arm.branch target gripperDeg elbow).shoulderDeg)
    (radians (degrees elbow)) = _
  rw [branch_shoulder, radians_degrees]
  exact tip_of_norm_eq _ _ _ _ (arm.norm_reach_of_cos target elbow h)

theorem branch_pose (gripperDeg elbow : ℝ) (h : Real.cos elbow = arm.cosineElbow target) :
    arm.poseOf (arm.branch target gripperDeg elbow).asDict = target := by
  have hbase : radians ((arm.branch target gripperDeg elbow).asDict .base) =
      (⟨target.xMm, target.yMm⟩ : ℂ).arg := radians_degrees _
  have hradial : (arm.wrist target).re = ‖(⟨target.xMm, target.yMm⟩ : ℂ)‖ := radial_eq_norm target
  have hvertical : arm.geometry.baseHeightMm+(arm.wrist target).im = target.zMm :=
    add_sub_cancel arm.geometry.baseHeightMm target.zMm
  rw [poseOf_eq, branch_tip _ _ _ _ h, hbase, hradial, hvertical, Complex.norm_mul_cos_arg,
    Complex.norm_mul_sin_arg]

theorem mem_branches_iff (gripperDeg : ℝ) (hcosine : -1 ≤ arm.cosineElbow target ∧
    arm.cosineElbow target ≤ 1) (solution : JointSolution ℝ) :
    solution ∈ arm.branches target gripperDeg ↔
      ∃ elbow, |elbow| ≤ Real.pi ∧ Real.cos elbow = arm.cosineElbow target ∧
        solution = arm.branch target gripperDeg elbow := by
  have hmagnitude : arm.elbowMagnitude target = Real.arccos (arm.cosineElbow target) := by
    unfold elbowMagnitude
    rw [max_eq_right hcosine.1, min_eq_right hcosine.2]
    rfl
  have hnonneg := Real.arccos_nonneg (arm.cosineElbow target)
  have hle := Real.arccos_le_pi (arm.cosineElbow target)
  have hcos := Real.cos_arccos hcosine.1 hcosine.2
  unfold branches
  rw [hmagnitude, List.mem_pair]
  constructor
  · rintro (rfl | rfl)
    · exact ⟨_, (abs_of_nonneg hnonneg).trans_le hle, hcos, rfl⟩
    · refine ⟨-Real.arccos (arm.cosineElbow target), ?_, by rw [Real.cos_neg, hcos], rfl⟩
      rwa [abs_neg, abs_of_nonneg hnonneg]
  · -- within half a turn only two angles have the same cosine
    rintro ⟨elbow, habs, hcosElbow, rfl⟩
    have harccos : Real.arccos (arm.cosineElbow target) = |elbow| := by
      rw [← hcosElbow, ← Real.cos_abs]
      exact Real.arccos_cos (abs_nonneg elbow) habs
    rw [harccos]
    rcases abs_choice elbow with h | h
    · rw [h]
      exact .inl rfl
    · rw [h, neg_neg]
      exact .inr rfl

end Real

end ArmModel
end RoboticCharacter.Robotics
