import RoboticCharacter.RobotReachability
import RoboticCharacter.TrajectoryBounds

/-! Motions planned to a Cartesian pose: inverse kinematics and a trajectory, and how far from the
pose that was asked for the motion ends. -/
namespace RoboticCharacter.Robotics
open PythonMath Fallible PlanarLinkage

/-- What `plan_cartesian` raises. -/
inductive PlanError (K : Type)
  | violatesModel (error : RobotModelError K)
  | inverse (error : InverseError K)
  | trajectory (error : TrajectoryError K)

namespace ArmModel

section Plan
variable {K : Type} [Field K] [LinearOrder K] [FloorRing K] [SquareRoot K] [InverseTrigonometry K]

def planCartesian (arm : ArmModel K) (currentJointsDeg : JointName → K)
    (targetPose : CartesianPose K) (gripperDeg : Option K) (samplePeriodS : K) :
    Except (PlanError K) (PlannedMotion K) := do
  (arm.validateJointPositions currentJointsDeg).mapError .violatesModel
  let solution ← (arm.inverse targetPose gripperDeg (some currentJointsDeg)).mapError .inverse
  (arm.planJointTargets currentJointsDeg solution.asDict samplePeriodS).mapError .trajectory

theorem planCartesian_eq_ok_iff (arm : ArmModel K) (currentJointsDeg : JointName → K)
    (targetPose : CartesianPose K) (gripperDeg : Option K) (samplePeriodS : K)
    (planned : PlannedMotion K) :
    arm.planCartesian currentJointsDeg targetPose gripperDeg samplePeriodS = .ok planned ↔
      arm.WithinLimits currentJointsDeg ∧ ∃ solution,
        arm.inverse targetPose gripperDeg (some currentJointsDeg) = .ok solution ∧
          arm.planJointTargets currentJointsDeg solution.asDict samplePeriodS = .ok planned := by
  unfold planCartesian
  simp only [bind_eq_ok_iff, mapError_eq_ok_iff, arm.validateJointPositions_eq_ok_iff]
  simp

end Plan

section Inverse
variable (arm : ArmModel ℝ) (target : CartesianPose ℝ)

/-- The elbow of every branch has the cosine that was computed, cut to what a cosine can be. -/
theorem exists_elbow {gripperDeg : ℝ} {solution : JointSolution ℝ}
    (h : solution ∈ arm.branches target gripperDeg) :
    ∃ elbow, Real.cos elbow = min 1 (max (-1) (arm.cosineElbow target)) ∧
      solution = arm.branch target gripperDeg elbow := by
  have hcos : Real.cos (arm.elbowMagnitude target) =
      min 1 (max (-1) (arm.cosineElbow target)) :=
    Real.cos_arccos (le_min (by norm_num) (le_max_left _ _)) (min_le_left _ _)
  rcases List.mem_pair.mp h with rfl | rfl
  · exact ⟨_, hcos, rfl⟩
  · exact ⟨_, (Real.cos_neg _).trans hcos, rfl⟩

/-- The squared distance of two poses. -/
noncomputable def squaredDistance (pose other : CartesianPose ℝ) : ℝ :=
  (pose.xMm-other.xMm)^2+(pose.yMm-other.yMm)^2+(pose.zMm-other.zMm)^2

/-- A branch is off the target as far as its tip is in the vertical plane of the arm. -/
theorem squaredDistance_branch (gripperDeg elbow : ℝ) :
    squaredDistance (arm.poseOf (arm.branch target gripperDeg elbow).asDict) target =
      ‖arm.armTip (arm.branch target gripperDeg elbow).asDict-arm.wrist target‖^2 := by
  have hbase : radians ((arm.branch target gripperDeg elbow).asDict .base) =
      (⟨target.xMm, target.yMm⟩ : ℂ).arg := radians_degrees _
  have hx : target.xMm = (arm.wrist target).re*Real.cos (⟨target.xMm, target.yMm⟩ : ℂ).arg := by
    change _ = radial target*_
    rw [radial_eq_norm, Complex.norm_mul_cos_arg]
  have hy : target.yMm = (arm.wrist target).re*Real.sin (⟨target.xMm, target.yMm⟩ : ℂ).arg := by
    change _ = radial target*_
    rw [radial_eq_norm, Complex.norm_mul_sin_arg]
  have hz : target.zMm = arm.geometry.baseHeightMm+(arm.wrist target).im :=
    (add_sub_cancel arm.geometry.baseHeightMm target.zMm).symm
  rw [poseOf_eq, hbase, ← Complex.normSq_eq_norm_sq, Complex.normSq_apply, Complex.sub_re,
    Complex.sub_im]
  unfold squaredDistance
  dsimp only
  generalize (⟨target.xMm, target.yMm⟩ : ℂ).arg = direction at hx hy ⊢
  rw [hx, hy, hz]
  have hcircle := Real.cos_sq_add_sin_sq direction
  linear_combination
    ((arm.armTip (arm.branch target gripperDeg elbow).asDict).re-(arm.wrist target).re)^2*hcircle

/-- What the cosine was cut by is what the square of the reach is short by, or in excess. -/
theorem sq_norm_reach_sub (elbow : ℝ) :
    ‖reach arm.geometry.shoulderLinkMm arm.distal elbow‖^2-‖arm.wrist target‖^2 =
      2*arm.geometry.shoulderLinkMm*arm.distal*(Real.cos elbow-arm.cosineElbow target) := by
  have hshoulder := arm.geometry.shoulderLink_pos.ne'
  have hdistal := arm.distal_pos.ne'
  have hwrist : ‖arm.wrist target‖^2 = radial target^2+arm.vertical target^2 := by
    rw [← Complex.normSq_eq_norm_sq, Complex.normSq_apply, ← sq, ← sq]
    rfl
  rw [hwrist, ← Complex.normSq_eq_norm_sq, normSq_reach, cosineElbow_eq]
  field_simp
  ring

theorem abs_cut_sub_le {cosine : ℝ} (hcosine : -1-reachTolerance ≤ cosine ∧
    cosine ≤ 1+reachTolerance) : |min 1 (max (-1) cosine)-cosine| ≤ reachTolerance := by
  have htolerance : (0 : ℝ) ≤ reachTolerance := by
    unfold reachTolerance
    norm_num
  rw [abs_le]
  rcases le_total (-1) cosine with hlow | hlow
  · rw [max_eq_right hlow]
    rcases le_total 1 cosine with hhigh | hhigh
    · rw [min_eq_left hhigh]
      constructor <;> linarith
    · rw [min_eq_right hhigh]
      constructor <;> linarith
  · rw [max_eq_left hlow, min_eq_right (by norm_num)]
    constructor <;> linarith

/-- Every branch ends near the target, even one that the tolerance of the reach let through. -/
theorem squaredDistance_branch_le {gripperDeg : ℝ} {solution : JointSolution ℝ}
    (hcosine : -1-reachTolerance ≤ arm.cosineElbow target ∧
      arm.cosineElbow target ≤ 1+reachTolerance)
    (h : solution ∈ arm.branches target gripperDeg) :
    squaredDistance (arm.poseOf solution.asDict) target ≤
      2*arm.geometry.shoulderLinkMm*arm.distal*reachTolerance := by
  obtain ⟨elbow, hcos, rfl⟩ := arm.exists_elbow target h
  have hlinks : 0 ≤ 2*arm.geometry.shoulderLinkMm*arm.distal :=
    mul_nonneg (mul_nonneg (by norm_num) arm.geometry.shoulderLink_pos.le) arm.distal_pos.le
  have htip : arm.armTip (arm.branch target gripperDeg elbow).asDict =
      tip arm.geometry.shoulderLinkMm arm.distal ((arm.wrist target).arg-
        (reach arm.geometry.shoulderLinkMm arm.distal elbow).arg) elbow := by
    change tip _ _ (radians (arm.branch target gripperDeg elbow).shoulderDeg)
      (radians (degrees elbow)) = _
    rw [branch_shoulder, radians_degrees]
  calc
    squaredDistance (arm.poseOf (arm.branch target gripperDeg elbow).asDict) target =
        (‖reach arm.geometry.shoulderLinkMm arm.distal elbow‖-‖arm.wrist target‖)^2 := by
      rw [squaredDistance_branch, htip, norm_tip_sub, sq_abs]
    _ ≤ |‖reach arm.geometry.shoulderLinkMm arm.distal elbow‖^2-‖arm.wrist target‖^2| :=
      sq_sub_le (norm_nonneg _) (norm_nonneg _)
    _ = 2*arm.geometry.shoulderLinkMm*arm.distal*
        |min 1 (max (-1) (arm.cosineElbow target))-arm.cosineElbow target| := by
      rw [sq_norm_reach_sub, abs_mul, abs_of_nonneg hlinks, hcos]
    _ ≤ 2*arm.geometry.shoulderLinkMm*arm.distal*reachTolerance :=
      mul_le_mul_of_nonneg_left (abs_cut_sub_le hcosine) hlinks

/-- What `inverse` solves is within its tolerance of the reach. -/
theorem tolerated_of_inverse {gripperDeg : Option ℝ} {seedDeg : Option (JointName → ℝ)}
    {solution : JointSolution ℝ} (h : arm.inverse target gripperDeg seedDeg = .ok solution) :
    -1-reachTolerance ≤ arm.cosineElbow target ∧ arm.cosineElbow target ≤ 1+reachTolerance := by
  unfold inverse at h
  dsimp only at h
  split_ifs at h with hreach
  rw [not_or, not_lt, not_lt] at hreach
  exact hreach

/-- A pose that a motion can be planned to. -/
def Plannable (currentJointsDeg : JointName → ℝ) (gripperDeg : Option ℝ) (samplePeriodS : ℝ) :
    Prop :=
  0 < samplePeriodS ∧ arm.WithinLimits currentJointsDeg ∧
    (-1-reachTolerance ≤ arm.cosineElbow target ∧ arm.cosineElbow target ≤ 1+reachTolerance) ∧
    ∃ solution ∈ arm.branches target (arm.requestedGripper gripperDeg),
      arm.WithinLimits solution.asDict

/-- What a motion planned to a Cartesian pose is. -/
structure Attains (currentJointsDeg : JointName → ℝ) (gripperDeg : Option ℝ) (samplePeriodS : ℝ)
    (planned : PlannedMotion ℝ) : Prop where
  pose : arm.forward planned.targetJointsDeg = .ok planned.targetPose
  gripper : planned.targetJointsDeg .gripper = arm.requestedGripper gripperDeg
  near : squaredDistance planned.targetPose target ≤
    2*arm.geometry.shoulderLinkMm*arm.distal*reachTolerance
  exact_in_reach : -1 ≤ arm.cosineElbow target → arm.cosineElbow target ≤ 1 →
    planned.targetPose = target
  closest : ∃ solution, planned.targetJointsDeg = JointSolution.asDict solution ∧
    ∀ other ∈ arm.branches target (arm.requestedGripper gripperDeg),
      arm.WithinLimits other.asDict →
        solution.distance currentJointsDeg ≤ other.distance currentJointsDeg
  bounded : arm.Bounded currentJointsDeg planned.targetJointsDeg samplePeriodS planned.trajectory
  start_at_rest : ∀ name, planned.trajectory.start.velocitiesDegS name = 0
  end_at_rest : ∀ name, planned.trajectory.end.velocitiesDegS name = 0

end Inverse

section Motion
variable (arm : ArmModel ℝ) {currentJointsDeg targetJointsDeg : JointName → ℝ} {samplePeriodS : ℝ}

/-- What a planned motion is made of: the target's pose, and a trajectory of sufficient duration. -/
theorem planJointTargets_eq_ok {planned : PlannedMotion ℝ}
    (h : arm.planJointTargets currentJointsDeg targetJointsDeg samplePeriodS = .ok planned) :
    0 < samplePeriodS ∧ planned.targetJointsDeg = targetJointsDeg ∧
      arm.forward targetJointsDeg = .ok planned.targetPose ∧
      ∃ duration, arm.Sufficient currentJointsDeg targetJointsDeg duration ∧
        planned.trajectory = trajectoryOf currentJointsDeg targetJointsDeg duration
          (trajectorySteps duration samplePeriodS) := by
  unfold planJointTargets at h
  simp only [bind_eq_ok_iff, mapError_eq_ok_iff, pure_eq_ok_iff] at h
  obtain ⟨_, hcurrent, _, htarget, trajectory, hgenerate, pose, hforward, rfl⟩ := h
  have hperiod : 0 < samplePeriodS := by
    by_contra hnot
    unfold generate at hgenerate
    rw [if_pos (not_lt.mp hnot)] at hgenerate
    cases hgenerate
  obtain ⟨duration, haccepted, rfl⟩ :=
    generate_eq_ok ((arm.validateJointPositions_eq_ok_iff _ _).mp hcurrent)
      ((arm.validateJointPositions_eq_ok_iff _ _).mp htarget) hgenerate
  exact ⟨hperiod, rfl, hforward, duration, arm.sufficient_of_accepted _ _ haccepted, rfl⟩

theorem start_at_rest {duration : ℝ} (hduration : 0 < duration) (steps : ℕ) (name : JointName) :
    (trajectoryOf currentJointsDeg targetJointsDeg duration steps).start.velocitiesDegS name =
      0 := by
  rw [start_trajectoryOf, sampleAt_fraction _ _ hduration]
  dsimp only
  rw [Nat.cast_zero, zero_div]
  ring

theorem end_at_rest {duration : ℝ} (hduration : 0 < duration) {steps : ℕ} (hsteps : 0 < steps)
    (name : JointName) :
    (trajectoryOf currentJointsDeg targetJointsDeg duration steps).end.velocitiesDegS name =
      0 := by
  rw [end_trajectoryOf, sampleAt_end _ _ hduration.ne' (Nat.cast_ne_zero.mpr hsteps.ne')]

theorem attains_of_planned (target : CartesianPose ℝ) {gripperDeg : Option ℝ}
    {planned : PlannedMotion ℝ}
    (h : arm.planCartesian currentJointsDeg target gripperDeg samplePeriodS = .ok planned) :
    arm.Attains target currentJointsDeg gripperDeg samplePeriodS planned := by
  obtain ⟨hcurrent, solution, hinverse, hplanned⟩ :=
    (arm.planCartesian_eq_ok_iff _ _ _ _ _).mp h
  obtain ⟨hperiod, htargets, hforward, duration, hduration, htrajectory⟩ :=
    arm.planJointTargets_eq_ok hplanned
  obtain ⟨hmem, hwithin, hclosest⟩ := inverse_eq_ok arm target _ _ solution hinverse
  have hpose : arm.poseOf solution.asDict = planned.targetPose :=
    ((arm.forward_eq_ok_iff _ _).mp hforward).2
  have hgripper : solution.gripperDeg = arm.requestedGripper gripperDeg := by
    rcases List.mem_pair.mp hmem with rfl | rfl <;> rfl
  refine ⟨?_, ?_, ?_, ?_, ⟨solution, htargets, hclosest _ rfl⟩, ?_, ?_, ?_⟩
  · rw [htargets]
    exact hforward
  · rw [htargets]
    exact hgripper
  · rw [← hpose]
    exact arm.squaredDistance_branch_le target (arm.tolerated_of_inverse target hinverse) hmem
  · -- a target that is in reach needs no tolerance: its cosine is one
    intro hlow hhigh
    obtain ⟨elbow, hcos, rfl⟩ := arm.exists_elbow target hmem
    rw [max_eq_right hlow, min_eq_right hhigh] at hcos
    rw [← hpose]
    exact arm.branch_pose target _ elbow hcos
  · rw [htargets, htrajectory]
    exact bounded_trajectoryOf hcurrent hwithin hperiod hduration
  · rw [htrajectory]
    exact start_at_rest hduration.positive _
  · rw [htrajectory]
    exact end_at_rest hduration.positive (trajectorySteps_pos _ _)

/-- A motion is planned to exactly the poses that are plannable; it ends at rest within the
tolerance of the pose that was asked for, in it if that is in reach, and every sample of it keeps
to every bound. -/
theorem plan_cartesian_attains (target : CartesianPose ℝ) (gripperDeg : Option ℝ)
    (currentJointsDeg : JointName → ℝ) (samplePeriodS : ℝ) :
    ((∃ planned, arm.planCartesian currentJointsDeg target gripperDeg samplePeriodS =
        .ok planned) ↔ arm.Plannable target currentJointsDeg gripperDeg samplePeriodS) ∧
      ∀ planned, arm.planCartesian currentJointsDeg target gripperDeg samplePeriodS =
          .ok planned →
        arm.Attains target currentJointsDeg gripperDeg samplePeriodS planned := by
  refine ⟨⟨?_, ?_⟩, fun planned h => arm.attains_of_planned target h⟩
  · rintro ⟨planned, h⟩
    obtain ⟨hcurrent, solution, hinverse, hplanned⟩ :=
      (arm.planCartesian_eq_ok_iff _ _ _ _ _).mp h
    obtain ⟨hmem, hwithin, _⟩ := inverse_eq_ok arm target _ _ solution hinverse
    exact ⟨(arm.planJointTargets_eq_ok hplanned).1, hcurrent,
      arm.tolerated_of_inverse target hinverse, solution, hmem, hwithin⟩
  · rintro ⟨hperiod, hcurrent, hcosine, hbranch⟩
    obtain ⟨solution, hinverse⟩ :=
      arm.inverse_succeeds target gripperDeg currentJointsDeg hcosine hcurrent hbranch
    obtain ⟨_, hwithin, _⟩ := inverse_eq_ok arm target _ _ solution hinverse
    obtain ⟨planned, hplanned, _⟩ := arm.planJointTargets_of_within hcurrent hwithin hperiod
    exact ⟨planned, (arm.planCartesian_eq_ok_iff _ _ _ _ _).mpr
      ⟨hcurrent, solution, hinverse, hplanned⟩⟩

theorem plan_cartesian_attains_stretched :
    (∃ planned, referenceArmModel.planCartesian referenceArmModel.home
        (referenceArmModel.poseOf stretched) (some 20.0) (1/50) = .ok planned) ∧
      ∀ planned, referenceArmModel.planCartesian referenceArmModel.home
          (referenceArmModel.poseOf stretched) (some 20.0) (1/50) = .ok planned →
        referenceArmModel.Attains (referenceArmModel.poseOf stretched) referenceArmModel.home
          (some 20.0) (1/50) planned := by
  have hspec := referenceArmModel.plan_cartesian_attains (referenceArmModel.poseOf stretched)
    (some 20.0) referenceArmModel.home (1/50)
  have hcosine := referenceArmModel.cosineElbow_poseOf_bounds stretched
  have htolerance : (0 : ℝ) ≤ reachTolerance := by
    unfold reachTolerance
    norm_num
  refine ⟨hspec.1.mpr ⟨by norm_num, referenceArmModel.withinLimits_home,
    ⟨by linarith, by linarith⟩, ?_⟩, hspec.2⟩
  -- the stretched arm is a branch of its own pose
  refine ⟨referenceArmModel.branch (referenceArmModel.poseOf stretched) (stretched .gripper)
    (radians (stretched .elbow)), ?_, ?_⟩
  · exact (referenceArmModel.mem_branches_iff _ _ hcosine _).mpr
      ⟨_, radians_abs_le _ stretched_canonical.elbow,
        (referenceArmModel.cosineElbow_poseOf _).symm, rfl⟩
  · rw [stretched_canonical.branch_eq]
    exact stretched_within

end Motion

end ArmModel
end RoboticCharacter.Robotics
