import RoboticCharacter.RobotInverse

/-! What inverse kinematics reach: a solution is always right, and there is one exactly for the
poses of the canonical joint vectors within the limits. -/
namespace RoboticCharacter.Robotics
open PythonMath PlanarLinkage

namespace ArmModel
variable (arm : ArmModel ℝ)

/-- The angle at which the shoulder sees the tip, in radians. -/
noncomputable def elevation (v : JointName → ℝ) : ℝ :=
  radians (v .shoulder)+(arm.armReach v).arg

/-- A joint vector as the inverse kinematics give them: angles within half a turn, the tip in front
of the shoulder, and no angle where it makes no difference. -/
structure Canonical (v : JointName → ℝ) : Prop where
  base_gt : -180 < v .base
  base_le : v .base ≤ 180
  elbow : |v .elbow| ≤ 180
  elevation : |arm.elevation v| ≤ Real.pi/2
  on_axis : (arm.poseOf v).xMm = 0 → (arm.poseOf v).yMm = 0 → v .base = 0
  at_shoulder : arm.armTip v = 0 → v .shoulder = 0

theorem armTip_eq_zero_iff (v : JointName → ℝ) : arm.armTip v = 0 ↔ arm.armReach v = 0 := by
  unfold armTip armReach
  rw [← norm_eq_zero, norm_tip, norm_eq_zero]

theorem degrees_abs_le (x : ℝ) (h : |x| ≤ Real.pi) : |degrees x| ≤ 180 := by
  rw [degrees_eq, abs_mul, abs_of_pos (div_pos (by norm_num) Real.pi_pos), mul_div_assoc',
    div_le_iff₀ Real.pi_pos, mul_comm]
  exact mul_le_mul_of_nonneg_left h (by norm_num)

theorem radians_abs_le (x : ℝ) (h : |x| ≤ 180) : |radians x| ≤ Real.pi := by
  change |x*(Real.pi/180)| ≤ Real.pi
  rw [abs_mul, abs_of_pos (div_pos Real.pi_pos (by norm_num)), mul_div_assoc',
    div_le_iff₀ (by norm_num), mul_comm Real.pi]
  exact mul_le_mul_of_nonneg_right h Real.pi_pos.le

theorem radians_mem_Ioc (x : ℝ) (hgt : -180 < x) (hle : x ≤ 180) :
    radians x ∈ Set.Ioc (-Real.pi) Real.pi := by
  have hpi := Real.pi_pos
  change x*(Real.pi/180) ∈ _
  constructor
  · linarith [mul_lt_mul_of_pos_right hgt (div_pos hpi (by norm_num : (0 : ℝ) < 180))]
  · linarith [mul_le_mul_of_nonneg_right hle (div_pos hpi (by norm_num : (0 : ℝ) < 180)).le]

theorem degrees_gt (x : ℝ) (h : -Real.pi < x) : -180 < degrees x := by
  rw [degrees_eq, mul_div_assoc', lt_div_iff₀ Real.pi_pos]
  linarith

theorem degrees_zero : degrees (0 : ℝ) = 0 := zero_mul _

/-- The cosine that is computed for a pose is that of the elbow that was there. -/
theorem cosineElbow_poseOf (v : JointName → ℝ) :
    arm.cosineElbow (arm.poseOf v) = Real.cos (radians (v .elbow)) := by
  have hradial : radial (arm.poseOf v)^2 = (arm.armTip v).re^2 := by
    rw [poseOf_eq]
    change √_^2 = _
    rw [Real.sq_sqrt (by positivity)]
    linear_combination (arm.armTip v).re^2*Real.cos_sq_add_sin_sq (radians (v .base))
  have hvertical : arm.vertical (arm.poseOf v) = (arm.armTip v).im := by
    rw [poseOf_eq]
    exact add_sub_cancel_left _ _
  have hnorm : (arm.armTip v).re^2+(arm.armTip v).im^2 = arm.geometry.shoulderLinkMm^2+
      arm.distal^2+2*arm.geometry.shoulderLinkMm*arm.distal*Real.cos (radians (v .elbow)) := by
    rw [← normSq_reach, Complex.normSq_eq_norm_sq, ← norm_tip _ _ (radians (v .shoulder)),
      ← Complex.normSq_eq_norm_sq, Complex.normSq_apply, sq, sq]
    rfl
  have hshoulder := arm.geometry.shoulderLink_pos.ne'
  have hdistal := arm.distal_pos.ne'
  rw [cosineElbow_eq, hradial, hvertical, div_eq_iff (by positivity)]
  linear_combination hnorm

theorem cosineElbow_poseOf_bounds (v : JointName → ℝ) :
    -1 ≤ arm.cosineElbow (arm.poseOf v) ∧ arm.cosineElbow (arm.poseOf v) ≤ 1 := by
  rw [cosineElbow_poseOf]
  exact ⟨Real.neg_one_le_cos _, Real.cos_le_one _⟩

theorem canonical_branch (target : CartesianPose ℝ) (gripperDeg elbow : ℝ)
    (helbow : |elbow| ≤ Real.pi) (h : Real.cos elbow = arm.cosineElbow target) :
    arm.Canonical (arm.branch target gripperDeg elbow).asDict := by
  have hrange := Complex.arg_mem_Ioc (⟨target.xMm, target.yMm⟩ : ℂ)
  have hreach : arm.armReach (arm.branch target gripperDeg elbow).asDict =
      reach arm.geometry.shoulderLinkMm arm.distal elbow := by
    change reach _ _ (radians (degrees elbow)) = _
    rw [radians_degrees]
  refine ⟨degrees_gt _ hrange.1, ?_, degrees_abs_le elbow helbow, ?_, ?_, ?_⟩
  · exact (le_abs_self _).trans (degrees_abs_le _ (Complex.abs_arg_le_pi _))
  · -- the shoulder turns by what the bent arm is short of the direction of the wrist
    have helevation : arm.elevation (arm.branch target gripperDeg elbow).asDict =
        (arm.wrist target).arg := by
      unfold ArmModel.elevation
      rw [hreach]
      change radians (arm.branch target gripperDeg elbow).shoulderDeg+_ = _
      rw [branch_shoulder, sub_add_cancel]
    rw [helevation, Complex.abs_arg_le_pi_div_two_iff]
    exact Real.sqrt_nonneg _
  · rw [branch_pose _ _ _ _ h]
    intro hx hy
    change degrees (⟨target.xMm, target.yMm⟩ : ℂ).arg = 0
    rw [hx, hy]
    change degrees (0 : ℂ).arg = 0
    rw [Complex.arg_zero, degrees_zero]
  · intro htip
    have hzero := (arm.armTip_eq_zero_iff _).mp htip
    rw [branch_tip _ _ _ _ h] at htip
    have hradians : radians (arm.branch target gripperDeg elbow).shoulderDeg = 0 := by
      rw [branch_shoulder, htip, ← hreach, hzero, sub_self]
    change (arm.branch target gripperDeg elbow).shoulderDeg = 0
    rw [← degrees_radians (arm.branch target gripperDeg elbow).shoulderDeg, hradians, degrees_zero]

/-- In front of the shoulder the distance from the axis is not negative. -/
theorem Canonical.tip_re_nonneg {v : JointName → ℝ} (h : arm.Canonical v) :
    0 ≤ (arm.armTip v).re := by
  unfold armTip
  rw [tip_re_polar]
  exact mul_nonneg (norm_nonneg _) (Real.cos_nonneg_of_mem_Icc (abs_le.mp h.elevation))

theorem Canonical.wrist_eq {v : JointName → ℝ} (h : arm.Canonical v) :
    arm.wrist (arm.poseOf v) = arm.armTip v := by
  have hradial : radial (arm.poseOf v) = (arm.armTip v).re := by
    rw [poseOf_eq]
    change √_ = _
    rw [← Real.sqrt_sq h.tip_re_nonneg]
    congr 1
    rw [Real.sqrt_sq h.tip_re_nonneg]
    linear_combination (arm.armTip v).re^2*Real.cos_sq_add_sin_sq (radians (v .base))
  apply Complex.ext hradial
  rw [poseOf_eq]
  exact add_sub_cancel_left _ _

theorem Canonical.base_eq {v : JointName → ℝ} (h : arm.Canonical v) :
    degrees (⟨(arm.poseOf v).xMm, (arm.poseOf v).yMm⟩ : ℂ).arg = v .base := by
  -- on the axis the base is zero on both sides, and before it the angle is the polar one
  rcases h.tip_re_nonneg.eq_or_lt with hzero | hpos
  · have hx : (arm.poseOf v).xMm = 0 := by
      rw [poseOf_eq, ← hzero]
      exact zero_mul _
    have hy : (arm.poseOf v).yMm = 0 := by
      rw [poseOf_eq, ← hzero]
      exact zero_mul _
    rw [hx, hy, h.on_axis hx hy]
    change degrees (0 : ℂ).arg = 0
    rw [Complex.arg_zero, degrees_zero]
  · have hpolar : (⟨(arm.poseOf v).xMm, (arm.poseOf v).yMm⟩ : ℂ) = ((arm.armTip v).re : ℂ)*
        (Complex.cos (radians (v .base) : ℝ)+Complex.sin (radians (v .base) : ℝ)*Complex.I) := by
      rw [poseOf_eq, ← Complex.ofReal_cos, ← Complex.ofReal_sin]
      apply Complex.ext
      · rw [Complex.re_ofReal_mul, Complex.add_re, Complex.re_ofReal_mul, Complex.ofReal_re,
          Complex.I_re, mul_zero, add_zero]
      · rw [Complex.im_ofReal_mul, Complex.add_im, Complex.im_ofReal_mul, Complex.ofReal_im,
          Complex.I_im, mul_one, zero_add]
    rw [hpolar, Complex.arg_mul_cos_add_sin_mul_I hpos
      (radians_mem_Ioc _ h.base_gt h.base_le), degrees_radians]

theorem Canonical.shoulder_eq {v : JointName → ℝ} (h : arm.Canonical v) :
    (arm.armTip v).arg-(arm.armReach v).arg = radians (v .shoulder) := by
  by_cases hzero : arm.armTip v = 0
  · rw [hzero, (arm.armTip_eq_zero_iff v).mp hzero, sub_self, h.at_shoulder hzero]
    exact (zero_mul _).symm
  · have hpi := Real.pi_pos
    obtain ⟨hlow, hhigh⟩ := abs_le.mp h.elevation
    have hprincipal : arm.elevation v ∈ Set.Ioc (-Real.pi) Real.pi := ⟨by linarith, by linarith⟩
    exact (lift_eq _ _ _ _ hzero hprincipal).symm

/-- A canonical vector is a branch of its own pose. -/
theorem Canonical.branch_eq {v : JointName → ℝ} (h : arm.Canonical v) :
    (arm.branch (arm.poseOf v) (v .gripper) (radians (v .elbow))).asDict = v := by
  have hshoulder : (arm.branch (arm.poseOf v) (v .gripper) (radians (v .elbow))).shoulderDeg =
      v .shoulder := by
    rw [← degrees_radians (arm.branch (arm.poseOf v) (v .gripper)
      (radians (v .elbow))).shoulderDeg, branch_shoulder, h.wrist_eq]
    change degrees ((arm.armTip v).arg-(arm.armReach v).arg) = _
    rw [h.shoulder_eq, degrees_radians]
  funext name
  cases name with
  | base => exact h.base_eq
  | shoulder => exact hshoulder
  | elbow => exact degrees_radians _
  | gripper => rfl

theorem inverse_of_canonical (v seed : JointName → ℝ) (hv : arm.WithinLimits v)
    (hcanonical : arm.Canonical v) (hseed : arm.WithinLimits seed) :
    ∃ solution, arm.inverse (arm.poseOf v) (some (v .gripper)) (some seed) = .ok solution := by
  have hcosine := arm.cosineElbow_poseOf_bounds v
  have htolerance : (0 : ℝ) ≤ reachTolerance := by unfold reachTolerance; norm_num
  refine inverse_succeeds arm _ _ seed ⟨by linarith, by linarith⟩ hseed
    ⟨arm.branch (arm.poseOf v) (v .gripper) (radians (v .elbow)), ?_, ?_⟩
  · exact (arm.mem_branches_iff _ _ hcosine _).mpr
      ⟨_, radians_abs_le _ hcanonical.elbow, (arm.cosineElbow_poseOf v).symm, rfl⟩
  · rw [hcanonical.branch_eq]
    exact hv

/-- A solution is within the limits, gets exactly to the target, and with a valid seed no other
branch within the limits is closer to the seed. -/
theorem inverse_sound (target : CartesianPose ℝ) (gripperDeg : Option ℝ)
    (seedDeg : Option (JointName → ℝ))
    (hcosine : -1 ≤ arm.cosineElbow target ∧ arm.cosineElbow target ≤ 1)
    (solution : JointSolution ℝ)
    (hsolution : arm.inverse target gripperDeg seedDeg = .ok solution) :
    arm.WithinLimits solution.asDict ∧ arm.forward solution.asDict = .ok target ∧
      ∀ seed, seedDeg = some seed →
        ∀ other ∈ arm.branches target (arm.requestedGripper gripperDeg),
          arm.WithinLimits other.asDict → solution.distance seed ≤ other.distance seed := by
  obtain ⟨hmem, hwithin, hclosest⟩ := inverse_eq_ok arm target gripperDeg seedDeg solution hsolution
  obtain ⟨elbow, _, hcos, rfl⟩ := (arm.mem_branches_iff target _ hcosine solution).mp hmem
  refine ⟨hwithin, ?_, hclosest⟩
  rw [arm.forward_of_within hwithin, branch_pose arm target _ elbow hcos]

/-- The arm stretched out in front of it. -/
def stretched : JointName → ℝ := jointVector 0 0 0 20.0

theorem reference_within (base shoulder elbow gripper : ℝ) (hbase : -135 ≤ base ∧ base ≤ 135)
    (hshoulder : -60 ≤ shoulder ∧ shoulder ≤ 120) (helbow : -135 ≤ elbow ∧ elbow ≤ 135)
    (hgripper : 0 ≤ gripper ∧ gripper ≤ 70) :
    referenceArmModel.WithinLimits (jointVector base shoulder elbow gripper) := by
  intro name
  unfold RobotModel.Contains RobotModel.joint referenceArmModel referenceModel referenceArm
    JointRow.toJoint
  cases name
  · simpa [referenceRow, jointVector] using hbase
  · simpa [referenceRow, jointVector] using hshoulder
  · simpa [referenceRow, jointVector] using helbow
  · simpa [referenceRow, jointVector] using hgripper

theorem stretched_within : referenceArmModel.WithinLimits stretched :=
  reference_within 0 0 0 20.0 (by norm_num) (by norm_num) (by norm_num) (by norm_num)

theorem stretched_canonical : referenceArmModel.Canonical stretched := by
  have hzero : radians (0 : ℝ) = 0 := zero_mul _
  have hreach : referenceArmModel.armReach stretched = ((295 : ℝ) : ℂ) := by
    change (((120 : ℕ) : ℝ) : ℂ)+((((120 : ℕ) : ℝ)+((55 : ℕ) : ℝ) : ℝ) : ℂ)*
      Complex.exp ((radians (0 : ℝ) : ℝ)*Complex.I) = _
    rw [hzero, Complex.ofReal_zero, zero_mul, Complex.exp_zero, mul_one, ← Complex.ofReal_add]
    norm_num
  have helevation : referenceArmModel.elevation stretched = 0 := by
    unfold ArmModel.elevation
    rw [hreach, Complex.arg_ofReal_of_nonneg (by norm_num), add_zero]
    exact hzero
  refine ⟨?_, ?_, ?_, ?_, fun _ _ => rfl, fun _ => rfl⟩
  · change (-180 : ℝ) < 0
    norm_num
  · change (0 : ℝ) ≤ 180
    norm_num
  · change |(0 : ℝ)| ≤ 180
    norm_num
  · rw [helevation, abs_zero]
    exact div_nonneg Real.pi_pos.le (by norm_num)

theorem inverse_sound_stretched : ∃ solution,
    referenceArmModel.inverse (referenceArmModel.poseOf stretched) (some 20.0) (some stretched) =
        .ok solution ∧
      referenceArmModel.forward solution.asDict = .ok (referenceArmModel.poseOf stretched) := by
  obtain ⟨solution, hsolution⟩ := referenceArmModel.inverse_of_canonical stretched stretched
    stretched_within stretched_canonical stretched_within
  exact ⟨solution, hsolution, (referenceArmModel.inverse_sound _ _ _
    (referenceArmModel.cosineElbow_poseOf_bounds stretched) solution hsolution).2.1⟩

/-- The pose of a joint vector is planned to exactly if a canonical vector within the limits, with
the same gripper, has it as well. -/
theorem inverse_of_forward_iff (q : JointName → ℝ) (pose : CartesianPose ℝ)
    (hforward : arm.forward q = .ok pose) :
    (∃ solution, arm.inverse pose (some (q .gripper)) (some q) = .ok solution) ↔
      ∃ v, arm.forward v = .ok pose ∧ v .gripper = q .gripper ∧ arm.Canonical v := by
  obtain ⟨hq, rfl⟩ := (arm.forward_eq_ok_iff q pose).mp hforward
  constructor
  · rintro ⟨solution, hsolution⟩
    obtain ⟨hmem, hwithin, _⟩ := inverse_eq_ok arm _ _ _ solution hsolution
    obtain ⟨elbow, habs, hcos, rfl⟩ :=
      (arm.mem_branches_iff _ _ (arm.cosineElbow_poseOf_bounds q) solution).mp hmem
    exact ⟨_, (arm.forward_eq_ok_iff _ _).mpr ⟨hwithin, branch_pose _ _ _ elbow hcos⟩, rfl,
      arm.canonical_branch _ _ elbow habs hcos⟩
  · rintro ⟨v, hv, hgripper, hcanonical⟩
    obtain ⟨hwithin, hpose⟩ := (arm.forward_eq_ok_iff v _).mp hv
    rw [← hpose, ← hgripper]
    exact arm.inverse_of_canonical v q hwithin hcanonical hq

theorem inverse_of_forward_stretched : ∃ solution,
    referenceArmModel.inverse (referenceArmModel.poseOf stretched) (some 20.0) (some stretched) =
      .ok solution :=
  (referenceArmModel.inverse_of_forward_iff stretched (referenceArmModel.poseOf stretched)
    (referenceArmModel.forward_of_within stretched_within)).mpr
    ⟨stretched, referenceArmModel.forward_of_within stretched_within, rfl, stretched_canonical⟩

/-- The arm folded over the shoulder, so that the tip is behind the base. -/
def foldedBack : JointName → ℝ := jointVector 0 120.0 60.0 20.0

theorem foldedBack_pose : (referenceArmModel.poseOf foldedBack).xMm = -235 ∧
    (referenceArmModel.poseOf foldedBack).yMm = 0 := by
  have htwoThirds : (120.0 : ℝ)*(Real.pi/180) = Real.pi-Real.pi/3 := by
    norm_num only
    ring
  have hthird : (60.0 : ℝ)*(Real.pi/180) = Real.pi/3 := by
    norm_num only
    ring
  have hradial : (((120 : ℕ) : ℝ)*Real.cos (120.0*(Real.pi/180))+(((120 : ℕ) : ℝ)+((55 : ℕ) : ℝ))*
      Real.cos (120.0*(Real.pi/180)+60.0*(Real.pi/180))) = -235 := by
    rw [htwoThirds, hthird, sub_add_cancel, Real.cos_pi, Real.cos_pi_sub, Real.cos_pi_div_three]
    norm_num
  constructor
  · change (((120 : ℕ) : ℝ)*Real.cos (120.0*(Real.pi/180))+(((120 : ℕ) : ℝ)+((55 : ℕ) : ℝ))*
      Real.cos (120.0*(Real.pi/180)+60.0*(Real.pi/180)))*Real.cos (0*(Real.pi/180)) = -235
    rw [hradial, zero_mul, Real.cos_zero, mul_one]
  · change _*Real.sin (0*(Real.pi/180)) = 0
    rw [zero_mul, Real.sin_zero, mul_zero]

/-- The reference arm gets to the pose, but the base would have to turn by half a turn. -/
theorem foldedBack_not_planned : ∃ pose, referenceArmModel.forward foldedBack = .ok pose ∧
    ¬ ∃ solution, referenceArmModel.inverse pose (some (foldedBack .gripper)) (some foldedBack) =
      .ok solution := by
  have hwithin : referenceArmModel.WithinLimits foldedBack :=
    reference_within 0 120.0 60.0 20.0 (by norm_num) (by norm_num) (by norm_num) (by norm_num)
  refine ⟨_, referenceArmModel.forward_of_within hwithin, ?_⟩
  rintro ⟨solution, hsolution⟩
  obtain ⟨hmem, hsolved, _⟩ := inverse_eq_ok referenceArmModel _ _ _ solution hsolution
  have hbase : solution.baseDeg = degrees
      (⟨(referenceArmModel.poseOf foldedBack).xMm,
        (referenceArmModel.poseOf foldedBack).yMm⟩ : ℂ).arg := by
    rcases List.mem_pair.mp hmem with rfl | rfl <;> rfl
  have hhalf : solution.baseDeg = 180 := by
    have harg := Complex.arg_ofReal_of_neg (by norm_num : (-235 : ℝ) < 0)
    rw [hbase, foldedBack_pose.1, foldedBack_pose.2]
    change degrees ((-235 : ℝ) : ℂ).arg = 180
    rw [harg]
    rw [degrees_eq]
    exact mul_div_cancel₀ 180 Real.pi_ne_zero
  have hlimit : solution.baseDeg ≤ ((135 : ℤ) : ℝ) := (hsolved .base).2
  rw [hhalf] at hlimit
  norm_num at hlimit

end ArmModel
end RoboticCharacter.Robotics
