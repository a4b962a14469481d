import RoboticCharacter.SimulationSafety

/-! Every sample of a generated trajectory within its bounds, in exact arithmetic. -/
namespace RoboticCharacter.Robotics
open PythonMath Fallible DigitalTwinRobot

/-! ### The cubic time scaling on the unit interval -/
namespace CubicScaling
variable {K : Type*} [Field K] [LinearOrder K] [IsStrictOrderedRing K] {u : K}

theorem scale_nonneg (h0 : 0 ≤ u) (h1 : u ≤ 1) : 0 ≤ 3*u*u-2*u*u*u := by
  have hfactor : 3*u*u-2*u*u*u = u*u*(1+2*(1-u)) := by ring
  rw [hfactor]
  exact mul_nonneg (mul_nonneg h0 h0) (by linarith)

/-- Seen from the end the scaling is the same. -/
theorem scale_le_one (h0 : 0 ≤ u) (h1 : u ≤ 1) : 3*u*u-2*u*u*u ≤ 1 := by
  have hmirror : 3*(1-u)*(1-u)-2*(1-u)*(1-u)*(1-u) = 1-(3*u*u-2*u*u*u) := by ring
  have hback := scale_nonneg (sub_nonneg.mpr h1) (sub_le_self 1 h0)
  rw [hmirror] at hback
  exact sub_nonneg.mp hback

theorem scaleVelocity_nonneg (h0 : 0 ≤ u) (h1 : u ≤ 1) : 0 ≤ 6*u-6*u*u := by
  have hfactor : 6*u-6*u*u = 6*(u*(1-u)) := by ring
  rw [hfactor]
  exact mul_nonneg (by norm_num) (mul_nonneg h0 (sub_nonneg.mpr h1))

/-- The scaling is fastest half way. -/
theorem scaleVelocity_le : 6*u-6*u*u ≤ 3/2 := by
  have hsquare : 3/2-(6*u-6*u*u) = 6*((u-1/2)*(u-1/2)) := by ring
  have hpositive : 0 ≤ 6*((u-1/2)*(u-1/2)) := mul_nonneg (by norm_num) (mul_self_nonneg _)
  rw [← hsquare] at hpositive
  exact sub_nonneg.mp hpositive

/-- Its acceleration is greatest at the ends. -/
theorem abs_scaleAcceleration_le (h0 : 0 ≤ u) (h1 : u ≤ 1) : |6-12*u| ≤ 6 := by
  rw [abs_le]
  constructor
  · linarith
  · linarith

/-- A point between two others, at a fraction of the way. -/
theorem between_of_fraction {a b s : K} (h0 : 0 ≤ s) (h1 : s ≤ 1) :
    min a b ≤ a+(b-a)*s ∧ a+(b-a)*s ≤ max a b := by
  obtain hab | hba := le_total a b
  · rw [min_eq_left hab, max_eq_right hab]
    have hstep : (b-a)*s ≤ (b-a)*1 := mul_le_mul_of_nonneg_left h1 (sub_nonneg.mpr hab)
    have hforward : 0 ≤ (b-a)*s := mul_nonneg (sub_nonneg.mpr hab) h0
    constructor
    · linarith
    · linarith
  · rw [min_eq_right hba, max_eq_left hba]
    have hstep : (a-b)*s ≤ (a-b)*1 := mul_le_mul_of_nonneg_left h1 (sub_nonneg.mpr hba)
    have hback : 0 ≤ (a-b)*s := mul_nonneg (sub_nonneg.mpr hba) h0
    constructor
    · linarith
    · linarith

end CubicScaling

namespace ArmModel

/-- What the samples of a trajectory from `startDeg` to `targetDeg` keep to. -/
structure Bounded (arm : ArmModel ℝ) (startDeg targetDeg : JointName → ℝ) (samplePeriodS : ℝ)
    (trajectory : JointTrajectory ℝ) : Prop where
  equal_steps : ∃ steps : ℕ, 0 < steps ∧ trajectory.durationS/steps ≤ samplePeriodS ∧
    trajectory.samples.map (·.timeS) =
      (List.range (steps+1)).map fun index : ℕ => (index : ℝ)*(trajectory.durationS/steps)
  start_time : trajectory.start.timeS = 0
  end_time : trajectory.end.timeS = trajectory.durationS
  start_positions : trajectory.start.positionsDeg = startDeg
  end_positions : trajectory.end.positionsDeg = targetDeg
  between : ∀ sample ∈ trajectory.samples, ∀ name,
    min (startDeg name) (targetDeg name) ≤ sample.positionsDeg name ∧
      sample.positionsDeg name ≤ max (startDeg name) (targetDeg name)
  within_limits : ∀ sample ∈ trajectory.samples, arm.WithinLimits sample.positionsDeg
  velocity_lt : ∀ sample ∈ trajectory.samples, ∀ name other,
    |sample.velocitiesDegS name| < (arm.joint other).maxVelocityDegS
  acceleration_lt : ∀ sample ∈ trajectory.samples, ∀ name other,
    |sample.accelerationsDegS2 name| < (arm.joint other).maxAccelerationDegS2

/-- A duration that leaves room for the fastest and the hardest-driven joint. -/
structure Sufficient (arm : ArmModel ℝ) (startDeg targetDeg : JointName → ℝ) (duration : ℝ) :
    Prop where
  positive : 0 < duration
  velocity : ∀ name,
    3/2*|targetDeg name-startDeg name| < arm.globalVelocityLimit*duration
  acceleration : ∀ name,
    6*|targetDeg name-startDeg name| < arm.globalAccelerationLimit*(duration*duration)

/-- The margin of the minimum duration is worth more than the slack of the comparison. -/
theorem lt_of_accepted {reached duration : ℝ} (hreached : 1/20 ≤ reached)
    (h : reached*planningSafetyMargin ≤ duration+1/10^12) : reached < duration := by
  have hmargin : (planningSafetyMargin : ℝ) = 1+1/10^6 := by
    unfold planningSafetyMargin
    norm_num
  rw [hmargin, mul_add, mul_one] at h
  have hworth : (1/20 : ℝ)*(1/10^6) ≤ reached*(1/10^6) :=
    mul_le_mul_of_nonneg_right hreached (by norm_num)
  have hslack : (1/10^12 : ℝ) < 1/20*(1/10^6) := by norm_num
  linarith

theorem sufficient_of_accepted (arm : ArmModel ℝ) (startDeg targetDeg : JointName → ℝ)
    {duration : ℝ} (h : arm.boundedDuration startDeg targetDeg ≤ duration+1/10^12) :
    arm.Sufficient startDeg targetDeg duration := by
  have hvelocity := arm.globalVelocityLimit_pos
  have hacceleration := arm.globalAccelerationLimit_pos
  have hlt := lt_of_accepted
    (le_max_right (arm.jointNames.foldl (arm.boundDuration startDeg targetDeg) 0) (1/20)) h
  have hpositive : 0 < duration :=
    (by norm_num : (0 : ℝ) < 1/20).trans_le (le_max_right _ _) |>.trans hlt
  have hloop : ∀ bound, bound ≤ arm.jointNames.foldl (arm.boundDuration startDeg targetDeg) 0 →
      bound < duration := fun bound hbound => (hbound.trans (le_max_left _ _)).trans_lt hlt
  refine ⟨hpositive, ?_, ?_⟩
  · intro name
    by_cases hmoves : |targetDeg name-startDeg name| = 0
    · rw [hmoves, mul_zero]
      exact mul_pos hvelocity hpositive
    · have hbound := hloop _ (arm.velocityBound_le_foldl startDeg targetDeg hmoves 0)
      rwa [div_lt_iff₀ hvelocity, mul_comm duration] at hbound
  · intro name
    by_cases hmoves : |targetDeg name-startDeg name| = 0
    · rw [hmoves, mul_zero]
      exact mul_pos hacceleration (mul_pos hpositive hpositive)
    · have hbound : Real.sqrt (6*|targetDeg name-startDeg name|/arm.globalAccelerationLimit) <
          duration := hloop _ (arm.accelerationBound_le_foldl startDeg targetDeg hmoves 0)
      rwa [Real.sqrt_lt' hpositive, sq, div_lt_iff₀ hacceleration, mul_comm (duration*duration)]
        at hbound

/-- What `generate` accepts, it turns into samples at equal steps. -/
theorem generate_eq_ok {arm : ArmModel ℝ} {startDeg targetDeg : JointName → ℝ}
    (hstart : arm.WithinLimits startDeg) (htarget : arm.WithinLimits targetDeg)
    {samplePeriodS : ℝ} {durationS : Option ℝ} {trajectory : JointTrajectory ℝ}
    (h : arm.generate startDeg targetDeg samplePeriodS durationS = .ok trajectory) :
    ∃ duration, arm.boundedDuration startDeg targetDeg ≤ duration+1/10^12 ∧
      trajectory = trajectoryOf startDeg targetDeg duration
        (trajectorySteps duration samplePeriodS) := by
  unfold generate at h
  rw [arm.minimumDuration_of_within hstart htarget] at h
  simp only [Except.mapError, bind, Except.bind, pure, Except.pure] at h
  split_ifs at h with hperiod hshort
  exact ⟨durationS.getD _, not_lt.mp hshort, (Except.ok.inj h).symm⟩

/-- A sample in terms of the fraction of the way. -/
theorem sampleAt_fraction (startDeg targetDeg : JointName → ℝ) {duration : ℝ}
    (hduration : 0 < duration) (steps index : ℕ) :
    sampleAt startDeg targetDeg duration steps index =
      let u := (index : ℝ)/steps
      { timeS := (index : ℝ)*(duration/steps)
        positionsDeg := fun name => startDeg name+(targetDeg name-startDeg name)*(3*u*u-2*u*u*u)
        velocitiesDegS := fun name =>
          (targetDeg name-startDeg name)*((6*u-6*u*u)/duration)
        accelerationsDegS2 := fun name =>
          (targetDeg name-startDeg name)*((6-12*u)/(duration*duration)) } := by
  have htime : duration*(index : ℝ)/steps = (index : ℝ)*(duration/steps) := by ring
  have hfraction : (index : ℝ)*(duration/steps)/duration = (index : ℝ)/steps := by
    field_simp
  rw [sampleAt_eq]
  simp only [htime, if_neg hduration.ne', hfraction]

theorem globalVelocityLimit_le (arm : ArmModel ℝ) (name : JointName) :
    arm.globalVelocityLimit ≤ (arm.joint name).maxVelocityDegS := by
  unfold globalVelocityLimit minOverJoints
  cases name <;> simp

theorem globalAccelerationLimit_le (arm : ArmModel ℝ) (name : JointName) :
    arm.globalAccelerationLimit ≤ (arm.joint name).maxAccelerationDegS2 := by
  unfold globalAccelerationLimit minOverJoints
  cases name <;> simp

/-- Rounding the number of steps up keeps each within the sample period. -/
theorem duration_div_steps_le {duration samplePeriodS : ℝ} (hperiod : 0 < samplePeriodS) :
    duration/(trajectorySteps duration samplePeriodS : ℝ) ≤ samplePeriodS := by
  have hpos : (0 : ℝ) < (trajectorySteps duration samplePeriodS : ℕ) :=
    Nat.cast_pos.mpr (trajectorySteps_pos duration samplePeriodS)
  have hceil : duration/samplePeriodS ≤ (trajectorySteps duration samplePeriodS : ℕ) := by
    have hle : ⌈duration/samplePeriodS⌉ ≤ ((trajectorySteps duration samplePeriodS : ℕ) : ℤ) := by
      unfold trajectorySteps
      rw [Int.toNat_of_nonneg (by omega)]
      exact le_max_right _ _
    calc
      duration/samplePeriodS ≤ (⌈duration/samplePeriodS⌉ : ℝ) := Int.le_ceil _
      _ ≤ (((trajectorySteps duration samplePeriodS : ℕ) : ℤ) : ℝ) := Int.cast_le.mpr hle
      _ = (trajectorySteps duration samplePeriodS : ℕ) := Int.cast_natCast _
  rw [div_le_iff₀ hpos, mul_comm]
  exact (div_le_iff₀ hperiod).mp hceil

theorem abs_velocity_lt {arm : ArmModel ℝ} {startDeg targetDeg : JointName → ℝ} {duration : ℝ}
    (h : arm.Sufficient startDeg targetDeg duration) (name : JointName) {u : ℝ} (h0 : 0 ≤ u)
    (h1 : u ≤ 1) :
    |(targetDeg name-startDeg name)*((6*u-6*u*u)/duration)| < arm.globalVelocityLimit := by
  have hduration := h.positive
  rw [abs_mul, abs_div, abs_of_pos hduration,
    abs_of_nonneg (CubicScaling.scaleVelocity_nonneg h0 h1), ← mul_div_assoc, div_lt_iff₀ hduration]
  calc
    |targetDeg name-startDeg name| * (6*u-6*u*u) ≤ |targetDeg name-startDeg name| * (3/2) :=
      mul_le_mul_of_nonneg_left CubicScaling.scaleVelocity_le (abs_nonneg _)
    _ = 3/2*|targetDeg name-startDeg name| := mul_comm _ _
    _ < arm.globalVelocityLimit*duration := h.velocity name

theorem abs_acceleration_lt {arm : ArmModel ℝ} {startDeg targetDeg : JointName → ℝ}
    {duration : ℝ} (h : arm.Sufficient startDeg targetDeg duration) (name : JointName) {u : ℝ}
    (h0 : 0 ≤ u) (h1 : u ≤ 1) :
    |(targetDeg name-startDeg name)*((6-12*u)/(duration*duration))| <
      arm.globalAccelerationLimit := by
  have hsquare : 0 < duration*duration := mul_pos h.positive h.positive
  rw [abs_mul, abs_div, abs_of_pos hsquare, ← mul_div_assoc, div_lt_iff₀ hsquare]
  calc
    |targetDeg name-startDeg name| * |6-12*u| ≤ |targetDeg name-startDeg name| * 6 :=
      mul_le_mul_of_nonneg_left (CubicScaling.abs_scaleAcceleration_le h0 h1) (abs_nonneg _)
    _ = 6*|targetDeg name-startDeg name| := mul_comm _ _
    _ < arm.globalAccelerationLimit*(duration*duration) := h.acceleration name

/-- The samples are taken at fractions of the way, from its start to its end. -/
theorem mem_samples {startDeg targetDeg : JointName → ℝ} {duration : ℝ} {steps : ℕ}
    (hsteps : (0 : ℝ) < steps) {sample : TrajectorySample ℝ}
    (h : sample ∈ (trajectoryOf startDeg targetDeg duration steps).samples) :
    ∃ index : ℕ, 0 ≤ (index : ℝ)/steps ∧ (index : ℝ)/steps ≤ 1 ∧
      sample = sampleAt startDeg targetDeg duration steps index := by
  obtain ⟨index, hindex, rfl⟩ := List.mem_map.mp h
  refine ⟨index, div_nonneg (Nat.cast_nonneg index) hsteps.le, ?_, rfl⟩
  rw [div_le_one hsteps]
  exact Nat.cast_le.mpr (Nat.le_of_lt_succ (List.mem_range.mp hindex))

/-- A trajectory whose duration is sufficient keeps to every bound. -/
theorem bounded_trajectoryOf {arm : ArmModel ℝ} {startDeg targetDeg : JointName → ℝ}
    (hstart : arm.WithinLimits startDeg) (htarget : arm.WithinLimits targetDeg)
    {samplePeriodS : ℝ} (hperiod : 0 < samplePeriodS) {duration : ℝ}
    (h : arm.Sufficient startDeg targetDeg duration) :
    arm.Bounded startDeg targetDeg samplePeriodS (trajectoryOf startDeg targetDeg duration
      (trajectorySteps duration samplePeriodS)) := by
  have hpos := trajectorySteps_pos duration samplePeriodS
  have hle : duration/(trajectorySteps duration samplePeriodS : ℝ) ≤ samplePeriodS :=
    duration_div_steps_le hperiod
  generalize trajectorySteps duration samplePeriodS = steps at hpos hle ⊢
  have hsteps : (0 : ℝ) < steps := Nat.cast_pos.mpr hpos
  have hsample := sampleAt_fraction startDeg targetDeg h.positive steps
  have hfirst := start_trajectoryOf startDeg targetDeg duration steps
  have hlast := sampleAt_end startDeg targetDeg h.positive.ne' hsteps.ne'
  -- the positions run from one vector to the other without leaving the range between them
  have hbetween : ∀ sample ∈ (trajectoryOf startDeg targetDeg duration steps).samples, ∀ name,
      min (startDeg name) (targetDeg name) ≤ sample.positionsDeg name ∧
        sample.positionsDeg name ≤ max (startDeg name) (targetDeg name) := by
    intro sample hsamples name
    obtain ⟨index, hzero, hone, rfl⟩ := mem_samples hsteps hsamples
    rw [hsample]
    exact CubicScaling.between_of_fraction (CubicScaling.scale_nonneg hzero hone)
      (CubicScaling.scale_le_one hzero hone)
  refine ⟨⟨steps, hpos, hle, ?_⟩, ?_, ?_, ?_, ?_, hbetween, ?_, ?_, ?_⟩
  · unfold trajectoryOf
    rw [List.map_map]
    apply List.map_congr_left
    intro index _
    rw [Function.comp_apply, hsample]
  · rw [hfirst, hsample]
    exact (congrArg (· * (duration/steps)) Nat.cast_zero).trans (zero_mul _)
  · rw [end_trajectoryOf, hlast]
    rfl
  · rw [hfirst, hsample]
    funext name
    dsimp only
    rw [Nat.cast_zero, zero_div]
    ring
  · rw [end_trajectoryOf, hlast]
  · intro sample hsamples name
    obtain ⟨hlow, hhigh⟩ := hbetween sample hsamples name
    exact ⟨(le_min (hstart name).1 (htarget name).1).trans hlow,
      hhigh.trans (max_le (hstart name).2 (htarget name).2)⟩
  · -- the duration keeps the velocity under the strictest joint's limit
    intro sample hsamples name other
    obtain ⟨index, hzero, hone, rfl⟩ := mem_samples hsteps hsamples
    rw [hsample]
    exact (abs_velocity_lt h name hzero hone).trans_le (arm.globalVelocityLimit_le other)
  · intro sample hsamples name other
    obtain ⟨index, hzero, hone, rfl⟩ := mem_samples hsteps hsamples
    rw [hsample]
    exact (abs_acceleration_lt h name hzero hone).trans_le (arm.globalAccelerationLimit_le other)

/-- Every trajectory that is generated between vectors within the limits, at the least duration
or at one asked for, keeps to every bound at every sample. -/
theorem generated_trajectory_bounded (arm : ArmModel ℝ) {startDeg targetDeg : JointName → ℝ}
    (hstart : arm.WithinLimits startDeg) (htarget : arm.WithinLimits targetDeg)
    {samplePeriodS : ℝ} (hperiod : 0 < samplePeriodS) (durationS : Option ℝ)
    {trajectory : JointTrajectory ℝ}
    (h : arm.generate startDeg targetDeg samplePeriodS durationS = .ok trajectory) :
    arm.Bounded startDeg targetDeg samplePeriodS trajectory := by
  obtain ⟨duration, haccepted, rfl⟩ := generate_eq_ok hstart htarget h
  exact bounded_trajectoryOf hstart htarget hperiod
    (arm.sufficient_of_accepted startDeg targetDeg haccepted)

theorem generated_trajectory_bounded_stretchedUp : ∃ trajectory,
    Robotics.referenceArmModel.generate Robotics.referenceArmModel.home
        Simulation.stretchedUp (1/50) none = .ok trajectory ∧
      Robotics.referenceArmModel.Bounded Robotics.referenceArmModel.home
        Simulation.stretchedUp (1/50) trajectory := by
  have hhome := Robotics.referenceArmModel.withinLimits_home
  have hperiod : (0 : ℝ) < 1/50 := by norm_num
  have hgenerate := Robotics.referenceArmModel.generate_of_within hhome
    Simulation.stretchedUp_within hperiod
  exact ⟨_, hgenerate, Robotics.referenceArmModel.generated_trajectory_bounded hhome
    Simulation.stretchedUp_within hperiod none hgenerate⟩

end ArmModel

end RoboticCharacter.Robotics
