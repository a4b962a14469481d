import RoboticCharacter.RobotKinematics
import RoboticCharacter.SimulationTwin

/-! Cubic time-scaled trajectories between two joint vectors. -/
namespace RoboticCharacter.Robotics
open PythonMath Fallible DigitalTwinRobot

structure TrajectorySample (K : Type) where
  timeS : K
  positionsDeg : JointName → K
  velocitiesDegS : JointName → K
  accelerationsDegS2 : JointName → K

/-- A trajectory, which has a sample at least. -/
structure JointTrajectory (K : Type) where
  durationS : K
  samples : List (TrajectorySample K)
  samples_ne_nil : samples ≠ []

namespace JointTrajectory
variable {K : Type}

def start (trajectory : JointTrajectory K) : TrajectorySample K :=
  trajectory.samples.head trajectory.samples_ne_nil

def «end» (trajectory : JointTrajectory K) : TrajectorySample K :=
  trajectory.samples.getLast trajectory.samples_ne_nil

end JointTrajectory

inductive TrajectoryError (K : Type)
  | samplePeriod
  | belowMinimum (durationS minimum : K)
  | violatesModel (error : RobotModelError K)

namespace ArmModel
variable {K : Type} [Field K] [LinearOrder K]

def globalVelocityLimit (arm : ArmModel K) : K :=
  minOverJoints fun name => (arm.joint name).maxVelocityDegS

def globalAccelerationLimit (arm : ArmModel K) : K :=
  minOverJoints fun name => (arm.joint name).maxAccelerationDegS2

theorem minOverJoints_pos {value : JointName → K} (h : ∀ name, 0 < value name) :
    0 < minOverJoints value :=
  lt_min (lt_min (h .base) (h .shoulder)) (lt_min (h .elbow) (h .gripper))

theorem globalVelocityLimit_pos (arm : ArmModel K) : 0 < arm.globalVelocityLimit :=
  minOverJoints_pos fun name => (arm.joint name).maxVelocity_pos

theorem globalAccelerationLimit_pos (arm : ArmModel K) : 0 < arm.globalAccelerationLimit :=
  minOverJoints_pos fun name => (arm.joint name).maxAcceleration_pos

def planningSafetyMargin : K := 1.000001

section MinimumDuration
variable [SquareRoot K]

/-- One turn of the loop of `minimum_duration`. -/
def boundDuration (arm : ArmModel K) (startDeg targetDeg : JointName → K) (duration : K)
    (name : JointName) : K :=
  let delta := |targetDeg name-startDeg name|
  if delta = 0 then duration
  else
    max (max duration (1.5*delta/arm.globalVelocityLimit))
      (SquareRoot.sqrt (6.0*delta/arm.globalAccelerationLimit))

/-- The duration that `minimum_duration` gives vectors that it accepts. -/
def boundedDuration (arm : ArmModel K) (startDeg targetDeg : JointName → K) : K :=
  max (arm.jointNames.foldl (arm.boundDuration startDeg targetDeg) 0) (1/20)*planningSafetyMargin

def minimumDuration (arm : ArmModel K) (startDeg targetDeg : JointName → K) :
    Except (RobotModelError K) K := do
  arm.validateJointPositions startDeg
  arm.validateJointPositions targetDeg
  return arm.boundedDuration startDeg targetDeg

end MinimumDuration

/-- The sample of `generate` at this index. -/
def sampleAt (startDeg targetDeg : JointName → K) (duration : K) (steps index : ℕ) :
    TrajectorySample K :=
  let timeS := duration*(index : K)/(steps : K)
  let u := if duration = 0 then 0 else timeS/duration
  let scale := 3.0*u*u-2.0*u*u*u
  let scaleVelocity := (6.0*u-6.0*u*u)/duration
  let scaleAcceleration := (6.0-12.0*u)/(duration*duration)
  { timeS := timeS
    positionsDeg := fun name => startDeg name+(targetDeg name-startDeg name)*scale
    velocitiesDegS := fun name => (targetDeg name-startDeg name)*scaleVelocity
    accelerationsDegS2 := fun name => (targetDeg name-startDeg name)*scaleAcceleration }

theorem range_succ_ne_nil (steps : ℕ) : List.range (steps+1) ≠ [] :=
  List.ne_nil_of_mem (List.mem_range.mpr (Nat.succ_pos steps))

/-- The samples of a trajectory at `steps` intervals of one length. -/
def trajectoryOf (startDeg targetDeg : JointName → K) (duration : K) (steps : ℕ) :
    JointTrajectory K where
  durationS := duration
  samples := (List.range (steps+1)).map (sampleAt startDeg targetDeg duration steps)
  samples_ne_nil := map_ne_nil _ (range_succ_ne_nil steps)

theorem end_trajectoryOf (startDeg targetDeg : JointName → K) (duration : K) (steps : ℕ) :
    (trajectoryOf startDeg targetDeg duration steps).end =
      sampleAt startDeg targetDeg duration steps steps := by
  have hlast : (List.range (steps+1)).getLast (range_succ_ne_nil steps) = steps := by
    simp only [List.range_succ, List.getLast_append_singleton]
  unfold JointTrajectory.end trajectoryOf
  simp only [List.getLast_map, hlast]

theorem start_trajectoryOf (startDeg targetDeg : JointName → K) (duration : K) (steps : ℕ) :
    (trajectoryOf startDeg targetDeg duration steps).start =
      sampleAt startDeg targetDeg duration steps 0 := by
  unfold JointTrajectory.start trajectoryOf
  simp only [List.head_map, List.head_range]

/-- The literals of the source as numerals. -/
theorem sampleAt_eq [IsStrictOrderedRing K] (startDeg targetDeg : JointName → K) (duration : K)
    (steps index : ℕ) :
    sampleAt startDeg targetDeg duration steps index =
      let timeS := duration*(index : K)/(steps : K)
      let u := if duration = 0 then 0 else timeS/duration
      { timeS := timeS
        positionsDeg := fun name =>
          startDeg name+(targetDeg name-startDeg name)*(3*u*u-2*u*u*u)
        velocitiesDegS := fun name =>
          (targetDeg name-startDeg name)*((6*u-6*u*u)/duration)
        accelerationsDegS2 := fun name =>
          (targetDeg name-startDeg name)*((6-12*u)/(duration*duration)) } := by
  have htwo : (2.0 : K) = 2 := by norm_num
  have hthree : (3.0 : K) = 3 := by norm_num
  have hsix : (6.0 : K) = 6 := by norm_num
  have htwelve : (12.0 : K) = 12 := by norm_num
  simp only [sampleAt, htwo, hthree, hsix, htwelve]

theorem sampleAt_end [IsStrictOrderedRing K] (startDeg targetDeg : JointName → K) {duration : K}
    (hduration : duration ≠ 0) {steps : ℕ} (hsteps : (steps : K) ≠ 0) :
    sampleAt startDeg targetDeg duration steps steps =
      { timeS := duration, positionsDeg := targetDeg, velocitiesDegS := fun _ => 0,
        accelerationsDegS2 := fun name =>
          -(6*(targetDeg name-startDeg name)/(duration*duration)) } := by
  have htime : duration*(steps : K)/(steps : K) = duration := mul_div_cancel_right₀ duration hsteps
  rw [sampleAt_eq]
  simp only [htime, if_neg hduration, div_self hduration]
  congr 1
  · funext name
    ring
  · funext name
    ring
  · funext name
    ring

section Generate
variable [FloorRing K]

/-- `max(1, ceil(duration / sample_period_s))`. -/
def trajectorySteps (duration samplePeriodS : K) : ℕ := (max 1 ⌈duration/samplePeriodS⌉).toNat

theorem trajectorySteps_pos (duration samplePeriodS : K) :
    0 < trajectorySteps duration samplePeriodS := by
  have hone : 1 ≤ max 1 ⌈duration/samplePeriodS⌉ := le_max_left 1 _
  unfold trajectorySteps
  omega

variable [SquareRoot K]

def generate (arm : ArmModel K) (startDeg targetDeg : JointName → K) (samplePeriodS : K)
    (durationS : Option K) : Except (TrajectoryError K) (JointTrajectory K) := do
  if samplePeriodS ≤ 0 then .error .samplePeriod
  else
    let minimum ← (arm.minimumDuration startDeg targetDeg).mapError .violatesModel
    let duration := durationS.getD minimum
    if duration+1/10^12 < minimum then .error (.belowMinimum duration minimum)
    else
      return trajectoryOf startDeg targetDeg duration (trajectorySteps duration samplePeriodS)

end Generate

theorem minimumDuration_of_within [SquareRoot K] (arm : ArmModel K)
    {startDeg targetDeg : JointName → K} (hstart : arm.WithinLimits startDeg)
    (htarget : arm.WithinLimits targetDeg) :
    arm.minimumDuration startDeg targetDeg = .ok (arm.boundedDuration startDeg targetDeg) := by
  unfold minimumDuration
  rw [(arm.validateJointPositions_eq_ok_iff startDeg ()).mpr hstart,
    (arm.validateJointPositions_eq_ok_iff targetDeg ()).mpr htarget]
  rfl

theorem generate_of_within [IsStrictOrderedRing K] [FloorRing K] [SquareRoot K] (arm : ArmModel K)
    {startDeg targetDeg : JointName → K} (hstart : arm.WithinLimits startDeg)
    (htarget : arm.WithinLimits targetDeg) {samplePeriodS : K} (hperiod : 0 < samplePeriodS) :
    arm.generate startDeg targetDeg samplePeriodS none =
      .ok (trajectoryOf startDeg targetDeg (arm.boundedDuration startDeg targetDeg)
        (trajectorySteps (arm.boundedDuration startDeg targetDeg) samplePeriodS)) := by
  have hminimum := arm.minimumDuration_of_within hstart htarget
  have hslack : ¬ arm.boundedDuration startDeg targetDeg+1/10^12 <
      arm.boundedDuration startDeg targetDeg := by
    have htiny : (0 : K) < 1/10^12 := by positivity
    exact not_lt.mpr (le_add_of_nonneg_right htiny.le)
  unfold generate
  rw [if_neg (not_le.mpr hperiod), hminimum]
  exact if_neg hslack

/-! ### The duration keeps the accelerations within the strictest limit -/
section Bounds
variable [SquareRoot K]

theorem le_boundDuration (arm : ArmModel K) (startDeg targetDeg : JointName → K) (duration : K)
    (name : JointName) : duration ≤ arm.boundDuration startDeg targetDeg duration name := by
  unfold boundDuration
  dsimp only
  split_ifs
  · exact le_rfl
  · exact (le_max_left _ _).trans (le_max_left _ _)

theorem le_foldl_boundDuration (arm : ArmModel K) (startDeg targetDeg : JointName → K)
    (names : List JointName) : ∀ duration : K,
      duration ≤ names.foldl (arm.boundDuration startDeg targetDeg) duration := by
  induction names with
  | nil =>
    intro duration
    exact le_rfl
  | cons name names ih =>
    intro duration
    exact (arm.le_boundDuration startDeg targetDeg duration name).trans (ih _)

/-- What every turn for a joint reaches, the loop reaches. -/
theorem le_foldl_of_le_boundDuration (arm : ArmModel K) (startDeg targetDeg : JointName → K)
    {name : JointName} {bound : K}
    (hbound : ∀ duration, bound ≤ arm.boundDuration startDeg targetDeg duration name)
    (names : List JointName) : ∀ duration : K, name ∈ names →
      bound ≤ names.foldl (arm.boundDuration startDeg targetDeg) duration := by
  induction names with
  | nil =>
    intro duration hmem
    exact absurd hmem List.not_mem_nil
  | cons first names ih =>
    intro duration hmem
    obtain rfl | hrest := List.mem_cons.mp hmem
    · exact (hbound duration).trans (arm.le_foldl_boundDuration startDeg targetDeg names _)
    · exact ih _ hrest

variable [IsStrictOrderedRing K]

/-- The turn of a joint that moves, the literals of the source as numerals. -/
theorem boundDuration_eq (arm : ArmModel K) (startDeg targetDeg : JointName → K) (duration : K)
    {name : JointName} (hmoves : |targetDeg name-startDeg name| ≠ 0) :
    arm.boundDuration startDeg targetDeg duration name =
      max (max duration (3/2*|targetDeg name-startDeg name|/arm.globalVelocityLimit))
        (SquareRoot.sqrt (6*|targetDeg name-startDeg name|/arm.globalAccelerationLimit)) := by
  have hhalves : (1.5 : K) = 3/2 := by norm_num
  have hsix : (6.0 : K) = 6 := by norm_num
  unfold boundDuration
  dsimp only
  rw [if_neg hmoves, hhalves, hsix]

/-- The loop reaches the velocity bound of every joint that moves. -/
theorem velocityBound_le_foldl (arm : ArmModel K) (startDeg targetDeg : JointName → K)
    {name : JointName} (hmoves : |targetDeg name-startDeg name| ≠ 0) (duration : K) :
    3/2*|targetDeg name-startDeg name|/arm.globalVelocityLimit ≤
      arm.jointNames.foldl (arm.boundDuration startDeg targetDeg) duration := by
  apply arm.le_foldl_of_le_boundDuration startDeg targetDeg _ _ _ (arm.profile.order_complete name)
  intro reached
  rw [arm.boundDuration_eq startDeg targetDeg reached hmoves]
  exact (le_max_right _ _).trans (le_max_left _ _)

/-- The loop reaches the acceleration bound of every joint that moves. -/
theorem accelerationBound_le_foldl (arm : ArmModel K) (startDeg targetDeg : JointName → K)
    {name : JointName} (hmoves : |targetDeg name-startDeg name| ≠ 0) (duration : K) :
    SquareRoot.sqrt (6*|targetDeg name-startDeg name|/arm.globalAccelerationLimit) ≤
      arm.jointNames.foldl (arm.boundDuration startDeg targetDeg) duration := by
  apply arm.le_foldl_of_le_boundDuration startDeg targetDeg _ _ _ (arm.profile.order_complete name)
  intro reached
  rw [arm.boundDuration_eq startDeg targetDeg reached hmoves]
  exact le_max_right _ _

theorem le_boundedDuration (arm : ArmModel K) (startDeg targetDeg : JointName → K) {bound : K}
    (h : bound ≤ max (arm.jointNames.foldl (arm.boundDuration startDeg targetDeg) 0) (1/20)) :
    bound ≤ arm.boundedDuration startDeg targetDeg := by
  have htwentieth : (0 : K) < 1/20 := by positivity
  have hpositive := htwentieth.trans_le
    (le_max_right (arm.jointNames.foldl (arm.boundDuration startDeg targetDeg) 0) (1/20))
  have hmargin : (1 : K) ≤ planningSafetyMargin := by
    unfold planningSafetyMargin
    norm_num
  exact h.trans (le_mul_of_one_le_right hpositive.le hmargin)

theorem boundedDuration_pos (arm : ArmModel K) (startDeg targetDeg : JointName → K) :
    0 < arm.boundedDuration startDeg targetDeg := by
  have htwentieth : (0 : K) < 1/20 := by positivity
  exact htwentieth.trans_le (arm.le_boundedDuration startDeg targetDeg (le_max_right _ _))

end Bounds

/-- The acceleration at the end of a planned trajectory, where it is greatest. -/
theorem terminalAcceleration_le (arm : ArmModel ℝ) (startDeg targetDeg : JointName → ℝ)
    (name : JointName) :
    |-(6*(targetDeg name-startDeg name) / (arm.boundedDuration startDeg targetDeg*
      arm.boundedDuration startDeg targetDeg))| ≤ arm.globalAccelerationLimit := by
  have hlimit := arm.globalAccelerationLimit_pos
  have hduration := arm.boundedDuration_pos startDeg targetDeg
  rw [abs_neg, abs_div, abs_mul, abs_of_pos (mul_pos hduration hduration),
    abs_of_pos (by norm_num : (0 : ℝ) < 6), div_le_iff₀ (mul_pos hduration hduration)]
  by_cases hmoves : |targetDeg name-startDeg name| = 0
  · rw [hmoves, mul_zero]
    exact mul_nonneg hlimit.le (mul_pos hduration hduration).le
  · have hloop := arm.accelerationBound_le_foldl startDeg targetDeg hmoves 0
    have hroot := arm.le_boundedDuration startDeg targetDeg (hloop.trans (le_max_left _ (1/20)))
    have hsquare := Real.mul_self_sqrt
      (div_nonneg (mul_nonneg (by norm_num : (0 : ℝ) ≤ 6) (abs_nonneg _)) hlimit.le :
        0 ≤ 6*|targetDeg name-startDeg name|/arm.globalAccelerationLimit)
    have hle := mul_self_le_mul_self (Real.sqrt_nonneg _) hroot
    rw [hsquare, div_le_iff₀ hlimit] at hle
    linarith

end ArmModel
end RoboticCharacter.Robotics
