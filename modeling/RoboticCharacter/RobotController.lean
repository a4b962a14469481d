import RoboticCharacter.RobotTrajectory
import RoboticCharacter.SimulationRuntime

/-! The planning facade of the reference arm, and the safety inputs of what it plans. -/
namespace RoboticCharacter.Robotics
open PythonMath Fallible Safety Simulation

structure PlannedMotion (K : Type) where
  targetPose : CartesianPose K
  targetJointsDeg : JointName → K
  trajectory : JointTrajectory K

namespace ArmModel
variable {K : Type} [Field K] [LinearOrder K]

/-- `terminal_safety_inputs` of a motion that was planned for this model. -/
def terminalSafetyInputs (arm : ArmModel K) (planned : PlannedMotion K) (systemState : SystemState)
    (estopActive : Bool) (commandAgeMs heartbeatAgeMs : ExtendedNumber K) :
    MotionCandidate K × MotionDynamics K :=
  let terminal := planned.trajectory.end
  ({ systemState := systemState
     estopActive := estopActive
     jointTargetsDeg :=
       jointDict arm.toRobotModel fun name => .finite (planned.targetJointsDeg name)
     workspacePointMm := some
       { xMm := .finite planned.targetPose.xMm
         yMm := .finite planned.targetPose.yMm
         zMm := .finite planned.targetPose.zMm } },
   { commandAgeMs := commandAgeMs
     heartbeatAgeMs := heartbeatAgeMs
     jointVelocitiesDegS :=
       jointDict arm.toRobotModel fun name => .finite (terminal.velocitiesDegS name)
     jointAccelerationsDegS2 :=
       jointDict arm.toRobotModel fun name => .finite (terminal.accelerationsDegS2 name) })

variable [FloorRing K] [SquareRoot K] [Trigonometry K]

def planJointTargets (arm : ArmModel K) (currentJointsDeg targetJointsDeg : JointName → K)
    (samplePeriodS : K) : Except (TrajectoryError K) (PlannedMotion K) := do
  (arm.validateJointPositions currentJointsDeg).mapError .violatesModel
  (arm.validateJointPositions targetJointsDeg).mapError .violatesModel
  let trajectory ← arm.generate currentJointsDeg targetJointsDeg samplePeriodS none
  let targetPose ← (arm.forward targetJointsDeg).mapError .violatesModel
  return { targetPose := targetPose, targetJointsDeg := targetJointsDeg, trajectory := trajectory }

/-- What is planned ends at rest in the target, at its pose. -/
structure EndsAt (arm : ArmModel K) (currentJointsDeg targetJointsDeg : JointName → K)
    (planned : PlannedMotion K) : Prop where
  pose : planned.targetPose = arm.poseOf targetJointsDeg
  targets : planned.targetJointsDeg = targetJointsDeg
  positions : planned.trajectory.end.positionsDeg = targetJointsDeg
  velocities : planned.trajectory.end.velocitiesDegS = fun _ => 0
  accelerations : planned.trajectory.end.accelerationsDegS2 = fun name =>
    -(6*(targetJointsDeg name-currentJointsDeg name) /
      (arm.boundedDuration currentJointsDeg targetJointsDeg*
        arm.boundedDuration currentJointsDeg targetJointsDeg))

/-- Between vectors within the limits a motion is planned. -/
theorem planJointTargets_of_within [IsStrictOrderedRing K] (arm : ArmModel K)
    {currentJointsDeg targetJointsDeg : JointName → K}
    (hcurrent : arm.WithinLimits currentJointsDeg) (htarget : arm.WithinLimits targetJointsDeg)
    {samplePeriodS : K} (hperiod : 0 < samplePeriodS) :
    ∃ planned, arm.planJointTargets currentJointsDeg targetJointsDeg samplePeriodS = .ok planned ∧
      arm.EndsAt currentJointsDeg targetJointsDeg planned := by
  have hduration := arm.boundedDuration_pos currentJointsDeg targetJointsDeg
  have hsteps : ((trajectorySteps (arm.boundedDuration currentJointsDeg targetJointsDeg)
      samplePeriodS : ℕ) : K) ≠ 0 :=
    Nat.cast_ne_zero.mpr (trajectorySteps_pos _ _).ne'
  have hend := sampleAt_end currentJointsDeg targetJointsDeg hduration.ne' hsteps
  refine ⟨{ targetPose := arm.poseOf targetJointsDeg, targetJointsDeg := targetJointsDeg,
            trajectory := trajectoryOf currentJointsDeg targetJointsDeg
              (arm.boundedDuration currentJointsDeg targetJointsDeg)
              (trajectorySteps (arm.boundedDuration currentJointsDeg targetJointsDeg)
                samplePeriodS) }, ?_, ?_⟩
  · unfold planJointTargets
    rw [(arm.validateJointPositions_eq_ok_iff currentJointsDeg ()).mpr hcurrent,
      (arm.validateJointPositions_eq_ok_iff targetJointsDeg ()).mpr htarget,
      arm.generate_of_within hcurrent htarget hperiod, arm.forward_of_within htarget]
    rfl
  · rw [← end_trajectoryOf] at hend
    exact
      { pose := rfl
        targets := rfl
        positions := by rw [hend]
        velocities := by rw [hend]
        accelerations := by rw [hend] }

end ArmModel
end RoboticCharacter.Robotics
