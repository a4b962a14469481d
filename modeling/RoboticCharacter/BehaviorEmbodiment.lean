import RoboticCharacter.RobotController

/-! The joint goal of a behavior on the reference model, and the motion that is planned to it. -/
namespace RoboticCharacter.Simulation
open PythonMath Fallible Safety Robotics

structure EmbodiedBehaviorGoal (K : Type) where
  cue : MotionCue
  style : MotionStyle
  targetJointsDeg : JointName → K

/-- A ValueError, or the RobotModelError of a joint. -/
inductive EmbodimentError (K : Type)
  | value (message : String)
  | violatesModel (error : RobotModelError K)

/-- `_OFFSETS`, in degrees. -/
def offsets : MotionCue → Option (JointName → ℤ)
  | .none => none
  | .listen => some (jointVector 0 5 (-5) 0)
  | .acknowledge => some (jointVector 5 (-5) 10 0)
  | .present => some (jointVector 20 (-15) (-15) 10)
  | .caution => some (jointVector (-10) 10 15 (-5))
  | .celebrate => some (jointVector 0 (-25) (-30) 25)
  | .think => some (jointVector (-15) 15 5 0)

section Plan
variable {K : Type} [Field K] [LinearOrder K]

/-- `_STYLE_SCALE`. -/
def styleScale : MotionStyle → K
  | .restrained => 0.5
  | .standard => 0.75
  | .expressive => 1

variable [FloorRing K]

/-- `round(x, 2)`. -/
def roundToCenti (x : K) : K := (roundHalfEven (x*100.0) : K)/100.0

/-- The targets that `plan` rounds and validates. -/
def embodiedTargets (m : RobotModel K) (offset : JointName → ℤ) (style : MotionStyle)
    (name : JointName) : K :=
  roundToCenti (m.home name+(offset name : K)*styleScale style)

def embody (m : RobotModel K) (intent : BehaviorIntent) :
    Except (EmbodimentError K) (EmbodiedBehaviorGoal K) :=
  if intent.cue = .none then .error (.value "none cue has no embodied simulation goal")
  else
    match offsets intent.cue with
    | none => .error (.value ("no simulation embodiment profile for cue " ++
        PythonText.repr intent.cue.value))
    | some offset =>
      let target := embodiedTargets m offset intent.style
      match m.validateJointPositions target with
      | .error error => .error (.violatesModel error)
      | .ok () => .ok { cue := intent.cue, style := intent.style, targetJointsDeg := target }

/-- A goal is within the limits of the model. -/
theorem embody_within (m : RobotModel K) (intent : BehaviorIntent) {goal : EmbodiedBehaviorGoal K}
    (h : embody m intent = .ok goal) : m.WithinLimits goal.targetJointsDeg := by
  unfold embody at h
  split_ifs at h
  split at h
  · cases h
  · dsimp only at h
    split at h
    · cases h
    · rename_i hvalid
      rw [← Except.ok.inj h]
      exact (m.validateJointPositions_eq_ok_iff _ ()).mp hvalid

variable [SquareRoot K] [Trigonometry K] [ToString K]

def modelErrorText (error : RobotModelError K) : String :=
  "joint " ++ error.name.name ++ " target " ++ toString error.value ++ " is outside [" ++
    toString error.lowerDeg ++ ", " ++ toString error.upperDeg ++ "]"

def embodimentErrorText : EmbodimentError K → String
  | .value message => message
  | .violatesModel error => modelErrorText error

/-- The texts of the errors that reach the runtime. A requested duration is never given. -/
def trajectoryErrorText : TrajectoryError K → String
  | .samplePeriod => "sample period must be positive"
  | .belowMinimum durationS minimum => "requested duration " ++ toString durationS ++
      "s is below bounded minimum " ++ toString minimum ++ "s"
  | .violatesModel error => modelErrorText error

/-- The planned motion as far as the safety inputs of the runtime read it. -/
def safetyView (planned : Robotics.PlannedMotion K) : PlannedMotion K where
  targetPose :=
    { xMm := .finite planned.targetPose.xMm
      yMm := .finite planned.targetPose.yMm
      zMm := .finite planned.targetPose.zMm }
  targetJointsDeg := planned.targetJointsDeg
  terminalVelocitiesDegS := planned.trajectory.end.velocitiesDegS
  terminalAccelerationsDegS2 := planned.trajectory.end.accelerationsDegS2

/-- The two planners of the runtime: the goal of the behavior, and a motion to it. -/
def planBehavior (arm : ArmModel K) (stepS : K) (intent : BehaviorIntent)
    (positionsDeg : JointName → K) : Except String (PlannedMotion K) :=
  match embody arm.toRobotModel intent with
  | .error error => .error (embodimentErrorText error)
  | .ok goal =>
    match arm.planJointTargets positionsDeg goal.targetJointsDeg stepS with
    | .error error => .error (trajectoryErrorText error)
    | .ok planned => .ok (safetyView planned)

omit [ToString K] in
theorem planJointTargets_targets (arm : ArmModel K) {positionsDeg targetDeg : JointName → K}
    {stepS : K} {planned : Robotics.PlannedMotion K}
    (h : arm.planJointTargets positionsDeg targetDeg stepS = .ok planned) :
    planned.targetJointsDeg = targetDeg := by
  simp only [ArmModel.planJointTargets, bind_eq_ok_iff, pure_eq_ok_iff] at h
  obtain ⟨-, -, -, -, -, -, -, -, rfl⟩ := h
  rfl

/-- What is planned for a behavior is its goal. -/
theorem planBehavior_goal (arm : ArmModel K) (stepS : K) (intent : BehaviorIntent)
    (positionsDeg : JointName → K) {planned : PlannedMotion K}
    (h : planBehavior arm stepS intent positionsDeg = .ok planned) :
    ∃ goal, embody arm.toRobotModel intent = .ok goal ∧
      planned.targetJointsDeg = goal.targetJointsDeg := by
  unfold planBehavior at h
  split at h
  · cases h
  · rename_i goal hgoal
    split at h
    · cases h
    · rename_i motion hmotion
      rw [← Except.ok.inj h]
      exact ⟨goal, hgoal, planJointTargets_targets arm hmotion⟩

end Plan
end RoboticCharacter.Simulation
