import RoboticCharacter.SimulationLimits
import RoboticCharacter.SimulationSettle

/-! Every motion the plant accepts ends: in exact arithmetic each joint reaches its target in
finitely many steps, wherever it stands and however it moves when the command comes. -/
namespace RoboticCharacter
open PythonMath RateLimited Machine

section Joint
variable {K : Type} [Field K] [LinearOrder K] [FloorRing K] [SquareRoot K]

/-- What repeated steps do to the position and the velocity of one joint. -/
def jointMotion (spec : ReferenceJoint K) (vl al target dt : K) (joint : K × K) : K × K :=
  ((stepJoint spec vl al target dt joint.1 joint.2).position,
    (stepJoint spec vl al target dt joint.1 joint.2).velocity)

/-- The speed a joint wants at a distance from its target. -/
def wantedSpeed (velocityLimit accelerationLimit distance : K) : K :=
  |min velocityLimit (SquareRoot.sqrt (max 0 (stoppingSquare accelerationLimit distance)))|

/-- A joint at its target stays there, and is at rest a step later. -/
theorem stepJoint_at_target (spec : ReferenceJoint K) (vl al target dt velocity : K) :
    (stepJoint spec vl al target dt target velocity).position = target ∧
      (stepJoint spec vl al target dt target velocity).velocity = 0 := by
  unfold stepJoint
  dsimp only
  split_ifs with hsettled hcross
  · exact ⟨rfl, rfl⟩
  · exact ⟨rfl, rfl⟩
  · rw [sub_self, zero_mul] at hcross
    exact absurd le_rfl hcross

/-- Once a joint is at its target, it is still there at every later step, and at rest. -/
theorem jointMotion_stays (spec : ReferenceJoint K) (vl al target dt : K) (joint : K × K)
    (h : joint.1 = target) (n : ℕ) :
    (jointMotion spec vl al target dt)^[n+1] joint = (target, 0) := by
  obtain ⟨position, velocity⟩ := joint
  obtain rfl : position = target := h
  obtain ⟨hposition, hvelocity⟩ := stepJoint_at_target spec vl al position dt velocity
  induction n with
  | zero => exact Prod.ext hposition hvelocity
  | succ n ih =>
    obtain ⟨hposition, hvelocity⟩ := stepJoint_at_target spec vl al position dt 0
    rw [Function.iterate_succ_apply', ih]
    exact Prod.ext hposition hvelocity

variable [IsStrictOrderedRing K]

theorem stepJoint_at_rest (spec : ReferenceJoint K) (vl al target dt : K) :
    (stepJoint spec vl al target dt target 0).moving = false := by
  have hsettled : Settled (target-target) (0 : K) := by
    unfold Settled settleTolerance
    rw [sub_self, abs_zero, and_self]
    positivity
  unfold stepJoint
  dsimp only
  rw [if_pos hsettled]

/-- A step that ends short of the target comes closer to it. The direction is `1` for a joint
below its target and `-1` for one above. -/
theorem stepJoint_approaches (spec : ReferenceJoint K) (vl al target dt position velocity : K)
    (hl : 0 ≤ min spec.maxAccelerationDegS2 al*dt) {direction : K}
    (hdirection : direction = 1 ∨ direction = -1) (hpositive : 0 < direction*(target-position))
    (hshort : (stepJoint spec vl al target dt position velocity).position ≠ target) :
    Approaches (min spec.maxAccelerationDegS2 al) dt
      (wantedSpeed (min spec.maxVelocityDegS vl) (min spec.maxAccelerationDegS2 al))
      (direction*(target-position)) (direction*velocity)
      (direction*(target-(stepJoint spec vl al target dt position velocity).position))
      (direction*(stepJoint spec vl al target dt position velocity).velocity) := by
  obtain harrived | ⟨-, wanted, next, hwanted, hnext, hcross, hposition, hvelocity⟩ :=
    stepJoint_cases spec vl al target dt position velocity
  · exact absurd harrived hshort
  rw [hposition, hvelocity]
  obtain rfl | rfl := hdirection
  · rw [one_mul] at hpositive
    simp only [one_mul]
    have hspeed : wanted = wantedSpeed (min spec.maxVelocityDegS vl)
        (min spec.maxAccelerationDegS2 al) (target-position) := by
      rw [hwanted, desiredVelocity, copysign_of_nonneg _ _ hpositive.le, abs_of_pos hpositive]
      rfl
    refine ⟨pos_of_mul_pos_right hcross hpositive.le, ?_, by ring⟩
    rw [hnext, ← hspeed]
    exact min_le_slew _ wanted velocity hl
  · rw [neg_one_mul] at hpositive
    simp only [neg_one_mul]
    have herror : target-position < 0 := neg_pos.mp hpositive
    have hspeed : -wanted = wantedSpeed (min spec.maxVelocityDegS vl)
        (min spec.maxAccelerationDegS2 al) (-(target-position)) := by
      rw [hwanted, desiredVelocity, copysign_of_neg _ _ herror, neg_neg, abs_of_neg herror]
      rfl
    refine ⟨neg_pos.mpr (neg_of_mul_pos_right hcross herror.le), ?_, by ring⟩
    rw [hnext, ← hspeed, ← slew_neg _ wanted velocity hl]
    exact min_le_slew _ (-wanted) (-velocity) hl

end Joint

/-- The speed a joint wants covers in one step the whole distance, or at least what the lesser
of the two limits lets it cover. -/
theorem min_le_wantedSpeed {velocityLimit accelerationLimit dt : ℝ} (ha : 0 < accelerationLimit)
    (hdt : 0 < dt) {d : ℝ} (hd : 0 < d) :
    min (min (|velocityLimit| * dt) (accelerationLimit*dt*dt)) d ≤
      wantedSpeed velocityLimit accelerationLimit d*dt := by
  have hsquare : max 0 (stoppingSquare accelerationLimit d) = 2*accelerationLimit*d :=
    max_eq_right (by unfold stoppingSquare; positivity)
  have hbrake : min (accelerationLimit*dt*dt) d ≤ √(2*accelerationLimit*d)*dt := by
    have hroom := mul_pos (mul_pos ha hdt) hdt
    obtain hnear | hfar := le_total d (2*(accelerationLimit*dt*dt))
    · -- so close, the braking speed covers the distance
      have hspeed : d/dt ≤ √(2*accelerationLimit*d) := by
        apply Real.le_sqrt_of_sq_le
        rw [div_pow, div_le_iff₀ (by positivity)]
        calc
          d^2 = d*d := sq d
          _ ≤ d*(2*(accelerationLimit*dt*dt)) := mul_le_mul_of_nonneg_left hnear hd.le
          _ = 2*accelerationLimit*d*dt^2 := by ring
      exact (min_le_right _ _).trans ((div_le_iff₀ hdt).mp hspeed)
    · have hspeed : 2*(accelerationLimit*dt) ≤ √(2*accelerationLimit*d) := by
        apply Real.le_sqrt_of_sq_le
        calc
          (2*(accelerationLimit*dt))^2 =
              2*accelerationLimit*(2*(accelerationLimit*dt*dt)) := by ring
          _ ≤ 2*accelerationLimit*d := mul_le_mul_of_nonneg_left hfar (by positivity)
      have hcover := mul_le_mul_of_nonneg_right hspeed hdt.le
      exact (min_le_left _ _).trans (by linarith)
  unfold wantedSpeed
  rw [hsquare]
  -- the wanted speed is the smaller of the limit and the braking speed
  obtain hle | hle := le_total velocityLimit (SquareRoot.sqrt (2*accelerationLimit*d))
  · rw [min_eq_left hle]
    exact (min_le_left _ _).trans (min_le_left _ _)
  · rw [min_eq_right hle]
    change _ ≤ |√(2*accelerationLimit*d)| * dt
    rw [abs_of_nonneg (Real.sqrt_nonneg _)]
    exact (min_le_min_right d (min_le_right _ _)).trans hbrake

/-- Under limits that let it move at all, a joint reaches its target. -/
theorem jointMotion_arrives (spec : ReferenceJoint ℝ) {vl al dt : ℝ} (target : ℝ)
    (hv : min spec.maxVelocityDegS vl ≠ 0) (ha : 0 < min spec.maxAccelerationDegS2 al)
    (hdt : 0 < dt) (joint : ℝ × ℝ) :
    ∃ n, ((jointMotion spec vl al target dt)^[n] joint).1 = target := by
  by_contra hnever
  have hshort : ∀ n, ((jointMotion spec vl al target dt)^[n] joint).1 ≠ target :=
    fun n harrived => hnever ⟨n, harrived⟩
  obtain ⟨direction, hdirection, hstart⟩ :
      ∃ direction : ℝ, (direction = 1 ∨ direction = -1) ∧ 0 < direction*(target-joint.1) := by
    obtain hbelow | habove := lt_or_gt_of_ne (hshort 0)
    · exact ⟨1, .inl rfl, by rw [one_mul]; exact sub_pos.mpr hbelow⟩
    · exact ⟨-1, .inr rfl, by rw [neg_one_mul]; exact neg_pos.mpr (sub_neg.mpr habove)⟩
  have hstep (n : ℕ) (hpositive : 0 <
      direction*(target-((jointMotion spec vl al target dt)^[n] joint).1)) :=
    stepJoint_approaches spec vl al target dt ((jointMotion spec vl al target dt)^[n] joint).1
      ((jointMotion spec vl al target dt)^[n] joint).2 (mul_pos ha hdt).le hdirection hpositive
      (by
        have hnext := hshort (n+1)
        rwa [Function.iterate_succ_apply'] at hnext)
  -- the joint never passes its target, so the direction stays
  have hpositive : ∀ n, 0 <
      direction*(target-((jointMotion spec vl al target dt)^[n] joint).1) := by
    intro n
    induction n with
    | zero => exact hstart
    | succ n ih =>
      rw [Function.iterate_succ_apply']
      exact (hstep n ih).short
  refine not_endless
    (fun n => direction*(target-((jointMotion spec vl al target dt)^[n] joint).1))
    (fun n => direction*((jointMotion spec vl al target dt)^[n] joint).2)
    ha hdt (lt_min (mul_pos (abs_pos.mpr hv) hdt) (mul_pos (mul_pos ha hdt) hdt))
    (min_le_right _ _) (fun d hd => min_le_wantedSpeed ha hdt hd) hstart ?_
  intro n
  simp only [Function.iterate_succ_apply']
  exact hstep n (hpositive n)

namespace DigitalTwinRobot
section Steps
variable {K : Type} [Field K] [LinearOrder K] [FloorRing K] [SquareRoot K]

theorem moved_not_stopped (twin : DigitalTwinRobot K) (dt : K) :
    (twin.moved dt).state ≠ .estop := by
  unfold moved
  dsimp only
  split_ifs
  · exact WireSystemState.noConfusion
  · exact WireSystemState.noConfusion

/-- Steps of a twin that is not stopped all move it. -/
theorem run_steps (twin : DigitalTwinRobot K) {dt : K} (hdt : 0 < dt)
    (hstate : twin.state ≠ .estop) (n : ℕ) :
    run call twin (List.replicate n (.step dt)) = (fun t => t.moved dt)^[n] twin := by
  induction n generalizing twin with
  | zero => rfl
  | succ n ih =>
    rw [List.replicate_succ, run_cons, call_step twin dt hdt hstate, Function.iterate_succ_apply]
    exact ih (twin.moved dt) (twin.moved_not_stopped dt)

/-- The joints move independently of one another, under limits and to targets that stay. -/
theorem joint_of_steps (twin : DigitalTwinRobot K) (dt : K) (name : JointName) (n : ℕ) :
    (((fun t => t.moved dt)^[n] twin).positions name,
        ((fun t => t.moved dt)^[n] twin).velocities name) =
      (jointMotion (twin.model.joint name) twin.commandVelocityLimit
        twin.commandAccelerationLimit (twin.targets name) dt)^[n]
          (twin.positions name, twin.velocities name) := by
  induction n generalizing twin with
  | zero => rfl
  | succ n ih =>
    rw [Function.iterate_succ_apply, Function.iterate_succ_apply]
    exact ih (twin.moved dt)

theorem targets_of_steps (twin : DigitalTwinRobot K) (dt : K) (name : JointName) (n : ℕ) :
    ((fun t => t.moved dt)^[n] twin).targets name = twin.targets name := by
  induction n generalizing twin with
  | zero => rfl
  | succ n ih =>
    rw [Function.iterate_succ_apply]
    exact ih (twin.moved dt)

variable [IsStrictOrderedRing K]

/-- With every joint at rest at its target, a step leaves the twin idle. -/
theorem moved_idle (twin : DigitalTwinRobot K) (dt : K)
    (h : ∀ name, (twin.positions name, twin.velocities name) = (twin.targets name, 0)) :
    (twin.moved dt).state = .idle := by
  apply if_neg
  rw [Bool.not_eq_true, List.any_eq_false]
  intro name _
  obtain ⟨hposition, hvelocity⟩ := Prod.mk.inj (h name)
  unfold jointStep
  rw [hposition, hvelocity, stepJoint_at_rest]
  exact Bool.false_ne_true

end Steps

/-- An accepted command whose limits let the joints move at all is carried out in finitely many
steps: whatever the state it was accepted in, repeated steps leave the plant idle. -/
theorem steps_reach_idle (twin : DigitalTwinRobot ℝ) {command : ValidatedMotionCommand}
    (hvelocity : command.maxVelocityCdegS ≠ 0) (hacceleration : 0 < command.maxAccelerationCdegS2)
    {after : DigitalTwinRobot ℝ} (haccept : twin.accept command = .ok after) {dt : ℝ}
    (hdt : 0 < dt) :
    ∃ n, (run call after (List.replicate n (.step dt))).state = .idle := by
  obtain ⟨-, rfl⟩ := (twin.accept_eq_ok_iff after command).mp haccept
  have harrives (name : JointName) :
      ∃ n, ((jointMotion (twin.model.joint name) (command.maxVelocityCdegS/100)
        (commandAcceleration command) (twin.requested command name) dt)^[n]
          (twin.positions name, twin.velocities name)).1 = twin.requested command name := by
    apply jointMotion_arrives
    · have hcommand : (command.maxVelocityCdegS : ℝ)/100 ≠ 0 :=
        div_ne_zero (Int.cast_ne_zero.mpr hvelocity) (by norm_num)
      obtain hmin | hmin := min_choice (twin.model.joint name).maxVelocityDegS
        ((command.maxVelocityCdegS : ℝ)/100)
      · rw [hmin]
        exact (twin.model.joint name).maxVelocity_pos.ne'
      · rwa [hmin]
    · exact lt_min (twin.model.joint name).maxAcceleration_pos
        (div_pos (Int.cast_pos.mpr hacceleration) (by norm_num))
    · exact hdt
  choose arrival harrival using harrives
  -- the last joint to arrive decides
  obtain ⟨last, hlast⟩ : ∃ last, ∀ name, arrival name ≤ last :=
    ⟨max (max (arrival .base) (arrival .shoulder)) (max (arrival .elbow) (arrival .gripper)), by
      intro name
      cases name <;> simp⟩
  refine ⟨last+2, ?_⟩
  rw [run_steps _ hdt WireSystemState.noConfusion, Function.iterate_succ_apply']
  apply moved_idle
  intro name
  rw [joint_of_steps, targets_of_steps]
  obtain ⟨more, hmore⟩ := Nat.exists_eq_add_of_le (hlast name)
  have hsplit : last+1 = (more+1)+arrival name := by omega
  rw [hsplit, Function.iterate_add_apply]
  exact jointMotion_stays _ _ _ _ _ _ (harrival name) more

theorem steps_reach_idle_base : ∃ after,
    (ofModel (referenceArm ℝ)).accept (moveBase 9000 4500 12000) = .ok after ∧
      ∃ n, (run call after (List.replicate n (.step (1/50)))).state = .idle := by
  have hadmits := admits_moveBase (ofModel (referenceArm ℝ)) rfl (RobotModel.withinLimits_home _)
    9000 4500 12000 (by decide) (by decide)
  have haccept := ((ofModel (referenceArm ℝ)).accept_eq_ok_iff _ _).mpr ⟨hadmits, rfl⟩
  exact ⟨_, haccept, steps_reach_idle _ (by decide) (by decide) haccept (by norm_num)⟩

/-- Under a velocity limit of nothing a joint at rest stays where it is, and keeps moving. -/
theorem stepJoint_stalled (spec : ReferenceJoint ℝ) {vl al dt : ℝ} (hvl : vl = 0)
    (hl : 0 ≤ min spec.maxAccelerationDegS2 al*dt) {target position velocity : ℝ}
    (hfar : 1 ≤ |target-position|) (hrest : velocity = 0) :
    jointMotion spec vl al target dt (position, velocity) = (position, velocity) ∧
      (stepJoint spec vl al target dt position velocity).moving = true := by
  subst hvl hrest
  -- a limit of zero leaves no wanted velocity, whatever the distance
  have hlimit : min spec.maxVelocityDegS 0 = 0 := min_eq_right spec.maxVelocity_pos.le
  have hwanted : desiredVelocity (min spec.maxVelocityDegS 0)
      (min spec.maxAccelerationDegS2 al) (target-position) = 0 := by
    have hbrake : min (0 : ℝ) (SquareRoot.sqrt (max 0 (stoppingSquare
        (min spec.maxAccelerationDegS2 al) |target-position|))) = 0 :=
      min_eq_left (Real.sqrt_nonneg _)
    rw [hlimit, desiredVelocity, hbrake]
    unfold copysign
    split_ifs
    · rw [abs_zero, neg_zero]
    · exact abs_zero
  have hslew : slew (min spec.maxAccelerationDegS2 al*dt) (desiredVelocity
      (min spec.maxVelocityDegS 0) (min spec.maxAccelerationDegS2 al) (target-position)) 0 = 0 := by
    rw [hwanted, slew_of_near]
    rwa [sub_zero, abs_zero]
  have hne : target-position ≠ 0 := abs_pos.mp (one_pos.trans_le hfar)
  have hcross : 0 < (target-position)*(target-(position+0*dt)) := by
    rw [zero_mul, add_zero]
    exact mul_self_pos.mpr hne
  obtain ⟨hposition, hvelocity⟩ := stepJoint_moves spec 0 al target dt position 0 0
    (not_settled _ _ hfar) hslew hcross
  constructor
  · refine Prod.ext ?_ hvelocity
    rw [zero_mul, add_zero] at hposition
    exact hposition
  · unfold stepJoint
    dsimp only
    rw [if_neg (not_settled _ _ hfar)]
    split_ifs
    · rfl
    · rfl

/-- A joint off its target that the command does not let move. -/
structure Stalled (twin : DigitalTwinRobot ℝ) (dt : ℝ) (name : JointName) : Prop where
  limit : twin.commandVelocityLimit = 0
  rate : 0 ≤ min (twin.model.joint name).maxAccelerationDegS2 twin.commandAccelerationLimit*dt
  far : 1 ≤ |twin.targets name-twin.positions name|
  rest : twin.velocities name = 0

theorem Stalled.moved {twin : DigitalTwinRobot ℝ} {dt : ℝ} {name : JointName}
    (h : twin.Stalled dt name) :
    (twin.moved dt).Stalled dt name ∧ (twin.moved dt).state = .executing := by
  obtain ⟨hstays, hmoving⟩ := stepJoint_stalled (twin.model.joint name) h.limit h.rate h.far
    h.rest
  obtain ⟨hposition, hvelocity⟩ := Prod.mk.inj hstays
  constructor
  · refine ⟨h.limit, h.rate, ?_, hvelocity.trans h.rest⟩
    change 1 ≤ |twin.targets name-(twin.jointStep dt name).position|
    exact h.far.trans_eq (congrArg (fun position => |twin.targets name-position|) hposition.symm)
  · apply if_pos
    rw [List.any_eq_true]
    exact ⟨name, twin.model.profile.order_complete name, hmoving⟩

/-- A command built with a velocity limit of nothing is accepted, and never carried out. -/
theorem steps_never_idle : ∃ after,
    (ofModel (referenceArm ℝ)).accept (moveBase 9000 0 12000) = .ok after ∧
      ∀ n, (run call after (List.replicate n (.step (1/50)))).state ≠ .idle := by
  let twin := ofModel (referenceArm ℝ)
  let command := moveBase 9000 0 12000
  let sent := twin.commanded command (twin.requested command)
  have hadmits : twin.Admits command := admits_moveBase twin rfl (RobotModel.withinLimits_home _)
    9000 0 12000 (by decide) (by decide)
  refine ⟨sent, (twin.accept_eq_ok_iff _ _).mpr ⟨hadmits, rfl⟩, ?_⟩
  have hstalled : sent.Stalled (1/50) .base := by
    refine ⟨?_, ?_, ?_, rfl⟩
    · change ((0 : ℤ) : ℝ)/100 = 0
      rw [Int.cast_zero, zero_div]
    · refine mul_nonneg (le_min (sent.model.joint .base).maxAcceleration_pos.le ?_) (by norm_num)
      change (0 : ℝ) ≤ ((12000 : ℤ) : ℝ)/100
      norm_num
    · have htarget : sent.targets .base = 90 := by
        refine (requested_moveBase twin rfl 9000 0 12000 .base).trans ?_
        norm_num
      have hposition : sent.positions .base = 0 := Int.cast_zero
      rw [htarget, hposition]
      norm_num
  -- a stalled joint keeps the twin executing through every step
  have hruns : ∀ n, ((fun t => t.moved (1/50))^[n] sent).Stalled (1/50) .base ∧
      ((fun t => t.moved (1/50))^[n] sent).state = .executing := by
    intro n
    induction n with
    | zero => exact ⟨hstalled, rfl⟩
    | succ n ih =>
      rw [Function.iterate_succ_apply']
      exact ih.1.moved
  intro n
  rw [run_steps sent (by norm_num) WireSystemState.noConfusion, (hruns n).2]
  exact WireSystemState.noConfusion

end DigitalTwinRobot
end RoboticCharacter
