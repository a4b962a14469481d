import RoboticCharacter.SimulationFloatTwin

/-! What a call of the floating-point twin does: the effects of its assignments, in whatever
place a conversion raises. -/
namespace RoboticCharacter.Floating
open Binary64 PythonMath
open ExtendedNumber (finite)

/-- A time that is positive and that is a finite number of milliseconds. -/
def Duration (dt : Double) (ticks : ℤ) : Prop :=
  dt.le (.literal 0) = false ∧ (dt.mul (.literal 1000)).round = .ok ticks

theorem duration_value (dt : Double) (ticks : ℤ) (h : Duration dt ticks) :
    ∃ d, dt.value = finite d ∧ 0 < d ∧ d*1000 ≤ 8*eighth ∧
      ticks = roundHalfEven (nearest (d*1000)) := by
  obtain ⟨hpos, hticks⟩ := h
  obtain ⟨r, hr, hticks⟩ := (Double.round_eq_ok_iff _ ticks).mp hticks
  obtain ⟨d, hd, hround⟩ := (Double.mul_eq_finite_iff dt _ 1000 r
    (Double.literal_value 1000 (holds_int 1000 (by norm_num)))).mp hr
  obtain ⟨rfl, hholds⟩ := round_finite _ r hround
  refine ⟨d, hd, ?_, ?_, hticks.symm⟩
  · unfold Double.le at hpos
    rw [hd, Double.literal_value 0 holds_zero] at hpos
    exact not_le.mp (of_decide_eq_false hpos)
  · -- a longer time would be rounded to the end of the range
    rw [eight_eighths]
    by_contra hmore
    have hend := zpow_le_nearest (d*1000) 1024 (by norm_num) (by
      rw [zpow_ofNat]
      exact (not_le.mp hmore).le)
    rw [zpow_ofNat] at hend
    exact absurd ((le_abs_self _).trans_lt hholds.in_range) (not_lt.mpr hend)

namespace DigitalTwinRobot

/-- What a loop over the joints leaves of each of them: what the step makes of it, or what it was
if the loop has not come to it. -/
structure MovesJoints (dt : Double) (before after : DigitalTwinRobot) : Prop where
  model_eq : after.model = before.model
  supply_eq : after.supplyMv = before.supplyMv
  targets_eq : after.targets = before.targets
  uptime_eq : after.uptimeMs = before.uptimeMs
  limits_eq : after.commandVelocityLimit = before.commandVelocityLimit ∧
    after.commandAccelerationLimit = before.commandAccelerationLimit
  joint_cases : ∀ name,
    after.positions name = before.positions name ∧ after.velocities name = before.velocities name ∨
    after.positions name = (before.jointStep dt name).position ∧
      after.velocities name = (before.jointStep dt name).velocity
  current_cases : ∀ name, after.currents name = before.currents name ∨
    (before.jointStep dt name).current = .ok (after.currents name)

theorem movesJoints_refl (dt : Double) (twin : DigitalTwinRobot) : MovesJoints dt twin twin :=
  ⟨rfl, rfl, rfl, rfl, ⟨rfl, rfl⟩, fun _ => .inl ⟨rfl, rfl⟩, fun _ => .inl rfl⟩

theorem jointStep_moveJoint (twin : DigitalTwinRobot) (dt : Double) (name other : JointName)
    (hother : other ≠ name) (current : ℤ) :
    ((twin.moveJoint dt name).setCurrent name current).jointStep dt other =
      twin.jointStep dt other := by
  unfold jointStep moveJoint setCurrent
  dsimp only
  rw [Function.update_of_ne hother, Function.update_of_ne hother]

theorem moveJoint_self (twin : DigitalTwinRobot) (dt : Double) (name : JointName) :
    (twin.moveJoint dt name).positions name = (twin.jointStep dt name).position ∧
    (twin.moveJoint dt name).velocities name = (twin.jointStep dt name).velocity :=
  ⟨Function.update_self _ _ _, Function.update_self _ _ _⟩

theorem moveJoint_other (twin : DigitalTwinRobot) (dt : Double) (name other : JointName)
    (hother : other ≠ name) :
    (twin.moveJoint dt name).positions other = twin.positions other ∧
    (twin.moveJoint dt name).velocities other = twin.velocities other :=
  ⟨Function.update_of_ne hother _ _, Function.update_of_ne hother _ _⟩

theorem setCurrent_self (twin : DigitalTwinRobot) (name : JointName) (current : ℤ) :
    (twin.setCurrent name current).currents name = current := Function.update_self _ _ _

theorem setCurrent_other (twin : DigitalTwinRobot) (name other : JointName) (current : ℤ)
    (hother : other ≠ name) :
    (twin.setCurrent name current).currents other = twin.currents other :=
  Function.update_of_ne hother _ _

/-- A joint whose current cannot be converted has been moved, and nothing else. -/
theorem moveJoint_moves (twin : DigitalTwinRobot) (dt : Double) (first : JointName) :
    MovesJoints dt twin (twin.moveJoint dt first) := by
  refine ⟨rfl, rfl, rfl, rfl, ⟨rfl, rfl⟩, ?_, fun _ => .inl rfl⟩
  intro name
  rcases eq_or_ne name first with rfl | hname
  · exact .inr (twin.moveJoint_self dt name)
  · exact .inl (twin.moveJoint_other dt first name hname)

/-- Three values of a joint that a loop leaves alone. -/
def SameJoint (before after : DigitalTwinRobot) (name : JointName) : Prop :=
  after.positions name = before.positions name ∧ after.velocities name = before.velocities name ∧
    after.currents name = before.currents name

/-- A step of the first joint, and the loop over the others, which does not come to it again. -/
theorem moves_of_rest (dt : Double) (twin after : DigitalTwinRobot) (first : JointName)
    (current : ℤ) (hcurrent : (twin.jointStep dt first).current = .ok current)
    (hmoves : MovesJoints dt ((twin.moveJoint dt first).setCurrent first current) after)
    (hfirst : SameJoint ((twin.moveJoint dt first).setCurrent first current) after first) :
    MovesJoints dt twin after := by
  obtain ⟨hposition, hvelocity, hset⟩ := hfirst
  refine ⟨hmoves.model_eq, hmoves.supply_eq, hmoves.targets_eq, hmoves.uptime_eq,
    hmoves.limits_eq, ?_, ?_⟩
  · intro name
    rcases eq_or_ne name first with rfl | hname
    · obtain ⟨hp, hv⟩ := twin.moveJoint_self dt name
      exact .inr ⟨hposition.trans hp, hvelocity.trans hv⟩
    · have hcases := hmoves.joint_cases name
      rw [jointStep_moveJoint twin dt first name hname current] at hcases
      obtain ⟨hp, hv⟩ := twin.moveJoint_other dt first name hname
      rcases hcases with ⟨hp', hv'⟩ | hstep
      · exact .inl ⟨hp'.trans hp, hv'.trans hv⟩
      · exact .inr hstep
  · intro name
    rcases eq_or_ne name first with rfl | hname
    · right
      rw [hset, setCurrent_self]
      exact hcurrent
    · have hcases := hmoves.current_cases name
      rw [jointStep_moveJoint twin dt first name hname current,
        setCurrent_other _ first name current hname] at hcases
      exact hcases

/-- The loop of a step, which comes to each joint once: those after an error are left alone. -/
theorem moveJoints_moves (dt : Double) (names : List JointName) (hnodup : names.Nodup)
    (moving : Bool) (twin : DigitalTwinRobot) :
    MovesJoints dt twin (moveJoints dt names moving twin).1 ∧
    ∀ name ∉ names, SameJoint twin (moveJoints dt names moving twin).1 name := by
  induction names generalizing moving twin with
  | nil => exact ⟨movesJoints_refl dt twin, fun _ _ => ⟨rfl, rfl, rfl⟩⟩
  | cons first rest ih =>
    obtain ⟨hfirst, hrest⟩ := List.nodup_cons.mp hnodup
    rw [moveJoints]
    cases hcurrent : (twin.jointStep dt first).current with
    | error error =>
      refine ⟨twin.moveJoint_moves dt first, ?_⟩
      intro name hname
      obtain ⟨hp, hv⟩ := twin.moveJoint_other dt first name (List.ne_of_not_mem_cons hname)
      exact ⟨hp, hv, rfl⟩
    | ok current =>
      dsimp only
      obtain ⟨hmoves, hsame⟩ := ih hrest (moving || (twin.jointStep dt first).moving)
        ((twin.moveJoint dt first).setCurrent first current)
      refine ⟨moves_of_rest dt twin _ first current hcurrent hmoves (hsame first hfirst), ?_⟩
      intro name hname
      have hne := List.ne_of_not_mem_cons hname
      obtain ⟨hp, hv, hc⟩ := hsame name (List.not_mem_of_not_mem_cons hname)
      obtain ⟨hp', hv'⟩ := twin.moveJoint_other dt first name hne
      exact ⟨hp.trans hp', hv.trans hv', hc.trans (setCurrent_other _ first name current hne)⟩

theorem move_moves (twin : DigitalTwinRobot) (dt : Double) : ∃ after state,
    MovesJoints dt twin after ∧ (twin.move dt).1 = { after with state := state } := by
  have hmoves := (moveJoints_moves dt _ twin.model.profile.order_nodup false twin).1
  unfold move
  change MovesJoints dt twin (moveJoints dt twin.model.jointNames false twin).1 at hmoves
  generalize moveJoints dt twin.model.jointNames false twin = result at hmoves ⊢
  obtain ⟨after, error | moving⟩ := result
  · exact ⟨after, after.state, hmoves, rfl⟩
  · exact ⟨after, _, hmoves, rfl⟩

/-- What a call does to a twin, if it does anything: each constructor is one kind of effect. -/
inductive Performs (twin : DigitalTwinRobot) : TwinCall → DigitalTwinRobot → Prop
  | nothing (c : TwinCall) : Performs twin c twin
  | assigned (command : ValidatedMotionCommand) (targets : JointName → Double)
      (velocityLimit accelerationLimit : Double) (state : WireSystemState)
      (hchecked : twin.checkedTargets command = .ok targets) :
      Performs twin (.accept command)
        { twin with
          targets := targets
          commandVelocityLimit := velocityLimit
          commandAccelerationLimit := accelerationLimit
          state := state }
  | held (dt : Double) (ticks : ℤ) (hdt : Duration dt ticks) :
      Performs twin (.step dt) { twin.advance ticks with currents := fun _ => 60 }
  | moved (dt : Double) (ticks : ℤ) (hdt : Duration dt ticks) (hstate : twin.state ≠ .estop)
      (after : DigitalTwinRobot) (hmoves : MovesJoints dt (twin.advance ticks) after)
      (state : WireSystemState) : Performs twin (.step dt) { after with state := state }
  | stopped : Performs twin .estop twin.estop
  | released : Performs twin .resetEstop { twin with state := .idle }

theorem performs_accept (twin : DigitalTwinRobot) (command : ValidatedMotionCommand) :
    twin.Performs (.accept command) (twin.accept command).1 := by
  unfold accept
  cases hchecked : twin.checkedTargets command with
  | error error => exact .nothing _
  | ok targets =>
    dsimp only
    unfold assign
    dsimp only
    cases hundredth command.maxVelocityCdegS with
    | error error => exact .assigned command targets _ _ _ hchecked
    | ok velocityLimit =>
      dsimp only
      cases hundredth command.maxAccelerationCdegS2 with
      | error error => exact .assigned command targets _ _ _ hchecked
      | ok accelerationLimit => exact .assigned command targets _ _ _ hchecked

theorem performs_step (twin : DigitalTwinRobot) (dt : Double) :
    twin.Performs (.step dt) (twin.step dt).1 := by
  unfold step
  split_ifs with hpos
  · exact .nothing _
  · cases hticks : (dt.mul (.literal 1000)).round with
    | error error => exact .nothing _
    | ok ticks =>
      have hdt : Duration dt ticks := ⟨Bool.not_eq_true _ ▸ hpos, hticks⟩
      dsimp only
      split_ifs with hstate
      · exact .held dt ticks hdt
      · obtain ⟨after, state, hmoves, hafter⟩ := (twin.advance ticks).move_moves dt
        have hrunning : twin.state ≠ .estop := hstate
        rw [hafter]
        exact .moved dt ticks hdt hrunning after hmoves state

theorem performs_call (twin : DigitalTwinRobot) (c : TwinCall) :
    twin.Performs c (twin.call c).1 := by
  cases c with
  | accept command => exact twin.performs_accept command
  | step dt => exact twin.performs_step dt
  | estop => exact .stopped
  | resetEstop =>
    change twin.Performs .resetEstop twin.resetEstop
    unfold resetEstop
    split_ifs
    · exact .released
    · exact .nothing _

end DigitalTwinRobot
end RoboticCharacter.Floating
