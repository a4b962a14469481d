import RoboticCharacter.SimulationLimits

/-! What holds of the plant in every state of every run: it rests when it is idle or stopped,
no step passes a target, and a refused command leaves no trace. The speed of a joint stays
within its profile as long as the commands' own limits are sensible. -/
namespace RoboticCharacter
open PythonMath RateLimited Machine

section Joint
variable {K : Type} [Field K] [LinearOrder K]

/-- A move that does not pass its target. -/
structure NotPast (target before after : K) : Prop where
  from_below : before ≤ target → after ≤ target
  from_above : target ≤ before → target ≤ after

variable [FloorRing K] [SquareRoot K]

theorem stepJoint_idle (spec : ReferenceJoint K) (vl al target dt position velocity : K)
    (h : (stepJoint spec vl al target dt position velocity).moving = false) :
    (stepJoint spec vl al target dt position velocity).position = target ∧
    (stepJoint spec vl al target dt position velocity).velocity = 0 := by
  unfold stepJoint at h ⊢
  dsimp only at h ⊢
  split_ifs at h ⊢
  exact ⟨rfl, rfl⟩

theorem stepJoint_velocity_cases (spec : ReferenceJoint K) (vl al target dt position velocity : K) :
    (stepJoint spec vl al target dt position velocity).velocity = 0 ∨
    (stepJoint spec vl al target dt position velocity).velocity =
      slew (min spec.maxAccelerationDegS2 al*dt) (desiredVelocity (min spec.maxVelocityDegS vl)
        (min spec.maxAccelerationDegS2 al) (target-position)) velocity := by
  unfold stepJoint
  dsimp only
  split_ifs
  · exact .inl rfl
  · exact .inl rfl
  · exact .inr rfl

variable [IsStrictOrderedRing K]

theorem stepJoint_notPast (spec : ReferenceJoint K) (vl al target dt position velocity : K) :
    NotPast target position (stepJoint spec vl al target dt position velocity).position := by
  rcases stepJoint_cases spec vl al target dt position velocity with
    harrived | ⟨_, _, next, _, _, hcross, hposition, _⟩
  · rw [harrived]
    exact ⟨fun _ => le_rfl, fun _ => le_rfl⟩
  · rw [hposition]
    constructor
    · intro hbelow
      have := pos_of_mul_pos_right hcross (sub_nonneg.mpr hbelow)
      exact (sub_pos.mp this).le
    · intro habove
      have := neg_of_mul_pos_right hcross (sub_nonpos.mpr habove)
      exact (sub_neg.mp this).le

end Joint

/-- Whatever the sign of the error, a joint wants no more than the larger of its two limits. -/
theorem abs_desiredVelocity_le (velocityLimit accelerationLimit error bound : ℝ)
    (hlow : -bound ≤ velocityLimit) (hhigh : velocityLimit ≤ bound) (hbound : 0 ≤ bound) :
    |desiredVelocity velocityLimit accelerationLimit error| ≤ bound := by
  have hspeed :
      |min velocityLimit √(max 0 (stoppingSquare accelerationLimit |error|))| ≤ bound := by
    rw [abs_le]
    refine ⟨le_min hlow ?_, (min_le_left _ _).trans hhigh⟩
    exact (neg_nonpos.mpr hbound).trans (Real.sqrt_nonneg _)
  unfold desiredVelocity
  rcases lt_or_ge error 0 with hneg | hpos
  · rw [copysign_of_neg _ _ hneg, abs_neg, abs_abs]
    exact hspeed
  · rw [copysign_of_nonneg _ _ hpos, abs_abs]
    exact hspeed

theorem stepJoint_speed (spec : ReferenceJoint ℝ) (vl al target dt position velocity : ℝ)
    (hdt : 0 < dt) (hvl : -spec.maxVelocityDegS ≤ vl) (hal : 0 ≤ al)
    (hv : |velocity| ≤ spec.maxVelocityDegS) :
    |(stepJoint spec vl al target dt position velocity).velocity| ≤ spec.maxVelocityDegS := by
  have hmax := spec.maxVelocity_pos.le
  rcases stepJoint_velocity_cases spec vl al target dt position velocity with hzero | hslew
  · rw [hzero, abs_zero]
    exact hmax
  · rw [hslew]
    apply abs_slew_le
    · exact mul_nonneg (le_min spec.maxAcceleration_pos.le hal) hdt.le
    · apply abs_desiredVelocity_le
      · exact le_min (by linarith) hvl
      · exact min_le_left _ _
      · exact hmax
    · exact hv

namespace DigitalTwinRobot
section Rest
variable {K : Type} [Field K] [LinearOrder K]

/-- An idle twin stands at its targets, and a stopped one holds its targets where it stands. -/
structure RestsWhenStill (twin : DigitalTwinRobot K) : Prop where
  idle_rests : twin.state = .idle →
    (∀ name, twin.velocities name = 0) ∧ twin.positions = twin.targets
  stopped_rests : twin.state = .estop →
    (∀ name, twin.velocities name = 0) ∧ twin.targets = twin.positions

theorem restsWhenStill_new (model : RobotModel K) (supplyMv : ℤ) (twin : DigitalTwinRobot K)
    (h : new model supplyMv = .ok twin) : twin.RestsWhenStill := by
  obtain ⟨_, _, rfl⟩ := atHome_of_new model supplyMv twin h
  constructor
  · intro _
    exact ⟨fun _ => rfl, rfl⟩
  · intro hstate
    cases hstate

theorem restsWhenStill_commanded (twin : DigitalTwinRobot K) (command : ValidatedMotionCommand)
    (targets : JointName → K) : (twin.commanded command targets).RestsWhenStill := by
  constructor
  · intro hstate
    cases hstate
  · intro hstate
    cases hstate

variable [FloorRing K] [SquareRoot K]

theorem restsWhenStill_moved (twin : DigitalTwinRobot K) (dt : K) :
    (twin.moved dt).RestsWhenStill := by
  constructor
  · -- the state after a step is idle only if no joint moves
    intro hidle
    have hnone : ¬ (twin.model.jointNames.any
        fun name => (twin.jointStep dt name).moving) = true := by
      intro hany
      simp only [moved, hany, ↓reduceIte, reduceCtorEq] at hidle
    have hstill (name : JointName) : (twin.jointStep dt name).moving = false := by
      rw [← Bool.not_eq_true]
      intro hmoving
      exact hnone (List.any_eq_true.mpr ⟨name, twin.model.profile.order_complete name, hmoving⟩)
    constructor
    · intro name
      exact (stepJoint_idle _ _ _ _ _ _ _ (hstill name)).2
    · funext name
      exact (stepJoint_idle _ _ _ _ _ _ _ (hstill name)).1
  · intro hstate
    unfold moved at hstate
    dsimp only at hstate
    split_ifs at hstate

theorem restsWhenStill_call (twin : DigitalTwinRobot K) (c : TwinCall K)
    (h : twin.RestsWhenStill) : (twin.call c).1.RestsWhenStill := by
  have hperforms := twin.performs_call c
  generalize (twin.call c).1 = after at hperforms ⊢
  cases hperforms with
  | nothing => exact h
  | accepted command hadmits => exact restsWhenStill_commanded _ _ _
  | held dt hdt hstopped =>
    -- only the clock and the currents of a stopped twin change
    exact ⟨h.idle_rests, h.stopped_rests⟩
  | moved dt hdt hrunning => exact restsWhenStill_moved twin dt
  | stopped =>
    constructor
    · intro hstate
      cases hstate
    · intro _
      exact ⟨fun _ => rfl, rfl⟩
  | released hstopped =>
    obtain ⟨hvelocities, htargets⟩ := h.stopped_rests hstopped
    constructor
    · intro _
      exact ⟨hvelocities, htargets.symm⟩
    · intro hstate
      cases hstate

theorem step_notPast [IsStrictOrderedRing K] (twin : DigitalTwinRobot K) (dt : K)
    (name : JointName) : NotPast (twin.targets name) (twin.positions name)
      ((twin.call (.step dt)).1.positions name) := by
  have hperforms := twin.performs_call (.step dt)
  generalize (twin.call (.step dt)).1 = after at hperforms ⊢
  cases hperforms with
  | nothing => exact ⟨id, id⟩
  | held _ hdt hstopped => exact ⟨id, id⟩
  | moved _ hdt hrunning => exact stepJoint_notPast _ _ _ _ _ _ _

end Rest

section Speed

/-- The limits of a command that is accepted: a velocity that is not below the negative of a
joint's own limit, and an acceleration that is not negative. Encoded commands have positive ones. -/
def SensibleLimits (twin : DigitalTwinRobot ℝ) : TwinCall ℝ → Prop
  | .accept command => twin.Admits command →
      (∀ name, -(twin.model.joint name).maxVelocityDegS ≤ commandVelocity command) ∧
      (0 : ℝ) ≤ commandAcceleration command
  | _ => True

theorem sensibleLimits_of_encode (twin : DigitalTwinRobot ℝ) (command : ValidatedMotionCommand)
    (payload : Bytes) (h : Codec.ValidatedMotionCommand.encode command = .ok payload) :
    twin.SensibleLimits (.accept command) := by
  rw [Codec.ValidatedMotionCommand.encode_agrees, ValidatedMotionCommand.encode_eq_ok_iff] at h
  have hv : (0 : ℝ) ≤ command.maxVelocityCdegS := by
    exact_mod_cast (h.1.velocity_pos.trans' (by omega))
  have ha : (0 : ℝ) ≤ command.maxAccelerationCdegS2 := by
    exact_mod_cast (h.1.acceleration_pos.trans' (by omega))
  intro _
  refine ⟨fun name => ?_, div_nonneg ha (by norm_num)⟩
  have hpos := (twin.model.joint name).maxVelocity_pos
  have hcommand : (0 : ℝ) ≤ commandVelocity command := div_nonneg hv (by norm_num)
  linarith

/-- No joint is faster than its profile allows, and no limit in force can make it so. -/
structure WithinSpeed (twin : DigitalTwinRobot ℝ) : Prop where
  speed_le : ∀ name, |twin.velocities name| ≤ (twin.model.joint name).maxVelocityDegS
  velocityLimit_ge : ∀ name, -(twin.model.joint name).maxVelocityDegS ≤ twin.commandVelocityLimit
  accelerationLimit_nonneg : 0 ≤ twin.commandAccelerationLimit

theorem minOverJoints_pos (value : JointName → ℝ) (h : ∀ name, 0 < value name) :
    0 < minOverJoints value :=
  lt_min (lt_min (h _) (h _)) (lt_min (h _) (h _))

theorem withinSpeed_new (model : RobotModel ℝ) (supplyMv : ℤ) (twin : DigitalTwinRobot ℝ)
    (h : new model supplyMv = .ok twin) : twin.WithinSpeed := by
  obtain ⟨_, _, rfl⟩ := atHome_of_new model supplyMv twin h
  have hv := minOverJoints_pos _ fun name => (model.joint name).maxVelocity_pos
  have ha := minOverJoints_pos _ fun name => (model.joint name).maxAcceleration_pos
  refine ⟨fun name => ?_, fun name => ?_, ha.le⟩
  · exact (abs_zero (α := ℝ)).trans_le (model.joint name).maxVelocity_pos.le
  · exact (neg_nonpos.mpr (model.joint name).maxVelocity_pos.le).trans hv.le

theorem withinSpeed_call (twin : DigitalTwinRobot ℝ) (c : TwinCall ℝ) (h : twin.WithinSpeed)
    (hsensible : twin.SensibleLimits c) : (twin.call c).1.WithinSpeed := by
  have hperforms := twin.performs_call c
  generalize (twin.call c).1 = after at hperforms ⊢
  cases hperforms with
  | nothing => exact h
  | accepted command hadmits =>
    obtain ⟨hvelocity, hacceleration⟩ := hsensible hadmits
    exact ⟨h.speed_le, hvelocity, hacceleration⟩
  | held dt hdt hstopped => exact ⟨h.speed_le, h.velocityLimit_ge, h.accelerationLimit_nonneg⟩
  | moved dt hdt hrunning =>
    refine ⟨fun name => ?_, h.velocityLimit_ge, h.accelerationLimit_nonneg⟩
    exact stepJoint_speed _ _ _ _ dt _ _ hdt (h.velocityLimit_ge name)
      h.accelerationLimit_nonneg (h.speed_le name)
  | stopped =>
    refine ⟨fun name => ?_, h.velocityLimit_ge, h.accelerationLimit_nonneg⟩
    exact (abs_zero (α := ℝ)).trans_le (twin.model.joint name).maxVelocity_pos.le
  | released hstopped => exact ⟨h.speed_le, h.velocityLimit_ge, h.accelerationLimit_nonneg⟩

end Speed

/-- In every run of the plant it rests when it is idle or stopped, no step passes a target and
a refused command changes nothing; and no joint is ever faster than its profile allows, if every
accepted command has sensible limits. -/
theorem plant_invariants (model : RobotModel ℝ) (supplyMv : ℤ) (twin : DigitalTwinRobot ℝ)
    (hnew : new model supplyMv = .ok twin) (calls : List (TwinCall ℝ)) :
    (∀ t ∈ states call twin calls,
      (t.state = .idle → (∀ name, t.velocities name = 0) ∧ t.positions = t.targets) ∧
      (t.state = .estop → (∀ name, t.velocities name = 0) ∧ t.targets = t.positions) ∧
      ∀ command error after,
        (acceptInPlace command).run.run t = (.error error, after) → after = t) ∧
    (∀ e ∈ trace call twin calls, ∀ dt, e.input = .step dt → ∀ name,
      NotPast (e.before.targets name) (e.before.positions name) (e.after.positions name)) ∧
    ((∀ e ∈ trace call twin calls, e.before.SensibleLimits e.input) →
      ∀ t ∈ states call twin calls, ∀ name,
        |t.velocities name| ≤ (model.joint name).maxVelocityDegS) := by
  refine ⟨?_, ?_, ?_⟩
  · have hrests := states_invariant call restsWhenStill_call twin
      (restsWhenStill_new model supplyMv twin hnew) calls
    intro t ht
    refine ⟨(hrests t ht).idle_rests, (hrests t ht).stopped_rests, ?_⟩
    intro command error after hraised
    cases haccept : t.accept command with
    | ok accepted =>
      rw [acceptInPlace_ok t accepted command haccept] at hraised
      cases (Prod.mk.inj hraised).1
    | error raised =>
      rw [acceptInPlace_error t command raised haccept] at hraised
      exact (Prod.mk.inj hraised).2.symm
  · intro e he dt hinput name
    have hstep := trace_step call twin calls e he
    have hmove := step_notPast e.before dt name
    rw [hinput] at hstep
    rwa [hstep] at hmove
  · intro hsensible t ht name
    have hmodel := model_of_new model supplyMv twin hnew
    -- the profile of the bound is the one that the twin was made with
    have hinv := states_guarded call (P := fun t => t.model = model ∧ t.WithinSpeed)
      SensibleLimits
      (fun t c h hc => ⟨(model_call t c).trans h.1, withinSpeed_call t c h.2 hc⟩)
      twin ⟨hmodel, withinSpeed_new model supplyMv twin hnew⟩ calls hsensible t ht
    have hspeed := hinv.2.speed_le name
    rwa [hinv.1] at hspeed

theorem plant_invariants_reference :
    new (referenceArm ℝ) defaultSupplyMv = .ok (ofModel (referenceArm ℝ)) ∧
    ∀ t ∈ states call (ofModel (referenceArm ℝ)) [.accept (moveBase 9000 4500 12000), .step 1],
      t.state = .idle → (∀ name, t.velocities name = 0) ∧ t.positions = t.targets := by
  refine ⟨new_default _, ?_⟩
  intro t ht
  exact ((plant_invariants (referenceArm ℝ) defaultSupplyMv _ (new_default _) _).1 t ht).1

/-- The base is sent to 90 degrees with a velocity limit of -100 deg/s: half a second later it
turns at 60 deg/s, faster than its profile allows. -/
theorem negative_limit_exceeds_profile :
    ∃ t ∈ states call (ofModel (referenceArm ℝ))
        [.accept (moveBase 9000 (-10000) 12000), .step (1/2)],
      ¬ |t.velocities .base| ≤ ((referenceArm ℝ).joint .base).maxVelocityDegS := by
  refine ⟨_, run_mem_states call _ _, ?_⟩
  let twin := ofModel (referenceArm ℝ)
  let command := moveBase 9000 (-10000) 12000
  let sent := twin.commanded command (twin.requested command)
  have hadmits : twin.Admits command :=
    admits_moveBase _ rfl (RobotModel.withinLimits_home _) _ _ _ (by decide) (by decide)
  have hsent : (twin.call (.accept command)).1 = sent := call_accept twin command hadmits
  have hlast : (sent.call (.step (1/2))).1 = sent.moved (1/2) :=
    call_step sent (1/2) (by norm_num) (by decide)
  rw [run_cons, run_cons, run_nil, hsent, hlast]
  have htarget : sent.targets .base = 90 := by
    refine (requested_moveBase twin rfl 9000 (-10000) 12000 .base).trans ?_
    norm_num
  have hvl : min ((referenceArm ℝ).joint .base).maxVelocityDegS (-100) = -100 := by
    change min ((45 : ℤ) : ℝ) (-100) = -100
    norm_num
  have hal : min ((referenceArm ℝ).joint .base).maxAccelerationDegS2 120 = 120 := by
    change min ((120 : ℤ) : ℝ) 120 = 120
    norm_num
  -- `copysign` makes 100 of the limit -100, and half a second at 120 deg/s² gets to 60
  have hwanted : desiredVelocity (-100) 120 ((90 : ℝ)-0) = 100 := by
    rw [desiredVelocity, min_eq_left, copysign_of_nonneg _ _ (by norm_num)]
    · norm_num
    · exact (by norm_num : (-100 : ℝ) ≤ 0).trans (Real.sqrt_nonneg _)
  have hslew : slew (min ((referenceArm ℝ).joint .base).maxAccelerationDegS2 120*(1/2))
      (desiredVelocity (min ((referenceArm ℝ).joint .base).maxVelocityDegS (-100))
        (min ((referenceArm ℝ).joint .base).maxAccelerationDegS2 120) ((90 : ℝ)-0)) 0 = 60 := by
    rw [hvl, hal, hwanted, slew_of_lt _ _ _ (by norm_num) (by norm_num)]
    norm_num
  have hmoves := (stepJoint_moves ((referenceArm ℝ).joint .base) (-100) 120 90 (1/2) 0 0 60
    (not_settled _ _ (by norm_num)) hslew (by norm_num)).2
  have hspeed : (sent.moved (1/2)).velocities .base = 60 := by
    have hvelocity : ((-10000 : ℤ) : ℝ)/100 = -100 := by norm_num
    have hacceleration : ((12000 : ℤ) : ℝ)/100 = 120 := by norm_num
    have hhome : ((0 : ℤ) : ℝ) = 0 := Int.cast_zero
    change (stepJoint _ (((-10000 : ℤ) : ℝ)/100) (((12000 : ℤ) : ℝ)/100) (sent.targets .base) (1/2)
      ((0 : ℤ) : ℝ) 0).velocity = 60
    rwa [htarget, hvelocity, hacceleration, hhome]
  rw [hspeed]
  change ¬ |(60 : ℝ)| ≤ ((45 : ℤ) : ℝ)
  norm_num

end DigitalTwinRobot
end RoboticCharacter
