import RoboticCharacter.SimulationTwin

/-! When the plant stays within its joint limits. A command may be accepted while a joint
still moves; the joint then has to stop, at the rate the new command allows, before its
limit. -/
namespace RoboticCharacter
open PythonMath RateLimited Machine

section Joint
variable {K : Type} [Field K] [LinearOrder K]

/-- A joint under an acceleration limit `a` rests at its target, or moves towards it, or
stops before the end of the range it moves to. -/
def StopsBetween (low high a target position velocity : K) : Prop :=
  target = position ∨ Settled (target-position) velocity ∨
  0 ≤ a ∧
    (target < position → 0 < velocity → StopsWithin a velocity (high-position)) ∧
    (position < target → velocity < 0 → StopsWithin a velocity (position-low))

/-- The same between the joint's own limits. -/
def StopsInside (spec : ReferenceJoint K) (a target position velocity : K) : Prop :=
  target = position ∨ Settled (target-position) velocity ∨
  0 ≤ a ∧
    (target < position → 0 < velocity → StopsWithin a velocity (spec.upperDeg-position)) ∧
    (position < target → velocity < 0 → StopsWithin a velocity (position-spec.lowerDeg))

variable [FloorRing K] [SquareRoot K]

/-- A step ends at the target, or short of it with the slewed velocity. -/
theorem stepJoint_cases (spec : ReferenceJoint K) (vl al target dt position velocity : K) :
    (stepJoint spec vl al target dt position velocity).position = target ∨
    ¬ Settled (target-position) velocity ∧
      ∃ wanted next, wanted = desiredVelocity (min spec.maxVelocityDegS vl)
          (min spec.maxAccelerationDegS2 al) (target-position) ∧
        next = slew (min spec.maxAccelerationDegS2 al*dt) wanted velocity ∧
        0 < (target-position)*(target-(position+next*dt)) ∧
        (stepJoint spec vl al target dt position velocity).position = position+next*dt ∧
        (stepJoint spec vl al target dt position velocity).velocity = next := by
  unfold stepJoint
  by_cases hs : Settled (target-position) velocity
  · exact .inl (by rw [if_pos hs])
  · dsimp only
    rw [if_neg hs]
    split_ifs with hcross
    · exact .inl rfl
    · exact .inr ⟨hs, _, _, rfl, rfl, not_le.mp hcross, rfl, rfl⟩

theorem stepJoint_moves (spec : ReferenceJoint K) (vl al target dt position velocity next : K)
    (hs : ¬ Settled (target-position) velocity)
    (hnext : slew (min spec.maxAccelerationDegS2 al*dt)
      (desiredVelocity (min spec.maxVelocityDegS vl) (min spec.maxAccelerationDegS2 al)
        (target-position)) velocity = next)
    (hcross : 0 < (target-position)*(target-(position+next*dt))) :
    (stepJoint spec vl al target dt position velocity).position = position+next*dt ∧
    (stepJoint spec vl al target dt position velocity).velocity = next := by
  unfold stepJoint
  dsimp only
  rw [if_neg hs, hnext, if_neg (not_le.mpr hcross)]
  exact ⟨rfl, rfl⟩

variable [IsStrictOrderedRing K]

theorem stepJoint_between (spec : ReferenceJoint K) (low high vl al target dt position velocity : K)
    (hdt : 0 < dt) (ht : low ≤ target ∧ target ≤ high) (hp : low ≤ position ∧ position ≤ high)
    (hstop : StopsBetween low high (min spec.maxAccelerationDegS2 al) target position velocity) :
    (low ≤ (stepJoint spec vl al target dt position velocity).position ∧
      (stepJoint spec vl al target dt position velocity).position ≤ high) ∧
    StopsBetween low high (min spec.maxAccelerationDegS2 al) target
      (stepJoint spec vl al target dt position velocity).position
      (stepJoint spec vl al target dt position velocity).velocity := by
  rcases stepJoint_cases spec vl al target dt position velocity with
    harrived | ⟨hsettled, wanted, next, hwanted, hnext, hcross, hposition, hvelocity⟩
  · rw [harrived]
    exact ⟨ht, .inl rfl⟩
  rw [hposition, hvelocity]
  rcases hstop with hrest | hrest | ⟨ha, hup, hdown⟩
  · rw [hrest, sub_self, zero_mul] at hcross
    exact absurd hcross (lt_irrefl 0)
  · exact absurd hrest hsettled
  rcases lt_trichotomy (target-position) 0 with herror | herror | herror
  · -- the mirror image of the last case
    have hahead := neg_of_mul_pos_right hcross herror.le
    have hw : 0 ≤ -wanted := by
      rw [hwanted, desiredVelocity, copysign_of_neg _ _ herror, neg_neg]
      exact abs_nonneg _
    have hmirror := slew_neg _ wanted velocity (mul_nonneg ha hdt.le)
    rw [← hnext] at hmirror
    obtain ⟨hlow, hstops⟩ := slew_away _ dt (-wanted) (-velocity) (-position) (-high) ha
      hdt hw (by linarith) (by
        intro hv
        have := hup (by linarith) (by linarith)
        unfold StopsWithin stoppingSquare at this ⊢
        rw [neg_sq]
        exact this.trans_eq (by ring))
    rw [hmirror] at hlow hstops
    have hlimit : position+next*dt ≤ high := by linarith
    refine ⟨⟨by linarith, hlimit⟩, .inr (.inr ⟨ha, ?_, ?_⟩)⟩
    · intro _ hv
      have := hstops (by linarith)
      unfold StopsWithin stoppingSquare at this ⊢
      rw [neg_sq] at this
      exact this.trans_eq (by ring)
    · intro h
      linarith
  · rw [herror, zero_mul] at hcross
    exact absurd hcross (lt_irrefl 0)
  · have hahead := pos_of_mul_pos_right hcross herror.le
    have hw : 0 ≤ wanted := by
      rw [hwanted, desiredVelocity, copysign_of_nonneg _ _ herror.le]
      exact abs_nonneg _
    obtain ⟨hlow, hstops⟩ := slew_away _ dt wanted velocity position low ha hdt hw hp.1
      (hdown (by linarith))
    rw [← hnext] at hlow hstops
    refine ⟨⟨hlow, by linarith⟩, .inr (.inr ⟨ha, ?_, fun _ => hstops⟩)⟩
    intro h
    linarith

theorem stepJoint_inside (spec : ReferenceJoint K) (vl al target dt position velocity : K)
    (hdt : 0 < dt) (ht : spec.lowerDeg ≤ target ∧ target ≤ spec.upperDeg)
    (hp : spec.lowerDeg ≤ position ∧ position ≤ spec.upperDeg)
    (hstop : StopsInside spec (min spec.maxAccelerationDegS2 al) target position velocity) :
    (spec.lowerDeg ≤ (stepJoint spec vl al target dt position velocity).position ∧
      (stepJoint spec vl al target dt position velocity).position ≤ spec.upperDeg) ∧
    StopsInside spec (min spec.maxAccelerationDegS2 al) target
      (stepJoint spec vl al target dt position velocity).position
      (stepJoint spec vl al target dt position velocity).velocity :=
  stepJoint_between spec _ _ vl al target dt position velocity hdt ht hp hstop

end Joint

namespace DigitalTwinRobot
section Plant
variable {K : Type} [Field K] [LinearOrder K]

/-- The acceleration limit a joint has under the command accepted last. -/
def accelerationLimit (twin : DigitalTwinRobot K) (name : JointName) : K :=
  min (twin.model.joint name).maxAccelerationDegS2 twin.commandAccelerationLimit

structure Inside (twin : DigitalTwinRobot K) (name : JointName) : Prop where
  position_in : twin.model.Contains twin.positions name
  target_in : twin.model.Contains twin.targets name
  stops : StopsInside (twin.model.joint name) (twin.accelerationLimit name) (twin.targets name)
    (twin.positions name) (twin.velocities name)

/-- A command that is accepted leaves every joint the room it needs to stop. -/
def LeavesRoom (twin : DigitalTwinRobot K) : TwinCall K → Prop
  | .accept command => twin.Admits command → ∀ name, StopsInside (twin.model.joint name)
      (min (twin.model.joint name).maxAccelerationDegS2 (commandAcceleration command))
      (twin.requested command name) (twin.positions name) (twin.velocities name)
  | _ => True

theorem inside_new (model : RobotModel K) (supplyMv : ℤ) (twin : DigitalTwinRobot K)
    (h : new model supplyMv = .ok twin) (name : JointName) : twin.Inside name := by
  obtain ⟨_, _, rfl⟩ := atHome_of_new model supplyMv twin h
  exact ⟨model.withinLimits_home name, model.withinLimits_home name, .inl rfl⟩

variable [FloorRing K] [SquareRoot K] [IsStrictOrderedRing K]

theorem inside_call (twin : DigitalTwinRobot K) (c : TwinCall K) (h : ∀ name, twin.Inside name)
    (hroom : twin.LeavesRoom c) (name : JointName) : (twin.call c).1.Inside name := by
  have hname := h name
  have hperforms := twin.performs_call c
  generalize (twin.call c).1 = after at hperforms ⊢
  cases hperforms with
  | nothing => exact hname
  | accepted command hadmits =>
    exact ⟨hname.position_in, hadmits.within_limits name, hroom hadmits name⟩
  | held dt hdt hstopped => exact ⟨hname.position_in, hname.target_in, hname.stops⟩
  | moved dt hdt hrunning =>
    obtain ⟨hposition, hstops⟩ := stepJoint_inside _ _ _ _ dt _ _ hdt hname.target_in
      hname.position_in hname.stops
    exact ⟨hposition, hname.target_in, hstops⟩
  | stopped => exact ⟨hname.position_in, hname.position_in, .inl rfl⟩
  | released hstopped => exact ⟨hname.position_in, hname.target_in, hname.stops⟩

end Plant

/-- A run in which every accepted command leaves the moving joints the room to stop never
takes a joint out of its limits. -/
theorem positions_within_limits (model : RobotModel ℝ) (supplyMv : ℤ) (twin : DigitalTwinRobot ℝ)
    (hnew : new model supplyMv = .ok twin) (calls : List (TwinCall ℝ))
    (hroom : ∀ e ∈ trace call twin calls, e.before.LeavesRoom e.input) :
    ∀ t ∈ states call twin calls, model.WithinLimits t.positions := by
  have hmodel := model_of_new model supplyMv twin hnew
  have hinv := states_guarded call (P := fun t => t.model = model ∧ ∀ name, t.Inside name)
    LeavesRoom
    (fun t c ht hc => ⟨(model_call t c).trans ht.1, inside_call t c ht.2 hc⟩)
    twin ⟨hmodel, inside_new model supplyMv twin hnew⟩ calls hroom
  intro t ht name
  have h := ((hinv t ht).2 name).position_in
  rwa [(hinv t ht).1] at h

theorem positions_within_limits_from_rest :
    new (referenceArm ℝ) defaultSupplyMv = .ok (ofModel (referenceArm ℝ)) ∧
    ∀ t ∈ states call (ofModel (referenceArm ℝ)) [.accept (moveBase 9000 4500 12000), .step 1],
      (referenceArm ℝ).WithinLimits t.positions := by
  refine ⟨new_default _, ?_⟩
  apply positions_within_limits (referenceArm ℝ) defaultSupplyMv _ (new_default _)
  intro e he
  rcases List.mem_cons.mp he with rfl | he
  · intro _ name
    refine .inr (.inr ⟨?_, fun _ h => absurd h (lt_irrefl 0), fun _ h => absurd h (lt_irrefl 0)⟩)
    apply le_min ((referenceArm ℝ).joint name).maxAcceleration_pos.le
    change (0 : ℝ) ≤ ((12000 : ℤ) : ℝ)/100
    norm_num
  · rw [List.mem_singleton.mp he]
    trivial

/-- The base leaves home for its upper limit: after a second it has its full velocity. -/
theorem base_at_speed : let base := (referenceArm ℝ).joint .base
    (stepJoint base 45 120 135 1 0 0).position = 45 ∧
    (stepJoint base 45 120 135 1 0 0).velocity = 45 := by
  intro base
  have ha : min base.maxAccelerationDegS2 120 = 120 := by
    change min ((120 : ℤ) : ℝ) 120 = 120
    norm_num
  have hv : min base.maxVelocityDegS 45 = 45 := by
    change min ((45 : ℤ) : ℝ) 45 = 45
    norm_num
  have hbrake : (45 : ℝ) ≤ SquareRoot.sqrt (max 0 (stoppingSquare 120 |(135 : ℝ)-0|)) := by
    apply Real.le_sqrt_of_sq_le
    unfold stoppingSquare
    rw [sub_zero, abs_of_pos (by norm_num)]
    norm_num
  have hwanted : desiredVelocity 45 120 ((135 : ℝ)-0) = 45 := by
    rw [desiredVelocity, min_eq_left hbrake, copysign_of_nonneg _ _ (by norm_num),
      abs_of_pos (by norm_num)]
  have hslew : slew (min base.maxAccelerationDegS2 120*1)
      (desiredVelocity (min base.maxVelocityDegS 45) (min base.maxAccelerationDegS2 120)
        ((135 : ℝ)-0)) 0 = 45 := by
    rw [ha, hv, hwanted, slew_of_near]
    rw [abs_of_pos (by norm_num)]
    norm_num
  have hmoves := stepJoint_moves base 45 120 135 1 0 0 45 (not_settled _ _ (by
    rw [abs_of_pos (by norm_num)]
    norm_num)) hslew (by norm_num)
  rwa [zero_add, mul_one] at hmoves

/-- Sent back at 0.01 deg/s², it still turns the wrong way ten seconds later. -/
theorem base_sent_back (dt : ℝ) (hdt : 0 < dt) (hle : dt ≤ 10) :
    let base := (referenceArm ℝ).joint .base
    (stepJoint base 45 (1/100) 0 dt 45 45).position = 45+(45-1/100*dt)*dt := by
  intro base
  have ha : min base.maxAccelerationDegS2 (1/100) = 1/100 := by
    change min ((120 : ℤ) : ℝ) (1/100) = 1/100
    norm_num
  have hwanted : desiredVelocity (min base.maxVelocityDegS 45) (1/100) ((0 : ℝ)-45) ≤ 0 := by
    rw [desiredVelocity, copysign_of_neg _ _ (by norm_num)]
    exact neg_nonpos.mpr (abs_nonneg _)
  have hslew : slew (min base.maxAccelerationDegS2 (1/100)*dt)
      (desiredVelocity (min base.maxVelocityDegS 45) (min base.maxAccelerationDegS2 (1/100))
        ((0 : ℝ)-45)) 45 = 45-1/100*dt := by
    rw [ha]
    apply slew_of_gt _ _ _ (by positivity)
    linarith
  have hahead : 0 ≤ (45-1/100*dt)*dt := mul_nonneg (by linarith) hdt.le
  exact (stepJoint_moves base 45 (1/100) 0 dt 45 45 _ (not_settled _ _ (by
    rw [abs_of_neg (by norm_num)]
    norm_num)) hslew (mul_pos_of_neg_of_neg (by norm_num) (by linarith))).1

/-- The base moves to its upper limit at 45 deg/s and is then sent back home at an
acceleration of 0.01 deg/s². -/
def sendAndRecall (dt : ℝ) : List (TwinCall ℝ) :=
  [.accept (moveBase 13500 4500 12000), .step 1, .accept (moveBase 0 4500 1), .step dt]

theorem base_recalled (dt : ℝ) (hdt : 0 < dt) (hle : dt ≤ 10) :
    (run call (ofModel (referenceArm ℝ)) (sendAndRecall dt)).positions .base =
      45+(45-1/100*dt)*dt := by
  let twin := ofModel (referenceArm ℝ)
  let toLimit := moveBase 13500 4500 12000
  let toHome := moveBase 0 4500 1
  let sent := twin.commanded toLimit (twin.requested toLimit)
  let fast := sent.moved 1
  let recalled := fast.commanded toHome (fast.requested toHome)
  have hadmits : twin.Admits toLimit :=
    admits_moveBase _ rfl (RobotModel.withinLimits_home _) _ _ _ (by decide) (by decide)
  have hsent : (twin.call (.accept toLimit)).1 = sent := call_accept twin toLimit hadmits
  have hfast : (sent.call (.step 1)).1 = fast := call_step sent 1 one_pos (by decide)
  have hrecalled : (fast.call (.accept toHome)).1 = recalled :=
    call_accept fast toHome (admits_moveBase fast rfl hadmits.within_limits _ _ _ (by decide)
      (by decide))
  have hlast : (recalled.call (.step dt)).1 = recalled.moved dt :=
    call_step recalled dt hdt (by decide)
  unfold sendAndRecall
  rw [run_cons, run_cons, run_cons, run_cons, run_nil, hsent, hfast, hrecalled, hlast]
  have hvelocity : ((4500 : ℤ) : ℝ)/100 = 45 := by norm_num
  have hstart : fast.positions .base = 45 ∧ fast.velocities .base = 45 := by
    have htarget : sent.targets .base = 135 := by
      refine (requested_moveBase twin rfl 13500 4500 12000 .base).trans ?_
      norm_num
    have hacceleration : ((12000 : ℤ) : ℝ)/100 = 120 := by norm_num
    have hhome : ((0 : ℤ) : ℝ) = 0 := Int.cast_zero
    change (stepJoint _ (((4500 : ℤ) : ℝ)/100) (((12000 : ℤ) : ℝ)/100) (sent.targets .base) 1
        ((0 : ℤ) : ℝ) 0).position = 45 ∧
      (stepJoint _ (((4500 : ℤ) : ℝ)/100) (((12000 : ℤ) : ℝ)/100) (sent.targets .base) 1
        ((0 : ℤ) : ℝ) 0).velocity = 45
    rw [htarget, hvelocity, hacceleration, hhome]
    exact base_at_speed
  have htarget : recalled.targets .base = 0 := by
    refine (requested_moveBase fast rfl 0 4500 1 .base).trans ?_
    norm_num
  have hacceleration : ((1 : ℤ) : ℝ)/100 = 1/100 := by norm_num
  change (stepJoint _ (((4500 : ℤ) : ℝ)/100) (((1 : ℤ) : ℝ)/100) (recalled.targets .base) dt
      (fast.positions .base) (fast.velocities .base)).position = _
  rw [htarget, hstart.1, hstart.2, hvelocity, hacceleration]
  exact base_sent_back dt hdt hle

/-- The base moves to its upper limit at 45 deg/s; it is then sent back home at an
acceleration of 0.01 deg/s², and is past the limit 3 s later. -/
theorem retargeting_leaves_limits :
    ∃ t ∈ states call (ofModel (referenceArm ℝ)) [.accept (moveBase 13500 4500 12000), .step 1,
      .accept (moveBase 0 4500 1), .step 3], ¬ (referenceArm ℝ).WithinLimits t.positions := by
  refine ⟨_, run_mem_states call _ _, ?_⟩
  have hend := base_recalled 3 (by norm_num) (by norm_num)
  intro hlimits
  have hupper := (hlimits .base).2
  change (run call (ofModel (referenceArm ℝ)) (sendAndRecall 3)).positions .base ≤ _ at hupper
  rw [hend] at hupper
  change (45+(45-1/100*3)*3 : ℝ) ≤ ((135 : ℤ) : ℝ) at hupper
  norm_num at hupper

end DigitalTwinRobot
end RoboticCharacter
