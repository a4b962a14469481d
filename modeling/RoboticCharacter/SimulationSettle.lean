import RoboticCharacter.SimulationRuntime

/-! What the settling loop of the runtime leaves: a twin that is idle stands at its targets. And
what the device does with the frame that carries a command. -/
namespace RoboticCharacter
open PythonMath Fallible

section Joint
variable {K : Type} [Field K] [LinearOrder K] [FloorRing K] [SquareRoot K]

/-- A joint that does not move any more is at its target and at rest. -/
theorem stepJoint_settled (spec : ReferenceJoint K)
    (commandVelocityLimit commandAccelerationLimit target dt position velocity : K)
    (h : (stepJoint spec commandVelocityLimit commandAccelerationLimit target dt position
      velocity).moving = false) :
    (stepJoint spec commandVelocityLimit commandAccelerationLimit target dt position
        velocity).position = target ∧
      (stepJoint spec commandVelocityLimit commandAccelerationLimit target dt position
        velocity).velocity = 0 := by
  unfold stepJoint at h ⊢
  dsimp only at h ⊢
  split_ifs at h ⊢
  exact ⟨rfl, rfl⟩

end Joint

namespace DigitalTwinRobot
variable {K : Type} [Field K] [LinearOrder K]

/-- The twin stands where it was sent. -/
structure AtRest (twin : DigitalTwinRobot K) : Prop where
  idle : twin.state = .idle
  positions : twin.positions = twin.targets
  velocities : ∀ name, twin.velocities name = 0

/-- The twin moves to these targets, or has reached them. -/
structure Pursues (twin : DigitalTwinRobot K) (targets : JointName → K) : Prop where
  targets_eq : twin.targets = targets
  state : twin.state = .executing ∨ twin.AtRest

theorem Pursues.not_stopped {twin : DigitalTwinRobot K} {targets : JointName → K}
    (h : twin.Pursues targets) : twin.state ≠ .estop := by
  intro hstop
  obtain hexecuting | hrest := h.state
  · rw [hstop] at hexecuting
    cases hexecuting
  · have hidle := hrest.idle
    rw [hstop] at hidle
    cases hidle

section Moves
variable [FloorRing K] [SquareRoot K]

/-- A step keeps the targets, and ends the motion only at them. -/
theorem Pursues.moved {twin : DigitalTwinRobot K} {targets : JointName → K}
    (h : twin.Pursues targets) (dt : K) : (twin.moved dt).Pursues targets := by
  refine ⟨h.targets_eq, ?_⟩
  by_cases hmoving : twin.model.jointNames.any (fun name => (twin.jointStep dt name).moving) = true
  · left
    exact if_pos hmoving
  · right
    have hstill (name : JointName) : (twin.jointStep dt name).moving = false := by
      by_contra hmoves
      apply hmoving
      apply List.any_eq_true.mpr
      exact ⟨name, twin.model.profile.order_complete name, Bool.eq_true_of_not_eq_false hmoves⟩
    have hsettled (name : JointName) := stepJoint_settled (twin.model.joint name)
      twin.commandVelocityLimit twin.commandAccelerationLimit (twin.targets name) dt
      (twin.positions name) (twin.velocities name) (hstill name)
    exact
      { idle := if_neg hmoving
        positions := funext fun name => (hsettled name).1
        velocities := fun name => (hsettled name).2 }

end Moves

/-- A command that a device accepts is pursued. -/
theorem pursues_of_accept {twin after : DigitalTwinRobot K} {command : ValidatedMotionCommand}
    (h : twin.accept command = .ok after) : after.Pursues (twin.requested command) := by
  rw [((twin.accept_eq_ok_iff after command).mp h).2]
  exact ⟨rfl, Or.inl rfl⟩

end DigitalTwinRobot

namespace DigitalTwinProtocolDevice
variable {K : Type} [Field K] [LinearOrder K]

theorem respond_type {device : DigitalTwinProtocolDevice K} {request response : Frame}
    {responseType : MessageType} {status : AckStatus} {exchange : DigitalTwinExchange}
    (h : (device.respond request responseType status).2 = .ok (response, exchange)) :
    response.messageType = responseType := by
  simp only [respond, bind_eq_ok_iff, mapError_eq_ok_iff, pure_eq_ok_iff, Prod.mk.injEq] at h
  obtain ⟨payload, -, frame, hnew, rfl, -⟩ := h
  unfold Frame.new at hnew
  split_ifs at hnew
  rw [← Except.ok.inj hnew]

/-- The device acknowledges only a frame that it dispatched. -/
theorem serveOnce_ack {device : DigitalTwinProtocolDevice K} {request response : Frame}
    {exchange : DigitalTwinExchange} (h : (device.serveOnce request).2 = .ok (response, exchange))
    (hack : response.messageType = .ack) :
    device.twin.dispatch request = .ok (device.serveOnce request).1.twin := by
  cases hdispatch : device.twin.dispatch request with
  | ok after => rw [twin_serveOnce_ok device request after hdispatch]
  | error error =>
    exfalso
    unfold serveOnce at h
    rw [hdispatch] at h
    dsimp only at h
    split_ifs at h
    -- An error that is caught is answered by a NACK.
    rw [respond_type h] at hack
    cases hack

/-- An acknowledged command is pursued. -/
theorem pursues_of_ack {device : DigitalTwinProtocolDevice K} {request response : Frame}
    {exchange : DigitalTwinExchange} {command : ValidatedMotionCommand}
    (h : (device.serveOnce request).2 = .ok (response, exchange))
    (hack : response.messageType = .ack) (htype : request.messageType = .validatedMotionCommand)
    (hcommand : Codec.ValidatedMotionCommand.decode request.payload = .ok command) :
    (device.serveOnce request).1.twin.Pursues (device.twin.requested command) := by
  have hdispatch := (device.twin.dispatch_eq_ok_iff _ request).mp (serveOnce_ack h hack)
  simp only [htype, reduceCtorEq, false_and, or_false, false_or, true_and] at hdispatch
  obtain ⟨decoded, hdecoded, haccept⟩ := hdispatch
  rw [hcommand] at hdecoded
  rw [Except.ok.inj hdecoded]
  exact DigitalTwinRobot.pursues_of_accept haccept

theorem model_serveOnce (device : DigitalTwinProtocolDevice K) (request : Frame) :
    (device.serveOnce request).1.twin.model = device.twin.model := by
  cases hdispatch : device.twin.dispatch request with
  | error error => rw [twin_serveOnce_error device request error hdispatch]
  | ok after =>
    rw [twin_serveOnce_ok device request after hdispatch]
    obtain hheartbeat | hmotion | hstop :=
      (device.twin.dispatch_eq_ok_iff after request).mp hdispatch
    · rw [hheartbeat.2.2]
    · obtain ⟨-, command, -, haccept⟩ := hmotion
      rw [((device.twin.accept_eq_ok_iff after command).mp haccept).2]
      rfl
    · rw [hstop.2.2]
      rfl

end DigitalTwinProtocolDevice

namespace Simulation.SimulationRuntime
variable {K : Type} [Field K] [LinearOrder K] [FloorRing K] [SquareRoot K]

/-- The settling loop keeps the model and goes on to the same targets. -/
theorem settle_pursues {stepS : K} (hstep : 0 < stepS) {targets : JointName → K} (budget : ℕ) :
    ∀ {twin : DigitalTwinRobot K} (steps : ℕ), twin.Pursues targets →
      (settle stepS budget twin steps).1.Pursues targets ∧
        (settle stepS budget twin steps).1.model = twin.model := by
  induction budget with
  | zero =>
    intro twin steps h
    exact ⟨h, rfl⟩
  | succ budget ih =>
    intro twin steps h
    rw [settle]
    split_ifs
    · exact ⟨h, rfl⟩
    · rw [twin.call_step stepS hstep h.not_stopped]
      exact ih (steps+1) (h.moved stepS)

end Simulation.SimulationRuntime
end RoboticCharacter
