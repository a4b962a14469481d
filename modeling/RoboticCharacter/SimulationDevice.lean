import RoboticCharacter.SimulationTwin

/-! The protocol endpoint in front of the twin: every frame is dispatched to the twin and
answered. When a stop lasts: the frames a stopped twin still obeys are motion commands. -/
namespace RoboticCharacter
open PythonMath Fallible Machine

inductive DispatchError (K : Type)
  | codec (error : Codec.Raised)
  | twin (error : DigitalTwinError K)

/-- `except (ProtocolError, DigitalTwinError, ValueError)`. -/
def DispatchError.Caught {K : Type} : DispatchError K → Bool
  | codec (.protocolError _) => true
  | codec (.valueError _) => true
  | codec (.structError _) => false
  | codec (.typeError _) => false
  | twin _ => true

structure DigitalTwinExchange where
  requestType : MessageType
  requestSequence : ℕ
  status : AckStatus
  deriving DecidableEq

structure DigitalTwinProtocolDevice (K : Type) [Field K] [LinearOrder K] where
  twin : DigitalTwinRobot K
  responseSequence : ℕ

namespace DigitalTwinRobot
variable {K : Type} [Field K] [LinearOrder K]

def dispatch (twin : DigitalTwinRobot K) (frame : Frame) :
    Except (DispatchError K) (DigitalTwinRobot K) :=
  match frame.messageType with
  | .heartbeat => do
    let _ ← (Codec.Heartbeat.decode frame.payload).mapError .codec
    return twin
  | .validatedMotionCommand => do
    let command ← (Codec.ValidatedMotionCommand.decode frame.payload).mapError .codec
    (twin.accept command).mapError .twin
  | .estop => do
    let _ ← (Codec.EmergencyStop.decode frame.payload).mapError .codec
    return twin.estop
  | other =>
    .error (.codec (.protocolError (.protocol s!"digital twin does not accept {other.name}")))

/-- The frame carries a motion command that the twin accepts. -/
def Obeys (twin : DigitalTwinRobot K) (frame : Frame) : Prop :=
  frame.messageType = .validatedMotionCommand ∧
    ∃ command, Codec.ValidatedMotionCommand.decode frame.payload = .ok command ∧
      twin.Admits command

/-- The three kinds of frame that are dispatched without an error. -/
theorem dispatch_eq_ok_iff (twin after : DigitalTwinRobot K) (frame : Frame) :
    twin.dispatch frame = .ok after ↔
      (frame.messageType = .heartbeat ∧
        (∃ message, Codec.Heartbeat.decode frame.payload = .ok message) ∧ after = twin) ∨
      (frame.messageType = .validatedMotionCommand ∧
        ∃ command, Codec.ValidatedMotionCommand.decode frame.payload = .ok command ∧
          twin.accept command = .ok after) ∨
      (frame.messageType = .estop ∧
        (∃ message, Codec.EmergencyStop.decode frame.payload = .ok message) ∧
          after = twin.estop) := by
  unfold dispatch
  cases htype : frame.messageType with
  | heartbeat =>
    simp only [bind_eq_ok_iff, mapError_eq_ok_iff, pure_eq_ok_iff, exists_and_right, true_and,
      reduceCtorEq, false_and, or_false, @eq_comm _ after]
  | validatedMotionCommand =>
    simp only [bind_eq_ok_iff, mapError_eq_ok_iff, true_and, reduceCtorEq, false_and, or_false,
      false_or]
  | estop =>
    simp only [bind_eq_ok_iff, mapError_eq_ok_iff, pure_eq_ok_iff, exists_and_right, true_and,
      reduceCtorEq, false_and, false_or, @eq_comm _ after]
  | gloveTelemetry | ack | nack | robotTelemetry =>
    simp only [reduceCtorEq, false_and, or_false]

end DigitalTwinRobot

namespace DigitalTwinProtocolDevice
variable {K : Type} [Field K] [LinearOrder K]

def respond (device : DigitalTwinProtocolDevice K) (request : Frame) (responseType : MessageType)
    (status : AckStatus) :
    DigitalTwinProtocolDevice K × Except (DispatchError K) (Frame × DigitalTwinExchange) :=
  ({ device with responseSequence := (device.responseSequence+1)%65536 }, do
    let payload ← (Codec.Acknowledgement.encode ⟨request.sequence, status⟩).mapError .codec
    let response ← (Frame.new responseType device.responseSequence payload).mapError
      (fun e => .codec (.protocolError e))
    return (response, ⟨request.messageType, request.sequence, status⟩))

/-- `serve_once` between receiving the request and sending the response. -/
def serveOnce (device : DigitalTwinProtocolDevice K) (request : Frame) :
    DigitalTwinProtocolDevice K × Except (DispatchError K) (Frame × DigitalTwinExchange) :=
  match device.twin.dispatch request with
  | .ok twin => respond { device with twin := twin } request .ack .ok
  | .error error =>
    if error.Caught then respond device request .nack .invalid else (device, .error error)

theorem twin_serveOnce_ok (device : DigitalTwinProtocolDevice K) (request : Frame)
    (twin : DigitalTwinRobot K) (h : device.twin.dispatch request = .ok twin) :
    (device.serveOnce request).1.twin = twin := by
  unfold serveOnce
  rw [h]
  rfl

theorem twin_serveOnce_error (device : DigitalTwinProtocolDevice K) (request : Frame)
    (error : DispatchError K) (h : device.twin.dispatch request = .error error) :
    (device.serveOnce request).1.twin = device.twin := by
  unfold serveOnce
  rw [h]
  dsimp only
  split_ifs <;> rfl

/-- Serving a frame leaves the twin, stops it, or gives it an accepted command. -/
theorem twin_serveOnce_cases (device : DigitalTwinProtocolDevice K) (request : Frame) :
    (device.serveOnce request).1.twin = device.twin ∨
    (device.serveOnce request).1.twin = device.twin.estop ∨
    device.twin.Obeys request := by
  cases hdispatch : device.twin.dispatch request with
  | error error => exact .inl (twin_serveOnce_error device request error hdispatch)
  | ok after =>
    rw [twin_serveOnce_ok device request after hdispatch]
    rcases (device.twin.dispatch_eq_ok_iff after request).mp hdispatch with
      ⟨_, _, hafter⟩ | ⟨htype, command, hcommand, haccept⟩ | ⟨_, _, hafter⟩
    · exact .inl hafter
    · have hadmits := ((device.twin.accept_eq_ok_iff after command).mp haccept).1
      exact .inr (.inr ⟨htype, command, hcommand, hadmits⟩)
    · exact .inr (.inl hafter)

theorem state_of_obeys (device : DigitalTwinProtocolDevice K) (request : Frame)
    (h : device.twin.Obeys request) : (device.serveOnce request).1.twin.state = .executing := by
  obtain ⟨htype, command, hcommand, hadmits⟩ := h
  have haccept := (device.twin.accept_eq_ok_iff _ command).mpr ⟨hadmits, rfl⟩
  have hdispatch := (device.twin.dispatch_eq_ok_iff _ request).mpr
    (.inr (.inl ⟨htype, command, hcommand, haccept⟩))
  rw [twin_serveOnce_ok device request _ hdispatch]
  rfl

/-- Stopped where the twin `frozen` stands. -/
structure StoppedAt (frozen twin : DigitalTwinRobot K) : Prop where
  state_eq : twin.state = .estop
  positions_eq : twin.positions = frozen.positions
  velocities_eq : ∀ name, twin.velocities name = 0

/-- Serving an E-stop frame stops the twin where it is if the payload decodes, and leaves
it as it was otherwise. -/
theorem stoppedAt_serveOnce_iff (device : DigitalTwinProtocolDevice K) (stop : Frame)
    (htype : stop.messageType = .estop) :
    StoppedAt (device.serveOnce stop).1.twin (device.serveOnce stop).1.twin ↔
      (∃ message, Codec.EmergencyStop.decode stop.payload = .ok message) ∨
      StoppedAt device.twin device.twin := by
  cases hdispatch : device.twin.dispatch stop with
  | ok after =>
    have hafter := (device.twin.dispatch_eq_ok_iff after stop).mp hdispatch
    simp only [htype, reduceCtorEq, false_and, false_or, true_and] at hafter
    rw [twin_serveOnce_ok device stop after hdispatch, hafter.2]
    exact iff_of_true ⟨rfl, rfl, fun _ => rfl⟩ (.inl hafter.1)
  | error error =>
    rw [twin_serveOnce_error device stop error hdispatch]
    constructor
    · exact .inr
    · rintro (hdecodes | h)
      · have hok := (device.twin.dispatch_eq_ok_iff device.twin.estop stop).mpr
          (.inr (.inr ⟨htype, hdecodes, rfl⟩))
        rw [hdispatch] at hok
        cases hok
      · exact h

end DigitalTwinProtocolDevice

inductive DeviceInput (K : Type)
  | serve (request : Frame)
  | step (dt : K)

namespace DigitalTwinProtocolDevice
variable {K : Type} [Field K] [LinearOrder K] [FloorRing K] [SquareRoot K]

/-- A frame arrives, or the plant's time goes on. -/
def handle (device : DigitalTwinProtocolDevice K) :
    DeviceInput K → DigitalTwinProtocolDevice K × Option Frame
  | .serve request =>
    ((device.serveOnce request).1, ((device.serveOnce request).2.toOption).map Prod.fst)
  | .step dt => ({ device with twin := (device.twin.call (.step dt)).1 }, none)

/-- What the next input does to a stop: nothing, but for an accepted motion command. -/
def KeepsStop (device : DigitalTwinProtocolDevice K) : DeviceInput K → Prop
  | .serve request => ¬ device.twin.Obeys request
  | .step _ => True

theorem stoppedAt_handle (frozen : DigitalTwinRobot K) (device : DigitalTwinProtocolDevice K)
    (input : DeviceInput K) (h : StoppedAt frozen device.twin) (hkeeps : device.KeepsStop input) :
    StoppedAt frozen (device.handle input).1.twin := by
  cases input with
  | serve request =>
    change StoppedAt frozen (device.serveOnce request).1.twin
    rcases twin_serveOnce_cases device request with hsame | hstop | hobeys
    · rwa [hsame]
    · rw [hstop]
      exact ⟨rfl, h.positions_eq, fun _ => rfl⟩
    · exact absurd hobeys hkeeps
  | step dt =>
    have hperforms := device.twin.performs_call (.step dt)
    change StoppedAt frozen (device.twin.call (.step dt)).1
    generalize (device.twin.call (.step dt)).1 = after at hperforms ⊢
    cases hperforms with
    | nothing => exact h
    | held _ hdt hstopped =>
      -- a stopped twin only holds: its clock and its currents change
      exact ⟨h.state_eq, h.positions_eq, h.velocities_eq⟩
    | moved _ hdt hrunning => exact absurd h.state_eq hrunning

/-- A served E-stop lasts exactly as long as no motion command is served that the stopped
twin accepts. -/
theorem estop_sticky_iff (device : DigitalTwinProtocolDevice K) (stop : Frame)
    (htype : stop.messageType = .estop) (inputs : List (DeviceInput K)) :
    (∀ later ∈ states handle (device.serveOnce stop).1 inputs,
      StoppedAt (device.serveOnce stop).1.twin later.twin) ↔
    ((∃ message, Codec.EmergencyStop.decode stop.payload = .ok message) ∨
        StoppedAt device.twin device.twin) ∧
      ∀ e ∈ trace handle (device.serveOnce stop).1 inputs, e.before.KeepsStop e.input := by
  rw [← stoppedAt_serveOnce_iff device stop htype]
  constructor
  · intro hall
    refine ⟨hall _ (List.mem_cons_self ..), ?_⟩
    intro e he
    have hafter := (hall _ (after_mem_states handle _ _ e he)).state_eq
    have hstep := congrArg (fun p => p.1.twin.state) (trace_step handle _ _ e he)
    cases hinput : e.input with
    | step dt => trivial
    | serve request =>
      -- a command that is obeyed would leave the twin executing
      intro hobeys
      have hexecuting := state_of_obeys e.before request hobeys
      rw [hinput] at hstep
      rw [show e.after.twin.state = .executing from hstep.symm.trans hexecuting] at hafter
      cases hafter
  · rintro ⟨hstart, hkeeps⟩
    exact states_guarded handle KeepsStop (stoppedAt_handle _) _ hstart inputs hkeeps

/-- A device before the reference arm, the host's E-stop, and a command for the base. -/
def referenceDevice : DigitalTwinProtocolDevice ℚ := ⟨.ofModel (referenceArm ℚ), 0⟩

/-- The payload of `DigitalTwinRobot.moveBase 3000 3000 8000`. -/
def baseCommandPayload : Bytes :=
  [0, 0, 0, 0, 0, 0, 0, 0, 0, 0, 0, 0, 0, 0, 0, 0, 0xFA, 0, 1, 1, 1, 0xB8, 0x0B, 0xB8, 0x0B,
    0x40, 0x1F]

theorem stopSequence_fits : 1 ≤ 0xFFFF := by decide
theorem nextSequence_fits : 2 ≤ 0xFFFF := by decide
theorem stopPayload_fits : [(1 : UInt8), 1].length ≤ maxPayloadSize := by decide
theorem heartbeatPayload_fits : [(1 : UInt8), 0, 0, 0, 0, 4].length ≤ maxPayloadSize := by decide
theorem baseCommandPayload_fits : baseCommandPayload.length ≤ maxPayloadSize := by decide

def manualStop : Frame := ⟨.estop, 1, [1, 1], stopSequence_fits, stopPayload_fits⟩

def idleHeartbeat : Frame :=
  ⟨.heartbeat, 2, [1, 0, 0, 0, 0, 4], nextSequence_fits, heartbeatPayload_fits⟩

def baseCommand : Frame :=
  ⟨.validatedMotionCommand, 2, baseCommandPayload, nextSequence_fits, baseCommandPayload_fits⟩

theorem decode_baseCommand : Codec.ValidatedMotionCommand.decode baseCommand.payload =
    .ok (DigitalTwinRobot.moveBase 3000 3000 8000) := by
  apply Codec.ValidatedMotionCommand.inverse.decode_encode
  rfl

theorem estop_sticky_while_idle :
    (referenceDevice.serveOnce manualStop).1.twin.state = .estop ∧
    ∀ later ∈ states handle (referenceDevice.serveOnce manualStop).1
        [.serve idleHeartbeat, .step (1/10)],
      StoppedAt (referenceDevice.serveOnce manualStop).1.twin later.twin := by
  refine ⟨rfl, ?_⟩
  apply (estop_sticky_iff referenceDevice manualStop rfl _).mpr
  refine ⟨.inl ⟨⟨.host, .manual⟩, rfl⟩, ?_⟩
  intro e he
  rcases List.mem_cons.mp he with rfl | he
  · intro hobeys
    cases hobeys.1
  · rw [List.mem_singleton.mp he]
    trivial

/-- The device is stopped and then served a valid command: it moves again. -/
theorem motion_command_ends_stop :
    ∃ later ∈ states handle (referenceDevice.serveOnce manualStop).1 [.serve baseCommand],
      ¬ StoppedAt (referenceDevice.serveOnce manualStop).1.twin later.twin := by
  refine ⟨_, run_mem_states handle _ _, ?_⟩
  intro h
  let stopped := (referenceDevice.serveOnce manualStop).1
  have hadmits : stopped.twin.Admits (DigitalTwinRobot.moveBase 3000 3000 8000) :=
    DigitalTwinRobot.admits_moveBase _ rfl ((referenceArm ℚ).withinLimits_home) _ _ _ (by decide)
      (by decide)
  have hstate := state_of_obeys stopped baseCommand ⟨rfl, _, decode_baseCommand, hadmits⟩
  have := hstate.symm.trans h.state_eq
  cases this

end DigitalTwinProtocolDevice
end RoboticCharacter
