import RoboticCharacter.SimulationDevice
import RoboticCharacter.GatewayCore
import RoboticCharacter.SafetyLatch

/-! The simulation runtime: concurrent calls of `execute_behavior`, `estop` and
`reset_estop` over one execution lock, one gateway and one device, as they interleave at
their await points. -/
namespace RoboticCharacter.Simulation
open Safety Gateway PythonMath Machine

inductive MotionCue
  | none
  | listen
  | acknowledge
  | present
  | caution
  | celebrate
  | think
  deriving DecidableEq, Repr

def MotionCue.value : MotionCue → String
  | none => "none"
  | listen => "listen"
  | acknowledge => "acknowledge"
  | present => "present"
  | caution => "caution"
  | celebrate => "celebrate"
  | think => "think"

inductive MotionStyle
  | restrained
  | standard
  | expressive
  deriving DecidableEq, Repr

def MotionStyle.value : MotionStyle → String
  | restrained => "restrained"
  | standard => "standard"
  | expressive => "expressive"

structure BehaviorIntent where
  cue : MotionCue
  style : MotionStyle
  deriving DecidableEq, Repr

/-- What the controller plans for an intent, as far as the safety inputs read it. -/
structure PlannedMotion (K : Type) where
  targetPose : CartesianPoint K
  targetJointsDeg : JointName → K
  terminalVelocitiesDegS : JointName → K
  terminalAccelerationsDegS2 : JointName → K

inductive RuntimeFailure
  | simulation (message : String)
  | value (message : String)
  | gateway (failure : GatewayFailure)
  | device (message : String)
  deriving DecidableEq, Repr

structure SimulationExecutionReport (K : Type) where
  cue : String
  style : String
  safetyDecision : MotionDecision
  authorizationId : Uuid
  heartbeatAck : AckStatus
  motionAck : AckStatus
  simulationSteps : ℕ
  simulatedDurationS : K
  telemetry : RobotTelemetry

structure SimulationDiagnostics where
  connected : Bool
  systemState : WireSystemState
  estopLatched : Bool
  heartbeatHealthy : Bool
  lastAcknowledgedSequence : Option ℕ
  sentCount : ℕ
  acknowledgedCount : ℕ
  rejectedCount : ℕ
  deriving DecidableEq, Repr

inductive CallKind
  | estop
  | execute (intent : BehaviorIntent)
  deriving DecidableEq, Repr

structure RuntimeCall where
  id : ℕ
  kind : CallKind
  deriving DecidableEq, Repr

/-- What a request of the call that holds the lock is for, with what the call keeps of the
requests before it. -/
inductive Errand (K : Type)
  | estop
  | heartbeat (intent : BehaviorIntent) (decision : MotionDecision)
      (authorization : MotionAuthorization K)
  | motion (intent : BehaviorIntent) (decision : MotionDecision)
      (authorization : MotionAuthorization K) (heartbeatReceipt : GatewayReceipt)

def Errand.authorizationId {K : Type} : Errand K → Option Uuid
  | motion _ _ authorization _ => some authorization.authorizationId
  | _ => none

/-- Where `_request_with_device` waits: for the write, the answer, or the device task. -/
inductive RuntimePhase
  | writing
  | awaitingAnswer
  | awaitingDevice (receipt : GatewayReceipt)
  deriving DecidableEq

structure ActiveCall (K : Type) where
  id : ℕ
  errand : Errand K
  request : Frame
  phase : RuntimePhase

/-- The task of `serve_once` that goes with a request. -/
inductive DeviceTask
  | absent
  | receiving
  | answered
  | done
  | failed (message : String)
  deriving DecidableEq, Repr

/-- What the planners give for an intent, and the payload the gateway makes of an
authorization. -/
structure Surroundings (K : Type) where
  plan : BehaviorIntent → (JointName → K) → Except String (PlannedMotion K)
  authorizationPayload : RobotGateway → MotionAuthorization K → Except GatewayFailure Bytes

/-- `toDevice` and `toHost` are the frames on the link. -/
structure SimulationRuntime (K : Type) [Field K] [LinearOrder K] where
  stepS : K
  device : DigitalTwinProtocolDevice K
  supervisor : MotionSafetySupervisor K
  gateway : RobotGateway
  started : Bool
  toDevice : List Frame
  toHost : List Frame
  deviceTask : DeviceTask
  waiting : List RuntimeCall
  active : Option (ActiveCall K)
  nextId : ℕ
  stepS_pos : 0 < stepS

/-- What happens to the request under way. -/
inductive RequestEvent
  | written
  | writeFails (error : String)
  /-- The gateway reads the next frame from the device. -/
  | receive
  | receiveFails (error : String)
  | deviceReturns
  | deviceFails (error : String)

inductive RuntimeInput
  | call (kind : CallKind)
  /-- The first waiting call gets the lock; `uuid` is what `uuid4()` gives it. -/
  | grant (uuid : Uuid)
  | request (event : RequestEvent)
  /-- The device task takes the next frame from the host. -/
  | serve
  /-- A frame from or to the host gets lost. -/
  | loseRequest
  | loseResponse
  | resetEstop
  | readDiagnostics

inductive RuntimeOutput (K : Type)
  | none
  | estopDone (id : ℕ) (result : Except RuntimeFailure GatewayReceipt)
  | executeDone (id : ℕ) (result : Except RuntimeFailure (SimulationExecutionReport K))
  | resetDone (cleared : Bool)
  | diagnostics (diagnostics : SimulationDiagnostics)

/-- The output of a call that raises. -/
def Errand.raised {K : Type} (errand : Errand K) (id : ℕ) (failure : RuntimeFailure) :
    RuntimeOutput K :=
  match errand with
  | .estop => .estopDone id (.error failure)
  | _ => .executeDone id (.error failure)

section JointDict
variable {K β : Type} [Zero K] [LinearOrder K]

def jointEntries (m : RobotModel K) (value : JointName → β) : List (Sigma fun _ : String => β) :=
  m.jointNames.map (fun name => ⟨name.name, value name⟩)

theorem jointEntries_nodupKeys (m : RobotModel K) (value : JointName → β) :
    (jointEntries m value).NodupKeys := by
  unfold List.NodupKeys List.keys jointEntries
  rw [List.map_map]
  exact m.profile.order_nodup.map (fun a b h => JointName.name_injective a b h)

/-- The mapping `{name: value(name) for name in joint_names}`. -/
def jointDict (m : RobotModel K) (value : JointName → β) : Dict β :=
  ⟨jointEntries m value, jointEntries_nodupKeys m value⟩

end JointDict

section New
variable {K : Type} [Field K] [LinearOrder K]

def jointIds (m : RobotModel K) : Dict ℤ :=
  jointDict m (fun name => ((m.joint name).protocolId : ℤ))

theorem jointIds_range (m : RobotModel K) : ∀ e ∈ (jointIds m).entries, 1 ≤ e.2 ∧ e.2 ≤ 0xFF := by
  intro e he
  obtain ⟨name, _, rfl⟩ := List.mem_map.mp he
  have hge := (m.joint name).protocolId_ge
  have hle := (m.joint name).protocolId_le
  change (1 : ℤ) ≤ ((m.joint name).protocolId : ℤ) ∧ ((m.joint name).protocolId : ℤ) ≤ 0xFF
  omega

theorem jointIds_unique (m : RobotModel K) :
    ((jointIds m).entries.map (fun e => e.2)).Nodup := by
  change ((m.jointNames.map _).map _).Nodup
  rw [List.map_map]
  exact m.profile.order_nodup.map (fun a b h => m.profile.ids_unique a b (Int.natCast_inj.mp h))

theorem firstSequence_fits : 0 ≤ 0xFFFF := by decide

def gatewayOf (m : RobotModel K) : RobotGateway where
  jointProtocolIds := jointIds m
  sequence := 0
  ids_range := jointIds_range m
  ids_unique := jointIds_unique m
  sequence_fits := firstSequence_fits

/-- A new runtime over the supervisor built for its model; the link is not up yet. -/
def SimulationRuntime.fresh (model : RobotModel K) (supervisor : MotionSafetySupervisor K)
    (stepS : K) (h : 0 < stepS) : SimulationRuntime K where
  stepS := stepS
  device := ⟨.ofModel model, 0⟩
  supervisor := supervisor
  gateway := gatewayOf model
  started := false
  toDevice := []
  toHost := []
  deviceTask := .absent
  waiting := []
  active := none
  nextId := 0
  stepS_pos := h

def SimulationRuntime.new (model : RobotModel K) (supervisor : MotionSafetySupervisor K)
    (stepS : K) : Except String (SimulationRuntime K) :=
  if h : 0 < stepS then .ok (fresh model supervisor stepS h)
  else .error "simulation step must be positive"

end New

namespace SimulationRuntime
variable {K : Type} [Field K] [LinearOrder K]

def twin (r : SimulationRuntime K) : DigitalTwinRobot K := r.device.twin

def setTwin (r : SimulationRuntime K) (twin : DigitalTwinRobot K) : SimulationRuntime K :=
  { r with device := { r.device with twin := twin } }

def diagnostics (r : SimulationRuntime K) : SimulationDiagnostics where
  connected := r.started
  systemState := r.twin.state
  estopLatched := r.supervisor.lifecycleSnapshot.estopLatched
  heartbeatHealthy := r.supervisor.lifecycleSnapshot.watchdogHealthy
  lastAcknowledgedSequence := r.gateway.lastAcknowledgedSequence
  sentCount := r.gateway.sentCount
  acknowledgedCount := r.gateway.acknowledgedCount
  rejectedCount := r.gateway.rejectedCount

/-- The gateway's send method of an errand, up to the write. -/
def send (env : Surroundings K) (r : SimulationRuntime K) :
    Errand K → RobotGateway × Except GatewayFailure Frame
  | .estop => r.gateway.sendEstop r.started .manual
  | .heartbeat _ _ _ => r.gateway.sendHeartbeat r.started r.twin.uptimeMs .armed
  | .motion _ _ authorization _ =>
    r.gateway.startRequest r.started .validatedMotionCommand
      (env.authorizationPayload r.gateway authorization)

/-- The call gives up the lock; a device task that is not done is cancelled. -/
def release (r : SimulationRuntime K) : SimulationRuntime K :=
  { r with active := none, deviceTask := .absent }

/-- The start of `_request_with_device`: the device task and the request. -/
def startErrand (env : Surroundings K) (r : SimulationRuntime K) (id : ℕ) (errand : Errand K) :
    SimulationRuntime K × RuntimeOutput K :=
  match r.send env errand with
  | (gateway, .error failure) =>
    ({ r with gateway := gateway }.release, errand.raised id (.gateway failure))
  | (gateway, .ok frame) =>
    ({ r with
      gateway := gateway
      active := some ⟨id, errand, frame, .writing⟩
      deviceTask := .receiving }, .none)

/-- `terminal_safety_inputs`, with the arguments the runtime gives it. -/
def safetyInputs (r : SimulationRuntime K) (planned : PlannedMotion K) :
    MotionCandidate K × MotionDynamics K :=
  ({ systemState := .armed
     estopActive := false
     jointTargetsDeg := jointDict r.twin.model (fun name => .finite (planned.targetJointsDeg name))
     workspacePointMm := some planned.targetPose },
   { commandAgeMs := .finite 0
     heartbeatAgeMs := .finite 10.0
     jointVelocitiesDegS :=
      jointDict r.twin.model (fun name => .finite (planned.terminalVelocitiesDegS name))
     jointAccelerationsDegS2 :=
      jointDict r.twin.model (fun name => .finite (planned.terminalAccelerationsDegS2 name)) })

def rejection (intent : BehaviorIntent) (violations : List SafetyViolation) : RuntimeFailure :=
  let details := ", ".intercalate (violations.map (fun violation => violation.code.value))
  .simulation s!"simulation safety rejected behavior {intent.cue.value}: {details}"

section Execute
variable [ToString K]

/-- `execute_behavior` from the lock to its first request. -/
def beginExecute (env : Surroundings K) (r : SimulationRuntime K) (id : ℕ)
    (intent : BehaviorIntent) (uuid : Uuid) : SimulationRuntime K × RuntimeOutput K :=
  match env.plan intent r.twin.positions with
  | .error message => (r, .executeDone id (.error (.value message)))
  | .ok planned =>
    let (candidate, dynamics) := r.safetyInputs planned
    let (supervisor, safety) := r.supervisor.evaluate candidate dynamics uuid
    let r := { r with supervisor := supervisor }
    match safety.approved, safety.authorization with
    | true, some authorization =>
      r.startErrand env id (.heartbeat intent safety.decision authorization)
    | _, _ => (r, .executeDone id (.error (rejection intent safety.violations)))

/-- A call takes the lock, and the link is up before it goes on. -/
def granted (r : SimulationRuntime K) (rest : List RuntimeCall) : SimulationRuntime K :=
  { r with waiting := rest, started := true }

/-- The first waiting call gets the lock and goes on to its first request. -/
def grant (env : Surroundings K) (r : SimulationRuntime K) (uuid : Uuid) :
    SimulationRuntime K × RuntimeOutput K :=
  match r.active, r.waiting with
  | none, call :: rest =>
    match call.kind with
    | .estop => (r.granted rest).startErrand env call.id .estop
    | .execute intent => (r.granted rest).beginExecute env call.id intent uuid
  | _, _ => (r, .none)

theorem grant_cases (env : Surroundings K) (r : SimulationRuntime K) (uuid : Uuid) :
    r.grant env uuid = (r, .none) ∨ ∃ call rest, r.active = none ∧ r.waiting = call :: rest ∧
      (call.kind = .estop ∧
          r.grant env uuid = (r.granted rest).startErrand env call.id .estop ∨
        ∃ intent, call.kind = .execute intent ∧
          r.grant env uuid = (r.granted rest).beginExecute env call.id intent uuid) := by
  unfold grant
  cases hactive : r.active with
  | some a => exact .inl rfl
  | none =>
    cases hwaiting : r.waiting with
    | nil => exact .inl rfl
    | cons call rest =>
      refine .inr ⟨call, rest, rfl, rfl, ?_⟩
      cases hkind : call.kind with
      | estop => exact .inl ⟨rfl, by simp only [hkind]⟩
      | execute intent => exact .inr ⟨intent, rfl, by simp only [hkind]⟩

/-- `reset_estop`: no lock, and no await. -/
def resetEstop (r : SimulationRuntime K) : SimulationRuntime K × RuntimeOutput K :=
  if r.twin.state ≠ .estop then (r, .resetDone true)
  else
    let r := r.setTwin r.twin.resetEstop
    let observed := r.supervisor.perform (.observeHeartbeatAge (.finite 0))
    ({ r with supervisor := observed.perform .requestManualReset },
      .resetDone observed.lifecycle.requestManualReset.2.cleared)

end Execute

/-- What one event makes of the request under way, and what `_request_with_device` gives the
call if it ends here. -/
def requestStep (r : SimulationRuntime K) (a : ActiveCall K) :
    RequestEvent → SimulationRuntime K × Option (Except RuntimeFailure GatewayReceipt)
  | .written =>
    if a.phase = .writing then
      ({ r with
        gateway := r.gateway.countSent
        toDevice := r.toDevice ++ [a.request]
        active := some { a with phase := .awaitingAnswer } }, none)
    else (r, none)
  | .writeFails error =>
    if a.phase = .writing then
      (r, some (.error (.gateway (.gateway
        s!"robot send failed for sequence {a.request.sequence}: {error}"))))
    else (r, none)
  | .receive =>
    match a.phase, r.toHost with
    | .awaitingAnswer, response :: rest =>
      match r.gateway.finishRequest a.request.sequence a.request.messageType
          a.errand.authorizationId response with
      | (gateway, .error failure) =>
        ({ r with gateway := gateway, toHost := rest }, some (.error (.gateway failure)))
      | (gateway, .ok receipt) =>
        -- `_request_with_device` awaits the device task after it has the receipt
        match r.deviceTask with
        | .done => ({ r with gateway := gateway, toHost := rest }, some (.ok receipt))
        | .failed error =>
          ({ r with gateway := gateway, toHost := rest }, some (.error (.device error)))
        | _ =>
          ({ r with
            gateway := gateway
            toHost := rest
            active := some { a with phase := .awaitingDevice receipt } }, none)
    | _, _ => (r, none)
  | .receiveFails error =>
    if a.phase = .awaitingAnswer then
      (r, some (.error (.gateway (.gateway
        s!"robot acknowledgement failed for sequence {a.request.sequence}: {error}"))))
    else (r, none)
  | .deviceReturns =>
    if r.deviceTask = .answered then
      match a.phase with
      | .awaitingDevice receipt => ({ r with deviceTask := .done }, some (.ok receipt))
      | _ => ({ r with deviceTask := .done }, none)
    else (r, none)
  | .deviceFails error =>
    if r.deviceTask = .receiving ∨ r.deviceTask = .answered then
      match a.phase with
      | .awaitingDevice _ => ({ r with deviceTask := .failed error }, some (.error (.device error)))
      | _ => ({ r with deviceTask := .failed error }, none)
    else (r, none)

/-- The device task serves the next frame from the host. -/
def serve (r : SimulationRuntime K) : SimulationRuntime K :=
  match r.deviceTask, r.toDevice with
  | .receiving, request :: rest =>
    match r.device.serveOnce request with
    | (device, .ok (response, _)) =>
      { r with
        device := device
        toDevice := rest
        toHost := r.toHost ++ [response]
        deviceTask := .answered }
    | (device, .error _) =>
      { r with device := device, toDevice := rest, deviceTask := .failed "device task raised" }
  | _, _ => r

section Settle
variable [FloorRing K] [SquareRoot K]

def maxSteps : ℕ := 5000

/-- The settling loop: at most `budget` further steps. -/
def settle (stepS : K) : ℕ → DigitalTwinRobot K → ℕ → DigitalTwinRobot K × ℕ
  | 0, twin, steps => (twin, steps)
  | budget+1, twin, steps =>
    if twin.state = .idle then (twin, steps)
    else settle stepS budget (twin.call (.step stepS)).1 (steps+1)

/-- `execute_behavior` after its motion receipt. -/
def finishExecute (r : SimulationRuntime K) (id : ℕ) (intent : BehaviorIntent)
    (decision : MotionDecision) (authorization : MotionAuthorization K)
    (heartbeatReceipt motionReceipt : GatewayReceipt) :
    SimulationRuntime K × RuntimeOutput K :=
  let (twin, steps) := settle r.stepS maxSteps r.twin 0
  let r := r.setTwin twin
  if twin.state ≠ .idle then
    (r, .executeDone id (.error (.simulation
      "digital twin failed to settle within simulation budget")))
  else
    (r, .executeDone id (.ok
      { cue := intent.cue.value
        style := intent.style.value
        safetyDecision := decision
        authorizationId := authorization.authorizationId
        heartbeatAck := heartbeatReceipt.ackStatus
        motionAck := motionReceipt.ackStatus
        simulationSteps := steps
        simulatedDurationS := (roundHalfEven ((steps : K)*r.stepS*1e6) : K)/1e6
        telemetry := twin.telemetry 0 }))

variable [ToString K]

/-- The call goes on with the receipt of its request. -/
def resume (env : Surroundings K) (r : SimulationRuntime K) (a : ActiveCall K)
    (receipt : GatewayReceipt) : SimulationRuntime K × RuntimeOutput K :=
  match a.errand with
  | .estop =>
    ({ r.release with
      supervisor := r.supervisor.perform (.triggerSoftwareEstop "simulation API E-stop") },
      .estopDone a.id (.ok receipt))
  | .heartbeat intent decision authorization =>
    r.startErrand env a.id (.motion intent decision authorization receipt)
  | .motion intent decision authorization heartbeatReceipt =>
    r.release.finishExecute a.id intent decision authorization heartbeatReceipt receipt

def step (env : Surroundings K) (r : SimulationRuntime K) :
    RuntimeInput → SimulationRuntime K × RuntimeOutput K
  | .call kind =>
    ({ r with waiting := r.waiting ++ [⟨r.nextId, kind⟩], nextId := r.nextId+1 }, .none)
  | .grant uuid => r.grant env uuid
  | .request event =>
    match r.active with
    | none => (r, .none)
    | some a =>
      match r.requestStep a event with
      | (after, none) => (after, .none)
      | (after, some (.ok receipt)) => after.resume env a receipt
      | (after, some (.error failure)) => (after.release, a.errand.raised a.id failure)
  | .serve => (r.serve, .none)
  | .loseRequest => ({ r with toDevice := r.toDevice.tail }, .none)
  | .loseResponse => ({ r with toHost := r.toHost.tail }, .none)
  | .resetEstop => r.resetEstop
  | .readDiagnostics =>
    ({ r with started := true }, .diagnostics { r with started := true }.diagnostics)

end Settle
end SimulationRuntime
end RoboticCharacter.Simulation
