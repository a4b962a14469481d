import RoboticCharacter.FirmwareFrame
import RoboticCharacter.Machine

/-! The robot MCU's runtime: frame dispatch, watchdog, E-stop latch and replay memory. -/
namespace RoboticCharacter.Firmware

def kDefaultHeartbeatTimeoutMs : UInt32 := 500
def kPositionMotionMode : UInt8 := 0x01
def kMaxJointTargets : ℕ := 8
def kMotionCommandIdSize : ℕ := 16
def kMotionFixedPayloadSize : ℕ := 16+4+4
def kJointTargetPayloadSize : ℕ := 3

inductive RuntimeState
  | kSafe
  | kReady
  | kEstop
  deriving DecidableEq, Repr

inductive DispatchResult
  | kRejectedInvalidFrame
  | kHeartbeatAccepted
  | kEstopLatched
  | kMotionDeferred
  | kMotionRejectedUnsafe
  | kMessageIgnored
  | kMotionRejectedInvalidPayload
  | kRejectedReplay
  deriving DecidableEq, Repr

/-- The joint-id loop of `ValidateMotionPayload`; `seen` lists the ids already marked. -/
def jointIdsValid (payload : Bytes) : ℕ → ℕ → List UInt8 → Bool
  | 0, _, _ => true
  | remaining+1, offset, seen =>
    let jointId := byteAt payload offset
    if jointId = 0 ∨ jointId ∈ seen then false
    else jointIdsValid payload remaining (offset+kJointTargetPayloadSize) (jointId :: seen)

def validateMotionPayload (payload : Bytes) (payloadLength : UInt16) : Bool :=
  if payloadLength.toNat < kMotionFixedPayloadSize+kJointTargetPayloadSize then false
  else
    let ttlMs := readU16Le payload 16
    let mode := byteAt payload 18
    let jointCount := byteAt payload 19
    if ttlMs = 0 ∨ mode ≠ kPositionMotionMode ∨ jointCount = 0 ∨
        jointCount.toNat > kMaxJointTargets then false
    else
      let expectedSize := kMotionFixedPayloadSize+jointCount.toNat*kJointTargetPayloadSize
      if payloadLength.toNat ≠ expectedSize then false
      else if jointIdsValid payload jointCount.toNat 20 [] then
        let offset := 20+jointCount.toNat*kJointTargetPayloadSize
        let maxVelocity := readU16Le payload offset
        let maxAcceleration := readU16Le payload (offset+2)
        decide (maxVelocity > 0) && decide (maxAcceleration > 0)
      else false

def sequenceIsFresh (candidate previous : UInt16) : Bool :=
  let delta := candidate-previous
  decide (delta ≠ 0) && decide (delta < 0x8000)

structure RobotRuntime where
  heartbeatTimeoutMs : UInt32
  state : RuntimeState := .kSafe
  physicalEstopActive : Bool := false
  heartbeatSeen : Bool := false
  heartbeatHealthy : Bool := false
  sequenceSeen : Bool := false
  motionCommandSeen : Bool := false
  lastSequence : UInt16 := 0
  lastMotionCommandId : Bytes := List.replicate kMotionCommandIdSize 0
  lastHeartbeatMs : UInt32 := 0
  deriving DecidableEq, Repr

def motionCommandId (payload : Bytes) : Bytes := payload.take kMotionCommandIdSize

namespace RobotRuntime

def new (heartbeatTimeoutMs : UInt32) : RobotRuntime := { heartbeatTimeoutMs }

def observePhysicalEstop (rt : RobotRuntime) (active : Bool) : RobotRuntime :=
  if active then { rt with physicalEstopActive := active, state := .kEstop }
  else { rt with physicalEstopActive := active }

/-- The heartbeat age on the wrapping millisecond clock. -/
def heartbeatAge (rt : RobotRuntime) (nowMs : UInt32) : UInt32 := nowMs-rt.lastHeartbeatMs

def tick (rt : RobotRuntime) (nowMs : UInt32) : RobotRuntime :=
  if rt.heartbeatSeen = false then
    if rt.state = .kReady then { rt with heartbeatHealthy := false, state := .kSafe }
    else { rt with heartbeatHealthy := false }
  else
    let healthy := decide (rt.heartbeatAge nowMs ≤ rt.heartbeatTimeoutMs)
    if healthy = false ∧ rt.state ≠ .kEstop then
      { rt with heartbeatHealthy := healthy, state := .kSafe }
    else { rt with heartbeatHealthy := healthy }

def motionCommandWasAccepted (rt : RobotRuntime) (payload : Bytes) : Bool :=
  rt.motionCommandSeen && decide (rt.lastMotionCommandId = motionCommandId payload)

def rememberMotionCommand (rt : RobotRuntime) (payload : Bytes) : RobotRuntime :=
  { rt with lastMotionCommandId := motionCommandId payload, motionCommandSeen := true }

def acceptHeartbeat (rt : RobotRuntime) (nowMs : UInt32) : RobotRuntime :=
  let beaten :=
    { rt with lastHeartbeatMs := nowMs, heartbeatSeen := true, heartbeatHealthy := true }
  if rt.state = .kSafe ∧ rt.physicalEstopActive = false then { beaten with state := .kReady }
  else beaten

def dispatchMotion (rt : RobotRuntime) (frame : ParsedFrame) (nowMs : UInt32) :
    RobotRuntime × DispatchResult :=
  if validateMotionPayload frame.payload frame.payloadLength = false then
    (rt, .kMotionRejectedInvalidPayload)
  else
    let ticked := rt.tick nowMs
    if ticked.state ≠ .kReady ∨ ticked.heartbeatHealthy = false ∨ ticked.physicalEstopActive then
      (ticked, .kMotionRejectedUnsafe)
    else if ticked.motionCommandWasAccepted frame.payload then (ticked, .kRejectedReplay)
    else (ticked.rememberMotionCommand frame.payload, .kMotionDeferred)

/-- The switch on the frame type. -/
def dispatch (rt : RobotRuntime) (frame : ParsedFrame) (nowMs : UInt32) :
    RobotRuntime × DispatchResult :=
  match frame.type with
  | .heartbeat => (rt.acceptHeartbeat nowMs, .kHeartbeatAccepted)
  | .estop => ({ rt with state := .kEstop }, .kEstopLatched)
  | .validatedMotionCommand => rt.dispatchMotion frame nowMs
  | _ => (rt, .kMessageIgnored)

def refusesSequence (rt : RobotRuntime) (frame : ParsedFrame) : Bool :=
  rt.sequenceSeen && !sequenceIsFresh frame.sequence rt.lastSequence

def acceptSequence (rt : RobotRuntime) (frame : ParsedFrame) : RobotRuntime :=
  { rt with sequenceSeen := true, lastSequence := frame.sequence }

def handleFrame (rt : RobotRuntime) (data : Bytes) (nowMs : UInt32) :
    RobotRuntime × DispatchResult :=
  match parseFrame data with
  | none => (rt, .kRejectedInvalidFrame)
  | some frame =>
    if rt.refusesSequence frame then (rt, .kRejectedReplay)
    else (rt.acceptSequence frame).dispatch frame nowMs

def manualReset (rt : RobotRuntime) (nowMs : UInt32) : RobotRuntime × Bool :=
  let ticked := rt.tick nowMs
  if ticked.physicalEstopActive ∨ ticked.heartbeatHealthy = false then (ticked, false)
  else ({ ticked with state := .kReady }, true)

end RobotRuntime

inductive Operation
  | handleFrame (data : Bytes) (nowMs : UInt32)
  | tick (nowMs : UInt32)
  | observePhysicalEstop (active : Bool)
  | manualReset (nowMs : UInt32)

inductive Outcome
  | dispatched (result : DispatchResult)
  | reset (cleared : Bool)
  | done
  deriving DecidableEq, Repr

def step (rt : RobotRuntime) : Operation → RobotRuntime × Outcome
  | .handleFrame data nowMs =>
    let handled := rt.handleFrame data nowMs
    (handled.1, .dispatched handled.2)
  | .tick nowMs => (rt.tick nowMs, .done)
  | .observePhysicalEstop active => (rt.observePhysicalEstop active, .done)
  | .manualReset nowMs =>
    let reset := rt.manualReset nowMs
    (reset.1, .reset reset.2)

def run (heartbeatTimeoutMs : UInt32) (ops : List Operation) : RobotRuntime :=
  Machine.run step (.new heartbeatTimeoutMs) ops

/-- A frame as the firmware contract test builds it. -/
def contractFrame (type : MessageType) (sequence : UInt16) (payload : Bytes) : Bytes :=
  buildFrame type sequence (some payload) (UInt16.ofNat payload.length) 64

/-- The contract test's one-joint motion payload, marked in the first UUID byte. -/
def contractMotionPayload (commandMarker : UInt8) : Bytes :=
  (commandMarker :: List.replicate 15 0) ++
    (writeU16Le 250 ++ ([1, 1, 1] ++ (writeU16Le 0 ++ (writeU16Le 6000 ++ writeU16Le 18000))))

end RoboticCharacter.Firmware
