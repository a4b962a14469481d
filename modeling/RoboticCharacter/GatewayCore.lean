import RoboticCharacter.ProtocolMotion
import RoboticCharacter.ProtocolTransport
import RoboticCharacter.SafetySupervisor
import RoboticCharacter.PythonDecimal
import Mathlib.Data.List.Sort

/-! The robot gateway of the host: the requests it starts, the wire form it gives an
authorization, and the answers it accepts. -/
namespace RoboticCharacter.Gateway
open Safety Fallible

/-- What a gateway call raises: the three gateway errors, or a codec's own error. -/
inductive GatewayFailure
  | gateway (message : String)
  | rejected (message : String)
  | protocol (message : String)
  | codec (error : ProtocolError)
  deriving DecidableEq, Repr

def errorText : ProtocolError → String
  | .protocol message => message
  | .checksum message => message

structure GatewayReceipt where
  frameSequence : ℕ
  messageType : MessageType
  ackStatus : AckStatus
  authorizationId : Option Uuid
  deriving DecidableEq

/-- The mutable fields and the joint map, with what the constructor checked. -/
structure RobotGateway where
  jointProtocolIds : Dict ℤ
  sequence : ℕ
  sentCount : ℕ := 0
  acknowledgedCount : ℕ := 0
  rejectedCount : ℕ := 0
  lastAcknowledgedSequence : Option ℕ := none
  ids_range : ∀ e ∈ jointProtocolIds.entries, 1 ≤ e.2 ∧ e.2 ≤ 0xFF
  ids_unique : (jointProtocolIds.entries.map (fun e => e.2)).Nodup
  sequence_fits : sequence ≤ 0xFFFF

/-- A finite double, by its shortest decimal form. -/
structure FloatRepr where
  decimal : PythonDecimal
  coefficient_lt : decimal.coefficient < 10^17

/-- `Decimal(str(value))`, as a number. -/
def FloatRepr.toRat (v : FloatRepr) : ℚ := v.decimal.toRat

def contextPrecision : ℕ := 28

def exactProtocolInteger (name : String) (value : ExtendedNumber FloatRepr) (scale : ℕ)
    (minimum maximum : ℤ) : Except GatewayFailure ℤ :=
  match value with
  | .finite v =>
    let scaled := v.decimal.mulNat contextPrecision scale
    let integral := scaled.toIntegralValue
    if scaled.toRat ≠ integral.toRat then
      .error (.protocol s!"{name} is not exactly representable at protocol scale {scale}")
    else
      let result := integral.toInt
      if ¬ (minimum ≤ result ∧ result ≤ maximum) then
        .error (.protocol s!"{name} encoded value must be in [{minimum}, {maximum}]")
      else .ok result
  | _ => .error (.protocol s!"{name} must be finite")

namespace RobotGateway

/-- The constructor; an acknowledgement timeout of NaN passes its check. -/
def new (jointProtocolIds : Dict ℤ) (ackTimeoutS : ExtendedNumber ℚ) (initialSequence : ℤ) :
    Except String RobotGateway :=
  if ackTimeoutS.le (.finite 0) = true then .error "ack_timeout_s must be positive"
  else if hs : 0 ≤ initialSequence ∧ initialSequence ≤ 0xFFFF then
    if jointProtocolIds.entries = [] then .error "joint_protocol_ids must not be empty"
    else if hr : ∀ e ∈ jointProtocolIds.entries, 1 ≤ e.2 ∧ e.2 ≤ 0xFF then
      if hu : (jointProtocolIds.entries.map (fun e => e.2)).Nodup then
        .ok
          { jointProtocolIds
            sequence := initialSequence.toNat
            ids_range := hr
            ids_unique := hu
            sequence_fits := by omega }
      else .error "joint protocol ids must be unique"
    else .error "joint protocol ids must be in [1, 255]"
  else .error "initial_sequence must fit uint16"

/-- `_next_sequence`: the number handed out is the one held before. -/
def nextSequence (g : RobotGateway) : RobotGateway :=
  { g with sequence := (g.sequence+1)%65536, sequence_fits := by omega }

def encodeTargets (ids : Dict ℤ) :
    List (Sigma fun _ : String => ExtendedNumber FloatRepr) →
      Except GatewayFailure (List JointTarget)
  | [] => .ok []
  | ⟨name, angleDeg⟩ :: rest =>
    match ids.lookup name with
    | none => .error (.protocol
        s!"authorization references unmapped joint {PythonText.repr name}")
    | some protocolId => do
      let targetCdeg ← exactProtocolInteger s!"joint {PythonText.repr name} target" angleDeg 100
        (-32768) 32767
      let targets ← encodeTargets ids rest
      return ⟨protocolId, targetCdeg⟩ :: targets

/-- `targets.sort(key=joint_id)`. -/
def sortTargets (targets : List JointTarget) : List JointTarget :=
  targets.insertionSort (fun s t => s.jointId ≤ t.jointId)

def encodeAuthorization (g : RobotGateway) (authorization : MotionAuthorization FloatRepr) :
    Except GatewayFailure ValidatedMotionCommand := do
  let targets ← encodeTargets g.jointProtocolIds authorization.jointTargetsDeg.entries
  let ttlMs ← exactProtocolInteger "command_ttl_ms" authorization.commandTtlMs 1 1 0xFFFF
  let maxVelocity ← exactProtocolInteger "max_velocity_deg_s" authorization.maxVelocityDegS 100
    1 0xFFFF
  let maxAcceleration ← exactProtocolInteger "max_acceleration_deg_s2"
    authorization.maxAccelerationDegS2 100 1 0xFFFF
  return {
    commandId := authorization.authorizationId
    ttlMs
    mode := .position
    targets := sortTargets targets
    maxVelocityCdegS := maxVelocity
    maxAccelerationCdegS2 := maxAcceleration }

/-- The part of `_request` up to `send_frame`: the gateway after it, and the frame sent. -/
def startRequest (g : RobotGateway) (isOpen : Bool) (messageType : MessageType)
    (payload : Except GatewayFailure Bytes) : RobotGateway × Except GatewayFailure Frame :=
  match payload with
  | .error e => (g, .error e)
  | .ok bytes =>
    if isOpen = false then (g, .error (.gateway "robot transport is not open"))
    else
      match Frame.new messageType g.sequence bytes with
      | .error e =>
        (g.nextSequence,
          .error (.gateway s!"robot send failed for sequence {g.sequence}: {errorText e}"))
      | .ok frame => (g.nextSequence, .ok frame)

/-- A request whose payload fits a frame is sent under the gateway's sequence number. -/
theorem startRequest_fits (g : RobotGateway) (messageType : MessageType) (payload : Bytes)
    (hfits : payload.length ≤ maxPayloadSize) :
    g.startRequest true messageType (.ok payload) =
      (g.nextSequence, .ok ⟨messageType, g.sequence, payload, g.sequence_fits, hfits⟩) := by
  let frame : Frame := ⟨messageType, g.sequence, payload, g.sequence_fits, hfits⟩
  have hnew : Frame.new messageType g.sequence payload = .ok frame := frame.new_self
  simp only [startRequest, hnew, Bool.true_eq_false, ↓reduceIte, frame]

/-- On an open transport a request takes the gateway's sequence number, sent or not. -/
theorem startRequest_open (g : RobotGateway) (messageType : MessageType) (payload : Bytes) :
    (g.startRequest true messageType (.ok payload)).1 = g.nextSequence ∧
      ∀ frame, (g.startRequest true messageType (.ok payload)).2 = .ok frame →
        frame.sequence = g.sequence := by
  by_cases hfits : payload.length ≤ maxPayloadSize
  · rw [g.startRequest_fits messageType payload hfits]
    refine ⟨rfl, ?_⟩
    intro frame hframe
    cases hframe
    rfl
  · have hnew : Frame.new messageType g.sequence payload =
        .error (.protocol "payload exceeds protocol maximum") := by
      rw [Frame.new, dif_pos g.sequence_fits, dif_neg hfits]
    simp [startRequest, hnew]

def liftCodec (payload : Except ProtocolError Bytes) : Except GatewayFailure Bytes :=
  match payload with
  | .error e => .error (.codec e)
  | .ok bytes => .ok bytes

def authorizationPayload (g : RobotGateway) (authorization : MotionAuthorization FloatRepr) :
    Except GatewayFailure Bytes := do
  let command ← g.encodeAuthorization authorization
  liftCodec command.encode

def heartbeatPayload (uptimeMs : ℤ) (state : WireSystemState) : Except GatewayFailure Bytes :=
  liftCodec (Heartbeat.encode ⟨.host, uptimeMs, state⟩)

def estopPayload (reason : EstopReason) : Bytes := EmergencyStop.encode ⟨.host, reason⟩

def sendAuthorization (g : RobotGateway) (isOpen : Bool)
    (authorization : MotionAuthorization FloatRepr) :
    RobotGateway × Except GatewayFailure Frame :=
  g.startRequest isOpen .validatedMotionCommand (g.authorizationPayload authorization)

def sendHeartbeat (g : RobotGateway) (isOpen : Bool) (uptimeMs : ℤ) (state : WireSystemState) :
    RobotGateway × Except GatewayFailure Frame :=
  g.startRequest isOpen .heartbeat (heartbeatPayload uptimeMs state)

def sendEstop (g : RobotGateway) (isOpen : Bool) (reason : EstopReason) :
    RobotGateway × Except GatewayFailure Frame :=
  g.startRequest isOpen .estop (.ok (estopPayload reason))

def countSent (g : RobotGateway) : RobotGateway := { g with sentCount := g.sentCount+1 }

/-- The part of `_request` after a response frame was read. -/
def finishRequest (g : RobotGateway) (sequence : ℕ) (messageType : MessageType)
    (authorizationId : Option Uuid) (response : Frame) :
    RobotGateway × Except GatewayFailure GatewayReceipt :=
  if response.messageType ≠ .ack ∧ response.messageType ≠ .nack then
    (g, .error (.protocol
      s!"expected ACK/NACK for sequence {sequence}, got {response.messageType.name}"))
  else
    match Acknowledgement.decode response.payload with
    | .error _ => (g, .error (.protocol "robot acknowledgement payload is invalid"))
    | .ok acknowledgement =>
      if acknowledgement.acknowledgedSequence ≠ sequence then
        (g, .error (.protocol
          "robot acknowledgement sequence does not match outstanding request"))
      else
        -- noted for a refusal too
        let noted := { g with lastAcknowledgedSequence := some sequence }
        if response.messageType = .nack ∨ acknowledgement.status ≠ .ok then
          ({ noted with rejectedCount := noted.rejectedCount+1 },
            .error (.rejected
              s!"robot rejected sequence {sequence}: {acknowledgement.status.name}"))
        else
          ({ noted with acknowledgedCount := noted.acknowledgedCount+1 },
            .ok
              { frameSequence := sequence
                messageType
                ackStatus := acknowledgement.status
                authorizationId })

/-- The part of `_request` after the write: a receive that failed, or its frame. -/
def finishReceive (g : RobotGateway) (sequence : ℕ) (messageType : MessageType)
    (authorizationId : Option Uuid) (received : Received) :
    RobotGateway × Except GatewayFailure GatewayReceipt :=
  match received with
  | .failed error =>
    (g, .error (.gateway s!"robot acknowledgement failed for sequence {sequence}: {error}"))
  | .frame response => g.finishRequest sequence messageType authorizationId response

end RobotGateway

/-- A gateway over one joint, as its constructor leaves it. -/
def newGateway : RobotGateway where
  jointProtocolIds := ⟨[⟨"base", 1⟩], List.nodupKeys_singleton _⟩
  sequence := 0
  ids_range := by decide
  ids_unique := by decide
  sequence_fits := by decide

theorem newGateway_heartbeat_fits :
    ([0x01, 0x64, 0x00, 0x00, 0x00, 0x05] : Bytes).length ≤ maxPayloadSize := by decide

end RoboticCharacter.Gateway
