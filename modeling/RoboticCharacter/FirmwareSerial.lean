import RoboticCharacter.FirmwareRuntime
import RoboticCharacter.ProtocolMessages

/-! The robot sketch's serial side: the byte-at-a-time receiver and the answer it writes. -/
namespace RoboticCharacter.Firmware
open Host

def kReceiveCapacity : ℕ := frameOverhead+maxPayloadSize
def kAcknowledgementPayloadSize : ℕ := 3
def kAckFrameCapacity : ℕ := frameOverhead+kAcknowledgementPayloadSize

def ackStatusForDispatch : DispatchResult → AckStatus
  | .kHeartbeatAccepted => .ok
  | .kEstopLatched => .ok
  | .kMotionDeferred => .ok
  | .kMotionRejectedUnsafe => .rejected
  | .kRejectedReplay => .stale
  | .kMotionRejectedInvalidPayload => .invalid
  | .kMessageIgnored => .invalid
  | .kRejectedInvalidFrame => .invalid

/-- `EncodeAcknowledgementPayload`: the bytes stored at `out`, none when it returns zero. -/
def encodeAcknowledgementPayload (acknowledgedSequence : UInt16) (status : AckStatus)
    (capacity : ℕ) : Bytes :=
  if capacity < kAcknowledgementPayloadSize then []
  else writeU16Le acknowledgedSequence ++ [UInt8.ofNat status.value]

def ackFrameType (status : AckStatus) : MessageType := if status = .ok then .ack else .nack

/-- `SendAcknowledgement`: the transmit sequence after it, and the bytes written. -/
def sendAcknowledgement (txSequence requestSequence : UInt16) (result : DispatchResult) :
    UInt16 × Bytes :=
  if result = .kRejectedInvalidFrame then (txSequence, [])
  else
    let status := ackStatusForDispatch result
    let payload := encodeAcknowledgementPayload requestSequence status kAcknowledgementPayloadSize
    if payload.length = 0 then (txSequence, [])
    else
      (txSequence+1, buildFrame (ackFrameType status) txSequence (some payload)
        (UInt16.ofNat payload.length) kAckFrameCapacity)

/-- The globals of the sketch; the receive buffer keeps its size. -/
structure SerialState where
  runtime : RobotRuntime
  receiveBuffer : Bytes
  receiveLength : ℕ
  expectedFrameSize : ℕ
  txSequence : UInt16
  size_eq : receiveBuffer.length = kReceiveCapacity

/-- What one byte made the sketch do: a call of `HandleFrame` with its result, and the
bytes written to the serial port. -/
structure Ingested where
  handled : Option (Bytes × DispatchResult)
  written : Bytes
  deriving DecidableEq

def Ingested.nothing : Ingested := ⟨none, []⟩

namespace SerialState

def setup : SerialState where
  runtime := .new kDefaultHeartbeatTimeoutMs
  receiveBuffer := List.replicate kReceiveCapacity 0
  receiveLength := 0
  expectedFrameSize := 0
  txSequence := 0
  size_eq := List.length_replicate

def resetReceiveBuffer (s : SerialState) : SerialState :=
  { s with receiveLength := 0, expectedFrameSize := 0 }

def store (s : SerialState) (index : ℕ) (value : UInt8) : SerialState :=
  { s with
    receiveBuffer := s.receiveBuffer.set index value
    size_eq := by rw [List.length_set, s.size_eq] }

/-- The end of `IngestByte`: a frame that is all there is handled and answered. -/
def handleComplete (s : SerialState) (nowMs : UInt32) : SerialState × Ingested :=
  if 0 < s.expectedFrameSize ∧ s.receiveLength = s.expectedFrameSize then
    let requestSequence := readU16Le s.receiveBuffer 4
    let data := s.receiveBuffer.take s.receiveLength
    let handled := s.runtime.handleFrame data nowMs
    let sent := sendAcknowledgement s.txSequence requestSequence handled.2
    ({ s with runtime := handled.1, txSequence := sent.1 }.resetReceiveBuffer,
      ⟨some (data, handled.2), sent.2⟩)
  else (s, .nothing)

def ingestByte (s : SerialState) (value : UInt8) (nowMs : UInt32) : SerialState × Ingested :=
  if s.receiveLength = 0 ∧ value ≠ kMagic0 then (s, .nothing)
  else if s.receiveLength = 1 ∧ value ≠ kMagic1 then
    if value = kMagic0 then (s.store 0 value, .nothing) else (s.resetReceiveBuffer, .nothing)
  else if kReceiveCapacity ≤ s.receiveLength then (s.resetReceiveBuffer, .nothing)
  else
    let stored := { s.store s.receiveLength value with receiveLength := s.receiveLength+1 }
    if stored.receiveLength = headerSize then
      let payloadLength := readU16Le stored.receiveBuffer 6
      if maxPayloadSize < payloadLength.toNat then (stored.resetReceiveBuffer, .nothing)
      else
        { stored with expectedFrameSize := frameOverhead+payloadLength.toNat }.handleComplete nowMs
    else stored.handleComplete nowMs

/-- What `loop` does: it hands a byte that it read to `IngestByte`, or ticks the runtime. -/
inductive LoopStep
  | ingest (value : UInt8) (nowMs : UInt32)
  | tick (nowMs : UInt32)

def LoopStep.value? : LoopStep → Option UInt8
  | .ingest value _ => some value
  | .tick _ => none

/-- The sketch as a machine on the steps of its loop. -/
def step (s : SerialState) : LoopStep → SerialState × Ingested
  | .ingest value nowMs => s.ingestByte value nowMs
  | .tick nowMs => ({ s with runtime := s.runtime.tick nowMs }, .nothing)

def bytesRead (steps : List LoopStep) : Bytes := steps.filterMap LoopStep.value?

def calls (s : SerialState) (steps : List LoopStep) : List (Bytes × DispatchResult) :=
  (Machine.trace step s steps).filterMap (fun e => e.output.handled)

def written (s : SerialState) (steps : List LoopStep) : Bytes :=
  (Machine.trace step s steps).flatMap (fun e => e.output.written)

theorem calls_cons (s : SerialState) (i : LoopStep) (rest : List LoopStep) :
    s.calls (i :: rest) = (s.step i).2.handled.toList ++ (s.step i).1.calls rest := by
  cases h : (s.step i).2.handled <;> simp [calls, h]

theorem written_cons (s : SerialState) (i : LoopStep) (rest : List LoopStep) :
    s.written (i :: rest) = (s.step i).2.written ++ (s.step i).1.written rest := rfl

/-- The runtime after the loop ticked it at these times. -/
def ticked (rt : RobotRuntime) (times : List UInt32) : RobotRuntime :=
  times.foldl RobotRuntime.tick rt

theorem ticked_append (rt : RobotRuntime) (earlier later : List UInt32) :
    ticked rt (earlier ++ later) = ticked (ticked rt earlier) later := List.foldl_append

/-- A loop that reads nothing ticks the runtime, and that is all. -/
theorem run_ticks (s : SerialState) (steps : List LoopStep) (h : bytesRead steps = []) :
    s.calls steps = [] ∧ s.written steps = [] ∧
      ∃ times, Machine.run step s steps = { s with runtime := ticked s.runtime times } := by
  induction steps generalizing s with
  | nil => exact ⟨rfl, rfl, [], rfl⟩
  | cons i rest ih =>
    cases i with
    | ingest value nowMs => cases h
    | tick nowMs =>
      obtain ⟨hcalls, hwritten, times, hrun⟩ := ih { s with runtime := s.runtime.tick nowMs } h
      refine ⟨?_, ?_, nowMs :: times, hrun⟩
      · rw [calls_cons]
        exact hcalls
      · rw [written_cons]
        exact hwritten

structure Idle (s : SerialState) : Prop where
  receiveLength_eq : s.receiveLength = 0
  expectedFrameSize_eq : s.expectedFrameSize = 0

/-- The first `count` bytes of `frame` have been received since the state `start`. -/
structure Holding (start : SerialState) (frame : Frame) (count : ℕ) (s : SerialState) : Prop where
  runtime_eq : ∃ earlier, s.runtime = ticked start.runtime earlier
  txSequence_eq : s.txSequence = start.txSequence
  receiveLength_eq : s.receiveLength = count
  received : s.receiveBuffer.take count = frame.encode.take count
  expected : s.expectedFrameSize = if count < headerSize then 0 else frame.encode.length

theorem Holding.of_idle (s : SerialState) (frame : Frame) (h : s.Idle) : s.Holding frame 0 s :=
  ⟨⟨[], rfl⟩, rfl, h.receiveLength_eq, rfl, h.expectedFrameSize_eq⟩

theorem Holding.tick {start s : SerialState} {frame : Frame} {count : ℕ}
    (h : start.Holding frame count s) (nowMs : UInt32) :
    start.Holding frame count { s with runtime := s.runtime.tick nowMs } := by
  obtain ⟨earlier, hruntime⟩ := h.runtime_eq
  refine { h with runtime_eq := ⟨earlier ++ [nowMs], ?_⟩ }
  change s.runtime.tick nowMs = _
  rw [hruntime, ticked_append]
  rfl

end SerialState

theorem txSequence_fits (txSequence : UInt16) : txSequence.toNat ≤ 0xFFFF :=
  Nat.le_of_lt_succ txSequence.toNat_lt

def ackFrame (txSequence requestSequence : UInt16) (result : DispatchResult) : Frame where
  messageType := ackFrameType (ackStatusForDispatch result)
  sequence := txSequence.toNat
  payload := packH requestSequence.toNat ++ packB (ackStatusForDispatch result).value
  sequence_fits := txSequence_fits txSequence
  payload_fits := by
    rw [List.length_append, length_packH, length_packB, maxPayloadSize]
    decide

/-- A parsed frame is answered by exactly one ACK or NACK frame. -/
theorem sendAcknowledgement_eq (txSequence requestSequence : UInt16) (result : DispatchResult)
    (h : result ≠ .kRejectedInvalidFrame) :
    sendAcknowledgement txSequence requestSequence result =
      (txSequence+1, (ackFrame txSequence requestSequence result).encode) := by
  have hbuild := buildFrame_eq_encode (ackFrame txSequence requestSequence result)
    kAckFrameCapacity (by
      rw [ackFrame, List.length_append, length_packH, length_packB]
      decide)
  have hpayload : encodeAcknowledgementPayload requestSequence (ackStatusForDispatch result)
      kAcknowledgementPayloadSize = (ackFrame txSequence requestSequence result).payload := by
    rw [encodeAcknowledgementPayload, if_neg (by decide), writeU16Le_eq_packH]
    rfl
  have hlen : (ackFrame txSequence requestSequence result).payload.length = 3 := by
    rw [ackFrame, List.length_append, length_packH, length_packB]
  unfold sendAcknowledgement
  rw [if_neg h]
  simp only [hpayload]
  rw [if_neg (by omega), ← hbuild]
  simp only [ackFrame, UInt16.ofNat_toNat]

end RoboticCharacter.Firmware
