import RoboticCharacter.GatewayPeer
import RoboticCharacter.FirmwareDispatch
import RoboticCharacter.FirmwareReceive
import RoboticCharacter.ProtocolCleanStream

/-! One request and its answer, across the gateway, the sketch and the stream decoder. -/
namespace RoboticCharacter.Gateway
open Firmware Host

/-- The results the firmware acknowledges with status OK. -/
def Accepted (result : DispatchResult) : Prop :=
  result = .kHeartbeatAccepted ∨ result = .kEstopLatched ∨ result = .kMotionDeferred

theorem ackStatusForDispatch_eq_ok_iff (result : DispatchResult) :
    ackStatusForDispatch result = .ok ↔ Accepted result := by
  unfold Accepted
  cases result <;> decide

theorem handleFrame_encode_parsed (rt : RobotRuntime) (frame : Frame) (nowMs : UInt32) :
    (rt.handleFrame frame.encode nowMs).2 ≠ .kRejectedInvalidFrame := by
  have hh := rt.handled frame.encode nowMs
  generalize (rt.handleFrame frame.encode nowMs).1 = after,
    (rt.handleFrame frame.encode nowMs).2 = result at hh ⊢
  cases hh with
  | invalid hp =>
    rw [parseFrame_encode] at hp
    cases hp
  | stale | heartbeat | estop | motionInvalid | motionUnsafe | motionReplay | motionDeferred
  | ignored => decide

/-- The sketch as the gateway's peer: its answer to a dispatch. -/
def sketchAnswer (txSequence : UInt16) (result : DispatchResult) : Answer where
  messageType := ackFrameType (ackStatusForDispatch result)
  status := ackStatusForDispatch result
  peerSequence := txSequence.toNat
  ack_or_nack := by cases ackStatusForDispatch result <;> decide
  peerSequence_fits := txSequence_fits txSequence

theorem ackFrame_eq (txSequence : UInt16) (frame : Frame) (result : DispatchResult) :
    ackFrame txSequence (UInt16.ofNat frame.sequence) result =
      (sketchAnswer txSequence result).frame frame.sequence := by
  have hsequence := ofNat_sequence_toNat frame
  unfold ackFrame Answer.frame
  rw [hsequence]
  rfl

theorem sketchAnswer_ack_iff (txSequence : UInt16) (result : DispatchResult) :
    (sketchAnswer txSequence result).messageType = .ack ↔ ackStatusForDispatch result = .ok := by
  change ackFrameType (ackStatusForDispatch result) = .ack ↔ _
  cases ackStatusForDispatch result <;> decide

theorem sketchAnswer_accepts_iff (txSequence : UInt16) (result : DispatchResult) :
    (sketchAnswer txSequence result).Accepts ↔ Accepted result := by
  unfold Answer.Accepts
  rw [sketchAnswer_ack_iff, ← ackStatusForDispatch_eq_ok_iff]
  exact and_self_iff

/-- A whole exchange: the sketch `s` receives the bytes of `frame`, the decoder `d` reads
what it writes, and the gateway `g` takes the answer. -/
structure Exchanged (s : SerialState) (d : FrameStreamDecoder) (g : RobotGateway)
    (authorizationId : Option Uuid) (frame : Frame) (steps : List SerialState.LoopStep)
    (result : DispatchResult) (response : Frame) : Prop where
  handled_once : s.calls steps = [(frame.encode, result)]
  dispatched : ∃ earlier nowMs,
    result = ((SerialState.ticked s.runtime earlier).handleFrame frame.encode nowMs).2
  answered_once : s.written steps = response.encode
  decoded : ∀ chunks : List Bytes, chunks.flatten = s.written steps →
    d.feedFrames chunks = [response] ∧ d.feedIssues chunks = []
  acknowledged : Acknowledgement.decode response.payload =
    .ok ⟨frame.sequence, ackStatusForDispatch result⟩
  ack_or_nack : response.messageType = .ack ∨ response.messageType = .nack
  ack_iff : response.messageType = .ack ↔ ackStatusForDispatch result = .ok
  receipt_iff : (∃ receipt,
    (g.finishRequest frame.sequence frame.messageType authorizationId response).2 = .ok receipt) ↔
      Accepted result
  rejected : ¬ Accepted result → ∃ message,
    (g.finishRequest frame.sequence frame.messageType authorizationId response).2 =
      .error (.rejected message)

/-- Every frame, delivered intact to an idle sketch whose loop may tick at any moment, is
handled once and answered once; any decoder that can hold the answer delivers it, and the
gateway gives a receipt exactly when the firmware accepted the request. -/
theorem exchange (s : SerialState) (d : FrameStreamDecoder) (g : RobotGateway)
    (authorizationId : Option Uuid) (frame : Frame) (steps : List SerialState.LoopStep)
    (hidle : s.Idle) (hbytes : SerialState.bytesRead steps = frame.encode) (hempty : d.buffer = [])
    (hroom : kAckFrameCapacity ≤ d.maxBufferBytes) :
    ∃ result response, Exchanged s d g authorizationId frame steps result response := by
  obtain ⟨result, hdelivered⟩ := s.receive_frame frame steps hidle hbytes
  obtain ⟨earlier, nowMs, _, hresult, _⟩ := hdelivered.dispatched
  have hparsed : result ≠ .kRejectedInvalidFrame := by
    rw [hresult]
    exact handleFrame_encode_parsed _ frame nowMs
  let answer := sketchAnswer s.txSequence result
  let response := answer.frame frame.sequence
  have hsequence : frame.sequence < 65536 := by
    have := frame.sequence_fits
    omega
  have hsent := hdelivered.sent_eq
  rw [sendAcknowledgement_eq _ _ _ hparsed, Prod.mk.injEq, ackFrame_eq] at hsent
  have hdecode : Acknowledgement.decode response.payload =
      .ok ⟨frame.sequence, ackStatusForDispatch result⟩ := answer.decode_frame _ hsequence
  -- the answer acknowledges the very number asked for, so only its status is left to decide
  have hverdict := g.finishRequest_answer frame.sequence frame.messageType authorizationId answer
    frame.sequence hsequence
  rw [if_neg (not_not.mpr rfl)] at hverdict
  have haccepts : answer.Accepts ↔ Accepted result := sketchAnswer_accepts_iff s.txSequence result
  refine ⟨result, response, hdelivered.handled_once, ⟨earlier, nowMs, hresult⟩, hsent.2, ?_,
    hdecode, answer.ack_or_nack, sketchAnswer_ack_iff s.txSequence result, ?_, ?_⟩
  · intro chunks hchunks
    have hfits : response.encode.length ≤ d.maxBufferBytes := by
      rw [Answer.length_frame_encode]
      exact hroom
    exact d.feed_one_frame response chunks hempty hfits (hchunks.trans hsent.2)
  · by_cases haccepted : Accepted result
    · rw [if_pos (haccepts.mpr haccepted)] at hverdict
      exact iff_of_true ⟨_, hverdict⟩ haccepted
    · rw [if_neg (mt haccepts.mp haccepted)] at hverdict
      refine iff_of_false ?_ haccepted
      intro hgiven
      obtain ⟨receipt, hreceipt⟩ := hgiven
      rw [hverdict] at hreceipt
      cases hreceipt
  · intro hrefused
    rw [if_neg (mt haccepts.mp hrefused)] at hverdict
    exact ⟨_, hverdict⟩

def firstHeartbeat : Frame where
  messageType := .heartbeat
  sequence := 0
  payload := [0x01, 0x64, 0x00, 0x00, 0x00, 0x05]
  sequence_fits := newGateway.sequence_fits
  payload_fits := newGateway_heartbeat_fits

/-- It arrives in two passes of the loop, each of which ends with a tick. -/
def firstHeartbeatSteps : List SerialState.LoopStep :=
  (firstHeartbeat.encode.take 5).map (.ingest · 100) ++ .tick 100 ::
    (firstHeartbeat.encode.drop 5).map (.ingest · 101) ++ [.tick 101]

theorem exchange_first_heartbeat : ∃ result response,
    Exchanged .setup .initial newGateway.nextSequence none firstHeartbeat
      firstHeartbeatSteps result response :=
  exchange .setup .initial newGateway.nextSequence none firstHeartbeat firstHeartbeatSteps
    ⟨rfl, rfl⟩ (by decide +kernel) rfl (by decide)

/-- The smallest decoder its constructor admits: an empty frame is all it can hold. -/
def emptyFrameDecoder : FrameStreamDecoder := ⟨frameOverhead, [], by decide⟩

theorem answer_exceeds_small_decoder :
    FrameStreamDecoder.new 10 = .ok emptyFrameDecoder ∧
      emptyFrameDecoder.feedFrames [SerialState.setup.written firstHeartbeatSteps] = [] ∧
      (SerialState.setup.written firstHeartbeatSteps).length = 13 := by
  refine ⟨rfl, ?_, ?_⟩ <;> decide +kernel

end RoboticCharacter.Gateway
