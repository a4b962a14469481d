import RoboticCharacter.GatewayCore
import RoboticCharacter.FirmwareDispatch

/-! When an E-stop frame stops the robot MCU: the sequence check applies to it too, and a
new gateway starts again at sequence zero. -/
namespace RoboticCharacter.Gateway
open Firmware Safety

/-- The runtime refuses no frame with this sequence number. -/
def SequenceAccepted (rt : RobotRuntime) (sequence : UInt16) : Prop :=
  rt.sequenceSeen = false ∨ sequenceIsFresh sequence rt.lastSequence = true

theorem refusesSequence_eq_false_iff (rt : RobotRuntime) (frame : ParsedFrame) :
    rt.refusesSequence frame = false ↔ SequenceAccepted rt frame.sequence := by
  unfold RobotRuntime.refusesSequence SequenceAccepted
  rw [Bool.and_eq_false_iff, Bool.not_eq_false']

theorem handleFrame_estop_iff (rt : RobotRuntime) (data : Bytes) (nowMs : UInt32)
    (frame : ParsedFrame) (hparse : parseFrame data = some frame) (htype : frame.type = .estop) :
    (rt.handleFrame data nowMs).1.state = .kEstop ↔
      rt.state = .kEstop ∨ SequenceAccepted rt frame.sequence := by
  rw [← refusesSequence_eq_false_iff]
  unfold RobotRuntime.handleFrame
  rw [hparse]
  dsimp only
  by_cases hrefused : rt.refusesSequence frame = true
  · rw [if_pos hrefused, hrefused]
    exact (or_iff_left nofun).symm
  · rw [if_neg hrefused, RobotRuntime.dispatch, htype]
    exact iff_of_true rfl (.inr (Bool.eq_false_of_not_eq_true hrefused))

/-- Sequence zero is fresh after the upper half of the sequence numbers only. -/
theorem sequenceIsFresh_zero_iff (previous : UInt16) :
    sequenceIsFresh 0 previous = true ↔ 0x8000 < previous.toNat := by
  have hlt := previous.toNat_lt
  have hdelta : (0-previous : UInt16).toNat = (65536-previous.toNat)%65536 := by
    rw [UInt16.toNat_sub]
    rfl
  have hzero : (0-previous : UInt16) ≠ 0 ↔ (0-previous : UInt16).toNat ≠ 0 := by
    rw [ne_eq, ne_eq, ← UInt16.toNat_inj]
    rfl
  have hhalf : (0-previous : UInt16) < 0x8000 ↔ (0-previous : UInt16).toNat < 0x8000 :=
    UInt16.lt_iff_toNat_lt
  simp only [sequenceIsFresh, Bool.and_eq_true, decide_eq_true_eq]
  rw [hzero, hhalf, hdelta]
  omega

theorem sendEstop_eq (g : RobotGateway) (reason : EstopReason) :
    ∃ frame : Frame, g.sendEstop true reason = (g.nextSequence, .ok frame) ∧
      frame.messageType = .estop ∧ frame.sequence = g.sequence := by
  have hfits : (RobotGateway.estopPayload reason).length ≤ maxPayloadSize := by
    cases reason <;> decide
  exact ⟨_, g.startRequest_fits .estop (RobotGateway.estopPayload reason) hfits, rfl, rfl⟩

theorem new_sequence (ids : Dict ℤ) (ackTimeoutS : ExtendedNumber ℚ) (initialSequence : ℤ)
    (g : RobotGateway) (h : RobotGateway.new ids ackTimeoutS initialSequence = .ok g) :
    g.sequence = initialSequence.toNat := by
  unfold RobotGateway.new at h
  split_ifs at h
  cases h
  rfl

/-- An E-stop frame stops the MCU exactly when it was stopped already or its sequence
check accepts the frame. The E-stop of a new gateway, which starts at sequence zero, so
stops it exactly when it was stopped, has accepted nothing yet, or has last accepted a
sequence above 0x8000. -/
theorem estop_latches_iff (timeout : UInt32) (ops : List Operation) (nowMs : UInt32)
    (data : Bytes) (frame : ParsedFrame) (hparse : parseFrame data = some frame)
    (htype : frame.type = .estop) :
    (((run timeout ops).handleFrame data nowMs).1.state = .kEstop ↔
      (run timeout ops).state = .kEstop ∨ SequenceAccepted (run timeout ops) frame.sequence) ∧
    ∀ (ids : Dict ℤ) (ackTimeoutS : ExtendedNumber ℚ) (g : RobotGateway) (reason : EstopReason),
      RobotGateway.new ids ackTimeoutS 0 = .ok g →
      ∃ sent : Frame, (g.sendEstop true reason).2 = .ok sent ∧
        (((run timeout ops).handleFrame sent.encode nowMs).1.state = .kEstop ↔
          (run timeout ops).state = .kEstop ∨ (run timeout ops).sequenceSeen = false ∨
            0x8000 < (run timeout ops).lastSequence.toNat) := by
  refine ⟨handleFrame_estop_iff _ data nowMs frame hparse htype, ?_⟩
  intro ids ackTimeoutS g reason hnew
  obtain ⟨sent, hsend, hsent, hsequence⟩ := sendEstop_eq g reason
  refine ⟨sent, by rw [hsend], ?_⟩
  have hzero : sent.sequence = 0 := hsequence.trans (new_sequence ids ackTimeoutS 0 g hnew)
  rw [handleFrame_estop_iff _ sent.encode nowMs _ (parseFrame_encode sent) hsent]
  change _ ∨ SequenceAccepted _ (UInt16.ofNat sent.sequence) ↔ _
  rw [hzero, SequenceAccepted, show UInt16.ofNat 0 = 0 from rfl, sequenceIsFresh_zero_iff]

def firstEstop : Frame where
  messageType := .estop
  sequence := 0
  payload := RobotGateway.estopPayload .manual
  sequence_fits := newGateway.sequence_fits
  payload_fits := by decide

/-- After one heartbeat of an earlier session, on sequence 0x9000, it is accepted. -/
theorem estop_latches_iff_restarted :
    ((run 500 [.handleFrame (contractFrame .heartbeat 0x9000 [1, 100, 0, 0, 0, 5]) 100]).handleFrame
      firstEstop.encode 110).1.state = .kEstop :=
  (estop_latches_iff 500 [.handleFrame (contractFrame .heartbeat 0x9000 [1, 100, 0, 0, 0, 5]) 100]
    110 firstEstop.encode (ParsedFrame.ofFrame firstEstop) (parseFrame_encode firstEstop) rfl).1.mpr
    (.inr (.inr (by decide +kernel)))

/-- After a heartbeat on sequence 5 it is refused, and the MCU stays ready. -/
theorem restarted_gateway_estop_refused :
    RobotGateway.new newGateway.jointProtocolIds (.finite 1) 0 = .ok newGateway ∧
    (newGateway.sendEstop true .manual).2 = .ok firstEstop ∧
    parseFrame firstEstop.encode = some (ParsedFrame.ofFrame firstEstop) ∧
    (run 500 [.handleFrame (contractFrame .heartbeat 5 [1, 100, 0, 0, 0, 5]) 100,
      .handleFrame firstEstop.encode 110]).state = .kReady := by
  refine ⟨rfl, rfl, parseFrame_encode firstEstop, ?_⟩
  decide +kernel

end RoboticCharacter.Gateway
