import RoboticCharacter.GatewayCore

/-! The answers of a gateway's peer, and what the gateway makes of the frame it takes as
the answer to its request. -/
namespace RoboticCharacter.Gateway
open Host

/-- An ACK or a NACK, with its status and its own sequence number. -/
structure Answer where
  messageType : MessageType
  status : AckStatus
  peerSequence : ℕ
  ack_or_nack : messageType = .ack ∨ messageType = .nack
  peerSequence_fits : peerSequence ≤ 0xFFFF

namespace Answer

def Accepts (a : Answer) : Prop := a.messageType = .ack ∧ a.status = .ok

instance (a : Answer) : Decidable a.Accepts := inferInstanceAs (Decidable (_ ∧ _))

def accepting : Answer := ⟨.ack, .ok, 0, .inl rfl, newGateway.sequence_fits⟩

/-- The frame that carries it, for the request with the sequence number `acknowledged`. -/
def frame (a : Answer) (acknowledged : ℕ) : Frame where
  messageType := a.messageType
  sequence := a.peerSequence
  payload := packH acknowledged ++ packB a.status.value
  sequence_fits := a.peerSequence_fits
  payload_fits := by
    rw [List.length_append, length_packH, length_packB, maxPayloadSize]
    decide

def frameSize : ℕ := 13

theorem length_frame_encode (a : Answer) (acknowledged : ℕ) :
    (a.frame acknowledged).encode.length = frameSize := by
  rw [Frame.length_encode, frame, List.length_append, length_packH, length_packB]
  rfl

theorem decode_frame (a : Answer) (acknowledged : ℕ) (hfits : acknowledged < 65536) :
    Acknowledgement.decode (a.frame acknowledged).payload = .ok ⟨acknowledged, a.status⟩ :=
  Acknowledgement.decode_pack acknowledged hfits a.status

end Answer

namespace RobotGateway

/-- The gateway's verdict on an answer: the sequence number it carries decides first. -/
theorem finishRequest_answer (g : RobotGateway) (sequence : ℕ) (messageType : MessageType)
    (authorizationId : Option Uuid) (a : Answer) (acknowledged : ℕ)
    (hfits : acknowledged < 65536) :
    (g.finishRequest sequence messageType authorizationId (a.frame acknowledged)).2 =
      if acknowledged ≠ sequence then
        .error (.protocol "robot acknowledgement sequence does not match outstanding request")
      else if a.Accepts then .ok ⟨sequence, messageType, a.status, authorizationId⟩
      else .error (.rejected s!"robot rejected sequence {sequence}: {a.status.name}") := by
  have htype : ¬ ((a.frame acknowledged).messageType ≠ .ack ∧
      (a.frame acknowledged).messageType ≠ .nack) := by
    intro hneither
    exact a.ack_or_nack.elim hneither.1 hneither.2
  -- an answer is an ACK or a NACK and decodes, so only its content is left to decide
  unfold finishRequest
  rw [if_neg htype, a.decode_frame acknowledged hfits]
  dsimp only
  by_cases hsame : acknowledged = sequence
  · have hcast : (acknowledged : ℤ) = sequence := congrArg Nat.cast hsame
    rw [if_neg (not_not.mpr hcast), if_neg (not_not.mpr hsame)]
    by_cases haccepts : a.Accepts
    · have hgood : ¬ ((a.frame acknowledged).messageType = .nack ∨ a.status ≠ .ok) := by
        change ¬ (a.messageType = .nack ∨ a.status ≠ .ok)
        rw [haccepts.1, haccepts.2]
        decide
      rw [if_pos haccepts, if_neg hgood]
    · have hbad : (a.frame acknowledged).messageType = .nack ∨ a.status ≠ .ok := by
        by_cases hstatus : a.status = .ok
        · exact .inl (a.ack_or_nack.resolve_left (fun hack => haccepts ⟨hack, hstatus⟩))
        · exact .inr hstatus
      rw [if_neg haccepts, if_pos hbad]
  · have hcast : (acknowledged : ℤ) ≠ sequence := Nat.cast_injective.ne hsame
    rw [if_pos hcast, if_pos hsame]

/-- What taking any frame as the answer does: a receipt and a rejection are counted and
need a frame that acknowledges the sequence number asked for; all else changes nothing. -/
inductive Finished (g : RobotGateway) (sequence : ℕ) (messageType : MessageType)
    (authorizationId : Option Uuid) (response : Frame) :
    RobotGateway × Except GatewayFailure GatewayReceipt → Prop
  | accepted (htype : response.messageType = .ack)
      (hdecode : Acknowledgement.decode response.payload = .ok ⟨sequence, .ok⟩) :
      Finished g sequence messageType authorizationId response
        ({ g with
            lastAcknowledgedSequence := some sequence
            acknowledgedCount := g.acknowledgedCount+1 },
          .ok ⟨sequence, messageType, .ok, authorizationId⟩)
  | rejected (status : AckStatus)
      (hdecode : Acknowledgement.decode response.payload = .ok ⟨sequence, status⟩) :
      Finished g sequence messageType authorizationId response
        ({ g with
            lastAcknowledgedSequence := some sequence
            rejectedCount := g.rejectedCount+1 },
          .error (.rejected s!"robot rejected sequence {sequence}: {status.name}"))
  | failed (message : String) :
      Finished g sequence messageType authorizationId response (g, .error (.protocol message))

theorem finished (g : RobotGateway) (sequence : ℕ) (messageType : MessageType)
    (authorizationId : Option Uuid) (response : Frame) :
    Finished g sequence messageType authorizationId response
      (g.finishRequest sequence messageType authorizationId response) := by
  unfold finishRequest
  by_cases htype : response.messageType ≠ .ack ∧ response.messageType ≠ .nack
  · rw [if_pos htype]
    exact .failed _
  · rw [if_neg htype]
    cases hdecode : Acknowledgement.decode response.payload with
    | error e => exact .failed _
    | ok acknowledgement =>
      dsimp only
      by_cases hother : acknowledgement.acknowledgedSequence ≠ sequence
      · rw [if_pos hother]
        exact .failed _
      · rw [if_neg hother]
        obtain ⟨acknowledged, status⟩ := acknowledgement
        have hsame : acknowledged = sequence := not_not.mp hother
        subst hsame
        by_cases hbad : response.messageType = .nack ∨ status ≠ .ok
        · rw [if_pos hbad]
          exact .rejected status hdecode
        · rw [if_neg hbad]
          obtain ⟨hnack, hok⟩ := not_or.mp hbad
          have hstatus : status = .ok := not_not.mp hok
          -- neither a NACK nor another type than ACK and NACK
          have hack : response.messageType = .ack := by
            by_contra hne
            exact htype ⟨hne, hnack⟩
          subst hstatus
          exact .accepted hack hdecode

/-- Taking an answer counts it at most once and keeps the sequence number. -/
theorem finishReceive_counts (g : RobotGateway) (sequence : ℕ) (messageType : MessageType)
    (authorizationId : Option Uuid) (received : Received) :
    let after := (g.finishReceive sequence messageType authorizationId received).1
    after.sequence = g.sequence ∧ after.sentCount = g.sentCount ∧
      after.acknowledgedCount+after.rejectedCount ≤ g.acknowledgedCount+g.rejectedCount+1 := by
  cases received with
  | failed error => exact ⟨rfl, rfl, Nat.le_succ _⟩
  | frame response =>
    have hfinished := g.finished sequence messageType authorizationId response
    change Finished g sequence messageType authorizationId response
      (g.finishReceive sequence messageType authorizationId (.frame response)) at hfinished
    generalize g.finishReceive sequence messageType authorizationId (.frame response) = result
      at hfinished ⊢
    cases hfinished with
    | accepted => exact ⟨rfl, rfl, by dsimp only; omega⟩
    | rejected => exact ⟨rfl, rfl, by dsimp only; omega⟩
    | failed => exact ⟨rfl, rfl, Nat.le_succ _⟩

/-- A receipt needs an ACK frame that acknowledges the request's sequence number with OK. -/
theorem finishReceive_receipt (g : RobotGateway) (sequence : ℕ) (messageType : MessageType)
    (authorizationId : Option Uuid) (received : Received) (receipt : GatewayReceipt)
    (h : (g.finishReceive sequence messageType authorizationId received).2 = .ok receipt) :
    receipt = ⟨sequence, messageType, .ok, authorizationId⟩ ∧
      ∃ response, received = .frame response ∧ response.messageType = .ack ∧
        Acknowledgement.decode response.payload = .ok ⟨sequence, .ok⟩ := by
  cases received with
  | failed error => cases h
  | frame response =>
    have hfinished := g.finished sequence messageType authorizationId response
    change (g.finishRequest sequence messageType authorizationId response).2 = .ok receipt at h
    generalize g.finishRequest sequence messageType authorizationId response = result
      at hfinished h
    cases hfinished with
    | accepted htype hdecode =>
      cases h
      exact ⟨rfl, response, rfl, htype, hdecode⟩
    | rejected => cases h
    | failed => cases h

/-- The answer a request waits for: an ACK of its sequence number, with status OK. -/
def Acknowledges (response : Frame) (sequence : ℕ) : Prop :=
  response.messageType = .ack ∧ Acknowledgement.decode response.payload = .ok ⟨sequence, .ok⟩

theorem finishRequest_receipt_iff (g : RobotGateway) (sequence : ℕ) (messageType : MessageType)
    (authorizationId : Option Uuid) (response : Frame) :
    (∃ receipt, (g.finishRequest sequence messageType authorizationId response).2 = .ok receipt) ↔
      Acknowledges response sequence := by
  constructor
  · rintro ⟨receipt, hreceipt⟩
    obtain ⟨_, answer, hanswer, hack, hdecode⟩ := g.finishReceive_receipt sequence messageType
      authorizationId (.frame response) receipt hreceipt
    cases hanswer
    exact ⟨hack, hdecode⟩
  · rintro ⟨hack, hdecode⟩
    have htype : ¬ (response.messageType ≠ .ack ∧ response.messageType ≠ .nack) :=
      fun hneither => hneither.1 hack
    have hgood : ¬ (response.messageType = .nack ∨ AckStatus.ok ≠ .ok) := by
      rw [hack]
      decide
    unfold finishRequest
    rw [if_neg htype, hdecode]
    dsimp only
    rw [if_neg (not_not.mpr rfl), if_neg hgood]
    exact ⟨_, rfl⟩

end RobotGateway

end RoboticCharacter.Gateway
