import RoboticCharacter.SimulationDevice

/-! Every frame the device receives is answered once: acknowledged after the whole of its
command took effect, or refused with no effect at all. -/
namespace RoboticCharacter
open PythonMath Fallible Machine

namespace DigitalTwinRobot

section Requests
variable {K : Type} [Field K]

theorem foldl_retarget_of_unnamed (jointId : ℕ) (requests : List JointTarget) (current : K)
    (h : ∀ target ∈ requests, target.jointId ≠ jointId) :
    requests.foldl (retarget jointId) current = current := by
  induction requests generalizing current with
  | nil => rfl
  | cons first rest ih =>
    have hfirst : retarget jointId current first = current :=
      if_neg (h first List.mem_cons_self)
    rw [List.foldl_cons, hfirst]
    exact ih current fun target htarget => h target (List.mem_cons_of_mem first htarget)

theorem foldl_retarget_of_mem (jointId : ℕ) (requests : List JointTarget) (current : K)
    (hnodup : (requests.map JointTarget.jointId).Nodup) (target : JointTarget)
    (htarget : target ∈ requests) (hid : target.jointId = jointId) :
    requests.foldl (retarget jointId) current = target.targetCdeg/100 := by
  induction requests generalizing current with
  | nil => exact absurd htarget List.not_mem_nil
  | cons first rest ih =>
    rw [List.map_cons, List.nodup_cons] at hnodup
    rw [List.foldl_cons]
    rcases List.mem_cons.mp htarget with rfl | hrest
    · -- no later request names the joint again
      have hset : retarget jointId current target = target.targetCdeg/100 := if_pos hid
      rw [hset]
      apply foldl_retarget_of_unnamed
      intro later hlater hsame
      exact hnodup.1 (List.mem_map.mpr ⟨later, hlater, hsame.trans hid.symm⟩)
    · exact ih _ hnodup.2 hrest

end Requests

theorem caught_of_mapError {K α : Type} (x : Except Codec.Raised α)
    (hx : Raises Codec.Raised.IsProtocolError x) :
    Raises (fun e => e.Caught = true) (x.mapError (@DispatchError.codec K)) := by
  cases x with
  | ok a => exact raises_ok _ a
  | error e =>
    obtain ⟨error, rfl⟩ := hx e rfl
    exact raises_error _ _ rfl

variable {K : Type} [Field K] [LinearOrder K]

/-- The whole of a motion command: the joints it names have their targets, the others keep
theirs, both limits are the command's, and nothing else changes but the state. -/
structure Commanded (command : ValidatedMotionCommand) (before after : DigitalTwinRobot K) :
    Prop where
  targets_set : ∀ target ∈ command.targets, ∃ name,
    target.jointId = (before.model.joint name).protocolId ∧
      after.targets name = target.targetCdeg/100
  targets_kept : ∀ name,
    (∀ target ∈ command.targets, target.jointId ≠ (before.model.joint name).protocolId) →
      after.targets name = before.targets name
  rest_kept : after = { before with
    targets := after.targets
    commandVelocityLimit := command.maxVelocityCdegS/100
    commandAccelerationLimit := command.maxAccelerationCdegS2/100
    state := .executing }

theorem commanded_of_accept (before after : DigitalTwinRobot K) (command : ValidatedMotionCommand)
    (hnodup : (command.targets.map JointTarget.jointId).Nodup)
    (h : before.accept command = .ok after) : Commanded command before after := by
  obtain ⟨hadmits, rfl⟩ := (before.accept_eq_ok_iff after command).mp h
  refine ⟨?_, ?_, rfl⟩
  · intro target htarget
    obtain ⟨name, hid⟩ := hadmits.joints_known target htarget
    exact ⟨name, hid, foldl_retarget_of_mem _ _ _ hnodup target htarget hid⟩
  · intro name hnone
    exact foldl_retarget_of_unnamed _ _ _ hnone

/-- What a request does to the twin when it is obeyed. -/
inductive Effect (request : Frame) (before : DigitalTwinRobot K) : DigitalTwinRobot K → Prop
  | heartbeat (message : Heartbeat) (htype : request.messageType = .heartbeat)
    (hdecode : Codec.Heartbeat.decode request.payload = .ok message) : Effect request before before
  | motion (command : ValidatedMotionCommand) (after : DigitalTwinRobot K)
    (htype : request.messageType = .validatedMotionCommand)
    (hdecode : Codec.ValidatedMotionCommand.decode request.payload = .ok command)
    (hadmits : before.Admits command) (hcommanded : Commanded command before after) :
    Effect request before after
  | estop (message : EmergencyStop) (htype : request.messageType = .estop)
    (hdecode : Codec.EmergencyStop.decode request.payload = .ok message) :
    Effect request before before.estop

theorem nodup_of_decode (payload : Bytes) (command : ValidatedMotionCommand)
    (h : Codec.ValidatedMotionCommand.decode payload = .ok command) :
    (command.targets.map JointTarget.jointId).Nodup := by
  have hencode := Codec.ValidatedMotionCommand.inverse.encode_decode payload command h
  rw [Codec.ValidatedMotionCommand.encode_agrees,
    ValidatedMotionCommand.encode_eq_ok_iff] at hencode
  exact hencode.1.ids_nodup

theorem effect_of_dispatch (before after : DigitalTwinRobot K) (request : Frame)
    (h : before.dispatch request = .ok after) : Effect request before after := by
  rcases (before.dispatch_eq_ok_iff after request).mp h with
    ⟨htype, ⟨message, hdecode⟩, rfl⟩ | ⟨htype, command, hdecode, haccept⟩ |
    ⟨htype, ⟨message, hdecode⟩, rfl⟩
  · exact .heartbeat message htype hdecode
  · exact .motion command after htype hdecode ((before.accept_eq_ok_iff after command).mp haccept).1
      (commanded_of_accept before after command (nodup_of_decode _ command hdecode) haccept)
  · exact .estop message htype hdecode

theorem dispatches_of_effect (before after : DigitalTwinRobot K) (request : Frame)
    (h : Effect request before after) : ∃ reached, before.dispatch request = .ok reached := by
  simp only [dispatch_eq_ok_iff]
  cases h with
  | heartbeat message htype hdecode => exact ⟨_, .inl ⟨htype, ⟨message, hdecode⟩, rfl⟩⟩
  | motion command _ htype hdecode hadmits _ =>
    exact ⟨_, .inr (.inl ⟨htype, command, hdecode,
      (before.accept_eq_ok_iff _ command).mpr ⟨hadmits, rfl⟩⟩)⟩
  | estop message htype hdecode => exact ⟨_, .inr (.inr ⟨htype, ⟨message, hdecode⟩, rfl⟩)⟩

/-- No error of a request escapes the device's `except`. -/
theorem caught_dispatch (twin : DigitalTwinRobot K) (request : Frame) :
    Raises (fun e => e.Caught = true) (twin.dispatch request) := by
  unfold dispatch
  cases request.messageType with
  | heartbeat =>
    apply raises_bind _ _ _ (caught_of_mapError _ (Codec.Heartbeat.inverse.decode_raises _))
    intro message _
    exact raises_pure _ _
  | validatedMotionCommand =>
    apply raises_bind _ _ _
      (caught_of_mapError _ (Codec.ValidatedMotionCommand.inverse.decode_raises _))
    intro command _
    exact raises_mapError (fun e : DispatchError K => e.Caught = true) .twin (fun _ => rfl) _
  | estop =>
    apply raises_bind _ _ _ (caught_of_mapError _ (Codec.EmergencyStop.inverse.decode_raises _))
    intro message _
    exact raises_pure _ _
  | gloveTelemetry | ack | nack | robotTelemetry => exact raises_error _ _ rfl

end DigitalTwinRobot

namespace DigitalTwinProtocolDevice
variable {K : Type} [Field K] [LinearOrder K]

/-- The frame acknowledges the sequence with the status. -/
structure Acknowledges (response : Frame) (messageType : MessageType) (sequence : ℕ)
    (status : AckStatus) : Prop where
  type_eq : response.messageType = messageType
  decode_eq : Codec.Acknowledgement.decode response.payload = .ok ⟨sequence, status⟩

theorem acknowledgement_encodes (sequence : ℕ) (status : AckStatus) (h : sequence ≤ 0xFFFF) :
    ∃ payload, Codec.Acknowledgement.encode ⟨sequence, status⟩ = .ok payload ∧
      payload.length ≤ maxPayloadSize := by
  have hstatus := status.value_lt
  have hfits : List.Forall₂ PythonStruct.Field.Fits Codec.Acknowledgement.format
      (Codec.Acknowledgement.toRow ⟨sequence, status⟩) := by
    simp only [Codec.Acknowledgement.format, Codec.Acknowledgement.toRow, List.forall₂_cons,
      PythonStruct.Field.fits_H, PythonStruct.Field.fits_B, List.forall₂_nil_left_iff, and_true]
    omega
  have hpack := (PythonStruct.pack_eq_ok_iff _ _ _).mpr ⟨hfits, rfl⟩
  refine ⟨_, (Codec.Acknowledgement.encode_eq_ok_iff _ _).mpr hpack, ?_⟩
  rw [PythonStruct.length_of_pack _ _ _ hpack]
  decide

/-- The response is sent: neither its payload nor its frame can be refused. -/
theorem respond_sends (device : DigitalTwinProtocolDevice K) (request : Frame)
    (responseType : MessageType) (status : AckStatus) (h : device.responseSequence ≤ 0xFFFF) :
    ∃ response exchange, (device.respond request responseType status).2 = .ok (response, exchange) ∧
      Acknowledges response responseType request.sequence status := by
  obtain ⟨payload, hencode, hlength⟩ :=
    acknowledgement_encodes request.sequence status request.sequence_fits
  have hdecode := Codec.Acknowledgement.inverse.decode_encode _ payload hencode
  let response : Frame := ⟨responseType, device.responseSequence, payload, h, hlength⟩
  refine ⟨response, ⟨request.messageType, request.sequence, status⟩, ?_, rfl, hdecode⟩
  have hnew : Frame.new responseType device.responseSequence payload = .ok response :=
    Frame.new_self response
  unfold respond
  simp only [bind_eq_ok_iff, mapError_eq_ok_iff, pure_eq_ok_iff]
  exact ⟨payload, hencode, response, hnew, rfl⟩

variable [FloorRing K] [SquareRoot K]

theorem responseSequence_fits (device : DigitalTwinProtocolDevice K) (input : DeviceInput K)
    (h : device.responseSequence ≤ 0xFFFF) : (device.handle input).1.responseSequence ≤ 0xFFFF := by
  have hmod : (device.responseSequence+1)%65536 ≤ 0xFFFF := by omega
  cases input with
  | step dt => exact h
  | serve request =>
    change (device.serveOnce request).1.responseSequence ≤ 0xFFFF
    unfold serveOnce
    split
    · exact hmod
    · split_ifs
      · exact hmod
      · exact h

/-- The answer to a request, and what it says of the twin. -/
def Answered (request response : Frame) (before after : DigitalTwinRobot K) : Prop :=
  Acknowledges response .ack request.sequence .ok ∧ before.Effect request after ∨
  Acknowledges response .nack request.sequence .invalid ∧ after = before ∧
    ∀ other, ¬ before.Effect request other

theorem serve_answers (device : DigitalTwinProtocolDevice K) (request : Frame)
    (h : device.responseSequence ≤ 0xFFFF) :
    ∃ response, (device.handle (.serve request)).2 = some response ∧
      Answered request response device.twin (device.handle (.serve request)).1.twin := by
  change ∃ response, ((device.serveOnce request).2.toOption).map Prod.fst = some response ∧
    Answered request response device.twin (device.serveOnce request).1.twin
  cases hdispatch : device.twin.dispatch request with
  | ok twin =>
    obtain ⟨response, exchange, hsent, hacknowledges⟩ :=
      respond_sends { device with twin := twin } request .ack .ok h
    have hserve : (device.serveOnce request).2 = .ok (response, exchange) := by
      unfold serveOnce
      rw [hdispatch]
      exact hsent
    refine ⟨response, by rw [hserve]; rfl, .inl ⟨hacknowledges, ?_⟩⟩
    rw [twin_serveOnce_ok device request twin hdispatch]
    exact device.twin.effect_of_dispatch twin request hdispatch
  | error error =>
    obtain ⟨response, exchange, hsent, hacknowledges⟩ :=
      respond_sends device request .nack .invalid h
    have hserve : (device.serveOnce request).2 = .ok (response, exchange) := by
      unfold serveOnce
      rw [hdispatch]
      dsimp only
      rw [if_pos (device.twin.caught_dispatch request error hdispatch)]
      exact hsent
    refine ⟨response, by rw [hserve]; rfl, .inr ⟨hacknowledges, ?_, ?_⟩⟩
    · exact twin_serveOnce_error device request error hdispatch
    · -- an effect would have been dispatched
      intro other heffect
      obtain ⟨reached, hok⟩ := device.twin.dispatches_of_effect other request heffect
      rw [hdispatch] at hok
      cases hok

/-- In every run of the device each request has one answer: an acknowledgement of the whole
command, or a refusal that changed nothing. -/
theorem every_request_answered (twin : DigitalTwinRobot K) (inputs : List (DeviceInput K)) :
    ∀ e ∈ trace handle ⟨twin, 0⟩ inputs, ∀ request, e.input = .serve request →
      ∃ response, e.output = some response ∧
        Answered request response e.before.twin e.after.twin := by
  intro e he request hrequest
  have hfits := trace_invariant handle responseSequence_fits ⟨twin, 0⟩ (Nat.zero_le _) inputs e he
  have hstep := trace_step handle ⟨twin, 0⟩ inputs e he
  rw [hrequest] at hstep
  have hanswer := serve_answers e.before request hfits
  rwa [hstep] at hanswer

theorem stop_request_answered :
    ∃ response, (referenceDevice.handle (.serve manualStop)).2 = some response ∧
      Answered manualStop response referenceDevice.twin
        (referenceDevice.handle (.serve manualStop)).1.twin :=
  every_request_answered (.ofModel (referenceArm ℚ)) [.serve manualStop] _
    List.mem_cons_self manualStop rfl

end DigitalTwinProtocolDevice
end RoboticCharacter
