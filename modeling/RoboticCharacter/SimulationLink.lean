import RoboticCharacter.SimulationSettle
import RoboticCharacter.SimulationLatch
import RoboticCharacter.EventHistory

/-! The request of the call that holds the lock, on a link that earlier requests may have left
frames on: which acknowledgements it takes, and when it starts. -/
namespace RoboticCharacter.Simulation
open Safety Gateway PythonMath Machine Fallible

abbrev RuntimeEvent (K : Type) [Field K] [LinearOrder K] :=
  Event (SimulationRuntime K) RuntimeInput (RuntimeOutput K)

section Link
variable {K : Type} [Field K] [LinearOrder K]

/-- Frame numbers have 16 bits. The number that the gateway gives next is neither that of a frame
left on the link nor acknowledged by one. -/
structure SimulationRuntime.Unambiguous (r : SimulationRuntime K) : Prop where
  unsent : ∀ frame ∈ r.toDevice, frame.sequence ≠ r.gateway.sequence
  unacknowledged : ∀ frame ∈ r.toHost, ¬ RobotGateway.Acknowledges frame r.gateway.sequence

theorem SimulationRuntime.Unambiguous.withSupervisor {r : SimulationRuntime K}
    (h : r.Unambiguous) (supervisor : MotionSafetySupervisor K) :
    SimulationRuntime.Unambiguous { r with supervisor := supervisor } :=
  ⟨h.unsent, h.unacknowledged⟩

/-- An acknowledgement of the request is on its way to the gateway, or was read. -/
def SimulationRuntime.Answered (r : SimulationRuntime K) (a : ActiveCall K) : Prop :=
  (∃ frame ∈ r.toHost, RobotGateway.Acknowledges frame a.request.sequence) ∨
    ∃ receipt, a.phase = .awaitingDevice receipt

/-- The frames that the request under way has on the link, among those that earlier requests left
there. `served` is what an acknowledgement of the request stands for. -/
structure OnLink (r : SimulationRuntime K) (a : ActiveCall K) (served : Prop) : Prop where
  numbered : ∀ frame ∈ r.toDevice, frame.sequence = a.request.sequence → frame = a.request
  answered : r.Answered a → r.deviceTask ≠ .receiving ∧ served

/-- Fewer frames on the link, and an answer that was there before. -/
theorem OnLink.mono {r next : SimulationRuntime K} {a b : ActiveCall K} {served later : Prop}
    (h : OnLink r a served) (hrequest : b.request = a.request)
    (hdevice : ∀ frame ∈ next.toDevice, frame ∈ r.toDevice ∨ frame = a.request)
    (hanswered : next.Answered b → r.Answered a ∧ next.deviceTask ≠ .receiving)
    (hserved : served → later) : OnLink next b later where
  numbered := fun frame hframe hsequence => by
    rw [hrequest] at hsequence ⊢
    obtain hbefore | hown := hdevice frame hframe
    · exact h.numbered frame hbefore hsequence
    · exact hown
  answered := fun hanswer =>
    ⟨(hanswered hanswer).2, hserved (h.answered (hanswered hanswer).1).2⟩

/-- The device task may end, but it does not start again. -/
theorem OnLink.same {r next : SimulationRuntime K} {a : ActiveCall K} {served later : Prop}
    (h : OnLink r a served) (hdevice : ∀ frame ∈ next.toDevice, frame ∈ r.toDevice)
    (hhost : ∀ frame ∈ next.toHost, frame ∈ r.toHost)
    (htask : next.deviceTask = .receiving → r.deviceTask = .receiving)
    (hserved : served → later) : OnLink next a later := by
  refine h.mono rfl (fun frame hframe => Or.inl (hdevice frame hframe)) ?_ hserved
  intro hanswer
  have hbefore : r.Answered a := by
    obtain ⟨frame, hframe, hack⟩ | hread := hanswer
    · exact Or.inl ⟨frame, hhost frame hframe, hack⟩
    · exact Or.inr hread
  exact ⟨hbefore, fun hreceiving => (h.answered hbefore).1 (htask hreceiving)⟩

theorem finishRequest_frame (g : RobotGateway) (sequence : ℕ) (messageType : MessageType)
    (authorizationId : Option Uuid) (response : Frame) :
    let after := (g.finishRequest sequence messageType authorizationId response).1
    after.jointProtocolIds = g.jointProtocolIds ∧ after.sequence = g.sequence := by
  have hfinished := g.finished sequence messageType authorizationId response
  generalize g.finishRequest sequence messageType authorizationId response = result
    at hfinished ⊢
  cases hfinished with
  | accepted | rejected | failed => exact ⟨rfl, rfl⟩

/-- An event of the request under way gives no new number, and brings at most the request itself on
the link. -/
structure SameNumbers (r : SimulationRuntime K) (a : ActiveCall K) (after : SimulationRuntime K) :
    Prop where
  ids_eq : after.gateway.jointProtocolIds = r.gateway.jointProtocolIds
  sequence_eq : after.gateway.sequence = r.gateway.sequence
  toDevice_subset : ∀ frame ∈ after.toDevice, frame ∈ r.toDevice ∨ frame = a.request
  toHost_subset : ∀ frame ∈ after.toHost, frame ∈ r.toHost
  request_eq : ∀ b, after.active = some b → b.request = a.request

theorem sameNumbers_requestStep {r : SimulationRuntime K} {a : ActiveCall K}
    (hactive : r.active = some a) (event : RequestEvent) :
    SameNumbers r a (r.requestStep a event).1 := by
  have hrequest : ∀ b, r.active = some b → b.request = a.request := by
    intro b hb
    rw [Option.some.inj (hb.symm.trans hactive)]
  -- what the gateway reads leaves the link, and the gateway keeps its numbers
  have hread (response : Frame) (rest : List Frame) (gateway : RobotGateway)
      (outcome : Except GatewayFailure GatewayReceipt) (hhost : r.toHost = response :: rest)
      (hfinish : r.gateway.finishRequest a.request.sequence a.request.messageType
        a.errand.authorizationId response = (gateway, outcome)) :
      (gateway.jointProtocolIds = r.gateway.jointProtocolIds ∧
        gateway.sequence = r.gateway.sequence) ∧ ∀ frame ∈ rest, frame ∈ r.toHost := by
    have hframe := finishRequest_frame r.gateway a.request.sequence a.request.messageType
      a.errand.authorizationId response
    rw [hfinish] at hframe
    refine ⟨hframe, ?_⟩
    rw [hhost]
    exact fun frame h => List.mem_cons_of_mem response h
  have heffect := r.requestStep_effect a event
  generalize r.requestStep a event = stepped at heffect ⊢
  cases heffect with
  | written =>
    refine ⟨rfl, rfl, ?_, fun _ => id, ?_⟩
    · intro frame hframe
      obtain hbefore | hown := List.mem_append.mp hframe
      · exact Or.inl hbefore
      · exact Or.inr (List.mem_singleton.mp hown)
    · intro b hb
      rw [← Option.some.inj hb]
  | refused response rest gateway failure _ hhost hfinish =>
    obtain ⟨hframe, hrest⟩ := hread response rest gateway _ hhost hfinish
    exact ⟨hframe.1, hframe.2, fun _ => Or.inl, hrest, hrequest⟩
  | acknowledged response rest gateway receipt outcome _ hhost hfinish =>
    obtain ⟨hframe, hrest⟩ := hread response rest gateway _ hhost hfinish
    exact ⟨hframe.1, hframe.2, fun _ => Or.inl, hrest, hrequest⟩
  | awaits response rest gateway receipt _ hhost hfinish =>
    obtain ⟨hframe, hrest⟩ := hread response rest gateway _ hhost hfinish
    refine ⟨hframe.1, hframe.2, fun _ => Or.inl, hrest, ?_⟩
    intro b hb
    rw [← Option.some.inj hb]
  | ignored | writeFails | receiveFails | taskEnds | taskAwaited =>
    exact ⟨rfl, rfl, fun _ => Or.inl, fun _ => id, hrequest⟩

/-- What an event makes of the request under way: its frames go on, it ends with a receipt of an
acknowledgement, or it raises. -/
inductive LinkOutcome (r : SimulationRuntime K) (a : ActiveCall K) (served : Prop) :
    SimulationRuntime K × Option (Except RuntimeFailure GatewayReceipt) → Prop
  | goesOn (next : SimulationRuntime K) (b : ActiveCall K) (hactive : next.active = some b)
      (hid : b.id = a.id) (herrand : b.errand = a.errand) (hrequest : b.request = a.request)
      (hlink : OnLink next b served) : LinkOutcome r a served (next, none)
  | returns (next : SimulationRuntime K) (receipt : GatewayReceipt)
      (hdevice : next.toDevice = r.toDevice) (hserved : served) :
      LinkOutcome r a served (next, some (.ok receipt))
  | raises (next : SimulationRuntime K) (failure : RuntimeFailure) :
      LinkOutcome r a served (next, some (.error failure))

/-- The device task ends while its request is under way. -/
theorem OnLink.taskEnds {r : SimulationRuntime K} {a : ActiveCall K} {served : Prop}
    (h : OnLink r a served) (task : DeviceTask) (htask : task ≠ .receiving) :
    OnLink { r with deviceTask := task } a served :=
  h.same (fun _ hframe => hframe) (fun _ hframe => hframe)
    (fun hreceiving => absurd hreceiving htask) id

/-- A receipt is given for an acknowledgement only, and that was on the link. -/
theorem SimulationRuntime.answered_of_receipt {r : SimulationRuntime K} {a : ActiveCall K}
    {response : Frame} {rest : List Frame} {gateway : RobotGateway} {receipt : GatewayReceipt}
    (hhost : r.toHost = response :: rest)
    (hfinish : r.gateway.finishRequest a.request.sequence a.request.messageType
      a.errand.authorizationId response = (gateway, .ok receipt)) : r.Answered a := by
  have hack : RobotGateway.Acknowledges response a.request.sequence := by
    apply (r.gateway.finishRequest_receipt_iff a.request.sequence a.request.messageType
      a.errand.authorizationId response).mp
    exact ⟨receipt, by rw [hfinish]⟩
  left
  exact ⟨response, by rw [hhost]; exact List.mem_cons_self, hack⟩

theorem requestStep_link {r : SimulationRuntime K} {a : ActiveCall K} {served : Prop}
    (hactive : r.active = some a) (h : OnLink r a served) (event : RequestEvent) :
    LinkOutcome r a served (r.requestStep a event) := by
  have heffect := r.requestStep_effect a event
  generalize r.requestStep a event = stepped at heffect ⊢
  cases heffect with
  | ignored => exact .goesOn r a hactive rfl rfl rfl h
  | writeFails | receiveFails | refused => exact .raises _ _
  | written =>
    refine .goesOn _ _ rfl rfl rfl rfl (h.mono rfl ?_ ?_ id)
    · intro frame hframe
      obtain hbefore | hown := List.mem_append.mp hframe
      · exact Or.inl hbefore
      · exact Or.inr (List.mem_singleton.mp hown)
    · rintro (hhost | ⟨receipt, hread⟩)
      · exact ⟨Or.inl hhost, (h.answered (Or.inl hhost)).1⟩
      · cases hread
  | acknowledged response rest gateway receipt outcome _ hhost hfinish houtcome =>
    obtain rfl | ⟨failure, rfl⟩ := houtcome
    · exact .returns _ _ rfl (h.answered (SimulationRuntime.answered_of_receipt hhost hfinish)).2
    · exact .raises _ _
  | awaits response rest gateway receipt _ hhost hfinish =>
    have hanswered := SimulationRuntime.answered_of_receipt hhost hfinish
    refine .goesOn _ _ rfl rfl rfl rfl ?_
    exact h.mono rfl (fun _ hframe => Or.inl hframe)
      (fun _ => ⟨hanswered, (h.answered hanswered).1⟩) id
  | taskEnds _ task htask => exact .goesOn _ a hactive rfl rfl rfl (h.taskEnds task htask)
  | taskAwaited _ _ receipt outcome hphase houtcome =>
    obtain rfl | ⟨failure, rfl⟩ := houtcome
    · exact .returns _ _ rfl (h.answered (Or.inr ⟨receipt, hphase⟩)).2
    · exact .raises _ _

/-- A request that returns leaves no more on the link than there was. -/
theorem SimulationRuntime.Unambiguous.of_sameNumbers {r next : SimulationRuntime K}
    {a : ActiveCall K} (h : r.Unambiguous) (hsame : SameNumbers r a next)
    (hdevice : next.toDevice = r.toDevice) :
    next.Unambiguous where
  unsent := by
    rw [hdevice, hsame.sequence_eq]
    exact h.unsent
  unacknowledged := by
    rw [hsame.sequence_eq]
    exact fun frame hframe => h.unacknowledged frame (hsame.toHost_subset frame hframe)

/-- A frame that is sent has the gateway's number and the payload that was asked for. -/
structure Starts (g after : RobotGateway) (messageType : MessageType)
    (payload : Except GatewayFailure Bytes) (frame : Frame) : Prop where
  type_eq : frame.messageType = messageType
  sequence_eq : frame.sequence = g.sequence
  next_eq : after.sequence = (g.sequence+1)%65536
  payload_eq : payload = .ok frame.payload

theorem startRequest_starts {g after : RobotGateway} {isOpen : Bool} {messageType : MessageType}
    {payload : Except GatewayFailure Bytes} {frame : Frame}
    (h : g.startRequest isOpen messageType payload = (after, .ok frame)) :
    Starts g after messageType payload frame := by
  unfold RobotGateway.startRequest at h
  cases payload with
  | error failure => cases h
  | ok bytes =>
    dsimp only at h
    split_ifs at h
    · cases h
    · cases hnew : Frame.new messageType g.sequence bytes with
      | error error =>
        rw [hnew] at h
        cases h
      | ok made =>
        rw [hnew] at h
        cases h
        unfold Frame.new at hnew
        split_ifs at hnew
        rw [← Except.ok.inj hnew]
        exact ⟨rfl, rfl, rfl, rfl⟩

/-- A request that is started takes the next number, sent or not, or leaves the gateway. -/
theorem startRequest_gateway (g : RobotGateway) (isOpen : Bool) (messageType : MessageType)
    (payload : Except GatewayFailure Bytes) :
    (g.startRequest isOpen messageType payload).1 = g ∨
      (g.startRequest isOpen messageType payload).1 = g.nextSequence := by
  unfold RobotGateway.startRequest
  split
  · exact Or.inl rfl
  · split_ifs
    · exact Or.inl rfl
    · right
      split <;> rfl

theorem send_gateway (env : Surroundings K) (r : SimulationRuntime K) (errand : Errand K) :
    (r.send env errand).1 = r.gateway ∨ (r.send env errand).1 = r.gateway.nextSequence := by
  cases errand with
  | estop => exact startRequest_gateway _ _ _ _
  | heartbeat intent decision authorization => exact startRequest_gateway _ _ _ _
  | motion intent decision authorization receipt => exact startRequest_gateway _ _ _ _

/-- The frame of a request takes the number of the gateway, which goes on to the next. -/
theorem send_sequence {env : Surroundings K} {r : SimulationRuntime K} {errand : Errand K}
    {gateway : RobotGateway} {frame : Frame} (h : r.send env errand = (gateway, .ok frame)) :
    frame.sequence = r.gateway.sequence ∧ gateway.sequence = (frame.sequence+1)%65536 := by
  have hstarts : ∃ messageType payload, Starts r.gateway gateway messageType payload frame := by
    cases errand with
    | estop =>
      unfold SimulationRuntime.send RobotGateway.sendEstop at h
      exact ⟨_, _, startRequest_starts h⟩
    | heartbeat intent decision authorization => exact ⟨_, _, startRequest_starts h⟩
    | motion intent decision authorization receipt => exact ⟨_, _, startRequest_starts h⟩
  obtain ⟨messageType, payload, hstarts⟩ := hstarts
  exact ⟨hstarts.sequence_eq, by rw [hstarts.next_eq, hstarts.sequence_eq]⟩

/-- A request is not sent, and the call raises, or its frame is about to be written. -/
theorem startErrand_cases (env : Surroundings K) (r : SimulationRuntime K) (id : ℕ)
    (errand : Errand K) : ∃ gateway, (gateway = r.gateway ∨ gateway = r.gateway.nextSequence) ∧
      ((∃ failure, r.startErrand env id errand =
          ({ r with gateway := gateway }.release, errand.raised id (.gateway failure))) ∨
        ∃ frame, r.send env errand = (gateway, .ok frame) ∧ r.startErrand env id errand =
          ({ r with gateway := gateway, active := some ⟨id, errand, frame, .writing⟩,
                    deviceTask := .receiving }, .none)) := by
  have hgateway := send_gateway env r errand
  unfold SimulationRuntime.startErrand
  cases hsend : r.send env errand with
  | mk gateway outcome =>
    rw [hsend] at hgateway
    cases outcome with
    | error failure => exact ⟨gateway, hgateway, Or.inl ⟨failure, rfl⟩⟩
    | ok frame => exact ⟨gateway, hgateway, Or.inr ⟨frame, rfl, rfl⟩⟩

/-- The device acknowledges the number of the frame that it serves. -/
theorem respond_acknowledges {device : DigitalTwinProtocolDevice K} {request response : Frame}
    {responseType : MessageType} {status : AckStatus} {exchange : DigitalTwinExchange}
    (h : (device.respond request responseType status).2 = .ok (response, exchange)) {sequence : ℕ}
    (hack : RobotGateway.Acknowledges response sequence) : request.sequence = sequence := by
  simp only [DigitalTwinProtocolDevice.respond, bind_eq_ok_iff, mapError_eq_ok_iff,
    pure_eq_ok_iff, Prod.mk.injEq] at h
  obtain ⟨payload, hencode, frame, hnew, rfl, -⟩ := h
  have hpayload : frame.payload = payload := by
    unfold Frame.new at hnew
    split_ifs at hnew
    rw [← Except.ok.inj hnew]
  have hagrees := (Codec.Acknowledgement.encode_agrees _ payload).mp hencode
  simp only [Acknowledgement.encode, bind_eq_ok_iff, pure_eq_ok_iff, Int.toNat_natCast] at hagrees
  obtain ⟨-, -, hbytes⟩ := hagrees
  have hlt : request.sequence < 65536 := Nat.lt_succ_of_le request.sequence_fits
  have hdecode := hack.2
  rw [hpayload, ← hbytes, Acknowledgement.decode_pack request.sequence hlt status] at hdecode
  have hsame := congrArg Acknowledgement.acknowledgedSequence (Except.ok.inj hdecode)
  exact Nat.cast_injective hsame

theorem serveOnce_acknowledges {device : DigitalTwinProtocolDevice K} {request response : Frame}
    {exchange : DigitalTwinExchange} (h : (device.serveOnce request).2 = .ok (response, exchange))
    {sequence : ℕ} (hack : RobotGateway.Acknowledges response sequence) :
    request.sequence = sequence := by
  unfold DigitalTwinProtocolDevice.serveOnce at h
  split at h
  · exact respond_acknowledges h hack
  · split_ifs at h
    · exact respond_acknowledges h hack

end Link
end RoboticCharacter.Simulation
