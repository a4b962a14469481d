import RoboticCharacter.ProtocolResume
import RoboticCharacter.SimulationGoal

/-! The in-process channel between the gateway and the device: a write waits for room and fails
only on a closed channel, and a receive reads a frame that is there at once. So few frames are
ever on the link that the 16 bit number of a new request is never that of an old one. -/
namespace RoboticCharacter.Simulation
open Safety Gateway PythonMath Machine Robotics Fallible FrameStreamDecoder Host

/-! ### What the channel permits -/
section Permits
variable {K : Type} [Field K] [LinearOrder K]

/-- `capacity_bytes` of a memory transport. -/
def capacityBytes : ℕ := 4096

/-- `read_size` of the runtime's link. -/
def readSize : ℕ := 32

/-- What the device's end may have taken out of the channel without having served it: a part of a
frame, and the last piece that it read. -/
def readAhead : ℕ := frameOverhead+maxPayloadSize+readSize

def linkBytes : ℕ := capacityBytes+readAhead

namespace SimulationRuntime

/-- The bytes of the request whose write is under way. -/
def requestBytes (r : SimulationRuntime K) : ℕ :=
  r.active.elim 0 (fun a => a.request.encode.length)

/-- The answers that the present device task has sent. -/
def answersSent (r : SimulationRuntime K) : ℕ :=
  if r.deviceTask = .answered ∨ r.deviceTask = .done then 1 else 0

/-- What can happen on the channel. A write waits for room, and only a closed channel lets it
fail. A receive that begins reads a frame that is there at once: one that fails has waited on an
empty channel, where only its own device task sends. This task fails only while it receives. -/
def Permits (r : SimulationRuntime K) : RuntimeInput → Prop
  | .request .written => encodedBytes r.toDevice+r.requestBytes ≤ linkBytes
  | .request (.writeFails _) => False
  | .request (.receiveFails _) => r.toHost.length ≤ r.answersSent
  | .request (.deviceFails _) => r.deviceTask = .receiving
  | _ => True

instance (r : SimulationRuntime K) : DecidablePred r.Permits
  | .request .written => inferInstanceAs (Decidable (_ ≤ _))
  | .request (.writeFails _) => .isFalse id
  | .request (.receiveFails _) => inferInstanceAs (Decidable (_ ≤ _))
  | .request (.deviceFails _) => inferInstanceAs (Decidable (_ = _))
  | .request .receive | .request .deviceReturns | .call _ | .grant _ | .serve | .loseRequest
  | .loseResponse | .resetEstop | .readDiagnostics => .isTrue trivial

/-- A step of the runtime on its channel; what the channel does not permit waits. -/
def linkStep [FloorRing K] [SquareRoot K] [ToString K] (env : Surroundings K)
    (r : SimulationRuntime K) (input : RuntimeInput) : SimulationRuntime K × RuntimeOutput K :=
  if r.Permits input then r.step env input else (r, .none)

end SimulationRuntime
end Permits

/-! ### Numbers in the order of the requests -/
section Order

/-- Consecutive numbers, the first of which is that of the request `first`. -/
def NumberedFrom : ℕ → List Frame → Prop
  | _, [] => True
  | first, frame :: rest => frame.sequence = first%65536 ∧ NumberedFrom (first+1) rest

theorem NumberedFrom.snoc {first : ℕ} {frames : List Frame} (h : NumberedFrom first frames)
    {frame : Frame} (hnumber : frame.sequence = (first+frames.length)%65536) :
    NumberedFrom first (frames ++ [frame]) := by
  induction frames generalizing first with
  | nil => exact ⟨hnumber, trivial⟩
  | cons head rest ih =>
    refine ⟨h.1, ih h.2 ?_⟩
    rw [hnumber, List.length_cons]
    congr 1
    omega

theorem NumberedFrom.index {first : ℕ} {frames : List Frame} (h : NumberedFrom first frames)
    {frame : Frame} (hframe : frame ∈ frames) :
    ∃ index, frame.sequence = index%65536 ∧ first ≤ index ∧ index < first+frames.length := by
  induction frames generalizing first with
  | nil => cases hframe
  | cons head rest ih =>
    rw [List.length_cons]
    obtain rfl | hrest := List.mem_cons.mp hframe
    · exact ⟨first, h.1, Nat.le_refl _, by omega⟩
    · obtain ⟨index, hsequence, hge, hlt⟩ := ih h.2 hrest
      exact ⟨index, hsequence, by omega, by omega⟩

theorem length_le_encodedBytes (frames : List Frame) : frames.length ≤ encodedBytes frames := by
  induction frames with
  | nil => exact Nat.le_refl _
  | cons frame rest ih =>
    have htwo := frame.two_le_length_encode
    rw [encodedBytes_cons, List.length_cons]
    omega

/-- The frames are those of the last requests before the request `issued`, and fit the link. -/
structure Queued (issued : ℕ) (frames : List Frame) : Prop where
  numbered : ∃ first, first+frames.length = issued ∧ NumberedFrom first frames
  room : encodedBytes frames ≤ linkBytes

theorem queued_nil : Queued 0 [] := ⟨⟨0, rfl, trivial⟩, Nat.zero_le _⟩

theorem Queued.tail {issued : ℕ} {frames : List Frame} (h : Queued issued frames) :
    Queued issued frames.tail := by
  cases frames with
  | nil => exact h
  | cons frame rest =>
    obtain ⟨first, hlength, hnumbered⟩ := h.numbered
    have hroom := h.room
    rw [encodedBytes_cons] at hroom
    rw [List.length_cons] at hlength
    exact ⟨⟨first+1, by rw [List.tail_cons]; omega, hnumbered.2⟩, by rw [List.tail_cons]; omega⟩

theorem Queued.snoc {issued : ℕ} {frames : List Frame} (h : Queued issued frames) {frame : Frame}
    (hnumber : frame.sequence = issued%65536)
    (hroom : encodedBytes frames+frame.encode.length ≤ linkBytes) :
    Queued (issued+1) (frames ++ [frame]) := by
  obtain ⟨first, hlength, hnumbered⟩ := h.numbered
  refine ⟨⟨first, ?_, hnumbered.snoc (by rw [hlength]; exact hnumber)⟩, ?_⟩
  · rw [List.length_append, List.length_singleton]
    omega
  · rw [encodedBytes_append, encodedBytes_cons, encodedBytes_nil]
    exact hroom

theorem Queued.index {issued : ℕ} {frames : List Frame} (h : Queued issued frames) {frame : Frame}
    (hframe : frame ∈ frames) :
    ∃ index, frame.sequence = index%65536 ∧ index < issued ∧ issued ≤ index+linkBytes := by
  obtain ⟨first, hlength, hnumbered⟩ := h.numbered
  obtain ⟨index, hsequence, hge, hlt⟩ := hnumbered.index hframe
  have hroom := h.room
  have hfew := length_le_encodedBytes frames
  exact ⟨index, hsequence, by omega, by omega⟩

/-- What the frame acknowledges is one of the last `age` requests before the request `issued`. -/
def Recent (issued age : ℕ) (frame : Frame) : Prop :=
  ∀ sequence, RobotGateway.Acknowledges frame sequence →
    ∃ index, sequence = index%65536 ∧ index < issued ∧ issued ≤ index+age

theorem Recent.next {issued age : ℕ} {frame : Frame} (h : Recent issued age frame) :
    Recent (issued+1) (age+1) frame := by
  intro sequence hack
  obtain ⟨index, hsequence, hlt, hle⟩ := h sequence hack
  exact ⟨index, hsequence, by omega, by omega⟩

theorem linkBytes_lt : linkBytes+2 < 65536 := by decide

/-- A number that was given not too long ago is not the next one. -/
theorem next_ne {issued index : ℕ} (hlt : index < issued) (hle : issued ≤ index+(linkBytes+2)) :
    index%65536 ≠ issued%65536 := by
  have hbound := linkBytes_lt
  omega

end Order

/-! ### The frames on the link -/
section Link
variable {K : Type} [Field K] [LinearOrder K]

/-- Between two requests: the next one is the request `issued`, and at most one answer was left
behind, to a request that has failed. -/
structure Settled (issued : ℕ) (r : SimulationRuntime K) : Prop where
  sequence_eq : r.gateway.sequence = issued%65536
  queued : Queued issued r.toDevice
  one : r.toHost.length ≤ 1
  recent : ∀ frame ∈ r.toHost, Recent issued (linkBytes+1) frame

theorem Settled.same {issued : ℕ} {r next : SimulationRuntime K} (h : Settled issued r)
    (hgateway : next.gateway = r.gateway) (hdevice : next.toDevice = r.toDevice)
    (hhost : next.toHost = r.toHost) : Settled issued next := by
  constructor
  · rw [hgateway]
    exact h.sequence_eq
  · rw [hdevice]
    exact h.queued
  · rw [hhost]
    exact h.one
  · rw [hhost]
    exact h.recent

theorem Settled.unambiguous {issued : ℕ} {r : SimulationRuntime K} (h : Settled issued r) :
    r.Unambiguous := by
  constructor
  · intro frame hframe
    obtain ⟨index, hsequence, hlt, hle⟩ := h.queued.index hframe
    rw [hsequence, h.sequence_eq]
    exact next_ne hlt (by omega)
  · intro frame hframe hack
    obtain ⟨index, hsequence, hlt, hle⟩ := h.recent frame hframe _ hack
    rw [h.sequence_eq] at hsequence
    exact next_ne hlt (by omega) hsequence.symm

/-- The requests that were written, when `issued` were before this one. -/
def ActiveCall.written (issued : ℕ) (a : ActiveCall K) : ℕ :=
  if a.phase = .writing then issued else issued+1

/-- The request `issued` is under way: `old` is the answer that was left behind before it, which
the gateway has not read yet, and `own` what its device task has sent. -/
structure UnderWay (issued : ℕ) (old own : List Frame) (r : SimulationRuntime K)
    (a : ActiveCall K) : Prop where
  sequence_eq : r.gateway.sequence = (issued+1)%65536
  number : a.request.sequence = issued%65536
  queued : Queued (a.written issued) r.toDevice
  host_eq : r.toHost = old ++ own
  old_le : old.length ≤ 1
  own_le : own.length ≤ r.answersSent
  unread : old ≠ [] → own.length = r.answersSent ∧ ∀ receipt, a.phase ≠ .awaitingDevice receipt
  old_recent : ∀ frame ∈ old, Recent (issued+1) (linkBytes+2) frame
  own_recent : ∀ frame ∈ own, Recent (issued+1) (linkBytes+1) frame

omit [Field K] [LinearOrder K] in
theorem ActiveCall.written_bounds (issued : ℕ) (a : ActiveCall K) :
    issued ≤ a.written issued ∧ a.written issued ≤ issued+1 := by
  unfold ActiveCall.written
  split_ifs <;> omega

theorem SimulationRuntime.answersSent_le (r : SimulationRuntime K) : r.answersSent ≤ 1 := by
  unfold SimulationRuntime.answersSent
  split_ifs <;> omega

theorem UnderWay.unambiguous {issued : ℕ} {old own : List Frame} {r : SimulationRuntime K}
    {a : ActiveCall K} (h : UnderWay issued old own r a) : r.Unambiguous := by
  constructor
  · intro frame hframe
    obtain ⟨index, hsequence, hlt, hle⟩ := h.queued.index hframe
    obtain ⟨hge, hlater⟩ := a.written_bounds issued
    rw [hsequence, h.sequence_eq]
    exact next_ne (by omega) (by omega)
  · intro frame hframe hack
    rw [h.host_eq] at hframe
    have hrecent : Recent (issued+1) (linkBytes+2) frame := by
      obtain hold | hown := List.mem_append.mp hframe
      · exact h.old_recent frame hold
      · intro sequence hown'
        obtain ⟨index, hsequence, hlt, hle⟩ := h.own_recent frame hown sequence hown'
        exact ⟨index, hsequence, hlt, by omega⟩
    obtain ⟨index, hsequence, hlt, hle⟩ := hrecent _ hack
    rw [h.sequence_eq] at hsequence
    exact next_ne hlt hle hsequence.symm

/-- What is left once the gateway has read a frame is its own device task's. -/
theorem UnderWay.rest {issued : ℕ} {old own : List Frame} {r : SimulationRuntime K}
    {a : ActiveCall K} (h : UnderWay issued old own r a) {response : Frame} {rest : List Frame}
    (hhost : r.toHost = response :: rest) :
    rest.length ≤ r.answersSent ∧ ∀ frame ∈ rest, Recent (issued+1) (linkBytes+1) frame := by
  have hparts := h.host_eq
  rw [hhost] at hparts
  cases old with
  | nil =>
    rw [List.nil_append] at hparts
    have hown := h.own_le
    have hrecent := h.own_recent
    rw [← hparts] at hown hrecent
    rw [List.length_cons] at hown
    exact ⟨by omega, fun frame hframe => hrecent frame (List.mem_cons_of_mem response hframe)⟩
  | cons stale others =>
    have hnone : others = [] := by
      have hone := h.old_le
      rw [List.length_cons] at hone
      exact List.eq_nil_of_length_eq_zero (by omega)
    rw [hnone, List.singleton_append] at hparts
    obtain ⟨-, rfl⟩ := List.cons.inj hparts
    exact ⟨h.own_le, h.own_recent⟩

/-- The request ends with no answer on the link but its own. -/
theorem UnderWay.settled {issued : ℕ} {old own : List Frame} {r next : SimulationRuntime K}
    {a : ActiveCall K} (h : UnderWay issued old own r a) (hphase : a.phase ≠ .writing)
    (hsequence : next.gateway.sequence = r.gateway.sequence) (hdevice : next.toDevice = r.toDevice)
    (hone : next.toHost.length ≤ r.answersSent)
    (hrecent : ∀ frame ∈ next.toHost, Recent (issued+1) (linkBytes+1) frame) :
    Settled (issued+1) next := by
  constructor
  · exact hsequence.trans h.sequence_eq
  · have hqueued := h.queued
    unfold ActiveCall.written at hqueued
    rw [if_neg hphase] at hqueued
    rw [hdevice]
    exact hqueued
  · exact hone.trans r.answersSent_le
  · exact hrecent

/-- What an event that the channel permits makes of the request under way. -/
inductive ChannelStepped (issued : ℕ) :
    SimulationRuntime K × Option (Except RuntimeFailure GatewayReceipt) → Prop
  | goesOn (next : SimulationRuntime K) (b : ActiveCall K) (old own : List Frame)
      (hactive : next.active = some b) (hlink : UnderWay issued old own next b) :
      ChannelStepped issued (next, none)
  | ends (next : SimulationRuntime K) (outcome : Except RuntimeFailure GatewayReceipt)
      (hlink : Settled (issued+1) next) : ChannelStepped issued (next, some outcome)

/-- A device task sends no answer as it ends. -/
theorem SimulationRuntime.answersSent_requestStep {r : SimulationRuntime K} (a : ActiveCall K)
    {event : RequestEvent} (hpermits : r.Permits (.request event)) :
    (r.requestStep a event).1.answersSent = r.answersSent := by
  unfold SimulationRuntime.requestStep
  cases event with
  | written | writeFails | receiveFails =>
    dsimp only
    split_ifs <;> rfl
  | receive =>
    dsimp only
    split
    · split
      · rfl
      · split <;> rfl
    · rfl
  | deviceReturns =>
    dsimp only
    split_ifs with hanswered
    · have hsent : r.answersSent = 1 := if_pos (Or.inl hanswered)
      rw [hsent]
      split <;> rfl
    · rfl
  | deviceFails error =>
    have hreceiving : r.deviceTask = .receiving := hpermits
    have hsent : r.answersSent = 0 := by
      unfold SimulationRuntime.answersSent
      rw [hreceiving]
      rfl
    dsimp only
    rw [if_pos (Or.inl hreceiving), hsent]
    split <;> rfl

theorem requestStep_channel {issued : ℕ} {old own : List Frame} {r : SimulationRuntime K}
    {a : ActiveCall K} (hactive : r.active = some a) (h : UnderWay issued old own r a)
    {event : RequestEvent} (hpermits : r.Permits (.request event)) :
    ChannelStepped issued (r.requestStep a event) := by
  have heffect := r.requestStep_effect a event
  have hsent := SimulationRuntime.answersSent_requestStep a hpermits
  generalize r.requestStep a event = stepped at heffect hsent ⊢
  -- the frame that is read leaves at most the own answer of the request
  have hread {response : Frame} {rest : List Frame} {gateway : RobotGateway}
      {outcome : Except GatewayFailure GatewayReceipt} (hphase : a.phase = .awaitingAnswer)
      (hhost : r.toHost = response :: rest)
      (hfinish : r.gateway.finishRequest a.request.sequence a.request.messageType
        a.errand.authorizationId response = (gateway, outcome)) :
      Settled (issued+1) { r with gateway := gateway, toHost := rest } := by
    have hframe := finishRequest_frame r.gateway a.request.sequence a.request.messageType
      a.errand.authorizationId response
    rw [hfinish] at hframe
    obtain ⟨hone, hrecent⟩ := h.rest hhost
    exact h.settled (by rw [hphase]; exact nofun) hframe.2 rfl hone hrecent
  cases heffect with
  | ignored => exact .goesOn r a old own hactive h
  | written hphase =>
    have hroom : encodedBytes r.toDevice+a.request.encode.length ≤ linkBytes := by
      have hbytes : r.requestBytes = a.request.encode.length := by
        rw [SimulationRuntime.requestBytes, hactive, Option.elim_some]
      rw [← hbytes]
      exact hpermits
    have hqueued := h.queued
    unfold ActiveCall.written at hqueued
    rw [if_pos hphase] at hqueued
    refine .goesOn _ _ old own rfl ?_
    exact
      { h with
        queued := hqueued.snoc h.number hroom
        unread := fun hold => ⟨(h.unread hold).1, nofun⟩ }
  | writeFails => exact absurd hpermits id
  | receiveFails error failure hphase =>
    -- an answer that was left behind would have been read
    have hfew : r.toHost.length ≤ r.answersSent := hpermits
    have hnone : old = [] := by
      by_contra hold
      have hpos := List.length_pos_iff.mpr hold
      rw [h.host_eq, List.length_append, (h.unread hold).1] at hfew
      omega
    have hhost := h.host_eq
    rw [hnone, List.nil_append] at hhost
    refine .ends _ _ (h.settled (by rw [hphase]; exact nofun) rfl rfl hfew ?_)
    rw [hhost]
    exact h.own_recent
  | refused response rest gateway failure hphase hhost hfinish =>
    exact .ends _ _ (hread hphase hhost hfinish)
  | acknowledged response rest gateway receipt outcome hphase hhost hfinish =>
    exact .ends _ _ (hread hphase hhost hfinish)
  | awaits response rest gateway receipt hphase hhost hfinish =>
    have hsettled := hread hphase hhost hfinish
    obtain ⟨hone, hrecent⟩ := h.rest hhost
    refine .goesOn _ _ [] rest rfl ?_
    exact
      { sequence_eq := hsettled.sequence_eq
        number := h.number
        queued := hsettled.queued
        host_eq := rfl
        old_le := Nat.zero_le 1
        own_le := hone
        unread := fun hold => absurd rfl hold
        old_recent := fun frame hframe => absurd hframe List.not_mem_nil
        own_recent := hrecent }
  | taskEnds _ task =>
    refine .goesOn _ a old own hactive ?_
    exact
      { h with
        own_le := by
          rw [hsent]
          exact h.own_le
        unread := by
          rw [hsent]
          exact h.unread }
  | taskAwaited _ task receipt outcome hphase =>
    have hnone : old = [] := by
      by_contra hold
      exact (h.unread hold).2 receipt hphase
    have hhost := h.host_eq
    rw [hnone, List.nil_append] at hhost
    refine .ends _ _ (h.settled (by rw [hphase]; exact nofun) rfl rfl ?_ ?_)
    · rw [hhost]
      exact h.own_le
    · rw [hhost]
      exact h.own_recent

/-! ### The invariant of the channel -/

/-- Nothing is sent without a frame: what the gateway makes of an authorization fits one. -/
def Surroundings.Fits (env : Surroundings K) : Prop :=
  ∀ gateway authorization payload, env.authorizationPayload gateway authorization = .ok payload →
    payload.length ≤ maxPayloadSize

/-- A request whose payload fits a frame is sent, or takes no number. -/
theorem startRequest_cases (g : RobotGateway) (isOpen : Bool) (messageType : MessageType)
    (payload : Except GatewayFailure Bytes)
    (hfits : ∀ bytes, payload = .ok bytes → bytes.length ≤ maxPayloadSize) :
    (∃ failure, g.startRequest isOpen messageType payload = (g, .error failure)) ∨
      ∃ gateway frame, g.startRequest isOpen messageType payload = (gateway, .ok frame) := by
  cases payload with
  | error failure => exact .inl ⟨failure, rfl⟩
  | ok bytes =>
    cases isOpen with
    | false => exact .inl ⟨_, rfl⟩
    | true => exact .inr ⟨_, _, g.startRequest_fits messageType bytes (hfits bytes rfl)⟩

theorem heartbeatPayload_fits {uptimeMs : ℤ} {state : WireSystemState} {bytes : Bytes}
    (h : RobotGateway.heartbeatPayload uptimeMs state = .ok bytes) :
    bytes.length ≤ maxPayloadSize := by
  unfold RobotGateway.heartbeatPayload RobotGateway.liftCodec at h
  split at h
  · cases h
  · rename_i payload hencode
    obtain rfl := Except.ok.inj h
    simp only [Heartbeat.encode, bind_eq_ok_iff, pure_eq_ok_iff] at hencode
    obtain ⟨-, -, rfl⟩ := hencode
    simp only [List.length_append, length_packB, length_packI, maxPayloadSize]
    omega

theorem send_cases {env : Surroundings K} (hfits : env.Fits) (r : SimulationRuntime K)
    (errand : Errand K) : (∃ failure, r.send env errand = (r.gateway, .error failure)) ∨
      ∃ gateway frame, r.send env errand = (gateway, .ok frame) := by
  cases errand with
  | estop =>
    have hestop : (RobotGateway.estopPayload .manual).length ≤ maxPayloadSize := by
      rw [RobotGateway.estopPayload, EmergencyStop.encode, List.length_append, length_packB,
        length_packB, maxPayloadSize]
      omega
    exact startRequest_cases _ _ _ _ fun bytes h => Except.ok.inj h ▸ hestop
  | heartbeat => exact startRequest_cases _ _ _ _ fun bytes h => heartbeatPayload_fits h
  | motion _ _ authorization => exact startRequest_cases _ _ _ _ (hfits r.gateway authorization)

/-- Where the frames on the link stand in the order of all requests. -/
structure ChannelInv (r : SimulationRuntime K) : Prop where
  idle : r.active = none → r.deviceTask = .absent ∧ ∃ issued, Settled issued r
  busy : ∀ a, r.active = some a → ∃ issued old own, UnderWay issued old own r a

theorem ChannelInv.of_idle {r : SimulationRuntime K} (hactive : r.active = none)
    (htask : r.deviceTask = .absent) {issued : ℕ} (h : Settled issued r) : ChannelInv r where
  idle := fun _ => ⟨htask, issued, h⟩
  busy := fun a ha => by
    rw [hactive] at ha
    cases ha

theorem ChannelInv.of_active {r : SimulationRuntime K} {a : ActiveCall K}
    (hactive : r.active = some a) {issued : ℕ} {old own : List Frame}
    (h : UnderWay issued old own r a) : ChannelInv r where
  idle := fun hnone => by
    rw [hactive] at hnone
    cases hnone
  busy := fun b hb => by
    obtain rfl := Option.some.inj (hactive.symm.trans hb)
    exact ⟨issued, old, own, h⟩

theorem ChannelInv.unambiguous {r : SimulationRuntime K} (h : ChannelInv r) : r.Unambiguous := by
  cases hactive : r.active with
  | none =>
    obtain ⟨-, issued, hsettled⟩ := h.idle hactive
    exact hsettled.unambiguous
  | some a =>
    obtain ⟨issued, old, own, hlink⟩ := h.busy a hactive
    exact hlink.unambiguous

/-- Of the parts that a runtime is made of, the link depends on these only. -/
theorem ChannelInv.same {r next : SimulationRuntime K} (h : ChannelInv r)
    (hactive : next.active = r.active) (htask : next.deviceTask = r.deviceTask)
    (hgateway : next.gateway = r.gateway) (hdevice : next.toDevice = r.toDevice)
    (hhost : next.toHost = r.toHost) : ChannelInv next where
  idle := fun hnone => by
    obtain ⟨habsent, issued, hsettled⟩ := h.idle (hactive.symm.trans hnone)
    exact ⟨htask.trans habsent, issued, hsettled.same hgateway hdevice hhost⟩
  busy := fun a ha => by
    obtain ⟨issued, old, own, hlink⟩ := h.busy a (hactive.symm.trans ha)
    have hsent : next.answersSent = r.answersSent := by
      unfold SimulationRuntime.answersSent
      rw [htask]
    refine ⟨issued, old, own, ?_⟩
    exact
      { hlink with
        sequence_eq := by
          rw [hgateway]
          exact hlink.sequence_eq
        queued := by
          rw [hdevice]
          exact hlink.queued
        host_eq := hhost.trans hlink.host_eq
        own_le := by
          rw [hsent]
          exact hlink.own_le
        unread := by
          rw [hsent]
          exact hlink.unread }

/-- A request that starts leaves the link as it is, with at most one old answer on it. -/
theorem Settled.startErrand {issued : ℕ} {r : SimulationRuntime K} (h : Settled issued r)
    {env : Surroundings K} (hfits : env.Fits) (id : ℕ) (errand : Errand K) :
    ChannelInv (r.startErrand env id errand).1 := by
  unfold SimulationRuntime.startErrand
  obtain ⟨failure, hsend⟩ | ⟨gateway, frame, hsend⟩ := send_cases hfits r errand
  · rw [hsend]
    exact .of_idle rfl rfl (h.same rfl rfl rfl)
  · rw [hsend]
    obtain ⟨htaken, hnext⟩ := send_sequence hsend
    refine .of_active rfl (?_ : UnderWay issued r.toHost [] _ _)
    exact
      { sequence_eq := by
          rw [hnext, htaken, h.sequence_eq]
          omega
        number := htaken.trans h.sequence_eq
        queued := h.queued
        host_eq := (List.append_nil _).symm
        old_le := h.one
        own_le := Nat.zero_le _
        unread := fun _ => ⟨rfl, nofun⟩
        old_recent := fun frame hframe => (h.recent frame hframe).next
        own_recent := fun frame hframe => absurd hframe List.not_mem_nil }

/-- The device task answers the first frame that is there, with the number of that frame. -/
theorem ChannelInv.serve {r : SimulationRuntime K} (h : ChannelInv r) : ChannelInv r.serve := by
  unfold SimulationRuntime.serve
  split
  · rename_i request rest hreceiving hdevice
    have hsent : r.answersSent = 0 := by
      unfold SimulationRuntime.answersSent
      rw [hreceiving]
      rfl
    cases hactive : r.active with
    | none =>
      have habsent := (h.idle hactive).1
      rw [hreceiving] at habsent
      cases habsent
    | some a =>
      obtain ⟨issued, old, own, hlink⟩ := h.busy a hactive
      have hnone : own = [] := by
        have hown := hlink.own_le
        rw [hsent] at hown
        exact List.eq_nil_of_length_eq_zero (Nat.le_zero.mp hown)
      have hqueued := hlink.queued.tail
      rw [hdevice, List.tail_cons] at hqueued
      have hhost := hlink.host_eq
      rw [hnone, List.append_nil] at hhost
      split
      · rename_i device response exchange hserve
        have hresponse : (r.device.serveOnce request).2 = .ok (response, exchange) := by rw [hserve]
        refine .of_active rfl (?_ : UnderWay issued old [response] _ a)
        exact
          { hlink with
            queued := hqueued
            host_eq := by rw [hhost]
            own_le := Nat.le_refl 1
            unread := fun hold => ⟨rfl, (hlink.unread hold).2⟩
            own_recent := by
              intro frame hframe sequence hack
              rw [List.mem_singleton.mp hframe] at hack
              obtain ⟨index, hsequence, hlt, hle⟩ := hlink.queued.index
                (hdevice ▸ List.mem_cons_self : request ∈ r.toDevice)
              obtain ⟨hge, hlater⟩ := a.written_bounds issued
              refine ⟨index, ?_, by omega, by omega⟩
              rw [← hsequence]
              exact (serveOnce_acknowledges hresponse hack).symm }
      · refine .of_active rfl (?_ : UnderWay issued old [] _ a)
        exact
          { hlink with
            queued := hqueued
            host_eq := by rw [hhost, List.append_nil]
            own_le := Nat.zero_le _
            unread := fun hold => ⟨rfl, (hlink.unread hold).2⟩
            own_recent := fun frame hframe => absurd hframe List.not_mem_nil }
  · exact h

theorem ChannelInv.loseRequest {r : SimulationRuntime K} (h : ChannelInv r) :
    ChannelInv { r with toDevice := r.toDevice.tail } where
  idle := fun hnone => by
    obtain ⟨habsent, issued, hsettled⟩ := h.idle hnone
    exact ⟨habsent, issued, { hsettled with queued := hsettled.queued.tail }⟩
  busy := fun a ha => by
    obtain ⟨issued, old, own, hlink⟩ := h.busy a ha
    exact ⟨issued, old, own, { hlink with queued := hlink.queued.tail }⟩

/-- An old answer is in front of the own one, so that it is the first to get lost. -/
theorem ChannelInv.loseResponse {r : SimulationRuntime K} (h : ChannelInv r) :
    ChannelInv { r with toHost := r.toHost.tail } where
  idle := fun hnone => by
    obtain ⟨habsent, issued, hsettled⟩ := h.idle hnone
    refine ⟨habsent, issued, { hsettled with one := ?_, recent := ?_ }⟩
    · have hone := hsettled.one
      rw [List.length_tail]
      omega
    · exact fun frame hframe => hsettled.recent frame (List.mem_of_mem_tail hframe)
  busy := fun a ha => by
    obtain ⟨issued, old, own, hlink⟩ := h.busy a ha
    cases hhost : r.toHost with
    | nil =>
      refine ⟨issued, old, own, { hlink with host_eq := ?_ }⟩
      rw [← hlink.host_eq, hhost]
      rfl
    | cons response rest =>
      obtain ⟨hone, hrecent⟩ := hlink.rest hhost
      refine ⟨issued, [], rest, ?_⟩
      exact
        { hlink with
          host_eq := rfl
          old_le := Nat.zero_le 1
          own_le := hone
          unread := fun hold => absurd rfl hold
          old_recent := fun frame hframe => absurd hframe List.not_mem_nil
          own_recent := hrecent }

section Steps
variable [FloorRing K] [SquareRoot K] [ToString K]

omit [FloorRing K] [SquareRoot K] in
theorem ChannelInv.grant {r : SimulationRuntime K} (h : ChannelInv r) {env : Surroundings K}
    (hfits : env.Fits) (uuid : Uuid) : ChannelInv (r.grant env uuid).1 := by
  obtain hidle | ⟨call, rest, hactive, -, hcall⟩ := r.grant_cases env uuid
  · rw [hidle]
    exact h
  · obtain ⟨htask, issued, hsettled⟩ := h.idle hactive
    have hgranted : Settled issued (r.granted rest) := hsettled.same rfl rfl rfl
    obtain ⟨-, hgrant⟩ | ⟨intent, -, hgrant⟩ := hcall
    · rw [hgrant]
      exact hgranted.startErrand hfits call.id .estop
    · rw [hgrant]
      unfold SimulationRuntime.beginExecute
      split
      · exact .of_idle hactive htask hgranted
      · dsimp only
        split
        · refine Settled.startErrand (?_ : Settled issued _) hfits _ _
          exact hgranted.same rfl rfl rfl
        · exact .of_idle hactive htask (hgranted.same rfl rfl rfl)

/-- The call goes on with a receipt once its request has ended. -/
theorem Settled.resume {issued : ℕ} {r : SimulationRuntime K} (h : Settled issued r)
    {env : Surroundings K} (hfits : env.Fits) (a : ActiveCall K) (receipt : GatewayReceipt) :
    ChannelInv (r.resume env a receipt).1 := by
  unfold SimulationRuntime.resume
  split
  · exact .of_idle rfl rfl (h.same rfl rfl rfl)
  · exact h.startErrand hfits _ _
  · unfold SimulationRuntime.finishExecute
    dsimp only
    split_ifs
    · exact .of_idle rfl rfl (h.same rfl rfl rfl)
    · exact .of_idle rfl rfl (h.same rfl rfl rfl)

theorem ChannelInv.step {r : SimulationRuntime K} (h : ChannelInv r) {env : Surroundings K}
    (hfits : env.Fits) {input : RuntimeInput} (hpermits : r.Permits input) :
    ChannelInv (r.step env input).1 := by
  cases input with
  | call kind => exact h.same rfl rfl rfl rfl rfl
  | grant uuid => exact h.grant hfits uuid
  | request event =>
    unfold SimulationRuntime.step
    cases hactive : r.active with
    | none => exact h
    | some a =>
      obtain ⟨issued, old, own, hlink⟩ := h.busy a hactive
      have hstepped := requestStep_channel hactive hlink hpermits
      dsimp only
      generalize r.requestStep a event = stepped at hstepped ⊢
      cases hstepped with
      | goesOn next b old own hnext hlater => exact .of_active hnext hlater
      | ends next outcome hsettled =>
        cases outcome with
        | error failure => exact .of_idle rfl rfl (hsettled.same rfl rfl rfl)
        | ok receipt => exact hsettled.resume hfits a receipt
  | serve => exact h.serve
  | loseRequest => exact h.loseRequest
  | loseResponse => exact h.loseResponse
  | resetEstop =>
    unfold SimulationRuntime.step SimulationRuntime.resetEstop
    dsimp only
    split_ifs
    · exact h
    · exact h.same rfl rfl rfl rfl rfl
  | readDiagnostics => exact h.same rfl rfl rfl rfl rfl

/-- A step on the channel is none, or one that the channel permits. -/
theorem SimulationRuntime.linkStep_cases (env : Surroundings K) (r : SimulationRuntime K)
    (input : RuntimeInput) : r.linkStep env input = (r, .none) ∨
      r.Permits input ∧ r.linkStep env input = r.step env input := by
  unfold SimulationRuntime.linkStep
  split_ifs with hpermits
  · exact Or.inr ⟨hpermits, rfl⟩
  · exact Or.inl rfl

theorem ChannelInv.linkStep {r : SimulationRuntime K} (h : ChannelInv r) {env : Surroundings K}
    (hfits : env.Fits) (input : RuntimeInput) : ChannelInv (r.linkStep env input).1 := by
  obtain hwaits | ⟨hpermits, hstep⟩ := r.linkStep_cases env input
  · rw [hwaits]
    exact h
  · rw [hstep]
    exact h.step hfits hpermits

omit [FloorRing K] [SquareRoot K] [ToString K] in
theorem channelInv_fresh (model : RobotModel K) (supervisor : MotionSafetySupervisor K) (stepS : K)
    (hstep : 0 < stepS) : ChannelInv (SimulationRuntime.fresh model supervisor stepS hstep) := by
  refine .of_idle rfl rfl (?_ : Settled 0 _)
  exact ⟨rfl, queued_nil, Nat.zero_le 1, fun frame hframe => absurd hframe List.not_mem_nil⟩

end Steps
end Link

section Behavior
variable {K : Type} [Field K] [LinearOrder K] [FloorRing K] [SquareRoot K] [Trigonometry K]
  [ToString K]

/-- A command has at most eight targets, so that it always fits a frame. -/
theorem behaviorSurroundings_fits (arm : ArmModel K) (stepS : K) :
    (behaviorSurroundings arm stepS).Fits := by
  intro gateway authorization payload hpayload
  change Gateway.Exact.authorizationPayload gateway authorization = .ok payload at hpayload
  unfold Gateway.Exact.authorizationPayload at hpayload
  obtain ⟨command, -, hencoded⟩ := (bind_eq_ok_iff _ _ _).mp hpayload
  unfold RobotGateway.liftCodec at hencoded
  split at hencoded
  · cases hencoded
  · rename_i bytes hbytes
    obtain rfl := Except.ok.inj hencoded
    obtain ⟨hencodable, rfl⟩ := (command.encode_eq_ok_iff _).mp hbytes
    have hcount := hencodable.count_le
    unfold maxJointTargets at hcount
    rw [command.length_pack, maxPayloadSize]
    omega

end Behavior
end RoboticCharacter.Simulation
