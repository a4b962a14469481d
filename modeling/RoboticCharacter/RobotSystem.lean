import RoboticCharacter.GatewayReceipts
import RoboticCharacter.GatewayExchange
import RoboticCharacter.FirmwareLatch
import RoboticCharacter.EventHistory

/-! The host's gateway and the robot sketch at the two ends of one serial line: the sketch reads
the gateway's frames byte by byte, and only what it writes comes back. -/
namespace RoboticCharacter
open Gateway Firmware Host

/-- The two ends; `incoming` has the bytes of a frame that the sketch has not read yet. -/
structure RobotSystem where
  host : Interleaving
  robot : SerialState
  incoming : Bytes

inductive SystemAction
  /-- A step of the host's; one of its peer's is no step here. -/
  | host (action : Action)
  /-- The next frame is at the robot's port; the first `lost` of those sent never are. -/
  | arrive (lost : ℕ)
  /-- The loop reads a byte. -/
  | readByte (nowMs : UInt32)
  | tick (nowMs : UInt32)

inductive SystemOutput
  | quiet
  | outcome (outcome : Interleaving.Outcome)
  /-- `HandleFrame` was called with the bytes of a request, and returned a result. -/
  | handled (number : ℕ) (data : Bytes) (result : DispatchResult)
  deriving DecidableEq

namespace RobotSystem

def ofPeer : Action → Bool
  | .deliver _ => true
  | .answer _ _ => true
  | .emit _ => true
  | _ => false

def hostStep (s : RobotSystem) (action : Action) : RobotSystem × SystemOutput :=
  if ofPeer action = true then (s, .quiet)
  else
    match s.host.step action with
    | (host, some outcome) => ({ s with host }, .outcome outcome)
    | (host, none) => ({ s with host }, .quiet)

/-- Frames arrive one after the other. -/
def arrive (s : RobotSystem) (lost : ℕ) : RobotSystem :=
  match s.incoming, s.host.outgoing.drop lost with
  | [], (_, frame) :: _ => { s with host := s.host.deliver lost, incoming := frame.encode }
  | _, _ => s

/-- What the sketch wrote goes back to the host, for the request that it read last. -/
def answered (host : Interleaving) (written : Bytes) : Interleaving :=
  match host.delivered, Frame.decode written with
  | (number, _) :: rest, .ok frame =>
    { host with delivered := rest, link := host.link ++ [⟨frame, some number⟩] }
  | _, _ => host

def readByte (s : RobotSystem) (nowMs : UInt32) : RobotSystem × SystemOutput :=
  match s.incoming with
  | [] => (s, .quiet)
  | value :: rest =>
    let (robot, ingested) := s.robot.ingestByte value nowMs
    match ingested.handled, s.host.delivered with
    | some (data, result), (number, _) :: _ =>
      (⟨answered s.host ingested.written, robot, rest⟩, .handled number data result)
    | _, _ => ({ s with robot, incoming := rest }, .quiet)

def step (s : RobotSystem) : SystemAction → RobotSystem × SystemOutput
  | .host action => s.hostStep action
  | .arrive lost => (s.arrive lost, .quiet)
  | .readByte nowMs => s.readByte nowMs
  | .tick nowMs =>
    ({ s with robot := { s.robot with runtime := s.robot.runtime.tick nowMs } }, .quiet)

def start (gateway : RobotGateway) (transport : ProtocolTransport) (robot : SerialState) :
    RobotSystem :=
  ⟨.start gateway transport, robot, []⟩

end RobotSystem

namespace Gateway.RobotGateway

/-- A request is sent as it was asked for. -/
theorem startRequest_frame (g : RobotGateway) (messageType : MessageType) (payload : Bytes)
    (frame : Frame) (h : (g.startRequest true messageType (.ok payload)).2 = .ok frame) :
    frame.messageType = messageType ∧ frame.sequence = g.sequence ∧ frame.payload = payload := by
  by_cases hfits : payload.length ≤ maxPayloadSize
  · rw [g.startRequest_fits messageType payload hfits] at h
    cases h
    exact ⟨rfl, rfl, rfl⟩
  · have hnew : Frame.new messageType g.sequence payload =
        .error (.protocol "payload exceeds protocol maximum") := by
      rw [Frame.new, dif_pos g.sequence_fits, dif_neg hfits]
    simp [startRequest, hnew] at h

end Gateway.RobotGateway

namespace Gateway

/-- A frame sent for a call carries what the call asked for, under the number it took. -/
structure Holder.Carries (holder : Holder) (frame : Frame) : Prop where
  messageType_eq : frame.messageType = holder.call.messageType
  sequence_eq : frame.sequence = holder.sequence
  payload_eq : frame.payload = holder.call.payload

namespace Interleaving

/-- What becomes of the requests in a step of the host's: nothing new is sent, or the call that
gets the lock sends its own. -/
inductive Requesting (s after : Interleaving) : Prop
  | kept (issued_eq : after.issued = s.issued) (outgoing_eq : after.outgoing = s.outgoing)
      (held : ∀ h ∈ after.holder, ∃ before ∈ s.holder,
        before.call = h.call ∧ before.number = h.number ∧ before.sequence = h.sequence)
  | refused (issued_eq : after.issued = s.issued ++ [s.gateway.sequence])
      (outgoing_eq : after.outgoing = s.outgoing) (free : after.holder = none)
  | sent (holder : Holder) (frame : Frame)
      (issued_eq : after.issued = s.issued ++ [s.gateway.sequence])
      (outgoing_eq : after.outgoing = s.outgoing ++ [(holder.number, frame)])
      (held : after.holder = some holder) (number_eq : holder.number = s.issued.length)
      (waited : holder.call ∈ s.waiting) (carries : holder.Carries frame)

/-- A call that entered asks for its payload. -/
def Entered (s : Interleaving) (action : Action) (call : Outstanding) : Prop :=
  ∃ sendCall : SendCall, action = .enter true sendCall ∧
    call.messageType = sendCall.messageType ∧ sendCall.payload s.gateway = .ok call.payload

structure HostEffect (s : Interleaving) (action : Action) (after : Interleaving) : Prop where
  delivered_eq : after.delivered = s.delivered
  answers : ∀ e ∈ after.decoded ++ after.link, e ∈ s.decoded ++ s.link
  waiting : ∀ call ∈ after.waiting, call ∈ s.waiting ∨ s.Entered action call
  requesting : s.Requesting after

theorem Requesting.same {s after : Interleaving} (hissued : after.issued = s.issued)
    (houtgoing : after.outgoing = s.outgoing) (hholder : after.holder = s.holder) :
    s.Requesting after := by
  refine .kept hissued houtgoing ?_
  rw [hholder]
  exact fun h hh => ⟨h, hh, rfl, rfl, rfl⟩

theorem HostEffect.same {s after : Interleaving} (action : Action)
    (hdelivered : after.delivered = s.delivered) (hdecoded : after.decoded = s.decoded)
    (hlink : after.link = s.link) (hwaiting : after.waiting = s.waiting)
    (hrequesting : s.Requesting after) : s.HostEffect action after := by
  refine ⟨hdelivered, ?_, ?_, hrequesting⟩
  · rw [hdecoded, hlink]
    exact fun e he => he
  · rw [hwaiting]
    exact fun call hcall => .inl hcall

theorem Requesting.released {s after : Interleaving} (hissued : after.issued = s.issued)
    (houtgoing : after.outgoing = s.outgoing) (hholder : after.holder = none) :
    s.Requesting after := by
  refine .kept hissued houtgoing ?_
  rw [hholder]
  nofun

theorem enter_effect (s : Interleaving) (isOpen : Bool) (call : SendCall) :
    s.HostEffect (.enter isOpen call) (s.enter isOpen call).1 := by
  unfold enter
  split
  · exact .same _ rfl rfl rfl rfl (.same rfl rfl rfl)
  · next payload hpayload =>
    split
    · exact .same _ rfl rfl rfl rfl (.same rfl rfl rfl)
    · next hopen =>
      refine ⟨rfl, fun e he => he, ?_, .same rfl rfl rfl⟩
      intro c hc
      rcases List.mem_append.mp hc with hold | hnew
      · exact .inl hold
      · rw [List.mem_singleton.mp hnew]
        refine .inr ⟨call, ?_, rfl, hpayload⟩
        rw [Bool.eq_true_of_not_eq_false hopen]

theorem acquire_effect (s : Interleaving) (index : ℕ) :
    s.HostEffect (.acquire index) (s.acquire index).1 := by
  unfold acquire
  split
  · next call hfree hcall =>
    have hframe := s.gateway.startRequest_frame call.messageType call.payload
    generalize s.gateway.startRequest true call.messageType (.ok call.payload) = result at hframe
    obtain ⟨gateway, started⟩ := result
    have hwaiting : ∀ c ∈ s.waiting.eraseIdx index,
        c ∈ s.waiting ∨ s.Entered (.acquire index) c :=
      fun c hc => .inl (List.mem_of_mem_eraseIdx hc)
    cases started with
    | error e => exact ⟨rfl, fun e he => he, hwaiting, .refused rfl rfl hfree⟩
    | ok frame =>
      obtain ⟨htype, hsequence, hpayload⟩ := hframe frame rfl
      refine ⟨rfl, fun e he => he, hwaiting, ?_⟩
      exact .sent ⟨call, s.issued.length, frame.sequence, .writing⟩ frame rfl rfl rfl rfl
        (List.mem_of_getElem? hcall) ⟨htype, rfl, hpayload⟩
  · exact .same _ rfl rfl rfl rfl (.same rfl rfl rfl)

theorem written_effect (s : Interleaving) : s.HostEffect .written s.written := by
  unfold written
  split
  · next call number sequence hholder =>
    refine .same _ rfl rfl rfl rfl (.kept rfl rfl ?_)
    intro h hh
    rw [hholder, ← Option.some.inj hh]
    exact ⟨_, rfl, rfl, rfl, rfl⟩
  · exact .same _ rfl rfl rfl rfl (.same rfl rfl rfl)

theorem writeFails_effect (s : Interleaving) (error : String) :
    s.HostEffect (.writeFails error) (s.writeFails error).1 := by
  unfold writeFails
  split
  · exact .same _ rfl rfl rfl rfl (.released rfl rfl rfl)
  · exact .same _ rfl rfl rfl rfl (.same rfl rfl rfl)

theorem read_effect (s : Interleaving) (chunk : Bytes) (passed : List Bool) :
    s.HostEffect (.read chunk passed) (s.read chunk passed) := by
  unfold read
  split
  · split_ifs
    · refine ⟨rfl, ?_, fun call hcall => .inl hcall, .same rfl rfl rfl⟩
      intro e he
      -- what came through was on the link, and so was what is left on it
      rcases List.mem_append.mp he with hdecoded | hlink
      · rcases List.mem_append.mp hdecoded with hold | hnew
        · exact List.mem_append_left _ hold
        · exact List.mem_append_right _ (Coherent.mem_link_of_mem_through hnew)
      · exact List.mem_append_right _ (List.mem_of_mem_drop hlink)
    · exact .same _ rfl rfl rfl rfl (.same rfl rfl rfl)
  · exact .same _ rfl rfl rfl rfl (.same rfl rfl rfl)

theorem receive_effect (s : Interleaving) : s.HostEffect .receive s.receive.1 := by
  unfold receive
  split
  · refine ⟨rfl, ?_, fun call hcall => .inl hcall, .released rfl rfl rfl⟩
    intro e he
    rcases List.mem_append.mp he with hdecoded | hlink
    · exact List.mem_append_left _ (List.mem_of_mem_drop hdecoded)
    · exact List.mem_append_right _ hlink
  · exact .same _ rfl rfl rfl rfl (.same rfl rfl rfl)

theorem receiveFails_effect (s : Interleaving) (error : String) :
    s.HostEffect (.receiveFails error) (s.receiveFails error).1 := by
  unfold receiveFails
  split
  · exact .same _ rfl rfl rfl rfl (.released rfl rfl rfl)
  · exact .same _ rfl rfl rfl rfl (.same rfl rfl rfl)

theorem host_effect (s : Interleaving) (action : Action)
    (hhost : RobotSystem.ofPeer action ≠ true) : s.HostEffect action (s.step action).1 := by
  cases action with
  | enter isOpen call => exact s.enter_effect isOpen call
  | abandon index =>
    refine ⟨rfl, fun e he => he, ?_, .same rfl rfl rfl⟩
    exact fun call hcall => .inl (List.mem_of_mem_eraseIdx hcall)
  | acquire index => exact s.acquire_effect index
  | written => exact s.written_effect
  | writeFails error => exact s.writeFails_effect error
  | read chunk passed => exact s.read_effect chunk passed
  | receive => exact s.receive_effect
  | receiveFails error => exact s.receiveFails_effect error
  | cancel => exact .same _ rfl rfl rfl rfl (.released rfl rfl rfl)
  | deliver lost => exact absurd rfl hhost
  | answer index answer => exact absurd rfl hhost
  | emit frame => exact absurd rfl hhost

end Interleaving
end Gateway

end RoboticCharacter
