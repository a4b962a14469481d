import RoboticCharacter.GatewaySession

/-! When a request whose answer is in time gets its verdict, over every run of requests,
timed-out ones and late answers included. -/
namespace RoboticCharacter.Gateway
open Session

/-- Along every loss-free run, from any gateway on a new transport, a request whose own
answer is in time gets its verdict exactly when no older answer disturbs it. -/
theorem recovers_iff (gateway : RobotGateway) (readSize : ℤ) (maxBufferBytes : ℕ)
    (decoder : FrameStreamDecoder) (transport : ProtocolTransport) (requests : List Request)
    (hdecoder : FrameStreamDecoder.new maxBufferBytes = .ok decoder)
    (htransport : ProtocolTransport.new readSize decoder = .ok transport)
    (hlink : ∀ e ∈ Machine.trace request (start gateway transport) requests,
      e.before.LossFree e.input) :
    ∀ e ∈ Machine.trace request (start gateway transport) requests,
      e.before.InTime e.input → (Recovers e.input e.output ↔ e.before.Undisturbed e.input) := by
  have hstart : (start gateway transport).Tracks := by
    unfold FrameStreamDecoder.new at hdecoder
    unfold ProtocolTransport.new at htransport
    split_ifs at hdecoder htransport
    cases hdecoder
    cases htransport
    exact ⟨⟨rfl, [], rfl, rfl, nofun, nofun⟩, le_refl 0, nofun⟩
  intro e he hintime
  let limit := transport.decoder.maxBufferBytes
  have hlimit : e.before.transport.decoder.maxBufferBytes = limit := by
    refine Machine.trace_invariant (P := fun s => s.transport.decoder.maxBufferBytes = limit)
      request ?_ _ rfl requests e he
    intro s r hs
    exact (s.request_maxBufferBytes r).trans hs
  have hroom := (hlink e he).room hintime
  -- the limit is the same all along the run, so it always leaves room for an answer
  have htracks : e.before.Tracks := by
    have hguarded := Machine.trace_guarded (P := fun s : Session =>
      s.Tracks ∧ s.transport.decoder.maxBufferBytes = limit) request LossFree ?_ _
      ⟨hstart, rfl⟩ requests hlink e he
    · exact hguarded.1
    · intro s r hs hfree
      have hlarge : Answer.frameSize ≤ s.transport.decoder.maxBufferBytes := by
        rw [hs.2, ← hlimit]
        exact hroom
      refine ⟨?_, (s.request_maxBufferBytes r).trans hs.2⟩
      cases s.requested r hs.1 hfree hlarge with
      | served _ _ _ _ _ tracks => exact tracks
      | timedOut _ tracks => exact tracks
  have houtput : e.output = (e.before.request e.input).2 := by
    rw [Machine.trace_step request _ _ e he]
  rw [houtput]
  exact e.before.request_recovers_iff e.input htracks (hlink e he) hroom hintime

def heartbeatRequest (reads : List Bytes) : Request :=
  ⟨.heartbeat, [0x01, 0x64, 0x00, 0x00, 0x00, 0x05], none, Answer.accepting, reads,
    newGateway_heartbeat_fits⟩

def promptRequest : Request := heartbeatRequest [(Answer.accepting.frame 0).encode]

/-- A second request, answered in time as the first was. -/
def promptAgain : Request := heartbeatRequest [(Answer.accepting.frame 1).encode]

def afterPrompt : Session := ((start newGateway .initial).request promptRequest).1

theorem recovers_iff_prompt :
    Recovers promptRequest ((start newGateway .initial).request promptRequest).2 ∧
    Recovers promptAgain (afterPrompt.request promptAgain).2 := by
  have htrace : Machine.trace request (start newGateway .initial) [promptRequest, promptAgain] =
      [⟨start newGateway .initial, promptRequest, _, afterPrompt⟩,
        ⟨afterPrompt, promptAgain, _, (afterPrompt.request promptAgain).1⟩] := rfl
  have hlink : ∀ e ∈ Machine.trace request (start newGateway .initial) [promptRequest, promptAgain],
      e.before.LossFree e.input := by
    intro e he
    rw [htrace] at he
    obtain rfl | rfl := List.mem_pair.mp he
    · constructor <;> decide +kernel
    · constructor <;> decide +kernel
  have hrun := recovers_iff newGateway 128 FrameStreamDecoder.defaultMaxBufferBytes
    .initial .initial [promptRequest, promptAgain] rfl rfl hlink
  rw [htrace] at hrun
  have hfirst := hrun _ List.mem_cons_self (by unfold InTime; decide +kernel)
  have hsecond := hrun _ (List.mem_cons_of_mem _ List.mem_cons_self)
    (by unfold InTime; decide +kernel)
  exact ⟨hfirst.mpr nofun, hsecond.mpr (by unfold Undisturbed; decide +kernel)⟩

def lateRequest : Request := heartbeatRequest []

/-- The next request: the late answer and then its own arrive in one read. -/
def nextRequest : Request :=
  heartbeatRequest [(Answer.accepting.frame 0).encode ++ (Answer.accepting.frame 1).encode]

def afterLate : Session := ((start newGateway .initial).request lateRequest).1

/-- The next request raises a protocol error although its own ACK is in time. -/
theorem late_answer_disturbs :
    (start newGateway .initial).LossFree lateRequest ∧
    afterLate.LossFree nextRequest ∧ afterLate.InTime nextRequest ∧ nextRequest.answer.Accepts ∧
    (afterLate.request nextRequest).2 = .error (.protocol
      "robot acknowledgement sequence does not match outstanding request") := by
  have hintime : afterLate.InTime nextRequest := by
    unfold InTime
    decide +kernel
  refine ⟨⟨List.nil_prefix, nofun, nofun⟩, ⟨⟨[], ?_⟩, ?_, ?_⟩, hintime, ?_, ?_⟩
  · rw [List.append_nil]
    exact hintime
  all_goals decide +kernel

end RoboticCharacter.Gateway
