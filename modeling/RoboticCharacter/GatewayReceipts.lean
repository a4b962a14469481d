import RoboticCharacter.GatewayInterleaving
import RoboticCharacter.Machine

/-! A receipt is never false: over every interleaving, the answer it rests on was made for
its own request. -/
namespace RoboticCharacter.Gateway.Interleaving
open Safety

/-- The sequence number of a request, by the gateway's first one and the request's number. -/
def sequenceOf (initial number : ℕ) : ℕ := (initial+number)%65536

def Numbered (initial count : ℕ) (request : ℕ × Frame) : Prop :=
  request.1 < count ∧ request.2.sequence = sequenceOf initial request.1

/-- An ACK or a NACK of the peer answers one of the first `count` requests. -/
def Traced (initial count : ℕ) (e : Emission) : Prop :=
  e.frame.messageType = .ack ∨ e.frame.messageType = .nack →
    ∃ number, e.request = some number ∧ number < count ∧
      ∃ answer : Answer, e.frame = answer.frame (sequenceOf initial number)

theorem Numbered.mono {initial count more : ℕ} {request : ℕ × Frame} (hle : count ≤ more)
    (h : Numbered initial count request) : Numbered initial more request :=
  ⟨h.1.trans_le hle, h.2⟩

theorem Traced.mono {initial count more : ℕ} {e : Emission} (hle : count ≤ more)
    (h : Traced initial count e) : Traced initial more e := by
  intro htype
  obtain ⟨number, hrequest, hlt, hanswer⟩ := h htype
  exact ⟨number, hrequest, hlt.trans_le hle, hanswer⟩

/-- One while a request is written and its answer not taken yet. -/
def unanswered (s : Interleaving) : ℕ :=
  match s.holder with
  | some ⟨_, _, _, .awaiting⟩ => 1
  | _ => 0

/-- The invariant: every request is numbered in turn, and whatever is under way belongs to
one of them. -/
structure Coherent (initial : ℕ) (s : Interleaving) : Prop where
  counted : s.gateway.acknowledgedCount+s.gateway.rejectedCount+s.unanswered ≤
    s.gateway.sentCount
  issued : ∀ (number sequence : ℕ), s.issued[number]? = some sequence →
    sequence = sequenceOf initial number
  next : s.gateway.sequence = sequenceOf initial s.issued.length
  held : ∀ h ∈ s.holder, h.number+1 = s.issued.length ∧ h.sequence = sequenceOf initial h.number
  outgoing : ∀ r ∈ s.outgoing, Numbered initial s.issued.length r
  delivered : ∀ r ∈ s.delivered, Numbered initial s.issued.length r
  link : ∀ e ∈ s.link, Traced initial s.issued.length e
  decoded : ∀ e ∈ s.decoded, Traced initial s.issued.length e
  frames : s.transport.frames = s.decoded.map Emission.frame

namespace Coherent

variable {initial : ℕ} {s : Interleaving}

theorem enter (h : Coherent initial s) (isOpen : Bool) (call : SendCall) :
    Coherent initial (s.enter isOpen call).1 := by
  unfold Interleaving.enter
  split
  · exact h
  · split
    · exact h
    · exact { h with }

theorem push (h : Coherent initial s) (hfree : s.holder = none) (waiting : List Outstanding) :
    Coherent initial { s with
      gateway := s.gateway.nextSequence
      waiting
      issued := s.issued ++ [s.gateway.sequence] } := by
  have hlonger : s.issued.length ≤ (s.issued ++ [s.gateway.sequence]).length := by
    rw [List.length_append]
    omega
  refine ⟨h.counted, ?_, ?_, ?_, ?_, ?_, ?_, ?_, h.frames⟩
  · -- an old number keeps its sequence; the new one has the gateway's current
    intro number sequence hget
    by_cases hold : number < s.issued.length
    · rw [List.getElem?_append_left hold] at hget
      exact h.issued number sequence hget
    · rw [List.getElem?_append_right (not_lt.mp hold), List.getElem?_singleton] at hget
      split_ifs at hget with hlast
      have hnumber : number = s.issued.length := by omega
      rw [← Option.some.inj hget, h.next, hnumber]
  · have hnext := h.next
    unfold sequenceOf at hnext ⊢
    change (s.gateway.sequence+1)%65536 = (initial+(s.issued ++ [s.gateway.sequence]).length)%65536
    rw [List.length_append, List.length_singleton, hnext]
    omega
  · intro holder hholder
    rw [hfree] at hholder
    cases hholder
  -- what is under way belongs to the requests there were
  · intro r hr
    exact (h.outgoing r hr).mono hlonger
  · intro r hr
    exact (h.delivered r hr).mono hlonger
  · intro e he
    exact (h.link e he).mono hlonger
  · intro e he
    exact (h.decoded e he).mono hlonger

theorem acquire (h : Coherent initial s) (index : ℕ) : Coherent initial (s.acquire index).1 := by
  unfold Interleaving.acquire
  split
  · next call hfree hcall =>
    obtain ⟨hgateway, hsequence⟩ := s.gateway.startRequest_open call.messageType call.payload
    generalize s.gateway.startRequest true call.messageType (.ok call.payload) = result
      at hgateway hsequence
    obtain ⟨gateway, started⟩ := result
    dsimp only at hgateway hsequence ⊢
    subst hgateway
    have hnext := h.push hfree (s.waiting.eraseIdx index)
    -- the number is used up whether the frame can be built or not
    cases started with
    | error e => exact hnext
    | ok frame =>
      have hown : frame.sequence = sequenceOf initial s.issued.length := by
        rw [hsequence frame rfl, h.next]
      have hcount : s.issued.length+1 = (s.issued ++ [s.gateway.sequence]).length := by
        rw [List.length_append, List.length_singleton]
      refine { hnext with counted := ?_, held := ?_, outgoing := ?_ }
      · have hcounted := h.counted
        rw [unanswered, hfree] at hcounted
        exact hcounted
      · intro holder hholder
        rw [← Option.some.inj hholder]
        exact ⟨hcount, hown⟩
      · intro r hr
        rcases List.mem_append.mp hr with hold | hnew
        · exact hnext.outgoing r hold
        · rw [List.mem_singleton.mp hnew]
          refine ⟨?_, hown⟩
          rw [← hcount]
          exact Nat.lt_succ_self _
  · exact h

theorem written (h : Coherent initial s) : Coherent initial s.written := by
  unfold Interleaving.written
  split
  · next call number sequence hholder =>
    have hcounted := h.counted
    rw [unanswered, hholder] at hcounted
    refine { h with counted := ?_, held := ?_ }
    · change s.gateway.acknowledgedCount+s.gateway.rejectedCount+1 ≤ s.gateway.sentCount+1
      omega
    · intro holder hnew
      rw [← Option.some.inj hnew]
      exact h.held ⟨call, number, sequence, .writing⟩ hholder
  · exact h

/-- The lock is released, whatever became of the call. -/
theorem release (h : Coherent initial s) : Coherent initial { s with holder := none } := by
  refine { h with counted := ?_, held := nofun }
  have hcounted := h.counted
  change s.gateway.acknowledgedCount+s.gateway.rejectedCount+0 ≤ s.gateway.sentCount
  omega

theorem writeFails (h : Coherent initial s) (error : String) :
    Coherent initial (s.writeFails error).1 := by
  unfold Interleaving.writeFails
  split
  · exact h.release
  · exact h

theorem deliver (h : Coherent initial s) (lost : ℕ) : Coherent initial (s.deliver lost) := by
  unfold Interleaving.deliver
  split
  · next request rest hdrop =>
    have hfrom : ∀ r ∈ request :: rest, Numbered initial s.issued.length r := by
      intro r hr
      rw [← hdrop] at hr
      exact h.outgoing r (List.mem_of_mem_drop hr)
    refine { h with outgoing := ?_, delivered := ?_ }
    · intro r hr
      exact hfrom r (List.mem_cons_of_mem _ hr)
    · intro r hr
      rcases List.mem_append.mp hr with hold | hnew
      · exact h.delivered r hold
      · rw [List.mem_singleton.mp hnew]
        exact hfrom request (List.mem_cons_self ..)
  · exact h

/-- The peer answers with the sequence number of the frame it received. -/
theorem answer (h : Coherent initial s) (index : ℕ) (answer : Answer) :
    Coherent initial (s.answer index answer) := by
  unfold Interleaving.answer
  split
  · next number frame hget =>
    obtain ⟨hlt, hsequence⟩ := h.delivered _ (List.mem_of_getElem? hget)
    refine { h with delivered := ?_, link := ?_ }
    · intro r hr
      exact h.delivered r (List.mem_of_mem_eraseIdx hr)
    · intro e he
      rcases List.mem_append.mp he with hold | hnew
      · exact h.link e hold
      · rw [List.mem_singleton.mp hnew]
        intro _
        refine ⟨number, rfl, hlt, answer, ?_⟩
        rw [← hsequence]
  · exact h

theorem emit (h : Coherent initial s) (frame : Frame) : Coherent initial (s.emit frame) := by
  unfold Interleaving.emit
  split
  · exact h
  · next hother =>
    refine { h with link := ?_ }
    intro e he
    rcases List.mem_append.mp he with hold | hnew
    · exact h.link e hold
    · rw [List.mem_singleton.mp hnew]
      intro htype
      exact absurd htype hother

theorem mem_link_of_mem_through {passed : List Bool} {e : Emission} (h : e ∈ s.through passed) :
    e ∈ s.link := by
  obtain ⟨p, hp, rfl⟩ := List.mem_map.mp h
  exact (List.of_mem_zip (List.mem_of_mem_filter hp)).1

theorem read (h : Coherent initial s) (chunk : Bytes) (passed : List Bool) :
    Coherent initial (s.read chunk passed) := by
  unfold Interleaving.read
  split
  · next call number sequence hholder =>
    split_ifs with hread
    · obtain ⟨-, -, -, hframes⟩ := hread
      -- what the decoder delivers are frames of the link that came through
      refine { h with link := ?_, decoded := ?_, frames := ?_ }
      · intro e he
        exact h.link e (List.mem_of_mem_drop he)
      · intro e he
        rcases List.mem_append.mp he with hold | hnew
        · exact h.decoded e hold
        · exact h.link e (mem_link_of_mem_through hnew)
      · change s.transport.frames ++ (s.transport.decoder.feed chunk).2.frames =
          (s.decoded ++ s.through passed).map Emission.frame
        rw [List.map_append, h.frames, hframes]
    · exact h
  · exact h

/-- The holder has taken its answer, or failed to, and released the lock. -/
theorem finish (h : Coherent initial s) (holder : Holder) (hholder : s.holder = some holder)
    (hphase : holder.phase = .awaiting) (received : Received) :
    Coherent initial { s with
      gateway := (s.gateway.finishReceive holder.sequence holder.call.messageType
        holder.call.authorizationId received).1
      holder := none } := by
  obtain ⟨hsequence, hsent, hcounts⟩ := s.gateway.finishReceive_counts holder.sequence
    holder.call.messageType holder.call.authorizationId received
  have hcounted := h.counted
  have hone : s.unanswered = 1 := by
    obtain ⟨call, number, sequence, phase⟩ := holder
    change phase = .awaiting at hphase
    rw [unanswered, hholder, hphase]
  refine { h.release with counted := ?_, next := hsequence.trans h.next }
  rw [← hsent] at hcounted
  dsimp only [unanswered]
  omega

theorem receive (h : Coherent initial s) : Coherent initial s.receive.1 := by
  unfold Interleaving.receive
  split
  · next call number sequence transport received hholder hready =>
    have hframes := s.transport.takeReady_frames transport received hready
    have hfinish := h.finish ⟨call, number, sequence, .awaiting⟩ hholder rfl received
    refine { hfinish with decoded := ?_, frames := ?_ }
    · intro e he
      exact h.decoded e (List.mem_of_mem_drop he)
    · change transport.frames = (s.decoded.drop received.toList.length).map Emission.frame
      rw [List.map_drop, ← h.frames, hframes, List.drop_left]
  · exact h

theorem receiveFails (h : Coherent initial s) (error : String) :
    Coherent initial (s.receiveFails error).1 := by
  unfold Interleaving.receiveFails
  split
  · next call number sequence hholder =>
    exact h.finish ⟨call, number, sequence, .awaiting⟩ hholder rfl (.failed error)
  · exact h

theorem step (h : Coherent initial s) (action : Action) : Coherent initial (s.step action).1 := by
  cases action with
  | enter isOpen call => exact h.enter isOpen call
  | abandon index => exact { h with }
  | acquire index => exact h.acquire index
  | written => exact h.written
  | writeFails error => exact h.writeFails error
  | deliver lost => exact h.deliver lost
  | answer index answer => exact h.answer index answer
  | emit frame => exact h.emit frame
  | read chunk passed => exact h.read chunk passed
  | receive => exact h.receive
  | receiveFails error => exact h.receiveFails error
  | cancel => exact h.release

theorem start (gateway : RobotGateway) (transport : ProtocolTransport)
    (hcounts : gateway.acknowledgedCount+gateway.rejectedCount ≤ gateway.sentCount)
    (hframes : transport.frames = []) :
    Coherent gateway.sequence (Interleaving.start gateway transport) := by
  have hfits := gateway.sequence_fits
  refine ⟨hcounts, nofun, ?_, nofun, nofun, nofun, nofun, nofun, hframes⟩
  change gateway.sequence = (gateway.sequence+0)%65536
  omega

end Coherent

theorem step_receipt (s : Interleaving) (action : Action) (receipt : GatewayReceipt)
    (h : (s.step action).2 = some (.ok receipt)) : action = .receive := by
  cases action with
  | receive => rfl
  | enter isOpen call =>
    change (s.enter isOpen call).2 = _ at h
    unfold enter at h
    split at h
    · cases h
    · split at h <;> cases h
  | acquire index =>
    change (s.acquire index).2 = _ at h
    unfold acquire at h
    split at h
    · dsimp only at h
      split at h <;> cases h
    · cases h
  | writeFails error =>
    change (s.writeFails error).2 = _ at h
    unfold writeFails at h
    split at h <;> cases h
  | receiveFails error =>
    change (s.receiveFails error).2 = _ at h
    unfold receiveFails at h
    split at h <;> cases h
  | abandon | written | deliver | answer | emit | read | cancel => cases h

structure Orderly (s : Interleaving) : Prop where
  counted : s.gateway.acknowledgedCount+s.gateway.rejectedCount ≤ s.gateway.sentCount
  successive : ∀ (number a b : ℕ), s.issued[number]? = some a → s.issued[number+1]? = some b →
    b = (a+1)%65536

theorem Coherent.orderly {initial : ℕ} {s : Interleaving} (h : Coherent initial s) :
    s.Orderly := by
  constructor
  · have hcounted := h.counted
    omega
  · intro number a b ha hb
    rw [h.issued number a ha, h.issued (number+1) b hb]
    unfold sequenceOf
    omega

/-- Fewer than 65536 requests were issued since the oldest one with an unread answer. -/
def Windowed (s : Interleaving) : Prop :=
  ∀ e ∈ s.decoded ++ s.link, ∀ number, e.request = some number →
    s.issued.length-(number+1) < 65536

/-- The receipt rests on the first unread frame, which the peer emitted as its answer to
the very request of the call, an ACK with status OK. -/
def Genuine (e : Machine.Event Interleaving Action (Option Outcome)) (receipt : GatewayReceipt) :
    Prop :=
  ∃ (holder : Holder) (answer : Answer) (rest : List Emission), e.before.holder = some holder ∧
    e.before.decoded = ⟨answer.frame holder.sequence, some holder.number⟩ :: rest ∧
    e.after.decoded = rest ∧ answer.Accepts ∧
    receipt = ⟨holder.sequence, holder.call.messageType, .ok, holder.call.authorizationId⟩

theorem sequenceOf_inj {initial count first second : ℕ} (hfirst : first < count)
    (hlast : second+1 = count) (hwindow : count-(first+1) < 65536)
    (hsame : sequenceOf initial first = sequenceOf initial second) : first = second := by
  unfold sequenceOf at hsame
  omega

/-- An unread ACK with status OK for the sequence number of the last request is the peer's
answer to that request. -/
theorem Coherent.own_answer {initial : ℕ} {s : Interleaving} (h : Coherent initial s)
    (hwindow : s.Windowed) (e : Emission) (he : e ∈ s.decoded) (number : ℕ)
    (hlast : number+1 = s.issued.length) (htype : e.frame.messageType = .ack)
    (hdecode : Acknowledgement.decode e.frame.payload = .ok ⟨sequenceOf initial number, .ok⟩) :
    ∃ answer : Answer, answer.Accepts ∧
      e = ⟨answer.frame (sequenceOf initial number), some number⟩ := by
  obtain ⟨other, hrequest, hlt, answer, hanswer⟩ := h.decoded e he (.inl htype)
  have hcarried := answer.decode_frame (sequenceOf initial other) (Nat.mod_lt _ (by decide))
  rw [← hanswer, hdecode] at hcarried
  injection hcarried with hcarried
  injection hcarried with hcarried hstatus
  -- within the window one sequence number names one request
  have hother : other = number := by
    apply sequenceOf_inj hlt hlast
    · exact hwindow e (List.mem_append_left _ he) other hrequest
    · exact (Nat.cast_injective hcarried).symm
  have hack : answer.messageType = .ack := by
    rw [hanswer] at htype
    exact htype
  obtain ⟨frame, request⟩ := e
  dsimp only at hrequest hanswer
  refine ⟨answer, ⟨hack, hstatus.symm⟩, ?_⟩
  rw [hanswer, hrequest, hother]

theorem Coherent.receipt_genuine {initial : ℕ} {s : Interleaving} (h : Coherent initial s)
    (hwindow : s.Windowed) (receipt : GatewayReceipt)
    (hreceipt : s.receive.2 = some (.ok receipt)) :
    Genuine ⟨s, .receive, s.receive.2, s.receive.1⟩ receipt := by
  unfold Interleaving.receive at hreceipt ⊢
  split at hreceipt
  · next call number sequence transport received hholder hready =>
    have houtcome := Option.some.inj hreceipt
    obtain ⟨hequal, response, rfl, htype, hdecode⟩ :=
      s.gateway.finishReceive_receipt _ _ _ received receipt houtcome
    -- the frame handed out is the first of the decoded ones
    have hframes := s.transport.takeReady_frames transport _ hready
    rw [h.frames] at hframes
    obtain ⟨e, rest, hdecoded, hresponse, -⟩ := List.map_eq_cons_iff.mp hframes
    have hmem : e ∈ s.decoded := by
      rw [hdecoded]
      exact List.mem_cons_self ..
    obtain ⟨hlast, hsequence⟩ : number+1 = s.issued.length ∧ sequence = sequenceOf initial number :=
      h.held _ hholder
    rw [← hresponse] at htype hdecode
    rw [hsequence] at hdecode
    obtain ⟨answer, haccepts, howned⟩ := h.own_answer hwindow e hmem number hlast htype hdecode
    refine ⟨_, answer, rest, hholder, ?_, ?_, haccepts, hequal⟩
    · rw [hdecoded, howned, ← hsequence]
    · change s.decoded.drop 1 = rest
      rw [hdecoded]
      rfl
  · cases hreceipt

/-- From any new gateway and transport, under every interleaving of calls, answers, losses,
corruptions, timeouts and cancellations: the counters and the sequence numbers are in
order, and a receipt rests on the peer's own acceptance of that very request, as long as
fewer than 65536 requests were issued since the oldest one with an unread answer. -/
theorem receipts_genuine (ids : Dict ℤ) (ackTimeoutS : ExtendedNumber ℚ) (initialSequence : ℤ)
    (gateway : RobotGateway) (readSize : ℤ) (decoder : FrameStreamDecoder)
    (transport : ProtocolTransport) (actions : List Action)
    (hgateway : RobotGateway.new ids ackTimeoutS initialSequence = .ok gateway)
    (htransport : ProtocolTransport.new readSize decoder = .ok transport) :
    (∀ s ∈ Machine.states step (start gateway transport) actions, s.Orderly) ∧
    ∀ e ∈ Machine.trace step (start gateway transport) actions, ∀ receipt : GatewayReceipt,
      e.output = some (.ok receipt) → e.before.Windowed → Genuine e receipt := by
  have hcounts : gateway.acknowledgedCount+gateway.rejectedCount ≤ gateway.sentCount := by
    unfold RobotGateway.new at hgateway
    split_ifs at hgateway
    cases hgateway
    exact le_refl 0
  have hframes : transport.frames = [] := by
    unfold ProtocolTransport.new at htransport
    split_ifs at htransport
    cases htransport
    rfl
  have hstart := Coherent.start gateway transport hcounts hframes
  have hstep : ∀ (s : Interleaving) (action : Action), Coherent gateway.sequence s →
      Coherent gateway.sequence (s.step action).1 := by
    intro s action h
    exact h.step action
  constructor
  · intro s hs
    have hcoherent : Coherent gateway.sequence s :=
      Machine.states_invariant step hstep _ hstart actions s hs
    exact hcoherent.orderly
  · intro e he receipt houtput hwindow
    have hcoherent : Coherent gateway.sequence e.before :=
      Machine.trace_invariant step hstep _ hstart actions e he
    have hevent := Machine.trace_step step _ actions e he
    obtain ⟨before, action, output, after⟩ := e
    dsimp only at houtput hwindow hcoherent hevent
    subst houtput
    -- no other action hands out a receipt
    have hreceive : action = .receive := by
      apply before.step_receipt action receipt
      rw [hevent]
    subst hreceive
    change before.receive = _ at hevent
    have hgenuine := hcoherent.receipt_genuine hwindow receipt (by rw [hevent])
    rw [hevent] at hgenuine
    exact hgenuine

/-- A heartbeat up to the answer that its receive takes. -/
def heartbeatRun : List Action :=
  [.enter true (.heartbeat 100 .armed), .acquire 0, .written, .deliver 0, .answer 0 .accepting,
    .read (Answer.accepting.frame 0).encode [true]]

def heartbeatAnswered : Interleaving := Machine.run step (start newGateway .initial) heartbeatRun

theorem receipts_genuine_heartbeat :
    heartbeatAnswered.receive.2 = some (.ok ⟨0, .heartbeat, .ok, none⟩) ∧
    Genuine ⟨heartbeatAnswered, .receive, heartbeatAnswered.receive.2, heartbeatAnswered.receive.1⟩
      ⟨0, .heartbeat, .ok, none⟩ := by
  have hreceipt : heartbeatAnswered.receive.2 = some (.ok ⟨0, .heartbeat, .ok, none⟩) := by
    decide +kernel
  have hwindow : heartbeatAnswered.Windowed := by
    have hissued : heartbeatAnswered.issued.length = 1 := by decide +kernel
    intro e he number hnumber
    rw [hissued]
    omega
  refine ⟨hreceipt, ?_⟩
  apply (receipts_genuine newGateway.jointProtocolIds (.finite 1) 0 newGateway 128 .initial
    .initial (heartbeatRun ++ [.receive]) rfl rfl).2 _ ?_ _ hreceipt hwindow
  rw [Machine.trace_append]
  exact List.mem_append_right _ (List.mem_singleton_self _)

end RoboticCharacter.Gateway.Interleaving
