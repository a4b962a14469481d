import RoboticCharacter.GatewayPeer

/-! A gateway's requests one after the other, over a link that loses nothing, to a peer
that answers every request once and in order, each answer after any delay. -/
namespace RoboticCharacter.Gateway

/-- A request, the answer the peer gives to it, and the chunks that reads of the link
return before the request's deadline. -/
structure Request where
  messageType : MessageType
  payload : Bytes
  authorizationId : Option Uuid
  answer : Answer
  reads : List Bytes
  payload_fits : payload.length ≤ maxPayloadSize

/-- The gateway with its transport; every answer the peer gave, with the sequence number
it acknowledges; how many of them were handed out; and the answer bytes not read yet. -/
structure Session where
  gateway : RobotGateway
  transport : ProtocolTransport
  answers : List (ℕ × Answer)
  taken : ℕ
  unread : Bytes

namespace Session

def start (gateway : RobotGateway) (transport : ProtocolTransport) : Session :=
  ⟨gateway, transport, [], 0, []⟩

def pending (s : Session) : List (ℕ × Answer) := s.answers.drop s.taken

/-- The bytes a request can read: those left of older answers, and its own answer. -/
def arriving (s : Session) (r : Request) : Bytes :=
  s.unread ++ (r.answer.frame s.gateway.sequence).encode

/-- `_request` on an open transport, with the peer's answer put on the link. -/
def request (s : Session) (r : Request) : Session × Except GatewayFailure GatewayReceipt :=
  match s.gateway.startRequest true r.messageType (.ok r.payload) with
  | (gateway, .error e) => ({ s with gateway }, .error e)
  | (gateway, .ok frame) =>
    let (transport, left, received) := s.transport.receiveFrame r.reads
    let (finished, outcome) := gateway.countSent.finishReceive frame.sequence r.messageType
      r.authorizationId received
    let handedOut := match received with
      | .frame _ => 1
      | .failed _ => 0
    ({ gateway := finished
       transport
       answers := s.answers ++ [(frame.sequence, r.answer)]
       taken := s.taken+handedOut
       unread := (s.arriving r).drop (r.reads.flatten.length-left.flatten.length) }, outcome)

/-- The reads of a request: in order, nothing lost on the link or in the decoder, whose
buffer may hold all of an answer but its last byte. -/
structure LossFree (s : Session) (r : Request) : Prop where
  fifo : r.reads.flatten <+: s.arriving r
  read_size : ∀ c ∈ r.reads, c ≠ [] ∧ c.length ≤ s.transport.readSize
  no_overflow : ∀ c ∈ r.reads,
    c.length+Answer.frameSize ≤ s.transport.decoder.maxBufferBytes+1

def InTime (s : Session) (r : Request) : Prop := r.reads.flatten = s.arriving r

/-- A receipt for an answer that accepts, a rejection for any other. -/
def Recovers (r : Request) (outcome : Except GatewayFailure GatewayReceipt) : Prop :=
  (r.answer.Accepts → ∃ receipt, outcome = .ok receipt) ∧
  (¬ r.answer.Accepts → ∃ message, outcome = .error (.rejected message))

/-- No older answer is unread when the request starts, or the oldest such cannot be told
from the request's own: the same sequence number, the same verdict. -/
def Undisturbed (s : Session) (r : Request) : Prop :=
  ∀ p ∈ s.pending.head?, p.1 = s.gateway.sequence ∧ (p.2.Accepts ↔ r.answer.Accepts)

/-- The peer's answer to a request, with the sequence number it acknowledges. -/
def own (s : Session) (r : Request) : ℕ × Answer := (s.gateway.sequence, r.answer)

def answerFrames (answers : List (ℕ × Answer)) : List Frame := answers.map (fun p => p.2.frame p.1)

/-- The state after a request whose receive left `transport` and `left`. -/
def advance (s : Session) (r : Request) (gateway : RobotGateway) (transport : ProtocolTransport)
    (left : List Bytes) (handedOut : ℕ) : Session where
  gateway := gateway
  transport := transport
  answers := s.answers ++ [s.own r]
  taken := s.taken+handedOut
  unread := (s.arriving r).drop (r.reads.flatten.length-left.flatten.length)

theorem request_frame (s : Session) (r : Request) (after : ProtocolTransport)
    (left : List Bytes) (f : Frame)
    (h : s.transport.receiveFrame r.reads = (after, left, .frame f)) :
    ∃ finished outcome, s.gateway.nextSequence.countSent.finishRequest s.gateway.sequence
        r.messageType r.authorizationId f = (finished, outcome) ∧
      s.request r = (s.advance r finished after left 1, outcome) := by
  have hstart := s.gateway.startRequest_fits r.messageType r.payload r.payload_fits
  refine ⟨_, _, rfl, ?_⟩
  rw [request, hstart]
  dsimp only
  rw [h]
  rfl

theorem request_timedOut (s : Session) (r : Request) (after : ProtocolTransport)
    (h : s.transport.receiveFrame r.reads = (after, [], ProtocolTransport.timedOut)) :
    (s.request r).1 = s.advance r s.gateway.nextSequence.countSent after [] 0 := by
  have hstart := s.gateway.startRequest_fits r.messageType r.payload r.payload_fits
  rw [request, hstart]
  dsimp only
  rw [h]
  rfl

theorem request_maxBufferBytes (s : Session) (r : Request) :
    (s.request r).1.transport.decoder.maxBufferBytes = s.transport.decoder.maxBufferBytes := by
  have hstart := s.gateway.startRequest_fits r.messageType r.payload r.payload_fits
  rw [request, hstart]
  exact s.transport.receiveFrame_maxBufferBytes r.reads

/-- The transport is inside a clean stream of the pending answers. -/
structure Tracks (s : Session) : Prop where
  receiving : s.transport.Receiving (answerFrames s.pending) s.unread
  taken_le : s.taken ≤ s.answers.length
  sequences : ∀ p ∈ s.pending, p.1 < 65536

/-- The answers that can be handed out during a request; its own is the last of them. -/
theorem Tracks.join {s : Session} (h : s.Tracks) (r : Request)
    (hroom : Answer.frameSize ≤ s.transport.decoder.maxBufferBytes) :
    s.transport.Receiving (answerFrames (s.pending ++ [s.own r])) (s.arriving r) ∧
      ∀ p ∈ s.pending ++ [s.own r], p.1 < 65536 := by
  have hfits : (r.answer.frame s.gateway.sequence).encode.length ≤
      s.transport.decoder.maxBufferBytes := by
    rw [Answer.length_frame_encode]
    exact hroom
  constructor
  · rw [answerFrames, List.map_append]
    exact h.receiving.append _ hfits
  · intro p hp
    rcases List.mem_append.mp hp with hold | hnew
    · exact h.sequences p hold
    · have := s.gateway.sequence_fits
      rw [List.mem_singleton.mp hnew, own]
      omega

/-- The session stays on track when its receive handed out the first `handedOut` answers. -/
theorem Tracks.advance {s : Session} (h : s.Tracks) (r : Request) (gateway : RobotGateway)
    (transport : ProtocolTransport) (left : List Bytes) (later : Bytes) (handedOut : ℕ)
    (rest : List (ℕ × Answer)) (hcount : handedOut ≤ 1)
    (hrest : rest = (s.pending ++ [s.own r]).drop handedOut)
    (hleft : left <:+ r.reads) (harriving : r.reads.flatten ++ later = s.arriving r)
    (hsequences : ∀ p ∈ s.pending ++ [s.own r], p.1 < 65536)
    (hreceiving : transport.Receiving (answerFrames rest) (left.flatten ++ later)) :
    (s.advance r gateway transport left handedOut).Tracks := by
  have hpending : (s.advance r gateway transport left handedOut).pending = rest := by
    change (s.answers ++ [s.own r]).drop (s.taken+handedOut) = rest
    rw [hrest, pending, ← List.drop_append_of_le_length h.taken_le, List.drop_drop]
  have hunread : (s.advance r gateway transport left handedOut).unread = left.flatten ++ later := by
    obtain ⟨done, hdone⟩ := hleft
    change (s.arriving r).drop (r.reads.flatten.length-left.flatten.length) = _
    -- the reads taken are the first of the reads, so their bytes are the first to arrive
    rw [← harriving, ← hdone, List.flatten_append, List.append_assoc, List.length_append,
      Nat.add_sub_cancel_right]
    exact List.drop_left
  refine ⟨?_, ?_, ?_⟩
  · rw [hpending, hunread]
    exact hreceiving
  · have := h.taken_le
    change s.taken+handedOut ≤ (s.answers ++ [s.own r]).length
    rw [List.length_append, List.length_singleton]
    omega
  · intro p hp
    rw [hpending, hrest] at hp
    exact hsequences p (List.mem_of_mem_drop hp)

/-- What a request does: it takes the oldest pending answer for its own, or it times out. -/
inductive Requested (s : Session) (r : Request) : Prop
  | served (oldest : ℕ × Answer) (rest : List (ℕ × Answer))
      (queue : s.pending ++ [s.own r] = oldest :: rest) (fits : oldest.1 < 65536)
      (outcome : (s.request r).2 = (s.gateway.nextSequence.countSent.finishRequest
        s.gateway.sequence r.messageType r.authorizationId (oldest.2.frame oldest.1)).2)
      (tracks : (s.request r).1.Tracks)
  | timedOut (late : ¬ s.InTime r) (tracks : (s.request r).1.Tracks)

theorem requested (s : Session) (r : Request) (h : s.Tracks) (hlink : s.LossFree r)
    (hroom : Answer.frameSize ≤ s.transport.decoder.maxBufferBytes) : s.Requested r := by
  obtain ⟨hstream, hsequences⟩ := h.join r hroom
  obtain ⟨later, hlater⟩ := hlink.fifo
  have hsize : ∀ f ∈ answerFrames (s.pending ++ [s.own r]),
      f.encode.length = Answer.frameSize := by
    intro f hf
    obtain ⟨p, -, rfl⟩ := List.mem_map.mp hf
    exact p.2.length_frame_encode p.1
  have hreads : ∀ c ∈ r.reads, c ≠ [] ∧
      c.length+Answer.frameSize ≤ s.transport.decoder.maxBufferBytes+1 := by
    intro c hc
    exact ⟨(hlink.read_size c hc).1, hlink.no_overflow c hc⟩
  -- all answers have one size, so the receive takes the oldest or reads everything
  rw [← hlater] at hstream
  generalize hqueue : s.pending ++ [s.own r] = queue at hstream hsize
  generalize hframes : answerFrames queue = frames at hstream hsize
  cases hstream.receiveFrame Answer.frameSize (by decide) hsize hreads with
  | frame f rest after left received receiving unread =>
    obtain ⟨oldest, others, rfl, rfl, rfl⟩ := List.map_eq_cons_iff.mp hframes
    obtain ⟨finished, outcome, hfinish, hrequest⟩ := s.request_frame r after left _ received
    have htracks := h.advance r finished after left later 1 others (le_refl 1)
      (by rw [hqueue]; rfl) unread hlater hsequences receiving
    refine .served oldest others hqueue ?_ ?_ ?_
    · exact hsequences oldest (by rw [hqueue]; exact List.mem_cons_self ..)
    · rw [hrequest, hfinish]
    · rw [hrequest]
      exact htracks
  | timedOut _ after received receiving nothing =>
    have hrequest := s.request_timedOut r after received
    subst hframes
    have htracks := h.advance r s.gateway.nextSequence.countSent after [] later 0 queue
      (Nat.zero_le 1) (by rw [hqueue]; rfl) List.nil_suffix hlater hsequences receiving
    refine .timedOut ?_ ?_
    · -- had all bytes been read, nothing would be left to hand out
      intro hall
      have hnone : later = [] := List.append_right_eq_self.mp (hlater.trans hall.symm)
      have hempty : queue = [] := List.map_eq_nil_iff.mp (nothing hnone)
      rw [hempty] at hqueue
      exact List.append_ne_nil_of_right_ne_nil _ (List.cons_ne_nil _ _) hqueue
    · rw [hrequest]
      exact htracks

/-- The verdict on an answer taken for one's own is right exactly when it carries the
request's sequence number and accepts when the own answer does. -/
theorem recovers_finishRequest_iff (g : RobotGateway) (sequence : ℕ) (r : Request)
    (oldest : ℕ × Answer) (hfits : oldest.1 < 65536) :
    Recovers r (g.finishRequest sequence r.messageType r.authorizationId
        (oldest.2.frame oldest.1)).2 ↔
      oldest.1 = sequence ∧ (oldest.2.Accepts ↔ r.answer.Accepts) := by
  rw [g.finishRequest_answer sequence r.messageType r.authorizationId oldest.2 oldest.1 hfits]
  unfold Recovers
  by_cases hsame : oldest.1 = sequence
  · rw [if_neg (not_not.mpr hsame)]
    by_cases hold : oldest.2.Accepts <;> by_cases hown : r.answer.Accepts <;>
      simp [hold, hown, hsame]
  · rw [if_pos hsame]
    by_cases hown : r.answer.Accepts <;> simp [hown, hsame]

/-- A request whose answer is in time gets its verdict exactly when it is undisturbed. -/
theorem request_recovers_iff (s : Session) (r : Request) (h : s.Tracks) (hlink : s.LossFree r)
    (hroom : Answer.frameSize ≤ s.transport.decoder.maxBufferBytes) (hintime : s.InTime r) :
    Recovers r (s.request r).2 ↔ s.Undisturbed r := by
  cases s.requested r h hlink hroom with
  | timedOut late => exact absurd hintime late
  | served oldest rest queue fits outcome =>
    rw [outcome, recovers_finishRequest_iff _ _ r oldest fits, Undisturbed]
    cases hpending : s.pending with
    | nil =>
      -- the oldest answer is the request's own
      rw [hpending, List.nil_append] at queue
      have hown : oldest = s.own r := (List.cons.inj queue).1.symm
      rw [hown]
      exact iff_of_true ⟨rfl, Iff.rfl⟩ nofun
    | cons p older =>
      rw [hpending, List.cons_append] at queue
      have hold : oldest = p := (List.cons.inj queue).1.symm
      rw [hold]
      constructor
      · intro hp q hq
        rw [← Option.some.inj hq]
        exact hp
      · intro hp
        exact hp p rfl

/-- An answer cannot arrive in time, without loss, at a decoder too small for it. -/
theorem LossFree.room {s : Session} {r : Request} (h : s.LossFree r) (hintime : s.InTime r) :
    Answer.frameSize ≤ s.transport.decoder.maxBufferBytes := by
  cases hreads : r.reads with
  | nil =>
    have hlen := congrArg List.length hintime
    rw [hreads, arriving, List.length_append, Answer.length_frame_encode, Answer.frameSize] at hlen
    simp at hlen
  | cons c reads =>
    have hc : c ∈ r.reads := by
      rw [hreads]
      exact List.mem_cons_self ..
    have hpos := List.length_pos_iff.mpr (h.read_size c hc).1
    have hover := h.no_overflow c hc
    omega

end Session

end RoboticCharacter.Gateway
