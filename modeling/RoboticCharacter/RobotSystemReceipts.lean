import RoboticCharacter.RobotSystem

/-! What the two ends know of each other, over every run: the robot handles what was asked for
and nothing else, each request at most once, and a receipt rests on what it did with that one. -/
namespace RoboticCharacter
open Gateway Firmware Host Safety

namespace Firmware

/-- How the firmware accepts a message, if it does. -/
def acceptedResult : MessageType → Option DispatchResult
  | .heartbeat => some .kHeartbeatAccepted
  | .estop => some .kEstopLatched
  | .validatedMotionCommand => some .kMotionDeferred
  | _ => none

theorem handleFrame_accepted (rt : RobotRuntime) (frame : Frame) (nowMs : UInt32)
    (h : Accepted (rt.handleFrame frame.encode nowMs).2) :
    acceptedResult frame.messageType = some (rt.handleFrame frame.encode nowMs).2 := by
  have hh := rt.handled frame.encode nowMs
  have hparse := parseFrame_encode frame
  generalize (rt.handleFrame frame.encode nowMs).1 = after,
    (rt.handleFrame frame.encode nowMs).2 = result at hh h ⊢
  have htype : ∀ parsed, parseFrame frame.encode = some parsed →
      parsed.type = frame.messageType := by
    intro parsed hparsed
    rw [hparse] at hparsed
    rw [← Option.some.inj hparsed]
    rfl
  cases hh with
  | heartbeat parsed hp _ ht =>
    rw [← htype parsed hp, ht]
    rfl
  | estop parsed hp _ ht =>
    rw [← htype parsed hp, ht]
    rfl
  | motionDeferred parsed hp _ hr =>
    rw [← htype parsed hp, hr.type_eq]
    rfl
  | invalid | stale | motionInvalid | motionUnsafe | motionReplay | ignored =>
    unfold Accepted at h
    simp only [reduceCtorEq, or_self] at h

theorem handleFrame_estopLatched (rt : RobotRuntime) (data : Bytes) (nowMs : UInt32)
    (h : (rt.handleFrame data nowMs).2 = .kEstopLatched) :
    (rt.handleFrame data nowMs).1.state = .kEstop := by
  have hh := rt.handled data nowMs
  generalize (rt.handleFrame data nowMs).1 = after, (rt.handleFrame data nowMs).2 = result
    at hh h ⊢
  subst h
  cases hh with
  | estop => rfl

namespace SerialState

theorem handleComplete_runtime (s : SerialState) (nowMs : UInt32) :
    (s.handleComplete nowMs).2.handled = none ∧
        (s.handleComplete nowMs).1.runtime = s.runtime ∨
      ∃ data, (s.handleComplete nowMs).2.handled =
          some (data, (s.runtime.handleFrame data nowMs).2) ∧
        (s.handleComplete nowMs).1.runtime = (s.runtime.handleFrame data nowMs).1 := by
  unfold handleComplete
  split_ifs
  · exact .inr ⟨_, rfl, rfl⟩
  · exact .inl ⟨rfl, rfl⟩

/-- A byte changes the runtime by `HandleFrame`, or not at all. -/
theorem ingestByte_runtime (s : SerialState) (value : UInt8) (nowMs : UInt32) :
    (s.ingestByte value nowMs).2.handled = none ∧
        (s.ingestByte value nowMs).1.runtime = s.runtime ∨
      ∃ data, (s.ingestByte value nowMs).2.handled =
          some (data, (s.runtime.handleFrame data nowMs).2) ∧
        (s.ingestByte value nowMs).1.runtime = (s.runtime.handleFrame data nowMs).1 := by
  unfold ingestByte
  split_ifs
  · exact .inl ⟨rfl, rfl⟩
  · exact .inl ⟨rfl, rfl⟩
  · exact .inl ⟨rfl, rfl⟩
  · exact .inl ⟨rfl, rfl⟩
  · dsimp only
    split_ifs
    · exact .inl ⟨rfl, rfl⟩
    · exact handleComplete_runtime _ nowMs
    · exact handleComplete_runtime _ nowMs

end SerialState
end Firmware

abbrev SystemEvent := Machine.Event RobotSystem SystemAction SystemOutput

structure Handling where
  number : ℕ
  data : Bytes
  result : DispatchResult

def SystemOutput.handling? : SystemOutput → Option Handling
  | .handled number data result => some ⟨number, data, result⟩
  | _ => none

namespace RobotSystem

/-- The calls of `HandleFrame` in a run, each with the number of the request it was for. -/
def handlings (past : List SystemEvent) : List Handling :=
  past.filterMap (fun e => e.output.handling?)

theorem handlings_snoc (past : List SystemEvent) (e : SystemEvent) :
    handlings (past ++ [e]) = handlings past ++ e.output.handling?.toList :=
  Machine.filterMap_snoc _ past e

/-- A send method was called for this message. -/
def Asked (past : List SystemEvent) (messageType : MessageType) (payload : Bytes) : Prop :=
  ∃ e ∈ past, ∃ call : SendCall, e.input = .host (.enter true call) ∧
    messageType = call.messageType ∧ call.payload e.before.host.gateway = .ok payload

theorem Asked.mono {past : List SystemEvent} {messageType : MessageType} {payload : Bytes}
    (h : Asked past messageType payload) (e : SystemEvent) :
    Asked (past ++ [e]) messageType payload := by
  obtain ⟨asked, hasked, hcall⟩ := h
  exact ⟨asked, List.mem_append_left _ hasked, hcall⟩

/-- The frame of a request that was sent, wherever it is. -/
def Sent (past : List SystemEvent) (s : RobotSystem) (number : ℕ) (frame : Frame) : Prop :=
  (number, frame) ∈ s.host.delivered ++ s.host.outgoing ∨
    ∃ result, ⟨number, frame.encode, result⟩ ∈ handlings past

/-- Either no request is being read, or the bytes still to come complete the one that is. -/
inductive Line (s : RobotSystem) : Prop
  | free (incoming_eq : s.incoming = []) (delivered_eq : s.host.delivered = [])
      (idle : s.robot.Idle)
  | reading (number : ℕ) (frame : Frame) (begun : SerialState) (count : ℕ)
      (delivered_eq : s.host.delivered = [(number, frame)])
      (holding : begun.Holding frame count s.robot)
      (incoming_eq : s.incoming = frame.encode.drop count) (more : count < frame.encode.length)

/-- The numbers of the requests in the order in which they are handled. -/
def numbers (past : List SystemEvent) (s : RobotSystem) : List ℕ :=
  (handlings past).map Handling.number ++ (s.host.delivered ++ s.host.outgoing).map Prod.fst

structure Linked (initial : ℕ) (past : List SystemEvent) (s : RobotSystem) : Prop where
  coherent : Interleaving.Coherent initial s.host
  line : s.Line
  increasing : (s.numbers past).Pairwise (· < ·)
  issued : ∀ number ∈ s.numbers past, number < s.host.issued.length
  waiting : ∀ call ∈ s.host.waiting, Asked past call.messageType call.payload
  asked : ∀ number frame, s.Sent past number frame → Asked past frame.messageType frame.payload
  own : ∀ h ∈ s.host.holder, ∀ frame, s.Sent past h.number frame → h.Carries frame
  frames : ∀ handling ∈ handlings past, ∃ frame : Frame, handling.data = frame.encode ∧
    (Accepted handling.result → acceptedResult frame.messageType = some handling.result)
  answers : ∀ e ∈ s.host.decoded ++ s.host.link, ∀ number, e.request = some number →
    ∃ handling ∈ handlings past, handling.number = number ∧ ∃ txSequence, e.frame =
      (sketchAnswer txSequence handling.result).frame (Interleaving.sequenceOf initial number)
  latched : (∃ handling ∈ handlings past, handling.result = .kEstopLatched) →
    s.robot.runtime.state = .kEstop

namespace Linked
variable {initial : ℕ} {past : List SystemEvent} {s : RobotSystem}

theorem start (gateway : RobotGateway) (transport : ProtocolTransport) (robot : SerialState)
    (hcounts : gateway.acknowledgedCount+gateway.rejectedCount ≤ gateway.sentCount)
    (hframes : transport.frames = []) (hidle : robot.Idle) :
    Linked gateway.sequence [] (RobotSystem.start gateway transport robot) where
  coherent := .start gateway transport hcounts hframes
  line := .free rfl rfl hidle
  increasing := .nil
  issued := nofun
  waiting := nofun
  asked := by
    rintro number frame (hflying | ⟨result, hhandled⟩)
    · cases hflying
    · cases hhandled
  own := nofun
  frames := nofun
  answers := nofun
  latched := by
    rintro ⟨handling, hhandling, -⟩
    cases hhandling

theorem handlings_quiet (e : SystemEvent) (hquiet : e.output.handling? = none) :
    handlings (past ++ [e]) = handlings past := by
  rw [handlings_snoc, hquiet, Option.toList_none, List.append_nil]

/-- Requests that move on, or get lost, leave the other half of the invariant to show. -/
theorem moved (h : Linked initial past s) (e : SystemEvent) {after : RobotSystem}
    (hcoherent : Interleaving.Coherent initial after.host) (hline : after.Line)
    (hnumbers : (after.numbers (past ++ [e])).Sublist (s.numbers past))
    (hsent : ∀ number frame, after.Sent (past ++ [e]) number frame → s.Sent past number frame)
    (hissued : s.host.issued.length ≤ after.host.issued.length)
    (hwaiting : ∀ call ∈ after.host.waiting, Asked (past ++ [e]) call.messageType call.payload)
    (hheld : ∀ held ∈ after.host.holder, ∃ before ∈ s.host.holder,
      before.call = held.call ∧ before.number = held.number ∧ before.sequence = held.sequence)
    (hframes : ∀ handling ∈ handlings (past ++ [e]), ∃ frame : Frame,
      handling.data = frame.encode ∧
        (Accepted handling.result → acceptedResult frame.messageType = some handling.result))
    (hanswers : ∀ emission ∈ after.host.decoded ++ after.host.link, ∀ number,
      emission.request = some number → ∃ handling ∈ handlings (past ++ [e]),
        handling.number = number ∧ ∃ txSequence, emission.frame =
          (sketchAnswer txSequence handling.result).frame (Interleaving.sequenceOf initial number))
    (hlatched : (∃ handling ∈ handlings (past ++ [e]), handling.result = .kEstopLatched) →
      after.robot.runtime.state = .kEstop) :
    Linked initial (past ++ [e]) after := by
  refine ⟨hcoherent, hline, h.increasing.sublist hnumbers, ?_, hwaiting, ?_, ?_, hframes, hanswers,
    hlatched⟩
  · exact fun number hnumber => (h.issued number (hnumbers.subset hnumber)).trans_le hissued
  · exact fun number frame hframe => (h.asked number frame (hsent _ _ hframe)).mono e
  · intro held hholder frame hframe
    obtain ⟨before, hbefore, hcall, hnumber, hsequence⟩ := hheld held hholder
    have hcarries := h.own before hbefore frame (hnumber ▸ hsent _ _ hframe)
    refine ⟨?_, ?_, ?_⟩
    · rw [← hcall]
      exact hcarries.messageType_eq
    · rw [← hsequence]
      exact hcarries.sequence_eq
    · rw [← hcall]
      exact hcarries.payload_eq

/-- Where nothing is handled, the requests are those that are on their way. -/
theorem numbers_sublist {t : RobotSystem} {e : SystemEvent}
    (hsame : handlings (past ++ [e]) = handlings past)
    (hflying : (t.host.delivered ++ t.host.outgoing).Sublist
      (s.host.delivered ++ s.host.outgoing)) :
    (t.numbers (past ++ [e])).Sublist (s.numbers past) ∧
      ∀ number frame, t.Sent (past ++ [e]) number frame → s.Sent past number frame := by
  unfold numbers Sent
  rw [hsame]
  refine ⟨(List.Sublist.refl _).append (hflying.map _), ?_⟩
  exact fun number frame hsent => hsent.imp_left (fun hmem => hflying.subset hmem)

/-- A step of the host's: at most one request is sent, under a new number. -/
theorem host (h : Linked initial past s) (action : Action) (hhost : ofPeer action ≠ true)
    (e : SystemEvent) (hbefore : e.before = s) (hinput : e.input = .host action)
    (hquiet : e.output.handling? = none) :
    Linked initial (past ++ [e]) { s with host := (s.host.step action).1 } := by
  have heffect := s.host.host_effect action hhost
  have hcoherent := h.coherent.step action
  have hsame : handlings (past ++ [e]) = handlings past := handlings_quiet e hquiet
  generalize (s.host.step action).1 = host at heffect hcoherent
  have hwaiting : ∀ call : Outstanding, call ∈ host.waiting →
      Asked (past ++ [e]) call.messageType call.payload := by
    intro call hcall
    rcases heffect.waiting call hcall with hold | ⟨sendCall, haction, htype, hpayload⟩
    · exact (h.waiting call hold).mono e
    · refine ⟨e, List.mem_append_right _ (List.mem_singleton_self e), sendCall, ?_, htype, ?_⟩
      · rw [hinput, haction]
      · rw [hbefore]
        exact hpayload
  have hline : RobotSystem.Line { s with host } := by
    cases h.line with
    | free hincoming hdelivered hidle =>
      exact .free hincoming (heffect.delivered_eq.trans hdelivered) hidle
    | reading number frame begun count hdelivered hholding hincoming hmore =>
      exact .reading number frame begun count (heffect.delivered_eq.trans hdelivered) hholding
        hincoming hmore
  have hanswers : ∀ emission ∈ host.decoded ++ host.link, ∀ number,
      emission.request = some number →
      ∃ handling ∈ handlings (past ++ [e]), handling.number = number ∧ ∃ txSequence,
        emission.frame = (sketchAnswer txSequence handling.result).frame
          (Interleaving.sequenceOf initial number) := by
    rw [hsame]
    exact fun emission hemission => h.answers emission (heffect.answers emission hemission)
  have hframes := h.frames
  have hlatched := h.latched
  rw [← hsame] at hframes hlatched
  have hlonger : s.host.issued.length < (s.host.issued ++ [s.host.gateway.sequence]).length := by
    rw [List.length_append]
    exact Nat.lt_succ_self _
  have hkept : host.outgoing = s.host.outgoing →
      (host.delivered ++ host.outgoing).Sublist (s.host.delivered ++ s.host.outgoing) := by
    intro houtgoing
    rw [heffect.delivered_eq, houtgoing]
  cases heffect.requesting with
  | kept hissued houtgoing hheld =>
    obtain ⟨hnumbers, hsent⟩ := numbers_sublist (t := { s with host }) hsame (hkept houtgoing)
    exact h.moved e hcoherent hline hnumbers hsent (hissued ▸ le_refl _) hwaiting hheld hframes
      hanswers hlatched
  | refused hissued houtgoing hfree =>
    obtain ⟨hnumbers, hsent⟩ := numbers_sublist (t := { s with host }) hsame (hkept houtgoing)
    refine h.moved e hcoherent hline hnumbers hsent ?_ hwaiting ?_ hframes hanswers hlatched
    · rw [hissued]
      exact hlonger.le
    · rw [hfree]
      nofun
  | sent holder frame hissued houtgoing hheld hnumber hwaited hcarries =>
    have hflying : host.delivered ++ host.outgoing =
        s.host.delivered ++ s.host.outgoing ++ [(holder.number, frame)] := by
      rw [heffect.delivered_eq, houtgoing, List.append_assoc]
    have hnumbers : RobotSystem.numbers (past ++ [e]) { s with host } =
        s.numbers past ++ [holder.number] := by
      unfold numbers
      rw [hsame, hflying, List.map_append, List.append_assoc]
      rfl
    -- the new request, or one that was sent before
    have hsent : ∀ number sent, RobotSystem.Sent (past ++ [e]) { s with host } number sent →
        (number, sent) = (holder.number, frame) ∨ s.Sent past number sent := by
      unfold Sent
      rw [hsame, hflying]
      rintro number sent (hmem | hhandled)
      · rcases List.mem_append.mp hmem with hold | hnew
        · exact .inr (.inl hold)
        · exact .inl (List.mem_singleton.mp hnew)
      · exact .inr (.inr hhandled)
    refine ⟨hcoherent, hline, ?_, ?_, hwaiting, ?_, ?_, hframes, hanswers, hlatched⟩
    · rw [hnumbers]
      refine List.pairwise_append.mpr ⟨h.increasing, List.pairwise_singleton _ _, ?_⟩
      intro number hold later hlater
      rw [List.mem_singleton.mp hlater, hnumber]
      exact h.issued number hold
    · rw [hnumbers, hissued]
      intro number hmem
      rcases List.mem_append.mp hmem with hold | hnew
      · exact (h.issued number hold).trans hlonger
      · rw [List.mem_singleton.mp hnew, hnumber]
        exact hlonger
    · intro number sent hframe
      rcases hsent number sent hframe with hnew | hold
      · rw [(Prod.mk.inj hnew).2, hcarries.messageType_eq, hcarries.payload_eq]
        exact (h.waiting _ hwaited).mono e
      · exact (h.asked number sent hold).mono e
    · intro held hholder sent hframe
      rw [hheld] at hholder
      have hsameholder : held = holder := (Option.some.inj hholder).symm
      subst hsameholder
      rcases hsent _ sent hframe with hnew | hold
      · rw [(Prod.mk.inj hnew).2]
        exact hcarries
      · -- no earlier request has the new number
        have hlt : held.number < s.host.issued.length := by
          apply h.issued
          rcases hold with hflying | ⟨result, hhandled⟩
          · exact List.mem_append_right _ (List.mem_map_of_mem hflying)
          · exact List.mem_append_left _ (List.mem_map_of_mem (f := Handling.number) hhandled)
        rw [hnumber] at hlt
        exact absurd hlt (lt_irrefl _)

/-- A step that changes nothing of the host but where its requests are. -/
theorem quiet (h : Linked initial past s) (e : SystemEvent) (hquiet : e.output.handling? = none)
    {after : RobotSystem} (hcoherent : Interleaving.Coherent initial after.host)
    (hline : after.Line) (hflying : (after.host.delivered ++ after.host.outgoing).Sublist
      (s.host.delivered ++ s.host.outgoing))
    (hhost : after.host = { s.host with
      delivered := after.host.delivered, outgoing := after.host.outgoing })
    (hstate : s.robot.runtime.state = .kEstop → after.robot.runtime.state = .kEstop) :
    Linked initial (past ++ [e]) after := by
  have hsame : handlings (past ++ [e]) = handlings past := handlings_quiet e hquiet
  obtain ⟨hnumbers, hsent⟩ := numbers_sublist hsame hflying
  have hframes := h.frames
  have hanswers := h.answers
  rw [← hsame] at hframes hanswers
  refine h.moved e hcoherent hline hnumbers hsent ?_ ?_ ?_ hframes ?_ ?_
  · rw [hhost]
  · rw [hhost]
    exact fun call hcall => (h.waiting call hcall).mono e
  · rw [hhost]
    exact fun held hheld => ⟨held, hheld, rfl, rfl, rfl⟩
  · rw [hhost]
    exact hanswers
  · rw [hsame]
    exact fun hhandled => hstate (h.latched hhandled)

theorem arrive (h : Linked initial past s) (lost : ℕ) (e : SystemEvent)
    (hquiet : e.output.handling? = none) : Linked initial (past ++ [e]) (s.arrive lost) := by
  have hcoherent := h.coherent.deliver lost
  unfold RobotSystem.arrive
  split
  · next number frame rest hincoming hdrop =>
    unfold Interleaving.deliver at hcoherent ⊢
    rw [hdrop] at hcoherent ⊢
    dsimp only at hcoherent ⊢
    cases h.line with
    | free _ hdelivered hidle =>
      rw [hdelivered] at hcoherent ⊢
      refine h.quiet e hquiet hcoherent ?_ ?_ rfl id
      · refine .reading number frame s.robot 0 rfl (.of_idle _ _ hidle) rfl ?_
        rw [frame.length_encode]
        exact Nat.add_pos_right _ (by decide)
      · -- what was ahead of the frame that arrives is lost
        rw [hdelivered, List.nil_append, List.nil_append, List.singleton_append, ← hdrop]
        exact List.drop_sublist _ _
    | reading _ sent _ count _ _ hrest hmore =>
      have hlength := congrArg List.length (hrest.symm.trans hincoming)
      rw [List.length_drop, List.length_nil] at hlength
      omega
  · exact h.quiet e hquiet h.coherent h.line (List.Sublist.refl _) rfl id

theorem tick (h : Linked initial past s) (nowMs : UInt32) (e : SystemEvent)
    (hquiet : e.output.handling? = none) : Linked initial (past ++ [e])
      { s with robot := { s.robot with runtime := s.robot.runtime.tick nowMs } } := by
  refine h.quiet e hquiet h.coherent ?_ (List.Sublist.refl _) rfl ?_
  · cases h.line with
    | free hincoming hdelivered hidle =>
      exact .free hincoming hdelivered ⟨hidle.receiveLength_eq, hidle.expectedFrameSize_eq⟩
    | reading number frame begun count hdelivered hholding hincoming hmore =>
      exact .reading number frame begun count hdelivered (hholding.tick nowMs) hincoming hmore
  · exact (s.robot.runtime.tick_state_kEstop nowMs).mpr

/-- What the sketch writes for the request that it has read is its answer to it. -/
theorem answered_eq (host : Interleaving) (number : ℕ) (frame : Frame) (txSequence : UInt16)
    (result : DispatchResult) (hdelivered : host.delivered = [(number, frame)]) :
    answered host (ackFrame txSequence (UInt16.ofNat frame.sequence) result).encode =
      host.answer 0 (sketchAnswer txSequence result) := by
  unfold answered Interleaving.answer
  rw [Frame.decode_encode, hdelivered, ackFrame_eq]
  rfl

/-- The last byte of a request: the robot handles it, and its answer is on the way. -/
theorem handled (h : Linked initial past s) (number : ℕ) (frame : Frame) (result : DispatchResult)
    (txSequence : UInt16) (robot : SerialState) (e : SystemEvent)
    (hdelivered : s.host.delivered = [(number, frame)]) (hidle : robot.Idle)
    (haccepted : Accepted result → acceptedResult frame.messageType = some result)
    (hlatch : s.robot.runtime.state = .kEstop ∨ result = .kEstopLatched →
      robot.runtime.state = .kEstop)
    (houtput : e.output = .handled number frame.encode result) :
    Linked initial (past ++ [e]) ⟨s.host.answer 0 (sketchAnswer txSequence result), robot, []⟩ := by
  have hcoherent := h.coherent.answer 0 (sketchAnswer txSequence result)
  have hmore : handlings (past ++ [e]) = handlings past ++ [⟨number, frame.encode, result⟩] := by
    rw [handlings_snoc, houtput]
    rfl
  have hanswer : s.host.answer 0 (sketchAnswer txSequence result) = { s.host with
      delivered := []
      link := s.host.link ++
        [⟨(sketchAnswer txSequence result).frame frame.sequence, some number⟩] } := by
    unfold Interleaving.answer
    rw [hdelivered]
    rfl
  have hsequence : frame.sequence = Interleaving.sequenceOf initial number := by
    have hnumbered := h.coherent.delivered (number, frame)
    rw [hdelivered] at hnumbered
    exact (hnumbered (List.mem_singleton_self _)).2
  generalize s.host.answer 0 (sketchAnswer txSequence result) = host at hanswer hcoherent ⊢
  have hread : (number, frame) ∈ s.host.delivered := by
    rw [hdelivered]
    exact List.mem_singleton_self _
  -- the request's number stays where it was, from the delivered ones to the handled ones
  have hnumbers : RobotSystem.numbers (past ++ [e]) ⟨host, robot, []⟩ = s.numbers past := by
    unfold numbers
    rw [hmore, hanswer, hdelivered, List.map_append, List.append_assoc]
    rfl
  refine h.moved e hcoherent (.free rfl (by rw [hanswer]) hidle) (hnumbers ▸ List.Sublist.refl _)
    ?_ (by rw [hanswer]) ?_ ?_ ?_ ?_ ?_
  · rw [hanswer]
    rintro other sent (hflying | ⟨later, hhandled⟩)
    · exact .inl (List.mem_append_right _ hflying)
    · rw [hmore] at hhandled
      rcases List.mem_append.mp hhandled with hold | hnew
      · exact .inr ⟨later, hold⟩
      · obtain ⟨hnumber, hencode, -⟩ := Handling.mk.inj (List.mem_singleton.mp hnew)
        rw [hnumber, sent.encode_injective frame hencode]
        exact .inl (List.mem_append_left _ hread)
  · rw [hanswer]
    exact fun call hcall => (h.waiting call hcall).mono e
  · rw [hanswer]
    exact fun held hheld => ⟨held, hheld, rfl, rfl, rfl⟩
  · rw [hmore]
    intro handling hhandling
    rcases List.mem_append.mp hhandling with hold | hnew
    · exact h.frames handling hold
    · rw [List.mem_singleton.mp hnew]
      exact ⟨frame, rfl, haccepted⟩
  · rw [hmore, hanswer]
    intro emission hemission other hother
    have hcases : emission ∈ s.host.decoded ++ s.host.link ∨
        emission = ⟨(sketchAnswer txSequence result).frame frame.sequence, some number⟩ := by
      rcases List.mem_append.mp hemission with hdecoded | hlink
      · exact .inl (List.mem_append_left _ hdecoded)
      · rcases List.mem_append.mp hlink with hold | hnew
        · exact .inl (List.mem_append_right _ hold)
        · exact .inr (List.mem_singleton.mp hnew)
    rcases hcases with hold | rfl
    · obtain ⟨handling, hhandling, hanswered⟩ := h.answers emission hold other hother
      exact ⟨handling, List.mem_append_left _ hhandling, hanswered⟩
    · refine ⟨_, List.mem_append_right _ (List.mem_singleton_self _), Option.some.inj hother,
        txSequence, ?_⟩
      rw [← Option.some.inj hother, ← hsequence]
  · rw [hmore]
    rintro ⟨handling, hhandling, hresult⟩
    apply hlatch
    rcases List.mem_append.mp hhandling with hold | hnew
    · exact .inl (h.latched ⟨handling, hold, hresult⟩)
    · rw [List.mem_singleton.mp hnew] at hresult
      exact .inr hresult

theorem readByte (h : Linked initial past s) (nowMs : UInt32) (e : SystemEvent)
    (houtput : e.output = (s.readByte nowMs).2) :
    Linked initial (past ++ [e]) (s.readByte nowMs).1 := by
  cases h.line with
  | free hincoming hdelivered hidle =>
    have hnothing : s.readByte nowMs = (s, .quiet) := by
      unfold RobotSystem.readByte
      rw [hincoming]
    rw [hnothing] at houtput ⊢
    exact h.quiet e (by rw [houtput]; rfl) h.coherent h.line (List.Sublist.refl _) rfl id
  | reading number frame begun count hdelivered hholding hincoming hmore =>
    have hbyte : s.incoming = frame.encode[count] :: frame.encode.drop (count+1) := by
      rw [hincoming, List.drop_eq_getElem_cons hmore]
    have hvalue := List.getElem?_eq_getElem hmore
    unfold RobotSystem.readByte at houtput ⊢
    rw [hbyte] at houtput ⊢
    dsimp only at houtput ⊢
    by_cases hlast : count+1 = frame.encode.length
    · have hdone := hholding.last frame.encode[count] nowMs hvalue hlast
      have hruntime := s.robot.ingestByte_runtime frame.encode[count] nowMs
      generalize s.robot.ingestByte frame.encode[count] nowMs = ingested
        at houtput hdone hruntime ⊢
      obtain ⟨robot, handled, written⟩ := ingested
      dsimp only at houtput hdone hruntime ⊢
      have hhandled : handled =
          some (frame.encode, (s.robot.runtime.handleFrame frame.encode nowMs).2) :=
        Option.toList_eq_singleton_iff.mp hdone.handled_once
      obtain ⟨hnone, -⟩ | ⟨data, hdata, hafter⟩ := hruntime
      · rw [hnone] at hhandled
        cases hhandled
      · have hsame : data = frame.encode := by
          rw [hhandled] at hdata
          exact (Prod.mk.inj (Option.some.inj hdata)).1.symm
        rw [hsame] at hafter
        have hwritten := hdone.sent_eq
        rw [sendAcknowledgement_eq _ _ _
          (handleFrame_encode_parsed s.robot.runtime frame nowMs)] at hwritten
        rw [hhandled, hdelivered, hlast, List.drop_length] at houtput ⊢
        dsimp only at houtput ⊢
        rw [(Prod.mk.inj hwritten).2, answered_eq s.host number frame _ _ hdelivered]
        refine h.handled number frame _ _ robot e hdelivered hdone.idle
          (handleFrame_accepted _ _ _) ?_ houtput
        rw [hafter]
        rintro (hlatched | hresult)
        · exact handleFrame_latched _ _ _ hlatched
        · exact handleFrame_estopLatched _ _ _ hresult
    · obtain ⟨hnext, hnothing⟩ := hholding.step frame.encode[count] nowMs hvalue (by omega)
      have hruntime := s.robot.ingestByte_runtime frame.encode[count] nowMs
      generalize s.robot.ingestByte frame.encode[count] nowMs = ingested
        at houtput hnext hnothing hruntime ⊢
      obtain ⟨robot, ingested⟩ := ingested
      dsimp only at houtput hnext hnothing hruntime ⊢
      subst hnothing
      dsimp only [Ingested.nothing] at houtput hruntime ⊢
      refine h.quiet e (by rw [houtput]; rfl) h.coherent ?_ (List.Sublist.refl _) rfl ?_
      · exact .reading number frame begun (count+1) hdelivered hnext rfl (by omega)
      · obtain ⟨-, hsame⟩ | ⟨data, hdata, -⟩ := hruntime
        · rw [hsame]
          exact id
        · cases hdata

theorem step (h : Linked initial past s) (action : SystemAction) :
    Linked initial (past ++ [⟨s, action, (s.step action).2, (s.step action).1⟩])
      (s.step action).1 := by
  cases action with
  | host action =>
    change Linked initial (past ++ [⟨s, .host action, (s.hostStep action).2,
      (s.hostStep action).1⟩]) (s.hostStep action).1
    by_cases hhost : ofPeer action = true
    · have hnothing : s.hostStep action = (s, .quiet) := if_pos hhost
      rw [hnothing]
      exact h.quiet _ rfl h.coherent h.line (List.Sublist.refl _) rfl id
    · have hlinked := fun output : SystemOutput => fun hquiet : output.handling? = none =>
        h.host action hhost ⟨s, .host action, output, { s with host := (s.host.step action).1 }⟩
          rfl rfl hquiet
      unfold hostStep
      rw [if_neg hhost]
      generalize s.host.step action = result at hlinked
      obtain ⟨host, outcome⟩ := result
      cases outcome with
      | none => exact hlinked .quiet rfl
      | some outcome => exact hlinked (.outcome outcome) rfl
  | arrive lost => exact h.arrive lost _ rfl
  | readByte nowMs => exact h.readByte nowMs _ rfl
  | tick nowMs => exact h.tick nowMs _ rfl

end Linked

section Runs
variable (ids : Dict ℤ) (ackTimeoutS : ExtendedNumber ℚ) (initialSequence : ℤ)
  (gateway : RobotGateway) (readSize : ℤ) (decoder : FrameStreamDecoder)
  (transport : ProtocolTransport) (robot : SerialState)
  (hgateway : RobotGateway.new ids ackTimeoutS initialSequence = .ok gateway)
  (htransport : ProtocolTransport.new readSize decoder = .ok transport) (hidle : robot.Idle)
include hgateway htransport hidle

theorem linked_run (actions : List SystemAction) :
    Linked gateway.sequence (Machine.trace step (start gateway transport robot) actions)
      (Machine.run step (start gateway transport robot) actions) := by
  have hcounts : gateway.acknowledgedCount+gateway.rejectedCount ≤ gateway.sentCount := by
    unfold RobotGateway.new at hgateway
    split_ifs at hgateway
    cases hgateway
    exact le_refl 0
  have hframes : transport.frames = [] := by
    unfold ProtocolTransport.new at htransport
    split_ifs at htransport
    cases htransport
    rfl
  exact Machine.history_invariant step (start gateway transport robot)
    (Linked.start gateway transport robot hcounts hframes hidle)
    (fun past s action h => h.step action) actions

end Runs

theorem readByte_estop (s : RobotSystem) (nowMs : UInt32)
    (h : s.robot.runtime.state = .kEstop) :
    (s.readByte nowMs).1.robot.runtime.state = .kEstop := by
  unfold readByte
  split
  · exact h
  · next value rest _ =>
    have hruntime : (s.robot.ingestByte value nowMs).1.runtime.state = .kEstop := by
      obtain ⟨-, hsame⟩ | ⟨data, -, hafter⟩ := s.robot.ingestByte_runtime value nowMs
      · rwa [hsame]
      · rw [hafter]
        exact handleFrame_latched _ _ _ h
    dsimp only
    split <;> exact hruntime

/-- The sketch never calls `ManualReset`: its latch stays closed. -/
theorem step_estop (s : RobotSystem) (action : SystemAction)
    (h : s.robot.runtime.state = .kEstop) : (s.step action).1.robot.runtime.state = .kEstop := by
  cases action with
  | host action =>
    change (s.hostStep action).1.robot.runtime.state = _
    unfold hostStep
    split
    · exact h
    · split <;> exact h
  | arrive lost =>
    change (s.arrive lost).robot.runtime.state = _
    unfold arrive
    split <;> exact h
  | readByte nowMs => exact s.readByte_estop nowMs h
  | tick nowMs => exact (s.robot.runtime.tick_state_kEstop nowMs).mpr h

theorem step_receipt (s : RobotSystem) (action : SystemAction) (receipt : GatewayReceipt)
    (h : (s.step action).2 = .outcome (.ok receipt)) :
    action = .host .receive ∧ s.host.receive.2 = some (.ok receipt) := by
  cases action with
  | host action =>
    change (s.hostStep action).2 = _ at h
    unfold hostStep at h
    split at h
    · cases h
    · split at h
      · next hstep =>
        cases h
        have houtput : (s.host.step action).2 = some (.ok receipt) := by rw [hstep]
        have hreceive := s.host.step_receipt action receipt houtput
        subst hreceive
        exact ⟨rfl, houtput⟩
      · cases h
  | arrive lost => cases h
  | readByte nowMs =>
    change (s.readByte nowMs).2 = _ at h
    unfold readByte at h
    split at h
    · cases h
    · dsimp only at h
      split at h <;> cases h
  | tick nowMs => cases h

/-- A receipt rests on what the robot did with that very request. -/
theorem Linked.receipt {initial : ℕ} {past : List SystemEvent} {s : RobotSystem}
    (h : Linked initial past s) (hwindow : s.host.Windowed) (receipt : GatewayReceipt)
    (hreceipt : s.host.receive.2 = some (.ok receipt)) :
    ∃ (holder : Holder) (frame : Frame) (result : DispatchResult),
      s.host.holder = some holder ∧ holder.Carries frame ∧
      receipt = ⟨holder.sequence, holder.call.messageType, .ok, holder.call.authorizationId⟩ ∧
      ⟨holder.number, frame.encode, result⟩ ∈ handlings past ∧
      acceptedResult receipt.messageType = some result := by
  obtain ⟨holder, answer, rest, hholder, hdecoded, -, haccepts, hequal⟩ :=
    h.coherent.receipt_genuine hwindow receipt hreceipt
  dsimp only at hholder hdecoded
  have hmem : ⟨answer.frame holder.sequence, some holder.number⟩ ∈
      s.host.decoded ++ s.host.link := by
    rw [hdecoded]
    exact List.mem_append_left _ (List.mem_cons_self ..)
  obtain ⟨handling, hhandling, hnumber, txSequence, hframe⟩ := h.answers _ hmem _ rfl
  -- the answer taken is the robot's own, so the robot accepted
  have hack : (sketchAnswer txSequence handling.result).messageType = .ack := by
    have htype := congrArg Frame.messageType hframe
    exact htype.symm.trans haccepts.1
  have haccepted : Accepted handling.result :=
    (ackStatusForDispatch_eq_ok_iff _).mp ((sketchAnswer_ack_iff _ _).mp hack)
  obtain ⟨frame, hdata, hresult⟩ := h.frames handling hhandling
  have hrecord : ⟨holder.number, frame.encode, handling.result⟩ ∈ handlings past := by
    rw [← hnumber, ← hdata]
    exact hhandling
  have hcarries := h.own holder hholder frame (.inr ⟨_, hrecord⟩)
  refine ⟨holder, frame, handling.result, hholder, hcarries, hequal, hrecord, ?_⟩
  rw [hequal, ← hcarries.messageType_eq]
  exact hresult haccepted

/-- Over every interleaving of the host's calls, timeouts and cancellations with the line and the
robot's loop: when a send method returns a receipt, the robot has handled that very request, with
the payload asked for, and accepted it in the way of its type; and after the receipt for an E-stop
the robot is stopped in every state that follows. -/
theorem receipts_rest_on_robot (ids : Dict ℤ) (ackTimeoutS : ExtendedNumber ℚ)
    (initialSequence : ℤ) (gateway : RobotGateway) (readSize : ℤ) (decoder : FrameStreamDecoder)
    (transport : ProtocolTransport) (robot : SerialState) (actions : List SystemAction)
    (hgateway : RobotGateway.new ids ackTimeoutS initialSequence = .ok gateway)
    (htransport : ProtocolTransport.new readSize decoder = .ok transport) (hidle : robot.Idle)
    (past later : List SystemEvent) (e : SystemEvent) (receipt : GatewayReceipt)
    (hcut : Machine.trace step (start gateway transport robot) actions = past ++ e :: later)
    (hreceipt : e.output = .outcome (.ok receipt)) (hwindow : e.before.host.Windowed) :
    (∃ (holder : Holder) (frame : Frame) (result : DispatchResult),
      e.before.host.holder = some holder ∧ holder.Carries frame ∧
      receipt = ⟨holder.sequence, holder.call.messageType, .ok, holder.call.authorizationId⟩ ∧
      ⟨holder.number, frame.encode, result⟩ ∈ handlings past ∧
      acceptedResult receipt.messageType = some result) ∧
    (receipt.messageType = .estop →
      ∀ f ∈ e :: later, f.after.robot.runtime.state = .kEstop) := by
  obtain ⟨hpast, hbefore⟩ := Machine.trace_split step _ actions past later e hcut
  have hlinked := linked_run ids ackTimeoutS initialSequence gateway readSize decoder transport
    robot hgateway htransport hidle (past.map Machine.Event.input)
  rw [← hpast, ← hbefore] at hlinked
  have hevent := Machine.trace_step step _ actions e
    (hcut ▸ List.mem_append_right _ (List.mem_cons_self ..))
  obtain ⟨-, hhost⟩ := e.before.step_receipt e.input receipt (by rw [hevent, hreceipt])
  have hrests := hlinked.receipt hwindow receipt hhost
  refine ⟨hrests, fun hestop => ?_⟩
  obtain ⟨_, _, result, _, _, _, hhandled, haccepted⟩ := hrests
  rw [hestop] at haccepted
  have hstopped := hlinked.latched ⟨_, hhandled, (Option.some.inj haccepted).symm⟩
  intro f hf
  rw [Machine.trace_from step _ actions past later e hcut] at hf
  exact Machine.states_invariant step step_estop e.before hstopped _ f.after
    (Machine.after_mem_states step _ _ f hf)

/-- An E-stop up to the receive that takes its answer. -/
def estopExchange : List SystemAction :=
  [.host (.enter true (.estop .manual)), .host (.acquire 0), .host .written, .arrive 0] ++
    List.replicate 12 (.readByte 5) ++
    [.host (.read (ackFrame 0 0 .kEstopLatched).encode [true])]

def estopAnswered : RobotSystem :=
  Machine.run step (start newGateway .initial .setup) estopExchange

theorem receipts_rest_on_robot_estop :
    (estopAnswered.step (.host .receive)).2 = .outcome (.ok ⟨0, .estop, .ok, none⟩) ∧
    ∀ f ∈ Machine.trace step estopAnswered [.host .receive, .tick 900],
      f.after.robot.runtime.state = .kEstop := by
  have hreceipt :
      (estopAnswered.step (.host .receive)).2 = .outcome (.ok ⟨0, .estop, .ok, none⟩) := by
    decide +kernel
  have hwindow : estopAnswered.host.Windowed := by
    have hissued : estopAnswered.host.issued.length = 1 := by decide +kernel
    intro e he number hnumber
    rw [hissued]
    omega
  have hcut := Machine.trace_append step (start newGateway .initial .setup) estopExchange
    [.host .receive, .tick 900]
  unfold estopAnswered at hreceipt hwindow ⊢
  rw [Machine.trace_cons] at hcut ⊢
  have hstops := receipts_rest_on_robot newGateway.jointProtocolIds (.finite 1) 0 newGateway 128
    .initial .initial .setup _ rfl rfl ⟨rfl, rfl⟩ _ _ _ ⟨0, .estop, .ok, none⟩ hcut
  dsimp only at hstops
  exact ⟨hreceipt, (hstops hreceipt hwindow).2 rfl⟩

/-- Whatever the interleaving, losses on the line included: the robot handles each request at
most once, in the order in which they were sent, and only frames with a payload that a send method
was called for; a motion command is deferred only for an authorization. -/
theorem robot_handles_requests_once (ids : Dict ℤ) (ackTimeoutS : ExtendedNumber ℚ)
    (initialSequence : ℤ) (gateway : RobotGateway) (readSize : ℤ) (decoder : FrameStreamDecoder)
    (transport : ProtocolTransport) (robot : SerialState) (actions : List SystemAction)
    (hgateway : RobotGateway.new ids ackTimeoutS initialSequence = .ok gateway)
    (htransport : ProtocolTransport.new readSize decoder = .ok transport) (hidle : robot.Idle) :
    let run := Machine.trace step (start gateway transport robot) actions
    ((handlings run).map Handling.number).Pairwise (· < ·) ∧
    ∀ handling ∈ handlings run, ∃ frame : Frame, handling.data = frame.encode ∧
      Asked run frame.messageType frame.payload ∧
      (handling.result = .kMotionDeferred → ∃ e ∈ run, ∃ authorization,
        e.input = .host (.enter true (.authorization authorization)) ∧
        e.before.host.gateway.authorizationPayload authorization = .ok frame.payload) := by
  have hlinked := linked_run ids ackTimeoutS initialSequence gateway readSize decoder transport
    robot hgateway htransport hidle actions
  dsimp only
  refine ⟨(List.pairwise_append.mp hlinked.increasing).1, ?_⟩
  intro handling hhandling
  obtain ⟨frame, hdata, hresult⟩ := hlinked.frames handling hhandling
  have hsent : handling = ⟨handling.number, frame.encode, handling.result⟩ := by rw [← hdata]
  have hasked := hlinked.asked handling.number frame (.inr ⟨handling.result, hsent ▸ hhandling⟩)
  refine ⟨frame, hdata, hasked, fun hdeferred => ?_⟩
  obtain ⟨e, he, call, hinput, htype, hpayload⟩ := hasked
  have hmotion := hresult (.inr (.inr hdeferred))
  rw [hdeferred, htype] at hmotion
  cases call with
  | authorization authorization => exact ⟨e, he, authorization, hinput, hpayload⟩
  | heartbeat uptimeMs state => cases hmotion
  | estop reason => cases hmotion

/-- Two E-stops one after the other, both handled by the robot. -/
def twoEstops : List SystemAction :=
  estopExchange ++ [.host .receive, .host (.enter true (.estop .manual)), .host (.acquire 0),
    .host .written, .arrive 0] ++ List.replicate 12 (.readByte 5)

theorem robot_handles_requests_once_estops :
    (handlings (Machine.trace step (start newGateway .initial .setup) twoEstops)).map
        (fun handling => (handling.number, handling.result)) =
      [(0, .kEstopLatched), (1, .kEstopLatched)] ∧
    ((handlings (Machine.trace step (start newGateway .initial .setup) twoEstops)).map
      Handling.number).Pairwise (· < ·) ∧
    ∀ handling ∈ handlings (Machine.trace step (start newGateway .initial .setup) twoEstops),
      handling.result ≠ .kMotionDeferred := by
  have hrun := robot_handles_requests_once newGateway.jointProtocolIds (.finite 1) 0 newGateway 128
    .initial .initial .setup twoEstops rfl rfl ⟨rfl, rfl⟩
  refine ⟨by decide +kernel, hrun.1, ?_⟩
  intro handling hhandling hdeferred
  obtain ⟨frame, -, -, hasked⟩ := hrun.2 handling hhandling
  obtain ⟨e, he, authorization, hinput, -⟩ := hasked hdeferred
  have hmem := List.mem_map_of_mem (f := Machine.Event.input) he
  rw [Machine.trace_inputs, hinput] at hmem
  simp [twoEstops, estopExchange] at hmem

end RobotSystem
end RoboticCharacter
