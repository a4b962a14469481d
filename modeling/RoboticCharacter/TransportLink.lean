import RoboticCharacter.ProtocolTransport

/-! The in-memory byte channel, and two frame transports over it: a sender with one call in
flight and a receiver, interleaved in any way. -/
namespace RoboticCharacter

/-- One bounded direction of the memory link. -/
structure MemoryChannel where
  capacityBytes : ℕ
  buffer : Bytes
  closed : Bool
  capacity_pos : 0 < capacityBytes
  buffer_fits : buffer.length ≤ capacityBytes

namespace MemoryChannel

/-- The end of one attempt of a call, or the reason to wait on the condition. -/
inductive Attempt (α : Type)
  | done (result : α)
  | waits
  | raised (error : String)

def write (c : MemoryChannel) (data : Bytes) : Attempt MemoryChannel :=
  if data.length > c.capacityBytes then
    .raised s!"write of {data.length} bytes exceeds channel capacity {c.capacityBytes}"
  else if data = [] then .done c
  else if c.closed then .raised "remote memory transport endpoint is closed"
  else if h : c.buffer.length+data.length > c.capacityBytes then .waits
  else
    .done { c with
      buffer := c.buffer ++ data
      buffer_fits := by rw [List.length_append]; exact not_lt.mp h }

/-- One attempt to read: at the end of a closed channel it returns nothing. -/
def read (c : MemoryChannel) (maxBytes : ℕ) : Attempt (MemoryChannel × Bytes) :=
  if c.buffer = [] then
    if c.closed then .done (c, []) else .waits
  else
    .done ({ c with
      buffer := c.buffer.drop maxBytes
      buffer_fits := (List.length_drop.trans_le (Nat.sub_le _ _)).trans c.buffer_fits },
      c.buffer.take maxBytes)

def close (c : MemoryChannel) : MemoryChannel := { c with closed := true }

theorem toNat_capacity_pos (capacityBytes : ℤ) (h : ¬ capacityBytes ≤ 0) :
    0 < capacityBytes.toNat := Int.lt_toNat.mpr (not_le.mp h)

theorem empty_fits (capacity : ℕ) : ([] : Bytes).length ≤ capacity := Nat.zero_le capacity

def new (capacityBytes : ℤ) : Except String MemoryChannel :=
  if h : capacityBytes ≤ 0 then .error "capacity_bytes must be positive"
  else .ok ⟨capacityBytes.toNat, [], false, toNat_capacity_pos capacityBytes h, empty_fits _⟩

end MemoryChannel

/-- A sender and a receiver over one channel, with the record of what they did: the frames
passed to `send_frame`, those that `receive_frame` returned and the errors it raised. -/
structure FramedLink where
  channel : MemoryChannel
  sending : Option Frame
  receiver : ProtocolTransport
  sent : List Frame
  returned : List Frame
  errors : List String

namespace FramedLink

/-- What happens next: a call of `send_frame`, an attempt of its write, or a turn of the
loop of `receive_frame`. -/
inductive Action
  | send (frame : Frame)
  | write
  | receive

/-- A second call waits for the first; a frame the channel cannot hold is refused. -/
def send (l : FramedLink) (frame : Frame) : FramedLink :=
  match l.sending with
  | some _ => l
  | none =>
    if frame.encode.length > l.channel.capacityBytes then l
    else { l with sending := some frame, sent := l.sent ++ [frame] }

def write (l : FramedLink) : FramedLink :=
  match l.sending with
  | none => l
  | some frame =>
    match l.channel.write frame.encode with
    | .done channel => { l with channel, sending := none }
    | _ => l

/-- One turn of the receive loop: an issue or a frame that is ready, or a read. -/
def receive (l : FramedLink) : FramedLink :=
  match l.receiver.takeReady with
  | some (receiver, .frame frame) => { l with receiver, returned := l.returned ++ [frame] }
  | some (receiver, .failed error) => { l with receiver, errors := l.errors ++ [error] }
  | none =>
    match l.channel.read l.receiver.readSize with
    | .done (channel, chunk) =>
      if chunk = [] then { l with errors := l.errors ++ ["remote transport endpoint closed"] }
      else { l with channel, receiver := l.receiver.feedChunk chunk }
    | _ => l

def act (l : FramedLink) : Action → FramedLink
  | .send frame => l.send frame
  | .write => l.write
  | .receive => l.receive

def step (l : FramedLink) (a : Action) : FramedLink × Unit := (l.act a, ())

/-- A fresh pair, with the default read size and decoder on the receiving side. -/
def opened (channel : MemoryChannel) : FramedLink := ⟨channel, none, .initial, [], [], []⟩

/-- The next read, if there is one, fits the decoder's buffer with what it holds. -/
def Room (l : FramedLink) (a : Action) : Prop :=
  match a with
  | .receive => l.receiver.takeReady = none → l.channel.buffer ≠ [] →
      l.receiver.decoder.buffer.length+(l.channel.buffer.take l.receiver.readSize).length ≤
        l.receiver.decoder.maxBufferBytes
  | _ => True

/-- Nothing went wrong: no stream error raised or about to be, and the frames returned are
the first of those sent. -/
structure Lossless (l : FramedLink) : Prop where
  no_errors : l.errors = []
  no_issues : l.receiver.issues = []
  in_order : l.returned <+: l.sent

/-- The state of a link on which every frame sent is returned, in the receiver's queue, on
its way, or being written. -/
structure Clean (l : FramedLink) : Prop where
  is_open : l.channel.closed = false
  no_errors : l.errors = []
  limit : l.receiver.decoder.maxBufferBytes = FrameStreamDecoder.defaultMaxBufferBytes
  in_flight : ∃ frames, l.receiver.Receiving frames l.channel.buffer ∧
    l.sent = l.returned ++ (frames ++ l.sending.toList)

theorem Clean.lossless {l : FramedLink} (h : l.Clean) : l.Lossless := by
  obtain ⟨frames, hreceiving, hsent⟩ := h.in_flight
  exact ⟨h.no_errors, hreceiving.no_issues, ⟨_, hsent.symm⟩⟩

theorem clean_opened (capacityBytes : ℤ) (channel : MemoryChannel)
    (h : MemoryChannel.new capacityBytes = .ok channel) : (opened channel).Clean := by
  unfold MemoryChannel.new at h
  split_ifs at h
  cases h
  refine ⟨rfl, rfl, rfl, [], ⟨rfl, [], rfl, rfl, ?_, ?_⟩, rfl⟩
  · intro f hf
    exact absurd hf (by simp)
  · intro f hf
    exact absurd hf List.not_mem_nil

theorem length_encode_le_default (f : Frame) :
    f.encode.length ≤ FrameStreamDecoder.defaultMaxBufferBytes := by
  have hp := f.payload_fits
  rw [f.length_encode]
  unfold FrameStreamDecoder.defaultMaxBufferBytes frameOverhead
  omega

theorem Clean.send {l : FramedLink} (h : l.Clean) (f : Frame) : (l.send f).Clean := by
  obtain ⟨frames, hreceiving, hsent⟩ := h.in_flight
  unfold FramedLink.send
  cases hsending : l.sending with
  | some g => exact h
  | none =>
    dsimp only
    split_ifs with hbig
    · exact h
    · refine ⟨h.is_open, h.no_errors, h.limit, frames, hreceiving, ?_⟩
      rw [hsending, Option.toList_none, List.append_nil] at hsent
      change l.sent ++ [f] = l.returned ++ (frames ++ [f])
      rw [hsent, List.append_assoc]

theorem Clean.write {l : FramedLink} (h : l.Clean) : l.write.Clean := by
  obtain ⟨frames, hreceiving, hsent⟩ := h.in_flight
  unfold FramedLink.write
  cases hsending : l.sending with
  | none => exact h
  | some f =>
    dsimp only
    cases hwrite : l.channel.write f.encode with
    | waits => exact h
    | raised error => exact h
    | done channel =>
      have hchannel : channel.buffer = l.channel.buffer ++ f.encode ∧
          channel.closed = l.channel.closed := by
        have hlen := f.two_le_length_encode
        unfold MemoryChannel.write at hwrite
        split_ifs at hwrite with h1 h2 h3 h4
        · rw [h2, List.length_nil] at hlen
          omega
        · injection hwrite with heq
          rw [← heq]
          exact ⟨rfl, rfl⟩
      refine ⟨hchannel.2.trans h.is_open, h.no_errors, h.limit, frames ++ [f], ?_, ?_⟩
      · change l.receiver.Receiving (frames ++ [f]) channel.buffer
        rw [hchannel.1]
        exact hreceiving.append f (h.limit ▸ length_encode_le_default f)
      · rw [hsending] at hsent
        change l.sent = l.returned ++ (frames ++ [f] ++ [])
        rw [List.append_nil]
        exact hsent

/-- Reading within the limit hands nothing out and raises no issue. -/
theorem receiving_feedChunk {t : ProtocolTransport} {frames : List Frame} {chunk later : Bytes}
    (h : t.Receiving frames (chunk ++ later))
    (hroom : t.decoder.buffer.length+chunk.length ≤ t.decoder.maxBufferBytes) :
    (t.feedChunk chunk).Receiving frames later := by
  obtain ⟨rest, hframes, hexpecting⟩ := h.waiting
  obtain ⟨done, undone, hfed⟩ := t.decoder.feed_clean chunk rest later hexpecting hroom
  refine ⟨?_, undone, ?_, hfed.expecting⟩
  · rw [ProtocolTransport.feedChunk, hfed.issues_eq, List.append_nil]
    exact h.no_issues
  · rw [hframes, hfed.split, ProtocolTransport.feedChunk, hfed.frames_eq, List.append_assoc]

/-- On a clean link what is ready is the first frame of the queue. -/
theorem Clean.takeReady {l : FramedLink} (h : l.Clean) (receiver : ProtocolTransport)
    (received : Received) (hready : l.receiver.takeReady = some (receiver, received)) :
    ∃ f queue, l.receiver.frames = f :: queue ∧ received = .frame f ∧
      receiver = { l.receiver with frames := queue } := by
  obtain ⟨frames, hreceiving, _⟩ := h.in_flight
  unfold ProtocolTransport.takeReady at hready
  rw [hreceiving.no_issues] at hready
  cases hfirst : l.receiver.frames with
  | nil =>
    rw [hfirst] at hready
    cases hready
  | cons f queue =>
    simp only [hfirst, Option.some.injEq, Prod.mk.injEq] at hready
    refine ⟨f, queue, rfl, hready.2.symm, ?_⟩
    rw [← hready.1]
    simp only [hreceiving.no_issues]

/-- A turn that reads: the chunk leaves the channel and goes to the decoder. -/
theorem receive_reads (l : FramedLink) (hready : l.receiver.takeReady = none)
    (hne : l.channel.buffer ≠ []) :
    ∃ channel : MemoryChannel, channel.buffer = l.channel.buffer.drop l.receiver.readSize ∧
      channel.closed = l.channel.closed ∧
      l.receive = { l with
        channel
        receiver := l.receiver.feedChunk (l.channel.buffer.take l.receiver.readSize) } := by
  have hchunk : l.channel.buffer.take l.receiver.readSize ≠ [] := by
    have hpos := l.receiver.readSize_pos
    rw [ne_eq, List.take_eq_nil_iff, not_or]
    exact ⟨by omega, hne⟩
  have hfits : (l.channel.buffer.drop l.receiver.readSize).length ≤ l.channel.capacityBytes := by
    have hbuffer := l.channel.buffer_fits
    rw [List.length_drop]
    omega
  refine ⟨{ l.channel with
    buffer := l.channel.buffer.drop l.receiver.readSize
    buffer_fits := hfits }, rfl, rfl, ?_⟩
  rw [FramedLink.receive, hready]
  dsimp only
  rw [MemoryChannel.read, if_neg hne]
  dsimp only
  rw [if_neg hchunk]

theorem Clean.receive {l : FramedLink} (h : l.Clean) (hroom : l.Room .receive) :
    l.receive.Clean := by
  obtain ⟨frames, hreceiving, hsent⟩ := h.in_flight
  cases hready : l.receiver.takeReady with
  | some ready =>
    obtain ⟨f, queue, hfirst, hreceived, hreceiver⟩ := h.takeReady ready.1 ready.2 hready
    have hreceive : l.receive =
        { l with
          receiver := { l.receiver with frames := queue }
          returned := l.returned ++ [f] } := by
      rw [FramedLink.receive, hready, ← hreceiver, ← Prod.mk.eta (p := ready), hreceived]
    obtain ⟨rest, hframes, hexpecting⟩ := hreceiving.waiting
    rw [hreceive]
    refine ⟨h.is_open, h.no_errors, h.limit, queue ++ rest,
      ⟨hreceiving.no_issues, rest, rfl, hexpecting⟩, ?_⟩
    rw [hframes, hfirst] at hsent
    change l.sent = l.returned ++ [f] ++ (queue ++ rest ++ l.sending.toList)
    rw [hsent]
    simp only [List.append_assoc, List.cons_append, List.nil_append]
  | none =>
    by_cases hempty : l.channel.buffer = []
    · rw [FramedLink.receive, hready]
      dsimp only
      rw [MemoryChannel.read, if_pos hempty, h.is_open]
      exact h
    · obtain ⟨channel, hbuffer, hclosed, hreceive⟩ := l.receive_reads hready hempty
      rw [hreceive]
      refine ⟨hclosed.trans h.is_open, h.no_errors,
        (l.receiver.decoder.feed_maxBufferBytes _).trans h.limit, frames, ?_, hsent⟩
      change (l.receiver.feedChunk _).Receiving frames channel.buffer
      rw [hbuffer]
      apply receiving_feedChunk _ (hroom hready hempty)
      rwa [List.take_append_drop]

theorem Clean.act {l : FramedLink} (h : l.Clean) (a : Action) (hroom : l.Room a) :
    (l.act a).Clean := by
  cases a with
  | send f => exact h.send f
  | write => exact h.write
  | receive => exact h.receive hroom

/-- A read past the limit discards what was buffered, and says so at the next receive. -/
theorem receive_overflow (l : FramedLink) (hready : l.receiver.takeReady = none)
    (hne : l.channel.buffer ≠ [])
    (hover : l.receiver.decoder.maxBufferBytes < l.receiver.decoder.buffer.length +
      (l.channel.buffer.take l.receiver.readSize).length) : l.receive.receiver.issues ≠ [] := by
  obtain ⟨channel, _, _, hreceive⟩ := l.receive_reads hready hne
  rw [hreceive]
  dsimp only
  rw [ProtocolTransport.feedChunk, FrameStreamDecoder.feed, if_pos hover]
  simp

/-- The link loses nothing exactly in the runs whose every read fits the decoder's buffer. -/
theorem lossless_iff_room (capacityBytes : ℤ) (channel : MemoryChannel)
    (h : MemoryChannel.new capacityBytes = .ok channel) (actions : List Action) :
    (∀ l ∈ Machine.states step (opened channel) actions, l.Lossless) ↔
      ∀ e ∈ Machine.trace step (opened channel) actions, e.before.Room e.input := by
  constructor
  · intro hall e he
    have hstep := Machine.trace_step step _ _ e he
    have hafter : e.after = e.before.act e.input := (congrArg Prod.fst hstep).symm
    have hlossless := hall e.after (Machine.after_mem_states step _ _ e he)
    rw [hafter] at hlossless
    cases hinput : e.input with
    | send f => trivial
    | write => trivial
    | receive =>
      intro hready hne
      by_contra hover
      rw [hinput] at hlossless
      exact receive_overflow e.before hready hne (not_le.mp hover) hlossless.no_issues
  · intro hroom l hl
    have hclean := Machine.states_guarded step (P := Clean) Room
      (fun l a hl ha => hl.act a ha) _ (clean_opened capacityBytes channel h) actions hroom l hl
    exact hclean.lossless

instance (l : FramedLink) (a : Action) : Decidable (l.Room a) :=
  match a with
  | .send _ => .isTrue trivial
  | .write => .isTrue trivial
  | .receive => inferInstanceAs (Decidable (_ → _ → _ ≤ _))

theorem shortSequence_fits : 7 ≤ 0xFFFF := by omega

theorem shortPayload_fits : ([1, 2, 3] : Bytes).length ≤ maxPayloadSize := Nat.le_of_ble_eq_true rfl

def shortFrame : Frame where
  messageType := .heartbeat
  sequence := 7
  payload := [1, 2, 3]
  sequence_fits := shortSequence_fits
  payload_fits := shortPayload_fits

/-- A frame is sent, written, read and returned. -/
def shortExchange : List Action := [.send shortFrame, .write, .receive, .receive]

theorem lossless_iff_room_short : ∃ channel, MemoryChannel.new 4096 = .ok channel ∧
    (∀ l ∈ Machine.states step (opened channel) shortExchange, l.Lossless) ∧
    (Machine.run step (opened channel) shortExchange).returned = [shortFrame] := by
  refine ⟨_, rfl, (lossless_iff_room 4096 _ rfl shortExchange).mpr ?_, ?_⟩
  · decide +kernel
  · decide +kernel

section Overflow

theorem longPayload_fits : (List.replicate 512 (0 : UInt8)).length ≤ maxPayloadSize := by
  rw [List.length_replicate, maxPayloadSize]

theorem longSequence_fits : 0 ≤ 0xFFFF := Nat.zero_le 0xFFFF

/-- A frame with the largest payload. -/
def longFrame : Frame where
  messageType := .heartbeat
  sequence := 0
  payload := List.replicate 512 0
  sequence_fits := longSequence_fits
  payload_fits := longPayload_fits

theorem length_longFrame : longFrame.encode.length = 522 := by
  rw [Frame.length_encode, longFrame, List.length_replicate]
  rfl

/-- Two such frames are in the channel, and `count` bytes of the first have been read. -/
structure Midway (count : ℕ) (l : FramedLink) : Prop where
  unread : l.channel.buffer = (longFrame.encode ++ longFrame.encode).drop count
  buffered : l.receiver.decoder.buffer = longFrame.encode.take count
  limit : l.receiver.decoder.maxBufferBytes = 586
  read_size : l.receiver.readSize = 128
  no_frames : l.receiver.frames = []
  no_issues : l.receiver.issues = []

theorem Midway.idle {count : ℕ} {l : FramedLink} (h : l.Midway count) :
    l.receiver.takeReady = none := by
  rw [ProtocolTransport.takeReady, h.no_issues, h.no_frames]

theorem Midway.unread_length {count : ℕ} {l : FramedLink} (h : l.Midway count) :
    l.channel.buffer.length = 1044-count := by
  rw [h.unread, List.length_drop, List.length_append, length_longFrame]

/-- A read within the first frame is only buffered. -/
theorem Midway.receive {count : ℕ} {l : FramedLink} (h : l.Midway count)
    (hcount : count+128 < 522) : l.receive.Midway (count+128) := by
  have hlen := length_longFrame
  have hunread := h.unread_length
  have hne : l.channel.buffer ≠ [] := List.ne_nil_of_length_pos (by omega)
  have hchunk : l.channel.buffer.take 128 = (longFrame.encode.drop count).take 128 := by
    rw [h.unread, List.drop_append_of_le_length (by omega),
      List.take_append_of_le_length (by rw [List.length_drop]; omega)]
  have hjoined : l.receiver.decoder.buffer ++ l.channel.buffer.take 128 =
      longFrame.encode.take (count+128) := by
    rw [h.buffered, hchunk, List.take_add]
  have hfeed := l.receiver.decoder.feed_unfinished longFrame (l.channel.buffer.take 128)
    (by rw [hjoined]; exact List.take_prefix _ _)
    (by rw [hjoined, List.length_take]; omega) (by rw [h.limit]; omega)
  obtain ⟨channel, hbuffer, _, hreceive⟩ := l.receive_reads h.idle hne
  rw [h.read_size] at hbuffer hreceive
  rw [hreceive]
  refine ⟨?_, ?_, ?_, h.read_size, ?_, ?_⟩
  · change channel.buffer = _
    rw [hbuffer, h.unread, List.drop_drop]
  · dsimp only
    rw [ProtocolTransport.feedChunk, hfeed]
    exact hjoined
  · dsimp only
    rw [ProtocolTransport.feedChunk, hfeed]
    exact h.limit
  · dsimp only
    rw [ProtocolTransport.feedChunk, hfeed, h.no_frames]
    rfl
  · dsimp only
    rw [ProtocolTransport.feedChunk, hfeed, h.no_issues]
    rfl

theorem receive_raises (l : FramedLink) (h : l.receiver.issues ≠ []) : l.receive.errors ≠ [] := by
  cases hissues : l.receiver.issues with
  | nil => exact absurd hissues h
  | cons issue rest =>
    rw [FramedLink.receive, ProtocolTransport.takeReady, hissues]
    simp

/-- A frame is passed to `send_frame` and written, where the channel has room for it. -/
theorem send_write (l : FramedLink) (f : Frame) (hidle : l.sending = none)
    (hopen : l.channel.closed = false)
    (hroom : l.channel.buffer.length+f.encode.length ≤ l.channel.capacityBytes) :
    (l.send f).write.channel.buffer = l.channel.buffer ++ f.encode ∧
      (l.send f).write.channel.closed = false ∧
      (l.send f).write.channel.capacityBytes = l.channel.capacityBytes ∧
      (l.send f).write.sending = none ∧ (l.send f).write.receiver = l.receiver := by
  have hne : f.encode ≠ [] := by
    have := f.two_le_length_encode
    exact List.ne_nil_of_length_pos (by omega)
  have hsend : l.send f = { l with sending := some f, sent := l.sent ++ [f] } := by
    rw [FramedLink.send, hidle]
    exact if_neg (by omega)
  rw [hsend, FramedLink.write]
  dsimp only
  rw [MemoryChannel.write, if_neg (by omega), if_neg hne, hopen, if_neg Bool.false_ne_true,
    dif_neg (by omega)]
  exact ⟨rfl, rfl, rfl, rfl, rfl⟩

/-- Two maximal frames sent back to back: the fifth read overflows the decoder. -/
theorem maximal_frames_overflow : ¬ ∀ (capacityBytes : ℤ) (channel : MemoryChannel)
    (actions : List Action), MemoryChannel.new capacityBytes = .ok channel →
    (∀ f, .send f ∈ actions → f.encode.length ≤ channel.capacityBytes) →
    ∀ l ∈ Machine.states step (opened channel) actions, l.errors = [] ∧ l.returned <+: l.sent := by
  intro hevery
  have hlen := length_longFrame
  have hpos : 0 < 4096 := by decide
  let channel : MemoryChannel := ⟨4096, [], false, hpos, Nat.zero_le _⟩
  let start := opened channel
  let actions : List Action := [.send longFrame, .write, .send longFrame, .write, .receive,
    .receive, .receive, .receive, .receive, .receive]
  obtain ⟨hbuffer, hopen, hcapacity, hidle, hreceiver⟩ := send_write start longFrame rfl rfl
    (by rw [hlen]; change 0+522 ≤ 4096; decide)
  change (start.send longFrame).write.channel.capacityBytes = 4096 at hcapacity
  have hempty : start.channel.buffer = [] := rfl
  rw [hempty, List.nil_append] at hbuffer
  obtain ⟨hbuffer', _, _, _, hreceiver'⟩ := send_write _ longFrame hidle hopen
    (by rw [hbuffer, hcapacity, hlen]; decide)
  -- both frames are in the channel; four reads stay within the first of them
  have hsent : (((start.send longFrame).write.send longFrame).write).Midway 0 := by
    refine ⟨by rw [hbuffer', hbuffer, List.drop_zero], ?_, ?_, ?_, ?_, ?_⟩
    · rw [hreceiver', hreceiver, List.take_zero]
      rfl
    all_goals rw [hreceiver', hreceiver]; rfl
  have hread := (((hsent.receive (by decide)).receive (by decide)).receive (by decide)).receive
    (by decide)
  have hover := receive_overflow _ hread.idle
    (List.ne_nil_of_length_pos (by rw [hread.unread_length]; decide))
    (by
      rw [hread.limit, hread.buffered, hread.read_size, List.length_take, List.length_take,
        hread.unread_length, hlen]
      decide)
  have hraised := receive_raises _ hover
  have hfits : ∀ f, .send f ∈ actions → f.encode.length ≤ channel.capacityBytes := by
    intro f hf
    have hf' : f = longFrame := by simpa [actions] using hf
    rw [hf', hlen]
    change 522 ≤ 4096
    decide
  have hstate := hevery 4096 channel actions rfl hfits _
    (Machine.run_mem_states step start actions)
  have hrun : Machine.run step start actions =
      ((((((start.send longFrame).write.send longFrame).write).receive.receive).receive).receive
        ).receive.receive := by
    simp only [actions, Machine.run_cons, Machine.run_nil, step, act]
  rw [hrun] at hstate
  exact hraised hstate.1

end Overflow

/-- The largest payload for which a read after an unfinished frame always fits. -/
def safePayloadSize : ℕ := 449

/-- A clean link that carries only frames of that size. -/
structure Small (l : FramedLink) : Prop where
  clean : l.Clean
  read_size : l.receiver.readSize = 128
  sent_small : ∀ f ∈ l.sent, f.payload.length ≤ safePayloadSize

theorem Small.room {l : FramedLink} (h : l.Small) (a : Action) : l.Room a := by
  cases a with
  | send f => trivial
  | write => trivial
  | receive =>
    intro _ _
    obtain ⟨frames, hreceiving, hsent⟩ := h.clean.in_flight
    obtain ⟨rest, hframes, hexpecting⟩ := hreceiving.waiting
    have hchunk : (l.channel.buffer.take l.receiver.readSize).length ≤ 128 :=
      h.read_size ▸ List.length_take_le _ _
    have hbuffer : l.receiver.decoder.buffer.length ≤ headerSize+safePayloadSize+crcSize-1 := by
      cases rest with
      | nil =>
        have hempty := (List.append_eq_nil_iff.mp hexpecting.stream).1
        rw [hempty]
        exact Nat.zero_le _
      | cons f rest =>
        have hshort := hexpecting.unfinished f rfl
        have hsmall := h.sent_small f (by simp [hsent, hframes])
        rw [f.length_encode] at hshort
        omega
    rw [h.clean.limit]
    change _ ≤ 586
    change _ ≤ 458 at hbuffer
    omega

theorem receive_sent (l : FramedLink) : l.receive.sent = l.sent := by
  unfold FramedLink.receive
  split
  · rfl
  · rfl
  · split
    · split <;> rfl
    · rfl

theorem write_sent (l : FramedLink) : l.write.sent = l.sent := by
  unfold FramedLink.write
  split
  · rfl
  · split <;> rfl

theorem send_sent (l : FramedLink) (f g : Frame) (h : g ∈ (l.send f).sent) :
    g ∈ l.sent ∨ g = f := by
  unfold FramedLink.send at h
  split at h
  · exact .inl h
  · split_ifs at h
    · exact .inl h
    · exact (List.mem_append.mp h).imp_right List.mem_singleton.mp

theorem act_readSize (l : FramedLink) (a : Action) :
    (l.act a).receiver.readSize = l.receiver.readSize := by
  cases a with
  | send f =>
    rw [act, FramedLink.send]
    split
    · rfl
    · split_ifs <;> rfl
  | write =>
    rw [act, FramedLink.write]
    split
    · rfl
    · split <;> rfl
  | receive =>
    rw [act, FramedLink.receive]
    have hready : ∀ receiver received, l.receiver.takeReady = some (receiver, received) →
        receiver.readSize = l.receiver.readSize := by
      intro receiver received h
      unfold ProtocolTransport.takeReady at h
      split at h
      · cases h
        rfl
      · split at h
        · cases h
          rfl
        · cases h
    split
    · next heq => exact hready _ _ heq
    · next heq => exact hready _ _ heq
    · split
      · split <;> rfl
      · rfl

/-- What a call passes to `send_frame`. -/
def Action.SendsSmall : Action → Prop
  | .send frame => frame.payload.length ≤ safePayloadSize
  | _ => True

theorem Small.act {l : FramedLink} (h : l.Small) (a : Action) (ha : a.SendsSmall) :
    (l.act a).Small := by
  refine ⟨h.clean.act a (h.room a), (l.act_readSize a).trans h.read_size, ?_⟩
  intro g hg
  cases a with
  | send f =>
    rcases send_sent l f g hg with hold | hnew
    · exact h.sent_small g hold
    · exact hnew ▸ ha
  | write => exact h.sent_small g (write_sent l ▸ hg)
  | receive => exact h.sent_small g (receive_sent l ▸ hg)

/-- Frames of up to 449 bytes of payload are never lost, whatever the interleaving. -/
theorem small_frames_lossless (capacityBytes : ℤ) (channel : MemoryChannel)
    (h : MemoryChannel.new capacityBytes = .ok channel) (actions : List Action)
    (hsmall : ∀ a ∈ actions, a.SendsSmall) :
    ∀ l ∈ Machine.states step (opened channel) actions, l.Lossless := by
  intro l hl
  have hstart : (opened channel).Small :=
    ⟨clean_opened capacityBytes channel h, rfl, fun f hf => absurd hf List.not_mem_nil⟩
  have hinputs : ∀ e ∈ Machine.trace step (opened channel) actions, e.input.SendsSmall := by
    intro e he
    apply hsmall
    rw [← Machine.trace_inputs step (opened channel) actions]
    exact List.mem_map_of_mem he
  exact (Machine.states_guarded step (P := Small) (fun _ a => a.SendsSmall)
    (fun l a hl ha => hl.act a ha) _ hstart actions hinputs l hl).clean.lossless

end FramedLink

end RoboticCharacter
