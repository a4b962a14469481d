import RoboticCharacter.FirmwareSerial

/-! A frame that arrives intact at an idle receiver is handled once and answered once. -/
namespace RoboticCharacter.Firmware
open Host

theorem encode_magic (f : Frame) :
    f.encode[0]? = some kMagic0 ∧ f.encode[1]? = some kMagic1 := by
  rw [f.encode_eq]
  exact ⟨rfl, rfl⟩

namespace SerialState
variable {start s : SerialState} {frame : Frame} {count : ℕ}

/-- The byte stored next extends the received part of the frame. -/
theorem Holding.store_received (h : start.Holding frame count s) (value : UInt8)
    (hvalue : frame.encode[count]? = some value) (hroom : count < kReceiveCapacity) :
    (s.receiveBuffer.set count value).take (count+1) = frame.encode.take (count+1) := by
  have hsize := s.size_eq
  rw [List.take_add_one, List.take_add_one, hvalue, List.take_set_of_le (le_refl count),
    h.received, List.getElem?_set_self (by omega)]

theorem length_encode_le_capacity (frame : Frame) : frame.encode.length ≤ kReceiveCapacity := by
  have hp := frame.payload_fits
  rw [Frame.length_encode, kReceiveCapacity, frameOverhead]
  omega

def received (s : SerialState) (value : UInt8) : SerialState :=
  { s.store s.receiveLength value with receiveLength := s.receiveLength+1 }

/-- The receiver accepts the next byte of a frame; only the eighth sets the frame size. -/
theorem Holding.ingestByte_eq (h : start.Holding frame count s) (value : UInt8)
    (nowMs : UInt32) (hvalue : frame.encode[count]? = some value) :
    s.ingestByte value nowMs =
      { s.received value with
        expectedFrameSize :=
          if count+1 < headerSize then 0 else frame.encode.length }.handleComplete nowMs := by
  have hcount : count < frame.encode.length := (List.getElem?_eq_some_iff.mp hvalue).1
  have hcapacity := length_encode_le_capacity frame
  have hlen := frame.length_encode
  have hp := frame.payload_fits
  have hreceived := h.store_received value hvalue (by omega)
  have hlength := h.receiveLength_eq
  have hexpected := h.expected
  obtain ⟨hmagic0, hmagic1⟩ := encode_magic frame
  -- at the index of a magic byte the value received is that byte
  have hmagic : ∀ (index : ℕ) (byte : UInt8), frame.encode[index]? = some byte →
      ¬ (s.receiveLength = index ∧ value ≠ byte) := by
    intro index byte hbyte hwrong
    rw [← hlength, hwrong.1, hbyte] at hvalue
    exact hwrong.2 (Option.some.inj hvalue).symm
  unfold ingestByte
  rw [if_neg (hmagic 0 kMagic0 hmagic0), if_neg (hmagic 1 kMagic1 hmagic1), if_neg (by omega)]
  dsimp only
  by_cases hheader : s.receiveLength+1 = headerSize
  · -- the declared payload length is the frame's own
    have hread : (readU16Le (s.receiveBuffer.set s.receiveLength value) 6).toNat =
        frame.payload.length := by
      rw [hlength] at hheader ⊢
      rw [hheader, frame.encode_take_header] at hreceived
      rw [readU16Le_eq_unpackH]
      exact (frame.headerOf_of_take _ hreceived).length_eq
    have hsize : frameOverhead+frame.payload.length = frame.encode.length := by
      rw [hlen, frameOverhead]
      omega
    have hfits : ¬ maxPayloadSize <
        (readU16Le (s.store s.receiveLength value).receiveBuffer 6).toNat := by
      change ¬ maxPayloadSize < (readU16Le (s.receiveBuffer.set s.receiveLength value) 6).toNat
      omega
    rw [if_pos hheader, if_neg hfits]
    simp only [store, hread, hsize]
    rw [if_neg (by omega)]
    rfl
  · rw [if_neg hheader]
    have hsame : s.expectedFrameSize = if count+1 < headerSize then 0 else frame.encode.length := by
      rw [hexpected]
      split_ifs <;> first | rfl | omega
    rw [← hsame]
    rfl

/-- Before the last byte nothing happens but that the byte is stored. -/
theorem Holding.step (h : start.Holding frame count s) (value : UInt8) (nowMs : UInt32)
    (hvalue : frame.encode[count]? = some value) (hmore : count+1 < frame.encode.length) :
    start.Holding frame (count+1) (s.ingestByte value nowMs).1 ∧
      (s.ingestByte value nowMs).2 = .nothing := by
  have hcapacity := length_encode_le_capacity frame
  have hreceived := h.store_received value hvalue (by omega)
  have hlength := h.receiveLength_eq
  rw [h.ingestByte_eq value nowMs hvalue, handleComplete, if_neg]
  · refine ⟨⟨h.runtime_eq, h.txSequence_eq, ?_, ?_, rfl⟩, rfl⟩
    · change s.receiveLength+1 = count+1
      rw [hlength]
    · change (s.receiveBuffer.set s.receiveLength value).take (count+1) = _
      rw [hlength]
      exact hreceived
  · change ¬ (0 < (if count+1 < headerSize then 0 else frame.encode.length) ∧
      s.receiveLength+1 = if count+1 < headerSize then 0 else frame.encode.length)
    split_ifs <;> omega

/-- The sketch after it has received `frame`: the frame was handled once, by the runtime as
the ticks since `start` left it, answered, and the receiver is idle again. -/
structure Delivered (start : SerialState) (frame : Frame) (calls : List (Bytes × DispatchResult))
    (written : Bytes) (after : SerialState) (result : DispatchResult) : Prop where
  idle : after.Idle
  dispatched : ∃ earlier nowMs later,
    result = ((ticked start.runtime earlier).handleFrame frame.encode nowMs).2 ∧
    after.runtime =
      ticked ((ticked start.runtime earlier).handleFrame frame.encode nowMs).1 later
  handled_once : calls = [(frame.encode, result)]
  sent_eq : (after.txSequence, written) =
    sendAcknowledgement start.txSequence (UInt16.ofNat frame.sequence) result

theorem Holding.last (h : start.Holding frame count s) (value : UInt8) (nowMs : UInt32)
    (hvalue : frame.encode[count]? = some value) (hlast : count+1 = frame.encode.length) :
    start.Delivered frame (s.ingestByte value nowMs).2.handled.toList
      (s.ingestByte value nowMs).2.written (s.ingestByte value nowMs).1
      (s.runtime.handleFrame frame.encode nowMs).2 := by
  have hcapacity := length_encode_le_capacity frame
  have hlen := frame.length_encode
  have hreceived := h.store_received value hvalue (by omega)
  have hlength := h.receiveLength_eq
  have hheader : ¬ count+1 < headerSize := by omega
  -- the whole frame is in the buffer, so both reads of it see the frame's own bytes
  have hbuffer : (s.receiveBuffer.set s.receiveLength value).take (s.receiveLength+1) =
      frame.encode := by
    rw [hlength, hreceived, hlast, List.take_length]
  have hsequence : readU16Le (s.receiveBuffer.set s.receiveLength value) 4 =
      UInt16.ofNat frame.sequence := by
    have htake : (s.receiveBuffer.set s.receiveLength value).take headerSize = frame.header := by
      have h8 := congrArg (List.take headerSize) hbuffer
      rwa [List.take_take, frame.encode_take_header, min_eq_left (by omega)] at h8
    rw [readU16Le_eq_ofNat, (frame.headerOf_of_take _ htake).sequence_eq]
  obtain ⟨earlier, hruntime⟩ := h.runtime_eq
  rw [h.ingestByte_eq value nowMs hvalue, handleComplete, if_pos]
  · refine ⟨⟨rfl, rfl⟩, ⟨earlier, nowMs, [], ?_, ?_⟩, ?_, ?_⟩
    · rw [hruntime]
    · change (s.runtime.handleFrame
        ((s.receiveBuffer.set s.receiveLength value).take (s.receiveLength+1)) nowMs).1 = _
      rw [hbuffer, hruntime]
      rfl
    · change [((s.receiveBuffer.set s.receiveLength value).take (s.receiveLength+1),
        (s.runtime.handleFrame
          ((s.receiveBuffer.set s.receiveLength value).take (s.receiveLength+1)) nowMs).2)] = _
      rw [hbuffer]
    · change sendAcknowledgement s.txSequence
        (readU16Le (s.receiveBuffer.set s.receiveLength value) 4)
        (s.runtime.handleFrame
          ((s.receiveBuffer.set s.receiveLength value).take (s.receiveLength+1)) nowMs).2 = _
      rw [hbuffer, hsequence, h.txSequence_eq]
  · change 0 < (if count+1 < headerSize then 0 else frame.encode.length) ∧
      s.receiveLength+1 = if count+1 < headerSize then 0 else frame.encode.length
    rw [if_neg hheader]
    omega

/-- Ticks after the last byte change nothing but the runtime. -/
theorem Delivered.ticks {calls : List (Bytes × DispatchResult)} {written : Bytes}
    {result : DispatchResult} (h : start.Delivered frame calls written s result)
    (steps : List LoopStep) (hsteps : bytesRead steps = []) :
    start.Delivered frame (calls ++ s.calls steps) (written ++ s.written steps)
      (Machine.run SerialState.step s steps) result := by
  obtain ⟨hcalls, hwritten, times, hrun⟩ := s.run_ticks steps hsteps
  rw [hcalls, hwritten, hrun, List.append_nil, List.append_nil]
  obtain ⟨earlier, nowMs, later, hresult, hruntime⟩ := h.dispatched
  refine { h with idle := ⟨h.idle.receiveLength_eq, h.idle.expectedFrameSize_eq⟩, dispatched := ?_ }
  refine ⟨earlier, nowMs, later ++ times, hresult, ?_⟩
  change ticked s.runtime times = _
  rw [hruntime, ticked_append]

/-- The rest of a frame, byte by byte, with ticks anywhere: one call of `HandleFrame`, at
its last byte. -/
theorem Holding.finish (h : start.Holding frame count s) (steps : List LoopStep)
    (hbytes : bytesRead steps = frame.encode.drop count) (hmore : count < frame.encode.length) :
    ∃ result, start.Delivered frame (s.calls steps) (s.written steps)
      (Machine.run SerialState.step s steps) result := by
  induction steps generalizing s count with
  | nil =>
    have hnil := congrArg List.length hbytes
    rw [List.length_drop] at hnil
    change 0 = _ at hnil
    omega
  | cons i rest ih =>
    rw [calls_cons, written_cons, Machine.run_cons]
    cases i with
    | tick nowMs => exact ih (h.tick nowMs) hbytes hmore
    | ingest value nowMs =>
      rw [List.drop_eq_getElem_cons hmore] at hbytes
      obtain ⟨hhead, htail⟩ := List.cons.inj hbytes
      have hvalue : frame.encode[count]? = some value := by
        rw [List.getElem?_eq_getElem hmore, ← hhead]
      by_cases hlast : count+1 = frame.encode.length
      · -- no byte is left after the last, and this step made the one call
        have hrest : bytesRead rest = [] := by
          rw [hlast, List.drop_length] at htail
          exact htail
        exact ⟨_, (h.last value nowMs hvalue hlast).ticks rest hrest⟩
      · obtain ⟨hnext, hnothing⟩ := h.step value nowMs hvalue (by omega)
        have hdone : s.step (.ingest value nowMs) = ((s.ingestByte value nowMs).1, .nothing) :=
          Prod.ext rfl hnothing
        rw [hdone]
        exact ih hnext htail (by omega)

/-- An encoded frame delivered to an idle receiver: its bytes may arrive at any times, with
any ticks of the loop before, between and after them. -/
theorem receive_frame (s : SerialState) (frame : Frame) (steps : List LoopStep)
    (hidle : s.Idle) (hbytes : bytesRead steps = frame.encode) :
    ∃ result, s.Delivered frame (s.calls steps) (s.written steps)
      (Machine.run SerialState.step s steps) result := by
  have hlen := frame.length_encode
  refine (Holding.of_idle s frame hidle).finish steps (by rw [List.drop_zero, hbytes]) ?_
  rw [hlen, headerSize]
  omega

end SerialState

end RoboticCharacter.Firmware
