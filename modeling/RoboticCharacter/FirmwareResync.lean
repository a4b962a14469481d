import RoboticCharacter.FirmwareReceive
import RoboticCharacter.ProtocolResync

/-! The robot sketch on a stream of frames and junk: where it hands a string to
`HandleFrame`, and when these are exactly the frames that were sent. -/
namespace RoboticCharacter.Firmware
open Host

/-- What the receiver hands over of a stream that it reads idle from position `base` on:
each string with the position just after its last byte. A stray magic takes the bytes it
declares with it, or a header's worth when it declares too many. -/
def handledAt (base : ℕ) : Bytes → List (ℕ × Bytes)
  | [] => []
  | a :: rest =>
    if (a :: rest).take 2 ≠ magic then handledAt (base+1) rest
    else if (a :: rest).length < headerSize then []
    else if unpackH (a :: rest) 6 > maxPayloadSize then
      handledAt (base+headerSize) ((a :: rest).drop headerSize)
    else if (a :: rest).length < frameOverhead+unpackH (a :: rest) 6 then []
    else
      (base+(frameOverhead+unpackH (a :: rest) 6),
          (a :: rest).take (frameOverhead+unpackH (a :: rest) 6)) ::
        handledAt (base+(frameOverhead+unpackH (a :: rest) 6))
          ((a :: rest).drop (frameOverhead+unpackH (a :: rest) 6))
termination_by data => data.length
decreasing_by
  all_goals simp only [List.length_cons, List.length_drop, headerSize, frameOverhead, crcSize]
  all_goals omega

theorem handledAt_nil (base : ℕ) : handledAt base [] = [] := by rw [handledAt]

theorem handledAt_skip (base : ℕ) (a : UInt8) (rest : Bytes) (h : (a :: rest).take 2 ≠ magic) :
    handledAt base (a :: rest) = handledAt (base+1) rest := by
  rw [handledAt, if_pos h]

theorem ne_nil_of_magic {data : Bytes} (hmagic : data.take 2 = magic) :
    ∃ a rest, data = a :: rest := by
  cases data with
  | nil => exact absurd hmagic (by simp [magic])
  | cons a rest => exact ⟨a, rest, rfl⟩

theorem handledAt_incomplete (base : ℕ) (data : Bytes) (hmagic : data.take 2 = magic)
    (hshort : data.length < headerSize) : handledAt base data = [] := by
  obtain ⟨a, rest, rfl⟩ := ne_nil_of_magic hmagic
  rw [handledAt, if_neg (not_not.mpr hmagic), if_pos hshort]

theorem handledAt_oversized (base : ℕ) (data : Bytes) (hmagic : data.take 2 = magic)
    (hlong : headerSize ≤ data.length) (hbig : maxPayloadSize < unpackH data 6) :
    handledAt base data = handledAt (base+headerSize) (data.drop headerSize) := by
  obtain ⟨a, rest, rfl⟩ := ne_nil_of_magic hmagic
  rw [handledAt, if_neg (not_not.mpr hmagic), if_neg (not_lt.mpr hlong), if_pos hbig]

theorem handledAt_unfinished (base : ℕ) (data : Bytes) (hmagic : data.take 2 = magic)
    (hfits : unpackH data 6 ≤ maxPayloadSize)
    (hshort : data.length < frameOverhead+unpackH data 6) : handledAt base data = [] := by
  obtain ⟨a, rest, rfl⟩ := ne_nil_of_magic hmagic
  rw [handledAt, if_neg (not_not.mpr hmagic), if_neg (not_lt.mpr hfits), if_pos hshort, ite_self]

theorem handledAt_window (base : ℕ) (data : Bytes) (hmagic : data.take 2 = magic)
    (hfits : unpackH data 6 ≤ maxPayloadSize)
    (hlong : frameOverhead+unpackH data 6 ≤ data.length) :
    handledAt base data =
      (base+(frameOverhead+unpackH data 6), data.take (frameOverhead+unpackH data 6)) ::
        handledAt (base+(frameOverhead+unpackH data 6))
          (data.drop (frameOverhead+unpackH data 6)) := by
  have hheader : headerSize ≤ data.length := by
    unfold frameOverhead at hlong
    omega
  obtain ⟨a, rest, rfl⟩ := ne_nil_of_magic hmagic
  rw [handledAt, if_neg (not_not.mpr hmagic), if_neg (not_lt.mpr hheader),
    if_neg (not_lt.mpr hfits), if_neg (not_lt.mpr hlong)]

namespace SerialState

/-- The calls of `HandleFrame`, each with the number of bytes read when it was made. -/
def callsAt (s : SerialState) (position : ℕ) : List LoopStep → List (ℕ × Bytes)
  | [] => []
  | i :: rest =>
    (s.step i).2.handled.toList.map
        (fun call => (position+i.value?.toList.length, call.1)) ++
      (s.step i).1.callsAt (position+i.value?.toList.length) rest

theorem callsAt_snd (s : SerialState) (position : ℕ) (steps : List LoopStep) :
    (s.callsAt position steps).map Prod.snd = (s.calls steps).map Prod.fst := by
  induction steps generalizing s position with
  | nil => rfl
  | cons i rest ih =>
    rw [callsAt, calls_cons, List.map_append, List.map_append, ih, List.map_map]
    rfl

/-- The receiver holds the bytes `p`, which begin a frame it still waits for. -/
structure Pending (s : SerialState) (p : Bytes) : Prop where
  receiveLength_eq : s.receiveLength = p.length
  received : s.receiveBuffer.take p.length = p
  begins : p.take 2 <+: magic
  expected : s.expectedFrameSize =
    if p.length < headerSize then 0 else frameOverhead+unpackH p 6
  waits : headerSize ≤ p.length →
    unpackH p 6 ≤ maxPayloadSize ∧ p.length < frameOverhead+unpackH p 6

theorem Pending.of_idle {s : SerialState} (h : s.Idle) : s.Pending [] :=
  ⟨h.receiveLength_eq, rfl, List.nil_prefix, h.expectedFrameSize_eq, by
    intro hlong
    exact absurd hlong (by decide)⟩

theorem Pending.tick {s : SerialState} {p : Bytes} (h : s.Pending p) (nowMs : UInt32) :
    ({ s with runtime := s.runtime.tick nowMs } : SerialState).Pending p :=
  ⟨h.receiveLength_eq, h.received, h.begins, h.expected, h.waits⟩

theorem Pending.length_lt {s : SerialState} {p : Bytes} (h : s.Pending p) :
    p.length < kReceiveCapacity := by
  by_cases hlong : headerSize ≤ p.length
  · obtain ⟨hfits, hless⟩ := h.waits hlong
    unfold kReceiveCapacity
    omega
  · unfold kReceiveCapacity frameOverhead
    omega

/-- What one byte does to a receiver that holds `p`: it goes on with `p'` after dropping or
handing over what comes before. -/
structure Ingests (p : Bytes) (value : UInt8) (result : SerialState × Ingested) (p' : Bytes) :
    Prop where
  pending : result.1.Pending p'
  dropped : ∃ dropped, p ++ [value] = dropped ++ p' ∧ ∀ base rest,
    handledAt base (p ++ value :: rest) =
      result.2.handled.toList.map (fun call => (base+p.length+1, call.1)) ++
        handledAt (base+dropped.length) (p' ++ rest)

/-- The state after the byte is stored at the end of what is held. -/
theorem Pending.received_take {s : SerialState} {p : Bytes} (h : s.Pending p) (value : UInt8) :
    (s.received value).receiveBuffer.take (p.length+1) = p ++ [value] := by
  have hsize := s.size_eq
  have hroom := h.length_lt
  change (s.receiveBuffer.set s.receiveLength value).take (p.length+1) = p ++ [value]
  rw [h.receiveLength_eq, List.take_add_one, List.take_set_of_le (le_refl p.length), h.received,
    List.getElem?_set_self (by omega)]
  rfl

theorem Pending.received_length {s : SerialState} {p : Bytes} (h : s.Pending p)
    (value : UInt8) : (s.received value).receiveLength = p.length+1 := by
  change s.receiveLength+1 = _
  rw [h.receiveLength_eq]

/-- A field of the buffer that lies in the part received. -/
theorem unpackH_of_take (buffer data : Bytes) (offset : ℕ) (h : buffer.take data.length = data)
    (hoffset : offset+2 ≤ data.length) : unpackH buffer offset = unpackH data offset := by
  have hsplit : buffer = data ++ buffer.drop data.length := by
    conv_lhs => rw [← List.take_append_drop data.length buffer, h]
  rw [hsplit, FrameStreamDecoder.unpackH_append _ _ _ hoffset]

/-- A byte that is stored without completing anything is held with the others. -/
theorem Ingests.keep {s : SerialState} {p : Bytes} (value : UInt8) (h : s.Pending (p ++ [value])) :
    Ingests p value (s, .nothing) (p ++ [value]) := by
  refine ⟨h, [], rfl, ?_⟩
  intro base rest
  simp [Ingested.nothing]

theorem Ingests.ignored {s : SerialState} (value : UInt8) (h : s.Pending [])
    (hvalue : value ≠ kMagic0) : Ingests [] value (s, .nothing) [] := by
  refine ⟨h, [value], rfl, ?_⟩
  intro base rest
  have hskip : (value :: rest).take 2 ≠ magic := by
    intro heq
    have hhead := congrArg List.head? heq
    simp [magic] at hhead
    exact hvalue hhead
  exact handledAt_skip base value rest hskip

theorem handleComplete_keep (s : SerialState) (nowMs : UInt32)
    (h : ¬ (0 < s.expectedFrameSize ∧ s.receiveLength = s.expectedFrameSize)) :
    s.handleComplete nowMs = (s, .nothing) := if_neg h

/-- The last byte of a window: the whole of it is handed over. -/
theorem Ingests.complete {s : SerialState} {p : Bytes} (h : s.Pending p) (value : UInt8)
    (nowMs : UInt32) (hlong : headerSize ≤ p.length)
    (hlast : p.length+1 = frameOverhead+unpackH p 6) :
    Ingests p value ((s.received value).handleComplete nowMs) [] := by
  have htake := h.received_take value
  have hlength := h.received_length value
  have hexpected : (s.received value).expectedFrameSize = frameOverhead+unpackH p 6 := by
    change s.expectedFrameSize = _
    rw [h.expected, if_neg (not_lt.mpr hlong)]
  have hsize := (h.waits hlong).1
  have hp2 : 2 ≤ p.length := by
    unfold headerSize at hlong
    omega
  have hwhole : (p ++ [value]).length = frameOverhead+unpackH p 6 := by
    rw [List.length_append, List.length_singleton, hlast]
  rw [handleComplete, if_pos ⟨by rw [hexpected, ← hlast]; omega, by rw [hlength, hexpected, hlast]⟩]
  refine ⟨Pending.of_idle ⟨rfl, rfl⟩, p ++ [value], (List.append_nil _).symm, ?_⟩
  intro base rest
  have hsplit : p ++ value :: rest = (p ++ [value]) ++ rest := by
    rw [List.append_assoc, List.singleton_append]
  have hmagic : ((p ++ [value]) ++ rest).take 2 = magic := by
    rw [← hsplit, List.take_append_of_le_length hp2]
    apply h.begins.eq_of_length
    rw [List.length_take, min_eq_left hp2]
    rfl
  have hfield : unpackH ((p ++ [value]) ++ rest) 6 = unpackH p 6 := by
    rw [← hsplit, FrameStreamDecoder.unpackH_append _ _ _ (by unfold headerSize at hlong; omega)]
  have hwindow := handledAt_window base _ hmagic (by rw [hfield]; exact hsize)
    (by rw [hfield, ← hwhole]; exact (List.prefix_append _ rest).length_le)
  rw [hfield, ← hwhole, List.take_left' rfl, List.drop_left' rfl] at hwindow
  rw [hsplit, hwindow, List.nil_append]
  simp only [htake, hlength, Option.toList_some, List.map_cons, List.map_nil, List.length_append,
    List.length_singleton, Nat.add_assoc, List.cons_append, List.nil_append]

/-- The eighth byte of a header that declares too much: all eight are dropped. -/
theorem Ingests.oversized {p : Bytes} (value : UInt8) (s : SerialState)
    (hbegins : (p ++ [value]).take 2 = magic) (hlong : (p ++ [value]).length = headerSize)
    (hbig : maxPayloadSize < unpackH (p ++ [value]) 6) :
    Ingests p value (s.resetReceiveBuffer, .nothing) [] := by
  refine ⟨Pending.of_idle ⟨rfl, rfl⟩, p ++ [value], (List.append_nil _).symm, ?_⟩
  intro base rest
  have hsplit : p ++ value :: rest = (p ++ [value]) ++ rest := by
    rw [List.append_assoc, List.singleton_append]
  have hmagic : ((p ++ [value]) ++ rest).take 2 = magic := by
    rw [List.take_append_of_le_length (by rw [hlong]; decide), hbegins]
  have hfield : unpackH ((p ++ [value]) ++ rest) 6 = unpackH (p ++ [value]) 6 :=
    FrameStreamDecoder.unpackH_append _ _ _ (by rw [hlong]; decide)
  have hdrop := handledAt_oversized base _ hmagic
    (by rw [List.length_append, hlong]; omega) (by rw [hfield]; exact hbig)
  rw [← hlong, List.drop_left' rfl] at hdrop
  rw [hsplit, hdrop]
  rfl

/-- The buffer after a byte that is kept, whatever size is expected now. -/
theorem Pending.stored {s : SerialState} {p : Bytes} (h : s.Pending p) (value : UInt8)
    (hbegins : (p ++ [value]).take 2 <+: magic) (expected : ℕ)
    (hexpected : expected =
      if p.length+1 < headerSize then 0 else frameOverhead+unpackH (p ++ [value]) 6)
    (hwaits : headerSize ≤ p.length+1 → unpackH (p ++ [value]) 6 ≤ maxPayloadSize ∧
      p.length+1 < frameOverhead+unpackH (p ++ [value]) 6) :
    ({ s.received value with expectedFrameSize := expected } : SerialState).Pending
      (p ++ [value]) := by
  have hplus : (p ++ [value]).length = p.length+1 := by
    rw [List.length_append, List.length_singleton]
  refine ⟨?_, ?_, hbegins, ?_, ?_⟩
  · rw [hplus]
    exact h.received_length value
  · rw [hplus]
    exact h.received_take value
  · rw [hplus]
    exact hexpected
  · rw [hplus]
    exact hwaits

/-- The byte that completes the header: the size to expect is read from it. -/
theorem Pending.storeHeader {s : SerialState} {p : Bytes} (h : s.Pending p) (value : UInt8)
    (nowMs : UInt32) (hbegins : (p ++ [value]).take 2 <+: magic)
    (hheader : p.length+1 = headerSize) :
    ∃ p', Ingests p value
      (if maxPayloadSize < unpackH (p ++ [value]) 6 then
        ((s.received value).resetReceiveBuffer, .nothing)
      else
        { s.received value with
          expectedFrameSize := frameOverhead+unpackH (p ++ [value]) 6 }.handleComplete nowMs)
      p' := by
  have hlength := h.received_length value
  have hplus : (p ++ [value]).length = headerSize := by
    rw [List.length_append, List.length_singleton, hheader]
  have hshort : p.length+1 < frameOverhead+unpackH (p ++ [value]) 6 := by
    rw [hheader]
    unfold frameOverhead headerSize crcSize
    omega
  by_cases hbig : maxPayloadSize < unpackH (p ++ [value]) 6
  · rw [if_pos hbig]
    refine ⟨[], Ingests.oversized value _ ?_ hplus hbig⟩
    apply hbegins.eq_of_length
    rw [List.length_take, hplus]
    rfl
  · rw [if_neg hbig, handleComplete_keep]
    · refine ⟨_, Ingests.keep value (h.stored value hbegins _ ?_ ?_)⟩
      · rw [if_neg (by omega)]
      · exact fun _ => ⟨not_lt.mp hbig, hshort⟩
    · change ¬ (_ ∧ (s.received value).receiveLength = frameOverhead+_)
      rw [hlength]
      omega

/-- A byte after the header: the last one of the window, or one more of it. -/
theorem Pending.storePayload {s : SerialState} {p : Bytes} (h : s.Pending p) (value : UInt8)
    (nowMs : UInt32) (hbegins : (p ++ [value]).take 2 <+: magic)
    (hlong : headerSize ≤ p.length) :
    ∃ p', Ingests p value ((s.received value).handleComplete nowMs) p' := by
  have hlength := h.received_length value
  obtain ⟨hfits, hless⟩ := h.waits hlong
  by_cases hlast : p.length+1 = frameOverhead+unpackH p 6
  · exact ⟨[], Ingests.complete h value nowMs hlong hlast⟩
  · have hfield : unpackH (p ++ [value]) 6 = unpackH p 6 :=
      FrameStreamDecoder.unpackH_append _ _ _ (by unfold headerSize at hlong; omega)
    have hexpected : (s.received value).expectedFrameSize = frameOverhead+unpackH p 6 := by
      change s.expectedFrameSize = _
      rw [h.expected, if_neg (not_lt.mpr hlong)]
    rw [handleComplete_keep]
    · refine ⟨_, Ingests.keep value (h.stored value hbegins (s.received value).expectedFrameSize
        ?_ ?_)⟩
      · rw [hexpected, hfield, if_neg (by omega)]
      · intro _
        rw [hfield]
        exact ⟨hfits, by omega⟩
    · rw [hexpected, hlength]
      omega

/-- A byte of a header that is not all there yet. -/
theorem Pending.storePart {s : SerialState} {p : Bytes} (h : s.Pending p) (value : UInt8)
    (nowMs : UInt32) (hbegins : (p ++ [value]).take 2 <+: magic)
    (hshort : p.length+1 < headerSize) :
    ∃ p', Ingests p value ((s.received value).handleComplete nowMs) p' := by
  have hzero : (s.received value).expectedFrameSize = 0 := by
    change s.expectedFrameSize = 0
    rw [h.expected, if_pos (by omega)]
  rw [handleComplete_keep]
  · refine ⟨_, Ingests.keep value (h.stored value hbegins (s.received value).expectedFrameSize
      ?_ ?_)⟩
    · rw [hzero, if_pos hshort]
    · intro hle
      omega
  · rw [hzero]
    omega

/-- A byte that reaches the buffer is held, completes a window, or ends a header in vain. -/
theorem Pending.store {s : SerialState} {p : Bytes} (h : s.Pending p) (value : UInt8)
    (nowMs : UInt32) (hbegins : (p ++ [value]).take 2 <+: magic)
    (h0 : ¬ (s.receiveLength = 0 ∧ value ≠ kMagic0))
    (h1 : ¬ (s.receiveLength = 1 ∧ value ≠ kMagic1)) :
    ∃ p', Ingests p value (s.ingestByte value nowMs) p' := by
  have hplus : (p ++ [value]).length = p.length+1 := by
    rw [List.length_append, List.length_singleton]
  have hfull : ¬ kReceiveCapacity ≤ s.receiveLength := by
    rw [h.receiveLength_eq]
    exact not_le.mpr h.length_lt
  have hstored : s.ingestByte value nowMs =
      if (s.received value).receiveLength = headerSize then
        if maxPayloadSize < (readU16Le (s.received value).receiveBuffer 6).toNat then
          ((s.received value).resetReceiveBuffer, .nothing)
        else
          { s.received value with expectedFrameSize := frameOverhead +
            (readU16Le (s.received value).receiveBuffer 6).toNat }.handleComplete nowMs
      else (s.received value).handleComplete nowMs := by
    rw [ingestByte, if_neg h0, if_neg h1, if_neg hfull]
    rfl
  rw [hstored, h.received_length value]
  by_cases hheader : p.length+1 = headerSize
  · have hfield : (readU16Le (s.received value).receiveBuffer 6).toNat =
        unpackH (p ++ [value]) 6 := by
      rw [readU16Le_eq_unpackH, unpackH_of_take _ (p ++ [value]) 6
        (by rw [hplus]; exact h.received_take value) (by rw [hplus, hheader]; decide)]
    rw [if_pos hheader, hfield]
    exact h.storeHeader value nowMs hbegins hheader
  · rw [if_neg hheader]
    by_cases hlong : headerSize ≤ p.length
    · exact h.storePayload value nowMs hbegins hlong
    · exact h.storePart value nowMs hbegins (by omega)

/-- One byte, whatever the receiver holds. -/
theorem Pending.ingest {s : SerialState} {p : Bytes} (h : s.Pending p) (value : UInt8)
    (nowMs : UInt32) : ∃ p', Ingests p value (s.ingestByte value nowMs) p' := by
  have hlength := h.receiveLength_eq
  have hbegins := h.begins
  rcases p with _ | ⟨a, _ | ⟨b, tail⟩⟩
  · rw [List.length_nil] at hlength
    -- nothing is held: only the first byte of the magic is stored
    by_cases hvalue : value = kMagic0
    · apply h.store value nowMs
      · rw [hvalue]
        exact ⟨[kMagic1], rfl⟩
      · exact fun hno => hno.2 hvalue
      · omega
    · rw [ingestByte, if_pos ⟨hlength, hvalue⟩]
      exact ⟨[], Ingests.ignored value h hvalue⟩
  · rw [List.length_singleton] at hlength
    have ha : a = kMagic0 := by
      obtain ⟨more, hmore⟩ := hbegins
      exact (List.cons.inj hmore).1
    -- the first byte of the magic is held
    by_cases hvalue : value = kMagic1
    · apply h.store value nowMs
      · rw [ha, hvalue]
        exact List.prefix_refl magic
      · omega
      · exact fun hno => hno.2 hvalue
    · have hskip : ∀ rest, (a :: value :: rest).take 2 ≠ magic := by
        intro rest heq
        exact hvalue (List.cons.inj (List.cons.inj heq).2).1
      rw [ingestByte, if_neg (by omega), if_pos ⟨hlength, hvalue⟩]
      by_cases hagain : value = kMagic0
      · -- a second first byte takes the place of the first
        rw [if_pos hagain]
        refine ⟨[value], ⟨?_, [a], rfl, ?_⟩⟩
        · refine ⟨hlength, ?_, by rw [hagain]; exact ⟨[kMagic1], rfl⟩, ?_, ?_⟩
          · change (s.receiveBuffer.set 0 value).take 1 = [value]
            have hsize := s.size_eq
            cases hbuffer : s.receiveBuffer with
            | nil =>
              rw [hbuffer] at hsize
              exact absurd hsize (by decide)
            | cons c more => rfl
          · exact h.expected
          · intro hle
            exact absurd hle (by simp [headerSize])
        · intro base rest
          exact handledAt_skip base a (value :: rest) (hskip rest)
      · rw [if_neg hagain]
        refine ⟨[], ⟨Pending.of_idle ⟨rfl, rfl⟩, [a, value], rfl, ?_⟩⟩
        intro base rest
        have hnext : (value :: rest).take 2 ≠ magic := by
          intro heq
          exact hagain (List.cons.inj heq).1
        change handledAt base (a :: value :: rest) = _
        rw [handledAt_skip base a _ (hskip rest), handledAt_skip _ value rest hnext]
        rfl
  · -- with the magic held every byte is stored
    apply h.store value nowMs
    · exact hbegins
    · intro hno
      rw [hlength] at hno
      exact absurd hno.1 (Nat.succ_ne_zero _)
    · intro hno
      rw [hlength] at hno
      exact absurd (Nat.succ.inj hno.1) (Nat.succ_ne_zero _)

/-- What is held is no window yet. -/
theorem Pending.handledAt_eq_nil {s : SerialState} {p : Bytes} (h : s.Pending p) (base : ℕ) :
    handledAt base p = [] := by
  have hbegins := h.begins
  rcases p with _ | ⟨a, _ | ⟨b, tail⟩⟩
  · exact handledAt_nil base
  · rw [handledAt_skip base a [] (by simp [magic]), handledAt_nil]
  · have hmagic : (a :: b :: tail).take 2 = magic := hbegins.eq_of_length rfl
    by_cases hlong : headerSize ≤ (a :: b :: tail).length
    · obtain ⟨hfits, hless⟩ := h.waits hlong
      exact handledAt_unfinished base _ hmagic hfits hless
    · exact handledAt_incomplete base _ hmagic (not_le.mp hlong)

/-- The sketch hands over what its stream says, whenever it reads the bytes and whatever
the loop ticks between them. -/
theorem callsAt_eq (steps : List LoopStep) (s : SerialState) (p : Bytes) (h : s.Pending p)
    (base : ℕ) : s.callsAt (base+p.length) steps = handledAt base (p ++ bytesRead steps) := by
  induction steps generalizing s p base with
  | nil =>
    change [] = handledAt base (p ++ [])
    rw [List.append_nil, h.handledAt_eq_nil base]
  | cons i rest ih =>
    cases i with
    | tick nowMs => exact ih _ p (h.tick nowMs) base
    | ingest value nowMs =>
      obtain ⟨p', hingests⟩ := h.ingest value nowMs
      obtain ⟨dropped, hsplit, hhandled⟩ := hingests.dropped
      have hlen := congrArg List.length hsplit
      rw [List.length_append, List.length_append, List.length_singleton] at hlen
      have htail := ih (s.ingestByte value nowMs).1 p' hingests.pending (base+dropped.length)
      have hposition : base+dropped.length+p'.length = base+p.length+1 := by omega
      rw [hposition] at htail
      change (s.ingestByte value nowMs).2.handled.toList.map
          (fun call => (base+p.length+1, call.1)) ++
        (s.ingestByte value nowMs).1.callsAt (base+p.length+1) rest =
          handledAt base (p ++ value :: bytesRead rest)
      rw [hhandled, ← htail]

end SerialState

/-- How many bytes the receiver takes at a magic. -/
def windowSize (data : Bytes) : ℕ :=
  if unpackH data 6 > maxPayloadSize then headerSize else frameOverhead+unpackH data 6

theorem headerSize_le_windowSize (data : Bytes) : headerSize ≤ windowSize data := by
  unfold windowSize frameOverhead
  split_ifs <;> omega

/-- Every window the receiver opens in the junk closes in it, in the stream that goes on
with `rest`. -/
def Clears (junk rest : Bytes) : Prop :=
  match junk with
  | [] => True
  | a :: junk =>
    if (a :: (junk ++ rest)).take 2 = magic then
      windowSize (a :: (junk ++ rest)) ≤ (a :: junk).length ∧
        Clears ((a :: junk).drop (windowSize (a :: (junk ++ rest)))) rest
    else Clears junk rest
termination_by junk.length
decreasing_by
  · have hsize := headerSize_le_windowSize (a :: (junk ++ rest))
    simp only [headerSize] at hsize
    simp only [List.length_drop, List.length_cons]
    omega
  · simp only [List.length_cons]
    omega

def ClearsAll : List Segment → Bytes → Prop
  | [], _ => True
  | g :: rest, last => Clears g.junk (g.frame.encode ++ stream rest last) ∧ ClearsAll rest last

/-- The string of a call is one that `ParseFrame` accepts. -/
def accepts (call : ℕ × Bytes) : Bool := (parseFrame call.2).isSome

/-- The frames of a stream that begins at position `base`, each with the position of its end. -/
def frameEnds (base : ℕ) : List Segment → List (ℕ × Bytes)
  | [] => []
  | g :: rest =>
    (base+g.junk.length+g.frame.encode.length, g.frame.encode) ::
      frameEnds (base+g.junk.length+g.frame.encode.length) rest

theorem frameEnds_snd (base : ℕ) (segments : List Segment) :
    (frameEnds base segments).map Prod.snd = segments.map (fun g => g.frame.encode) := by
  induction segments generalizing base with
  | nil => rfl
  | cons g rest ih => rw [frameEnds, List.map_cons, List.map_cons, ih]

theorem accepts_encode (position : ℕ) (f : Frame) : accepts (position, f.encode) = true := by
  rw [accepts, parseFrame_encode]
  rfl

/-- An accepted string is a frame, so it begins a valid header wherever it stands. -/
theorem not_accepts_of_no_header (position size : ℕ) (data : Bytes) (h : ¬ BeginsHeader data) :
    accepts (position, data.take size) = false := by
  rw [accepts, Option.isSome_eq_false_iff, Option.isNone_iff_eq_none]
  cases hparse : parseFrame (data.take size) with
  | none => rfl
  | some parsed =>
    obtain ⟨f, hf, _⟩ := (parseFrame_eq_some_iff _ _).mp hparse
    have hbegins := beginsHeader_encode f (data.drop size)
    rw [← hf, List.take_append_drop] at hbegins
    exact absurd hbegins h

theorem handledAt_encode (base : ℕ) (f : Frame) (rest : Bytes) :
    handledAt base (f.encode ++ rest) =
      (base+f.encode.length, f.encode) :: handledAt (base+f.encode.length) rest := by
  have hh := beginsHeader_encode f rest
  have hfield : unpackH (f.encode ++ rest) 6 = f.payload.length := by
    rw [f.encode_eq, List.append_assoc]
    exact (f.header_fields _).length_eq
  have hlen : f.encode.length = frameOverhead+f.payload.length := by
    rw [f.length_encode, frameOverhead]
    omega
  have hwindow := handledAt_window base (f.encode ++ rest) hh.magic_eq hh.length_le
    (by rw [hfield, ← hlen]; exact (List.prefix_append _ rest).length_le)
  rw [hfield, ← hlen, List.take_left' rfl, List.drop_left' rfl] at hwindow
  exact hwindow

/-- A string handed over lies in the stream from `base` on. -/
theorem handledAt_after (base : ℕ) (data : Bytes) :
    ∀ call ∈ handledAt base data, base+call.2.length ≤ call.1 := by
  induction base, data using handledAt.induct with
  | case1 base =>
    rw [handledAt_nil]
    exact List.forall_mem_nil _
  | case2 base a rest hmagic ih =>
    rw [handledAt_skip base a rest hmagic]
    intro call hcall
    have hlater := ih call hcall
    omega
  | case3 base a rest hmagic hshort =>
    rw [handledAt_incomplete base _ (not_not.mp hmagic) hshort]
    exact List.forall_mem_nil _
  | case4 base a rest hmagic hlong hbig ih =>
    rw [handledAt_oversized base _ (not_not.mp hmagic) (not_lt.mp hlong) hbig]
    intro call hcall
    have hlater := ih call hcall
    omega
  | case5 base a rest hmagic hlong hfits hpart =>
    rw [handledAt_unfinished base _ (not_not.mp hmagic) (not_lt.mp hfits) hpart]
    exact List.forall_mem_nil _
  | case6 base a rest hmagic hlong hfits hwhole ih =>
    rw [handledAt_window base _ (not_not.mp hmagic) (not_lt.mp hfits) (not_lt.mp hwhole)]
    refine List.forall_mem_cons.mpr ⟨?_, ?_⟩
    · exact Nat.add_le_add_left (List.length_take_le _ _) base
    · intro call hcall
      have hlater := ih call hcall
      omega

/-- At a stray magic nothing acceptable is handed over, and its window is gone. -/
theorem filter_handledAt_magic (base : ℕ) (data : Bytes) (hmagic : data.take 2 = magic)
    (hno : ¬ BeginsHeader data) :
    (handledAt base data).filter accepts =
      if windowSize data ≤ data.length then
        (handledAt (base+windowSize data) (data.drop (windowSize data))).filter accepts
      else [] := by
  by_cases hlong : headerSize ≤ data.length
  · by_cases hbig : maxPayloadSize < unpackH data 6
    · have hsize : windowSize data = headerSize := if_pos hbig
      rw [handledAt_oversized base data hmagic hlong hbig, hsize, if_pos hlong]
    · have hsize : windowSize data = frameOverhead+unpackH data 6 := if_neg hbig
      rw [hsize]
      by_cases hwhole : frameOverhead+unpackH data 6 ≤ data.length
      · rw [handledAt_window base data hmagic (not_lt.mp hbig) hwhole, if_pos hwhole,
          List.filter_cons, not_accepts_of_no_header _ _ data hno]
        rfl
      · rw [handledAt_unfinished base data hmagic (not_lt.mp hbig) (not_le.mp hwhole),
          if_neg hwhole, List.filter_nil]
  · have hsize := headerSize_le_windowSize data
    rw [handledAt_incomplete base data hmagic (not_le.mp hlong), if_neg (by omega), List.filter_nil]

/-- The junk after the last frame hands over nothing acceptable. -/
theorem filter_handledAt_last (base : ℕ) (junk : Bytes) (h : NoHeaderIn junk []) :
    (handledAt base junk).filter accepts = [] := by
  generalize hn : junk.length = n
  induction n using Nat.strong_induction_on generalizing base junk with
  | _ n ih =>
    cases junk with
    | nil => rw [handledAt_nil, List.filter_nil]
    | cons a junk =>
      have hhead := h.head
      rw [List.append_nil] at hhead
      rw [List.length_cons] at hn
      by_cases hmagic : (a :: junk).take 2 = magic
      · rw [filter_handledAt_magic base _ hmagic hhead]
        split_ifs with hsize
        · have hpos := headerSize_le_windowSize (a :: junk)
          simp only [headerSize] at hpos
          apply ih _ _ _ _ (h.drop _ hsize) rfl
          rw [List.length_drop, List.length_cons]
          omega
        · rfl
      · rw [handledAt_skip base a junk hmagic]
        exact ih _ (by omega) _ _ h.tail rfl

/-- Junk whose windows close in it only moves the receiver on. -/
theorem filter_handledAt_clears (base : ℕ) (junk rest : Bytes) (h : NoHeaderIn junk rest)
    (hclears : Clears junk rest) :
    (handledAt base (junk ++ rest)).filter accepts =
      (handledAt (base+junk.length) rest).filter accepts := by
  generalize hn : junk.length = n
  induction n using Nat.strong_induction_on generalizing base junk with
  | _ n ih =>
    cases junk with
    | nil => rw [← hn, List.nil_append, List.length_nil, Nat.add_zero]
    | cons a junk =>
      rw [List.cons_append]
      rw [List.length_cons] at hn
      rw [Clears] at hclears
      by_cases hmagic : (a :: (junk ++ rest)).take 2 = magic
      · rw [if_pos hmagic] at hclears
        obtain ⟨hsize, hlater⟩ := hclears
        have hpos := headerSize_le_windowSize (a :: (junk ++ rest))
        simp only [headerSize] at hpos
        rw [filter_handledAt_magic base _ hmagic h.head]
        generalize windowSize (a :: (junk ++ rest)) = size at hsize hlater hpos ⊢
        have hcut : (a :: (junk ++ rest)).drop size = (a :: junk).drop size ++ rest := by
          rw [← List.cons_append, List.drop_append_of_le_length hsize]
        have hless : ((a :: junk).drop size).length < n := by
          rw [List.length_drop, List.length_cons]
          omega
        have hend : base+size+((a :: junk).drop size).length = base+n := by
          rw [List.length_cons] at hsize
          rw [List.length_drop, List.length_cons]
          omega
        have hwhole : size ≤ (a :: (junk ++ rest)).length := by
          rw [← List.cons_append, List.length_append]
          omega
        -- the window goes, and the shorter junk after it moves the receiver to the same end
        calc (if size ≤ (a :: (junk ++ rest)).length then
              (handledAt (base+size) ((a :: (junk ++ rest)).drop size)).filter accepts else [])
          _ = (handledAt (base+size) ((a :: junk).drop size ++ rest)).filter accepts := by
            rw [if_pos hwhole, hcut]
          _ = (handledAt (base+size+((a :: junk).drop size).length) rest).filter accepts :=
            ih _ hless _ _ (h.drop size hsize) hlater rfl
          _ = (handledAt (base+n) rest).filter accepts := by rw [hend]
      · rw [if_neg hmagic] at hclears
        have hend : base+1+junk.length = base+n := by omega
        rw [handledAt_skip base a _ hmagic, ih _ (by omega) _ _ h.tail hclears rfl, hend]

/-- Junk with a window that reaches into the frame after it costs that frame. -/
theorem not_mem_of_not_clears (base : ℕ) (junk : Bytes) (f : Frame) (rest : Bytes)
    (h : NoHeaderIn junk (f.encode ++ rest)) (hclears : ¬ Clears junk (f.encode ++ rest)) :
    (base+junk.length+f.encode.length, f.encode) ∉
      (handledAt base (junk ++ (f.encode ++ rest))).filter accepts := by
  generalize hn : junk.length = n
  induction n using Nat.strong_induction_on generalizing base junk with
  | _ n ih =>
    cases junk with
    | nil =>
      rw [Clears] at hclears
      exact absurd trivial hclears
    | cons a junk =>
      rw [List.cons_append]
      rw [List.length_cons] at hn
      rw [Clears] at hclears
      by_cases hmagic : (a :: (junk ++ (f.encode ++ rest))).take 2 = magic
      · rw [if_pos hmagic, not_and] at hclears
        rw [filter_handledAt_magic base _ hmagic h.head]
        have hpos := headerSize_le_windowSize (a :: (junk ++ (f.encode ++ rest)))
        simp only [headerSize] at hpos
        generalize windowSize (a :: (junk ++ (f.encode ++ rest))) = size at hclears hpos ⊢
        split_ifs with hwhole
        · by_cases hsize : size ≤ (a :: junk).length
          · -- this window closes in the junk: a later one does not
            have hcut : (a :: (junk ++ (f.encode ++ rest))).drop size =
                (a :: junk).drop size ++ (f.encode ++ rest) := by
              rw [← List.cons_append, List.drop_append_of_le_length hsize]
            have hlater := ih _ (by rw [List.length_drop, List.length_cons]; omega)
              (base+size) _ (h.drop size hsize) (hclears hsize) rfl
            rw [List.length_drop, List.length_cons] at hlater
            rw [List.length_cons] at hsize
            rw [hcut]
            rwa [show base+size+(junk.length+1-size) = base+n by omega] at hlater
          · -- every later string begins after the frame does
            intro hmem
            have hafter := handledAt_after _ _ _ (List.mem_filter.mp hmem).1
            rw [List.length_cons] at hsize
            dsimp only at hafter
            omega
        · exact List.not_mem_nil
      · rw [if_neg hmagic] at hclears
        rw [handledAt_skip base a _ hmagic]
        have hlater := ih _ (by omega) (base+1) junk h.tail hclears rfl
        rwa [show base+1+junk.length = base+n by omega] at hlater

/-- The frames are handed over, each at its own end and nothing acceptable besides, exactly
when every window the receiver opens in junk closes before the next frame. -/
theorem filter_handledAt_stream_iff (base : ℕ) (segments : List Segment) (last : Bytes)
    (h : JunkOnly segments last) :
    (handledAt base (stream segments last)).filter accepts = frameEnds base segments ↔
      ClearsAll segments last := by
  induction segments generalizing base with
  | nil =>
    rw [stream, filter_handledAt_last base last h]
    exact iff_of_true rfl trivial
  | cons g rest ih =>
    rw [stream, frameEnds, ClearsAll]
    by_cases hclears : Clears g.junk (g.frame.encode ++ stream rest last)
    · rw [filter_handledAt_clears base _ _ h.1 hclears, handledAt_encode, List.filter_cons,
        accepts_encode, if_pos rfl, List.cons.injEq, ih _ h.2]
      exact and_congr (iff_of_true rfl hclears) Iff.rfl
    · constructor
      · intro heq
        have hmiss := not_mem_of_not_clears base g.junk g.frame (stream rest last) h.1 hclears
        rw [heq] at hmiss
        exact absurd (List.mem_cons_self ..) hmiss
      · intro hall
        exact absurd hall.1 hclears

namespace SerialState

/-- The calls of `HandleFrame` with a string that `ParseFrame` accepts. -/
def acceptedAt (s : SerialState) (steps : List LoopStep) : List (ℕ × Bytes) :=
  (s.callsAt 0 steps).filter accepts

/-- What both receivers must do with the stream: the sketch hands over each frame once, at
its last byte, in order, and nothing else that is accepted; the decoder delivers them. -/
structure Resynchronises (s : SerialState) (steps : List LoopStep) (d : FrameStreamDecoder)
    (chunks : List Bytes) (segments : List Segment) : Prop where
  handled : s.acceptedAt steps = frameEnds 0 segments
  delivered : d.feedFrames chunks = segments.map Segment.frame

/-- The same without the positions. -/
theorem Resynchronises.calls {s : SerialState} {steps : List LoopStep} {d : FrameStreamDecoder}
    {chunks : List Bytes} {segments : List Segment}
    (h : s.Resynchronises steps d chunks segments) :
    ((s.calls steps).map Prod.fst).filter (fun data => (parseFrame data).isSome) =
      segments.map (fun g => g.frame.encode) := by
  have hstrings := congrArg (List.map Prod.snd) h.handled
  rw [frameEnds_snd] at hstrings
  rw [← hstrings, ← s.callsAt_snd 0 steps, List.filter_map]
  rfl

theorem resynchronises_iff (segments : List Segment) (last : Bytes)
    (hjunk : JunkOnly segments last) (s : SerialState) (hidle : s.Idle) (steps : List LoopStep)
    (hsteps : bytesRead steps = stream segments last) (maxBufferBytes : ℕ)
    (d : FrameStreamDecoder) (hnew : FrameStreamDecoder.new maxBufferBytes = .ok d)
    (chunks : List Bytes) (hchunks : chunks.flatten = stream segments last)
    (hno : ∀ issue ∈ d.feedIssues chunks, issue.kind ≠ .bufferOverflow) :
    s.Resynchronises steps d chunks segments ↔
      ClearsAll segments last ∧ ∀ g ∈ segments, g.frame.encode.length ≤ maxBufferBytes := by
  unfold FrameStreamDecoder.new at hnew
  split_ifs at hnew with hfits
  cases hnew
  have hhandled : s.acceptedAt steps = frameEnds 0 segments ↔ ClearsAll segments last := by
    have hcalls := callsAt_eq steps s [] (Pending.of_idle hidle) 0
    rw [List.length_nil, Nat.add_zero, List.nil_append, hsteps] at hcalls
    rw [acceptedAt, hcalls]
    exact filter_handledAt_stream_iff 0 segments last hjunk
  have hdelivered := FrameStreamDecoder.feedFrames_stream_iff ⟨maxBufferBytes, [], hfits⟩ rfl
    segments last hjunk chunks hchunks hno
  constructor
  · intro h
    exact ⟨hhandled.mp h.handled, hdelivered.mp h.delivered⟩
  · intro h
    exact ⟨hhandled.mpr h.1, hdelivered.mpr h.2⟩

theorem bytesRead_ingest (data : Bytes) :
    bytesRead (data.map (fun value => .ingest value 0)) = data := by
  induction data with
  | nil => rfl
  | cons a data ih => exact congrArg (a :: ·) ih

section StrayMagic

theorem stopFrame_sequence_fits : 1 ≤ 0xFFFF := by decide
theorem stopFrame_payload_fits : [(0x01 : UInt8), 0x01].length ≤ maxPayloadSize := by decide

/-- An E-stop frame of the host, at sequence 1. -/
def stopFrame : Frame :=
  ⟨.estop, 1, [0x01, 0x01], stopFrame_sequence_fits, stopFrame_payload_fits⟩

/-- Its header, and four more bytes. -/
theorem stopFrame_encode : ∃ a b, stopFrame.encode =
    [0x52, 0x43, 0x01, 0x04, 0x01, 0x00, 0x02, 0x00, 0x01, 0x01, a, b] := by
  rw [Frame.encode]
  generalize Host.crc16CcittFalse stopFrame.body = crc
  exact ⟨UInt8.ofNat crc, UInt8.ofNat (crc/256), rfl⟩

theorem initial_no_overflow (junk : Bytes) (h : junk.length ≤ 500) :
    ∀ issue ∈ FrameStreamDecoder.initial.feedIssues [stream [⟨junk, stopFrame⟩] []],
      issue.kind ≠ .bufferOverflow := by
  obtain ⟨a, b, hencode⟩ := stopFrame_encode
  apply FrameStreamDecoder.no_overflow_of_fits
  have hlen : [stream [⟨junk, stopFrame⟩] []].flatten.length = junk.length+12 := by
    simp [stream, hencode]
  rw [hlen]
  change 0+(junk.length+12) ≤ 586
  omega

/-- One stray byte before the frame: both receivers find it. -/
theorem resynchronises_iff_stray_byte :
    setup.Resynchronises ((stream [⟨[0x00], stopFrame⟩] []).map (fun value => .ingest value 0))
      .initial [stream [⟨[0x00], stopFrame⟩] []] [⟨[0x00], stopFrame⟩] := by
  obtain ⟨a, b, hencode⟩ := stopFrame_encode
  have hmagic : ∀ rest, ((0x00 : UInt8) :: rest).take 2 ≠ magic := by
    intro rest heq
    exact absurd (List.cons.inj heq).1 (by decide)
  have hjunk : JunkOnly [⟨[0x00], stopFrame⟩] [] := by
    refine ⟨?_, fun i hi => absurd hi (Nat.not_lt_zero i)⟩
    intro i hi hbegins
    have hzero : i = 0 := Nat.lt_one_iff.mp hi
    rw [hzero] at hbegins
    exact hmagic _ hbegins.magic_eq
  refine (resynchronises_iff _ [] hjunk setup ⟨rfl, rfl⟩ _ (bytesRead_ingest _)
    FrameStreamDecoder.defaultMaxBufferBytes .initial rfl _ (List.append_nil _)
    (initial_no_overflow [0x00] (by decide))).mpr ⟨⟨?_, trivial⟩, ?_⟩
  · rw [Clears, if_neg (hmagic _), Clears]
    trivial
  · intro g hg
    rw [List.mem_singleton.mp hg, hencode]
    change 12 ≤ 586
    decide

theorem handledAt_short (base : ℕ) (data : Bytes) (h : data.length < headerSize) :
    handledAt base data = [] := by
  induction data generalizing base with
  | nil => exact handledAt_nil base
  | cons a rest ih =>
    by_cases hmagic : (a :: rest).take 2 = magic
    · exact handledAt_incomplete base _ hmagic h
    · rw [handledAt_skip base a rest hmagic]
      rw [List.length_cons] at h
      exact ih _ (by omega)

/-- A stray magic just before an E-stop: the sketch takes the frame for the rest of a longer
one and never hands it over. -/
theorem stray_magic_swallows_estop : ¬ ∀ (segments : List Segment) (last : Bytes)
    (s : SerialState) (steps : List LoopStep) (maxBufferBytes : ℕ) (d : FrameStreamDecoder)
    (chunks : List Bytes), JunkOnly segments last → s.Idle →
    bytesRead steps = stream segments last → FrameStreamDecoder.new maxBufferBytes = .ok d →
    chunks.flatten = stream segments last →
    (∀ issue ∈ d.feedIssues chunks, issue.kind ≠ .bufferOverflow) →
    ((s.calls steps).map Prod.fst).filter (fun data => (parseFrame data).isSome) =
        segments.map (fun g => g.frame.encode) ∧
      d.feedFrames chunks = segments.map Segment.frame := by
  intro hevery
  obtain ⟨a, b, hencode⟩ := stopFrame_encode
  let segments : List Segment := [⟨magic, stopFrame⟩]
  have hstream : stream segments [] = [0x52, 0x43, 0x52, 0x43, 0x01, 0x04, 0x01, 0x00, 0x02, 0x00,
      0x01, 0x01, a, b] := by
    simp [segments, stream, hencode, magic, kMagic0, kMagic1]
  have hno : ¬ BeginsHeader (stream segments []) := by
    intro hbegins
    have hversion := hbegins.version_eq
    rw [hstream] at hversion
    change 0x52 = 1 at hversion
    omega
  have hjunk : JunkOnly segments [] := by
    refine ⟨?_, fun i hi => absurd hi (Nat.not_lt_zero i)⟩
    intro i hi
    have hcases : i = 0 ∨ i = 1 := by
      change i < 2 at hi
      omega
    rcases hcases with rfl | rfl
    · exact hno
    · intro hbegins
      have hmagic := hbegins.magic_eq
      exact absurd (List.cons.inj hmagic).1 (by decide)
  -- the window at the stray magic ends eleven bytes on, inside the frame
  have hwindow : windowSize (stream segments []) = 11 := by
    rw [hstream]
    rfl
  have hhandled : (handledAt 0 (stream segments [])).filter accepts = [] := by
    rw [filter_handledAt_magic 0 _ (by rw [hstream]; rfl) hno, hwindow,
      if_pos (by rw [hstream]; simp), handledAt_short _ _ (by rw [hstream]; simp [headerSize]),
      List.filter_nil]
  let steps : List LoopStep := (stream segments []).map (fun value => .ingest value 0)
  have hcalls := callsAt_eq steps setup [] (Pending.of_idle ⟨rfl, rfl⟩) 0
  rw [List.length_nil, List.nil_append, bytesRead_ingest] at hcalls
  obtain ⟨hstrings, _⟩ := hevery segments [] setup steps FrameStreamDecoder.defaultMaxBufferBytes
    .initial [stream segments []] hjunk ⟨rfl, rfl⟩ (bytesRead_ingest _) rfl (List.append_nil _)
    (initial_no_overflow magic (by decide))
  rw [← setup.callsAt_snd 0 steps, List.filter_map] at hstrings
  have hempty : (setup.callsAt 0 steps).filter accepts = [] := by
    rw [← hhandled, ← hcalls]
  change List.map Prod.snd ((setup.callsAt 0 steps).filter accepts) = _ at hstrings
  rw [hempty] at hstrings
  cases hstrings

end StrayMagic

end SerialState

end RoboticCharacter.Firmware
