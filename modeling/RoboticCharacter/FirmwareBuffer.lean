import RoboticCharacter.FirmwareResync

/-! The receive buffer of the robot sketch under any bytes: its accesses are checked and none
fails, its counters agree with its bytes, and it is soon empty again. -/
namespace RoboticCharacter.Firmware
open Host

/-- What should not happen: an access outside the receive buffer, or the branch of a full one. -/
inductive ReceiveFault
  | outOfBounds (index : ℕ)
  | capacityReached

namespace SerialState

/-- Nothing but the check that the first `size` bytes from `index` on are in the buffer. -/
def access (index size : ℕ) : Except ReceiveFault Unit :=
  if index+size ≤ kReceiveCapacity then .ok () else .error (.outOfBounds index)

/-- `handleComplete` with its reads of the buffer checked. -/
def handleCompleteChecked (s : SerialState) (nowMs : UInt32) :
    Except ReceiveFault (SerialState × Ingested) := do
  if 0 < s.expectedFrameSize ∧ s.receiveLength = s.expectedFrameSize then
    access 4 2
    access 0 s.receiveLength
  return s.handleComplete nowMs

/-- `IngestByte` with every access to the buffer checked, and with a fault in place of the branch
that resets a full buffer. -/
def ingestByteChecked (s : SerialState) (value : UInt8) (nowMs : UInt32) :
    Except ReceiveFault (SerialState × Ingested) := do
  if s.receiveLength = 0 ∧ value ≠ kMagic0 then return (s, .nothing)
  else if s.receiveLength = 1 ∧ value ≠ kMagic1 then
    if value = kMagic0 then
      access 0 1
      return (s.store 0 value, .nothing)
    else return (s.resetReceiveBuffer, .nothing)
  -- the sketch drops what it holds here and goes on
  else if kReceiveCapacity ≤ s.receiveLength then throw .capacityReached
  else
    access s.receiveLength 1
    let stored := { s.store s.receiveLength value with receiveLength := s.receiveLength+1 }
    -- the header is whole with this byte, and its last two give the size
    if stored.receiveLength = headerSize then
      access 6 2
      let payloadLength := readU16Le stored.receiveBuffer 6
      if maxPayloadSize < payloadLength.toNat then return (stored.resetReceiveBuffer, .nothing)
      else
        handleCompleteChecked
          { stored with expectedFrameSize := frameOverhead+payloadLength.toNat } nowMs
    else stored.handleCompleteChecked nowMs

theorem access_ok (index size : ℕ) (h : index+size ≤ kReceiveCapacity) :
    access index size = .ok () := if_pos h

theorem handleCompleteChecked_ok (s : SerialState) (nowMs : UInt32)
    (h : s.receiveLength ≤ kReceiveCapacity) :
    s.handleCompleteChecked nowMs = .ok (s.handleComplete nowMs) := by
  unfold handleCompleteChecked
  rw [access_ok 4 2 (by decide), access_ok 0 s.receiveLength (by omega)]
  split_ifs <;> rfl

/-- With room for one more byte no access fails, and the full buffer's branch is not taken. -/
theorem ingestByteChecked_ok (s : SerialState) (value : UInt8) (nowMs : UInt32)
    (h : s.receiveLength < kReceiveCapacity) :
    s.ingestByteChecked value nowMs = .ok (s.ingestByte value nowMs) := by
  have hcomplete (expected : ℕ) := handleCompleteChecked_ok
    { s.received value with expectedFrameSize := expected } nowMs h
  unfold ingestByteChecked ingestByte
  rw [access_ok 0 1 (by decide), access_ok s.receiveLength 1 h, access_ok 6 2 (by decide),
    if_neg (not_le.mpr h), if_neg (not_le.mpr h)]
  dsimp only [bind, Except.bind]
  split_ifs
  · rfl
  · rfl
  · rfl
  · rfl
  · exact hcomplete _
  · exact hcomplete s.expectedFrameSize

/-- What holds of the receive buffer between two calls of `IngestByte`. -/
structure BufferSound (s : SerialState) : Prop where
  length_lt : s.receiveLength < kReceiveCapacity
  size_zero : s.receiveLength < headerSize → s.expectedFrameSize = 0
  size_declared : headerSize ≤ s.receiveLength →
    s.expectedFrameSize = frameOverhead+(readU16Le s.receiveBuffer 6).toNat ∧
      s.expectedFrameSize ≤ kReceiveCapacity ∧ s.receiveLength < s.expectedFrameSize
  magic_begun : (s.receiveBuffer.take s.receiveLength).take 2 <+: magic

theorem Pending.sound {s : SerialState} {p : Bytes} (h : s.Pending p) : s.BufferSound := by
  have hlength := h.receiveLength_eq
  refine ⟨hlength.trans_lt h.length_lt, ?_, ?_, ?_⟩
  · intro hshort
    rw [h.expected, if_pos (by rwa [← hlength])]
  · -- the declared length stands in bytes that were received
    intro hlong
    rw [hlength] at hlong ⊢
    obtain ⟨hfits, hless⟩ := h.waits hlong
    have hfield : unpackH s.receiveBuffer 6 = unpackH p 6 :=
      unpackH_of_take _ p 6 h.received (by unfold headerSize at hlong; omega)
    rw [readU16Le_eq_unpackH, hfield, h.expected, if_neg (not_lt.mpr hlong)]
    refine ⟨rfl, ?_, hless⟩
    unfold kReceiveCapacity
    omega
  · rw [hlength, h.received]
    exact h.begins

/-- The receiver holds the beginning of a frame, or nothing. -/
def Receives (s : SerialState) : Prop := ∃ p, s.Pending p

theorem Receives.sound {s : SerialState} (h : s.Receives) : s.BufferSound := by
  obtain ⟨p, hp⟩ := h
  exact hp.sound

theorem receives_step (s : SerialState) (i : LoopStep) (hs : s.Receives) :
    (s.step i).1.Receives := by
  obtain ⟨p, h⟩ := hs
  cases i with
  | ingest value nowMs =>
    obtain ⟨p', hingests⟩ := h.ingest value nowMs
    exact ⟨p', hingests.pending⟩
  | tick nowMs => exact ⟨p, h.tick nowMs⟩

/-! What `HandleFrame` is called with. -/

theorem handledAt_declared (base : ℕ) (data : Bytes) :
    ∀ call ∈ handledAt base data, call.2.length = frameOverhead+unpackH call.2 6 := by
  induction base, data using handledAt.induct with
  | case1 base =>
    rw [handledAt_nil]
    exact List.forall_mem_nil _
  | case2 base a rest hmagic ih => rwa [handledAt_skip base a rest hmagic]
  | case3 base a rest hmagic hshort =>
    rw [handledAt_incomplete base _ (not_not.mp hmagic) hshort]
    exact List.forall_mem_nil _
  | case4 base a rest hmagic hlong hbig ih =>
    rwa [handledAt_oversized base _ (not_not.mp hmagic) (not_lt.mp hlong) hbig]
  | case5 base a rest hmagic hlong hfits hpart =>
    rw [handledAt_unfinished base _ (not_not.mp hmagic) (not_lt.mp hfits) hpart]
    exact List.forall_mem_nil _
  | case6 base a rest hmagic hlong hfits hwhole ih =>
    -- the declared length is read from bytes that the window has as well
    rw [handledAt_window base _ (not_not.mp hmagic) (not_lt.mp hfits) (not_lt.mp hwhole),
      List.forall_mem_cons]
    have hlength : ((a :: rest).take (frameOverhead+unpackH (a :: rest) 6)).length =
        frameOverhead+unpackH (a :: rest) 6 := by
      rw [List.length_take, min_eq_left (not_lt.mp hwhole)]
    have hfield := unpackH_of_take (a :: rest)
      ((a :: rest).take (frameOverhead+unpackH (a :: rest) 6)) 6 (by rw [hlength])
      (by rw [hlength]; unfold frameOverhead headerSize; omega)
    refine ⟨?_, ih⟩
    rw [hlength, ← hfield]

theorem calls_declared (s : SerialState) (hidle : s.Idle) (steps : List LoopStep) :
    ∀ call ∈ s.calls steps, call.1.length = frameOverhead+(readU16Le call.1 6).toNat := by
  intro call hcall
  have hstrings : (s.calls steps).map Prod.fst = (handledAt 0 (bytesRead steps)).map Prod.snd := by
    rw [← callsAt_snd s 0 steps]
    exact congrArg _ (callsAt_eq steps s [] (Pending.of_idle hidle) 0)
  have hmem := List.mem_map_of_mem (f := Prod.fst) hcall
  rw [hstrings] at hmem
  obtain ⟨handed, hhanded, heq⟩ := List.mem_map.mp hmem
  rw [readU16Le_eq_unpackH, ← heq]
  exact handledAt_declared 0 _ handed hhanded

/-! How soon the buffer is empty again. -/

/-- How many more bytes the buffer can take, as far as the receiver knows. -/
def remaining (s : SerialState) : ℕ :=
  if s.receiveLength < headerSize then kReceiveCapacity-s.receiveLength
  else s.expectedFrameSize-s.receiveLength

theorem BufferSound.remaining_pos {s : SerialState} (h : s.BufferSound) : 0 < s.remaining := by
  unfold remaining
  split_ifs with hshort
  · exact Nat.sub_pos_of_lt h.length_lt
  · exact Nat.sub_pos_of_lt (h.size_declared (not_lt.mp hshort)).2.2

theorem BufferSound.remaining_le {s : SerialState} (h : s.BufferSound) :
    s.remaining ≤ kReceiveCapacity := by
  unfold remaining
  split_ifs with hshort
  · exact Nat.sub_le _ _
  · exact (Nat.sub_le _ _).trans (h.size_declared (not_lt.mp hshort)).2.1

theorem handleComplete_length (s : SerialState) (nowMs : UInt32) :
    (s.handleComplete nowMs).1.receiveLength = 0 ∨
      (s.handleComplete nowMs).1.receiveLength = s.receiveLength := by
  unfold handleComplete
  split_ifs
  · exact .inl rfl
  · exact .inr rfl

/-- A byte empties the buffer, repeats the first one of the magic, or is one more. -/
theorem ingestByte_length (s : SerialState) (value : UInt8) (nowMs : UInt32) :
    (s.ingestByte value nowMs).1.receiveLength = 0 ∨
      (s.receiveLength = 1 ∧ value = kMagic0) ∧ (s.ingestByte value nowMs).1.receiveLength = 1 ∨
      (s.ingestByte value nowMs).1.receiveLength = s.receiveLength+1 := by
  unfold ingestByte
  split_ifs with hnone hone hagain hfull
  · exact .inl hnone.1
  · exact .inr (.inl ⟨⟨hone.1, hagain⟩, hone.1⟩)
  · exact .inl rfl
  · exact .inl rfl
  · dsimp only
    split_ifs
    · exact .inl rfl
    · exact (handleComplete_length _ nowMs).imp_right .inr
    · exact (handleComplete_length _ nowMs).imp_right .inr

theorem Ingests.grown {p p' : Bytes} {value : UInt8} {result : SerialState × Ingested}
    (h : Ingests p value result p') (hmore : result.1.receiveLength = p.length+1) :
    p' = p ++ [value] := by
  obtain ⟨dropped, hsplit, _⟩ := h.dropped
  have hsame : (p ++ [value]).length = p'.length := by
    rw [← h.pending.receiveLength_eq, hmore, List.length_append, List.length_singleton]
  -- what was dropped would make the buffer shorter than it is
  have hnone : dropped = [] := by
    rw [hsplit, List.length_append] at hsame
    exact List.eq_nil_of_length_eq_zero (by omega)
  rw [hsplit, hnone, List.nil_append]

theorem Pending.remaining_eq {s : SerialState} {p : Bytes} (h : s.Pending p) :
    s.remaining =
      (if p.length < headerSize then kReceiveCapacity else frameOverhead+unpackH p 6)-p.length := by
  unfold remaining
  rw [h.expected, h.receiveLength_eq]
  split_ifs <;> rfl

/-- One byte more is held. -/
theorem Pending.remaining_grown {s t : SerialState} {p : Bytes} {value : UInt8}
    (h : s.Pending p) (hgrown : t.Pending (p ++ [value])) : t.remaining+1 ≤ s.remaining := by
  have hroom := h.length_lt
  have hplus : (p ++ [value]).length = p.length+1 := by
    rw [List.length_append, List.length_singleton]
  have hwaits := hgrown.waits
  rw [hplus] at hwaits
  rw [h.remaining_eq, hgrown.remaining_eq, hplus]
  by_cases hshort : p.length+1 < headerSize
  · rw [if_pos hshort, if_pos (by omega)]
    omega
  · rw [if_neg hshort]
    obtain ⟨hfits, hless⟩ := hwaits (not_lt.mp hshort)
    by_cases hlong : headerSize ≤ p.length
    · have hfield : unpackH (p ++ [value]) 6 = unpackH p 6 :=
        FrameStreamDecoder.unpackH_append _ _ _ (by unfold headerSize at hlong; omega)
      rw [if_neg (not_lt.mpr hlong), ← hfield]
      omega
    · -- the size is known from here on, and it is at most the capacity
      rw [if_pos (not_le.mp hlong)]
      unfold kReceiveCapacity
      omega

/-- A byte that does not empty the buffer leaves less to come, unless it repeats the first one of
the magic. -/
theorem Pending.remaining_ingest {s : SerialState} {p : Bytes} (h : s.Pending p) (value : UInt8)
    (nowMs : UInt32) (hheld : (s.ingestByte value nowMs).1.receiveLength ≠ 0) :
    (s.receiveLength = 1 ∧ value = kMagic0) ∧
        (s.ingestByte value nowMs).1.remaining = s.remaining ∨
      (s.ingestByte value nowMs).1.remaining+1 ≤ s.remaining := by
  obtain ⟨p', hingests⟩ := h.ingest value nowMs
  rcases ingestByte_length s value nowMs with hzero | ⟨hagain, hone⟩ | hmore
  · exact absurd hzero hheld
  · refine .inl ⟨hagain, ?_⟩
    unfold remaining
    rw [hone, hagain.1]
    rfl
  · have hgrown := hingests.pending
    rw [hingests.grown (by rw [hmore, h.receiveLength_eq])] at hgrown
    exact .inr (h.remaining_grown hgrown)

/-- A byte was read, and not a first one of the magic right after another. -/
def readsNew (e : Machine.Event SerialState LoopStep Ingested) : Bool :=
  match e.input with
  | .ingest value _ => !decide (e.before.receiveLength = 1 ∧ value = kMagic0)
  | .tick _ => false

/-- A byte was read that left the buffer empty. -/
def Empties (e : Machine.Event SerialState LoopStep Ingested) : Prop :=
  e.input.value?.isSome = true ∧ e.after.receiveLength = 0

theorem remaining_step (e : Machine.Event SerialState LoopStep Ingested)
    (hreceives : e.before.Receives) (hstep : e.before.step e.input = (e.after, e.output))
    (hheld : ¬ Empties e) :
    e.after.remaining+(if readsNew e then 1 else 0) ≤ e.before.remaining := by
  obtain ⟨before, input, output, after⟩ := e
  obtain ⟨p, hp⟩ := hreceives
  dsimp only at hstep hheld hp ⊢
  cases input with
  | ingest value nowMs =>
    have hafter : (before.ingestByte value nowMs).1 = after := congrArg Prod.fst hstep
    have hnonempty : after.receiveLength ≠ 0 := fun hzero => hheld ⟨rfl, hzero⟩
    rw [← hafter] at hnonempty ⊢
    rcases hp.remaining_ingest value nowMs hnonempty with ⟨hagain, hsame⟩ | hless
    · -- a repeated first byte is stored over the one that is held, and is not counted
      have hold : readsNew ⟨before, .ingest value nowMs, output, after⟩ = false := by
        change (!decide (before.receiveLength = 1 ∧ value = kMagic0)) = false
        rw [decide_eq_true hagain]
        rfl
      rw [hsame, hafter, hold]
      exact le_rfl
    · split_ifs <;> omega
  | tick nowMs =>
    have hafter : { before with runtime := before.runtime.tick nowMs } = after :=
      congrArg Prod.fst hstep
    rw [← hafter]
    exact le_rfl

/-- The receive buffer under any bytes and ticks from an idle state on: between two calls its
counters agree with its bytes, and no call can go wrong in it; what is handed over has the length
that it declares; and any 522 bytes, repeated first bytes of the magic aside, empty it. -/
theorem receive_buffer_safe (s : SerialState) (hidle : s.Idle) (steps : List LoopStep) :
    (∀ t ∈ Machine.states step s steps, t.BufferSound ∧ ∀ value nowMs,
      t.ingestByteChecked value nowMs = .ok (t.ingestByte value nowMs)) ∧
    (∀ call ∈ s.calls steps, call.1.length = frameOverhead+(readU16Le call.1 6).toNat) ∧
    ∀ t ∈ Machine.states step s steps, ∀ more,
      kReceiveCapacity ≤ (Machine.trace step t more).countP readsNew →
        ∃ e ∈ Machine.trace step t more, Empties e := by
  -- idle, the receiver holds the beginning of a frame, and no step changes that
  have hreceives := Machine.states_invariant step receives_step s ⟨[], Pending.of_idle hidle⟩ steps
  refine ⟨?_, calls_declared s hidle steps, ?_⟩
  · intro t ht
    have hsound := (hreceives t ht).sound
    exact ⟨hsound, fun value nowMs => ingestByteChecked_ok t value nowMs hsound.length_lt⟩
  · -- the rank is what the buffer has room for, never more than the capacity
    intro t ht more hmore
    exact Machine.goal_of_ranked step remaining readsNew Empties receives_step remaining_step
      (fun t h => h.sound.remaining_pos) t (hreceives t ht) more
      ((hreceives t ht).sound.remaining_le.trans hmore)

theorem receive_buffer_safe_setup :
    (Machine.run step setup
      [.ingest kMagic0 0, .ingest kMagic0 0, .tick 1, .ingest kMagic1 1]).BufferSound ∧
    ∃ e ∈ Machine.trace step
        (Machine.run step setup [.ingest kMagic0 0, .ingest kMagic0 0, .tick 1, .ingest kMagic1 1])
        (List.replicate kReceiveCapacity (.ingest 0 1)), Empties e := by
  obtain ⟨hsound, -, hrecovers⟩ := receive_buffer_safe setup ⟨rfl, rfl⟩
    [.ingest kMagic0 0, .ingest kMagic0 0, .tick 1, .ingest kMagic1 1]
  have hreached := Machine.run_mem_states step setup
    [.ingest kMagic0 0, .ingest kMagic0 0, .tick 1, .ingest kMagic1 1]
  refine ⟨(hsound _ hreached).1, hrecovers _ hreached _ ?_⟩
  decide +kernel

end SerialState
end RoboticCharacter.Firmware
