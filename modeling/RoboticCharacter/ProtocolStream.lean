import RoboticCharacter.ProtocolFrame

/-! The host's stream decoder: whole frames out of arbitrary chunks, in a bounded buffer. -/
namespace RoboticCharacter
open Host

inductive StreamIssueKind
  | desync
  | invalidHeader
  | checksumMismatch
  | invalidFrame
  | bufferOverflow
  deriving DecidableEq, Repr

def StreamIssueKind.value : StreamIssueKind → String
  | desync => "DESYNC"
  | invalidHeader => "INVALID_HEADER"
  | checksumMismatch => "CHECKSUM_MISMATCH"
  | invalidFrame => "INVALID_FRAME"
  | bufferOverflow => "BUFFER_OVERFLOW"

structure StreamIssue where
  kind : StreamIssueKind
  detail : String
  discardedBytes : ℕ
  deriving DecidableEq, Repr

structure DecodeBatch where
  frames : List Frame
  issues : List StreamIssue
  bufferedBytes : ℕ

/-- A decoder can hold at least one empty frame. -/
structure FrameStreamDecoder where
  maxBufferBytes : ℕ
  buffer : Bytes
  fits_frame : frameOverhead ≤ maxBufferBytes

namespace FrameStreamDecoder

/-- The constructor; the default limit is `defaultMaxBufferBytes`. -/
def new (maxBufferBytes : ℕ) : Except String FrameStreamDecoder :=
  if h : frameOverhead ≤ maxBufferBytes then .ok ⟨maxBufferBytes, [], h⟩
  else .error "max_buffer_bytes must fit at least one empty frame"

def defaultMaxBufferBytes : ℕ := maxPayloadSize+frameOverhead+64

def initial : FrameStreamDecoder := ⟨defaultMaxBufferBytes, [], by decide⟩

def findMagic : Bytes → Option ℕ
  | a :: b :: rest => if [a, b] = magic then some 0 else (findMagic (b :: rest)).map (· + 1)
  | _ => none

def desync (discarded : ℕ) : StreamIssue :=
  ⟨.desync, "discarded bytes before protocol magic", discarded⟩

/-- What one pass of the loop leaves in the buffer: it breaks off there, or goes on. -/
inductive Pass
  | stop (buffer : Bytes) (issues : List StreamIssue)
  | next (buffer : Bytes) (issues : List StreamIssue) (frames : List Frame)

def validateHeader (version rawType payloadLength : ℕ) : Option String :=
  if version ≠ protocolVersion then some s!"unsupported protocol version: {version}"
  else if MessageType.ofValue? rawType = none then some s!"unknown message type: {rawType}"
  else if payloadLength > maxPayloadSize then some "declared payload exceeds protocol maximum"
  else none

/-- The pass from a buffer that starts with the magic; `issues` are the pass's own so far. -/
def passFrame (maxBufferBytes : ℕ) (buffer : Bytes) (issues : List StreamIssue) : Pass :=
  if buffer.length < headerSize then .stop buffer issues
  else
    let payloadLength := unpackH buffer 6
    match validateHeader (unpackB buffer 2) (unpackB buffer 3) payloadLength with
    | some headerError =>
      -- one byte goes, so that a header that begins behind it is still found
      .next (buffer.drop 1) (issues ++ [⟨.invalidHeader, headerError, 1⟩]) []
    | none =>
      let frameSize := headerSize+payloadLength+crcSize
      if frameSize > maxBufferBytes then
        .next (buffer.drop 1)
          (issues ++ [⟨.invalidHeader, "declared frame exceeds stream buffer limit", 1⟩]) []
      else if buffer.length < frameSize then .stop buffer issues
      else
        match Frame.decode (buffer.take frameSize) with
        | .ok frame => .next (buffer.drop frameSize) issues [frame]
        | .error (.checksum message) =>
          -- the header was valid, so its length is trusted and the whole candidate goes
          .next (buffer.drop frameSize) (issues ++ [⟨.checksumMismatch, message, frameSize⟩]) []
        | .error (.protocol message) =>
          .next (buffer.drop 1) (issues ++ [⟨.invalidFrame, message, 1⟩]) []

def pass (maxBufferBytes : ℕ) (buffer : Bytes) : Pass :=
  if buffer.length < magic.length then .stop buffer []
  else if buffer.take 2 = magic then passFrame maxBufferBytes buffer []
  else
    match findMagic buffer with
    | none =>
      -- a last byte that may begin the magic is kept
      let keep := if buffer.getLast? = some kMagic0 then 1 else 0
      let discarded := buffer.length-keep
      if discarded = 0 then .stop buffer []
      else .stop (buffer.drop discarded) [desync discarded]
    | some magicIndex =>
      passFrame maxBufferBytes (buffer.drop magicIndex) [desync magicIndex]

theorem passFrame_next_shorter (maxBufferBytes : ℕ) (buffer rest : Bytes)
    (issues issues' : List StreamIssue) (frames : List Frame)
    (h : passFrame maxBufferBytes buffer issues = .next rest issues' frames) :
    rest.length < buffer.length := by
  -- every way on drops a byte or a frame, from a buffer that holds a header
  have hlong : ∀ n, 0 < n → ¬ buffer.length < headerSize →
      (buffer.drop n).length < buffer.length := by
    intro n hn hlen
    rw [List.length_drop]
    unfold headerSize at hlen
    omega
  unfold passFrame at h
  split_ifs at h with hlen
  dsimp only at h
  split at h
  · cases h
    exact hlong 1 (by decide) hlen
  · have hsize : 0 < headerSize+unpackH buffer 6+crcSize := by
      unfold headerSize
      omega
    split_ifs at h
    · cases h
      exact hlong 1 (by decide) hlen
    · split at h
      · cases h
        exact hlong _ hsize hlen
      · cases h
        exact hlong _ hsize hlen
      · cases h
        exact hlong 1 (by decide) hlen

/-- A pass that goes on has looked at a frame, at the head of the buffer or after bytes that it
dropped. -/
theorem pass_next_frame (maxBufferBytes : ℕ) (buffer rest : Bytes)
    (issues : List StreamIssue) (frames : List Frame)
    (h : pass maxBufferBytes buffer = .next rest issues frames) :
    ∃ index before, passFrame maxBufferBytes (buffer.drop index) before =
      .next rest issues frames := by
  unfold pass at h
  by_cases hshort : buffer.length < magic.length
  · rw [if_pos hshort] at h
    cases h
  · rw [if_neg hshort] at h
    by_cases hmagic : buffer.take 2 = magic
    · rw [if_pos hmagic] at h
      exact ⟨0, [], h⟩
    · rw [if_neg hmagic] at h
      cases hfind : findMagic buffer with
      | none =>
        simp only [hfind] at h
        split_ifs at h
      | some magicIndex =>
        simp only [hfind] at h
        exact ⟨magicIndex, [desync magicIndex], h⟩

/-- A pass that goes on has used up at least one byte. -/
theorem pass_next_shorter (maxBufferBytes : ℕ) (buffer rest : Bytes)
    (issues : List StreamIssue) (frames : List Frame)
    (h : pass maxBufferBytes buffer = .next rest issues frames) :
    rest.length < buffer.length := by
  obtain ⟨index, before, hframe⟩ := pass_next_frame _ _ _ _ _ h
  have hless := passFrame_next_shorter _ _ _ _ _ _ hframe
  rw [List.length_drop] at hless
  omega

structure Drained where
  buffer : Bytes
  issues : List StreamIssue
  frames : List Frame

def drain (maxBufferBytes : ℕ) (buffer : Bytes) : Drained :=
  match _h : pass maxBufferBytes buffer with
  | .stop rest issues => ⟨rest, issues, []⟩
  | .next rest issues frames =>
    let tail := drain maxBufferBytes rest
    ⟨tail.buffer, issues ++ tail.issues, frames ++ tail.frames⟩
termination_by buffer.length
decreasing_by exact pass_next_shorter _ _ _ _ _ _h

theorem drain_stop (maxBufferBytes : ℕ) (buffer rest : Bytes) (issues : List StreamIssue)
    (h : pass maxBufferBytes buffer = .stop rest issues) :
    drain maxBufferBytes buffer = ⟨rest, issues, []⟩ := by
  rw [drain]
  split
  · next heq =>
    rw [h] at heq
    cases heq
    rfl
  · next heq =>
    rw [h] at heq
    cases heq

theorem drain_next (maxBufferBytes : ℕ) (buffer rest : Bytes) (issues : List StreamIssue)
    (frames : List Frame) (h : pass maxBufferBytes buffer = .next rest issues frames) :
    drain maxBufferBytes buffer =
      ⟨(drain maxBufferBytes rest).buffer, issues ++ (drain maxBufferBytes rest).issues,
        frames ++ (drain maxBufferBytes rest).frames⟩ := by
  rw [drain]
  split
  · next heq =>
    rw [h] at heq
    cases heq
  · next heq =>
    rw [h] at heq
    cases heq
    rfl

def feed (d : FrameStreamDecoder) (data : Bytes) : FrameStreamDecoder × DecodeBatch :=
  if d.buffer.length+data.length > d.maxBufferBytes then
    ({ d with buffer := [] },
      ⟨[], [⟨.bufferOverflow, "stream buffer limit exceeded; buffered data discarded",
        d.buffer.length+data.length⟩], 0⟩)
  else
    let drained := drain d.maxBufferBytes (d.buffer ++ data)
    ({ d with buffer := drained.buffer },
      ⟨drained.frames, drained.issues, drained.buffer.length⟩)

@[simp]
theorem feed_maxBufferBytes (d : FrameStreamDecoder) (data : Bytes) :
    (d.feed data).1.maxBufferBytes = d.maxBufferBytes := by
  unfold feed
  by_cases hover : d.buffer.length+data.length > d.maxBufferBytes
  · rw [if_pos hover]
  · rw [if_neg hover]

end FrameStreamDecoder

end RoboticCharacter
