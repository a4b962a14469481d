import RoboticCharacter.ProtocolCleanStream

/-! The host's frame transport: a byte stream, its decoder, and the frames and issues
decoded but not handed out yet. -/
namespace RoboticCharacter
open Host

/-- How a call of `receive_frame` ends: with a frame, or with the text of what it raises. -/
inductive Received
  | frame (frame : Frame)
  | failed (error : String)
  deriving DecidableEq

def Received.toList : Received → List Frame
  | frame f => [f]
  | failed _ => []

structure ProtocolTransport where
  readSize : ℕ
  decoder : FrameStreamDecoder
  frames : List Frame
  issues : List StreamIssue
  readSize_pos : 0 < readSize

namespace ProtocolTransport

/-- The constructor; the default read size is 128. -/
def new (readSize : ℤ) (decoder : FrameStreamDecoder) : Except String ProtocolTransport :=
  if h : readSize ≤ 0 then .error "read_size must be positive"
  else .ok ⟨readSize.toNat, decoder, [], [], by omega⟩

def initial : ProtocolTransport := ⟨128, .initial, [], [], by decide⟩

def timedOut : Received := .failed "protocol frame receive timed out"

/-- What is handed out without a read: any issue before any frame. -/
def takeReady (t : ProtocolTransport) : Option (ProtocolTransport × Received) :=
  match t.issues with
  | issue :: rest =>
    some ({ t with issues := rest }, .failed s!"stream {issue.kind.value}: {issue.detail}")
  | [] =>
    match t.frames with
    | frame :: rest => some ({ t with frames := rest }, .frame frame)
    | [] => none

def feedChunk (t : ProtocolTransport) (chunk : Bytes) : ProtocolTransport :=
  let fed := t.decoder.feed chunk
  { t with
    decoder := fed.1
    issues := t.issues ++ fed.2.issues
    frames := t.frames ++ fed.2.frames }

/-- `receive_frame` under a deadline: `reads` are the chunks that the reads of the byte
stream return before it. Also returned are the chunks it did not read. -/
def receiveFrame (t : ProtocolTransport) (reads : List Bytes) :
    ProtocolTransport × List Bytes × Received :=
  match t.takeReady with
  | some (after, received) => (after, reads, received)
  | none =>
    match reads with
    | [] => (t, [], timedOut)
    | chunk :: later =>
      if chunk = [] then (t, later, .failed "remote transport endpoint closed")
      else (t.feedChunk chunk).receiveFrame later

theorem takeReady_decoder (t after : ProtocolTransport) (received : Received)
    (h : t.takeReady = some (after, received)) : after.decoder = t.decoder := by
  unfold takeReady at h
  split at h
  · cases h
    rfl
  · split at h
    · cases h
      rfl
    · cases h

/-- What is handed out is the first of the frames. -/
theorem takeReady_frames (t after : ProtocolTransport) (received : Received)
    (h : t.takeReady = some (after, received)) : t.frames = received.toList ++ after.frames := by
  unfold takeReady at h
  split at h
  · cases h
    rfl
  · split at h
    · next frame rest hframes =>
      cases h
      exact hframes
    · cases h

theorem receiveFrame_maxBufferBytes (t : ProtocolTransport) (reads : List Bytes) :
    (t.receiveFrame reads).1.decoder.maxBufferBytes = t.decoder.maxBufferBytes := by
  induction reads generalizing t with
  | nil =>
    rw [receiveFrame]
    cases h : t.takeReady with
    | some result => exact congrArg _ (t.takeReady_decoder result.1 result.2 h)
    | none => rfl
  | cons chunk later ih =>
    rw [receiveFrame]
    cases h : t.takeReady with
    | some result => exact congrArg _ (t.takeReady_decoder result.1 result.2 h)
    | none =>
      dsimp only
      by_cases hclosed : chunk = []
      · rw [if_pos hclosed]
      · rw [if_neg hclosed]
        exact (ih (t.feedChunk chunk)).trans (t.decoder.feed_maxBufferBytes chunk)

/-- On a clean stream: `frames` are still to be handed out and `later` is still to be read. -/
structure Receiving (t : ProtocolTransport) (frames : List Frame) (later : Bytes) : Prop where
  no_issues : t.issues = []
  waiting : ∃ rest, frames = t.frames ++ rest ∧ t.decoder.Expecting rest later

theorem Receiving.append {t : ProtocolTransport} {frames : List Frame} {later : Bytes}
    (h : t.Receiving frames later) (f : Frame)
    (hfits : f.encode.length ≤ t.decoder.maxBufferBytes) :
    t.Receiving (frames ++ [f]) (later ++ f.encode) := by
  obtain ⟨rest, hframes, hexpecting⟩ := h.waiting
  refine ⟨h.no_issues, rest ++ [f], ?_, hexpecting.append f hfits⟩
  rw [hframes, List.append_assoc]

/-- Reading a chunk of a clean stream hands nothing out and raises no issue. -/
theorem Receiving.feedChunk {t : ProtocolTransport} {frames : List Frame} {chunk later : Bytes}
    (h : t.Receiving frames (chunk ++ later)) (size : ℕ) (hpos : 0 < size)
    (hsize : ∀ f ∈ frames, f.encode.length = size)
    (hroom : chunk.length+size ≤ t.decoder.maxBufferBytes+1) :
    (t.feedChunk chunk).Receiving frames later := by
  obtain ⟨rest, hframes, hexpecting⟩ := h.waiting
  have hrest : ∀ f ∈ rest, f.encode.length = size := by
    intro f hf
    exact hsize f (hframes ▸ List.mem_append_right _ hf)
  have hbuffer := hexpecting.buffer_length_lt size hpos hrest
  obtain ⟨done, undone, hfed⟩ :=
    t.decoder.feed_clean chunk rest later hexpecting (by omega)
  refine ⟨?_, undone, ?_, hfed.expecting⟩
  · rw [ProtocolTransport.feedChunk, hfed.issues_eq, List.append_nil]
    exact h.no_issues
  · rw [hframes, hfed.split, ProtocolTransport.feedChunk, hfed.frames_eq, List.append_assoc]

/-- How a receive from a clean stream ends: with the first frame still to be handed out,
or at the deadline with everything read and no frame complete. -/
inductive CleanReceive (t : ProtocolTransport) (reads : List Bytes) (later : Bytes) :
    List Frame → Prop
  | frame (f : Frame) (rest : List Frame) (after : ProtocolTransport) (left : List Bytes)
      (received : t.receiveFrame reads = (after, left, .frame f))
      (receiving : after.Receiving rest (left.flatten ++ later))
      (unread : left <:+ reads) : CleanReceive t reads later (f :: rest)
  | timedOut (frames : List Frame) (after : ProtocolTransport)
      (received : t.receiveFrame reads = (after, [], ProtocolTransport.timedOut))
      (receiving : after.Receiving frames later)
      (nothing : later = [] → frames = []) : CleanReceive t reads later frames

/-- A frame that is ready is handed out without a read. -/
theorem Receiving.ready {t : ProtocolTransport} {frames : List Frame} {reads : List Bytes}
    {later : Bytes} (h : t.Receiving frames (reads.flatten ++ later)) (f : Frame)
    (queue : List Frame) (hqueue : t.frames = f :: queue) : t.CleanReceive reads later frames := by
  obtain ⟨rest, hframes, hexpecting⟩ := h.waiting
  rw [hqueue] at hframes
  rw [hframes]
  have hreceived : t.receiveFrame reads = ({ t with frames := queue }, reads, .frame f) := by
    rw [receiveFrame.eq_def, takeReady, h.no_issues, hqueue]
  exact .frame f (queue ++ rest) { t with frames := queue } reads hreceived
    ⟨h.no_issues, rest, rfl, hexpecting⟩ (List.suffix_refl _)

/-- Every receive from a clean stream ends so; by induction on the reads. -/
theorem Receiving.receiveFrame {t : ProtocolTransport} {frames : List Frame} {reads : List Bytes}
    {later : Bytes} (h : t.Receiving frames (reads.flatten ++ later)) (size : ℕ)
    (hpos : 0 < size) (hsize : ∀ f ∈ frames, f.encode.length = size)
    (hreads : ∀ c ∈ reads, c ≠ [] ∧ c.length+size ≤ t.decoder.maxBufferBytes+1) :
    t.CleanReceive reads later frames := by
  induction reads generalizing t with
  | nil =>
    cases hqueue : t.frames with
    | cons f queue => exact h.ready f queue hqueue
    | nil =>
      have hready : t.takeReady = none := by rw [takeReady, h.no_issues, hqueue]
      refine .timedOut frames t ?_ h ?_
      · rw [ProtocolTransport.receiveFrame, hready]
      · -- every byte was read and the queue is empty: nothing was left
        intro hlater
        obtain ⟨rest, hframes, hexpecting⟩ := h.waiting
        rw [List.flatten_nil, List.nil_append, hlater] at hexpecting
        rw [hframes, hqueue, hexpecting.eq_nil]
        rfl
  | cons chunk reads ih =>
    cases hqueue : t.frames with
    | cons f queue => exact h.ready f queue hqueue
    | nil =>
      have hready : t.takeReady = none := by rw [takeReady, h.no_issues, hqueue]
      obtain ⟨hne, hchunk⟩ := hreads chunk (List.mem_cons_self ..)
      have hstep : t.receiveFrame (chunk :: reads) = (t.feedChunk chunk).receiveFrame reads := by
        rw [ProtocolTransport.receiveFrame, hready]
        exact if_neg hne
      rw [List.flatten_cons, List.append_assoc] at h
      have hfed := h.feedChunk size hpos hsize hchunk
      have hlimit : (t.feedChunk chunk).decoder.maxBufferBytes = t.decoder.maxBufferBytes :=
        t.decoder.feed_maxBufferBytes chunk
      have hlater : ∀ c ∈ reads, c ≠ [] ∧
          c.length+size ≤ (t.feedChunk chunk).decoder.maxBufferBytes+1 := by
        intro c hc
        rw [hlimit]
        exact hreads c (List.mem_cons_of_mem _ hc)
      cases ih hfed hlater with
      | frame f rest after left received receiving unread =>
        exact .frame f rest after left (hstep.trans received) receiving
          (unread.trans (List.suffix_cons _ _))
      | timedOut _ after received receiving nothing =>
        exact .timedOut _ after (hstep.trans received) receiving nothing

end ProtocolTransport

end RoboticCharacter
