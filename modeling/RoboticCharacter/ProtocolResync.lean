import RoboticCharacter.ProtocolResume

/-! Encoded frames separated by junk: the host's decoder finds exactly the frames when no
junk byte begins a valid header. -/
namespace RoboticCharacter
open Host

/-- A run of junk and the frame sent after it. -/
structure Segment where
  junk : Bytes
  frame : Frame

/-- The bytes of the segments, and the junk after the last frame. -/
def stream : List Segment → Bytes → Bytes
  | [], last => last
  | g :: rest, last => g.junk ++ (g.frame.encode ++ stream rest last)

/-- Eight bytes that pass for the header of a frame. -/
structure BeginsHeader (data : Bytes) : Prop where
  complete : headerSize ≤ data.length
  magic_eq : data.take 2 = magic
  version_eq : unpackB data 2 = protocolVersion
  known_type : MessageType.ofValue? (unpackB data 3) ≠ none
  length_le : unpackH data 6 ≤ maxPayloadSize

/-- No byte of `junk` begins a valid header, in the stream that goes on with `rest`. -/
def NoHeaderIn (junk rest : Bytes) : Prop :=
  ∀ i < junk.length, ¬ BeginsHeader ((junk ++ rest).drop i)

def JunkOnly : List Segment → Bytes → Prop
  | [], last => NoHeaderIn last []
  | g :: rest, last => NoHeaderIn g.junk (g.frame.encode ++ stream rest last) ∧ JunkOnly rest last

theorem NoHeaderIn.head {a : UInt8} {junk rest : Bytes} (h : NoHeaderIn (a :: junk) rest) :
    ¬ BeginsHeader (a :: (junk ++ rest)) := h 0 (Nat.succ_pos _)

theorem NoHeaderIn.tail {a : UInt8} {junk rest : Bytes} (h : NoHeaderIn (a :: junk) rest) :
    NoHeaderIn junk rest := fun i hi => h (i+1) (Nat.succ_lt_succ hi)

theorem NoHeaderIn.drop {junk rest : Bytes} (h : NoHeaderIn junk rest) (count : ℕ)
    (hcount : count ≤ junk.length) : NoHeaderIn (junk.drop count) rest := by
  intro i hi
  rw [List.length_drop] at hi
  have hat := h (count+i) (by omega)
  rwa [← List.drop_append_of_le_length hcount, List.drop_drop]

theorem beginsHeader_encode (f : Frame) (rest : Bytes) : BeginsHeader (f.encode ++ rest) := by
  have hh : f.HeaderOf (f.encode ++ rest) := by
    rw [f.encode_eq, List.append_assoc]
    exact f.header_fields _
  refine ⟨?_, hh.magic_eq, hh.version_eq, ?_, hh.length_eq ▸ f.payload_fits⟩
  · rw [List.length_append, f.length_encode]
    omega
  · rw [hh.type_eq, MessageType.ofValue?_value]
    exact Option.some_ne_none _

namespace FrameStreamDecoder
open RoboticCharacter.Frame

theorem validateHeader_eq_none_iff (version rawType payloadLength : ℕ) :
    validateHeader version rawType payloadLength = none ↔
      version = protocolVersion ∧ MessageType.ofValue? rawType ≠ none ∧
        payloadLength ≤ maxPayloadSize := by
  unfold validateHeader
  split_ifs with h1 h2 h3
  · simp [h1]
  · simp [h2]
  · simp [not_le.mpr h3]
  · exact iff_of_true rfl ⟨not_not.mp h1, h2, not_lt.mp h3⟩

/-- A magic whose header fails a check is dropped by one byte, with an issue. -/
theorem pass_invalid (maxBufferBytes : ℕ) {buffer : Bytes} (hmagic : buffer.take 2 = magic)
    (hlong : headerSize ≤ buffer.length) (hno : ¬ BeginsHeader buffer) :
    ∃ headerError, pass maxBufferBytes buffer =
      .next (buffer.drop 1) [⟨.invalidHeader, headerError, 1⟩] [] := by
  cases hvalid : validateHeader (unpackB buffer 2) (unpackB buffer 3) (unpackH buffer 6) with
  | none =>
    obtain ⟨h1, h2, h3⟩ := (validateHeader_eq_none_iff _ _ _).mp hvalid
    exact absurd ⟨hlong, hmagic, h1, h2, h3⟩ hno
  | some headerError =>
    refine ⟨headerError, ?_⟩
    rw [pass_of_magic _ _ hmagic, passFrame, if_neg (not_lt.mpr hlong)]
    dsimp only
    rw [hvalid]
    rfl

/-- A magic whose header fails a check is passed over by one byte. -/
theorem framesOf_invalid (maxBufferBytes : ℕ) (a : UInt8) (data : Bytes)
    (hmagic : (a :: data).take 2 = magic) (hlong : headerSize ≤ (a :: data).length)
    (hno : ¬ BeginsHeader (a :: data)) :
    framesOf maxBufferBytes (a :: data) = framesOf maxBufferBytes data := by
  obtain ⟨headerError, hpass⟩ := pass_invalid maxBufferBytes hmagic hlong hno
  rw [framesOf_eq_pass, hpass]
  rfl

/-- A magic without a whole header is waited for. -/
theorem framesOf_incomplete (maxBufferBytes : ℕ) (data : Bytes)
    (hmagic : data.take 2 = magic) (hshort : data.length < headerSize) :
    framesOf maxBufferBytes data = [] := by
  rw [framesOf_eq_pass, pass_of_magic _ _ hmagic, passFrame, if_pos hshort]
  rfl

theorem framesOf_encode (maxBufferBytes : ℕ) (f : Frame) (rest : Bytes)
    (hfits : f.encode.length ≤ maxBufferBytes) :
    framesOf maxBufferBytes (f.encode ++ rest) = f :: framesOf maxBufferBytes rest := by
  rw [framesOf_eq_pass, pass_encode _ f rest hfits]
  rfl

/-- Junk before at least a header's worth of bytes is passed over. -/
theorem framesOf_junk (maxBufferBytes : ℕ) (junk rest : Bytes) (h : NoHeaderIn junk rest)
    (hrest : headerSize ≤ rest.length) :
    framesOf maxBufferBytes (junk ++ rest) = framesOf maxBufferBytes rest := by
  induction junk with
  | nil => rfl
  | cons a junk ih =>
    rw [List.cons_append, ← ih h.tail]
    by_cases hmagic : (a :: (junk ++ rest)).take 2 = magic
    · apply framesOf_invalid _ _ _ hmagic _ h.head
      rw [List.length_cons, List.length_append]
      omega
    · exact framesOf_skip _ _ _ hmagic

/-- The junk at the end of a stream holds no frame. -/
theorem framesOf_last (maxBufferBytes : ℕ) (junk : Bytes) (h : NoHeaderIn junk []) :
    framesOf maxBufferBytes junk = [] := by
  induction junk with
  | nil => exact framesOf_no_magic _ [] rfl
  | cons a junk ih =>
    have hhead := h.head
    rw [List.append_nil] at hhead
    by_cases hmagic : (a :: junk).take 2 = magic
    · by_cases hlong : headerSize ≤ (a :: junk).length
      · rw [framesOf_invalid _ _ _ hmagic hlong hhead]
        exact ih h.tail
      · exact framesOf_incomplete _ _ hmagic (not_le.mp hlong)
    · rw [framesOf_skip _ _ _ hmagic]
      exact ih h.tail

theorem headerSize_le_frame (f : Frame) (rest : Bytes) :
    headerSize ≤ (f.encode ++ rest).length := (beginsHeader_encode f rest).complete

/-- The decoder finds the frames between the junk, each once and in order. -/
theorem framesOf_stream (maxBufferBytes : ℕ) (segments : List Segment) (last : Bytes)
    (h : JunkOnly segments last) (hfits : ∀ g ∈ segments, g.frame.encode.length ≤ maxBufferBytes) :
    framesOf maxBufferBytes (stream segments last) = segments.map Segment.frame := by
  induction segments with
  | nil => exact framesOf_last _ last h
  | cons g rest ih =>
    rw [stream, framesOf_junk _ _ _ h.1 (headerSize_le_frame _ _),
      framesOf_encode _ _ _ (hfits g (List.mem_cons_self ..)),
      ih h.2 (fun k hk => hfits k (List.mem_cons_of_mem _ hk)), List.map_cons]

theorem passFrame_fit (maxBufferBytes : ℕ) (buffer rest : Bytes)
    (issues issues' : List StreamIssue) (frames : List Frame)
    (h : passFrame maxBufferBytes buffer issues = .next rest issues' frames) :
    ∀ f ∈ frames, f.encode.length ≤ maxBufferBytes := by
  unfold passFrame at h
  by_cases hshort : buffer.length < headerSize
  · rw [if_pos hshort] at h
    cases h
  rw [if_neg hshort] at h
  dsimp only at h
  split at h
  · cases h
    exact fun _ hf => absurd hf List.not_mem_nil
  · by_cases hbig : headerSize+unpackH buffer 6+crcSize > maxBufferBytes
    · rw [if_pos hbig] at h
      cases h
      exact fun _ hf => absurd hf List.not_mem_nil
    rw [if_neg hbig] at h
    by_cases hwait : buffer.length < headerSize+unpackH buffer 6+crcSize
    · rw [if_pos hwait] at h
      cases h
    rw [if_neg hwait] at h
    split at h
    · next frame hdecode =>
      cases h
      have hsame := congrArg List.length ((Frame.decode_eq_ok_iff _ frame).mp hdecode)
      rw [List.length_take] at hsame
      intro f hf
      rw [List.mem_singleton.mp hf]
      omega
    · cases h
      exact fun _ hf => absurd hf List.not_mem_nil
    · cases h
      exact fun _ hf => absurd hf List.not_mem_nil

theorem pass_fit (maxBufferBytes : ℕ) (buffer rest : Bytes) (issues : List StreamIssue)
    (frames : List Frame) (h : pass maxBufferBytes buffer = .next rest issues frames) :
    ∀ f ∈ frames, f.encode.length ≤ maxBufferBytes := by
  obtain ⟨index, before, hframe⟩ := pass_next_frame _ _ _ _ _ h
  exact passFrame_fit _ _ _ _ _ _ hframe

/-- Whatever the decoder delivers fits its buffer. -/
theorem framesOf_fit (maxBufferBytes : ℕ) (buffer : Bytes) :
    ∀ f ∈ framesOf maxBufferBytes buffer, f.encode.length ≤ maxBufferBytes := by
  generalize hn : buffer.length = n
  induction n using Nat.strong_induction_on generalizing buffer with
  | _ n ih =>
    rw [framesOf_eq_pass]
    cases h : pass maxBufferBytes buffer with
    | stop rest issues => exact fun _ hf => absurd hf List.not_mem_nil
    | next rest issues frames =>
      have hless := pass_next_shorter _ _ _ _ _ h
      exact List.forall_mem_append.mpr ⟨pass_fit _ _ _ _ _ h, ih rest.length (by omega) rest rfl⟩

/-- Fed in chunks that never overflow it, a decoder delivers exactly the frames of a stream
when they all fit its buffer. -/
theorem feedFrames_stream_iff (d : FrameStreamDecoder) (hempty : d.buffer = [])
    (segments : List Segment) (last : Bytes) (h : JunkOnly segments last) (chunks : List Bytes)
    (hchunks : chunks.flatten = stream segments last)
    (hno : ∀ issue ∈ d.feedIssues chunks, issue.kind ≠ .bufferOverflow) :
    d.feedFrames chunks = segments.map Segment.frame ↔
      ∀ g ∈ segments, g.frame.encode.length ≤ d.maxBufferBytes := by
  have hsettled : framesOf d.maxBufferBytes d.buffer = [] := by
    rw [hempty]
    exact framesOf_no_magic _ [] rfl
  rw [feedFrames_eq_framesOf d chunks hsettled hno, hempty, List.nil_append, hchunks]
  constructor
  · intro hall g hg
    apply framesOf_fit d.maxBufferBytes (stream segments last)
    rw [hall]
    exact List.mem_map_of_mem hg
  · exact framesOf_stream d.maxBufferBytes segments last h

end FrameStreamDecoder

end RoboticCharacter
