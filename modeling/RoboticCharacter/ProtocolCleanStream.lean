import RoboticCharacter.ProtocolStream
import RoboticCharacter.Machine

/-! The stream decoder on a clean stream: encoded frames, one after the other, cut
into chunks at any places. -/
namespace RoboticCharacter
open Host

namespace Frame

theorem headerOf_take (f : Frame) (buffer : Bytes) (hbegins : buffer <+: f.encode)
    (hlong : headerSize ≤ buffer.length) : f.HeaderOf buffer := by
  obtain ⟨later, hlater⟩ := hbegins
  apply f.headerOf_of_take
  rw [← f.encode_take_header, ← hlater, List.take_append_of_le_length hlong]

theorem take_two_of_prefix (f : Frame) (buffer : Bytes) (hbegins : buffer <+: f.encode)
    (hlong : 2 ≤ buffer.length) : buffer.take 2 = magic := by
  obtain ⟨later, hlater⟩ := hbegins
  have hmagic := (f.encode_eq ▸ f.header_fields _ : f.HeaderOf f.encode).magic_eq
  rwa [← hlater, List.take_append_of_le_length hlong] at hmagic

theorem validateHeader_of_headerOf (f : Frame) (buffer : Bytes) (h : f.HeaderOf buffer) :
    FrameStreamDecoder.validateHeader (unpackB buffer 2) (unpackB buffer 3) (unpackH buffer 6) =
      none := by
  have hp := f.payload_fits
  simp only [FrameStreamDecoder.validateHeader, h.version_eq, h.type_eq, h.length_eq,
    MessageType.ofValue?_value, ne_eq, not_true_eq_false, reduceCtorEq, gt_iff_lt,
    not_lt.mpr hp, ↓reduceIte]

theorem two_le_length_encode (f : Frame) : 2 ≤ f.encode.length := by
  rw [length_encode, headerSize]
  omega

end Frame

namespace FrameStreamDecoder
open RoboticCharacter.Frame

/-- A whole frame at the head of the buffer is delivered. -/
theorem pass_encode (maxBufferBytes : ℕ) (f : Frame) (rest : Bytes)
    (hfits : f.encode.length ≤ maxBufferBytes) :
    pass maxBufferBytes (f.encode ++ rest) = .next rest [] [f] := by
  have hlen := f.length_encode
  have htwo := f.two_le_length_encode
  have hh : f.HeaderOf (f.encode ++ rest) := by
    rw [encode_eq, List.append_assoc]
    exact f.header_fields _
  have hsize : headerSize+f.payload.length+crcSize ≤ maxBufferBytes := hlen ▸ hfits
  have hcandidate : (f.encode ++ rest).take (headerSize+f.payload.length+crcSize) = f.encode :=
    List.take_left' hlen
  have hrest : (f.encode ++ rest).drop (headerSize+f.payload.length+crcSize) = rest :=
    List.drop_left' hlen
  have hlong : headerSize+f.payload.length+crcSize ≤ (f.encode ++ rest).length := by
    rw [List.length_append, hlen]
    omega
  have hvalid := f.validateHeader_of_headerOf _ hh
  rw [hh.length_eq] at hvalid
  unfold pass passFrame
  rw [if_neg (by rw [List.length_append]; change ¬ _ < 2; omega), if_pos hh.magic_eq,
    if_neg (by omega)]
  simp only [hh.length_eq, hvalid, hcandidate, hrest, decode_encode]
  rw [if_neg (by omega), if_neg (by omega)]

/-- A frame that is not all there yet is waited for. -/
theorem pass_unfinished (maxBufferBytes : ℕ) (f : Frame) (buffer : Bytes)
    (hbegins : buffer <+: f.encode) (hshort : buffer.length < f.encode.length)
    (hfits : f.encode.length ≤ maxBufferBytes) : pass maxBufferBytes buffer = .stop buffer [] := by
  have hlen := f.length_encode
  unfold pass
  by_cases hmagic : buffer.length < magic.length
  · rw [if_pos hmagic]
  · rw [if_neg hmagic, if_pos (f.take_two_of_prefix buffer hbegins (not_lt.mp hmagic))]
    unfold passFrame
    by_cases hheader : buffer.length < headerSize
    · rw [if_pos hheader]
    · have hh := f.headerOf_take buffer hbegins (not_lt.mp hheader)
      have hvalid := f.validateHeader_of_headerOf _ hh
      rw [hh.length_eq] at hvalid
      rw [if_neg hheader]
      simp only [hh.length_eq, hvalid]
      rw [if_neg (by omega), if_pos (by omega)]

/-- A chunk that leaves a frame unfinished is only buffered. -/
theorem feed_unfinished (d : FrameStreamDecoder) (f : Frame) (data : Bytes)
    (hbegins : d.buffer ++ data <+: f.encode)
    (hshort : (d.buffer ++ data).length < f.encode.length)
    (hfits : f.encode.length ≤ d.maxBufferBytes) :
    d.feed data = ({ d with buffer := d.buffer ++ data }, ⟨[], [], (d.buffer ++ data).length⟩) := by
  have hroom : ¬ d.buffer.length+data.length > d.maxBufferBytes := by
    rw [List.length_append] at hshort
    omega
  rw [feed, if_neg hroom, drain_stop _ _ _ _ (pass_unfinished _ f _ hbegins hshort hfits)]

/-- The loop on the first part of a clean stream: it delivers the frames that are all
there, reports nothing, and keeps the beginning of the next one. -/
theorem drain_clean (maxBufferBytes : ℕ) (frames : List Frame) (buffer later : Bytes)
    (hfits : ∀ f ∈ frames, f.encode.length ≤ maxBufferBytes)
    (h : buffer ++ later = frames.flatMap encode) :
    ∃ done rest kept, frames = done ++ rest ∧ drain maxBufferBytes buffer = ⟨kept, [], done⟩ ∧
      kept ++ later = rest.flatMap encode ∧ ∀ f ∈ rest.head?, kept.length < f.encode.length := by
  induction frames generalizing buffer with
  | nil =>
    have hbuffer : buffer = [] := (List.append_eq_nil_iff.mp h).1
    subst hbuffer
    exact ⟨[], [], [], rfl, drain_stop _ _ _ _ rfl, h, nofun⟩
  | cons f frames ih =>
    rw [List.flatMap_cons] at h
    have hf := hfits f (List.mem_cons_self ..)
    -- the buffer ends within the first frame, or goes on after it
    rcases List.append_eq_append_iff.mp h with ⟨more, hmore, -⟩ | ⟨extra, rfl, hextra⟩
    · by_cases hall : more = []
      · -- the buffer is exactly the first frame
        subst hall
        rw [List.append_nil] at hmore
        rw [← hmore] at h ⊢
        have hlater := List.append_cancel_left h
        obtain ⟨done, rest, kept, heq, hdrain, hkept, hhead⟩ :=
          ih [] (fun g hg => hfits g (List.mem_cons_of_mem _ hg)) hlater
        refine ⟨f :: done, rest, kept, by rw [heq]; rfl, ?_, hkept, hhead⟩
        have hpass := pass_encode maxBufferBytes f [] hf
        rw [List.append_nil] at hpass
        rw [drain_next _ _ _ _ _ hpass, hdrain]
        rfl
      · have hbegins : buffer <+: f.encode := ⟨more, hmore.symm⟩
        have hshort : buffer.length < f.encode.length := by
          have := List.length_pos_iff.mpr hall
          rw [hmore, List.length_append]
          omega
        refine ⟨[], f :: frames, buffer, rfl, ?_, h, ?_⟩
        · exact drain_stop _ _ _ _ (pass_unfinished _ f buffer hbegins hshort hf)
        · intro g hg
          rw [← Option.some.inj hg]
          exact hshort
    · obtain ⟨done, rest, kept, heq, hdrain, hkept, hhead⟩ :=
        ih extra (fun g hg => hfits g (List.mem_cons_of_mem _ hg)) hextra.symm
      refine ⟨f :: done, rest, kept, by rw [heq]; rfl, ?_, hkept, hhead⟩
      rw [drain_next _ _ _ _ _ (pass_encode maxBufferBytes f extra hf), hdrain]
      rfl

/-- The decoder is inside a clean stream: `frames` are still to come, the first of them
not all there yet, and `later` are the bytes not fed yet. -/
structure Expecting (d : FrameStreamDecoder) (frames : List Frame) (later : Bytes) : Prop where
  stream : d.buffer ++ later = frames.flatMap encode
  unfinished : ∀ f ∈ frames.head?, d.buffer.length < f.encode.length
  fits : ∀ f ∈ frames, f.encode.length ≤ d.maxBufferBytes

/-- With all its bytes fed, a clean stream has nothing left to deliver. -/
theorem Expecting.eq_nil {d : FrameStreamDecoder} {frames : List Frame}
    (h : d.Expecting frames []) : frames = [] := by
  cases frames with
  | nil => rfl
  | cons f rest =>
    have hshort := h.unfinished f rfl
    have hlen := congrArg List.length h.stream
    simp only [List.append_nil, List.flatMap_cons, List.length_append] at hlen
    omega

/-- What the decoder holds of a clean stream is less than one frame. -/
theorem Expecting.buffer_length_lt {d : FrameStreamDecoder} {frames : List Frame} {later : Bytes}
    (h : d.Expecting frames later) (size : ℕ) (hpos : 0 < size)
    (hsize : ∀ f ∈ frames, f.encode.length = size) : d.buffer.length < size := by
  cases frames with
  | nil =>
    have hempty : d.buffer = [] := (List.append_eq_nil_iff.mp h.stream).1
    rw [hempty]
    exact hpos
  | cons f rest =>
    have hshort := h.unfinished f rfl
    rwa [hsize f (List.mem_cons_self ..)] at hshort

theorem Expecting.append {d : FrameStreamDecoder} {frames : List Frame} {later : Bytes}
    (h : d.Expecting frames later) (f : Frame) (hfits : f.encode.length ≤ d.maxBufferBytes) :
    d.Expecting (frames ++ [f]) (later ++ f.encode) := by
  refine ⟨?_, ?_, ?_⟩
  · rw [← List.append_assoc, h.stream, List.flatMap_append, List.flatMap_singleton]
  · cases frames with
    | nil =>
      intro g hg
      have htwo := f.two_le_length_encode
      have hempty : d.buffer = [] := (List.append_eq_nil_iff.mp h.stream).1
      rw [← Option.some.inj hg, hempty, List.length_nil]
      omega
    | cons g rest => exact h.unfinished
  · intro g hg
    rcases List.mem_append.mp hg with hold | hnew
    · exact h.fits g hold
    · rw [List.mem_singleton.mp hnew]
      exact hfits

structure FedClean (d : FrameStreamDecoder) (data : Bytes) (frames : List Frame) (later : Bytes)
    (done rest : List Frame) : Prop where
  split : frames = done ++ rest
  frames_eq : (d.feed data).2.frames = done
  issues_eq : (d.feed data).2.issues = []
  expecting : (d.feed data).1.Expecting rest later

theorem feed_clean (d : FrameStreamDecoder) (data : Bytes) (frames : List Frame) (later : Bytes)
    (h : d.Expecting frames (data ++ later))
    (hroom : d.buffer.length+data.length ≤ d.maxBufferBytes) :
    ∃ done rest, d.FedClean data frames later done rest := by
  have hstream := h.stream
  rw [← List.append_assoc] at hstream
  obtain ⟨done, rest, kept, heq, hdrain, hkept, hhead⟩ :=
    drain_clean d.maxBufferBytes frames _ later h.fits hstream
  -- within the limit nothing is dropped, so the loop sees the whole stream
  have hfeed : d.feed data = ({ d with buffer := kept }, ⟨done, [], kept.length⟩) := by
    unfold feed
    rw [if_neg (by omega), hdrain]
  refine ⟨done, rest, heq, by rw [hfeed], by rw [hfeed], ?_⟩
  rw [hfeed]
  refine ⟨hkept, hhead, ?_⟩
  intro f hf
  exact h.fits f (heq ▸ List.mem_append_right _ hf)

def feedFrames (d : FrameStreamDecoder) (chunks : List Bytes) : List Frame :=
  (Machine.trace feed d chunks).flatMap (fun e => e.output.frames)

def feedIssues (d : FrameStreamDecoder) (chunks : List Bytes) : List StreamIssue :=
  (Machine.trace feed d chunks).flatMap (fun e => e.output.issues)

/-- One frame, fed in any chunks to a decoder that can hold it, is what is delivered. -/
theorem feed_one_frame (d : FrameStreamDecoder) (f : Frame) (chunks : List Bytes)
    (hbuffer : d.buffer = []) (hfits : f.encode.length ≤ d.maxBufferBytes)
    (hchunks : chunks.flatten = f.encode) :
    d.feedFrames chunks = [f] ∧ d.feedIssues chunks = [] := by
  -- the frame and the bytes fed stay within the limit all the way
  suffices hmain : ∀ (chunks : List Bytes) (d : FrameStreamDecoder) (frames : List Frame),
      d.Expecting frames chunks.flatten → (frames.flatMap encode).length ≤ d.maxBufferBytes →
      d.feedFrames chunks = frames ∧ d.feedIssues chunks = [] by
    refine hmain chunks d [f] ⟨?_, ?_, ?_⟩ (by simpa using hfits)
    · simp [hbuffer, hchunks]
    · intro g hg
      have := f.two_le_length_encode
      rw [← Option.some.inj hg, hbuffer, List.length_nil]
      omega
    · intro g hg
      rw [List.mem_singleton.mp hg]
      exact hfits
  intro chunks
  induction chunks with
  | nil =>
    intro d frames h _
    exact ⟨h.eq_nil.symm, rfl⟩
  | cons data chunks ih =>
    intro d frames h hlimit
    rw [List.flatten_cons] at h
    have hlen := congrArg List.length h.stream
    simp only [List.length_append] at hlen
    obtain ⟨done, rest, hfed⟩ := d.feed_clean data frames chunks.flatten h (by omega)
    have hrest : (rest.flatMap encode).length ≤ (d.feed data).1.maxBufferBytes := by
      rw [feed_maxBufferBytes]
      rw [hfed.split, List.flatMap_append, List.length_append] at hlimit
      omega
    obtain ⟨hframes, hissues⟩ := ih _ rest hfed.expecting hrest
    unfold feedFrames at hframes ⊢
    unfold feedIssues at hissues ⊢
    rw [Machine.trace_cons, List.flatMap_cons, List.flatMap_cons, hframes, hissues, hfed.frames_eq,
      hfed.issues_eq, hfed.split]
    exact ⟨rfl, rfl⟩

end FrameStreamDecoder

end RoboticCharacter
