import RoboticCharacter.ProtocolResync
import RoboticCharacter.ChecksumBursts

/-! One corrupted byte in an encoded frame, and what the host's decoder makes of the bytes
of this frame and of the frame sent after it. -/
namespace RoboticCharacter
open Host

/-- The size of the frame that a header declares. -/
def declaredSize (data : Bytes) : ℕ := headerSize+unpackH data 6+crcSize

theorem declaredSize_append (data more : Bytes) (h : headerSize ≤ data.length) :
    declaredSize (data ++ more) = declaredSize data := by
  unfold declaredSize
  rw [FrameStreamDecoder.unpackH_append data more 6 h]

/-- Whether a header begins is seen from its own bytes. -/
theorem beginsHeader_append_iff (data more : Bytes) (h : headerSize ≤ data.length) :
    BeginsHeader (data ++ more) ↔ BeginsHeader data := by
  have hlong : 8 ≤ data.length := h
  have hmagic : (data ++ more).take 2 = data.take 2 :=
    List.take_append_of_le_length (by omega)
  have hversion : unpackB (data ++ more) 2 = unpackB data 2 :=
    FrameStreamDecoder.unpackB_append data more 2 (by omega)
  have htype : unpackB (data ++ more) 3 = unpackB data 3 :=
    FrameStreamDecoder.unpackB_append data more 3 (by omega)
  have hlength : unpackH (data ++ more) 6 = unpackH data 6 :=
    FrameStreamDecoder.unpackH_append data more 6 hlong
  constructor
  · rintro ⟨-, h1, h2, h3, h4⟩
    exact ⟨h, hmagic ▸ h1, hversion ▸ h2, htype ▸ h3, hlength ▸ h4⟩
  · rintro ⟨-, h1, h2, h3, h4⟩
    refine ⟨?_, hmagic ▸ h1, hversion ▸ h2, htype ▸ h3, hlength ▸ h4⟩
    rw [List.length_append]
    omega

theorem BeginsHeader.declaredSize_le {data : Bytes} (h : BeginsHeader data) :
    declaredSize data ≤ headerSize+maxPayloadSize+crcSize := by
  have hle := h.length_le
  unfold declaredSize
  omega

theorem declaredSize_encode (f : Frame) : declaredSize f.encode = f.encode.length := by
  have hfields : f.HeaderOf f.encode := f.encode_eq ▸ f.header_fields _
  rw [declaredSize, hfields.length_eq, f.length_encode]

namespace Frame

/-- Bytes of the declared size are a frame, or their checksum does not fit. -/
theorem decode_declared {data : Bytes} (h : BeginsHeader data)
    (hlength : data.length = declaredSize data) :
    (∃ f : Frame, data = f.encode) ∨
      decode data = .error (.checksum "frame checksum mismatch") := by
  have hvalid := (FrameStreamDecoder.validateHeader_eq_none_iff _ _ _).mpr
    ⟨h.version_eq, h.known_type, h.length_le⟩
  obtain ⟨f, hf⟩ | hchecksum :=
    FrameStreamDecoder.decode_of_valid_header data h.magic_eq hvalid hlength
  · exact .inl ⟨f, (decode_eq_ok_iff data f).mp hf⟩
  · exact .inr hchecksum

/-- A change of the sequence, the payload or the checksum leaves the rest of the header. -/
theorem header_kept (f : Frame) {place : ℕ} (byte : UInt8)
    (h : place = 4 ∨ place = 5 ∨ headerSize ≤ place) :
    BeginsHeader (f.encode.set place byte) ∧
      declaredSize (f.encode.set place byte) = (f.encode.set place byte).length := by
  have hplace : 4 ≤ place ∧ place ≠ 6 ∧ place ≠ 7 := by
    unfold headerSize at h
    omega
  have hsame : ∀ index, index < 4 ∨ index = 6 ∨ index = 7 →
      byteAt (f.encode.set place byte) index = byteAt f.encode index := by
    intro index hindex
    unfold byteAt
    rw [List.getD_eq_getElem?_getD, List.getElem?_set_ne (by omega),
      ← List.getD_eq_getElem?_getD]
  have hmagic : (f.encode.set place byte).take 2 = f.encode.take 2 :=
    List.take_set_of_le (by omega)
  have hversion : unpackB (f.encode.set place byte) 2 = unpackB f.encode 2 := by
    rw [unpackB_eq_byteAt, unpackB_eq_byteAt, hsame 2 (by omega)]
  have htype : unpackB (f.encode.set place byte) 3 = unpackB f.encode 3 := by
    rw [unpackB_eq_byteAt, unpackB_eq_byteAt, hsame 3 (by omega)]
  have hlength : unpackH (f.encode.set place byte) 6 = unpackH f.encode 6 := by
    rw [unpackH_eq_byteAt, unpackH_eq_byteAt, hsame 6 (by omega), hsame 7 (by omega)]
  have hbegins := beginsHeader_encode f []
  rw [List.append_nil] at hbegins
  constructor
  · refine ⟨?_, hmagic ▸ hbegins.magic_eq, hversion ▸ hbegins.version_eq,
      htype ▸ hbegins.known_type, hlength ▸ hbegins.length_le⟩
    rw [List.length_set]
    exact hbegins.complete
  · rw [List.length_set, ← declaredSize_encode, declaredSize, hlength, declaredSize]

/-- No change of one byte turns an encoding into another frame's. -/
theorem set_ne_encode (f g : Frame) {place : ℕ} {byte : UInt8} (hplace : place < f.encode.length)
    (hbyte : byte ≠ byteAt f.encode place) : f.encode.set place byte ≠ g.encode := by
  have hxor : ∀ x : UInt8, x ^^^ (x ^^^ byte) = byte := by
    intro x
    rw [← UInt8.xor_assoc, UInt8.xor_self, UInt8.zero_xor]
  have herror : ∀ x : UInt8, byte ≠ x → x ^^^ byte ≠ 0 := by
    intro x hx hzero
    have hback := hxor x
    rw [hzero, UInt8.xor_zero] at hback
    exact hx hback.symm
  have hlong := f.two_le_length_encode
  intro h
  by_cases hlast : place+1 < f.encode.length
  · -- the changed byte and the one after it as a burst
    obtain ⟨before, x, y, after, hsplit, rfl⟩ := exists_split hlast
    have hx : byte ≠ x := by
      rwa [hsplit, byteAt_append] at hbyte
    have hcorrupt : corruptAt f.encode before.length (x ^^^ byte) 0 =
        f.encode.set before.length byte := by
      rw [hsplit, corruptAt_split, hxor, UInt8.xor_zero, List.set_append_right _ _ le_rfl,
        Nat.sub_self]
      rfl
    have hslips := slips_of_encode hlast (fun hzero => herror x hx hzero.1) (hcorrupt.trans h)
    exact absurd hslips.next_eq (by decide)
  · -- the changed byte is the last one, so the burst begins before it
    have hstart : f.encode.length-2+1 < f.encode.length := by omega
    obtain ⟨before, x, y, after, hsplit, hbefore⟩ := exists_split hstart
    have hafter : after = [] := by
      have hlength := congrArg List.length hsplit
      rw [List.length_append, List.length_cons, List.length_cons] at hlength
      exact List.length_eq_zero_iff.mp (by omega)
    subst hafter
    have hpair : before ++ [x, y] = (before ++ [x]) ++ [y] := by
      rw [List.append_assoc, List.singleton_append]
    have hat : place = (before ++ [x]).length := by
      rw [List.length_append, List.length_singleton]
      omega
    have hy : byte ≠ y := by
      rwa [hat, hsplit, hpair, byteAt_append] at hbyte
    have hcorrupt : corruptAt f.encode before.length 0 (y ^^^ byte) = f.encode.set place byte := by
      rw [hsplit, corruptAt_split, hxor, UInt8.xor_zero, hpair, hat,
        List.set_append_right _ _ le_rfl, Nat.sub_self, List.append_assoc]
      rfl
    have hslips := slips_of_encode (by omega) (fun hzero => herror y hy hzero.2)
      (hcorrupt.trans h)
    exact absurd hslips.error_eq (by decide)

end Frame

/-- Each header that begins in the corrupted bytes declares a frame that ends in them; inside
the frame that they still declare at their start no header is looked for. -/
def FramesEndWithin (corrupted following : Bytes) : Prop :=
  ∀ i < corrupted.length,
    (BeginsHeader (corrupted ++ following) →
      i = 0 ∨ declaredSize (corrupted ++ following) ≤ i) →
    BeginsHeader ((corrupted ++ following).drop i) →
      i+declaredSize ((corrupted ++ following).drop i) ≤ corrupted.length

namespace FrameStreamDecoder
open RoboticCharacter.Frame

/-- The outcome of the loop, with what came before it. -/
def Drained.after (issues : List StreamIssue) (frames : List Frame) (drained : Drained) : Drained :=
  ⟨drained.buffer, issues ++ drained.issues, frames ++ drained.frames⟩

theorem drain_of_pass_after {maxBufferBytes : ℕ} {buffer rest : Bytes}
    {issues : List StreamIssue}
    (h : pass maxBufferBytes buffer = (pass maxBufferBytes rest).after issues) :
    drain maxBufferBytes buffer = (drain maxBufferBytes rest).after issues [] := by
  cases hrest : pass maxBufferBytes rest with
  | stop left more =>
    rw [hrest] at h
    rw [drain_stop _ _ _ _ hrest, drain_stop _ _ _ _ h]
    rfl
  | next left more frames =>
    rw [hrest] at h
    rw [drain_next _ _ _ _ _ hrest, drain_next _ _ _ _ _ h]
    unfold Drained.after
    rw [List.append_assoc, List.nil_append]

/-- The pass over a frame that is there as its header declares it. -/
theorem pass_declared {maxBufferBytes : ℕ}
    (hmax : headerSize+maxPayloadSize+crcSize ≤ maxBufferBytes) {buffer : Bytes}
    (h : BeginsHeader buffer) (hsize : declaredSize buffer ≤ buffer.length) :
    (∃ f : Frame, buffer.take (declaredSize buffer) = f.encode ∧
      pass maxBufferBytes buffer = .next (buffer.drop (declaredSize buffer)) [] [f]) ∨
    pass maxBufferBytes buffer = .next (buffer.drop (declaredSize buffer))
      [⟨.checksumMismatch, "frame checksum mismatch", declaredSize buffer⟩] [] := by
  have hfits : declaredSize buffer ≤ maxBufferBytes := h.declaredSize_le.trans hmax
  have hheader : headerSize ≤ declaredSize buffer := by
    unfold declaredSize
    omega
  have hvalid := (validateHeader_eq_none_iff _ _ _).mpr ⟨h.version_eq, h.known_type, h.length_le⟩
  -- the candidate has the same header
  have hlength : (buffer.take (declaredSize buffer)).length = declaredSize buffer := by
    rw [List.length_take, min_eq_left hsize]
  have hcandidate : headerSize ≤ (buffer.take (declaredSize buffer)).length := by
    rw [hlength]
    exact hheader
  have hsplit := List.take_append_drop (declaredSize buffer) buffer
  have hbegins : BeginsHeader (buffer.take (declaredSize buffer)) := by
    rw [← beginsHeader_append_iff _ (buffer.drop (declaredSize buffer)) hcandidate, hsplit]
    exact h
  have hsame : declaredSize (buffer.take (declaredSize buffer)) = declaredSize buffer := by
    rw [← declaredSize_append _ (buffer.drop (declaredSize buffer)) hcandidate, hsplit]
  have hroom : ¬ headerSize+unpackH buffer 6+crcSize > maxBufferBytes := not_lt.mpr hfits
  have hthere : ¬ buffer.length < headerSize+unpackH buffer 6+crcSize := not_lt.mpr hsize
  rw [pass_of_magic _ _ h.magic_eq, passFrame, if_neg (not_lt.mpr h.complete)]
  dsimp only
  rw [hvalid]
  dsimp only
  rw [if_neg hroom, if_neg hthere]
  obtain ⟨f, hf⟩ | hchecksum := decode_declared hbegins (hlength.trans hsame.symm)
  · left
    refine ⟨f, hf, ?_⟩
    have hdecode : Frame.decode (buffer.take (headerSize+unpackH buffer 6+crcSize)) = .ok f :=
      (decode_eq_ok_iff _ f).mpr hf
    rw [hdecode]
    rfl
  · right
    unfold declaredSize at hchecksum
    rw [hchecksum]
    rfl

/-- A frame that is not all there as its header declares it is waited for. -/
theorem drain_waits {maxBufferBytes : ℕ}
    (hmax : headerSize+maxPayloadSize+crcSize ≤ maxBufferBytes) {buffer : Bytes}
    (h : BeginsHeader buffer) (hsize : buffer.length < declaredSize buffer) :
    drain maxBufferBytes buffer = ⟨buffer, [], []⟩ := by
  have hfits : declaredSize buffer ≤ maxBufferBytes := h.declaredSize_le.trans hmax
  have hvalid := (validateHeader_eq_none_iff _ _ _).mpr ⟨h.version_eq, h.known_type, h.length_le⟩
  have hroom : ¬ headerSize+unpackH buffer 6+crcSize > maxBufferBytes := not_lt.mpr hfits
  have hmissing : buffer.length < headerSize+unpackH buffer 6+crcSize := hsize
  apply drain_stop
  rw [pass_of_magic _ _ h.magic_eq, passFrame, if_neg (not_lt.mpr h.complete)]
  dsimp only
  rw [hvalid]
  dsimp only
  rw [if_neg hroom, if_pos hmissing]

/-- Bytes before the next magic are dropped, with an issue. -/
theorem pass_skip (maxBufferBytes : ℕ) {buffer : Bytes} (hno : buffer.take 2 ≠ magic) {place : ℕ}
    (hmagic : (buffer.drop place).take 2 = magic) :
    ∃ index, 0 < index ∧ index ≤ place ∧ pass maxBufferBytes buffer =
      (pass maxBufferBytes (buffer.drop index)).after [desync index] := by
  cases hfind : findMagic buffer with
  | none => exact absurd hmagic (findMagic_none buffer hfind place)
  | some index =>
    obtain ⟨hfound, hbefore⟩ := findMagic_some buffer index hfind
    have hfits := findMagic_fits buffer index hfind
    have hlong : ¬ buffer.length < magic.length := by
      change ¬ buffer.length < 2
      omega
    refine ⟨index, ?_, ?_, ?_⟩
    · rw [Nat.pos_iff_ne_zero]
      rintro rfl
      exact hno hfound
    · by_contra hlater
      exact hbefore place (not_le.mp hlater) hmagic
    · rw [pass_of_magic _ _ hfound, pass, if_neg hlong, if_neg hno, hfind]
      exact passFrame_after maxBufferBytes (buffer.drop index) [desync index]

/-- What the loop makes of the first of some junk bytes before a frame. -/
structure Advance (maxBufferBytes : ℕ) (junk rest : Bytes) (count : ℕ) (issues : List StreamIssue)
    (frames : List Frame) : Prop where
  count_pos : 0 < count
  count_le : count ≤ junk.length
  declared : BeginsHeader (junk ++ rest) → count = declaredSize (junk ++ rest)
  drain_eq : drain maxBufferBytes (junk ++ rest) =
    (drain maxBufferBytes (junk.drop count ++ rest)).after issues frames
  delivered : ∀ f ∈ frames, f.encode = junk.take count
  silent : issues = [] → junk.take count = frames.flatMap Frame.encode
  noticed : ¬ BeginsHeader (junk ++ rest) → issues ≠ []

theorem exists_advance {maxBufferBytes : ℕ}
    (hmax : headerSize+maxPayloadSize+crcSize ≤ maxBufferBytes) {junk rest : Bytes}
    (hjunk : junk ≠ []) (hrest : BeginsHeader rest)
    (hends : BeginsHeader (junk ++ rest) → declaredSize (junk ++ rest) ≤ junk.length) :
    ∃ count issues frames, Advance maxBufferBytes junk rest count issues frames := by
  have hpos := List.length_pos_iff.mpr hjunk
  have hlength : (junk ++ rest).length = junk.length+rest.length := List.length_append
  by_cases hbegins : BeginsHeader (junk ++ rest)
  · -- the declared frame is taken whole
    have hsize := hends hbegins
    have hcount : 0 < declaredSize (junk ++ rest) := by
      unfold declaredSize headerSize
      omega
    have hdrop : (junk ++ rest).drop (declaredSize (junk ++ rest)) =
        junk.drop (declaredSize (junk ++ rest)) ++ rest := List.drop_append_of_le_length hsize
    have htake : (junk ++ rest).take (declaredSize (junk ++ rest)) =
        junk.take (declaredSize (junk ++ rest)) := List.take_append_of_le_length hsize
    obtain ⟨f, hf, hpass⟩ | hpass := pass_declared hmax hbegins (by omega)
    · rw [hdrop] at hpass
      refine ⟨_, _, _, hcount, hsize, fun _ => rfl, drain_next _ _ _ _ _ hpass, ?_, ?_,
        fun hno => absurd hbegins hno⟩
      · intro g hg
        rw [List.mem_singleton.mp hg, ← htake, hf]
      · intro _
        rw [List.flatMap_singleton, ← htake, hf]
    · rw [hdrop] at hpass
      exact ⟨_, _, _, hcount, hsize, fun _ => rfl, drain_next _ _ _ _ _ hpass,
        fun g hg => absurd hg List.not_mem_nil, fun hnone => absurd hnone (List.cons_ne_nil _ _),
        fun _ => List.cons_ne_nil _ _⟩
  · by_cases hmagic : (junk ++ rest).take 2 = magic
    · -- a magic without a valid header: one byte is dropped
      have hlong := hrest.complete
      obtain ⟨headerError, hpass⟩ := pass_invalid maxBufferBytes hmagic (by omega) hbegins
      rw [List.drop_append_of_le_length hpos] at hpass
      exact ⟨1, _, _, Nat.one_pos, hpos, fun h => absurd h hbegins, drain_next _ _ _ _ _ hpass,
        fun g hg => absurd hg List.not_mem_nil, fun hnone => absurd hnone (List.cons_ne_nil _ _),
        fun _ => List.cons_ne_nil _ _⟩
    · -- no magic: everything before the next one is dropped, at most up to the frame
      have hnext : ((junk ++ rest).drop junk.length).take 2 = magic := by
        rw [List.drop_left]
        exact hrest.magic_eq
      obtain ⟨index, hindex, hle, hpass⟩ := pass_skip maxBufferBytes hmagic hnext
      rw [List.drop_append_of_le_length hle] at hpass
      exact ⟨index, _, _, hindex, hle, fun h => absurd h hbegins, drain_of_pass_after hpass,
        fun g hg => absurd hg List.not_mem_nil, fun hnone => absurd hnone (List.cons_ne_nil _ _),
        fun _ => List.cons_ne_nil _ _⟩

theorem framesEndWithin_advance {maxBufferBytes : ℕ} {junk rest : Bytes} {count : ℕ}
    {issues : List StreamIssue} {frames : List Frame} (h : FramesEndWithin junk rest)
    (hadvance : Advance maxBufferBytes junk rest count issues frames) :
    FramesEndWithin (junk.drop count) rest := by
  intro i hi _ hbegins
  rw [List.length_drop] at hi ⊢
  have hdrop : (junk.drop count ++ rest).drop i = (junk ++ rest).drop (count+i) := by
    rw [← List.drop_append_of_le_length hadvance.count_le, List.drop_drop]
  rw [hdrop] at hbegins ⊢
  have hscanned : BeginsHeader (junk ++ rest) →
      count+i = 0 ∨ declaredSize (junk ++ rest) ≤ count+i := by
    intro hdeclared
    rw [← hadvance.declared hdeclared]
    exact .inr (Nat.le_add_right count i)
  have hends := h (count+i) (by omega) hscanned hbegins
  omega

theorem Drained.after_after (drained : Drained) (issues more : List StreamIssue)
    (frames found : List Frame) :
    (drained.after more found).after issues frames =
      drained.after (issues ++ more) (frames ++ found) := by
  unfold Drained.after
  rw [List.append_assoc, List.append_assoc]

/-- The loop gets past junk whose frames end in it. What it delivers on the way lies in the
junk, and it reports nothing only of junk that is a row of frames. -/
theorem drain_within {maxBufferBytes : ℕ}
    (hmax : headerSize+maxPayloadSize+crcSize ≤ maxBufferBytes) {rest : Bytes}
    (hrest : BeginsHeader rest) (junk : Bytes) (h : FramesEndWithin junk rest) :
    ∃ issues found,
      drain maxBufferBytes (junk ++ rest) = (drain maxBufferBytes rest).after issues found ∧
        (∀ f ∈ found, f.encode <:+: junk) ∧ (issues = [] → junk = found.flatMap Frame.encode) := by
  generalize hn : junk.length = n
  induction n using Nat.strong_induction_on generalizing junk with
  | _ n ih =>
    by_cases hjunk : junk = []
    · subst hjunk
      exact ⟨[], [], rfl, fun f hf => absurd hf List.not_mem_nil, fun _ => rfl⟩
    · -- one pass brings the loop nearer to the frame, and the rest is by induction on the length
      have hends := h 0 (List.length_pos_iff.mpr hjunk) (fun _ => .inl rfl)
      rw [Nat.zero_add, List.drop_zero] at hends
      obtain ⟨count, issues, frames, hadvance⟩ := exists_advance hmax hjunk hrest hends
      have hcount := hadvance.count_pos
      have hle := hadvance.count_le
      obtain ⟨more, found, hdrain, hfound, hsilent⟩ := ih (junk.drop count).length
        (by rw [List.length_drop]; omega) (junk.drop count) (framesEndWithin_advance h hadvance) rfl
      refine ⟨issues ++ more, frames ++ found, ?_, ?_, ?_⟩
      · rw [hadvance.drain_eq, hdrain, Drained.after_after]
      · intro f hf
        obtain hnow | hlater := List.mem_append.mp hf
        · rw [hadvance.delivered f hnow]
          exact (List.take_prefix count junk).isInfix
        · exact (hfound f hlater).trans (List.drop_suffix count junk).isInfix
      · intro hnone
        obtain ⟨hissues, hmore⟩ := List.append_eq_nil_iff.mp hnone
        rw [List.flatMap_append, ← hadvance.silent hissues, ← hsilent hmore,
          List.take_append_drop]

theorem drain_nil (maxBufferBytes : ℕ) : drain maxBufferBytes [] = ⟨[], [], []⟩ :=
  drain_stop _ _ _ _ rfl

theorem drain_encode {maxBufferBytes : ℕ} (f : Frame) (hfits : f.encode.length ≤ maxBufferBytes) :
    drain maxBufferBytes f.encode = ⟨[], [], [f]⟩ := by
  have hpass := pass_encode maxBufferBytes f [] hfits
  rw [List.append_nil] at hpass
  rw [drain_next _ _ _ _ _ hpass, drain_nil]
  rfl

/-- Fed to a fresh default decoder, bytes within its limit are drained at once. -/
theorem feed_initial {data : Bytes} (hfits : data.length ≤ defaultMaxBufferBytes) :
    (initial.feed data).2 =
      ⟨(drain defaultMaxBufferBytes data).frames, (drain defaultMaxBufferBytes data).issues,
        (drain defaultMaxBufferBytes data).buffer.length⟩ := by
  have hroom : ¬ initial.buffer.length+data.length > initial.maxBufferBytes :=
    not_lt.mpr ((Nat.zero_add _).trans_le hfits)
  unfold feed
  rw [if_neg hroom]
  rfl

/-- What the decoder makes of an encoded frame with one byte changed and of the frame sent
after it. -/
structure CostsOneFrame (sent following : Frame) (corrupted : Bytes) (batch : DecodeBatch) :
    Prop where
  kept_length : BeginsHeader corrupted → declaredSize corrupted = corrupted.length →
    batch.frames = [following] ∧
      batch.issues = [⟨.checksumMismatch, "frame checksum mismatch", corrupted.length⟩]
  noticed : ¬ BeginsHeader corrupted → batch.issues ≠ []
  resynchronized : FramesEndWithin corrupted following.encode →
    ∃ found, batch.frames = found ++ [following] ∧ sent ∉ found ∧
      (∀ f ∈ found, f.encode <:+: corrupted) ∧
      (batch.issues = [] → 2 ≤ found.length ∧ corrupted = found.flatMap Frame.encode)

theorem corrupted_frame_costs_one_frame (sent following : Frame) (place : ℕ) (byte : UInt8)
    (hplace : place < sent.encode.length) (hbyte : byte ≠ byteAt sent.encode place)
    (hfits : sent.encode.length+following.encode.length ≤ defaultMaxBufferBytes) :
    CostsOneFrame sent following (sent.encode.set place byte)
      (initial.feed (sent.encode.set place byte ++ following.encode)).2 ∧
      (place = 4 ∨ place = 5 ∨ headerSize ≤ place →
        BeginsHeader (sent.encode.set place byte) ∧
          declaredSize (sent.encode.set place byte) = (sent.encode.set place byte).length) := by
  refine ⟨?_, sent.header_kept byte⟩
  have hmax : headerSize+maxPayloadSize+crcSize ≤ defaultMaxBufferBytes := by decide
  have hlength : (sent.encode.set place byte).length = sent.encode.length := List.length_set
  have hne : ∀ f : Frame, sent.encode.set place byte ≠ f.encode :=
    fun f => sent.set_ne_encode f hplace hbyte
  generalize sent.encode.set place byte = corrupted at hlength hne
  have hlong : headerSize ≤ corrupted.length := by
    rw [hlength, sent.length_encode]
    omega
  have hnonempty : corrupted ≠ [] := by
    rintro rfl
    exact absurd hlong (by decide)
  have hrest : BeginsHeader following.encode := by
    have h := beginsHeader_encode following []
    rwa [List.append_nil] at h
  have hfollowing : drain defaultMaxBufferBytes following.encode = ⟨[], [], [following]⟩ :=
    drain_encode following (by omega)
  rw [feed_initial (by rwa [List.length_append, hlength])]
  refine ⟨?_, ?_, ?_⟩
  · -- the bytes are no frame, so the candidate of the same size is dropped whole
    intro hbegins hdeclared
    have hsame := declaredSize_append corrupted following.encode hlong
    have hwhole := (beginsHeader_append_iff corrupted following.encode hlong).mpr hbegins
    rw [hdeclared] at hsame
    have hsize : declaredSize (corrupted ++ following.encode) ≤
        (corrupted ++ following.encode).length := by
      rw [hsame, List.length_append]
      exact Nat.le_add_right _ _
    obtain ⟨f, hf, -⟩ | hpass := pass_declared hmax hwhole hsize
    · rw [hsame, List.take_left] at hf
      exact absurd hf (hne f)
    · rw [hsame, List.drop_left] at hpass
      rw [drain_next _ _ _ _ _ hpass, hfollowing]
      exact ⟨rfl, rfl⟩
  · intro hbegins
    have hno : ¬ BeginsHeader (corrupted ++ following.encode) := by
      rwa [beginsHeader_append_iff corrupted following.encode hlong]
    obtain ⟨count, issues, frames, hadvance⟩ :=
      exists_advance hmax hnonempty hrest (fun h => absurd h hno)
    rw [hadvance.drain_eq]
    exact fun hnone => hadvance.noticed hno (List.append_eq_nil_iff.mp hnone).1
  · intro hwithin
    obtain ⟨issues, found, hdrain, hfound, hsilent⟩ := drain_within hmax hrest corrupted hwithin
    rw [hdrain, hfollowing]
    refine ⟨found, rfl, ?_, hfound, ?_⟩
    · -- an encoding of this length inside the corrupted bytes is all of them
      intro hsent
      exact hne sent ((hfound sent hsent).eq_of_length hlength.symm).symm
    · intro hnone
      have hissues : issues = [] := (List.append_eq_nil_iff.mp hnone).1
      have hrow := hsilent hissues
      refine ⟨?_, hrow⟩
      match found, hrow with
      | [], hrow => exact absurd hrow hnonempty
      | [f], hrow => exact absurd (hrow.trans (List.flatMap_singleton _ f)) (hne f)
      | _ :: _ :: _, _ => exact Nat.le_add_left 2 _

/-- A frame to send after the frame of one payload byte. -/
def emptyFrame : Frame := ⟨.heartbeat, 8, [], by decide, by decide⟩

theorem corrupted_frame_costs_one_frame_payload :
    (initial.feed (oneByteFrame.encode.set 8 1 ++ emptyFrame.encode)).2.frames = [emptyFrame] := by
  obtain ⟨hcosts, hkept⟩ := corrupted_frame_costs_one_frame oneByteFrame emptyFrame 8 1
    (by decide) (by decide) (by decide)
  obtain ⟨hbegins, hlength⟩ := hkept (.inr (.inr le_rfl))
  exact (hcosts.kept_length hbegins hlength).1

/-- A raised length has the decoder wait: it delivers neither frame and reports nothing. -/
theorem corrupted_length_swallows_frame : ¬ ∀ (sent following : Frame) (place : ℕ) (byte : UInt8),
    place < sent.encode.length → byte ≠ byteAt sent.encode place →
    sent.encode.length+following.encode.length ≤ defaultMaxBufferBytes →
    following ∈ (initial.feed (sent.encode.set place byte ++ following.encode)).2.frames ∧
      (initial.feed (sent.encode.set place byte ++ following.encode)).2.issues ≠ [] ∧
      sent ∉ (initial.feed (sent.encode.set place byte ++ following.encode)).2.frames := by
  intro h
  have hnoticed := (h oneByteFrame emptyFrame 6 200 (by decide) (by decide)
    (by decide)).2.1
  have hbegins : BeginsHeader (oneByteFrame.encode.set 6 200 ++ emptyFrame.encode) :=
    ⟨by decide, by decide, by decide, by decide,
      by decide⟩
  rw [feed_initial (by decide), drain_waits (by decide) hbegins (by decide)]
    at hnoticed
  exact hnoticed rfl

end FrameStreamDecoder

end RoboticCharacter
