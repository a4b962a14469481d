import RoboticCharacter.ProtocolCleanStream

/-! The stream decoder as a resumable parser: the frames it delivers depend on the bytes,
not on how they were cut, and every byte fed is delivered, reported or still buffered. -/
namespace RoboticCharacter.FrameStreamDecoder
open Host RoboticCharacter.Frame

theorem findMagic_some (buffer : Bytes) (index : ℕ) (h : findMagic buffer = some index) :
    (buffer.drop index).take 2 = magic ∧ ∀ i < index, (buffer.drop i).take 2 ≠ magic := by
  induction buffer generalizing index with
  | nil => simp [findMagic] at h
  | cons a rest ih =>
    cases rest with
    | nil => simp [findMagic] at h
    | cons b rest =>
      rw [findMagic] at h
      split_ifs at h with hmagic
      · rw [← Option.some.inj h]
        exact ⟨hmagic, fun i hi => absurd hi (Nat.not_lt_zero i)⟩
      · obtain ⟨j, hj, rfl⟩ := Option.map_eq_some_iff.mp h
        obtain ⟨hfound, hbefore⟩ := ih j hj
        refine ⟨hfound, ?_⟩
        intro i hi
        cases i with
        | zero => exact hmagic
        | succ i => exact hbefore i (by omega)

theorem two_le_of_magic (data : Bytes) (h : data.take 2 = magic) : 2 ≤ data.length := by
  have hlen := congrArg List.length h
  rw [List.length_take] at hlen
  change min 2 data.length = 2 at hlen
  omega

theorem findMagic_fits (buffer : Bytes) (index : ℕ) (h : findMagic buffer = some index) :
    index+2 ≤ buffer.length := by
  have hlen := two_le_of_magic _ (findMagic_some buffer index h).1
  rw [List.length_drop] at hlen
  omega

theorem findMagic_none (buffer : Bytes) (h : findMagic buffer = none) (i : ℕ) :
    (buffer.drop i).take 2 ≠ magic := by
  induction buffer generalizing i with
  | nil => simp [magic]
  | cons a rest ih =>
    cases rest with
    | nil => cases i <;> simp [magic]
    | cons b rest =>
      rw [findMagic] at h
      split_ifs at h with hmagic
      cases i with
      | zero => exact hmagic
      | succ i => exact ih (Option.map_eq_none_iff.mp h) i

/-- The same pass with issues reported before it. -/
def Pass.after (issues : List StreamIssue) : Pass → Pass
  | stop buffer more => stop buffer (issues ++ more)
  | next buffer more frames => next buffer (issues ++ more) frames

theorem passFrame_after (maxBufferBytes : ℕ) (buffer : Bytes) (issues : List StreamIssue) :
    passFrame maxBufferBytes buffer issues = (passFrame maxBufferBytes buffer []).after issues := by
  unfold passFrame
  by_cases hshort : buffer.length < headerSize
  · rw [if_pos hshort, if_pos hshort, Pass.after, List.append_nil]
  · rw [if_neg hshort, if_neg hshort]
    dsimp only
    cases validateHeader (unpackB buffer 2) (unpackB buffer 3) (unpackH buffer 6) with
    | some headerError => rfl
    | none =>
      dsimp only
      split_ifs
      · rfl
      · rw [Pass.after, List.append_nil]
      · cases Frame.decode (buffer.take (headerSize+unpackH buffer 6+crcSize)) with
        | ok frame => simp only [Pass.after, List.append_nil]
        | error e => cases e <;> rfl

/-- The frames the loop finds in a buffer. -/
def framesOf (maxBufferBytes : ℕ) (buffer : Bytes) : List Frame :=
  (drain maxBufferBytes buffer).frames

/-- What is found after a pass, whatever it reported. -/
def Pass.framesOf (maxBufferBytes : ℕ) : Pass → List Frame
  | stop _ _ => []
  | next buffer _ frames => frames ++ FrameStreamDecoder.framesOf maxBufferBytes buffer

theorem framesOf_eq_pass (maxBufferBytes : ℕ) (buffer : Bytes) :
    framesOf maxBufferBytes buffer = (pass maxBufferBytes buffer).framesOf maxBufferBytes := by
  cases h : pass maxBufferBytes buffer with
  | stop rest issues => rw [framesOf, drain_stop _ _ _ _ h, Pass.framesOf]
  | next rest issues frames => rw [framesOf, drain_next _ _ _ _ _ h, Pass.framesOf, framesOf]

@[simp]
theorem Pass.framesOf_after (maxBufferBytes : ℕ) (issues : List StreamIssue) (p : Pass) :
    (p.after issues).framesOf maxBufferBytes = p.framesOf maxBufferBytes := by
  cases p <;> rfl

theorem pass_of_magic (maxBufferBytes : ℕ) (buffer : Bytes) (hmagic : buffer.take 2 = magic) :
    pass maxBufferBytes buffer = passFrame maxBufferBytes buffer [] := by
  have hlong : ¬ buffer.length < magic.length := not_lt.mpr (two_le_of_magic buffer hmagic)
  unfold pass
  rw [if_neg hlong, if_pos hmagic]

theorem framesOf_no_magic (maxBufferBytes : ℕ) (buffer : Bytes) (h : findMagic buffer = none) :
    framesOf maxBufferBytes buffer = [] := by
  have hno := findMagic_none buffer h 0
  rw [List.drop_zero] at hno
  rw [framesOf_eq_pass, pass, if_neg hno, h]
  dsimp only
  split_ifs <;> rfl

/-- A byte at which the magic does not begin is passed over. -/
theorem framesOf_skip (maxBufferBytes : ℕ) (a : UInt8) (data : Bytes)
    (h : (a :: data).take 2 ≠ magic) :
    framesOf maxBufferBytes (a :: data) = framesOf maxBufferBytes data := by
  cases data with
  | nil => rw [framesOf_no_magic _ [a] rfl, framesOf_no_magic _ [] rfl]
  | cons b rest =>
    have hpair : [a, b] ≠ magic := h
    have hfind : findMagic (a :: b :: rest) = (findMagic (b :: rest)).map (· + 1) := by
      rw [findMagic, if_neg hpair]
    cases hnext : findMagic (b :: rest) with
    | none =>
      rw [hnext, Option.map_none] at hfind
      rw [framesOf_no_magic _ _ hfind, framesOf_no_magic _ _ hnext]
    | some index =>
      rw [hnext, Option.map_some] at hfind
      obtain ⟨hmagic, hbefore⟩ := findMagic_some (b :: rest) index hnext
      have hfits := findMagic_fits (b :: rest) index hnext
      have hlong : ¬ (a :: b :: rest).length < magic.length := by
        change ¬ rest.length+1+1 < 2
        omega
      -- both passes look at the same frame, after different bytes
      calc framesOf maxBufferBytes (a :: b :: rest)
        _ = (passFrame maxBufferBytes ((b :: rest).drop index) []).framesOf maxBufferBytes := by
          rw [framesOf_eq_pass, pass, if_neg hlong, if_neg h, hfind]
          dsimp only
          rw [passFrame_after, Pass.framesOf_after, List.drop_succ_cons]
        _ = (pass maxBufferBytes (b :: rest)).framesOf maxBufferBytes := by
          cases index with
          | zero =>
            rw [List.drop_zero] at hmagic ⊢
            rw [pass_of_magic _ _ hmagic]
          | succ index =>
            have hhead := hbefore 0 (Nat.succ_pos index)
            rw [List.drop_zero] at hhead
            rw [pass, if_neg (by change ¬ (b :: rest).length < 2; omega), if_neg hhead, hnext]
            dsimp only
            rw [passFrame_after _ _ [desync (index+1)], Pass.framesOf_after]
        _ = framesOf maxBufferBytes (b :: rest) := (framesOf_eq_pass _ _).symm

theorem framesOf_skip_junk (maxBufferBytes : ℕ) (junk rest : Bytes)
    (h : ∀ i < junk.length, ((junk ++ rest).drop i).take 2 ≠ magic) :
    framesOf maxBufferBytes (junk ++ rest) = framesOf maxBufferBytes rest := by
  induction junk with
  | nil => rfl
  | cons a junk ih =>
    rw [List.cons_append, framesOf_skip maxBufferBytes a (junk ++ rest) (h 0 (Nat.succ_pos _))]
    apply ih
    intro i hi
    exact h (i+1) (Nat.succ_lt_succ hi)

theorem unpackB_append (data more : Bytes) (offset : ℕ) (h : offset+1 ≤ data.length) :
    unpackB (data ++ more) offset = unpackB data offset := by
  rw [unpackB, unpackB, List.drop_append_of_le_length (by omega),
    List.take_append_of_le_length (by rw [List.length_drop]; omega)]

theorem unpackH_append (data more : Bytes) (offset : ℕ) (h : offset+2 ≤ data.length) :
    unpackH (data ++ more) offset = unpackH data offset := by
  rw [unpackH, unpackH, List.drop_append_of_le_length (by omega),
    List.take_append_of_le_length (by rw [List.length_drop]; omega)]

/-- A pass that goes on had seen all it needed. -/
theorem passFrame_append (maxBufferBytes : ℕ) (buffer more rest : Bytes)
    (issues issues' : List StreamIssue) (frames : List Frame)
    (h : passFrame maxBufferBytes buffer issues = .next rest issues' frames) :
    passFrame maxBufferBytes (buffer ++ more) issues = .next (rest ++ more) issues' frames := by
  unfold passFrame at h ⊢
  by_cases hshort : buffer.length < headerSize
  · rw [if_pos hshort] at h
    cases h
  rw [if_neg hshort] at h
  have hlong : 8 ≤ buffer.length := not_lt.mp hshort
  rw [if_neg (by rw [List.length_append]; unfold headerSize; omega),
    unpackB_append _ _ 2 (by omega), unpackB_append _ _ 3 (by omega),
    unpackH_append _ _ 6 (by omega)]
  dsimp only at h ⊢
  have hdrop : (buffer ++ more).drop 1 = buffer.drop 1 ++ more :=
    List.drop_append_of_le_length (by omega)
  cases hvalid : validateHeader (unpackB buffer 2) (unpackB buffer 3) (unpackH buffer 6) with
  | some headerError =>
    simp only [hvalid] at h ⊢
    cases h
    rw [hdrop]
  | none =>
    simp only [hvalid] at h ⊢
    by_cases hbig : headerSize+unpackH buffer 6+crcSize > maxBufferBytes
    · rw [if_pos hbig] at h ⊢
      cases h
      rw [hdrop]
    rw [if_neg hbig] at h ⊢
    by_cases hwait : buffer.length < headerSize+unpackH buffer 6+crcSize
    · rw [if_pos hwait] at h
      cases h
    rw [if_neg hwait] at h
    rw [if_neg (by rw [List.length_append]; omega),
      List.take_append_of_le_length (by omega), List.drop_append_of_le_length (by omega)]
    -- the candidate lies in the first part, so it is decoded as before
    cases hdecode : Frame.decode (buffer.take (headerSize+unpackH buffer 6+crcSize)) with
    | ok frame =>
      simp only [hdecode] at h ⊢
      cases h
      rfl
    | error e =>
      cases e with
      | checksum message =>
        simp only [hdecode] at h ⊢
        cases h
        rfl
      | protocol message =>
        simp only [hdecode] at h ⊢
        cases h
        rw [hdrop]

theorem findMagic_append (buffer more : Bytes) (index : ℕ) (h : findMagic buffer = some index) :
    findMagic (buffer ++ more) = some index := by
  induction buffer generalizing index with
  | nil => simp [findMagic] at h
  | cons a rest ih =>
    cases rest with
    | nil => simp [findMagic] at h
    | cons b rest =>
      rw [List.cons_append, List.cons_append]
      rw [findMagic] at h ⊢
      split_ifs at h ⊢ with hmagic
      · exact h
      · obtain ⟨j, hj, heq⟩ := Option.map_eq_some_iff.mp h
        have htail := ih j hj
        rw [List.cons_append] at htail
        rw [htail, Option.map_some, heq]

theorem pass_append (maxBufferBytes : ℕ) (buffer more rest : Bytes) (issues : List StreamIssue)
    (frames : List Frame) (h : pass maxBufferBytes buffer = .next rest issues frames) :
    pass maxBufferBytes (buffer ++ more) = .next (rest ++ more) issues frames := by
  unfold pass at h
  by_cases hshort : buffer.length < magic.length
  · rw [if_pos hshort] at h
    cases h
  rw [if_neg hshort] at h
  have hlong : 2 ≤ buffer.length := not_lt.mp hshort
  have htake : (buffer ++ more).take 2 = buffer.take 2 := List.take_append_of_le_length hlong
  by_cases hmagic : buffer.take 2 = magic
  · rw [if_pos hmagic] at h
    rw [pass_of_magic _ _ (htake.trans hmagic)]
    exact passFrame_append _ _ _ _ _ _ _ h
  · rw [if_neg hmagic] at h
    cases hfind : findMagic buffer with
    | none =>
      simp only [hfind] at h
      split_ifs at h
    | some index =>
      simp only [hfind] at h
      have hfits := findMagic_fits buffer index hfind
      have hindex : index ≤ buffer.length := by omega
      have hrest := passFrame_append maxBufferBytes _ more rest _ issues frames h
      unfold pass
      rw [if_neg (by rw [List.length_append]; change ¬ _ < 2; omega), htake, if_neg hmagic,
        findMagic_append _ more _ hfind]
      dsimp only
      rw [List.drop_append_of_le_length hindex]
      exact hrest

theorem passFrame_stop (maxBufferBytes : ℕ) (buffer rest : Bytes)
    (issues issues' : List StreamIssue)
    (h : passFrame maxBufferBytes buffer issues = .stop rest issues') : rest = buffer := by
  unfold passFrame at h
  by_cases hshort : buffer.length < headerSize
  · rw [if_pos hshort] at h
    cases h
    rfl
  rw [if_neg hshort] at h
  dsimp only at h
  cases hvalid : validateHeader (unpackB buffer 2) (unpackB buffer 3) (unpackH buffer 6) with
  | some headerError =>
    simp only [hvalid] at h
    cases h
  | none =>
    simp only [hvalid] at h
    by_cases hbig : headerSize+unpackH buffer 6+crcSize > maxBufferBytes
    · rw [if_pos hbig] at h
      cases h
    rw [if_neg hbig] at h
    by_cases hwait : buffer.length < headerSize+unpackH buffer 6+crcSize
    · rw [if_pos hwait] at h
      cases h
      rfl
    rw [if_neg hwait] at h
    split at h <;> cases h

/-- A pass that breaks off keeps all but bytes at which no frame begins. -/
theorem pass_stop_keeps (maxBufferBytes : ℕ) (buffer rest : Bytes) (issues : List StreamIssue)
    (h : pass maxBufferBytes buffer = .stop rest issues) (more : Bytes) :
    framesOf maxBufferBytes (buffer ++ more) = framesOf maxBufferBytes (rest ++ more) := by
  -- dropping `count` bytes is safe when no magic begins in them
  have hdrop : ∀ count ≤ buffer.length,
      (∀ i < count, ((buffer ++ more).drop i).take 2 ≠ magic) →
      framesOf maxBufferBytes (buffer ++ more) =
        framesOf maxBufferBytes (buffer.drop count ++ more) := by
    intro count hcount hno
    have hsplit : buffer ++ more = buffer.take count ++ (buffer.drop count ++ more) := by
      rw [← List.append_assoc, List.take_append_drop]
    rw [hsplit]
    apply framesOf_skip_junk
    intro i hi
    rw [List.length_take] at hi
    rw [← hsplit]
    exact hno i (by omega)
  have hinside : ∀ i, i+2 ≤ buffer.length →
      ((buffer ++ more).drop i).take 2 = (buffer.drop i).take 2 := by
    intro i hi
    rw [List.drop_append_of_le_length (by omega),
      List.take_append_of_le_length (by rw [List.length_drop]; omega)]
  unfold pass at h
  by_cases hshort : buffer.length < magic.length
  · rw [if_pos hshort] at h
    cases h
    rfl
  rw [if_neg hshort] at h
  have hlong : 2 ≤ buffer.length := not_lt.mp hshort
  by_cases hmagic : buffer.take 2 = magic
  · rw [if_pos hmagic] at h
    rw [passFrame_stop _ _ _ _ _ h]
  rw [if_neg hmagic] at h
  cases hfind : findMagic buffer with
  | some index =>
    simp only [hfind] at h
    obtain ⟨hfound, hbefore⟩ := findMagic_some buffer index hfind
    have hindex := findMagic_fits buffer index hfind
    rw [passFrame_stop _ _ _ _ _ h]
    apply hdrop index (by omega)
    intro i hi
    rw [hinside i (by omega)]
    exact hbefore i hi
  | none =>
    simp only [hfind] at h
    have hno := findMagic_none buffer hfind
    by_cases hlast : buffer.getLast? = some kMagic0
    · -- the last byte may begin the magic, so only the bytes before it go
      simp only [if_pos hlast] at h
      rw [if_neg (by omega)] at h
      cases h
      apply hdrop _ (by omega)
      intro i hi
      rw [hinside i (by omega)]
      exact hno i
    · simp only [if_neg hlast, Nat.sub_zero] at h
      rw [if_neg (by omega)] at h
      cases h
      apply hdrop _ le_rfl
      intro i hi
      by_cases hi2 : i+2 ≤ buffer.length
      · rw [hinside i hi2]
        exact hno i
      · -- the last byte of the buffer is not the first of the magic
        intro heq
        apply hlast
        have hhead := congrArg List.head? heq
        rw [List.drop_append_of_le_length (by omega)] at hhead
        have hend : i = buffer.length-1 := by omega
        rw [List.getLast?_eq_getElem?, ← hend, ← List.head?_drop]
        cases hd : buffer.drop i with
        | nil =>
          have hzero := congrArg List.length hd
          rw [List.length_drop, List.length_nil] at hzero
          omega
        | cons c tail =>
          rw [hd] at hhead
          simpa [magic] using hhead

/-- Draining a first part and then the rest finds what draining the whole finds. -/
theorem framesOf_append (maxBufferBytes : ℕ) (buffer more : Bytes) :
    framesOf maxBufferBytes (buffer ++ more) = framesOf maxBufferBytes buffer ++
      framesOf maxBufferBytes ((drain maxBufferBytes buffer).buffer ++ more) := by
  generalize hn : buffer.length = n
  induction n using Nat.strong_induction_on generalizing buffer with
  | _ n ih =>
    cases h : pass maxBufferBytes buffer with
    | stop rest issues =>
      rw [pass_stop_keeps maxBufferBytes buffer rest issues h more, framesOf_eq_pass _ buffer, h,
        drain_stop _ _ _ _ h]
      rfl
    | next rest issues frames =>
      have hless := pass_next_shorter _ _ _ _ _ h
      -- a pass over the first part is a pass over the whole, and leaves less to drain
      calc framesOf maxBufferBytes (buffer ++ more)
        _ = frames ++ framesOf maxBufferBytes (rest ++ more) := by
          rw [framesOf_eq_pass, pass_append _ _ more _ _ _ h, Pass.framesOf]
        _ = frames ++ (framesOf maxBufferBytes rest ++
              framesOf maxBufferBytes ((drain maxBufferBytes rest).buffer ++ more)) := by
          rw [ih rest.length (by omega) rest rfl]
        _ = framesOf maxBufferBytes buffer ++
              framesOf maxBufferBytes ((drain maxBufferBytes buffer).buffer ++ more) := by
          rw [framesOf_eq_pass _ buffer, h, drain_next _ _ _ _ _ h, Pass.framesOf,
            List.append_assoc]

/-- What the loop leaves behind holds no further frame. -/
theorem framesOf_drained (maxBufferBytes : ℕ) (buffer : Bytes) :
    framesOf maxBufferBytes (drain maxBufferBytes buffer).buffer = [] := by
  have h := framesOf_append maxBufferBytes buffer []
  rw [List.append_nil, List.append_nil] at h
  exact List.self_eq_append_right.mp h

section Accounting

def discardedBytes (issues : List StreamIssue) : ℕ := (issues.map (·.discardedBytes)).sum

def encodedBytes (frames : List Frame) : ℕ := (frames.map (fun f => f.encode.length)).sum

@[simp]
theorem discardedBytes_nil : discardedBytes [] = 0 := rfl

@[simp]
theorem discardedBytes_append (is js : List StreamIssue) :
    discardedBytes (is ++ js) = discardedBytes is+discardedBytes js := by
  simp only [discardedBytes, List.map_append, List.sum_append]

theorem encodedBytes_nil : encodedBytes [] = 0 := rfl

theorem encodedBytes_cons (f : Frame) (fs : List Frame) :
    encodedBytes (f :: fs) = f.encode.length+encodedBytes fs := by
  simp only [encodedBytes, List.map_cons, List.sum_cons]

@[simp]
theorem encodedBytes_append (fs gs : List Frame) :
    encodedBytes (fs ++ gs) = encodedBytes fs+encodedBytes gs := by
  simp only [encodedBytes, List.map_append, List.sum_append]

/-- The kinds that the loop reports. -/
def LoopIssue (issue : StreamIssue) : Prop :=
  issue.kind ≠ .invalidFrame ∧ issue.kind ≠ .bufferOverflow

theorem loopIssue_singleton (kind : StreamIssueKind) (detail : String) (count : ℕ)
    (h1 : kind ≠ .invalidFrame) (h2 : kind ≠ .bufferOverflow) :
    ∀ issue ∈ [StreamIssue.mk kind detail count], LoopIssue issue := by
  intro issue hissue
  rw [List.mem_singleton.mp hissue]
  exact ⟨h1, h2⟩

/-- Every one of the `size` bytes of a pass is delivered, reported or kept. -/
def Pass.Accounts (size : ℕ) : Pass → Prop
  | stop buffer issues =>
    size = discardedBytes issues+buffer.length ∧ ∀ issue ∈ issues, LoopIssue issue
  | next buffer issues frames =>
    size = encodedBytes frames+discardedBytes issues+buffer.length ∧
      ∀ issue ∈ issues, LoopIssue issue

theorem Pass.accounts_after (size : ℕ) (issues : List StreamIssue) (p : Pass)
    (hp : p.Accounts size) (hissues : ∀ issue ∈ issues, LoopIssue issue) :
    (p.after issues).Accounts (discardedBytes issues+size) := by
  cases p with
  | stop buffer more =>
    obtain ⟨hsize, hmore⟩ := hp
    refine ⟨?_, List.forall_mem_append.mpr ⟨hissues, hmore⟩⟩
    rw [discardedBytes_append]
    omega
  | next buffer more frames =>
    obtain ⟨hsize, hmore⟩ := hp
    refine ⟨?_, List.forall_mem_append.mpr ⟨hissues, hmore⟩⟩
    rw [discardedBytes_append]
    omega

/-- A string with a checked header and the declared length fails only by its checksum. -/
theorem decode_of_valid_header (data : Bytes) (hmagic : data.take 2 = magic)
    (hvalid : validateHeader (unpackB data 2) (unpackB data 3) (unpackH data 6) = none)
    (hlen : data.length = headerSize+unpackH data 6+crcSize) :
    (∃ f, Frame.decode data = .ok f) ∨
      Frame.decode data = .error (.checksum "frame checksum mismatch") := by
  have hsequence := unpackH_lt data 4
  have hpayload : ((data.drop headerSize).take (unpackH data 6)).length ≤ unpackH data 6 :=
    List.length_take_le _ _
  unfold validateHeader at hvalid
  split_ifs at hvalid with hversion htype hsize
  rw [ne_eq, not_not] at hversion
  obtain ⟨type, htype⟩ := Option.ne_none_iff_exists'.mp htype
  unfold Frame.decode
  rw [if_neg (by omega)]
  simp only [hmagic, hversion, htype, ne_eq, not_true_eq_false, ↓reduceIte, if_neg hsize]
  rw [if_neg (by rw [not_not]; exact hlen)]
  by_cases hcrc : unpackH data (headerSize+unpackH data 6) =
      crc16CcittFalse (data.take (headerSize+unpackH data 6))
  · left
    rw [if_neg (not_not.mpr hcrc), Frame.new, dif_pos (by omega), dif_pos (by omega)]
    exact ⟨_, rfl⟩
  · right
    rw [if_pos hcrc]

theorem unpackB_take (data : Bytes) (offset size : ℕ) (h : offset+1 ≤ size)
    (hsize : size ≤ data.length) : unpackB (data.take size) offset = unpackB data offset := by
  have happ := unpackB_append (data.take size) (data.drop size) offset
    (by rw [List.length_take]; omega)
  rwa [List.take_append_drop, eq_comm] at happ

theorem unpackH_take (data : Bytes) (offset size : ℕ) (h : offset+2 ≤ size)
    (hsize : size ≤ data.length) : unpackH (data.take size) offset = unpackH data offset := by
  have happ := unpackH_append (data.take size) (data.drop size) offset
    (by rw [List.length_take]; omega)
  rwa [List.take_append_drop, eq_comm] at happ

theorem passFrame_accounts (maxBufferBytes : ℕ) (buffer : Bytes)
    (hmagic : buffer.take 2 = magic) :
    (passFrame maxBufferBytes buffer []).Accounts buffer.length := by
  unfold passFrame
  by_cases hshort : buffer.length < headerSize
  · rw [if_pos hshort]
    exact ⟨by rw [discardedBytes_nil, Nat.zero_add], fun _ h => absurd h List.not_mem_nil⟩
  rw [if_neg hshort]
  have hlong : 8 ≤ buffer.length := not_lt.mp hshort
  have hone : ∀ kind detail, kind ≠ .invalidFrame → kind ≠ .bufferOverflow →
      (Pass.next (buffer.drop 1) [⟨kind, detail, 1⟩] []).Accounts buffer.length := by
    intro kind detail h1 h2
    refine ⟨?_, loopIssue_singleton kind detail 1 h1 h2⟩
    change buffer.length = 0+1+(buffer.drop 1).length
    rw [List.length_drop]
    omega
  dsimp only
  cases hvalid : validateHeader (unpackB buffer 2) (unpackB buffer 3) (unpackH buffer 6) with
  | some headerError => exact hone _ _ (by decide) (by decide)
  | none =>
    dsimp only
    by_cases hbig : headerSize+unpackH buffer 6+crcSize > maxBufferBytes
    · rw [if_pos hbig]
      exact hone _ _ (by decide) (by decide)
    rw [if_neg hbig]
    by_cases hwait : buffer.length < headerSize+unpackH buffer 6+crcSize
    · rw [if_pos hwait]
      exact ⟨by rw [discardedBytes_nil, Nat.zero_add], fun _ h => absurd h List.not_mem_nil⟩
    rw [if_neg hwait]
    -- the candidate has the header just checked
    generalize hsize : headerSize+unpackH buffer 6+crcSize = size at *
    have hten : 10 ≤ size := by
      unfold headerSize crcSize at hsize
      omega
    have hlen : (buffer.take size).length = size := by
      rw [List.length_take]
      omega
    have hrest : size+(buffer.drop size).length = buffer.length := by
      rw [List.length_drop]
      omega
    have hcandidate := decode_of_valid_header (buffer.take size)
      (by rw [List.take_take, min_eq_left (by omega), hmagic])
      (by rwa [unpackB_take _ 2 _ (by omega) (by omega), unpackB_take _ 3 _ (by omega) (by omega),
        unpackH_take _ 6 _ (by omega) (by omega)])
      (by rw [hlen, unpackH_take _ 6 _ (by omega) (by omega), hsize])
    rcases hcandidate with ⟨f, hf⟩ | hf
    · rw [hf]
      have hsame := congrArg List.length ((Frame.decode_eq_ok_iff _ f).mp hf)
      refine ⟨?_, fun _ h => absurd h List.not_mem_nil⟩
      change buffer.length = (f.encode.length+0)+0+(buffer.drop size).length
      omega
    · rw [hf]
      refine ⟨?_, loopIssue_singleton _ _ size (by decide) (by decide)⟩
      change buffer.length = 0+(size+0)+(buffer.drop size).length
      omega

theorem pass_accounts (maxBufferBytes : ℕ) (buffer : Bytes) :
    (pass maxBufferBytes buffer).Accounts buffer.length := by
  have hdesync : ∀ count, ∀ issue ∈ [desync count], LoopIssue issue := fun count =>
    loopIssue_singleton _ _ count (by decide) (by decide)
  have hnothing : (Pass.stop buffer []).Accounts buffer.length :=
    ⟨by rw [discardedBytes_nil, Nat.zero_add], fun _ h => absurd h List.not_mem_nil⟩
  by_cases hmagic : buffer.take 2 = magic
  · rw [pass_of_magic _ _ hmagic]
    exact passFrame_accounts maxBufferBytes buffer hmagic
  unfold pass
  by_cases hshort : buffer.length < magic.length
  · rw [if_pos hshort]
    exact hnothing
  rw [if_neg hshort, if_neg hmagic]
  cases hfind : findMagic buffer with
  | none =>
    dsimp only
    have hdrop : ∀ count ≤ buffer.length,
        (Pass.stop (buffer.drop count) [desync count]).Accounts buffer.length := by
      intro count hcount
      refine ⟨?_, hdesync count⟩
      change buffer.length = (count+0)+(buffer.drop count).length
      rw [List.length_drop]
      omega
    split_ifs
    · exact hnothing
    · exact hdrop _ (Nat.sub_le _ _)
    · exact hnothing
    · exact hdrop _ (Nat.sub_le _ _)
  | some index =>
    dsimp only
    obtain ⟨hfound, _⟩ := findMagic_some buffer index hfind
    have hindex := findMagic_fits buffer index hfind
    have hframe := Pass.accounts_after _ [desync index] _
      (passFrame_accounts maxBufferBytes (buffer.drop index) hfound) (hdesync index)
    rw [passFrame_after]
    have hsum : discardedBytes [desync index]+(buffer.drop index).length = buffer.length := by
      change index+0+(buffer.drop index).length = _
      rw [List.length_drop]
      omega
    rwa [hsum] at hframe

theorem drain_accounts (maxBufferBytes : ℕ) (buffer : Bytes) :
    buffer.length = encodedBytes (drain maxBufferBytes buffer).frames +
        discardedBytes (drain maxBufferBytes buffer).issues +
        (drain maxBufferBytes buffer).buffer.length ∧
      ∀ issue ∈ (drain maxBufferBytes buffer).issues, LoopIssue issue := by
  generalize hn : buffer.length = n
  induction n using Nat.strong_induction_on generalizing buffer with
  | _ n ih =>
    have hpass := pass_accounts maxBufferBytes buffer
    cases h : pass maxBufferBytes buffer with
    | stop rest issues =>
      rw [h] at hpass
      rw [drain_stop _ _ _ _ h]
      obtain ⟨hsize, hissues⟩ := hpass
      refine ⟨?_, hissues⟩
      change n = 0+discardedBytes issues+rest.length
      omega
    | next rest issues frames =>
      rw [h] at hpass
      obtain ⟨hsize, hissues⟩ := hpass
      have hless := pass_next_shorter _ _ _ _ _ h
      obtain ⟨htail, hkinds⟩ := ih rest.length (by omega) rest rfl
      rw [drain_next _ _ _ _ _ h]
      refine ⟨?_, List.forall_mem_append.mpr ⟨hissues, hkinds⟩⟩
      rw [encodedBytes_append, discardedBytes_append]
      dsimp only
      omega

end Accounting

section Feeding

def bufferedBytes (d : FrameStreamDecoder) : ℕ := d.buffer.length

theorem mem_feedIssues_head (d : FrameStreamDecoder) (chunk : Bytes) (chunks : List Bytes)
    (issue : StreamIssue) (h : issue ∈ (d.feed chunk).2.issues) :
    issue ∈ d.feedIssues (chunk :: chunks) := by
  rw [feedIssues, Machine.trace_cons, List.flatMap_cons]
  exact List.mem_append_left _ h

/-- A feed that reports no overflow drains the buffer with its chunk. -/
theorem feed_eq_drain (d : FrameStreamDecoder) (chunk : Bytes)
    (h : ∀ issue ∈ (d.feed chunk).2.issues, issue.kind ≠ .bufferOverflow) :
    d.feed chunk = ({ d with buffer := (drain d.maxBufferBytes (d.buffer ++ chunk)).buffer },
      ⟨(drain d.maxBufferBytes (d.buffer ++ chunk)).frames,
        (drain d.maxBufferBytes (d.buffer ++ chunk)).issues,
        (drain d.maxBufferBytes (d.buffer ++ chunk)).buffer.length⟩) := by
  unfold feed at h ⊢
  split_ifs at h ⊢ with hover
  · exact absurd rfl (h _ (List.mem_singleton_self _))
  · rfl

/-- Without an overflow a run delivers the frames of its whole stream. -/
theorem feedFrames_eq_framesOf (d : FrameStreamDecoder) (chunks : List Bytes)
    (hsettled : framesOf d.maxBufferBytes d.buffer = [])
    (hno : ∀ issue ∈ d.feedIssues chunks, issue.kind ≠ .bufferOverflow) :
    d.feedFrames chunks = framesOf d.maxBufferBytes (d.buffer ++ chunks.flatten) := by
  induction chunks generalizing d with
  | nil =>
    rw [List.flatten_nil, List.append_nil, hsettled]
    rfl
  | cons chunk chunks ih =>
    have hfeed := d.feed_eq_drain chunk fun issue hissue =>
      hno issue (d.mem_feedIssues_head chunk chunks issue hissue)
    have htail := ih (d.feed chunk).1
      (by rw [hfeed]; exact framesOf_drained _ _)
      (by
        intro issue hissue
        apply hno issue
        rw [feedIssues, Machine.trace_cons, List.flatMap_cons]
        exact List.mem_append_right _ hissue)
    calc d.feedFrames (chunk :: chunks)
      _ = (d.feed chunk).2.frames ++ (d.feed chunk).1.feedFrames chunks := by
        rw [feedFrames, Machine.trace_cons, List.flatMap_cons, feedFrames]
      _ = framesOf d.maxBufferBytes (d.buffer ++ chunk) ++ framesOf d.maxBufferBytes
            ((drain d.maxBufferBytes (d.buffer ++ chunk)).buffer ++ chunks.flatten) := by
        rw [htail, hfeed]
        rfl
      _ = framesOf d.maxBufferBytes (d.buffer ++ (chunk :: chunks).flatten) := by
        rw [← framesOf_append, List.append_assoc, List.flatten_cons]

/-- Every byte of a feed, an overflow included, is delivered, reported or kept. -/
theorem feed_accounts (d : FrameStreamDecoder) (chunk : Bytes) :
    d.bufferedBytes+chunk.length = encodedBytes (d.feed chunk).2.frames +
        discardedBytes (d.feed chunk).2.issues+(d.feed chunk).1.bufferedBytes ∧
      (d.feed chunk).1.bufferedBytes ≤ d.maxBufferBytes ∧
      (d.feed chunk).2.bufferedBytes = (d.feed chunk).1.bufferedBytes ∧
      ∀ issue ∈ (d.feed chunk).2.issues, issue.kind ≠ .invalidFrame := by
  unfold feed
  by_cases hover : d.buffer.length+chunk.length > d.maxBufferBytes
  · rw [if_pos hover]
    refine ⟨?_, Nat.zero_le _, rfl, ?_⟩
    · change d.buffer.length+chunk.length = 0+(d.buffer.length+chunk.length+0)+0
      omega
    · intro issue hissue
      rw [List.mem_singleton.mp hissue]
      exact fun h => nomatch h
  · rw [if_neg hover]
    obtain ⟨hbytes, hkinds⟩ := drain_accounts d.maxBufferBytes (d.buffer ++ chunk)
    rw [List.length_append] at hbytes
    refine ⟨hbytes, ?_, rfl, fun issue hissue => (hkinds issue hissue).1⟩
    change (drain d.maxBufferBytes (d.buffer ++ chunk)).buffer.length ≤ _
    omega

theorem run_accounts (d : FrameStreamDecoder) (chunks : List Bytes)
    (hd : d.bufferedBytes ≤ d.maxBufferBytes) :
    d.bufferedBytes+chunks.flatten.length = encodedBytes (d.feedFrames chunks) +
        discardedBytes (d.feedIssues chunks)+(Machine.run feed d chunks).bufferedBytes ∧
      (Machine.run feed d chunks).bufferedBytes ≤ d.maxBufferBytes ∧
      ∀ issue ∈ d.feedIssues chunks, issue.kind ≠ .invalidFrame := by
  induction chunks generalizing d with
  | nil =>
    refine ⟨?_, hd, fun _ h => absurd h List.not_mem_nil⟩
    change d.bufferedBytes+0 = 0+0+d.bufferedBytes
    omega
  | cons chunk chunks ih =>
    obtain ⟨hbytes, hroom, _, hkinds⟩ := d.feed_accounts chunk
    obtain ⟨hrest, hlimit, hmore⟩ := ih (d.feed chunk).1 (by rwa [feed_maxBufferBytes])
    rw [feed_maxBufferBytes] at hlimit
    unfold feedFrames at hrest ⊢
    unfold feedIssues at hrest hmore ⊢
    rw [Machine.trace_cons, List.flatMap_cons, List.flatMap_cons, encodedBytes_append,
      discardedBytes_append, List.flatten_cons, List.length_append, Machine.run_cons]
    dsimp only
    exact ⟨by omega, hlimit, List.forall_mem_append.mpr ⟨hkinds, hmore⟩⟩

/-- A stream that fits the buffer as a whole never overflows it. -/
theorem no_overflow_of_fits (d : FrameStreamDecoder) (chunks : List Bytes)
    (hfits : d.bufferedBytes+chunks.flatten.length ≤ d.maxBufferBytes) :
    ∀ issue ∈ d.feedIssues chunks, issue.kind ≠ .bufferOverflow := by
  induction chunks generalizing d with
  | nil => exact fun _ h => absurd h List.not_mem_nil
  | cons chunk chunks ih =>
    rw [List.flatten_cons, List.length_append] at hfits
    obtain ⟨hbytes, _, _, _⟩ := d.feed_accounts chunk
    have htail := ih (d.feed chunk).1 (by rw [feed_maxBufferBytes]; omega)
    rw [feedIssues, Machine.trace_cons, List.flatMap_cons]
    refine List.forall_mem_append.mpr ⟨?_, htail⟩
    have hroom : ¬ d.buffer.length+chunk.length > d.maxBufferBytes := by
      unfold bufferedBytes at hfits
      omega
    dsimp only
    rw [feed, if_neg hroom]
    intro issue hissue
    exact ((drain_accounts d.maxBufferBytes (d.buffer ++ chunk)).2 issue hissue).2

/-- Decoding does not depend on how a stream is cut into chunks, and accounts for all of it. -/
theorem stream_decoding_independent_of_chunks (maxBufferBytes : ℕ) (d : FrameStreamDecoder)
    (hnew : FrameStreamDecoder.new maxBufferBytes = .ok d) :
    (∀ chunks chunks' : List Bytes, chunks.flatten = chunks'.flatten →
      (∀ issue ∈ d.feedIssues chunks, issue.kind ≠ .bufferOverflow) →
      (∀ issue ∈ d.feedIssues chunks', issue.kind ≠ .bufferOverflow) →
      d.feedFrames chunks = d.feedFrames chunks') ∧
    (∀ chunks : List Bytes,
      chunks.flatten.length = encodedBytes (d.feedFrames chunks) +
        discardedBytes (d.feedIssues chunks)+(Machine.run feed d chunks).bufferedBytes ∧
      (Machine.run feed d chunks).bufferedBytes ≤ maxBufferBytes ∧
      ∀ issue ∈ d.feedIssues chunks, issue.kind ≠ .invalidFrame) := by
  unfold FrameStreamDecoder.new at hnew
  split_ifs at hnew with hfits
  cases hnew
  have hempty : framesOf maxBufferBytes [] = [] := framesOf_no_magic maxBufferBytes [] rfl
  constructor
  · intro chunks chunks' heq hno hno'
    rw [feedFrames_eq_framesOf _ chunks hempty hno, feedFrames_eq_framesOf _ chunks' hempty hno',
      heq]
  · intro chunks
    have h := run_accounts ⟨maxBufferBytes, [], hfits⟩ chunks (Nat.zero_le _)
    rwa [show bufferedBytes ⟨maxBufferBytes, [], hfits⟩ = 0 from rfl, Nat.zero_add] at h

/-- The magic in one chunk and in two, in the default decoder. -/
theorem stream_decoding_independent_of_chunks_magic :
    initial.feedFrames [[kMagic0, kMagic1]] = initial.feedFrames [[kMagic0], [kMagic1]] ∧
    2 = encodedBytes (initial.feedFrames [[kMagic0, kMagic1]]) +
      discardedBytes (initial.feedIssues [[kMagic0, kMagic1]])+
      (Machine.run feed initial [[kMagic0, kMagic1]]).bufferedBytes := by
  obtain ⟨hsame, hbytes⟩ := stream_decoding_independent_of_chunks defaultMaxBufferBytes initial rfl
  have hfits : initial.bufferedBytes+2 ≤ initial.maxBufferBytes := by decide
  exact ⟨hsame [[kMagic0, kMagic1]] [[kMagic0], [kMagic1]] rfl (no_overflow_of_fits _ _ hfits)
    (no_overflow_of_fits _ _ hfits), (hbytes [[kMagic0, kMagic1]]).1⟩

end Feeding

end RoboticCharacter.FrameStreamDecoder
