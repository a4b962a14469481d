import RoboticCharacter.ProtocolMotion
import RoboticCharacter.ProtocolTelemetry

/-! The motion command's codec with everything it may raise, the agreement of these codecs
with the ones the gateway uses, and the inversion of all six. -/
namespace RoboticCharacter.Codec
open Fallible PythonStruct

namespace JointTarget

def format : List Field := [.B, .h]

def toRow (t : JointTarget) : List ℤ := [t.jointId, t.targetCdeg]

def fromRow : List ℤ → Except Raised JointTarget
  | [jointId, targetCdeg] => .ok ⟨jointId, targetCdeg⟩
  | row => wrongArity row

/-- One turn of the encoder's loop over the targets. -/
def encode (t : JointTarget) : Except Raised Bytes := do
  fromProtocol (requireUint "joint_id" t.jointId 8 0)
  fromProtocol (requireInt16 "target_cdeg" t.targetCdeg)
  fromStruct (pack format (toRow t))

theorem fromRow_eq_ok_iff (row : List ℤ) (t : JointTarget) :
    fromRow row = .ok t ↔ row = toRow t := by
  unfold fromRow
  split
  · cases t
    simp only [toRow, Except.ok.injEq, JointTarget.mk.injEq, List.cons.injEq, and_true]
  · rename_i hrow
    simp only [wrongArity_ne_ok, false_iff]
    exact hrow _ _

theorem raises_fromRow (row : List ℤ) (hrow : row.length = format.length) :
    Raises Raised.IsProtocolError (fromRow row) := by
  obtain ⟨a, b, rfl⟩ := List.length_eq_two.mp hrow
  exact raises_ok _ _

theorem encode_eq_ok_iff (t : JointTarget) (data : Bytes) :
    encode t = .ok data ↔ pack format (toRow t) = .ok data := by
  simp only [encode, bind_eq_ok_iff, fromProtocol_eq_ok_iff, fromStruct_eq_ok_iff,
    requireUint_eq_ok_iff, requireInt16_eq_ok_iff, exists_and_left, exists_const]
  constructor
  · intro h
    exact h.2.2
  · intro hpack
    have hfits := ((pack_eq_ok_iff _ _ _).mp hpack).1
    simp only [format, toRow, List.forall₂_cons, Field.fits_h, Field.fits_B,
      List.forall₂_nil_left_iff] at hfits
    exact ⟨by omega, by omega, hpack⟩

theorem raises_encode (t : JointTarget) : Raises Raised.IsProtocolError (encode t) := by
  apply raises_bind _ _ _ (raises_fromProtocol _)
  intro _ hid
  apply raises_bind _ _ _ (raises_fromProtocol _)
  intro _ htarget
  rw [fromProtocol_eq_ok_iff, requireUint_eq_ok_iff] at hid
  rw [fromProtocol_eq_ok_iff, requireInt16_eq_ok_iff] at htarget
  apply raises_pack
  simp only [format, toRow, List.forall₂_cons, Field.fits_h, Field.fits_B,
    List.forall₂_nil_left_iff, and_true]
  omega

theorem length_of_encode (t : JointTarget) (data : Bytes) (h : encode t = .ok data) :
    data.length = size format := length_of_pack _ _ _ ((encode_eq_ok_iff t data).mp h)

end JointTarget

/-- `UUID(bytes=data)`. -/
def uuidOfBytes (data : Bytes) : Except Raised Uuid :=
  if h : data.length = 16 then .ok ⟨data, h⟩
  else .error (.valueError "bytes is not a 16-char string")

theorem uuidOfBytes_eq_ok_iff (data : Bytes) (u : Uuid) :
    uuidOfBytes data = .ok u ↔ data = u.bytes := by
  unfold uuidOfBytes
  split_ifs with h
  · cases u
    simp only [Except.ok.injEq, Uuid.mk.injEq]
  · simp only [false_iff]
    intro heq
    exact h (heq ▸ u.length_eq)

namespace ValidatedMotionCommand

def headFormat : List Field := [.H, .B, .B]
def tailFormat : List Field := [.H, .H]

def encode (c : ValidatedMotionCommand) : Except Raised Bytes := do
  fromProtocol (requireUint "ttl_ms" c.ttlMs 16 1)
  fromProtocol (requireUint "max_velocity_cdeg_s" c.maxVelocityCdegS 16 1)
  fromProtocol (requireUint "max_acceleration_cdeg_s2" c.maxAccelerationCdegS2 16 1)
  fromProtocol (require (1 ≤ c.targets.length ∧ c.targets.length ≤ maxJointTargets)
    (.protocol "motion command has invalid joint target count"))
  fromProtocol (require (c.targets.map JointTarget.jointId).Nodup
    (.protocol "motion command contains duplicate joint ids"))
  let head ← fromStruct (pack headFormat [c.ttlMs, c.mode.value, c.targets.length])
  let targets ← packEach JointTarget.encode c.targets
  let tail ← fromStruct (pack tailFormat [c.maxVelocityCdegS, c.maxAccelerationCdegS2])
  return c.commandId.bytes ++ (head ++ (targets ++ tail))

/-- The decoder once the id and the head are read. -/
def decodeTargets (payload : Bytes) (commandId : Uuid) (ttlMs rawMode jointCount : ℤ) :
    Except Raised ValidatedMotionCommand :=
  if ¬ (1 ≤ jointCount ∧ jointCount ≤ maxJointTargets) then
    raiseProtocol "motion command has invalid joint target count"
  else if payload.length ≠
      16+size headFormat+jointCount.toNat*size JointTarget.format+size tailFormat then
    raiseProtocol "motion command payload length mismatch"
  else do
    let mode ← exceptValueError (IntEnum.ofValue rawMode) "unknown motion command mode"
    let targets ← unpackEach (decodeFrom JointTarget.format JointTarget.fromRow payload)
      (size JointTarget.format) jointCount.toNat (16+size headFormat)
    let row ← fromStruct (unpackFrom tailFormat payload
      (16+size headFormat+jointCount.toNat*size JointTarget.format))
    match row with
    | [maxVelocity, maxAcceleration] =>
      let decoded : ValidatedMotionCommand :=
        ⟨commandId, ttlMs, mode, targets, maxVelocity, maxAcceleration⟩
      let _ ← encode decoded
      return decoded
    | row => wrongArity row

def decode (payload : Bytes) : Except Raised ValidatedMotionCommand :=
  if payload.length < 16+size headFormat+size JointTarget.format+size tailFormat then
    raiseProtocol "motion command payload is truncated"
  else do
    let commandId ← uuidOfBytes (payload.take 16)
    let row ← fromStruct (unpackFrom headFormat payload 16)
    match row with
    | [ttlMs, rawMode, jointCount] => decodeTargets payload commandId ttlMs rawMode jointCount
    | row => wrongArity row

/-- The parts of an encoded command. -/
structure Encoded (c : ValidatedMotionCommand) (head targets tail : Bytes) : Prop where
  count_pos : 1 ≤ c.targets.length
  count_le : c.targets.length ≤ maxJointTargets
  head_eq : pack headFormat [c.ttlMs, c.mode.value, c.targets.length] = .ok head
  targets_eq : packEach JointTarget.encode c.targets = .ok targets
  tail_eq : pack tailFormat [c.maxVelocityCdegS, c.maxAccelerationCdegS2] = .ok tail

theorem encoded_of_encode (c : ValidatedMotionCommand) (payload : Bytes)
    (h : encode c = .ok payload) :
    ∃ head targets tail, Encoded c head targets tail ∧
      payload = c.commandId.bytes ++ (head ++ (targets ++ tail)) := by
  simp only [encode, bind_eq_ok_iff, fromProtocol_eq_ok_iff, fromStruct_eq_ok_iff,
    requireUint_eq_ok_iff, require_eq_ok_iff, pure_eq_ok_iff, exists_and_left, exists_const] at h
  obtain ⟨_, _, _, hcount, _, head, hhead, targets, htargets, tail, htail, heq⟩ := h
  exact ⟨head, targets, tail, ⟨hcount.1, hcount.2, hhead, htargets, htail⟩, heq.symm⟩

/-- The decoder's loop reads the targets the encoder packs. -/
theorem unpack_targets_iff (payload : Bytes) (count : ℕ) (targets : List JointTarget)
    (hlen : 16+size headFormat+count*size JointTarget.format ≤ payload.length) :
    unpackEach (decodeFrom JointTarget.format JointTarget.fromRow payload)
        (size JointTarget.format) count (16+size headFormat) = .ok targets ↔
      targets.length = count ∧ packEach JointTarget.encode targets =
        .ok ((payload.drop (16+size headFormat)).take (count*size JointTarget.format)) := by
  apply unpackEach_eq_ok_iff _ _ _ _ JointTarget.length_of_encode _ _ _ hlen
  intro offset t hroom
  rw [decodeFrom_eq_ok_iff _ _ _ JointTarget.fromRow_eq_ok_iff _ _ _ hroom,
    JointTarget.encode_eq_ok_iff]

theorem encode_of_decodeTargets (payload : Bytes) (commandId : Uuid) (ttlMs rawMode count : ℤ)
    (c : ValidatedMotionCommand) (hid : payload.take 16 = commandId.bytes)
    (hhead : pack headFormat [ttlMs, rawMode, count] =
      .ok ((payload.drop 16).take (size headFormat)))
    (h : decodeTargets payload commandId ttlMs rawMode count = .ok c) :
    encode c = .ok payload := by
  unfold decodeTargets at h
  by_cases hcount : ¬ (1 ≤ count ∧ count ≤ maxJointTargets)
  · rw [if_pos hcount] at h
    exact absurd h (raiseProtocol_ne_ok _ _)
  rw [if_neg hcount] at h
  by_cases hlen : payload.length ≠
      16+size headFormat+count.toNat*size JointTarget.format+size tailFormat
  · rw [if_pos hlen] at h
    exact absurd h (raiseProtocol_ne_ok _ _)
  rw [if_neg hlen] at h
  rw [not_not] at hlen
  simp only [bind_eq_ok_iff, exceptValueError_eq_ok_iff, IntEnum.ofValue_eq_ok_iff,
    fromStruct_eq_ok_iff, unpackFrom_eq_ok_iff] at h
  obtain ⟨mode, hmode, targets, htargets, row, ⟨htail, _⟩, h⟩ := h
  obtain ⟨hn, htargets⟩ := (unpack_targets_iff payload _ targets (by omega)).mp htargets
  split at h
  · rename_i maxVelocity maxAcceleration
    simp only [bind_eq_ok_iff, pure_eq_ok_iff] at h
    obtain ⟨q, hencode, heq⟩ := h
    obtain ⟨head, middle, tail, hparts, hq⟩ := encoded_of_encode _ q hencode
    have hcast : (targets.length : ℤ) = count := by
      rw [hn]
      omega
    -- every part of the re-encoding is the slice the decoder read
    have h1 : head = (payload.drop 16).take (size headFormat) := by
      have hhead' : pack headFormat [ttlMs, rawMode, count] = .ok head := by
        rw [hmode, ← hcast]
        exact hparts.head_eq
      rw [hhead] at hhead'
      exact (Except.ok.inj hhead').symm
    have h2 := hparts.targets_eq.symm.trans htargets
    have h3 := hparts.tail_eq.symm.trans htail
    have h4 : (payload.drop (16+size headFormat+count.toNat*size JointTarget.format)).take
        (size tailFormat) =
        payload.drop (16+size headFormat+count.toNat*size JointTarget.format) := by
      apply List.take_of_length_le
      rw [List.length_drop]
      omega
    have hwhole : q = payload := by
      rw [hq, h1, Except.ok.inj h2, Except.ok.inj h3, h4, ← hid]
      simp only [← List.drop_drop, List.take_append_drop]
    rw [← heq, hencode, hwhole]
  · exact absurd h (wrongArity_ne_ok _ _)

theorem encode_of_decode (payload : Bytes) (c : ValidatedMotionCommand)
    (h : decode payload = .ok c) : encode c = .ok payload := by
  unfold decode at h
  split_ifs at h with hshort
  · exact absurd h (raiseProtocol_ne_ok _ _)
  simp only [bind_eq_ok_iff, fromStruct_eq_ok_iff, unpackFrom_eq_ok_iff,
    uuidOfBytes_eq_ok_iff] at h
  obtain ⟨commandId, hid, row, ⟨hhead, _⟩, h⟩ := h
  split at h
  · exact encode_of_decodeTargets payload commandId _ _ _ c hid hhead h
  · exact absurd h (wrongArity_ne_ok _ _)

theorem decode_of_encode (c : ValidatedMotionCommand) (payload : Bytes)
    (h : encode c = .ok payload) : decode payload = .ok c := by
  obtain ⟨head, targets, tail, hparts, heq⟩ := encoded_of_encode c payload h
  have hpos := hparts.count_pos
  have hle := hparts.count_le
  have hid := c.commandId.length_eq
  have hheadlen := length_of_pack _ _ _ hparts.head_eq
  have htaillen := length_of_pack _ _ _ hparts.tail_eq
  have htargetslen := length_packEach _ _ JointTarget.length_of_encode c.targets targets
    hparts.targets_eq
  have hleft : (c.commandId.bytes ++ head).length = 16+size headFormat := by
    rw [List.length_append, hid, hheadlen]
  have hlen : payload.length =
      16+size headFormat+c.targets.length*size JointTarget.format+size tailFormat := by
    rw [heq]
    simp only [List.length_append, hid, hheadlen, htargetslen, htaillen]
    omega
  have hwidth : size JointTarget.format = 3 := rfl
  have hlong : payload.length = 16+size headFormat+c.targets.length*3+size tailFormat := by
    rw [hlen, hwidth]
  unfold maxJointTargets at hle
  -- the parts of the payload, read back at their offsets
  have htake : payload.take 16 = c.commandId.bytes := by
    rw [heq, List.take_left' hid]
  have hrow : unpackFrom headFormat payload 16 =
      .ok [c.ttlMs, c.mode.value, (c.targets.length : ℤ)] := by
    rw [heq]
    exact unpackFrom_packed headFormat _ _ head _ 16 hid hparts.head_eq
  have hread := (unpack_targets_iff payload c.targets.length c.targets (by omega)).mpr
    ⟨rfl, by rw [heq, ← List.append_assoc, List.drop_left' hleft, List.take_left' htargetslen]
             exact hparts.targets_eq⟩
  have hlast : unpackFrom tailFormat payload
      (16+size headFormat+c.targets.length*size JointTarget.format) =
      .ok [c.maxVelocityCdegS, c.maxAccelerationCdegS2] := by
    have hplace := unpackFrom_packed tailFormat _ (c.commandId.bytes ++ head ++ targets) tail []
      (16+size headFormat+c.targets.length*size JointTarget.format)
      (by rw [List.length_append, hleft, htargetslen]) hparts.tail_eq
    rw [heq]
    simpa only [List.append_assoc, List.append_nil] using hplace
  unfold decode
  rw [if_neg (by omega)]
  simp only [bind_eq_ok_iff, fromStruct_eq_ok_iff, uuidOfBytes_eq_ok_iff]
  refine ⟨c.commandId, htake, _, hrow, ?_⟩
  change decodeTargets _ _ _ _ _ = _
  unfold decodeTargets maxJointTargets
  rw [if_neg (by omega), if_neg (by rw [Int.toNat_natCast, hlen, not_not])]
  simp only [bind_eq_ok_iff, exceptValueError_eq_ok_iff, IntEnum.ofValue_eq_ok_iff,
    fromStruct_eq_ok_iff, Int.toNat_natCast]
  refine ⟨c.mode, rfl, c.targets, hread, _, hlast, ?_⟩
  simp only [bind_eq_ok_iff, pure_eq_ok_iff]
  exact ⟨_, h, trivial⟩

theorem raises_encode (c : ValidatedMotionCommand) :
    Raises Raised.IsProtocolError (encode c) := by
  apply raises_bind _ _ _ (raises_fromProtocol _)
  intro _ httl
  apply raises_bind _ _ _ (raises_fromProtocol _)
  intro _ hvelocity
  apply raises_bind _ _ _ (raises_fromProtocol _)
  intro _ hacceleration
  apply raises_bind _ _ _ (raises_fromProtocol _)
  intro _ hcount
  apply raises_bind _ _ _ (raises_fromProtocol _)
  intro _ _
  rw [fromProtocol_eq_ok_iff, requireUint_eq_ok_iff] at httl hvelocity hacceleration
  rw [fromProtocol_eq_ok_iff, require_eq_ok_iff, maxJointTargets] at hcount
  have hmode : c.mode.value < 256 := by cases c.mode; decide
  apply raises_bind
  · apply raises_pack
    simp only [headFormat, List.forall₂_cons, Field.fits_H, Field.fits_B,
      List.forall₂_nil_left_iff, and_true]
    omega
  · intro head _
    apply raises_bind _ _ _ (raises_packEach _ _ _ fun t _ => JointTarget.raises_encode t)
    intro targets _
    apply raises_bind
    · apply raises_pack
      simp only [tailFormat, List.forall₂_cons, Field.fits_H, List.forall₂_nil_left_iff, and_true]
      omega
    · intro tail _
      exact raises_pure _ _

theorem raises_decodeTargets (payload : Bytes) (commandId : Uuid) (ttlMs rawMode count : ℤ) :
    Raises Raised.IsProtocolError (decodeTargets payload commandId ttlMs rawMode count) := by
  unfold decodeTargets
  split_ifs with hcount hlen
  · exact raises_raiseProtocol _
  · rw [not_not] at hlen
    apply raises_bind _ _ _ (raises_exceptValueError _ _ (IntEnum.raises_ofValue _))
    intro mode _
    apply raises_bind
    · exact raises_unpackEach _ _ _ payload.length (raises_decodeFrom _ _
        JointTarget.raises_fromRow payload) _ _ (by omega)
    · intro targets _
      rw [unpackFrom_eq_ok tailFormat payload _ hlen.ge]
      apply raises_bind _ _ _ (raises_encode _)
      intro _ _
      exact raises_pure _ _
  · exact raises_raiseProtocol _

theorem raises_decode (payload : Bytes) : Raises Raised.IsProtocolError (decode payload) := by
  unfold decode
  split_ifs with hshort
  · exact raises_raiseProtocol _
  · have hid : (payload.take 16).length = 16 := by
      rw [List.length_take]
      omega
    rw [uuidOfBytes, dif_pos hid, unpackFrom_eq_ok headFormat payload 16 (by omega)]
    exact raises_decodeTargets payload _ _ _ _

theorem inverse : Inverse encode decode :=
  ⟨decode_of_encode, encode_of_decode, raises_decode⟩

end ValidatedMotionCommand

section Agreement

theorem pack_B_eq (value : ℤ) (h : Field.B.Fits value) :
    Field.B.pack value = Host.packB value.toNat := by
  rw [Field.fits_B] at h
  exact Field.pack_of_nonneg .B value h.1 h.2

theorem pack_H_eq (value : ℤ) (h : Field.H.Fits value) :
    Field.H.pack value = Host.packH value.toNat := by
  rw [Field.fits_H] at h
  exact Field.pack_of_nonneg .H value h.1 h.2

theorem pack_I_eq (value : ℤ) (h : Field.I.Fits value) :
    Field.I.pack value = Host.packI value.toNat := by
  rw [Field.fits_I] at h
  exact Field.pack_of_nonneg .I value h.1 h.2

theorem pack_h_eq (value : ℤ) : Field.h.pack value = Host.packSigned value := rfl

theorem Heartbeat.encode_agrees (h : Heartbeat) (payload : Bytes) :
    encode h = .ok payload ↔ h.encode = .ok payload := by
  have hsource : h.source.value < 256 := by cases h.source <;> decide
  have hstate : h.state.value < 256 := by cases h.state <;> decide
  rw [encode_eq_ok_iff, pack_eq_ok_iff]
  simp only [RoboticCharacter.Heartbeat.encode, bind_eq_ok_iff, requireUint_eq_ok_iff,
    pure_eq_ok_iff, exists_and_left, exists_const, format, toRow, packRow, List.zipWith_cons_cons,
    List.zipWith_nil_left, List.flatten_cons, List.flatten_nil, List.append_nil,
    List.forall₂_cons, List.forall₂_nil_left_iff, and_true]
  constructor
  · rintro ⟨⟨h1, h2, h3⟩, rfl⟩
    rw [pack_B_eq _ h1, pack_I_eq _ h2, pack_B_eq _ h3]
    rw [Field.fits_I] at h2
    exact ⟨⟨h2.1, by omega⟩, rfl⟩
  · rintro ⟨huptime, rfl⟩
    have h1 : Field.B.Fits h.source.value := by rw [Field.fits_B]; omega
    have h2 : Field.I.Fits h.uptimeMs := by rw [Field.fits_I]; omega
    have h3 : Field.B.Fits h.state.value := by rw [Field.fits_B]; omega
    rw [pack_B_eq _ h1, pack_I_eq _ h2, pack_B_eq _ h3]
    exact ⟨⟨h1, h2, h3⟩, rfl⟩

theorem EmergencyStop.encode_agrees (e : EmergencyStop) : encode e = .ok e.encode := by
  have h1 : Field.B.Fits e.source.value := by
    rw [Field.fits_B]
    cases e.source <;> decide
  have h2 : Field.B.Fits e.reason.value := by
    rw [Field.fits_B]
    cases e.reason <;> decide
  have hpack : pack format (toRow e) = .ok e.encode := by
    rw [pack_eq_ok_iff]
    simp only [format, toRow, packRow, List.zipWith_cons_cons, List.zipWith_nil_left,
      List.flatten_cons, List.flatten_nil, List.append_nil, pack_B_eq _ h1, pack_B_eq _ h2]
    exact ⟨.cons h1 (.cons h2 .nil), rfl⟩
  rw [encode, hpack]
  rfl

theorem Acknowledgement.encode_agrees (a : Acknowledgement) (payload : Bytes) :
    encode a = .ok payload ↔ a.encode = .ok payload := by
  have hstatus := a.status.value_lt
  rw [encode_eq_ok_iff, pack_eq_ok_iff]
  simp only [RoboticCharacter.Acknowledgement.encode, bind_eq_ok_iff, requireUint_eq_ok_iff,
    pure_eq_ok_iff, exists_and_left, exists_const, format, toRow, packRow, List.zipWith_cons_cons,
    List.zipWith_nil_left, List.flatten_cons, List.flatten_nil, List.append_nil,
    List.forall₂_cons, List.forall₂_nil_left_iff, and_true]
  constructor
  · rintro ⟨⟨h1, h2⟩, rfl⟩
    rw [pack_H_eq _ h1, pack_B_eq _ h2]
    rw [Field.fits_H] at h1
    exact ⟨⟨h1.1, by omega⟩, rfl⟩
  · rintro ⟨hsequence, rfl⟩
    have h1 : Field.H.Fits a.acknowledgedSequence := by rw [Field.fits_H]; omega
    have h2 : Field.B.Fits a.status.value := by rw [Field.fits_B]; omega
    rw [pack_H_eq _ h1, pack_B_eq _ h2]
    exact ⟨⟨h1, h2⟩, rfl⟩

theorem JointTarget.encode_agrees (t : JointTarget) (data : Bytes) :
    encode t = .ok data ↔ t.encode = .ok data := by
  rw [encode_eq_ok_iff, pack_eq_ok_iff, RoboticCharacter.JointTarget.encode_eq_ok_iff]
  simp only [format, toRow, packRow, List.zipWith_cons_cons, List.zipWith_nil_left,
    List.flatten_cons, List.flatten_nil, List.append_nil, List.forall₂_cons,
    List.forall₂_nil_left_iff, and_true, RoboticCharacter.JointTarget.pack, pack_h_eq]
  constructor
  · rintro ⟨⟨h1, h2⟩, rfl⟩
    rw [pack_B_eq _ h1]
    rw [Field.fits_B] at h1
    rw [Field.fits_h] at h2
    exact ⟨⟨h1.1, by omega, h2.1, by omega⟩, rfl⟩
  · rintro ⟨h, rfl⟩
    have hid := h.id_le
    have htarget := h.target_le
    have h1 : Field.B.Fits t.jointId := (Field.fits_B _).mpr ⟨h.id_nonneg, by omega⟩
    rw [pack_B_eq _ h1]
    exact ⟨⟨h1, (Field.fits_h _).mpr ⟨h.target_ge, by omega⟩⟩, rfl⟩

theorem packEach_targets_agrees (targets : List JointTarget) (data : Bytes) :
    packEach JointTarget.encode targets = .ok data ↔
      RoboticCharacter.JointTarget.encodeAll targets = .ok data := by
  induction targets generalizing data with
  | nil => simp only [packEach, RoboticCharacter.JointTarget.encodeAll, Except.ok.injEq]
  | cons t rest ih =>
    simp only [packEach, RoboticCharacter.JointTarget.encodeAll, bind_eq_ok_iff, pure_eq_ok_iff,
      JointTarget.encode_agrees, ih]

theorem ValidatedMotionCommand.encode_agrees (c : ValidatedMotionCommand) (payload : Bytes) :
    encode c = .ok payload ↔ c.encode = .ok payload := by
  have hmode : c.mode.value < 256 := by cases c.mode; decide
  simp only [encode, RoboticCharacter.ValidatedMotionCommand.encode, bind_eq_ok_iff,
    fromProtocol_eq_ok_iff, fromStruct_eq_ok_iff, requireUint_eq_ok_iff, require_eq_ok_iff,
    pure_eq_ok_iff, exists_and_left, exists_const, packEach_targets_agrees, pack_eq_ok_iff,
    headFormat, tailFormat, packRow, List.zipWith_cons_cons, List.zipWith_nil_left,
    List.flatten_cons, List.flatten_nil, List.append_nil, List.forall₂_cons,
    List.forall₂_nil_left_iff, and_true]
  constructor
  · rintro ⟨httl, hvel, hacc, hcount, hids, _, ⟨⟨h1, h2, h3⟩, rfl⟩, ts, hts, _, ⟨⟨h4, h5⟩, rfl⟩,
      rfl⟩
    refine ⟨httl, hvel, hacc, hcount, hids, ts, hts, ?_⟩
    simp only [RoboticCharacter.ValidatedMotionCommand.packAround, pack_H_eq _ h1, pack_B_eq _ h2,
      pack_B_eq _ h3, pack_H_eq _ h4, pack_H_eq _ h5, List.append_assoc, Int.toNat_natCast]
  · rintro ⟨httl, hvel, hacc, hcount, hids, ts, hts, rfl⟩
    have hle := hcount.2
    unfold maxJointTargets at hle
    have h1 : Field.H.Fits c.ttlMs := by rw [Field.fits_H]; omega
    have h2 : Field.B.Fits c.mode.value := by rw [Field.fits_B]; omega
    have h3 : Field.B.Fits c.targets.length := by rw [Field.fits_B]; omega
    have h4 : Field.H.Fits c.maxVelocityCdegS := by rw [Field.fits_H]; omega
    have h5 : Field.H.Fits c.maxAccelerationCdegS2 := by rw [Field.fits_H]; omega
    refine ⟨httl, hvel, hacc, hcount, hids, _, ⟨⟨h1, h2, h3⟩, rfl⟩, ts, hts, _,
      ⟨⟨h4, h5⟩, rfl⟩, ?_⟩
    simp only [RoboticCharacter.ValidatedMotionCommand.packAround, pack_H_eq _ h1, pack_B_eq _ h2,
      pack_B_eq _ h3, pack_H_eq _ h4, pack_H_eq _ h5, List.append_assoc, Int.toNat_natCast]

end Agreement

/-- Every payload codec is an inverse pair over its whole format. -/
theorem payload_codecs_inverse :
    Inverse GloveTelemetry.encode GloveTelemetry.decode ∧
    Inverse Heartbeat.encode Heartbeat.decode ∧
    Inverse RobotTelemetry.encode RobotTelemetry.decode ∧
    Inverse ValidatedMotionCommand.encode ValidatedMotionCommand.decode ∧
    Inverse EmergencyStop.encode EmergencyStop.decode ∧
    Inverse Acknowledgement.encode Acknowledgement.decode :=
  ⟨GloveTelemetry.inverse, Heartbeat.inverse, RobotTelemetry.inverse,
    ValidatedMotionCommand.inverse, EmergencyStop.inverse, Acknowledgement.inverse⟩

end RoboticCharacter.Codec
