import Mathlib.Data.List.Nodup
import RoboticCharacter.ProtocolMotionCodec

/-! The two validators of a motion payload, the host's decoder and the firmware's check, over
all byte strings: one layout describes both, up to the joint id zero. -/
namespace RoboticCharacter
open Host Fallible

namespace Host

theorem packSigned_unpackSigned (data : Bytes) (offset : ℕ) (h : offset+2 ≤ data.length) :
    packSigned (unpackSigned data offset) = (data.drop offset).take 2 := by
  have hlt := unpackH_lt data offset
  have hraw : (unpackSigned data offset % 65536).toNat = unpackH data offset := by
    unfold unpackSigned
    split_ifs <;> omega
  rw [packSigned, hraw, packH_unpackH data offset h]

theorem unpackSigned_ge (data : Bytes) (offset : ℕ) : -32768 ≤ unpackSigned data offset := by
  unfold unpackSigned
  split_ifs <;> omega

theorem unpackSigned_le (data : Bytes) (offset : ℕ) : unpackSigned data offset ≤ 32767 := by
  have hlt := unpackH_lt data offset
  unfold unpackSigned
  split_ifs <;> omega

theorem unpackB_le (data : Bytes) (offset : ℕ) : unpackB data offset ≤ 255 := by
  rw [unpackB_eq_byteAt]
  exact Nat.le_of_lt_succ (byteAt data offset).toNat_lt

/-- The bytes at an offset, cut after the first `count` of them. -/
theorem take_append_drop_at (data : Bytes) (offset count : ℕ) :
    (data.drop offset).take count ++ data.drop (offset+count) = data.drop offset := by
  rw [← List.drop_drop, List.take_append_drop]

end Host

/-- The bytes that the loops of both validators read as joint ids. -/
def jointIdBytes (payload : Bytes) : ℕ → ℕ → List UInt8
  | 0, _ => []
  | remaining+1, offset => byteAt payload offset :: jointIdBytes payload remaining (offset+3)

/-- What both validators ask of a payload whose head names `count` joints. -/
structure MotionLayout (payload : Bytes) (count : ℕ) : Prop where
  count_eq : unpackB payload 19 = count
  count_pos : 1 ≤ count
  count_le : count ≤ maxJointTargets
  length_eq : payload.length = 24+count*3
  ttl_pos : 1 ≤ unpackH payload 16
  mode_eq : unpackB payload 18 = MotionMode.position.value
  velocity_pos : 1 ≤ unpackH payload (20+count*3)
  acceleration_pos : 1 ≤ unpackH payload (20+count*3+2)
  ids_nodup : (jointIdBytes payload count 20).Nodup

namespace JointTarget

theorem length_decodeAll (payload : Bytes) (count offset : ℕ) :
    (decodeAll payload count offset).length = count := by
  induction count generalizing offset with
  | zero => rfl
  | succ count ih => rw [decodeAll, List.length_cons, ih]

theorem encodable_decodeAll (payload : Bytes) (count offset : ℕ) :
    ∀ t ∈ decodeAll payload count offset, t.Encodable := by
  induction count generalizing offset with
  | zero => exact fun t ht => absurd ht List.not_mem_nil
  | succ count ih =>
    intro t ht
    rw [decodeAll] at ht
    obtain rfl | hrest := List.mem_cons.mp ht
    · exact ⟨Int.natCast_nonneg _, Int.ofNat_le.mpr (unpackB_le payload offset),
        unpackSigned_ge _ _, unpackSigned_le _ _⟩
    · exact ih (offset+3) t hrest

theorem ids_decodeAll (payload : Bytes) (count offset : ℕ) :
    (decodeAll payload count offset).map JointTarget.jointId =
      (jointIdBytes payload count offset).map fun id => (id.toNat : ℤ) := by
  induction count generalizing offset with
  | zero => rfl
  | succ count ih =>
    rw [decodeAll, jointIdBytes, List.map_cons, List.map_cons, ih, unpackB_eq_byteAt]

/-- Packing what was read gives the bytes it was read from. -/
theorem flatMap_pack_decodeAll (payload : Bytes) (count offset : ℕ)
    (hroom : offset+count*3 ≤ payload.length) :
    (decodeAll payload count offset).flatMap pack = (payload.drop offset).take (count*3) := by
  induction count generalizing offset with
  | zero => rw [Nat.zero_mul, List.take_zero, decodeAll, List.flatMap_nil]
  | succ count ih =>
    have hfirst : (⟨unpackB payload offset, unpackSigned payload (offset+1)⟩ : JointTarget).pack =
        (payload.drop offset).take 3 := by
      rw [pack, Int.toNat_natCast, packB_unpackB payload offset (by omega),
        packSigned_unpackSigned payload (offset+1) (by omega), ← List.drop_drop,
        ← List.take_add]
    rw [decodeAll, List.flatMap_cons, hfirst, ih (offset+3) (by omega), ← List.drop_drop,
      ← List.take_add]
    congr 1
    omega

end JointTarget

theorem nodup_ids_decodeAll_iff (payload : Bytes) (count offset : ℕ) :
    ((JointTarget.decodeAll payload count offset).map JointTarget.jointId).Nodup ↔
      (jointIdBytes payload count offset).Nodup := by
  rw [JointTarget.ids_decodeAll]
  apply List.nodup_map_iff
  intro a b hab
  exact UInt8.toNat_inj.mp (Int.ofNat.inj hab)

namespace ValidatedMotionCommand

/-- The ids of a packed command stand where both validators look for them. -/
theorem jointIdBytes_pack (c : ValidatedMotionCommand) (h : c.Encodable) :
    (jointIdBytes c.pack c.targets.length 20).Nodup := by
  have hleft : (c.commandId.bytes ++ (packH c.ttlMs.toNat ++ (packB c.mode.value ++
      packB c.targets.length))).length = 20 := by
    simp only [List.length_append, c.commandId.length_eq, length_packH, length_packB]
  have hread := JointTarget.decodeAll_flatMap_pack c.targets h.targets_encodable _
    (packH c.maxVelocityCdegS.toNat ++ packH c.maxAccelerationCdegS2.toNat) 20 hleft
  have htargets : JointTarget.decodeAll c.pack c.targets.length 20 = c.targets := by
    simpa only [pack, packAround, List.append_assoc] using hread
  rw [← nodup_ids_decodeAll_iff, htargets]
  exact h.ids_nodup

theorem layout_pack (c : ValidatedMotionCommand) (h : c.Encodable) :
    MotionLayout c.pack c.targets.length := by
  have hf := c.packedFields h
  have httl := h.ttl_pos
  have hvelocity := h.velocity_pos
  have hacceleration := h.acceleration_pos
  refine ⟨hf.count_eq, h.count_pos, h.count_le, ?_, ?_, ?_, ?_, ?_, c.jointIdBytes_pack h⟩
  · rw [c.length_pack]
    omega
  · rw [hf.ttl_eq]
    omega
  · rw [hf.mode_eq]
  · rw [hf.velocity_eq]
    omega
  · rw [hf.acceleration_eq]
    omega

/-- The command that a payload of `count` joints describes. -/
def ofPayload (payload : Bytes) (count : ℕ) (commandId : Uuid) : ValidatedMotionCommand where
  commandId
  ttlMs := unpackH payload 16
  mode := .position
  targets := JointTarget.decodeAll payload count 20
  maxVelocityCdegS := unpackH payload (20+count*3)
  maxAccelerationCdegS2 := unpackH payload (20+count*3+2)

theorem encodable_ofPayload {payload : Bytes} {count : ℕ} (commandId : Uuid)
    (h : MotionLayout payload count) : (ofPayload payload count commandId).Encodable := by
  have httl := unpackH_lt payload 16
  have hvelocity := unpackH_lt payload (20+count*3)
  have hacceleration := unpackH_lt payload (20+count*3+2)
  have httl' := h.ttl_pos
  have hvelocity' := h.velocity_pos
  have hacceleration' := h.acceleration_pos
  have hlength : (ofPayload payload count commandId).targets.length = count :=
    JointTarget.length_decodeAll payload count 20
  refine ⟨?_, ?_, ?_, ?_, ?_, ?_, ?_, ?_, ?_, JointTarget.encodable_decodeAll payload count 20⟩
  · exact Int.ofNat_le.mpr httl'
  · exact Int.ofNat_le.mpr (by omega : unpackH payload 16 ≤ 65535)
  · exact Int.ofNat_le.mpr hvelocity'
  · exact Int.ofNat_le.mpr (by omega : unpackH payload (20+count*3) ≤ 65535)
  · exact Int.ofNat_le.mpr hacceleration'
  · exact Int.ofNat_le.mpr (by omega : unpackH payload (20+count*3+2) ≤ 65535)
  · rw [hlength]
    exact h.count_pos
  · rw [hlength]
    exact h.count_le
  · exact (nodup_ids_decodeAll_iff payload count 20).mpr h.ids_nodup

theorem pack_ofPayload {payload : Bytes} {count : ℕ} (commandId : Uuid)
    (hid : payload.take 16 = commandId.bytes) (h : MotionLayout payload count) :
    (ofPayload payload count commandId).pack = payload := by
  have hlength := h.length_eq
  have htargets : (JointTarget.decodeAll payload count 20).length = count :=
    JointTarget.length_decodeAll payload count 20
  -- every field is the slice it was read from, and the slices follow one another
  have hhead : (payload.drop 16).take 2 ++ payload.drop 18 = payload.drop 16 :=
    take_append_drop_at payload 16 2
  have hmode : (payload.drop 18).take 1 ++ payload.drop 19 = payload.drop 18 :=
    take_append_drop_at payload 18 1
  have hcount : (payload.drop 19).take 1 ++ payload.drop 20 = payload.drop 19 :=
    take_append_drop_at payload 19 1
  have htail := take_append_drop_at payload (20+count*3) 2
  have hlast : (payload.drop (20+count*3+2)).take 2 = payload.drop (20+count*3+2) := by
    apply List.take_of_length_le
    rw [List.length_drop]
    omega
  have hcountByte : packB count = (payload.drop 19).take 1 := by
    rw [← packB_unpackB payload 19 (by omega), h.count_eq]
  unfold pack packAround ofPayload
  dsimp only
  rw [JointTarget.flatMap_pack_decodeAll payload count 20 (by omega), htargets, ← h.mode_eq,
    ← hid, hcountByte, Int.toNat_natCast, Int.toNat_natCast, Int.toNat_natCast,
    packH_unpackH payload 16 (by omega), packB_unpackB payload 18 (by omega),
    packH_unpackH payload (20+count*3) (by omega),
    packH_unpackH payload (20+count*3+2) (by omega), hlast, htail,
    take_append_drop_at payload 20 (count*3), hcount, hmode, hhead, List.take_append_drop]

/-- The host's decoder accepts exactly the layout. -/
theorem decode_accepts_iff (payload : Bytes) :
    (∃ c, Codec.ValidatedMotionCommand.decode payload = .ok c) ↔
      ∃ count, MotionLayout payload count := by
  constructor
  · rintro ⟨c, hdecode⟩
    have hencode := Codec.ValidatedMotionCommand.encode_of_decode payload c hdecode
    rw [Codec.ValidatedMotionCommand.encode_agrees, encode_eq_ok_iff] at hencode
    obtain ⟨hencodable, rfl⟩ := hencode
    exact ⟨c.targets.length, c.layout_pack hencodable⟩
  · rintro ⟨count, h⟩
    have hlength := h.length_eq
    have hid : (payload.take 16).length = 16 := by
      rw [List.length_take]
      omega
    refine ⟨ofPayload payload count ⟨payload.take 16, hid⟩, ?_⟩
    apply Codec.ValidatedMotionCommand.decode_of_encode
    rw [Codec.ValidatedMotionCommand.encode_agrees, encode_eq_ok_iff]
    exact ⟨encodable_ofPayload _ h, (pack_ofPayload _ rfl h).symm⟩

end ValidatedMotionCommand

namespace Firmware

/-- The firmware's loop refuses the id zero and any repetition. -/
theorem jointIdsValid_iff (payload : Bytes) (remaining offset : ℕ) (seen : List UInt8) :
    jointIdsValid payload remaining offset seen = true ↔
      0 ∉ jointIdBytes payload remaining offset ∧
        (jointIdBytes payload remaining offset).Nodup ∧
        ∀ id ∈ jointIdBytes payload remaining offset, id ∉ seen := by
  induction remaining generalizing offset seen with
  | zero => simp only [jointIdsValid, jointIdBytes, List.not_mem_nil, not_false_eq_true,
      List.nodup_nil, false_implies, implies_true, and_self]
  | succ remaining ih =>
    rw [jointIdsValid, jointIdBytes]
    split_ifs with hbad
    · simp only [List.mem_cons, not_or, List.nodup_cons, forall_eq_or_imp,
        false_iff]
      rintro ⟨⟨hzero, -⟩, -, hseen, -⟩
      obtain h | h := hbad
      · exact hzero h.symm
      · exact hseen h
    · rw [not_or] at hbad
      rw [kJointTargetPayloadSize, ih]
      simp only [List.mem_cons, not_or, List.nodup_cons, forall_eq_or_imp]
      constructor
      · rintro ⟨hzero, hnodup, hfresh⟩
        refine ⟨⟨Ne.symm hbad.1, hzero⟩, ⟨?_, hnodup⟩, hbad.2, fun id hid => (hfresh id hid).2⟩
        intro hmem
        exact (hfresh _ hmem).1 rfl
      · rintro ⟨⟨-, hzero⟩, ⟨hnew, hnodup⟩, -, hseen⟩
        refine ⟨hzero, hnodup, fun id hid => ⟨?_, hseen id hid⟩⟩
        rintro rfl
        exact hnew hid

/-- The firmware accepts a payload when its length fits the length argument and the check
passes. -/
def AcceptsMotion (payload : Bytes) : Prop :=
  ∃ payloadLength : UInt16, payloadLength.toNat = payload.length ∧
    validateMotionPayload payload payloadLength = true

theorem readU16Le_pos_iff (payload : Bytes) (offset : ℕ) :
    readU16Le payload offset > 0 ↔ 1 ≤ unpackH payload offset := by
  rw [gt_iff_lt, UInt16.lt_iff_toNat_lt, readU16Le_eq_unpackH]
  rfl

theorem readU16Le_zero_iff (payload : Bytes) (offset : ℕ) :
    readU16Le payload offset = 0 ↔ unpackH payload offset = 0 := by
  rw [← UInt16.toNat_inj, readU16Le_eq_unpackH]
  rfl

theorem byteAt_eq_iff (payload : Bytes) (offset : ℕ) (b : UInt8) :
    byteAt payload offset = b ↔ unpackB payload offset = b.toNat := by
  rw [unpackB_eq_byteAt, UInt8.toNat_inj]

/-- The firmware's check accepts the layout when no joint id is zero, and nothing else. -/
theorem acceptsMotion_iff (payload : Bytes) :
    AcceptsMotion payload ↔
      ∃ count, MotionLayout payload count ∧ 0 ∉ jointIdBytes payload count 20 := by
  constructor
  · rintro ⟨payloadLength, hn, hvalid⟩
    unfold validateMotionPayload at hvalid
    simp only [hn, kMotionFixedPayloadSize, kJointTargetPayloadSize, kMaxJointTargets,
      readU16Le_zero_iff, byteAt_eq_iff, ← unpackB_eq_byteAt] at hvalid
    split_ifs at hvalid with hshort hhead hlength hids
    simp only [not_or, not_not] at hhead hlength
    -- the checks passed, each as a fact about the layout
    obtain ⟨httl, hmode, hzero, hcount⟩ := hhead
    rw [Bool.and_eq_true, decide_eq_true_eq, decide_eq_true_eq, readU16Le_pos_iff,
      readU16Le_pos_iff] at hvalid
    obtain ⟨hnozero, hnodup, -⟩ := (jointIdsValid_iff payload _ 20 []).mp hids
    have hpos : unpackB payload 19 ≠ 0 := hzero
    refine ⟨unpackB payload 19, ⟨rfl, ?_, ?_, ?_, ?_, (byteAt_eq_iff payload 18 _).mp hmode,
      hvalid.1, hvalid.2, hnodup⟩, hnozero⟩
    · omega
    · rw [maxJointTargets]
      omega
    · omega
    · omega
  · rintro ⟨count, h, hnozero⟩
    have hlength := h.length_eq
    have hcount := h.count_le
    have hpos := h.count_pos
    have httl := h.ttl_pos
    rw [maxJointTargets] at hcount
    have hfits : (UInt16.ofNat payload.length).toNat = payload.length := by
      rw [UInt16.toNat_ofNat', Nat.mod_eq_of_lt (by omega)]
    refine ⟨UInt16.ofNat payload.length, hfits, ?_⟩
    have hids : jointIdsValid payload count 20 [] = true :=
      (jointIdsValid_iff payload count 20 []).mpr
        ⟨hnozero, h.ids_nodup, fun _ _ => List.not_mem_nil⟩
    have hmode : unpackB payload 18 = kPositionMotionMode.toNat := h.mode_eq
    unfold validateMotionPayload
    simp only [hfits, kMotionFixedPayloadSize, kJointTargetPayloadSize, kMaxJointTargets,
      readU16Le_zero_iff, byteAt_eq_iff, ← unpackB_eq_byteAt, h.count_eq, ne_eq]
    have hzero : ¬ count = (0 : UInt8).toNat := by
      change ¬ count = 0
      omega
    rw [if_neg (by omega), if_neg (by
      rw [not_or, not_or, not_or, not_not]
      exact ⟨by omega, hmode, hzero, by omega⟩), if_neg (by omega), if_pos hids,
      Bool.and_eq_true, decide_eq_true_eq, decide_eq_true_eq, readU16Le_pos_iff,
      readU16Le_pos_iff]
    exact ⟨h.velocity_pos, h.acceleration_pos⟩

/-- A payload that is well formed but for a joint of id zero. -/
def NamesJointZero (payload : Bytes) : Prop :=
  ∃ count, MotionLayout payload count ∧ 0 ∈ jointIdBytes payload count 20

/-- Host and firmware accept the same payloads, those that name joint zero apart. -/
theorem motion_payloads_agree_iff (payload : Bytes) :
    ((∃ c, Codec.ValidatedMotionCommand.decode payload = .ok c) ↔ AcceptsMotion payload) ↔
      ¬ NamesJointZero payload := by
  rw [ValidatedMotionCommand.decode_accepts_iff, acceptsMotion_iff]
  constructor
  · rintro hagree ⟨count, h, hzero⟩
    obtain ⟨count', h', hnozero⟩ := hagree.mp ⟨count, h⟩
    rw [← h'.count_eq, h.count_eq] at hnozero
    exact hnozero hzero
  · intro hnames
    constructor
    · rintro ⟨count, h⟩
      exact ⟨count, h, fun hzero => hnames ⟨count, h, hzero⟩⟩
    · rintro ⟨count, h, -⟩
      exact ⟨count, h⟩

/-- The motion payload of the firmware's contract test, with joint zero in place of one. -/
def jointZeroPayload : Bytes :=
  (7 :: List.replicate 15 0) ++
    (writeU16Le 250 ++ ([1, 1, 0] ++ (writeU16Le 0 ++ (writeU16Le 6000 ++ writeU16Le 18000))))

theorem jointZeroPayload_layout : MotionLayout jointZeroPayload 1 := by
  constructor
  all_goals decide

theorem motion_payloads_disagree :
    ¬ ∀ payload, (∃ c, Codec.ValidatedMotionCommand.decode payload = .ok c) ↔
      AcceptsMotion payload := by
  intro h
  have haccepts := (h jointZeroPayload).mp
    ((ValidatedMotionCommand.decode_accepts_iff _).mpr ⟨1, jointZeroPayload_layout⟩)
  obtain ⟨count, hlayout, hnozero⟩ := (acceptsMotion_iff _).mp haccepts
  rw [← hlayout.count_eq, jointZeroPayload_layout.count_eq] at hnozero
  exact hnozero (by decide)

end Firmware

end RoboticCharacter
