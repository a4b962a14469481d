import RoboticCharacter.ProtocolMessages
import RoboticCharacter.FirmwareRuntime

/-! The validated motion command: the host's codec, and the firmware's acceptance of
what the host encodes. -/
namespace RoboticCharacter
open Host Fallible

structure ValidatedMotionCommand where
  commandId : Uuid
  ttlMs : ℤ
  mode : MotionMode
  targets : List JointTarget
  maxVelocityCdegS : ℤ
  maxAccelerationCdegS2 : ℤ
  deriving DecidableEq

namespace ValidatedMotionCommand

/-- The bytes of a command around its packed targets. -/
def packAround (c : ValidatedMotionCommand) (targets : Bytes) : Bytes :=
  c.commandId.bytes ++ (packH c.ttlMs.toNat ++ (packB c.mode.value ++
    (packB c.targets.length ++ (targets ++
      (packH c.maxVelocityCdegS.toNat ++ packH c.maxAccelerationCdegS2.toNat)))))

def encode (c : ValidatedMotionCommand) : Except ProtocolError Bytes := do
  requireUint "ttl_ms" c.ttlMs 16 1
  requireUint "max_velocity_cdeg_s" c.maxVelocityCdegS 16 1
  requireUint "max_acceleration_cdeg_s2" c.maxAccelerationCdegS2 16 1
  require (1 ≤ c.targets.length ∧ c.targets.length ≤ maxJointTargets)
    (.protocol "motion command has invalid joint target count")
  require (c.targets.map JointTarget.jointId).Nodup
    (.protocol "motion command contains duplicate joint ids")
  let targets ← JointTarget.encodeAll c.targets
  return c.packAround targets

def decode (payload : Bytes) : Except ProtocolError ValidatedMotionCommand :=
  let minimumSize := 16+4+3+4
  if h : payload.length < minimumSize then .error (.protocol "motion command payload is truncated")
  else
    let commandId : Uuid := ⟨payload.take 16, by rw [List.length_take]; omega⟩
    let ttlMs := unpackH payload 16
    let rawMode := unpackB payload 18
    let jointCount := unpackB payload 19
    if ¬ (1 ≤ jointCount ∧ jointCount ≤ maxJointTargets) then
      .error (.protocol "motion command has invalid joint target count")
    else if payload.length ≠ 16+4+jointCount*3+4 then
      .error (.protocol "motion command payload length mismatch")
    else
      match MotionMode.ofValue? rawMode with
      | none => .error (.protocol "unknown motion command mode")
      | some mode =>
        let offset := 20+jointCount*3
        let decoded : ValidatedMotionCommand :=
          { commandId
            ttlMs
            mode
            targets := JointTarget.decodeAll payload jointCount 20
            maxVelocityCdegS := unpackH payload offset
            maxAccelerationCdegS2 := unpackH payload (offset+2) }
        do
          let _ ← decoded.encode
          return decoded

structure Encodable (c : ValidatedMotionCommand) : Prop where
  ttl_pos : 1 ≤ c.ttlMs
  ttl_le : c.ttlMs ≤ 0xFFFF
  velocity_pos : 1 ≤ c.maxVelocityCdegS
  velocity_le : c.maxVelocityCdegS ≤ 0xFFFF
  acceleration_pos : 1 ≤ c.maxAccelerationCdegS2
  acceleration_le : c.maxAccelerationCdegS2 ≤ 0xFFFF
  count_pos : 1 ≤ c.targets.length
  count_le : c.targets.length ≤ maxJointTargets
  ids_nodup : (c.targets.map JointTarget.jointId).Nodup
  targets_encodable : ∀ t ∈ c.targets, t.Encodable

def pack (c : ValidatedMotionCommand) : Bytes := c.packAround (c.targets.flatMap JointTarget.pack)

theorem encode_eq_ok_iff (c : ValidatedMotionCommand) (data : Bytes) :
    c.encode = .ok data ↔ c.Encodable ∧ data = c.pack := by
  simp only [encode, requireUint, bind_eq_ok_iff, require_eq_ok_iff, pure_eq_ok_iff,
    exists_and_left, exists_const, JointTarget.encodeAll_eq_ok_iff]
  constructor
  · rintro ⟨⟨httl, _⟩, ⟨hvel, _⟩, ⟨hacc, _⟩, ⟨hpos, hcount⟩, hids, _, ⟨htargets, rfl⟩, rfl⟩
    exact ⟨⟨httl, by omega, hvel, by omega, hacc, by omega, hpos, hcount, hids, htargets⟩, rfl⟩
  · rintro ⟨h, rfl⟩
    have httl := h.ttl_le
    have hvel := h.velocity_le
    have hacc := h.acceleration_le
    exact ⟨⟨h.ttl_pos, by omega⟩, ⟨h.velocity_pos, by omega⟩, ⟨h.acceleration_pos, by omega⟩,
      ⟨h.count_pos, h.count_le⟩, h.ids_nodup, _, ⟨h.targets_encodable, rfl⟩, rfl⟩

theorem length_pack (c : ValidatedMotionCommand) : c.pack.length = 24+3*c.targets.length := by
  simp only [pack, packAround, List.length_append, c.commandId.length_eq, length_packH,
    length_packB, JointTarget.length_flatMap_pack]
  omega

/-- The fields of a packed command, read at their offsets. -/
structure PackedFields (c : ValidatedMotionCommand) (payload : Bytes) : Prop where
  id_eq : payload.take 16 = c.commandId.bytes
  ttl_eq : unpackH payload 16 = c.ttlMs.toNat
  mode_eq : unpackB payload 18 = c.mode.value
  count_eq : unpackB payload 19 = c.targets.length
  velocity_eq : unpackH payload (20+c.targets.length*3) = c.maxVelocityCdegS.toNat
  acceleration_eq : unpackH payload (20+c.targets.length*3+2) = c.maxAccelerationCdegS2.toNat

theorem packedFields (c : ValidatedMotionCommand) (h : c.Encodable) : c.PackedFields c.pack := by
  have hid := c.commandId.length_eq
  have hcount := h.count_le
  unfold maxJointTargets at hcount
  have hmode : c.mode.value < 256 := by cases c.mode; decide
  have httl := h.ttl_le
  have hvel := h.velocity_le
  have hacc := h.acceleration_le
  unfold pack packAround
  refine ⟨List.take_left' hid, unpackH_packH _ _ _ _ hid (by omega), ?_, ?_, ?_, ?_⟩
  -- each field in turn: bracket the bytes before it together, then read it back
  · rw [← List.append_assoc c.commandId.bytes]
    exact unpackB_packB _ _ _ _ (by simp only [List.length_append, hid, length_packH]) hmode
  · rw [← List.append_assoc c.commandId.bytes, ← List.append_assoc (_ ++ packH _)]
    exact unpackB_packB _ _ _ _
      (by simp only [List.length_append, hid, length_packH, length_packB]) (by omega)
  · rw [← List.append_assoc c.commandId.bytes, ← List.append_assoc (_ ++ packH _),
      ← List.append_assoc (_ ++ packB _), ← List.append_assoc (_ ++ packB _)]
    refine unpackH_packH _ _ _ _ ?_ (by omega)
    simp only [List.length_append, hid, length_packH, length_packB,
      JointTarget.length_flatMap_pack]
    omega
  · rw [← List.append_assoc c.commandId.bytes, ← List.append_assoc (_ ++ packH _),
      ← List.append_assoc (_ ++ packB _), ← List.append_assoc (_ ++ packB _),
      ← List.append_assoc (_ ++ List.flatMap _ _),
      ← List.append_nil (packH c.maxAccelerationCdegS2.toNat)]
    refine unpackH_packH _ _ _ _ ?_ (by omega)
    simp only [List.length_append, hid, length_packH, length_packB,
      JointTarget.length_flatMap_pack]
    omega

theorem decode_pack (c : ValidatedMotionCommand) (h : c.Encodable) : decode c.pack = .ok c := by
  have hf := c.packedFields h
  have hlen := c.length_pack
  have hcount := h.count_pos
  have htargets : JointTarget.decodeAll c.pack c.targets.length 20 = c.targets := by
    have hleft : (c.commandId.bytes ++ (packH c.ttlMs.toNat ++ (packB c.mode.value ++
        packB c.targets.length))).length = 20 := by
      simp only [List.length_append, c.commandId.length_eq, length_packH, length_packB]
    have hread := JointTarget.decodeAll_flatMap_pack c.targets h.targets_encodable _
      (packH c.maxVelocityCdegS.toNat ++ packH c.maxAccelerationCdegS2.toNat) 20 hleft
    simpa only [pack, packAround, List.append_assoc] using hread
  have hmode : MotionMode.ofValue? c.mode.value = some c.mode := by cases c.mode; rfl
  have hcast : ∀ z : ℤ, 1 ≤ z → (z.toNat : ℤ) = z := fun z hz => Int.toNat_of_nonneg (by omega)
  have hself : c.encode = .ok c.pack := (c.encode_eq_ok_iff _).mpr ⟨h, rfl⟩
  unfold decode
  rw [dif_neg (by omega)]
  simp only [hf.id_eq, hf.ttl_eq, hf.mode_eq, hf.count_eq, hf.velocity_eq, hf.acceleration_eq,
    hlen, htargets, hmode, hcast _ h.ttl_pos, hcast _ h.velocity_pos, hcast _ h.acceleration_pos]
  rw [if_neg (not_not.mpr ⟨hcount, h.count_le⟩), if_neg (by omega), bind_eq_ok_iff]
  exact ⟨c.pack, hself, rfl⟩

end ValidatedMotionCommand

namespace Firmware

/-- A joint id on the wire is one byte. -/
theorem jointId_byte_toNat (t : JointTarget) (h : t.Encodable) :
    (UInt8.ofNat t.jointId.toNat).toNat = t.jointId.toNat := by
  have hid := h.id_le
  rw [UInt8.toNat_ofNat', Nat.mod_eq_of_lt (by omega)]

/-- Joint ids that are non-zero and pairwise different pass the firmware's loop. -/
theorem jointIdsValid_flatMap_pack (ts : List JointTarget) (h : ∀ t ∈ ts, t.Encodable)
    (hpos : ∀ t ∈ ts, 1 ≤ t.jointId) (hnodup : (ts.map JointTarget.jointId).Nodup)
    (left right : Bytes) (offset : ℕ) (hl : left.length = offset) (seen : List UInt8)
    (hseen : ∀ t ∈ ts, UInt8.ofNat t.jointId.toNat ∉ seen) :
    jointIdsValid (left ++ (ts.flatMap JointTarget.pack ++ right)) ts.length offset seen =
      true := by
  induction ts generalizing left offset seen with
  | nil => rfl
  | cons t rest ih =>
    have ht := h t (List.mem_cons_self ..)
    have htpos := hpos t (List.mem_cons_self ..)
    have hidle := ht.id_le
    obtain ⟨hfresh, hrest⟩ := List.nodup_cons.mp hnodup
    have hread := unpackB_packB left
      (packSigned t.targetCdeg ++ (rest.flatMap JointTarget.pack ++ right))
      t.jointId.toNat offset hl (by omega)
    rw [unpackB_eq_byteAt] at hread
    have hid : byteAt (left ++ ((t :: rest).flatMap JointTarget.pack ++ right)) offset =
        UInt8.ofNat t.jointId.toNat := by
      apply UInt8.toNat_inj.mp
      rw [jointId_byte_toNat t ht, ← hread]
      simp only [List.flatMap_cons, JointTarget.pack, List.append_assoc]
    have hzero : UInt8.ofNat t.jointId.toNat ≠ 0 := by
      intro hz
      have hbyte := congrArg UInt8.toNat hz
      rw [jointId_byte_toNat t ht] at hbyte
      change t.jointId.toNat = 0 at hbyte
      omega
    have htail := ih (fun u hu => h u (List.mem_cons_of_mem _ hu))
      (fun u hu => hpos u (List.mem_cons_of_mem _ hu)) hrest (left ++ t.pack) (offset+3)
      (by rw [List.length_append, hl, JointTarget.length_pack])
      (UInt8.ofNat t.jointId.toNat :: seen) (by
        intro u hu hmem
        rcases List.mem_cons.mp hmem with heq | hold
        · -- two ids with one byte are one id
          have hupos := hpos u (List.mem_cons_of_mem _ hu)
          have hbyte := congrArg UInt8.toNat heq
          rw [jointId_byte_toNat u (h u (List.mem_cons_of_mem _ hu)),
            jointId_byte_toNat t ht] at hbyte
          refine hfresh (List.mem_map.mpr ⟨u, hu, ?_⟩)
          omega
        · exact hseen u (List.mem_cons_of_mem _ hu) hold)
    rw [List.length_cons, jointIdsValid, hid,
      if_neg (not_or.mpr ⟨hzero, hseen t (List.mem_cons_self ..)⟩)]
    simpa only [kJointTargetPayloadSize, List.flatMap_cons, List.append_assoc] using htail

/-- The firmware accepts what the host encodes, when no joint has the id zero. -/
theorem validateMotionPayload_pack (c : ValidatedMotionCommand) (h : c.Encodable)
    (hpos : ∀ t ∈ c.targets, 1 ≤ t.jointId) :
    validateMotionPayload c.pack (UInt16.ofNat c.pack.length) = true := by
  have hf := c.packedFields h
  have hlen := c.length_pack
  have hcount := h.count_le
  have hcountpos := h.count_pos
  unfold maxJointTargets at hcount
  have hl16 : (UInt16.ofNat c.pack.length).toNat = c.pack.length := by
    rw [UInt16.toNat_ofNat', Nat.mod_eq_of_lt (by omega)]
  have hids : jointIdsValid c.pack c.targets.length 20 [] = true := by
    have hleft : (c.commandId.bytes ++ (packH c.ttlMs.toNat ++ (packB c.mode.value ++
        packB c.targets.length))).length = 20 := by
      simp only [List.length_append, c.commandId.length_eq, length_packH, length_packB]
    have hread := jointIdsValid_flatMap_pack c.targets h.targets_encodable hpos h.ids_nodup _
      (packH c.maxVelocityCdegS.toNat ++ packH c.maxAccelerationCdegS2.toNat) 20 hleft []
      (fun _ _ => List.not_mem_nil)
    simpa only [ValidatedMotionCommand.pack, ValidatedMotionCommand.packAround,
      List.append_assoc] using hread
  have hword : ∀ offset n : ℕ, unpackH c.pack offset = n → 1 ≤ n →
      readU16Le c.pack offset ≠ 0 := by
    intro offset n hn hpos hz
    have := congrArg UInt16.toNat hz
    rw [readU16Le_eq_unpackH, hn] at this
    change n = 0 at this
    omega
  have httl := hword 16 _ hf.ttl_eq (by have := h.ttl_pos; omega)
  have hvel := hword _ _ hf.velocity_eq (by have := h.velocity_pos; omega)
  have hacc := hword _ _ hf.acceleration_eq (by have := h.acceleration_pos; omega)
  have hmode : byteAt c.pack 18 = kPositionMotionMode := by
    apply UInt8.toNat_inj.mp
    rw [← unpackB_eq_byteAt, hf.mode_eq]
    cases c.mode
    rfl
  have hn : (byteAt c.pack 19).toNat = c.targets.length := by
    rw [← unpackB_eq_byteAt, hf.count_eq]
  have hn0 : byteAt c.pack 19 ≠ 0 := by
    intro hz
    rw [hz] at hn
    change 0 = c.targets.length at hn
    omega
  -- length, fields, total size, ids and limits: the checks in the source's order
  unfold validateMotionPayload
  simp only [hl16, hn, hids, hmode, kMotionFixedPayloadSize, kJointTargetPayloadSize,
    kMaxJointTargets]
  rw [if_neg (by omega),
    if_neg (not_or.mpr ⟨httl, not_or.mpr ⟨not_not.mpr rfl, not_or.mpr ⟨hn0, by omega⟩⟩⟩),
    if_neg (by omega)]
  simp only [↓reduceIte, gt_iff_lt, Bool.and_eq_true, decide_eq_true_eq, UInt16.pos_iff_ne_zero]
  exact ⟨hvel, hacc⟩

end Firmware

end RoboticCharacter
