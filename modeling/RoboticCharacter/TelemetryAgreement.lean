import Mathlib.Data.List.Nodup
import RoboticCharacter.FirmwarePayloads
import RoboticCharacter.ProtocolTelemetry

/-! The robot's report: the firmware's encoder beside the host's codec. -/
namespace RoboticCharacter.Firmware
open Fallible PythonStruct

def kMaxRobotTelemetryJoints : ℕ := 8
def kRobotTelemetryHeadSize : ℕ := 9
def kRobotJointTelemetrySize : ℕ := 7

structure RobotJointTelemetry where
  jointId : UInt8
  positionCdeg : Int16
  velocityCdegS : Int16
  currentMa : UInt16
  deriving DecidableEq

/-- The record of the firmware; only the first `jointCount` joints are in use. -/
structure RobotTelemetry where
  uptimeMs : UInt32
  state : UInt8
  flags : UInt8
  supplyMv : UInt16
  jointCount : UInt8
  joints : Vector RobotJointTelemetry kMaxRobotTelemetryJoints

/-- `WriteU32Le`: the four bytes stored at `out`. -/
def writeU32Le (value : UInt32) : Bytes :=
  [(value &&& 0xFF).toUInt8, ((value >>> 8) &&& 0xFF).toUInt8,
    ((value >>> 16) &&& 0xFF).toUInt8, ((value >>> 24) &&& 0xFF).toUInt8]

/-- The fields of one joint, as the loop of the encoder stores them. -/
def RobotJointTelemetry.write (joint : RobotJointTelemetry) : Bytes :=
  [joint.jointId] ++ writeI16Le joint.positionCdeg ++ writeI16Le joint.velocityCdegS ++
    writeU16Le joint.currentMa

/-- The loop over the joints in use, which gives up at a joint of id zero. -/
def writeJoints : List RobotJointTelemetry → Option Bytes
  | [] => some []
  | joint :: rest =>
    if joint.jointId = 0 then none
    else (writeJoints rest).map fun bytes => joint.write ++ bytes

def RobotTelemetry.usedJoints (telemetry : RobotTelemetry) : List RobotJointTelemetry :=
  telemetry.joints.toList.take telemetry.jointCount.toNat

/-- `EncodeRobotTelemetryPayload`: the bytes stored at `out`, none when it returns zero. -/
def encodeRobotTelemetryPayload (telemetry : RobotTelemetry) (capacity : ℕ) : Bytes :=
  if telemetry.jointCount = 0 ∨ telemetry.jointCount.toNat > kMaxRobotTelemetryJoints then []
  else
    let required := kRobotTelemetryHeadSize+telemetry.jointCount.toNat*kRobotJointTelemetrySize
    if capacity < required then []
    else
      match writeJoints telemetry.usedJoints with
      | none => []
      | some joints =>
        writeU32Le telemetry.uptimeMs ++ [telemetry.state] ++ [telemetry.flags] ++
          writeU16Le telemetry.supplyMv ++ [telemetry.jointCount] ++ joints

/-- The host's record of one joint with the same field values. -/
def RobotJointTelemetry.toHost (joint : RobotJointTelemetry) :
    RoboticCharacter.RobotJointTelemetry where
  jointId := joint.jointId.toNat
  positionCdeg := joint.positionCdeg.toInt
  velocityCdegS := joint.velocityCdegS.toInt
  currentMa := joint.currentMa.toNat

/-- The host's record has the field values of the firmware's. -/
structure RobotTelemetry.SameFields (telemetry : RobotTelemetry)
    (t : RoboticCharacter.RobotTelemetry) : Prop where
  uptime_eq : t.uptimeMs = telemetry.uptimeMs.toNat
  state_eq : t.state.value = telemetry.state.toNat
  flags_eq : t.flags = telemetry.flags.toNat
  supply_eq : t.supplyMv = telemetry.supplyMv.toNat
  count_eq : t.joints.length = telemetry.jointCount.toNat
  joints_eq : t.joints = telemetry.usedJoints.map RobotJointTelemetry.toHost

/-- What the firmware checks: a count of one to eight, and no joint of id zero among them. -/
structure RobotTelemetry.Checked (telemetry : RobotTelemetry) : Prop where
  count_pos : 1 ≤ telemetry.jointCount.toNat
  count_le : telemetry.jointCount.toNat ≤ kMaxRobotTelemetryJoints
  ids_pos : ∀ joint ∈ telemetry.usedJoints, joint.jointId ≠ 0

/-- What only the host checks: the state is one it knows, and no joint id comes twice. -/
structure RobotTelemetry.HostChecked (telemetry : RobotTelemetry) : Prop where
  state_known : ∃ state : WireSystemState, state.value = telemetry.state.toNat
  ids_nodup : (telemetry.usedJoints.map RobotJointTelemetry.jointId).Nodup

theorem writeJoints_eq_some_iff (joints : List RobotJointTelemetry) (bytes : Bytes) :
    writeJoints joints = some bytes ↔
      (∀ joint ∈ joints, joint.jointId ≠ 0) ∧ bytes = joints.flatMap RobotJointTelemetry.write := by
  induction joints generalizing bytes with
  | nil => simp only [writeJoints, Option.some.injEq, List.not_mem_nil, false_implies,
      implies_true, true_and, List.flatMap_nil, eq_comm]
  | cons joint rest ih =>
    rw [writeJoints]
    split_ifs with hzero
    · simp only [List.forall_mem_cons, false_iff]
      exact fun h => h.1.1 hzero
    · simp only [Option.map_eq_some_iff, ih, List.forall_mem_cons, List.flatMap_cons]
      constructor
      · rintro ⟨_, ⟨hrest, rfl⟩, rfl⟩
        exact ⟨⟨hzero, hrest⟩, rfl⟩
      · rintro ⟨⟨-, hrest⟩, rfl⟩
        exact ⟨_, ⟨hrest, rfl⟩, rfl⟩

/-- The bytes of a report. -/
def RobotTelemetry.write (telemetry : RobotTelemetry) : Bytes :=
  writeU32Le telemetry.uptimeMs ++ [telemetry.state] ++ [telemetry.flags] ++
    writeU16Le telemetry.supplyMv ++ [telemetry.jointCount] ++
      telemetry.usedJoints.flatMap RobotJointTelemetry.write

theorem RobotTelemetry.write_ne_nil (telemetry : RobotTelemetry) : telemetry.write ≠ [] := by
  simp [RobotTelemetry.write, writeU32Le]

theorem RobotTelemetry.length_usedJoints {telemetry : RobotTelemetry}
    (h : telemetry.jointCount.toNat ≤ kMaxRobotTelemetryJoints) :
    telemetry.usedJoints.length = telemetry.jointCount.toNat := by
  rw [usedJoints, List.length_take, Vector.length_toList, min_eq_left h]

theorem encodeRobotTelemetryPayload_checked {telemetry : RobotTelemetry} {capacity : ℕ}
    (hroom : kRobotTelemetryHeadSize+telemetry.jointCount.toNat*kRobotJointTelemetrySize ≤ capacity)
    (h : telemetry.Checked) : encodeRobotTelemetryPayload telemetry capacity = telemetry.write := by
  have hpos := h.count_pos
  have hcount : ¬ (telemetry.jointCount = 0 ∨
      telemetry.jointCount.toNat > kMaxRobotTelemetryJoints) := by
    rintro (hzero | hmany)
    · rw [hzero] at hpos
      exact absurd hpos (by decide)
    · exact absurd h.count_le (not_le.mpr hmany)
  have hjoints := (writeJoints_eq_some_iff telemetry.usedJoints _).mpr ⟨h.ids_pos, rfl⟩
  unfold encodeRobotTelemetryPayload
  rw [if_neg hcount]
  dsimp only
  rw [if_neg (not_lt.mpr hroom), hjoints]
  rfl

theorem encodeRobotTelemetryPayload_unchecked {telemetry : RobotTelemetry} (capacity : ℕ)
    (h : ¬ telemetry.Checked) : encodeRobotTelemetryPayload telemetry capacity = [] := by
  unfold encodeRobotTelemetryPayload
  dsimp only
  split_ifs with hcount hroom
  · rfl
  · rfl
  · cases hjoints : writeJoints telemetry.usedJoints with
    | none => rfl
    | some bytes =>
      rw [not_or, not_lt] at hcount
      have hids := ((writeJoints_eq_some_iff telemetry.usedJoints bytes).mp hjoints).1
      refine absurd ⟨?_, hcount.2, hids⟩ h
      rw [Nat.one_le_iff_ne_zero]
      exact fun hzero => hcount.1 (UInt8.toNat_inj.mp hzero)

/-- With room for the report, the firmware encodes exactly what passes its checks. -/
theorem encodeRobotTelemetryPayload_ne_nil_iff {telemetry : RobotTelemetry} {capacity : ℕ}
    (hroom :
      kRobotTelemetryHeadSize+telemetry.jointCount.toNat*kRobotJointTelemetrySize ≤ capacity) :
    encodeRobotTelemetryPayload telemetry capacity ≠ [] ↔ telemetry.Checked := by
  by_cases h : telemetry.Checked
  · rw [encodeRobotTelemetryPayload_checked hroom h]
    exact iff_of_true telemetry.write_ne_nil h
  · rw [encodeRobotTelemetryPayload_unchecked capacity h]
    exact iff_of_false (fun hne => hne rfl) h

theorem fits_U32 (value : UInt32) : Field.I.Fits value.toNat := by
  have h := value.toNat_lt
  rw [Field.fits_I]
  omega

theorem writeU32Le_eq_packI (value : UInt32) : writeU32Le value = Host.packI value.toNat := by
  have hbyte (shifted : UInt32) : (shifted &&& 0xFF).toUInt8 = UInt8.ofNat shifted.toNat := by
    apply UInt8.toNat_inj.mp
    rw [UInt32.toNat_toUInt8, UInt32.toNat_and, UInt8.toNat_ofNat']
    exact (congrArg (· % 2^8) (Nat.and_two_pow_sub_one_eq_mod shifted.toNat 8)).trans
      (Nat.mod_mod _ _)
  have hshift (k : UInt32) (hk : k.toNat < 32) :
      (value >>> k).toNat = value.toNat / 2^k.toNat := by
    rw [UInt32.toNat_shiftRight, Nat.mod_eq_of_lt hk, Nat.shiftRight_eq_div_pow]
  simp only [writeU32Le, hbyte, hshift 8 (by decide), hshift 16 (by decide),
    hshift 24 (by decide), Host.packI, LittleEndian.encode, Nat.div_div_eq_div_mul]
  rfl

theorem pack_U32 (value : UInt32) : Field.I.pack value.toNat = writeU32Le value := by
  rw [Codec.pack_I_eq _ (fits_U32 value), writeU32Le_eq_packI, Int.toNat_natCast]

theorem host_encode_joint_iff (joint : RobotJointTelemetry) (bytes : Bytes) :
    Codec.RobotJointTelemetry.encode joint.toHost = .ok bytes ↔
      joint.jointId ≠ 0 ∧ bytes = joint.write := by
  have hid : (1 : ℤ) ≤ joint.jointId.toNat ↔ joint.jointId ≠ 0 := by
    rw [ne_eq, ← UInt8.toNat_inj]
    change (1 : ℤ) ≤ joint.jointId.toNat ↔ ¬ joint.jointId.toNat = 0
    omega
  rw [Codec.RobotJointTelemetry.encode_eq_ok_iff, pack_eq_ok_iff]
  simp only [Codec.RobotJointTelemetry.format, Codec.RobotJointTelemetry.toRow,
    RobotJointTelemetry.toHost, hid, packRow, List.zipWith_cons_cons, List.zipWith_nil_left,
    List.flatten_cons, List.flatten_nil, List.append_nil, List.forall₂_cons,
    List.forall₂_nil_left_iff, fits_U8, fits_I16, fits_U16, and_true, true_and, pack_U8,
    pack_I16, pack_U16, RobotJointTelemetry.write, List.append_assoc]

theorem host_encode_joints_iff (joints : List RobotJointTelemetry) (bytes : Bytes) :
    packEach Codec.RobotJointTelemetry.encode (joints.map RobotJointTelemetry.toHost) =
        .ok bytes ↔
      (∀ joint ∈ joints, joint.jointId ≠ 0) ∧ bytes = joints.flatMap RobotJointTelemetry.write := by
  induction joints generalizing bytes with
  | nil => simp only [List.map_nil, packEach, Except.ok.injEq, List.not_mem_nil, false_implies,
      implies_true, true_and, List.flatMap_nil, eq_comm]
  | cons joint rest ih =>
    simp only [List.map_cons, packEach, bind_eq_ok_iff, pure_eq_ok_iff, host_encode_joint_iff, ih,
      List.forall_mem_cons, List.flatMap_cons]
    constructor
    · rintro ⟨_, ⟨hjoint, rfl⟩, _, ⟨hrest, rfl⟩, rfl⟩
      exact ⟨⟨hjoint, hrest⟩, rfl⟩
    · rintro ⟨⟨hjoint, hrest⟩, rfl⟩
      exact ⟨_, ⟨hjoint, rfl⟩, _, ⟨hrest, rfl⟩, rfl⟩

theorem nodup_host_ids_iff (joints : List RobotJointTelemetry) :
    ((joints.map RobotJointTelemetry.toHost).map (·.jointId)).Nodup ↔
      (joints.map RobotJointTelemetry.jointId).Nodup := by
  have hids : (joints.map RobotJointTelemetry.toHost).map (·.jointId) =
      (joints.map RobotJointTelemetry.jointId).map fun id => (id.toNat : ℤ) := by
    rw [List.map_map, List.map_map]
    rfl
  rw [hids]
  apply List.nodup_map_iff
  intro a b hab
  exact UInt8.toNat_inj.mp (Int.ofNat.inj hab)

/-- The host encodes the same field values when they pass the firmware's checks and no id comes
twice, and to the firmware's bytes. -/
theorem host_encode_iff {telemetry : RobotTelemetry} {t : RoboticCharacter.RobotTelemetry}
    (h : telemetry.SameFields t) (payload : Bytes) :
    Codec.RobotTelemetry.encode t = .ok payload ↔
      telemetry.Checked ∧ (telemetry.usedJoints.map RobotJointTelemetry.jointId).Nodup ∧
        payload = telemetry.write := by
  have huptime := telemetry.uptimeMs.toNat_lt
  have hflags := telemetry.flags.toNat_lt
  have hsupply := telemetry.supplyMv.toNat_lt
  have hjoints := h.joints_eq
  have hcount := h.count_eq
  have hhead : packRow Codec.RobotTelemetry.headFormat
      [t.uptimeMs, t.state.value, t.flags, t.supplyMv, t.joints.length] =
      writeU32Le telemetry.uptimeMs ++ [telemetry.state] ++ [telemetry.flags] ++
        writeU16Le telemetry.supplyMv ++ [telemetry.jointCount] := by
    simp only [Codec.RobotTelemetry.headFormat, packRow, h.uptime_eq, h.state_eq, h.flags_eq,
      h.supply_eq, hcount, List.zipWith_cons_cons, List.zipWith_nil_left, List.flatten_cons,
      List.flatten_nil, List.append_nil, pack_U32, pack_U8, pack_U16, List.append_assoc]
  -- every field comes from a fixed-width one, so `struct` packs it
  have hfits : List.Forall₂ Field.Fits Codec.RobotTelemetry.headFormat
      [t.uptimeMs, t.state.value, t.flags, t.supplyMv, t.joints.length] := by
    simp only [Codec.RobotTelemetry.headFormat, h.uptime_eq, h.state_eq, h.flags_eq, h.supply_eq,
      hcount, List.forall₂_cons, fits_U32, fits_U8, fits_U16, List.forall₂_nil_left_iff, and_true]
  have hids : (t.joints.map (·.jointId)).Nodup ↔
      (telemetry.usedJoints.map RobotJointTelemetry.jointId).Nodup := by
    rw [hjoints, nodup_host_ids_iff]
  have hpack (bytes : Bytes) : packEach Codec.RobotJointTelemetry.encode t.joints = .ok bytes ↔
      (∀ joint ∈ telemetry.usedJoints, joint.jointId ≠ 0) ∧
        bytes = telemetry.usedJoints.flatMap RobotJointTelemetry.write := by
    rw [hjoints, host_encode_joints_iff]
  have hsame (bytes : Bytes) : writeU32Le telemetry.uptimeMs ++ [telemetry.state] ++
      [telemetry.flags] ++ writeU16Le telemetry.supplyMv ++ [telemetry.jointCount] ++
        telemetry.usedJoints.flatMap RobotJointTelemetry.write = bytes ↔
      bytes = telemetry.write := eq_comm
  simp only [Codec.RobotTelemetry.encode, bind_eq_ok_iff, Codec.fromProtocol_eq_ok_iff,
    Codec.fromStruct_eq_ok_iff, Codec.requireUint_eq_ok_iff, require_eq_ok_iff, pure_eq_ok_iff,
    exists_and_left, exists_const, pack_eq_ok_iff, hhead, hids, hpack]
  constructor
  · rintro ⟨-, -, -, hlength, hnodup, _, ⟨-, rfl⟩, _, ⟨hpos, rfl⟩, heq⟩
    rw [hcount, maxJointTargets] at hlength
    exact ⟨⟨hlength.1, hlength.2, hpos⟩, hnodup, (hsame payload).mp heq⟩
  · rintro ⟨hchecked, hnodup, heq⟩
    have hpos := hchecked.count_pos
    have hle := hchecked.count_le
    rw [kMaxRobotTelemetryJoints] at hle
    rw [h.uptime_eq, h.flags_eq, h.supply_eq, hcount, maxJointTargets]
    refine ⟨⟨by omega, by omega⟩, ⟨by omega, by omega⟩, ⟨by omega, by omega⟩, ⟨hpos, hle⟩, hnodup,
      _, ⟨?_, rfl⟩, _, ⟨hchecked.ids_pos, rfl⟩, (hsame payload).mpr heq⟩
    rwa [h.uptime_eq, h.flags_eq, h.supply_eq, hcount] at hfits

/-- The firmware's encoding of a report is the host's, or neither encodes it. -/
structure Readable (telemetry : RobotTelemetry) (capacity : ℕ) : Prop where
  encoded_iff : 0 < (encodeRobotTelemetryPayload telemetry capacity).length ↔
    ∃ t, telemetry.SameFields t ∧ ∃ payload, Codec.RobotTelemetry.encode t = .ok payload
  same_bytes : ∀ t payload, telemetry.SameFields t → Codec.RobotTelemetry.encode t = .ok payload →
    encodeRobotTelemetryPayload telemetry capacity = payload
  decoded : 0 < (encodeRobotTelemetryPayload telemetry capacity).length →
    ∃ t, telemetry.SameFields t ∧
      Codec.RobotTelemetry.decode (encodeRobotTelemetryPayload telemetry capacity) = .ok t

theorem exists_sameFields {telemetry : RobotTelemetry} (hchecked : telemetry.Checked)
    (hhost : telemetry.HostChecked) : ∃ t, telemetry.SameFields t := by
  obtain ⟨state, hstate⟩ := hhost.state_known
  refine ⟨⟨telemetry.uptimeMs.toNat, state, telemetry.flags.toNat, telemetry.supplyMv.toNat,
    telemetry.usedJoints.map RobotJointTelemetry.toHost⟩, rfl, hstate, rfl, rfl, ?_, rfl⟩
  rw [List.length_map, RobotTelemetry.length_usedJoints hchecked.count_le]

/-- With room for the report, the firmware's report is readable exactly when it would not
encode it or its state is known and its joint ids differ. -/
theorem telemetry_readable_iff (telemetry : RobotTelemetry) (capacity : ℕ)
    (hroom :
      kRobotTelemetryHeadSize+telemetry.jointCount.toNat*kRobotJointTelemetrySize ≤ capacity) :
    Readable telemetry capacity ↔ (telemetry.Checked → telemetry.HostChecked) := by
  -- an encoding the firmware refuses is empty
  have hencodes : 0 < (encodeRobotTelemetryPayload telemetry capacity).length ↔
      telemetry.Checked := by
    rw [List.length_pos_iff, encodeRobotTelemetryPayload_ne_nil_iff hroom]
  constructor
  · intro hreadable hchecked
    obtain ⟨t, hsame, payload, hencode⟩ := hreadable.encoded_iff.mp (hencodes.mpr hchecked)
    exact ⟨⟨t.state, hsame.state_eq⟩, ((host_encode_iff hsame payload).mp hencode).2.1⟩
  · intro hhost
    refine ⟨?_, ?_, ?_⟩
    · rw [hencodes]
      constructor
      · intro hchecked
        obtain ⟨t, hsame⟩ := exists_sameFields hchecked (hhost hchecked)
        exact ⟨t, hsame, _, (host_encode_iff hsame _).mpr
          ⟨hchecked, (hhost hchecked).ids_nodup, rfl⟩⟩
      · rintro ⟨t, hsame, payload, hencode⟩
        exact ((host_encode_iff hsame payload).mp hencode).1
    · intro t payload hsame hencode
      obtain ⟨hchecked, -, rfl⟩ := (host_encode_iff hsame payload).mp hencode
      exact encodeRobotTelemetryPayload_checked hroom hchecked
    · -- what the firmware wrote is what the host writes, and the host reads that back
      intro hpositive
      have hchecked := hencodes.mp hpositive
      obtain ⟨t, hsame⟩ := exists_sameFields hchecked (hhost hchecked)
      refine ⟨t, hsame, ?_⟩
      rw [encodeRobotTelemetryPayload_checked hroom hchecked]
      exact Codec.RobotTelemetry.decode_of_encode t _
        ((host_encode_iff hsame _).mpr ⟨hchecked, (hhost hchecked).ids_nodup, rfl⟩)

/-- The report of the golden test, with its four joints. -/
def goldenTelemetry : RobotTelemetry where
  uptimeMs := 123456
  state := 0x06
  flags := 0x03
  supplyMv := 6000
  jointCount := 4
  joints := ⟨#[⟨1, 1250, 240, 210⟩, ⟨2, -350, -120, 180⟩, ⟨3, 9050, 0, 95⟩, ⟨4, 2000, 15, 110⟩,
    ⟨0, 0, 0, 0⟩, ⟨0, 0, 0, 0⟩, ⟨0, 0, 0, 0⟩, ⟨0, 0, 0, 0⟩], rfl⟩

example : encodeRobotTelemetryPayload goldenTelemetry 64 =
    [0x40, 0xE2, 0x01, 0x00, 0x06, 0x03, 0x70, 0x17, 0x04,
      0x01, 0xE2, 0x04, 0xF0, 0x00, 0xD2, 0x00, 0x02, 0xA2, 0xFE, 0x88, 0xFF, 0xB4, 0x00,
      0x03, 0x5A, 0x23, 0x00, 0x00, 0x5F, 0x00, 0x04, 0xD0, 0x07, 0x0F, 0x00, 0x6E, 0x00] := by
  decide

theorem telemetry_readable_golden : Readable goldenTelemetry 64 := by
  apply (telemetry_readable_iff goldenTelemetry 64 (by decide)).mpr
  intro _
  exact ⟨⟨.executing, rfl⟩, by decide⟩

/-- The golden report with its first joint's id given to the second as well. -/
def repeatedIdTelemetry : RobotTelemetry :=
  { goldenTelemetry with joints := goldenTelemetry.joints.set 1 ⟨1, -350, -120, 180⟩ }

theorem telemetry_unreadable :
    ¬ ∀ telemetry capacity,
      kRobotTelemetryHeadSize+telemetry.jointCount.toNat*kRobotJointTelemetrySize ≤ capacity →
      Readable telemetry capacity := by
  intro h
  have hpositive : 0 < (encodeRobotTelemetryPayload repeatedIdTelemetry 64).length := by
    decide
  obtain ⟨t, hsame, payload, hencode⟩ :=
    (h repeatedIdTelemetry 64 (by decide)).encoded_iff.mp hpositive
  have hnodup := ((host_encode_iff hsame payload).mp hencode).2.1
  exact absurd hnodup (by decide)

end RoboticCharacter.Firmware
