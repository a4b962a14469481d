import RoboticCharacter.ProtocolCodecs

/-! The telemetry payloads: the glove's fixed layout and the robot's report with its array
of joints. -/
namespace RoboticCharacter

structure GloveTelemetry where
  deviceTimeMsMod : ℤ
  accelXMg : ℤ
  accelYMg : ℤ
  accelZMg : ℤ
  gyroXCdegS : ℤ
  gyroYCdegS : ℤ
  gyroZCdegS : ℤ
  pitchCdeg : ℤ
  rollCdeg : ℤ
  batteryMv : ℤ
  flags : ℤ := 0
  deriving DecidableEq, Repr

structure RobotJointTelemetry where
  jointId : ℤ
  positionCdeg : ℤ
  velocityCdegS : ℤ
  currentMa : ℤ
  deriving DecidableEq, Repr

structure RobotTelemetry where
  uptimeMs : ℤ
  state : WireSystemState
  flags : ℤ
  supplyMv : ℤ
  joints : List RobotJointTelemetry
  deriving DecidableEq, Repr

namespace Codec
open Fallible PythonStruct

namespace GloveTelemetry

def payloadSize : ℕ := 21

def format : List Field := [.H, .h, .h, .h, .h, .h, .h, .h, .h, .H, .B]

def toRow (g : GloveTelemetry) : List ℤ :=
  [g.deviceTimeMsMod, g.accelXMg, g.accelYMg, g.accelZMg, g.gyroXCdegS, g.gyroYCdegS,
    g.gyroZCdegS, g.pitchCdeg, g.rollCdeg, g.batteryMv, g.flags]

/-- The loop over the signed fields. -/
def requireInt16Each : List (String × ℤ) → Except ProtocolError Unit
  | [] => .ok ()
  | (name, value) :: rest => do
    requireInt16 name value
    requireInt16Each rest

def signedFields (g : GloveTelemetry) : List (String × ℤ) :=
  [("accel_x_mg", g.accelXMg), ("accel_y_mg", g.accelYMg), ("accel_z_mg", g.accelZMg),
    ("gyro_x_cdeg_s", g.gyroXCdegS), ("gyro_y_cdeg_s", g.gyroYCdegS),
    ("gyro_z_cdeg_s", g.gyroZCdegS), ("pitch_cdeg", g.pitchCdeg), ("roll_cdeg", g.rollCdeg)]

def encode (g : GloveTelemetry) : Except Raised Bytes := do
  fromProtocol (requireUint "device_time_ms_mod" g.deviceTimeMsMod 16 0)
  fromProtocol (requireInt16Each (signedFields g))
  fromProtocol (requireUint "battery_mv" g.batteryMv 16 0)
  fromProtocol (requireUint "flags" g.flags 8 0)
  let payload ← fromStruct (pack format (toRow g))
  if payload.length ≠ payloadSize then raiseProtocol "internal glove payload size mismatch"
  else return payload

/-- `cls(*values)`. -/
def fromRow : List ℤ → Except Raised GloveTelemetry
  | [time, ax, ay, az, gx, gy, gz, pitch, roll, battery, flags] =>
    .ok ⟨time, ax, ay, az, gx, gy, gz, pitch, roll, battery, flags⟩
  | row => .error (.typeError s!"GloveTelemetry takes 11 arguments, not {row.length}")

def decode (payload : Bytes) : Except Raised GloveTelemetry :=
  decodeSized format "invalid glove telemetry payload length" fromRow payload

theorem requireInt16Each_eq_ok_iff (fields : List (String × ℤ)) (u : Unit) :
    requireInt16Each fields = .ok u ↔ ∀ p ∈ fields, -32768 ≤ p.2 ∧ p.2 ≤ 32767 := by
  induction fields with
  | nil => simp [requireInt16Each]
  | cons p rest ih =>
    simp only [requireInt16Each, bind_eq_ok_iff, requireInt16_eq_ok_iff, exists_and_left,
      exists_const, ih, List.forall_mem_cons]

theorem encode_eq_ok_iff (g : GloveTelemetry) (payload : Bytes) :
    encode g = .ok payload ↔ pack format (toRow g) = .ok payload := by
  simp only [encode, bind_eq_ok_iff, fromProtocol_eq_ok_iff, fromStruct_eq_ok_iff,
    requireUint_eq_ok_iff, requireInt16Each_eq_ok_iff, exists_and_left, exists_const]
  constructor
  · rintro ⟨_, _, _, _, data, hpack, hsize⟩
    split_ifs at hsize with hlen
    · exact absurd hsize (raiseProtocol_ne_ok _ _)
    · rw [pure_eq_ok_iff] at hsize
      exact hsize ▸ hpack
  · intro hpack
    have hlen : payload.length = payloadSize := length_of_pack _ _ _ hpack
    have hfits := ((pack_eq_ok_iff _ _ _).mp hpack).1
    simp only [format, toRow, List.forall₂_cons, Field.fits_H, Field.fits_h, Field.fits_B,
      List.forall₂_nil_left_iff] at hfits
    refine ⟨by omega, ?_, by omega, by omega, payload, hpack, ?_⟩
    · simp only [signedFields, List.forall_mem_cons, List.not_mem_nil, false_implies,
        implies_true, and_true]
      omega
    · rw [if_neg (not_not.mpr hlen), pure_eq_ok_iff]

theorem fromRow_eq_ok_iff (row : List ℤ) (g : GloveTelemetry) :
    fromRow row = .ok g ↔ row = toRow g := by
  unfold fromRow
  split
  · cases g
    simp only [toRow, Except.ok.injEq, GloveTelemetry.mk.injEq, List.cons.injEq, and_true]
  · rename_i hrow
    simp only [reduceCtorEq, false_iff]
    exact hrow _ _ _ _ _ _ _ _ _ _ _

theorem raises_fromRow (row : List ℤ) (hrow : row.length = format.length) :
    Raises Raised.IsProtocolError (fromRow row) := by
  have hcons (n : ℕ) (values : List ℤ) (h : values.length = n+1) :
      ∃ a rest, values = a :: rest ∧ rest.length = n := by
    cases values with
    | nil => cases h
    | cons a rest => exact ⟨a, rest, rfl, Nat.succ.inj h⟩
  obtain ⟨a1, r1, rfl, h1⟩ := hcons 10 row hrow
  obtain ⟨a2, r2, rfl, h2⟩ := hcons 9 r1 h1
  obtain ⟨a3, r3, rfl, h3⟩ := hcons 8 r2 h2
  obtain ⟨a4, r4, rfl, h4⟩ := hcons 7 r3 h3
  obtain ⟨a5, r5, rfl, h5⟩ := hcons 6 r4 h4
  obtain ⟨a6, r6, rfl, h6⟩ := hcons 5 r5 h5
  obtain ⟨a7, r7, rfl, h7⟩ := hcons 4 r6 h6
  obtain ⟨a8, r8, rfl, h8⟩ := hcons 3 r7 h7
  obtain ⟨a9, a10, a11, rfl⟩ := List.length_eq_three.mp h8
  exact raises_ok _ _

theorem inverse : Inverse encode decode := by
  apply Inverse.of_iff
  · intro g payload
    rw [decode, decodeSized_eq_ok_iff _ _ _ toRow fromRow_eq_ok_iff, encode_eq_ok_iff]
  · intro payload
    exact raises_decodeSized format _ _ raises_fromRow payload

end GloveTelemetry

namespace RobotJointTelemetry

def format : List Field := [.B, .h, .h, .H]

def toRow (j : RobotJointTelemetry) : List ℤ :=
  [j.jointId, j.positionCdeg, j.velocityCdegS, j.currentMa]

def fromRow : List ℤ → Except Raised RobotJointTelemetry
  | [jointId, position, velocity, current] => .ok ⟨jointId, position, velocity, current⟩
  | row => wrongArity row

/-- One turn of the encoder's loop over the joints. -/
def encode (j : RobotJointTelemetry) : Except Raised Bytes := do
  fromProtocol (requireUint "joint_id" j.jointId 8 1)
  fromProtocol (requireInt16 "position_cdeg" j.positionCdeg)
  fromProtocol (requireInt16 "velocity_cdeg_s" j.velocityCdegS)
  fromProtocol (requireUint "current_ma" j.currentMa 16 0)
  fromStruct (pack format (toRow j))

theorem fromRow_eq_ok_iff (row : List ℤ) (j : RobotJointTelemetry) :
    fromRow row = .ok j ↔ row = toRow j := by
  unfold fromRow
  split
  · cases j
    simp only [toRow, Except.ok.injEq, RobotJointTelemetry.mk.injEq, List.cons.injEq, and_true]
  · rename_i hrow
    simp only [wrongArity_ne_ok, false_iff]
    exact hrow _ _ _ _

theorem raises_fromRow (row : List ℤ) (hrow : row.length = format.length) :
    Raises Raised.IsProtocolError (fromRow row) := by
  obtain ⟨a, b, c, d, rfl⟩ := List.length_eq_four.mp hrow
  exact raises_ok _ _

/-- The encoder asks for more than the format: an id of zero fits but is refused. -/
theorem encode_eq_ok_iff (j : RobotJointTelemetry) (data : Bytes) :
    encode j = .ok data ↔ 1 ≤ j.jointId ∧ pack format (toRow j) = .ok data := by
  simp only [encode, bind_eq_ok_iff, fromProtocol_eq_ok_iff, fromStruct_eq_ok_iff,
    requireUint_eq_ok_iff, requireInt16_eq_ok_iff, exists_and_left, exists_const]
  constructor
  · rintro ⟨hid, _, _, _, hpack⟩
    exact ⟨hid.1, hpack⟩
  · rintro ⟨hid, hpack⟩
    have hfits := ((pack_eq_ok_iff _ _ _).mp hpack).1
    simp only [format, toRow, List.forall₂_cons, Field.fits_H, Field.fits_h, Field.fits_B,
      List.forall₂_nil_left_iff] at hfits
    exact ⟨by omega, by omega, by omega, by omega, hpack⟩

theorem raises_encode (j : RobotJointTelemetry) :
    Raises Raised.IsProtocolError (encode j) := by
  apply raises_bind _ _ _ (raises_fromProtocol _)
  intro _ hid
  apply raises_bind _ _ _ (raises_fromProtocol _)
  intro _ hposition
  apply raises_bind _ _ _ (raises_fromProtocol _)
  intro _ hvelocity
  apply raises_bind _ _ _ (raises_fromProtocol _)
  intro _ hcurrent
  rw [fromProtocol_eq_ok_iff, requireUint_eq_ok_iff] at hid hcurrent
  rw [fromProtocol_eq_ok_iff, requireInt16_eq_ok_iff] at hposition hvelocity
  apply raises_pack
  simp only [format, toRow, List.forall₂_cons, Field.fits_H, Field.fits_h, Field.fits_B,
    List.forall₂_nil_left_iff, and_true]
  omega

theorem encodes_iff (j : RobotJointTelemetry) : (∃ data, encode j = .ok data) ↔
    (1 ≤ j.jointId ∧ j.jointId < 256) ∧ (-32768 ≤ j.positionCdeg ∧ j.positionCdeg < 32768) ∧
      (-32768 ≤ j.velocityCdegS ∧ j.velocityCdegS < 32768) ∧
      0 ≤ j.currentMa ∧ j.currentMa < 65536 := by
  simp only [encode_eq_ok_iff, pack_eq_ok_iff, exists_and_left, exists_eq, and_true, format, toRow,
    List.forall₂_cons, Field.fits_H, Field.fits_h, Field.fits_B, List.forall₂_nil_left_iff]
  omega

end RobotJointTelemetry

namespace RobotTelemetry

def headFormat : List Field := [.I, .B, .B, .H, .B]

def encode (t : RobotTelemetry) : Except Raised Bytes := do
  fromProtocol (requireUint "uptime_ms" t.uptimeMs 32 0)
  fromProtocol (requireUint "flags" t.flags 8 0)
  fromProtocol (requireUint "supply_mv" t.supplyMv 16 0)
  fromProtocol (require (1 ≤ t.joints.length ∧ t.joints.length ≤ maxJointTargets)
    (.protocol "robot telemetry has invalid joint count"))
  fromProtocol (require (t.joints.map (·.jointId)).Nodup
    (.protocol "robot telemetry contains duplicate joint ids"))
  let head ← fromStruct (pack headFormat
    [t.uptimeMs, t.state.value, t.flags, t.supplyMv, t.joints.length])
  let joints ← packEach RobotJointTelemetry.encode t.joints
  return head ++ joints

/-- The decoder once the head is read. -/
def decodeJoints (payload : Bytes) (uptimeMs rawState flags supplyMv jointCount : ℤ) :
    Except Raised RobotTelemetry :=
  if ¬ (1 ≤ jointCount ∧ jointCount ≤ maxJointTargets) then
    raiseProtocol "robot telemetry has invalid joint count"
  else if payload.length ≠ size headFormat+jointCount.toNat*size RobotJointTelemetry.format then
    raiseProtocol "robot telemetry payload length mismatch"
  else do
    let state ← exceptValueError (IntEnum.ofValue rawState)
      "robot telemetry contains an unknown state"
    let joints ← unpackEach
      (decodeFrom RobotJointTelemetry.format RobotJointTelemetry.fromRow payload)
      (size RobotJointTelemetry.format) jointCount.toNat (size headFormat)
    let decoded : RobotTelemetry := ⟨uptimeMs, state, flags, supplyMv, joints⟩
    let _ ← encode decoded
    return decoded

def decode (payload : Bytes) : Except Raised RobotTelemetry :=
  if payload.length < size headFormat+size RobotJointTelemetry.format then
    raiseProtocol "robot telemetry payload is truncated"
  else do
    let row ← fromStruct (unpackFrom headFormat payload 0)
    match row with
    | [uptimeMs, rawState, flags, supplyMv, jointCount] =>
      decodeJoints payload uptimeMs rawState flags supplyMv jointCount
    | row => wrongArity row

/-- The parts of an encoded report. -/
structure Encoded (t : RobotTelemetry) (head joints : Bytes) : Prop where
  count_pos : 1 ≤ t.joints.length
  count_le : t.joints.length ≤ maxJointTargets
  head_eq : pack headFormat
    [t.uptimeMs, t.state.value, t.flags, t.supplyMv, t.joints.length] = .ok head
  joints_eq : packEach RobotJointTelemetry.encode t.joints = .ok joints

theorem encoded_of_encode (t : RobotTelemetry) (payload : Bytes) (h : encode t = .ok payload) :
    ∃ head joints, Encoded t head joints ∧ payload = head ++ joints := by
  simp only [encode, bind_eq_ok_iff, fromProtocol_eq_ok_iff, fromStruct_eq_ok_iff,
    requireUint_eq_ok_iff, require_eq_ok_iff, pure_eq_ok_iff, exists_and_left, exists_const] at h
  obtain ⟨_, _, _, hcount, _, head, hhead, joints, hjoints, heq⟩ := h
  exact ⟨head, joints, ⟨hcount.1, hcount.2, hhead, hjoints⟩, heq.symm⟩

theorem length_of_pack_joint (j : RobotJointTelemetry) (data : Bytes)
    (h : pack RobotJointTelemetry.format (RobotJointTelemetry.toRow j) = .ok data) :
    data.length = size RobotJointTelemetry.format := length_of_pack _ _ _ h

/-- The decoder's loop reads the joints the bare format packs. -/
theorem unpack_joints_iff (payload : Bytes) (count : ℕ) (joints : List RobotJointTelemetry)
    (hlen : payload.length = size headFormat+count*size RobotJointTelemetry.format) :
    unpackEach (decodeFrom RobotJointTelemetry.format RobotJointTelemetry.fromRow payload)
        (size RobotJointTelemetry.format) count (size headFormat) = .ok joints ↔
      joints.length = count ∧
        packEach (fun j => fromStruct (pack RobotJointTelemetry.format
          (RobotJointTelemetry.toRow j))) joints = .ok (payload.drop (size headFormat)) := by
  have htail : (payload.drop (size headFormat)).take (count*size RobotJointTelemetry.format) =
      payload.drop (size headFormat) := by
    apply List.take_of_length_le
    rw [List.length_drop]
    omega
  rw [unpackEach_eq_ok_iff (fun j => fromStruct (pack RobotJointTelemetry.format
    (RobotJointTelemetry.toRow j))) _ _ payload _ _ _ _ hlen.ge joints, htail]
  · intro j data h
    exact length_of_pack_joint j data ((fromStruct_eq_ok_iff _ _).mp h)
  · intro offset j hroom
    rw [decodeFrom_eq_ok_iff _ _ _ RobotJointTelemetry.fromRow_eq_ok_iff _ _ _ hroom,
      fromStruct_eq_ok_iff]

theorem packEach_bare (joints : List RobotJointTelemetry) (data : Bytes)
    (h : packEach RobotJointTelemetry.encode joints = .ok data) :
    packEach (fun j => fromStruct (pack RobotJointTelemetry.format
      (RobotJointTelemetry.toRow j))) joints = .ok data := by
  apply packEach_mono RobotJointTelemetry.encode _ _ joints data h
  intro j bytes hj
  rw [fromStruct_eq_ok_iff]
  exact ((RobotJointTelemetry.encode_eq_ok_iff j bytes).mp hj).2

theorem encode_of_decode (payload : Bytes) (t : RobotTelemetry) (h : decode payload = .ok t) :
    encode t = .ok payload := by
  unfold decode at h
  split_ifs at h with hshort
  · exact absurd h (raiseProtocol_ne_ok _ _)
  simp only [bind_eq_ok_iff, fromStruct_eq_ok_iff, unpackFrom_eq_ok_iff] at h
  obtain ⟨row, ⟨hhead, _⟩, h⟩ := h
  split at h
  · rename_i uptimeMs rawState flags supplyMv jointCount
    unfold decodeJoints at h
    by_cases hcount : ¬ (1 ≤ jointCount ∧ jointCount ≤ maxJointTargets)
    · rw [if_pos hcount] at h
      exact absurd h (raiseProtocol_ne_ok _ _)
    rw [if_neg hcount] at h
    by_cases hlen : payload.length ≠
        size headFormat+jointCount.toNat*size RobotJointTelemetry.format
    · rw [if_pos hlen] at h
      exact absurd h (raiseProtocol_ne_ok _ _)
    rw [if_neg hlen] at h
    simp only [bind_eq_ok_iff, exceptValueError_eq_ok_iff, IntEnum.ofValue_eq_ok_iff,
      pure_eq_ok_iff] at h
    obtain ⟨state, hstate, joints, hjoints, q, hencode, heq⟩ := h
    obtain ⟨hn, hbare⟩ := (unpack_joints_iff payload _ joints (not_not.mp hlen)).mp hjoints
    obtain ⟨head, tail, hparts, hq⟩ := encoded_of_encode _ q hencode
    have hcast : (joints.length : ℤ) = jointCount := by
      rw [hn]
      omega
    -- both halves of the re-encoding are the slices the decoder read
    have hhead' : pack headFormat [uptimeMs, rawState, flags, supplyMv, jointCount] =
        .ok head := by
      rw [hstate, ← hcast]
      exact hparts.head_eq
    have h1 : head = payload.take (size headFormat) := by
      rw [hhead, List.drop_zero] at hhead'
      exact (Except.ok.inj hhead').symm
    have h2 : tail = payload.drop (size headFormat) := by
      have htail := packEach_bare joints tail hparts.joints_eq
      rw [hbare] at htail
      exact (Except.ok.inj htail).symm
    rw [h1, h2, List.take_append_drop] at hq
    rw [← heq, hencode, hq]
  · exact absurd h (wrongArity_ne_ok _ _)

theorem decode_of_encode (t : RobotTelemetry) (payload : Bytes) (h : encode t = .ok payload) :
    decode payload = .ok t := by
  obtain ⟨head, joints, hparts, rfl⟩ := encoded_of_encode t payload h
  have hpos := hparts.count_pos
  have hle := hparts.count_le
  have hbare := packEach_bare t.joints joints hparts.joints_eq
  have hheadlen := length_of_pack _ _ _ hparts.head_eq
  have hjointslen := length_packEach _ _ (fun j data hj =>
    length_of_pack_joint j data ((fromStruct_eq_ok_iff _ _).mp hj)) t.joints joints hbare
  have hlen : (head ++ joints).length =
      size headFormat+t.joints.length*size RobotJointTelemetry.format := by
    rw [List.length_append, hheadlen, hjointslen]
  have hwidth : size RobotJointTelemetry.format = 7 := rfl
  have hlong : (head ++ joints).length = size headFormat+t.joints.length*7 := by
    rw [hlen, hwidth]
  unfold maxJointTargets at hle
  have hrow := unpackFrom_packed headFormat _ [] head joints 0 rfl hparts.head_eq
  have hread := (unpack_joints_iff (head ++ joints) t.joints.length t.joints hlen).mpr
    ⟨rfl, by rw [List.drop_left' hheadlen]; exact hbare⟩
  unfold decode
  rw [if_neg (by omega)]
  simp only [bind_eq_ok_iff, fromStruct_eq_ok_iff]
  refine ⟨_, hrow, ?_⟩
  change decodeJoints _ _ _ _ _ _ = _
  unfold decodeJoints maxJointTargets
  rw [if_neg (by omega), if_neg (by rw [Int.toNat_natCast, hlen, not_not])]
  simp only [bind_eq_ok_iff, exceptValueError_eq_ok_iff, IntEnum.ofValue_eq_ok_iff,
    pure_eq_ok_iff, Int.toNat_natCast]
  exact ⟨t.state, rfl, t.joints, hread, _, h, rfl⟩

theorem raises_encode (t : RobotTelemetry) : Raises Raised.IsProtocolError (encode t) := by
  apply raises_bind _ _ _ (raises_fromProtocol _)
  intro _ huptime
  apply raises_bind _ _ _ (raises_fromProtocol _)
  intro _ hflags
  apply raises_bind _ _ _ (raises_fromProtocol _)
  intro _ hsupply
  apply raises_bind _ _ _ (raises_fromProtocol _)
  intro _ hcount
  apply raises_bind _ _ _ (raises_fromProtocol _)
  intro _ _
  rw [fromProtocol_eq_ok_iff, requireUint_eq_ok_iff] at huptime hflags hsupply
  rw [fromProtocol_eq_ok_iff, require_eq_ok_iff, maxJointTargets] at hcount
  have hstate : t.state.value < 256 := by cases t.state <;> decide
  apply raises_bind
  · apply raises_pack
    simp only [headFormat, List.forall₂_cons, Field.fits_H, Field.fits_I, Field.fits_B,
      List.forall₂_nil_left_iff, and_true]
    omega
  · intro head _
    apply raises_bind _ _ _ (raises_packEach _ _ _ fun j _ => RobotJointTelemetry.raises_encode j)
    intro joints _
    exact raises_pure _ _

theorem raises_decodeJoints (payload : Bytes) (uptimeMs rawState flags supplyMv count : ℤ) :
    Raises Raised.IsProtocolError
      (decodeJoints payload uptimeMs rawState flags supplyMv count) := by
  unfold decodeJoints
  split_ifs with hcount hlen
  · exact raises_raiseProtocol _
  · apply raises_bind _ _ _ (raises_exceptValueError _ _ (IntEnum.raises_ofValue _))
    intro state _
    apply raises_bind
    · exact raises_unpackEach _ _ _ payload.length (raises_decodeFrom _ _
        RobotJointTelemetry.raises_fromRow payload) _ _ (not_not.mp hlen).ge
    · intro joints _
      apply raises_bind _ _ _ (raises_encode _)
      intro _ _
      exact raises_pure _ _
  · exact raises_raiseProtocol _

theorem raises_decode (payload : Bytes) : Raises Raised.IsProtocolError (decode payload) := by
  unfold decode
  split_ifs with hshort
  · exact raises_raiseProtocol _
  · rw [unpackFrom_eq_ok headFormat payload 0 (by omega)]
    exact raises_decodeJoints payload _ _ _ _ _

theorem inverse : Inverse encode decode :=
  ⟨decode_of_encode, encode_of_decode, raises_decode⟩

/-- A report whose head fits its fields is encoded exactly if every joint is. -/
theorem encodes_iff (t : RobotTelemetry) (huptime : 0 ≤ t.uptimeMs ∧ t.uptimeMs ≤ 0xFFFFFFFF)
    (hflags : 0 ≤ t.flags ∧ t.flags ≤ 0xFF) (hsupply : 0 ≤ t.supplyMv ∧ t.supplyMv ≤ 0xFFFF)
    (hcount : 1 ≤ t.joints.length ∧ t.joints.length ≤ maxJointTargets)
    (hnodup : (t.joints.map (·.jointId)).Nodup) :
    (∃ payload, encode t = .ok payload) ↔
      ∀ joint ∈ t.joints, ∃ data, RobotJointTelemetry.encode joint = .ok data := by
  have hstate : t.state.value < 256 := by cases t.state <;> decide
  have hle := hcount.2
  unfold maxJointTargets at hle
  have hhead : List.Forall₂ Field.Fits headFormat
      [t.uptimeMs, t.state.value, t.flags, t.supplyMv, t.joints.length] := by
    simp only [headFormat, List.forall₂_cons, Field.fits_H, Field.fits_I, Field.fits_B,
      List.forall₂_nil_left_iff, and_true]
    omega
  rw [← packEach_succeeds_iff]
  simp only [encode, bind_eq_ok_iff, fromProtocol_eq_ok_iff, fromStruct_eq_ok_iff,
    requireUint_eq_ok_iff, require_eq_ok_iff, pure_eq_ok_iff, exists_and_left, exists_const,
    pack_eq_ok_iff]
  constructor
  · rintro ⟨_, _, _, _, _, _, _, _, joints, hjoints, _⟩
    exact ⟨joints, hjoints⟩
  · rintro ⟨joints, hjoints⟩
    exact ⟨by omega, by omega, by omega, hcount, hnodup, _, _, ⟨hhead, rfl⟩, joints, hjoints, rfl⟩

end RobotTelemetry

end Codec

end RoboticCharacter
