import RoboticCharacter.ProtocolFrame
import RoboticCharacter.Fallible

/-! The host's payload codecs for the messages exchanged with the robot MCU. -/
namespace RoboticCharacter
open Host Fallible

inductive DeviceSource
  | host
  | glove
  | gateway
  | robot
  deriving DecidableEq, Repr

def DeviceSource.value : DeviceSource → ℕ
  | host => 0x01
  | glove => 0x02
  | gateway => 0x03
  | robot => 0x04

inductive WireSystemState
  | boot
  | selfTest
  | calibrating
  | idle
  | armed
  | executing
  | degraded
  | fault
  | estop
  | shutdown
  deriving DecidableEq, Repr

def WireSystemState.value : WireSystemState → ℕ
  | boot => 0x01
  | selfTest => 0x02
  | calibrating => 0x03
  | idle => 0x04
  | armed => 0x05
  | executing => 0x06
  | degraded => 0x07
  | fault => 0x08
  | estop => 0x09
  | shutdown => 0x0A

def WireSystemState.name : WireSystemState → String
  | boot => "BOOT"
  | selfTest => "SELF_TEST"
  | calibrating => "CALIBRATING"
  | idle => "IDLE"
  | armed => "ARMED"
  | executing => "EXECUTING"
  | degraded => "DEGRADED"
  | fault => "FAULT"
  | estop => "ESTOP"
  | shutdown => "SHUTDOWN"

inductive EstopReason
  | manual
  | watchdog
  | safety
  | communication
  deriving DecidableEq, Repr

def EstopReason.value : EstopReason → ℕ
  | manual => 0x01
  | watchdog => 0x02
  | safety => 0x03
  | communication => 0x04

inductive MotionMode
  | position
  deriving DecidableEq, Repr

namespace MotionMode

def value : MotionMode → ℕ
  | position => 0x01

def ofValue? : ℕ → Option MotionMode
  | 0x01 => some position
  | _ => none

end MotionMode

inductive AckStatus
  | ok
  | rejected
  | stale
  | invalid
  deriving DecidableEq, Repr

namespace AckStatus

def value : AckStatus → ℕ
  | ok => 0x00
  | rejected => 0x01
  | stale => 0x02
  | invalid => 0x03

def ofValue? : ℕ → Option AckStatus
  | 0x00 => some ok
  | 0x01 => some rejected
  | 0x02 => some stale
  | 0x03 => some invalid
  | _ => none

def name : AckStatus → String
  | ok => "OK"
  | rejected => "REJECTED"
  | stale => "STALE"
  | invalid => "INVALID"

@[simp]
theorem ofValue?_value (s : AckStatus) : ofValue? s.value = some s := by cases s <;> rfl

theorem value_lt (s : AckStatus) : s.value < 256 := by cases s <;> decide

end AckStatus

def maxJointTargets : ℕ := 8

def requireUint (name : String) (value : ℤ) (bits : ℕ) (minimum : ℤ) : Except ProtocolError Unit :=
  require (minimum ≤ value ∧ value ≤ 2^bits-1)
    (.protocol s!"{name} must be in [{minimum}, {(2:ℤ)^bits-1}]")

def requireInt16 (name : String) (value : ℤ) : Except ProtocolError Unit :=
  require (-32768 ≤ value ∧ value ≤ 32767) (.protocol s!"{name} must fit int16")

structure Heartbeat where
  source : DeviceSource
  uptimeMs : ℤ
  state : WireSystemState

def Heartbeat.encode (h : Heartbeat) : Except ProtocolError Bytes := do
  requireUint "uptime_ms" h.uptimeMs 32 0
  return packB h.source.value ++ (packI h.uptimeMs.toNat ++ packB h.state.value)

structure EmergencyStop where
  source : DeviceSource
  reason : EstopReason

def EmergencyStop.encode (e : EmergencyStop) : Bytes :=
  packB e.source.value ++ packB e.reason.value

structure Acknowledgement where
  acknowledgedSequence : ℤ
  status : AckStatus
  deriving DecidableEq, Repr

namespace Acknowledgement

def encode (a : Acknowledgement) : Except ProtocolError Bytes := do
  requireUint "acknowledged_sequence" a.acknowledgedSequence 16 0
  return packH a.acknowledgedSequence.toNat ++ packB a.status.value

def decode (payload : Bytes) : Except ProtocolError Acknowledgement :=
  if payload.length ≠ 3 then .error (.protocol "invalid acknowledgement payload length")
  else
    match AckStatus.ofValue? (unpackB payload 2) with
    | none => .error (.protocol "acknowledgement contains an unknown status")
    | some status => .ok ⟨unpackH payload 0, status⟩

theorem decode_pack (sequence : ℕ) (hs : sequence < 65536) (status : AckStatus) :
    decode (packH sequence ++ packB status.value) = .ok ⟨sequence, status⟩ := by
  have hseq := unpackH_packH [] (packB status.value) sequence 0 rfl hs
  have hstatus := unpackB_packB (packH sequence) [] status.value 2 (length_packH _) status.value_lt
  rw [List.nil_append] at hseq
  rw [List.append_nil] at hstatus
  have hlen : (packH sequence ++ packB status.value).length = 3 := by
    rw [List.length_append, length_packH, length_packB]
  simp only [decode, hlen, hseq, hstatus, AckStatus.ofValue?_value, ne_eq, not_true_eq_false,
    ↓reduceIte]

end Acknowledgement

structure JointTarget where
  jointId : ℤ
  targetCdeg : ℤ
  deriving DecidableEq, Repr

namespace JointTarget

def pack (t : JointTarget) : Bytes := packB t.jointId.toNat ++ packSigned t.targetCdeg

@[simp]
theorem length_pack (t : JointTarget) : t.pack.length = 3 := by
  rw [pack, List.length_append, length_packB, length_packSigned]

/-- The field ranges of a target on the wire. -/
structure Encodable (t : JointTarget) : Prop where
  id_nonneg : 0 ≤ t.jointId
  id_le : t.jointId ≤ 255
  target_ge : -32768 ≤ t.targetCdeg
  target_le : t.targetCdeg ≤ 32767

/-- One turn of the encoder's loop over the targets. -/
def encode (t : JointTarget) : Except ProtocolError Bytes := do
  requireUint "joint_id" t.jointId 8 0
  requireInt16 "target_cdeg" t.targetCdeg
  return t.pack

theorem encode_eq_ok_iff (t : JointTarget) (data : Bytes) :
    t.encode = .ok data ↔ t.Encodable ∧ data = t.pack := by
  simp only [encode, requireUint, requireInt16, bind_eq_ok_iff, require_eq_ok_iff,
    pure_eq_ok_iff, exists_and_left, exists_const]
  constructor
  · rintro ⟨⟨hid, _⟩, ⟨hlow, hhigh⟩, rfl⟩
    exact ⟨⟨hid, by omega, hlow, hhigh⟩, rfl⟩
  · rintro ⟨h, rfl⟩
    exact ⟨⟨h.id_nonneg, by have := h.id_le; omega⟩, ⟨h.target_ge, h.target_le⟩, rfl⟩

def encodeAll : List JointTarget → Except ProtocolError Bytes
  | [] => .ok []
  | t :: rest => do
    let head ← t.encode
    let tail ← encodeAll rest
    return head ++ tail

theorem encodeAll_eq_ok_iff (ts : List JointTarget) (data : Bytes) :
    encodeAll ts = .ok data ↔ (∀ t ∈ ts, t.Encodable) ∧ data = ts.flatMap pack := by
  induction ts generalizing data with
  | nil => simp [encodeAll, eq_comm]
  | cons t rest ih =>
    simp only [encodeAll, bind_eq_ok_iff, pure_eq_ok_iff, encode_eq_ok_iff, ih,
      List.forall_mem_cons, List.flatMap_cons]
    constructor
    · rintro ⟨_, ⟨ht, rfl⟩, _, ⟨hrest, rfl⟩, rfl⟩
      exact ⟨⟨ht, hrest⟩, rfl⟩
    · rintro ⟨⟨ht, hrest⟩, rfl⟩
      exact ⟨_, ⟨ht, rfl⟩, _, ⟨hrest, rfl⟩, rfl⟩

def decodeAll (payload : Bytes) : ℕ → ℕ → List JointTarget
  | 0, _ => []
  | remaining+1, offset =>
    ⟨unpackB payload offset, unpackSigned payload (offset+1)⟩ ::
      decodeAll payload remaining (offset+3)

@[simp]
theorem length_flatMap_pack (ts : List JointTarget) :
    (ts.flatMap pack).length = 3*ts.length := by
  induction ts with
  | nil => rfl
  | cons t rest ih =>
    rw [List.flatMap_cons, List.length_append, length_pack, ih, List.length_cons]
    omega

/-- Packed targets are read back wherever they stand in a payload. -/
theorem decodeAll_flatMap_pack (ts : List JointTarget) (h : ∀ t ∈ ts, t.Encodable)
    (left right : Bytes) (offset : ℕ) (hl : left.length = offset) :
    decodeAll (left ++ (ts.flatMap pack ++ right)) ts.length offset = ts := by
  induction ts generalizing left offset with
  | nil => rfl
  | cons t rest ih =>
    have ht := h t (List.mem_cons_self ..)
    have hid := unpackB_packB left (packSigned t.targetCdeg ++ (rest.flatMap pack ++ right))
      t.jointId.toNat offset hl (by have := ht.id_le; omega)
    have htarget := unpackSigned_packSigned (left ++ packB t.jointId.toNat)
      (rest.flatMap pack ++ right) t.targetCdeg (offset+1)
      (by rw [List.length_append, hl, length_packB]) ht.target_ge ht.target_le
    have hrest := ih (fun u hu => h u (List.mem_cons_of_mem _ hu)) (left ++ t.pack) (offset+3)
      (by rw [List.length_append, hl, length_pack])
    have hcast : (t.jointId.toNat : ℤ) = t.jointId := Int.toNat_of_nonneg ht.id_nonneg
    simp only [pack, List.append_assoc] at hid htarget hrest
    simp only [List.flatMap_cons, List.length_cons, decodeAll, pack, List.append_assoc, hid,
      htarget, hrest, hcast]

end JointTarget

end RoboticCharacter
