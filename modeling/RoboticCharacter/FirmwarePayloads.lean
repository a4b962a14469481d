import RoboticCharacter.FirmwareSerial
import RoboticCharacter.ProtocolMotionCodec

/-! The firmware's payload encoders, and the agreement of the two implementations of the
wire format: frames and payloads. -/
namespace RoboticCharacter.Firmware
open Host PythonStruct

def kGloveTelemetryPayloadSize : ℕ := 21

/-- The record of the firmware, in the widths of its own types. -/
structure GloveTelemetry where
  deviceTimeMsMod : UInt16
  accelXMg : Int16
  accelYMg : Int16
  accelZMg : Int16
  gyroXCdegS : Int16
  gyroYCdegS : Int16
  gyroZCdegS : Int16
  pitchCdeg : Int16
  rollCdeg : Int16
  batteryMv : UInt16
  flags : UInt8

/-- `WriteI16Le`: the two bytes stored at `out`. -/
def writeI16Le (value : Int16) : Bytes := writeU16Le value.toUInt16

/-- `EncodeGloveTelemetryPayload`: the bytes stored at `out`, none when it returns zero. -/
def encodeGloveTelemetryPayload (telemetry : GloveTelemetry) (capacity : ℕ) : Bytes :=
  if capacity < kGloveTelemetryPayloadSize then []
  else
    writeU16Le telemetry.deviceTimeMsMod ++ writeI16Le telemetry.accelXMg ++
      writeI16Le telemetry.accelYMg ++ writeI16Le telemetry.accelZMg ++
      writeI16Le telemetry.gyroXCdegS ++ writeI16Le telemetry.gyroYCdegS ++
      writeI16Le telemetry.gyroZCdegS ++ writeI16Le telemetry.pitchCdeg ++
      writeI16Le telemetry.rollCdeg ++ writeU16Le telemetry.batteryMv ++ [telemetry.flags]

/-- The same record as the host's integers. -/
def GloveTelemetry.toHost (g : GloveTelemetry) : RoboticCharacter.GloveTelemetry where
  deviceTimeMsMod := g.deviceTimeMsMod.toNat
  accelXMg := g.accelXMg.toInt
  accelYMg := g.accelYMg.toInt
  accelZMg := g.accelZMg.toInt
  gyroXCdegS := g.gyroXCdegS.toInt
  gyroYCdegS := g.gyroYCdegS.toInt
  gyroZCdegS := g.gyroZCdegS.toInt
  pitchCdeg := g.pitchCdeg.toInt
  rollCdeg := g.rollCdeg.toInt
  batteryMv := g.batteryMv.toNat
  flags := g.flags.toNat

theorem fits_U16 (value : UInt16) : Field.H.Fits value.toNat := by
  have h := value.toNat_lt
  rw [Field.fits_H]
  omega

theorem fits_I16 (value : Int16) : Field.h.Fits value.toInt := by
  have hlow := value.le_toInt
  have hhigh := value.toInt_lt
  rw [Field.fits_h]
  omega

theorem fits_U8 (value : UInt8) : Field.B.Fits value.toNat := by
  have h := value.toNat_lt
  rw [Field.fits_B]
  omega

theorem pack_U16 (value : UInt16) : Field.H.pack value.toNat = writeU16Le value := by
  rw [Codec.pack_H_eq _ (fits_U16 value), writeU16Le_eq_packH, Int.toNat_natCast]

/-- Two's complement is what `struct` packs for a negative value. -/
theorem pack_I16 (value : Int16) : Field.h.pack value.toInt = writeI16Le value := by
  have hmod : (value.toInt % 65536).toNat = value.toUInt16.toNat := by
    change (value.toBitVec.toInt % 65536).toNat = value.toBitVec.toNat
    have hlt := value.toBitVec.isLt
    rw [BitVec.toInt_eq_toNat_cond]
    split <;> omega
  rw [Codec.pack_h_eq, writeI16Le, writeU16Le_eq_packH, packSigned, hmod]

theorem pack_U8 (value : UInt8) : Field.B.pack value.toNat = [value] := by
  rw [Codec.pack_B_eq _ (fits_U8 value), Int.toNat_natCast]
  simp only [packB, LittleEndian.encode, UInt8.ofNat_toNat]

theorem encodeGloveTelemetryPayload_agrees (g : GloveTelemetry) (capacity : ℕ)
    (hc : kGloveTelemetryPayloadSize ≤ capacity) :
    Codec.GloveTelemetry.encode g.toHost = .ok (encodeGloveTelemetryPayload g capacity) := by
  rw [Codec.GloveTelemetry.encode_eq_ok_iff, pack_eq_ok_iff]
  constructor
  · simp only [Codec.GloveTelemetry.format, Codec.GloveTelemetry.toRow, GloveTelemetry.toHost,
      List.forall₂_cons, fits_U16, fits_I16, fits_U8, List.forall₂_nil_left_iff, and_true]
  · simp only [encodeGloveTelemetryPayload, if_neg (not_lt.mpr hc), packRow,
      Codec.GloveTelemetry.format, Codec.GloveTelemetry.toRow, GloveTelemetry.toHost,
      List.zipWith_cons_cons, List.zipWith_nil_left, List.flatten_cons, List.flatten_nil,
      List.append_nil, pack_U16, pack_I16, pack_U8, List.append_assoc]

theorem encodeAcknowledgementPayload_agrees (sequence : UInt16) (status : AckStatus)
    (capacity : ℕ) (hc : kAcknowledgementPayloadSize ≤ capacity) :
    Codec.Acknowledgement.encode ⟨sequence.toNat, status⟩ =
      .ok (encodeAcknowledgementPayload sequence status capacity) := by
  have hstatus : Field.B.Fits status.value := by
    have := status.value_lt
    rw [Field.fits_B]
    omega
  rw [Codec.Acknowledgement.encode_eq_ok_iff, pack_eq_ok_iff]
  constructor
  · exact .cons (fits_U16 sequence) (.cons hstatus .nil)
  · simp only [encodeAcknowledgementPayload, if_neg (not_lt.mpr hc), packRow,
      Codec.Acknowledgement.format, Codec.Acknowledgement.toRow, List.zipWith_cons_cons,
      List.zipWith_nil_left, List.flatten_cons, List.flatten_nil, List.append_nil, pack_U16,
      Codec.pack_B_eq _ hstatus, Int.toNat_natCast, packB, LittleEndian.encode]

/-- The parsed frame and the host's frame say the same. -/
structure ParsedFrame.Same (p : ParsedFrame) (f : Frame) : Prop where
  type_eq : p.type = f.messageType
  sequence_eq : p.sequence.toNat = f.sequence
  payload_eq : p.payload = f.payload
  length_eq : p.payloadLength.toNat = f.payload.length

theorem ParsedFrame.same_ofFrame (f : Frame) : (ParsedFrame.ofFrame f).Same f :=
  ⟨rfl, ofNat_sequence_toNat f, rfl, ofNat_payload_length_toNat f⟩

theorem parseFrame_iff_decode (data : Bytes) (p : ParsedFrame) :
    parseFrame data = some p ↔ ∃ f, Frame.decode data = .ok f ∧ p = ParsedFrame.ofFrame f := by
  simp only [parseFrame_eq_some_iff, Frame.decode_eq_ok_iff]

/-- The triple as the host builds it, its bytes as the firmware builds them. -/
theorem buildFrame_eq_new (type : MessageType) (sequence : UInt16) (payload : Bytes)
    (hp : payload.length ≤ maxPayloadSize) :
    ∃ f : Frame, Frame.new type sequence.toNat payload = .ok f ∧
      f.messageType = type ∧ f.sequence = sequence.toNat ∧ f.payload = payload ∧
      Frame.decode f.encode = .ok f ∧
      ∀ capacity, frameOverhead+payload.length ≤ capacity →
        buildFrame type sequence (some payload) (UInt16.ofNat payload.length) capacity =
          f.encode := by
  have hs : sequence.toNat ≤ 0xFFFF := by
    have := sequence.toNat_lt
    omega
  let f : Frame := ⟨type, sequence.toNat, payload, hs, hp⟩
  refine ⟨f, f.new_self, rfl, rfl, rfl, f.decode_encode, ?_⟩
  intro capacity hc
  have hbuild := buildFrame_eq_encode f capacity hc
  rwa [UInt16.ofNat_toNat] at hbuild

/-- The firmware's codec and the host's are one codec. -/
theorem frame_and_payload_codecs_agree :
    (∀ data, (∃ p, parseFrame data = some p) ↔ ∃ f, Frame.decode data = .ok f) ∧
    (∀ data p f, parseFrame data = some p → Frame.decode data = .ok f → p.Same f) ∧
    (∀ (type : MessageType) (sequence : UInt16) (payload : Bytes),
      payload.length ≤ maxPayloadSize →
      ∃ f : Frame, Frame.new type sequence.toNat payload = .ok f ∧
        f.messageType = type ∧ f.sequence = sequence.toNat ∧ f.payload = payload ∧
        Frame.decode f.encode = .ok f ∧
        ∀ capacity, frameOverhead+payload.length ≤ capacity →
          buildFrame type sequence (some payload) (UInt16.ofNat payload.length) capacity =
            f.encode) ∧
    (∀ data f, Frame.decode data = .ok f → f.encode = data) ∧
    (∀ data p, parseFrame data = some p →
      buildFrame p.type p.sequence (some p.payload) p.payloadLength data.length = data) ∧
    (∀ (g : GloveTelemetry) (capacity : ℕ), kGloveTelemetryPayloadSize ≤ capacity →
      Codec.GloveTelemetry.encode g.toHost = .ok (encodeGloveTelemetryPayload g capacity)) ∧
    (∀ (sequence : UInt16) (status : AckStatus) (capacity : ℕ),
      kAcknowledgementPayloadSize ≤ capacity →
      Codec.Acknowledgement.encode ⟨sequence.toNat, status⟩ =
        .ok (encodeAcknowledgementPayload sequence status capacity)) := by
  refine ⟨?_, ?_, buildFrame_eq_new, ?_, ?_, encodeGloveTelemetryPayload_agrees,
    encodeAcknowledgementPayload_agrees⟩
  · intro data
    simp only [parseFrame_iff_decode]
    constructor
    · rintro ⟨_, f, hf, _⟩
      exact ⟨f, hf⟩
    · rintro ⟨f, hf⟩
      exact ⟨_, f, hf, rfl⟩
  · intro data p f hp hf
    obtain ⟨g, hg, heq⟩ := (parseFrame_iff_decode data p).mp hp
    rw [hf, Except.ok.injEq] at hg
    rw [heq, ← hg]
    exact ParsedFrame.same_ofFrame f
  · intro data f hf
    exact ((Frame.decode_eq_ok_iff data f).mp hf).symm
  · intro data p hp
    obtain ⟨f, hd, heq⟩ := (parseFrame_eq_some_iff data p).mp hp
    have hroom : frameOverhead+f.payload.length ≤ data.length := by
      rw [hd, f.length_encode, frameOverhead]
      omega
    rw [heq, hd] at *
    exact buildFrame_eq_encode f _ hroom

/-- A one-byte heartbeat at sequence 7, through the parts that ask for room. -/
theorem frame_and_payload_codecs_agree_small :
    (∃ f : Frame, Frame.new .heartbeat (7 : UInt16).toNat [1] = .ok f ∧
      buildFrame .heartbeat 7 (some [1]) 1 11 = f.encode) ∧
    Codec.Acknowledgement.encode ⟨(7 : UInt16).toNat, .ok⟩ =
      .ok (encodeAcknowledgementPayload 7 .ok 3) := by
  obtain ⟨_, _, hbuild, _, _, _, hack⟩ := frame_and_payload_codecs_agree
  constructor
  · obtain ⟨f, hnew, _, _, _, _, hcap⟩ := hbuild .heartbeat 7 [1] (by decide)
    exact ⟨f, hnew, hcap 11 (by decide)⟩
  · exact hack 7 .ok 3 (by decide)

end RoboticCharacter.Firmware
