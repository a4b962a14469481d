import RoboticCharacter.ProtocolFrame

/-! The firmware's frame parser and builder, and their agreement with the host codec. -/
namespace RoboticCharacter.Firmware
open Host

structure ParsedFrame where
  type : MessageType
  sequence : UInt16
  payload : Bytes
  payloadLength : UInt16
  deriving DecidableEq, Repr

/-- `ParseFrame`; the payload pointer stands for the bytes it may be read through. -/
def parseFrame (data : Bytes) : Option ParsedFrame :=
  if data.length < frameOverhead then none
  else if byteAt data 0 ≠ kMagic0 ∨ byteAt data 1 ≠ kMagic1 ∨
      (byteAt data 2).toNat ≠ protocolVersion then none
  else
    let payloadLength := readU16Le data 6
    if payloadLength.toNat > maxPayloadSize then none
    else
      let expectedLength := frameOverhead+payloadLength.toNat
      if data.length ≠ expectedLength then none
      else
        let expectedCrc := readU16Le data (headerSize+payloadLength.toNat)
        let actualCrc := crc16CcittFalse (data.take (headerSize+payloadLength.toNat))
        if expectedCrc ≠ actualCrc then none
        else
          match MessageType.ofValue? (byteAt data 3).toNat with
          | none => none
          | some type =>
            some ⟨type, readU16Le data 4, (data.drop headerSize).take payloadLength.toNat,
              payloadLength⟩

def frameHeader (type : MessageType) (sequence payloadLength : UInt16) : Bytes :=
  [kMagic0, kMagic1, UInt8.ofNat protocolVersion, UInt8.ofNat type.value] ++
    (writeU16Le sequence ++ writeU16Le payloadLength)

/-- `BuildFrame`: the bytes stored at `out`, none of them when it returns zero. -/
def buildFrame (type : MessageType) (sequence : UInt16) (payload : Option Bytes)
    (payloadLength : UInt16) (capacity : ℕ) : Bytes :=
  let frameSize := frameOverhead+payloadLength.toNat
  if payloadLength.toNat > maxPayloadSize ∨ capacity < frameSize ∨
      (0 < payloadLength.toNat ∧ payload = none) then []
  else
    let out := frameHeader type sequence payloadLength ++
      (payload.getD []).take payloadLength.toNat
    out ++ writeU16Le (crc16CcittFalse out)

/-- What the parser reports of a host frame. -/
def ParsedFrame.ofFrame (f : Frame) : ParsedFrame :=
  ⟨f.messageType, UInt16.ofNat f.sequence, f.payload, UInt16.ofNat f.payload.length⟩

theorem readU16Le_eq_ofNat (data : Bytes) (offset : ℕ) :
    readU16Le data offset = UInt16.ofNat (unpackH data offset) := by
  rw [← readU16Le_eq_unpackH, UInt16.ofNat_toNat]

theorem byteAt_magic_iff (data : Bytes) (h : 2 ≤ data.length) :
    data.take 2 = magic ↔ byteAt data 0 = kMagic0 ∧ byteAt data 1 = kMagic1 := by
  rcases data with _ | ⟨a, _ | ⟨b, rest⟩⟩
  · simp at h
  · simp at h
  · simp [magic, byteAt]

theorem ofNat_payload_length_toNat (f : Frame) :
    (UInt16.ofNat f.payload.length).toNat = f.payload.length := by
  rw [UInt16.toNat_ofNat', Nat.mod_eq_of_lt f.payload_length_lt]

theorem ofNat_sequence_toNat (f : Frame) : (UInt16.ofNat f.sequence).toNat = f.sequence := by
  have hs := f.sequence_fits
  rw [UInt16.toNat_ofNat', Nat.mod_eq_of_lt (by omega)]

theorem parseFrame_encode (f : Frame) : parseFrame f.encode = some (ParsedFrame.ofFrame f) := by
  have hh : f.HeaderOf f.encode := f.encode_eq ▸ f.header_fields _
  have hp := f.payload_fits
  have hlen := f.length_encode
  have hlen' : headerSize+f.payload.length+crcSize = frameOverhead+f.payload.length := by
    simp only [frameOverhead]; omega
  have hm := (byteAt_magic_iff f.encode (by rw [hlen, headerSize]; omega)).mp hh.magic_eq
  have hcrc : readU16Le f.encode (headerSize+f.payload.length) = crc16CcittFalse f.body := by
    apply UInt16.toNat_inj.mp
    rw [readU16Le_eq_unpackH, f.encode_crc, crc16CcittFalse_toNat]
  have hl := ofNat_payload_length_toNat f
  have hn : readU16Le f.encode 6 = UInt16.ofNat f.payload.length := by
    rw [readU16Le_eq_ofNat, hh.length_eq]
  have hq : readU16Le f.encode 4 = UInt16.ofNat f.sequence := by
    rw [readU16Le_eq_ofNat, hh.sequence_eq]
  unfold parseFrame
  rw [if_neg (by omega)]
  simp only [hm.1, hm.2, ← unpackB_eq_byteAt, hh.version_eq, hh.type_eq, hn, hq, hl, hlen, hlen',
    hcrc, f.encode_take_body, f.encode_payload, MessageType.ofValue?_value, not_lt.mpr hp,
    ne_eq, not_true_eq_false, or_self, ↓reduceIte, ParsedFrame.ofFrame]

theorem parseFrame_eq_some_iff (data : Bytes) (p : ParsedFrame) :
    parseFrame data = some p ↔ ∃ f : Frame, data = f.encode ∧ p = ParsedFrame.ofFrame f := by
  constructor
  · intro h
    have hseq := unpackH_lt data 4
    unfold parseFrame at h
    cases ht : MessageType.ofValue? (byteAt data 3).toNat with
    | none =>
      simp only [ht] at h
      split_ifs at h
    | some t =>
      simp only [ht, readU16Le_eq_unpackH] at h
      split_ifs at h with h1 h2 h3 h4 h5
      simp only [not_or, not_not] at h2 h4 h5
      have hlong : 10 ≤ data.length := not_lt.mp h1
      have hpl : ((data.drop headerSize).take (unpackH data 6)).length = unpackH data 6 := by
        simp only [List.length_take, List.length_drop, headerSize]
        simp only [frameOverhead, headerSize, crcSize] at h4
        omega
      have hcrc : unpackH data (headerSize+unpackH data 6) =
          Host.crc16CcittFalse (data.take (headerSize+unpackH data 6)) := by
        rw [← readU16Le_eq_unpackH, h5, crc16CcittFalse_toNat]
      -- the frame the fields describe; the checks make its encoding the data itself
      let f : Frame := ⟨t, unpackH data 4, (data.drop headerSize).take (unpackH data 6),
        by omega, by rw [hpl]; exact not_lt.mp h3⟩
      have hd : data = f.encode := by
        refine Frame.encode_of_fields data f
          ((byteAt_magic_iff data (by omega)).mpr ⟨h2.1, h2.2.1⟩)
          (by rw [unpackB_eq_byteAt]; exact h2.2.2) ?_ rfl hpl.symm ?_ ?_ ?_
        · rw [unpackB_eq_byteAt]
          exact (MessageType.value_of_ofValue? _ _ ht).symm
        · simp only [f, hpl, h4, frameOverhead]
          omega
        · simp only [f, hpl]
        · simpa only [f, hpl] using hcrc
      refine ⟨f, hd, ?_⟩
      rw [← Option.some.inj h]
      simp only [ParsedFrame.ofFrame, f, hpl, readU16Le_eq_ofNat]
  · rintro ⟨f, rfl, rfl⟩
    exact parseFrame_encode f

/-- With room for it, the firmware builds the host's encoding. -/
theorem buildFrame_eq_encode (f : Frame) (capacity : ℕ)
    (hc : frameOverhead+f.payload.length ≤ capacity) :
    buildFrame f.messageType (UInt16.ofNat f.sequence) (some f.payload)
      (UInt16.ofNat f.payload.length) capacity = f.encode := by
  have hp := f.payload_fits
  have hl := ofNat_payload_length_toNat f
  have hq := ofNat_sequence_toNat f
  have hbody : frameHeader f.messageType (UInt16.ofNat f.sequence)
      (UInt16.ofNat f.payload.length) ++ f.payload = f.body := by
    simp only [frameHeader, writeU16Le_eq_packH, hl, hq, Frame.body, Frame.header, magic, packB,
      LittleEndian.encode, List.cons_append, List.nil_append]
  unfold buildFrame
  simp only [hl, gt_iff_lt, not_lt.mpr hp, not_lt.mpr hc, reduceCtorEq, and_false, or_self,
    ↓reduceIte, Option.getD_some, List.take_length, hbody, writeU16Le_eq_packH,
    crc16CcittFalse_toNat, Frame.encode]

end RoboticCharacter.Firmware
