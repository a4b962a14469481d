import RoboticCharacter.ProtocolChecksum

/-! The binary frame: `Frame.encode` and `Frame.decode` of the host, `ParseFrame`
and `BuildFrame` of the firmware. -/
namespace RoboticCharacter

def kMagic0 : UInt8 := 0x52
def kMagic1 : UInt8 := 0x43
def magic : Bytes := [kMagic0, kMagic1]
def protocolVersion : ℕ := 1
def headerSize : ℕ := 8
def crcSize : ℕ := 2
def frameOverhead : ℕ := headerSize+crcSize
def maxPayloadSize : ℕ := 512

inductive MessageType
  | gloveTelemetry
  | heartbeat
  | validatedMotionCommand
  | estop
  | ack
  | nack
  | robotTelemetry
  deriving DecidableEq, Repr

namespace MessageType

def value : MessageType → ℕ
  | gloveTelemetry => 0x01
  | heartbeat => 0x02
  | validatedMotionCommand => 0x03
  | estop => 0x04
  | ack => 0x05
  | nack => 0x06
  | robotTelemetry => 0x07

def name : MessageType → String
  | gloveTelemetry => "GLOVE_TELEMETRY"
  | heartbeat => "HEARTBEAT"
  | validatedMotionCommand => "VALIDATED_MOTION_COMMAND"
  | estop => "ESTOP"
  | ack => "ACK"
  | nack => "NACK"
  | robotTelemetry => "ROBOT_TELEMETRY"

/-- `MessageType(raw)` of the host and the type switch of the firmware. -/
def ofValue? : ℕ → Option MessageType
  | 0x01 => some gloveTelemetry
  | 0x02 => some heartbeat
  | 0x03 => some validatedMotionCommand
  | 0x04 => some estop
  | 0x05 => some ack
  | 0x06 => some nack
  | 0x07 => some robotTelemetry
  | _ => none

@[simp]
theorem ofValue?_value (t : MessageType) : ofValue? t.value = some t := by cases t <;> rfl

theorem value_of_ofValue? (n : ℕ) (t : MessageType) (h : ofValue? n = some t) : t.value = n := by
  unfold ofValue? at h
  split at h <;> cases h <;> rfl

theorem value_lt (t : MessageType) : t.value < 256 := by cases t <;> decide

end MessageType

/-- `ProtocolError` and its subclass `ProtocolChecksumError`. -/
inductive ProtocolError
  | protocol (message : String)
  | checksum (message : String)
  deriving DecidableEq, Repr

/-- A host frame; the two bounds are the checks of `__post_init__`. -/
structure Frame where
  messageType : MessageType
  sequence : ℕ
  payload : Bytes
  sequence_fits : sequence ≤ 0xFFFF
  payload_fits : payload.length ≤ maxPayloadSize
  deriving DecidableEq, Repr

namespace Frame
open Host

def new (messageType : MessageType) (sequence : ℕ) (payload : Bytes) : Except ProtocolError Frame :=
  if hs : sequence ≤ 0xFFFF then
    if hp : payload.length ≤ maxPayloadSize then .ok ⟨messageType, sequence, payload, hs, hp⟩
    else .error (.protocol "payload exceeds protocol maximum")
  else .error (.protocol "sequence must fit uint16")

theorem new_self (f : Frame) : new f.messageType f.sequence f.payload = .ok f := by
  simp only [new, f.sequence_fits, f.payload_fits, ↓reduceDIte]

def header (f : Frame) : Bytes :=
  magic ++ (packB protocolVersion ++ (packB f.messageType.value ++
    (packH f.sequence ++ packH f.payload.length)))

def body (f : Frame) : Bytes := f.header ++ f.payload

def encode (f : Frame) : Bytes := f.body ++ packH (crc16CcittFalse f.body)

def decode (data : Bytes) : Except ProtocolError Frame :=
  if data.length < headerSize+crcSize then .error (.protocol "frame is truncated")
  else
    let version := unpackB data 2
    let rawType := unpackB data 3
    let sequence := unpackH data 4
    let payloadLength := unpackH data 6
    if data.take 2 ≠ magic then .error (.protocol "invalid frame magic")
    else if version ≠ protocolVersion then
      .error (.protocol s!"unsupported protocol version: {version}")
    else if payloadLength > maxPayloadSize then
      .error (.protocol "declared payload exceeds protocol maximum")
    else
      let expectedSize := headerSize+payloadLength+crcSize
      if data.length ≠ expectedSize then
        .error (.protocol s!"frame length mismatch: declared={expectedSize}, actual={data.length}")
      else
        match MessageType.ofValue? rawType with
        | none => .error (.protocol s!"unknown message type: {rawType}")
        | some messageType =>
          let payloadEnd := headerSize+payloadLength
          let payload := (data.drop headerSize).take payloadLength
          if unpackH data payloadEnd ≠ crc16CcittFalse (data.take payloadEnd) then
            .error (.checksum "frame checksum mismatch")
          else new messageType sequence payload

@[simp]
theorem length_header (f : Frame) : f.header.length = headerSize := by
  simp only [header, magic, List.length_append, length_packB, length_packH, headerSize,
    List.length_cons, List.length_nil]

@[simp]
theorem length_body (f : Frame) : f.body.length = headerSize+f.payload.length := by
  simp only [body, List.length_append, length_header]

@[simp]
theorem length_encode (f : Frame) : f.encode.length = headerSize+f.payload.length+crcSize := by
  simp only [encode, List.length_append, length_body, length_packH, crcSize]

theorem payload_length_lt (f : Frame) : f.payload.length < 65536 := by
  have := f.payload_fits
  unfold maxPayloadSize at this
  omega

/-- What the header of a frame says, whatever follows it. -/
structure HeaderOf (f : Frame) (data : Bytes) : Prop where
  magic_eq : data.take 2 = magic
  version_eq : unpackB data 2 = protocolVersion
  type_eq : unpackB data 3 = f.messageType.value
  sequence_eq : unpackH data 4 = f.sequence
  length_eq : unpackH data 6 = f.payload.length

theorem header_fields (f : Frame) (tail : Bytes) : HeaderOf f (f.header ++ tail) := by
  have hs := f.sequence_fits
  have hp := f.payload_length_lt
  have hv : protocolVersion < 256 := by decide
  simp only [header, List.append_assoc]
  refine ⟨rfl, unpackB_packB _ _ _ _ rfl hv, ?_, ?_, ?_⟩
  · rw [← List.append_assoc magic]
    exact unpackB_packB _ _ _ _ rfl f.messageType.value_lt
  · rw [← List.append_assoc magic, ← List.append_assoc]
    exact unpackH_packH _ _ _ _ rfl (by omega)
  · rw [← List.append_assoc magic, ← List.append_assoc, ← List.append_assoc]
    exact unpackH_packH _ _ _ _ rfl hp

theorem encode_eq (f : Frame) :
    f.encode = f.header ++ (f.payload ++ packH (crc16CcittFalse f.body)) := by
  simp only [encode, body, List.append_assoc]

theorem encode_take_header (f : Frame) : f.encode.take headerSize = f.header := by
  rw [encode_eq, List.take_left' f.length_header]

/-- Eight bytes are enough to read the header. -/
theorem headerOf_of_take (f : Frame) (data : Bytes) (h : data.take headerSize = f.header) :
    f.HeaderOf data := by
  have hsplit : data = f.header ++ data.drop headerSize := by rw [← h, List.take_append_drop]
  rw [hsplit]
  exact f.header_fields _

theorem encode_payload (f : Frame) :
    (f.encode.drop headerSize).take f.payload.length = f.payload := by
  rw [encode_eq, List.drop_left' f.length_header, List.take_left' rfl]

theorem encode_take_body (f : Frame) : f.encode.take (headerSize+f.payload.length) = f.body :=
  List.take_left' f.length_body

theorem encode_crc (f : Frame) :
    unpackH f.encode (headerSize+f.payload.length) = crc16CcittFalse f.body := by
  have h := unpackH_packH f.body [] (crc16CcittFalse f.body) _ f.length_body (crc16CcittFalse_lt _)
  simpa only [encode, List.append_nil] using h

theorem decode_encode (f : Frame) : decode f.encode = .ok f := by
  have hh : HeaderOf f f.encode := f.encode_eq ▸ header_fields f _
  have hp := f.payload_fits
  have hlen := f.length_encode
  unfold decode
  rw [if_neg (by omega)]
  simp only [hh.magic_eq, hh.version_eq, hh.type_eq, hh.sequence_eq, hh.length_eq, hlen,
    ne_eq, not_true_eq_false, ↓reduceIte, gt_iff_lt, not_lt.mpr hp, MessageType.ofValue?_value,
    encode_payload, encode_take_body, encode_crc, new_self]

/-- A string whose fields pass every check is the encoding of the frame they name. -/
theorem encode_of_fields (data : Bytes) (f : Frame) (hm : data.take 2 = magic)
    (hv : unpackB data 2 = protocolVersion) (ht : unpackB data 3 = f.messageType.value)
    (hs : unpackH data 4 = f.sequence) (hn : unpackH data 6 = f.payload.length)
    (hlen : data.length = headerSize+f.payload.length+crcSize)
    (hp : (data.drop headerSize).take f.payload.length = f.payload)
    (hc : unpackH data (headerSize+f.payload.length) =
      crc16CcittFalse (data.take (headerSize+f.payload.length))) : data = f.encode := by
  have hlen' : data.length = f.payload.length+10 := by
    simp only [hlen, headerSize, crcSize]
    omega
  -- header, payload and checksum, each put back together from its fields
  have hheader : data.take headerSize = f.header := by
    simp only [header, ← hm, ← hv, ← ht, ← hs, ← hn]
    rw [packB_unpackB _ _ (by omega), packB_unpackB _ _ (by omega),
      packH_unpackH _ _ (by omega), packH_unpackH _ _ (by omega)]
    simp only [headerSize, show (8 : ℕ) = 2+(1+(1+(2+2))) from rfl, List.take_add, List.drop_drop]
  have hbody : data.take (headerSize+f.payload.length) = f.body := by
    rw [List.take_add, hheader, hp, body]
  have htail : data.drop (headerSize+f.payload.length) = packH (crc16CcittFalse f.body) := by
    rw [← hbody, ← hc, packH_unpackH _ _ (by simp only [headerSize]; omega), List.take_of_length_le]
    simp only [List.length_drop, headerSize]
    omega
  rw [encode, ← htail, ← hbody, List.take_append_drop]

/-- The host decodes exactly the encodings. -/
theorem decode_eq_ok_iff (data : Bytes) (f : Frame) : decode data = .ok f ↔ data = f.encode := by
  refine ⟨fun h => ?_, fun h => h ▸ decode_encode f⟩
  have hseq := unpackH_lt data 4
  unfold decode at h
  cases ht : MessageType.ofValue? (unpackB data 3) with
  | none =>
    simp only [ht] at h
    split_ifs at h
  | some t =>
    simp only [ht] at h
    split_ifs at h with h1 h2 h3 h4 h5 h6
    have hpl : ((data.drop headerSize).take (unpackH data 6)).length = unpackH data 6 := by
      simp only [List.length_take, List.length_drop]
      omega
    simp only [new, show unpackH data 4 ≤ 0xFFFF by omega, hpl, not_lt.mp h4, ↓reduceDIte,
      Except.ok.injEq] at h
    subst h
    exact encode_of_fields data _ (not_not.mp h2) (not_not.mp h3)
      (MessageType.value_of_ofValue? _ _ ht).symm rfl hpl.symm (hpl.symm ▸ not_not.mp h5)
      (by simp only [hpl]) (hpl.symm ▸ not_not.mp h6)

theorem encode_injective (f g : Frame) (h : f.encode = g.encode) : f = g := by
  have hf := decode_encode f
  rw [h, decode_encode g] at hf
  exact (Except.ok.inj hf).symm

end Frame

end RoboticCharacter
