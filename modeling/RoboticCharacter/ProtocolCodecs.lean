import RoboticCharacter.PythonStruct
import RoboticCharacter.ProtocolMessages

/-! The payload codecs with everything they may raise: `struct.error`, the `ValueError` of
an enum lookup or of an assignment to several names, and `ProtocolError`. -/
namespace RoboticCharacter.Codec
open Fallible PythonStruct

inductive Raised
  | structError (error : StructError)
  | typeError (message : String)
  | valueError (message : String)
  | protocolError (error : ProtocolError)
  deriving DecidableEq, Repr

def Raised.IsProtocolError (e : Raised) : Prop := ∃ error, e = .protocolError error

def Raised.IsValueError (e : Raised) : Prop := ∃ message, e = .valueError message

section Raise
variable {α : Type}

def raiseProtocol (message : String) : Except Raised α :=
  .error (.protocolError (.protocol message))

def fromStruct (x : Except StructError α) : Except Raised α := x.mapError .structError

def fromProtocol (x : Except ProtocolError α) : Except Raised α := x.mapError .protocolError

/-- `a, b, c = row` for a row of another length. -/
def wrongArity (row : List ℤ) : Except Raised α :=
  .error (.valueError s!"cannot assign {row.length} values")

/-- `try: ... except ValueError as exc: raise ProtocolError(message) from exc`. -/
def exceptValueError (x : Except Raised α) (message : String) : Except Raised α :=
  match x with
  | .error (.valueError _) => raiseProtocol message
  | other => other

@[simp]
theorem raiseProtocol_ne_ok (message : String) (a : α) :
    ¬ (raiseProtocol message : Except Raised α) = .ok a := by
  simp [raiseProtocol]

@[simp]
theorem wrongArity_ne_ok (row : List ℤ) (a : α) : ¬ (wrongArity row : Except Raised α) = .ok a := by
  simp [wrongArity]

@[simp]
theorem fromStruct_eq_ok_iff (x : Except StructError α) (a : α) :
    fromStruct x = .ok a ↔ x = .ok a := mapError_eq_ok_iff _ x a

@[simp]
theorem fromProtocol_eq_ok_iff (x : Except ProtocolError α) (a : α) :
    fromProtocol x = .ok a ↔ x = .ok a := mapError_eq_ok_iff _ x a

@[simp]
theorem exceptValueError_eq_ok_iff (x : Except Raised α) (message : String) (a : α) :
    exceptValueError x message = .ok a ↔ x = .ok a := by
  cases x with
  | ok b => exact Iff.rfl
  | error e => cases e <;> simp [exceptValueError, raiseProtocol]

theorem raises_raiseProtocol (message : String) :
    Raises Raised.IsProtocolError (raiseProtocol message : Except Raised α) :=
  raises_error _ _ ⟨_, rfl⟩

theorem raises_fromProtocol (x : Except ProtocolError α) :
    Raises Raised.IsProtocolError (fromProtocol x) :=
  raises_mapError _ _ (fun error => ⟨error, rfl⟩) x

theorem raises_exceptValueError (x : Except Raised α) (message : String)
    (hx : Raises Raised.IsValueError x) :
    Raises Raised.IsProtocolError (exceptValueError x message) := by
  cases x with
  | ok a => exact raises_ok _ a
  | error e =>
    obtain ⟨_, he⟩ := hx e rfl
    rw [he]
    exact raises_raiseProtocol message

end Raise

/-- A Python `IntEnum` without aliases. -/
class IntEnum (α : Type) where
  name : String
  members : List α
  value : α → ℕ
  complete : ∀ a, a ∈ members
  no_alias : ∀ a b, value a = value b → a = b

namespace IntEnum
variable {α : Type} [IntEnum α]

/-- The call of the class, as in `DeviceSource(raw)`. -/
def ofValue (raw : ℤ) : Except Raised α :=
  match (members : List α).find? (fun a => (value a : ℤ) = raw) with
  | some a => .ok a
  | none => .error (.valueError s!"{raw} is not a valid {name α}")

@[simp]
theorem ofValue_eq_ok_iff (raw : ℤ) (a : α) : ofValue raw = .ok a ↔ raw = value a := by
  unfold ofValue
  cases hfind : (members : List α).find? (fun a => (value a : ℤ) = raw) with
  | none =>
    have hnone := List.find?_eq_none.mp hfind a (complete a)
    simp only [decide_eq_true_eq] at hnone
    simp only [reduceCtorEq, false_iff]
    exact fun h => hnone h.symm
  | some b =>
    have hb := List.find?_some hfind
    simp only [decide_eq_true_eq] at hb
    simp only [Except.ok.injEq]
    constructor
    · intro h
      rw [← h, hb]
    · intro h
      exact no_alias b a (by omega)

theorem raises_ofValue (raw : ℤ) : Raises Raised.IsValueError (ofValue raw : Except Raised α) := by
  unfold ofValue
  split
  · exact raises_ok _ _
  · exact raises_error _ _ ⟨_, rfl⟩

end IntEnum

instance : IntEnum DeviceSource where
  name := "DeviceSource"
  members := [.host, .glove, .gateway, .robot]
  value := DeviceSource.value
  complete := by intro a; cases a <;> decide
  no_alias := by intro a b; cases a <;> cases b <;> decide

instance : IntEnum WireSystemState where
  name := "WireSystemState"
  members := [.boot, .selfTest, .calibrating, .idle, .armed, .executing, .degraded, .fault,
    .estop, .shutdown]
  value := WireSystemState.value
  complete := by intro a; cases a <;> decide
  no_alias := by intro a b; cases a <;> cases b <;> decide

instance : IntEnum EstopReason where
  name := "EstopReason"
  members := [.manual, .watchdog, .safety, .communication]
  value := EstopReason.value
  complete := by intro a; cases a <;> decide
  no_alias := by intro a b; cases a <;> cases b <;> decide

instance : IntEnum MotionMode where
  name := "MotionMode"
  members := [.position]
  value := MotionMode.value
  complete := by intro a; cases a; decide
  no_alias := by intro a b _; cases a; cases b; rfl

instance : IntEnum AckStatus where
  name := "AckStatus"
  members := [.ok, .rejected, .stale, .invalid]
  value := AckStatus.value
  complete := by intro a; cases a <;> decide
  no_alias := by intro a b; cases a <;> cases b <;> decide

theorem requireUint_eq_ok_iff (name : String) (value minimum : ℤ) (bits : ℕ) (u : Unit) :
    requireUint name value bits minimum = .ok u ↔ minimum ≤ value ∧ value ≤ 2^bits-1 := by
  rw [requireUint, require_eq_ok_iff]

theorem requireInt16_eq_ok_iff (name : String) (value : ℤ) (u : Unit) :
    requireInt16 name value = .ok u ↔ -32768 ≤ value ∧ value ≤ 32767 := by
  rw [requireInt16, require_eq_ok_iff]

/-- An encoder and a decoder of one message type: each undoes the other wherever it
succeeds, and the decoder raises nothing but `ProtocolError`. -/
structure Inverse {α : Type} (encode : α → Except Raised Bytes)
    (decode : Bytes → Except Raised α) : Prop where
  decode_encode : ∀ message payload, encode message = .ok payload → decode payload = .ok message
  encode_decode : ∀ payload message, decode payload = .ok message → encode message = .ok payload
  decode_raises : ∀ payload, Raises Raised.IsProtocolError (decode payload)

theorem Inverse.of_iff {α : Type} (encode : α → Except Raised Bytes)
    (decode : Bytes → Except Raised α)
    (hiff : ∀ message payload, decode payload = .ok message ↔ encode message = .ok payload)
    (hraises : ∀ payload, Raises Raised.IsProtocolError (decode payload)) :
    Inverse encode decode :=
  ⟨fun message payload => (hiff message payload).mpr,
    fun payload message => (hiff message payload).mp, hraises⟩

/-- The decoders of a fixed size: the length check, then the row of the format. -/
def decodeSized {α : Type} (fmt : List Field) (message : String)
    (fromRow : List ℤ → Except Raised α) (payload : Bytes) : Except Raised α :=
  if payload.length ≠ size fmt then raiseProtocol message
  else do
    let row ← fromStruct (unpack fmt payload)
    fromRow row

theorem decodeSized_eq_ok_iff {α : Type} (fmt : List Field) (message : String)
    (fromRow : List ℤ → Except Raised α) (toRow : α → List ℤ)
    (hrow : ∀ row a, fromRow row = .ok a ↔ row = toRow a) (payload : Bytes) (a : α) :
    decodeSized fmt message fromRow payload = .ok a ↔ pack fmt (toRow a) = .ok payload := by
  unfold decodeSized
  split_ifs with hlen
  · rw [ne_eq] at hlen
    simp only [raiseProtocol_ne_ok, false_iff]
    intro hpack
    exact hlen (length_of_pack fmt _ payload hpack)
  · simp only [bind_eq_ok_iff, fromStruct_eq_ok_iff, unpack_eq_ok_iff, hrow]
    constructor
    · rintro ⟨row, hpack, rfl⟩
      exact hpack
    · intro hpack
      exact ⟨_, hpack, rfl⟩

/-- After the length check the format cannot fail: only the row's own checks raise. -/
theorem raises_decodeSized {α : Type} (fmt : List Field) (message : String)
    (fromRow : List ℤ → Except Raised α)
    (hrow : ∀ row, row.length = fmt.length → Raises Raised.IsProtocolError (fromRow row))
    (payload : Bytes) :
    Raises Raised.IsProtocolError (decodeSized fmt message fromRow payload) := by
  unfold decodeSized
  split_ifs with hlen
  · exact raises_raiseProtocol message
  · rw [unpack_eq_ok fmt payload (not_not.mp hlen)]
    exact hrow _ (length_readRow fmt payload)

/-- A record of an array, read at its offset. -/
def decodeFrom {α : Type} (fmt : List Field) (fromRow : List ℤ → Except Raised α)
    (payload : Bytes) (offset : ℕ) : Except Raised α := do
  let row ← fromStruct (unpackFrom fmt payload offset)
  fromRow row

theorem decodeFrom_eq_ok_iff {α : Type} (fmt : List Field) (fromRow : List ℤ → Except Raised α)
    (toRow : α → List ℤ) (hrow : ∀ row a, fromRow row = .ok a ↔ row = toRow a) (payload : Bytes)
    (offset : ℕ) (a : α) (hroom : offset+size fmt ≤ payload.length) :
    decodeFrom fmt fromRow payload offset = .ok a ↔
      pack fmt (toRow a) = .ok ((payload.drop offset).take (size fmt)) := by
  simp only [decodeFrom, bind_eq_ok_iff, fromStruct_eq_ok_iff, unpackFrom_eq_ok_iff, hrow]
  constructor
  · rintro ⟨row, h, rfl⟩
    exact h.1
  · intro hpack
    exact ⟨_, ⟨hpack, hroom⟩, rfl⟩

theorem raises_decodeFrom {α : Type} (fmt : List Field) (fromRow : List ℤ → Except Raised α)
    (hrow : ∀ row, row.length = fmt.length → Raises Raised.IsProtocolError (fromRow row))
    (payload : Bytes) (offset : ℕ) (hroom : offset+size fmt ≤ payload.length) :
    Raises Raised.IsProtocolError (decodeFrom fmt fromRow payload offset) := by
  rw [decodeFrom, unpackFrom_eq_ok fmt payload offset hroom]
  exact hrow _ (length_readRow fmt _)

/-- Values that fit their fields are packed without `struct.error`. -/
theorem raises_pack (fmt : List Field) (row : List ℤ) (h : List.Forall₂ Field.Fits fmt row) :
    Raises Raised.IsProtocolError (fromStruct (pack fmt row)) := by
  rw [(pack_eq_ok_iff fmt row _).mpr ⟨h, rfl⟩]
  exact raises_ok _ _

namespace Heartbeat

def format : List Field := [.B, .I, .B]

def toRow (h : Heartbeat) : List ℤ := [h.source.value, h.uptimeMs, h.state.value]

def fromRow : List ℤ → Except Raised Heartbeat
  | [rawSource, uptimeMs, rawState] =>
    exceptValueError (do
      let source ← IntEnum.ofValue rawSource
      let state ← IntEnum.ofValue rawState
      return ⟨source, uptimeMs, state⟩) "heartbeat contains an unknown enum value"
  | row => wrongArity row

def encode (h : Heartbeat) : Except Raised Bytes := do
  fromProtocol (requireUint "uptime_ms" h.uptimeMs 32 0)
  fromStruct (pack format (toRow h))

def decode (payload : Bytes) : Except Raised Heartbeat :=
  decodeSized format "invalid heartbeat payload length" fromRow payload

theorem encode_eq_ok_iff (h : Heartbeat) (payload : Bytes) :
    encode h = .ok payload ↔ pack format (toRow h) = .ok payload := by
  simp only [encode, bind_eq_ok_iff, fromProtocol_eq_ok_iff, fromStruct_eq_ok_iff,
    requireUint_eq_ok_iff, exists_and_left, exists_const, and_iff_right_iff_imp]
  intro hpack
  have hfits := ((pack_eq_ok_iff _ _ _).mp hpack).1
  simp only [format, toRow, List.forall₂_cons, Field.fits_I] at hfits
  omega

theorem fromRow_eq_ok_iff (row : List ℤ) (h : Heartbeat) :
    fromRow row = .ok h ↔ row = toRow h := by
  unfold fromRow
  split
  · simp only [exceptValueError_eq_ok_iff, bind_eq_ok_iff, IntEnum.ofValue_eq_ok_iff,
      pure_eq_ok_iff, toRow, List.cons.injEq, and_true]
    constructor
    · rintro ⟨source, hsource, state, hstate, rfl⟩
      exact ⟨hsource, rfl, hstate⟩
    · rintro ⟨hsource, rfl, hstate⟩
      exact ⟨_, hsource, _, hstate, rfl⟩
  · rename_i hrow
    simp only [wrongArity_ne_ok, false_iff]
    exact hrow _ _ _

theorem raises_fromRow (row : List ℤ) (hrow : row.length = format.length) :
    Raises Raised.IsProtocolError (fromRow row) := by
  obtain ⟨a, b, c, rfl⟩ := List.length_eq_three.mp hrow
  apply raises_exceptValueError
  apply raises_bind _ _ _ (IntEnum.raises_ofValue a)
  intro source _
  apply raises_bind _ _ _ (IntEnum.raises_ofValue c)
  intro state _
  exact raises_pure _ _

theorem inverse : Inverse encode decode := by
  apply Inverse.of_iff
  · intro h payload
    rw [decode, decodeSized_eq_ok_iff _ _ _ toRow fromRow_eq_ok_iff, encode_eq_ok_iff]
  · intro payload
    exact raises_decodeSized format _ _ raises_fromRow payload

end Heartbeat

namespace EmergencyStop

def format : List Field := [.B, .B]

def toRow (e : EmergencyStop) : List ℤ := [e.source.value, e.reason.value]

def fromRow : List ℤ → Except Raised EmergencyStop
  | [source, reason] =>
    exceptValueError (do
      let source ← IntEnum.ofValue source
      let reason ← IntEnum.ofValue reason
      return ⟨source, reason⟩) "E-stop contains an unknown enum value"
  | row => wrongArity row

def encode (e : EmergencyStop) : Except Raised Bytes := fromStruct (pack format (toRow e))

def decode (payload : Bytes) : Except Raised EmergencyStop :=
  decodeSized format "invalid E-stop payload length" fromRow payload

theorem fromRow_eq_ok_iff (row : List ℤ) (e : EmergencyStop) :
    fromRow row = .ok e ↔ row = toRow e := by
  unfold fromRow
  split
  · simp only [exceptValueError_eq_ok_iff, bind_eq_ok_iff, IntEnum.ofValue_eq_ok_iff,
      pure_eq_ok_iff, toRow, List.cons.injEq, and_true]
    constructor
    · rintro ⟨source, hsource, reason, hreason, rfl⟩
      exact ⟨hsource, hreason⟩
    · intro h
      exact ⟨_, h.1, _, h.2, rfl⟩
  · rename_i hrow
    simp only [wrongArity_ne_ok, false_iff]
    exact hrow _ _

theorem raises_fromRow (row : List ℤ) (hrow : row.length = format.length) :
    Raises Raised.IsProtocolError (fromRow row) := by
  obtain ⟨a, b, rfl⟩ := List.length_eq_two.mp hrow
  apply raises_exceptValueError
  apply raises_bind _ _ _ (IntEnum.raises_ofValue a)
  intro source _
  apply raises_bind _ _ _ (IntEnum.raises_ofValue b)
  intro reason _
  exact raises_pure _ _

theorem inverse : Inverse encode decode := by
  apply Inverse.of_iff
  · intro e payload
    rw [decode, decodeSized_eq_ok_iff _ _ _ toRow fromRow_eq_ok_iff, encode, fromStruct_eq_ok_iff]
  · intro payload
    exact raises_decodeSized format _ _ raises_fromRow payload

end EmergencyStop

namespace Acknowledgement

def format : List Field := [.H, .B]

def toRow (a : Acknowledgement) : List ℤ := [a.acknowledgedSequence, a.status.value]

def fromRow : List ℤ → Except Raised Acknowledgement
  | [sequence, rawStatus] =>
    exceptValueError (do
      let status ← IntEnum.ofValue rawStatus
      return ⟨sequence, status⟩) "acknowledgement contains an unknown status"
  | row => wrongArity row

def encode (a : Acknowledgement) : Except Raised Bytes := do
  fromProtocol (requireUint "acknowledged_sequence" a.acknowledgedSequence 16 0)
  fromStruct (pack format (toRow a))

def decode (payload : Bytes) : Except Raised Acknowledgement :=
  decodeSized format "invalid acknowledgement payload length" fromRow payload

theorem encode_eq_ok_iff (a : Acknowledgement) (payload : Bytes) :
    encode a = .ok payload ↔ pack format (toRow a) = .ok payload := by
  simp only [encode, bind_eq_ok_iff, fromProtocol_eq_ok_iff, fromStruct_eq_ok_iff,
    requireUint_eq_ok_iff, exists_and_left, exists_const, and_iff_right_iff_imp]
  intro hpack
  have hfits := ((pack_eq_ok_iff _ _ _).mp hpack).1
  simp only [format, toRow, List.forall₂_cons, Field.fits_H] at hfits
  omega

theorem fromRow_eq_ok_iff (row : List ℤ) (a : Acknowledgement) :
    fromRow row = .ok a ↔ row = toRow a := by
  unfold fromRow
  split
  · simp only [exceptValueError_eq_ok_iff, bind_eq_ok_iff, IntEnum.ofValue_eq_ok_iff,
      pure_eq_ok_iff, toRow, List.cons.injEq, and_true]
    constructor
    · rintro ⟨status, hstatus, rfl⟩
      exact ⟨rfl, hstatus⟩
    · intro h
      exact ⟨_, h.2, by rw [h.1]⟩
  · rename_i hrow
    simp only [wrongArity_ne_ok, false_iff]
    exact hrow _ _

theorem raises_fromRow (row : List ℤ) (hrow : row.length = format.length) :
    Raises Raised.IsProtocolError (fromRow row) := by
  obtain ⟨a, b, rfl⟩ := List.length_eq_two.mp hrow
  apply raises_exceptValueError
  apply raises_bind _ _ _ (IntEnum.raises_ofValue b)
  intro status _
  exact raises_pure _ _

theorem inverse : Inverse encode decode := by
  apply Inverse.of_iff
  · intro a payload
    rw [decode, decodeSized_eq_ok_iff _ _ _ toRow fromRow_eq_ok_iff, encode_eq_ok_iff]
  · intro payload
    exact raises_decodeSized format _ _ raises_fromRow payload

end Acknowledgement

end RoboticCharacter.Codec
