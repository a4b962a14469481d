import RoboticCharacter.JsonRoundTrip
import RoboticCharacter.PydanticModel
import RoboticCharacter.AuditTamper
import RoboticCharacter.GestureClassifier
import RoboticCharacter.HealthMonitor
import RoboticCharacter.SafetyModels

/-! The serializer of events: a registry of event types, the JSON text of an event, and the event
that a text is read as. What it reads back is what was written, if the registry has its type. -/
namespace RoboticCharacter.Health

def HealthStatus.value : HealthStatus → String
  | healthy => "HEALTHY"
  | degraded => "DEGRADED"
  | failed => "FAILED"
  | unknown => "UNKNOWN"

end RoboticCharacter.Health

namespace RoboticCharacter.EventSerialization
open PythonJson
open Audit (Label)
open Safety (SystemState)
open Health (HealthStatus)
open Gesture (GestureType)

/-! ### Types of events -/

inductive FaultSeverity
  | recoverable
  | degraded
  | critical
  deriving DecidableEq, Repr

def FaultSeverity.value : FaultSeverity → String
  | recoverable => "RECOVERABLE"
  | degraded => "DEGRADED"
  | critical => "CRITICAL"

/-- The types of the fields that events declare: `str = Field(min_length=1)`, `str | None = None`,
an enumeration of strings and `float = Field(ge=0.0, le=1.0)`. -/
inductive FieldKind
  | label
  | optionalText
  | member (values : List String)
  | unit
  deriving DecidableEq

/-- The fields of `Event`. -/
def baseNames : List String :=
  ["event_type", "event_id", "interaction_id", "timestamp", "monotonic_ns", "source"]

/-- A class of events. The name tells it from other classes; the default of its `event_type` is
none where that is no string, and the field is a `Literal` of it or any string. -/
structure EventType where
  name : String
  discriminator : Option String
  literal : Bool
  fields : List (String × FieldKind)
  names_nodup : (baseNames ++ fields.map Prod.fst).Nodup
  deriving DecidableEq

def baseEvent : EventType := ⟨"Event", some "event", false, [], by decide⟩

def systemStarted : EventType where
  name := "SystemStarted"
  discriminator := some "system.started"
  literal := true
  fields := [("version", .label)]
  names_nodup := by decide

def systemStates : List SystemState :=
  [.boot, .selfTest, .calibrating, .idle, .armed, .executing, .degraded, .fault, .estop,
    .shutdown]

def systemStateChanged : EventType where
  name := "SystemStateChanged"
  discriminator := some "system.state_changed"
  literal := true
  fields := [("previous_state", .member (systemStates.map SystemState.value)),
    ("current_state", .member (systemStates.map SystemState.value)), ("reason", .optionalText)]
  names_nodup := by decide

def statuses : List HealthStatus := [.healthy, .degraded, .failed, .unknown]

def healthChanged : EventType where
  name := "HealthChanged"
  discriminator := some "health.changed"
  literal := true
  fields := [("component", .label), ("previous_status", .member (statuses.map HealthStatus.value)),
    ("current_status", .member (statuses.map HealthStatus.value)), ("detail", .optionalText)]
  names_nodup := by decide

def gestures : List GestureType :=
  [.unknown, .tiltLeft, .tiltRight, .tiltForward, .tiltBackward, .wave, .flickLeft, .flickRight,
    .rotation, .hold, .doubleMovement, .circularMovement]

def gestureDetected : EventType where
  name := "GestureDetected"
  discriminator := some "gesture.detected"
  literal := true
  fields := [("gesture", .member (gestures.map GestureType.value)), ("confidence", .unit)]
  names_nodup := by decide

def characterActivated : EventType where
  name := "CharacterActivated"
  discriminator := some "character.activated"
  literal := true
  fields := [("character_id", .label)]
  names_nodup := by decide

def trajectoryRejected : EventType where
  name := "TrajectoryRejected"
  discriminator := some "trajectory.rejected"
  literal := true
  fields := [("trajectory_id", .label), ("reason", .label)]
  names_nodup := by decide

def emergencyStopTriggered : EventType where
  name := "EmergencyStopTriggered"
  discriminator := some "safety.estop_triggered"
  literal := true
  fields := [("reason", .label)]
  names_nodup := by decide

def severities : List FaultSeverity := [.recoverable, .degraded, .critical]

def faultDetected : EventType where
  name := "FaultDetected"
  discriminator := some "fault.detected"
  literal := true
  fields := [("component", .label), ("severity", .member (severities.map FaultSeverity.value)),
    ("reason", .label)]
  names_nodup := by decide

/-- `BUILTIN_EVENT_TYPES`. -/
def builtinEventTypes : List EventType :=
  [systemStarted, systemStateChanged, healthChanged, gestureDetected, characterActivated,
    trajectoryRejected, emergencyStopTriggered, faultDetected]

/-! ### Values of fields -/

/-- What pydantic does with the values of fields: the texts that it writes of UUIDs and datetimes,
what its lax mode reads of a value of JSON, and the bounds of a confidence. It reads back what it
writes. -/
structure FieldCodec (φ υ δ : Type) where
  uuidText : υ → String
  timeText : δ → String
  readUuid : JsonData φ → Option υ
  readTime : JsonData φ → Option δ
  readInt : JsonData φ → Option ℤ
  readFloat : JsonData φ → Option φ
  inUnit : φ → Bool
  readUuid_text : ∀ u, readUuid (.str (uuidText u)) = some u
  readTime_text : ∀ t, readTime (.str (timeText t)) = some t
  readInt_int : ∀ n, readInt (.int n) = some n
  readFloat_float : ∀ x, readFloat (.float x) = some x

inductive FieldValue (φ : Type)
  | label (text : String)
  | optionalText (text : Option String)
  | member (text : String)
  | unit (value : φ)

def FieldValue.json {φ : Type} : FieldValue φ → JsonData φ
  | .label text => .str text
  | .optionalText text => text.elim .none .str
  | .member text => .str text
  | .unit value => .float value

section Values
variable {φ υ δ : Type} (codec : FieldCodec φ υ δ)

namespace FieldKind

/-- The value meets the bounds of its field. -/
def admits : FieldKind → FieldValue φ → Bool
  | .label, .label text => decide (1 ≤ text.length)
  | .optionalText, .optionalText _ => true
  | .member values, .member text => decide (text ∈ values)
  | .unit, .unit value => codec.inUnit value
  | _, _ => false

/-- What is read of a field, which is none where it is missing. -/
def read : FieldKind → Option (JsonData φ) → Option (FieldValue φ)
  | .label, some (.str text) => some (.label text)
  | .optionalText, none => some (.optionalText none)
  | .optionalText, some .none => some (.optionalText none)
  | .optionalText, some (.str text) => some (.optionalText (some text))
  | .member _, some (.str text) => some (.member text)
  | .unit, some value => (codec.readFloat value).map .unit
  | _, _ => none

theorem read_json {kind : FieldKind} {value : FieldValue φ} (h : kind.admits codec value = true) :
    kind.read codec (some value.json) = some value := by
  cases value with
  | label text =>
    cases kind with
    | label => rfl
    | optionalText | member | unit => cases h
  | optionalText text =>
    cases kind with
    | optionalText =>
      cases text with
      | none => rfl
      | some text => rfl
    | label | member | unit => cases h
  | member text =>
    cases kind with
    | member values => rfl
    | label | optionalText | unit => cases h
  | unit value =>
    cases kind with
    | unit =>
      change (codec.readFloat (.float value)).map FieldValue.unit = some (.unit value)
      rw [codec.readFloat_float]
      rfl
    | label | optionalText | member => cases h

end FieldKind

/-- The values of the fields, one for each. -/
def admitsAll : List (String × FieldKind) → List (FieldValue φ) → Bool
  | [], [] => true
  | field :: fields, value :: values => field.2.admits codec value && admitsAll fields values
  | _, _ => false

/-- An event; the values of the fields that its class declares are in their order. -/
structure Event where
  type : EventType
  eventType : String
  eventId : υ
  interactionId : Option υ
  timestamp : δ
  monotonicNs : ℕ
  source : Label
  values : List (FieldValue φ)
  literal_eq : type.literal = true → type.discriminator = some eventType
  values_ok : admitsAll codec type.fields values = true

/-- What the default factories give. -/
structure Defaults (υ δ : Type) where
  eventId : υ
  timestamp : δ
  monotonicNs : ℕ

end Values

/-! ### Texts -/
section Texts
variable {φ υ δ : Type} {codec : FieldCodec φ υ δ}

/-- The values of the fields by their names. -/
def zipEntries (fields : List (String × FieldKind)) (values : List (FieldValue φ)) :
    List (String × JsonData φ) :=
  (fields.zip values).map fun (field, value) => (field.1, value.json)

namespace Event

def baseEntries (event : Event codec) : List (String × JsonData φ) :=
  [("event_type", .str event.eventType), ("event_id", .str (codec.uuidText event.eventId)),
    ("interaction_id", event.interactionId.elim .none fun id => .str (codec.uuidText id)),
    ("timestamp", .str (codec.timeText event.timestamp)),
    ("monotonic_ns", .int event.monotonicNs), ("source", .str event.source.1)]

def ownEntries (event : Event codec) : List (String × JsonData φ) :=
  zipEntries event.type.fields event.values

/-- The fields of an event in the order of its class, those of `Event` first. -/
def entries (event : Event codec) : List (String × JsonData φ) :=
  event.baseEntries ++ event.ownEntries

/-- `model_dump_json`. -/
def modelDumpJson [PyFloat φ] (event : Event codec) : List Char := render (.dict event.entries)

end Event

/-- A field with a default that a call gives. -/
def readOr {α : Type} (read : JsonData φ → Option α) (default : α) : Option (JsonData φ) → Option α
  | none => some default
  | some value => read value

/-- `X | None = None`. -/
def readOptional {α : Type} (read : JsonData φ → Option α) :
    Option (JsonData φ) → Option (Option α)
  | none => some none
  | some .none => some none
  | some value => (read value).map some

def readText : Option (JsonData φ) → Option String
  | some (.str text) => some text
  | _ => none

/-- The `event_type` of a class, with its default. -/
def EventType.readEventType (type : EventType) : Option (JsonData φ) → Option String
  | none => type.discriminator
  | some value => readText (some value)

/-- `int = Field(ge=0)`. -/
def FieldCodec.readCount (codec : FieldCodec φ υ δ) (value : JsonData φ) : Option ℕ :=
  (codec.readInt value).bind fun n => if 0 ≤ n then some n.toNat else none

def labelOf (text : String) : Option Label :=
  if h : 1 ≤ text.length then some ⟨text, h⟩ else none

/-- `model_validate`; what no field has the name of is ignored. -/
def modelValidate (codec : FieldCodec φ υ δ) (type : EventType) (defaults : Defaults υ δ)
    (raw : List (String × JsonData φ)) : Option (Event codec) := do
  let field := Pydantic.lookup raw
  let eventType ← type.readEventType (field "event_type")
  let eventId ← readOr codec.readUuid defaults.eventId (field "event_id")
  let interactionId ← readOptional codec.readUuid (field "interaction_id")
  let timestamp ← readOr codec.readTime defaults.timestamp (field "timestamp")
  let monotonicNs ← readOr codec.readCount defaults.monotonicNs (field "monotonic_ns")
  let source ← (readText (field "source")).bind labelOf
  let values ← type.fields.mapM fun own => own.2.read codec (field own.1)
  -- the types are read; now the literal, the lengths and the bounds
  if h : (type.literal = true → type.discriminator = some eventType) ∧
      admitsAll codec type.fields values = true then
    some
      { type, eventType, eventId, interactionId, timestamp, monotonicNs, source, values,
        literal_eq := h.1, values_ok := h.2 }
  else none

/-! #### Reading back -/

theorem FieldValue.ofPairs_json (value : FieldValue φ) : ofPairs value.json = value.json := by
  cases value with
  | label text | member text | unit value => rfl
  | optionalText text =>
    cases text with
    | none => rfl
    | some text => rfl

theorem names_zip {fields : List (String × FieldKind)} :
    ∀ {values : List (FieldValue φ)}, admitsAll codec fields values = true →
      (zipEntries fields values).map Prod.fst = fields.map Prod.fst := by
  induction fields with
  | nil => exact fun _ => rfl
  | cons field fields ih =>
    intro values h
    cases values with
    | nil => cases h
    | cons value values =>
      have hrest := ((Bool.and_eq_true _ _).mp h).2
      exact congrArg (field.1 :: ·) (ih hrest)

theorem mapM_read {fields : List (String × FieldKind)} {find : String → Option (JsonData φ)} :
    ∀ {values : List (FieldValue φ)}, admitsAll codec fields values = true →
      (∀ entry ∈ zipEntries fields values, find entry.1 = some entry.2) →
      (fields.mapM fun own => own.2.read codec (find own.1)) = some values := by
  induction fields with
  | nil =>
    intro values h _
    cases values with
    | nil => rfl
    | cons => cases h
  | cons field fields ih =>
    intro values h hfind
    cases values with
    | nil => cases h
    | cons value values =>
      obtain ⟨hfirst, hrest⟩ := (Bool.and_eq_true _ _).mp h
      -- the first field is found by its name, and the rest by the induction
      have hread : field.2.read codec (find field.1) = some value := by
        rw [hfind _ List.mem_cons_self]
        exact FieldKind.read_json codec hfirst
      have hlater := ih hrest fun entry hentry => hfind entry (List.mem_cons_of_mem _ hentry)
      rw [List.mapM_cons, hread, hlater]
      rfl

namespace Event

theorem entries_nodup (event : Event codec) : (event.entries.map Prod.fst).Nodup := by
  have hown : event.ownEntries.map Prod.fst = event.type.fields.map Prod.fst :=
    names_zip event.values_ok
  have hbase : event.baseEntries.map Prod.fst = baseNames := rfl
  rw [entries, List.map_append, hbase, hown]
  exact event.type.names_nodup

theorem ofPairs_entries (event : Event codec) :
    ofPairs (.dict event.entries) = .dict event.entries := by
  apply ofPairs_flat event.entries_nodup
  intro entry hentry
  obtain hbase | hown := List.mem_append.mp hentry
  · -- a missing id is written as null
    have hid : ofPairs (event.interactionId.elim (PyValue.none : JsonData φ)
        fun id => .str (codec.uuidText id)) =
        event.interactionId.elim .none fun id => .str (codec.uuidText id) := by
      cases event.interactionId with
      | none => rfl
      | some id => rfl
    simp only [baseEntries, List.mem_cons, List.not_mem_nil, or_false] at hbase
    obtain rfl | rfl | rfl | rfl | rfl | rfl := hbase
    · rfl
    · rfl
    · exact hid
    · rfl
    · rfl
    · rfl
  · obtain ⟨⟨field, value⟩, -, rfl⟩ := List.mem_map.mp hown
    exact value.ofPairs_json

/-- A field of an event is found under its name. -/
theorem lookup_entries (event : Event codec) {name : String} {value : JsonData φ}
    (h : (name, value) ∈ event.entries) : Pydantic.lookup event.entries name = some value :=
  Pydantic.lookup_of_mem event.entries_nodup h

end Event

/-! #### An event is what is read of its text -/

theorem readOptional_elim (id : Option υ) :
    readOptional codec.readUuid
      (some (id.elim .none fun id => PyValue.str (codec.uuidText id))) = some id := by
  cases id with
  | none => rfl
  | some id =>
    change (codec.readUuid (.str (codec.uuidText id))).map some = _
    rw [codec.readUuid_text]
    rfl

theorem readCount_natCast (count : ℕ) : codec.readCount (.int count) = some count := by
  unfold FieldCodec.readCount
  rw [codec.readInt_int, Option.bind_some, if_pos (Int.natCast_nonneg count), Int.toNat_natCast]

theorem modelValidate_entries (event : Event codec) (defaults : Defaults υ δ) :
    modelValidate codec event.type defaults event.entries = some event := by
  have hbase {name : String} {value : JsonData φ} (h : (name, value) ∈ event.baseEntries) :
      Pydantic.lookup event.entries name = some value :=
    event.lookup_entries (List.mem_append_left _ h)
  have htype : Pydantic.lookup event.entries "event_type" = some (.str event.eventType) :=
    hbase (by simp [Event.baseEntries])
  have hid : Pydantic.lookup event.entries "event_id" =
      some (.str (codec.uuidText event.eventId)) := hbase (by simp [Event.baseEntries])
  have hinteraction : Pydantic.lookup event.entries "interaction_id" =
      some (event.interactionId.elim .none fun id => .str (codec.uuidText id)) :=
    hbase (by simp [Event.baseEntries])
  have htime : Pydantic.lookup event.entries "timestamp" =
      some (.str (codec.timeText event.timestamp)) := hbase (by simp [Event.baseEntries])
  have hclock : Pydantic.lookup event.entries "monotonic_ns" = some (.int event.monotonicNs) :=
    hbase (by simp [Event.baseEntries])
  have hsource : Pydantic.lookup event.entries "source" = some (.str event.source.1) :=
    hbase (by simp [Event.baseEntries])
  have hvalues : (event.type.fields.mapM fun own =>
      own.2.read codec (Pydantic.lookup event.entries own.1)) = some event.values :=
    mapM_read event.values_ok fun entry hentry =>
      event.lookup_entries (List.mem_append_right _ hentry)
  have hlabel : labelOf event.source.1 = some event.source := dif_pos event.source.2
  simp only [modelValidate, htype, hid, hinteraction, htime, hclock, hsource, hvalues, hlabel,
    EventType.readEventType, readOr, readText, readOptional_elim, readCount_natCast,
    codec.readUuid_text, codec.readTime_text, Option.bind_eq_bind, Option.bind_some]
  rw [dif_pos ⟨event.literal_eq, event.values_ok⟩]

theorem modelValidate_type {type : EventType} {defaults : Defaults υ δ}
    {raw : List (String × JsonData φ)} {event : Event codec}
    (h : modelValidate codec type defaults raw = some event) :
    event.type = type ∧ ∀ text, Pydantic.lookup raw "event_type" = some (.str text) →
      event.eventType = text := by
  simp only [modelValidate, Option.bind_eq_bind, Option.bind_eq_some_iff] at h
  obtain ⟨eventType, htype, _, -, _, -, _, -, _, -, _, -, _, -, h⟩ := h
  split_ifs at h
  obtain rfl := Option.some.inj h
  refine ⟨rfl, ?_⟩
  intro text htext
  rw [htext] at htype
  exact (Option.some.inj htype).symm

end Texts

/-! ### The serializer -/

/-- The registry is a dict from discriminators to types. -/
structure EventSerializer where
  registry : List (String × EventType)

namespace EventSerializer

def empty : EventSerializer := ⟨[]⟩

/-- `self._registry.get(discriminator)`. -/
def get (s : EventSerializer) (discriminator : String) : Option EventType :=
  Pydantic.lookup s.registry discriminator

def register (s : EventSerializer) (type : EventType) : Except String EventSerializer :=
  match type.discriminator with
  | none => .error "event type must define a non-empty event_type default"
  | some discriminator =>
    if discriminator = "" then .error "event type must define a non-empty event_type default"
    else
      match s.get discriminator with
      -- the same class may be registered again
      | some existing =>
        if existing ≠ type then
          .error s!"event_type discriminator already registered: {discriminator}"
        else .ok ⟨setItem s.registry (discriminator, type)⟩
      | none => .ok ⟨setItem s.registry (discriminator, type)⟩

/-- `EventSerializer(event_types)`. -/
def new (types : List EventType) : Except String EventSerializer := types.foldlM register empty

/-- Later calls of `register`; one that raises leaves the registry as it is. -/
def registerAll (s : EventSerializer) (types : List EventType) : EventSerializer :=
  types.foldl (fun s type => ((s.register type).toOption).getD s) s

section Calls
variable {φ υ δ : Type} [PyFloat φ] {codec : FieldCodec φ υ δ}

def dumps (event : Event codec) : List Char := event.modelDumpJson

/-- The errors are the messages of `ProtocolError`. -/
def loads (codec : FieldCodec φ υ δ) (s : EventSerializer) (defaults : Defaults υ δ)
    (payload : List Char) : Except String (Event codec) :=
  match PythonJson.loads payload with
  | none => .error "invalid event JSON"
  | some (.dict raw) =>
    match Pydantic.lookup raw "event_type" with
    | some (.str discriminator) =>
      match s.get discriminator with
      | none => .error s!"unknown event_type: {discriminator}"
      | some type =>
        match modelValidate codec type defaults raw with
        | none => .error s!"invalid {discriminator} event payload"
        | some event => .ok event
    | _ => .error "serialized event is missing event_type"
  | some _ => .error "serialized event must be a JSON object"

end Calls
end EventSerializer

/-! ### The registry -/

/-- An entry that is set in its place is found where it was. -/
theorem find_mapped {α : Type} (entries : List (String × α)) (key : String) (value : α)
    (name : String) :
    ((entries.map fun old => if old.1 == key then (old.1, value) else old).find? fun entry =>
      entry.1 = name) =
      (entries.find? fun entry => entry.1 = name).map fun old =>
        if old.1 == key then (old.1, value) else old := by
  have hkeys : ((fun entry : String × α => decide (entry.1 = name)) ∘
      fun old => if old.1 == key then (old.1, value) else old) =
      fun entry => decide (entry.1 = name) := by
    funext old
    simp only [Function.comp_apply]
    split <;> rfl
  rw [List.find?_map, hkeys]

/-- What `get` finds after an entry is set. -/
theorem lookup_setItem {α : Type} (entries : List (String × α)) (key : String) (value : α)
    (name : String) : Pydantic.lookup (setItem entries (key, value)) name =
      if name = key then some value else Pydantic.lookup entries name := by
  have hmissing (h : (entries.find? fun entry => decide (entry.1 = name)) = none)
      (old : String × α) (hold : old ∈ entries) : old.1 ≠ name := by
    simpa using List.find?_eq_none.mp h old hold
  unfold setItem Pydantic.lookup
  split
  · rename_i hany
    obtain ⟨old, hold, hkey⟩ := List.any_eq_true.mp hany
    rw [find_mapped]
    cases hfind : entries.find? fun entry => decide (entry.1 = name) with
    | none =>
      -- there is an entry of the key, so the name is another one
      have hname : name ≠ key := by
        rintro rfl
        exact hmissing hfind old hold (beq_iff_eq.mp hkey)
      rw [if_neg hname]
      rfl
    | some found =>
      have hown : found.1 = name := by simpa using List.find?_some hfind
      simp only [Option.map_some, hown, beq_iff_eq]
      split_ifs <;> rfl
  · rename_i hany
    rw [List.find?_append]
    split_ifs with hname
    · -- there was no entry of the key
      have hnone : (entries.find? fun entry => decide (entry.1 = name)) = none := by
        rw [List.find?_eq_none]
        intro old hold hkey
        apply hany
        rw [List.any_eq_true]
        exact ⟨old, hold, by simpa [hname] using hkey⟩
      rw [hnone, hname]
      simp
    · have hlast : ([(key, value)].find? fun entry => decide (entry.1 = name)) = none := by
        simpa using fun heq => hname heq.symm
      rw [hlast, Option.or_none]

/-- The first of the types with this discriminator. -/
def firstWith (types : List EventType) (discriminator : String) : Option EventType :=
  if discriminator = "" then none
  else types.find? fun type => type.discriminator = some discriminator

theorem firstWith_snoc (types : List EventType) (type : EventType) (discriminator : String) :
    firstWith (types ++ [type]) discriminator = (firstWith types discriminator).or
      (if discriminator ≠ "" ∧ type.discriminator = some discriminator then some type
        else none) := by
  unfold firstWith
  split_ifs with hempty hown hown
  · exact absurd hempty hown.1
  · rfl
  · rw [List.find?_append, List.find?_cons_of_pos (by simpa using hown.2)]
  · have hother : ¬ type.discriminator = some discriminator := fun heq => hown ⟨hempty, heq⟩
    rw [List.find?_append, List.find?_cons_of_neg (by simpa using hother)]
    rfl

namespace EventSerializer

/-- The registry has the first type of each discriminator. -/
def Holds (s : EventSerializer) (types : List EventType) : Prop :=
  ∀ discriminator, s.get discriminator = firstWith types discriminator

theorem register_ok {s next : EventSerializer} {type : EventType}
    (h : s.register type = .ok next) : ∃ own, type.discriminator = some own ∧ own ≠ "" ∧
      (s.get own = none ∨ s.get own = some type) ∧
      ∀ other, next.get other = if other = own then some type else s.get other := by
  unfold register at h
  split at h
  · cases h
  · rename_i own hown
    split_ifs at h with hempty
    split at h
    · rename_i existing hexisting
      split_ifs at h with hdiffers
      rw [← Except.ok.inj h]
      refine ⟨own, hown, hempty, .inr ?_, lookup_setItem s.registry own type⟩
      rw [hexisting, not_not.mp hdiffers]
    · rename_i hnone
      rw [← Except.ok.inj h]
      exact ⟨own, hown, hempty, .inl hnone, lookup_setItem s.registry own type⟩

theorem register_error {s : EventSerializer} {type : EventType} {message : String}
    (h : s.register type = .error message) (own : String) (hown : type.discriminator = some own)
    (hne : own ≠ "") : ∃ existing, s.get own = some existing := by
  unfold register at h
  rw [hown] at h
  dsimp only at h
  rw [if_neg hne] at h
  split at h
  · rename_i existing hexisting
    exact ⟨existing, hexisting⟩
  · cases h

theorem Holds.register {s : EventSerializer} {types : List EventType} (h : s.Holds types)
    (type : EventType) : (((s.register type).toOption).getD s).Holds (types ++ [type]) := by
  intro discriminator
  rw [firstWith_snoc, ← h discriminator]
  cases hregister : s.register type with
  | ok next =>
    obtain ⟨own, hown, hne, hbefore, hget⟩ := register_ok hregister
    change next.get discriminator = _
    rw [hget, hown]
    split_ifs with hsame hnew hnew
    · -- what was there before is the type itself
      rw [hsame]
      obtain hnone | hsome := hbefore
      · rw [hnone]
        rfl
      · rw [hsome]
        rfl
    · exact absurd ⟨hsame ▸ hne, congrArg some hsame.symm⟩ hnew
    · exact absurd (Option.some.inj hnew.2).symm hsame
    · rw [Option.or_none]
  | error message =>
    -- a type is refused only where its discriminator is empty, missing or taken
    change s.get discriminator = _
    split_ifs with hnew
    · obtain ⟨existing, hexisting⟩ := register_error hregister discriminator hnew.2 hnew.1
      rw [hexisting]
      rfl
    · rw [Option.or_none]

theorem Holds.registerAll {s : EventSerializer} {types : List EventType} (h : s.Holds types)
    (more : List EventType) : (s.registerAll more).Holds (types ++ more) := by
  induction more generalizing s types with
  | nil =>
    rw [List.append_nil]
    exact h
  | cons type more ih =>
    have hrest := ih (h.register type)
    rw [List.append_assoc] at hrest
    exact hrest

theorem new_eq {types : List EventType} {s : EventSerializer} (h : new types = .ok s) :
    s = empty.registerAll types := by
  unfold new at h
  generalize empty = start at h ⊢
  induction types generalizing start with
  | nil => exact (Except.ok.inj h).symm
  | cons type types ih =>
    rw [List.foldlM_cons] at h
    obtain ⟨next, hnext, hrest⟩ := (Fallible.bind_eq_ok_iff _ _ _).mp h
    rw [ih next hrest]
    change next.registerAll types =
      (((start.register type).toOption).getD start).registerAll types
    rw [hnext]
    rfl

theorem holds_empty : empty.Holds [] := by
  intro discriminator
  unfold firstWith
  split_ifs <;> rfl

/-! ### Runs -/
section Runs
variable {φ υ δ : Type} [PyFloat φ] {codec : FieldCodec φ υ δ}

theorem loads_dumps {s : EventSerializer} {event : Event codec}
    (h : s.get event.eventType = some event.type) (defaults : Defaults υ δ) :
    s.loads codec defaults (dumps event) = .ok event := by
  have htype : Pydantic.lookup event.entries "event_type" = some (.str event.eventType) :=
    event.lookup_entries (List.mem_append_left _ List.mem_cons_self)
  unfold loads dumps Event.modelDumpJson
  -- the text is that of the entries, whose keys are distinct and whose values are no dicts
  rw [loads_render, event.ofPairs_entries]
  dsimp only
  rw [htype]
  dsimp only
  rw [h]
  dsimp only
  rw [modelValidate_entries]

theorem get_of_loads {s : EventSerializer} {defaults : Defaults υ δ} {payload : List Char}
    {event : Event codec} (h : s.loads codec defaults payload = .ok event) :
    s.get event.eventType = some event.type := by
  unfold loads at h
  split at h
  · cases h
  · split at h
    · rename_i discriminator htext
      split at h
      · cases h
      · rename_i type htype
        split at h
        · cases h
        · rename_i raw _ _ _ read hread
          obtain rfl := Except.ok.inj h
          -- the discriminator that the registry was asked for is the event's own
          obtain ⟨hown, hevent⟩ := modelValidate_type hread
          rw [hevent discriminator htext, hown]
          exact htype
    · cases h
  · cases h

end Runs

section Startup

/-- Strings in place of UUIDs and datetimes, written and read as they are. -/
def plainCodec : FieldCodec Empty String String where
  uuidText := id
  timeText := id
  readUuid
    | .str text => some text
    | _ => none
  readTime
    | .str text => some text
    | _ => none
  readInt
    | .int n => some n
    | _ => none
  readFloat
    | .float x => some x
    | _ => none
  inUnit x := x.elim
  readUuid_text _ := rfl
  readTime_text _ := rfl
  readInt_int _ := rfl
  readFloat_float _ := rfl

def startupEvent : Event plainCodec where
  type := systemStateChanged
  eventType := "system.state_changed"
  eventId := "b5a9a3ac-4f5e-4f0a-9d51-0a2c0c1f7c11"
  interactionId := none
  timestamp := "2026-01-01T00:00:00Z"
  monotonicNs := 12
  source := ⟨"system-controller", by decide⟩
  values := [.member "BOOT", .member "SELF_TEST", .optionalText (some "startup")]
  literal_eq _ := rfl
  values_ok := by decide

def builtinSerializer : EventSerializer :=
  ⟨builtinEventTypes.map fun type => (type.discriminator.getD "", type)⟩

theorem new_builtin : new builtinEventTypes = .ok builtinSerializer := by rfl

theorem startupEvent_hasCharacters : HasCharacters (dumps startupEvent) := by decide +kernel

end Startup
end EventSerializer
end RoboticCharacter.EventSerialization
