import RoboticCharacter.PythonJson
import RoboticCharacter.Sha256

/-! The audit chain: `rci.audit.models`, `rci.audit.hash_chain`, and the entries that
`rci.audit.logger` appends to the chain in memory. -/
namespace RoboticCharacter.Audit
open PythonJson

/-- A SHA-256 digest in hexadecimal, or the hash before the first entry. -/
abbrev Digest := {s : String // s.length = 64}

/-- A string with `min_length=1`. -/
abbrev Label := {s : String // 1 ≤ s.length}

theorem genesisHash_length : (String.ofList (List.replicate 64 '0')).length = 64 := by
  rw [String.length_ofList, List.length_replicate]

def genesisHash : Digest := ⟨String.ofList (List.replicate 64 '0'), genesisHash_length⟩

/-- What `utc_now()` reads off the clock. -/
structure UtcTime where
  (year month day hour minute second microsecond : ℕ)

def padded (width n : ℕ) : String := String.ofList ((Nat.toDigits 10 n).leftpad width '0')

/-- `utc_now().isoformat().replace("+00:00", "Z")`. -/
def UtcTime.text (t : UtcTime) : String :=
  padded 4 t.year ++ "-" ++ padded 2 t.month ++ "-" ++ padded 2 t.day ++ "T" ++
    padded 2 t.hour ++ ":" ++ padded 2 t.minute ++ ":" ++ padded 2 t.second ++
    (if t.microsecond = 0 then "" else "." ++ padded 6 t.microsecond) ++ "Z"

/-- The objects a payload can hold. -/
abbrev PyObject (φ : Type) := PyValue (PyKey φ) φ

/-- What pydantic does with the fields of an entry: the texts it writes for a UUID and a datetime
in JSON mode, which it reads back, the datetime it reads from a time of `utc_now`, and the JSON
form of a value of any type, `none` where it raises. -/
class AuditFields (φ υ δ : Type) where
  uuidText : υ → String
  uuidText_injective : Function.Injective uuidText
  timeText : δ → String
  timeText_injective : Function.Injective timeText
  ofUtc : UtcTime → δ
  timeText_ofUtc : ∀ t, timeText (ofUtc t) = t.text
  jsonMode : PyObject φ → Option (JsonData φ)

structure AuditEntry (φ υ δ : Type) where
  entryId : υ
  sequence : ℕ
  timestamp : δ
  eventType : Label
  source : Label
  interactionId : Option υ
  payload : List (String × PyObject φ)
  previousHash : Digest
  entryHash : Digest

/-! ### Hashes -/

section
variable {κ φ : Type} [PyFloat φ]

/-- The fields of an entry without its hash, as the dict that is written; `key` makes the dict's
keys of the fields' names. -/
def fieldsDict (key : String → κ) (entryId : String) (sequence : ℕ)
    (timestamp eventType source : String) (interactionId : Option String)
    (payload : PyValue κ φ) (previousHash : String) : PyValue κ φ :=
  .dict [(key "entry_id", .str entryId), (key "sequence", .int sequence),
    (key "timestamp", .str timestamp), (key "event_type", .str eventType),
    (key "source", .str source),
    (key "interaction_id", interactionId.elim .none .str),
    (key "payload", payload), (key "previous_hash", .str previousHash)]

def canonicalJson [DictKey κ] (value : PyValue κ φ) : Option String := dumpsSorted value

/-- `hashlib.sha256(text.encode("utf-8")).hexdigest()`. -/
def textHash (text : String) : Digest :=
  ⟨Sha256.hexdigest text.toUTF8.data.toList, Sha256.hexdigest_length _⟩

/-- `none` where the fields are no JSON and `json.dumps` raises. -/
def computeEntryHash [DictKey κ] (fields : PyValue κ φ) : Option Digest :=
  (canonicalJson fields).map textHash

end

section
variable {φ υ δ : Type} [PyFloat φ] [AuditFields φ υ δ]

/-- The payload in JSON mode. Its own keys are strings, the keys inside its values may be any. -/
def jsonPayload (υ δ : Type) [AuditFields φ υ δ] :
    List (String × PyObject φ) → Option (List (String × JsonData φ))
  | [] => some []
  | (k, v) :: es =>
    (AuditFields.jsonMode υ δ v).bind fun w => (jsonPayload υ δ es).map ((k, w) :: ·)

/-- `entry.model_dump(mode="json", exclude={"entry_hash"})`. -/
def hashableFields (entry : AuditEntry φ υ δ) : Option (JsonData φ) :=
  (jsonPayload υ δ entry.payload).map fun payload =>
    fieldsDict id (AuditFields.uuidText φ δ entry.entryId) entry.sequence
      (AuditFields.timeText φ υ entry.timestamp) entry.eventType.1 entry.source.1
      (entry.interactionId.map (AuditFields.uuidText φ δ)) (.dict payload) entry.previousHash.1

/-! ### Verification -/

/-- What `verify_chain` raises; an entry that pydantic cannot dump raises before the hash is
compared. -/
inductive ChainError
  | sequence (found expected : ℕ)
  | previousHash (sequence : ℕ)
  | entryHash (sequence : ℕ)
  | serialization
  deriving DecidableEq

def ChainError.message : ChainError → String
  | .sequence found expected =>
    "audit sequence mismatch at " ++ toString found ++ "; expected " ++ toString expected
  | .previousHash found => "audit previous-hash mismatch at sequence " ++ toString found
  | .entryHash found => "audit entry hash mismatch at sequence " ++ toString found
  | .serialization => ""

def verifyFrom (expectedPrevious : Digest) (expectedSequence : ℕ) :
    List (AuditEntry φ υ δ) → Except ChainError Unit
  | [] => .ok ()
  | entry :: entries =>
    if entry.sequence ≠ expectedSequence then
      .error (.sequence entry.sequence expectedSequence)
    else if entry.previousHash ≠ expectedPrevious then .error (.previousHash entry.sequence)
    else
      match (hashableFields entry).bind computeEntryHash with
      | none => .error .serialization
      | some expectedHash =>
        if entry.entryHash ≠ expectedHash then .error (.entryHash entry.sequence)
        else verifyFrom entry.entryHash (expectedSequence + 1) entries

def verifyChain (entries : List (AuditEntry φ υ δ)) : Except ChainError Unit :=
  verifyFrom genesisHash 0 entries

/-! ### Appending -/

/-- One call of `append`, with the UUID and the time that the call takes. -/
structure AppendCall (φ υ : Type) where
  eventType : String
  source : String
  payload : Option (List (PyKey φ × PyObject φ))
  interactionId : Option υ
  entryId : υ
  now : UtcTime

/-- The payload that is hashed. -/
def AppendCall.rawPayload (call : AppendCall φ υ) : List (PyKey φ × PyObject φ) :=
  call.payload.getD []

/-- The fields as they are hashed, before validation. -/
def AppendCall.fields (δ : Type) [AuditFields φ υ δ] (call : AppendCall φ υ) (sequence : ℕ)
    (previousHash : Digest) : PyObject φ :=
  fieldsDict .str (AuditFields.uuidText φ δ call.entryId) sequence call.now.text call.eventType
    call.source (call.interactionId.map (AuditFields.uuidText φ δ)) (.dict call.rawPayload)
    previousHash.1

/-- `payload: dict[str, Any]`: the keys of the payload itself must be strings. -/
def stringKeys : List (PyKey φ × PyObject φ) → Option (List (String × PyObject φ))
  | [] => some []
  | (.str k, v) :: es => (stringKeys es).map ((k, v) :: ·)
  | (_, _) :: _ => none

/-- `AuditEntry.model_validate({**fields, "entry_hash": entry_hash})`. -/
def AppendCall.validate (δ : Type) [AuditFields φ υ δ] (call : AppendCall φ υ) (sequence : ℕ)
    (previousHash entryHash : Digest) : Option (AuditEntry φ υ δ) :=
  if hevent : 1 ≤ call.eventType.length then
    if hsource : 1 ≤ call.source.length then
      (stringKeys call.rawPayload).map fun payload =>
        { entryId := call.entryId
          sequence := sequence
          timestamp := AuditFields.ofUtc φ υ call.now
          eventType := ⟨call.eventType, hevent⟩
          source := ⟨call.source, hsource⟩
          interactionId := call.interactionId
          payload := payload
          previousHash := previousHash
          entryHash := entryHash }
    else none
  else none

def lastHash (entries : List (AuditEntry φ υ δ)) : Digest :=
  (entries.getLast?.map AuditEntry.entryHash).getD genesisHash

/-- The entry that a call makes of the chain, `none` where hashing or validation raises. -/
def newEntry (entries : List (AuditEntry φ υ δ)) (call : AppendCall φ υ) :
    Option (AuditEntry φ υ δ) :=
  let previousHash := lastHash entries
  (computeEntryHash (call.fields δ entries.length previousHash)).bind fun entryHash =>
    call.validate δ entries.length previousHash entryHash

/-- The chain in memory after calls of `append` that all returned. A call that raises leaves the
chain as it was. -/
def appendAll (entries : List (AuditEntry φ υ δ)) :
    List (AppendCall φ υ) → Option (List (AuditEntry φ υ δ))
  | [] => some entries
  | call :: calls => (newEntry entries call).bind fun entry => appendAll (entries ++ [entry]) calls

end
end RoboticCharacter.Audit
