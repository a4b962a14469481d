import RoboticCharacter.CharacterContract
import RoboticCharacter.DashboardSnapshot

/-! The dashboard's parser of character responses, on the responses that the backend forwards. -/
namespace RoboticCharacter.Dashboard
open Fallible JsonValue
open Characters (SpeechDelivery ExpressionStrength MotionDisposition jsonInput)
open Simulation (MotionCue MotionStyle)

def characterResponseSchema : String := "rci.character_response.v1"

def speechDeliveries : List String :=
  ["neutral", "supportive", "confident", "cautious", "encouraging", "empathetic"]

def expressionStrengths : List String := ["none", "subtle", "moderate", "strong"]

def motionCues : List String :=
  ["none", "listen", "acknowledge", "present", "caution", "celebrate", "think"]

def motionStyles : List String := ["restrained", "standard", "expressive"]

def motionDispositions : List String := ["none", "optional"]

def forbiddenActuatorKeys : List String :=
  ["servo", "servoangle", "servoangles", "pwm", "pulsewidth", "pulsewidthus", "jointtarget",
    "jointtargets", "trajectory", "motorcommand", "motorcommands"]

/-- What is left of a character in lower case: a letter from a to z or a digit. Outside ASCII
only the capital I with a dot and the Kelvin sign have one. -/
def normalizedChar (c : Char) : Option Char :=
  if c.isUpper then some c.toLower
  else if c.isLower ∨ c.isDigit then some c
  else if c.toNat = 0x130 then some 'i'
  else if c.toNat = 0x212A then some 'k'
  else none

/-- `key.toLowerCase().replace(/[^a-z0-9]/g, "")`. -/
def normalizedKey (key : String) : String := String.ofList (key.toList.filterMap normalizedChar)

mutual

def hasForbiddenActuatorKey : JsonValue → Bool
  | .array items => itemsHaveForbiddenKey items
  | .object entries => entriesHaveForbiddenKey entries
  | _ => false

def itemsHaveForbiddenKey : List JsonValue → Bool
  | [] => false
  | item :: rest => hasForbiddenActuatorKey item || itemsHaveForbiddenKey rest

def entriesHaveForbiddenKey : List (String × JsonValue) → Bool
  | [] => false
  | (key, child) :: rest =>
    decide (normalizedKey key ∈ forbiddenActuatorKeys) || hasForbiddenActuatorKey child ||
      entriesHaveForbiddenKey rest

end

example : hasForbiddenActuatorKey
    (.object [("plan", .array [.object [("Servo-Angle", .number 90)]])]) = true := by
  decide

structure SpeechResponse where
  text : String
  delivery : String
  interruptible : Bool

structure ExpressionResponse where
  expression : String
  strength : String

structure MotionResponse where
  cue : String
  style : String
  disposition : String

structure CharacterResponse where
  schemaVersion : String
  interactionId : String
  decisionId : String
  sourceCharacter : String
  speech : SpeechResponse
  expression : ExpressionResponse
  motion : MotionResponse
  verified : Bool
  persistenceCommitted : Bool
  persistenceDurable : Bool

def requireString (entries : List (String × JsonValue)) (key : String) : Except String String :=
  match property entries key with
  | some (.string value) =>
    if isBlank value then .error s!"{key} must be a non-empty string" else .ok value
  | _ => .error s!"{key} must be a non-empty string"

/-- `value === text`. -/
def isText (value : Option JsonValue) (text : String) : Bool :=
  match value with
  | some (.string given) => given = text
  | _ => false

/-- `value === true`. -/
def isTrue (value : Option JsonValue) : Bool :=
  match value with
  | some (.bool truth) => truth
  | _ => false

/-- The object that the parser returns, once it has the three intents. -/
def parseIntents (entries speech expression motion : List (String × JsonValue))
    (interruptible persistenceDurable : Bool) : Except String CharacterResponse := do
  let interactionId ← requireString entries "interaction_id"
  let decisionId ← requireString entries "decision_id"
  let text ← requireString speech "text"
  let delivery ← requireEnum speech "delivery" speechDeliveries
  let expressionText ← requireString expression "expression"
  let strength ← requireEnum expression "strength" expressionStrengths
  let cue ← requireEnum motion "cue" motionCues
  let style ← requireEnum motion "style" motionStyles
  let disposition ← requireEnum motion "disposition" motionDispositions
  return {
    schemaVersion := characterResponseSchema
    interactionId
    decisionId
    sourceCharacter := "aurelia"
    speech := { text, delivery, interruptible }
    expression := { expression := expressionText, strength }
    motion := { cue, style, disposition }
    verified := true
    persistenceCommitted := true
    persistenceDurable }

def parseCharacterResponse (value : JsonValue) : Except String CharacterResponse := do
  let entries ← requireRecord (some value) "CharacterResponse must be an object"
  require (hasForbiddenActuatorKey value = false)
    "CharacterResponse contains forbidden actuator-level fields"
  require (isText (property entries "schema_version") characterResponseSchema = true)
    "Unsupported CharacterResponse schema"
  require (isText (property entries "source_character") "aurelia" = true)
    "CharacterResponse source must be aurelia"
  require (isTrue (property entries "verified") = true ∧
      isTrue (property entries "persistence_committed") = true)
    "CharacterResponse must be verified and committed"
  let speech ← requireRecord (property entries "speech")
    "CharacterResponse intents must be objects"
  let expression ← requireRecord (property entries "expression")
    "CharacterResponse intents must be objects"
  let motion ← requireRecord (property entries "motion")
    "CharacterResponse intents must be objects"
  let interruptible ← (requireBoolean speech "interruptible").mapError
    fun _ => "speech.interruptible must be boolean"
  let persistenceDurable ← requireBoolean entries "persistence_durable"
  parseIntents entries speech expression motion interruptible persistenceDurable

/-- The field values of a response, with its enumerations as their texts. -/
def CharacterResponse.ofModel (response : Characters.CharacterResponseV1) : CharacterResponse where
  schemaVersion := Characters.schemaVersion
  interactionId := response.interactionId
  decisionId := response.decisionId
  sourceCharacter := "aurelia"
  speech := ⟨response.speech.text, response.speech.delivery.value, response.speech.interruptible⟩
  expression := ⟨response.expression.expression, response.expression.strength.value⟩
  motion := ⟨response.motion.cue.value, response.motion.style.value,
    response.motion.disposition.value⟩
  verified := true
  persistenceCommitted := true
  persistenceDurable := response.persistenceDurable

theorem requireString_eq_ok_iff (entries : List (String × JsonValue)) (key value : String)
    (h : property entries key = some (.string value)) (result : String) :
    requireString entries key = .ok result ↔ isBlank value = false ∧ result = value := by
  unfold requireString
  rw [h]
  dsimp only
  split_ifs with hblank
  · simp only [hblank, Bool.true_eq_false, false_and]
  · simp only [Except.ok.injEq, Bool.eq_false_of_not_eq_true hblank, true_and, eq_comm]

/-- No key of a dumped response names an actuator. -/
theorem modelDump_not_forbidden (response : Characters.CharacterResponseV1) :
    hasForbiddenActuatorKey response.modelDump = false := by
  rfl

/-- What the dashboard demands of the texts of a response. -/
structure Legible (response : Characters.CharacterResponseV1) : Prop where
  interactionId : isBlank response.interactionId = false
  decisionId : isBlank response.decisionId = false
  text : isBlank response.speech.text = false
  expression : isBlank response.expression.expression = false

/-- The members that the dashboard knows are those of the contract. -/
theorem value_mem_sets (response : Characters.CharacterResponseV1) :
    response.speech.delivery.value ∈ speechDeliveries ∧
      response.expression.strength.value ∈ expressionStrengths ∧
      response.motion.cue.value ∈ motionCues ∧ response.motion.style.value ∈ motionStyles ∧
      response.motion.disposition.value ∈ motionDispositions := by
  refine ⟨?_, ?_, ?_, ?_, ?_⟩
  · cases response.speech.delivery <;> decide
  · cases response.expression.strength <;> decide
  · cases response.motion.cue <;> decide
  · cases response.motion.style <;> decide
  · cases response.motion.disposition <;> decide

section Dump
variable (response : Characters.CharacterResponseV1)

def speechEntries : List (String × JsonValue) :=
  [("text", .string response.speech.text), ("delivery", .string response.speech.delivery.value),
    ("interruptible", .bool response.speech.interruptible)]

def expressionEntries : List (String × JsonValue) :=
  [("expression", .string response.expression.expression),
    ("strength", .string response.expression.strength.value)]

def motionEntries : List (String × JsonValue) :=
  [("cue", .string response.motion.cue.value), ("style", .string response.motion.style.value),
    ("disposition", .string response.motion.disposition.value)]

def responseEntries : List (String × JsonValue) :=
  [("schema_version", .string Characters.schemaVersion),
    ("interaction_id", .string response.interactionId),
    ("decision_id", .string response.decisionId), ("source_character", .string "aurelia"),
    ("speech", .object (speechEntries response)),
    ("expression", .object (expressionEntries response)),
    ("motion", .object (motionEntries response)), ("verified", .bool true),
    ("persistence_committed", .bool true),
    ("persistence_durable", .bool response.persistenceDurable)]

/-- Of a dumped response, only the texts and the members are left to be checked. -/
theorem parse_modelDump :
    parseCharacterResponse response.modelDump =
      parseIntents (responseEntries response) (speechEntries response)
        (expressionEntries response) (motionEntries response) response.speech.interruptible
        response.persistenceDurable := by
  unfold parseCharacterResponse
  rw [modelDump_not_forbidden]
  rfl

theorem parse_modelDump_iff (result : CharacterResponse) :
    parseCharacterResponse response.modelDump = .ok result ↔
      Legible response ∧ result = .ofModel response := by
  obtain ⟨hdelivery, hstrength, hcue, hstyle, hdisposition⟩ := value_mem_sets response
  rw [parse_modelDump]
  unfold parseIntents
  simp only [bind_eq_ok_iff, pure_eq_ok_iff,
    requireString_eq_ok_iff (responseEntries response) "interaction_id" _ rfl,
    requireString_eq_ok_iff (responseEntries response) "decision_id" _ rfl,
    requireString_eq_ok_iff (speechEntries response) "text" _ rfl,
    requireEnum_eq_ok_iff (speechEntries response) "delivery" _ _ rfl,
    requireString_eq_ok_iff (expressionEntries response) "expression" _ rfl,
    requireEnum_eq_ok_iff (expressionEntries response) "strength" _ _ rfl,
    requireEnum_eq_ok_iff (motionEntries response) "cue" _ _ rfl,
    requireEnum_eq_ok_iff (motionEntries response) "style" _ _ rfl,
    requireEnum_eq_ok_iff (motionEntries response) "disposition" _ _ rfl]
  constructor
  · rintro ⟨_, ⟨hinteraction, rfl⟩, _, ⟨hdecision, rfl⟩, _, ⟨htext, rfl⟩, _, ⟨_, rfl⟩, _,
      ⟨hexpression, rfl⟩, _, ⟨_, rfl⟩, _, ⟨_, rfl⟩, _, ⟨_, rfl⟩, _, ⟨_, rfl⟩, rfl⟩
    exact ⟨⟨hinteraction, hdecision, htext, hexpression⟩, rfl⟩
  · rintro ⟨h, rfl⟩
    exact ⟨_, ⟨h.interactionId, rfl⟩, _, ⟨h.decisionId, rfl⟩, _, ⟨h.text, rfl⟩, _,
      ⟨hdelivery, rfl⟩, _, ⟨h.expression, rfl⟩, _, ⟨hstrength, rfl⟩, _, ⟨hcue, rfl⟩, _,
      ⟨hstyle, rfl⟩, _, ⟨hdisposition, rfl⟩, rfl⟩

end Dump

/-- The paths of the texts of a payload. -/
def textPaths : List (List String) :=
  [["interaction_id"], ["decision_id"], ["speech", "text"], ["expression", "expression"]]

/-- The dashboard accepts what an accepted payload is forwarded as, with the same field values,
exactly if no text of the payload consists of nothing but characters that JavaScript trims. -/
theorem forwarded_response_accepted_iff {α : Type} (input : Pydantic.Input α) (payload : α)
    (response : Characters.CharacterResponseV1)
    (hparse : Characters.parseCharacterResponse input payload = .ok response) :
    parseCharacterResponse response.modelDump = .ok (.ofModel response) ↔
      ∀ path ∈ textPaths, ∀ text, input.textAt path payload = some text →
        isBlank text = false := by
  obtain ⟨hinteraction, hdecision, htext, hexpression⟩ :=
    Characters.textAt_of_parse input payload response hparse
  rw [parse_modelDump_iff, and_iff_left rfl]
  simp only [textPaths, List.forall_mem_cons, List.not_mem_nil, false_imp_iff, implies_true,
    and_true, hinteraction, hdecision, htext, hexpression, Option.some.injEq, forall_eq']
  constructor
  · exact fun h => ⟨h.interactionId, h.decisionId, h.text, h.expression⟩
  · exact fun h => ⟨h.1, h.2.1, h.2.2.1, h.2.2.2⟩

/-- A greeting, with the given words. -/
def greeting (text : String) (h : PythonText.strip text ≠ "") : Characters.CharacterResponseV1 where
  interactionId := "interaction-1"
  decisionId := "decision-1"
  speech := ⟨text, .supportive, true, h⟩
  expression := ⟨"warm", .subtle, by decide⟩
  motion := ⟨.acknowledge, .standard, .optional, by decide, by decide⟩
  persistenceDurable := true
  identifiers_nonempty := by decide

theorem greeting_accepted :
    parseCharacterResponse (greeting "Hello." (by decide)).modelDump =
      .ok (.ofModel (greeting "Hello." (by decide))) := by
  have hparse := Characters.parse_modelDump (greeting "Hello." (by decide))
  refine (forwarded_response_accepted_iff jsonInput _ _ hparse).mpr ?_
  obtain ⟨hinteraction, hdecision, hspeech, hexpression⟩ :=
    Characters.textAt_of_parse jsonInput _ _ hparse
  intro path hpath text htext
  simp only [textPaths, List.mem_cons, List.not_mem_nil, or_false] at hpath
  rcases hpath with rfl | rfl | rfl | rfl
  · rw [← Option.some.inj (hinteraction.symm.trans htext)]
    decide
  · rw [← Option.some.inj (hdecision.symm.trans htext)]
    decide
  · rw [← Option.some.inj (hspeech.symm.trans htext)]
    decide
  · rw [← Option.some.inj (hexpression.symm.trans htext)]
    decide

/-- A byte order mark is a text for Python and white space for JavaScript. -/
theorem byte_order_mark_refused :
    ∃ payload response, Characters.parseCharacterResponse jsonInput payload = .ok response ∧
      ¬ parseCharacterResponse response.modelDump = .ok (.ofModel response) := by
  have hmark : PythonText.strip (String.ofList [Char.ofNat 0xFEFF]) ≠ "" := by decide
  refine ⟨_, greeting _ hmark, Characters.parse_modelDump _, fun hok => ?_⟩
  have hlegible : isBlank (String.ofList [Char.ofNat 0xFEFF]) = false :=
    ((parse_modelDump_iff _ _).mp hok).1.text
  exact absurd hlegible (by decide)

end RoboticCharacter.Dashboard
