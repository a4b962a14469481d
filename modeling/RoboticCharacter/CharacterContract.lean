import RoboticCharacter.JsonValue
import RoboticCharacter.PydanticModel
import RoboticCharacter.PythonText
import RoboticCharacter.SimulationRuntime

/-! The contract of the character responses that enter the runtime: the models, the parser of a
payload, and the JSON data that a response is dumped as. -/
namespace RoboticCharacter.Characters
open Fallible Pydantic
open Simulation (MotionCue MotionStyle)

def schemaVersion : String := "rci.character_response.v1"

inductive SpeechDelivery
  | neutral
  | supportive
  | confident
  | cautious
  | encouraging
  | empathetic
  deriving DecidableEq, Repr

def SpeechDelivery.value : SpeechDelivery → String
  | neutral => "neutral"
  | supportive => "supportive"
  | confident => "confident"
  | cautious => "cautious"
  | encouraging => "encouraging"
  | empathetic => "empathetic"

def SpeechDelivery.members : List SpeechDelivery :=
  [.neutral, .supportive, .confident, .cautious, .encouraging, .empathetic]

inductive ExpressionStrength
  | none
  | subtle
  | moderate
  | strong
  deriving DecidableEq, Repr

def ExpressionStrength.value : ExpressionStrength → String
  | none => "none"
  | subtle => "subtle"
  | moderate => "moderate"
  | strong => "strong"

def ExpressionStrength.members : List ExpressionStrength := [.none, .subtle, .moderate, .strong]

def motionCues : List MotionCue :=
  [.none, .listen, .acknowledge, .present, .caution, .celebrate, .think]

def motionStyles : List MotionStyle := [.restrained, .standard, .expressive]

inductive MotionDisposition
  | none
  | optional
  deriving DecidableEq, Repr

def MotionDisposition.value : MotionDisposition → String
  | none => "none"
  | optional => "optional"

def MotionDisposition.members : List MotionDisposition := [.none, .optional]

structure SpeechIntent where
  text : String
  delivery : SpeechDelivery
  interruptible : Bool
  text_nonempty : PythonText.strip text ≠ ""

structure ExpressionIntent where
  expression : String
  strength : ExpressionStrength
  expression_nonempty : PythonText.strip expression ≠ ""

structure MotionIntent where
  cue : MotionCue
  style : MotionStyle
  disposition : MotionDisposition
  none_of_none : ¬ (cue = .none ∧ disposition ≠ .none)
  optional_of_cue : ¬ (cue ≠ .none ∧ disposition ≠ .optional)

/-- A response; the literals `schema_version`, `source_character`, `verified` and
`persistence_committed` have one value each. -/
structure CharacterResponseV1 where
  interactionId : String
  decisionId : String
  speech : SpeechIntent
  expression : ExpressionIntent
  motion : MotionIntent
  persistenceDurable : Bool
  identifiers_nonempty :
    ¬ (PythonText.strip interactionId = "" ∨ PythonText.strip decisionId = "")

section Validate
variable {α : Type} (input : Input α) (value : α)

def SpeechIntent.validate : Validated SpeechIntent := do
  let entries ← input.fields value
  let (text, delivery, interruptible, _) ←
    both (field entries "text" input.str)
      (both (field entries "delivery" (input.enum SpeechDelivery.members SpeechDelivery.value))
        (both (field entries "interruptible" input.bool)
          (forbidExtra entries ["text", "delivery", "interruptible"])))
  if h : PythonText.strip text = "" then .error (valueError "speech text must not be empty")
  else return ⟨text, delivery, interruptible, h⟩

def ExpressionIntent.validate : Validated ExpressionIntent := do
  let entries ← input.fields value
  let (expression, strength, _) ←
    both (field entries "expression" input.str)
      (both (field entries "strength"
          (input.enum ExpressionStrength.members ExpressionStrength.value))
        (forbidExtra entries ["expression", "strength"]))
  if h : PythonText.strip expression = "" then .error (valueError "expression must not be empty")
  else return ⟨expression, strength, h⟩

def MotionIntent.validate : Validated MotionIntent := do
  let entries ← input.fields value
  let (cue, style, disposition, _) ←
    both (field entries "cue" (input.enum motionCues MotionCue.value))
      (both (field entries "style" (input.enum motionStyles MotionStyle.value))
        (both (field entries "disposition"
            (input.enum MotionDisposition.members MotionDisposition.value))
          (forbidExtra entries ["cue", "style", "disposition"])))
  if hnone : cue = .none ∧ disposition ≠ .none then
    .error (valueError "a none motion cue must have none disposition")
  else if hcue : cue ≠ .none ∧ disposition ≠ .optional then
    .error (valueError "non-empty character motion cues must remain optional")
  else return ⟨cue, style, disposition, hnone, hcue⟩

/-- `CharacterResponseV1.model_validate`. -/
def parseCharacterResponse : Validated CharacterResponseV1 := do
  let entries ← input.fields value
  let (_, interactionId, decisionId, _, speech, expression, motion, _, _, persistenceDurable, _) ←
    both (field entries "schema_version" (input.literal schemaVersion))
      (both (field entries "interaction_id" input.str)
        (both (field entries "decision_id" input.str)
          (both (field entries "source_character" (input.literal "aurelia"))
            (both (field entries "speech" (SpeechIntent.validate input))
              (both (field entries "expression" (ExpressionIntent.validate input))
                (both (field entries "motion" (MotionIntent.validate input))
                  (both (field entries "verified" input.literalTrue)
                    (both (field entries "persistence_committed" input.literalTrue)
                      (both (field entries "persistence_durable" input.bool)
                        (forbidExtra entries ["schema_version", "interaction_id", "decision_id",
                          "source_character", "speech", "expression", "motion", "verified",
                          "persistence_committed", "persistence_durable"]))))))))))
  if h : PythonText.strip interactionId = "" ∨ PythonText.strip decisionId = "" then
    .error (valueError "interaction and decision identifiers must not be empty")
  else return ⟨interactionId, decisionId, speech, expression, motion, persistenceDurable, h⟩

end Validate

/-! `model_dump(mode="json")`. -/

def SpeechIntent.modelDump (speech : SpeechIntent) : JsonValue :=
  .object [("text", .string speech.text), ("delivery", .string speech.delivery.value),
    ("interruptible", .bool speech.interruptible)]

def ExpressionIntent.modelDump (expression : ExpressionIntent) : JsonValue :=
  .object [("expression", .string expression.expression),
    ("strength", .string expression.strength.value)]

def MotionIntent.modelDump (motion : MotionIntent) : JsonValue :=
  .object [("cue", .string motion.cue.value), ("style", .string motion.style.value),
    ("disposition", .string motion.disposition.value)]

def CharacterResponseV1.modelDump (response : CharacterResponseV1) : JsonValue :=
  .object [("schema_version", .string schemaVersion),
    ("interaction_id", .string response.interactionId),
    ("decision_id", .string response.decisionId), ("source_character", .string "aurelia"),
    ("speech", response.speech.modelDump), ("expression", response.expression.modelDump),
    ("motion", response.motion.modelDump), ("verified", .bool true),
    ("persistence_committed", .bool true),
    ("persistence_durable", .bool response.persistenceDurable)]

/-- The words that a field of type `bool` is read from, in any case. -/
def truthWords (truth : Bool) : List String :=
  if truth then ["1", "on", "t", "true", "y", "yes"] else ["0", "off", "f", "false", "n", "no"]

/-- The reading of data that was decoded from JSON. -/
def jsonInput : Input JsonValue where
  text
    | .string text => some text
    | _ => none
  strictText
    | .string text => some text
    | _ => none
  boolean
    | .bool value => some value
    | .number value => if value = 1 then some true else if value = 0 then some false else none
    | .string text =>
      let word := String.ofList (text.toList.map Char.toLower)
      if word ∈ truthWords true then some true
      else if word ∈ truthWords false then some false
      else none
    | _ => none
  -- a literal is looked up by equality, and `1 == True`
  strictBoolean
    | .bool value => some value
    | .number value => if value = 1 then some true else if value = 0 then some false else none
    | _ => none
  mapping
    | .object entries => some entries
    | _ => none

theorem SpeechIntent.validate_modelDump (speech : SpeechIntent) :
    SpeechIntent.validate jsonInput speech.modelDump = .ok speech := by
  have hdelivery : jsonInput.enum SpeechDelivery.members SpeechDelivery.value
      (.string speech.delivery.value) = .ok speech.delivery := by
    cases speech.delivery <;> rfl
  unfold SpeechIntent.validate
  simp only [bind_eq_ok_iff, both_eq_ok_iff, field_eq_ok_iff]
  refine ⟨_, rfl, (speech.text, speech.delivery, speech.interruptible, ()),
    ⟨⟨_, rfl, rfl⟩, ⟨_, rfl, hdelivery⟩, ⟨_, rfl, rfl⟩, rfl⟩, ?_⟩
  exact dif_neg speech.text_nonempty

theorem ExpressionIntent.validate_modelDump (expression : ExpressionIntent) :
    ExpressionIntent.validate jsonInput expression.modelDump = .ok expression := by
  have hstrength : jsonInput.enum ExpressionStrength.members ExpressionStrength.value
      (.string expression.strength.value) = .ok expression.strength := by
    cases expression.strength <;> rfl
  unfold ExpressionIntent.validate
  simp only [bind_eq_ok_iff, both_eq_ok_iff, field_eq_ok_iff]
  refine ⟨_, rfl, (expression.expression, expression.strength, ()),
    ⟨⟨_, rfl, rfl⟩, ⟨_, rfl, hstrength⟩, rfl⟩, ?_⟩
  exact dif_neg expression.expression_nonempty

theorem MotionIntent.validate_modelDump (motion : MotionIntent) :
    MotionIntent.validate jsonInput motion.modelDump = .ok motion := by
  have hcue : jsonInput.enum motionCues MotionCue.value (.string motion.cue.value) =
      .ok motion.cue := by
    cases motion.cue <;> rfl
  have hstyle : jsonInput.enum motionStyles MotionStyle.value (.string motion.style.value) =
      .ok motion.style := by
    cases motion.style <;> rfl
  have hdisposition : jsonInput.enum MotionDisposition.members MotionDisposition.value
      (.string motion.disposition.value) = .ok motion.disposition := by
    cases motion.disposition <;> rfl
  unfold MotionIntent.validate
  simp only [bind_eq_ok_iff, both_eq_ok_iff, field_eq_ok_iff]
  refine ⟨_, rfl, (motion.cue, motion.style, motion.disposition, ()),
    ⟨⟨_, rfl, hcue⟩, ⟨_, rfl, hstyle⟩, ⟨_, rfl, hdisposition⟩, rfl⟩, ?_⟩
  exact (dif_neg motion.none_of_none).trans (dif_neg motion.optional_of_cue)

/-- Every response is what its own dump is parsed to. -/
theorem parse_modelDump (response : CharacterResponseV1) :
    parseCharacterResponse jsonInput response.modelDump = .ok response := by
  unfold parseCharacterResponse
  simp only [bind_eq_ok_iff, both_eq_ok_iff, field_eq_ok_iff]
  refine ⟨_, rfl, ((), response.interactionId, response.decisionId, (), response.speech,
    response.expression, response.motion, (), (), response.persistenceDurable, ()),
    ⟨⟨_, rfl, rfl⟩, ⟨_, rfl, rfl⟩, ⟨_, rfl, rfl⟩, ⟨_, rfl, rfl⟩,
      ⟨_, rfl, response.speech.validate_modelDump⟩,
      ⟨_, rfl, response.expression.validate_modelDump⟩,
      ⟨_, rfl, response.motion.validate_modelDump⟩, ⟨_, rfl, rfl⟩, ⟨_, rfl, rfl⟩, ⟨_, rfl, rfl⟩,
      rfl⟩, ?_⟩
  exact dif_neg response.identifiers_nonempty

section Texts
variable {α : Type} (input : Input α) (value : α)

theorem SpeechIntent.textAt_of_validate (speech : SpeechIntent)
    (h : SpeechIntent.validate input value = .ok speech) :
    input.textAt ["text"] value = some speech.text := by
  unfold SpeechIntent.validate Input.fields Input.str at h
  simp only [bind_eq_ok_iff, both_eq_ok_iff, field_eq_ok_iff, typed_eq_ok_iff] at h
  obtain ⟨entries, hentries, ⟨text, delivery, interruptible, _⟩, ⟨htext, _⟩, hspeech⟩ := h
  dsimp only at htext hspeech
  split_ifs at hspeech
  rw [← Except.ok.inj hspeech]
  exact textAt_of_field input value entries "text" [] text hentries htext

theorem ExpressionIntent.textAt_of_validate (expression : ExpressionIntent)
    (h : ExpressionIntent.validate input value = .ok expression) :
    input.textAt ["expression"] value = some expression.expression := by
  unfold ExpressionIntent.validate Input.fields Input.str at h
  simp only [bind_eq_ok_iff, both_eq_ok_iff, field_eq_ok_iff, typed_eq_ok_iff] at h
  obtain ⟨entries, hentries, ⟨text, strength, _⟩, ⟨htext, _⟩, hexpression⟩ := h
  dsimp only at htext hexpression
  split_ifs at hexpression
  rw [← Except.ok.inj hexpression]
  exact textAt_of_field input value entries "expression" [] text hentries htext

/-- Where the texts of a response stand in its payload. -/
theorem textAt_of_parse (response : CharacterResponseV1)
    (h : parseCharacterResponse input value = .ok response) :
    input.textAt ["interaction_id"] value = some response.interactionId ∧
      input.textAt ["decision_id"] value = some response.decisionId ∧
      input.textAt ["speech", "text"] value = some response.speech.text ∧
      input.textAt ["expression", "expression"] value = some response.expression.expression := by
  unfold parseCharacterResponse Input.fields Input.str at h
  simp only [bind_eq_ok_iff, both_eq_ok_iff, field_eq_ok_iff, typed_eq_ok_iff] at h
  obtain ⟨entries, hentries, ⟨_, interactionId, decisionId, _, speech, expression, motion, _, _,
    persistenceDurable, _⟩, hfields, hresponse⟩ := h
  obtain ⟨_, hinteraction, hdecision, _, ⟨child, hspeech, hvalidSpeech⟩,
    ⟨child', hexpression, hvalidExpression⟩, _⟩ := hfields
  dsimp only at hinteraction hdecision hvalidSpeech hvalidExpression hresponse
  split_ifs at hresponse
  rw [← Except.ok.inj hresponse]
  exact ⟨textAt_of_field input value entries _ [] interactionId hentries hinteraction,
    textAt_of_field input value entries _ [] decisionId hentries hdecision,
    textAt_of_field input value entries _ ["text"] speech.text hentries
      ⟨child, hspeech, SpeechIntent.textAt_of_validate input child speech hvalidSpeech⟩,
    textAt_of_field input value entries _ ["expression"] expression.expression hentries
      ⟨child', hexpression, ExpressionIntent.textAt_of_validate input child' expression
        hvalidExpression⟩⟩

end Texts
end RoboticCharacter.Characters
