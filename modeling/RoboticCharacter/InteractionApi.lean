import RoboticCharacter.MultimodalCorrelator
import RoboticCharacter.DashboardCharacter
import RoboticCharacter.SimulationPending
import RoboticCharacter.SimulationReport
import RoboticCharacter.DashboardTelemetry

/-! The interactions of the API: a request is correlated to one frame of meaning, the character
engine answers the frame, the answer may ask for a behavior, and the runtime executes it. Requests
are handled side by side; each of them waits for the engine and then for the runtime. -/
namespace RoboticCharacter.Multimodal

def InteractionMode.value : InteractionMode → String
  | gesture => "gesture"
  | voice => "voice"
  | text => "text"

end RoboticCharacter.Multimodal

/-! ### The planner of behaviors -/
namespace RoboticCharacter.Behavior
open Characters (CharacterResponseV1)

/-- `BehaviorIntent`, with what the runtime does not read of it. -/
structure BehaviorIntent extends Simulation.BehaviorIntent where
  interactionId : String
  decisionId : String
  sourceCharacter : String
  expression : String

/-- `BehaviorPlanner.plan`. -/
def plan (response : CharacterResponseV1) : Except String (Option BehaviorIntent) :=
  let motion := response.motion
  if motion.disposition = .none then
    if motion.cue ≠ .none then .error "none motion disposition cannot carry a non-empty cue"
    else .ok none
  else if motion.disposition ≠ .optional then .error "character behavior must remain optional"
  else if motion.cue = .none then .error "optional behavior must carry a semantic cue"
  else
    .ok (some {
      interactionId := response.interactionId
      decisionId := response.decisionId
      sourceCharacter := "aurelia"
      expression := response.expression.expression
      cue := motion.cue
      style := motion.style })

/-- The behavior that a response asks for. -/
def requested (response : CharacterResponseV1) : Option BehaviorIntent :=
  if response.motion.disposition = .none then none
  else some ⟨⟨response.motion.cue, response.motion.style⟩, response.interactionId,
    response.decisionId, "aurelia", response.expression.expression⟩

/-- A response that was validated never makes the planner raise. -/
theorem plan_eq (response : CharacterResponseV1) : plan response = .ok (requested response) := by
  unfold plan requested
  by_cases hdisposition : response.motion.disposition = .none
  · have hempty : response.motion.cue = .none := by
      by_contra hcarries
      apply response.motion.optional_of_cue
      exact ⟨hcarries, by rw [hdisposition]; decide⟩
    simp [hdisposition, hempty]
  · have hoptional : response.motion.disposition = .optional := by
      cases hvalue : response.motion.disposition with
      | none => exact absurd hvalue hdisposition
      | optional => rfl
    have hcarries : response.motion.cue ≠ .none :=
      fun hempty => response.motion.none_of_none ⟨hempty, hdisposition⟩
    simp [hoptional, hcarries]

end RoboticCharacter.Behavior

/-! ### The client of the character engine -/
namespace RoboticCharacter.Characters
open Multimodal (MeaningFrame)
open JsonValue (property)
open Dashboard (isTrue)

/-- `_render_message`. -/
def renderMessage (frame : MeaningFrame) : Except String String :=
  if PythonText.strip frame.text ≠ "" then
    match frame.gesture with
    | none => .ok (PythonText.strip frame.text)
    | some gesture =>
      .ok s!"{PythonText.strip frame.text}\n\nObserved motion gesture: {gesture.value}."
  else
    match frame.gesture with
    | none => .error "meaning frame has no character-engine input"
    | some gesture => .ok s!"Observed user motion gesture: {gesture.value}."

/-- A frame of meaning always has something to say to the engine. -/
theorem renderMessage_ok (frame : MeaningFrame) : ∃ message, renderMessage frame = .ok message := by
  have hsays := frame.text_or_gesture
  unfold renderMessage
  split_ifs with htext
  · split
    · exact ⟨_, rfl⟩
    · exact ⟨_, rfl⟩
  · split
    · -- neither words nor a gesture: no frame is made of that
      rename_i hgesture
      exact absurd ⟨not_not.mp htext, hgesture⟩ hsays
    · exact ⟨_, rfl⟩

/-- What comes of the request to the engine: an error of the transport, or a status and a body,
which is none where it is no JSON. -/
inductive EngineReply
  | fails (error : String)
  | answers (statusCode : ℕ) (payload : Option JsonValue)

/-- `respond`, once the reply is there; `reader` is how the library reads decoded JSON. -/
def readReply (reader : Pydantic.Input JsonValue) : EngineReply → Except String CharacterResponseV1
  | .fails error => .error s!"Aurelia request failed: {error}"
  | .answers statusCode payload =>
    -- the status is looked at before the body is read
    if statusCode ≠ 200 then
      .error s!"Aurelia rejected cognitive cycle with HTTP {statusCode}"
    else
      match payload with
      | none => .error "Aurelia returned invalid JSON"
      | some (.object entries) =>
        -- anything but `true`, a missing field included
        if isTrue (property entries "safe_to_publish") = false then
          .error "Aurelia response is not safe to publish"
        else
          match property entries "character_response" with
          | some (.object character) =>
            (parseCharacterResponse reader (.object character)).mapError
              fun _ => "Aurelia character_response failed RCI validation"
          | _ => .error "Aurelia response is missing character_response"
      | some _ => .error "Aurelia response must be a JSON object"

end RoboticCharacter.Characters

/-! ### The server -/
namespace RoboticCharacter.Api
open Safety Gateway PythonMath Machine Simulation Multimodal JsonValue
open Gesture (GestureType GestureObservation)
open Characters (CharacterResponseV1 EngineReply readReply renderMessage)
open ExtendedNumber (finite)

/-- A request body that was accepted. -/
structure SimulationInteractionRequest where
  timestampMs : ℤ
  text : Option String
  voiceText : Option String
  voiceConfidence : ExtendedNumber ℚ
  gesture : Option GestureType
  gestureConfidence : ExtendedNumber ℚ
  timestamp_nonneg : 0 ≤ timestampMs
  voice_unit : InUnitInterval voiceConfidence
  gesture_unit : InUnitInterval gestureConfidence

namespace SimulationInteractionRequest

/-- The voice of a request, or what is wrong with its words. -/
def voice (request : SimulationInteractionRequest) : Except String (Option VoiceTranscript) :=
  -- both are refused even where one of them is blank
  if request.text.isSome ∧ request.voiceText.isSome then
    .error "provide text or simulated voice, not both"
  else
    match request.voiceText with
    | none => .ok none
    | some voiceText =>
      let normalized := " ".intercalate (PythonText.split voiceText)
      if normalized = "" then .error "simulated voice text cannot be empty"
      else .ok (some ⟨normalized, request.voiceConfidence, true⟩)

def observation (request : SimulationInteractionRequest) : Option GestureObservation :=
  request.gesture.map fun gesture =>
    { gesture
      confidence := request.gestureConfidence
      timestampMs := request.timestampMs
      pitchDeg := finite 0
      rollDeg := finite 0
      angularSpeedDegS := finite 0
      simulation := true }

end SimulationInteractionRequest

structure InteractionResult where
  meaning : MeaningFrame
  characterResponse : CharacterResponseV1
  behavior : Option Behavior.BehaviorIntent

/-- The answer to a request: a result with the report of its execution, a refusal with its status,
or an exception out of the runtime. The last one is none of those that the handler turns into a
refusal, but for one of the device, which it turns into one if it is a `ValueError`. -/
inductive Answer (K : Type)
  | ok (result : InteractionResult) (execution : Option (SimulationExecutionReport K))
  | refused (statusCode : ℕ) (detail : String)
  | raised (failure : RuntimeFailure)

def failureAnswer {K : Type} : RuntimeFailure → Answer K
  | .simulation message => .refused 503 message
  | .value message => .refused 503 message
  | .gateway failure => .raised (.gateway failure)
  | .device message => .raised (.device message)

/-- A request that is being handled: it waits for the engine, or for the call of
`execute_behavior` that it made. -/
inductive Task
  | thinking (meaning : MeaningFrame)
  | moving (result : InteractionResult) (behavior : Behavior.BehaviorIntent) (id : ℕ)
  | answered

/-- The tasks are those of all requests, in the order in which they arrived. -/
structure ApiServer (K : Type) [Field K] [LinearOrder K] where
  runtime : SimulationRuntime K
  tasks : List Task

inductive ApiInput
  | interact (request : SimulationInteractionRequest)
  /-- The engine replies to the request that arrived at this place. -/
  | engine (index : ℕ) (reply : EngineReply)
  /-- Anything else that happens to the runtime. -/
  | runtime (input : RuntimeInput)

inductive ApiOutput (K : Type)
  | none
  | asked (index : ℕ) (message : String)
  | answered (index : ℕ) (answer : Answer K)

namespace Task

/-- The call of `execute_behavior` that the task waits for. -/
def call : Task → Option (ℕ × Simulation.BehaviorIntent)
  | .moving _ behavior id => some (id, behavior.toBehaviorIntent)
  | _ => none

/-- The task waits for the call with this id. -/
def awaits (id : ℕ) : Task → Bool
  | .moving _ _ waited => decide (waited = id)
  | _ => false

end Task

namespace ApiServer
variable {K : Type} [Field K] [LinearOrder K]

def new (runtime : SimulationRuntime K) : ApiServer K := ⟨runtime, []⟩

def answer (s : ApiServer K) (index : ℕ) (answer : Answer K) : ApiServer K × ApiOutput K :=
  ({ s with tasks := s.tasks.set index .answered }, .answered index answer)

/-- `interact` up to its first wait. -/
def interact (s : ApiServer K) (request : SimulationInteractionRequest) :
    ApiServer K × ApiOutput K :=
  let index := s.tasks.length
  let refuse (statusCode : ℕ) (detail : String) : ApiServer K × ApiOutput K :=
    ({ s with tasks := s.tasks ++ [.answered] }, .answered index (.refused statusCode detail))
  -- only what is wrong with the words of the request itself is a 422
  match request.voice with
  | .error detail => refuse 422 detail
  | .ok voice =>
    match MultimodalCorrelator.default.correlate request.timestampMs request.text voice
        request.observation with
    | .error error => refuse 503 error.message
    | .ok meaning =>
      match renderMessage meaning with
      | .error message => refuse 503 message
      | .ok message => ({ s with tasks := s.tasks ++ [.thinking meaning] }, .asked index message)

/-- What an execution gives to the request that waits for it. -/
def executed (s : ApiServer K) (id : ℕ)
    (result : Except RuntimeFailure (SimulationExecutionReport K)) : ApiServer K × ApiOutput K :=
  let index := s.tasks.findIdx (Task.awaits id)
  match s.tasks[index]?, result with
  | some (.moving interaction _ _), .ok report => s.answer index (.ok interaction (some report))
  | some (.moving _ _ _), .error failure => s.answer index (failureAnswer failure)
  | _, _ => (s, .none)

variable [FloorRing K] [SquareRoot K] [ToString K]

/-- `interact` from the reply of the engine to the call of `execute_behavior`. -/
def reply (env : Surroundings K) (reader : Pydantic.Input JsonValue) (s : ApiServer K) (index : ℕ)
    (meaning : MeaningFrame) (reply : EngineReply) : ApiServer K × ApiOutput K :=
  match readReply reader reply with
  | .error message => s.answer index (.refused 503 message)
  | .ok response =>
    match Behavior.plan response with
    | .error message => s.answer index (.refused 503 message)
    -- no behavior is asked for, so the runtime is not called
    | .ok none => s.answer index (.ok ⟨meaning, response, none⟩ none)
    | .ok (some behavior) =>
      ({ runtime := (s.runtime.step env (.call (.execute behavior.toBehaviorIntent))).1
         tasks := s.tasks.set index
          (.moving ⟨meaning, response, some behavior⟩ behavior s.runtime.nextId) }, .none)

/-- Only the interactions call `execute_behavior`. -/
def step (env : Surroundings K) (reader : Pydantic.Input JsonValue) (s : ApiServer K) :
    ApiInput → ApiServer K × ApiOutput K
  | .interact request => s.interact request
  | .engine index reply =>
    match s.tasks[index]? with
    | some (.thinking meaning) => s.reply env reader index meaning reply
    -- nobody waits for this reply
    | _ => (s, .none)
  | .runtime (.call (.execute _)) => (s, .none)
  | .runtime input =>
    match s.runtime.linkStep env input with
    | (runtime, .executeDone id result) => { s with runtime := runtime }.executed id result
    | (runtime, _) => ({ s with runtime := runtime }, .none)

end ApiServer

/-! ### The answer and its reader -/
section Payload
variable {K : Type}

def decisionValue : MotionDecision → String
  | .approve => "APPROVE"
  | .reject => "REJECT"
  | .estop => "ESTOP"

def ackName : AckStatus → String
  | .ok => "OK"
  | .rejected => "REJECTED"
  | .stale => "STALE"
  | .invalid => "INVALID"

/-- The JSON of a confidence, which is a number between zero and one. -/
def confidenceValue : ExtendedNumber ℚ → JsonValue
  | .finite value => .number value
  | _ => .null

/-- `_serialize_execution`; `number` gives the JSON number of a duration, and `uuid` the text of an
id. -/
def serializeExecution (number : K → ℚ) (uuid : Uuid → String)
    (report : SimulationExecutionReport K) : JsonValue :=
  .object [("cue", .string report.cue), ("style", .string report.style),
    ("safety_decision", .string (decisionValue report.safetyDecision)),
    ("authorization_id", .string (uuid report.authorizationId)),
    ("heartbeat_ack", .string (ackName report.heartbeatAck)),
    ("motion_ack", .string (ackName report.motionAck)),
    ("simulation_steps", .number report.simulationSteps),
    ("simulated_duration_s", .number (number report.simulatedDurationS)),
    ("telemetry", Dashboard.serializeRobotTelemetry report.telemetry),
    ("simulation_only", .bool true), ("physical_motion", .bool false)]

def serializeMeaning (meaning : MeaningFrame) : JsonValue :=
  .object [("text", .string meaning.text), ("mode", .string meaning.mode.value),
    ("timestamp_ms", .number meaning.timestampMs),
    ("confidence", confidenceValue meaning.confidence),
    ("gesture", match meaning.gesture with
      | none => .null
      | some gesture => .string gesture.value),
    ("simulation", .bool meaning.simulation)]

def serializeBehavior (behavior : Behavior.BehaviorIntent) : JsonValue :=
  .object [("interaction_id", .string behavior.interactionId),
    ("decision_id", .string behavior.decisionId),
    ("source_character", .string behavior.sourceCharacter),
    ("expression", .string behavior.expression), ("cue", .string behavior.cue.value),
    ("style", .string behavior.style.value)]

/-- `_serialize_result`. -/
def serializeResult (number : K → ℚ) (uuid : Uuid → String) (result : InteractionResult)
    (execution : Option (SimulationExecutionReport K)) : JsonValue :=
  .object [("meaning", serializeMeaning result.meaning),
    ("character_response", result.characterResponse.modelDump),
    ("behavior", match result.behavior with
      | none => .null
      | some behavior => serializeBehavior behavior),
    ("actuator_command_emitted", .bool false),
    ("simulation_execution", match execution with
      | none => .null
      | some report => serializeExecution number uuid report)]

end Payload
end RoboticCharacter.Api

namespace RoboticCharacter.Dashboard
open JsonValue

structure InteractionView where
  characterResponse : CharacterResponse
  simulationExecuted : Bool

/-- `value === null`. -/
def isNull : Option JsonValue → Bool
  | some .null => true
  | _ => false

/-- `sendTextInteraction`, once it has the body of a response that is ok. -/
def readInteraction (payload : JsonValue) : Except String InteractionView := do
  let entries ← requireRecord (some payload) "Interaction response must be an object"
  let characterResponse ←
    parseCharacterResponse ((property entries "character_response").getD .null)
  return {
    characterResponse
    simulationExecuted := !isNull (property entries "simulation_execution") }

/-- The page reads the response, and whether there was an execution, exactly if no text of the
response is blank to it. -/
theorem readInteraction_iff {K : Type} (result : Api.InteractionResult)
    (execution : Option (Simulation.SimulationExecutionReport K)) (number : K → ℚ)
    (uuid : Uuid → String) (view : InteractionView) :
    readInteraction (Api.serializeResult number uuid result execution) = .ok view ↔
      Legible result.characterResponse ∧
        view = ⟨.ofModel result.characterResponse, execution.isSome⟩ := by
  have hread (response : CharacterResponse) :
      (⟨response, !isNull (property [("meaning", Api.serializeMeaning result.meaning),
        ("character_response", result.characterResponse.modelDump),
        ("behavior", match result.behavior with
          | none => .null
          | some behavior => Api.serializeBehavior behavior),
        ("actuator_command_emitted", .bool false),
        ("simulation_execution", match execution with
          | none => .null
          | some report => Api.serializeExecution number uuid report)] "simulation_execution")⟩ :
        InteractionView) = ⟨response, execution.isSome⟩ := by
    cases execution with
    | none => rfl
    | some report => rfl
  constructor
  · intro hview
    obtain ⟨entries, hentries, hrest⟩ := (Fallible.bind_eq_ok_iff _ _ _).mp hview
    obtain rfl := Except.ok.inj hentries
    obtain ⟨response, hresponse, hdone⟩ := (Fallible.bind_eq_ok_iff _ _ _).mp hrest
    obtain ⟨hlegible, rfl⟩ := (parse_modelDump_iff _ response).mp hresponse
    exact ⟨hlegible, (Except.ok.inj hdone).symm.trans (hread _)⟩
  · rintro ⟨hlegible, rfl⟩
    have hresponse := (parse_modelDump_iff result.characterResponse _).mpr ⟨hlegible, rfl⟩
    refine (Fallible.bind_eq_ok_iff _ _ _).mpr ⟨_, rfl, ?_⟩
    refine (Fallible.bind_eq_ok_iff _ _ _).mpr ⟨_, hresponse, ?_⟩
    exact congrArg Except.ok (hread _)

end RoboticCharacter.Dashboard
