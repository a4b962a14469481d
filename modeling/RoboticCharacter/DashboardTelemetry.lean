import RoboticCharacter.SimulationCalls
import RoboticCharacter.DashboardCharacter
import RoboticCharacter.DashboardReads

/-! The telemetry of the digital twin as the backend serializes it, the parser the dashboard reads
it with, and the frame of the web socket that carries it beside a snapshot. -/
namespace RoboticCharacter.Dashboard
open Safety Gateway PythonMath Machine Simulation Fallible JsonValue

structure RobotJointTelemetryView where
  jointId : ℚ
  positionCdeg : ℚ
  velocityCdegS : ℚ
  currentMa : ℚ
  deriving DecidableEq

structure RobotTelemetryView where
  uptimeMs : ℚ
  systemState : String
  supplyMv : ℚ
  joints : List RobotJointTelemetryView
  simulationOnly : Bool
  measuredHardware : Bool
  deriving DecidableEq

def requireInteger (entries : List (String × JsonValue)) (key : String) (minimum maximum : ℤ) :
    Except String ℚ :=
  match property entries key with
  | some (.number value) =>
    if isSafeInteger value = false ∨ value < minimum ∨ (maximum : ℚ) < value then
      .error s!"{key} must be an integer in [{minimum}, {maximum}]"
    else .ok value
  | _ => .error s!"{key} must be an integer in [{minimum}, {maximum}]"

def requireArray (value : Option JsonValue) (message : String) : Except String (List JsonValue) :=
  match value with
  | some (.array items) => .ok items
  | _ => .error message

/-- `value === false`. -/
def isFalse (value : Option JsonValue) : Bool :=
  match value with
  | some (.bool truth) => !truth
  | _ => false

/-- The snapshot that carries the system state through the snapshot parser. -/
def stateCarrier (systemState : Option JsonValue) : JsonValue :=
  .object [("connection", .string "connected"),
    ("systemState", systemState.getD .null),
    ("estopLatched", .bool (isText systemState "ESTOP")),
    ("heartbeatHealthy", .bool false),
    ("gatewayError", .null),
    ("telemetry", .object [("lastFrameSequence", .null),
      ("heartbeatAgeMs", .null),
      ("sentCount", .null),
      ("acknowledgedCount", .null),
      ("rejectedCount", .null)])]

def parseJointTelemetry (item : JsonValue) : Except String RobotJointTelemetryView := do
  let entries ← requireRecord (some item) "Robot joint telemetry must be an object"
  let jointId ← requireInteger entries "jointId" 1 255
  let positionCdeg ← requireInteger entries "positionCdeg" (-32768) 32767
  let velocityCdegS ← requireInteger entries "velocityCdegS" (-32768) 32767
  let currentMa ← requireInteger entries "currentMa" 0 65535
  return { jointId, positionCdeg, velocityCdegS, currentMa }

def parseRobotTelemetry (value : JsonValue) : Except String RobotTelemetryView := do
  let entries ← requireRecord (some value) "Robot telemetry must contain a joints array"
  let items ← requireArray (property entries "joints")
    "Robot telemetry must contain a joints array"
  require (isTrue (property entries "simulationOnly") = true ∧
      isFalse (property entries "measuredHardware") = true)
    "Robot telemetry provenance must remain simulation-only"
  let carrier ← parseDashboardSnapshot (stateCarrier (property entries "systemState"))
  let joints ← items.mapM parseJointTelemetry
  require (joints.map RobotJointTelemetryView.jointId).Nodup
    "Robot telemetry contains duplicate joint IDs"
  let uptimeMs ← requireInteger entries "uptimeMs" 0 0xFFFFFFFF
  let supplyMv ← requireInteger entries "supplyMv" 0 65535
  return {
    uptimeMs
    systemState := carrier.systemState
    supplyMv
    joints
    simulationOnly := true
    measuredHardware := false }

/-- `_serialize_robot_telemetry`: one of its joints. -/
def jointEntriesOf (joint : RobotJointTelemetry) : List (String × JsonValue) :=
  [("jointId", .number joint.jointId),
    ("positionCdeg", .number joint.positionCdeg),
    ("velocityCdegS", .number joint.velocityCdegS),
    ("currentMa", .number joint.currentMa)]

def telemetryEntriesOf (telemetry : RobotTelemetry) : List (String × JsonValue) :=
  [("uptimeMs", .number telemetry.uptimeMs),
    ("systemState", .string telemetry.state.name),
    ("flags", .number telemetry.flags),
    ("supplyMv", .number telemetry.supplyMv),
    ("joints", .array (telemetry.joints.map fun joint => .object (jointEntriesOf joint))),
    ("simulationOnly", .bool true),
    ("measuredHardware", .bool false)]

def serializeRobotTelemetry (telemetry : RobotTelemetry) : JsonValue :=
  .object (telemetryEntriesOf telemetry)

/-! ### What the parser makes of a serialized report -/

def RobotJointTelemetryView.ofJoint (joint : RobotJointTelemetry) : RobotJointTelemetryView :=
  ⟨joint.jointId, joint.positionCdeg, joint.velocityCdegS, joint.currentMa⟩

/-- The numbers of the report, under the dashboard's names. -/
def RobotTelemetryView.ofReport (telemetry : RobotTelemetry) : RobotTelemetryView where
  uptimeMs := telemetry.uptimeMs
  systemState := telemetry.state.name
  supplyMv := telemetry.supplyMv
  joints := telemetry.joints.map .ofJoint
  simulationOnly := true
  measuredHardware := false

structure JointDisplayable (joint : RobotJointTelemetry) : Prop where
  id : 1 ≤ joint.jointId ∧ joint.jointId ≤ 255
  position : -32768 ≤ joint.positionCdeg ∧ joint.positionCdeg ≤ 32767
  velocity : -32768 ≤ joint.velocityCdegS ∧ joint.velocityCdegS ≤ 32767
  current : 0 ≤ joint.currentMa ∧ joint.currentMa ≤ 65535

structure Displayable (telemetry : RobotTelemetry) : Prop where
  uptime : 0 ≤ telemetry.uptimeMs ∧ telemetry.uptimeMs ≤ 0xFFFFFFFF
  supply : 0 ≤ telemetry.supplyMv ∧ telemetry.supplyMv ≤ 65535
  joints : ∀ joint ∈ telemetry.joints, JointDisplayable joint
  ids : (telemetry.joints.map RobotJointTelemetry.jointId).Nodup

theorem requireInteger_eq_ok_iff {entries : List (String × JsonValue)} {key : String} {n : ℤ}
    (h : property entries key = some (.number n)) (minimum maximum : ℤ)
    (hmin : -maxSafeInteger ≤ minimum) (hmax : maximum ≤ maxSafeInteger) (result : ℚ) :
    requireInteger entries key minimum maximum = .ok result ↔
      (minimum ≤ n ∧ n ≤ maximum) ∧ (n : ℚ) = result := by
  have hrefused : (isSafeInteger (n : ℚ) = false ∨ (n : ℚ) < minimum ∨ (maximum : ℚ) < n) ↔
      ¬ (minimum ≤ n ∧ n ≤ maximum) := by
    have hlow : (n : ℚ) < minimum ↔ n < minimum := Int.cast_lt
    have hhigh : (maximum : ℚ) < n ↔ maximum < n := Int.cast_lt
    have hsafe : isSafeInteger (n : ℚ) = decide (-maxSafeInteger ≤ n ∧ n ≤ maxSafeInteger) := by
      unfold isSafeInteger
      rw [Rat.den_intCast, Rat.num_intCast]
      simp only [true_and]
    -- a number in bounds is a safe integer
    rw [hsafe, hlow, hhigh, decide_eq_false_iff_not]
    omega
  unfold requireInteger
  rw [h]
  dsimp only
  by_cases hbounds : minimum ≤ n ∧ n ≤ maximum
  · rw [if_neg (fun hr => hrefused.mp hr hbounds)]
    simp only [Except.ok.injEq, hbounds, and_self, true_and]
  · rw [if_pos (hrefused.mpr hbounds)]
    simp only [reduceCtorEq, hbounds, false_and]

theorem parseJoint_eq_ok_iff (joint : RobotJointTelemetry) (view : RobotJointTelemetryView) :
    parseJointTelemetry (.object (jointEntriesOf joint)) = .ok view ↔
      JointDisplayable joint ∧ RobotJointTelemetryView.ofJoint joint = view := by
  have hid : property (jointEntriesOf joint) "jointId" = some (.number joint.jointId) := rfl
  have hposition : property (jointEntriesOf joint) "positionCdeg" =
      some (.number joint.positionCdeg) := rfl
  have hvelocity : property (jointEntriesOf joint) "velocityCdegS" =
      some (.number joint.velocityCdegS) := rfl
  have hcurrent : property (jointEntriesOf joint) "currentMa" =
      some (.number joint.currentMa) := rfl
  unfold parseJointTelemetry
  rw [show requireRecord (some (.object (jointEntriesOf joint)))
    "Robot joint telemetry must be an object" = .ok (jointEntriesOf joint) from rfl]
  simp only [bind_eq_ok_iff, pure_eq_ok_iff, Except.ok.injEq, exists_eq_left',
    requireInteger_eq_ok_iff hid 1 255 (by decide) (by decide),
    requireInteger_eq_ok_iff hposition (-32768) 32767 (by decide) (by decide),
    requireInteger_eq_ok_iff hvelocity (-32768) 32767 (by decide) (by decide),
    requireInteger_eq_ok_iff hcurrent 0 65535 (by decide) (by decide)]
  constructor
  · rintro ⟨_, ⟨hid, rfl⟩, _, ⟨hposition, rfl⟩, _, ⟨hvelocity, rfl⟩, _, ⟨hcurrent, rfl⟩, hview⟩
    exact ⟨⟨hid, hposition, hvelocity, hcurrent⟩, hview⟩
  · rintro ⟨hfits, hview⟩
    exact ⟨_, ⟨hfits.id, rfl⟩, _, ⟨hfits.position, rfl⟩, _, ⟨hfits.velocity, rfl⟩, _,
      ⟨hfits.current, rfl⟩, hview⟩

theorem parseJoints_eq_ok_iff (joints : List RobotJointTelemetry)
    (views : List RobotJointTelemetryView) :
    (joints.map fun joint => JsonValue.object (jointEntriesOf joint)).mapM parseJointTelemetry =
        .ok views ↔
      (∀ joint ∈ joints, JointDisplayable joint) ∧ joints.map .ofJoint = views := by
  induction joints generalizing views with
  | nil =>
    simp only [List.map_nil, List.mapM_nil, pure_eq_ok_iff, List.not_mem_nil, false_imp_iff,
      implies_true, true_and]
  | cons joint rest ih =>
    rw [List.map_cons, List.mapM_cons]
    simp only [bind_eq_ok_iff, pure_eq_ok_iff, parseJoint_eq_ok_iff, ih, List.forall_mem_cons,
      List.map_cons]
    constructor
    · rintro ⟨_, ⟨hjoint, rfl⟩, _, ⟨hrest, rfl⟩, hviews⟩
      exact ⟨⟨hjoint, hrest⟩, hviews⟩
    · rintro ⟨⟨hjoint, hrest⟩, hviews⟩
      exact ⟨_, ⟨hjoint, rfl⟩, _, ⟨hrest, rfl⟩, hviews⟩

theorem nodup_viewIds_iff (joints : List RobotJointTelemetry) :
    ((joints.map RobotJointTelemetryView.ofJoint).map RobotJointTelemetryView.jointId).Nodup ↔
      (joints.map RobotJointTelemetry.jointId).Nodup := by
  have hids : (joints.map RobotJointTelemetryView.ofJoint).map RobotJointTelemetryView.jointId =
      (joints.map RobotJointTelemetry.jointId).map (fun n : ℤ => (n : ℚ)) := by
    rw [List.map_map, List.map_map]
    rfl
  rw [hids]
  exact List.nodup_map_iff Int.cast_injective

theorem parse_stateCarrier (state : WireSystemState) :
    ∃ carrier, parseDashboardSnapshot (stateCarrier (some (.string state.name))) = .ok carrier ∧
      carrier.systemState = state.name := by
  cases state <;> exact ⟨_, rfl, rfl⟩

/-- The parser gives back the numbers of a report, and accepts it exactly if they fit. -/
theorem parse_report_iff (telemetry : RobotTelemetry) (view : RobotTelemetryView) :
    parseRobotTelemetry (serializeRobotTelemetry telemetry) = .ok view ↔
      Displayable telemetry ∧ RobotTelemetryView.ofReport telemetry = view := by
  have huptime : property (telemetryEntriesOf telemetry) "uptimeMs" =
      some (.number telemetry.uptimeMs) := rfl
  have hsupply : property (telemetryEntriesOf telemetry) "supplyMv" =
      some (.number telemetry.supplyMv) := rfl
  obtain ⟨carrier, hcarrier, hstate⟩ := parse_stateCarrier telemetry.state
  have hprovenance : isTrue (property (telemetryEntriesOf telemetry) "simulationOnly") = true ∧
      isFalse (property (telemetryEntriesOf telemetry) "measuredHardware") = true := ⟨rfl, rfl⟩
  unfold parseRobotTelemetry
  rw [show requireRecord (some (serializeRobotTelemetry telemetry))
      "Robot telemetry must contain a joints array" = .ok (telemetryEntriesOf telemetry) from rfl]
  simp only [bind_eq_ok_iff, pure_eq_ok_iff, Except.ok.injEq, exists_eq_left']
  rw [show property (telemetryEntriesOf telemetry) "systemState" =
      some (.string telemetry.state.name) from rfl, hcarrier,
    show requireArray (property (telemetryEntriesOf telemetry) "joints")
        "Robot telemetry must contain a joints array" =
      .ok (telemetry.joints.map fun joint => .object (jointEntriesOf joint)) from rfl]
  simp only [Except.ok.injEq, exists_eq_left', require_eq_ok_iff, hprovenance, and_self, true_and,
    exists_const, parseJoints_eq_ok_iff,
    requireInteger_eq_ok_iff huptime 0 0xFFFFFFFF (by decide) (by decide),
    requireInteger_eq_ok_iff hsupply 0 65535 (by decide) (by decide), hstate]
  constructor
  · rintro ⟨_, ⟨hjoints, rfl⟩, hids, _, ⟨huptime, rfl⟩, _, ⟨hsupply, rfl⟩, hview⟩
    exact ⟨⟨huptime, hsupply, hjoints, (nodup_viewIds_iff _).mp hids⟩, hview⟩
  · rintro ⟨hfits, hview⟩
    exact ⟨_, ⟨hfits.joints, rfl⟩, (nodup_viewIds_iff _).mpr hfits.ids, _, ⟨hfits.uptime, rfl⟩, _,
      ⟨hfits.supply, rfl⟩, hview⟩

end RoboticCharacter.Dashboard
