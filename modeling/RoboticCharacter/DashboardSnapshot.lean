import RoboticCharacter.SimulationRuntime
import RoboticCharacter.JsonValue

/-! The snapshot the backend serializes for the dashboard, the parser the dashboard reads it
with, and what the parser demands of a serialized snapshot. -/
namespace RoboticCharacter.Dashboard
open Safety Gateway PythonMath Machine Simulation Fallible JsonValue

def connectionStates : List String := ["disconnected", "connecting", "connected", "error"]

def systemStates : List String :=
  ["BOOT", "SELF_TEST", "CALIBRATING", "IDLE", "ARMED", "EXECUTING", "DEGRADED", "FAULT", "ESTOP",
    "SHUTDOWN"]

structure DashboardTelemetry where
  lastFrameSequence : Option ℚ
  heartbeatAgeMs : Option ℚ
  sentCount : Option ℚ
  acknowledgedCount : Option ℚ
  rejectedCount : Option ℚ

structure DashboardSnapshot where
  connection : String
  systemState : String
  estopLatched : Bool
  heartbeatHealthy : Bool
  gatewayError : Option String
  telemetry : DashboardTelemetry

section Parser
variable (entries : List (String × JsonValue)) (key : String)

def requireRecord (value : Option JsonValue) (message : String) :
    Except String (List (String × JsonValue)) :=
  match value with
  | some (.object entries) => .ok entries
  | _ => .error message

def requireBoolean : Except String Bool :=
  match property entries key with
  | some (.bool value) => .ok value
  | _ => .error s!"{key} must be boolean"

def requireEnum (allowed : List String) : Except String String :=
  match property entries key with
  | some (.string value) =>
    if value ∈ allowed then .ok value else .error s!"{key} has an unsupported value"
  | _ => .error s!"{key} has an unsupported value"

def nullableNonNegativeInteger (maximum : ℤ) : Except String (Option ℚ) :=
  match property entries key with
  | some .null => .ok none
  | some (.number value) =>
    if isSafeInteger value = false ∨ value < 0 ∨ (maximum : ℚ) < value then
      .error s!"{key} must be null or a non-negative safe integer"
    else .ok (some value)
  | _ => .error s!"{key} must be null or a non-negative safe integer"

def requireGatewayError : Except String (Option String) :=
  match property entries "gatewayError" with
  | some .null => .ok none
  | some (.string value) =>
    if isBlank value then .error "gatewayError must be null or a non-empty string"
    else .ok (some value)
  | _ => .error "gatewayError must be null or a non-empty string"

end Parser

/-- The parser once it has the two records. -/
def parseFields (entries telemetry : List (String × JsonValue)) :
    Except String DashboardSnapshot := do
  let connection ← requireEnum entries "connection" connectionStates
  let systemState ← requireEnum entries "systemState" systemStates
  let estopLatched ← requireBoolean entries "estopLatched"
  let heartbeatHealthy ← requireBoolean entries "heartbeatHealthy"
  require (¬ (connection ≠ "connected" ∧ heartbeatHealthy = true))
    "heartbeat cannot be healthy while runtime is not connected"
  require (¬ (systemState = "ESTOP" ∧ estopLatched = false))
    "ESTOP system state requires a latched E-stop"
  let gatewayError ← requireGatewayError entries
  let lastFrameSequence ← nullableNonNegativeInteger telemetry "lastFrameSequence" 0xFFFF
  let heartbeatAgeMs ← nullableNonNegativeInteger telemetry "heartbeatAgeMs" maxSafeInteger
  let sentCount ← nullableNonNegativeInteger telemetry "sentCount" maxSafeInteger
  let acknowledgedCount ← nullableNonNegativeInteger telemetry "acknowledgedCount" maxSafeInteger
  let rejectedCount ← nullableNonNegativeInteger telemetry "rejectedCount" maxSafeInteger
  return {
    connection
    systemState
    estopLatched
    heartbeatHealthy
    gatewayError
    telemetry := {
      lastFrameSequence
      heartbeatAgeMs
      sentCount
      acknowledgedCount
      rejectedCount } }

def parseDashboardSnapshot (value : JsonValue) : Except String DashboardSnapshot := do
  let entries ← requireRecord (some value) "Dashboard snapshot must be an object"
  let telemetry ← requireRecord (property entries "telemetry") "telemetry must be an object"
  parseFields entries telemetry

/-- `_serialize_dashboard_snapshot`: its `telemetry`. -/
def telemetryEntries (d : SimulationDiagnostics) : List (String × JsonValue) :=
  [("lastFrameSequence", match d.lastAcknowledgedSequence with
      | some sequence => .number sequence
      | none => .null),
    ("heartbeatAgeMs", if d.heartbeatHealthy then .number 0 else .null),
    ("sentCount", .number d.sentCount),
    ("acknowledgedCount", .number d.acknowledgedCount),
    ("rejectedCount", .number d.rejectedCount)]

def connectionName (d : SimulationDiagnostics) : String :=
  if d.connected then "connected" else "disconnected"

def snapshotEntries (d : SimulationDiagnostics) : List (String × JsonValue) :=
  [("connection", .string (connectionName d)),
    ("systemState", .string d.systemState.name),
    ("estopLatched", .bool d.estopLatched),
    ("heartbeatHealthy", .bool d.heartbeatHealthy),
    ("gatewayError", .null),
    ("telemetry", .object (telemetryEntries d))]

def serializeDashboardSnapshot (d : SimulationDiagnostics) : JsonValue :=
  .object (snapshotEntries d)

def Accepted (d : SimulationDiagnostics) : Prop :=
  ∃ snapshot, parseDashboardSnapshot (serializeDashboardSnapshot d) = .ok snapshot

theorem name_eq_estop_iff (state : WireSystemState) : state.name = "ESTOP" ↔ state = .estop := by
  cases state <;> decide

theorem name_mem_systemStates (state : WireSystemState) : state.name ∈ systemStates := by
  cases state <;> decide

/-- What the serialized snapshot has under each key. -/
theorem property_snapshot (d : SimulationDiagnostics) :
    property (snapshotEntries d) "telemetry" = some (.object (telemetryEntries d)) ∧
    property (snapshotEntries d) "connection" = some (.string (connectionName d)) ∧
    property (snapshotEntries d) "systemState" = some (.string d.systemState.name) ∧
    property (snapshotEntries d) "estopLatched" = some (.bool d.estopLatched) ∧
    property (snapshotEntries d) "heartbeatHealthy" = some (.bool d.heartbeatHealthy) ∧
    property (snapshotEntries d) "gatewayError" = some .null :=
  ⟨rfl, rfl, rfl, rfl, rfl, rfl⟩

theorem property_telemetry (d : SimulationDiagnostics) :
    property (telemetryEntries d) "lastFrameSequence" = some (match d.lastAcknowledgedSequence with
      | some sequence => .number sequence
      | none => .null) ∧
    property (telemetryEntries d) "heartbeatAgeMs" =
      some (if d.heartbeatHealthy then .number 0 else .null) ∧
    property (telemetryEntries d) "sentCount" = some (.number d.sentCount) ∧
    property (telemetryEntries d) "acknowledgedCount" = some (.number d.acknowledgedCount) ∧
    property (telemetryEntries d) "rejectedCount" = some (.number d.rejectedCount) :=
  ⟨rfl, rfl, rfl, rfl, rfl⟩

theorem requireEnum_eq_ok_iff (entries : List (String × JsonValue)) (key value : String)
    (allowed : List String) (h : property entries key = some (.string value)) (result : String) :
    requireEnum entries key allowed = .ok result ↔ value ∈ allowed ∧ result = value := by
  unfold requireEnum
  rw [h]
  dsimp only
  split_ifs with hmem
  · simp only [Except.ok.injEq, hmem, true_and, eq_comm]
  · simp only [hmem, false_and]

theorem requireBoolean_eq_ok_iff (entries : List (String × JsonValue)) (key : String)
    (value : Bool) (h : property entries key = some (.bool value)) (result : Bool) :
    requireBoolean entries key = .ok result ↔ result = value := by
  unfold requireBoolean
  rw [h]
  simp only [Except.ok.injEq, eq_comm]

/-- A count passes exactly up to the bound, and up to the integers a double holds. -/
theorem nullable_count_iff (entries : List (String × JsonValue)) (key : String) (n : ℕ)
    (maximum : ℤ) (h : property entries key = some (.number n)) (result : Option ℚ) :
    nullableNonNegativeInteger entries key maximum = .ok result ↔
      ((n : ℤ) ≤ maxSafeInteger ∧ (n : ℤ) ≤ maximum) ∧ result = some (n : ℚ) := by
  have hrefused : (isSafeInteger (n : ℚ) = false ∨ (n : ℚ) < 0 ∨ (maximum : ℚ) < (n : ℚ)) ↔
      ¬ ((n : ℤ) ≤ maxSafeInteger ∧ (n : ℤ) ≤ maximum) := by
    have hsign : ¬ (n : ℚ) < 0 := not_lt.mpr (Nat.cast_nonneg n)
    have hmaximum : (maximum : ℚ) < (n : ℚ) ↔ ¬ (n : ℤ) ≤ maximum := by
      rw [not_le]
      exact_mod_cast Iff.rfl
    rw [isSafeInteger_natCast, hmaximum, decide_eq_false_iff_not]
    simp only [hsign, false_or, not_and_or]
  unfold nullableNonNegativeInteger
  rw [h]
  dsimp only
  by_cases hbounds : (n : ℤ) ≤ maxSafeInteger ∧ (n : ℤ) ≤ maximum
  · rw [if_neg (fun hr => hrefused.mp hr hbounds)]
    simp only [Except.ok.injEq, hbounds, and_self, true_and, eq_comm]
  · rw [if_pos (hrefused.mpr hbounds)]
    simp only [reduceCtorEq, hbounds, false_and]

/-- What the parser demands of a serialized snapshot. -/
structure Acceptable (d : SimulationDiagnostics) : Prop where
  healthy_connected : d.heartbeatHealthy = true → d.connected = true
  estop_latched : d.systemState = .estop → d.estopLatched = true
  sequence_le : ∀ sequence, d.lastAcknowledgedSequence = some sequence → sequence ≤ 0xFFFF
  sent_le : (d.sentCount : ℤ) ≤ maxSafeInteger
  acknowledged_le : (d.acknowledgedCount : ℤ) ≤ maxSafeInteger
  rejected_le : (d.rejectedCount : ℤ) ≤ maxSafeInteger

theorem parse_serialize (d : SimulationDiagnostics) :
    parseDashboardSnapshot (serializeDashboardSnapshot d) =
      parseFields (snapshotEntries d) (telemetryEntries d) := rfl

/-- The nullable sequence number: only a number above the wire's range is refused. -/
theorem nullable_sequence_iff (d : SimulationDiagnostics) :
    (∃ result, nullableNonNegativeInteger (telemetryEntries d) "lastFrameSequence" 0xFFFF =
        .ok result) ↔
      ∀ sequence, d.lastAcknowledgedSequence = some sequence → sequence ≤ 0xFFFF := by
  have hproperty := (property_telemetry d).1
  cases hlast : d.lastAcknowledgedSequence with
  | none =>
    rw [hlast] at hproperty
    refine iff_of_true ⟨none, ?_⟩ (fun sequence h => ?_)
    · unfold nullableNonNegativeInteger
      rw [hproperty]
    · cases h
  | some last =>
    rw [hlast] at hproperty
    simp only [nullable_count_iff _ _ _ _ hproperty, Option.some.injEq, forall_eq']
    unfold maxSafeInteger
    constructor
    · rintro ⟨_, ⟨_, h⟩, _⟩
      omega
    · intro h
      exact ⟨_, ⟨by omega, by omega⟩, rfl⟩

theorem nullable_age_ok (d : SimulationDiagnostics) :
    ∃ result, nullableNonNegativeInteger (telemetryEntries d) "heartbeatAgeMs" maxSafeInteger =
      .ok result := by
  have hproperty := (property_telemetry d).2.1
  cases hhealthy : d.heartbeatHealthy with
  | false =>
    rw [hhealthy] at hproperty
    refine ⟨none, ?_⟩
    unfold nullableNonNegativeInteger
    rw [hproperty]
    rfl
  | true =>
    rw [hhealthy] at hproperty
    have hzero : property (telemetryEntries d) "heartbeatAgeMs" = some (.number ((0 : ℕ) : ℚ)) :=
      hproperty
    exact ⟨_, (nullable_count_iff _ _ _ _ hzero _).mpr ⟨by decide, rfl⟩⟩

theorem accepted_iff (d : SimulationDiagnostics) : Accepted d ↔ Acceptable d := by
  obtain ⟨_, hconnection, hstate, hlatched, hhealthy, herror⟩ := property_snapshot d
  obtain ⟨_, _, hsent, hacknowledged, hrejected⟩ := property_telemetry d
  obtain ⟨age, hage⟩ := nullable_age_ok d
  have hgateway : requireGatewayError (snapshotEntries d) = .ok none := by
    unfold requireGatewayError
    rw [herror]
  -- each reader of the parser is replaced by what it accepts of the serialized value
  unfold Accepted
  rw [parse_serialize]
  unfold parseFields
  simp only [bind_eq_ok_iff, pure_eq_ok_iff, require_eq_ok_iff,
    requireEnum_eq_ok_iff _ _ _ _ hconnection,
    requireEnum_eq_ok_iff _ _ _ _ hstate, requireBoolean_eq_ok_iff _ _ _ hlatched,
    requireBoolean_eq_ok_iff _ _ _ hhealthy, hgateway, hage, nullable_count_iff _ _ _ _ hsent,
    nullable_count_iff _ _ _ _ hacknowledged, nullable_count_iff _ _ _ _ hrejected]
  have hname : connectionName d ≠ "connected" ↔ d.connected = false := by
    unfold connectionName
    cases d.connected <;> decide
  have hmember : connectionName d ∈ connectionStates := by
    unfold connectionName
    cases d.connected <;> decide
  have hsequence := nullable_sequence_iff d
  constructor
  · rintro ⟨_, _, ⟨_, rfl⟩, _, ⟨_, rfl⟩, _, rfl, _, rfl, _, hconnected, _, hestop, _, _, sequence,
      hlast, _, _, _, ⟨⟨hsentle, _⟩, _⟩, _, ⟨⟨hackle, _⟩, _⟩, _, ⟨⟨hrejle, _⟩, _⟩, _⟩
    rw [hname] at hconnected
    rw [name_eq_estop_iff] at hestop
    refine ⟨?_, ?_, hsequence.mp ⟨sequence, hlast⟩, hsentle, hackle, hrejle⟩
    · intro h
      by_contra hopen
      exact hconnected ⟨Bool.eq_false_of_not_eq_true hopen, h⟩
    · intro h
      by_contra hunlatched
      exact hestop ⟨h, Bool.eq_false_of_not_eq_true hunlatched⟩
  · intro h
    obtain ⟨sequence, hlast⟩ := hsequence.mpr h.sequence_le
    refine ⟨_, _, ⟨hmember, rfl⟩, _, ⟨name_mem_systemStates _, rfl⟩, _, rfl, _, rfl, (), ?_, (), ?_,
      _, rfl, sequence, hlast, _, rfl, _, ⟨⟨h.sent_le, h.sent_le⟩, rfl⟩, _,
      ⟨⟨h.acknowledged_le, h.acknowledged_le⟩, rfl⟩, _, ⟨⟨h.rejected_le, h.rejected_le⟩, rfl⟩, rfl⟩
    · rw [hname]
      intro hboth
      exact absurd (h.healthy_connected hboth.2) (by rw [hboth.1]; exact Bool.false_ne_true)
    · rw [name_eq_estop_iff]
      intro hboth
      exact absurd (h.estop_latched hboth.1) (by rw [hboth.2]; exact Bool.false_ne_true)

end RoboticCharacter.Dashboard
