import RoboticCharacter.DashboardTelemetry
import RoboticCharacter.SampledFeed

/-! The live dashboard over the runtime: the web socket that samples the twin, the snapshots that
are fetched beside it, and the page that shows what it can read of both. In every interleaving the
page shows states that the runtime was in, and telemetry in the order in which it was sampled. -/
namespace RoboticCharacter.Dashboard
open Safety Gateway PythonMath Machine Simulation Fallible JsonValue SampledFeed

/-! ### What the page reads of a state -/

/-- The values of the diagnostics, under the dashboard's names. -/
def DashboardSnapshot.ofDiagnostics (d : SimulationDiagnostics) : DashboardSnapshot where
  connection := connectionName d
  systemState := d.systemState.name
  estopLatched := d.estopLatched
  heartbeatHealthy := d.heartbeatHealthy
  gatewayError := none
  telemetry := {
    lastFrameSequence := d.lastAcknowledgedSequence.map (fun sequence => (sequence : ℚ))
    heartbeatAgeMs := if d.heartbeatHealthy then some 0 else none
    sentCount := some (d.sentCount : ℚ)
    acknowledgedCount := some (d.acknowledgedCount : ℚ)
    rejectedCount := some (d.rejectedCount : ℚ) }

theorem nullable_sequence_eq {d : SimulationDiagnostics} {result : Option ℚ}
    (h : nullableNonNegativeInteger (telemetryEntries d) "lastFrameSequence" 0xFFFF =
      .ok result) : d.lastAcknowledgedSequence.map (fun sequence => (sequence : ℚ)) = result := by
  have hproperty := (property_telemetry d).1
  cases hlast : d.lastAcknowledgedSequence with
  | none =>
    rw [hlast] at hproperty
    unfold nullableNonNegativeInteger at h
    rw [hproperty] at h
    exact Except.ok.inj h
  | some last =>
    rw [hlast] at hproperty
    exact ((nullable_count_iff _ _ _ _ hproperty _).mp h).2.symm

theorem nullable_age_eq {d : SimulationDiagnostics} {result : Option ℚ}
    (h : nullableNonNegativeInteger (telemetryEntries d) "heartbeatAgeMs" maxSafeInteger =
      .ok result) : (if d.heartbeatHealthy then some 0 else none) = result := by
  have hproperty := (property_telemetry d).2.1
  cases hhealthy : d.heartbeatHealthy with
  | false =>
    rw [hhealthy] at hproperty
    unfold nullableNonNegativeInteger at h
    rw [hproperty] at h
    exact Except.ok.inj h
  | true =>
    rw [hhealthy] at hproperty
    have hzero : property (telemetryEntries d) "heartbeatAgeMs" = some (.number ((0 : ℕ) : ℚ)) :=
      hproperty
    exact ((nullable_count_iff _ _ _ _ hzero _).mp h).2.symm

/-- The parser gives back the values of the diagnostics that it accepts. -/
theorem parse_diagnostics_iff (d : SimulationDiagnostics) (snapshot : DashboardSnapshot) :
    parseDashboardSnapshot (serializeDashboardSnapshot d) = .ok snapshot ↔
      Acceptable d ∧ .ofDiagnostics d = snapshot := by
  have hvalues (parsed : DashboardSnapshot)
      (hparsed : parseDashboardSnapshot (serializeDashboardSnapshot d) = .ok parsed) :
      .ofDiagnostics d = parsed := by
    obtain ⟨_, hconnection, hstate, hlatched, hhealthy, herror⟩ := property_snapshot d
    obtain ⟨_, _, hsent, hacknowledged, hrejected⟩ := property_telemetry d
    have hgateway : requireGatewayError (snapshotEntries d) = .ok none := by
      unfold requireGatewayError
      rw [herror]
    rw [parse_serialize] at hparsed
    unfold parseFields at hparsed
    simp only [bind_eq_ok_iff, pure_eq_ok_iff, require_eq_ok_iff,
      requireEnum_eq_ok_iff _ _ _ _ hconnection, requireEnum_eq_ok_iff _ _ _ _ hstate,
      requireBoolean_eq_ok_iff _ _ _ hlatched, requireBoolean_eq_ok_iff _ _ _ hhealthy, hgateway,
      nullable_count_iff _ _ _ _ hsent, nullable_count_iff _ _ _ _ hacknowledged,
      nullable_count_iff _ _ _ _ hrejected] at hparsed
    obtain ⟨_, ⟨-, rfl⟩, _, ⟨-, rfl⟩, _, rfl, _, rfl, _, -, _, -, error, herror, sequence,
      hsequence, age, hage, _, ⟨-, rfl⟩, _, ⟨-, rfl⟩, _, ⟨-, rfl⟩, hview⟩ := hparsed
    rw [← hview, ← nullable_sequence_eq hsequence, ← nullable_age_eq hage, ← Except.ok.inj herror]
    rfl
  constructor
  · intro hparsed
    exact ⟨(accepted_iff d).mp ⟨snapshot, hparsed⟩, hvalues snapshot hparsed⟩
  · rintro ⟨hacceptable, rfl⟩
    obtain ⟨parsed, hparsed⟩ := (accepted_iff d).mpr hacceptable
    rw [hparsed, hvalues parsed hparsed]

/-- The message handler of `createTelemetrySocket`, once it has the frame parsed. -/
def readFrame (frame : JsonValue) : Except String (DashboardSnapshot × RobotTelemetryView) := do
  let entries ← requireRecord (some frame) "Telemetry WebSocket payload must be an object"
  let snapshot ← parseDashboardSnapshot ((property entries "dashboard").getD .null)
  let telemetry ← parseRobotTelemetry ((property entries "robotTelemetry").getD .null)
  return (snapshot, telemetry)

/-- What `readFrame` gives, if it gives anything. -/
def shownOf (frame : JsonValue) : Option (DashboardSnapshot × RobotTelemetryView) :=
  (readFrame frame).toOption

theorem shownOf_eq_some_iff (frame : JsonValue) (shown : DashboardSnapshot × RobotTelemetryView) :
    shownOf frame = some shown ↔ readFrame frame = .ok shown := by
  unfold shownOf
  cases readFrame frame with
  | error message => simp [Except.toOption]
  | ok read => simp [Except.toOption]

section Frame
variable {K : Type} [Field K] [LinearOrder K] [FloorRing K]

/-- What `telemetry_websocket` sends of a state: both parts are read without a pause between. -/
def telemetryFrame (r : SimulationRuntime K) : JsonValue :=
  .object [("dashboard", serializeDashboardSnapshot r.readOf),
    ("robotTelemetry", serializeRobotTelemetry (r.twin.telemetry 0))]

/-- Every joint's position and velocity, in hundredths of a degree, is a signed 16-bit number. -/
structure PosesFit (twin : DigitalTwinRobot K) : Prop where
  positions (name : JointName) : -32768 ≤ roundHalfEven (twin.positions name*100) ∧
    roundHalfEven (twin.positions name*100) ≤ 32767
  velocities (name : JointName) : -32768 ≤ roundHalfEven (twin.velocities name*100) ∧
    roundHalfEven (twin.velocities name*100) ≤ 32767

/-- What keeps the page from showing a state: a stop that is not latched yet, a joint out of the
16-bit range, or more requests than a double can count. -/
structure Showable (r : SimulationRuntime K) : Prop where
  latched : r.twin.state = .estop → r.Latched
  counted : (r.gateway.sentCount : ℤ) ≤ maxSafeInteger
  poses : PosesFit r.twin

/-- The clock and the currents of a twin always fit, and its joints have ids of their own. -/
theorem displayable_telemetry_iff {twin : DigitalTwinRobot K} (h : MeterRange twin) (flags : ℤ) :
    Displayable (twin.telemetry flags) ↔ PosesFit twin := by
  have hids : ((twin.telemetry flags).joints.map RobotJointTelemetry.jointId).Nodup := by
    unfold DigitalTwinRobot.telemetry
    rw [List.map_map]
    apply twin.model.profile.order_nodup.map
    intro a b hid
    change ((twin.model.joint a).protocolId : ℤ) = (twin.model.joint b).protocolId at hid
    exact twin.model.profile.ids_unique a b (Int.ofNat_inj.mp hid)
  constructor
  · intro hd
    have hjoint (name : JointName) := hd.joints _
      (List.mem_map_of_mem (twin.model.profile.order_complete name))
    exact ⟨fun name => (hjoint name).position, fun name => (hjoint name).velocity⟩
  · intro hposes
    refine ⟨⟨h.uptime_nonneg, h.uptime_le⟩, ?_, ?_, hids⟩
    · exact ⟨le_trans (by norm_num) twin.supply_ge, twin.supply_le⟩
    · intro joint hjoint
      obtain ⟨name, -, rfl⟩ := List.mem_map.mp hjoint
      have hid := (twin.model.joint name).protocolId_ge
      have hid' := (twin.model.joint name).protocolId_le
      have hcurrent := h.currents name
      exact ⟨by dsimp only; omega, hposes.positions name, hposes.velocities name, hcurrent⟩

theorem readFrame_iff {r : SimulationRuntime K} (hcounted : r.Counted) (hmeters : MeterRange r.twin)
    (shown : DashboardSnapshot × RobotTelemetryView) :
    readFrame (telemetryFrame r) = .ok shown ↔
      Showable r ∧ shown = (.ofDiagnostics r.readOf, .ofReport (r.twin.telemetry 0)) := by
  have hparts : readFrame (telemetryFrame r) = (do
      let snapshot ← parseDashboardSnapshot (serializeDashboardSnapshot r.readOf)
      let telemetry ← parseRobotTelemetry (serializeRobotTelemetry (r.twin.telemetry 0))
      return (snapshot, telemetry)) := rfl
  have hsnapshot := r.accepted_read_iff hcounted
  rw [accepted_iff] at hsnapshot
  rw [hparts]
  simp only [bind_eq_ok_iff, pure_eq_ok_iff, parse_diagnostics_iff, parse_report_iff, hsnapshot,
    displayable_telemetry_iff hmeters]
  constructor
  · rintro ⟨_, ⟨⟨hlatched, hsent⟩, rfl⟩, _, ⟨hposes, rfl⟩, rfl⟩
    refine ⟨⟨?_, hsent, hposes⟩, rfl⟩
    intro hstopped
    by_contra hopen
    exact hlatched ⟨hstopped, hopen⟩
  · rintro ⟨hshowable, rfl⟩
    have hlatched : ¬ (r.twin.state = .estop ∧ ¬ r.Latched) :=
      fun hstopped => hstopped.2 (hshowable.latched hstopped.1)
    exact ⟨_, ⟨⟨hlatched, hshowable.counted⟩, rfl⟩, _, ⟨hshowable.poses, rfl⟩, rfl⟩

end Frame

/-! ### The page and the server -/

def emptyDashboardSnapshot : DashboardSnapshot where
  connection := "disconnected"
  systemState := "BOOT"
  estopLatched := false
  heartbeatHealthy := false
  gatewayError := none
  telemetry := ⟨none, none, none, none, none⟩

def connectionError (message : String) : DashboardSnapshot :=
  { emptyDashboardSnapshot with connection := "error", gatewayError := some message }

/-- The part of the state of `LiveDashboard` that the snapshots and the telemetry go to. -/
structure LivePage where
  snapshot : DashboardSnapshot
  robotTelemetry : Option RobotTelemetryView

namespace LivePage

def initial : LivePage :=
  ⟨{ emptyDashboardSnapshot with connection := "connecting" }, none⟩

/-- `setSnapshot` at the start of `connect`. -/
def connecting (page : LivePage) : LivePage :=
  { page with snapshot := { page.snapshot with connection := "connecting", gatewayError := none } }

def fail (page : LivePage) (message : String) : LivePage :=
  { page with snapshot := connectionError message }

/-- What the page makes of a fetched snapshot. -/
def fetched (page : LivePage) (payload : JsonValue) : LivePage :=
  match parseDashboardSnapshot payload with
  | .ok snapshot => { page with snapshot := snapshot }
  | .error message => page.fail message

end LivePage

/-- `socket` holds the frames on their way to the page, once there is a socket, and `fetches` the
fetches under way, with the snapshot of one that the server has answered. -/
structure LiveSystem (K : Type) [Field K] [LinearOrder K] where
  runtime : SimulationRuntime K
  socket : Option (List JsonValue)
  fetches : List (Option JsonValue)
  page : LivePage

inductive LiveInput
  | runtime (input : RuntimeInput)
  /-- The page is mounted, or the user reconnects. -/
  | connect
  /-- A turn of the server's loop. -/
  | push
  /-- The page gets the next frame. -/
  | message
  /-- A socket reports an error; it can be one that was given up. -/
  | socketFails
  | socketCloses
  /-- The server answers a fetch. -/
  | readSnapshot (index : ℕ)
  | fetchResolves (index : ℕ)
  | fetchFails (index : ℕ) (message : String)

namespace LiveSystem
variable {K : Type} [Field K] [LinearOrder K]

def mounted (r : SimulationRuntime K) : LiveSystem K where
  runtime := r
  socket := none
  fetches := []
  page := .initial

/-- The frames on their way. -/
def frames (s : LiveSystem K) : List JsonValue := s.socket.getD []

variable [FloorRing K]

/-- The page gets the next frame of its socket, and shows what it can read. -/
def message (s : LiveSystem K) : LiveSystem K × Option (DashboardSnapshot × RobotTelemetryView) :=
  match s.socket with
  | some (frame :: rest) =>
    match readFrame frame with
    | .ok (snapshot, telemetry) =>
      ({ s with socket := some rest, page := ⟨snapshot, some telemetry⟩ },
        some (snapshot, telemetry))
    -- the telemetry that is shown stays as it is
    | .error message => ({ s with socket := some rest, page := s.page.fail message }, none)
  | _ => (s, none)

variable [SquareRoot K] [ToString K]

/-- One step, and what the page shows anew of a frame. A frame and a fetched snapshot are the JSON
values that the page parses. -/
def step (env : Surroundings K) (s : LiveSystem K) :
    LiveInput → LiveSystem K × Option (DashboardSnapshot × RobotTelemetryView)
  | .runtime input => ({ s with runtime := (s.runtime.step env input).1 }, none)
  | .connect =>
    -- frames of the old socket are lost, its fetches are not
    ({ s with
      socket := some []
      fetches := s.fetches ++ [none]
      page := s.page.connecting }, none)
  | .push =>
    match s.socket with
    | none => (s, none)
    | some frames =>
      ({ s with
        runtime := (s.runtime.step env .readDiagnostics).1
        socket := some (frames ++ [telemetryFrame s.runtime]) }, none)
  | .message => s.message
  | .socketFails => ({ s with page := s.page.fail "Telemetry WebSocket connection failed" }, none)
  | .socketCloses => ({ s with socket := none }, none)
  | .readSnapshot index =>
    match s.fetches[index]? with
    -- the snapshot is taken now; the page gets it when the fetch resolves
    | some none =>
      ({ s with
        runtime := (s.runtime.step env .readDiagnostics).1
        fetches := s.fetches.set index (some (serializeDashboardSnapshot s.runtime.readOf)) }, none)
    | _ => (s, none)
  | .fetchResolves index =>
    match s.fetches[index]? with
    | some (some payload) =>
      ({ s with fetches := s.fetches.eraseIdx index, page := s.page.fetched payload }, none)
    | _ => (s, none)
  | .fetchFails index message =>
    if index < s.fetches.length then
      ({ s with fetches := s.fetches.eraseIdx index, page := s.page.fail message }, none)
    else (s, none)

end LiveSystem

/-! ### What a step can do -/
section Moves
variable {K : Type} [Field K] [LinearOrder K] [FloorRing K] [SquareRoot K] [ToString K]

/-- What an input can make of the system, and what the page shows anew. -/
inductive Moves (env : Surroundings K) (s : LiveSystem K) : LiveInput →
    LiveSystem K × Option (DashboardSnapshot × RobotTelemetryView) → Prop
  | idle (input : LiveInput) (hpush : input = .push → s.socket = none) :
      Moves env s input (s, none)
  | runs (input : RuntimeInput) :
      Moves env s (.runtime input) ({ s with runtime := (s.runtime.step env input).1 }, none)
  | connects : Moves env s .connect
      ({ s with socket := some [], fetches := s.fetches ++ [none], page := s.page.connecting },
        none)
  | pushes (frames : List JsonValue) (hsocket : s.socket = some frames) :
      Moves env s .push
        ({ s with
          runtime := (s.runtime.step env .readDiagnostics).1
          socket := some (frames ++ [telemetryFrame s.runtime]) }, none)
  | shows (frame : JsonValue) (rest : List JsonValue)
      (shown : DashboardSnapshot × RobotTelemetryView) (hsocket : s.socket = some (frame :: rest))
      (hread : readFrame frame = .ok shown) :
      Moves env s .message
        ({ s with socket := some rest, page := ⟨shown.1, some shown.2⟩ }, some shown)
  | refuses (frame : JsonValue) (rest : List JsonValue) (message : String)
      (hsocket : s.socket = some (frame :: rest)) (hread : readFrame frame = .error message) :
      Moves env s .message ({ s with socket := some rest, page := s.page.fail message }, none)
  | fails (message : String) :
      Moves env s .socketFails ({ s with page := s.page.fail message }, none)
  | closes : Moves env s .socketCloses ({ s with socket := none }, none)
  | answers (index : ℕ) :
      Moves env s (.readSnapshot index)
        ({ s with
          runtime := (s.runtime.step env .readDiagnostics).1
          fetches := s.fetches.set index (some (serializeDashboardSnapshot s.runtime.readOf)) },
          none)
  | resolves (index : ℕ) (payload : JsonValue) (hpayload : some payload ∈ s.fetches) :
      Moves env s (.fetchResolves index)
        ({ s with fetches := s.fetches.eraseIdx index, page := s.page.fetched payload }, none)
  | gives (index : ℕ) (message : String) :
      Moves env s (.fetchFails index message)
        ({ s with fetches := s.fetches.eraseIdx index, page := s.page.fail message }, none)

theorem moves_step (env : Surroundings K) (s : LiveSystem K) (input : LiveInput) :
    Moves env s input (s.step env input) := by
  cases input with
  | runtime input => exact .runs input
  | connect => exact .connects
  | push =>
    unfold LiveSystem.step
    dsimp only
    split
    · rename_i hsocket
      exact .idle _ fun _ => hsocket
    · rename_i frames hsocket
      exact .pushes frames hsocket
  | message =>
    unfold LiveSystem.step LiveSystem.message
    dsimp only
    split
    · rename_i frame rest hsocket
      split
      · rename_i snapshot telemetry hread
        exact .shows frame rest (snapshot, telemetry) hsocket hread
      · rename_i message hread
        exact .refuses frame rest message hsocket hread
    · exact .idle _ fun h => nomatch h
  | socketFails => exact .fails _
  | socketCloses => exact .closes
  | readSnapshot index =>
    unfold LiveSystem.step
    dsimp only
    split
    · exact .answers index
    · exact .idle _ fun h => nomatch h
  | fetchResolves index =>
    unfold LiveSystem.step
    dsimp only
    split
    · rename_i payload hpayload
      exact .resolves index payload (List.mem_of_getElem? hpayload)
    · exact .idle _ fun h => nomatch h
  | fetchFails index message =>
    unfold LiveSystem.step
    dsimp only
    split_ifs
    · exact .gives index message
    · exact .idle _ fun h => nomatch h

end Moves

/-! ### What holds of the page -/

abbrev LiveEvent (K : Type) [Field K] [LinearOrder K] :=
  Event (LiveSystem K) LiveInput (Option (DashboardSnapshot × RobotTelemetryView))

section Page
variable {K : Type} [Field K] [LinearOrder K] {past : List (LiveEvent K)}

/-- The snapshot of a state of the record, which is not an open stop. -/
def SnapshotOf (past : List (LiveEvent K)) (snapshot : DashboardSnapshot) : Prop :=
  ∃ e ∈ past, snapshot = .ofDiagnostics e.before.runtime.readOf ∧
    (e.before.runtime.twin.state = .estop → e.before.runtime.Latched)

/-- What the page shows as connected is of the record, and it shows no stop as open. -/
structure PageInv (past : List (LiveEvent K)) (page : LivePage) : Prop where
  connected : page.snapshot.connection = "connected" → SnapshotOf past page.snapshot
  estop_latched : page.snapshot.systemState = "ESTOP" → page.snapshot.estopLatched = true

theorem SnapshotOf.append {snapshot : DashboardSnapshot} (h : SnapshotOf past snapshot)
    (e : LiveEvent K) : SnapshotOf (past ++ [e]) snapshot := by
  obtain ⟨earlier, hearlier, hsnapshot⟩ := h
  exact ⟨earlier, List.mem_append_left _ hearlier, hsnapshot⟩

theorem PageInv.append {page : LivePage} (h : PageInv past page) (e : LiveEvent K) :
    PageInv (past ++ [e]) page :=
  ⟨fun hconnected => (h.connected hconnected).append e, h.estop_latched⟩

theorem pageInv_fail (past : List (LiveEvent K)) (page : LivePage) (message : String) :
    PageInv past (page.fail message) := by
  refine ⟨fun hconnected => ?_, fun hstopped => ?_⟩
  · exact absurd hconnected (by decide : "error" ≠ "connected")
  · exact absurd hstopped (by decide : "BOOT" ≠ "ESTOP")

theorem PageInv.connecting {page : LivePage} (h : PageInv past page) :
    PageInv past page.connecting :=
  ⟨fun hconnected => absurd hconnected (by decide : "connecting" ≠ "connected"), h.estop_latched⟩

/-- A state of the record that the parser accepts is shown as it was. -/
theorem pageInv_snapshot {e : LiveEvent K} (he : e ∈ past)
    (hlatched : e.before.runtime.twin.state = .estop → e.before.runtime.Latched)
    (telemetry : Option RobotTelemetryView) :
    PageInv past ⟨.ofDiagnostics e.before.runtime.readOf, telemetry⟩ := by
  refine ⟨fun _ => ⟨e, he, rfl, hlatched⟩, fun hstopped => ?_⟩
  exact hlatched ((name_eq_estop_iff _).mp hstopped)

theorem pageInv_fetched {e : LiveEvent K} (he : e ∈ past) (page : LivePage) :
    PageInv past (page.fetched (serializeDashboardSnapshot e.before.runtime.readOf)) := by
  unfold LivePage.fetched
  split
  · rename_i snapshot hparsed
    obtain ⟨hacceptable, rfl⟩ := (parse_diagnostics_iff _ _).mp hparsed
    exact pageInv_snapshot he hacceptable.estop_latched page.robotTelemetry
  · exact pageInv_fail past page _

theorem telemetry_fetched (page : LivePage) (payload : JsonValue) :
    (page.fetched payload).robotTelemetry = page.robotTelemetry := by
  unfold LivePage.fetched
  split <;> rfl

end Page

section History
variable {K : Type} [Field K] [LinearOrder K] [FloorRing K]

/-- What the page can read of the frame that the server pushes at this event. -/
def pushedAt (e : LiveEvent K) : Option (DashboardSnapshot × RobotTelemetryView) :=
  match e.input with
  | .push => shownOf (telemetryFrame e.before.runtime)
  | _ => none

/-- What the runtime keeps whatever it is asked for. -/
structure Sound (r : SimulationRuntime K) : Prop where
  counted : r.Counted
  meters : MeterRange r.twin

/-- Whatever is on its way is of a state of the record. -/
structure LiveInv (past : List (LiveEvent K)) (s : LiveSystem K) : Prop
    extends PageInv past s.page where
  sound : Sound s.runtime
  past_sound : ∀ e ∈ past, Sound e.before.runtime
  frames_sent : ∀ frame ∈ s.frames, ∃ e ∈ past, frame = telemetryFrame e.before.runtime
  frames_inOrder : InOrder shownOf (past.filterMap pushedAt) (past.filterMap Event.output) s.frames
  fetches_read : ∀ payload, some payload ∈ s.fetches →
    ∃ e ∈ past, payload = serializeDashboardSnapshot e.before.runtime.readOf
  telemetry_latest : s.page.robotTelemetry = (past.filterMap Event.output).getLast?.map Prod.snd

variable {past : List (LiveEvent K)} {s : LiveSystem K} {e : LiveEvent K}

theorem LiveInv.past_sound_append (h : LiveInv past s) (hbefore : e.before = s) :
    ∀ earlier ∈ past ++ [e], Sound earlier.before.runtime := by
  intro earlier hearlier
  obtain hpast | hlast := List.mem_append.mp hearlier
  · exact h.past_sound earlier hpast
  · rw [List.mem_singleton.mp hlast, hbefore]
    exact h.sound

/-- A step that shows no frame keeps the telemetry, and may lose frames and answer a fetch. -/
theorem LiveInv.quiet (h : LiveInv past s) (hbefore : e.before = s) (hquiet : e.output = none)
    {next : LiveSystem K} (hsound : Sound next.runtime) (hframes : next.frames.Sublist s.frames)
    (hfetches : ∀ payload, some payload ∈ next.fetches →
      some payload ∈ s.fetches ∨ payload = serializeDashboardSnapshot s.runtime.readOf)
    (hpage : PageInv (past ++ [e]) next.page)
    (htelemetry : next.page.robotTelemetry = s.page.robotTelemetry) :
    LiveInv (past ++ [e]) next where
  toPageInv := hpage
  sound := hsound
  past_sound := h.past_sound_append hbefore
  frames_sent := by
    intro frame hframe
    obtain ⟨earlier, hearlier, hsent⟩ := h.frames_sent frame (hframes.subset hframe)
    exact ⟨earlier, List.mem_append_left _ hearlier, hsent⟩
  frames_inOrder := by
    rw [filterMap_snoc, filterMap_snoc, hquiet, Option.toList_none, List.append_nil]
    exact (h.frames_inOrder.later _).lose hframes
  fetches_read := by
    intro payload hpayload
    obtain hearlier | hnow := hfetches payload hpayload
    · obtain ⟨earlier, hearlier, hread⟩ := h.fetches_read payload hearlier
      exact ⟨earlier, List.mem_append_left _ hearlier, hread⟩
    · refine ⟨e, List.mem_append_right _ (List.mem_singleton_self e), ?_⟩
      rw [hnow, hbefore]
  telemetry_latest := by
    rw [filterMap_snoc, hquiet, Option.toList_none, List.append_nil, htelemetry]
    exact h.telemetry_latest

theorem LiveInv.shows (h : LiveInv past s) {frame : JsonValue} {rest : List JsonValue}
    {shown : DashboardSnapshot × RobotTelemetryView} (hsocket : s.socket = some (frame :: rest))
    (hread : readFrame frame = .ok shown) (hbefore : e.before = s)
    (houtput : e.output = some shown) :
    LiveInv (past ++ [e]) { s with socket := some rest, page := ⟨shown.1, some shown.2⟩ } := by
  have hframes : s.frames = frame :: rest := by
    unfold LiveSystem.frames
    rw [hsocket]
    rfl
  obtain ⟨sent, hsent, hframe⟩ := h.frames_sent frame (by rw [hframes]; exact List.mem_cons_self)
  -- the frame is of a state of the record, and the page could read it
  have hstate := h.past_sound sent hsent
  obtain ⟨hshowable, hshown⟩ :=
    (readFrame_iff hstate.counted hstate.meters shown).mp (by rw [← hframe]; exact hread)
  refine {
    toPageInv := ?_
    sound := h.sound
    past_sound := h.past_sound_append hbefore
    frames_sent := ?_
    frames_inOrder := ?_
    fetches_read := ?_
    telemetry_latest := ?_ }
  · rw [hshown]
    exact pageInv_snapshot (List.mem_append_left _ hsent) hshowable.latched _
  · intro later hlater
    obtain ⟨earlier, hearlier, hsent⟩ :=
      h.frames_sent later (by rw [hframes]; exact List.mem_cons_of_mem _ hlater)
    exact ⟨earlier, List.mem_append_left _ hearlier, hsent⟩
  · have horder := h.frames_inOrder
    rw [hframes] at horder
    have hnext := (horder.later (pushedAt e).toList).take
    rw [(shownOf_eq_some_iff frame shown).mpr hread] at hnext
    rw [filterMap_snoc, filterMap_snoc, houtput]
    exact hnext
  · intro payload hpayload
    obtain ⟨earlier, hearlier, hread⟩ := h.fetches_read payload hpayload
    exact ⟨earlier, List.mem_append_left _ hearlier, hread⟩
  · rw [filterMap_snoc, houtput, Option.toList_some, List.getLast?_concat]
    rfl

variable [SquareRoot K] [ToString K] [IsStrictOrderedRing K] (env : Surroundings K)

theorem Sound.step {r : SimulationRuntime K} (h : Sound r) (input : RuntimeInput) :
    Sound (r.step env input).1 :=
  ⟨r.counted_step env input h.counted, step_preserves env r meterRange_call h.meters input⟩

theorem LiveInv.pushes (h : LiveInv past s) {frames : List JsonValue}
    (hsocket : s.socket = some frames) (hbefore : e.before = s) (hinput : e.input = .push)
    (hquiet : e.output = none) :
    LiveInv (past ++ [e]) { s with
      runtime := (s.runtime.step env .readDiagnostics).1
      socket := some (frames ++ [telemetryFrame s.runtime]) } where
  toPageInv := h.toPageInv.append e
  sound := h.sound.step env _
  past_sound := h.past_sound_append hbefore
  frames_sent := by
    intro frame hframe
    obtain hwaiting | hpushed := List.mem_append.mp hframe
    · have hold : frame ∈ s.frames := by
        unfold LiveSystem.frames
        rwa [hsocket]
      obtain ⟨earlier, hearlier, hsent⟩ := h.frames_sent frame hold
      exact ⟨earlier, List.mem_append_left _ hearlier, hsent⟩
    · refine ⟨e, List.mem_append_right _ (List.mem_singleton_self e), ?_⟩
      rw [List.mem_singleton.mp hpushed, hbefore]
  frames_inOrder := by
    have hpushed : pushedAt e = shownOf (telemetryFrame s.runtime) := by
      unfold pushedAt
      rw [hinput, hbefore]
    have hold : s.frames = frames := by
      unfold LiveSystem.frames
      rw [hsocket]
      rfl
    rw [filterMap_snoc, filterMap_snoc, hpushed, hquiet, Option.toList_none, List.append_nil]
    rw [← hold]
    exact h.frames_inOrder.push _
  fetches_read := by
    intro payload hpayload
    obtain ⟨earlier, hearlier, hread⟩ := h.fetches_read payload hpayload
    exact ⟨earlier, List.mem_append_left _ hearlier, hread⟩
  telemetry_latest := by
    rw [filterMap_snoc, hquiet, Option.toList_none, List.append_nil]
    exact h.telemetry_latest

theorem LiveInv.step (h : LiveInv past s) (input : LiveInput) :
    LiveInv (past ++ [⟨s, input, (s.step env input).2, (s.step env input).1⟩])
      (s.step env input).1 := by
  have hmoves := moves_step env s input
  generalize s.step env input = stepped at hmoves ⊢
  have hread := h.sound.step env .readDiagnostics
  have hframes : s.frames.Sublist s.frames := List.Sublist.refl _
  have hfetches (payload : JsonValue) (hpayload : some payload ∈ s.fetches) :
      some payload ∈ s.fetches ∨ payload = serializeDashboardSnapshot s.runtime.readOf :=
    .inl hpayload
  have herased (index : ℕ) (payload : JsonValue)
      (hpayload : some payload ∈ s.fetches.eraseIdx index) :
      some payload ∈ s.fetches ∨ payload = serializeDashboardSnapshot s.runtime.readOf :=
    .inl (List.mem_of_mem_eraseIdx hpayload)
  cases hmoves with
  | idle => exact h.quiet rfl rfl h.sound hframes hfetches (h.toPageInv.append _) rfl
  | runs input =>
    exact h.quiet rfl rfl (h.sound.step env input) hframes hfetches (h.toPageInv.append _) rfl
  | connects =>
    refine h.quiet rfl rfl h.sound (List.nil_sublist _) ?_ (h.toPageInv.append _).connecting rfl
    intro payload hpayload
    obtain hold | hnew := List.mem_append.mp hpayload
    · exact .inl hold
    · exact nomatch List.mem_singleton.mp hnew
  | pushes frames hsocket => exact h.pushes env hsocket rfl rfl rfl
  | shows frame rest shown hsocket hshown => exact h.shows hsocket hshown rfl rfl
  | refuses frame rest message hsocket =>
    refine h.quiet rfl rfl h.sound ?_ hfetches (pageInv_fail _ _ message) rfl
    unfold LiveSystem.frames
    rw [hsocket]
    exact List.sublist_cons_self frame rest
  | fails message => exact h.quiet rfl rfl h.sound hframes hfetches (pageInv_fail _ _ message) rfl
  | closes =>
    exact h.quiet rfl rfl h.sound (List.nil_sublist _) hfetches (h.toPageInv.append _) rfl
  | answers index =>
    refine h.quiet rfl rfl hread hframes ?_ (h.toPageInv.append _) rfl
    intro payload hpayload
    obtain hold | hnew := List.mem_or_eq_of_mem_set hpayload
    · exact .inl hold
    · exact .inr (Option.some.inj hnew)
  | resolves index payload hpayload =>
    obtain ⟨earlier, hearlier, rfl⟩ := h.fetches_read payload hpayload
    refine h.quiet rfl rfl h.sound hframes (herased index) ?_ (telemetry_fetched _ _)
    exact pageInv_fetched (List.mem_append_left _ hearlier) s.page
  | gives index message =>
    exact h.quiet rfl rfl h.sound hframes (herased index) (pageInv_fail _ _ message) rfl

omit [SquareRoot K] [ToString K] [IsStrictOrderedRing K] in
theorem liveInv_mounted {r : SimulationRuntime K} (h : Sound r) :
    LiveInv [] (LiveSystem.mounted r) where
  connected := fun hconnected => absurd hconnected (by decide : "connecting" ≠ "connected")
  estop_latched := fun hstopped => absurd hstopped (by decide : "BOOT" ≠ "ESTOP")
  sound := h
  past_sound := fun e he => absurd he List.not_mem_nil
  frames_sent := fun frame hframe => absurd hframe List.not_mem_nil
  frames_inOrder := inOrder_nil shownOf []
  fetches_read := fun payload hpayload => absurd hpayload List.not_mem_nil
  telemetry_latest := rfl

theorem liveInv_run {r : SimulationRuntime K} (h : Sound r) (inputs : List LiveInput) :
    LiveInv (trace (LiveSystem.step env) (.mounted r) inputs)
      (run (LiveSystem.step env) (.mounted r) inputs) :=
  history_invariant (LiveSystem.step env) _ (liveInv_mounted h)
    (fun _ _ input hinv => hinv.step env input) inputs

end History

/-! ### One unbroken socket -/
section Unbroken
variable {K : Type} [Field K] [LinearOrder K] [FloorRing K] [SquareRoot K] [ToString K]
  (env : Surroundings K)

/-- The input leaves the socket as it is. -/
def KeepsSocket (input : LiveInput) : Prop :=
  match input with
  | .connect | .socketCloses => False
  | _ => True

theorem step_unbroken {s : LiveSystem K} {frames : List JsonValue}
    (hsocket : s.socket = some frames) (input : LiveInput) (hkeeps : KeepsSocket input) :
    ∃ left, (s.step env input).1.socket = some left ∧
      frames.filterMap shownOf ++
          (pushedAt ⟨s, input, (s.step env input).2, (s.step env input).1⟩).toList =
        (s.step env input).2.toList ++ left.filterMap shownOf := by
  have hmoves := moves_step env s input
  generalize s.step env input = stepped at hmoves ⊢
  -- what is not pushed leaves the frames as they are
  have hsame (hother : input ≠ .push) (next : LiveSystem K) :
      frames.filterMap shownOf ++ (pushedAt ⟨s, input, none, next⟩).toList =
        (none : Option (DashboardSnapshot × RobotTelemetryView)).toList ++
          frames.filterMap shownOf := by
    have hnone : pushedAt ⟨s, input, none, next⟩ = none := by
      unfold pushedAt
      split
      · contradiction
      · rfl
    rw [hnone, Option.toList_none, List.append_nil, List.nil_append]
  cases hmoves with
  | idle _ hpush =>
    refine ⟨frames, hsocket, hsame ?_ _⟩
    intro heq
    rw [hpush heq] at hsocket
    exact nomatch hsocket
  | runs | fails | answers | resolves | gives => exact ⟨frames, hsocket, hsame nofun _⟩
  | connects | closes => exact absurd hkeeps id
  | pushes sent hsent =>
    obtain rfl := Option.some.inj (hsent.symm.trans hsocket)
    refine ⟨_, rfl, ?_⟩
    rw [filterMap_snoc]
    rfl
  | shows frame rest shown hsent hread =>
    obtain rfl := Option.some.inj (hsent.symm.trans hsocket)
    have hshown : shownOf frame = some shown := (shownOf_eq_some_iff frame shown).mpr hread
    refine ⟨rest, rfl, ?_⟩
    rw [List.filterMap_cons, hshown]
    exact List.append_nil _
  | refuses frame rest message hsent hread =>
    obtain rfl := Option.some.inj (hsent.symm.trans hsocket)
    have hshown : shownOf frame = none := by
      unfold shownOf
      rw [hread]
      rfl
    refine ⟨rest, rfl, ?_⟩
    rw [List.filterMap_cons, hshown]
    exact List.append_nil _

/-- On one socket the page shows what is pushed, in order and without a gap. -/
theorem run_unbroken {s : LiveSystem K} {frames : List JsonValue}
    (hsocket : s.socket = some frames) (inputs : List LiveInput)
    (hkeeps : ∀ input ∈ inputs, KeepsSocket input) :
    ∃ left, (run (LiveSystem.step env) s inputs).socket = some left ∧
      frames.filterMap shownOf ++ (trace (LiveSystem.step env) s inputs).filterMap pushedAt =
        (trace (LiveSystem.step env) s inputs).filterMap Event.output ++
          left.filterMap shownOf := by
  induction inputs using List.reverseRecOn with
  | nil => exact ⟨frames, hsocket, List.append_nil _⟩
  | append_singleton inputs input ih =>
    obtain ⟨middle, hmiddle, hearlier⟩ :=
      ih fun earlier hearlier => hkeeps earlier (List.mem_append_left _ hearlier)
    obtain ⟨left, hleft, hlast⟩ := step_unbroken env hmiddle input
      (hkeeps input (List.mem_append_right _ (List.mem_singleton_self input)))
    refine ⟨left, ?_, ?_⟩
    · rw [run_append]
      exact hleft
    · rw [trace_append, trace_cons, trace_nil, filterMap_snoc, filterMap_snoc, ← List.append_assoc,
        hearlier, List.append_assoc, hlast, List.append_assoc]

end Unbroken

/-! ### Runs -/
section Runs
variable {K : Type} [Field K] [LinearOrder K] [IsStrictOrderedRing K] [FloorRing K] [SquareRoot K]
  [ToString K]

/-- In every interleaving of the runtime, the server's loop, the fetches and the page: the page
shows frames in the order in which they were pushed, all of them while it keeps one socket; its
telemetry is that of the last one it showed; as connected it only shows states that the runtime was
in, and no stop before it is latched; and it can read a frame exactly if the state is showable. -/
theorem live_page_follows_runtime (env : Surroundings K) (model : RobotModel K)
    (supervisor : MotionSafetySupervisor K) (stepS : K) (h : 0 < stepS)
    (inputs : List LiveInput) :
    let first := LiveSystem.mounted (.fresh model supervisor stepS h)
    let past := trace (LiveSystem.step env) first inputs
    let page := (run (LiveSystem.step env) first inputs).page
    (past.filterMap Event.output).Sublist (past.filterMap pushedAt) ∧
    (∀ before after, inputs = before ++ .connect :: after → (∀ input ∈ after, KeepsSocket input) →
      let since := trace (LiveSystem.step env)
        (run (LiveSystem.step env) first (before ++ [.connect])) after
      since.filterMap Event.output <+: since.filterMap pushedAt) ∧
    page.robotTelemetry = (past.filterMap Event.output).getLast?.map Prod.snd ∧
    (page.snapshot.connection = "connected" → SnapshotOf past page.snapshot) ∧
    (page.snapshot.systemState = "ESTOP" → page.snapshot.estopLatched = true) ∧
    ∀ e ∈ past, ∀ shown, pushedAt e = some shown ↔
      (e.input = .push ∧ Showable e.before.runtime) ∧
        shown = (.ofDiagnostics e.before.runtime.readOf,
          .ofReport (e.before.runtime.twin.telemetry 0)) := by
  intro first past page
  have hfresh : Sound (SimulationRuntime.fresh model supervisor stepS h) :=
    ⟨SimulationRuntime.counted_fresh model supervisor stepS h, meterRange_ofModel model⟩
  have hinv := liveInv_run env hfresh inputs
  refine ⟨hinv.frames_inOrder.shown_sublist, ?_, hinv.telemetry_latest, hinv.connected,
    hinv.estop_latched, ?_⟩
  · intro before after _ hkeeps since
    -- the new socket is empty, so what it pushes is what the page shows and what is on its way
    have hopen : (run (LiveSystem.step env) first (before ++ [.connect])).socket = some [] := by
      rw [run_append]
      rfl
    obtain ⟨left, -, hexact⟩ := run_unbroken env hopen after hkeeps
    exact ⟨left.filterMap shownOf, hexact.symm⟩
  · intro e he shown
    have hsound := hinv.past_sound e he
    have hread := readFrame_iff hsound.counted hsound.meters shown
    unfold pushedAt
    split
    · rename_i hinput
      rw [hinput]
      rw [shownOf_eq_some_iff, hread, eq_self, true_and]
    · rename_i hother
      simp only [reduceCtorEq, false_iff, not_and]
      exact fun hpush => absurd hpush.1 hother

end Runs

section EarlyFrame
open SimulationRuntime (stopSurroundings stopRuntime stopServed stepPeriod_pos)

def firstFrame : List LiveInput := [.connect, .push, .message]

/-- The frame is pushed after the device has stopped the twin, and before its answer is read. -/
def earlyFrame : List LiveInput := firstFrame ++ stopServed.map .runtime ++ [.push, .message]

def pageAfter (inputs : List LiveInput) : LivePage :=
  (run (LiveSystem.step stopSurroundings) (.mounted stopRuntime) inputs).page

/-- The frame of a stop that is not latched yet is an error to the page, which keeps its
telemetry. -/
theorem live_page_follows_runtime_stopping :
    (pageAfter firstFrame).snapshot.connection = "connected" ∧
    SnapshotOf (trace (LiveSystem.step stopSurroundings) (.mounted stopRuntime) firstFrame)
      (pageAfter firstFrame).snapshot ∧
    (pageAfter earlyFrame).snapshot.gatewayError =
      some "ESTOP system state requires a latched E-stop" ∧
    (pageAfter earlyFrame).robotTelemetry = (pageAfter firstFrame).robotTelemetry := by
  have hconnected : (pageAfter firstFrame).snapshot.connection = "connected" := by
    decide +kernel
  obtain ⟨-, -, -, hsnapshot, -⟩ := live_page_follows_runtime stopSurroundings (referenceArm ℚ)
    (MotionSafetySupervisor.unverifiedSupervisor.perform .armWatchdog) (1/50) stepPeriod_pos
    firstFrame
  exact ⟨hconnected, hsnapshot hconnected, by decide +kernel, by decide +kernel⟩

end EarlyFrame
end RoboticCharacter.Dashboard
