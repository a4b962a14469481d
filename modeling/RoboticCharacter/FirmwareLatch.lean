import RoboticCharacter.FirmwareDispatch

/-! The E-stop latch of the robot MCU over whole runs. -/
namespace RoboticCharacter.Firmware
open RobotRuntime

/-- What every call preserves: an asserted physical stop is latched, and an armed
runtime has a heartbeat it believes in. -/
structure SafetyInvariant (heartbeatTimeoutMs : UInt32) (rt : RobotRuntime) : Prop where
  timeout_eq : rt.heartbeatTimeoutMs = heartbeatTimeoutMs
  physical_latched : rt.physicalEstopActive = true → rt.state = .kEstop
  healthy_seen : rt.heartbeatHealthy = true → rt.heartbeatSeen = true
  ready_healthy : rt.state = .kReady → rt.heartbeatHealthy = true

namespace SafetyInvariant
variable {timeout : UInt32} {rt : RobotRuntime}

theorem new (timeout : UInt32) : SafetyInvariant timeout (.new timeout) :=
  ⟨rfl, nofun, nofun, nofun⟩

theorem acceptSequence (h : SafetyInvariant timeout rt) (frame : ParsedFrame) :
    SafetyInvariant timeout (rt.acceptSequence frame) :=
  ⟨h.timeout_eq, h.physical_latched, h.healthy_seen, h.ready_healthy⟩

theorem rememberMotionCommand (h : SafetyInvariant timeout rt) (payload : Bytes) :
    SafetyInvariant timeout (rt.rememberMotionCommand payload) :=
  ⟨h.timeout_eq, h.physical_latched, h.healthy_seen, h.ready_healthy⟩

theorem tick (h : SafetyInvariant timeout rt) (nowMs : UInt32) :
    SafetyInvariant timeout (rt.tick nowMs) := by
  refine ⟨?_, ?_, ?_, ?_⟩
  · rw [tick_heartbeatTimeoutMs, h.timeout_eq]
  · intro hp
    rw [tick_physicalEstopActive] at hp
    exact (rt.tick_state_kEstop nowMs).mpr (h.physical_latched hp)
  · intro hh
    rw [tick_heartbeatSeen]
    exact ((rt.tick_heartbeatHealthy nowMs).mp hh).1
  · exact fun hr => ((rt.tick_state_kReady nowMs).mp hr).2

theorem acceptHeartbeat (h : SafetyInvariant timeout rt) (nowMs : UInt32) :
    SafetyInvariant timeout (rt.acceptHeartbeat nowMs) := by
  dsimp only [RobotRuntime.acceptHeartbeat]
  split_ifs with ha
  · refine ⟨h.timeout_eq, ?_, fun _ => rfl, fun _ => rfl⟩
    intro hp
    simp only [ha.2, Bool.false_eq_true] at hp
  · exact ⟨h.timeout_eq, h.physical_latched, fun _ => rfl, fun _ => rfl⟩

theorem latch (h : SafetyInvariant timeout rt) :
    SafetyInvariant timeout { rt with state := .kEstop } :=
  ⟨h.timeout_eq, fun _ => rfl, h.healthy_seen, nofun⟩

theorem observePhysicalEstop (h : SafetyInvariant timeout rt) (active : Bool) :
    SafetyInvariant timeout (rt.observePhysicalEstop active) := by
  cases active with
  | true => exact ⟨h.timeout_eq, fun _ => rfl, h.healthy_seen, nofun⟩
  | false => exact ⟨h.timeout_eq, nofun, h.healthy_seen, h.ready_healthy⟩

theorem handleFrame (h : SafetyInvariant timeout rt) (data : Bytes) (nowMs : UInt32) :
    SafetyInvariant timeout (rt.handleFrame data nowMs).1 := by
  have hh := rt.handled data nowMs
  generalize (rt.handleFrame data nowMs).1 = after, (rt.handleFrame data nowMs).2 = result at hh ⊢
  cases hh with
  | invalid => exact h
  | stale => exact h
  | heartbeat frame => exact (h.acceptSequence frame).acceptHeartbeat nowMs
  | estop frame => exact (h.acceptSequence frame).latch
  | motionInvalid frame => exact h.acceptSequence frame
  | motionUnsafe frame => exact (h.acceptSequence frame).tick nowMs
  | motionReplay frame => exact (h.acceptSequence frame).tick nowMs
  | motionDeferred frame => exact ((h.acceptSequence frame).tick nowMs).rememberMotionCommand _
  | ignored frame => exact h.acceptSequence frame

theorem manualReset (h : SafetyInvariant timeout rt) (nowMs : UInt32) :
    SafetyInvariant timeout (rt.manualReset nowMs).1 := by
  have ht := h.tick nowMs
  dsimp only [RobotRuntime.manualReset]
  split_ifs with hd
  · exact ht
  · simp only [not_or, Bool.not_eq_true, Bool.not_eq_false] at hd
    refine ⟨ht.timeout_eq, ?_, ht.healthy_seen, fun _ => hd.2⟩
    intro hp
    simp only [hd.1, Bool.false_eq_true] at hp

theorem step (rt : RobotRuntime) (op : Operation) (h : SafetyInvariant timeout rt) :
    SafetyInvariant timeout (Firmware.step rt op).1 := by
  cases op with
  | handleFrame data nowMs => exact h.handleFrame data nowMs
  | tick nowMs => exact h.tick nowMs
  | observePhysicalEstop active => exact h.observePhysicalEstop active
  | manualReset nowMs => exact h.manualReset nowMs

theorem run (timeout : UInt32) (ops : List Operation) :
    SafetyInvariant timeout (Firmware.run timeout ops) :=
  Machine.run_invariant _ step _ (new timeout) ops

end SafetyInvariant

theorem handleFrame_latched (rt : RobotRuntime) (data : Bytes) (nowMs : UInt32)
    (h : rt.state = .kEstop) : (rt.handleFrame data nowMs).1.state = .kEstop := by
  have hh := rt.handled data nowMs
  generalize (rt.handleFrame data nowMs).1 = after, (rt.handleFrame data nowMs).2 = result at hh ⊢
  cases hh with
  | invalid => exact h
  | stale => exact h
  | heartbeat frame => simp [acceptHeartbeat, h]
  | estop frame => rfl
  | motionInvalid frame => exact h
  | motionUnsafe frame => exact (tick_state_kEstop _ nowMs).mpr h
  | motionReplay frame => exact (tick_state_kEstop _ nowMs).mpr h
  | motionDeferred frame => exact (tick_state_kEstop _ nowMs).mpr h
  | ignored frame => exact h

/-- Only a `ManualReset` that returns true opens the latch. -/
theorem step_latched (rt : RobotRuntime) (op : Operation) (h : rt.state = .kEstop)
    (hreset : (step rt op).2 ≠ .reset true) : (step rt op).1.state = .kEstop := by
  cases op with
  | handleFrame data nowMs => exact handleFrame_latched rt data nowMs h
  | tick nowMs => exact (rt.tick_state_kEstop nowMs).mpr h
  | observePhysicalEstop active => cases active <;> simp [step, observePhysicalEstop, h]
  | manualReset nowMs =>
    simp only [step, manualReset] at hreset ⊢
    split_ifs at hreset ⊢
    · exact (rt.tick_state_kEstop nowMs).mpr h
    · exact absurd rfl hreset

theorem manualReset_cleared (rt : RobotRuntime) (nowMs : UInt32)
    (h : (rt.manualReset nowMs).2 = true) :
    rt.physicalEstopActive = false ∧ rt.heartbeatSeen = true ∧
      rt.heartbeatAge nowMs ≤ rt.heartbeatTimeoutMs := by
  dsimp only [manualReset] at h
  split_ifs at h with hd
  · simp only [tick_physicalEstopActive, not_or, Bool.not_eq_true, Bool.not_eq_false] at hd
    exact ⟨hd.1, (rt.tick_heartbeatHealthy nowMs).mp hd.2⟩

/-- A deferred motion command met an armed, healthy and released runtime. -/
theorem handleFrame_deferred (rt : RobotRuntime) (data : Bytes) (nowMs : UInt32)
    (h : (rt.handleFrame data nowMs).2 = .kMotionDeferred) :
    ∃ frame, parseFrame data = some frame ∧ rt.refusesSequence frame = false ∧
      (rt.acceptSequence frame).MotionReaches frame nowMs ∧
      rt.motionCommandWasAccepted frame.payload = false ∧
      (rt.handleFrame data nowMs).1 =
        ((rt.acceptSequence frame).tick nowMs).rememberMotionCommand frame.payload := by
  have hh := rt.handled data nowMs
  generalize (rt.handleFrame data nowMs).1 = after, (rt.handleFrame data nowMs).2 = result at hh h ⊢
  subst h
  cases hh with
  | motionDeferred frame hp hs hr hid => exact ⟨frame, hp, hs, hr, hid, rfl⟩

theorem handleFrame_deferred_iff (rt : RobotRuntime) (data : Bytes) (nowMs : UInt32) :
    (rt.handleFrame data nowMs).2 = .kMotionDeferred ↔
      ∃ frame, parseFrame data = some frame ∧ rt.refusesSequence frame = false ∧
        (rt.acceptSequence frame).MotionReaches frame nowMs ∧
        rt.motionCommandWasAccepted frame.payload = false := by
  constructor
  · intro h
    obtain ⟨frame, hp, hs, hr, hid, _⟩ := handleFrame_deferred rt data nowMs h
    exact ⟨frame, hp, hs, hr, hid⟩
  · intro hframe
    obtain ⟨frame, hp, hs, hr, hid⟩ := hframe
    have hchecks := (motionReaches_iff _ _ _ hr.type_eq hr.payload_valid).mp hr
    have hnew := (motionCommandWasAccepted_ticked rt frame nowMs frame.payload).trans hid
    simp only [handleFrame, hp, hs, dispatch, hr.type_eq, dispatchMotion, hr.payload_valid,
      Bool.true_eq_false, ↓reduceIte, Bool.false_eq_true, if_neg hchecks, hnew]

theorem handleFrame_deferred_guard (rt : RobotRuntime) (data : Bytes) (nowMs : UInt32)
    (h : (rt.handleFrame data nowMs).2 = .kMotionDeferred) :
    rt.state = .kReady ∧ rt.heartbeatSeen = true ∧
      rt.heartbeatAge nowMs ≤ rt.heartbeatTimeoutMs ∧ rt.physicalEstopActive = false := by
  obtain ⟨frame, _, _, hr, _, _⟩ := handleFrame_deferred rt data nowMs h
  obtain ⟨hseen, hage⟩ := (tick_heartbeatHealthy _ nowMs).mp hr.healthy
  exact ⟨hr.ready, hseen, hage, hr.released⟩

theorem step_deferred_ready (rt : RobotRuntime) (op : Operation)
    (h : (step rt op).2 = .dispatched .kMotionDeferred) : rt.state = .kReady := by
  cases op with
  | handleFrame data nowMs =>
    exact (handleFrame_deferred_guard rt data nowMs (Outcome.dispatched.inj h)).1
  | tick => cases h
  | observePhysicalEstop => cases h
  | manualReset => cases h

theorem handleFrame_rejected (rt : RobotRuntime) (data : Bytes) (nowMs : UInt32)
    (h : parseFrame data = none ∨
      ∃ frame, parseFrame data = some frame ∧ rt.refusesSequence frame = true) :
    (rt.handleFrame data nowMs).1 = rt := by
  rcases h with hp | ⟨frame, hp, hs⟩
  · simp only [handleFrame, hp]
  · simp only [handleFrame, hp, hs, ↓reduceIte]

/-- The firmware E-stop latch, in every state a run of calls can reach: an
asserted physical stop is latched; a latch lasts, and no motion is deferred,
until a manual reset succeeds; a reset and a deferral need a released stop and a
heartbeat within the timeout; a rejected frame changes nothing. -/
theorem firmware_estop_latch (timeout : UInt32) (ops : List Operation) :
    ((run timeout ops).physicalEstopActive = true → (run timeout ops).state = .kEstop) ∧
    ((run timeout ops).state = .kEstop → ∀ later : List Operation,
      (∀ e ∈ Machine.trace step (run timeout ops) later, e.output ≠ .reset true) →
        (run timeout (ops ++ later)).state = .kEstop ∧
        ∀ e ∈ Machine.trace step (run timeout ops) later,
          e.output ≠ .dispatched .kMotionDeferred) ∧
    (∀ nowMs : UInt32, ((run timeout ops).manualReset nowMs).2 = true →
      (run timeout ops).physicalEstopActive = false ∧ (run timeout ops).heartbeatSeen = true ∧
      nowMs - (run timeout ops).lastHeartbeatMs ≤ timeout) ∧
    (∀ (data : Bytes) (nowMs : UInt32),
      ((run timeout ops).handleFrame data nowMs).2 = .kMotionDeferred →
      (run timeout ops).state = .kReady ∧ (run timeout ops).heartbeatHealthy = true ∧
      (run timeout ops).heartbeatSeen = true ∧
      nowMs - (run timeout ops).lastHeartbeatMs ≤ timeout ∧
      (run timeout ops).physicalEstopActive = false) ∧
    (∀ (data : Bytes) (nowMs : UInt32),
      (parseFrame data = none ∨ ∃ frame, parseFrame data = some frame ∧
        (run timeout ops).refusesSequence frame = true) →
      ((run timeout ops).handleFrame data nowMs).1 = run timeout ops) := by
  have hinv := SafetyInvariant.run timeout ops
  have htimeout := hinv.timeout_eq
  refine ⟨hinv.physical_latched, ?_, ?_, ?_, fun data nowMs => handleFrame_rejected _ data nowMs⟩
  · intro hlatched later hno
    constructor
    · rw [run, Machine.run_append]
      exact Machine.run_latched step (· = .reset true) step_latched _ hlatched later hno
    · -- a deferral needs the ready state, and every earlier state of the trace is latched
      intro e he hdeferred
      have hbefore := Machine.trace_latched step (· = .reset true) step_latched _
        hlatched later hno e he
      have hout : (step e.before e.input).2 = e.output :=
        congrArg Prod.snd (Machine.trace_step step _ later e he)
      have hready := step_deferred_ready _ _ (hout.trans hdeferred)
      rw [hbefore] at hready
      cases hready
  · intro nowMs hreset
    have hcleared := manualReset_cleared _ nowMs hreset
    rwa [htimeout] at hcleared
  · intro data nowMs hdeferred
    obtain ⟨hready, hseen, hage, hreleased⟩ := handleFrame_deferred_guard _ data nowMs hdeferred
    rw [htimeout] at hage
    exact ⟨hready, hinv.ready_healthy hready, hseen, hage, hreleased⟩

end RoboticCharacter.Firmware
