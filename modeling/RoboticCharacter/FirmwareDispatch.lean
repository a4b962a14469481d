import RoboticCharacter.FirmwareRuntime

/-! What each call on the runtime can do: the fields it leaves alone and, for a
frame, the nine ways through `HandleFrame`. -/
namespace RoboticCharacter.Firmware.RobotRuntime

/-! The watchdog writes the health flag and can only demote the state. -/

theorem tick_eq (rt : RobotRuntime) (nowMs : UInt32) :
    rt.tick nowMs = { rt with
      heartbeatHealthy := (rt.tick nowMs).heartbeatHealthy
      state := (rt.tick nowMs).state } := by
  dsimp only [tick]
  split_ifs <;> rfl

@[simp]
theorem tick_physicalEstopActive (rt : RobotRuntime) (nowMs : UInt32) :
    (rt.tick nowMs).physicalEstopActive = rt.physicalEstopActive := by rw [tick_eq]

@[simp]
theorem tick_heartbeatSeen (rt : RobotRuntime) (nowMs : UInt32) :
    (rt.tick nowMs).heartbeatSeen = rt.heartbeatSeen := by rw [tick_eq]

@[simp]
theorem tick_lastHeartbeatMs (rt : RobotRuntime) (nowMs : UInt32) :
    (rt.tick nowMs).lastHeartbeatMs = rt.lastHeartbeatMs := by rw [tick_eq]

@[simp]
theorem tick_heartbeatTimeoutMs (rt : RobotRuntime) (nowMs : UInt32) :
    (rt.tick nowMs).heartbeatTimeoutMs = rt.heartbeatTimeoutMs := by rw [tick_eq]

@[simp]
theorem tick_motionCommandSeen (rt : RobotRuntime) (nowMs : UInt32) :
    (rt.tick nowMs).motionCommandSeen = rt.motionCommandSeen := by rw [tick_eq]

@[simp]
theorem tick_lastMotionCommandId (rt : RobotRuntime) (nowMs : UInt32) :
    (rt.tick nowMs).lastMotionCommandId = rt.lastMotionCommandId := by rw [tick_eq]

/-- The watchdog is healthy exactly when a heartbeat was seen within the timeout. -/
theorem tick_heartbeatHealthy (rt : RobotRuntime) (nowMs : UInt32) :
    (rt.tick nowMs).heartbeatHealthy = true ↔
      rt.heartbeatSeen = true ∧ rt.heartbeatAge nowMs ≤ rt.heartbeatTimeoutMs := by
  dsimp only [tick]
  split_ifs with h1 h2 h3
  · simp [h1]
  · simp [h1]
  · have hstale := of_decide_eq_false h3.1
    simp [hstale]
  · simp only [decide_eq_true_eq, iff_and_self]
    exact fun _ => Bool.eq_true_of_not_eq_false h1

theorem tick_state_kEstop (rt : RobotRuntime) (nowMs : UInt32) :
    (rt.tick nowMs).state = .kEstop ↔ rt.state = .kEstop := by
  dsimp only [tick]
  split_ifs with h1 h2 h3
  · simp [h2]
  · rfl
  · simp [h3.2]
  · rfl

/-- The watchdog never arms the runtime, and leaves it armed only while healthy. -/
theorem tick_state_kReady (rt : RobotRuntime) (nowMs : UInt32) :
    (rt.tick nowMs).state = .kReady ↔
      rt.state = .kReady ∧ (rt.tick nowMs).heartbeatHealthy = true := by
  dsimp only [tick]
  split_ifs with h1 h2 h3
  · simp
  · simp [h2]
  · simp [h3.1]
  · simp only [ne_eq, not_and, not_not] at h3
    simp only [iff_self_and]
    intro hr
    by_contra hh
    have := h3 (Bool.eq_false_of_not_eq_true hh)
    simp [hr] at this

/-! Accepting a sequence number writes nothing else. -/

section AcceptSequence
variable (rt : RobotRuntime) (frame : ParsedFrame)

@[simp] theorem acceptSequence_state : (rt.acceptSequence frame).state = rt.state := rfl
@[simp] theorem acceptSequence_physicalEstopActive :
    (rt.acceptSequence frame).physicalEstopActive = rt.physicalEstopActive := rfl
@[simp] theorem acceptSequence_heartbeatSeen :
    (rt.acceptSequence frame).heartbeatSeen = rt.heartbeatSeen := rfl
@[simp] theorem acceptSequence_heartbeatHealthy :
    (rt.acceptSequence frame).heartbeatHealthy = rt.heartbeatHealthy := rfl
@[simp] theorem acceptSequence_lastHeartbeatMs :
    (rt.acceptSequence frame).lastHeartbeatMs = rt.lastHeartbeatMs := rfl
@[simp] theorem acceptSequence_heartbeatTimeoutMs :
    (rt.acceptSequence frame).heartbeatTimeoutMs = rt.heartbeatTimeoutMs := rfl
@[simp] theorem acceptSequence_motionCommandSeen :
    (rt.acceptSequence frame).motionCommandSeen = rt.motionCommandSeen := rfl
@[simp] theorem acceptSequence_lastMotionCommandId :
    (rt.acceptSequence frame).lastMotionCommandId = rt.lastMotionCommandId := rfl
@[simp] theorem acceptSequence_heartbeatAge (nowMs : UInt32) :
    (rt.acceptSequence frame).heartbeatAge nowMs = rt.heartbeatAge nowMs := rfl

end AcceptSequence

/-! A heartbeat sets the watchdog's fields and never touches the physical input. -/

section AcceptHeartbeat
variable (rt : RobotRuntime) (nowMs : UInt32)

@[simp]
theorem acceptHeartbeat_heartbeatSeen : (rt.acceptHeartbeat nowMs).heartbeatSeen = true := by
  dsimp only [acceptHeartbeat]
  split_ifs <;> rfl

@[simp]
theorem acceptHeartbeat_lastHeartbeatMs : (rt.acceptHeartbeat nowMs).lastHeartbeatMs = nowMs := by
  dsimp only [acceptHeartbeat]
  split_ifs <;> rfl

@[simp]
theorem acceptHeartbeat_heartbeatTimeoutMs :
    (rt.acceptHeartbeat nowMs).heartbeatTimeoutMs = rt.heartbeatTimeoutMs := by
  dsimp only [acceptHeartbeat]
  split_ifs <;> rfl

@[simp]
theorem acceptHeartbeat_motionCommandSeen :
    (rt.acceptHeartbeat nowMs).motionCommandSeen = rt.motionCommandSeen := by
  dsimp only [acceptHeartbeat]
  split_ifs <;> rfl

@[simp]
theorem acceptHeartbeat_lastMotionCommandId :
    (rt.acceptHeartbeat nowMs).lastMotionCommandId = rt.lastMotionCommandId := by
  dsimp only [acceptHeartbeat]
  split_ifs <;> rfl

end AcceptHeartbeat

theorem motionCommandWasAccepted_ticked (rt : RobotRuntime) (frame : ParsedFrame)
    (nowMs : UInt32) (payload : Bytes) :
    ((rt.acceptSequence frame).tick nowMs).motionCommandWasAccepted payload =
      rt.motionCommandWasAccepted payload := by
  simp only [motionCommandWasAccepted, tick_motionCommandSeen, tick_lastMotionCommandId,
    acceptSequence_motionCommandSeen, acceptSequence_lastMotionCommandId]

/-- A motion command passes every check that comes before its identity. -/
structure MotionReaches (rt : RobotRuntime) (frame : ParsedFrame) (nowMs : UInt32) : Prop where
  type_eq : frame.type = .validatedMotionCommand
  payload_valid : validateMotionPayload frame.payload frame.payloadLength = true
  ready : rt.state = .kReady
  healthy : (rt.tick nowMs).heartbeatHealthy = true
  released : rt.physicalEstopActive = false

/-- Everything `HandleFrame` can do, one constructor per way through it. -/
inductive Handled (rt : RobotRuntime) (data : Bytes) (nowMs : UInt32) :
    RobotRuntime → DispatchResult → Prop
  | invalid (hp : parseFrame data = none) : Handled rt data nowMs rt .kRejectedInvalidFrame
  | stale (frame : ParsedFrame) (hp : parseFrame data = some frame)
      (hs : rt.refusesSequence frame = true) : Handled rt data nowMs rt .kRejectedReplay
  | heartbeat (frame : ParsedFrame) (hp : parseFrame data = some frame)
      (hs : rt.refusesSequence frame = false) (ht : frame.type = .heartbeat) :
      Handled rt data nowMs ((rt.acceptSequence frame).acceptHeartbeat nowMs) .kHeartbeatAccepted
  | estop (frame : ParsedFrame) (hp : parseFrame data = some frame)
      (hs : rt.refusesSequence frame = false) (ht : frame.type = .estop) :
      Handled rt data nowMs { rt.acceptSequence frame with state := .kEstop } .kEstopLatched
  | motionInvalid (frame : ParsedFrame) (hp : parseFrame data = some frame)
      (hs : rt.refusesSequence frame = false) (ht : frame.type = .validatedMotionCommand)
      (hv : validateMotionPayload frame.payload frame.payloadLength = false) :
      Handled rt data nowMs (rt.acceptSequence frame) .kMotionRejectedInvalidPayload
  | motionUnsafe (frame : ParsedFrame) (hp : parseFrame data = some frame)
      (hs : rt.refusesSequence frame = false) (ht : frame.type = .validatedMotionCommand)
      (hr : ¬ (rt.acceptSequence frame).MotionReaches frame nowMs) :
      Handled rt data nowMs ((rt.acceptSequence frame).tick nowMs) .kMotionRejectedUnsafe
  | motionReplay (frame : ParsedFrame) (hp : parseFrame data = some frame)
      (hs : rt.refusesSequence frame = false)
      (hr : (rt.acceptSequence frame).MotionReaches frame nowMs)
      (hid : rt.motionCommandWasAccepted frame.payload = true) :
      Handled rt data nowMs ((rt.acceptSequence frame).tick nowMs) .kRejectedReplay
  | motionDeferred (frame : ParsedFrame) (hp : parseFrame data = some frame)
      (hs : rt.refusesSequence frame = false)
      (hr : (rt.acceptSequence frame).MotionReaches frame nowMs)
      (hid : rt.motionCommandWasAccepted frame.payload = false) :
      Handled rt data nowMs
        (((rt.acceptSequence frame).tick nowMs).rememberMotionCommand frame.payload)
        .kMotionDeferred
  | ignored (frame : ParsedFrame) (hp : parseFrame data = some frame)
      (hs : rt.refusesSequence frame = false)
      (ht : frame.type ≠ .heartbeat ∧ frame.type ≠ .estop ∧
        frame.type ≠ .validatedMotionCommand) :
      Handled rt data nowMs (rt.acceptSequence frame) .kMessageIgnored

/-- The checks the motion branch makes after the watchdog, as one condition. -/
theorem motionReaches_iff (rt : RobotRuntime) (frame : ParsedFrame) (nowMs : UInt32)
    (ht : frame.type = .validatedMotionCommand)
    (hv : validateMotionPayload frame.payload frame.payloadLength = true) :
    rt.MotionReaches frame nowMs ↔
      ¬ ((rt.tick nowMs).state ≠ .kReady ∨ (rt.tick nowMs).heartbeatHealthy = false ∨
        (rt.tick nowMs).physicalEstopActive = true) := by
  rw [tick_physicalEstopActive]
  constructor
  · intro h
    have hready := (rt.tick_state_kReady nowMs).mpr ⟨h.ready, h.healthy⟩
    simp [hready, h.healthy, h.released]
  · intro h
    simp only [not_or, not_not, Bool.not_eq_false, Bool.not_eq_true] at h
    exact ⟨ht, hv, ((rt.tick_state_kReady nowMs).mp h.1).1, h.2.1, h.2.2⟩

theorem handled (rt : RobotRuntime) (data : Bytes) (nowMs : UInt32) :
    Handled rt data nowMs (rt.handleFrame data nowMs).1 (rt.handleFrame data nowMs).2 := by
  -- one constructor for each `return` of the source, in its order
  unfold handleFrame
  cases hp : parseFrame data with
  | none => exact .invalid hp
  | some frame =>
    dsimp only
    by_cases hstale : rt.refusesSequence frame = true
    · rw [if_pos hstale]
      exact .stale frame hp hstale
    · have hs := Bool.eq_false_of_not_eq_true hstale
      rw [if_neg hstale]
      unfold dispatch
      split
      case h_1 ht => exact .heartbeat frame hp hs ht
      case h_2 ht => exact .estop frame hp hs ht
      case h_3 ht =>
        dsimp only [dispatchMotion]
        split_ifs with hv hr hid
        · exact .motionInvalid frame hp hs ht hv
        · refine .motionUnsafe frame hp hs ht ?_
          rw [motionReaches_iff _ _ _ ht (Bool.eq_true_of_not_eq_false hv)]
          exact not_not.mpr hr
        · refine .motionReplay frame hp hs ?_ ?_
          · exact (motionReaches_iff _ _ _ ht (Bool.eq_true_of_not_eq_false hv)).mpr hr
          · rwa [motionCommandWasAccepted_ticked] at hid
        · refine .motionDeferred frame hp hs ?_ ?_
          · exact (motionReaches_iff _ _ _ ht (Bool.eq_true_of_not_eq_false hv)).mpr hr
          · rwa [motionCommandWasAccepted_ticked, Bool.not_eq_true] at hid
      case h_4 h1 h2 h3 => exact .ignored frame hp hs ⟨h1, h2, h3⟩

end RoboticCharacter.Firmware.RobotRuntime
