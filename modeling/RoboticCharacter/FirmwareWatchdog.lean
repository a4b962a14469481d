import RoboticCharacter.FirmwareLatch
import RoboticCharacter.WrappingClock

/-! The watchdog against true time. The runtime sees a 32-bit millisecond clock;
true time is unbounded, and the clock reading is true time modulo `2^32`. -/
namespace RoboticCharacter.Firmware
open RobotRuntime

/-- A call on the runtime without its clock reading. -/
inductive Call
  | handleFrame (data : Bytes)
  | tick
  | observePhysicalEstop (active : Bool)
  | manualReset

structure TimedCall where
  time : ℕ
  call : Call

/-- The operation the runtime sees: its `now_ms` is `millis()`. -/
def TimedCall.operation (c : TimedCall) : Operation :=
  match c.call with
  | .handleFrame data => .handleFrame data (UInt32.ofNat c.time)
  | .tick => .tick (UInt32.ofNat c.time)
  | .observePhysicalEstop active => .observePhysicalEstop active
  | .manualReset => .manualReset (UInt32.ofNat c.time)

def timedStep (rt : RobotRuntime) (c : TimedCall) : RobotRuntime × Outcome := step rt c.operation

def timedRun (timeout : UInt32) (calls : List TimedCall) : RobotRuntime :=
  Machine.run timedStep (.new timeout) calls

def timedTrace (timeout : UInt32) (calls : List TimedCall) :
    List (Machine.Event RobotRuntime TimedCall Outcome) :=
  Machine.trace timedStep (.new timeout) calls

def Chronological (calls : List TimedCall) : Prop := calls.Pairwise (fun a b => a.time ≤ b.time)

instance (calls : List TimedCall) : Decidable (Chronological calls) :=
  inferInstanceAs (Decidable (calls.Pairwise _))

/-- The true times at which a run accepted a heartbeat, latest first. -/
def heartbeatTimes (timeout : UInt32) (calls : List TimedCall) : List ℕ :=
  ((timedTrace timeout calls).filter
    (fun e => e.output = .dispatched .kHeartbeatAccepted)).reverse.map (fun e => e.input.time)

/-- A command deferred by the last call of a run has a heartbeat within the timeout. -/
def DeferralSound (timeout : UInt32) (before : List TimedCall) (c : TimedCall) : Prop :=
  (timedStep (timedRun timeout before) c).2 = .dispatched .kMotionDeferred →
    ∃ beat ∈ heartbeatTimes timeout before, beat ≤ c.time ∧ c.time ≤ beat+timeout.toNat

def DeferralsSound (timeout : UInt32) (calls : List TimedCall) : Prop :=
  ∀ before c after, calls = before ++ c :: after → DeferralSound timeout before c

/-- The clock has wrapped past the last heartbeat and makes it look recent again. -/
def ClockAliases (timeout : UInt32) (beat now : ℕ) : Prop :=
  2^32 ≤ now-beat ∧ (now-beat)%2^32 ≤ timeout.toNat

theorem timedTrace_append_one (timeout : UInt32) (calls : List TimedCall) (c : TimedCall) :
    timedTrace timeout (calls ++ [c]) = timedTrace timeout calls ++
      [⟨timedRun timeout calls, c, (timedStep (timedRun timeout calls) c).2,
        (timedStep (timedRun timeout calls) c).1⟩] := by
  rw [timedTrace, Machine.trace_append]
  rfl

theorem timedRun_append_one (timeout : UInt32) (calls : List TimedCall) (c : TimedCall) :
    timedRun timeout (calls ++ [c]) = (timedStep (timedRun timeout calls) c).1 := by
  rw [timedRun, Machine.run_append]
  rfl

theorem heartbeatTimes_append_one (timeout : UInt32) (calls : List TimedCall) (c : TimedCall) :
    heartbeatTimes timeout (calls ++ [c]) =
      if (timedStep (timedRun timeout calls) c).2 = .dispatched .kHeartbeatAccepted then
        c.time :: heartbeatTimes timeout calls
      else heartbeatTimes timeout calls := by
  rw [heartbeatTimes, timedTrace_append_one, List.filter_append, List.reverse_append,
    List.map_append]
  split_ifs with h <;> simp [h, heartbeatTimes]

/-- What the runtime's heartbeat fields say about true time. -/
structure Watches (timeout : UInt32) (rt : RobotRuntime) (beats : List ℕ) : Prop where
  timeout_eq : rt.heartbeatTimeoutMs = timeout
  seen_iff : rt.heartbeatSeen = true ↔ beats ≠ []
  last_eq : ∀ beat older, beats = beat :: older → rt.lastHeartbeatMs = UInt32.ofNat beat

/-- The heartbeat fields after one operation: a heartbeat sets them, nothing else does. -/
theorem step_heartbeat_fields (rt : RobotRuntime) (c : TimedCall) :
    (timedStep rt c).1.heartbeatTimeoutMs = rt.heartbeatTimeoutMs ∧
    if (timedStep rt c).2 = .dispatched .kHeartbeatAccepted then
      (timedStep rt c).1.heartbeatSeen = true ∧
        (timedStep rt c).1.lastHeartbeatMs = UInt32.ofNat c.time
    else (timedStep rt c).1.heartbeatSeen = rt.heartbeatSeen ∧
        (timedStep rt c).1.lastHeartbeatMs = rt.lastHeartbeatMs := by
  obtain ⟨time, call⟩ := c
  cases call with
  | handleFrame data =>
    have hh := rt.handled data (UInt32.ofNat time)
    simp only [timedStep, TimedCall.operation, step, Outcome.dispatched.injEq]
    generalize (rt.handleFrame data (UInt32.ofNat time)).1 = after,
      (rt.handleFrame data (UInt32.ofNat time)).2 = result at hh ⊢
    cases hh with
    | heartbeat frame => simp
    | _ => simp [rememberMotionCommand]
  | tick => simp [timedStep, TimedCall.operation, step]
  | observePhysicalEstop active =>
    cases active <;> simp [timedStep, TimedCall.operation, step, observePhysicalEstop]
  | manualReset =>
    simp only [timedStep, TimedCall.operation, step, manualReset, reduceCtorEq, ↓reduceIte]
    split_ifs <;> simp

theorem watches_run (timeout : UInt32) (calls : List TimedCall) :
    Watches timeout (timedRun timeout calls) (heartbeatTimes timeout calls) := by
  -- from the last call backwards: only its own heartbeat fields matter
  induction calls using List.reverseRecOn with
  | nil => exact ⟨rfl, by simp [timedRun, heartbeatTimes, timedTrace, RobotRuntime.new], nofun⟩
  | append_singleton calls c ih =>
    obtain ⟨htimeout, hfields⟩ := step_heartbeat_fields (timedRun timeout calls) c
    rw [timedRun_append_one, heartbeatTimes_append_one]
    split_ifs at hfields ⊢ with hbeat
    · refine ⟨htimeout.trans ih.timeout_eq, by simp [hfields.1], ?_⟩
      intro beat older he
      rw [hfields.2, (List.cons.inj he).1]
    · refine ⟨htimeout.trans ih.timeout_eq, by rw [hfields.1, ih.seen_iff], ?_⟩
      intro beat older he
      rw [hfields.2, ih.last_eq beat older he]

theorem heartbeatTimes_sorted (timeout : UInt32) (calls : List TimedCall)
    (h : Chronological calls) : (heartbeatTimes timeout calls).Pairwise (· ≥ ·) := by
  have htrace : (timedTrace timeout calls).Pairwise (fun a b => a.input.time ≤ b.input.time) := by
    have hin := Machine.trace_inputs timedStep (.new timeout) calls
    rw [Chronological, ← hin, List.pairwise_map] at h
    exact h
  rw [heartbeatTimes, List.pairwise_map, List.pairwise_reverse]
  exact htrace.filter _

theorem heartbeatTimes_le (timeout : UInt32) (calls : List TimedCall) (t beat : ℕ)
    (ht : ∀ c ∈ calls, c.time ≤ t) (hb : beat ∈ heartbeatTimes timeout calls) : beat ≤ t := by
  obtain ⟨e, he, rfl⟩ := List.mem_map.mp hb
  have hin := Machine.trace_inputs timedStep (.new timeout) calls
  have hmem : e ∈ timedTrace timeout calls := (List.mem_filter.mp (List.mem_reverse.mp he)).1
  exact ht _ (hin ▸ List.mem_map_of_mem hmem)

/-- A motion command that only the watchdog can still refuse. -/
structure MotionArrives (rt : RobotRuntime) (c : TimedCall) (data : Bytes)
    (frame : ParsedFrame) : Prop where
  call_eq : c.call = .handleFrame data
  parsed : parseFrame data = some frame
  fresh : rt.refusesSequence frame = false
  type_eq : frame.type = .validatedMotionCommand
  payload_valid : validateMotionPayload frame.payload frame.payloadLength = true
  ready : rt.state = .kReady
  released : rt.physicalEstopActive = false
  unseen : rt.motionCommandWasAccepted frame.payload = false

/-- No motion command that only the watchdog can refuse arrives at a moment when the
wrapped clock makes a dead heartbeat look recent. -/
def ClockHolds (timeout : UInt32) (before : List TimedCall) (c : TimedCall) : Prop :=
  ∀ data frame, MotionArrives (timedRun timeout before) c data frame →
    ∀ beat older, heartbeatTimes timeout before = beat :: older → ¬ ClockAliases timeout beat c.time

theorem timedStep_deferred_iff (rt : RobotRuntime) (c : TimedCall) :
    (timedStep rt c).2 = .dispatched .kMotionDeferred ↔
      ∃ data frame, MotionArrives rt c data frame ∧ rt.heartbeatSeen = true ∧
        rt.heartbeatAge (UInt32.ofNat c.time) ≤ rt.heartbeatTimeoutMs := by
  obtain ⟨time, call⟩ := c
  cases call with
  | handleFrame data =>
    simp only [timedStep, TimedCall.operation, step, Outcome.dispatched.injEq]
    rw [handleFrame_deferred_iff]
    constructor
    · intro hframe
      obtain ⟨frame, hp, hs, hr, hid⟩ := hframe
      have hw := (tick_heartbeatHealthy _ _).mp hr.healthy
      have ha : MotionArrives rt ⟨time, .handleFrame data⟩ data frame :=
        ⟨rfl, hp, hs, hr.type_eq, hr.payload_valid, hr.ready, hr.released, hid⟩
      exact ⟨data, frame, ha, hw⟩
    · intro hmotion
      obtain ⟨data', frame, ha, hw⟩ := hmotion
      cases ha.call_eq
      exact ⟨frame, ha.parsed, ha.fresh, ⟨ha.type_eq, ha.payload_valid, ha.ready,
        (tick_heartbeatHealthy _ _).mpr hw, ha.released⟩, ha.unseen⟩
  | tick | observePhysicalEstop active | manualReset =>
    -- not a frame: nothing is dispatched and no command arrives
    constructor
    · intro hdeferred
      cases hdeferred
    · intro hmotion
      obtain ⟨_, _, ha, _⟩ := hmotion
      cases ha.call_eq

/-- One call: the deferral is sound exactly when the clock does not alias under it. -/
theorem deferralSound_iff (timeout : UInt32) (before : List TimedCall) (c : TimedCall)
    (hsorted : Chronological before) (hle : ∀ b ∈ before, b.time ≤ c.time) :
    DeferralSound timeout before c ↔ ClockHolds timeout before c := by
  have hw := watches_run timeout before
  -- what the firmware subtracts is the true age, read on the wrapped clock
  have hage (beat : ℕ) (older : List ℕ) (hb : heartbeatTimes timeout before = beat :: older) :
      ((timedRun timeout before).heartbeatAge (UInt32.ofNat c.time)).toNat =
        (c.time-beat)%2^32 := by
    have hlast := heartbeatTimes_le timeout before c.time beat hle (hb ▸ List.mem_cons_self)
    rw [heartbeatAge, hw.last_eq beat older hb]
    exact WrappingClock.uint32_sub_toNat beat c.time hlast
  constructor
  · -- under aliasing the motion is deferred, with every heartbeat a period old
    intro hsound data frame ha beat older hb ⟨hwrapped, hrecent⟩
    have hdeferred := (timedStep_deferred_iff _ c).mpr ⟨data, frame, ha,
      hw.seen_iff.mpr (by simp [hb]), by
        rw [UInt32.le_iff_toNat_le, hage beat older hb, hw.timeout_eq]
        exact hrecent⟩
    obtain ⟨beat', hmem, _, hnear⟩ := hsound hdeferred
    have hlatest : beat' ≤ beat := by
      have hs := heartbeatTimes_sorted timeout before hsorted
      rw [hb] at hs hmem
      rcases List.mem_cons.mp hmem with rfl | hold
      · exact le_rfl
      · exact (List.pairwise_cons.mp hs).1 beat' hold
    have htimeout := timeout.toNat_lt
    omega
  · -- without aliasing the wrapped age is the true one
    intro hclock hdeferred
    obtain ⟨data, frame, ha, hseen, hrecent⟩ := (timedStep_deferred_iff _ c).mp hdeferred
    obtain ⟨beat, older, hb⟩ := List.exists_cons_of_ne_nil (hw.seen_iff.mp hseen)
    have hlast := heartbeatTimes_le timeout before c.time beat hle (hb ▸ List.mem_cons_self)
    rw [UInt32.le_iff_toNat_le, hage beat older hb, hw.timeout_eq] at hrecent
    have hperiod : c.time-beat < 2^32 := by
      by_contra hlong
      exact hclock data frame ha beat older hb ⟨not_lt.mp hlong, hrecent⟩
    have hnear := WrappingClock.le_of_mod_le _ _ _ hperiod hrecent
    exact ⟨beat, hb ▸ List.mem_cons_self, hlast, by omega⟩

/-- The watchdog against true time: every deferral of a chronological run follows a
heartbeat accepted within the timeout exactly when no motion command that only the
watchdog can refuse arrives while the wrapped clock makes a dead heartbeat look recent. -/
theorem watchdog_sound_iff_clock_holds (timeout : UInt32) (calls : List TimedCall)
    (h : Chronological calls) :
    DeferralsSound timeout calls ↔
      ∀ before c after, calls = before ++ c :: after → ClockHolds timeout before c := by
  have hpre (before : List TimedCall) (c : TimedCall) (after : List TimedCall)
      (hsplit : calls = before ++ c :: after) :
      Chronological before ∧ ∀ b ∈ before, b.time ≤ c.time := by
    rw [Chronological, hsplit, List.pairwise_append] at h
    exact ⟨h.1, fun b hb => h.2.2 b hb c List.mem_cons_self⟩
  constructor
  · intro hsound before c after hsplit
    obtain ⟨hs, hle⟩ := hpre before c after hsplit
    exact (deferralSound_iff timeout before c hs hle).mp (hsound before c after hsplit)
  · intro hclock before c after hsplit
    obtain ⟨hs, hle⟩ := hpre before c after hsplit
    exact (deferralSound_iff timeout before c hs hle).mpr (hclock before c after hsplit)

/-- One heartbeat, regular watchdog ticks for one period of the clock, then a manual
reset and a motion command inside the window where the heartbeat looks recent. -/
def wrappedCalls : List TimedCall :=
  [⟨0, .handleFrame (contractFrame .heartbeat 1 [])⟩,
   ⟨2^31-1, .tick⟩,
   ⟨2^32-2, .tick⟩,
   ⟨2^32+10, .manualReset⟩,
   ⟨2^32+20, .handleFrame (contractFrame .validatedMotionCommand 2 (contractMotionPayload 0))⟩]

theorem watchdog_sound_iff_clock_holds_wrapped :
    DeferralsSound 500 wrappedCalls ↔
      ∀ before c after, wrappedCalls = before ++ c :: after → ClockHolds 500 before c :=
  watchdog_sound_iff_clock_holds 500 wrappedCalls (by decide)

/-- After one period of the clock a manual reset revives a runtime whose only
heartbeat is 49.7 days old, and its next motion command is deferred. -/
theorem wrapped_heartbeat_defers :
    Chronological wrappedCalls ∧
    wrappedCalls.IsChain (fun a b => b.time-a.time < 2^31) ∧
    (500 : UInt32).toNat < 2^31 ∧ ¬ DeferralsSound 500 wrappedCalls := by
  refine ⟨by decide, by decide, by decide, ?_⟩
  intro hsound
  have hdeferred : (timedStep (timedRun 500 (wrappedCalls.take 4))
      (wrappedCalls.get ⟨4, by decide⟩)).2 = .dispatched .kMotionDeferred := by decide +kernel
  have hbeats : heartbeatTimes 500 (wrappedCalls.take 4) = [0] := by decide +kernel
  obtain ⟨beat, hmem, _, hnear⟩ := hsound (wrappedCalls.take 4) _ [] rfl hdeferred
  rw [hbeats, List.mem_singleton] at hmem
  subst hmem
  exact absurd hnear (by decide)

end RoboticCharacter.Firmware
