import RoboticCharacter.SimulationAuthority

/-! The runtime gives its twin nothing but calls: each of its steps is a run of the twin, and what
every call preserves holds of the twin wherever the runtime gets to. -/
namespace RoboticCharacter.Simulation
open Safety Gateway PythonMath Machine

section Device
variable {K : Type} [Field K] [LinearOrder K] [FloorRing K] [SquareRoot K]

theorem settle_calls (stepS : K) (budget : ℕ) (twin : DigitalTwinRobot K) (steps : ℕ) :
    ∃ calls, (SimulationRuntime.settle stepS budget twin steps).1 =
      run DigitalTwinRobot.call twin calls := by
  induction budget generalizing twin steps with
  | zero => exact ⟨[], rfl⟩
  | succ budget ih =>
    rw [SimulationRuntime.settle]
    split_ifs with hidle
    · exact ⟨[], rfl⟩
    · obtain ⟨calls, hcalls⟩ := ih (twin.call (.step stepS)).1 (steps+1)
      exact ⟨.step stepS :: calls, hcalls⟩

/-- Serving a frame is at most one call of the twin. -/
theorem serveOnce_calls (device : DigitalTwinProtocolDevice K) (request : Frame) :
    ∃ calls, (device.serveOnce request).1.twin = run DigitalTwinRobot.call device.twin calls := by
  cases hdispatch : device.twin.dispatch request with
  | error error => exact ⟨[], device.twin_serveOnce_error request error hdispatch⟩
  | ok after =>
    rw [device.twin_serveOnce_ok request after hdispatch]
    obtain ⟨-, -, hafter⟩ | ⟨-, command, -, haccept⟩ | ⟨-, -, hafter⟩ :=
      (device.twin.dispatch_eq_ok_iff after request).mp hdispatch
    · exact ⟨[], hafter⟩
    · refine ⟨[.accept command], ?_⟩
      rw [run_cons, run_nil, DigitalTwinRobot.call, haccept]
      rfl
    · exact ⟨[.estop], hafter⟩

end Device

section Step
variable {K : Type} [Field K] [LinearOrder K] [FloorRing K] [SquareRoot K] [ToString K]
  (env : Surroundings K) (r : SimulationRuntime K)

theorem resume_calls (a : ActiveCall K) (receipt : GatewayReceipt) :
    ∃ calls, (r.resume env a receipt).1.twin = run DigitalTwinRobot.call r.twin calls := by
  unfold SimulationRuntime.resume
  cases a.errand with
  | estop => exact ⟨[], rfl⟩
  | heartbeat intent decision authorization =>
    have hdevice := (SimulationRuntime.sameSafety_startErrand env r a.id
      (.motion intent decision authorization receipt)).device_eq
    exact ⟨[], congrArg DigitalTwinProtocolDevice.twin hdevice⟩
  | motion intent decision authorization heartbeatReceipt =>
    dsimp only
    rw [finishExecute_runtime]
    exact settle_calls _ _ _ 0

omit [ToString K] in
theorem serve_calls : ∃ calls, r.serve.twin = run DigitalTwinRobot.call r.twin calls := by
  by_cases hready : ∃ request rest, r.deviceTask = .receiving ∧ r.toDevice = request :: rest
  · obtain ⟨request, rest, htask, hdevice⟩ := hready
    have hserves := serve_frame htask hdevice
    unfold SimulationRuntime.twin
    rw [hserves.device_eq]
    exact serveOnce_calls r.device request
  · have hidle : r.serve = r :=
      (serve_idle (fun request rest h => hready ⟨request, rest, h⟩) .none r.serve).1
    rw [hidle]
    exact ⟨[], rfl⟩

theorem step_calls (input : RuntimeInput) :
    ∃ calls, (r.step env input).1.twin = run DigitalTwinRobot.call r.twin calls := by
  have hkept (after : SimulationRuntime K) (hdevice : after.device = r.device) :
      ∃ calls, after.twin = run DigitalTwinRobot.call r.twin calls :=
    ⟨[], congrArg DigitalTwinProtocolDevice.twin hdevice⟩
  cases input with
  | serve => exact serve_calls r
  | grant uuid => exact hkept _ (grant_device env uuid)
  | request event =>
    have hstepped := SimulationRuntime.step_request env r event
    generalize r.step env (.request event) = stepped at hstepped ⊢
    cases hstepped with
    | idle => exact hkept _ rfl
    | goesOn a | raises a =>
      exact hkept _ (SimulationRuntime.sameSafety_requestStep r a event).device_eq
    | returns a _ receipt =>
      have hdevice := (SimulationRuntime.sameSafety_requestStep r a event).device_eq
      have htwin : (r.requestStep a event).1.twin = r.twin :=
        congrArg DigitalTwinProtocolDevice.twin hdevice
      rw [← htwin]
      exact resume_calls env _ a receipt
  | resetEstop =>
    change ∃ calls, (r.resetEstop).1.twin = run DigitalTwinRobot.call r.twin calls
    unfold SimulationRuntime.resetEstop
    split_ifs with hstopped
    · exact ⟨[], rfl⟩
    · exact ⟨[.resetEstop], rfl⟩
  | call | loseRequest | loseResponse | readDiagnostics => exact hkept _ rfl

/-- What every call of a twin preserves, a step of the runtime preserves. -/
theorem step_preserves {P : DigitalTwinRobot K → Prop}
    (hcall : ∀ twin c, P twin → P (DigitalTwinRobot.call twin c).1) (h : P r.twin)
    (input : RuntimeInput) : P (r.step env input).1.twin := by
  obtain ⟨calls, hcalls⟩ := step_calls env r input
  rw [hcalls]
  exact run_invariant DigitalTwinRobot.call hcall r.twin h calls

end Step

/-! ### The clock and the currents -/
section Meters
variable {K : Type} [Field K] [LinearOrder K]

/-- The clock and the currents fit the fields of a report. -/
structure MeterRange (twin : DigitalTwinRobot K) : Prop where
  uptime_nonneg : 0 ≤ twin.uptimeMs
  uptime_le : twin.uptimeMs ≤ 0xFFFFFFFF
  currents : ∀ name, 0 ≤ twin.currents name ∧ twin.currents name ≤ 0xFFFF

theorem meterRange_ofModel (model : RobotModel K) :
    MeterRange (DigitalTwinRobot.ofModel model) where
  uptime_nonneg := Int.le_refl 0
  uptime_le := (by decide : (0 : ℤ) ≤ 0xFFFFFFFF)
  currents := fun _ => (by decide : (0 : ℤ) ≤ 80 ∧ (80 : ℤ) ≤ 0xFFFF)

variable [IsStrictOrderedRing K] [FloorRing K]

theorem simulatedCurrent_range (velocity error : K) :
    0 ≤ simulatedCurrent velocity error ∧ simulatedCurrent velocity error ≤ 0xFFFF := by
  have hpositive : 0 ≤ 80+3*|velocity|+3/5*|error| := by positivity
  have hrounded := roundHalfEven_nonneg _ hpositive
  unfold simulatedCurrent
  omega

variable [SquareRoot K]

theorem stepJoint_current_range (spec : ReferenceJoint K)
    (vl al target dt position velocity : K) :
    0 ≤ (stepJoint spec vl al target dt position velocity).current ∧
      (stepJoint spec vl al target dt position velocity).current ≤ 0xFFFF := by
  unfold stepJoint
  dsimp only
  split_ifs
  · exact ⟨by norm_num, by norm_num⟩
  · exact simulatedCurrent_range _ _
  · exact simulatedCurrent_range _ _

theorem meterRange_call (twin : DigitalTwinRobot K) (c : TwinCall K) (h : MeterRange twin) :
    MeterRange (twin.call c).1 := by
  -- the clock stops at the largest number of its field
  have hclock (dt : K) (hdt : 0 < dt) :
      0 ≤ (twin.advance dt).uptimeMs ∧ (twin.advance dt).uptimeMs ≤ 0xFFFFFFFF := by
    have hticks := roundHalfEven_nonneg (dt*1000) (by positivity)
    have hbefore := h.uptime_nonneg
    unfold DigitalTwinRobot.advance
    dsimp only
    omega
  have hperforms := twin.performs_call c
  generalize (twin.call c).1 = after at hperforms ⊢
  cases hperforms with
  | nothing => exact h
  | accepted | stopped | released => exact ⟨h.uptime_nonneg, h.uptime_le, h.currents⟩
  | held dt hdt hstopped =>
    obtain ⟨hnonneg, hle⟩ := hclock dt hdt
    exact ⟨hnonneg, hle, fun _ => (by decide : (0 : ℤ) ≤ 60 ∧ (60 : ℤ) ≤ 0xFFFF)⟩
  | moved dt hdt hrunning =>
    obtain ⟨hnonneg, hle⟩ := hclock dt hdt
    exact ⟨hnonneg, hle, fun name => stepJoint_current_range _ _ _ _ _ _ _⟩

end Meters
end RoboticCharacter.Simulation
