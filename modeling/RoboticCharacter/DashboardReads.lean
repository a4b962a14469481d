import RoboticCharacter.SimulationLatch
import RoboticCharacter.DashboardSnapshot

/-! The reads of the dashboard in a run of the runtime: which of them the dashboard accepts.
The counts of the gateway carry it: no request is answered more often than it was sent. -/
namespace RoboticCharacter.Gateway

/-- `pending` requests are sent and not answered yet. -/
structure RobotGateway.CountsFit (g : RobotGateway) (pending : ℕ) : Prop where
  answered_le : g.acknowledgedCount + g.rejectedCount + pending ≤ g.sentCount
  last_le : ∀ sequence, g.lastAcknowledgedSequence = some sequence → sequence ≤ 0xFFFF

namespace RobotGateway

theorem countsFit_mono (g : RobotGateway) (fewer pending : ℕ) (hle : fewer ≤ pending)
    (h : g.CountsFit pending) : g.CountsFit fewer :=
  ⟨(Nat.add_le_add_left hle _).trans h.answered_le, h.last_le⟩

theorem countsFit_startRequest (g : RobotGateway) (isOpen : Bool) (messageType : MessageType)
    (payload : Except GatewayFailure Bytes) (pending : ℕ) (h : g.CountsFit pending) :
    (g.startRequest isOpen messageType payload).1.CountsFit pending := by
  unfold startRequest
  split
  · exact h
  · split_ifs
    · exact h
    · split <;> exact ⟨h.answered_le, h.last_le⟩

theorem countsFit_countSent (g : RobotGateway) (pending : ℕ) (h : g.CountsFit pending) :
    g.countSent.CountsFit (pending+1) :=
  ⟨Nat.add_le_add_right h.answered_le 1, h.last_le⟩

/-- An answer that counts takes the place of the request it answers. -/
theorem countsFit_finishRequest (g : RobotGateway) (request response : Frame)
    (authorizationId : Option Uuid) (h : g.CountsFit 1) :
    (g.finishRequest request.sequence request.messageType authorizationId response).1.CountsFit
      0 := by
  have hanswered := h.answered_le
  have hnoted (sequence : ℕ) (hlast : some request.sequence = some sequence) :
      sequence ≤ 0xFFFF := by
    rw [← Option.some.inj hlast]
    exact request.sequence_fits
  have hfinished := g.finished request.sequence request.messageType authorizationId response
  generalize g.finishRequest request.sequence request.messageType authorizationId response = result
    at hfinished ⊢
  cases hfinished with
  | accepted => exact ⟨by dsimp only; omega, hnoted⟩
  | rejected => exact ⟨by dsimp only; omega, hnoted⟩
  | failed => exact g.countsFit_mono 0 1 (Nat.zero_le 1) h

end RobotGateway
end RoboticCharacter.Gateway

namespace RoboticCharacter.Simulation
open Safety Gateway PythonMath Machine Dashboard JsonValue
namespace SimulationRuntime
section Counts
variable {K : Type} [Field K] [LinearOrder K]

def unanswered (phase : RuntimePhase) : ℕ := if phase = .awaitingAnswer then 1 else 0

/-- The counts with the request under way, if there is one. -/
def Counted (r : SimulationRuntime K) : Prop :=
  match r.active with
  | none => r.gateway.CountsFit 0
  | some a => r.gateway.CountsFit (unanswered a.phase)

theorem counted_of_inactive (r : SimulationRuntime K) (ha : r.active = none)
    (h : r.gateway.CountsFit 0) : r.Counted := by
  unfold Counted
  rw [ha]
  exact h

theorem counts_of_active (r : SimulationRuntime K) (a : ActiveCall K) (ha : r.active = some a)
    (h : r.Counted) : r.gateway.CountsFit (unanswered a.phase) := by
  unfold Counted at h
  rwa [ha] at h

theorem counts_of_counted (r : SimulationRuntime K) (h : r.Counted) : r.gateway.CountsFit 0 := by
  cases ha : r.active with
  | none =>
    unfold Counted at h
    rwa [ha] at h
  | some a =>
    exact r.gateway.countsFit_mono 0 _ (Nat.zero_le _) (counts_of_active r a ha h)

theorem counted_same (r after : SimulationRuntime K) (hg : after.gateway = r.gateway)
    (ha : after.active = r.active) (h : r.Counted) : after.Counted := by
  unfold Counted
  rw [hg, ha]
  exact h

theorem counts_send (env : Surroundings K) (r : SimulationRuntime K) (errand : Errand K)
    (h : r.gateway.CountsFit 0) : (r.send env errand).1.CountsFit 0 := by
  cases errand <;> exact r.gateway.countsFit_startRequest _ _ _ 0 h

theorem counted_startErrand (env : Surroundings K) (r : SimulationRuntime K) (id : ℕ)
    (errand : Errand K) (h : r.gateway.CountsFit 0) :
    (r.startErrand env id errand).1.Counted := by
  have hsend := counts_send env r errand h
  unfold startErrand
  split
  · rename_i gateway failure hfailed
    rw [hfailed] at hsend
    exact hsend
  · rename_i gateway frame hsent
    rw [hsent] at hsend
    exact hsend

/-- A request that goes on keeps its own count; one that ends leaves nothing unanswered. -/
theorem counts_requestStep (r : SimulationRuntime K) (a : ActiveCall K) (event : RequestEvent)
    (ha : r.active = some a) (h : r.Counted) :
    ((r.requestStep a event).2 = none → (r.requestStep a event).1.Counted) ∧
      (r.requestStep a event).1.gateway.CountsFit 0 := by
  have hactive := counts_of_active r a ha h
  have hzero := counts_of_counted r h
  -- an answer that is counted takes the place of the request
  have hread (response : Frame) (gateway : RobotGateway)
      (outcome : Except GatewayFailure GatewayReceipt) (hphase : a.phase = .awaitingAnswer)
      (hfinish : r.gateway.finishRequest a.request.sequence a.request.messageType
        a.errand.authorizationId response = (gateway, outcome)) : gateway.CountsFit 0 := by
    rw [hphase] at hactive
    have hcounts := r.gateway.countsFit_finishRequest a.request response a.errand.authorizationId
      hactive
    rwa [hfinish] at hcounts
  have heffect := r.requestStep_effect a event
  generalize r.requestStep a event = stepped at heffect ⊢
  cases heffect with
  | ignored => exact ⟨fun _ => h, hzero⟩
  | written hphase =>
    -- the write is counted when it ends; from then on the request is unanswered
    rw [hphase] at hactive
    have hcounts : r.gateway.countSent.CountsFit 1 := r.gateway.countsFit_countSent 0 hactive
    exact ⟨fun _ => hcounts, r.gateway.countSent.countsFit_mono 0 1 (Nat.zero_le 1) hcounts⟩
  | writeFails | receiveFails | taskAwaited =>
    exact ⟨fun hno => absurd hno (Option.some_ne_none _), hzero⟩
  | refused response _ gateway _ hphase _ hfinish =>
    exact ⟨fun hno => absurd hno (Option.some_ne_none _), hread response gateway _ hphase hfinish⟩
  | acknowledged response _ gateway _ _ hphase _ hfinish =>
    exact ⟨fun hno => absurd hno (Option.some_ne_none _), hread response gateway _ hphase hfinish⟩
  | awaits response _ gateway _ hphase _ hfinish =>
    have hcounts := hread response gateway _ hphase hfinish
    exact ⟨fun _ => hcounts, hcounts⟩
  | taskEnds => exact ⟨fun _ => counted_same r _ rfl rfl h, hzero⟩

theorem counted_fresh (model : RobotModel K) (supervisor : MotionSafetySupervisor K) (stepS : K)
    (h : 0 < stepS) : (fresh model supervisor stepS h).Counted := by
  apply counted_of_inactive _ rfl
  refine ⟨Nat.le_refl 0, ?_⟩
  intro sequence hlast
  cases hlast

/-- What the dashboard reads in a state. -/
def readOf (r : SimulationRuntime K) : SimulationDiagnostics :=
  { r with started := true }.diagnostics

/-- Where the counts fit, the dashboard refuses a read for two reasons only: the twin is
stopped and the host is not latched yet, or more was sent than a double can count. -/
theorem accepted_read_iff (r : SimulationRuntime K) (h : r.Counted) :
    Accepted r.readOf ↔
      ¬ (r.twin.state = .estop ∧ ¬ r.Latched) ∧ (r.gateway.sentCount : ℤ) ≤ maxSafeInteger := by
  have hcounts := counts_of_counted r h
  have hanswered := hcounts.answered_le
  rw [accepted_iff]
  constructor
  · intro hd
    exact ⟨fun hstopped => hstopped.2 (hd.estop_latched hstopped.1), hd.sent_le⟩
  · rintro ⟨hlatched, hsent⟩
    -- neither count can pass the number of requests sent
    have hacknowledged : (r.gateway.acknowledgedCount : ℤ) ≤ r.gateway.sentCount := by omega
    have hrejected : (r.gateway.rejectedCount : ℤ) ≤ r.gateway.sentCount := by omega
    exact {
      healthy_connected := fun _ => rfl
      estop_latched := fun hstopped => not_not.mp (fun hopen => hlatched ⟨hstopped, hopen⟩)
      sequence_le := hcounts.last_le
      sent_le := hsent
      acknowledged_le := hacknowledged.trans hsent
      rejected_le := hrejected.trans hsent }

end Counts

section Execute
variable {K : Type} [Field K] [LinearOrder K] [ToString K]

theorem counted_beginExecute (env : Surroundings K) (r : SimulationRuntime K) (id : ℕ)
    (intent : BehaviorIntent) (uuid : Uuid) (h : r.Counted) :
    (r.beginExecute env id intent uuid).1.Counted := by
  unfold beginExecute
  split
  · exact h
  · dsimp only
    split
    · exact counted_startErrand env _ id _ (counts_of_counted r h)
    · exact counted_same r _ rfl rfl h

theorem counted_grant (env : Surroundings K) (r : SimulationRuntime K) (uuid : Uuid)
    (h : r.Counted) : (r.grant env uuid).1.Counted := by
  rcases r.grant_cases env uuid with hgrant | ⟨call, rest, _, _, ⟨_, hgrant⟩ | ⟨intent, _, hgrant⟩⟩
  · rwa [hgrant]
  · rw [hgrant]
    exact counted_startErrand env (r.granted rest) call.id .estop (counts_of_counted r h)
  · rw [hgrant]
    exact counted_beginExecute env (r.granted rest) call.id intent uuid
      (counted_same r _ rfl rfl h)

end Execute

section Step
variable {K : Type} [Field K] [LinearOrder K] [FloorRing K] [SquareRoot K]

theorem counts_finishExecute (r : SimulationRuntime K) (id : ℕ) (intent : BehaviorIntent)
    (decision : MotionDecision) (authorization : MotionAuthorization K)
    (heartbeatReceipt motionReceipt : GatewayReceipt) (h : r.Counted) :
    (r.finishExecute id intent decision authorization heartbeatReceipt
      motionReceipt).1.Counted := by
  unfold finishExecute
  dsimp only
  split_ifs <;> exact counted_same r _ rfl rfl h

variable [ToString K]

theorem counted_resume (env : Surroundings K) (r : SimulationRuntime K) (a : ActiveCall K)
    (receipt : GatewayReceipt) (h : r.gateway.CountsFit 0) :
    (r.resume env a receipt).1.Counted := by
  unfold resume
  cases a.errand with
  | estop => exact counted_of_inactive _ rfl h
  | heartbeat intent decision authorization => exact counted_startErrand env r a.id _ h
  | motion intent decision authorization heartbeatReceipt =>
    exact counts_finishExecute r.release a.id intent decision authorization heartbeatReceipt
      receipt (counted_of_inactive _ rfl h)

theorem counted_step (env : Surroundings K) (r : SimulationRuntime K) (input : RuntimeInput)
    (h : r.Counted) : (r.step env input).1.Counted := by
  cases input with
  | grant uuid => exact counted_grant env r uuid h
  | request event =>
    have hstepped := step_request env r event
    generalize r.step env (.request event) = stepped at hstepped ⊢
    cases hstepped with
    | idle => exact h
    | goesOn a hactive houtcome => exact (counts_requestStep r a event hactive h).1 houtcome
    | returns a hactive receipt houtcome =>
      exact counted_resume env _ a receipt (counts_requestStep r a event hactive h).2
    | raises a hactive failure houtcome =>
      exact counted_of_inactive _ rfl (counts_requestStep r a event hactive h).2
  | serve => exact counted_same r _ (serve_same r).gateway_eq (serve_same r).active_eq h
  | resetEstop =>
    exact counted_same r _ (resetEstop_same r).gateway_eq (resetEstop_same r).active_eq h
  | call | loseRequest | loseResponse | readDiagnostics => exact counted_same r _ rfl rfl h

/-- A read gives the diagnostics of the state it finds, with the link up. -/
theorem input_of_diagnostics (env : Surroundings K) (r : SimulationRuntime K)
    (input : RuntimeInput) (d : SimulationDiagnostics)
    (h : (r.step env input).2 = .diagnostics d) : input = .readDiagnostics := by
  by_contra hread
  by_cases hreset : input = .resetEstop
  · rw [hreset] at h
    obtain ⟨cleared, houtput⟩ := (resetEstop_same r).resets
    have hboth := houtput.symm.trans h
    cases hboth
  · have hcall := ofCall_step env r input hreset hread
    rw [h] at hcall
    exact hcall

/-- In a run of a new runtime the dashboard accepts every snapshot, exactly if no read finds
the twin stopped while the host is not latched, or more sent than a double can count. -/
theorem reads_accepted_iff (env : Surroundings K) (model : RobotModel K)
    (supervisor : MotionSafetySupervisor K) (stepS : K) (h : 0 < stepS)
    (inputs : List RuntimeInput) :
    (∀ e ∈ trace (step env) (fresh model supervisor stepS h) inputs,
        ∀ d, e.output = .diagnostics d → Accepted d) ↔
      ∀ e ∈ trace (step env) (fresh model supervisor stepS h) inputs,
        e.input = .readDiagnostics →
          ¬ (e.before.twin.state = .estop ∧ ¬ e.before.Latched) ∧
            (e.before.gateway.sentCount : ℤ) ≤ maxSafeInteger := by
  have hcounted (e : Event (SimulationRuntime K) RuntimeInput (RuntimeOutput K))
      (he : e ∈ trace (step env) (fresh model supervisor stepS h) inputs) : e.before.Counted :=
    trace_invariant (step env) (counted_step env) _ (counted_fresh model supervisor stepS h)
      inputs e he
  have hstep := trace_step (step env) (fresh model supervisor stepS h) inputs
  constructor
  · intro haccepted e he hinput
    have hread := hstep e he
    rw [hinput] at hread
    have houtput : e.output = .diagnostics e.before.readOf := (congrArg Prod.snd hread).symm
    exact (accepted_read_iff e.before (hcounted e he)).mp (haccepted e he _ houtput)
  · intro hreads e he d houtput
    have hread := hstep e he
    have hinput := input_of_diagnostics env e.before e.input d
      ((congrArg Prod.snd hread).trans houtput)
    rw [hinput] at hread
    have hd : RuntimeOutput.diagnostics e.before.readOf = .diagnostics d :=
      (congrArg Prod.snd hread).trans houtput
    rw [← RuntimeOutput.diagnostics.inj hd]
    exact (accepted_read_iff e.before (hcounted e he)).mpr (hreads e he hinput)

end Step

section EarlyRead

/-- A read after the E-stop call has returned. -/
theorem reads_accepted_answered :
    (run (step stopSurroundings) stopRuntime (stopServed ++ [.request .receive])).twin.state =
      .estop ∧
    ∀ e ∈ trace (step stopSurroundings) stopRuntime
        (stopServed ++ [.request .receive] ++ [.readDiagnostics]),
      ∀ d, e.output = .diagnostics d → Accepted d := by
  have hiff := reads_accepted_iff stopSurroundings (referenceArm ℚ)
    (MotionSafetySupervisor.unverifiedSupervisor.perform .armWatchdog) (1/50) stepPeriod_pos
    (stopServed ++ [.request .receive] ++ [.readDiagnostics])
  have hstopped : (run (step stopSurroundings) stopRuntime
      (stopServed ++ [.request .receive])).twin.state = .estop := by decide
  refine ⟨hstopped, hiff.mpr ?_⟩
  intro e he hinput
  rw [trace_append, List.mem_append] at he
  rcases he with hearlier | hlast
  · have hmem := List.mem_map_of_mem (f := Event.input) hearlier
    rw [trace_inputs, hinput] at hmem
    simp [stopServed] at hmem
  · rw [trace_cons, trace_nil, List.mem_singleton] at hlast
    rw [hlast]
    decide

/-- The device has stopped the twin, and its answer is on the way: a read in between gives a
snapshot that the dashboard refuses. -/
theorem early_read_refused :
    ∃ e ∈ trace (step stopSurroundings) stopRuntime (stopServed ++ [.readDiagnostics]),
      ∃ d, e.output = .diagnostics d ∧ d.systemState = .estop ∧ d.estopLatched = false ∧
        ¬ Accepted d := by
  let stopped := run (step stopSurroundings) stopRuntime stopServed
  have hstate : stopped.readOf.systemState = .estop := by decide
  have hopen : stopped.readOf.estopLatched = false := by decide
  refine ⟨⟨stopped, .readDiagnostics, .diagnostics stopped.readOf,
    { stopped with started := true }⟩, ?_, stopped.readOf, rfl, hstate, hopen, ?_⟩
  · rw [trace_append, List.mem_append]
    exact .inr (List.mem_singleton_self _)
  · rw [accepted_iff]
    intro hd
    exact absurd (hopen.symm.trans (hd.estop_latched hstate)) Bool.false_ne_true

end EarlyRead
end SimulationRuntime
end RoboticCharacter.Simulation
