import RoboticCharacter.SimulationRuntime
import RoboticCharacter.GatewayPeer

/-! The host's stop latch under every interleaving of the runtime's calls: when a finished
E-stop leaves it set, and when a reset that reports success has cleared it. -/
namespace RoboticCharacter.Simulation
open Safety Gateway PythonMath Machine

/-- The outputs of a step that is neither a reset nor a read. -/
def RuntimeOutput.OfCall {K : Type} : RuntimeOutput K → Prop
  | .resetDone _ => False
  | .diagnostics _ => False
  | _ => True

def RuntimeOutput.OfEstop {K : Type} : RuntimeOutput K → Prop
  | .estopDone _ _ => True
  | _ => False

instance {K : Type} (output : RuntimeOutput K) : Decidable output.OfEstop :=
  match output with
  | .estopDone _ _ => isTrue trivial
  | .none => isFalse (fun h => h)
  | .executeDone _ _ => isFalse (fun h => h)
  | .resetDone _ => isFalse (fun h => h)
  | .diagnostics _ => isFalse (fun h => h)

theorem ofCall_raised {K : Type} (errand : Errand K) (id : ℕ) (failure : RuntimeFailure) :
    (errand.raised id failure).OfCall := by
  cases errand <;> trivial

namespace SimulationRuntime
section Request
variable {K : Type} [Field K] [LinearOrder K]

def Latched (r : SimulationRuntime K) : Prop := r.supervisor.lifecycleSnapshot.estopLatched = true

instance (r : SimulationRuntime K) : Decidable r.Latched := inferInstanceAs (Decidable (_ = true))

/-- The parts of a runtime that a request under way does not touch. -/
structure SameSafety (before after : SimulationRuntime K) : Prop where
  supervisor_eq : after.supervisor = before.supervisor
  device_eq : after.device = before.device
  waiting_eq : after.waiting = before.waiting

theorem sameSafety_startErrand (env : Surroundings K) (r : SimulationRuntime K) (id : ℕ)
    (errand : Errand K) : SameSafety r (r.startErrand env id errand).1 := by
  unfold startErrand
  split <;> exact ⟨rfl, rfl, rfl⟩

theorem ofCall_startErrand (env : Surroundings K) (r : SimulationRuntime K) (id : ℕ)
    (errand : Errand K) : (r.startErrand env id errand).2.OfCall := by
  unfold startErrand
  split
  · exact ofCall_raised errand id _
  · trivial

/-- What one event makes of the request under way. -/
inductive RequestEffect (r : SimulationRuntime K) (a : ActiveCall K) :
    RequestEvent → SimulationRuntime K × Option (Except RuntimeFailure GatewayReceipt) → Prop
  | ignored (event : RequestEvent) : RequestEffect r a event (r, none)
  | written (hphase : a.phase = .writing) :
      RequestEffect r a .written
        ({ r with
          gateway := r.gateway.countSent
          toDevice := r.toDevice ++ [a.request]
          active := some { a with phase := .awaitingAnswer } }, none)
  | writeFails (error : String) (failure : RuntimeFailure) (hphase : a.phase = .writing) :
      RequestEffect r a (.writeFails error) (r, some (.error failure))
  | receiveFails (error : String) (failure : RuntimeFailure) (hphase : a.phase = .awaitingAnswer) :
      RequestEffect r a (.receiveFails error) (r, some (.error failure))
  | refused (response : Frame) (rest : List Frame) (gateway : RobotGateway)
      (failure : GatewayFailure) (hphase : a.phase = .awaitingAnswer)
      (hhost : r.toHost = response :: rest)
      (hfinish : r.gateway.finishRequest a.request.sequence a.request.messageType
        a.errand.authorizationId response = (gateway, .error failure)) :
      RequestEffect r a .receive
        ({ r with gateway := gateway, toHost := rest }, some (.error (.gateway failure)))
  | acknowledged (response : Frame) (rest : List Frame) (gateway : RobotGateway)
      (receipt : GatewayReceipt) (outcome : Except RuntimeFailure GatewayReceipt)
      (hphase : a.phase = .awaitingAnswer) (hhost : r.toHost = response :: rest)
      (hfinish : r.gateway.finishRequest a.request.sequence a.request.messageType
        a.errand.authorizationId response = (gateway, .ok receipt))
      (houtcome : outcome = .ok receipt ∨ ∃ failure, outcome = .error failure) :
      RequestEffect r a .receive ({ r with gateway := gateway, toHost := rest }, some outcome)
  | awaits (response : Frame) (rest : List Frame) (gateway : RobotGateway)
      (receipt : GatewayReceipt) (hphase : a.phase = .awaitingAnswer)
      (hhost : r.toHost = response :: rest)
      (hfinish : r.gateway.finishRequest a.request.sequence a.request.messageType
        a.errand.authorizationId response = (gateway, .ok receipt)) :
      RequestEffect r a .receive
        ({ r with
          gateway := gateway
          toHost := rest
          active := some { a with phase := .awaitingDevice receipt } }, none)
  | taskEnds (event : RequestEvent) (task : DeviceTask) (htask : task ≠ .receiving) :
      RequestEffect r a event ({ r with deviceTask := task }, none)
  | taskAwaited (event : RequestEvent) (task : DeviceTask) (receipt : GatewayReceipt)
      (outcome : Except RuntimeFailure GatewayReceipt)
      (hphase : a.phase = .awaitingDevice receipt)
      (houtcome : outcome = .ok receipt ∨ ∃ failure, outcome = .error failure) :
      RequestEffect r a event ({ r with deviceTask := task }, some outcome)

theorem requestStep_effect (r : SimulationRuntime K) (a : ActiveCall K) (event : RequestEvent) :
    RequestEffect r a event (r.requestStep a event) := by
  unfold requestStep
  cases event with
  | written =>
    dsimp only
    split_ifs with hphase
    · exact .written hphase
    · exact .ignored _
  | writeFails error =>
    dsimp only
    split_ifs with hphase
    · exact .writeFails error _ hphase
    · exact .ignored _
  | receive =>
    dsimp only
    split
    · rename_i response rest hphase hhost
      split
      · rename_i gateway failure hfinish
        exact .refused response rest gateway failure hphase hhost hfinish
      · -- a receipt: the device task decides how the call goes on with it
        rename_i gateway receipt hfinish
        split
        · exact .acknowledged response rest gateway receipt _ hphase hhost hfinish (.inl rfl)
        · exact .acknowledged response rest gateway receipt _ hphase hhost hfinish (.inr ⟨_, rfl⟩)
        · exact .awaits response rest gateway receipt hphase hhost hfinish
    · exact .ignored _
  | receiveFails error =>
    dsimp only
    split_ifs with hphase
    · exact .receiveFails error _ hphase
    · exact .ignored _
  | deviceReturns =>
    dsimp only
    split_ifs
    · split
      · rename_i receipt hphase
        exact .taskAwaited _ _ receipt _ hphase (.inl rfl)
      · exact .taskEnds _ .done nofun
    · exact .ignored _
  | deviceFails error =>
    dsimp only
    split_ifs
    · split
      · rename_i receipt hphase
        exact .taskAwaited _ _ receipt _ hphase (.inr ⟨_, rfl⟩)
      · exact .taskEnds _ (.failed error) nofun
    · exact .ignored _

theorem sameSafety_requestStep (r : SimulationRuntime K) (a : ActiveCall K)
    (event : RequestEvent) : SameSafety r (r.requestStep a event).1 := by
  have heffect := r.requestStep_effect a event
  generalize r.requestStep a event = stepped at heffect ⊢
  cases heffect <;> exact ⟨rfl, rfl, rfl⟩

theorem not_ofEstop_startErrand (env : Surroundings K) (r : SimulationRuntime K) (id : ℕ)
    (errand : Errand K) (h : errand ≠ .estop) : ¬ (r.startErrand env id errand).2.OfEstop := by
  unfold startErrand
  split
  · cases errand with
    | estop => exact absurd rfl h
    | heartbeat | motion => exact fun hno => hno
  · exact fun hno => hno

/-- The device task touches the device and the link only. -/
structure Served (before after : SimulationRuntime K) : Prop where
  supervisor_eq : after.supervisor = before.supervisor
  gateway_eq : after.gateway = before.gateway
  active_eq : after.active = before.active

theorem serve_same (r : SimulationRuntime K) : Served r r.serve := by
  unfold serve
  split
  · split <;> exact ⟨rfl, rfl, rfl⟩
  · exact ⟨rfl, rfl, rfl⟩

theorem latched_requestStep (r : SimulationRuntime K) (a : ActiveCall K) (event : RequestEvent)
    (hl : r.Latched) : (r.requestStep a event).1.Latched := by
  unfold Latched
  rw [(sameSafety_requestStep r a event).supervisor_eq]
  exact hl

/-- The event ends the request with a receipt: its acknowledgement is read when the device
task is done, or the device task returns when it has been read. -/
def ReceiptDue (r : SimulationRuntime K) (a : ActiveCall K) : RequestEvent → Prop
  | .receive => a.phase = .awaitingAnswer ∧ r.deviceTask = .done ∧
      ∃ response rest, r.toHost = response :: rest ∧
        RobotGateway.Acknowledges response a.request.sequence
  | .deviceReturns => r.deviceTask = .answered ∧ ∃ receipt, a.phase = .awaitingDevice receipt
  | _ => False

/-- The step gives the call that holds the lock the receipt of its request. -/
def RequestReturns (r : SimulationRuntime K) (input : RuntimeInput) : Prop :=
  ∃ event a, input = .request event ∧ r.active = some a ∧ r.ReceiptDue a event

theorem receive_receipt_iff (r : SimulationRuntime K) (a : ActiveCall K) (response : Frame)
    (rest : List Frame) (hphase : a.phase = .awaitingAnswer) (hlink : r.toHost = response :: rest) :
    (∃ receipt, (r.requestStep a .receive).2 = some (.ok receipt)) ↔
      r.deviceTask = .done ∧ RobotGateway.Acknowledges response a.request.sequence := by
  rw [← r.gateway.finishRequest_receipt_iff a.request.sequence a.request.messageType
    a.errand.authorizationId response]
  unfold requestStep
  rw [hphase, hlink]
  dsimp only
  rcases r.gateway.finishRequest a.request.sequence a.request.messageType
    a.errand.authorizationId response with ⟨gateway, failure | receipt⟩
  · simp
  · cases r.deviceTask <;> simp

theorem requestStep_receipt_iff (r : SimulationRuntime K) (a : ActiveCall K)
    (event : RequestEvent) :
    (∃ receipt, (r.requestStep a event).2 = some (.ok receipt)) ↔ r.ReceiptDue a event := by
  cases event with
  | receive =>
    by_cases hwaiting : a.phase = .awaitingAnswer ∧ r.toHost ≠ []
    · obtain ⟨hphase, hsome⟩ := hwaiting
      obtain ⟨response, rest, hlink⟩ := List.exists_cons_of_ne_nil hsome
      rw [receive_receipt_iff r a response rest hphase hlink]
      unfold ReceiptDue
      rw [hphase, hlink]
      simp
    · refine iff_of_false ?_ ?_
      · rintro ⟨receipt, h⟩
        unfold requestStep at h
        dsimp only at h
        split at h
        · rename_i response rest hphase hlink
          exact hwaiting ⟨hphase, hlink ▸ List.cons_ne_nil response rest⟩
        · cases h
      · rintro ⟨hphase, _, response, rest, hlink, _⟩
        exact hwaiting ⟨hphase, hlink ▸ List.cons_ne_nil response rest⟩
  | deviceReturns =>
    unfold requestStep ReceiptDue
    dsimp only
    by_cases hanswered : r.deviceTask = .answered
    · rw [if_pos hanswered]
      cases a.phase <;> simp [hanswered]
    · rw [if_neg hanswered]
      simp [hanswered]
  | written | writeFails | receiveFails =>
    refine iff_of_false ?_ id
    rintro ⟨receipt, h⟩
    unfold requestStep at h
    dsimp only at h
    split_ifs at h <;> cases h
  | deviceFails =>
    refine iff_of_false ?_ id
    rintro ⟨receipt, h⟩
    unfold requestStep at h
    dsimp only at h
    split_ifs at h
    · split at h <;> cases h

theorem active_of_estopDone_startErrand (env : Surroundings K) (r : SimulationRuntime K) (id : ℕ)
    (errand : Errand K) (h : (r.startErrand env id errand).2.OfEstop) :
    (r.startErrand env id errand).1.active = none := by
  unfold startErrand at h ⊢
  split at h
  · rfl
  · exact absurd h (fun hno => hno)

/-- Only a call of `estop` can hold the lock. -/
def OnlyEstop (r : SimulationRuntime K) : Prop := ∀ a, r.active = some a → a.errand = .estop

theorem errand_of_startErrand (env : Surroundings K) (r : SimulationRuntime K) (id : ℕ)
    (errand : Errand K) (a : ActiveCall K) (h : (r.startErrand env id errand).1.active = some a) :
    a.errand = errand := by
  unfold startErrand at h
  split at h
  · cases h
  · rw [← Option.some.inj h]

theorem errand_of_requestStep (r : SimulationRuntime K) (a later : ActiveCall K)
    (event : RequestEvent) (ha : r.active = some a)
    (h : (r.requestStep a event).1.active = some later) : later.errand = a.errand := by
  have heffect := r.requestStep_effect a event
  generalize r.requestStep a event = stepped at heffect h
  cases heffect with
  | written | awaits => rw [← Option.some.inj h]
  | ignored | writeFails | receiveFails | refused | acknowledged | taskEnds | taskAwaited =>
    cases ha.symm.trans h
    rfl

/-- The step runs code of the call `id` of `execute_behavior`. -/
def RunsExecute (r : SimulationRuntime K) (input : RuntimeInput) (id : ℕ) : Prop :=
  (∃ uuid intent rest, input = .grant uuid ∧ r.active = none ∧
    r.waiting = ⟨id, .execute intent⟩ :: rest) ∨
  ∃ event a, input = .request event ∧ r.active = some a ∧ a.id = id ∧ a.errand ≠ .estop

end Request

section Execute
variable {K : Type} [Field K] [LinearOrder K] [ToString K]

/-- The step of a call of `execute_behavior` that is refused: it raises, and nothing was sent
or moved. -/
structure Refused (before after : SimulationRuntime K) (output : RuntimeOutput K) (id : ℕ) :
    Prop where
  raises : ∃ failure, output = .executeDone id (.error failure)
  device_eq : after.device = before.device
  gateway_eq : after.gateway = before.gateway
  toDevice_eq : after.toDevice = before.toDevice

theorem beginExecute_latched (env : Surroundings K) (r : SimulationRuntime K) (id : ℕ)
    (intent : BehaviorIntent) (uuid : Uuid) (hl : r.Latched) :
    Refused r (r.beginExecute env id intent uuid).1 (r.beginExecute env id intent uuid).2 id ∧
    (r.beginExecute env id intent uuid).1.Latched ∧
    (r.beginExecute env id intent uuid).1.active = r.active := by
  unfold beginExecute
  cases env.plan intent r.twin.positions with
  | error message => exact ⟨⟨⟨_, rfl⟩, rfl, rfl, rfl⟩, hl, rfl⟩
  | ok planned =>
    let call : SupervisorCall K :=
      .evaluate (r.safetyInputs planned).1 (r.safetyInputs planned).2 uuid
    -- a latched supervisor evaluates without an authorization, so the call raises here
    have hlatched := MotionSafetySupervisor.call_latched r.supervisor call hl (fun hno => hno)
    have hstops := MotionSafetySupervisor.call_stops r.supervisor call hlatched
    have hnone : (r.supervisor.evaluate (r.safetyInputs planned).1 (r.safetyInputs planned).2
        uuid).2.authorization = none := hstops.2
    dsimp only
    rw [hnone]
    split
    · rename_i hsome
      cases hsome
    · exact ⟨⟨⟨_, rfl⟩, rfl, rfl, rfl⟩, hlatched, rfl⟩

theorem ofCall_beginExecute (env : Surroundings K) (r : SimulationRuntime K) (id : ℕ)
    (intent : BehaviorIntent) (uuid : Uuid) :
    (r.beginExecute env id intent uuid).2.OfCall ∧
      ¬ (r.beginExecute env id intent uuid).2.OfEstop := by
  unfold beginExecute
  split
  · exact ⟨trivial, fun h => h⟩
  · dsimp only
    split
    · exact ⟨ofCall_startErrand env _ id _, not_ofEstop_startErrand env _ id _ (by simp)⟩
    · exact ⟨trivial, fun h => h⟩

theorem latched_grant (env : Surroundings K) (r : SimulationRuntime K) (uuid : Uuid)
    (hl : r.Latched) : (r.grant env uuid).1.Latched := by
  rcases r.grant_cases env uuid with h | ⟨call, rest, _, _, ⟨_, h⟩ | ⟨intent, _, h⟩⟩
  · rw [h]
    exact hl
  · rw [h]
    unfold Latched
    rw [(sameSafety_startErrand env (r.granted rest) call.id .estop).supervisor_eq]
    exact hl
  · rw [h]
    exact (beginExecute_latched env (r.granted rest) call.id intent uuid hl).2.1

theorem ofCall_grant (env : Surroundings K) (r : SimulationRuntime K) (uuid : Uuid) :
    (r.grant env uuid).2.OfCall := by
  rcases r.grant_cases env uuid with h | ⟨call, rest, _, _, ⟨_, h⟩ | ⟨intent, _, h⟩⟩
  · rw [h]
    trivial
  · rw [h]
    exact ofCall_startErrand env _ _ _
  · rw [h]
    exact (ofCall_beginExecute env _ _ _ uuid).1

theorem latched_resetEstop (r : SimulationRuntime K) (hl : r.Latched)
    (hno : (r.resetEstop).2 ≠ .resetDone true) : (r.resetEstop).1.Latched := by
  unfold resetEstop at hno ⊢
  split_ifs at hno ⊢ with htwin
  · exact hl
  · -- the heartbeat leaves the latch; the manual reset opens it only as it reports success
    have hobserved := MotionSafetySupervisor.call_latched r.supervisor
      (.observeHeartbeatAge (.finite 0)) hl (fun hno => hno)
    apply MotionSafetySupervisor.call_latched _ .requestManualReset hobserved
    intro hclears
    exact hno (congrArg RuntimeOutput.resetDone hclears)

/-- A reset answers, and leaves the gateway and the call under way as they are. -/
structure ResetEffect (r after : SimulationRuntime K) (output : RuntimeOutput K) : Prop where
  resets : ∃ cleared, output = .resetDone cleared
  gateway_eq : after.gateway = r.gateway
  active_eq : after.active = r.active

theorem resetEstop_same (r : SimulationRuntime K) :
    ResetEffect r (r.resetEstop).1 (r.resetEstop).2 := by
  unfold resetEstop
  split_ifs <;> exact ⟨⟨_, rfl⟩, rfl, rfl⟩

/-- What a reset that reports success should leave. -/
structure FullyReset (r : SimulationRuntime K) : Prop where
  not_stopped : r.twin.state ≠ .estop
  not_latched : ¬ r.Latched

theorem resetEstop_moving (r : SimulationRuntime K) (h : r.twin.state ≠ .estop) :
    r.resetEstop = (r, .resetDone true) := if_pos h

theorem resetEstop_real_iff (r : SimulationRuntime K) :
    ((r.resetEstop).2 = .resetDone true → (r.resetEstop).1.FullyReset) ↔
      r.twin.state = .estop ∨ ¬ r.Latched := by
  by_cases hstopped : r.twin.state = .estop
  · refine iff_of_true ?_ (.inl hstopped)
    unfold resetEstop
    rw [if_neg (not_not.mpr hstopped)]
    dsimp only
    intro hcleared
    constructor
    · change (DigitalTwinRobot.resetEstop r.twin).state ≠ .estop
      unfold DigitalTwinRobot.resetEstop
      rw [if_pos hstopped]
      exact fun h => WireSystemState.noConfusion h
    · have hunlatched := SafetyLifecycleController.unlatched_of_cleared _
        (RuntimeOutput.resetDone.inj hcleared)
      intro hl
      exact absurd (hunlatched.symm.trans hl) Bool.false_ne_true
  · -- the reset reports success here without looking at the latch
    rw [resetEstop_moving r hstopped]
    constructor
    · intro h
      exact .inr (h rfl).not_latched
    · intro h _
      exact ⟨hstopped, h.resolve_left hstopped⟩

end Execute

section Step
variable {K : Type} [Field K] [LinearOrder K] [FloorRing K] [SquareRoot K]

theorem finishExecute_effect (r : SimulationRuntime K) (id : ℕ) (intent : BehaviorIntent)
    (decision : MotionDecision) (authorization : MotionAuthorization K)
    (heartbeatReceipt motionReceipt : GatewayReceipt) :
    (r.finishExecute id intent decision authorization heartbeatReceipt motionReceipt).1.supervisor =
        r.supervisor ∧
      (∃ result, (r.finishExecute id intent decision authorization heartbeatReceipt
        motionReceipt).2 = .executeDone id result) := by
  unfold finishExecute
  dsimp only
  split_ifs <;> exact ⟨rfl, _, rfl⟩

variable [ToString K]

theorem resume_estop (env : Surroundings K) (r : SimulationRuntime K) (a : ActiveCall K)
    (receipt : GatewayReceipt) (h : a.errand = .estop) :
    r.resume env a receipt = ({ r.release with
      supervisor := r.supervisor.perform (.triggerSoftwareEstop "simulation API E-stop") },
      .estopDone a.id (.ok receipt)) := by
  unfold resume
  rw [h]

theorem resume_other (env : Surroundings K) (r : SimulationRuntime K) (a : ActiveCall K)
    (receipt : GatewayReceipt) (h : a.errand ≠ .estop) :
    (r.resume env a receipt).1.supervisor = r.supervisor ∧
      (r.resume env a receipt).2.OfCall ∧ ¬ (r.resume env a receipt).2.OfEstop := by
  unfold resume
  cases herrand : a.errand with
  | estop => exact absurd herrand h
  | heartbeat intent decision authorization =>
    have hsame := sameSafety_startErrand env r a.id (.motion intent decision authorization receipt)
    exact ⟨hsame.supervisor_eq, ofCall_startErrand env r a.id _,
      not_ofEstop_startErrand env r a.id _ (by simp)⟩
  | motion intent decision authorization heartbeatReceipt =>
    obtain ⟨hsupervisor, result, houtput⟩ := finishExecute_effect r.release a.id intent decision
      authorization heartbeatReceipt receipt
    dsimp only
    rw [houtput]
    exact ⟨hsupervisor, trivial, fun hno => hno⟩

/-- The steps of a request: there is none, it goes on, it gives its receipt to the call, or
it raises in the call. -/
inductive RequestStepped (env : Surroundings K) (r : SimulationRuntime K) (event : RequestEvent) :
    SimulationRuntime K × RuntimeOutput K → Prop
  | idle (hidle : r.active = none) : RequestStepped env r event (r, .none)
  | goesOn (a : ActiveCall K) (hactive : r.active = some a)
      (houtcome : (r.requestStep a event).2 = none) :
      RequestStepped env r event ((r.requestStep a event).1, .none)
  | returns (a : ActiveCall K) (hactive : r.active = some a) (receipt : GatewayReceipt)
      (houtcome : (r.requestStep a event).2 = some (.ok receipt)) :
      RequestStepped env r event ((r.requestStep a event).1.resume env a receipt)
  | raises (a : ActiveCall K) (hactive : r.active = some a) (failure : RuntimeFailure)
      (houtcome : (r.requestStep a event).2 = some (.error failure)) :
      RequestStepped env r event
        ((r.requestStep a event).1.release, a.errand.raised a.id failure)

theorem step_request (env : Surroundings K) (r : SimulationRuntime K) (event : RequestEvent) :
    RequestStepped env r event (r.step env (.request event)) := by
  unfold step
  cases hactive : r.active with
  | none => exact .idle hactive
  | some a =>
    dsimp only
    rcases hstep : r.requestStep a event with ⟨after, outcome⟩
    have hafter : (r.requestStep a event).1 = after := by rw [hstep]
    have houtcome : (r.requestStep a event).2 = outcome := by rw [hstep]
    rw [← hafter]
    rcases outcome with _ | (failure | receipt)
    · exact .goesOn a hactive houtcome
    · exact .raises a hactive failure houtcome
    · exact .returns a hactive receipt houtcome

theorem latched_resume (env : Surroundings K) (r : SimulationRuntime K) (a : ActiveCall K)
    (receipt : GatewayReceipt) (hl : r.Latched) : (r.resume env a receipt).1.Latched := by
  by_cases h : a.errand = .estop
  · rw [resume_estop env r a receipt h]
    exact MotionSafetySupervisor.call_latched r.supervisor
      (.triggerSoftwareEstop "simulation API E-stop") hl (fun hno => hno)
  · unfold Latched
    rw [(resume_other env r a receipt h).1]
    exact hl

theorem ofCall_step (env : Surroundings K) (r : SimulationRuntime K) (input : RuntimeInput)
    (hreset : input ≠ .resetEstop) (hread : input ≠ .readDiagnostics) :
    (r.step env input).2.OfCall := by
  cases input with
  | grant uuid => exact ofCall_grant env r uuid
  | request event =>
    have hstepped := step_request env r event
    generalize r.step env (.request event) = stepped at hstepped ⊢
    cases hstepped with
    | idle | goesOn => trivial
    | returns a hactive receipt houtcome =>
      by_cases herrand : a.errand = .estop
      · rw [resume_estop env _ a receipt herrand]
        trivial
      · exact (resume_other env _ a receipt herrand).2.1
    | raises a hactive failure houtcome => exact ofCall_raised a.errand a.id failure
  | resetEstop => exact absurd rfl hreset
  | readDiagnostics => exact absurd rfl hread
  | call | serve | loseRequest | loseResponse => trivial

theorem input_of_resetDone (env : Surroundings K) (r : SimulationRuntime K) (input : RuntimeInput)
    (cleared : Bool) (h : (r.step env input).2 = .resetDone cleared) : input = .resetEstop := by
  by_contra hreset
  by_cases hread : input = .readDiagnostics
  · rw [hread] at h
    cases h
  · have hcall := ofCall_step env r input hreset hread
    rw [h] at hcall
    exact hcall

/-- A latched host stays latched until a reset reports success. -/
theorem latched_step (env : Surroundings K) (r : SimulationRuntime K) (input : RuntimeInput)
    (hl : r.Latched) (hno : (r.step env input).2 ≠ .resetDone true) :
    (r.step env input).1.Latched := by
  cases input with
  | call kind => exact hl
  | grant uuid => exact latched_grant env r uuid hl
  | request event =>
    have hstepped := step_request env r event
    generalize r.step env (.request event) = stepped at hstepped ⊢
    cases hstepped with
    | idle => exact hl
    | goesOn a => exact latched_requestStep r a event hl
    | returns a _ receipt => exact latched_resume env _ a receipt (latched_requestStep r a event hl)
    | raises a => exact latched_requestStep r a event hl
  | serve =>
    change (r.serve).Latched
    unfold Latched
    rw [(serve_same r).supervisor_eq]
    exact hl
  | loseRequest => exact hl
  | loseResponse => exact hl
  | resetEstop => exact latched_resetEstop r hl hno
  | readDiagnostics => exact hl

/-- An E-stop call ends with the lock released; the host is latched if the request gave a
receipt, and is as it was if it did not. -/
theorem step_estopDone (env : Surroundings K) (r : SimulationRuntime K) (input : RuntimeInput)
    (h : (r.step env input).2.OfEstop) :
    (r.step env input).1.active = none ∧
      (RequestReturns r input ∧ (r.step env input).1.Latched ∨
        ¬ RequestReturns r input ∧ (r.step env input).1.supervisor = r.supervisor) := by
  cases input with
  | grant uuid =>
    have hno : ¬ RequestReturns r (.grant uuid) := by
      rintro ⟨_, _, hinput, _⟩
      cases hinput
    change (r.grant env uuid).2.OfEstop at h
    change (r.grant env uuid).1.active = none ∧ (_ ∨ _ ∧ (r.grant env uuid).1.supervisor = _)
    rcases r.grant_cases env uuid with hgrant |
      ⟨call, rest, _, _, ⟨_, hgrant⟩ | ⟨intent, _, hgrant⟩⟩
    · rw [hgrant] at h
      exact absurd h (fun hno => hno)
    · rw [hgrant] at h ⊢
      have hsame := sameSafety_startErrand env (r.granted rest) call.id .estop
      exact ⟨active_of_estopDone_startErrand env _ _ _ h, .inr ⟨hno, hsame.supervisor_eq⟩⟩
    · rw [hgrant] at h
      exact absurd h (ofCall_beginExecute env _ _ _ uuid).2
  | request event =>
    have hstepped := step_request env r event
    generalize r.step env (.request event) = stepped at h hstepped ⊢
    cases hstepped with
    | idle | goesOn => exact absurd h (fun hno => hno)
    | returns a hactive receipt houtcome =>
      by_cases herrand : a.errand = .estop
      · rw [resume_estop env _ a receipt herrand]
        have hdue := (requestStep_receipt_iff r a event).mp ⟨receipt, houtcome⟩
        exact ⟨rfl, .inl ⟨⟨event, a, rfl, hactive, hdue⟩, rfl⟩⟩
      · exact absurd h (resume_other env _ a receipt herrand).2.2
    | raises a hactive failure houtcome =>
      refine ⟨rfl, .inr ⟨?_, (sameSafety_requestStep r a event).supervisor_eq⟩⟩
      -- the request has failed, so no receipt was due
      rintro ⟨event', a', hevent, hactive', hdue⟩
      cases hevent
      cases hactive.symm.trans hactive'
      obtain ⟨receipt, hreceipt⟩ := (requestStep_receipt_iff r a event).mpr hdue
      rw [houtcome] at hreceipt
      cases hreceipt
  | resetEstop =>
    obtain ⟨cleared, houtput⟩ := (resetEstop_same r).resets
    change (r.resetEstop).2.OfEstop at h
    rw [houtput] at h
    exact absurd h (fun hno => hno)
  | call | serve | loseRequest | loseResponse | readDiagnostics =>
    exact absurd h (fun hno => hno)

theorem onlyEstop_step (env : Surroundings K) (r : SimulationRuntime K) (input : RuntimeInput)
    (hl : r.Latched) (h : r.OnlyEstop) : (r.step env input).1.OnlyEstop := by
  cases input with
  | grant uuid =>
    change (r.grant env uuid).1.OnlyEstop
    rcases r.grant_cases env uuid with hgrant |
      ⟨call, rest, _, _, ⟨_, hgrant⟩ | ⟨intent, _, hgrant⟩⟩
    · rwa [hgrant]
    · rw [hgrant]
      exact errand_of_startErrand env _ _ _
    · rw [hgrant]
      intro a ha
      rw [(beginExecute_latched env (r.granted rest) call.id intent uuid hl).2.2] at ha
      exact h a ha
  | request event =>
    have hstepped := step_request env r event
    generalize r.step env (.request event) = stepped at hstepped ⊢
    cases hstepped with
    | idle => exact h
    | goesOn a hactive houtcome =>
      intro later hlater
      exact (errand_of_requestStep r a later event hactive hlater).trans (h a hactive)
    | returns a hactive receipt houtcome =>
      rw [resume_estop env _ a receipt (h a hactive)]
      intro later hlater
      cases hlater
    | raises a hactive failure houtcome =>
      intro later hlater
      cases hlater
  | serve =>
    intro a ha
    exact h a ((serve_same r).active_eq.symm.trans ha)
  | resetEstop =>
    intro a ha
    exact h a ((resetEstop_same r).active_eq.symm.trans ha)
  | call | loseRequest | loseResponse | readDiagnostics => exact h

theorem refused_of_latched (env : Surroundings K) (r : SimulationRuntime K) (input : RuntimeInput)
    (id : ℕ) (hl : r.Latched) (h : r.OnlyEstop) (hruns : RunsExecute r input id) :
    Refused r (r.step env input).1 (r.step env input).2 id := by
  rcases hruns with ⟨uuid, intent, rest, rfl, hactive, hwaiting⟩ | ⟨event, a, rfl, ha, _, herrand⟩
  · have hstep : r.step env (.grant uuid) = (r.granted rest).beginExecute env id intent uuid := by
      unfold step grant
      rw [hactive, hwaiting]
    rw [hstep]
    have hrefused := (beginExecute_latched env (r.granted rest) id intent uuid hl).1
    exact ⟨hrefused.raises, hrefused.device_eq, hrefused.gateway_eq, hrefused.toDevice_eq⟩
  · exact absurd (h a ha) herrand

/-- Once an E-stop call has finished, and until a reset reports success, the host is latched
and refuses every behavior, exactly if the request of the call gave a receipt or the host
was latched before the call finished. -/
theorem estop_latches_host_iff (env : Surroundings K) (r : SimulationRuntime K)
    (before later : List RuntimeInput) (input : RuntimeInput)
    (hdone : ((run (step env) r before).step env input).2.OfEstop)
    (hno : ∀ e ∈ trace (step env) ((run (step env) r before).step env input).1 later,
      e.output ≠ .resetDone true) :
    ((∀ t ∈ states (step env) ((run (step env) r before).step env input).1 later, t.Latched) ∧
      ∀ e ∈ trace (step env) ((run (step env) r before).step env input).1 later,
        ∀ id, RunsExecute e.before e.input id → Refused e.before e.after e.output id) ↔
    RequestReturns (run (step env) r before) input ∨ (run (step env) r before).Latched := by
  obtain ⟨hactive, hends⟩ := step_estopDone env (run (step env) r before) input hdone
  constructor
  · -- the state in which the call ends is the first that has to be latched
    intro hholds
    have hfirst := hholds.1 _ (List.mem_cons_self ..)
    rcases hends with ⟨hreturns, _⟩ | ⟨_, hsupervisor⟩
    · exact .inl hreturns
    · unfold Latched at hfirst ⊢
      rw [hsupervisor] at hfirst
      exact .inr hfirst
  · intro hcondition
    have hfirst : ((run (step env) r before).step env input).1.Latched := by
      rcases hends with ⟨_, hlatched⟩ | ⟨hnot, hsupervisor⟩
      · exact hlatched
      · have hbefore := hcondition.resolve_left hnot
        unfold Latched at hbefore ⊢
        rwa [hsupervisor]
    -- the lock is free now, and while the host is latched only E-stop calls take it
    have honly : ((run (step env) r before).step env input).1.OnlyEstop := by
      intro a ha
      rw [hactive] at ha
      cases ha
    have hkept : ∀ s i, Latched s ∧ OnlyEstop s → (step env s i).2 ≠ .resetDone true →
        Latched (step env s i).1 ∧ OnlyEstop (step env s i).1 :=
      fun s i hs hi => ⟨latched_step env s i hs.1 hi, onlyEstop_step env s i hs.1 hs.2⟩
    constructor
    · intro t ht
      exact (states_latched (step env) (· = .resetDone true) hkept _ ⟨hfirst, honly⟩ later hno
        t ht).1
    · intro e he id hruns
      have hbefore := trace_latched (step env) (· = .resetDone true) hkept _ ⟨hfirst, honly⟩ later
        hno e he
      have hrefused := refused_of_latched env e.before e.input id hbefore.1 hbefore.2 hruns
      rwa [trace_step (step env) _ later e he] at hrefused

/-- In a run, every reset that reports success has ended the stop of the twin and of the
host, exactly if no reset is called while the host is latched and the twin is not stopped. -/
theorem resets_real_iff (env : Surroundings K) (r : SimulationRuntime K)
    (inputs : List RuntimeInput) :
    (∀ e ∈ trace (step env) r inputs, e.output = .resetDone true → e.after.FullyReset) ↔
      ∀ e ∈ trace (step env) r inputs, e.input = .resetEstop →
        e.before.twin.state = .estop ∨ ¬ e.before.Latched := by
  have hevent (e : Event (SimulationRuntime K) RuntimeInput (RuntimeOutput K))
      (he : e ∈ trace (step env) r inputs) (hinput : e.input = .resetEstop) :
      e.before.resetEstop = (e.after, e.output) := by
    have hstep := trace_step (step env) r inputs e he
    rwa [hinput] at hstep
  constructor
  · intro hreal e he hinput
    apply (resetEstop_real_iff e.before).mp
    rw [hevent e he hinput]
    exact hreal e he
  · intro hbefore e he houtput
    have hinput := input_of_resetDone env e.before e.input true
      ((congrArg Prod.snd (trace_step (step env) r inputs e he)).trans houtput)
    have hreal := (resetEstop_real_iff e.before).mpr (hbefore e he hinput)
    rw [hevent e he hinput] at hreal
    exact hreal houtput

end Step

section LostAnswer

/-- A planner that stays at the zero of every joint. -/
def stopSurroundings : Surroundings ℚ where
  plan _ _ := .ok ⟨⟨.finite 0, .finite 0, .finite 0⟩, fun _ => 0, fun _ => 0, fun _ => 0⟩
  authorizationPayload _ _ := .ok []

theorem stepPeriod_pos : (0 : ℚ) < 1/50 := by norm_num

def stopRuntime : SimulationRuntime ℚ :=
  fresh (referenceArm ℚ) (MotionSafetySupervisor.unverifiedSupervisor.perform .armWatchdog) (1/50)
    stepPeriod_pos

/-- An E-stop up to the answer of the device, which has stopped the twin. -/
def stopServed : List RuntimeInput :=
  [.call .estop, .grant .zero, .request .written, .serve, .request .deviceReturns]

theorem answer_ends :
    ((run (step stopSurroundings) stopRuntime stopServed).step stopSurroundings
      (.request .receive)).2.OfEstop := by decide

theorem answer_returns :
    RequestReturns (run (step stopSurroundings) stopRuntime stopServed) (.request .receive) := by
  have hbefore : ¬ (run (step stopSurroundings) stopRuntime stopServed).Latched := by
    decide
  have hafter : ((run (step stopSurroundings) stopRuntime stopServed).step stopSurroundings
      (.request .receive)).1.Latched := by decide
  -- the step latched the host, and without a receipt it would have left the supervisor
  rcases (step_estopDone stopSurroundings _ (.request .receive) answer_ends).2 with
    ⟨hreturns, _⟩ | ⟨_, hsupervisor⟩
  · exact hreturns
  · unfold Latched at hbefore hafter
    rw [hsupervisor] at hafter
    exact absurd hafter hbefore

theorem estop_latches_host_answered :
    (∀ t ∈ states (step stopSurroundings)
        ((run (step stopSurroundings) stopRuntime stopServed).step stopSurroundings
          (.request .receive)).1 [.call (.execute ⟨.think, .standard⟩), .grant .zero],
        t.Latched) ∧
      ∀ e ∈ trace (step stopSurroundings)
        ((run (step stopSurroundings) stopRuntime stopServed).step stopSurroundings
          (.request .receive)).1 [.call (.execute ⟨.think, .standard⟩), .grant .zero],
        ∀ id, RunsExecute e.before e.input id → Refused e.before e.after e.output id := by
  have hiff := estop_latches_host_iff stopSurroundings stopRuntime stopServed
    [.call (.execute ⟨.think, .standard⟩), .grant .zero] (.request .receive)
  refine (hiff answer_ends ?_).mpr (.inl answer_returns)
  -- none of the later inputs is a reset
  intro e he hreset
  have hinput := input_of_resetDone stopSurroundings e.before e.input true
    ((congrArg Prod.snd (trace_step _ _ _ e he)).trans hreset)
  have hmem := List.mem_map_of_mem (f := Event.input) he
  rw [trace_inputs, hinput] at hmem
  simp at hmem

/-- The device has stopped the twin, but its answer is lost: the call raises and the host is
not latched. -/
theorem lost_answer_not_latched :
    ((run (step stopSurroundings) stopRuntime stopServed).step stopSurroundings
        (.request (.receiveFails "protocol frame receive timed out"))).2.OfEstop ∧
      ¬ ((run (step stopSurroundings) stopRuntime stopServed).step stopSurroundings
        (.request (.receiveFails "protocol frame receive timed out"))).1.Latched := by
  decide

/-- The answer of the device is still on the link when a reset is called: the twin moves on
to idle, the call then latches the host, and a second reset reports success. -/
theorem reset_reports_latched_host :
    ∃ e ∈ trace (step stopSurroundings) stopRuntime
        (stopServed ++ [.resetEstop, .request .receive] ++ [.resetEstop]),
      e.output = .resetDone true ∧ ¬ e.after.FullyReset := by
  let latched := run (step stopSurroundings) stopRuntime
    (stopServed ++ [.resetEstop, .request .receive])
  have hmoving : latched.twin.state ≠ .estop := by decide
  have hlatched : latched.Latched := by decide
  have hreset := resetEstop_moving latched hmoving
  refine ⟨⟨latched, .resetEstop, .resetDone true, latched⟩, ?_, rfl,
    fun h => h.not_latched hlatched⟩
  rw [trace_append, List.mem_append]
  apply Or.inr
  rw [trace_cons, trace_nil, List.mem_singleton]
  have hstep : step stopSurroundings latched .resetEstop = (latched, .resetDone true) := hreset
  rw [hstep]

end LostAnswer
end SimulationRuntime
end RoboticCharacter.Simulation
