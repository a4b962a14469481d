import RoboticCharacter.SimulationAuthority

/-! The calls of `execute_behavior` that have not ended: they end one by one, in the order in which
they were made, and each with its own output. -/
namespace RoboticCharacter.Simulation
open Safety Gateway PythonMath Machine

/-- The behavior that a request is sent for. -/
def Errand.behavior {K : Type} : Errand K → Option BehaviorIntent
  | .estop => none
  | .heartbeat intent _ _ => some intent
  | .motion intent _ _ _ => some intent

def RuntimeCall.execute (call : RuntimeCall) : Option (ℕ × BehaviorIntent) :=
  match call.kind with
  | .estop => none
  | .execute intent => some (call.id, intent)

/-- What an output leaves of the behaviors that are executed: all of them, or all but the first,
if it is what that one ends with. -/
inductive ExecuteEffect {K : Type} (before : List (ℕ × BehaviorIntent)) :
    List (ℕ × BehaviorIntent) → RuntimeOutput K → Prop
  | kept (output : RuntimeOutput K) (hother : ∀ id result, output ≠ .executeDone id result) :
      ExecuteEffect before before output
  | ended (id : ℕ) (intent : BehaviorIntent) (rest : List (ℕ × BehaviorIntent))
      (result : Except RuntimeFailure (SimulationExecutionReport K))
      (hfirst : before = (id, intent) :: rest) :
      ExecuteEffect before rest (.executeDone id result)

theorem ExecuteEffect.none {K : Type} (before : List (ℕ × BehaviorIntent)) :
    ExecuteEffect before before (.none : RuntimeOutput K) := by
  apply ExecuteEffect.kept
  intro id result houtput
  cases houtput

/-- What a call that raises ends with. -/
theorem raised_effect {K : Type} (errand : Errand K) (id : ℕ) (failure : RuntimeFailure)
    (rest : List (ℕ × BehaviorIntent)) :
    ExecuteEffect ((errand.behavior.map fun intent => (id, intent)).toList ++ rest) rest
      (errand.raised id failure) := by
  cases errand with
  | estop =>
    apply ExecuteEffect.kept
    intro other result houtput
    cases houtput
  | heartbeat intent | motion intent => exact .ended id intent rest _ rfl

namespace SimulationRuntime
section Calls
variable {K : Type} [Field K] [LinearOrder K]

def waitingExecutes (r : SimulationRuntime K) : List (ℕ × BehaviorIntent) :=
  r.waiting.filterMap RuntimeCall.execute

/-- The calls of `execute_behavior` that have not ended, in the order of the calls. -/
def executing (r : SimulationRuntime K) : List (ℕ × BehaviorIntent) :=
  (r.active.bind fun a => a.errand.behavior.map fun intent => (a.id, intent)).toList ++
    r.waitingExecutes

theorem executing_idle {r : SimulationRuntime K} (hactive : r.active = none) :
    r.executing = r.waitingExecutes := by
  unfold executing
  rw [hactive]
  rfl

theorem executing_active {r : SimulationRuntime K} {a : ActiveCall K}
    (hactive : r.active = some a) :
    r.executing = (a.errand.behavior.map fun intent => (a.id, intent)).toList ++
      r.waitingExecutes := by
  unfold executing
  rw [hactive]
  rfl

theorem startErrand_effect (env : Surroundings K) (r : SimulationRuntime K) (id : ℕ)
    (errand : Errand K) :
    ExecuteEffect ((errand.behavior.map fun intent => (id, intent)).toList ++ r.waitingExecutes)
      (r.startErrand env id errand).1.executing (r.startErrand env id errand).2 := by
  unfold startErrand
  split
  · exact raised_effect errand id _ r.waitingExecutes
  · exact .none _

theorem nextId_startErrand (env : Surroundings K) (r : SimulationRuntime K) (id : ℕ)
    (errand : Errand K) : (r.startErrand env id errand).1.nextId = r.nextId := by
  unfold startErrand
  split <;> rfl

/-- A request that goes on is the request of the same call. -/
theorem requestStep_executing (r : SimulationRuntime K) (a : ActiveCall K) (event : RequestEvent)
    (hactive : r.active = some a) :
    ((r.requestStep a event).2 = none → (r.requestStep a event).1.executing = r.executing) ∧
      (r.requestStep a event).1.waitingExecutes = r.waitingExecutes ∧
      (r.requestStep a event).1.nextId = r.nextId := by
  have heffect := r.requestStep_effect a event
  generalize r.requestStep a event = stepped at heffect ⊢
  cases heffect with
  | ignored | taskEnds => exact ⟨fun _ => rfl, rfl, rfl⟩
  | written | awaits =>
    refine ⟨fun _ => ?_, rfl, rfl⟩
    rw [executing_active hactive]
    rfl
  | writeFails | receiveFails | refused | acknowledged | taskAwaited =>
    exact ⟨fun hno => absurd hno (Option.some_ne_none _), rfl, rfl⟩

end Calls

section Execute
variable {K : Type} [Field K] [LinearOrder K] [ToString K]

theorem beginExecute_effect (env : Surroundings K) (r : SimulationRuntime K) (id : ℕ)
    (intent : BehaviorIntent) (uuid : Uuid) (hactive : r.active = none) :
    ExecuteEffect ((id, intent) :: r.waitingExecutes)
      (r.beginExecute env id intent uuid).1.executing (r.beginExecute env id intent uuid).2 ∧
    (r.beginExecute env id intent uuid).1.nextId = r.nextId := by
  -- a call that is refused before its first request leaves the calls behind it
  have hended (supervisor : MotionSafetySupervisor K)
      (result : Except RuntimeFailure (SimulationExecutionReport K)) :
      ExecuteEffect ((id, intent) :: r.waitingExecutes)
        (executing { r with supervisor := supervisor }) (.executeDone id result) := by
    rw [executing_idle (r := { r with supervisor := supervisor }) hactive]
    exact .ended id intent _ result rfl
  have hstarted (supervisor : MotionSafetySupervisor K) (decision : MotionDecision)
      (authorization : MotionAuthorization K) :
      ExecuteEffect ((id, intent) :: r.waitingExecutes)
        (startErrand env { r with supervisor := supervisor } id
          (.heartbeat intent decision authorization)).1.executing
        (startErrand env { r with supervisor := supervisor } id
          (.heartbeat intent decision authorization)).2 :=
    startErrand_effect env { r with supervisor := supervisor } id
      (.heartbeat intent decision authorization)
  unfold beginExecute
  split
  · exact ⟨hended r.supervisor _, rfl⟩
  · dsimp only
    split
    · exact ⟨hstarted _ _ _, nextId_startErrand env _ id _⟩
    · exact ⟨hended _ _, rfl⟩

theorem grant_effect (env : Surroundings K) (r : SimulationRuntime K) (uuid : Uuid) :
    ExecuteEffect r.executing (r.grant env uuid).1.executing (r.grant env uuid).2 ∧
      (r.grant env uuid).1.nextId = r.nextId := by
  obtain hidle | ⟨call, rest, hactive, hwaiting, ⟨hkind, hgrant⟩ | ⟨intent, hkind, hgrant⟩⟩ :=
    r.grant_cases env uuid
  · rw [hidle]
    exact ⟨.none _, rfl⟩
  · rw [hgrant, executing_idle hactive]
    have hrest : r.waitingExecutes = (r.granted rest).waitingExecutes := by
      unfold waitingExecutes RuntimeCall.execute
      rw [hwaiting, List.filterMap_cons, hkind]
      rfl
    rw [hrest]
    exact ⟨startErrand_effect env _ call.id .estop, nextId_startErrand env _ call.id .estop⟩
  · rw [hgrant, executing_idle hactive]
    have hfirst : r.waitingExecutes = (call.id, intent) :: (r.granted rest).waitingExecutes := by
      unfold waitingExecutes RuntimeCall.execute
      rw [hwaiting, List.filterMap_cons, hkind]
      rfl
    rw [hfirst]
    exact beginExecute_effect env (r.granted rest) call.id intent uuid hactive

end Execute

section Step
variable {K : Type} [Field K] [LinearOrder K] [FloorRing K] [SquareRoot K] [ToString K]
  (env : Surroundings K) (r : SimulationRuntime K)

theorem resume_effect (a : ActiveCall K) (receipt : GatewayReceipt) :
    ExecuteEffect ((a.errand.behavior.map fun intent => (a.id, intent)).toList ++
        r.waitingExecutes) (r.resume env a receipt).1.executing (r.resume env a receipt).2 ∧
      (r.resume env a receipt).1.nextId = r.nextId := by
  unfold resume
  cases a.errand with
  | estop =>
    refine ⟨.kept _ ?_, rfl⟩
    intro id result houtput
    cases houtput
  | heartbeat intent decision authorization =>
    exact ⟨startErrand_effect env r a.id (.motion intent decision authorization receipt),
      nextId_startErrand env r a.id _⟩
  | motion intent decision authorization heartbeatReceipt =>
    obtain ⟨-, result, houtput⟩ := finishExecute_effect r.release a.id intent decision
      authorization heartbeatReceipt receipt
    dsimp only
    rw [houtput, finishExecute_runtime]
    exact ⟨.ended a.id intent _ result rfl, rfl⟩

theorem request_effect (event : RequestEvent) :
    ExecuteEffect r.executing (r.step env (.request event)).1.executing
        (r.step env (.request event)).2 ∧
      (r.step env (.request event)).1.nextId = r.nextId := by
  have hstepped := step_request env r event
  generalize r.step env (.request event) = stepped at hstepped ⊢
  cases hstepped with
  | idle => exact ⟨.none _, rfl⟩
  | goesOn a hactive houtcome =>
    obtain ⟨hsame, -, hnext⟩ := requestStep_executing r a event hactive
    rw [← hsame houtcome]
    exact ⟨.none _, hnext⟩
  | returns a hactive receipt =>
    obtain ⟨-, hwaiting, hnext⟩ := requestStep_executing r a event hactive
    rw [executing_active hactive, ← hwaiting, ← hnext]
    exact resume_effect env _ a receipt
  | raises a hactive failure =>
    obtain ⟨-, hwaiting, hnext⟩ := requestStep_executing r a event hactive
    rw [executing_active hactive, ← hwaiting]
    exact ⟨raised_effect a.errand a.id failure _, hnext⟩

theorem executing_call (kind : CallKind) :
    (r.step env (.call kind)).1.executing =
      r.executing ++ (RuntimeCall.mk r.nextId kind).execute.toList := by
  change (r.active.bind fun a => a.errand.behavior.map fun intent => (a.id, intent)).toList ++
      (r.waiting ++ [RuntimeCall.mk r.nextId kind]).filterMap RuntimeCall.execute = _
  rw [filterMap_snoc, ← List.append_assoc]
  rfl

omit [FloorRing K] [SquareRoot K] [ToString K] in
theorem serve_executing : r.serve.executing = r.executing ∧ r.serve.nextId = r.nextId := by
  unfold serve
  split
  · split <;> exact ⟨rfl, rfl⟩
  · exact ⟨rfl, rfl⟩

omit [FloorRing K] [SquareRoot K] in
theorem resetEstop_executing :
    (r.resetEstop).1.executing = r.executing ∧ (r.resetEstop).1.nextId = r.nextId := by
  unfold resetEstop
  split_ifs <;> exact ⟨rfl, rfl⟩

/-- Every step but a call ends at most the first behavior that is executed. -/
theorem step_effect (input : RuntimeInput) (hcall : ∀ kind, input ≠ .call kind) :
    ExecuteEffect r.executing (r.step env input).1.executing (r.step env input).2 ∧
      (r.step env input).1.nextId = r.nextId := by
  cases input with
  | call kind => exact absurd rfl (hcall kind)
  | grant uuid => exact grant_effect env r uuid
  | request event => exact request_effect env r event
  | serve =>
    obtain ⟨hkept, hnext⟩ := serve_executing r
    refine ⟨?_, hnext⟩
    change ExecuteEffect r.executing r.serve.executing .none
    rw [hkept]
    exact .none _
  | resetEstop =>
    obtain ⟨hkept, hnext⟩ := resetEstop_executing r
    obtain ⟨cleared, houtput⟩ := r.resetEstop_same.resets
    refine ⟨?_, hnext⟩
    change ExecuteEffect r.executing (r.resetEstop).1.executing (r.resetEstop).2
    rw [hkept, houtput]
    apply ExecuteEffect.kept
    intro id result hdone
    cases hdone
  | readDiagnostics =>
    refine ⟨.kept _ ?_, rfl⟩
    intro id result houtput
    cases houtput
  | loseRequest | loseResponse => exact ⟨.none _, rfl⟩

end Step
end SimulationRuntime
end RoboticCharacter.Simulation
