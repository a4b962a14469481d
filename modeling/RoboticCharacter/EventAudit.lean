import RoboticCharacter.AuditDurability
import RoboticCharacter.EventCalls

/-! The event bus and the audit log as one system: `EventAuditBridge` subscribes to every event, and
each of its handler's calls is a call of `append` that the worker waits for. -/
namespace RoboticCharacter.EventAudit
open Events Machine PythonJson

/-- What `append_event` passes on of an event, with the event in JSON mode as the payload. -/
structure EventDump (φ υ : Type) where
  eventType : String
  source : String
  interactionId : Option υ
  payload : List (String × JsonData φ)

/-- The UUID and the time that a call of `append` takes. -/
structure Stamp (υ : Type) where
  entryId : υ
  now : Audit.UtcTime

def EventDump.call {φ υ : Type} (dump : EventDump φ υ) (stamp : Stamp υ) :
    Audit.AppendCall φ υ where
  eventType := dump.eventType
  source := dump.source
  payload := some (Audit.rawEntries dump.payload)
  interactionId := dump.interactionId
  entryId := stamp.entryId
  now := stamp.now

/-- The bus, a log with a path, and the bridge between them. -/
structure AuditedBus (φ υ δ ε τ : Type) where
  bus : EventBus ε τ
  logger : Audit.LoggerState φ υ δ
  subscription : Option ℕ := none
  /-- The subscriptions whose handler is the bridge's. -/
  handles : List ℕ := []
  /-- The worker whose call of `append` holds the lock. -/
  holder : Option ℕ := none
  /-- The workers whose calls wait for the lock, in order. -/
  waiting : List ℕ := []

/-- The steps of the executor's threads. -/
inductive ThreadStep
  | starts
  | puts (count : ℕ)
  | returns
  | raises
  | orphanPuts (place count : ℕ)
  | orphanEnds (place : ℕ)

def ThreadStep.action {φ υ : Type} : ThreadStep → Audit.LoggerAction φ υ
  | .starts => .startThread
  | .puts count => .put count
  | .returns => .threadReturns
  | .raises => .threadRaises
  | .orphanPuts place count => .orphanPut place count
  | .orphanEnds place => .orphanEnds place

inductive AuditedInput (υ ε τ : Type)
  /-- A step of the bus, which may call the bridge's handler, but ends no call of it. -/
  | bus (input : BusInput ε τ) (stamp : Stamp υ)
  | bridgeStart
  | bridgeStop
  | thread (step : ThreadStep)
  /-- The first waiting call takes the lock. -/
  | lockTaken
  /-- The call that holds the lock goes on after its thread has ended, with an OSError of this text
  if it raised. -/
  | resumes (stamp : Stamp υ) (error : String)
  /-- A call of the handler raised before its thread was made. -/
  | raises (index : ℕ) (errorType message : String) (stamp : Stamp υ)
  /-- A cancelled worker's call of `append` is given up. -/
  | cancelled (index : ℕ)

/-- The step of the bus that was made, if one was. -/
abbrev AuditedOutput (ε τ : Type) := Option (BusInput ε τ × BusAnswer ε)

end RoboticCharacter.EventAudit

namespace RoboticCharacter.Events
open Machine

def EventBus.cancelRequestedAt {ε τ : Type*} (bus : EventBus ε τ) (index : ℕ) : Bool :=
  (bus.workers[index]?.map Worker.cancelRequested).getD false

section Workers
variable {ε τ : Type*}

theorem dispatchAt_set {bus after : EventBus ε τ} {index other : ℕ} {worker : Worker ε}
    (h : after.workers = bus.workers.set index worker) (hother : index ≠ other) :
    after.dispatchAt other = bus.dispatchAt other := by
  rw [EventBus.dispatchAt, h, List.getElem?_set_ne hother, EventBus.dispatchAt]

theorem dispatchAt_set_self {bus after : EventBus ε τ} {index : ℕ} {dispatch : Dispatch ε}
    {worker : Worker ε}
    (h : after.workers = bus.workers.set index { phase := .dispatching dispatch })
    (hworker : bus.workers[index]? = some worker) : after.dispatchAt index = some dispatch := by
  have hlt := (List.getElem?_eq_some_iff.mp hworker).1
  rw [EventBus.dispatchAt, h, List.getElem?_set_self hlt]
  rfl

theorem cancelWorkers_dispatchAt (bus : EventBus ε τ) (index : ℕ) :
    bus.cancelWorkers.1.dispatchAt index = bus.dispatchAt index := by
  unfold EventBus.dispatchAt EventBus.cancelWorkers
  dsimp only
  rw [List.getElem?_map]
  cases bus.workers[index]? <;> rfl

/-- A worker that dispatches takes nothing. -/
theorem take_dispatching (isInstance : ε → τ → Bool) {bus : EventBus ε τ} {index : ℕ}
    {dispatch : Dispatch ε} (h : bus.dispatchAt index = some dispatch) :
    bus.take isInstance index = (bus, .blocked) := by
  obtain ⟨cancelRequested, hworker⟩ := exists_worker h
  unfold EventBus.take
  rw [hworker]

variable [DecidableEq τ] (isInstance : ε → τ → Bool)

/-- A worker's dispatch is left alone by the steps of the others. -/
theorem busStep_dispatchAt (bus : EventBus ε τ) (input : BusInput ε τ) {index : ℕ}
    {dispatch : Dispatch ε} (h : bus.dispatchAt index = some dispatch)
    (hother : input.worker? ≠ some index) :
    (busStep isInstance bus input).1.dispatchAt index = some dispatch := by
  cases input with
  | subscribe eventType handlerName => exact h
  | unsubscribe subscriptionId eventType =>
    dsimp only [busStep, EventBus.unsubscribe]
    split <;> exact h
  | publish event priority =>
    dsimp only [busStep, EventBus.publish]
    split_ifs <;> exact h
  | publishNowait event priority =>
    dsimp only [busStep, EventBus.publishNowait]
    split_ifs <;> exact h
  | publisherResumes place =>
    dsimp only [busStep, EventBus.publisherResumes]
    split
    · exact h
    · split_ifs <;> exact h
  | publisherCancelled place =>
    dsimp only [busStep, EventBus.publisherCancelled]
    split <;> exact h
  | take place =>
    have hne : place ≠ index := fun heq => hother (congrArg some heq)
    dsimp only [busStep, EventBus.take]
    split
    · split
      · exact h
      · rw [← h]
        exact dispatchAt_set rfl hne
    · exact h
  | handlerEnds place outcome =>
    have hne : place ≠ index := fun heq => hother (congrArg some heq)
    dsimp only [busStep, EventBus.handlerEnds]
    split
    · rw [← h]
      cases outcome with
      | returned =>
        dsimp only [EventBus.nextHandler]
        split <;> exact dispatchAt_set rfl hne
      | raised errorType message =>
        dsimp only [EventBus.nextHandler]
        split <;> exact dispatchAt_set rfl hne
      | escaped => exact dispatchAt_set rfl hne
    · exact h
  | workerCancelled place =>
    dsimp only [busStep, EventBus.workerCancelled]
    split
    · rename_i hworker
      -- the worker that ends was idle, so it is another one
      have hne : place ≠ index := by
        rintro rfl
        obtain ⟨cancelRequested, hdispatching⟩ := exists_worker h
        rw [hworker] at hdispatching
        cases hdispatching
      rw [← h]
      exact dispatchAt_set rfl hne
    · exact h
  | stop drain =>
    dsimp only [busStep, EventBus.stop]
    split_ifs
    · exact h
    · exact h
    · exact h
    · exact (cancelWorkers_dispatchAt bus index).trans h
  | stopResumes =>
    dsimp only [busStep, EventBus.stopResumes]
    split_ifs
    · exact (cancelWorkers_dispatchAt bus index).trans h
    · exact h
  | stopReturns =>
    dsimp only [busStep, EventBus.stopReturns]
    split_ifs with hended
    · -- no worker dispatches any more
      obtain ⟨cancelRequested, hworker⟩ := exists_worker h
      have hend := List.all_eq_true.mp hended.2 _ (List.mem_of_getElem? hworker)
      exact absurd hend Bool.false_ne_true
    · exact h

/-- What a worker's step calls, it awaits; and it awaited nothing, or what has just ended. -/
theorem busStep_called (bus : EventBus ε τ) (input : BusInput ε τ) {entry : Entry ε}
    {registered : RegisteredHandler}
    (h : (busStep isInstance bus input).2.called? = some (entry, registered)) :
    ∃ index rest, input.worker? = some index ∧
      (busStep isInstance bus input).1.dispatchAt index = some ⟨entry, registered, rest⟩ := by
  have hsome : input.worker? ≠ none := by
    intro hnone
    rw [(busStep_bystander isInstance bus input hnone).1] at h
    cases h
  cases input with
  | take place =>
    refine ⟨place, ?_⟩
    dsimp only [busStep, EventBus.take] at h ⊢
    split at h
    · rename_i held queue hworker hget
      split at h
      · cases h
      · rename_i current rest _
        obtain ⟨rfl, rfl⟩ := Prod.mk.inj (Option.some.inj h)
        exact ⟨rest, rfl, dispatchAt_set_self rfl hworker⟩
    · cases h
  | handlerEnds place outcome =>
    refine ⟨place, ?_⟩
    dsimp only [busStep, EventBus.handlerEnds] at h ⊢
    split at h
    · rename_i dispatch cancelRequested hworker
      cases outcome with
      | escaped => cases h
      | returned =>
        dsimp only [EventBus.nextHandler] at h ⊢
        split at h
        · cases h
        · rename_i next rest _
          obtain ⟨rfl, rfl⟩ := Prod.mk.inj (Option.some.inj h)
          exact ⟨rest, rfl, dispatchAt_set_self rfl hworker⟩
      | raised errorType message =>
        dsimp only [EventBus.nextHandler] at h ⊢
        split at h
        · cases h
        · rename_i next rest _
          obtain ⟨rfl, rfl⟩ := Prod.mk.inj (Option.some.inj h)
          exact ⟨rest, rfl, dispatchAt_set_self rfl hworker⟩
    · cases h
  | _ => exact absurd rfl hsome

end Workers

end RoboticCharacter.Events

namespace RoboticCharacter.EventAudit
open Events Machine PythonJson

namespace AuditedBus
section Steps
variable {φ υ δ ε τ : Type} [PyFloat φ] [Audit.AuditModel φ υ δ]

/-- The worker awaits a call of the bridge's handler. -/
def serves (s : AuditedBus φ υ δ ε τ) (index : ℕ) : Bool :=
  match s.bus.dispatchAt index with
  | some dispatch => decide (dispatch.current.subscriptionId ∈ s.handles)
  | none => false

variable [DecidableEq τ] (isInstance : ε → τ → Bool) (anyEvent : τ)
  (dump : ε → Option (EventDump φ υ))

/-- `_handle` up to its first suspension; where `model_dump` or `append` raises at once, nothing
has changed. -/
def handle (s : AuditedBus φ υ δ ε τ) (index : ℕ) (stamp : Stamp υ) (event : ε) :
    AuditedBus φ υ δ ε τ :=
  match dump event with
  | none => s
  | some fields =>
    match Audit.step s.logger (.call (fields.call stamp)) with
    | none => s
    | some logger =>
      if s.holder = none ∧ s.waiting = [] then
        { s with logger, holder := logger.holder.map fun _ => index }
      else { s with logger, waiting := s.waiting ++ [index] }

/-- A step of the bus, and what the handler that it calls does at once. -/
def busSteps (s : AuditedBus φ υ δ ε τ) (input : BusInput ε τ) (stamp : Stamp υ) :
    AuditedBus φ υ δ ε τ × AuditedOutput ε τ :=
  let result := busStep isInstance s.bus input
  let stepped := { s with bus := result.1 }
  match input.worker?, result.2.called? with
  | some index, some (entry, registered) =>
    if registered.subscriptionId ∈ s.handles then
      (stepped.handle dump index stamp entry.event, some (input, result.2))
    else (stepped, some (input, result.2))
  | _, _ => (stepped, some (input, result.2))

/-- How a call of `append` ends once its thread has. -/
def appendOutcome (error : String) : Audit.Job → HandlerOutcome
  | .finished => .returned
  | _ => .raised "AuditStorageError" ("failed to append audit record: " ++ error)

def step (s : AuditedBus φ υ δ ε τ) :
    AuditedInput υ ε τ → AuditedBus φ υ δ ε τ × AuditedOutput ε τ
  | .bus input stamp =>
    match input with
    | .handlerEnds index _ =>
      if s.serves index then (s, none) else s.busSteps isInstance dump input stamp
    -- no one else has the bridge's token
    | .unsubscribe subscriptionId _ =>
      if subscriptionId ∈ s.handles then (s, none) else s.busSteps isInstance dump input stamp
    | _ => s.busSteps isInstance dump input stamp
  | .bridgeStart =>
    match s.subscription with
    | some _ => (s, none)
    | none =>
      let input := .subscribe anyEvent "EventAuditBridge._handle"
      let result := busStep isInstance s.bus input
      ({ s with
          bus := result.1,
          subscription := some s.bus.subscriptions,
          handles := s.handles ++ [s.bus.subscriptions] },
        some (input, result.2))
  | .bridgeStop =>
    match s.subscription with
    | none => (s, none)
    | some subscriptionId =>
      let input := .unsubscribe subscriptionId anyEvent
      let result := busStep isInstance s.bus input
      ({ s with bus := result.1, subscription := none }, some (input, result.2))
  | .thread threadStep =>
    match Audit.step s.logger threadStep.action with
    | none => (s, none)
    | some logger => ({ s with logger }, none)
  -- a task that was cancelled does not go on, but is given up
  | .lockTaken =>
    match Audit.step s.logger .wake, s.waiting with
    | some logger, index :: rest =>
      if s.bus.cancelRequestedAt index then (s, none)
      else ({ s with logger, holder := logger.holder.map fun _ => index, waiting := rest }, none)
    | _, _ => (s, none)
  | .resumes stamp error =>
    match s.holder, s.logger.holder, Audit.step s.logger .resume with
    | some index, some pending, some logger =>
      if s.bus.cancelRequestedAt index then (s, none)
      else
        { s with logger, holder := none }.busSteps isInstance dump
          (.handlerEnds index (appendOutcome error pending.job)) stamp
    | _, _, _ => (s, none)
  | .raises index errorType message stamp =>
    if s.serves index = true ∧ s.holder ≠ some index ∧ index ∉ s.waiting then
      s.busSteps isInstance dump (.handlerEnds index (.raised errorType message)) stamp
    else (s, none)
  | .cancelled index =>
    if s.bus.cancelRequestedAt index then
      let input := .handlerEnds index (.escaped false)
      let result := busStep isInstance s.bus input
      if s.holder = some index then
        match Audit.step s.logger .cancelHolder with
        | none => (s, none)
        | some logger =>
          ({ s with bus := result.1, logger, holder := none }, some (input, result.2))
      else
        match Audit.step s.logger (.cancelWaiting (s.waiting.idxOf index)) with
        | none => (s, none)
        | some logger =>
          ({ s with
              bus := result.1, logger, waiting := s.waiting.eraseIdx (s.waiting.idxOf index) },
            some (input, result.2))
    else (s, none)

/-- A bus that was started, and a logger that was constructed on a log. -/
def new (config : EventBusConfig) (log : Audit.DurableLog φ υ δ) : AuditedBus φ υ δ ε τ where
  bus := startedBus config
  logger := Audit.opened log

end Steps
end AuditedBus
end RoboticCharacter.EventAudit
