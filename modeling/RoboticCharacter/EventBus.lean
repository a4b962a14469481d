import RoboticCharacter.AsyncQueue
import RoboticCharacter.EventHistory

/-! The bounded in-process event bus: publishers, dispatcher workers, subscriptions and one
call of `stop`, interleaved at their suspensions. -/
namespace RoboticCharacter.Events
open AsyncQueue Machine

/-- Lower numeric values are dispatched before higher values. -/
inductive EventPriority
  | critical
  | high
  | normal
  | low
  deriving DecidableEq, Repr

def EventPriority.value : EventPriority → ℕ
  | critical => 0
  | high => 10
  | normal => 20
  | low => 30

structure Entry (ε : Type*) where
  priority : ℕ
  sequence : ℕ
  event : ε
  deriving DecidableEq, Repr

/-- The order of the queue's tuples; the sequence numbers decide before the events would. -/
def Entry.before {ε : Type*} (a b : Entry ε) : Prop :=
  a.priority < b.priority ∨ a.priority = b.priority ∧ a.sequence ≤ b.sequence

instance {ε : Type*} : DecidableRel (Entry.before (ε := ε)) :=
  fun a b => inferInstanceAs
    (Decidable (a.priority < b.priority ∨ a.priority = b.priority ∧ a.sequence ≤ b.sequence))

structure RegisteredHandler where
  subscriptionId : ℕ
  handlerName : String
  deriving DecidableEq, Repr

/-- How an awaited handler ends. What escapes `except Exception` (a `CancelledError`, or
another `BaseException`) escapes the worker as well, uncounted; so does what is raised when a
counted failure is put on record (`str` of the exception, or `repr` of the handler). -/
inductive HandlerOutcome
  | returned
  | raised (errorType message : String)
  | escaped (counted : Bool)
  deriving DecidableEq, Repr

structure HandlerFailure (ε : Type*) where
  event : ε
  subscriptionId : ℕ
  handlerName : String
  errorType : String
  message : String
  deriving DecidableEq, Repr

/-- A dispatch under way: `current` is being awaited, `rest` are matched and still to come. -/
structure Dispatch (ε : Type*) where
  entry : Entry ε
  current : RegisteredHandler
  rest : List RegisteredHandler
  deriving DecidableEq, Repr

inductive WorkerPhase (ε : Type*)
  | idle
  | dispatching (dispatch : Dispatch ε)
  | ended
  deriving DecidableEq, Repr

/-- A dispatcher task, and whether it was cancelled at its present suspension. -/
structure Worker (ε : Type*) where
  phase : WorkerPhase ε
  cancelRequested : Bool := false
  deriving DecidableEq, Repr

/-- Where the one call of `stop` is. -/
inductive StopPhase
  | notCalled
  | joining (released : Bool)
  | gathering
  | returned
  deriving DecidableEq, Repr

structure EventBus (ε τ : Type*) where
  queue : PriorityQueue (Entry ε)
  failureHistorySize : ℕ
  handlers : List (τ × List RegisteredHandler) := []
  workers : List (Worker ε) := []
  blocked : List (Entry ε) := []
  sequence : ℕ := 0
  subscriptions : ℕ := 0
  running : Bool := false
  published : ℕ := 0
  delivered : ℕ := 0
  handlerFailures : ℕ := 0
  rejectedFull : ℕ := 0
  failures : List (HandlerFailure ε) := []
  stopping : StopPhase := .notCalled
  deriving DecidableEq, Repr

/-- The constructor's arguments, which it requires to be positive. -/
structure EventBusConfig where
  queueSize : ℕ := 256
  workerCount : ℕ := 1
  failureHistorySize : ℕ := 100
  queueSize_pos : 0 < queueSize
  workerCount_pos : 0 < workerCount
  failureHistorySize_pos : 0 < failureHistorySize

inductive BusAnswer (ε : Type*)
  | blocked
  | subscribed (subscriptionId : ℕ)
  | unsubscribed (existed : Bool)
  | notRunning
  | queueFull
  | accepted (entry : Entry ε)
  | waits (entry : Entry ε)
  | withdrawn
  | took (entry : Entry ε) (matched : List RegisteredHandler)
  | handled (entry : Entry ε) (registered : RegisteredHandler) (outcome : HandlerOutcome)
      (next : Option RegisteredHandler)
  | workerEnded
  | stopWaits
  | stopGathers
  | stopReturned
  deriving DecidableEq, Repr

namespace EventBus
variable {ε τ : Type*}

def new (config : EventBusConfig) : EventBus ε τ :=
  { queue := { maxsize := config.queueSize }, failureHistorySize := config.failureHistorySize }

def start (bus : EventBus ε τ) (workerCount : ℕ) : EventBus ε τ :=
  if bus.running then bus
  else { bus with running := true, workers := List.replicate workerCount { phase := .idle } }

/-- `handlers[event_type].append(registered)` on an insertion-ordered default dictionary. -/
def addHandler [DecidableEq τ] (registered : RegisteredHandler) (eventType : τ) :
    List (τ × List RegisteredHandler) → List (τ × List RegisteredHandler)
  | [] => [(eventType, [registered])]
  | (key, handlers) :: rest =>
    if key = eventType then (key, handlers ++ [registered]) :: rest
    else (key, handlers) :: addHandler registered eventType rest

def subscribe [DecidableEq τ] (bus : EventBus ε τ) (eventType : τ) (handlerName : String) :
    EventBus ε τ × BusAnswer ε :=
  let registered : RegisteredHandler := ⟨bus.subscriptions, handlerName⟩
  ({ bus with
      handlers := addHandler registered eventType bus.handlers,
      subscriptions := bus.subscriptions+1 },
    .subscribed bus.subscriptions)

/-- The registrations of one type without one subscription; a type left without any is
taken out of the dictionary. -/
def dropHandler [DecidableEq τ] (subscriptionId : ℕ) (eventType : τ) :
    List (τ × List RegisteredHandler) → List (τ × List RegisteredHandler)
  | [] => []
  | (key, handlers) :: rest =>
    if key = eventType then
      let kept := handlers.filter (fun registered => registered.subscriptionId ≠ subscriptionId)
      if kept = [] then rest else (key, kept) :: rest
    else (key, handlers) :: dropHandler subscriptionId eventType rest

def unsubscribe [DecidableEq τ] (bus : EventBus ε τ) (subscriptionId : ℕ) (eventType : τ) :
    EventBus ε τ × BusAnswer ε :=
  match bus.handlers.lookup eventType with
  | none => (bus, .unsubscribed false)
  | some handlers =>
    ({ bus with handlers := dropHandler subscriptionId eventType bus.handlers },
      .unsubscribed (handlers.any (fun registered => registered.subscriptionId = subscriptionId)))

/-- Once `put` gets through: the entry is queued and counted. -/
def enqueue (bus : EventBus ε τ) (entry : Entry ε) : EventBus ε τ × BusAnswer ε :=
  ({ bus with queue := bus.queue.put Entry.before entry, published := bus.published+1 },
    .accepted entry)

/-- `publish` up to its return or its first suspension. -/
def publish (bus : EventBus ε τ) (event : ε) (priority : ℕ) : EventBus ε τ × BusAnswer ε :=
  if bus.running = false then (bus, .notRunning)
  else
    let entry : Entry ε := ⟨priority, bus.sequence, event⟩
    let numbered := { bus with sequence := bus.sequence+1 }
    if bus.queue.full then ({ numbered with blocked := bus.blocked ++ [entry] }, .waits entry)
    else numbered.enqueue entry

def publishNowait (bus : EventBus ε τ) (event : ε) (priority : ℕ) :
    EventBus ε τ × BusAnswer ε :=
  if bus.running = false then (bus, .notRunning)
  else
    let entry : Entry ε := ⟨priority, bus.sequence, event⟩
    let numbered := { bus with sequence := bus.sequence+1 }
    if bus.queue.full then ({ numbered with rejectedFull := bus.rejectedFull+1 }, .queueFull)
    else numbered.enqueue entry

/-- A suspended `publish` runs on: it enqueues as soon as the queue has room, and looks at
nothing else. -/
def publisherResumes (bus : EventBus ε τ) (index : ℕ) : EventBus ε τ × BusAnswer ε :=
  match bus.blocked[index]? with
  | none => (bus, .blocked)
  | some entry =>
    if bus.queue.full then (bus, .blocked)
    else { bus with blocked := bus.blocked.eraseIdx index }.enqueue entry

def publisherCancelled (bus : EventBus ε τ) (index : ℕ) : EventBus ε τ × BusAnswer ε :=
  match bus.blocked[index]? with
  | none => (bus, .blocked)
  | some _ => ({ bus with blocked := bus.blocked.eraseIdx index }, .withdrawn)

/-- The handlers an event is dispatched to: those subscribed to a type it is an instance of. -/
def matchedHandlers (isInstance : ε → τ → Bool) (bus : EventBus ε τ) (event : ε) :
    List RegisteredHandler :=
  (bus.handlers.filter (fun subscribed => isInstance event subscribed.1)).flatMap Prod.snd

/-- `task_done`; the last one releases a `stop` that waits in `join`. -/
def taskDone (bus : EventBus ε τ) : EventBus ε τ :=
  let queue := bus.queue.taskDone
  { bus with
    queue,
    stopping :=
      match bus.stopping with
      | .joining released => .joining (released || decide (queue.unfinished = 0))
      | stopping => stopping }

/-- A worker's `get` and the synchronous start of its dispatch. -/
def take (isInstance : ε → τ → Bool) (bus : EventBus ε τ) (index : ℕ) :
    EventBus ε τ × BusAnswer ε :=
  match bus.workers[index]?, bus.queue.getNowait with
  | some ⟨.idle, false⟩, some (entry, queue) =>
    match bus.matchedHandlers isInstance entry.event with
    | [] => ({ bus with queue }.taskDone, .took entry [])
    | current :: rest =>
      ({ bus with
          queue,
          workers := bus.workers.set index ⟨.dispatching ⟨entry, current, rest⟩, false⟩ },
        .took entry (current :: rest))
  | _, _ => (bus, .blocked)

def recordHandlerFailure (bus : EventBus ε τ) (event : ε) (registered : RegisteredHandler)
    (errorType message : String) : EventBus ε τ :=
  let failures := bus.failures ++
    [⟨event, registered.subscriptionId, registered.handlerName, errorType, message⟩]
  { bus with
    handlerFailures := bus.handlerFailures+1,
    failures := failures.drop (failures.length-bus.failureHistorySize) }

/-- The loop of `_dispatch` after one handler has ended and been counted. -/
def nextHandler (bus : EventBus ε τ) (index : ℕ) (dispatch : Dispatch ε)
    (outcome : HandlerOutcome) : EventBus ε τ × BusAnswer ε :=
  match dispatch.rest with
  | [] =>
    ({ bus with workers := bus.workers.set index { phase := .idle } }.taskDone,
      .handled dispatch.entry dispatch.current outcome none)
  | next :: rest =>
    ({ bus with
        workers := bus.workers.set index { phase := .dispatching ⟨dispatch.entry, next, rest⟩ } },
      .handled dispatch.entry dispatch.current outcome (some next))

/-- The handler that a worker awaits ends. -/
def handlerEnds (bus : EventBus ε τ) (index : ℕ) (outcome : HandlerOutcome) :
    EventBus ε τ × BusAnswer ε :=
  match bus.workers[index]? with
  | some ⟨.dispatching dispatch, _⟩ =>
    match outcome with
    | .returned =>
      { bus with delivered := bus.delivered+1 }.nextHandler index dispatch outcome
    | .raised errorType message =>
      (bus.recordHandlerFailure dispatch.entry.event dispatch.current errorType
        message).nextHandler index dispatch outcome
    -- `finally` still counts the task as done, and the worker is gone
    | .escaped counted =>
      ({ bus with
          handlerFailures := bus.handlerFailures+counted.toNat,
          workers := bus.workers.set index { phase := .ended } }.taskDone,
        .handled dispatch.entry dispatch.current outcome none)
  | _ => (bus, .blocked)

/-- A cancelled worker that waits for an entry ends there. -/
def workerCancelled (bus : EventBus ε τ) (index : ℕ) : EventBus ε τ × BusAnswer ε :=
  match bus.workers[index]? with
  | some ⟨.idle, true⟩ =>
    ({ bus with workers := bus.workers.set index { phase := .ended } }, .workerEnded)
  | _ => (bus, .blocked)

/-- `stop` from the flag on, up to its wait for the cancelled workers. -/
def cancelWorkers (bus : EventBus ε τ) : EventBus ε τ × BusAnswer ε :=
  ({ bus with
      running := false,
      workers := bus.workers.map (fun worker => { worker with cancelRequested := true }),
      stopping := .gathering },
    .stopGathers)

def stop (bus : EventBus ε τ) (drain : Bool) : EventBus ε τ × BusAnswer ε :=
  if bus.stopping ≠ .notCalled then (bus, .blocked)
  else if bus.running = false then ({ bus with stopping := .returned }, .stopReturned)
  else if drain = true ∧ bus.queue.unfinished ≠ 0 then
    ({ bus with stopping := .joining false }, .stopWaits)
  else bus.cancelWorkers

/-- `join` has been released and `stop` runs on. -/
def stopResumes (bus : EventBus ε τ) : EventBus ε τ × BusAnswer ε :=
  if bus.stopping = .joining true then bus.cancelWorkers else (bus, .blocked)

def workerEnded (worker : Worker ε) : Bool :=
  match worker.phase with
  | .ended => true
  | _ => false

/-- `gather` has seen every worker end. -/
def stopReturns (bus : EventBus ε τ) : EventBus ε τ × BusAnswer ε :=
  if bus.stopping = .gathering ∧ bus.workers.all workerEnded = true then
    ({ bus with workers := [], stopping := .returned }, .stopReturned)
  else (bus, .blocked)

end EventBus

inductive BusInput (ε τ : Type*)
  | subscribe (eventType : τ) (handlerName : String)
  | unsubscribe (subscriptionId : ℕ) (eventType : τ)
  | publish (event : ε) (priority : EventPriority)
  | publishNowait (event : ε) (priority : EventPriority)
  | publisherResumes (index : ℕ)
  | publisherCancelled (index : ℕ)
  | take (index : ℕ)
  | handlerEnds (index : ℕ) (outcome : HandlerOutcome)
  | workerCancelled (index : ℕ)
  | stop (drain : Bool)
  | stopResumes
  | stopReturns
  deriving DecidableEq, Repr

section Steps
variable {ε τ : Type*} [DecidableEq τ] (isInstance : ε → τ → Bool)

/-- One step of one task, from one suspension to the next. -/
def busStep (bus : EventBus ε τ) : BusInput ε τ → EventBus ε τ × BusAnswer ε
  | .subscribe eventType handlerName => bus.subscribe eventType handlerName
  | .unsubscribe subscriptionId eventType => bus.unsubscribe subscriptionId eventType
  | .publish event priority => bus.publish event priority.value
  | .publishNowait event priority => bus.publishNowait event priority.value
  | .publisherResumes index => bus.publisherResumes index
  | .publisherCancelled index => bus.publisherCancelled index
  | .take index => bus.take isInstance index
  | .handlerEnds index outcome => bus.handlerEnds index outcome
  | .workerCancelled index => bus.workerCancelled index
  | .stop drain => bus.stop drain
  | .stopResumes => bus.stopResumes
  | .stopReturns => bus.stopReturns

abbrev BusEvent (ε τ : Type*) := Event (EventBus ε τ) (BusInput ε τ) (BusAnswer ε)

def startedBus (config : EventBusConfig) : EventBus ε τ :=
  (EventBus.new config).start config.workerCount

def busRun (config : EventBusConfig) (ops : List (BusInput ε τ)) : EventBus ε τ :=
  run (busStep isInstance) (startedBus config) ops

def busTrace (config : EventBusConfig) (ops : List (BusInput ε τ)) : List (BusEvent ε τ) :=
  trace (busStep isInstance) (startedBus config) ops

end Steps

end RoboticCharacter.Events
