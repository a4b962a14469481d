import RoboticCharacter.EventBus

/-! What every step of the event bus does to the entries it has accepted: where each one is,
and which handlers have been called for it. -/
namespace RoboticCharacter.Events
open AsyncQueue Machine

section Views
variable {ε τ : Type*}

def Worker.dispatch? (worker : Worker ε) : Option (Dispatch ε) :=
  match worker.phase with
  | .dispatching dispatch => some dispatch
  | _ => none

/-- The dispatches under way. -/
def EventBus.dispatches (bus : EventBus ε τ) : List (Dispatch ε) :=
  bus.workers.filterMap Worker.dispatch?

/-- Handler invocations that have ended and been counted. -/
def EventBus.counted (bus : EventBus ε τ) : ℕ := bus.delivered+bus.handlerFailures

def BusAnswer.accepted? : BusAnswer ε → Option (Entry ε)
  | .accepted entry => some entry
  | _ => none

def BusAnswer.taken? : BusAnswer ε → Option (Entry ε × List RegisteredHandler)
  | .took entry matched => some (entry, matched)
  | _ => none

/-- The handler a step calls, with the number of the entry it is called for. -/
def BusAnswer.invoked? : BusAnswer ε → Option (ℕ × RegisteredHandler)
  | .took entry matched => matched.head?.map (fun registered => (entry.sequence, registered))
  | .handled entry _ _ next => next.map (fun registered => (entry.sequence, registered))
  | _ => none

/-- The handler invocation a step ends, and how. -/
def BusAnswer.ended? : BusAnswer ε → Option (Entry ε × RegisteredHandler × HandlerOutcome)
  | .handled entry registered outcome _ => some (entry, registered, outcome)
  | _ => none

/-- The handler that a step calls, and the entry it is called for. -/
def BusAnswer.called? : BusAnswer ε → Option (Entry ε × RegisteredHandler)
  | .took entry matched => matched.head?.map (fun registered => (entry, registered))
  | .handled entry _ _ next => next.map (fun registered => (entry, registered))
  | _ => none

/-- The worker whose step it is. -/
def BusInput.worker? : BusInput ε τ → Option ℕ
  | .take index | .handlerEnds index _ => some index
  | _ => none

def EventBus.dispatchAt (bus : EventBus ε τ) (index : ℕ) : Option (Dispatch ε) :=
  bus.workers[index]?.bind Worker.dispatch?

/-- Entries whose `publish` or `publish_nowait` returned normally, in order. -/
def accepted (past : List (BusEvent ε τ)) : List (Entry ε) :=
  past.filterMap (fun e => e.output.accepted?)

/-- Dispatches that were started, with the handlers matched at their start. -/
def taken (past : List (BusEvent ε τ)) : List (Entry ε × List RegisteredHandler) :=
  past.filterMap (fun e => e.output.taken?)

def invocations (past : List (BusEvent ε τ)) : List (ℕ × RegisteredHandler) :=
  past.filterMap (fun e => e.output.invoked?)

/-- The handlers called for one entry, in order. -/
def invokedFor (past : List (BusEvent ε τ)) (entry : Entry ε) : List RegisteredHandler :=
  ((invocations past).filter (fun call => call.1 = entry.sequence)).map Prod.snd

theorem dispatches_set (workers : List (Worker ε)) (index : ℕ) (worker : Worker ε)
    (h : workers[index]? = some worker) :
    ∃ front back : List (Dispatch ε),
      workers.filterMap Worker.dispatch? = front ++ worker.dispatch?.toList ++ back ∧
      ∀ other : Worker ε, (workers.set index other).filterMap Worker.dispatch? =
        front ++ other.dispatch?.toList ++ back := by
  obtain ⟨front, back, hsplit, hset⟩ := exists_split_of_getElem? workers index worker h
  have hpart : ∀ other : Worker ε, (front ++ other :: back).filterMap Worker.dispatch? =
      front.filterMap Worker.dispatch? ++ other.dispatch?.toList ++
        back.filterMap Worker.dispatch? := by
    intro other
    rw [List.filterMap_append, List.filterMap_cons, List.append_assoc]
    cases other.dispatch? with
    | none => rfl
    | some dispatch => rfl
  refine ⟨front.filterMap Worker.dispatch?, back.filterMap Worker.dispatch?, ?_, ?_⟩
  · rw [hsplit]
    exact hpart worker
  · intro other
    rw [hset]
    exact hpart other

theorem exists_worker {bus : EventBus ε τ} {index : ℕ} {dispatch : Dispatch ε}
    (h : bus.dispatchAt index = some dispatch) :
    ∃ cancelRequested, bus.workers[index]? = some ⟨.dispatching dispatch, cancelRequested⟩ := by
  obtain ⟨⟨phase, cancelRequested⟩, hworker, hdispatch⟩ := Option.bind_eq_some_iff.mp h
  cases phase with
  | dispatching held =>
    obtain rfl := Option.some.inj hdispatch
    exact ⟨cancelRequested, hworker⟩
  | idle => cases hdispatch
  | ended => cases hdispatch

theorem mem_dispatches {bus : EventBus ε τ} {index : ℕ} {dispatch : Dispatch ε}
    (h : bus.dispatchAt index = some dispatch) : dispatch ∈ bus.dispatches := by
  obtain ⟨worker, hworker, hdispatch⟩ := Option.bind_eq_some_iff.mp h
  exact List.mem_filterMap.mpr ⟨worker, List.mem_of_getElem? hworker, hdispatch⟩

theorem exists_dispatchAt {bus : EventBus ε τ} {dispatch : Dispatch ε}
    (h : dispatch ∈ bus.dispatches) : ∃ index, bus.dispatchAt index = some dispatch := by
  obtain ⟨worker, hworker, hdispatch⟩ := List.mem_filterMap.mp h
  obtain ⟨index, hindex⟩ := List.mem_iff_getElem?.mp hworker
  exact ⟨index, Option.bind_eq_some_iff.mpr ⟨worker, hindex, hdispatch⟩⟩

theorem handlerEnds_dispatchAt {bus : EventBus ε τ} {index : ℕ} {dispatch : Dispatch ε}
    (h : bus.dispatchAt index = some dispatch) (outcome : HandlerOutcome) :
    ∃ next, (bus.handlerEnds index outcome).2 =
      .handled dispatch.entry dispatch.current outcome next := by
  obtain ⟨cancelRequested, hworker⟩ := exists_worker h
  unfold EventBus.handlerEnds
  rw [hworker]
  cases outcome with
  | escaped counted => exact ⟨none, rfl⟩
  | returned =>
    dsimp only [EventBus.nextHandler]
    cases dispatch.rest <;> exact ⟨_, rfl⟩
  | raised errorType message =>
    dsimp only [EventBus.nextHandler]
    cases dispatch.rest <;> exact ⟨_, rfl⟩

/-- What a step does to the entries in the bus. -/
inductive Effect (isInstance : ε → τ → Bool) (bus after : EventBus ε τ) : BusAnswer ε → Prop
  | quiet (answer : BusAnswer ε) (hitems : after.queue.items = bus.queue.items)
      (hunfinished : after.queue.unfinished = bus.queue.unfinished)
      (hdispatches : after.dispatches = bus.dispatches) (hcounted : after.counted = bus.counted)
      (haccepted : answer.accepted? = none) (htaken : answer.taken? = none)
      (hinvoked : answer.invoked? = none) (hended : answer.ended? = none) :
      Effect isInstance bus after answer
  | accepted (entry : Entry ε) (hitems : after.queue.items.Perm (entry :: bus.queue.items))
      (hunfinished : after.queue.unfinished = bus.queue.unfinished+1)
      (hdispatches : after.dispatches = bus.dispatches) (hcounted : after.counted = bus.counted) :
      Effect isInstance bus after (.accepted entry)
  | unmatched (entry : Entry ε) (hitems : bus.queue.items = entry :: after.queue.items)
      (hunfinished : after.queue.unfinished = bus.queue.unfinished-1)
      (hdispatches : after.dispatches = bus.dispatches) (hcounted : after.counted = bus.counted)
      (hmatched : bus.matchedHandlers isInstance entry.event = []) :
      Effect isInstance bus after (.took entry [])
  | started (entry : Entry ε) (current : RegisteredHandler) (rest : List RegisteredHandler)
      (front back : List (Dispatch ε)) (hitems : bus.queue.items = entry :: after.queue.items)
      (hunfinished : after.queue.unfinished = bus.queue.unfinished)
      (hbefore : bus.dispatches = front ++ back)
      (hafter : after.dispatches = front ++ ⟨entry, current, rest⟩ :: back)
      (hcounted : after.counted = bus.counted)
      (hmatched : bus.matchedHandlers isInstance entry.event = current :: rest) :
      Effect isInstance bus after (.took entry (current :: rest))
  | continued (dispatch : Dispatch ε) (next : RegisteredHandler) (rest : List RegisteredHandler)
      (outcome : HandlerOutcome) (front back : List (Dispatch ε))
      (hrest : dispatch.rest = next :: rest)
      (hitems : after.queue.items = bus.queue.items)
      (hunfinished : after.queue.unfinished = bus.queue.unfinished)
      (hbefore : bus.dispatches = front ++ dispatch :: back)
      (hafter : after.dispatches = front ++ ⟨dispatch.entry, next, rest⟩ :: back)
      (hcounted : after.counted = bus.counted+1)
      (houtcome : ∀ counted, outcome ≠ .escaped counted) :
      Effect isInstance bus after (.handled dispatch.entry dispatch.current outcome (some next))
  | finished (dispatch : Dispatch ε) (outcome : HandlerOutcome) (front back : List (Dispatch ε))
      (hrest : dispatch.rest = []) (hitems : after.queue.items = bus.queue.items)
      (hunfinished : after.queue.unfinished = bus.queue.unfinished-1)
      (hbefore : bus.dispatches = front ++ dispatch :: back)
      (hafter : after.dispatches = front ++ back)
      (hcounted : after.counted = bus.counted+1)
      (houtcome : ∀ counted, outcome ≠ .escaped counted) :
      Effect isInstance bus after (.handled dispatch.entry dispatch.current outcome none)
  | aborted (dispatch : Dispatch ε) (counted : Bool) (front back : List (Dispatch ε))
      (hitems : after.queue.items = bus.queue.items)
      (hunfinished : after.queue.unfinished = bus.queue.unfinished-1)
      (hbefore : bus.dispatches = front ++ dispatch :: back)
      (hafter : after.dispatches = front ++ back)
      (hcounted : after.counted = bus.counted+counted.toNat) :
      Effect isInstance bus after
        (.handled dispatch.entry dispatch.current (.escaped counted) none)

variable (isInstance : ε → τ → Bool)

theorem enqueue_effect (bus held : EventBus ε τ) (entry : Entry ε)
    (hqueue : held.queue = bus.queue) (hworkers : held.workers = bus.workers)
    (hcounted : held.counted = bus.counted) :
    Effect isInstance bus (held.enqueue entry).1 (held.enqueue entry).2 := by
  refine .accepted entry ?_ ?_ ?_ hcounted
  · rw [← hqueue]
    exact held.queue.put_items_perm Entry.before entry
  · rw [← hqueue]
    rfl
  · dsimp only [EventBus.enqueue, EventBus.dispatches]
    rw [hworkers]

theorem quiet_of_same (bus after : EventBus ε τ) (answer : BusAnswer ε)
    (hqueue : after.queue = bus.queue) (hworkers : after.workers = bus.workers)
    (hcounted : after.counted = bus.counted) (haccepted : answer.accepted? = none)
    (htaken : answer.taken? = none) (hinvoked : answer.invoked? = none)
    (hended : answer.ended? = none) : Effect isInstance bus after answer := by
  refine .quiet answer ?_ ?_ ?_ hcounted haccepted htaken hinvoked hended
  · rw [hqueue]
  · rw [hqueue]
  · rw [EventBus.dispatches, hworkers, EventBus.dispatches]

theorem publish_effect (bus : EventBus ε τ) (event : ε) (priority : ℕ) :
    Effect isInstance bus (bus.publish event priority).1 (bus.publish event priority).2 := by
  dsimp only [EventBus.publish]
  split_ifs
  · exact quiet_of_same isInstance _ _ _ rfl rfl rfl rfl rfl rfl rfl
  · exact quiet_of_same isInstance _ _ _ rfl rfl rfl rfl rfl rfl rfl
  · exact enqueue_effect isInstance _ _ _ rfl rfl rfl

theorem publishNowait_effect (bus : EventBus ε τ) (event : ε) (priority : ℕ) :
    Effect isInstance bus (bus.publishNowait event priority).1
      (bus.publishNowait event priority).2 := by
  dsimp only [EventBus.publishNowait]
  split_ifs
  · exact quiet_of_same isInstance _ _ _ rfl rfl rfl rfl rfl rfl rfl
  · exact quiet_of_same isInstance _ _ _ rfl rfl rfl rfl rfl rfl rfl
  · exact enqueue_effect isInstance _ _ _ rfl rfl rfl

theorem publisherResumes_effect (bus : EventBus ε τ) (index : ℕ) :
    Effect isInstance bus (bus.publisherResumes index).1 (bus.publisherResumes index).2 := by
  dsimp only [EventBus.publisherResumes]
  cases bus.blocked[index]? with
  | none => exact quiet_of_same isInstance _ _ _ rfl rfl rfl rfl rfl rfl rfl
  | some entry =>
    dsimp only
    split_ifs
    · exact quiet_of_same isInstance _ _ _ rfl rfl rfl rfl rfl rfl rfl
    · exact enqueue_effect isInstance _ _ _ rfl rfl rfl

theorem publisherCancelled_effect (bus : EventBus ε τ) (index : ℕ) :
    Effect isInstance bus (bus.publisherCancelled index).1 (bus.publisherCancelled index).2 := by
  dsimp only [EventBus.publisherCancelled]
  cases bus.blocked[index]? with
  | none => exact quiet_of_same isInstance _ _ _ rfl rfl rfl rfl rfl rfl rfl
  | some _ => exact quiet_of_same isInstance _ _ _ rfl rfl rfl rfl rfl rfl rfl

theorem take_effect (bus : EventBus ε τ) (index : ℕ) :
    Effect isInstance bus (bus.take isInstance index).1 (bus.take isInstance index).2 := by
  dsimp only [EventBus.take]
  split
  · rename_i entry queue hworker hget
    obtain ⟨hitems, hunfinished⟩ := PriorityQueue.getNowait_eq_some _ _ _ hget
    cases hmatched : bus.matchedHandlers isInstance entry.event with
    | nil =>
      refine .unmatched entry hitems ?_ rfl rfl hmatched
      rw [← hunfinished]
      rfl
    | cons current rest =>
      obtain ⟨front, back, hbefore, hafter⟩ := dispatches_set bus.workers index _ hworker
      refine .started entry current rest front back hitems hunfinished ?_ ?_ rfl hmatched
      · simpa [EventBus.dispatches, Worker.dispatch?] using hbefore
      · have hset := hafter ⟨.dispatching ⟨entry, current, rest⟩, false⟩
        simpa [EventBus.dispatches, Worker.dispatch?] using hset
  · exact quiet_of_same isInstance _ _ _ rfl rfl rfl rfl rfl rfl rfl

theorem nextHandler_effect (bus held : EventBus ε τ) (index : ℕ) (dispatch : Dispatch ε)
    (cancelRequested : Bool) (outcome : HandlerOutcome)
    (houtcome : ∀ counted, outcome ≠ .escaped counted)
    (hworker : bus.workers[index]? = some ⟨.dispatching dispatch, cancelRequested⟩)
    (hqueue : held.queue = bus.queue) (hworkers : held.workers = bus.workers)
    (hcounted : held.counted = bus.counted+1) :
    Effect isInstance bus (held.nextHandler index dispatch outcome).1
      (held.nextHandler index dispatch outcome).2 := by
  obtain ⟨front, back, hbefore, hafter⟩ := dispatches_set bus.workers index _ hworker
  have hdispatching : bus.dispatches = front ++ dispatch :: back := by
    simpa [EventBus.dispatches, Worker.dispatch?] using hbefore
  dsimp only [EventBus.nextHandler]
  cases hrest : dispatch.rest with
  | nil =>
    refine .finished dispatch outcome front back hrest ?_ ?_ hdispatching ?_ hcounted houtcome
    · rw [← hqueue]
      rfl
    · rw [← hqueue]
      rfl
    · have hset := hafter { phase := .idle }
      rw [← hworkers] at hset
      simpa [EventBus.taskDone, EventBus.dispatches, Worker.dispatch?] using hset
  | cons next rest =>
    refine .continued dispatch next rest outcome front back hrest ?_ ?_ hdispatching ?_ hcounted
      houtcome
    · rw [← hqueue]
    · rw [← hqueue]
    · have hset := hafter { phase := .dispatching ⟨dispatch.entry, next, rest⟩ }
      rw [← hworkers] at hset
      simpa [EventBus.dispatches, Worker.dispatch?] using hset

theorem handlerEnds_effect (bus : EventBus ε τ) (index : ℕ) (outcome : HandlerOutcome) :
    Effect isInstance bus (bus.handlerEnds index outcome).1 (bus.handlerEnds index outcome).2 := by
  dsimp only [EventBus.handlerEnds]
  split
  · rename_i dispatch cancelRequested hworker
    cases outcome with
    | returned =>
      exact nextHandler_effect isInstance bus _ index dispatch cancelRequested .returned (by simp)
        hworker rfl rfl (by simp only [EventBus.counted]; omega)
    | raised errorType message =>
      exact nextHandler_effect isInstance bus _ index dispatch cancelRequested
        (.raised errorType message) (by simp) hworker rfl rfl
        (by simp only [EventBus.counted, EventBus.recordHandlerFailure]; omega)
    | escaped counted =>
      obtain ⟨front, back, hbefore, hafter⟩ := dispatches_set bus.workers index _ hworker
      refine .aborted dispatch counted front back rfl rfl ?_ ?_ (Nat.add_assoc ..).symm
      · simpa [EventBus.dispatches, Worker.dispatch?] using hbefore
      · have hset := hafter { phase := .ended }
        simpa [EventBus.taskDone, EventBus.dispatches, Worker.dispatch?] using hset
  · exact quiet_of_same isInstance _ _ _ rfl rfl rfl rfl rfl rfl rfl

theorem workerCancelled_effect (bus : EventBus ε τ) (index : ℕ) :
    Effect isInstance bus (bus.workerCancelled index).1 (bus.workerCancelled index).2 := by
  dsimp only [EventBus.workerCancelled]
  split
  · rename_i hworker
    obtain ⟨front, back, hbefore, hafter⟩ := dispatches_set bus.workers index _ hworker
    have hset := hafter { phase := .ended }
    refine .quiet _ rfl rfl ?_ rfl rfl rfl rfl rfl
    rw [EventBus.dispatches, EventBus.dispatches, hset, hbefore]
    rfl
  · exact quiet_of_same isInstance _ _ _ rfl rfl rfl rfl rfl rfl rfl

theorem cancelWorkers_effect (bus : EventBus ε τ) :
    Effect isInstance bus bus.cancelWorkers.1 bus.cancelWorkers.2 := by
  refine .quiet _ rfl rfl ?_ rfl rfl rfl rfl rfl
  dsimp only [EventBus.cancelWorkers, EventBus.dispatches]
  rw [List.filterMap_map]
  rfl

theorem stop_effect (bus : EventBus ε τ) (drain : Bool) :
    Effect isInstance bus (bus.stop drain).1 (bus.stop drain).2 := by
  dsimp only [EventBus.stop]
  split_ifs
  · exact quiet_of_same isInstance _ _ _ rfl rfl rfl rfl rfl rfl rfl
  · exact quiet_of_same isInstance _ _ _ rfl rfl rfl rfl rfl rfl rfl
  · exact quiet_of_same isInstance _ _ _ rfl rfl rfl rfl rfl rfl rfl
  · exact cancelWorkers_effect isInstance bus

theorem stopResumes_effect (bus : EventBus ε τ) :
    Effect isInstance bus bus.stopResumes.1 bus.stopResumes.2 := by
  dsimp only [EventBus.stopResumes]
  split_ifs
  · exact cancelWorkers_effect isInstance bus
  · exact quiet_of_same isInstance _ _ _ rfl rfl rfl rfl rfl rfl rfl

theorem stopReturns_effect (bus : EventBus ε τ) :
    Effect isInstance bus bus.stopReturns.1 bus.stopReturns.2 := by
  dsimp only [EventBus.stopReturns]
  split_ifs with hended
  · refine .quiet _ rfl rfl ?_ rfl rfl rfl rfl rfl
    -- workers that have ended dispatch nothing
    have hnone : ∀ worker ∈ bus.workers, worker.dispatch? = none := by
      intro worker hworker
      have hend := List.all_eq_true.mp hended.2 worker hworker
      obtain ⟨phase, cancelRequested⟩ := worker
      cases phase with
      | idle => rfl
      | dispatching dispatch => exact absurd hend Bool.false_ne_true
      | ended => rfl
    rw [EventBus.dispatches, EventBus.dispatches, List.filterMap_eq_nil_iff.mpr hnone]
    rfl
  · exact quiet_of_same isInstance _ _ _ rfl rfl rfl rfl rfl rfl rfl

theorem busStep_effect [DecidableEq τ] (bus : EventBus ε τ) (input : BusInput ε τ) :
    Effect isInstance bus (busStep isInstance bus input).1 (busStep isInstance bus input).2 := by
  cases input with
  | subscribe eventType handlerName =>
    exact quiet_of_same isInstance _ _ _ rfl rfl rfl rfl rfl rfl rfl
  | unsubscribe subscriptionId eventType =>
    dsimp only [busStep, EventBus.unsubscribe]
    cases bus.handlers.lookup eventType with
    | none => exact quiet_of_same isInstance _ _ _ rfl rfl rfl rfl rfl rfl rfl
    | some handlers => exact quiet_of_same isInstance _ _ _ rfl rfl rfl rfl rfl rfl rfl
  | publish event priority => exact publish_effect isInstance bus event priority.value
  | publishNowait event priority => exact publishNowait_effect isInstance bus event priority.value
  | publisherResumes index => exact publisherResumes_effect isInstance bus index
  | publisherCancelled index => exact publisherCancelled_effect isInstance bus index
  | take index => exact take_effect isInstance bus index
  | handlerEnds index outcome => exact handlerEnds_effect isInstance bus index outcome
  | workerCancelled index => exact workerCancelled_effect isInstance bus index
  | stop drain => exact stop_effect isInstance bus drain
  | stopResumes => exact stopResumes_effect isInstance bus
  | stopReturns => exact stopReturns_effect isInstance bus

/-- The tasks that dispatch nothing neither call a handler nor end a call. -/
theorem busStep_bystander [DecidableEq τ] (bus : EventBus ε τ) (input : BusInput ε τ)
    (h : input.worker? = none) :
    (busStep isInstance bus input).2.called? = none ∧
      (busStep isInstance bus input).2.ended? = none := by
  cases input with
  | take place => cases h
  | handlerEnds place outcome => cases h
  | subscribe eventType handlerName => exact ⟨rfl, rfl⟩
  | unsubscribe subscriptionId eventType =>
    dsimp only [busStep, EventBus.unsubscribe]
    split <;> exact ⟨rfl, rfl⟩
  | publish event priority =>
    dsimp only [busStep, EventBus.publish]
    split_ifs <;> exact ⟨rfl, rfl⟩
  | publishNowait event priority =>
    dsimp only [busStep, EventBus.publishNowait]
    split_ifs <;> exact ⟨rfl, rfl⟩
  | publisherResumes place =>
    dsimp only [busStep, EventBus.publisherResumes]
    split
    · exact ⟨rfl, rfl⟩
    · split_ifs <;> exact ⟨rfl, rfl⟩
  | publisherCancelled place =>
    dsimp only [busStep, EventBus.publisherCancelled]
    split <;> exact ⟨rfl, rfl⟩
  | workerCancelled place =>
    dsimp only [busStep, EventBus.workerCancelled]
    split <;> exact ⟨rfl, rfl⟩
  | stop drain =>
    dsimp only [busStep, EventBus.stop, EventBus.cancelWorkers]
    split_ifs <;> exact ⟨rfl, rfl⟩
  | stopResumes =>
    dsimp only [busStep, EventBus.stopResumes, EventBus.cancelWorkers]
    split_ifs <;> exact ⟨rfl, rfl⟩
  | stopReturns =>
    dsimp only [busStep, EventBus.stopReturns]
    split_ifs <;> exact ⟨rfl, rfl⟩

/-- Only the step of a worker ends a call, and it is the call that the worker awaits. -/
theorem busStep_handled [DecidableEq τ] (bus : EventBus ε τ) (input : BusInput ε τ)
    {entry : Entry ε} {registered : RegisteredHandler} {outcome : HandlerOutcome}
    {next : Option RegisteredHandler}
    (h : (busStep isInstance bus input).2 = .handled entry registered outcome next) :
    ∃ index rest, input = .handlerEnds index outcome ∧
      bus.dispatchAt index = some ⟨entry, registered, rest⟩ := by
  have hsome : input.worker? ≠ none := by
    intro hnone
    have hquiet := (busStep_bystander isInstance bus input hnone).2
    rw [h] at hquiet
    cases hquiet
  cases input with
  | handlerEnds place ending =>
    cases hdispatch : bus.dispatchAt place with
    | none =>
      dsimp only [busStep, EventBus.handlerEnds] at h
      split at h
      · rename_i hworker
        rw [EventBus.dispatchAt, hworker] at hdispatch
        cases hdispatch
      · cases h
    | some dispatch =>
      obtain ⟨following, hanswer⟩ := handlerEnds_dispatchAt hdispatch ending
      obtain ⟨rfl, rfl, rfl, rfl⟩ := BusAnswer.handled.inj (hanswer.symm.trans h)
      exact ⟨place, dispatch.rest, rfl, hdispatch⟩
  | take place =>
    dsimp only [busStep, EventBus.take] at h
    split at h
    · split at h <;> cases h
    · cases h
  | _ => exact absurd rfl hsome

/-- A take is of the first entry of the queue, for the handlers matched at that moment. -/
theorem Effect.took {bus after : EventBus ε τ} {entry : Entry ε}
    {matched : List RegisteredHandler} (h : Effect isInstance bus after (.took entry matched)) :
    bus.queue.items = entry :: after.queue.items ∧
      matched = bus.matchedHandlers isInstance entry.event := by
  generalize hanswer : BusAnswer.took entry matched = answer at h
  cases h with
  | quiet answer _ _ _ _ _ htaken =>
    rw [← hanswer] at htaken
    cases htaken
  | unmatched _ hitems _ _ _ hmatched =>
    obtain ⟨rfl, rfl⟩ := BusAnswer.took.inj hanswer
    exact ⟨hitems, hmatched.symm⟩
  | started _ _ _ _ _ hitems _ _ _ _ hmatched =>
    obtain ⟨rfl, rfl⟩ := BusAnswer.took.inj hanswer
    exact ⟨hitems, hmatched.symm⟩
  | accepted => cases hanswer
  | continued => cases hanswer
  | finished => cases hanswer
  | aborted => cases hanswer

end Views

end RoboticCharacter.Events
