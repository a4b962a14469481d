import Mathlib.Algebra.GroupWithZero.Nat
import Mathlib.Data.List.Flatten
import RoboticCharacter.EventIsolation

/-! Every accepted event reaches every subscriber once: the runs of the event bus in which
that holds. -/
namespace RoboticCharacter.Events
open AsyncQueue Machine

section Subscriptions
variable {ε τ : Type*}

/-- Every subscription has an id of its own. -/
structure DistinctSubscriptions (bus : EventBus ε τ) : Prop where
  distinct : ((bus.handlers.flatMap Prod.snd).map RegisteredHandler.subscriptionId).Nodup
  numbered : ∀ registered ∈ bus.handlers.flatMap Prod.snd,
    registered.subscriptionId < bus.subscriptions

theorem addHandler_perm [DecidableEq τ] (registered : RegisteredHandler) (eventType : τ)
    (handlers : List (τ × List RegisteredHandler)) :
    ((EventBus.addHandler registered eventType handlers).flatMap Prod.snd).Perm
      (registered :: handlers.flatMap Prod.snd) := by
  induction handlers with
  | nil => exact List.Perm.refl _
  | cons subscribed rest ih =>
    dsimp only [EventBus.addHandler]
    split_ifs
    · rw [List.flatMap_cons, List.flatMap_cons, List.append_assoc, List.singleton_append]
      exact List.perm_middle
    · rw [List.flatMap_cons, List.flatMap_cons]
      exact (List.Perm.append_left _ ih).trans List.perm_middle

theorem dropHandler_sublist [DecidableEq τ] (subscriptionId : ℕ) (eventType : τ)
    (handlers : List (τ × List RegisteredHandler)) :
    ((EventBus.dropHandler subscriptionId eventType handlers).flatMap Prod.snd).Sublist
      (handlers.flatMap Prod.snd) := by
  induction handlers with
  | nil => exact List.Sublist.refl _
  | cons subscribed rest ih =>
    dsimp only [EventBus.dropHandler]
    rw [List.flatMap_cons]
    split_ifs
    · exact List.sublist_append_right _ _
    · rw [List.flatMap_cons]
      exact List.filter_sublist.append (List.Sublist.refl _)
    · rw [List.flatMap_cons]
      exact (List.Sublist.refl _).append ih

namespace DistinctSubscriptions
variable {bus after : EventBus ε τ}

theorem same (h : DistinctSubscriptions bus) (hhandlers : after.handlers = bus.handlers)
    (hsubscriptions : after.subscriptions = bus.subscriptions) : DistinctSubscriptions after := by
  refine ⟨?_, ?_⟩
  · rw [hhandlers]
    exact h.distinct
  · rw [hhandlers, hsubscriptions]
    exact h.numbered

theorem subscribe [DecidableEq τ] (h : DistinctSubscriptions bus) (eventType : τ)
    (handlerName : String) : DistinctSubscriptions (bus.subscribe eventType handlerName).1 := by
  have hperm := addHandler_perm ⟨bus.subscriptions, handlerName⟩ eventType bus.handlers
  refine ⟨?_, ?_⟩
  · dsimp only [EventBus.subscribe]
    rw [(hperm.map _).nodup_iff, List.map_cons, List.nodup_cons]
    refine ⟨?_, h.distinct⟩
    intro hmem
    obtain ⟨registered, hregistered, heq⟩ := List.mem_map.mp hmem
    have hlt := h.numbered registered hregistered
    dsimp only at heq
    omega
  · intro registered hregistered
    dsimp only [EventBus.subscribe] at hregistered ⊢
    rcases List.mem_cons.mp (hperm.mem_iff.mp hregistered) with rfl | hold
    · exact Nat.lt_succ_self _
    · exact Nat.lt_succ_of_lt (h.numbered registered hold)

theorem unsubscribe [DecidableEq τ] (h : DistinctSubscriptions bus) (subscriptionId : ℕ)
    (eventType : τ) : DistinctSubscriptions (bus.unsubscribe subscriptionId eventType).1 := by
  have hsub := dropHandler_sublist subscriptionId eventType bus.handlers
  dsimp only [EventBus.unsubscribe]
  split
  · exact h
  · exact ⟨h.distinct.sublist (hsub.map _), fun registered hmem =>
      h.numbered registered (hsub.subset hmem)⟩

theorem matched_nodup (h : DistinctSubscriptions bus) (isInstance : ε → τ → Bool) (event : ε) :
    (bus.matchedHandlers isInstance event).Nodup := by
  have hsub : (bus.matchedHandlers isInstance event).Sublist (bus.handlers.flatMap Prod.snd) :=
    List.filter_sublist.flatMap Prod.snd
  exact (List.Nodup.of_map _ h.distinct).sublist hsub

end DistinctSubscriptions

theorem mem_matchedHandlers_iff (isInstance : ε → τ → Bool) (bus : EventBus ε τ) (event : ε)
    (registered : RegisteredHandler) :
    registered ∈ bus.matchedHandlers isInstance event ↔
      ∃ subscribed ∈ bus.handlers, isInstance event subscribed.1 = true ∧
        registered ∈ subscribed.2 := by
  rw [EventBus.matchedHandlers, List.mem_flatMap]
  simp only [List.mem_filter, and_assoc]

/-- The steps that leave the subscriptions alone. -/
theorem busStep_handlers [DecidableEq τ] (isInstance : ε → τ → Bool) (bus : EventBus ε τ)
    (input : BusInput ε τ) (hsubscribe : ∀ eventType handlerName,
      input ≠ .subscribe eventType handlerName)
    (hunsubscribe : ∀ subscriptionId eventType, input ≠ .unsubscribe subscriptionId eventType) :
    (busStep isInstance bus input).1.handlers = bus.handlers ∧
      (busStep isInstance bus input).1.subscriptions = bus.subscriptions := by
  cases input with
  | subscribe eventType handlerName => exact absurd rfl (hsubscribe _ _)
  | unsubscribe subscriptionId eventType => exact absurd rfl (hunsubscribe _ _)
  | publish event priority =>
    dsimp only [busStep, EventBus.publish]
    split_ifs <;> exact ⟨rfl, rfl⟩
  | publishNowait event priority =>
    dsimp only [busStep, EventBus.publishNowait]
    split_ifs <;> exact ⟨rfl, rfl⟩
  | publisherResumes index =>
    dsimp only [busStep, EventBus.publisherResumes]
    split
    · exact ⟨rfl, rfl⟩
    · split_ifs <;> exact ⟨rfl, rfl⟩
  | publisherCancelled index =>
    dsimp only [busStep, EventBus.publisherCancelled]
    split <;> exact ⟨rfl, rfl⟩
  | take index =>
    dsimp only [busStep, EventBus.take]
    split
    · split <;> exact ⟨rfl, rfl⟩
    · exact ⟨rfl, rfl⟩
  | handlerEnds index outcome =>
    dsimp only [busStep, EventBus.handlerEnds]
    split
    · cases outcome with
      | returned =>
        dsimp only [EventBus.nextHandler]
        split <;> exact ⟨rfl, rfl⟩
      | raised errorType message =>
        dsimp only [EventBus.nextHandler]
        split <;> exact ⟨rfl, rfl⟩
      | escaped counted => exact ⟨rfl, rfl⟩
    · exact ⟨rfl, rfl⟩
  | workerCancelled index =>
    dsimp only [busStep, EventBus.workerCancelled]
    split <;> exact ⟨rfl, rfl⟩
  | stop drain =>
    dsimp only [busStep, EventBus.stop]
    split_ifs <;> exact ⟨rfl, rfl⟩
  | stopResumes =>
    dsimp only [busStep, EventBus.stopResumes]
    split_ifs <;> exact ⟨rfl, rfl⟩
  | stopReturns =>
    dsimp only [busStep, EventBus.stopReturns]
    split_ifs <;> exact ⟨rfl, rfl⟩

theorem DistinctSubscriptions.step [DecidableEq τ] (isInstance : ε → τ → Bool)
    (bus : EventBus ε τ) (input : BusInput ε τ) (h : DistinctSubscriptions bus) :
    DistinctSubscriptions (busStep isInstance bus input).1 := by
  by_cases hsubscribe : ∃ eventType handlerName, input = .subscribe eventType handlerName
  · obtain ⟨eventType, handlerName, rfl⟩ := hsubscribe
    exact h.subscribe eventType handlerName
  by_cases hunsubscribe : ∃ subscriptionId eventType, input = .unsubscribe subscriptionId eventType
  · obtain ⟨subscriptionId, eventType, rfl⟩ := hunsubscribe
    exact h.unsubscribe subscriptionId eventType
  · simp only [not_exists] at hsubscribe hunsubscribe
    obtain ⟨hhandlers, hsubscriptions⟩ :=
      busStep_handlers isInstance bus input hsubscribe hunsubscribe
    exact h.same hhandlers hsubscriptions

end Subscriptions

section Drain
variable {ε τ : Type*} [DecidableEq τ] (isInstance : ε → τ → Bool)

/-- Handler calls and takes that the accepted entries still need. -/
def EventBus.work (bus : EventBus ε τ) : ℕ :=
  (bus.queue.items.map (fun entry =>
    (bus.matchedHandlers isInstance entry.event).length+1)).sum +
  (bus.dispatches.map (fun dispatch => dispatch.rest.length+1)).sum

/-- A step of a worker whose handlers end as `outcomeOf` says. -/
def WorkerStep (outcomeOf : Entry ε → RegisteredHandler → HandlerOutcome) (e : BusEvent ε τ) :
    Prop :=
  (∃ index, e.input = .take index) ∨
    ∃ entry registered next, e.output = .handled entry registered (outcomeOf entry registered) next

omit [DecidableEq τ] in
theorem work_of_handlers (bus after : EventBus ε τ) (h : after.handlers = bus.handlers) :
    after.work isInstance =
      (after.queue.items.map (fun entry =>
        (bus.matchedHandlers isInstance entry.event).length+1)).sum +
      (after.dispatches.map (fun dispatch => dispatch.rest.length+1)).sum := by
  simp only [EventBus.work, EventBus.matchedHandlers, h]

omit [DecidableEq τ] in
/-- Taking an entry and ending a handler both bring the end nearer. -/
theorem Effect.work_lt {bus after : EventBus ε τ} {answer : BusAnswer ε}
    (h : Effect isInstance bus after answer) (hhandlers : after.handlers = bus.handlers)
    (hmoves : (∃ entry matched, answer = .took entry matched) ∨
      ∃ entry registered outcome next, answer = .handled entry registered outcome next) :
    after.work isInstance < bus.work isInstance := by
  rw [work_of_handlers isInstance bus after hhandlers, EventBus.work]
  cases h with
  | quiet answer _ _ _ _ _ htaken _ hended =>
    rcases hmoves with ⟨entry, matched, rfl⟩ | ⟨entry, registered, outcome, next, rfl⟩
    · cases htaken
    · cases hended
  | accepted entry => simp at hmoves
  | unmatched entry hitems _ hdispatches =>
    rw [hitems, hdispatches]
    simp only [List.map_cons, List.sum_cons]
    omega
  | started entry current rest front back hitems _ hbefore hafter _ hmatched =>
    rw [hitems, hbefore, hafter]
    simp only [List.map_cons, List.map_append, List.sum_cons, List.sum_append, hmatched,
      List.length_cons]
    omega
  | continued dispatch next rest outcome front back hrest hitems _ hbefore hafter =>
    rw [hitems, hbefore, hafter]
    simp only [List.map_cons, List.map_append, List.sum_cons, List.sum_append, hrest,
      List.length_cons]
    omega
  | finished dispatch outcome front back hrest hitems _ hbefore hafter =>
    rw [hitems, hbefore, hafter]
    simp only [List.map_cons, List.map_append, List.sum_cons, List.sum_append]
    omega
  | aborted dispatch counted front back hitems _ hbefore hafter =>
    rw [hitems, hbefore, hafter]
    simp only [List.map_cons, List.map_append, List.sum_cons, List.sum_append]
    omega

omit [DecidableEq τ] in
/-- A running bus with entries queued and no dispatch under way has a worker to take one. -/
theorem take_took (config : EventBusConfig) (bus : EventBus ε τ) (halive : WorkersAlive config bus)
    (hrunning : bus.running = true) (hidle : bus.dispatches = []) (hitems : bus.queue.items ≠ []) :
    ∃ entry matched, (bus.take isInstance 0).2 = .took entry matched := by
  obtain ⟨hlength, hworkers⟩ := halive hrunning
  have hpos := config.workerCount_pos
  cases hlist : bus.workers with
  | nil =>
    rw [hlist, List.length_nil] at hlength
    omega
  | cons worker rest =>
    have hmem : worker ∈ bus.workers := by rw [hlist]; exact List.mem_cons_self ..
    obtain ⟨huncancelled, hend⟩ := hworkers worker hmem
    obtain ⟨phase, cancelRequested⟩ := worker
    dsimp only at huncancelled hend
    subst huncancelled
    cases phase with
    | ended => exact absurd rfl hend
    | dispatching dispatch =>
      have hin : dispatch ∈ bus.dispatches := List.mem_filterMap.mpr ⟨_, hmem, rfl⟩
      rw [hidle] at hin
      exact absurd hin List.not_mem_nil
    | idle =>
      cases hqueue : bus.queue.items with
      | nil => exact absurd hqueue hitems
      | cons entry items =>
        have hfirst : bus.workers[0]? = some ⟨.idle, false⟩ := by rw [hlist]; rfl
        simp only [EventBus.take, hfirst, PriorityQueue.getNowait, hqueue]
        cases EventBus.matchedHandlers isInstance bus entry.event with
        | nil => exact ⟨entry, [], rfl⟩
        | cons current more => exact ⟨entry, current :: more, rfl⟩

omit [DecidableEq τ] in
theorem take_running (bus : EventBus ε τ) (index : ℕ) :
    (bus.take isInstance index).1.running = bus.running := by
  dsimp only [EventBus.take]
  split
  · split <;> rfl
  · rfl

omit [DecidableEq τ] in
theorem handlerEnds_running (bus : EventBus ε τ) (index : ℕ) (outcome : HandlerOutcome) :
    (bus.handlerEnds index outcome).1.running = bus.running := by
  dsimp only [EventBus.handlerEnds]
  split
  · cases outcome with
    | returned =>
      dsimp only [EventBus.nextHandler]
      split <;> rfl
    | raised errorType message =>
      dsimp only [EventBus.nextHandler]
      split <;> rfl
    | escaped counted => rfl
  · rfl

/-- A running bus that has work to do has a worker step that does some of it. -/
theorem exists_workerStep (config : EventBusConfig) (past : List (BusEvent ε τ))
    (bus : EventBus ε τ) (hledger : Ledger past bus) (halive : WorkersAlive config bus)
    (hrunning : bus.running = true) (hwork : bus.queue.unfinished ≠ 0)
    (outcomeOf : Entry ε → RegisteredHandler → HandlerOutcome)
    (houtcome : ∀ entry registered counted, outcomeOf entry registered ≠ .escaped counted) :
    ∃ input, WorkerStep outcomeOf ⟨bus, input, (busStep isInstance bus input).2,
        (busStep isInstance bus input).1⟩ ∧
      ¬ Aborts ⟨bus, input, (busStep isInstance bus input).2, (busStep isInstance bus input).1⟩ ∧
      (busStep isInstance bus input).1.running = true ∧
      (busStep isInstance bus input).1.work isInstance < bus.work isInstance := by
  cases hdispatches : bus.dispatches with
  | cons dispatch rest =>
    -- a dispatch is under way: its handler ends
    have hmem : dispatch ∈ bus.dispatches := by rw [hdispatches]; exact List.mem_cons_self ..
    obtain ⟨index, hdispatch⟩ := exists_dispatchAt hmem
    obtain ⟨next, hanswer⟩ :=
      handlerEnds_dispatchAt hdispatch (outcomeOf dispatch.entry dispatch.current)
    refine ⟨.handlerEnds index (outcomeOf dispatch.entry dispatch.current),
      .inr ⟨_, _, next, hanswer⟩, ?_, ?_, ?_⟩
    · rintro ⟨entry, registered, counted, other, heq⟩
      have hboth := hanswer.symm.trans heq
      exact houtcome dispatch.entry dispatch.current counted (BusAnswer.handled.inj hboth).2.2.1
    · rw [← hrunning]
      exact handlerEnds_running bus index _
    · apply (busStep_effect isInstance bus _).work_lt
      · exact (busStep_handlers isInstance bus _ (by simp) (by simp)).1
      · exact .inr ⟨_, _, _, next, hanswer⟩
  | nil =>
    -- no dispatch is under way: what is unfinished is queued, and an idle worker takes it
    have hitems : bus.queue.items ≠ [] := by
      intro hnil
      apply hwork
      rw [hledger.unfinished, hnil, hdispatches]
      rfl
    obtain ⟨entry, matched, hanswer⟩ :=
      take_took isInstance config bus halive hrunning hdispatches hitems
    refine ⟨.take 0, .inl ⟨0, rfl⟩, ?_, ?_, ?_⟩
    · rintro ⟨other, registered, counted, next, heq⟩
      cases hanswer.symm.trans heq
    · rw [← hrunning]
      exact take_running isInstance bus 0
    · apply (busStep_effect isInstance bus _).work_lt
      · exact (busStep_handlers isInstance bus _ (by simp) (by simp)).1
      · exact .inl ⟨entry, matched, hanswer⟩

/-- The workers of a running bus can finish everything it has accepted, whichever of its
handlers return and whichever raise. -/
theorem exists_drain (config : EventBusConfig) (past : List (BusEvent ε τ)) (bus : EventBus ε τ)
    (hledger : Ledger past bus) (halive : WorkersAlive config bus) (hrunning : bus.running = true)
    (outcomeOf : Entry ε → RegisteredHandler → HandlerOutcome)
    (houtcome : ∀ entry registered counted, outcomeOf entry registered ≠ .escaped counted) :
    ∃ more, (∀ e ∈ trace (busStep isInstance) bus more, WorkerStep outcomeOf e) ∧
      (run (busStep isInstance) bus more).queue.unfinished = 0 := by
  induction hsize : bus.work isInstance using Nat.strong_induction_on generalizing past bus with
  | _ size ih =>
    by_cases hdone : bus.queue.unfinished = 0
    · exact ⟨[], by simp, hdone⟩
    · obtain ⟨input, hstep, hisolated, hstill, hless⟩ := exists_workerStep isInstance config past
        bus hledger halive hrunning hdone outcomeOf houtcome
      rw [hsize] at hless
      have hkeeps := mt (aborts_of_disrupts isInstance rfl) hisolated
      obtain ⟨more, hmore, hend⟩ := ih _ hless _ _ (hledger.step isInstance input)
        (halive.step isInstance input hkeeps) hstill rfl
      refine ⟨input :: more, ?_, hend⟩
      intro e he
      rcases List.mem_cons.mp he with rfl | hrest
      · exact hstep
      · exact hmore e hrest

/-- The next handler is called, and a running bus keeps the worker. -/
def GoesOn (e : BusEvent ε τ) : Prop :=
  ∀ index outcome dispatch, e.input = .handlerEnds index outcome →
    e.before.dispatchAt index = some dispatch →
    e.output.invoked? =
      dispatch.rest.head?.map (fun registered => (dispatch.entry.sequence, registered)) ∧
    (e.before.running = true →
      ∃ worker, e.after.workers[index]? = some worker ∧ worker.phase ≠ .ended)

omit [DecidableEq τ] in
theorem nextHandler_goes_on (bus held : EventBus ε τ) {index : ℕ} {dispatch : Dispatch ε}
    (outcome : HandlerOutcome) (hdispatch : bus.dispatchAt index = some dispatch)
    (hworkers : held.workers = bus.workers) :
    (held.nextHandler index dispatch outcome).2.invoked? =
      dispatch.rest.head?.map (fun registered => (dispatch.entry.sequence, registered)) ∧
    ∃ worker, (held.nextHandler index dispatch outcome).1.workers[index]? = some worker ∧
      worker.phase ≠ .ended := by
  obtain ⟨cancelRequested, hworker⟩ := exists_worker hdispatch
  have hlt : index < held.workers.length := by
    rw [hworkers]
    exact (List.getElem?_eq_some_iff.mp hworker).1
  dsimp only [EventBus.nextHandler]
  cases dispatch.rest with
  | nil => exact ⟨rfl, _, List.getElem?_set_self hlt, nofun⟩
  | cons next rest => exact ⟨rfl, _, List.getElem?_set_self hlt, nofun⟩

omit [DecidableEq τ] in
theorem handlerEnds_escaped {bus : EventBus ε τ} {index : ℕ} {dispatch : Dispatch ε}
    (counted : Bool) (hdispatch : bus.dispatchAt index = some dispatch) :
    (bus.handlerEnds index (.escaped counted)).2 =
        .handled dispatch.entry dispatch.current (.escaped counted) none ∧
      (bus.handlerEnds index (.escaped counted)).1.workers[index]? = some { phase := .ended } := by
  obtain ⟨cancelRequested, hworker⟩ := exists_worker hdispatch
  unfold EventBus.handlerEnds
  rw [hworker]
  exact ⟨rfl, List.getElem?_set_self (List.getElem?_eq_some_iff.mp hworker).1⟩

omit [DecidableEq τ] in
theorem handlerEnds_goes_on {bus : EventBus ε τ} {index : ℕ} {dispatch : Dispatch ε}
    (outcome : HandlerOutcome) (hdispatch : bus.dispatchAt index = some dispatch)
    (hescaped : ∀ counted, outcome = .escaped counted →
      bus.running = false ∧ dispatch.rest = []) :
    (bus.handlerEnds index outcome).2.invoked? =
      dispatch.rest.head?.map (fun registered => (dispatch.entry.sequence, registered)) ∧
    (bus.running = true → ∃ worker,
      (bus.handlerEnds index outcome).1.workers[index]? = some worker ∧
        worker.phase ≠ .ended) := by
  cases outcome with
  | escaped counted =>
    obtain ⟨hstopped, hrest⟩ := hescaped counted rfl
    rw [(handlerEnds_escaped counted hdispatch).1, hrest, hstopped]
    exact ⟨rfl, fun hrunning => absurd hrunning Bool.false_ne_true⟩
  | returned =>
    obtain ⟨hnext, hgoes⟩ := nextHandler_goes_on bus { bus with delivered := bus.delivered+1 }
      .returned hdispatch rfl
    obtain ⟨cancelRequested, hworker⟩ := exists_worker hdispatch
    dsimp only [EventBus.handlerEnds]
    rw [hworker]
    exact ⟨hnext, fun _ => hgoes⟩
  | raised errorType message =>
    obtain ⟨hnext, hgoes⟩ := nextHandler_goes_on bus
      (bus.recordHandlerFailure dispatch.entry.event dispatch.current errorType message)
      (.raised errorType message) hdispatch rfl
    obtain ⟨cancelRequested, hworker⟩ := exists_worker hdispatch
    dsimp only [EventBus.handlerEnds]
    rw [hworker]
    exact ⟨hnext, fun _ => hgoes⟩

/-- A handler's end disrupts nothing iff the bus goes on and the call is counted. -/
theorem not_disrupts_iff {e : BusEvent ε τ}
    (hstep : busStep isInstance e.before e.input = (e.after, e.output)) :
    ¬ Disrupts e ↔ GoesOn e ∧ ¬ uncaught e = true := by
  obtain ⟨hafter, houtput⟩ := Prod.mk.inj hstep
  constructor
  · intro hkeeps
    refine ⟨?_, not_uncaught_of_not_disrupts isInstance hstep hkeeps⟩
    intro index outcome dispatch hinput hdispatch
    rw [← hafter, ← houtput, hinput]
    apply handlerEnds_goes_on outcome hdispatch
    rintro counted rfl
    have hkept : ¬ (counted = false ∨ e.before.running = true ∨ dispatch.rest ≠ []) :=
      fun hlost => hkeeps ⟨index, dispatch, counted, hinput, hdispatch, hlost⟩
    rw [not_or, not_or, Bool.not_eq_true, ne_eq, not_not] at hkept
    exact hkept.2
  · rintro ⟨hgoes, hcaught⟩ ⟨index, dispatch, counted, hinput, hdispatch, hlost⟩
    obtain ⟨hnext, hworker⟩ := hgoes index _ dispatch hinput hdispatch
    obtain ⟨hanswer, hended⟩ := handlerEnds_escaped counted hdispatch
    rw [hinput] at hafter houtput
    have hsame := houtput.symm.trans hanswer
    rcases hlost with rfl | hrunning | hrest
    · apply hcaught
      rw [uncaught, hsame]
      rfl
    · obtain ⟨worker, hplace, hphase⟩ := hworker hrunning
      rw [← hafter] at hplace
      obtain rfl := Option.some.inj (hended.symm.trans hplace)
      exact hphase rfl
    · rw [hsame] at hnext
      have hhead := Option.map_eq_none_iff.mp hnext.symm
      exact hrest (List.head?_eq_none_iff.mp hhead)

/-- Every accepted event reaches every subscriber once, whatever its handlers do. -/
structure DispatchIsolated (past : List (BusEvent ε τ)) (bus : EventBus ε τ) : Prop where
  distinct : ((accepted past).map Entry.sequence).Nodup
  accounted : (accepted past).Perm (bus.queue.items ++ (taken past).map Prod.fst)
  matched : ∀ e ∈ past, ∀ entry matched, e.output = .took entry matched →
    matched.Nodup ∧ ∀ registered, registered ∈ matched ↔
      ∃ subscribed ∈ e.before.handlers, isInstance entry.event subscribed.1 = true ∧
        registered ∈ subscribed.2
  called_once : ∀ entry matched, (entry, matched) ∈ taken past →
    (∃ dispatch ∈ bus.dispatches, dispatch.entry = entry ∧
      invokedFor past entry ++ dispatch.rest = matched) ∨
    ((∀ dispatch ∈ bus.dispatches, dispatch.entry.sequence ≠ entry.sequence) ∧
      invokedFor past entry = matched)
  goes_on : ∀ e ∈ past, GoesOn e
  counters : bus.delivered+bus.handlerFailures+bus.dispatches.length = (invocations past).length
  joined : bus.queue.unfinished = 0 →
    (∀ entry ∈ accepted past, ∃ matched, (entry, matched) ∈ taken past ∧
      invokedFor past entry = matched) ∧
    bus.delivered+bus.handlerFailures = (invocations past).length
  drains : bus.running = true → ∀ outcomeOf : Entry ε → RegisteredHandler → HandlerOutcome,
    (∀ entry registered counted, outcomeOf entry registered ≠ .escaped counted) →
    ∃ more, (∀ e ∈ trace (busStep isInstance) bus more, WorkerStep outcomeOf e) ∧
      (run (busStep isInstance) bus more).queue.unfinished = 0

omit [DecidableEq τ] in
theorem startedBus_dispatches (config : EventBusConfig) :
    (startedBus config : EventBus ε τ).dispatches = [] := by
  apply List.filterMap_eq_nil_iff.mpr
  intro worker hworker
  rw [List.eq_of_mem_replicate hworker]
  rfl

theorem ledger_run (config : EventBusConfig) (ops : List (BusInput ε τ)) :
    Ledger (busTrace isInstance config ops) (busRun isInstance config ops) := by
  apply history_invariant
  · refine ⟨List.nodup_nil, nofun, List.Perm.refl _, ?_, ?_⟩
    · rw [startedBus_dispatches]
      rfl
    · rw [startedBus_dispatches]
      rfl
  · exact fun past bus input h => h.step isInstance input

theorem isolated_run (config : EventBusConfig) (ops : List (BusInput ε τ))
    (hkeeps : ∀ e ∈ busTrace isInstance config ops, ¬ Disrupts e) :
    Progress (busTrace isInstance config ops) (busRun isInstance config ops) ∧
      WorkersAlive config (busRun isInstance config ops) := by
  have hrun : Ledger (busTrace isInstance config ops) (busRun isInstance config ops) ∧
      ((∀ e ∈ busTrace isInstance config ops, ¬ Disrupts e) →
        Progress (busTrace isInstance config ops) (busRun isInstance config ops) ∧
          WorkersAlive config (busRun isInstance config ops)) := by
    apply history_invariant (busStep isInstance) (P := fun past bus => Ledger past bus ∧
      ((∀ e ∈ past, ¬ Disrupts e) → Progress past bus ∧ WorkersAlive config bus))
    · refine ⟨ledger_run isInstance config [], fun _ => ⟨⟨?_, ?_, ?_, ?_⟩, ?_⟩⟩
      · rw [startedBus_dispatches]
        exact fun dispatch hdispatch => absurd hdispatch List.not_mem_nil
      · rw [startedBus_dispatches]
        exact List.nodup_nil
      · exact fun entry matched hmem => absurd hmem List.not_mem_nil
      · exact fun call hcall => absurd hcall List.not_mem_nil
      · intro _
        refine ⟨List.length_replicate, ?_⟩
        intro worker hworker
        rw [List.eq_of_mem_replicate hworker]
        exact ⟨rfl, by simp⟩
    · -- the ledger holds in any case; progress needs that the last step disrupted nothing
      intro past bus input ih
      refine ⟨ih.1.step isInstance input, ?_⟩
      intro hall
      obtain ⟨hprogress, halive⟩ := ih.2 (fun e he => hall e (List.mem_append_left _ he))
      have hlast := hall _ (List.mem_append_right _ (List.mem_singleton_self _))
      exact ⟨hprogress.step isInstance ih.1 input hlast, halive.step isInstance input hlast⟩
  exact hrun.2 hkeeps

/-- A dispatch starts with the handlers subscribed to a type of its event, each once. -/
theorem took_matched (config : EventBusConfig) (ops : List (BusInput ε τ)) (e : BusEvent ε τ)
    (he : e ∈ busTrace isInstance config ops) (entry : Entry ε) (matched : List RegisteredHandler)
    (h : e.output = .took entry matched) :
    matched.Nodup ∧ ∀ registered, registered ∈ matched ↔
      ∃ subscribed ∈ e.before.handlers, isInstance entry.event subscribed.1 = true ∧
        registered ∈ subscribed.2 := by
  have hdistinct : DistinctSubscriptions e.before := by
    apply trace_invariant (busStep isInstance) (DistinctSubscriptions.step isInstance)
      (startedBus config) _ ops e he
    exact ⟨List.nodup_nil, fun registered hmem => absurd hmem List.not_mem_nil⟩
  have hstep := trace_step (busStep isInstance) _ ops e he
  have heffect := busStep_effect isInstance e.before e.input
  rw [hstep, h] at heffect
  rw [heffect.took.2]
  refine ⟨hdistinct.matched_nodup isInstance entry.event, ?_⟩
  exact mem_matchedHandlers_iff isInstance e.before entry.event

/-- Once nothing is unfinished, every accepted entry has been dispatched to its handlers. -/
theorem isolated_joined (config : EventBusConfig) (ops : List (BusInput ε τ))
    (hkeeps : ∀ e ∈ busTrace isInstance config ops, ¬ Disrupts e)
    (hjoined : (busRun isInstance config ops).queue.unfinished = 0) :
    (∀ entry ∈ accepted (busTrace isInstance config ops), ∃ matched,
      (entry, matched) ∈ taken (busTrace isInstance config ops) ∧
        invokedFor (busTrace isInstance config ops) entry = matched) ∧
      (busRun isInstance config ops).dispatches = [] := by
  have hledger := ledger_run isInstance config ops
  have hunfinished := hledger.unfinished
  have hitems : (busRun isInstance config ops).queue.items = [] :=
    List.eq_nil_of_length_eq_zero (by omega)
  have hdispatches : (busRun isInstance config ops).dispatches = [] :=
    List.eq_nil_of_length_eq_zero (by omega)
  have haccounted := hledger.accounted
  rw [hitems, List.nil_append] at haccounted
  refine ⟨?_, hdispatches⟩
  intro entry hentry
  obtain ⟨pair, hpair, rfl⟩ := List.mem_map.mp (haccounted.mem_iff.mp hentry)
  refine ⟨pair.2, hpair, ?_⟩
  have hcalled := (isolated_run isInstance config ops hkeeps).1.called pair.1 pair.2 hpair
  rcases hcalled with ⟨dispatch, hdispatch, _⟩ | ⟨_, hdone⟩
  · rw [hdispatches] at hdispatch
    exact absurd hdispatch List.not_mem_nil
  · exact hdone

/-- Delivery is exactly once in exactly the runs in which no handler ends in an exception that
leaves its worker: a `CancelledError`, another that is not an `Exception`, or an `Exception` of
which no record can be made. Once the bus is stopped, the last kind does no harm after the last
handler of an event. -/
theorem every_subscriber_once_iff (config : EventBusConfig) (ops : List (BusInput ε τ)) :
    DispatchIsolated isInstance (busTrace isInstance config ops) (busRun isInstance config ops) ↔
      ∀ e ∈ busTrace isInstance config ops, ¬ Disrupts e := by
  have hledger := ledger_run isInstance config ops
  have hcounted := hledger.counted
  have hsteps := trace_step (busStep isInstance) (startedBus config) ops
  constructor
  · intro h e he
    apply (not_disrupts_iff isInstance (hsteps e he)).mpr
    refine ⟨h.goes_on e he, ?_⟩
    have hcounters := h.counters
    rw [EventBus.counted, hcounters, Nat.add_eq_left, List.countP_eq_zero] at hcounted
    exact hcounted e he
  · intro hkeeps
    obtain ⟨hprogress, halive⟩ := isolated_run isInstance config ops hkeeps
    have hnone : (busTrace isInstance config ops).countP uncaught = 0 := by
      apply List.countP_eq_zero.mpr
      intro e he
      exact not_uncaught_of_not_disrupts isInstance (hsteps e he) (hkeeps e he)
    rw [hnone, Nat.add_zero, EventBus.counted] at hcounted
    have hdistinct := hledger.distinct
    rw [List.map_append] at hdistinct
    refine ⟨(List.nodup_append.mp hdistinct).1, hledger.accounted,
      took_matched isInstance config ops, hprogress.called, ?_, hcounted, ?_, ?_⟩
    · exact fun e he => ((not_disrupts_iff isInstance (hsteps e he)).mp (hkeeps e he)).1
    · intro hjoined
      obtain ⟨hreached, hdispatches⟩ := isolated_joined isInstance config ops hkeeps hjoined
      rw [hdispatches] at hcounted
      exact ⟨hreached, hcounted⟩
    · intro hrunning outcomeOf houtcome
      exact exists_drain isInstance config _ _ hledger halive hrunning outcomeOf houtcome

end Drain

/-- Two handlers subscribe to every event; the first one ends in a `CancelledError`. -/
def cancelledHandler : List (BusInput String Unit) :=
  [.subscribe () "first", .subscribe () "second", .publish "one" .normal, .publish "two" .normal,
    .take 0, .handlerEnds 0 (.escaped false)]

def defaultConfig : EventBusConfig :=
  { queueSize_pos := Nat.succ_pos 255, workerCount_pos := Nat.succ_pos 0,
    failureHistorySize_pos := Nat.succ_pos 99 }

/-- The second handler is never called, the only worker is gone with an event still queued,
and the one invocation is counted nowhere. -/
theorem every_subscriber_once_fails :
    invocations (busTrace (fun _ _ => true) defaultConfig cancelledHandler) = [(0, ⟨0, "first"⟩)] ∧
      taken (busTrace (fun _ _ => true) defaultConfig cancelledHandler) =
        [(⟨20, 0, "one"⟩, [⟨0, "first"⟩, ⟨1, "second"⟩])] ∧
      (busRun (fun _ _ => true) defaultConfig cancelledHandler).running = true ∧
      (busRun (fun _ _ => true) defaultConfig cancelledHandler).workers = [⟨.ended, false⟩] ∧
      (busRun (fun _ _ => true) defaultConfig cancelledHandler).queue.items = [⟨20, 1, "two"⟩] ∧
      ¬ DispatchIsolated (fun _ _ => true)
        (busTrace (fun _ _ => true) defaultConfig cancelledHandler)
        (busRun (fun _ _ => true) defaultConfig cancelledHandler) := by
  refine ⟨by decide, by decide, by decide, by decide,
    by decide, ?_⟩
  intro h
  have hcounters := h.counters
  exact absurd hcounters (by decide)

end RoboticCharacter.Events
