import Mathlib.Data.List.DropRight
import RoboticCharacter.EventDelivery

/-! The statistics of the event bus over whole runs: each counter is the number of the calls and
handler ends that it counts, and the failure history holds the latest of them. -/
namespace RoboticCharacter.Events
open AsyncQueue Machine

structure EventBusStats where
  published : ℕ
  delivered : ℕ
  handlerFailures : ℕ
  rejectedFull : ℕ
  queueDepth : ℕ
  subscriptions : ℕ
  deriving DecidableEq, Repr

section Counting
variable {ε τ : Type*}

/-- `sum(len(handlers) for handlers in self._handlers.values())`. -/
def EventBus.subscribed (bus : EventBus ε τ) : ℕ :=
  (bus.handlers.map (fun subscribed => subscribed.2.length)).sum

def EventBus.stats (bus : EventBus ε τ) : EventBusStats where
  published := bus.published
  delivered := bus.delivered
  handlerFailures := bus.handlerFailures
  rejectedFull := bus.rejectedFull
  queueDepth := bus.queue.items.length
  subscriptions := bus.subscribed

def EventBus.recentFailures (bus : EventBus ε τ) : List (HandlerFailure ε) := bus.failures

/-- The handler of this step returned. -/
def BusAnswer.delivers : BusAnswer ε → Bool
  | .handled _ _ .returned _ => true
  | _ => false

/-- The failure of the handler that raised in this step. -/
def BusAnswer.failure? : BusAnswer ε → Option (HandlerFailure ε)
  | .handled entry registered (.raised errorType message) _ =>
    some ⟨entry.event, registered.subscriptionId, registered.handlerName, errorType, message⟩
  | _ => none

/-- The handler of this step raised what could not be recorded. -/
def BusAnswer.unrecorded : BusAnswer ε → Bool
  | .handled _ _ (.escaped counted) _ => counted
  | _ => false

def BusAnswer.rejects : BusAnswer ε → Bool
  | .queueFull => true
  | _ => false

def BusAnswer.subscribes : BusAnswer ε → Bool
  | .subscribed _ => true
  | _ => false

def BusAnswer.removes : BusAnswer ε → Bool
  | .unsubscribed existed => existed
  | _ => false

def failed (past : List (BusEvent ε τ)) : List (HandlerFailure ε) :=
  past.filterMap (fun e => e.output.failure?)

/-- What a step does to the counters. -/
structure Tally (bus after : EventBus ε τ) (answer : BusAnswer ε) : Prop where
  published : after.published = bus.published+answer.accepted?.toList.length
  delivered : after.delivered = bus.delivered+(if answer.delivers then 1 else 0)
  handlerFailures : after.handlerFailures =
    bus.handlerFailures+answer.failure?.toList.length+(if answer.unrecorded then 1 else 0)
  failures : after.failures = bus.failures ∧ answer.failure? = none ∨
    ∃ failure, answer.failure? = some failure ∧
      after.failures = (bus.failures ++ [failure]).rtake bus.failureHistorySize
  rejectedFull : after.rejectedFull = bus.rejectedFull+(if answer.rejects then 1 else 0)
  subscribed : after.subscribed+(if answer.removes then 1 else 0) =
    bus.subscribed+(if answer.subscribes then 1 else 0)
  historySize : after.failureHistorySize = bus.failureHistorySize
  maxsize : after.queue.maxsize = bus.queue.maxsize
  room : bus.queue.items.length ≤ bus.queue.maxsize →
    after.queue.items.length ≤ after.queue.maxsize

/-- The counters and the room of the queue that a bus has in common with another. -/
structure SameCounters (bus after : EventBus ε τ) : Prop where
  published : after.published = bus.published
  delivered : after.delivered = bus.delivered
  handlerFailures : after.handlerFailures = bus.handlerFailures
  failures : after.failures = bus.failures
  rejectedFull : after.rejectedFull = bus.rejectedFull
  handlers : after.handlers = bus.handlers
  historySize : after.failureHistorySize = bus.failureHistorySize
  maxsize : after.queue.maxsize = bus.queue.maxsize
  room : after.queue.items.length ≤ bus.queue.items.length

/-- A step that answers nothing that is counted. -/
theorem tally_quiet {bus after : EventBus ε τ} (answer : BusAnswer ε)
    (h : SameCounters bus after) (haccepted : answer.accepted? = none)
    (hdelivers : answer.delivers = false) (hfailure : answer.failure? = none)
    (hunrecorded : answer.unrecorded = false) (hrejects : answer.rejects = false)
    (hsubscribes : answer.subscribes = false) (hremoves : answer.removes = false) :
    Tally bus after answer := by
  refine ⟨?_, ?_, ?_, .inl ⟨h.failures, hfailure⟩, ?_, ?_, h.historySize, h.maxsize, ?_⟩
  · rw [haccepted, h.published]
    rfl
  · rw [hdelivers, h.delivered]
    rfl
  · rw [hfailure, hunrecorded, h.handlerFailures]
    rfl
  · rw [hrejects, h.rejectedFull]
    rfl
  · rw [hremoves, hsubscribes, EventBus.subscribed, h.handlers]
    rfl
  · intro hroom
    rw [h.maxsize]
    exact h.room.trans hroom

theorem sameCounters_self (bus : EventBus ε τ) : SameCounters bus bus :=
  ⟨rfl, rfl, rfl, rfl, rfl, rfl, rfl, rfl, le_rfl⟩

/-- An entry gets into a queue that is not full. -/
theorem enqueue_tally {bus held : EventBus ε τ} (entry : Entry ε) (h : SameCounters bus held)
    (hqueue : held.queue = bus.queue) (hfull : bus.queue.full = false)
    (hpositive : 0 < bus.queue.maxsize) :
    Tally bus (held.enqueue entry).1 (held.enqueue entry).2 := by
  refine ⟨?_, h.delivered, h.handlerFailures, .inl ⟨h.failures, rfl⟩, h.rejectedFull, ?_,
    h.historySize, h.maxsize, ?_⟩
  · exact congrArg (· + 1) h.published
  · exact congrArg (fun handlers => (handlers.map (fun subscribed => subscribed.2.length)).sum)
      h.handlers
  · intro _
    have hput := (held.queue.put_items_perm Entry.before entry).length_eq
    unfold PriorityQueue.full at hfull
    rw [decide_eq_true hpositive, Bool.true_and, decide_eq_false_iff_not, not_le] at hfull
    dsimp only [EventBus.enqueue]
    rw [hput, List.length_cons, hqueue]
    exact hfull

variable [DecidableEq τ]

theorem addHandler_subscribed (registered : RegisteredHandler) (eventType : τ)
    (handlers : List (τ × List RegisteredHandler)) :
    ((EventBus.addHandler registered eventType handlers).map
        (fun subscribed => subscribed.2.length)).sum =
      (handlers.map (fun subscribed => subscribed.2.length)).sum+1 := by
  have hperm := (addHandler_perm registered eventType handlers).length_eq
  rw [List.length_flatMap, List.length_cons, List.length_flatMap] at hperm
  exact hperm

/-- Of distinct subscriptions at most one has the id. -/
theorem length_filter_ne {handlers : List RegisteredHandler}
    (h : (handlers.map RegisteredHandler.subscriptionId).Nodup) (subscriptionId : ℕ) :
    (handlers.filter (fun registered => registered.subscriptionId ≠ subscriptionId)).length+
        (if handlers.any (fun registered => registered.subscriptionId = subscriptionId) then 1
          else 0) =
      handlers.length := by
  induction handlers with
  | nil => rfl
  | cons first rest ih =>
    rw [List.map_cons, List.nodup_cons] at h
    have hrest := ih h.2
    by_cases hid : first.subscriptionId = subscriptionId
    · -- the others have other ids
      have hnone : ∀ registered ∈ rest, registered.subscriptionId ≠ subscriptionId := by
        intro registered hmem heq
        apply h.1
        rw [hid, ← heq]
        exact List.mem_map_of_mem hmem
      have hall : rest.filter (fun registered => registered.subscriptionId ≠ subscriptionId) =
          rest :=
        List.filter_eq_self.mpr fun registered hmem => decide_eq_true (hnone registered hmem)
      rw [List.filter_cons_of_neg (by simpa using hid), hall]
      simp [hid]
    · rw [List.filter_cons_of_pos (by simpa using hid), List.any_cons, decide_eq_false hid,
        Bool.false_or, List.length_cons, List.length_cons]
      omega

/-- A subscription that existed is taken out, and no other. -/
theorem dropHandler_subscribed (subscriptionId : ℕ) (eventType : τ)
    (handlers : List (τ × List RegisteredHandler)) {found : List RegisteredHandler}
    (hdistinct : ((handlers.flatMap Prod.snd).map RegisteredHandler.subscriptionId).Nodup)
    (hfound : handlers.lookup eventType = some found) :
    ((EventBus.dropHandler subscriptionId eventType handlers).map
          (fun subscribed => subscribed.2.length)).sum+
        (if found.any (fun registered => registered.subscriptionId = subscriptionId) then 1
          else 0) =
      (handlers.map (fun subscribed => subscribed.2.length)).sum := by
  induction handlers with
  | nil => cases hfound
  | cons subscribed rest ih =>
    obtain ⟨key, registrations⟩ := subscribed
    rw [List.flatMap_cons, List.map_append] at hdistinct
    obtain ⟨hown, hothers, _⟩ := List.nodup_append.mp hdistinct
    rw [List.lookup_cons] at hfound
    dsimp only [EventBus.dropHandler]
    rw [List.map_cons, List.sum_cons]
    by_cases hkey : key = eventType
    · rw [hkey, beq_self_eq_true] at hfound
      obtain rfl := Option.some.inj hfound
      have hlength := length_filter_ne hown subscriptionId
      dsimp only at hlength ⊢
      generalize (if registrations.any
        (fun registered => registered.subscriptionId = subscriptionId) = true then 1 else 0) =
          removed at hlength ⊢
      rw [if_pos hkey]
      by_cases hempty : registrations.filter
          (fun registered => registered.subscriptionId ≠ subscriptionId) = []
      · rw [hempty, List.length_nil] at hlength
        rw [if_pos hempty]
        omega
      · rw [if_neg hempty, List.map_cons, List.sum_cons]
        dsimp only
        omega
    · have hne : (eventType == key) = false := beq_eq_false_iff_ne.mpr (Ne.symm hkey)
      rw [hne] at hfound
      have hrest := ih hothers hfound
      rw [if_neg hkey, List.map_cons, List.sum_cons]
      dsimp only
      omega

/-! ### The steps of the tasks -/

theorem subscribe_tally (bus : EventBus ε τ) (eventType : τ) (handlerName : String) :
    Tally bus (bus.subscribe eventType handlerName).1 (bus.subscribe eventType handlerName).2 :=
  ⟨rfl, rfl, rfl, .inl ⟨rfl, rfl⟩, rfl, addHandler_subscribed _ _ _, rfl, rfl, id⟩

theorem unsubscribe_tally (bus : EventBus ε τ) (hdistinct : DistinctSubscriptions bus)
    (subscriptionId : ℕ) (eventType : τ) :
    Tally bus (bus.unsubscribe subscriptionId eventType).1
      (bus.unsubscribe subscriptionId eventType).2 := by
  dsimp only [EventBus.unsubscribe]
  cases hfound : bus.handlers.lookup eventType with
  | none => exact tally_quiet _ (sameCounters_self bus) rfl rfl rfl rfl rfl rfl rfl
  | some found =>
    exact ⟨rfl, rfl, rfl, .inl ⟨rfl, rfl⟩, rfl,
      dropHandler_subscribed subscriptionId eventType bus.handlers hdistinct.distinct hfound,
      rfl, rfl, id⟩

omit [DecidableEq τ]

theorem publish_tally (bus : EventBus ε τ) (hpositive : 0 < bus.queue.maxsize) (event : ε)
    (priority : ℕ) :
    Tally bus (bus.publish event priority).1 (bus.publish event priority).2 := by
  dsimp only [EventBus.publish]
  split_ifs with hrunning hfull
  · exact tally_quiet _ (sameCounters_self bus) rfl rfl rfl rfl rfl rfl rfl
  · exact tally_quiet _ ⟨rfl, rfl, rfl, rfl, rfl, rfl, rfl, rfl, le_rfl⟩
      rfl rfl rfl rfl rfl rfl rfl
  · exact enqueue_tally _ ⟨rfl, rfl, rfl, rfl, rfl, rfl, rfl, rfl, le_rfl⟩ rfl
      (Bool.eq_false_of_not_eq_true hfull) hpositive

theorem publishNowait_tally (bus : EventBus ε τ) (hpositive : 0 < bus.queue.maxsize) (event : ε)
    (priority : ℕ) :
    Tally bus (bus.publishNowait event priority).1 (bus.publishNowait event priority).2 := by
  dsimp only [EventBus.publishNowait]
  split_ifs with hrunning hfull
  · exact tally_quiet _ (sameCounters_self bus) rfl rfl rfl rfl rfl rfl rfl
  · exact ⟨rfl, rfl, rfl, .inl ⟨rfl, rfl⟩, rfl, rfl, rfl, rfl, id⟩
  · exact enqueue_tally _ ⟨rfl, rfl, rfl, rfl, rfl, rfl, rfl, rfl, le_rfl⟩ rfl
      (Bool.eq_false_of_not_eq_true hfull) hpositive

theorem publisherResumes_tally (bus : EventBus ε τ) (hpositive : 0 < bus.queue.maxsize)
    (index : ℕ) : Tally bus (bus.publisherResumes index).1 (bus.publisherResumes index).2 := by
  dsimp only [EventBus.publisherResumes]
  cases bus.blocked[index]? with
  | none => exact tally_quiet _ (sameCounters_self bus) rfl rfl rfl rfl rfl rfl rfl
  | some entry =>
    dsimp only
    split_ifs with hfull
    · exact tally_quiet _ (sameCounters_self bus) rfl rfl rfl rfl rfl rfl rfl
    · exact enqueue_tally _ ⟨rfl, rfl, rfl, rfl, rfl, rfl, rfl, rfl, le_rfl⟩ rfl
        (Bool.eq_false_of_not_eq_true hfull) hpositive

theorem publisherCancelled_tally (bus : EventBus ε τ) (index : ℕ) :
    Tally bus (bus.publisherCancelled index).1 (bus.publisherCancelled index).2 := by
  dsimp only [EventBus.publisherCancelled]
  cases bus.blocked[index]? with
  | none => exact tally_quiet _ (sameCounters_self bus) rfl rfl rfl rfl rfl rfl rfl
  | some entry =>
    exact tally_quiet _ ⟨rfl, rfl, rfl, rfl, rfl, rfl, rfl, rfl, le_rfl⟩
      rfl rfl rfl rfl rfl rfl rfl

theorem take_tally (isInstance : ε → τ → Bool) (bus : EventBus ε τ) (index : ℕ) :
    Tally bus (bus.take isInstance index).1 (bus.take isInstance index).2 := by
  dsimp only [EventBus.take]
  split
  · rename_i entry queue hworker hget
    have hmaxsize : queue.maxsize = bus.queue.maxsize := by
      unfold PriorityQueue.getNowait at hget
      split at hget
      · cases hget
      · cases hget
        rfl
    have hshorter : queue.items.length ≤ bus.queue.items.length := by
      rw [(PriorityQueue.getNowait_eq_some _ _ _ hget).1]
      exact Nat.le_succ _
    cases bus.matchedHandlers isInstance entry.event with
    | nil =>
      exact tally_quiet _ ⟨rfl, rfl, rfl, rfl, rfl, rfl, rfl, hmaxsize, hshorter⟩
        rfl rfl rfl rfl rfl rfl rfl
    | cons current rest =>
      exact tally_quiet _ ⟨rfl, rfl, rfl, rfl, rfl, rfl, rfl, hmaxsize, hshorter⟩
        rfl rfl rfl rfl rfl rfl rfl
  · exact tally_quiet _ (sameCounters_self bus) rfl rfl rfl rfl rfl rfl rfl

/-- The loop of a dispatch goes on without counting anything itself. -/
theorem nextHandler_tally {bus held : EventBus ε τ} (index : ℕ) (dispatch : Dispatch ε)
    (outcome : HandlerOutcome) (next : Option RegisteredHandler)
    (h : Tally bus held (.handled dispatch.entry dispatch.current outcome next)) :
    Tally bus (held.nextHandler index dispatch outcome).1
      (held.nextHandler index dispatch outcome).2 := by
  obtain ⟨hpublished, hdelivered, hfailed, hfailures, hrejected, hsubscribed, hhistory, hmaxsize,
    hroom⟩ := h
  dsimp only [EventBus.nextHandler]
  -- whether a handler is next makes no difference to what is counted
  cases dispatch.rest <;> cases outcome <;>
    exact ⟨hpublished, hdelivered, hfailed, hfailures, hrejected, hsubscribed, hhistory, hmaxsize,
      hroom⟩

theorem handlerEnds_tally (bus : EventBus ε τ) (index : ℕ) (outcome : HandlerOutcome) :
    Tally bus (bus.handlerEnds index outcome).1 (bus.handlerEnds index outcome).2 := by
  dsimp only [EventBus.handlerEnds]
  split
  · rename_i dispatch cancelRequested hworker
    cases outcome with
    | returned =>
      exact nextHandler_tally index dispatch .returned none
        ⟨rfl, rfl, rfl, .inl ⟨rfl, rfl⟩, rfl, rfl, rfl, rfl, id⟩
    | raised errorType message =>
      exact nextHandler_tally index dispatch (.raised errorType message) none
        ⟨rfl, rfl, rfl, .inr ⟨_, rfl, rfl⟩, rfl, rfl, rfl, rfl, id⟩
    | escaped counted =>
      cases counted <;> exact ⟨rfl, rfl, rfl, .inl ⟨rfl, rfl⟩, rfl, rfl, rfl, rfl, id⟩
  · exact tally_quiet _ (sameCounters_self bus) rfl rfl rfl rfl rfl rfl rfl

theorem busStep_tally [DecidableEq τ] (isInstance : ε → τ → Bool) (bus : EventBus ε τ)
    (hdistinct : DistinctSubscriptions bus) (hpositive : 0 < bus.queue.maxsize)
    (input : BusInput ε τ) :
    Tally bus (busStep isInstance bus input).1 (busStep isInstance bus input).2 := by
  cases input with
  | subscribe eventType handlerName => exact subscribe_tally bus eventType handlerName
  | unsubscribe subscriptionId eventType =>
    exact unsubscribe_tally bus hdistinct subscriptionId eventType
  | publish event priority => exact publish_tally bus hpositive event priority.value
  | publishNowait event priority => exact publishNowait_tally bus hpositive event priority.value
  | publisherResumes index => exact publisherResumes_tally bus hpositive index
  | publisherCancelled index => exact publisherCancelled_tally bus index
  | take index => exact take_tally isInstance bus index
  | handlerEnds index outcome => exact handlerEnds_tally bus index outcome
  | workerCancelled index =>
    dsimp only [busStep, EventBus.workerCancelled]
    split <;> exact tally_quiet _ ⟨rfl, rfl, rfl, rfl, rfl, rfl, rfl, rfl, le_rfl⟩
      rfl rfl rfl rfl rfl rfl rfl
  | stop drain =>
    dsimp only [busStep, EventBus.stop, EventBus.cancelWorkers]
    split_ifs <;> exact tally_quiet _ ⟨rfl, rfl, rfl, rfl, rfl, rfl, rfl, rfl, le_rfl⟩
      rfl rfl rfl rfl rfl rfl rfl
  | stopResumes =>
    dsimp only [busStep, EventBus.stopResumes, EventBus.cancelWorkers]
    split_ifs <;> exact tally_quiet _ ⟨rfl, rfl, rfl, rfl, rfl, rfl, rfl, rfl, le_rfl⟩
      rfl rfl rfl rfl rfl rfl rfl
  | stopReturns =>
    dsimp only [busStep, EventBus.stopReturns]
    split_ifs <;> exact tally_quiet _ ⟨rfl, rfl, rfl, rfl, rfl, rfl, rfl, rfl, le_rfl⟩
      rfl rfl rfl rfl rfl rfl rfl

/-! ### Whole runs -/

theorem failed_snoc (past : List (BusEvent ε τ)) (e : BusEvent ε τ) :
    failed (past ++ [e]) = failed past ++ e.output.failure?.toList :=
  filterMap_snoc (fun e : BusEvent ε τ => e.output.failure?) past e

theorem length_filterMap_snoc {α β : Type*} (f : α → Option β) (past : List α) (a : α) :
    ((past ++ [a]).filterMap f).length = (past.filterMap f).length+(f a).toList.length := by
  rw [filterMap_snoc, List.length_append]

/-- The latest failures stay the latest when one more is put after them. -/
theorem rtake_append_rtake {α : Type*} (n : ℕ) (xs : List α) (x : α) :
    (xs.rtake n ++ [x]).rtake n = (xs ++ [x]).rtake n := by
  cases n with
  | zero => rw [List.rtake_zero, List.rtake_zero]
  | succ n =>
    rw [List.rtake_concat_succ, List.rtake_concat_succ, List.rtake_eq_reverse_take_reverse,
      List.rtake_eq_reverse_take_reverse, List.rtake_eq_reverse_take_reverse, List.reverse_reverse,
      List.take_take, Nat.min_eq_left (Nat.le_succ n)]

/-- What the counters say about the record. -/
structure Counted (config : EventBusConfig) (past : List (BusEvent ε τ)) (bus : EventBus ε τ) :
    Prop where
  published : bus.published = (accepted past).length
  delivered : bus.delivered = past.countP (fun e => e.output.delivers)
  handlerFailures : bus.handlerFailures =
    (failed past).length+past.countP (fun e => e.output.unrecorded)
  recent : bus.failures = (failed past).rtake config.failureHistorySize
  rejectedFull : bus.rejectedFull = past.countP (fun e => e.output.rejects)
  subscribed : bus.subscribed+past.countP (fun e => e.output.removes) =
    past.countP (fun e => e.output.subscribes)
  historySize : bus.failureHistorySize = config.failureHistorySize
  maxsize : bus.queue.maxsize = config.queueSize
  room : bus.queue.items.length ≤ config.queueSize

theorem Counted.step {config : EventBusConfig} {past : List (BusEvent ε τ)}
    {bus after : EventBus ε τ} (h : Counted config past bus) (input : BusInput ε τ)
    {answer : BusAnswer ε} (htally : Tally bus after answer) :
    Counted config (past ++ [⟨bus, input, answer, after⟩]) after := by
  refine ⟨?_, ?_, ?_, ?_, ?_, ?_, ?_, ?_, ?_⟩
  · rw [accepted, length_filterMap_snoc, htally.published, h.published]
    rfl
  · rw [List.countP_append, List.countP_singleton, htally.delivered, h.delivered]
  · rw [failed, length_filterMap_snoc, List.countP_append, List.countP_singleton,
      htally.handlerFailures, h.handlerFailures, failed]
    dsimp only
    omega
  · rw [failed_snoc]
    rcases htally.failures with ⟨hsame, hnone⟩ | ⟨failure, hsome, hlonger⟩
    · dsimp only
      rw [hsame, hnone, h.recent, Option.toList_none, List.append_nil]
    · dsimp only
      rw [hlonger, hsome, h.recent, h.historySize, Option.toList_some, rtake_append_rtake]
  · rw [List.countP_append, List.countP_singleton, htally.rejectedFull, h.rejectedFull]
  · have hbalance := htally.subscribed
    have hbefore := h.subscribed
    rw [List.countP_append, List.countP_singleton, List.countP_append, List.countP_singleton]
    dsimp only
    omega
  · rw [htally.historySize, h.historySize]
  · rw [htally.maxsize, h.maxsize]
  · have hroom := htally.room (h.maxsize ▸ h.room)
    rwa [htally.maxsize, h.maxsize] at hroom

variable [DecidableEq τ] (isInstance : ε → τ → Bool)

theorem counted_run (config : EventBusConfig) (ops : List (BusInput ε τ)) :
    Counted config (busTrace isInstance config ops) (busRun isInstance config ops) := by
  have hrun : DistinctSubscriptions (busRun isInstance config ops) ∧
      Counted config (busTrace isInstance config ops) (busRun isInstance config ops) := by
    apply history_invariant (P := fun past bus =>
      DistinctSubscriptions bus ∧ Counted config past bus)
    · exact ⟨⟨List.nodup_nil, fun _ hmem => absurd hmem List.not_mem_nil⟩,
        rfl, rfl, rfl, (List.rtake_nil _).symm, rfl, rfl, rfl, rfl, Nat.zero_le _⟩
    · rintro past bus input ⟨hdistinct, hcounted⟩
      have hpositive : 0 < bus.queue.maxsize := hcounted.maxsize ▸ config.queueSize_pos
      exact ⟨hdistinct.step isInstance bus input,
        hcounted.step input (busStep_tally isInstance bus hdistinct hpositive input)⟩
  exact hrun.2

/-- After any run the statistics are what the record says: accepted events, returned and failed
handler calls, refusals and subscriptions that remain; no event is unaccounted for, the queue is
within its size, and the failure history is the latest part of all recorded failures, in order. -/
theorem statistics_account (config : EventBusConfig) (ops : List (BusInput ε τ)) :
    (busRun isInstance config ops).stats =
        { published := (accepted (busTrace isInstance config ops)).length
          delivered := (busTrace isInstance config ops).countP (fun e => e.output.delivers)
          handlerFailures := (failed (busTrace isInstance config ops)).length+
            (busTrace isInstance config ops).countP (fun e => e.output.unrecorded)
          rejectedFull := (busTrace isInstance config ops).countP (fun e => e.output.rejects)
          queueDepth := (accepted (busTrace isInstance config ops)).length-
            (taken (busTrace isInstance config ops)).length
          subscriptions := (busTrace isInstance config ops).countP (fun e => e.output.subscribes)-
            (busTrace isInstance config ops).countP (fun e => e.output.removes) } ∧
      (busRun isInstance config ops).stats.queueDepth+
          (taken (busTrace isInstance config ops)).length =
        (busRun isInstance config ops).stats.published ∧
      (busRun isInstance config ops).stats.queueDepth ≤ config.queueSize ∧
      (busRun isInstance config ops).stats.delivered+
          (busRun isInstance config ops).stats.handlerFailures+
          (busRun isInstance config ops).dispatches.length+
          (busTrace isInstance config ops).countP uncaught =
        (invocations (busTrace isInstance config ops)).length ∧
      (busRun isInstance config ops).recentFailures =
        (failed (busTrace isInstance config ops)).rtake config.failureHistorySize := by
  have hledger := ledger_run isInstance config ops
  have hcounted := counted_run isInstance config ops
  generalize busTrace isInstance config ops = past at hledger hcounted ⊢
  generalize busRun isInstance config ops = bus at hledger hcounted ⊢
  have hdepth : bus.queue.items.length+(taken past).length = (accepted past).length := by
    rw [hledger.accounted.length_eq, List.length_append, List.length_map]
  have hsubscribed := hcounted.subscribed
  refine ⟨?_, ?_, hcounted.room, hledger.counted, hcounted.recent⟩
  · unfold EventBus.stats
    rw [hcounted.published, hcounted.delivered, hcounted.handlerFailures, hcounted.rejectedFull]
    congr 1
    · omega
    · omega
  · exact hdepth.trans hcounted.published.symm

end Counting

end RoboticCharacter.Events
