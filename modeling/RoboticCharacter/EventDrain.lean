import RoboticCharacter.EventOrder

/-! A draining `stop` of the event bus against publishers that run on while it waits. -/
namespace RoboticCharacter.Events
open AsyncQueue Machine

section Drain
variable {ε τ : Type*}

/-- `stop` finds nothing unfinished when it comes back from its `join`, and no `publish` that
was suspended on a full queue runs on after the bus has stopped. -/
def stopsClean (bus : EventBus ε τ) : BusInput ε τ → Bool
  | .stopResumes => decide (bus.stopping = .joining true → bus.queue.unfinished = 0)
  | .publisherResumes _ => bus.running
  | _ => true

def handlerReturns (answer : BusAnswer ε) : Bool :=
  match answer.ended? with
  | some (_, _, outcome) => decide (outcome = .returned)
  | none => true

/-- A stopped bus has nothing unfinished, and stays so. -/
structure Halted (bus : EventBus ε τ) : Prop where
  finished : bus.running = false → bus.queue.unfinished = 0
  stopped : bus.stopping = .gathering ∨ bus.stopping = .returned → bus.running = false

namespace Halted
variable {bus after : EventBus ε τ}

theorem same (h : Halted bus) (hrunning : after.running = bus.running)
    (hstopping : after.stopping = bus.stopping)
    (hunfinished : bus.queue.unfinished = 0 → after.queue.unfinished = 0) : Halted after := by
  refine ⟨?_, ?_⟩
  · rw [hrunning]
    exact fun hstop => hunfinished (h.finished hstop)
  · rw [hstopping, hrunning]
    exact h.stopped

theorem enqueued (h : Halted bus) (hrunning : after.running = bus.running)
    (hstopping : after.stopping = bus.stopping) (hrun : bus.running = true) : Halted after := by
  refine ⟨?_, ?_⟩
  · intro hstop
    rw [hrunning, hrun] at hstop
    cases hstop
  · rw [hstopping, hrunning]
    exact h.stopped

theorem taskDone (h : Halted bus) : Halted bus.taskDone := by
  refine ⟨?_, ?_⟩
  · intro hstop
    dsimp only [EventBus.taskDone, PriorityQueue.taskDone] at hstop ⊢
    rw [h.finished hstop]
  · intro hphase
    apply h.stopped
    dsimp only [EventBus.taskDone] at hphase
    split at hphase
    · rcases hphase with hphase | hphase <;> cases hphase
    · exact hphase

theorem publish (h : Halted bus) (event : ε) (priority : ℕ) :
    Halted (bus.publish event priority).1 := by
  dsimp only [EventBus.publish]
  split_ifs with hstopped
  · exact h
  · exact h.same rfl rfl id
  · exact h.enqueued rfl rfl (by simpa using hstopped)

theorem publishNowait (h : Halted bus) (event : ε) (priority : ℕ) :
    Halted (bus.publishNowait event priority).1 := by
  dsimp only [EventBus.publishNowait]
  split_ifs with hstopped
  · exact h
  · exact h.same rfl rfl id
  · exact h.enqueued rfl rfl (by simpa using hstopped)

theorem publisherResumes (h : Halted bus) (index : ℕ) (hrun : bus.running = true) :
    Halted (bus.publisherResumes index).1 := by
  dsimp only [EventBus.publisherResumes]
  split
  · exact h
  · split_ifs
    · exact h
    · exact h.enqueued rfl rfl hrun

theorem take (isInstance : ε → τ → Bool) (h : Halted bus) (index : ℕ) :
    Halted (bus.take isInstance index).1 := by
  dsimp only [EventBus.take]
  split
  · rename_i entry queue hworker hget
    have hkept : bus.queue.unfinished = 0 → queue.unfinished = 0 := by
      rw [(PriorityQueue.getNowait_eq_some _ _ _ hget).2]
      exact id
    split
    · apply taskDone
      exact h.same rfl rfl hkept
    · exact h.same rfl rfl hkept
  · exact h

theorem handlerEnds (h : Halted bus) (index : ℕ) (outcome : HandlerOutcome) :
    Halted (bus.handlerEnds index outcome).1 := by
  have hnext : ∀ (held : EventBus ε τ) dispatch, held.running = bus.running →
      held.stopping = bus.stopping → held.queue = bus.queue →
      Halted (held.nextHandler index dispatch outcome).1 := by
    intro held dispatch hrunning hstopping hqueue
    dsimp only [EventBus.nextHandler]
    split
    · apply taskDone
      exact h.same hrunning hstopping (by rw [← hqueue]; exact id)
    · exact h.same hrunning hstopping (by rw [← hqueue]; exact id)
  dsimp only [EventBus.handlerEnds]
  split
  · cases outcome with
    | returned => exact hnext _ _ rfl rfl rfl
    | raised errorType message => exact hnext _ _ rfl rfl rfl
    | escaped counted =>
      apply taskDone
      exact h.same rfl rfl id
  · exact h

theorem cancelWorkers (hfinished : bus.queue.unfinished = 0) : Halted bus.cancelWorkers.1 :=
  ⟨fun _ => hfinished, fun _ => rfl⟩

theorem step [DecidableEq τ] (isInstance : ε → τ → Bool) (bus : EventBus ε τ)
    (input : BusInput ε τ) (h : Halted bus)
    (hallowed : input ≠ .stop false ∧ stopsClean bus input = true) :
    Halted (busStep isInstance bus input).1 := by
  obtain ⟨hdrain, hclean⟩ := hallowed
  cases input with
  | subscribe eventType handlerName => exact h.same rfl rfl id
  | unsubscribe subscriptionId eventType =>
    dsimp only [busStep, EventBus.unsubscribe]
    split <;> exact h.same rfl rfl id
  | publish event priority => exact h.publish event priority.value
  | publishNowait event priority => exact h.publishNowait event priority.value
  | publisherResumes index => exact h.publisherResumes index hclean
  | publisherCancelled index =>
    dsimp only [busStep, EventBus.publisherCancelled]
    split <;> exact h.same rfl rfl id
  | take index => exact h.take isInstance index
  | handlerEnds index outcome => exact h.handlerEnds index outcome
  | workerCancelled index =>
    dsimp only [busStep, EventBus.workerCancelled]
    split <;> exact h.same rfl rfl id
  | stop drain =>
    obtain rfl : drain = true := by
      cases drain with
      | true => rfl
      | false => exact absurd rfl hdrain
    dsimp only [busStep, EventBus.stop]
    split_ifs with hcalled hstopped hwaits
    · exact h
    · exact ⟨h.finished, fun _ => hstopped⟩
    · refine ⟨h.finished, ?_⟩
      rintro (hphase | hphase) <;> cases hphase
    · exact cancelWorkers (by simpa using hwaits)
  | stopResumes =>
    dsimp only [busStep, EventBus.stopResumes]
    split_ifs with hreleased
    · exact cancelWorkers (of_decide_eq_true hclean hreleased)
    · exact h
  | stopReturns =>
    dsimp only [busStep, EventBus.stopReturns]
    split_ifs with hended
    · exact ⟨h.finished, fun _ => h.stopped (.inl hended.1)⟩
    · exact h

end Halted

variable [DecidableEq τ] (isInstance : ε → τ → Bool)

/-- Only a publisher that was suspended before gets past a stopped bus. -/
theorem accepted_running (bus : EventBus ε τ) (input : BusInput ε τ) (entry : Entry ε)
    (h : (busStep isInstance bus input).2 = .accepted entry)
    (hclean : stopsClean bus input = true) : bus.running = true := by
  obtain ⟨priority, rfl | rfl⟩ | ⟨index, rfl, -⟩ :=
    (busStep_callStep isInstance bus input).caller entry h
  · dsimp only [busStep, EventBus.publish] at h
    split_ifs at h with hstopped
    simpa using hstopped
  · dsimp only [busStep, EventBus.publishNowait] at h
    split_ifs at h with hstopped
    simpa using hstopped
  · exact hclean

/-- Draining `stop` keeps its promise: whatever was accepted has been dispatched to all its
handlers when it returns, and a stopped bus accepts nothing. -/
structure DrainsAll (past : List (BusEvent ε τ)) (bus : EventBus ε τ) : Prop where
  dispatched : bus.stopping = .returned → bus.dispatches = [] ∧
    ∀ entry ∈ accepted past, ∃ matched, (entry, matched) ∈ taken past ∧
      invokedFor past entry = matched
  refused : ∀ e ∈ past, e.before.running = false → ∀ entry, e.output ≠ .accepted entry
  raised : ∀ e ∈ past, e.before.running = false → ∀ event priority,
    e.input = .publish event priority ∨ e.input = .publishNowait event priority →
    e.output = .notRunning

theorem halted_run (config : EventBusConfig) (ops : List (BusInput ε τ))
    (hdrain : ∀ op ∈ ops, op ≠ .stop false)
    (hclean : ∀ e ∈ busTrace isInstance config ops, stopsClean e.before e.input = true) :
    Halted (busRun isInstance config ops) := by
  apply states_guarded (busStep isInstance)
    (fun bus input => input ≠ .stop false ∧ stopsClean bus input = true)
    (fun bus input h hallowed => h.step isInstance bus input hallowed) (startedBus config) _ ops
  · intro e he
    refine ⟨?_, hclean e he⟩
    apply hdrain
    rw [← trace_inputs (busStep isInstance) (startedBus config) ops]
    exact List.mem_map_of_mem he
  · exact run_mem_states _ _ _
  · refine ⟨fun hstopped => ?_, ?_⟩
    · cases hstopped
    · rintro (hphase | hphase) <;> cases hphase

/-- While its handlers all return, a draining `stop` loses nothing in every run in which it
comes back from `join` to a queue with nothing unfinished and to no suspended publisher that
later runs on. -/
theorem draining_stop_loses_nothing (config : EventBusConfig) (ops : List (BusInput ε τ))
    (hdrain : ∀ op ∈ ops, op ≠ .stop false)
    (hreturn : ∀ e ∈ busTrace isInstance config ops, handlerReturns e.output = true)
    (hclean : ∀ e ∈ busTrace isInstance config ops, stopsClean e.before e.input = true) :
    DrainsAll (busTrace isInstance config ops) (busRun isInstance config ops) := by
  have hhalted := halted_run isInstance config ops hdrain hclean
  have hkeeps : ∀ e ∈ busTrace isInstance config ops, ¬ Disrupts e := by
    intro e he
    have hstep := trace_step (busStep isInstance) (startedBus config) ops e he
    apply mt (aborts_of_disrupts isInstance hstep)
    rintro ⟨entry, registered, counted, next, houtput⟩
    have hends := hreturn e he
    rw [houtput] at hends
    cases hends
  refine ⟨?_, ?_, ?_⟩
  · intro hreturned
    have hfinished := hhalted.finished (hhalted.stopped (.inr hreturned))
    obtain ⟨hreached, hidle⟩ := isolated_joined isInstance config ops hkeeps hfinished
    exact ⟨hidle, hreached⟩
  · intro e he hstopped entry houtput
    have hstep := trace_step (busStep isInstance) _ ops e he
    have hrunning := accepted_running isInstance e.before e.input entry
      (by rw [hstep]; exact houtput) (hclean e he)
    rw [hstopped] at hrunning
    cases hrunning
  · intro e he hstopped event priority hinput
    have hstep := congrArg Prod.snd (trace_step (busStep isInstance) _ ops e he)
    rcases hinput with hinput | hinput
    · rw [hinput] at hstep
      simpa [busStep, EventBus.publish, hstopped] using hstep.symm
    · rw [hinput] at hstep
      simpa [busStep, EventBus.publishNowait, hstopped] using hstep.symm

end Drain

/-- `stop` is called in the middle of the only dispatch and nothing is published behind it. -/
def publishedBeforeStop : List (BusInput String Unit) :=
  [.subscribe () "listener", .publishNowait "first" .normal, .take 0, .stop true,
    .handlerEnds 0 .returned, .stopResumes, .publishNowait "second" .normal, .workerCancelled 0,
    .stopReturns]

theorem draining_stop_drained :
    (busRun (fun _ _ => true) defaultConfig publishedBeforeStop).stopping = .returned ∧
      DrainsAll (busTrace (fun _ _ => true) defaultConfig publishedBeforeStop)
        (busRun (fun _ _ => true) defaultConfig publishedBeforeStop) := by
  refine ⟨by decide, ?_⟩
  exact draining_stop_loses_nothing (fun _ _ => true) defaultConfig publishedBeforeStop
    (by decide) (by decide) (by decide)

/-- `stop` is released by the end of the first event's dispatch; the second is accepted
before `stop` runs on. -/
def publishedBehindJoin : List (BusInput String Unit) :=
  [.subscribe () "listener", .publishNowait "first" .normal, .take 0, .stop true,
    .handlerEnds 0 .returned, .publishNowait "second" .normal, .stopResumes, .workerCancelled 0,
    .stopReturns]

/-- The event behind the join was accepted and its listener never hears of it. -/
theorem draining_stop_loses_event :
    (busRun (fun _ _ => true) defaultConfig publishedBehindJoin).stopping = .returned ∧
      accepted (busTrace (fun _ _ => true) defaultConfig publishedBehindJoin) =
        [⟨20, 0, "first"⟩, ⟨20, 1, "second"⟩] ∧
      taken (busTrace (fun _ _ => true) defaultConfig publishedBehindJoin) =
        [(⟨20, 0, "first"⟩, [⟨0, "listener"⟩])] ∧
      (busRun (fun _ _ => true) defaultConfig publishedBehindJoin).queue.items =
        [⟨20, 1, "second"⟩] ∧
      ¬ DrainsAll (busTrace (fun _ _ => true) defaultConfig publishedBehindJoin)
        (busRun (fun _ _ => true) defaultConfig publishedBehindJoin) := by
  have hstopped : (busRun (fun _ _ => true) defaultConfig publishedBehindJoin).stopping =
      .returned := by decide
  have htaken : taken (busTrace (fun _ _ => true) defaultConfig publishedBehindJoin) =
      [(⟨20, 0, "first"⟩, [⟨0, "listener"⟩])] := by decide
  have haccepted : accepted (busTrace (fun _ _ => true) defaultConfig publishedBehindJoin) =
      [⟨20, 0, "first"⟩, ⟨20, 1, "second"⟩] := by decide
  refine ⟨hstopped, haccepted, htaken, by decide, ?_⟩
  intro h
  obtain ⟨matched, hmem, _⟩ := (h.dispatched hstopped).2 ⟨20, 1, "second"⟩ (by rw [haccepted]; simp)
  rw [htaken] at hmem
  simp at hmem

end RoboticCharacter.Events
