import Mathlib.Data.List.Perm.Basic
import RoboticCharacter.EventDispatch

/-! The ledger of the event bus over whole runs: each accepted entry is queued or taken
once, and its handlers are called in the order of its match. -/
namespace RoboticCharacter.Events
open AsyncQueue Machine

section Ledger
variable {ε τ : Type*}

theorem accepted_snoc (past : List (BusEvent ε τ)) (e : BusEvent ε τ) :
    accepted (past ++ [e]) = accepted past ++ e.output.accepted?.toList :=
  filterMap_snoc (fun e : BusEvent ε τ => e.output.accepted?) past e

theorem taken_snoc (past : List (BusEvent ε τ)) (e : BusEvent ε τ) :
    taken (past ++ [e]) = taken past ++ e.output.taken?.toList :=
  filterMap_snoc (fun e : BusEvent ε τ => e.output.taken?) past e

theorem invocations_snoc (past : List (BusEvent ε τ)) (e : BusEvent ε τ) :
    invocations (past ++ [e]) = invocations past ++ e.output.invoked?.toList :=
  filterMap_snoc (fun e : BusEvent ε τ => e.output.invoked?) past e

/-- A handler invocation that ended in what leaves the worker. -/
def Aborts (e : BusEvent ε τ) : Prop :=
  ∃ entry registered counted next, e.output = .handled entry registered (.escaped counted) next

def aborts (e : BusEvent ε τ) : Bool :=
  match e.output.ended? with
  | some (_, _, .escaped _) => true
  | _ => false

/-- One that `except Exception` did not catch: it is counted nowhere. -/
def uncaught (e : BusEvent ε τ) : Bool :=
  match e.output.ended? with
  | some (_, _, .escaped counted) => !counted
  | _ => false

/-- A worker is lost to the bus while it runs, or a handler to its event, or a call to the
counters. -/
def Disrupts (e : BusEvent ε τ) : Prop :=
  ∃ index dispatch counted, e.input = .handlerEnds index (.escaped counted) ∧
    e.before.dispatchAt index = some dispatch ∧
    (counted = false ∨ e.before.running = true ∨ dispatch.rest ≠ [])

theorem aborts_iff (e : BusEvent ε τ) : aborts e = true ↔ Aborts e := by
  obtain ⟨before, input, output, after⟩ := e
  dsimp only [aborts, Aborts]
  constructor
  · intro h
    cases output with
    | handled entry registered outcome next =>
      cases outcome with
      | escaped counted => exact ⟨entry, registered, counted, next, rfl⟩
      | returned => exact absurd h Bool.false_ne_true
      | raised _ _ => exact absurd h Bool.false_ne_true
    | _ => exact absurd h Bool.false_ne_true
  · rintro ⟨entry, registered, counted, next, rfl⟩
    rfl

theorem aborts_of_disrupts [DecidableEq τ] (isInstance : ε → τ → Bool) {e : BusEvent ε τ}
    (hstep : busStep isInstance e.before e.input = (e.after, e.output)) (h : Disrupts e) :
    Aborts e := by
  obtain ⟨index, dispatch, counted, hinput, hdispatch, -⟩ := h
  obtain ⟨next, hanswer⟩ := handlerEnds_dispatchAt hdispatch (.escaped counted)
  rw [hinput] at hstep
  exact ⟨dispatch.entry, dispatch.current, counted, next,
    (congrArg Prod.snd hstep).symm.trans hanswer⟩

/-- A handler's end that leaves the worker and disrupts nothing was counted, after the last
handler of its event, on a bus that no longer runs. -/
theorem of_not_disrupts [DecidableEq τ] (isInstance : ε → τ → Bool) {e : BusEvent ε τ}
    {entry : Entry ε} {registered : RegisteredHandler} {counted : Bool}
    {next : Option RegisteredHandler}
    (hstep : busStep isInstance e.before e.input = (e.after, e.output))
    (hanswer : e.output = .handled entry registered (.escaped counted) next)
    (h : ¬ Disrupts e) :
    counted = true ∧ e.before.running = false ∧ ∃ index,
      e.before.dispatchAt index = some ⟨entry, registered, []⟩ := by
  obtain ⟨index, rest, hinput, hdispatch⟩ := busStep_handled isInstance e.before e.input
    ((congrArg Prod.snd hstep).trans hanswer)
  have hkept : ¬ (counted = false ∨ e.before.running = true ∨ rest ≠ []) :=
    fun hlost => h ⟨index, _, counted, hinput, hdispatch, hlost⟩
  rw [not_or, not_or, Bool.not_eq_false, Bool.not_eq_true, ne_eq, not_not] at hkept
  obtain ⟨hcounted, hstopped, rfl⟩ := hkept
  exact ⟨hcounted, hstopped, index, hdispatch⟩

theorem not_uncaught_of_not_disrupts [DecidableEq τ] (isInstance : ε → τ → Bool)
    {e : BusEvent ε τ} (hstep : busStep isInstance e.before e.input = (e.after, e.output))
    (h : ¬ Disrupts e) : ¬ uncaught e = true := by
  intro huncaught
  cases hanswer : e.output with
  | handled entry registered outcome next =>
    rw [uncaught, hanswer] at huncaught
    cases outcome with
    | escaped counted =>
      obtain ⟨rfl, -⟩ := of_not_disrupts isInstance hstep hanswer h
      exact absurd huncaught Bool.false_ne_true
    | returned => exact absurd huncaught Bool.false_ne_true
    | raised _ _ => exact absurd huncaught Bool.false_ne_true
  | _ =>
    rw [uncaught, hanswer] at huncaught
    exact absurd huncaught Bool.false_ne_true

/-- What a step does to the entries that are numbered and not yet in the queue: it lets some
through or go, or it numbers one more. -/
inductive Numbered (bus after : EventBus ε τ) (answer : BusAnswer ε) : Prop
  | kept (lost : List (Entry ε))
      (hblocked : (answer.accepted?.toList ++ after.blocked ++ lost).Perm bus.blocked)
      (hsequence : bus.sequence ≤ after.sequence)
  | fresh (entry : Entry ε) (hnumber : entry.sequence = bus.sequence)
      (hsequence : after.sequence = bus.sequence+1)
      (hblocked : (answer.accepted?.toList ++ after.blocked).Perm (entry :: bus.blocked))

theorem numbered_of_same (bus after : EventBus ε τ) (answer : BusAnswer ε)
    (hblocked : after.blocked = bus.blocked) (hsequence : bus.sequence ≤ after.sequence)
    (haccepted : answer.accepted? = none) : Numbered bus after answer := by
  refine .kept [] ?_ hsequence
  rw [haccepted, hblocked, Option.toList_none, List.nil_append, List.append_nil]

theorem blocked_perm (blocked : List (Entry ε)) (index : ℕ) (entry : Entry ε)
    (h : blocked[index]? = some entry) : (entry :: blocked.eraseIdx index).Perm blocked := by
  obtain ⟨hlt, hentry⟩ := List.getElem?_eq_some_iff.mp h
  rw [← hentry]
  exact List.getElem_cons_eraseIdx_perm hlt

theorem publish_numbered (bus : EventBus ε τ) (event : ε) (priority : ℕ) :
    Numbered bus (bus.publish event priority).1 (bus.publish event priority).2 := by
  dsimp only [EventBus.publish]
  split_ifs
  · exact numbered_of_same _ _ _ rfl le_rfl rfl
  · exact .fresh ⟨priority, bus.sequence, event⟩ rfl rfl (List.perm_append_singleton _ _)
  · exact .fresh ⟨priority, bus.sequence, event⟩ rfl rfl (List.Perm.refl _)

theorem publishNowait_numbered (bus : EventBus ε τ) (event : ε) (priority : ℕ) :
    Numbered bus (bus.publishNowait event priority).1 (bus.publishNowait event priority).2 := by
  dsimp only [EventBus.publishNowait]
  split_ifs
  · exact numbered_of_same _ _ _ rfl le_rfl rfl
  · exact numbered_of_same _ _ _ rfl (Nat.le_succ _) rfl
  · exact .fresh ⟨priority, bus.sequence, event⟩ rfl rfl (List.Perm.refl _)

theorem publisherResumes_numbered (bus : EventBus ε τ) (index : ℕ) :
    Numbered bus (bus.publisherResumes index).1 (bus.publisherResumes index).2 := by
  dsimp only [EventBus.publisherResumes]
  cases hentry : bus.blocked[index]? with
  | none => exact numbered_of_same _ _ _ rfl le_rfl rfl
  | some entry =>
    dsimp only
    split_ifs
    · exact numbered_of_same _ _ _ rfl le_rfl rfl
    · refine .kept [] ?_ le_rfl
      rw [List.append_nil]
      exact blocked_perm bus.blocked index entry hentry

theorem publisherCancelled_numbered (bus : EventBus ε τ) (index : ℕ) :
    Numbered bus (bus.publisherCancelled index).1 (bus.publisherCancelled index).2 := by
  dsimp only [EventBus.publisherCancelled]
  cases hentry : bus.blocked[index]? with
  | none => exact numbered_of_same _ _ _ rfl le_rfl rfl
  | some entry =>
    refine .kept [entry] ?_ le_rfl
    exact (List.perm_append_singleton _ _).trans (blocked_perm bus.blocked index entry hentry)

/-- The steps of the tasks that publish. -/
def BusInput.publishes : BusInput ε τ → Bool
  | .publish _ _ | .publishNowait _ _ | .publisherResumes _ | .publisherCancelled _ => true
  | _ => false

/-- The step of a task that does not publish: numbers and waiting entries stay as they are. -/
structure Bystands (bus after : EventBus ε τ) (answer : BusAnswer ε) : Prop where
  blocked_eq : after.blocked = bus.blocked
  sequence_eq : after.sequence = bus.sequence
  accepted_eq : answer.accepted? = none

theorem busStep_bystands [DecidableEq τ] (isInstance : ε → τ → Bool) (bus : EventBus ε τ)
    (input : BusInput ε τ) (h : input.publishes = false) :
    Bystands bus (busStep isInstance bus input).1 (busStep isInstance bus input).2 := by
  cases input with
  | publish event priority => cases h
  | publishNowait event priority => cases h
  | publisherResumes index => cases h
  | publisherCancelled index => cases h
  | subscribe eventType handlerName => exact ⟨rfl, rfl, rfl⟩
  | unsubscribe subscriptionId eventType =>
    dsimp only [busStep, EventBus.unsubscribe]
    split <;> exact ⟨rfl, rfl, rfl⟩
  | take index =>
    dsimp only [busStep, EventBus.take]
    split
    · split <;> exact ⟨rfl, rfl, rfl⟩
    · exact ⟨rfl, rfl, rfl⟩
  | handlerEnds index outcome =>
    dsimp only [busStep, EventBus.handlerEnds]
    split
    · cases outcome with
      | returned =>
        dsimp only [EventBus.nextHandler]
        split <;> exact ⟨rfl, rfl, rfl⟩
      | raised errorType message =>
        dsimp only [EventBus.nextHandler]
        split <;> exact ⟨rfl, rfl, rfl⟩
      | escaped counted => exact ⟨rfl, rfl, rfl⟩
    · exact ⟨rfl, rfl, rfl⟩
  | workerCancelled index =>
    dsimp only [busStep, EventBus.workerCancelled]
    split <;> exact ⟨rfl, rfl, rfl⟩
  | stop drain =>
    dsimp only [busStep, EventBus.stop]
    split_ifs <;> exact ⟨rfl, rfl, rfl⟩
  | stopResumes =>
    dsimp only [busStep, EventBus.stopResumes]
    split_ifs <;> exact ⟨rfl, rfl, rfl⟩
  | stopReturns =>
    dsimp only [busStep, EventBus.stopReturns]
    split_ifs <;> exact ⟨rfl, rfl, rfl⟩

theorem busStep_numbered [DecidableEq τ] (isInstance : ε → τ → Bool) (bus : EventBus ε τ)
    (input : BusInput ε τ) :
    Numbered bus (busStep isInstance bus input).1 (busStep isInstance bus input).2 := by
  by_cases hpublishes : input.publishes = false
  · have hbystands := busStep_bystands isInstance bus input hpublishes
    exact numbered_of_same _ _ _ hbystands.blocked_eq hbystands.sequence_eq.ge
      hbystands.accepted_eq
  · cases input with
    | publish event priority => exact publish_numbered bus event priority.value
    | publishNowait event priority => exact publishNowait_numbered bus event priority.value
    | publisherResumes index => exact publisherResumes_numbered bus index
    | publisherCancelled index => exact publisherCancelled_numbered bus index
    | _ => exact absurd rfl hpublishes

/-- Where every numbered entry is, and how many handler calls there have been. -/
structure Ledger (past : List (BusEvent ε τ)) (bus : EventBus ε τ) : Prop where
  distinct : ((accepted past ++ bus.blocked).map Entry.sequence).Nodup
  numbered : ∀ entry ∈ accepted past ++ bus.blocked, entry.sequence < bus.sequence
  accounted : (accepted past).Perm (bus.queue.items ++ (taken past).map Prod.fst)
  unfinished : bus.queue.unfinished = bus.queue.items.length+bus.dispatches.length
  counted : bus.counted+bus.dispatches.length+past.countP uncaught = (invocations past).length

theorem Numbered.distinct {past : List (BusEvent ε τ)} {bus after : EventBus ε τ}
    {answer : BusAnswer ε} (h : Numbered bus after answer)
    (hdistinct : ((accepted past ++ bus.blocked).map Entry.sequence).Nodup)
    (hnumbered : ∀ entry ∈ accepted past ++ bus.blocked, entry.sequence < bus.sequence) :
    ((accepted past ++ answer.accepted?.toList ++ after.blocked).map Entry.sequence).Nodup ∧
      ∀ entry ∈ accepted past ++ answer.accepted?.toList ++ after.blocked,
        entry.sequence < after.sequence := by
  rw [List.append_assoc]
  cases h with
  | kept lost hblocked hsequence =>
    have hperm := (List.Perm.append_left (accepted past) hblocked).symm
    rw [← List.append_assoc] at hperm
    constructor
    · have hall := (hperm.map Entry.sequence).nodup_iff.mp hdistinct
      rw [List.map_append] at hall
      exact (List.nodup_append.mp hall).1
    · intro entry hentry
      have hmem := hnumbered entry (hperm.mem_iff.mpr (List.mem_append_left _ hentry))
      omega
  | fresh entry hnumber hsequence hblocked =>
    have hperm : (accepted past ++ (answer.accepted?.toList ++ after.blocked)).Perm
        (entry :: (accepted past ++ bus.blocked)) :=
      (List.Perm.append_left (accepted past) hblocked).trans List.perm_middle
    constructor
    · rw [(hperm.map Entry.sequence).nodup_iff, List.map_cons, List.nodup_cons]
      refine ⟨?_, hdistinct⟩
      intro hmem
      obtain ⟨other, hother, heq⟩ := List.mem_map.mp hmem
      have hlt := hnumbered other hother
      omega
    · intro other hother
      rcases List.mem_cons.mp (hperm.mem_iff.mp hother) with rfl | hrest
      · omega
      · have hlt := hnumbered other hrest
        omega

theorem countP_snoc (past : List (BusEvent ε τ)) (e : BusEvent ε τ) :
    (past ++ [e]).countP uncaught = past.countP uncaught+(if uncaught e then 1 else 0) := by
  rw [List.countP_append, List.countP_singleton]

/-- Each entry accepted before is queued or taken, and so it is with what a step accepts. -/
theorem Effect.accounted {isInstance : ε → τ → Bool} {bus after : EventBus ε τ}
    {answer : BusAnswer ε} (heffect : Effect isInstance bus after answer)
    {entries : List (Entry ε)} {pairs : List (Entry ε × List RegisteredHandler)}
    (h : entries.Perm (bus.queue.items ++ pairs.map Prod.fst)) :
    (entries ++ answer.accepted?.toList).Perm
      (after.queue.items ++ (pairs ++ answer.taken?.toList).map Prod.fst) := by
  rw [List.map_append]
  cases heffect with
  | quiet answer hitems _ _ _ haccepted htaken =>
    rw [haccepted, htaken, hitems]
    simpa using h
  | accepted entry hitems =>
    have hput : (entry :: (bus.queue.items ++ pairs.map Prod.fst)).Perm
        (after.queue.items ++ pairs.map Prod.fst) :=
      (List.Perm.append_right _ hitems).symm
    simpa [BusAnswer.accepted?, BusAnswer.taken?] using
      (List.perm_append_singleton entry entries).trans ((h.cons entry).trans hput)
  | unmatched entry hitems =>
    rw [hitems] at h
    simpa [BusAnswer.accepted?, BusAnswer.taken?] using
      h.trans (List.perm_append_singleton entry _).symm
  | started entry current rest front back hitems =>
    rw [hitems] at h
    simpa [BusAnswer.accepted?, BusAnswer.taken?] using
      h.trans (List.perm_append_singleton entry _).symm
  | continued dispatch next rest outcome front back hrest hitems =>
    rw [hitems]
    simpa [BusAnswer.accepted?, BusAnswer.taken?] using h
  | finished dispatch outcome front back hrest hitems =>
    rw [hitems]
    simpa [BusAnswer.accepted?, BusAnswer.taken?] using h
  | aborted dispatch counted front back hitems =>
    rw [hitems]
    simpa [BusAnswer.accepted?, BusAnswer.taken?] using h

/-- The queue counts as unfinished what it holds and what is being dispatched. -/
theorem Effect.unfinished_eq {isInstance : ε → τ → Bool} {bus after : EventBus ε τ}
    {answer : BusAnswer ε} (heffect : Effect isInstance bus after answer)
    (h : bus.queue.unfinished = bus.queue.items.length+bus.dispatches.length) :
    after.queue.unfinished = after.queue.items.length+after.dispatches.length := by
  cases heffect with
  | quiet answer hitems hsame hdispatches =>
    rw [hsame, hitems, hdispatches]
    exact h
  | accepted entry hitems hmore hdispatches =>
    rw [hmore, hitems.length_eq, hdispatches, h, List.length_cons]
    omega
  | unmatched entry hitems hless hdispatches =>
    rw [hless, hdispatches, h, hitems, List.length_cons]
    omega
  | started entry current rest front back hitems hsame hbefore hafter =>
    rw [hsame, h, hitems, hbefore, hafter]
    simp only [List.length_cons, List.length_append]
    omega
  | continued dispatch next rest outcome front back _ hitems hsame hbefore hafter =>
    rw [hsame, h, hitems, hbefore, hafter]
    simp only [List.length_cons, List.length_append]
  | finished dispatch outcome front back _ hitems hless hbefore hafter =>
    rw [hless, h, hitems, hbefore, hafter]
    simp only [List.length_cons, List.length_append]
    omega
  | aborted dispatch counted front back hitems hless hbefore hafter =>
    rw [hless, h, hitems, hbefore, hafter]
    simp only [List.length_cons, List.length_append]
    omega

/-- A call that ended is counted, or it ended in what `except Exception` does not catch. -/
theorem Effect.counted_eq {isInstance : ε → τ → Bool} {bus after : EventBus ε τ}
    {answer : BusAnswer ε} (heffect : Effect isInstance bus after answer)
    (input : BusInput ε τ) :
    after.counted+after.dispatches.length+
        (if uncaught ⟨bus, input, answer, after⟩ = true then 1 else 0) =
      bus.counted+bus.dispatches.length+answer.invoked?.toList.length := by
  cases heffect with
  | quiet answer _ _ hdispatches hkept _ _ hinvoked hended =>
    have hquiet : uncaught ⟨bus, input, answer, after⟩ = false := by
      dsimp only [uncaught]
      rw [hended]
    rw [hinvoked, hkept, hdispatches, hquiet]
    simp
  | accepted entry _ _ hdispatches hkept =>
    rw [hkept, hdispatches]
    simp [BusAnswer.invoked?, BusAnswer.ended?, uncaught]
  | unmatched entry _ _ hdispatches hkept =>
    rw [hkept, hdispatches]
    simp [BusAnswer.invoked?, BusAnswer.ended?, uncaught]
  | started entry current rest front back _ _ hbefore hafter hkept =>
    rw [hkept, hbefore, hafter]
    simp [BusAnswer.invoked?, BusAnswer.ended?, uncaught]
    omega
  | continued dispatch next rest outcome front back _ _ _ hbefore hafter hone houtcome =>
    rw [hone, hbefore, hafter]
    cases outcome with
    | escaped counted => exact absurd rfl (houtcome counted)
    | returned => simp [BusAnswer.invoked?, BusAnswer.ended?, uncaught]; omega
    | raised _ _ => simp [BusAnswer.invoked?, BusAnswer.ended?, uncaught]; omega
  | finished dispatch outcome front back _ _ _ hbefore hafter hone houtcome =>
    rw [hone, hbefore, hafter]
    cases outcome with
    | escaped counted => exact absurd rfl (houtcome counted)
    | returned => simp [BusAnswer.invoked?, BusAnswer.ended?, uncaught]; omega
    | raised _ _ => simp [BusAnswer.invoked?, BusAnswer.ended?, uncaught]; omega
  | aborted dispatch counted front back _ _ hbefore hafter hkept =>
    rw [hkept, hbefore, hafter]
    cases counted with
    | true => simp [BusAnswer.invoked?, BusAnswer.ended?, uncaught]; omega
    | false => simp [BusAnswer.invoked?, BusAnswer.ended?, uncaught]; omega

theorem Ledger.step [DecidableEq τ] (isInstance : ε → τ → Bool) {past : List (BusEvent ε τ)}
    {bus : EventBus ε τ} (h : Ledger past bus) (input : BusInput ε τ) :
    Ledger (past ++ [⟨bus, input, (busStep isInstance bus input).2,
      (busStep isInstance bus input).1⟩]) (busStep isInstance bus input).1 := by
  have hnumbered := (busStep_numbered isInstance bus input).distinct h.distinct h.numbered
  have heffect := busStep_effect isInstance bus input
  have hcount := heffect.counted_eq input
  refine ⟨?_, ?_, ?_, heffect.unfinished_eq h.unfinished, ?_⟩
  · rw [accepted_snoc]
    exact hnumbered.1
  · rw [accepted_snoc]
    exact hnumbered.2
  · rw [accepted_snoc, taken_snoc]
    exact heffect.accounted h.accounted
  · rw [invocations_snoc, countP_snoc, List.length_append, ← h.counted]
    dsimp only
    omega

end Ledger

end RoboticCharacter.Events
