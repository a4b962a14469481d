import RoboticCharacter.EventLedger

/-! Handler isolation of the event bus: while no handler ends in an exception that takes the
worker with it, every matched handler is called once for every entry taken. -/
namespace RoboticCharacter.Events
open AsyncQueue Machine

section Isolation
variable {ε τ : Type*}

theorem invokedFor_snoc (past : List (BusEvent ε τ)) (e : BusEvent ε τ) (entry : Entry ε) :
    invokedFor (past ++ [e]) entry = invokedFor past entry ++
      (e.output.invoked?.toList.filter (fun call => call.1 = entry.sequence)).map Prod.snd := by
  rw [invokedFor, invocations_snoc, List.filter_append, List.map_append, invokedFor]

theorem invokedFor_snoc_none (past : List (BusEvent ε τ)) (e : BusEvent ε τ) (entry : Entry ε)
    (h : ∀ call, e.output.invoked? = some call → call.1 ≠ entry.sequence) :
    invokedFor (past ++ [e]) entry = invokedFor past entry := by
  rw [invokedFor_snoc]
  cases hcall : e.output.invoked? with
  | none => rw [Option.toList_none, List.filter_nil, List.map_nil, List.append_nil]
  | some call =>
    rw [Option.toList_some, List.filter_singleton, decide_eq_false (h call hcall)]
    simp

theorem invokedFor_snoc_some (past : List (BusEvent ε τ)) (e : BusEvent ε τ) (entry : Entry ε)
    (registered : RegisteredHandler) (h : e.output.invoked? = some (entry.sequence, registered)) :
    invokedFor (past ++ [e]) entry = invokedFor past entry ++ [registered] := by
  rw [invokedFor_snoc, h, Option.toList_some, List.filter_singleton, decide_eq_true rfl]
  rfl

/-- What is queued has a number that nothing taken has. -/
theorem Ledger.queued_fresh {past : List (BusEvent ε τ)} {bus : EventBus ε τ}
    (h : Ledger past bus) (entry : Entry ε) (hentry : entry ∈ bus.queue.items)
    (pair : Entry ε × List RegisteredHandler) (hpair : pair ∈ taken past) :
    pair.1.sequence ≠ entry.sequence := by
  have hdistinct := h.distinct
  rw [List.map_append] at hdistinct
  have hnodup := (List.nodup_append.mp hdistinct).1
  rw [(h.accounted.map Entry.sequence).nodup_iff, List.map_append] at hnodup
  have hapart := (List.nodup_append.mp hnodup).2.2
  intro heq
  apply hapart entry.sequence (List.mem_map_of_mem hentry) entry.sequence _ rfl
  rw [← heq]
  exact List.mem_map_of_mem (List.mem_map_of_mem hpair)

/-- How far each dispatch has come. -/
structure Progress (past : List (BusEvent ε τ)) (bus : EventBus ε τ) : Prop where
  dispatched : ∀ dispatch ∈ bus.dispatches, ∃ matched, (dispatch.entry, matched) ∈ taken past
  separate : (bus.dispatches.map (fun dispatch => dispatch.entry.sequence)).Nodup
  called : ∀ entry matched, (entry, matched) ∈ taken past →
    (∃ dispatch ∈ bus.dispatches, dispatch.entry = entry ∧
      invokedFor past entry ++ dispatch.rest = matched) ∨
    ((∀ dispatch ∈ bus.dispatches, dispatch.entry.sequence ≠ entry.sequence) ∧
      invokedFor past entry = matched)
  invoked_taken : ∀ call ∈ invocations past, ∃ pair ∈ taken past, pair.1.sequence = call.1

namespace Progress
variable {past : List (BusEvent ε τ)} {bus after : EventBus ε τ}

/-- A step that takes nothing and calls nothing, with the same dispatches under way. -/
theorem kept (h : Progress past bus) (e : BusEvent ε τ)
    (hdispatches : after.dispatches = bus.dispatches)
    (htaken : e.output.taken? = none) (hinvoked : e.output.invoked? = none) :
    Progress (past ++ [e]) after := by
  have hsameTaken : taken (past ++ [e]) = taken past := by
    rw [taken_snoc, htaken, Option.toList_none, List.append_nil]
  have hsameCalls : invocations (past ++ [e]) = invocations past := by
    rw [invocations_snoc, hinvoked, Option.toList_none, List.append_nil]
  have hsameFor : ∀ entry, invokedFor (past ++ [e]) entry = invokedFor past entry := by
    intro entry
    rw [invokedFor, hsameCalls, invokedFor]
  refine ⟨?_, ?_, ?_, ?_⟩
  · rw [hdispatches, hsameTaken]
    exact h.dispatched
  · rw [hdispatches]
    exact h.separate
  · intro entry matched hmem
    rw [hsameTaken] at hmem
    rw [hdispatches, hsameFor]
    exact h.called entry matched hmem
  · rw [hsameTaken, hsameCalls]
    exact h.invoked_taken

/-- For an entry with a number not taken before no handler was called. -/
theorem invokedFor_fresh (h : Progress past bus) {entry : Entry ε}
    (hfresh : ∀ pair ∈ taken past, pair.1.sequence ≠ entry.sequence) :
    invokedFor past entry = [] := by
  have huncalled : ∀ call ∈ invocations past, call.1 ≠ entry.sequence := by
    intro call hcall
    obtain ⟨pair, hpair, heq⟩ := h.invoked_taken call hcall
    rw [← heq]
    exact hfresh pair hpair
  rw [invokedFor, List.filter_eq_nil_iff.mpr]
  · rfl
  · intro call hcall
    simpa using huncalled call hcall

theorem undispatched_fresh (h : Progress past bus) {entry : Entry ε}
    (hfresh : ∀ pair ∈ taken past, pair.1.sequence ≠ entry.sequence) :
    ∀ dispatch ∈ bus.dispatches, dispatch.entry.sequence ≠ entry.sequence := by
  intro dispatch hdispatch
  obtain ⟨_, hmem⟩ := h.dispatched dispatch hdispatch
  exact hfresh _ hmem

/-- The dispatches under way of the other entries. -/
def apartFrom (bus : EventBus ε τ) (entry : Entry ε) : List (Dispatch ε) :=
  bus.dispatches.filter (fun dispatch => dispatch.entry.sequence ≠ entry.sequence)

theorem mem_apartFrom {entry : Entry ε} {dispatch : Dispatch ε} :
    dispatch ∈ apartFrom bus entry ↔
      dispatch ∈ bus.dispatches ∧ dispatch.entry.sequence ≠ entry.sequence := by
  rw [apartFrom, List.mem_filter, decide_eq_true_iff]

theorem invokedFor_moved {e : BusEvent ε τ} {entry : Entry ε} {next : Option RegisteredHandler}
    (hinvoked : e.output.invoked? = next.map (fun registered => (entry.sequence, registered))) :
    invokedFor (past ++ [e]) entry = invokedFor past entry ++ next.toList := by
  cases next with
  | none =>
    rw [invokedFor_snoc, hinvoked]
    rfl
  | some registered => exact invokedFor_snoc_some past e entry registered hinvoked

theorem invokedFor_apart {e : BusEvent ε τ} {entry other : Entry ε}
    {next : Option RegisteredHandler}
    (hinvoked : e.output.invoked? = next.map (fun registered => (entry.sequence, registered)))
    (hother : other.sequence ≠ entry.sequence) :
    invokedFor (past ++ [e]) other = invokedFor past other := by
  apply invokedFor_snoc_none
  intro call hcall
  rw [hinvoked, Option.map_eq_some_iff] at hcall
  obtain ⟨registered, -, rfl⟩ := hcall
  exact hother.symm

/-- A step in the dispatch of one entry, which goes on with a next handler or is over. The
dispatches of the others stay. -/
theorem moved (h : Progress past bus) (e : BusEvent ε τ) (entry : Entry ε)
    (matched rest : List RegisteredHandler) (next : Option RegisteredHandler)
    (hover : next = none → rest = [])
    (hmatched : invokedFor past entry ++ (next.toList ++ rest) = matched)
    (htaken : ∀ pair, pair ∈ taken (past ++ [e]) ↔ pair ∈ taken past ∨ pair = (entry, matched))
    (honce : ∀ pair ∈ taken past, pair.1.sequence = entry.sequence → pair = (entry, matched))
    (hinvoked : e.output.invoked? = next.map (fun registered => (entry.sequence, registered)))
    (hafter : after.dispatches.Perm ((next.map (fun registered =>
      (⟨entry, registered, rest⟩ : Dispatch ε))).toList ++ apartFrom bus entry)) :
    Progress (past ++ [e]) after := by
  have hunder : ∀ dispatch ∈ after.dispatches,
      (∃ registered, next = some registered ∧ dispatch = ⟨entry, registered, rest⟩) ∨
        dispatch ∈ bus.dispatches ∧ dispatch.entry.sequence ≠ entry.sequence := by
    intro dispatch hdispatch
    obtain hown | hother := List.mem_append.mp (hafter.mem_iff.mp hdispatch)
    · rw [Option.mem_toList, Option.map_eq_some_iff] at hown
      obtain ⟨registered, hnext, rfl⟩ := hown
      exact .inl ⟨registered, hnext, rfl⟩
    · exact .inr (mem_apartFrom.mp hother)
  have hkept : ∀ dispatch ∈ bus.dispatches, dispatch.entry.sequence ≠ entry.sequence →
      dispatch ∈ after.dispatches := by
    intro dispatch hdispatch happart
    exact hafter.mem_iff.mpr
      (List.mem_append_right _ (mem_apartFrom.mpr ⟨hdispatch, happart⟩))
  refine ⟨?_, ?_, ?_, ?_⟩
  · intro dispatch hdispatch
    obtain ⟨registered, -, rfl⟩ | ⟨hold, -⟩ := hunder dispatch hdispatch
    · exact ⟨matched, (htaken _).mpr (.inr rfl)⟩
    · obtain ⟨handlers, hmem⟩ := h.dispatched dispatch hold
      exact ⟨handlers, (htaken _).mpr (.inl hmem)⟩
  · rw [(hafter.map _).nodup_iff]
    have hothers : ((apartFrom bus entry).map (fun dispatch => dispatch.entry.sequence)).Nodup :=
      h.separate.sublist (List.filter_sublist.map _)
    cases next with
    | none => exact hothers
    | some registered =>
      refine List.nodup_cons.mpr ⟨?_, hothers⟩
      intro hmem
      obtain ⟨dispatch, hdispatch, heq⟩ := List.mem_map.mp hmem
      exact (mem_apartFrom.mp hdispatch).2 heq
  · intro other handlers hmem
    by_cases hnumber : other.sequence = entry.sequence
    · -- the entry of this step: what it has still to call is what its dispatch holds
      have hown : (other, handlers) = (entry, matched) := by
        obtain hold | hnew := (htaken _).mp hmem
        · exact honce _ hold hnumber
        · exact hnew
      obtain ⟨rfl, rfl⟩ := Prod.mk.inj hown
      rw [invokedFor_moved hinvoked]
      cases next with
      | none =>
        refine .inr ⟨?_, ?_⟩
        · intro dispatch hdispatch
          obtain ⟨_, hnone, -⟩ | ⟨-, happart⟩ := hunder dispatch hdispatch
          · cases hnone
          · exact happart
        · rw [← hmatched, hover rfl, List.append_nil]
      | some registered =>
        refine .inl ⟨⟨other, registered, rest⟩, ?_, rfl, ?_⟩
        · exact hafter.mem_iff.mpr List.mem_cons_self
        · rw [List.append_assoc]
          exact hmatched
    · -- any other entry is where it was
      have hold : (other, handlers) ∈ taken past := by
        obtain hold | hnew := (htaken _).mp hmem
        · exact hold
        · exact absurd (congrArg (fun pair => pair.1.sequence) hnew) hnumber
      rw [invokedFor_apart hinvoked hnumber]
      obtain ⟨dispatch, hdispatch, rfl, hcalls⟩ | ⟨happart, hdone⟩ := h.called other handlers hold
      · exact .inl ⟨dispatch, hkept dispatch hdispatch hnumber, rfl, hcalls⟩
      · refine .inr ⟨?_, hdone⟩
        intro dispatch hdispatch
        obtain ⟨registered, -, rfl⟩ | ⟨hin, -⟩ := hunder dispatch hdispatch
        · exact fun heq => hnumber heq.symm
        · exact happart dispatch hin
  · intro call hcall
    rw [invocations_snoc] at hcall
    obtain hold | hnew := List.mem_append.mp hcall
    · obtain ⟨pair, hpair, heq⟩ := h.invoked_taken call hold
      exact ⟨pair, (htaken _).mpr (.inl hpair), heq⟩
    · rw [hinvoked, Option.mem_toList, Option.map_eq_some_iff] at hnew
      obtain ⟨registered, -, rfl⟩ := hnew
      exact ⟨_, (htaken _).mpr (.inr rfl), rfl⟩

/-- The start of a dispatch, of an entry with a number not taken before. -/
theorem started (h : Progress past bus) (e : BusEvent ε τ) (entry : Entry ε)
    (next : Option RegisteredHandler) (rest : List RegisteredHandler)
    (hover : next = none → rest = [])
    (hfresh : ∀ pair ∈ taken past, pair.1.sequence ≠ entry.sequence)
    (houtput : e.output = .took entry (next.toList ++ rest))
    (hafter : after.dispatches.Perm ((next.map (fun registered =>
      (⟨entry, registered, rest⟩ : Dispatch ε))).toList ++ bus.dispatches)) :
    Progress (past ++ [e]) after := by
  apply h.moved e entry (next.toList ++ rest) rest next hover
  · rw [h.invokedFor_fresh hfresh, List.nil_append]
  · intro pair
    rw [taken_snoc, houtput, List.mem_append]
    exact or_congr_right List.mem_singleton
  · exact fun pair hpair hnumber => absurd hnumber (hfresh pair hpair)
  · rw [houtput]
    cases next with
    | none =>
      rw [hover rfl]
      rfl
    | some registered => rfl
  · rw [apartFrom, List.filter_eq_self.mpr]
    · exact hafter
    · exact fun dispatch hdispatch =>
        decide_eq_true (h.undispatched_fresh hfresh dispatch hdispatch)

/-- A dispatch is told from the others under way by its entry's number. -/
theorem apartFrom_split (h : Progress past bus) {dispatch : Dispatch ε}
    {front back : List (Dispatch ε)} (hbefore : bus.dispatches = front ++ dispatch :: back) :
    apartFrom bus dispatch.entry = front ++ back := by
  have hseparate := h.separate
  rw [hbefore, (List.perm_middle.map _).nodup_iff, List.map_cons, List.nodup_cons] at hseparate
  have hothers : ∀ other ∈ front ++ back,
      other.entry.sequence ≠ dispatch.entry.sequence := by
    intro other hother heq
    apply hseparate.1
    rw [← heq]
    exact List.mem_map_of_mem hother
  rw [apartFrom, hbefore, List.filter_append, List.filter_cons_of_neg (by simp),
    ← List.filter_append, List.filter_eq_self.mpr]
  exact fun other hother => decide_eq_true (hothers other hother)

/-- What a dispatch under way has still to call is what remains of its entry's match. -/
theorem remaining (h : Progress past bus) {dispatch : Dispatch ε}
    (hdispatch : dispatch ∈ bus.dispatches) {pair : Entry ε × List RegisteredHandler}
    (hpair : pair ∈ taken past) (hnumber : pair.1.sequence = dispatch.entry.sequence) :
    pair = (dispatch.entry, invokedFor past dispatch.entry ++ dispatch.rest) := by
  obtain ⟨entry, handlers⟩ := pair
  obtain ⟨other, hother, rfl, hcalls⟩ | ⟨happart, -⟩ := h.called entry handlers hpair
  · obtain rfl := List.inj_on_of_nodup_map h.separate hother hdispatch hnumber
    rw [hcalls]
  · exact absurd hnumber.symm (happart dispatch hdispatch)

/-- A dispatch moves on to its next handler, or is over. -/
theorem advanced (h : Progress past bus) (e : BusEvent ε τ) (dispatch : Dispatch ε)
    (next : Option RegisteredHandler) (rest : List RegisteredHandler)
    (front back : List (Dispatch ε)) (hrest : dispatch.rest = next.toList ++ rest)
    (hover : next = none → rest = []) (htaken : e.output.taken? = none)
    (hinvoked : e.output.invoked? = next.map (fun registered =>
      (dispatch.entry.sequence, registered)))
    (hbefore : bus.dispatches = front ++ dispatch :: back)
    (hafter : after.dispatches.Perm ((next.map (fun registered =>
      (⟨dispatch.entry, registered, rest⟩ : Dispatch ε))).toList ++ (front ++ back))) :
    Progress (past ++ [e]) after := by
  have hdispatch : dispatch ∈ bus.dispatches := by
    rw [hbefore]
    exact List.mem_append_right _ List.mem_cons_self
  have honce : ∀ pair ∈ taken past, pair.1.sequence = dispatch.entry.sequence →
      pair = (dispatch.entry, invokedFor past dispatch.entry ++ dispatch.rest) :=
    fun pair hpair hnumber => h.remaining hdispatch hpair hnumber
  apply h.moved e dispatch.entry _ rest next hover rfl
  · intro pair
    rw [taken_snoc, htaken, Option.toList_none, List.append_nil, ← hrest]
    refine ⟨.inl, ?_⟩
    rintro (hpair | rfl)
    · exact hpair
    · obtain ⟨handlers, hpair⟩ := h.dispatched dispatch hdispatch
      rwa [honce _ hpair rfl] at hpair
  · rw [← hrest]
    exact honce
  · exact hinvoked
  · rw [h.apartFrom_split hbefore]
    exact hafter

theorem step [DecidableEq τ] (isInstance : ε → τ → Bool) (hledger : Ledger past bus)
    (h : Progress past bus) (input : BusInput ε τ)
    (hkeeps : ¬ Disrupts ⟨bus, input, (busStep isInstance bus input).2,
      (busStep isInstance bus input).1⟩) :
    Progress (past ++ [⟨bus, input, (busStep isInstance bus input).2,
      (busStep isInstance bus input).1⟩]) (busStep isInstance bus input).1 := by
  have heffect := busStep_effect isInstance bus input
  have hescaped : ∀ entry registered counted next, (busStep isInstance bus input).2 =
      .handled entry registered (.escaped counted) next →
        ⟨entry, registered, []⟩ ∈ bus.dispatches := by
    intro entry registered counted next hanswer
    obtain ⟨-, -, index, hdispatch⟩ := of_not_disrupts isInstance rfl hanswer hkeeps
    exact mem_dispatches hdispatch
  generalize (busStep isInstance bus input).1 = after, (busStep isInstance bus input).2 = answer
    at heffect hescaped ⊢
  cases heffect with
  | quiet answer _ _ hdispatches _ _ htaken hinvoked => exact h.kept _ hdispatches htaken hinvoked
  | accepted entry _ _ hdispatches => exact h.kept _ hdispatches rfl rfl
  | unmatched entry hitems _ hdispatches =>
    refine h.started _ entry none [] (fun _ => rfl) ?_ rfl ?_
    · exact hledger.queued_fresh entry (by rw [hitems]; exact List.mem_cons_self ..)
    · rw [hdispatches]
      exact List.Perm.refl _
  | started entry current rest front back hitems _ hbefore hafter =>
    refine h.started _ entry (some current) rest nofun ?_ rfl ?_
    · exact hledger.queued_fresh entry (by rw [hitems]; exact List.mem_cons_self ..)
    · rw [hafter, hbefore]
      exact List.perm_middle
  | continued dispatch next rest outcome front back hrest _ _ hbefore hafter =>
    refine h.advanced _ dispatch (some next) rest front back hrest nofun rfl rfl hbefore ?_
    rw [hafter]
    exact List.perm_middle
  | finished dispatch outcome front back hrest _ _ hbefore hafter =>
    refine h.advanced _ dispatch none [] front back hrest (fun _ => rfl) rfl rfl hbefore ?_
    rw [hafter]
    exact List.Perm.refl _
  | aborted dispatch counted front back _ _ hbefore hafter =>
    -- the worker is lost, but its dispatch was over
    have hdispatch : dispatch ∈ bus.dispatches := by
      rw [hbefore]
      exact List.mem_append_right _ List.mem_cons_self
    have hover := hescaped _ _ counted none rfl
    have hsame := List.inj_on_of_nodup_map h.separate hover hdispatch rfl
    refine h.advanced _ dispatch none [] front back ?_ (fun _ => rfl) rfl rfl hbefore ?_
    · rw [← hsame]
      rfl
    · rw [hafter]
      exact List.Perm.refl _

end Progress

/-- Every worker of a running bus is there, alive and not cancelled. -/
def WorkersAlive (config : EventBusConfig) (bus : EventBus ε τ) : Prop :=
  bus.running = true → bus.workers.length = config.workerCount ∧
    ∀ worker ∈ bus.workers, worker.cancelRequested = false ∧ worker.phase ≠ .ended

namespace WorkersAlive
variable {config : EventBusConfig} {bus after : EventBus ε τ}

theorem same (h : WorkersAlive config bus) (hrunning : after.running = bus.running)
    (hworkers : after.workers = bus.workers) : WorkersAlive config after := by
  rw [WorkersAlive, hrunning, hworkers]
  exact h

theorem set (h : WorkersAlive config bus) (index : ℕ) (phase : WorkerPhase ε)
    (hphase : phase ≠ .ended) (hrunning : after.running = bus.running)
    (hworkers : after.workers = bus.workers.set index { phase }) : WorkersAlive config after := by
  rw [WorkersAlive, hrunning, hworkers]
  intro hrun
  obtain ⟨hlength, halive⟩ := h hrun
  refine ⟨by rw [List.length_set, hlength], ?_⟩
  intro worker hworker
  rcases List.mem_or_eq_of_mem_set hworker with hold | rfl
  · exact halive worker hold
  · exact ⟨rfl, hphase⟩

theorem stopped (hrunning : after.running = false) : WorkersAlive config after := by
  intro hrun
  rw [hrunning] at hrun
  cases hrun

theorem publish (h : WorkersAlive config bus) (event : ε) (priority : ℕ) :
    WorkersAlive config (bus.publish event priority).1 := by
  dsimp only [EventBus.publish]
  split_ifs <;> exact h.same rfl rfl

theorem publishNowait (h : WorkersAlive config bus) (event : ε) (priority : ℕ) :
    WorkersAlive config (bus.publishNowait event priority).1 := by
  dsimp only [EventBus.publishNowait]
  split_ifs <;> exact h.same rfl rfl

theorem publisherResumes (h : WorkersAlive config bus) (index : ℕ) :
    WorkersAlive config (bus.publisherResumes index).1 := by
  dsimp only [EventBus.publisherResumes]
  cases bus.blocked[index]? with
  | none => exact h
  | some entry =>
    dsimp only
    split_ifs <;> exact h.same rfl rfl

theorem take (isInstance : ε → τ → Bool) (h : WorkersAlive config bus) (index : ℕ) :
    WorkersAlive config (bus.take isInstance index).1 := by
  dsimp only [EventBus.take]
  split
  · split
    · exact h.same rfl rfl
    · exact h.set index _ (by simp) rfl rfl
  · exact h

theorem handlerEnds (h : WorkersAlive config bus) (index : ℕ) (outcome : HandlerOutcome)
    (hescaped : ∀ dispatch counted, bus.dispatchAt index = some dispatch →
      outcome = .escaped counted → bus.running = false) :
    WorkersAlive config (bus.handlerEnds index outcome).1 := by
  dsimp only [EventBus.handlerEnds]
  split
  · rename_i dispatch cancelRequested hworker
    have hdispatch : bus.dispatchAt index = some dispatch := by
      rw [EventBus.dispatchAt, hworker]
      rfl
    have hnext : ∀ held : EventBus ε τ, held.running = bus.running → held.workers = bus.workers →
        WorkersAlive config (held.nextHandler index dispatch outcome).1 := by
      intro held hrunning hworkers
      dsimp only [EventBus.nextHandler]
      cases dispatch.rest with
      | nil => exact h.set index .idle (by simp) hrunning (by rw [← hworkers]; rfl)
      | cons next rest =>
        exact h.set index (.dispatching ⟨dispatch.entry, next, rest⟩) (by simp) hrunning
          (by rw [← hworkers])
    cases outcome with
    | returned => exact hnext _ rfl rfl
    | raised errorType message => exact hnext _ rfl rfl
    | escaped counted => exact stopped (hescaped dispatch counted hdispatch rfl)
  · exact h

theorem step [DecidableEq τ] (isInstance : ε → τ → Bool) (h : WorkersAlive config bus)
    (input : BusInput ε τ)
    (hkeeps : ¬ Disrupts ⟨bus, input, (busStep isInstance bus input).2,
      (busStep isInstance bus input).1⟩) :
    WorkersAlive config (busStep isInstance bus input).1 := by
  cases input with
  | subscribe eventType handlerName => exact h.same rfl rfl
  | unsubscribe subscriptionId eventType =>
    dsimp only [busStep, EventBus.unsubscribe]
    split <;> exact h.same rfl rfl
  | publish event priority => exact h.publish event priority.value
  | publishNowait event priority => exact h.publishNowait event priority.value
  | publisherResumes index => exact h.publisherResumes index
  | publisherCancelled index =>
    dsimp only [busStep, EventBus.publisherCancelled]
    split <;> exact h.same rfl rfl
  | take index => exact h.take isInstance index
  | handlerEnds index outcome =>
    apply h.handlerEnds index outcome
    rintro dispatch counted hdispatch rfl
    apply Bool.eq_false_of_not_eq_true
    exact fun hrunning => hkeeps ⟨index, dispatch, counted, rfl, hdispatch, .inr (.inl hrunning)⟩
  | workerCancelled index =>
    dsimp only [busStep, EventBus.workerCancelled]
    split
    · rename_i hworker
      intro hrun
      -- a cancelled worker is none of a running bus
      have halive := (h hrun).2 _ (List.mem_of_getElem? hworker)
      exact absurd halive.1 (by simp)
    · exact h
  | stop drain =>
    dsimp only [busStep, EventBus.stop]
    split_ifs
    · exact h
    · exact h.same rfl rfl
    · exact h.same rfl rfl
    · exact stopped rfl
  | stopResumes =>
    dsimp only [busStep, EventBus.stopResumes]
    split_ifs
    · exact stopped rfl
    · exact h
  | stopReturns =>
    dsimp only [busStep, EventBus.stopReturns]
    split_ifs with hended
    · intro hrun
      obtain ⟨hlength, halive⟩ := h hrun
      cases hworkers : bus.workers with
      | nil =>
        rw [hworkers, List.length_nil] at hlength
        exact absurd hlength config.workerCount_pos.ne
      | cons worker rest =>
        have hmem : worker ∈ bus.workers := by rw [hworkers]; exact List.mem_cons_self ..
        have hend := List.all_eq_true.mp hended.2 worker hmem
        have hphase := (halive worker hmem).2
        dsimp only [EventBus.workerEnded] at hend
        split at hend
        · rename_i heq
          exact absurd heq hphase
        · exact absurd hend Bool.false_ne_true
    · exact h

end WorkersAlive

end Isolation

end RoboticCharacter.Events
