import RoboticCharacter.EventDelivery

/-! The calls of handlers in any run of the event bus, aborted dispatches and cancelled workers
included: none is made twice, and each one is under way or has ended once. -/
namespace RoboticCharacter.Events
open AsyncQueue Machine

section Calls
variable {ε τ : Type*}

/-- The call under way of a dispatch. -/
def Dispatch.call (dispatch : Dispatch ε) : ℕ × RegisteredHandler :=
  (dispatch.entry.sequence, dispatch.current)

/-- The calls that a dispatch is still to make. -/
def Dispatch.pending (dispatch : Dispatch ε) : List (ℕ × RegisteredHandler) :=
  dispatch.rest.map (fun registered => (dispatch.entry.sequence, registered))

/-- The calls that have ended, in order. -/
def ended (past : List (BusEvent ε τ)) : List (Entry ε × RegisteredHandler × HandlerOutcome) :=
  past.filterMap (fun e => e.output.ended?)

theorem ended_snoc (past : List (BusEvent ε τ)) (e : BusEvent ε τ) :
    ended (past ++ [e]) = ended past ++ e.output.ended?.toList :=
  filterMap_snoc (fun e : BusEvent ε τ => e.output.ended?) past e

/-- The calls that were made and those that are still to come. -/
def dueCalls (past : List (BusEvent ε τ)) (bus : EventBus ε τ) : List (ℕ × RegisteredHandler) :=
  invocations past ++ bus.dispatches.flatMap Dispatch.pending

structure Calls (past : List (BusEvent ε τ)) (bus : EventBus ε τ) : Prop where
  once : (dueCalls past bus).Nodup
  of_taken : ∀ call ∈ dueCalls past bus, ∃ pair ∈ taken past,
    pair.1.sequence = call.1 ∧ call.2 ∈ pair.2
  balanced : (invocations past).Perm
    ((ended past).map (fun call => (call.1.sequence, call.2.1)) ++
      bus.dispatches.map Dispatch.call)
  dispatched : ∀ dispatch ∈ bus.dispatches, dispatch.entry ∈ (taken past).map Prod.fst
  ended_taken : ∀ call ∈ ended past, call.1 ∈ (taken past).map Prod.fst

namespace Calls
variable {past : List (BusEvent ε τ)} {bus after : EventBus ε τ}

theorem taken_mono (e : BusEvent ε τ) {entry : Entry ε} (h : entry ∈ (taken past).map Prod.fst) :
    entry ∈ (taken (past ++ [e])).map Prod.fst := by
  rw [taken_snoc, List.map_append]
  exact List.mem_append_left _ h

/-- A step after which the calls due are some of those that were, and in which the entries of
new ends were dispatched. -/
theorem fewer (h : Calls past bus) (e : BusEvent ε τ)
    (hdue : (dueCalls (past ++ [e]) after).Subperm (dueCalls past bus))
    (hbalanced : (invocations (past ++ [e])).Perm
      ((ended (past ++ [e])).map (fun call => (call.1.sequence, call.2.1)) ++
        after.dispatches.map Dispatch.call))
    (hdispatches : ∀ dispatch ∈ after.dispatches, ∃ before ∈ bus.dispatches,
      before.entry = dispatch.entry)
    (hended : ∀ call ∈ e.output.ended?, ∃ before ∈ bus.dispatches, before.entry = call.1) :
    Calls (past ++ [e]) after := by
  refine ⟨?_, ?_, hbalanced, ?_, ?_⟩
  · obtain ⟨some, hperm, hsub⟩ := hdue
    exact hperm.nodup_iff.mp (h.once.sublist hsub)
  · intro call hcall
    obtain ⟨pair, hpair, hnumber⟩ := h.of_taken call (hdue.subset hcall)
    rw [taken_snoc]
    exact ⟨pair, List.mem_append_left _ hpair, hnumber⟩
  · intro dispatch hdispatch
    obtain ⟨before, hbefore, heq⟩ := hdispatches dispatch hdispatch
    rw [← heq]
    exact taken_mono e (h.dispatched before hbefore)
  · intro call hcall
    rw [ended_snoc] at hcall
    rcases List.mem_append.mp hcall with hold | hnew
    · exact taken_mono e (h.ended_taken call hold)
    · obtain ⟨before, hbefore, heq⟩ := hended call (Option.mem_toList.mp hnew)
      rw [← heq]
      exact taken_mono e (h.dispatched before hbefore)

/-- A step that neither calls a handler nor ends a call. -/
theorem quiet (h : Calls past bus) (e : BusEvent ε τ)
    (hdispatches : after.dispatches = bus.dispatches) (hinvoked : e.output.invoked? = none)
    (hended : e.output.ended? = none) :
    Calls (past ++ [e]) after := by
  have hcalls : invocations (past ++ [e]) = invocations past := by
    rw [invocations_snoc, hinvoked, Option.toList_none, List.append_nil]
  have hends : ended (past ++ [e]) = ended past := by
    rw [ended_snoc, hended, Option.toList_none, List.append_nil]
  apply h.fewer e
  · rw [dueCalls, hcalls, hdispatches]
    exact List.Subperm.refl _
  · rw [hcalls, hends, hdispatches]
    exact h.balanced
  · rw [hdispatches]
    exact fun dispatch hdispatch => ⟨dispatch, hdispatch, rfl⟩
  · rw [hended]
    nofun

/-- A dispatch starts: its entry was not taken before, and each handler is matched once. -/
theorem started (h : Calls past bus) (e : BusEvent ε τ) (entry : Entry ε)
    (current : RegisteredHandler) (rest : List RegisteredHandler) (front back : List (Dispatch ε))
    (houtput : e.output = .took entry (current :: rest))
    (hbefore : bus.dispatches = front ++ back)
    (hafter : after.dispatches = front ++ ⟨entry, current, rest⟩ :: back)
    (hmatched : (current :: rest).Nodup)
    (hfresh : ∀ pair ∈ taken past, pair.1.sequence ≠ entry.sequence) :
    Calls (past ++ [e]) after := by
  have hcalls : invocations (past ++ [e]) = invocations past ++ [(entry.sequence, current)] := by
    rw [invocations_snoc, houtput]
    rfl
  have hends : ended (past ++ [e]) = ended past := by
    rw [ended_snoc, houtput]
    exact List.append_nil _
  have htaken : taken (past ++ [e]) = taken past ++ [(entry, current :: rest)] := by
    rw [taken_snoc, houtput]
    rfl
  have hdue : (dueCalls (past ++ [e]) after).Perm
      ((current :: rest).map (fun registered => (entry.sequence, registered)) ++
        dueCalls past bus) := by
    rw [dueCalls, dueCalls, hcalls, hafter, hbefore, List.perm_iff_count]
    intro call
    simp only [List.flatMap_append, List.flatMap_cons, List.count_append, List.map_cons,
      List.count_cons, List.count_nil, Dispatch.pending]
    omega
  refine ⟨?_, ?_, ?_, ?_, ?_⟩
  · rw [hdue.nodup_iff, List.nodup_append]
    refine ⟨hmatched.map (fun a b hab => (Prod.mk.inj hab).2), h.once, ?_⟩
    intro call hcall other hother heq
    obtain ⟨registered, _, rfl⟩ := List.mem_map.mp hcall
    obtain ⟨pair, hpair, hnumber, _⟩ := h.of_taken other hother
    apply hfresh pair hpair
    rw [hnumber, ← heq]
  · intro call hcall
    rw [htaken]
    rcases List.mem_append.mp (hdue.mem_iff.mp hcall) with hnew | hold
    · obtain ⟨registered, hregistered, rfl⟩ := List.mem_map.mp hnew
      exact ⟨_, List.mem_append_right _ (List.mem_singleton_self _), rfl, hregistered⟩
    · obtain ⟨pair, hpair, hnumber⟩ := h.of_taken call hold
      exact ⟨pair, List.mem_append_left _ hpair, hnumber⟩
  · have hbalanced := h.balanced
    rw [hbefore, List.perm_iff_count] at hbalanced
    rw [hcalls, hends, hafter, List.perm_iff_count]
    intro call
    have hcount := hbalanced call
    simp only [List.map_append, List.map_cons, List.count_append, List.count_cons, List.count_nil,
      Dispatch.call] at hcount ⊢
    omega
  · intro dispatch hdispatch
    rw [hafter] at hdispatch
    rcases List.mem_append.mp hdispatch with hfront | hrest
    · exact taken_mono e (h.dispatched dispatch (hbefore ▸ List.mem_append_left _ hfront))
    · rcases List.mem_cons.mp hrest with rfl | hback
      · rw [htaken, List.map_append]
        exact List.mem_append_right _ (List.mem_singleton_self _)
      · exact taken_mono e (h.dispatched dispatch (hbefore ▸ List.mem_append_right _ hback))
  · intro call hcall
    rw [hends] at hcall
    exact taken_mono e (h.ended_taken call hcall)

/-- The call of a dispatch ends; the dispatch goes on with its next handler, or it is over, or
it is given up and what it had still to call is never called. -/
theorem advanced (h : Calls past bus) (e : BusEvent ε τ) (dispatch : Dispatch ε)
    (outcome : HandlerOutcome) (next : Option RegisteredHandler) (rest : List RegisteredHandler)
    (front back : List (Dispatch ε))
    (houtput : e.output = .handled dispatch.entry dispatch.current outcome next)
    (hrest : (next.toList ++ rest).Sublist dispatch.rest)
    (hbefore : bus.dispatches = front ++ dispatch :: back)
    (hafter : after.dispatches = front ++ (next.map (fun registered =>
      (⟨dispatch.entry, registered, rest⟩ : Dispatch ε))).toList ++ back)
    (hover : next = none → rest = []) : Calls (past ++ [e]) after := by
  have hin : dispatch ∈ bus.dispatches := by
    rw [hbefore]
    exact List.mem_append_right _ List.mem_cons_self
  have hcalls : invocations (past ++ [e]) = invocations past ++
      next.toList.map (fun registered => (dispatch.entry.sequence, registered)) := by
    rw [invocations_snoc, houtput]
    cases next <;> rfl
  have hends : ended (past ++ [e]) =
      ended past ++ [(dispatch.entry, dispatch.current, outcome)] := by
    rw [ended_snoc, houtput]
    rfl
  apply h.fewer e
  · -- the next call was pending before
    have hpending : ((next.toList ++ rest).map
        (fun registered => (dispatch.entry.sequence, registered))).Sublist dispatch.pending :=
      hrest.map _
    have hdue : (dueCalls (past ++ [e]) after).Perm
        (invocations past ++ (front.flatMap Dispatch.pending ++ ((next.toList ++ rest).map
          (fun registered => (dispatch.entry.sequence, registered)) ++
            back.flatMap Dispatch.pending))) := by
      rw [dueCalls, hcalls, hafter, List.perm_iff_count]
      intro call
      cases next with
      | none =>
        simp only [hover rfl, List.flatMap_append, List.count_append, Option.map_none,
          Option.toList_none, List.map_nil, List.count_nil, List.append_nil]
        omega
      | some registered =>
        simp only [List.flatMap_append, List.flatMap_cons, List.flatMap_nil, List.count_append,
          Option.map_some, Option.toList_some, List.map_cons, List.map_nil, List.count_cons,
          List.count_nil, List.map_append, Dispatch.pending, List.append_nil]
        omega
    refine hdue.subperm.trans ?_
    rw [dueCalls, hbefore, List.flatMap_append, List.flatMap_cons]
    exact ((List.Sublist.refl _).append ((List.Sublist.refl _).append
      (hpending.append (List.Sublist.refl _)))).subperm
  · have hbalanced := h.balanced
    rw [hbefore, List.perm_iff_count] at hbalanced
    rw [hcalls, hends, hafter, List.perm_iff_count]
    intro call
    have hcount := hbalanced call
    cases next with
    | none =>
      simp only [List.map_append, List.map_cons, List.map_nil, List.count_append, List.count_cons,
        List.count_nil, Dispatch.call, Option.map_none, Option.toList_none] at hcount ⊢
      omega
    | some registered =>
      simp only [List.map_append, List.map_cons, List.map_nil, List.count_append, List.count_cons,
        List.count_nil, Dispatch.call, Option.map_some, Option.toList_some] at hcount ⊢
      omega
  · intro other hother
    rw [hafter] at hother
    rw [hbefore]
    rcases List.mem_append.mp hother with hleft | hback
    · rcases List.mem_append.mp hleft with hfront | hown
      · exact ⟨other, List.mem_append_left _ hfront, rfl⟩
      · rw [Option.mem_toList, Option.map_eq_some_iff] at hown
        obtain ⟨registered, _, rfl⟩ := hown
        exact ⟨dispatch, List.mem_append_right _ List.mem_cons_self, rfl⟩
    · exact ⟨other, List.mem_append_right _ (List.mem_cons_of_mem _ hback), rfl⟩
  · rw [houtput]
    rintro call hcall
    obtain rfl := Option.some.inj hcall
    exact ⟨dispatch, hin, rfl⟩

theorem step [DecidableEq τ] (isInstance : ε → τ → Bool) (hledger : Ledger past bus)
    (hdistinct : DistinctSubscriptions bus) (h : Calls past bus) (input : BusInput ε τ) :
    Calls (past ++ [⟨bus, input, (busStep isInstance bus input).2,
      (busStep isInstance bus input).1⟩]) (busStep isInstance bus input).1 := by
  have heffect := busStep_effect isInstance bus input
  generalize (busStep isInstance bus input).1 = after at heffect ⊢
  generalize (busStep isInstance bus input).2 = answer at heffect ⊢
  cases heffect with
  | quiet answer _ _ hdispatches _ _ _ hinvoked hended =>
    exact h.quiet _ hdispatches hinvoked hended
  | accepted entry _ _ hdispatches => exact h.quiet _ hdispatches rfl rfl
  | unmatched entry _ _ hdispatches => exact h.quiet _ hdispatches rfl rfl
  | started entry current rest front back hitems _ hbefore hafter _ hmatched =>
    refine h.started _ entry current rest front back rfl hbefore hafter ?_ ?_
    · rw [← hmatched]
      exact hdistinct.matched_nodup isInstance entry.event
    · have hqueued : entry ∈ bus.queue.items := hitems ▸ List.mem_cons_self
      exact hledger.queued_fresh entry hqueued
  | continued dispatch next rest outcome front back hrest _ _ hbefore hafter =>
    refine h.advanced _ dispatch outcome (some next) rest front back rfl ?_ hbefore ?_ nofun
    · rw [hrest]
      exact List.Sublist.refl _
    · rw [hafter, List.append_assoc]
      rfl
  | finished dispatch outcome front back hrest _ _ hbefore hafter =>
    refine h.advanced _ dispatch outcome none [] front back rfl (List.nil_sublist _) hbefore ?_
      (fun _ => rfl)
    rw [hafter]
    exact (congrArg (· ++ back) (List.append_nil front)).symm
  | aborted dispatch counted front back _ _ hbefore hafter =>
    refine h.advanced _ dispatch (.escaped counted) none [] front back rfl (List.nil_sublist _)
      hbefore ?_ (fun _ => rfl)
    rw [hafter]
    exact (congrArg (· ++ back) (List.append_nil front)).symm

end Calls

theorem calls_run [DecidableEq τ] (isInstance : ε → τ → Bool) (config : EventBusConfig)
    (ops : List (BusInput ε τ)) :
    Calls (busTrace isInstance config ops) (busRun isInstance config ops) := by
  have hrun : DistinctSubscriptions (busRun isInstance config ops) ∧
      Ledger (busTrace isInstance config ops) (busRun isInstance config ops) ∧
      Calls (busTrace isInstance config ops) (busRun isInstance config ops) := by
    apply history_invariant (P := fun past bus =>
      DistinctSubscriptions bus ∧ Ledger past bus ∧ Calls past bus)
    · have hidle : (startedBus config : EventBus ε τ).dispatches = [] :=
        startedBus_dispatches config
      refine ⟨⟨List.nodup_nil, nofun⟩, ledger_run isInstance config [], ?_⟩
      refine ⟨?_, ?_, ?_, ?_, nofun⟩
      · rw [dueCalls, hidle]
        exact List.nodup_nil
      · rw [dueCalls, hidle]
        nofun
      · rw [hidle]
        exact List.Perm.refl _
      · rw [hidle]
        nofun
    · rintro past bus input ⟨hdistinct, hledger, hcalls⟩
      exact ⟨hdistinct.step isInstance bus input, hledger.step isInstance input,
        hcalls.step isInstance hledger hdistinct input⟩
  exact hrun.2.2

end Calls

end RoboticCharacter.Events
