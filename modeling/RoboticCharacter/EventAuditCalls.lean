import RoboticCharacter.EventAudit

/-! The calls of `append` that the bridge's handler makes: the workers that wait in them, and the
entries they return. -/
namespace RoboticCharacter.EventAudit
open Events Machine PythonJson

theorem exists_of_mem_left {α β : Type*} {R : α → β → Prop} {xs : List α} {ys : List β}
    (h : List.Forall₂ R xs ys) {x : α} (hx : x ∈ xs) : ∃ y, R x y := by
  induction h with
  | nil => exact absurd hx List.not_mem_nil
  | cons hhead _ ih =>
    rcases List.mem_cons.mp hx with rfl | hrest
    · exact ⟨_, hhead⟩
    · exact ih hrest

theorem forall₂_eraseIdx {α β : Type*} {R : α → β → Prop} {xs : List α} {ys : List β}
    (h : List.Forall₂ R xs ys) (place : ℕ) :
    List.Forall₂ R (xs.eraseIdx place) (ys.eraseIdx place) := by
  rw [List.eraseIdx_eq_take_drop_succ, List.eraseIdx_eq_take_drop_succ]
  exact List.rel_append (List.forall₂_take place h) (List.forall₂_drop (place+1) h)

abbrev AuditedEvent (φ υ δ ε τ : Type) :=
  Event (AuditedBus φ υ δ ε τ) (AuditedInput υ ε τ) (AuditedOutput ε τ)

/-- The entry whose call of a handler under one of these subscriptions returned. -/
def auditedIn {ε : Type} (handles : List ℕ) : BusAnswer ε → Option (Entry ε)
  | .handled entry registered .returned _ =>
    if registered.subscriptionId ∈ handles then some entry else none
  | _ => none

/-- The entry whose call of the bridge's handler returned in this step. -/
def audited? {φ υ δ ε τ : Type} (e : AuditedEvent φ υ δ ε τ) : Option (Entry ε) :=
  e.output.bind fun performed => auditedIn e.before.handles performed.2

/-- The entries that were audited, in order. -/
def audited {φ υ δ ε τ : Type} (past : List (AuditedEvent φ υ δ ε τ)) : List (Entry ε) :=
  past.filterMap audited?

namespace AuditedBus
section Wiring
variable {φ υ δ ε τ : Type} [PyFloat φ] [Audit.AuditModel φ υ δ]
  (dump : ε → Option (EventDump φ υ))

/-- The worker awaits a call of the bridge's handler for this entry. -/
def Awaits (s : AuditedBus φ υ δ ε τ) (index : ℕ) (entry : Entry ε) : Prop :=
  ∃ current rest, s.bus.dispatchAt index = some ⟨entry, current, rest⟩ ∧
    current.subscriptionId ∈ s.handles

/-- The record that `append` makes of the entry's event, at the end of this chain. -/
def Made (chain : List (Audit.AuditEntry φ υ δ)) (entry : Entry ε)
    (record : Audit.AuditEntry φ υ δ) : Prop :=
  ∃ fields stamp, dump entry.event = some fields ∧
    Audit.newEntry chain (fields.call stamp) = some record

/-- The workers in calls of `append`. -/
def served (s : AuditedBus φ υ δ ε τ) : List ℕ := s.holder.toList ++ s.waiting

/-- Every call of `append` is that of a worker that awaits it. -/
structure Wired (s : AuditedBus φ υ δ ε τ) : Prop where
  distinct : s.served.Nodup
  holding : ∀ index, s.holder = some index → ∃ entry pending, s.Awaits index entry ∧
    s.logger.holder = some pending ∧ Made dump s.logger.entries entry pending.entry
  free : s.holder = none → s.logger.holder = none
  waits : List.Forall₂ (fun index call => ∃ entry fields stamp, s.Awaits index entry ∧
    dump entry.event = some fields ∧ call = fields.call stamp) s.waiting s.logger.waiting

variable {dump}

omit [PyFloat φ] [Audit.AuditModel φ υ δ] in
theorem Awaits.serves {s : AuditedBus φ υ δ ε τ} {index : ℕ} {entry : Entry ε}
    (h : s.Awaits index entry) : s.serves index = true := by
  obtain ⟨current, rest, hdispatch, hmem⟩ := h
  unfold AuditedBus.serves
  rw [hdispatch]
  exact decide_eq_true hmem

/-- Of the calls of `append` a thread changes at most the stage of its own. -/
theorem thread_calls {before logger : Audit.LoggerState φ υ δ} (threadStep : ThreadStep)
    (h : Audit.step before threadStep.action = some logger) :
    logger.entries = before.entries ∧ logger.returned = before.returned ∧
      logger.waiting = before.waiting ∧
      logger.holder.map Audit.Pending.entry = before.holder.map Audit.Pending.entry := by
  cases threadStep with
  | starts | puts | returns | raises =>
    cases Audit.step_cases h with
    | holder p hp hholder =>
      cases hholder
      exact ⟨rfl, rfl, rfl, by rw [hp]; rfl⟩
  | orphanPuts place count =>
    cases Audit.step_cases h with
    | orphanPut => exact ⟨rfl, rfl, rfl, rfl⟩
    | holder p hp hholder => cases hholder
  | orphanEnds place =>
    cases Audit.step_cases h with
    | orphanEnds => exact ⟨rfl, rfl, rfl, rfl⟩
    | holder p hp hholder => cases hholder

namespace Wired
variable {s after : AuditedBus φ υ δ ε τ}

theorem awaits (h : s.Wired dump) {index : ℕ} (hserved : index ∈ s.served) :
    ∃ entry, s.Awaits index entry := by
  rcases List.mem_append.mp hserved with hholder | hwaiting
  · obtain ⟨entry, _, hawaits, _⟩ := h.holding index (Option.mem_toList.mp hholder)
    exact ⟨entry, hawaits⟩
  · obtain ⟨call, entry, _, _, hawaits, _⟩ := exists_of_mem_left h.waits hwaiting
    exact ⟨entry, hawaits⟩

theorem holder_iff (h : s.Wired dump) : s.holder = none ↔ s.logger.holder = none := by
  refine ⟨h.free, ?_⟩
  intro hnone
  cases hholder : s.holder with
  | none => rfl
  | some index =>
    obtain ⟨_, pending, _, hpending, _⟩ := h.holding index hholder
    rw [hnone] at hpending
    cases hpending

theorem waiting_iff (h : s.Wired dump) : s.waiting = [] ↔ s.logger.waiting = [] := by
  have hlength := h.waits.length_eq
  rw [← List.length_eq_zero_iff, ← List.length_eq_zero_iff, hlength]

/-- The logger and its callers stay as they are, and so do the calls they wait in. -/
theorem same (h : s.Wired dump) (hlogger : after.logger = s.logger)
    (hholder : after.holder = s.holder) (hwaiting : after.waiting = s.waiting)
    (hawaits : ∀ index ∈ s.served, ∀ entry, s.Awaits index entry → after.Awaits index entry) :
    after.Wired dump := by
  refine ⟨?_, ?_, ?_, ?_⟩
  · unfold served
    rw [hholder, hwaiting]
    exact h.distinct
  · intro index hindex
    rw [hholder] at hindex
    obtain ⟨entry, pending, hentry, hpending, hmade⟩ := h.holding index hindex
    have hserved : index ∈ s.served :=
      List.mem_append_left _ (Option.mem_toList.mpr hindex)
    rw [hlogger]
    exact ⟨entry, pending, hawaits index hserved entry hentry, hpending, hmade⟩
  · rw [hholder, hlogger]
    exact h.free
  · rw [hwaiting, hlogger]
    have hserved : ∀ index ∈ s.waiting, index ∈ s.served :=
      fun index hindex => List.mem_append_right _ hindex
    have hboth := (List.forall₂_and_left (p := fun index => index ∈ s.waiting) _ _).mpr
      ⟨fun index hindex => hindex, h.waits⟩
    apply hboth.imp
    rintro index call ⟨hindex, entry, fields, stamp, hentry, hfields, hcall⟩
    exact ⟨entry, fields, stamp, hawaits index (hserved index hindex) entry hentry, hfields,
      hcall⟩

/-- A new call of the handler takes the lock, waits for it, or raises at once. -/
theorem handle (h : s.Wired dump) {index : ℕ} (hfresh : index ∉ s.served) (stamp : Stamp υ)
    {entry : Entry ε} (hentry : s.Awaits index entry) :
    (s.handle dump index stamp entry.event).Wired dump := by
  unfold AuditedBus.handle
  cases hfields : dump entry.event with
  | none => exact h
  | some fields =>
    dsimp only [Audit.step]
    by_cases hidle : s.logger.holder.isNone ∧ s.logger.waiting = []
    · have hnone := Option.isNone_iff_eq_none.mp hidle.1
      have hfree := h.holder_iff.mpr hnone
      have hempty := h.waiting_iff.mpr hidle.2
      rw [if_pos hidle]
      dsimp only
      rw [if_pos ⟨hfree, hempty⟩]
      obtain hsame | ⟨record, line, hnew, _, hbegin⟩ :=
        Audit.begin_cases s.logger (fields.call stamp)
      · -- `append` raised before it made a thread, and released the lock
        rw [hsame, hnone]
        exact h.same rfl hfree.symm rfl fun _ _ _ hawaits => hawaits
      · rw [hbegin]
        refine ⟨?_, ?_, nofun, ?_⟩
        · unfold served
          dsimp only
          rw [hempty]
          exact List.nodup_singleton index
        · intro other hother
          obtain rfl := Option.some.inj hother
          exact ⟨entry, _, hentry, rfl, fields, stamp, hfields, hnew⟩
        · exact h.waits
    · have hbusy : ¬ (s.holder = none ∧ s.waiting = []) := by
        rw [h.holder_iff, h.waiting_iff, ← Option.isNone_iff_eq_none]
        exact hidle
      rw [if_neg hidle]
      dsimp only
      rw [if_neg hbusy]
      refine ⟨?_, h.holding, h.free, ?_⟩
      · unfold served
        dsimp only
        rw [← List.append_assoc]
        exact List.nodup_append.mpr ⟨h.distinct, List.nodup_singleton index,
          fun other hother last hlast heq =>
            hfresh ((heq.trans (List.mem_singleton.mp hlast)) ▸ hother)⟩
      · refine List.rel_append h.waits (List.Forall₂.cons ?_ List.Forall₂.nil)
        exact ⟨entry, fields, stamp, hentry, hfields, rfl⟩

/-- The bus makes a step of a worker that is in no call of `append`. -/
theorem stepped [DecidableEq τ] (isInstance : ε → τ → Bool) (h : s.Wired dump)
    (input : BusInput ε τ) (hfresh : ∀ index, input.worker? = some index → index ∉ s.served) :
    ({ s with bus := (busStep isInstance s.bus input).1 } : AuditedBus φ υ δ ε τ).Wired dump := by
  refine h.same rfl rfl rfl ?_
  rintro index hserved entry ⟨current, rest, hdispatch, hmem⟩
  refine ⟨current, rest, ?_, hmem⟩
  apply busStep_dispatchAt isInstance s.bus input hdispatch
  exact fun hworker => hfresh index hworker hserved

theorem busSteps [DecidableEq τ] (isInstance : ε → τ → Bool) (h : s.Wired dump)
    (input : BusInput ε τ) (stamp : Stamp υ)
    (hfresh : ∀ index, input.worker? = some index → index ∉ s.served) :
    (s.busSteps isInstance dump input stamp).1.Wired dump := by
  have hstepped := h.stepped isInstance input hfresh
  unfold AuditedBus.busSteps
  dsimp only
  split
  · rename_i index entry registered hworker hcalled
    split_ifs with hmem
    · obtain ⟨caller, rest, hcaller, hdispatch⟩ := busStep_called isInstance s.bus input hcalled
      obtain rfl := Option.some.inj (hworker.symm.trans hcaller)
      exact hstepped.handle (hfresh index hworker) stamp ⟨registered, rest, hdispatch, hmem⟩
    · exact hstepped
  · exact hstepped

/-- The step of a thread leaves the calls as they are. -/
theorem thread (h : s.Wired dump) (threadStep : ThreadStep)
    {logger : Audit.LoggerState φ υ δ}
    (hstep : Audit.step s.logger threadStep.action = some logger) :
    ({ s with logger } : AuditedBus φ υ δ ε τ).Wired dump := by
  obtain ⟨hentries, _, hwaiting, hholder⟩ := thread_calls threadStep hstep
  refine ⟨h.distinct, ?_, ?_, ?_⟩
  · intro index hindex
    obtain ⟨entry, pending, hentry, hpending, hmade⟩ := h.holding index hindex
    rw [hpending, Option.map_some, Option.map_eq_some_iff] at hholder
    obtain ⟨later, hlater, heq⟩ := hholder
    refine ⟨entry, later, hentry, hlater, ?_⟩
    dsimp only
    rw [hentries, heq]
    exact hmade
  · intro hnone
    rw [h.free hnone] at hholder
    exact Option.map_eq_none_iff.mp hholder
  · dsimp only
    rw [hwaiting]
    exact h.waits

/-- The lock goes to the first call that waits for it. -/
theorem lockTaken (h : s.Wired dump) {logger : Audit.LoggerState φ υ δ} {index : ℕ}
    {rest : List ℕ} (hstep : Audit.step s.logger .wake = some logger)
    (hwaiting : s.waiting = index :: rest) :
    ({ s with logger, holder := logger.holder.map fun _ => index, waiting := rest } :
      AuditedBus φ υ δ ε τ).Wired dump := by
  have hdistinct := h.distinct
  have hwaits := h.waits
  unfold served at hdistinct
  cases Audit.step_cases hstep with
  | holder p hp hholder => cases hholder
  | wakes call waiting hnone hcalls =>
    rw [hwaiting, hcalls] at hwaits
    obtain ⟨⟨entry, fields, stamp, hentry, hfields, hcall⟩, hrest⟩ := List.forall₂_cons.mp hwaits
    rw [h.holder_iff.mpr hnone, hwaiting, Option.toList_none, List.nil_append] at hdistinct
    obtain hsame | ⟨record, line, hnew, _, hbegin⟩ :=
      Audit.begin_cases { s.logger with waiting := waiting } call
    · rw [hsame]
      dsimp only
      rw [hnone]
      exact ⟨(List.nodup_cons.mp hdistinct).2, nofun, fun _ => rfl, hrest⟩
    · rw [hbegin]
      refine ⟨hdistinct, ?_, nofun, hrest⟩
      intro other hother
      obtain rfl := Option.some.inj hother
      exact ⟨entry, _, hentry, rfl, fields, stamp, hfields, hcall ▸ hnew⟩

/-- The holder's call is over, and nobody has the lock. -/
theorem released (h : s.Wired dump) {logger : Audit.LoggerState φ υ δ}
    (hholder : logger.holder = none) (hwaiting : logger.waiting = s.logger.waiting) :
    ({ s with logger, holder := none } : AuditedBus φ υ δ ε τ).Wired dump := by
  refine ⟨?_, nofun, fun _ => hholder, ?_⟩
  · exact h.distinct.sublist (List.sublist_append_right _ _)
  · dsimp only
    rw [hwaiting]
    exact h.waits

/-- A call that waited is given up. -/
theorem withdrawn (h : s.Wired dump) {logger : Audit.LoggerState φ υ δ} (place : ℕ)
    (hentries : logger.entries = s.logger.entries) (hholder : logger.holder = s.logger.holder)
    (hwaiting : logger.waiting = s.logger.waiting.eraseIdx place) :
    ({ s with logger, waiting := s.waiting.eraseIdx place } :
      AuditedBus φ υ δ ε τ).Wired dump := by
  refine ⟨?_, ?_, ?_, ?_⟩
  · exact h.distinct.sublist ((List.Sublist.refl _).append (List.eraseIdx_sublist _ _))
  · intro index hindex
    dsimp only
    rw [hholder, hentries]
    exact h.holding index hindex
  · intro hnone
    dsimp only
    rw [hholder]
    exact h.free hnone
  · dsimp only
    rw [hwaiting]
    exact forall₂_eraseIdx h.waits place

theorem step [DecidableEq τ] (isInstance : ε → τ → Bool) (anyEvent : τ) (h : s.Wired dump)
    (input : AuditedInput υ ε τ) : (s.step isInstance anyEvent dump input).1.Wired dump := by
  -- a worker that is in no call of `append` is not in `served`
  have hfresh : ∀ index, s.serves index ≠ true → index ∉ s.served := by
    intro index hserves hserved
    obtain ⟨entry, hentry⟩ := h.awaits hserved
    exact hserves hentry.serves
  cases input with
  | bus input stamp =>
    cases input with
    | handlerEnds index outcome =>
      dsimp only [AuditedBus.step]
      split_ifs with hserves
      · exact h
      · apply h.busSteps
        intro worker hworker
        obtain rfl := Option.some.inj hworker
        exact hfresh index hserves
    | unsubscribe subscriptionId eventType =>
      dsimp only [AuditedBus.step]
      split_ifs
      · exact h
      · exact h.busSteps isInstance _ stamp nofun
    | take index =>
      dsimp only [AuditedBus.step]
      by_cases hserved : index ∈ s.served
      · -- the worker dispatches and takes nothing
        obtain ⟨entry, current, rest, hdispatch, _⟩ := h.awaits hserved
        have hblocked : busStep isInstance s.bus (.take index) = (s.bus, .blocked) :=
          take_dispatching isInstance hdispatch
        unfold AuditedBus.busSteps
        rw [hblocked]
        exact h
      · apply h.busSteps
        intro worker hworker
        obtain rfl := Option.some.inj hworker
        exact hserved
    | _ => exact h.busSteps isInstance _ stamp nofun
  | bridgeStart =>
    dsimp only [AuditedBus.step]
    split
    · exact h
    · refine h.same rfl rfl rfl ?_
      rintro index _ entry ⟨current, rest, hdispatch, hmem⟩
      exact ⟨current, rest, hdispatch, List.mem_append_left _ hmem⟩
  | bridgeStop =>
    dsimp only [AuditedBus.step]
    split
    · exact h
    · refine h.same rfl rfl rfl ?_
      rintro index _ entry ⟨current, rest, hdispatch, hmem⟩
      exact ⟨current, rest, busStep_dispatchAt isInstance s.bus _ hdispatch nofun, hmem⟩
  | thread threadStep =>
    dsimp only [AuditedBus.step]
    split
    · exact h
    · rename_i logger hstep
      exact h.thread threadStep hstep
  | lockTaken =>
    dsimp only [AuditedBus.step]
    split
    · rename_i logger index rest hstep hwaiting
      split_ifs
      · exact h
      · exact h.lockTaken hstep hwaiting
    · exact h
  | resumes stamp error =>
    dsimp only [AuditedBus.step]
    split
    · rename_i index pending logger hindex hpending hstep
      split_ifs
      · exact h
      · have hover : logger.holder = none ∧ logger.waiting = s.logger.waiting := by
          cases Audit.step_cases hstep with
          | holder p hp hholder => cases hholder <;> exact ⟨rfl, rfl⟩
        apply (h.released hover.1 hover.2).busSteps
        intro worker hworker
        obtain rfl := Option.some.inj hworker
        have hdistinct := h.distinct
        unfold served at hdistinct
        rw [hindex] at hdistinct
        exact (List.nodup_cons.mp hdistinct).1
    · exact h
  | raises index errorType message stamp =>
    dsimp only [AuditedBus.step]
    split_ifs with hraises
    · apply h.busSteps
      intro worker hworker
      obtain rfl := Option.some.inj hworker
      rintro hserved
      rcases List.mem_append.mp hserved with hholder | hwaiting
      · exact hraises.2.1 (Option.mem_toList.mp hholder)
      · exact hraises.2.2 hwaiting
    · exact h
  | cancelled index =>
    dsimp only [AuditedBus.step]
    split_ifs with hcancelled hholder
    · split
      · exact h
      · rename_i logger hstep
        have hover : logger.holder = none ∧ logger.waiting = s.logger.waiting := by
          cases Audit.step_cases hstep with
          | holder p hp hholder => cases hholder <;> exact ⟨rfl, rfl⟩
        apply (h.released hover.1 hover.2).stepped isInstance
        intro worker hworker
        obtain rfl := Option.some.inj hworker
        have hdistinct := h.distinct
        unfold served at hdistinct
        rw [hholder] at hdistinct
        exact (List.nodup_cons.mp hdistinct).1
    · split
      · exact h
      · rename_i logger hstep
        have hleft : logger.entries = s.logger.entries ∧ logger.holder = s.logger.holder ∧
            logger.waiting = s.logger.waiting.eraseIdx (s.waiting.idxOf index) := by
          cases Audit.step_cases hstep with
          | leaves place => exact ⟨rfl, rfl, rfl⟩
          | holder p hp hholder => cases hholder
        apply (h.withdrawn (s.waiting.idxOf index) hleft.1 hleft.2.1 hleft.2.2).stepped isInstance
        intro worker hworker
        obtain rfl := Option.some.inj hworker
        -- the worker was in the list once
        intro hserved
        rcases List.mem_append.mp hserved with hmem | hmem
        · exact hholder (Option.mem_toList.mp hmem)
        · have hnodup := (List.nodup_append.mp h.distinct).2.1
          dsimp only at hmem
          rw [← List.erase_eq_eraseIdx_of_idxOf rfl] at hmem
          exact hnodup.not_mem_erase hmem
    · exact h

end Wired

/-! ### What a step records -/

/-- A step appends nothing and ends no call with a record, or it appends the record of the entry
whose call returns. -/
inductive Recorded (dump : ε → Option (EventDump φ υ)) (s after : AuditedBus φ υ δ ε τ) :
    Option (Entry ε) → Prop
  | quiet (hentries : after.logger.entries = s.logger.entries)
      (hreturned : after.logger.returned = s.logger.returned) : Recorded dump s after none
  | appended (entry : Entry ε) (record : Audit.AuditEntry φ υ δ)
      (hmade : Made dump s.logger.entries entry record)
      (hentries : after.logger.entries = s.logger.entries ++ [record])
      (hreturned : after.logger.returned = s.logger.returned ++ [record]) :
      Recorded dump s after (some entry)

variable (dump) in
theorem handle_entries (s : AuditedBus φ υ δ ε τ) (index : ℕ) (stamp : Stamp υ) (event : ε) :
    (s.handle dump index stamp event).logger.entries = s.logger.entries ∧
      (s.handle dump index stamp event).logger.returned = s.logger.returned := by
  unfold AuditedBus.handle
  cases dump event with
  | none => exact ⟨rfl, rfl⟩
  | some fields =>
    have hbegin := Audit.begin_entries s.logger (fields.call stamp)
    dsimp only [Audit.step]
    split_ifs <;> first | exact hbegin | exact ⟨rfl, rfl⟩

variable [DecidableEq τ] (isInstance : ε → τ → Bool)

variable (dump) in
theorem busSteps_entries (s : AuditedBus φ υ δ ε τ) (input : BusInput ε τ) (stamp : Stamp υ) :
    (s.busSteps isInstance dump input stamp).1.logger.entries = s.logger.entries ∧
      (s.busSteps isInstance dump input stamp).1.logger.returned = s.logger.returned ∧
      (s.busSteps isInstance dump input stamp).2 =
        some (input, (busStep isInstance s.bus input).2) := by
  unfold AuditedBus.busSteps
  dsimp only
  split
  · split_ifs
    · exact ⟨(handle_entries dump _ _ _ _).1, (handle_entries dump _ _ _ _).2, rfl⟩
    · exact ⟨rfl, rfl, rfl⟩
  · exact ⟨rfl, rfl, rfl⟩

omit [PyFloat φ] [Audit.AuditModel φ υ δ] in
/-- A step of the bus ends no call of the bridge's handler, if it ends one of another handler, or
in another way. -/
theorem auditedIn_none (s : AuditedBus φ υ δ ε τ) (input : BusInput ε τ)
    (h : ∀ index, input = .handlerEnds index .returned → s.serves index ≠ true) :
    auditedIn s.handles (busStep isInstance s.bus input).2 = none := by
  cases hanswer : (busStep isInstance s.bus input).2 with
  | handled entry registered outcome next =>
    cases outcome with
    | returned =>
      obtain ⟨index, rest, hinput, hdispatch⟩ := busStep_handled isInstance s.bus input hanswer
      have hserves := h index hinput
      unfold AuditedBus.serves at hserves
      rw [hdispatch] at hserves
      exact if_neg (fun hmem => hserves (decide_eq_true hmem))
    | raised errorType message => rfl
    | escaped counted => rfl
  | _ => rfl

/-- The record goes to the end of the chain, and the handler returns. -/
theorem returned_recorded {s : AuditedBus φ υ δ ε τ} {index : ℕ} (stamp : Stamp υ)
    {entry : Entry ε} {record : Audit.AuditEntry φ υ δ} (hawaits : s.Awaits index entry)
    (hmade : Made dump s.logger.entries entry record) (t : AuditedBus φ υ δ ε τ)
    (hbus : t.bus = s.bus) (hentries : t.logger.entries = s.logger.entries ++ [record])
    (hreturned : t.logger.returned = s.logger.returned ++ [record]) :
    Recorded dump s (t.busSteps isInstance dump (.handlerEnds index .returned) stamp).1
      ((t.busSteps isInstance dump (.handlerEnds index .returned) stamp).2.bind
        fun performed => auditedIn s.handles performed.2) := by
  obtain ⟨current, rest, hdispatch, hmem⟩ := hawaits
  obtain ⟨next, hanswer⟩ := handlerEnds_dispatchAt hdispatch .returned
  obtain ⟨hsameEntries, hsameReturned, houtput⟩ :=
    busSteps_entries dump isInstance t (.handlerEnds index .returned) stamp
  have haudited : auditedIn s.handles
      (busStep isInstance s.bus (.handlerEnds index .returned)).2 = some entry := by
    change auditedIn s.handles (s.bus.handlerEnds index .returned).2 = some entry
    rw [hanswer]
    exact if_pos hmem
  rw [houtput, hbus, Option.bind_some, haudited]
  exact .appended entry record hmade (hsameEntries.trans hentries) (hsameReturned.trans hreturned)

theorem step_recorded (anyEvent : τ) {s : AuditedBus φ υ δ ε τ} (h : s.Wired dump)
    (input : AuditedInput υ ε τ) :
    Recorded dump s (s.step isInstance anyEvent dump input).1
      (audited? ⟨s, input, (s.step isInstance anyEvent dump input).2,
        (s.step isInstance anyEvent dump input).1⟩) := by
  unfold audited?
  dsimp only
  have hsilent : Recorded dump s s (((none : AuditedOutput ε τ)).bind
      fun performed => auditedIn s.handles performed.2) := .quiet rfl rfl
  -- steps of the bus that are no return of the bridge's handler
  have hquiet : ∀ (t : AuditedBus φ υ δ ε τ) (made : BusInput ε τ) (stamp : Stamp υ),
      t.bus = s.bus → t.logger.entries = s.logger.entries →
      t.logger.returned = s.logger.returned →
      (∀ index, made = .handlerEnds index .returned → s.serves index ≠ true) →
      Recorded dump s (t.busSteps isInstance dump made stamp).1
        ((t.busSteps isInstance dump made stamp).2.bind
          fun performed => auditedIn s.handles performed.2) := by
    intro t made stamp hbus hentries hreturned hserves
    obtain ⟨hsameEntries, hsameReturned, houtput⟩ :=
      busSteps_entries dump isInstance t made stamp
    rw [houtput, hbus, Option.bind_some, auditedIn_none isInstance s made hserves]
    exact .quiet (hsameEntries.trans hentries) (hsameReturned.trans hreturned)
  cases input with
  | bus made stamp =>
    cases made with
    | handlerEnds index outcome =>
      dsimp only [AuditedBus.step]
      split_ifs with hserves
      · exact hsilent
      · apply hquiet s _ stamp rfl rfl rfl
        intro other hother
        cases hother
        exact hserves
    | unsubscribe subscriptionId eventType =>
      dsimp only [AuditedBus.step]
      split_ifs
      · exact hsilent
      · exact hquiet s _ stamp rfl rfl rfl nofun
    | _ => exact hquiet s _ stamp rfl rfl rfl nofun
  | bridgeStart =>
    dsimp only [AuditedBus.step]
    split
    · exact hsilent
    · exact .quiet rfl rfl
  | bridgeStop =>
    dsimp only [AuditedBus.step]
    split
    · exact hsilent
    · rw [Option.bind_some, auditedIn_none isInstance s (.unsubscribe _ anyEvent) nofun]
      exact .quiet rfl rfl
  | thread threadStep =>
    dsimp only [AuditedBus.step]
    split
    · exact hsilent
    · rename_i logger hstep
      obtain ⟨hentries, hreturned, _⟩ := thread_calls threadStep hstep
      exact .quiet hentries hreturned
  | lockTaken =>
    dsimp only [AuditedBus.step]
    split
    · rename_i logger index rest hstep hwaiting
      split_ifs
      · exact hsilent
      · cases Audit.step_cases hstep with
        | wakes call waiting hnone hcalls =>
          have hbegin := Audit.begin_entries { s.logger with waiting := waiting } call
          exact .quiet hbegin.1 hbegin.2
        | holder p hp hholder => cases hholder
    · exact hsilent
  | resumes stamp error =>
    dsimp only [AuditedBus.step]
    split
    · rename_i index pending logger hindex hpending hstep
      split_ifs
      · exact hsilent
      · obtain ⟨entry, held, hawaits, hheld, hmade⟩ := h.holding index hindex
        obtain rfl := Option.some.inj (hpending.symm.trans hheld)
        cases Audit.step_cases hstep with
        | holder p hp hholder =>
          obtain rfl := Option.some.inj (hpending.symm.trans hp)
          cases hholder with
          | returns hjob =>
            have houtcome : appendOutcome error pending.job = .returned := by
              rw [hjob]
              rfl
            rw [houtcome]
            exact returned_recorded isInstance stamp hawaits hmade _ rfl rfl rfl
          | raises written hjob =>
            have houtcome : appendOutcome error pending.job =
                .raised "AuditStorageError" ("failed to append audit record: " ++ error) := by
              rw [hjob]
              rfl
            rw [houtcome]
            exact hquiet _ _ stamp rfl rfl rfl nofun
    · exact hsilent
  | raises index errorType message stamp =>
    dsimp only [AuditedBus.step]
    split_ifs with hraises
    · exact hquiet s _ stamp rfl rfl rfl nofun
    · exact hsilent
  | cancelled index =>
    have hescaped : auditedIn s.handles
        (busStep isInstance s.bus (.handlerEnds index (.escaped false))).2 = none :=
      auditedIn_none isInstance s _ nofun
    dsimp only [AuditedBus.step]
    split_ifs with hcancelled hholder
    · split
      · exact hsilent
      · rename_i logger hstep
        rw [Option.bind_some, hescaped]
        cases Audit.step_cases hstep with
        | holder p hp hholder => cases hholder <;> exact .quiet rfl rfl
    · split
      · exact hsilent
      · rename_i logger hstep
        rw [Option.bind_some, hescaped]
        cases Audit.step_cases hstep with
        | leaves place => exact .quiet rfl rfl
        | holder p hp hholder => cases hholder
    · exact hsilent

end Wiring
end AuditedBus
end RoboticCharacter.EventAudit
