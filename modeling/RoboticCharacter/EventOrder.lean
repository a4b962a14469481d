import RoboticCharacter.EventDelivery

/-! The order in which the event bus dispatches: what a worker takes from the queue, and which
of two calls that publish with equal priority comes first. -/
namespace RoboticCharacter.Events
open AsyncQueue Machine

section Order
variable {ε : Type*}

instance entryBefore_total : Std.Total (Entry.before (ε := ε)) where
  total a b := by
    unfold Entry.before
    omega

instance entryBefore_trans : IsTrans (Entry ε) Entry.before where
  trans a b c := by
    unfold Entry.before
    omega

end Order

section Calls
variable {ε τ : Type*}

/-- The entry whose number a call of `publish` or `publish_nowait` draws. -/
def EventBus.drawn? (bus : EventBus ε τ) : BusInput ε τ → Option (Entry ε)
  | .publish event priority | .publishNowait event priority =>
    if bus.running = false then none else some ⟨priority.value, bus.sequence, event⟩
  | _ => none

/-- The entries in the order in which the calls that publish them began. -/
def begun (past : List (BusEvent ε τ)) : List (Entry ε) :=
  past.filterMap (fun e => e.before.drawn? e.input)

/-- What a step does to the numbered entries: those it accepts or leaves waiting were waiting
or are numbered by it, and an accepted one is put in its place in the queue by the task that
publishes it. -/
structure CallStep (bus after : EventBus ε τ) (input : BusInput ε τ) (answer : BusAnswer ε) :
    Prop where
  origin : ∀ entry ∈ answer.accepted?.toList ++ after.blocked,
    entry ∈ bus.blocked ∨ bus.drawn? input = some entry
  number : (bus.drawn? input).isSome = true → after.sequence = bus.sequence+1
  place : ∀ entry, answer = .accepted entry → after.queue = bus.queue.put Entry.before entry
  caller : ∀ entry, answer = .accepted entry →
    (∃ priority, input = .publish entry.event priority ∨
      input = .publishNowait entry.event priority) ∨
    ∃ index, input = .publisherResumes index ∧ bus.blocked[index]? = some entry

theorem callStep_of_same (bus after : EventBus ε τ) (input : BusInput ε τ) (answer : BusAnswer ε)
    (hblocked : after.blocked = bus.blocked) (haccepted : answer.accepted? = none)
    (hnumber : (bus.drawn? input).isSome = true → after.sequence = bus.sequence+1) :
    CallStep bus after input answer := by
  have hnone : ∀ entry, answer ≠ .accepted entry := by
    rintro entry rfl
    cases haccepted
  refine ⟨?_, hnumber, fun entry h => absurd h (hnone entry), fun entry h => absurd h (hnone entry)⟩
  rw [haccepted, hblocked]
  exact fun entry hentry => .inl hentry

/-- A step of a task that publishes nothing. -/
theorem callStep_quiet (bus after : EventBus ε τ) (input : BusInput ε τ) (answer : BusAnswer ε)
    (hinput : bus.drawn? input = none) (hblocked : after.blocked = bus.blocked)
    (haccepted : answer.accepted? = none) : CallStep bus after input answer := by
  apply callStep_of_same _ _ _ _ hblocked haccepted
  rw [hinput]
  exact fun h => absurd h Bool.false_ne_true

/-- A call whose entry is queued at once. -/
theorem enqueue_callStep (bus held : EventBus ε τ) {input : BusInput ε τ} {event : ε}
    {priority : EventPriority}
    (hinput : input = .publish event priority ∨ input = .publishNowait event priority)
    (hdrawn : bus.drawn? input = some ⟨priority.value, bus.sequence, event⟩)
    (hblocked : held.blocked = bus.blocked) (hqueue : held.queue = bus.queue)
    (hsequence : held.sequence = bus.sequence+1) :
    CallStep bus (held.enqueue ⟨priority.value, bus.sequence, event⟩).1 input
      (held.enqueue ⟨priority.value, bus.sequence, event⟩).2 := by
  refine ⟨?_, fun _ => hsequence, ?_, ?_⟩
  · intro entry hentry
    obtain hnew | hold := List.mem_append.mp hentry
    · exact .inr (hdrawn.trans (congrArg some (List.mem_singleton.mp hnew).symm))
    · exact .inl (hblocked ▸ hold)
  · intro entry h
    rw [← BusAnswer.accepted.inj h, ← hqueue]
    rfl
  · intro entry h
    rw [← BusAnswer.accepted.inj h]
    exact .inl ⟨priority, hinput⟩

theorem publish_callStep (bus : EventBus ε τ) (event : ε) (priority : EventPriority) :
    CallStep bus (bus.publish event priority.value).1 (.publish event priority)
      (bus.publish event priority.value).2 := by
  by_cases hstopped : bus.running = false
  · dsimp only [EventBus.publish]
    rw [if_pos hstopped]
    exact callStep_quiet _ _ _ _ (if_pos hstopped) rfl rfl
  · have hdrawn : bus.drawn? (.publish event priority : BusInput ε τ) =
        some ⟨priority.value, bus.sequence, event⟩ := if_neg hstopped
    dsimp only [EventBus.publish]
    rw [if_neg hstopped]
    split_ifs
    · refine ⟨?_, fun _ => rfl, (fun entry h => by cases h), (fun entry h => by cases h)⟩
      intro entry hentry
      -- nothing is accepted yet, so the entry is among the waiting ones
      have hwaiting := (List.mem_append.mp hentry).resolve_left List.not_mem_nil
      obtain hold | hnew := List.mem_append.mp hwaiting
      · exact .inl hold
      · exact .inr (hdrawn.trans (congrArg some (List.mem_singleton.mp hnew).symm))
    · exact enqueue_callStep bus _ (.inl rfl) hdrawn rfl rfl rfl

theorem publishNowait_callStep (bus : EventBus ε τ) (event : ε) (priority : EventPriority) :
    CallStep bus (bus.publishNowait event priority.value).1 (.publishNowait event priority)
      (bus.publishNowait event priority.value).2 := by
  by_cases hstopped : bus.running = false
  · dsimp only [EventBus.publishNowait]
    rw [if_pos hstopped]
    exact callStep_quiet _ _ _ _ (if_pos hstopped) rfl rfl
  · have hdrawn : bus.drawn? (.publishNowait event priority : BusInput ε τ) =
        some ⟨priority.value, bus.sequence, event⟩ := if_neg hstopped
    dsimp only [EventBus.publishNowait]
    rw [if_neg hstopped]
    split_ifs
    · exact callStep_of_same _ _ _ _ rfl rfl (fun _ => rfl)
    · exact enqueue_callStep bus _ (.inr rfl) hdrawn rfl rfl rfl

theorem publisherResumes_callStep (bus : EventBus ε τ) (index : ℕ) :
    CallStep bus (bus.publisherResumes index).1 (.publisherResumes index)
      (bus.publisherResumes index).2 := by
  dsimp only [EventBus.publisherResumes]
  cases hentry : bus.blocked[index]? with
  | none => exact callStep_quiet _ _ _ _ rfl rfl rfl
  | some waiting =>
    dsimp only
    split_ifs
    · exact callStep_quiet _ _ _ _ rfl rfl rfl
    · refine ⟨?_, fun h => absurd h Bool.false_ne_true, ?_, ?_⟩
      · intro entry hmem
        exact .inl ((blocked_perm bus.blocked index waiting hentry).mem_iff.mp hmem)
      · intro entry h
        rw [← BusAnswer.accepted.inj h]
        rfl
      · intro entry h
        rw [← BusAnswer.accepted.inj h]
        exact .inr ⟨index, rfl, hentry⟩

theorem publisherCancelled_callStep (bus : EventBus ε τ) (index : ℕ) :
    CallStep bus (bus.publisherCancelled index).1 (.publisherCancelled index)
      (bus.publisherCancelled index).2 := by
  dsimp only [EventBus.publisherCancelled]
  cases bus.blocked[index]? with
  | none => exact callStep_quiet _ _ _ _ rfl rfl rfl
  | some waiting =>
    refine ⟨?_, fun h => absurd h Bool.false_ne_true, (fun entry h => by cases h),
      (fun entry h => by cases h)⟩
    exact fun entry hmem => .inl (List.mem_of_mem_eraseIdx hmem)

theorem drawn_of_bystander (bus : EventBus ε τ) {input : BusInput ε τ}
    (h : input.publishes = false) : bus.drawn? input = none := by
  cases input with
  | publish event priority => cases h
  | publishNowait event priority => cases h
  | _ => rfl

theorem busStep_callStep [DecidableEq τ] (isInstance : ε → τ → Bool) (bus : EventBus ε τ)
    (input : BusInput ε τ) :
    CallStep bus (busStep isInstance bus input).1 input (busStep isInstance bus input).2 := by
  by_cases hpublishes : input.publishes = false
  · have hbystands := busStep_bystands isInstance bus input hpublishes
    exact callStep_quiet _ _ _ _ (drawn_of_bystander bus hpublishes) hbystands.blocked_eq
      hbystands.accepted_eq
  · cases input with
    | publish event priority => exact publish_callStep bus event priority
    | publishNowait event priority => exact publishNowait_callStep bus event priority
    | publisherResumes index => exact publisherResumes_callStep bus index
    | publisherCancelled index => exact publisherCancelled_callStep bus index
    | _ => exact absurd rfl hpublishes

end Calls

section Runs
variable {ε τ : Type*} [DecidableEq τ] (isInstance : ε → τ → Bool)

/-- The queue is in the order of its entries' rank. -/
def EventBus.Sorted (bus : EventBus ε τ) : Prop := bus.queue.items.Pairwise Entry.before

omit [DecidableEq τ] in
theorem EventBus.Sorted.head {bus : EventBus ε τ} (h : bus.Sorted) {entry : Entry ε}
    {rest : List (Entry ε)} (hitems : bus.queue.items = entry :: rest) {other : Entry ε}
    (hother : other ∈ bus.queue.items) : entry.before other := by
  unfold EventBus.Sorted at h
  rw [hitems] at h hother
  obtain rfl | hrest := List.mem_cons.mp hother
  · exact .inr ⟨rfl, le_rfl⟩
  · exact (List.pairwise_cons.mp h).1 other hrest

theorem EventBus.Sorted.step {bus : EventBus ε τ} (h : bus.Sorted) (input : BusInput ε τ) :
    (busStep isInstance bus input).1.Sorted := by
  have heffect := busStep_effect isInstance bus input
  have hplace := (busStep_callStep isInstance bus input).place
  unfold EventBus.Sorted at h ⊢
  generalize (busStep isInstance bus input).1 = after, (busStep isInstance bus input).2 = answer
    at heffect hplace ⊢
  cases heffect with
  | quiet answer hitems => rwa [hitems]
  | accepted entry =>
    rw [hplace entry rfl]
    exact h.orderedInsert entry bus.queue.items
  | unmatched entry hitems =>
    rw [hitems] at h
    exact (List.pairwise_cons.mp h).2
  | started entry current rest front back hitems =>
    rw [hitems] at h
    exact (List.pairwise_cons.mp h).2
  | continued dispatch next rest outcome front back hrest hitems => rwa [hitems]
  | finished dispatch outcome front back hrest hitems => rwa [hitems]
  | aborted dispatch counted front back hitems => rwa [hitems]

/-- A take is of the first entry of the queue. -/
theorem items_of_took (bus : EventBus ε τ) (input : BusInput ε τ) (entry : Entry ε)
    (matched : List RegisteredHandler)
    (h : (busStep isInstance bus input).2 = .took entry matched) :
    bus.queue.items = entry :: (busStep isInstance bus input).1.queue.items := by
  have heffect := busStep_effect isInstance bus input
  rw [h] at heffect
  exact heffect.took.1

omit [DecidableEq τ] in
theorem begun_snoc (past : List (BusEvent ε τ)) (e : BusEvent ε τ) :
    begun (past ++ [e]) = begun past ++ (e.before.drawn? e.input).toList :=
  filterMap_snoc (fun e : BusEvent ε τ => e.before.drawn? e.input) past e

omit [DecidableEq τ] in
theorem sequence_of_drawn {bus : EventBus ε τ} {input : BusInput ε τ} {entry : Entry ε}
    (h : bus.drawn? input = some entry) : entry.sequence = bus.sequence := by
  unfold EventBus.drawn? at h
  split at h
  · split_ifs at h
    rw [← Option.some.inj h]
  · split_ifs at h
    rw [← Option.some.inj h]
  · cases h

theorem sequence_le_step (bus : EventBus ε τ) (input : BusInput ε τ) :
    bus.sequence ≤ (busStep isInstance bus input).1.sequence := by
  cases busStep_numbered isInstance bus input with
  | kept lost hblocked hsequence => exact hsequence
  | fresh entry hnumber hsequence hblocked => exact hsequence ▸ Nat.le_succ _

/-- Numbers are drawn in the order of the calls, and each accepted or waiting entry has a call. -/
structure CallOrder (past : List (BusEvent ε τ)) (bus : EventBus ε τ) : Prop where
  increasing : (begun past).Pairwise fun first second => first.sequence < second.sequence
  drawn : ∀ entry ∈ begun past, entry.sequence < bus.sequence
  called : ∀ entry ∈ accepted past ++ bus.blocked, entry ∈ begun past
  sorted : bus.Sorted

theorem CallOrder.step {past : List (BusEvent ε τ)} {bus : EventBus ε τ} (h : CallOrder past bus)
    (input : BusInput ε τ) :
    CallOrder (past ++ [⟨bus, input, (busStep isInstance bus input).2,
      (busStep isInstance bus input).1⟩]) (busStep isInstance bus input).1 := by
  have hcall := busStep_callStep isInstance bus input
  have hle := sequence_le_step isInstance bus input
  refine ⟨?_, ?_, ?_, h.sorted.step isInstance input⟩
  · rw [begun_snoc, List.pairwise_append]
    refine ⟨h.increasing, ?_, ?_⟩
    · cases bus.drawn? input with
      | none => exact List.Pairwise.nil
      | some entry => exact List.pairwise_singleton _ _
    · intro first hfirst second hsecond
      rw [Option.mem_toList] at hsecond
      rw [sequence_of_drawn hsecond]
      exact h.drawn first hfirst
  · intro entry hentry
    rw [begun_snoc] at hentry
    obtain hold | hnew := List.mem_append.mp hentry
    · exact (h.drawn entry hold).trans_le hle
    · rw [Option.mem_toList] at hnew
      have hnumber := hcall.number (Option.isSome_of_mem hnew)
      rw [sequence_of_drawn hnew, hnumber]
      exact Nat.lt_succ_self _
  · intro entry hentry
    rw [accepted_snoc, List.append_assoc] at hentry
    rw [begun_snoc]
    obtain hold | hnow := List.mem_append.mp hentry
    · exact List.mem_append_left _ (h.called entry (List.mem_append_left _ hold))
    · obtain hwaiting | hdrawn := hcall.origin entry hnow
      · exact List.mem_append_left _ (h.called entry (List.mem_append_right _ hwaiting))
      · exact List.mem_append_right _ (Option.mem_toList.mpr hdrawn)

theorem callOrder_run (config : EventBusConfig) (ops : List (BusInput ε τ)) :
    CallOrder (busTrace isInstance config ops) (busRun isInstance config ops) := by
  apply history_invariant
  · refine ⟨List.Pairwise.nil, ?_, ?_, List.Pairwise.nil⟩
    · exact fun entry hentry => absurd hentry List.not_mem_nil
    · exact fun entry hentry => absurd hentry List.not_mem_nil
  · exact fun past bus input h => h.step isInstance input

/-- What is accepted later was waiting at the start, or its call began later. -/
theorem accepted_later (bus : EventBus ε τ) (ops : List (BusInput ε τ)) :
    ∀ entry ∈ accepted (trace (busStep isInstance) bus ops),
      entry ∈ bus.blocked ∨ bus.sequence ≤ entry.sequence := by
  have hrun : bus.sequence ≤ (run (busStep isInstance) bus ops).sequence ∧
      ∀ entry ∈ accepted (trace (busStep isInstance) bus ops) ++
        (run (busStep isInstance) bus ops).blocked,
        entry ∈ bus.blocked ∨ bus.sequence ≤ entry.sequence := by
    apply history_invariant (busStep isInstance) (P := fun past now => bus.sequence ≤ now.sequence ∧
      ∀ entry ∈ accepted past ++ now.blocked, entry ∈ bus.blocked ∨ bus.sequence ≤ entry.sequence)
    · exact ⟨le_rfl, fun entry hentry => .inl hentry⟩
    · rintro past now input ⟨hsequence, hpast⟩
      refine ⟨hsequence.trans (sequence_le_step isInstance now input), ?_⟩
      intro entry hentry
      rw [accepted_snoc, List.append_assoc] at hentry
      obtain hold | hnow := List.mem_append.mp hentry
      · exact hpast entry (List.mem_append_left _ hold)
      · obtain hwaiting | hdrawn := (busStep_callStep isInstance now input).origin entry hnow
        · exact hpast entry (List.mem_append_right _ hwaiting)
        · exact .inr (hsequence.trans (sequence_of_drawn hdrawn).ge)
  exact fun entry hentry => hrun.2 entry (List.mem_append_left _ hentry)

/-- The order of dispatch. A take is of an entry of least priority value among those queued. Of
two entries of equal priority the one whose call began first is taken first, unless its
publisher was still suspended when the other one was taken. -/
structure DispatchedInOrder (past : List (BusEvent ε τ)) : Prop where
  called : ∀ entry ∈ accepted past, entry ∈ begun past
  minimal : ∀ before e later, past = before ++ e :: later → ∀ entry matched,
    e.output = .took entry matched → ∀ other ∈ e.before.queue.items,
      entry.priority ≤ other.priority
  first_called : ∀ before e later, past = before ++ e :: later → ∀ entry matched,
    e.output = .took entry matched → ∀ other ∈ accepted past,
      [other, entry].Sublist (begun past) → other.priority = entry.priority →
        other ∈ (taken before).map Prod.fst ∨ other ∈ e.before.blocked

/-- The bus dispatches in this order in every run, with any number of workers. -/
theorem dispatched_in_order (config : EventBusConfig) (ops : List (BusInput ε τ)) :
    DispatchedInOrder (busTrace isInstance config ops) := by
  have horder := callOrder_run isInstance config ops
  -- a take in the middle of the run, and what holds of the run up to it
  have hcut : ∀ before e later, busTrace isInstance config ops = before ++ e :: later →
      ∀ entry matched, e.output = .took entry matched →
        e.before.queue.items = entry :: e.after.queue.items ∧ CallOrder before e.before ∧
          Ledger before e.before := by
    intro before e later hsplit entry matched htook
    have hstep := trace_step (busStep isInstance) _ ops e
      (hsplit ▸ List.mem_append_right _ List.mem_cons_self)
    obtain ⟨hbefore, hstate⟩ := trace_split (busStep isInstance) _ ops before later e hsplit
    have hitems := items_of_took isInstance e.before e.input entry matched
      ((congrArg Prod.snd hstep).trans htook)
    rw [hstep] at hitems
    refine ⟨hitems, ?_, ?_⟩
    · rw [hbefore, hstate]
      exact callOrder_run isInstance config _
    · rw [hbefore, hstate]
      exact ledger_run isInstance config _
  refine ⟨fun entry hentry => horder.called entry (List.mem_append_left _ hentry), ?_, ?_⟩
  · intro before e later hsplit entry matched htook other hother
    obtain ⟨hitems, hcalls, -⟩ := hcut before e later hsplit entry matched htook
    have hrank := hcalls.sorted.head hitems hother
    unfold Entry.before at hrank
    omega
  · intro before e later hsplit entry matched htook other hother hcall hequal
    obtain ⟨hitems, hcalls, hledger⟩ := hcut before e later hsplit entry matched htook
    have hlt : other.sequence < entry.sequence :=
      List.pairwise_iff_forall_sublist.mp horder.increasing hcall
    have hnumber : entry.sequence < e.before.sequence := by
      apply hledger.numbered entry (List.mem_append_left _ _)
      apply hledger.accounted.mem_iff.mpr
      rw [hitems]
      exact List.mem_append_left _ List.mem_cons_self
    rw [hsplit, accepted, List.filterMap_append] at hother
    obtain hearlier | hlater := List.mem_append.mp hother
    · -- accepted before: still queued behind the entry that is taken, or taken already
      left
      obtain hqueued | htaken := List.mem_append.mp (hledger.accounted.mem_iff.mp hearlier)
      · have hrank := hcalls.sorted.head hitems hqueued
        unfold Entry.before at hrank
        omega
      · exact htaken
    · -- accepted only now or later, though its call began before
      right
      rw [trace_from (busStep isInstance) _ ops before later e hsplit] at hlater
      obtain hblocked | hnew := accepted_later isInstance e.before _ other hlater
      · exact hblocked
      · omega

end Runs

/-- A bus with room for one event: "two" waits for space, and the handler of "one" publishes
"three" before the waiting publisher runs on. -/
def overtaken : List (BusInput String Unit) :=
  [.subscribe () "listener", .publish "one" .normal, .publish "two" .normal, .take 0,
    .publishNowait "three" .normal, .publisherResumes 0, .handlerEnds 0 .returned, .take 0,
    .publisherResumes 0, .handlerEnds 0 .returned, .take 0]

theorem historySize_pos : 0 < 100 := by decide

def narrowConfig : EventBusConfig :=
  { queueSize := 1, queueSize_pos := Nat.one_pos, workerCount_pos := Nat.one_pos,
    failureHistorySize_pos := historySize_pos }

/-- Of two events of one priority the one whose call began last is dispatched first. -/
theorem later_call_dispatched_first :
    begun (busTrace (fun _ _ => true) narrowConfig overtaken) =
        [⟨20, 0, "one"⟩, ⟨20, 1, "two"⟩, ⟨20, 2, "three"⟩] ∧
      accepted (busTrace (fun _ _ => true) narrowConfig overtaken) =
        [⟨20, 0, "one"⟩, ⟨20, 2, "three"⟩, ⟨20, 1, "two"⟩] ∧
      (taken (busTrace (fun _ _ => true) narrowConfig overtaken)).map Prod.fst =
        [⟨20, 0, "one"⟩, ⟨20, 2, "three"⟩, ⟨20, 1, "two"⟩] := by
  refine ⟨?_, ?_, ?_⟩ <;> decide

end RoboticCharacter.Events
