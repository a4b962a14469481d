import RoboticCharacter.StateManager

/-! The state manager's snapshot against the events the bus accepted from it. -/
namespace RoboticCharacter.StateManagement
open Machine
open Safety (SystemState)

section Ledger
variable {τ : Type*} {κ : Component → Type*}

/-- The system transitions whose snapshot stands, in order: a transition adds itself when its
snapshot is set, a rollback takes the last one away. -/
def retain (path : List (SystemState × SystemState)) (e : ManagerEvent τ κ) :
    List (SystemState × SystemState) :=
  match e.input, e.output with
  | .acquire .., .returnedSystem _ | .acquire .., .suspended | .acquire .., .eventInvalid =>
    path ++ [(e.before.snapshot.system.state, e.after.snapshot.system.state)]
  | .resume _, .publicationRaised => path.dropLast
  | _, _ => path

def retained (past : List (ManagerEvent τ κ)) : List (SystemState × SystemState) :=
  past.foldl retain []

@[simp]
theorem retained_snoc (past : List (ManagerEvent τ κ)) (e : ManagerEvent τ κ) :
    retained (past ++ [e]) = retain (retained past) e := by
  rw [retained, List.foldl_append, List.foldl_cons, List.foldl_nil, retained]

def transitionPair (event : SystemStateChanged) : SystemState × SystemState :=
  (event.previousState, event.currentState)

/-- The pairs of the events the bus has accepted, in order. -/
def acceptedPairs (manager : StateManager τ κ) : List (SystemState × SystemState) :=
  manager.accepted.map (fun entry => transitionPair entry.2)

/-- The pair of the event that still waits for queue space. -/
def awaitedPairs (manager : StateManager τ κ) : List (SystemState × SystemState) :=
  (manager.pending.map (fun pending => transitionPair pending.event)).toList

/-- The bus has accepted the transitions that stand, but for the one it is being offered. -/
def EventsAgree (past : List (ManagerEvent τ κ)) (manager : StateManager τ κ) : Prop :=
  acceptedPairs manager ++ awaitedPairs manager = retained past

def EndsPublication (e : ManagerEvent τ κ) : Prop :=
  e.before.pending.isSome = true ∧ ∃ resumption, e.input = .resume resumption

/-- The publication was cancelled while it waited for queue space. -/
def CancelsPublication (e : ManagerEvent τ κ) : Prop :=
  e.before.pending.isSome = true ∧ e.input = .resume .cancelled

/-- The lock goes to a legal transition whose event cannot be built. -/
def LacksSource (e : ManagerEvent τ κ) : Prop :=
  e.before.pending = none ∧ ∃ index updatedAt capturedAt publication target reason,
    e.input = .acquire index updatedAt capturedAt publication ∧
    e.before.waiting[index]? = some (.transitionSystem target reason "") ∧
    canTransition e.before.snapshot.system.state target = true

def Returned (outcome : Outcome τ κ) : Prop :=
  (∃ updated, outcome = .returnedSystem updated) ∨ ∃ snapshot, outcome = .returnedState snapshot

/-- One call from the step that gave it the lock (or took it out of the queue) to the step
that ended it. -/
def CallSpan (past : List (ManagerEvent τ κ)) (start finish : ManagerEvent τ κ) : Prop :=
  (start = finish ∧ finish ∈ past ∧ finish.output ≠ .suspended ∧
    ((∃ index updatedAt capturedAt publication,
        finish.input = .acquire index updatedAt capturedAt publication) ∨
      ∃ index, finish.input = .cancelWaiting index)) ∨
  ∃ before mid later, past = before ++ start :: (mid ++ finish :: later) ∧
    start.output = .suspended ∧ (∀ x ∈ mid, ¬ EndsPublication x) ∧ EndsPublication finish

/-- A call that does not return normally leaves the snapshot as it found it. -/
def FailuresRestore (past : List (ManagerEvent τ κ)) : Prop :=
  ∀ start finish, CallSpan past start finish → ¬ Returned finish.output →
    finish.after.snapshot = start.before.snapshot

theorem retain_quiet (path : List (SystemState × SystemState)) (e : ManagerEvent τ κ)
    (hquiet : e.output.IsQuiet)
    (hresume : ∀ resumption, e.input = .resume resumption → e.output = .blocked) :
    retain path e = path := by
  obtain ⟨before, input, outcome, after⟩ := e
  cases input with
  | resume resumption =>
    rw [show outcome = .blocked from hresume resumption rfl]
    rfl
  | call _ => rfl
  | cancelWaiting _ => rfl
  | acquire _ _ _ _ => cases outcome <;> first | rfl | exact hquiet.elim

/-- One step keeps the ledger, unless it cancels the publication or cannot announce its
transition. -/
theorem eventsAgree_step (past : List (ManagerEvent τ κ)) (manager : StateManager τ κ)
    (input : ManagerInput τ κ) (h : EventsAgree past manager)
    (hkept : ¬ CancelsPublication ⟨manager, input, (managerStep manager input).2,
      (managerStep manager input).1⟩)
    (hsourced : ¬ LacksSource ⟨manager, input, (managerStep manager input).2,
      (managerStep manager input).1⟩) :
    EventsAgree (past ++ [⟨manager, input, (managerStep manager input).2,
      (managerStep manager input).1⟩]) (managerStep manager input).1 := by
  have hstepped := managerStep_stepped manager input
  generalize (managerStep manager input).1 = after, (managerStep manager input).2 = outcome
    at hstepped hkept hsourced ⊢
  rw [EventsAgree, retained_snoc]
  rw [EventsAgree] at h
  -- both lists are followed through each thing a step can do
  cases hstepped with
  | quiet input after outcome hsnapshot hpending haccepted hquiet hresume =>
    have hsame := retain_quiet (retained past) ⟨manager, input, outcome, after⟩ hquiet
      (fun resumption hinput => (hresume resumption hinput).2)
    rw [hsame, ← h, acceptedPairs, awaitedPairs, haccepted, hpending, acceptedPairs, awaitedPairs]
  | transitioned index updatedAt capturedAt publication waiting target reason source hfree =>
    simp only [acceptedPairs, awaitedPairs, hfree, retain, ← h, List.map_append, Option.map_none,
      Option.toList_none, List.append_nil, List.map_cons, List.map_nil, transitionPair]
    rfl
  | suspended index updatedAt capturedAt publication waiting target reason source hfree =>
    simp only [acceptedPairs, awaitedPairs, hfree, retain, ← h, Option.map_none,
      Option.toList_none, List.append_nil, Option.map_some, Option.toList_some, transitionPair]
    rfl
  | unannounced index updatedAt capturedAt publication waiting target reason hfree hcall hlegal =>
    exact absurd ⟨hfree, _, _, _, _, _, _, rfl, hcall, hlegal⟩ hsourced
  | replaced index updatedAt capturedAt publication waiting name value hfree =>
    simp only [acceptedPairs, awaitedPairs, retain, ← h, hfree]
  | published pending hpending =>
    simp only [acceptedPairs, awaitedPairs, hpending, retain, ← h, List.map_append,
      Option.map_none, Option.toList_none, List.append_nil, List.map_cons, List.map_nil,
      Option.map_some, Option.toList_some]
  | rolledBack pending hpending =>
    simp only [acceptedPairs, awaitedPairs, hpending, retain, ← h, Option.map_none,
      Option.toList_none, List.append_nil, Option.map_some, Option.toList_some,
      List.dropLast_concat]
  | cancelled pending hpending =>
    exact absurd ⟨by simp only [hpending, Option.isSome_some], rfl⟩ hkept

theorem eventsAgree_run (initial : StateSnapshot τ κ) (ops : List (ManagerInput τ κ))
    (hkept : ∀ e ∈ managerTrace initial ops, ¬ CancelsPublication e ∧ ¬ LacksSource e) :
    EventsAgree (managerTrace initial ops) (managerRun initial ops) := by
  have hrun : (∀ e ∈ managerTrace initial ops, ¬ CancelsPublication e ∧ ¬ LacksSource e) →
      EventsAgree (managerTrace initial ops) (managerRun initial ops) := by
    apply history_invariant managerStep (P := fun past manager =>
      (∀ e ∈ past, ¬ CancelsPublication e ∧ ¬ LacksSource e) → EventsAgree past manager)
    · exact fun _ => rfl
    · intro past manager input ih hall
      have hlast := hall _ (List.mem_append_right _ (List.mem_singleton_self _))
      apply eventsAgree_step
      · exact ih (fun e he => hall e (List.mem_append_left _ he))
      · exact hlast.1
      · exact hlast.2
  exact hrun hkept

/-- While a publication waits, nothing but its end touches it or the snapshot. -/
theorem pending_kept (manager : StateManager τ κ) (pending : PendingTransition τ κ)
    (hpending : manager.pending = some pending) (ops : List (ManagerInput τ κ))
    (mid later : List (ManagerEvent τ κ)) (e : ManagerEvent τ κ)
    (hsplit : trace managerStep manager ops = mid ++ e :: later)
    (hmid : ∀ x ∈ mid, ¬ EndsPublication x) :
    e.before.pending = some pending ∧ e.before.snapshot = manager.snapshot := by
  -- along the part of the record in between, of which no step ends the publication
  induction mid generalizing manager ops with
  | nil =>
    cases ops with
    | nil => simp only [trace_nil, List.nil_append, reduceCtorEq] at hsplit
    | cons input ops =>
      rw [trace_cons, List.nil_append] at hsplit
      rw [← (List.cons.inj hsplit).1]
      exact ⟨hpending, rfl⟩
  | cons x mid ih =>
    cases ops with
    | nil => simp only [trace_nil, List.cons_append, reduceCtorEq] at hsplit
    | cons input ops =>
      rw [trace_cons, List.cons_append] at hsplit
      obtain ⟨hfirst, hrest⟩ := List.cons.inj hsplit
      have hx := hmid x (List.mem_cons_self ..)
      have hsome : manager.pending.isSome = true := by rw [hpending]; rfl
      have hstepped := managerStep_stepped manager input
      rw [← hfirst] at hx
      generalize (managerStep manager input).1 = after,
        (managerStep manager input).2 = outcome at hstepped hx hrest
      have hunmoved : after.pending = some pending ∧ after.snapshot = manager.snapshot := by
        cases hstepped with
        | quiet input after outcome hsnapshot hsame => exact ⟨hsame.trans hpending, hsnapshot⟩
        | transitioned _ _ _ _ _ _ _ _ hfree => simp only [hpending, reduceCtorEq] at hfree
        | suspended _ _ _ _ _ _ _ _ hfree => simp only [hpending, reduceCtorEq] at hfree
        | unannounced _ _ _ _ _ _ _ hfree => simp only [hpending, reduceCtorEq] at hfree
        | replaced _ _ _ _ _ _ _ hfree => simp only [hpending, reduceCtorEq] at hfree
        | published => exact absurd ⟨hsome, _, rfl⟩ hx
        | rolledBack => exact absurd ⟨hsome, _, rfl⟩ hx
        | cancelled => exact absurd ⟨hsome, _, rfl⟩ hx
      have hlast := ih after hunmoved.1 ops hrest (fun y hy => hmid y (List.mem_cons_of_mem _ hy))
      exact ⟨hlast.1, hlast.2.trans hunmoved.2⟩

theorem suspended_pending (e : ManagerEvent τ κ)
    (hstepped : Stepped e.before e.input e.after e.output) (h : e.output = .suspended) :
    ∃ pending, e.after.pending = some pending ∧ pending.previousSnapshot = e.before.snapshot ∧
      e.after.snapshot.system.sequence = e.before.snapshot.system.sequence+1 := by
  obtain ⟨before, input, output, after⟩ := e
  dsimp only at h hstepped ⊢
  subst h
  cases hstepped with
  | quiet _ _ _ _ _ _ hquiet => exact hquiet.elim
  | suspended => exact ⟨_, rfl, rfl, rfl⟩

/-- A failure restores the snapshot, unless it is a cancelled publication or an event that
cannot be built. -/
theorem failuresRestore_run (initial : StateSnapshot τ κ) (ops : List (ManagerInput τ κ))
    (hkept : ∀ e ∈ managerTrace initial ops, ¬ CancelsPublication e ∧ ¬ LacksSource e) :
    FailuresRestore (managerTrace initial ops) := by
  intro start finish hspan hfailed
  rcases hspan with ⟨rfl, hmem, hunsuspended, hinput⟩ | hsuspended
  · -- one step, that failed before it was suspended
    have hstepped := managerEvent_stepped initial ops start hmem
    have hsourced := (hkept start hmem).2
    obtain ⟨before, input, output, after⟩ := start
    dsimp only at hstepped hunsuspended hinput hfailed ⊢
    cases hstepped with
    | quiet _ _ _ hsnapshot => exact hsnapshot
    | transitioned => exact absurd (.inl ⟨_, rfl⟩) hfailed
    | suspended => exact absurd rfl hunsuspended
    | unannounced _ _ _ _ _ _ _ hfree hcall hlegal =>
      exact absurd ⟨hfree, _, _, _, _, _, _, rfl, hcall, hlegal⟩ hsourced
    | replaced => exact absurd (.inr ⟨_, rfl⟩) hfailed
    | published => simp at hinput
    | rolledBack => simp at hinput
    | cancelled => simp at hinput
  · -- a publication that was suspended: its start and its end see the same pending transition
    obtain ⟨before, mid, later, hsplit, hstart, hmid, hend⟩ := hsuspended
    have hstartMem : start ∈ managerTrace initial ops := by rw [hsplit]; simp
    have hfinishMem : finish ∈ managerTrace initial ops := by rw [hsplit]; simp
    obtain ⟨pending, hpending, hprevious, _⟩ :=
      suspended_pending start (managerEvent_stepped initial ops start hstartMem) hstart
    have hrest := trace_rest managerStep _ ops before (mid ++ finish :: later) start hsplit
    obtain ⟨hlast, _⟩ := pending_kept start.after pending hpending _ mid later finish
      hrest.symm hmid
    have huncancelled := (hkept finish hfinishMem).1
    have hstepped := managerEvent_stepped initial ops finish hfinishMem
    rw [← hprevious]
    obtain ⟨before, input, output, after⟩ := finish
    dsimp only [EndsPublication, CancelsPublication] at *
    obtain ⟨hsome, resumption, rfl⟩ := hend
    cases hstepped with
    | quiet _ _ _ _ _ _ _ hresume => simp [(hresume resumption rfl).1] at hsome
    | published => exact absurd (.inl ⟨_, rfl⟩) hfailed
    | rolledBack held hheld =>
      rw [hlast] at hheld
      rw [Option.some.inj hheld]
    | cancelled => exact absurd ⟨hsome, rfl⟩ huncancelled

/-- A waiting publication was started by the last step that set the snapshot. -/
theorem pending_started (initial : StateSnapshot τ κ) (ops : List (ManagerInput τ κ))
    (h : (managerRun initial ops).pending.isSome = true) :
    ∃ before start mid, managerTrace initial ops = before ++ start :: mid ∧
      start.output = .suspended ∧ (∀ x ∈ mid, ¬ EndsPublication x) ∧
      (managerRun initial ops).snapshot.system.sequence =
        start.before.snapshot.system.sequence+1 := by
  revert h
  apply history_invariant managerStep (P := fun past manager =>
    manager.pending.isSome = true → ∃ before start mid, past = before ++ start :: mid ∧
      start.output = .suspended ∧ (∀ x ∈ mid, ¬ EndsPublication x) ∧
      manager.snapshot.system.sequence = start.before.snapshot.system.sequence+1)
  · exact nofun
  · intro past manager input ih h
    have hstepped := managerStep_stepped manager input
    generalize (managerStep manager input).1 = after,
      (managerStep manager input).2 = outcome at hstepped h ⊢
    cases hstepped with
    | quiet input after outcome hsnapshot hpending _ _ hresume =>
      rw [hpending] at h
      -- the publication still waits, so this step does not end it
      obtain ⟨before, start, mid, rfl, hstart, hmid, hsequence⟩ := ih h
      refine ⟨before, start, mid ++ [⟨manager, input, outcome, after⟩], by simp, hstart, ?_,
        by rw [hsnapshot, hsequence]⟩
      intro x hx
      rcases List.mem_append.mp hx with hx | hx
      · exact hmid x hx
      · rw [List.mem_singleton.mp hx]
        rintro ⟨_, resumption, hinput⟩
        simp [(hresume resumption hinput).1] at h
    | suspended index updatedAt capturedAt publication waiting target reason source hfree =>
      refine ⟨past, ⟨manager, _, _, _⟩, [], rfl, rfl, ?_, rfl⟩
      exact fun x hx => absurd hx List.not_mem_nil
    | transitioned => simp at h
    | unannounced => simp at h
    | replaced => simp at h
    | published => simp at h
    | rolledBack => simp at h
    | cancelled => simp at h

/-- A cancelled publication is a failure that does not restore. -/
theorem not_failuresRestore_of_cancelled (initial : StateSnapshot τ κ)
    (ops : List (ManagerInput τ κ)) (e : ManagerEvent τ κ) (he : e ∈ managerTrace initial ops)
    (hcancel : CancelsPublication e) : ¬ FailuresRestore (managerTrace initial ops) := by
  intro hrestore
  obtain ⟨past, later, hsplit⟩ := List.append_of_mem he
  obtain ⟨hpast, hbefore⟩ := trace_split managerStep _ ops past later e hsplit
  have hpending := hcancel.1
  rw [hbefore] at hpending
  obtain ⟨before, start, mid, hstarted, hstart, hmid, hsequence⟩ :=
    pending_started initial _ hpending
  have hspan : CallSpan (managerTrace initial ops) start e := by
    refine .inr ⟨before, mid, later, ?_, hstart, hmid, hcancel.1, _, hcancel.2⟩
    rw [hsplit, hpast]
    rw [managerTrace] at hstarted
    rw [hstarted, List.append_assoc, List.cons_append]
  have hstepped := managerEvent_stepped initial ops e he
  rw [managerRun, ← hbefore] at hsequence
  obtain ⟨held, input, output, after⟩ := e
  dsimp only [CancelsPublication] at hcancel hstepped hsequence
  obtain ⟨hsome, rfl⟩ := hcancel
  cases hstepped with
  | quiet _ _ _ _ _ _ _ hresume => simp [(hresume _ rfl).1] at hsome
  | cancelled pending hheld =>
    have hback := hrestore start _ hspan (by simp [Returned])
    dsimp only at hback
    rw [hback] at hsequence
    omega

/-- A transition without a source raises out of the call and keeps its snapshot. -/
theorem managerStep_lacksSource (manager : StateManager τ κ) (index : ℕ)
    (updatedAt capturedAt : τ) (publication : Publication) (target : SystemState)
    (reason : Option String) (hfree : manager.pending = none)
    (hcall : manager.waiting[index]? = some (.transitionSystem target reason ""))
    (hlegal : canTransition manager.snapshot.system.state target = true) :
    managerStep manager (.acquire index updatedAt capturedAt publication) =
      ({ manager with
          waiting := manager.waiting.eraseIdx index,
          snapshot := manager.snapshot.withSystem
            (manager.snapshot.system.next target reason updatedAt) capturedAt },
        .eventInvalid) := by
  have hvalid := (validateTransition_eq_ok_iff manager.snapshot.system.state target).mpr hlegal
  simp only [managerStep, hfree, hcall, StateManager.perform, StateManager.transitionSystem,
    hvalid, dif_pos]

theorem not_failuresRestore_of_lacksSource (initial : StateSnapshot τ κ)
    (ops : List (ManagerInput τ κ)) (e : ManagerEvent τ κ) (he : e ∈ managerTrace initial ops)
    (hlacks : LacksSource e) : ¬ FailuresRestore (managerTrace initial ops) := by
  intro hrestore
  obtain ⟨hfree, index, updatedAt, capturedAt, publication, target, reason, hinput, hcall,
    hlegal⟩ := hlacks
  have hstep := trace_step managerStep _ ops e he
  rw [hinput, managerStep_lacksSource _ index updatedAt capturedAt publication target reason hfree
    hcall hlegal] at hstep
  obtain ⟨hafter, houtput⟩ := Prod.mk.inj hstep
  have hspan : CallSpan (managerTrace initial ops) e e := by
    refine .inl ⟨rfl, he, ?_, .inl ⟨_, _, _, _, hinput⟩⟩
    rw [← houtput]
    exact nofun
  have hback := hrestore e e hspan (by simp [Returned, ← houtput])
  -- the sequence number has moved on
  have hsequence := congrArg (fun snapshot => snapshot.system.sequence) hback
  rw [← hafter] at hsequence
  exact absurd hsequence (Nat.succ_ne_self _)

/-- Snapshot and events agree, and every failure is undone, in exactly the runs in which
no publication is cancelled while it waits for queue space and no legal transition is asked
for with an empty source. -/
theorem state_events_agree_iff (initial : StateSnapshot τ κ) (ops : List (ManagerInput τ κ)) :
    (EventsAgree (managerTrace initial ops) (managerRun initial ops) ∧
      FailuresRestore (managerTrace initial ops)) ↔
      ∀ e ∈ managerTrace initial ops, ¬ CancelsPublication e ∧ ¬ LacksSource e := by
  constructor
  · rintro ⟨_, hrestore⟩ e he
    refine ⟨fun hcancel => ?_, fun hlacks => ?_⟩
    · exact not_failuresRestore_of_cancelled initial ops e he hcancel hrestore
    · exact not_failuresRestore_of_lacksSource initial ops e he hlacks hrestore
  · intro hkept
    exact ⟨eventsAgree_run initial ops hkept, failuresRestore_run initial ops hkept⟩

end Ledger

def bootWithoutComponents : StateSnapshot Unit (fun _ => Unit) := .boot () () (fun _ => ())

/-- The self-test transition is cancelled while its event waits for queue space. -/
def cancelledPublication : List (ManagerInput Unit (fun _ => Unit)) :=
  [.call (.transitionSystem .selfTest (some "startup") "state-manager"), .acquire 0 () () .suspends,
    .resume .cancelled]

theorem state_events_disagree :
    (managerRun bootWithoutComponents cancelledPublication).snapshot.system.state = .selfTest ∧
      acceptedPairs (managerRun bootWithoutComponents cancelledPublication) = [] ∧
      retained (managerTrace bootWithoutComponents cancelledPublication) = [(.boot, .selfTest)] ∧
      ¬ EventsAgree (managerTrace bootWithoutComponents cancelledPublication)
        (managerRun bootWithoutComponents cancelledPublication) ∧
      ¬ FailuresRestore (managerTrace bootWithoutComponents cancelledPublication) := by
  refine ⟨rfl, rfl, rfl, ?_, ?_⟩
  · intro hagree
    have hlength := congrArg List.length hagree
    exact absurd hlength (by decide)
  · refine not_failuresRestore_of_cancelled _ _ _ (List.mem_of_getElem? (i := 2) rfl) ⟨rfl, rfl⟩

end RoboticCharacter.StateManagement
