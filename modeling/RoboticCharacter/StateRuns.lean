import RoboticCharacter.StateEvents

/-! What holds of the authoritative state all along a run from boot, whatever the order in
which the lock is granted and the publications end. -/
namespace RoboticCharacter.StateManagement
open Machine
open Safety (SystemState)

section Runs
variable {τ : Type*} {κ : Component → Type*}

/-- The committed system states, from the boot state on: those that stood in the snapshot
and were not put back. -/
def systemPath (past : List (ManagerEvent τ κ)) : List SystemState :=
  .boot :: (retained past).map Prod.snd

/-- The step that set an operation's snapshot. The operation is committed by it whatever
becomes of the call, which may still be cancelled or find its event invalid: only a
publication that raises puts the snapshot back. -/
def commits (e : ManagerEvent τ κ) : Bool :=
  match e.input, e.output with
  | .acquire .., .returnedSystem _ | .acquire .., .suspended | .acquire .., .eventInvalid
  | .acquire .., .returnedState _ => true
  | _, _ => false

/-- What the call may have changed besides `revision` and `capturedAt`. -/
def OwnComponentOnly (before after : StateSnapshot τ κ) : Call κ → Prop
  | .transitionSystem .. => after.component = before.component
  | .replaceComponent name _ =>
    after.system = before.system ∧ ∀ other, other ≠ name →
      after.component other = before.component other

structure WholeRun (past : List (ManagerEvent τ κ)) (seen : List (StateManager τ κ))
    (manager : StateManager τ κ) : Prop where
  path_legal : LegalPath (systemPath past)
  path_current : (systemPath past).getLast? = some manager.snapshot.system.state
  shutdown_final : ∀ before after, systemPath past = before ++ .shutdown :: after → after = []
  execution_recovered : ∀ before mid after stop,
    systemPath past = before ++ stop :: (mid ++ .executing :: after) →
    stop = .estop ∨ stop = .fault →
    ([.selfTest, .idle, .armed] : List SystemState).Sublist mid
  sequence : manager.snapshot.system.sequence = (retained past).length
  revision : manager.snapshot.revision = (past.filter commits).length
  observable : ∀ t ∈ seen, ∀ u ∈ seen,
    t.snapshot.revision = u.snapshot.revision → t.snapshot = u.snapshot
  own_component : ∀ e ∈ past, ∀ index updatedAt capturedAt publication call,
    e.input = .acquire index updatedAt capturedAt publication →
    e.before.waiting[index]? = some call →
    OwnComponentOnly e.before.snapshot e.after.snapshot call
  other_steps : ∀ e ∈ past,
    (∀ index updatedAt capturedAt publication,
      e.input ≠ .acquire index updatedAt capturedAt publication) →
    e.after.snapshot = e.before.snapshot

/-- The counters and the path, as one step keeps them. -/
structure Counted (past : List (ManagerEvent τ κ)) (manager : StateManager τ κ) : Prop where
  path_legal : LegalPath (systemPath past)
  path_current : (systemPath past).getLast? = some manager.snapshot.system.state
  sequence : manager.snapshot.system.sequence = (retained past).length
  revision : manager.snapshot.revision = (past.filter commits).length

theorem LegalPath.snoc {path : List SystemState} {current target : SystemState}
    (h : LegalPath path) (hlast : path.getLast? = some current)
    (hlegal : canTransition current target = true) : LegalPath (path ++ [target]) := by
  apply List.IsChain.append h (List.isChain_singleton target)
  intro x hx y hy
  rw [hlast] at hx
  simp only [Option.mem_def, Option.some.injEq, List.head?_cons] at hx hy
  rwa [← hx, ← hy]

theorem commits_quiet (e : ManagerEvent τ κ) (hquiet : e.output.IsQuiet) : commits e = false := by
  obtain ⟨before, input, outcome, after⟩ := e
  cases input with
  | resume _ => rfl
  | call _ => rfl
  | cancelWaiting _ => rfl
  | acquire _ _ _ _ => cases outcome <;> first | rfl | exact hquiet.elim

/-- A step that commits nothing and leaves the snapshot alone. -/
theorem Counted.kept {past : List (ManagerEvent τ κ)} {manager after : StateManager τ κ}
    (h : Counted past manager) (e : ManagerEvent τ κ)
    (hsnapshot : after.snapshot = manager.snapshot)
    (hretain : retain (retained past) e = retained past) (hcommits : commits e = false) :
    Counted (past ++ [e]) after := by
  have hpath : systemPath (past ++ [e]) = systemPath past := by
    rw [systemPath, retained_snoc, hretain, systemPath]
  refine ⟨?_, ?_, ?_, ?_⟩
  · rw [hpath]
    exact h.path_legal
  · rw [hpath, hsnapshot]
    exact h.path_current
  · rw [hsnapshot, retained_snoc, hretain]
    exact h.sequence
  · rw [hsnapshot, List.filter_append, List.filter_singleton, hcommits]
    simpa using h.revision

/-- A step that commits a legal transition. -/
theorem Counted.moved {past : List (ManagerEvent τ κ)} {manager after : StateManager τ κ}
    (h : Counted past manager) (e : ManagerEvent τ κ) (target : SystemState)
    (reason : Option String) (updatedAt capturedAt : τ)
    (hsnapshot : after.snapshot = manager.snapshot.withSystem
      (manager.snapshot.system.next target reason updatedAt) capturedAt)
    (hlegal : canTransition manager.snapshot.system.state target = true)
    (hretain : retain (retained past) e =
      retained past ++ [(manager.snapshot.system.state, target)])
    (hcommits : commits e = true) : Counted (past ++ [e]) after := by
  have hpath : systemPath (past ++ [e]) = systemPath past ++ [target] := by
    rw [systemPath, retained_snoc, hretain, List.map_append, systemPath, List.cons_append]
    rfl
  refine ⟨?_, ?_, ?_, ?_⟩
  · rw [hpath]
    exact h.path_legal.snoc h.path_current hlegal
  · rw [hpath, hsnapshot, List.getLast?_concat]
    rfl
  · rw [hsnapshot, retained_snoc, hretain, List.length_append, ← h.sequence]
    rfl
  · rw [hsnapshot, List.filter_append, List.filter_singleton, hcommits, List.length_append,
      ← h.revision]
    rfl

theorem Counted.step {past : List (ManagerEvent τ κ)} {manager : StateManager τ κ}
    (h : Counted past manager) (input : ManagerInput τ κ) (hcalm : input ≠ .resume .raised) :
    Counted (past ++ [⟨manager, input, (managerStep manager input).2,
      (managerStep manager input).1⟩]) (managerStep manager input).1 := by
  have hstepped := managerStep_stepped manager input
  generalize (managerStep manager input).1 = after, (managerStep manager input).2 = outcome
    at hstepped ⊢
  cases hstepped with
  | quiet input after outcome hsnapshot _ _ hquiet hresume =>
    exact h.kept _ hsnapshot
      (retain_quiet _ _ hquiet (fun resumption hinput => (hresume resumption hinput).2))
      (commits_quiet _ hquiet)
  | transitioned index updatedAt capturedAt publication waiting target reason source _ _ hlegal =>
    exact h.moved _ target reason updatedAt capturedAt rfl hlegal rfl rfl
  | suspended index updatedAt capturedAt publication waiting target reason source _ _ hlegal =>
    exact h.moved _ target reason updatedAt capturedAt rfl hlegal rfl rfl
  | unannounced index updatedAt capturedAt publication waiting target reason _ _ hlegal =>
    exact h.moved _ target reason updatedAt capturedAt rfl hlegal rfl rfl
  | replaced index updatedAt capturedAt publication waiting name value =>
    refine ⟨?_, ?_, ?_, ?_⟩
    · rw [systemPath, retained_snoc]
      exact h.path_legal
    · rw [systemPath, retained_snoc]
      exact h.path_current
    · rw [retained_snoc]
      exact h.sequence
    · rw [List.filter_append, List.length_append, ← h.revision]
      rfl
  | published pending hpending => exact h.kept _ rfl rfl rfl
  | rolledBack => exact absurd rfl hcalm
  | cancelled pending hpending => exact h.kept _ rfl rfl rfl

theorem counted_run (capturedAt updatedAt : τ) (component : (name : Component) → κ name)
    (ops : List (ManagerInput τ κ)) (hcalm : ∀ op ∈ ops, op ≠ .resume .raised) :
    Counted (managerTrace (.boot capturedAt updatedAt component) ops)
      (managerRun (.boot capturedAt updatedAt component) ops) := by
  induction ops using List.reverseRecOn with
  | nil => exact ⟨List.isChain_singleton _, rfl, rfl, rfl⟩
  | append_singleton ops op ih =>
    have hcounted := ih (fun op hop => hcalm op (List.mem_append_left _ hop))
    rw [managerTrace, managerRun, trace_append, run_append]
    exact hcounted.step op (hcalm op (List.mem_append_right _ (List.mem_singleton_self op)))

theorem managerStep_view (manager : StateManager τ κ) (input : ManagerInput τ κ)
    (hcalm : input ≠ .resume .raised) :
    (managerStep manager input).1.snapshot = manager.snapshot ∨
      (managerStep manager input).1.snapshot.revision = manager.snapshot.revision+1 := by
  have hstepped := managerStep_stepped manager input
  generalize (managerStep manager input).1 = after, (managerStep manager input).2 = outcome
    at hstepped ⊢
  cases hstepped with
  | quiet _ _ _ hsnapshot => exact .inl hsnapshot
  | transitioned => exact .inr rfl
  | suspended => exact .inr rfl
  | unannounced => exact .inr rfl
  | replaced => exact .inr rfl
  | published => exact .inl rfl
  | rolledBack => exact absurd rfl hcalm
  | cancelled => exact .inl rfl

theorem stepped_ownComponent {e : ManagerEvent τ κ}
    (hstepped : Stepped e.before e.input e.after e.output) {index : ℕ} {updatedAt capturedAt : τ}
    {publication : Publication} {call : Call κ}
    (hinput : e.input = .acquire index updatedAt capturedAt publication)
    (hcall : e.before.waiting[index]? = some call) :
    OwnComponentOnly e.before.snapshot e.after.snapshot call := by
  obtain ⟨before, input, outcome, after⟩ := e
  dsimp only at hstepped hinput hcall ⊢
  subst hinput
  cases hstepped with
  | quiet _ _ _ hsnapshot =>
    rw [hsnapshot]
    cases call with
    | transitionSystem _ _ _ => rfl
    | replaceComponent _ _ => exact ⟨rfl, fun _ _ => rfl⟩
  | transitioned _ _ _ _ _ _ _ _ _ hgranted =>
    rw [hcall] at hgranted
    rw [Option.some.inj hgranted]
    rfl
  | suspended _ _ _ _ _ _ _ _ _ hgranted =>
    rw [hcall] at hgranted
    rw [Option.some.inj hgranted]
    rfl
  | unannounced _ _ _ _ _ _ _ _ hgranted =>
    rw [hcall] at hgranted
    rw [Option.some.inj hgranted]
    rfl
  | replaced _ _ _ _ _ name value _ hgranted =>
    rw [hcall] at hgranted
    rw [Option.some.inj hgranted]
    exact ⟨rfl, fun other hother => Function.update_of_ne hother value _⟩

theorem stepped_otherSteps {e : ManagerEvent τ κ}
    (hstepped : Stepped e.before e.input e.after e.output) (hcalm : e.input ≠ .resume .raised)
    (hinput : ∀ index updatedAt capturedAt publication,
      e.input ≠ .acquire index updatedAt capturedAt publication) :
    e.after.snapshot = e.before.snapshot := by
  obtain ⟨before, input, outcome, after⟩ := e
  dsimp only at hstepped hinput hcalm ⊢
  cases hstepped with
  | quiet _ _ _ hsnapshot => exact hsnapshot
  | transitioned => exact absurd rfl (hinput _ _ _ _)
  | suspended => exact absurd rfl (hinput _ _ _ _)
  | unannounced => exact absurd rfl (hinput _ _ _ _)
  | replaced => exact absurd rfl (hinput _ _ _ _)
  | published => rfl
  | rolledBack => exact absurd rfl hcalm
  | cancelled => rfl

/-- What the authoritative state keeps over every run from boot in which a publication
raises, if at all, before it suspends. -/
theorem state_whole_run (capturedAt updatedAt : τ) (component : (name : Component) → κ name)
    (ops : List (ManagerInput τ κ)) (hcalm : ∀ op ∈ ops, op ≠ .resume .raised) :
    WholeRun (managerTrace (.boot capturedAt updatedAt component) ops)
      (states managerStep { snapshot := .boot capturedAt updatedAt component } ops)
      (managerRun (.boot capturedAt updatedAt component) ops) := by
  have hcounted := counted_run capturedAt updatedAt component ops hcalm
  have hlegal := hcounted.path_legal
  refine ⟨hlegal, hcounted.path_current, ?_, ?_, hcounted.sequence, hcounted.revision, ?_, ?_, ?_⟩
  · intro before after hsplit
    cases after with
    | nil => rfl
    | cons next after =>
      rw [hsplit, LegalPath, List.isChain_append_cons_cons] at hlegal
      exact absurd hlegal.2.1 (by rw [shutdown_final]; exact Bool.false_ne_true)
  · intro before mid after stop hsplit hstop
    exact execution_recovered _ before mid after stop hlegal hsplit hstop
  · exact states_version_inj_allowed managerStep StateManager.snapshot StateSnapshot.revision
      (fun op => op ≠ .resume .raised) managerStep_view _ ops hcalm
  · intro e he index updatedAt capturedAt publication call hinput hcall
    exact stepped_ownComponent (managerEvent_stepped _ ops e he) hinput hcall
  · intro e he hinput
    apply stepped_otherSteps (managerEvent_stepped _ ops e he) _ hinput
    apply hcalm
    rw [← trace_inputs managerStep _ ops]
    exact List.mem_map_of_mem he

end Runs

/-- A transition, an update behind it in the queue, a publication that waits, and a
transition whose event is invalid. -/
def startedRun : List (ManagerInput Unit (fun _ => Unit)) :=
  [.call (.transitionSystem .selfTest none "state-manager"), .call (updateRobot ()),
    .call (.transitionSystem .calibrating none ""), .acquire 0 () () .suspends, .resume .accepted,
    .acquire 0 () () .raises, .acquire 0 () () .accepts]

theorem state_whole_run_started :
    (managerRun bootWithoutComponents startedRun).snapshot.revision = 3 ∧
      WholeRun (managerTrace bootWithoutComponents startedRun)
        (states managerStep { snapshot := bootWithoutComponents } startedRun)
        (managerRun bootWithoutComponents startedRun) := by
  refine ⟨rfl, state_whole_run () () (fun _ => ()) startedRun ?_⟩
  simp [startedRun]

end RoboticCharacter.StateManagement
