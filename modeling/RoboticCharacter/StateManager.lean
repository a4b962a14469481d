import RoboticCharacter.EventBus
import RoboticCharacter.StateTransitions

/-! The authoritative state manager: one snapshot behind a lock, changed before its event is
published and put back when the publication raises. -/
namespace RoboticCharacter.StateManagement
open Machine
open Safety (SystemState)
open Events (EventPriority)

/-- `Event.source` has `min_length=1`. -/
structure SystemStateChanged where
  source : String
  previousState : SystemState
  currentState : SystemState
  reason : Option String
  source_length : source ≠ ""
  deriving DecidableEq, Repr

/-- The components that are replaced whole, each of its own type. -/
inductive Component
  | robot
  | gesture
  | voice
  | character
  | safety
  deriving DecidableEq, Repr

structure SystemSnapshot (τ : Type*) where
  state : SystemState := .boot
  sequence : ℕ := 0
  reason : Option String := none
  updatedAt : τ

structure StateSnapshot (τ : Type*) (κ : Component → Type*) where
  revision : ℕ := 0
  capturedAt : τ
  system : SystemSnapshot τ
  component : (name : Component) → κ name

/-- `StateSnapshot()`: the system in its boot state, at sequence and revision zero. -/
def StateSnapshot.boot {τ : Type*} {κ : Component → Type*} (capturedAt updatedAt : τ)
    (component : (name : Component) → κ name) : StateSnapshot τ κ :=
  { capturedAt, system := { updatedAt }, component }

def SystemSnapshot.next {τ : Type*} (current : SystemSnapshot τ) (target : SystemState)
    (reason : Option String) (updatedAt : τ) : SystemSnapshot τ :=
  { state := target, sequence := current.sequence+1, reason, updatedAt }

def StateSnapshot.withSystem {τ : Type*} {κ : Component → Type*} (previous : StateSnapshot τ κ)
    (updated : SystemSnapshot τ) (capturedAt : τ) : StateSnapshot τ κ :=
  { previous with system := updated, revision := previous.revision+1, capturedAt }

def StateSnapshot.withComponent {τ : Type*} {κ : Component → Type*} (current : StateSnapshot τ κ)
    (name : Component) (value : κ name) (capturedAt : τ) : StateSnapshot τ κ :=
  { current with
    component := Function.update current.component name value,
    revision := current.revision+1, capturedAt }

def transitionPriority (target : SystemState) : EventPriority :=
  if target = .fault ∨ target = .estop then .critical else .high

/-- A transition that holds the lock while its publication waits for queue space. -/
structure PendingTransition (τ : Type*) (κ : Component → Type*) where
  previousSnapshot : StateSnapshot τ κ
  updated : SystemSnapshot τ
  priority : EventPriority
  event : SystemStateChanged

inductive Call (κ : Component → Type*)
  | transitionSystem (target : SystemState) (reason : Option String) (source : String)
  | replaceComponent (name : Component) (value : κ name)

section Calls
variable {κ : Component → Type*}

def updateRobot (value : κ .robot) : Call κ := .replaceComponent .robot value
def updateGesture (value : κ .gesture) : Call κ := .replaceComponent .gesture value
def updateVoice (value : κ .voice) : Call κ := .replaceComponent .voice value
def updateCharacter (value : κ .character) : Call κ := .replaceComponent .character value
def updateSafety (value : κ .safety) : Call κ := .replaceComponent .safety value

end Calls

/-- What `EventBus.publish` does before it first suspends. -/
inductive Publication
  | raises
  | accepts
  | suspends
  deriving DecidableEq, Repr

/-- How a suspended `EventBus.publish` ends. -/
inductive Resumption
  | accepted
  | raised
  | cancelled
  deriving DecidableEq, Repr

inductive Outcome (τ : Type*) (κ : Component → Type*)
  | waiting
  | blocked
  | illegal (message : String)
  | eventInvalid
  | publicationRaised
  | publicationCancelled
  | lockCancelled
  | suspended
  | returnedSystem (updated : SystemSnapshot τ)
  | returnedState (snapshot : StateSnapshot τ κ)

/-- The manager, the tasks that wait for its lock, the one that holds it across its
publication, and the events the bus has accepted from it. -/
structure StateManager (τ : Type*) (κ : Component → Type*) where
  snapshot : StateSnapshot τ κ
  waiting : List (Call κ) := []
  pending : Option (PendingTransition τ κ) := none
  accepted : List (EventPriority × SystemStateChanged) := []

namespace StateManager
variable {τ : Type*} {κ : Component → Type*}

/-- The body of `transition_system` under the lock, up to its end or its first suspension.
`updatedAt` and `capturedAt` are the two readings of the clock. -/
def transitionSystem (manager : StateManager τ κ) (target : SystemState) (reason : Option String)
    (source : String) (updatedAt capturedAt : τ) (publication : Publication) :
    StateManager τ κ × Outcome τ κ :=
  let previousSnapshot := manager.snapshot
  let current := previousSnapshot.system
  match validateTransition current.state target with
  | .error message => (manager, .illegal message)
  | .ok () =>
    let updated := current.next target reason updatedAt
    let changed := previousSnapshot.withSystem updated capturedAt
    let priority := transitionPriority target
    -- the event is built before the `try`: its ValidationError leaves the new snapshot
    if hsource : source = "" then ({ manager with snapshot := changed }, .eventInvalid)
    else
      let event : SystemStateChanged :=
        { source, previousState := current.state, currentState := target, reason,
          source_length := hsource }
      match publication with
      -- `except Exception` puts the previous snapshot back
      | .raises => ({ manager with snapshot := previousSnapshot }, .publicationRaised)
      | .accepts =>
        ({ manager with
            snapshot := changed, accepted := manager.accepted ++ [(priority, event)] },
          .returnedSystem updated)
      | .suspends =>
        ({ manager with
            snapshot := changed, pending := some ⟨previousSnapshot, updated, priority, event⟩ },
          .suspended)

/-- The rest of `transition_system`: `except Exception` sees a raise and no cancellation. -/
def resumeTransition (manager : StateManager τ κ) (pending : PendingTransition τ κ) :
    Resumption → StateManager τ κ × Outcome τ κ
  | .accepted =>
    ({ manager with
        pending := none,
        accepted := manager.accepted ++ [(pending.priority, pending.event)] },
      .returnedSystem pending.updated)
  | .raised =>
    ({ manager with snapshot := pending.previousSnapshot, pending := none }, .publicationRaised)
  | .cancelled => ({ manager with pending := none }, .publicationCancelled)

def replaceComponent (manager : StateManager τ κ) (name : Component) (value : κ name)
    (capturedAt : τ) : StateManager τ κ × Outcome τ κ :=
  let replaced := manager.snapshot.withComponent name value capturedAt
  ({ manager with snapshot := replaced }, .returnedState replaced)

def perform (manager : StateManager τ κ) (updatedAt capturedAt : τ) (publication : Publication) :
    Call κ → StateManager τ κ × Outcome τ κ
  | .transitionSystem target reason source =>
    manager.transitionSystem target reason source updatedAt capturedAt publication
  | .replaceComponent name value => manager.replaceComponent name value capturedAt

end StateManager

/-- One scheduling step. A call queues for the lock; the lock goes to any waiting task while
no transition holds it; a suspended publication ends; a waiting task is cancelled. -/
inductive ManagerInput (τ : Type*) (κ : Component → Type*)
  | call (call : Call κ)
  | acquire (index : ℕ) (updatedAt capturedAt : τ) (publication : Publication)
  | resume (resumption : Resumption)
  | cancelWaiting (index : ℕ)

section Steps
variable {τ : Type*} {κ : Component → Type*}

def managerStep (manager : StateManager τ κ) :
    ManagerInput τ κ → StateManager τ κ × Outcome τ κ
  | .call call => ({ manager with waiting := manager.waiting ++ [call] }, .waiting)
  | .acquire index updatedAt capturedAt publication =>
    match manager.pending, manager.waiting[index]? with
    | none, some call =>
      StateManager.perform { manager with waiting := manager.waiting.eraseIdx index }
        updatedAt capturedAt publication call
    | _, _ => (manager, .blocked)
  | .resume resumption =>
    match manager.pending with
    | none => (manager, .blocked)
    | some pending => manager.resumeTransition pending resumption
  | .cancelWaiting index =>
    match manager.waiting[index]? with
    | none => (manager, .blocked)
    | some _ => ({ manager with waiting := manager.waiting.eraseIdx index }, .lockCancelled)

abbrev ManagerEvent (τ : Type*) (κ : Component → Type*) :=
  Event (StateManager τ κ) (ManagerInput τ κ) (Outcome τ κ)

def managerRun (initial : StateSnapshot τ κ) (ops : List (ManagerInput τ κ)) : StateManager τ κ :=
  run managerStep { snapshot := initial } ops

def managerTrace (initial : StateSnapshot τ κ) (ops : List (ManagerInput τ κ)) :
    List (ManagerEvent τ κ) :=
  trace managerStep { snapshot := initial } ops

end Steps

/-- Outcomes of steps that leave the snapshot, the publication and the events alone. -/
def Outcome.IsQuiet {τ : Type*} {κ : Component → Type*} : Outcome τ κ → Prop
  | .waiting | .blocked | .illegal _ | .publicationRaised | .lockCancelled => True
  | .eventInvalid | .publicationCancelled | .suspended | .returnedSystem _
  | .returnedState _ => False

section Inversion
variable {τ : Type*} {κ : Component → Type*}

/-- Everything one scheduling step can do. -/
inductive Stepped (manager : StateManager τ κ) :
    ManagerInput τ κ → StateManager τ κ → Outcome τ κ → Prop
  | quiet (input : ManagerInput τ κ) (after : StateManager τ κ) (outcome : Outcome τ κ)
      (hsnapshot : after.snapshot = manager.snapshot) (hpending : after.pending = manager.pending)
      (haccepted : after.accepted = manager.accepted) (hquiet : outcome.IsQuiet)
      (hresume : ∀ resumption, input = .resume resumption →
        manager.pending = none ∧ outcome = .blocked) :
      Stepped manager input after outcome
  | transitioned (index : ℕ) (updatedAt capturedAt : τ) (publication : Publication)
      (waiting : List (Call κ)) (target : SystemState) (reason : Option String) (source : String)
      (hfree : manager.pending = none)
      (hcall : manager.waiting[index]? = some (.transitionSystem target reason source))
      (hlegal : canTransition manager.snapshot.system.state target = true)
      (hsource : source ≠ "") :
      Stepped manager (.acquire index updatedAt capturedAt publication)
        { snapshot := manager.snapshot.withSystem
            (manager.snapshot.system.next target reason updatedAt) capturedAt,
          waiting, pending := none,
          accepted := manager.accepted ++ [(transitionPriority target,
            ⟨source, manager.snapshot.system.state, target, reason, hsource⟩)] }
        (.returnedSystem (manager.snapshot.system.next target reason updatedAt))
  | suspended (index : ℕ) (updatedAt capturedAt : τ) (publication : Publication)
      (waiting : List (Call κ)) (target : SystemState) (reason : Option String) (source : String)
      (hfree : manager.pending = none)
      (hcall : manager.waiting[index]? = some (.transitionSystem target reason source))
      (hlegal : canTransition manager.snapshot.system.state target = true)
      (hsource : source ≠ "") :
      Stepped manager (.acquire index updatedAt capturedAt publication)
        { snapshot := manager.snapshot.withSystem
            (manager.snapshot.system.next target reason updatedAt) capturedAt,
          waiting,
          pending := some ⟨manager.snapshot, manager.snapshot.system.next target reason updatedAt,
            transitionPriority target,
            ⟨source, manager.snapshot.system.state, target, reason, hsource⟩⟩,
          accepted := manager.accepted }
        .suspended
  | unannounced (index : ℕ) (updatedAt capturedAt : τ) (publication : Publication)
      (waiting : List (Call κ)) (target : SystemState) (reason : Option String)
      (hfree : manager.pending = none)
      (hcall : manager.waiting[index]? = some (.transitionSystem target reason ""))
      (hlegal : canTransition manager.snapshot.system.state target = true) :
      Stepped manager (.acquire index updatedAt capturedAt publication)
        { snapshot := manager.snapshot.withSystem
            (manager.snapshot.system.next target reason updatedAt) capturedAt,
          waiting, pending := none, accepted := manager.accepted }
        .eventInvalid
  | replaced (index : ℕ) (updatedAt capturedAt : τ) (publication : Publication)
      (waiting : List (Call κ)) (name : Component) (value : κ name)
      (hfree : manager.pending = none)
      (hcall : manager.waiting[index]? = some (.replaceComponent name value)) :
      Stepped manager (.acquire index updatedAt capturedAt publication)
        { snapshot := manager.snapshot.withComponent name value capturedAt,
          waiting, pending := none, accepted := manager.accepted }
        (.returnedState (manager.snapshot.withComponent name value capturedAt))
  | published (pending : PendingTransition τ κ) (hpending : manager.pending = some pending) :
      Stepped manager (.resume .accepted)
        { manager with
          pending := none, accepted := manager.accepted ++ [(pending.priority, pending.event)] }
        (.returnedSystem pending.updated)
  | rolledBack (pending : PendingTransition τ κ) (hpending : manager.pending = some pending) :
      Stepped manager (.resume .raised)
        { manager with snapshot := pending.previousSnapshot, pending := none } .publicationRaised
  | cancelled (pending : PendingTransition τ κ) (hpending : manager.pending = some pending) :
      Stepped manager (.resume .cancelled) { manager with pending := none } .publicationCancelled

theorem acquire_stepped (manager : StateManager τ κ) (index : ℕ) (updatedAt capturedAt : τ)
    (publication : Publication) (call : Call κ) (hfree : manager.pending = none)
    (hcall : manager.waiting[index]? = some call) :
    Stepped manager (.acquire index updatedAt capturedAt publication)
      (StateManager.perform { manager with waiting := manager.waiting.eraseIdx index }
        updatedAt capturedAt publication call).1
      (StateManager.perform { manager with waiting := manager.waiting.eraseIdx index }
        updatedAt capturedAt publication call).2 := by
  obtain ⟨snapshot, waiting, pending, accepted⟩ := manager
  dsimp only at hfree hcall
  subst hfree
  cases call with
  | replaceComponent name value => exact .replaced _ _ _ _ _ _ _ rfl hcall
  | transitionSystem target reason source =>
    dsimp only [StateManager.perform, StateManager.transitionSystem]
    cases hvalid : validateTransition snapshot.system.state target with
    | error message => exact .quiet _ _ _ rfl rfl rfl trivial nofun
    | ok _ =>
      have hlegal := (validateTransition_eq_ok_iff _ _).mp hvalid
      by_cases hsource : source = ""
      · subst hsource
        exact .unannounced _ _ _ _ _ _ _ rfl hcall hlegal
      · dsimp only
        rw [dif_neg hsource]
        cases publication with
        | raises => exact .quiet _ _ _ rfl rfl rfl trivial nofun
        | accepts => exact .transitioned _ _ _ _ _ _ _ _ rfl hcall hlegal hsource
        | suspends => exact .suspended _ _ _ _ _ _ _ _ rfl hcall hlegal hsource

theorem managerStep_stepped (manager : StateManager τ κ) (input : ManagerInput τ κ) :
    Stepped manager input (managerStep manager input).1 (managerStep manager input).2 := by
  cases input with
  | call call => exact .quiet _ _ _ rfl rfl rfl trivial nofun
  | cancelWaiting index =>
    dsimp only [managerStep]
    cases manager.waiting[index]? with
    | none => exact .quiet _ _ _ rfl rfl rfl trivial nofun
    | some call => exact .quiet _ _ _ rfl rfl rfl trivial nofun
  | resume resumption =>
    dsimp only [managerStep]
    cases hpending : manager.pending with
    | none => exact .quiet _ _ _ rfl rfl rfl trivial (fun _ _ => ⟨hpending, rfl⟩)
    | some pending =>
      cases resumption with
      | accepted => exact .published pending hpending
      | raised => exact .rolledBack pending hpending
      | cancelled => exact .cancelled pending hpending
  | acquire index updatedAt capturedAt publication =>
    dsimp only [managerStep]
    cases hpending : manager.pending with
    | some pending => exact .quiet _ _ _ rfl rfl rfl trivial nofun
    | none =>
      cases hcall : manager.waiting[index]? with
      | none => exact .quiet _ _ _ rfl rfl rfl trivial nofun
      | some call =>
        have hstepped :=
          acquire_stepped manager index updatedAt capturedAt publication call hpending hcall
        rwa [hpending] at hstepped

theorem managerEvent_stepped (initial : StateSnapshot τ κ) (ops : List (ManagerInput τ κ))
    (e : ManagerEvent τ κ) (he : e ∈ managerTrace initial ops) :
    Stepped e.before e.input e.after e.output := by
  have hstep := trace_step managerStep _ ops e he
  have hstepped := managerStep_stepped e.before e.input
  rwa [hstep] at hstepped

end Inversion

end RoboticCharacter.StateManagement
