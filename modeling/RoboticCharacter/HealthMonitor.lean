import RoboticCharacter.EventOrder
import Mathlib.Data.List.AList

/-! The health registry, and the health monitor: polls that run as tasks of their own and
publish on the event bus the transitions they see. -/
namespace RoboticCharacter.Health
open AsyncQueue Machine Events

inductive HealthStatus
  | healthy
  | degraded
  | failed
  | unknown
  deriving DecidableEq, Repr

structure ComponentHealth where
  component : String
  status : HealthStatus
  critical : Bool := false
  detail : Option String := none
  deriving DecidableEq, Repr

structure HealthReport where
  overall : HealthStatus
  components : List ComponentHealth
  deriving DecidableEq, Repr

structure ProviderRegistration where
  name : String
  critical : Bool := false
  deriving DecidableEq, Repr

/-- What a provider's awaited `health()` comes to. -/
inductive ProviderOutcome
  | reported (status : HealthStatus) (detail : Option String)
  | raised (errorType message : String)
  deriving DecidableEq, Repr

/-- The providers by name, in the order of their registration. -/
structure HealthRegistry where
  providers : List ProviderRegistration
  names_nodup : (providers.map ProviderRegistration.name).Nodup

namespace HealthRegistry

def empty : HealthRegistry := ⟨[], List.nodup_nil⟩

theorem nodup_register {providers : List ProviderRegistration}
    (hnodup : (providers.map ProviderRegistration.name).Nodup) (added : ProviderRegistration)
    (h : added.name ∉ providers.map ProviderRegistration.name) :
    ((providers ++ [added]).map ProviderRegistration.name).Nodup := by
  rw [List.map_append, List.map_singleton]
  refine List.nodup_append.mpr ⟨hnodup, List.nodup_singleton _, ?_⟩
  rintro name hname other hother rfl
  rw [List.mem_singleton.mp hother] at hname
  exact h hname

def register (registry : HealthRegistry) (name : String) (critical : Bool) :
    Except String HealthRegistry :=
  if name = "" then .error "health provider name cannot be empty"
  else if h : name ∈ registry.providers.map ProviderRegistration.name then
    .error s!"health provider already registered: {name}"
  else .ok ⟨registry.providers ++ [⟨name, critical⟩], nodup_register registry.names_nodup _ h⟩

theorem nodup_unregister (registry : HealthRegistry) (name : String) :
    ((registry.providers.filter (·.name ≠ name)).map ProviderRegistration.name).Nodup :=
  registry.names_nodup.sublist (List.filter_sublist.map _)

def unregister (registry : HealthRegistry) (name : String) : HealthRegistry × Bool :=
  (⟨registry.providers.filter (·.name ≠ name), registry.nodup_unregister name⟩,
    registry.providers.any (·.name = name))

end HealthRegistry

/-- `_check_one`: what is reported is put under the registered name. -/
def checkOne (outcomeOf : String → ProviderOutcome) (registration : ProviderRegistration) :
    ComponentHealth :=
  match outcomeOf registration.name with
  | .reported status detail => ⟨registration.name, status, registration.critical, detail⟩
  | .raised errorType message =>
    ⟨registration.name, .failed, registration.critical,
      some s!"health check raised {errorType}: {message}"⟩

def aggregateHealth (items : List ComponentHealth) : HealthStatus :=
  if items = [] then .unknown
  else if items.any (fun item => item.critical && decide (item.status = .failed)) then .failed
  else if items.any (fun item => decide (item.status ≠ .healthy)) then .degraded
  else .healthy

/-- `check_all` over the registrations it took at its start. -/
def checkAll (outcomeOf : String → ProviderOutcome) (registrations : List ProviderRegistration) :
    HealthReport where
  overall := aggregateHealth (registrations.map (checkOne outcomeOf))
  components := registrations.map (checkOne outcomeOf)

structure HealthChanged where
  component : String
  previousStatus : HealthStatus
  currentStatus : HealthStatus
  detail : Option String
  deriving DecidableEq, Repr

structure HealthMonitor where
  previous : AList (fun _ : String => HealthStatus) := ∅
  latest : Option HealthReport := none

namespace HealthMonitor

/-- `self._previous.get(name, HealthStatus.UNKNOWN)`. -/
def statusOf (monitor : HealthMonitor) (name : String) : HealthStatus :=
  (monitor.previous.lookup name).getD .unknown

def remember (monitor : HealthMonitor) (component : ComponentHealth) : HealthMonitor :=
  { monitor with previous := monitor.previous.insert component.component component.status }

/-- The event of a component whose status is not the remembered one. -/
def change (monitor : HealthMonitor) (component : ComponentHealth) : HealthChanged where
  component := component.component
  previousStatus := monitor.statusOf component.component
  currentStatus := component.status
  detail := component.detail

theorem statusOf_remember (monitor : HealthMonitor) (component : ComponentHealth) :
    (monitor.remember component).statusOf component.component = component.status := by
  unfold statusOf remember
  rw [AList.lookup_insert]
  rfl

theorem statusOf_remember_ne (monitor : HealthMonitor) (component : ComponentHealth)
    {name : String} (h : name ≠ component.component) :
    (monitor.remember component).statusOf name = monitor.statusOf name := by
  unfold statusOf remember
  rw [AList.lookup_insert_ne h]

theorem statusOf_remember_same (monitor : HealthMonitor) (component : ComponentHealth)
    (h : component.status = monitor.statusOf component.component) (name : String) :
    (monitor.remember component).statusOf name = monitor.statusOf name := by
  by_cases hname : name = component.component
  · rw [hname, statusOf_remember, h]
  · exact monitor.statusOf_remember_ne component hname

end HealthMonitor

def changePriority (component : ComponentHealth) : EventPriority :=
  if component.critical = true ∧ component.status = .failed then .critical else .normal

/-- Where one execution of `run_once` is: at the checks, or in a publication that waits for
room in the queue, with the components it has still to come to. -/
inductive ExecutionPhase (ε : Type*)
  | checking (registrations : List ProviderRegistration)
  | publishing (entry : Entry (HealthChanged ⊕ ε)) (component : ComponentHealth)
      (rest : List ComponentHealth) (report : HealthReport)
  | returned (report : HealthReport)
  | raised (message : String)
  | cancelled
  deriving DecidableEq, Repr

/-- What an execution leaves when it is suspended or ends, and the entries the bus accepted. -/
structure ExecutionStep (ε τ : Type*) where
  bus : EventBus (HealthChanged ⊕ ε) τ
  monitor : HealthMonitor
  phase : ExecutionPhase ε
  accepted : List (Entry (HealthChanged ⊕ ε))

/-- The loop of `run_once` up to its end or its first suspension. -/
def publishChanges {ε τ : Type*} (report : HealthReport) :
    List ComponentHealth → EventBus (HealthChanged ⊕ ε) τ → HealthMonitor → ExecutionStep ε τ
  | [], bus, monitor => ⟨bus, { monitor with latest := some report }, .returned report, []⟩
  | component :: rest, bus, monitor =>
    if component.status = monitor.statusOf component.component then
      publishChanges report rest bus (monitor.remember component)
    else
      match bus.publish (.inl (monitor.change component)) (changePriority component).value with
      | (bus, .accepted entry) =>
        let next := publishChanges report rest bus (monitor.remember component)
        { next with accepted := entry :: next.accepted }
      | (bus, .waits entry) => ⟨bus, monitor, .publishing entry component rest report, []⟩
      | (bus, _) =>
        ⟨bus, monitor, .raised "event bus must be started before publishing", []⟩

structure HealthSystem (ε τ : Type*) where
  registry : HealthRegistry
  monitor : HealthMonitor
  bus : EventBus (HealthChanged ⊕ ε) τ
  executions : List (ExecutionPhase ε)

inductive HealthInput (ε τ : Type*)
  | register (name : String) (critical : Bool)
  | unregister (name : String)
  | runOnce
  | checked (index : ℕ) (outcomeOf : String → ProviderOutcome)
  | publishResumes (index : ℕ)
  | cancelled (index : ℕ)
  | busStart (workerCount : ℕ)
  | bus (input : BusInput (HealthChanged ⊕ ε) τ)

section Steps
variable {ε τ : Type*}

/-- A step of another task on the bus: it publishes no event of the monitor, and resumes or
withdraws none. -/
def foreign (bus : EventBus (HealthChanged ⊕ ε) τ) : BusInput (HealthChanged ⊕ ε) τ → Bool
  | .publish event _ => event.isRight
  | .publishNowait event _ => event.isRight
  | .publisherResumes index => bus.blocked[index]?.all (fun entry => entry.event.isRight)
  | .publisherCancelled index => bus.blocked[index]?.all (fun entry => entry.event.isRight)
  | _ => true

namespace HealthSystem

/-- The system once the execution at an index has run on. -/
def runOn (system : HealthSystem ε τ) (index : ℕ) (next : ExecutionStep ε τ) :
    HealthSystem ε τ :=
  { system with
    monitor := next.monitor
    bus := next.bus
    executions := system.executions.set index next.phase }

variable [DecidableEq ε] [DecidableEq τ] (isInstance : HealthChanged ⊕ ε → τ → Bool)

/-- One step of one task, and the entries the bus accepts in it. -/
def step (system : HealthSystem ε τ) :
    HealthInput ε τ → HealthSystem ε τ × List (Entry (HealthChanged ⊕ ε))
  | .register name critical =>
    match system.registry.register name critical with
    | .ok registry => ({ system with registry }, [])
    | .error _ => (system, [])
  | .unregister name => ({ system with registry := (system.registry.unregister name).1 }, [])
  | .runOnce =>
    ({ system with executions := system.executions ++ [.checking system.registry.providers] }, [])
  | .checked index outcomeOf =>
    match system.executions[index]? with
    | some (.checking registrations) =>
      -- `check_all` has gathered the results, and the loop runs to its first suspension
      let report := checkAll outcomeOf registrations
      let next := publishChanges report report.components system.bus system.monitor
      (system.runOn index next, next.accepted)
    | _ => (system, [])
  | .publishResumes index =>
    match system.executions[index]? with
    | some (.publishing entry component rest report) =>
      match system.bus.publisherResumes (system.bus.blocked.idxOf entry) with
      -- only now the status is remembered
      | (bus, .accepted entry) =>
        let next := publishChanges report rest bus (system.monitor.remember component)
        (system.runOn index next, entry :: next.accepted)
      | _ => (system, [])
    | _ => (system, [])
  | .cancelled index =>
    match system.executions[index]? with
    | some (.checking _) =>
      ({ system with executions := system.executions.set index .cancelled }, [])
    | some (.publishing entry _ _ _) =>
      ({ system with
          bus := (system.bus.publisherCancelled (system.bus.blocked.idxOf entry)).1
          executions := system.executions.set index .cancelled }, [])
    | _ => (system, [])
  | .busStart workerCount => ({ system with bus := system.bus.start workerCount }, [])
  | .bus input =>
    if foreign system.bus input then
      ({ system with bus := (busStep isInstance system.bus input).1 },
        (busStep isInstance system.bus input).2.accepted?.toList)
    else (system, [])

/-- A new monitor over an empty registry, on a bus that was not started yet. -/
def initial (config : EventBusConfig) : HealthSystem ε τ where
  registry := .empty
  monitor := {}
  bus := EventBus.new config
  executions := []

end HealthSystem

abbrev HealthRecord (ε τ : Type*) :=
  Event (HealthSystem ε τ) (HealthInput ε τ) (List (Entry (HealthChanged ⊕ ε)))

end Steps

end RoboticCharacter.Health
