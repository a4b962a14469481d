import RoboticCharacter.HealthMonitor

/-! The chain of a component's health events: when each one starts from the status that the one
before it ended in. -/
namespace RoboticCharacter.Health
open AsyncQueue Machine Events

section Chain

/-- Changes that lead from one status to another, each to a status that is new. -/
def ChainTo : HealthStatus → List HealthChanged → HealthStatus → Prop
  | start, [], finish => start = finish
  | start, change :: rest, finish =>
    change.previousStatus = start ∧ change.currentStatus ≠ start ∧
      ChainTo change.currentStatus rest finish

theorem ChainTo.snoc {start finish : HealthStatus} {past : List HealthChanged}
    (h : ChainTo start past finish) (change : HealthChanged)
    (hprevious : change.previousStatus = finish)
    (hcurrent : change.currentStatus ≠ finish) :
    ChainTo start (past ++ [change]) change.currentStatus := by
  induction past generalizing start with
  | nil =>
    obtain rfl : start = finish := h
    exact ⟨hprevious, hcurrent, rfl⟩
  | cons first past ih => exact ⟨h.1, h.2.1, ih h.2.2⟩

/-- The changes of one component, in order. -/
def changesFor (name : String) (changes : List HealthChanged) : List HealthChanged :=
  changes.filter (fun change => decide (change.component = name))

/-- Each component's changes lead from UNKNOWN to the status the monitor remembers. -/
def Remembers (changes : List HealthChanged) (monitor : HealthMonitor) : Prop :=
  ∀ name, ChainTo .unknown (changesFor name changes) (monitor.statusOf name)

variable {changes : List HealthChanged} {monitor : HealthMonitor}

theorem Remembers.same (h : Remembers changes monitor) {after : HealthMonitor}
    (hstatus : ∀ name, after.statusOf name = monitor.statusOf name) : Remembers changes after := by
  intro name
  rw [hstatus name]
  exact h name

/-- A change that was not yet remembered carries the chain of its component on. -/
theorem Remembers.change (h : Remembers changes monitor) (component : ComponentHealth)
    (hchanged : component.status ≠ monitor.statusOf component.component) :
    Remembers (changes ++ [monitor.change component]) (monitor.remember component) := by
  intro name
  have hchain := h name
  unfold changesFor at hchain ⊢
  rw [List.filter_append]
  by_cases hname : name = component.component
  · subst hname
    have hkept : [monitor.change component].filter
        (fun change => decide (change.component = component.component)) =
          [monitor.change component] := by
      simp [HealthMonitor.change]
    rw [hkept, HealthMonitor.statusOf_remember]
    exact hchain.snoc (monitor.change component) rfl hchanged
  · have hdropped : [monitor.change component].filter
        (fun change => decide (change.component = name)) = [] := by
      simp [HealthMonitor.change, Ne.symm hname]
    rw [hdropped, List.append_nil, monitor.statusOf_remember_ne component hname]
    exact hchain

end Chain

section Executions
variable {ε τ : Type*}

/-- The health events among accepted entries. -/
def changesOf (entries : List (Entry (HealthChanged ⊕ ε))) : List HealthChanged :=
  entries.filterMap (fun entry => entry.event.getLeft?)

/-- The component whose event an execution is suspended on. -/
def ExecutionPhase.suspendedOn : ExecutionPhase ε → Option String
  | .publishing _ component _ _ => some component.component
  | _ => none

/-- What an execution has taken from the monitor still holds of it. -/
def ExecutionPhase.Current (monitor : HealthMonitor) : ExecutionPhase ε → Prop
  | .checking registrations => (registrations.map ProviderRegistration.name).Nodup
  | .publishing entry component rest _ =>
    entry.event = .inl (monitor.change component) ∧
      component.status ≠ monitor.statusOf component.component ∧
      ((component :: rest).map ComponentHealth.component).Nodup
  | _ => True

theorem ExecutionPhase.Current.same {monitor after : HealthMonitor} {phase : ExecutionPhase ε}
    (h : phase.Current monitor)
    (hstatus : ∀ name, phase.suspendedOn = some name →
      after.statusOf name = monitor.statusOf name) : phase.Current after := by
  cases phase with
  | publishing entry component rest report =>
    have hsame := hstatus component.component rfl
    obtain ⟨hentry, hchanged, hnodup⟩ := h
    refine ⟨?_, ?_, hnodup⟩
    · unfold HealthMonitor.change at hentry ⊢
      rw [hsame]
      exact hentry
    · rw [hsame]
      exact hchanged
  | checking registrations => exact h
  | returned report => trivial
  | raised message => trivial
  | cancelled => trivial

/-- The components of a report whose status is not the remembered one. -/
def changed (monitor : HealthMonitor) (components : List ComponentHealth) : List String :=
  (components.filter (fun component =>
    decide (component.status ≠ monitor.statusOf component.component))).map ComponentHealth.component

theorem changed_same {monitor after : HealthMonitor} {components : List ComponentHealth}
    (h : ∀ component ∈ components,
      after.statusOf component.component = monitor.statusOf component.component) :
    changed after components = changed monitor components := by
  unfold changed
  congr 1
  apply List.filter_congr
  intro component hcomponent
  rw [h component hcomponent]

theorem changed_cons_same {monitor : HealthMonitor} {component : ComponentHealth}
    (hsame : component.status = monitor.statusOf component.component)
    (rest : List ComponentHealth) :
    changed monitor (component :: rest) = changed monitor rest := by
  unfold changed
  rw [List.filter_cons_of_neg (by simpa using hsame)]

theorem changed_cons_ne {monitor : HealthMonitor} {component : ComponentHealth}
    (hchanged : component.status ≠ monitor.statusOf component.component)
    (rest : List ComponentHealth) :
    changed monitor (component :: rest) = component.component :: changed monitor rest := by
  unfold changed
  rw [List.filter_cons_of_pos (by simpa using hchanged), List.map_cons]

/-- Remembering one component changes nothing for the others. -/
theorem changed_remember (monitor : HealthMonitor) {component : ComponentHealth}
    {rest : List ComponentHealth}
    (hfresh : component.component ∉ rest.map ComponentHealth.component) :
    changed (monitor.remember component) rest = changed monitor rest := by
  apply changed_same
  intro other hother
  apply monitor.statusOf_remember_ne
  intro heq
  exact hfresh (heq ▸ List.mem_map_of_mem hother)

/-- What the loop of an execution does to the monitor and to the chains. -/
structure LoopEffect (changes : List HealthChanged) (monitor : HealthMonitor)
    (components : List ComponentHealth) (next : ExecutionStep ε τ) : Prop where
  remembers : Remembers (changes ++ changesOf next.accepted) next.monitor
  kept : ∀ name, name ∉ changed monitor components →
    next.monitor.statusOf name = monitor.statusOf name
  current : next.phase.Current next.monitor
  suspended : ∀ name, next.phase.suspendedOn = some name → name ∈ changed monitor components

namespace LoopEffect
variable {changes : List HealthChanged} {monitor : HealthMonitor} {component : ComponentHealth}
  {rest : List ComponentHealth} {next : ExecutionStep ε τ}

/-- The loop ends or is suspended without a further publication. -/
theorem halts (hremembers : Remembers changes monitor) {components : List ComponentHealth}
    {after : HealthMonitor} (hstatus : ∀ name, after.statusOf name = monitor.statusOf name)
    {phase : ExecutionPhase ε} (hcurrent : phase.Current after)
    (hsuspended : ∀ name, phase.suspendedOn = some name → name ∈ changed monitor components)
    (bus : EventBus (HealthChanged ⊕ ε) τ) :
    LoopEffect changes monitor components ⟨bus, after, phase, []⟩ := by
  refine ⟨?_, fun name _ => hstatus name, hcurrent, hsuspended⟩
  change Remembers (changes ++ []) after
  rw [List.append_nil]
  exact hremembers.same hstatus

/-- A component with the remembered status is remembered again, and nothing is published. -/
theorem unchanged (hsame : component.status = monitor.statusOf component.component)
    (hnext : LoopEffect changes (monitor.remember component) rest next) :
    LoopEffect changes monitor (component :: rest) next := by
  have hstatus := monitor.statusOf_remember_same component hsame
  have hchanged : changed monitor (component :: rest) =
      changed (monitor.remember component) rest := by
    rw [changed_cons_same hsame, changed_same (fun other _ => hstatus other.component)]
  refine ⟨hnext.remembers, ?_, hnext.current, ?_⟩
  · intro name hname
    rw [hchanged] at hname
    exact (hnext.kept name hname).trans (hstatus name)
  · intro name hname
    rw [hchanged]
    exact hnext.suspended name hname

/-- The bus accepts the change of the component, and the loop goes on. -/
theorem published (hchanged : component.status ≠ monitor.statusOf component.component)
    (hfresh : component.component ∉ rest.map ComponentHealth.component)
    {entry : Entry (HealthChanged ⊕ ε)} (hevent : entry.event = .inl (monitor.change component))
    (hnext : LoopEffect (changes ++ [monitor.change component]) (monitor.remember component)
      rest next) :
    LoopEffect changes monitor (component :: rest)
      { next with accepted := entry :: next.accepted } := by
  have haccepted : changesOf (entry :: next.accepted) =
      monitor.change component :: changesOf next.accepted := by
    unfold changesOf
    rw [List.filterMap_cons, hevent]
    rfl
  have hcons := changed_cons_ne hchanged rest
  rw [← changed_remember monitor hfresh] at hcons
  refine ⟨?_, ?_, hnext.current, ?_⟩
  · rw [haccepted, ← List.singleton_append, ← List.append_assoc]
    exact hnext.remembers
  · intro name hname
    rw [hcons, List.mem_cons, not_or] at hname
    exact (hnext.kept name hname.2).trans (monitor.statusOf_remember_ne component hname.1)
  · intro name hname
    rw [hcons]
    exact List.mem_cons_of_mem _ (hnext.suspended name hname)

end LoopEffect

/-- The three ways in which a publication goes on. -/
theorem publish_cases (bus : EventBus (HealthChanged ⊕ ε) τ) (event : HealthChanged ⊕ ε)
    (priority : ℕ) : ∃ after entry, entry.event = event ∧
      (bus.publish event priority = (after, .accepted entry) ∨
        bus.publish event priority = (after, .waits entry) ∨
        bus.publish event priority = (after, .notRunning)) := by
  unfold EventBus.publish
  split_ifs
  · exact ⟨_, ⟨priority, bus.sequence, event⟩, rfl, .inr (.inr rfl)⟩
  · exact ⟨_, _, rfl, .inr (.inl rfl)⟩
  · exact ⟨_, _, rfl, .inl rfl⟩

theorem publishChanges_effect (report : HealthReport) (components : List ComponentHealth)
    (hnodup : (components.map ComponentHealth.component).Nodup) :
    ∀ (bus : EventBus (HealthChanged ⊕ ε) τ) (changes : List HealthChanged)
      (monitor : HealthMonitor), Remembers changes monitor →
        LoopEffect changes monitor components (publishChanges report components bus monitor) := by
  induction components with
  | nil =>
    intro bus changes monitor h
    unfold publishChanges
    apply LoopEffect.halts h
    · exact fun name => rfl
    · trivial
    · exact fun name hname => by cases hname
  | cons component rest ih =>
    intro bus changes monitor h
    obtain ⟨hfresh, hrest⟩ := List.nodup_cons.mp hnodup
    unfold publishChanges
    by_cases hsame : component.status = monitor.statusOf component.component
    · rw [if_pos hsame]
      have hstatus := monitor.statusOf_remember_same component hsame
      exact .unchanged hsame (ih hrest bus changes _ (h.same hstatus))
    · rw [if_neg hsame]
      obtain ⟨after, entry, hevent, haccepted | hwaits | hstopped⟩ := publish_cases bus
        (.inl (monitor.change component) : HealthChanged ⊕ ε) (changePriority component).value
      · rw [haccepted]
        exact .published hsame hfresh hevent (ih hrest after _ _ (h.change component hsame))
      · -- suspended with its change made, and nothing remembered yet
        rw [hwaits]
        apply LoopEffect.halts h
        · exact fun name => rfl
        · exact ⟨hevent, hsame, hnodup⟩
        · intro name hname
          rw [changed_cons_ne hsame, ← Option.some.inj hname]
          exact List.mem_cons_self
      · rw [hstopped]
        apply LoopEffect.halts h
        · exact fun name => rfl
        · trivial
        · exact fun name hname => by cases hname

/-- One execution runs on, and the others stay as they are. -/
theorem executions_step {executions : List (ExecutionPhase ε)} {monitor after : HealthMonitor}
    (hcurrent : ∀ phase ∈ executions, phase.Current monitor)
    (hdistinct : (executions.filterMap ExecutionPhase.suspendedOn).Nodup) {index : ℕ}
    {next : ExecutionPhase ε} (hindex : index < executions.length)
    (hkept : ∀ name ∈ (executions.eraseIdx index).filterMap ExecutionPhase.suspendedOn,
      after.statusOf name = monitor.statusOf name)
    (hnext : next.Current after)
    (hfresh : ∀ name, next.suspendedOn = some name →
      name ∉ (executions.eraseIdx index).filterMap ExecutionPhase.suspendedOn) :
    (∀ phase ∈ executions.set index next, phase.Current after) ∧
      ((executions.set index next).filterMap ExecutionPhase.suspendedOn).Nodup := by
  have hperm := List.set_perm_cons_eraseIdx hindex next
  constructor
  · intro phase hphase
    obtain rfl | hother := List.mem_cons.mp (hperm.mem_iff.mp hphase)
    · exact hnext
    · refine (hcurrent phase (List.mem_of_mem_eraseIdx hother)).same ?_
      exact fun name hname => hkept name (List.mem_filterMap.mpr ⟨phase, hother, hname⟩)
  · rw [(hperm.filterMap _).nodup_iff]
    have hothers := hdistinct.sublist ((List.eraseIdx_sublist executions index).filterMap _)
    cases hsuspended : next.suspendedOn with
    | none => rwa [List.filterMap_cons_none hsuspended]
    | some name =>
      rw [List.filterMap_cons_some hsuspended, List.nodup_cons]
      exact ⟨hfresh name hsuspended, hothers⟩

/-- The other executions are suspended on none of the components whose change the one at an
index has to publish. -/
def alone (system : HealthSystem ε τ) (index : ℕ) (components : List ComponentHealth) : Bool :=
  (changed system.monitor components).all (fun name =>
    decide (name ∉ (system.executions.eraseIdx index).filterMap ExecutionPhase.suspendedOn))

/-- The execution that a step lets run on comes across no other one's suspended publication. -/
def undisturbed (system : HealthSystem ε τ) : HealthInput ε τ → Bool
  | .checked index outcomeOf =>
    match system.executions[index]? with
    | some (.checking registrations) =>
      alone system index (registrations.map (checkOne outcomeOf))
    | _ => true
  | .publishResumes index =>
    match system.executions[index]? with
    | some (.publishing _ _ rest _) => alone system index rest
    | _ => true
  | _ => true

theorem not_mem_of_alone {system : HealthSystem ε τ} {index : ℕ}
    {components : List ComponentHealth} (h : alone system index components = true) {name : String}
    (hname : name ∈ changed system.monitor components) :
    name ∉ (system.executions.eraseIdx index).filterMap ExecutionPhase.suspendedOn :=
  of_decide_eq_true (List.all_eq_true.mp h name hname)

theorem component_checkOne (outcomeOf : String → ProviderOutcome)
    (registration : ProviderRegistration) :
    (checkOne outcomeOf registration).component = registration.name := by
  unfold checkOne
  split <;> rfl

theorem nodup_checkAll (outcomeOf : String → ProviderOutcome)
    {registrations : List ProviderRegistration}
    (h : (registrations.map ProviderRegistration.name).Nodup) :
    ((registrations.map (checkOne outcomeOf)).map ComponentHealth.component).Nodup := by
  have hnames : registrations.map (ComponentHealth.component ∘ checkOne outcomeOf) =
      registrations.map ProviderRegistration.name :=
    List.map_congr_left fun registration _ => component_checkOne outcomeOf registration
  rw [List.map_map, hnames]
  exact h

end Executions

section Runs
variable {ε τ : Type*} [DecidableEq ε] [DecidableEq τ] (isInstance : HealthChanged ⊕ ε → τ → Bool)

/-- The health events the bus accepted in a run, in order. -/
def acceptedChanges (past : List (HealthRecord ε τ)) : List HealthChanged :=
  changesOf (past.flatMap (fun e => e.output))

omit [DecidableEq ε] [DecidableEq τ] in
theorem acceptedChanges_snoc (past : List (HealthRecord ε τ)) (e : HealthRecord ε τ) :
    acceptedChanges (past ++ [e]) = acceptedChanges past ++ changesOf e.output := by
  unfold acceptedChanges changesOf
  rw [List.flatMap_append, List.flatMap_singleton, List.filterMap_append]

/-- What holds of the system while no poll comes across another one's suspended publication. -/
structure Coherent (past : List (HealthRecord ε τ)) (system : HealthSystem ε τ) : Prop where
  remembers : Remembers (acceptedChanges past) system.monitor
  current : ∀ phase ∈ system.executions, phase.Current system.monitor
  distinct : (system.executions.filterMap ExecutionPhase.suspendedOn).Nodup

omit [DecidableEq ε] in
/-- Another task's step has none of the monitor's events accepted. -/
theorem foreign_accepts_none {bus : EventBus (HealthChanged ⊕ ε) τ}
    {input : BusInput (HealthChanged ⊕ ε) τ} (h : foreign bus input = true) :
    changesOf (busStep isInstance bus input).2.accepted?.toList = [] := by
  have hcaller := (busStep_callStep isInstance bus input).caller
  cases hanswer : (busStep isInstance bus input).2 with
  | accepted entry =>
    have hright : entry.event.isRight = true := by
      obtain ⟨priority, rfl | rfl⟩ | ⟨index, rfl, hblocked⟩ := hcaller entry hanswer
      · exact h
      · exact h
      · change bus.blocked[index]?.all (fun entry => entry.event.isRight) = true at h
        rw [hblocked] at h
        exact h
    obtain ⟨other, hother⟩ := Sum.isRight_iff.mp hright
    unfold changesOf
    change [entry].filterMap (fun entry => entry.event.getLeft?) = []
    rw [List.filterMap_cons_none (by rw [hother]; rfl)]
    rfl
  | _ => rfl

omit [DecidableEq τ] in
/-- A suspended publication that gets through is the one that was resumed. -/
theorem accepted_of_resumes {bus after : EventBus (HealthChanged ⊕ ε) τ}
    {waiting entry : Entry (HealthChanged ⊕ ε)}
    (h : bus.publisherResumes (bus.blocked.idxOf waiting) = (after, .accepted entry)) :
    entry = waiting := by
  have hcaller := (publisherResumes_callStep bus (bus.blocked.idxOf waiting)).caller entry
  rw [h] at hcaller
  obtain ⟨priority, hinput | hinput⟩ | ⟨index, hinput, hblocked⟩ := hcaller rfl
  · cases hinput
  · cases hinput
  · rw [← BusInput.publisherResumes.inj hinput] at hblocked
    obtain ⟨hindex, hentry⟩ := List.getElem?_eq_some_iff.mp hblocked
    rw [List.getElem_idxOf] at hentry
    exact hentry.symm

/-- A step with this outcome keeps the system coherent. -/
def Keeps (past : List (HealthRecord ε τ)) (system : HealthSystem ε τ) (input : HealthInput ε τ)
    (outcome : HealthSystem ε τ × List (Entry (HealthChanged ⊕ ε))) : Prop :=
  Coherent (past ++ [⟨system, input, outcome.2, outcome.1⟩]) outcome.1

namespace Coherent
variable {past : List (HealthRecord ε τ)} {system : HealthSystem ε τ} {input : HealthInput ε τ}

omit [DecidableEq ε] [DecidableEq τ] in
/-- A step publishes nothing and leaves the monitor and the executions as they are. -/
theorem quiet (h : Coherent past system) {after : HealthSystem ε τ}
    {output : List (Entry (HealthChanged ⊕ ε))} (houtput : changesOf output = [])
    (hmonitor : after.monitor = system.monitor)
    (hexecutions : after.executions = system.executions) :
    Keeps past system input (after, output) := by
  refine ⟨?_, ?_, ?_⟩
  · rw [acceptedChanges_snoc, houtput, List.append_nil, hmonitor]
    exact h.remembers
  · rw [hexecutions, hmonitor]
    exact h.current
  · rw [hexecutions]
    exact h.distinct

omit [DecidableEq ε] [DecidableEq τ] in
theorem stays (h : Coherent past system) : Keeps past system input (system, []) :=
  h.quiet rfl rfl rfl

omit [DecidableEq ε] [DecidableEq τ] in
/-- A new execution starts at the checks. -/
theorem begins (h : Coherent past system) : Keeps past system input
    ({ system with executions := system.executions ++ [.checking system.registry.providers] },
      []) := by
  refine ⟨?_, ?_, ?_⟩
  · rw [acceptedChanges_snoc]
    exact (List.append_nil _).symm ▸ h.remembers
  · intro phase hphase
    obtain hold | hnew := List.mem_append.mp hphase
    · exact h.current phase hold
    · rw [List.mem_singleton.mp hnew]
      exact system.registry.names_nodup
  · rw [List.filterMap_append]
    exact (List.append_nil _).symm ▸ h.distinct

omit [DecidableEq ε] [DecidableEq τ] in
/-- One execution ends where it is, and the others stay as they are. -/
theorem ended (h : Coherent past system) {index : ℕ} (hindex : index < system.executions.length)
    (bus : EventBus (HealthChanged ⊕ ε) τ) : Keeps past system input
    ({ system with bus, executions := system.executions.set index .cancelled }, []) := by
  have hcancelled : (ExecutionPhase.cancelled : ExecutionPhase ε).Current system.monitor := trivial
  obtain ⟨hcurrent, hdistinct⟩ := executions_step h.current h.distinct hindex
    (fun name _ => rfl) hcancelled (fun name hname => by cases hname)
  refine ⟨?_, hcurrent, hdistinct⟩
  rw [acceptedChanges_snoc]
  exact (List.append_nil _).symm ▸ h.remembers

omit [DecidableEq ε] [DecidableEq τ] in
/-- One execution runs on through components that no other one is suspended on. -/
theorem runOn (h : Coherent past system) {index : ℕ} (hindex : index < system.executions.length)
    {published : List HealthChanged} {monitor : HealthMonitor}
    {components : List ComponentHealth} {next : ExecutionStep ε τ}
    (heffect : LoopEffect (acceptedChanges past ++ published) monitor components next)
    (halone : ∀ name ∈ changed monitor components,
      name ∉ (system.executions.eraseIdx index).filterMap ExecutionPhase.suspendedOn)
    (hothers : ∀ name ∈ (system.executions.eraseIdx index).filterMap ExecutionPhase.suspendedOn,
      monitor.statusOf name = system.monitor.statusOf name)
    {output : List (Entry (HealthChanged ⊕ ε))}
    (houtput : changesOf output = published ++ changesOf next.accepted) :
    Keeps past system input (system.runOn index next, output) := by
  have hkept : ∀ name ∈
      (system.executions.eraseIdx index).filterMap ExecutionPhase.suspendedOn,
        next.monitor.statusOf name = system.monitor.statusOf name := by
    intro name hname
    have hunchanged : name ∉ changed monitor components := fun hin => halone name hin hname
    exact (heffect.kept name hunchanged).trans (hothers name hname)
  obtain ⟨hcurrent, hdistinct⟩ := executions_step h.current h.distinct hindex hkept
    heffect.current (fun name hname => halone name (heffect.suspended name hname))
  refine ⟨?_, hcurrent, hdistinct⟩
  rw [acceptedChanges_snoc, houtput, ← List.append_assoc]
  exact heffect.remembers

omit [DecidableEq ε] [DecidableEq τ] in
/-- A suspended publication gets through, and its execution runs on. -/
theorem resumed (h : Coherent past system) {index : ℕ} (hindex : index < system.executions.length)
    {entry : Entry (HealthChanged ⊕ ε)} {component : ComponentHealth}
    {rest : List ComponentHealth} {report : HealthReport}
    (hat : system.executions[index] = .publishing entry component rest report)
    (halone : alone system index rest = true) (bus : EventBus (HealthChanged ⊕ ε) τ) :
    Keeps past system input
      (system.runOn index
        (publishChanges report rest bus (system.monitor.remember component)),
      entry :: (publishChanges report rest bus (system.monitor.remember component)).accepted) := by
  obtain ⟨hentry, hchanged, hnodup⟩ := h.current _ (hat ▸ List.getElem_mem hindex)
  obtain ⟨hfresh, hrest⟩ := List.nodup_cons.mp hnodup
  -- no other execution is suspended on this component
  have hdistinct : component.component ∉
      (system.executions.eraseIdx index).filterMap ExecutionPhase.suspendedOn := by
    have hperm := (List.getElem_cons_eraseIdx_perm hindex).symm.filterMap
      ExecutionPhase.suspendedOn
    have hnodup := hperm.nodup_iff.mp h.distinct
    rw [hat] at hnodup
    exact (List.nodup_cons.mp hnodup).1
  have heffect := publishChanges_effect report rest hrest bus _ _
    (h.remembers.change component hchanged)
  apply h.runOn hindex heffect
  · intro name hname
    rw [changed_remember system.monitor hfresh] at hname
    exact not_mem_of_alone halone hname
  · intro name hname
    apply system.monitor.statusOf_remember_ne
    rintro rfl
    exact hdistinct hname
  · unfold changesOf
    rw [List.filterMap_cons, hentry]
    rfl

omit [DecidableEq ε] [DecidableEq τ] in
/-- The checks of an execution are through, and it runs on. -/
theorem checked (h : Coherent past system) {index : ℕ} (hindex : index < system.executions.length)
    {registrations : List ProviderRegistration}
    (hat : system.executions[index] = .checking registrations)
    (outcomeOf : String → ProviderOutcome)
    (halone : alone system index (registrations.map (checkOne outcomeOf)) = true) :
    Keeps past system input
      (system.runOn index (publishChanges (checkAll outcomeOf registrations)
        (registrations.map (checkOne outcomeOf)) system.bus system.monitor),
      (publishChanges (checkAll outcomeOf registrations)
        (registrations.map (checkOne outcomeOf)) system.bus system.monitor).accepted) := by
  have hnames : (registrations.map ProviderRegistration.name).Nodup :=
    h.current (.checking registrations) (hat ▸ List.getElem_mem hindex)
  have heffect := publishChanges_effect (checkAll outcomeOf registrations) _
    (nodup_checkAll outcomeOf hnames) system.bus (acceptedChanges past) system.monitor h.remembers
  rw [← List.append_nil (acceptedChanges past)] at heffect
  exact h.runOn hindex heffect (fun name hname => not_mem_of_alone halone hname)
    (fun name _ => rfl) rfl

/-- A step keeps the system coherent when it is undisturbed. -/
theorem step (h : Coherent past system) (hundisturbed : undisturbed system input = true) :
    Keeps past system input (system.step isInstance input) := by
  unfold HealthSystem.step
  cases input with
  | register name critical =>
    dsimp only
    cases system.registry.register name critical with
    | ok registry => exact h.quiet rfl rfl rfl
    | error message => exact h.stays
  | unregister name => exact h.quiet rfl rfl rfl
  | runOnce => exact h.begins
  | busStart workerCount => exact h.quiet rfl rfl rfl
  | bus input =>
    dsimp only
    split_ifs with hforeign
    · -- another task publishes nothing of the monitor
      exact h.quiet (foreign_accepts_none isInstance hforeign) rfl rfl
    · exact h.stays
  | checked index outcomeOf =>
    unfold undisturbed at hundisturbed
    dsimp only at hundisturbed ⊢
    cases hphase : system.executions[index]? with
    | none => exact h.stays
    | some phase =>
      rw [hphase] at hundisturbed
      obtain ⟨hindex, hat⟩ := List.getElem?_eq_some_iff.mp hphase
      cases phase with
      | checking registrations => exact h.checked hindex hat outcomeOf hundisturbed
      | _ => exact h.stays
  | publishResumes index =>
    unfold undisturbed at hundisturbed
    dsimp only at hundisturbed ⊢
    cases hphase : system.executions[index]? with
    | none => exact h.stays
    | some phase =>
      rw [hphase] at hundisturbed
      obtain ⟨hindex, hat⟩ := List.getElem?_eq_some_iff.mp hphase
      cases phase with
      | publishing waiting component rest report =>
        dsimp only
        cases hanswer : system.bus.publisherResumes (system.bus.blocked.idxOf waiting) with
        | mk bus answer =>
          cases answer with
          | accepted entry =>
            -- the queue has room for the suspended change, and the loop goes on
            obtain rfl := accepted_of_resumes hanswer
            exact h.resumed hindex hat hundisturbed bus
          | _ => exact h.stays
      | _ => exact h.stays
  | cancelled index =>
    dsimp only
    cases hphase : system.executions[index]? with
    | none => exact h.stays
    | some phase =>
      obtain ⟨hindex, -⟩ := List.getElem?_eq_some_iff.mp hphase
      cases phase with
      | checking registrations => exact h.ended hindex system.bus
      | publishing waiting component rest report => exact h.ended hindex _
      | _ => exact h.stays

end Coherent

/-- The accepted health events of each component form a chain from UNKNOWN. -/
def Chained (past : List (HealthRecord ε τ)) : Prop :=
  ∀ name, ∃ last, ChainTo .unknown (changesFor name (acceptedChanges past)) last

/-- The health events form chains as long as no poll comes to publish a change of a component
while another one is suspended in the publication of a change of it. -/
theorem changes_chained (config : EventBusConfig) (ops : List (HealthInput ε τ))
    (h : ∀ e ∈ trace (HealthSystem.step isInstance) (.initial config) ops,
      undisturbed e.before e.input = true) :
    Chained (trace (HealthSystem.step isInstance) (.initial config) ops) := by
  have hrun : (∀ e ∈ trace (HealthSystem.step isInstance) (.initial config) ops,
      undisturbed e.before e.input = true) →
        Coherent (trace (HealthSystem.step isInstance) (.initial config) ops)
          (run (HealthSystem.step isInstance) (.initial config) ops) := by
    apply history_invariant (HealthSystem.step isInstance) (P := fun past system =>
      (∀ e ∈ past, undisturbed e.before e.input = true) → Coherent past system)
    · exact fun _ => ⟨fun name => rfl, (fun phase hphase => by cases hphase), List.nodup_nil⟩
    · intro past system input hpast hundisturbed
      have hbefore := hpast fun e he => hundisturbed e (List.mem_append_left _ he)
      have hnow := hundisturbed _ (List.mem_append_right past List.mem_cons_self)
      exact hbefore.step isInstance hnow
  exact fun name => ⟨_, (hrun h).remembers name⟩

end Runs

section Sample

/-- A poll on a bus that was not started, and two that get through. -/
def soloPolls : List (HealthInput String Unit) :=
  [.register "imu" true, .runOnce, .checked 0 (fun _ => .reported .healthy none),
    .busStart 1, .runOnce, .checked 1 (fun _ => .reported .healthy none), .bus (.take 0),
    .runOnce, .checked 2 (fun _ => .raised "OSError" "no device")]

theorem changes_chained_solo :
    acceptedChanges (trace (HealthSystem.step (fun _ _ => false)) (.initial narrowConfig)
        soloPolls) =
      [⟨"imu", .unknown, .healthy, none⟩,
        ⟨"imu", .healthy, .failed, some "health check raised OSError: no device"⟩] ∧
      Chained (trace (HealthSystem.step (fun _ _ => false)) (.initial narrowConfig) soloPolls) := by
  refine ⟨by decide, changes_chained _ narrowConfig soloPolls ?_⟩
  have hall : (trace (HealthSystem.step (fun _ _ => false)) (.initial narrowConfig)
      soloPolls).all (fun e => undisturbed e.before e.input) = true := by decide
  exact List.all_eq_true.mp hall

/-- Two polls that overlap: both are suspended with the change of the same component. -/
def overlappingPolls : List (HealthInput String Unit) :=
  [.busStart 1, .register "imu" true, .bus (.publishNowait (.inr "noise") .normal),
    .runOnce, .runOnce, .checked 0 (fun _ => .reported .healthy none),
    .checked 1 (fun _ => .reported .healthy none), .bus (.take 0), .publishResumes 0,
    .bus (.take 0), .publishResumes 1]

/-- The overlapping polls publish the same transition twice. -/
theorem overlapping_polls_not_chained :
    ¬ Chained (trace (HealthSystem.step (fun _ _ => false)) (.initial narrowConfig)
      overlappingPolls) := by
  have hchanges : changesFor "imu" (acceptedChanges (trace (HealthSystem.step (fun _ _ => false))
      (.initial narrowConfig) overlappingPolls)) =
        [⟨"imu", .unknown, .healthy, none⟩, ⟨"imu", .unknown, .healthy, none⟩] := by
    decide
  intro h
  obtain ⟨last, hchain⟩ := h "imu"
  rw [hchanges] at hchain
  obtain ⟨-, -, hprevious, -⟩ := hchain
  cases hprevious

end Sample

end RoboticCharacter.Health
