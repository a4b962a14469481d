import RoboticCharacter.SafetyModels
import RoboticCharacter.Machine
import Mathlib.Data.Finset.Insert

/-! The latched E-stop and watchdog lifecycle of the host. -/
namespace RoboticCharacter.Safety

inductive SafetyStopCause
  | hardwareEstop
  | softwareEstop
  | watchdogTimeout
  | watchdogInvalid
  deriving DecidableEq, Repr

inductive SafetyResetDenial
  | noLatch
  | physicalEstopActive
  | watchdogNotArmed
  | watchdogUnhealthy
  deriving DecidableEq, Repr

structure SafetyLifecyclePolicy (α : Type*) where
  heartbeatTimeoutMs : ExtendedNumber α
  requireManualReset : Bool := true

structure SafetyLifecycleSnapshot where
  sequence : ℕ := 0
  watchdogArmed : Bool := false
  watchdogHealthy : Bool := false
  physicalEstopActive : Bool := false
  estopLatched : Bool := false
  causes : Finset SafetyStopCause := ∅
  latestReason : Option String := none
  deriving DecidableEq

structure SafetyResetResult where
  cleared : Bool
  snapshot : SafetyLifecycleSnapshot
  denials : List SafetyResetDenial := []

/-- The keyword arguments of a commit; an absent one keeps the current value. -/
structure LifecycleUpdate where
  watchdogArmed : Option Bool := none
  watchdogHealthy : Option Bool := none
  physicalEstopActive : Option Bool := none
  estopLatched : Option Bool := none
  causes : Option (Finset SafetyStopCause) := none
  latestReason : Option String := none

namespace SafetyLifecycleSnapshot

def commit (current : SafetyLifecycleSnapshot) (update : LifecycleUpdate) :
    SafetyLifecycleSnapshot where
  sequence := current.sequence + 1
  watchdogArmed := update.watchdogArmed.getD current.watchdogArmed
  watchdogHealthy := update.watchdogHealthy.getD current.watchdogHealthy
  physicalEstopActive := update.physicalEstopActive.getD current.physicalEstopActive
  estopLatched := update.estopLatched.getD current.estopLatched
  causes := update.causes.getD current.causes
  latestReason := update.latestReason.orElse (fun _ => current.latestReason)

def latch (current : SafetyLifecycleSnapshot) (cause : SafetyStopCause) (reason : String)
    (watchdogHealthy physicalEstopActive : Option Bool) : SafetyLifecycleSnapshot :=
  current.commit
    { estopLatched := some true
      causes := some (insert cause current.causes)
      latestReason := some reason
      watchdogHealthy
      physicalEstopActive }

/-- The three facts every snapshot of a lifecycle satisfies. -/
structure Consistent (s : SafetyLifecycleSnapshot) : Prop where
  latched_iff : s.estopLatched = true ↔ s.causes.Nonempty
  physical_latched : s.physicalEstopActive = true → s.estopLatched = true
  healthy_armed : s.watchdogHealthy = true → s.watchdogArmed = true

theorem consistent_initial : Consistent {} := ⟨by simp, nofun, nofun⟩

/-- What one operation may do to a snapshot: it is the same or the next in sequence,
and only a granted reset, on a released and watched machine, takes a cause away. -/
structure Transition (before : SafetyLifecycleSnapshot) (cleared : Bool)
    (after : SafetyLifecycleSnapshot) : Prop where
  consistent : before.Consistent → after.Consistent
  sequence : after = before ∨ after.sequence = before.sequence + 1
  latched : cleared = false → before.estopLatched = true → after.estopLatched = true
  causes : cleared = false → before.causes ⊆ after.causes
  guarded : cleared = true → before.physicalEstopActive = false ∧
    before.watchdogArmed = true ∧ before.watchdogHealthy = true

theorem Transition.unchanged (s : SafetyLifecycleSnapshot) : Transition s false s :=
  ⟨id, .inl rfl, fun _ => id, fun _ => Finset.Subset.refl _, nofun⟩

/-- A latch adds its cause and leaves the arming as it was. -/
theorem Transition.latch (s : SafetyLifecycleSnapshot) (cause : SafetyStopCause)
    (reason : String) (healthy physical : Option Bool) (hh : healthy ≠ some true) :
    Transition s false (s.latch cause reason healthy physical) where
  consistent h := by
    refine ⟨iff_of_true rfl (Finset.insert_nonempty _ _), fun _ => rfl, ?_⟩
    cases healthy with
    | none => exact h.healthy_armed
    | some value =>
      cases value with
      | true => exact absurd rfl hh
      | false => exact nofun
  sequence := .inr rfl
  latched _ _ := rfl
  causes _ := Finset.subset_insert _ _
  guarded := nofun

/-- A commit that leaves the latch alone and asserts no physical stop. -/
theorem Transition.status (s : SafetyLifecycleSnapshot) (armed healthy physical : Option Bool)
    (hp : physical ≠ some true)
    (hh : (s.watchdogHealthy = true → s.watchdogArmed = true) →
      healthy.getD s.watchdogHealthy = true → armed.getD s.watchdogArmed = true) :
    Transition s false (s.commit
      { watchdogArmed := armed, watchdogHealthy := healthy, physicalEstopActive := physical }) where
  consistent h := by
    refine ⟨h.latched_iff, ?_, hh h.healthy_armed⟩
    cases physical with
    | none => exact h.physical_latched
    | some value =>
      cases value with
      | true => exact absurd rfl hp
      | false => exact nofun
  sequence := .inr rfl
  latched _ := id
  causes _ := Finset.Subset.refl _
  guarded := nofun

end SafetyLifecycleSnapshot

variable {α : Type*} [LinearOrder α]

def SafetyLifecyclePolicy.valid [Zero α] (p : SafetyLifecyclePolicy α) : Bool :=
  isPositive p.heartbeatTimeoutMs && p.requireManualReset

/-- A controller has checked its policy when it was built. -/
structure SafetyLifecycleController (α : Type*) [LinearOrder α] [Zero α] where
  policy : SafetyLifecyclePolicy α
  snapshot : SafetyLifecycleSnapshot
  policy_valid : policy.valid = true

namespace SafetyLifecycleController
variable [Zero α]

def new (policy : SafetyLifecyclePolicy α) : Except String (SafetyLifecycleController α) :=
  if h : policy.valid = true then .ok ⟨policy, {}, h⟩
  else .error "safety lifecycle policy must require manual reset and a positive timeout"

def commit (c : SafetyLifecycleController α) (update : LifecycleUpdate) :
    SafetyLifecycleController α :=
  { c with snapshot := c.snapshot.commit update }

def latch (c : SafetyLifecycleController α) (cause : SafetyStopCause) (reason : String)
    (watchdogHealthy physicalEstopActive : Option Bool) : SafetyLifecycleController α :=
  { c with snapshot := c.snapshot.latch cause reason watchdogHealthy physicalEstopActive }

def armWatchdog (c : SafetyLifecycleController α) : SafetyLifecycleController α :=
  if c.snapshot.watchdogArmed then c
  else c.commit { watchdogArmed := some true, watchdogHealthy := some false }

def disarmWatchdog (c : SafetyLifecycleController α) : SafetyLifecycleController α :=
  if c.snapshot.watchdogArmed = false ∧ c.snapshot.watchdogHealthy = false then c
  else c.commit { watchdogArmed := some false, watchdogHealthy := some false }

def observeHeartbeatAge [ToString α] (c : SafetyLifecycleController α)
    (heartbeatAgeMs : ExtendedNumber α) : SafetyLifecycleController α :=
  if c.snapshot.watchdogArmed = false then c
  else if heartbeatAgeMs.isFinite = false ∨ heartbeatAgeMs.lt (.finite 0) = true then
    c.latch .watchdogInvalid "watchdog heartbeat age must be finite and non-negative"
      (some false) none
  else if c.policy.heartbeatTimeoutMs.lt heartbeatAgeMs = true then
    c.latch .watchdogTimeout
      (s!"watchdog heartbeat age {heartbeatAgeMs.format} ms exceeds timeout " ++
        s!"{c.policy.heartbeatTimeoutMs.format} ms") (some false) none
  else if c.snapshot.watchdogHealthy then c
  else c.commit { watchdogHealthy := some true }

def setPhysicalEstop (c : SafetyLifecycleController α) (active : Bool) :
    SafetyLifecycleController α :=
  if active then
    c.latch .hardwareEstop "physical emergency stop asserted" none (some true)
  else if c.snapshot.physicalEstopActive = false then c
  else c.commit { physicalEstopActive := some false }

/-- `reason.strip() or "software emergency stop requested"`. -/
def normalizedReason (reason : String) : String :=
  if PythonText.strip reason = "" then "software emergency stop requested"
  else PythonText.strip reason

def triggerSoftwareEstop (c : SafetyLifecycleController α) (reason : String) :
    SafetyLifecycleController α :=
  c.latch .softwareEstop (normalizedReason reason) none none

/-- The reasons a latched snapshot gives against a reset. -/
def resetDenials (s : SafetyLifecycleSnapshot) : List SafetyResetDenial :=
  (if s.physicalEstopActive then [.physicalEstopActive] else []) ++
    (if s.watchdogArmed = false then [.watchdogNotArmed]
     else if s.watchdogHealthy = false then [.watchdogUnhealthy] else [])

def requestManualReset (c : SafetyLifecycleController α) :
    SafetyLifecycleController α × SafetyResetResult :=
  if c.snapshot.estopLatched = false then
    (c, { cleared := false, snapshot := c.snapshot, denials := [.noLatch] })
  else if resetDenials c.snapshot ≠ [] then
    (c, { cleared := false, snapshot := c.snapshot, denials := resetDenials c.snapshot })
  else
    let cleared := c.commit
      { estopLatched := some false
        causes := some ∅
        latestReason := some "manual emergency-stop reset completed" }
    (cleared, { cleared := true, snapshot := cleared.snapshot })

theorem unlatched_of_cleared (c : SafetyLifecycleController α)
    (h : c.requestManualReset.2.cleared = true) :
    c.requestManualReset.1.snapshot.estopLatched = false := by
  unfold requestManualReset at h ⊢
  split_ifs at h ⊢
  rfl

theorem resetDenials_eq_nil_iff (s : SafetyLifecycleSnapshot) :
    resetDenials s = [] ↔ s.physicalEstopActive = false ∧ s.watchdogArmed = true ∧
      s.watchdogHealthy = true := by
  unfold resetDenials
  split_ifs <;> simp_all

end SafetyLifecycleController

inductive LifecycleOperation (α : Type*)
  | armWatchdog
  | disarmWatchdog
  | observeHeartbeatAge (heartbeatAgeMs : ExtendedNumber α)
  | setPhysicalEstop (active : Bool)
  | triggerSoftwareEstop (reason : String)
  | requestManualReset

namespace SafetyLifecycleController
variable [Zero α] [ToString α]
open SafetyLifecycleSnapshot

/-- Performs an operation and says whether it cleared the latch. -/
def perform (c : SafetyLifecycleController α) :
    LifecycleOperation α → SafetyLifecycleController α × Bool
  | .armWatchdog => (c.armWatchdog, false)
  | .disarmWatchdog => (c.disarmWatchdog, false)
  | .observeHeartbeatAge age => (c.observeHeartbeatAge age, false)
  | .setPhysicalEstop active => (c.setPhysicalEstop active, false)
  | .triggerSoftwareEstop reason => (c.triggerSoftwareEstop reason, false)
  | .requestManualReset => (c.requestManualReset.1, c.requestManualReset.2.cleared)

theorem perform_policy (c : SafetyLifecycleController α) (op : LifecycleOperation α) :
    (c.perform op).1.policy = c.policy := by
  cases op with
  | triggerSoftwareEstop reason => rfl
  | armWatchdog => dsimp only [perform, armWatchdog]; split_ifs <;> rfl
  | disarmWatchdog => dsimp only [perform, disarmWatchdog]; split_ifs <;> rfl
  | observeHeartbeatAge age => dsimp only [perform, observeHeartbeatAge]; split_ifs <;> rfl
  | setPhysicalEstop active => dsimp only [perform, setPhysicalEstop]; split_ifs <;> rfl
  | requestManualReset => dsimp only [perform, requestManualReset]; split_ifs <;> rfl

omit [ToString α] in
theorem requestManualReset_transition (c : SafetyLifecycleController α) :
    Transition c.snapshot c.requestManualReset.2.cleared c.requestManualReset.1.snapshot := by
  unfold requestManualReset
  split_ifs with hl hd
  · exact .unchanged _
  · exact .unchanged _
  · obtain ⟨hphysical, harmed, hhealthy⟩ := (resetDenials_eq_nil_iff _).mp (not_not.mp hd)
    refine ⟨?_, .inr rfl, nofun, nofun, fun _ => ⟨hphysical, harmed, hhealthy⟩⟩
    -- the reset leaves the physical input alone, and it is released
    intro h
    refine ⟨by simp [commit, SafetyLifecycleSnapshot.commit], ?_, h.healthy_armed⟩
    intro hp
    change c.snapshot.physicalEstopActive = true at hp
    rw [hphysical] at hp
    cases hp

theorem observeHeartbeatAge_transition (c : SafetyLifecycleController α)
    (age : ExtendedNumber α) :
    Transition c.snapshot false (c.observeHeartbeatAge age).snapshot := by
  unfold observeHeartbeatAge
  split_ifs with harmed
  · exact .unchanged _
  · exact .latch _ _ _ _ _ nofun
  · exact .latch _ _ _ _ _ nofun
  · exact .unchanged _
  · exact .status _ none (some true) none (by decide)
      (fun _ _ => Bool.eq_true_of_not_eq_false harmed)

theorem perform_transition (c : SafetyLifecycleController α) (op : LifecycleOperation α) :
    Transition c.snapshot (c.perform op).2 (c.perform op).1.snapshot := by
  cases op with
  | armWatchdog =>
    dsimp only [perform, armWatchdog]
    split_ifs
    · exact .unchanged _
    · exact .status _ (some true) (some false) none (by decide) (fun _ _ => rfl)
  | disarmWatchdog =>
    dsimp only [perform, disarmWatchdog]
    split_ifs
    · exact .unchanged _
    · exact .status _ (some false) (some false) none (by decide) (fun _ => nofun)
  | observeHeartbeatAge age => exact c.observeHeartbeatAge_transition age
  | setPhysicalEstop active =>
    dsimp only [perform, setPhysicalEstop]
    split_ifs
    · exact .latch _ _ _ _ _ nofun
    · exact .unchanged _
    · exact .status _ none none (some false) (by decide) id
  | triggerSoftwareEstop reason => exact .latch _ _ _ _ _ nofun
  | requestManualReset => exact c.requestManualReset_transition

end SafetyLifecycleController

end RoboticCharacter.Safety
