import RoboticCharacter.SafetySupervisor
import Mathlib.Data.Rat.Defs

/-! The host's stop latch over whole runs of a supervisor. -/
namespace RoboticCharacter.Safety

inductive SupervisorCall (α : Type*)
  | evaluate (candidate : MotionCandidate α) (dynamics : MotionDynamics α) (uuid : Uuid)
  | armWatchdog
  | disarmWatchdog
  | observeHeartbeatAge (heartbeatAgeMs : ExtendedNumber α)
  | triggerSoftwareEstop (reason : String)
  | requestManualReset

inductive SupervisorOutput (α : Type*)
  | result (result : MotionSafetyResult α)
  | snapshot (snapshot : SafetyLifecycleSnapshot)
  | reset (result : SafetyResetResult)

/-- The lifecycle operations a call performs, in order. -/
def SupervisorCall.operations {α : Type*} : SupervisorCall α → List (LifecycleOperation α)
  | evaluate candidate dynamics _ =>
    [.setPhysicalEstop candidate.estopActive, .observeHeartbeatAge dynamics.heartbeatAgeMs]
  | armWatchdog => [.armWatchdog]
  | disarmWatchdog => [.disarmWatchdog]
  | observeHeartbeatAge age => [.observeHeartbeatAge age]
  | triggerSoftwareEstop reason => [.triggerSoftwareEstop reason]
  | requestManualReset => [.requestManualReset]

def SupervisorOutput.Clears {α : Type*} : SupervisorOutput α → Prop
  | reset r => r.cleared = true
  | _ => False

/-- The output is no evaluation, or one that stops the robot and authorizes nothing. -/
def SupervisorOutput.Stops {α : Type*} : SupervisorOutput α → Prop
  | result r => r.decision = .estop ∧ r.authorization = none
  | _ => True

namespace MotionSafetySupervisor
variable {α : Type*} [LinearOrder α] [AddCommGroup α] [ToString α]

def call (sup : MotionSafetySupervisor α) :
    SupervisorCall α → MotionSafetySupervisor α × SupervisorOutput α
  | .evaluate candidate dynamics uuid =>
    ((sup.evaluate candidate dynamics uuid).1, .result (sup.evaluate candidate dynamics uuid).2)
  | .armWatchdog =>
    (sup.perform .armWatchdog, .snapshot (sup.perform .armWatchdog).lifecycleSnapshot)
  | .disarmWatchdog =>
    (sup.perform .disarmWatchdog, .snapshot (sup.perform .disarmWatchdog).lifecycleSnapshot)
  | .observeHeartbeatAge age =>
    (sup.perform (.observeHeartbeatAge age),
      .snapshot (sup.perform (.observeHeartbeatAge age)).lifecycleSnapshot)
  | .triggerSoftwareEstop reason =>
    (sup.perform (.triggerSoftwareEstop reason),
      .snapshot (sup.perform (.triggerSoftwareEstop reason)).lifecycleSnapshot)
  | .requestManualReset =>
    (sup.perform .requestManualReset, .reset sup.lifecycle.requestManualReset.2)

/-- The controllers a run goes through, those between two operations of one call included. -/
def controllers (sup : MotionSafetySupervisor α) (calls : List (SupervisorCall α)) :
    List (SafetyLifecycleController α) :=
  Machine.states SafetyLifecycleController.perform sup.lifecycle
    (calls.flatMap SupervisorCall.operations)

def snapshots (sup : MotionSafetySupervisor α) (calls : List (SupervisorCall α)) :
    List SafetyLifecycleSnapshot :=
  (sup.controllers calls).map SafetyLifecycleController.snapshot

theorem call_lifecycle (sup : MotionSafetySupervisor α) (c : SupervisorCall α) :
    (sup.call c).1.lifecycle =
      Machine.run SafetyLifecycleController.perform sup.lifecycle c.operations := by
  cases c <;> rfl

/-- A call that grants no reset performs only operations that clear nothing. -/
theorem operations_clear_nothing (sup : MotionSafetySupervisor α) (c : SupervisorCall α)
    (h : ¬ (sup.call c).2.Clears) :
    ∀ e ∈ Machine.trace SafetyLifecycleController.perform sup.lifecycle c.operations,
      ¬ e.output = true := by
  intro e he
  cases c with
  | requestManualReset =>
    rw [List.mem_singleton.mp he]
    exact h
  | evaluate candidate dynamics uuid =>
    rcases List.mem_cons.mp he with rfl | he
    · exact nofun
    · rw [List.mem_singleton.mp he]
      exact nofun
  | armWatchdog | disarmWatchdog | observeHeartbeatAge | triggerSoftwareEstop =>
    rw [List.mem_singleton.mp he]
    exact nofun

theorem run_clears_nothing (sup : MotionSafetySupervisor α) (calls : List (SupervisorCall α))
    (h : ∀ e ∈ Machine.trace call sup calls, ¬ e.output.Clears) :
    ∀ e ∈ Machine.trace SafetyLifecycleController.perform sup.lifecycle
      (calls.flatMap SupervisorCall.operations), ¬ e.output = true := by
  induction calls generalizing sup with
  | nil => simp
  | cons c rest ih =>
    intro e he
    rw [List.flatMap_cons, Machine.trace_append, List.mem_append, ← sup.call_lifecycle c] at he
    rcases he with he | he
    · exact sup.operations_clear_nothing c (h _ (List.mem_cons_self ..)) e he
    · exact ih _ (fun e he => h e (List.mem_cons_of_mem _ he)) e he

theorem call_latched (sup : MotionSafetySupervisor α) (c : SupervisorCall α)
    (hl : sup.lifecycleSnapshot.estopLatched = true) (hno : ¬ (sup.call c).2.Clears) :
    (sup.call c).1.lifecycleSnapshot.estopLatched = true := by
  have hrun := Machine.run_latched SafetyLifecycleController.perform (· = true)
    (P := fun controller => controller.snapshot.estopLatched = true)
    (fun controller op hc hn =>
      (controller.perform_transition op).latched (Bool.eq_false_of_not_eq_true hn) hc)
    sup.lifecycle hl c.operations (sup.operations_clear_nothing c hno)
  rwa [← call_lifecycle] at hrun

/-- An evaluation that leaves the lifecycle latched stops the robot. -/
theorem call_stops (sup : MotionSafetySupervisor α) (c : SupervisorCall α)
    (hl : (sup.call c).1.lifecycleSnapshot.estopLatched = true) : (sup.call c).2.Stops := by
  cases c with
  | evaluate candidate dynamics uuid =>
    change (sup.observe candidate dynamics).lifecycleSnapshot.estopLatched = true at hl
    have hstop : ∀ s : SafetyLifecycleSnapshot, s.estopLatched = true →
        ∃ detail, evaluateLifecycle (α := α) s =
          some ⟨.estop, [{ code := .lifecycleEstopLatched, detail }], s, none⟩ := by
      intro s hs
      rw [evaluateLifecycle, if_pos (.inl hs)]
      exact ⟨_, rfl⟩
    obtain ⟨detail, hdetail⟩ := hstop _ hl
    simp only [call, evaluate, decideMotion, SupervisorOutput.Stops, hdetail, and_self]
  | armWatchdog | disarmWatchdog | observeHeartbeatAge | triggerSoftwareEstop
  | requestManualReset => trivial

/-- A reset is granted only on a released and watched machine. -/
theorem call_clears (sup : MotionSafetySupervisor α) (c : SupervisorCall α)
    (h : (sup.call c).2.Clears) : sup.lifecycleSnapshot.physicalEstopActive = false ∧
      sup.lifecycleSnapshot.watchdogArmed = true ∧
      sup.lifecycleSnapshot.watchdogHealthy = true := by
  cases c with
  | requestManualReset => exact sup.lifecycle.requestManualReset_transition.guarded h
  | evaluate | armWatchdog | disarmWatchdog | observeHeartbeatAge | triggerSoftwareEstop =>
    exact absurd h id

omit [ToString α] in
theorem create_snapshot (envelope : SafetyEnvelope α) (policy : SafetyLifecyclePolicy α)
    (sup : MotionSafetySupervisor α) (h : create envelope policy = .ok sup) :
    sup.lifecycleSnapshot = {} := by
  unfold create SafetyLifecycleController.new at h
  split_ifs at h with hvalid
  · change new envelope ⟨policy, {}, hvalid⟩ = .ok sup at h
    unfold new at h
    split_ifs at h
    cases h
    rfl
  · cases h

theorem controllers_consistent (sup : MotionSafetySupervisor α)
    (h : sup.lifecycleSnapshot.Consistent) (calls : List (SupervisorCall α)) :
    ∀ s ∈ sup.snapshots calls, s.Consistent := by
  intro s hs
  obtain ⟨controller, hcontroller, rfl⟩ := List.mem_map.mp hs
  exact Machine.states_invariant SafetyLifecycleController.perform
    (P := fun controller => controller.snapshot.Consistent)
    (fun controller op => (controller.perform_transition op).consistent)
    sup.lifecycle h _ controller hcontroller

/-- Until a reset is granted, every snapshot keeps the causes of the first. -/
theorem causes_grow (sup : MotionSafetySupervisor α) (calls : List (SupervisorCall α))
    (h : ∀ e ∈ Machine.trace call sup calls, ¬ e.output.Clears) :
    ∀ s ∈ sup.snapshots calls, sup.lifecycleSnapshot.causes ⊆ s.causes := by
  intro s hs
  obtain ⟨controller, hcontroller, rfl⟩ := List.mem_map.mp hs
  exact Machine.states_latched SafetyLifecycleController.perform (· = true)
    (P := fun controller => sup.lifecycleSnapshot.causes ⊆ controller.snapshot.causes)
    (fun controller op hsub hn => hsub.trans
      ((controller.perform_transition op).causes (Bool.eq_false_of_not_eq_true hn)))
    sup.lifecycle (Finset.Subset.refl _) _ (sup.run_clears_nothing calls h) controller hcontroller

theorem snapshots_sequence_inj (sup : MotionSafetySupervisor α)
    (calls : List (SupervisorCall α)) (s t : SafetyLifecycleSnapshot)
    (hs : s ∈ sup.snapshots calls) (ht : t ∈ sup.snapshots calls)
    (heq : s.sequence = t.sequence) : s = t := by
  obtain ⟨c, hc, rfl⟩ := List.mem_map.mp hs
  obtain ⟨d, hd, rfl⟩ := List.mem_map.mp ht
  exact Machine.states_version_inj SafetyLifecycleController.perform
    SafetyLifecycleController.snapshot SafetyLifecycleSnapshot.sequence
    (fun controller op => (controller.perform_transition op).sequence) _ _ c hc d hd heq

/-- The latch over a run: `before` are the calls made first, `later` those after them. -/
structure LatchHolds (sup : MotionSafetySupervisor α) (before later : List (SupervisorCall α)) :
    Prop where
  consistent : ∀ s ∈ sup.snapshots (before ++ later), s.Consistent
  stops : (Machine.run call sup before).lifecycleSnapshot.estopLatched = true →
    (∀ e ∈ Machine.trace call (Machine.run call sup before) later, ¬ e.output.Clears) →
    ∀ e ∈ Machine.trace call (Machine.run call sup before) later,
      e.after.lifecycleSnapshot.estopLatched = true ∧ e.output.Stops
  resets : ∀ e ∈ Machine.trace call (Machine.run call sup before) later, e.output.Clears →
    e.before.lifecycleSnapshot.physicalEstopActive = false ∧
      e.before.lifecycleSnapshot.watchdogArmed = true ∧
      e.before.lifecycleSnapshot.watchdogHealthy = true
  causes : (∀ e ∈ Machine.trace call (Machine.run call sup before) later, ¬ e.output.Clears) →
    ∀ s ∈ (Machine.run call sup before).snapshots later,
      (Machine.run call sup before).lifecycleSnapshot.causes ⊆ s.causes
  sequence : ∀ s ∈ sup.snapshots (before ++ later), ∀ t ∈ sup.snapshots (before ++ later),
    s.sequence = t.sequence → s = t

/-- The latch holds over every run of a newly created supervisor. -/
theorem supervisor_latch (envelope : SafetyEnvelope α) (policy : SafetyLifecyclePolicy α)
    (sup : MotionSafetySupervisor α) (hnew : create envelope policy = .ok sup)
    (before later : List (SupervisorCall α)) : sup.LatchHolds before later where
  consistent := by
    have hinitial : sup.lifecycleSnapshot.Consistent := by
      rw [create_snapshot envelope policy sup hnew]
      exact SafetyLifecycleSnapshot.consistent_initial
    exact sup.controllers_consistent hinitial _
  stops hlatched hno e he := by
    -- latched before each call, hence after it, and then its verdict is a stop
    have hbefore := Machine.trace_latched call SupervisorOutput.Clears call_latched _
      hlatched later hno e he
    have hstep := Machine.trace_step call _ later e he
    have hafter := call_latched e.before e.input hbefore (by rw [hstep]; exact hno e he)
    have hstops := call_stops e.before e.input hafter
    rw [hstep] at hafter hstops
    exact ⟨hafter, hstops⟩
  resets e he hclears := by
    refine call_clears e.before e.input ?_
    rwa [Machine.trace_step call _ later e he]
  causes := causes_grow _ later
  sequence s hs t ht heq := sup.snapshots_sequence_inj _ s t hs ht heq

/-- A supervisor over an unverified robot, with the default timeout. -/
def unverifiedEnvelope : SafetyEnvelope ℚ where
  joints := ∅
  workspace := ⟨none, none, none, none, none, none, false⟩
  allowedStates := {.armed}
  robotVerified := false
  servosVerified := false
  motionPolicy := some ⟨.finite 250, .finite 500, .finite 45, .finite 90⟩

def unverifiedSupervisor : MotionSafetySupervisor ℚ :=
  ⟨unverifiedEnvelope, ⟨{ heartbeatTimeoutMs := .finite 500 }, {}, by decide⟩, by decide⟩

/-- A NaN heartbeat age latches; a denied and a granted reset follow. -/
theorem supervisor_latch_nan_age :
    unverifiedSupervisor.LatchHolds [.armWatchdog, .observeHeartbeatAge .nan]
      [.requestManualReset, .observeHeartbeatAge (.finite 20), .requestManualReset] :=
  supervisor_latch unverifiedEnvelope { heartbeatTimeoutMs := .finite 500 } unverifiedSupervisor
    rfl _ _

end MotionSafetySupervisor

end RoboticCharacter.Safety
