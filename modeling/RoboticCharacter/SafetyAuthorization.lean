import RoboticCharacter.SafetySupervisor

/-! The supervisor authorizes exactly the safe candidates. -/
namespace RoboticCharacter.Safety

variable {α : Type*} [LinearOrder α]

namespace SafetyLifecycleController

/-- The controller counts an age as fresh. -/
def Fresh [Zero α] (c : SafetyLifecycleController α) (age : ExtendedNumber α) : Prop :=
  ExtendedNumber.FiniteIn (.finite 0) c.policy.heartbeatTimeoutMs age

theorem timeout_ne_nan [Zero α] (c : SafetyLifecycleController α) :
    c.policy.heartbeatTimeoutMs ≠ .nan := by
  have hvalid := c.policy_valid
  rw [SafetyLifecyclePolicy.valid, Bool.and_eq_true] at hvalid
  exact isPositive_ne_nan _ hvalid.1

/-- The two refusals of the watchdog together are the negation of freshness. -/
theorem fresh_iff [Zero α] (c : SafetyLifecycleController α) (age : ExtendedNumber α) :
    c.Fresh age ↔ ¬ (age.isFinite = false ∨ age.lt (.finite 0) = true) ∧
      ¬ c.policy.heartbeatTimeoutMs.lt age = true := by
  rw [Fresh, ExtendedNumber.finiteIn_iff _ _ _ (by simp) c.timeout_ne_nan, Bool.not_eq_true]

/-- After the physical stop is set, the snapshot shows it, and is latched if it was or is. -/
theorem setPhysicalEstop_snapshot [Zero α] (c : SafetyLifecycleController α) (active : Bool) :
    (c.setPhysicalEstop active).snapshot.estopLatched = (c.snapshot.estopLatched || active) ∧
    (c.setPhysicalEstop active).snapshot.physicalEstopActive = active ∧
    (c.setPhysicalEstop active).snapshot.watchdogArmed = c.snapshot.watchdogArmed := by
  unfold setPhysicalEstop
  split_ifs with hactive hphysical
  · rw [hactive, Bool.or_true]
    exact ⟨rfl, rfl, rfl⟩
  · rw [Bool.eq_false_of_not_eq_true hactive, Bool.or_false]
    exact ⟨rfl, hphysical, rfl⟩
  · rw [Bool.eq_false_of_not_eq_true hactive, Bool.or_false]
    exact ⟨rfl, rfl, rfl⟩

/-- An unarmed watchdog ignores ages; an armed one is healthy after a fresh age and
latches on any other. -/
theorem observeHeartbeatAge_snapshot [Zero α] [ToString α] (c : SafetyLifecycleController α)
    (age : ExtendedNumber α) :
    (c.observeHeartbeatAge age).snapshot.watchdogArmed = c.snapshot.watchdogArmed ∧
    (c.observeHeartbeatAge age).snapshot.physicalEstopActive = c.snapshot.physicalEstopActive ∧
    (c.snapshot.watchdogArmed = true →
      ((c.observeHeartbeatAge age).snapshot.estopLatched = false ↔
        c.snapshot.estopLatched = false ∧ c.Fresh age) ∧
      ((c.observeHeartbeatAge age).snapshot.watchdogHealthy = true ↔ c.Fresh age)) := by
  unfold observeHeartbeatAge
  rw [fresh_iff]
  split_ifs with harmed hinvalid hstale hhealthy
  · exact ⟨rfl, rfl, fun h => absurd (harmed.symm.trans h) nofun⟩
  · exact ⟨rfl, rfl, fun _ => ⟨iff_of_false nofun (fun h => h.2.1 hinvalid),
      iff_of_false nofun (fun h => h.1 hinvalid)⟩⟩
  · exact ⟨rfl, rfl, fun _ => ⟨iff_of_false nofun (fun h => h.2.2 hstale),
      iff_of_false nofun (fun h => h.2 hstale)⟩⟩
  · exact ⟨rfl, rfl, fun _ => ⟨(and_iff_left ⟨hinvalid, hstale⟩).symm,
      iff_of_true hhealthy ⟨hinvalid, hstale⟩⟩⟩
  · exact ⟨rfl, rfl, fun _ => ⟨(and_iff_left ⟨hinvalid, hstale⟩).symm,
      iff_of_true rfl ⟨hinvalid, hstale⟩⟩⟩

end SafetyLifecycleController

omit [LinearOrder α] in
theorem MotionSafetyResult.approved_of_unauthorized (r : MotionSafetyResult α)
    (h : r.authorization = none) : r.approved = false := by
  rw [approved, h, Option.isSome_none, Bool.and_false]

omit [LinearOrder α] in
theorem evaluateLifecycle_unauthorized (s : SafetyLifecycleSnapshot) (r : MotionSafetyResult α)
    (h : evaluateLifecycle s = some r) : r.authorization = none := by
  unfold evaluateLifecycle at h
  split_ifs at h <;> cases h <;> rfl

omit [LinearOrder α] in
theorem evaluateLifecycle_eq_none_iff (s : SafetyLifecycleSnapshot) :
    evaluateLifecycle (α := α) s = none ↔ s.estopLatched = false ∧
      s.physicalEstopActive = false ∧ s.watchdogArmed = true ∧ s.watchdogHealthy = true := by
  unfold evaluateLifecycle
  split_ifs with hstop harmed hhealthy
  · refine iff_of_false nofun ?_
    intro hclear
    obtain ⟨hl, hp, _⟩ := hclear
    rw [hl, hp] at hstop
    simp at hstop
  · simp [harmed]
  · simp [hhealthy]
  · simp_all

namespace MotionSafetySupervisor
variable [AddCommGroup α] [ToString α]

/-- When the supervisor may let a candidate move. -/
structure SafeToMove (sup : MotionSafetySupervisor α) (candidate : MotionCandidate α)
    (dynamics : MotionDynamics α) : Prop where
  unlatched : sup.lifecycleSnapshot.estopLatched = false
  armed : sup.lifecycleSnapshot.watchdogArmed = true
  statically_safe : StaticallySafe sup.envelope candidate
  dynamically_safe : ∃ policy, sup.envelope.motionPolicy = some policy ∧
    DynamicallySafe sup.envelope policy candidate dynamics

omit [ToString α] in
/-- The lifecycle watches for the timeout of the motion policy. -/
theorem SafeToMove.heartbeat_fresh {sup : MotionSafetySupervisor α}
    {candidate : MotionCandidate α} {dynamics : MotionDynamics α}
    (h : sup.SafeToMove candidate dynamics) : sup.lifecycle.Fresh dynamics.heartbeatAgeMs := by
  obtain ⟨policy, hpolicy, hsafe⟩ := h.dynamically_safe
  have hmatch := (ExtendedNumber.eq_iff _ _).mp (sup.timeouts_match policy hpolicy)
  rw [SafetyLifecycleController.Fresh, ← hmatch.1]
  exact hsafe.heartbeat_fresh

theorem observe_admits_iff (sup : MotionSafetySupervisor α) (candidate : MotionCandidate α)
    (dynamics : MotionDynamics α) :
    evaluateLifecycle (α := α) (sup.observe candidate dynamics).lifecycleSnapshot = none ↔
      sup.lifecycleSnapshot.estopLatched = false ∧ candidate.estopActive = false ∧
        sup.lifecycleSnapshot.watchdogArmed = true ∧
        sup.lifecycle.Fresh dynamics.heartbeatAgeMs := by
  obtain ⟨hlatched, hphysical, harmed⟩ :=
    sup.lifecycle.setPhysicalEstop_snapshot candidate.estopActive
  obtain ⟨harmed', hphysical', hwatch⟩ :=
    (sup.lifecycle.setPhysicalEstop candidate.estopActive).observeHeartbeatAge_snapshot
      dynamics.heartbeatAgeMs
  -- the physical input leaves the policy, so the same ages are fresh after it
  have hfresh : (sup.lifecycle.setPhysicalEstop candidate.estopActive).Fresh
      dynamics.heartbeatAgeMs ↔ sup.lifecycle.Fresh dynamics.heartbeatAgeMs := by
    have hpolicy := sup.lifecycle.perform_policy (.setPhysicalEstop candidate.estopActive)
    rw [SafetyLifecycleController.Fresh, SafetyLifecycleController.Fresh, ← hpolicy]
    rfl
  rw [hlatched, hfresh, harmed, Bool.or_eq_false_iff] at hwatch
  rw [evaluateLifecycle_eq_none_iff]
  change ((sup.lifecycle.setPhysicalEstop candidate.estopActive).observeHeartbeatAge
      dynamics.heartbeatAgeMs).snapshot.estopLatched = false ∧
    ((sup.lifecycle.setPhysicalEstop candidate.estopActive).observeHeartbeatAge
      dynamics.heartbeatAgeMs).snapshot.physicalEstopActive = false ∧
    ((sup.lifecycle.setPhysicalEstop candidate.estopActive).observeHeartbeatAge
      dynamics.heartbeatAgeMs).snapshot.watchdogArmed = true ∧ _ ↔ _
  rw [harmed', hphysical', harmed, hphysical]
  constructor
  · intro hclear
    obtain ⟨hl, hp, ha, hh⟩ := hclear
    obtain ⟨hl', hh'⟩ := hwatch ha
    exact ⟨(hl'.mp hl).1.1, hp, ha, hh'.mp hh⟩
  · intro hclear
    obtain ⟨hl, hp, ha, hf⟩ := hclear
    obtain ⟨hl', hh'⟩ := hwatch ha
    exact ⟨hl'.mpr ⟨⟨hl, hp⟩, hf⟩, hp, ha, hh'.mpr hf⟩

def authorizationFor (sup : MotionSafetySupervisor α) (candidate : MotionCandidate α)
    (policy : MotionSafetyPolicy α) (point : CartesianPoint α) (uuid : Uuid) :
    MotionAuthorization α where
  authorizationId := uuid
  lifecycleSequence := sup.lifecycleSnapshot.sequence
  jointTargetsDeg := candidate.jointTargetsDeg
  workspacePointMm := point
  commandTtlMs := policy.commandTtlMs
  maxVelocityDegS := policy.maxVelocityDegS
  maxAccelerationDegS2 := policy.maxAccelerationDegS2

theorem decideMotion_of_unsafe (sup : MotionSafetySupervisor α) (candidate : MotionCandidate α)
    (dynamics : MotionDynamics α) (uuid : Uuid)
    (h : ¬ (evaluateLifecycle (α := α) sup.lifecycleSnapshot = none ∧
      (assessDynamicMotionEligibility sup.envelope candidate dynamics).approved = true)) :
    (sup.decideMotion candidate dynamics uuid).authorization = none := by
  unfold decideMotion
  dsimp only
  cases hl : evaluateLifecycle (α := α) sup.lifecycleSnapshot with
  | some result => exact evaluateLifecycle_unauthorized _ _ hl
  | none =>
    have hdenied : (assessDynamicMotionEligibility sup.envelope candidate dynamics).approved =
        false := by
      simpa only [hl, true_and, Bool.not_eq_true] using h
    rw [if_pos hdenied]

theorem decideMotion_of_safe (sup : MotionSafetySupervisor α) (candidate : MotionCandidate α)
    (dynamics : MotionDynamics α) (uuid : Uuid) (policy : MotionSafetyPolicy α)
    (point : CartesianPoint α) (hl : evaluateLifecycle (α := α) sup.lifecycleSnapshot = none)
    (he : (assessDynamicMotionEligibility sup.envelope candidate dynamics).approved = true)
    (hpolicy : sup.envelope.motionPolicy = some policy) (hvalid : policy.valid = true)
    (hpoint : candidate.workspacePointMm = some point) :
    sup.decideMotion candidate dynamics uuid =
      ⟨.approve, [], sup.lifecycleSnapshot,
        some (sup.authorizationFor candidate policy point uuid)⟩ := by
  simp only [decideMotion, hl, he, hpolicy, hvalid, hpoint, Bool.true_eq_false, if_false,
    authorizationFor]

/-- Both layers admit a safe candidate, and it is authorized. -/
theorem evaluate_of_safe (sup : MotionSafetySupervisor α) (candidate : MotionCandidate α)
    (dynamics : MotionDynamics α) (uuid : Uuid) (hsafe : sup.SafeToMove candidate dynamics) :
    ∃ policy point, sup.envelope.motionPolicy = some policy ∧
      candidate.workspacePointMm = some point ∧ (sup.evaluate candidate dynamics uuid).2 =
        ⟨.approve, [], (sup.evaluate candidate dynamics uuid).1.lifecycleSnapshot,
          some ((sup.evaluate candidate dynamics uuid).1.authorizationFor candidate policy point
            uuid)⟩ := by
  obtain ⟨policy, hpolicy, hdynamic⟩ := hsafe.dynamically_safe
  obtain ⟨point, hpoint, -⟩ := hsafe.statically_safe.point_admitted
  have hl := (sup.observe_admits_iff candidate dynamics).mpr
    ⟨hsafe.unlatched, hsafe.statically_safe.released, hsafe.armed, hsafe.heartbeat_fresh⟩
  have he := (assessDynamicMotionEligibility_approved_iff sup.envelope candidate dynamics).mpr
    ⟨hsafe.statically_safe, hsafe.dynamically_safe⟩
  exact ⟨policy, point, hpolicy, hpoint,
    decideMotion_of_safe (sup.observe candidate dynamics) candidate dynamics uuid policy point
      hl he hpolicy hdynamic.policy_valid hpoint⟩

/-- One of the layers refuses an unsafe candidate, and nothing is authorized. -/
theorem evaluate_of_unsafe (sup : MotionSafetySupervisor α) (candidate : MotionCandidate α)
    (dynamics : MotionDynamics α) (uuid : Uuid) (h : ¬ sup.SafeToMove candidate dynamics) :
    (sup.evaluate candidate dynamics uuid).2.authorization = none := by
  apply decideMotion_of_unsafe (sup.observe candidate dynamics) candidate dynamics uuid
  intro hadmitted
  obtain ⟨hunlatched, -, harmed, -⟩ := (sup.observe_admits_iff candidate dynamics).mp hadmitted.1
  obtain ⟨hstatic, hdynamic⟩ :=
    (assessDynamicMotionEligibility_approved_iff sup.envelope candidate dynamics).mp hadmitted.2
  exact h ⟨hunlatched, harmed, hstatic, hdynamic⟩

/-- The supervisor approves, with an authorization, exactly the candidates that are safe
to move. The authorization repeats the candidate's targets and point, the policy's limits
and the sequence of the lifecycle that admitted it; every other decision carries none. -/
theorem evaluate_approved_iff (sup : MotionSafetySupervisor α) (candidate : MotionCandidate α)
    (dynamics : MotionDynamics α) (uuid : Uuid) :
    let after := (sup.evaluate candidate dynamics uuid).1
    let result := (sup.evaluate candidate dynamics uuid).2
    (result.approved = true ∧ result.authorization.isSome = true ↔
      sup.SafeToMove candidate dynamics) ∧
    (result.approved = false → result.authorization = none) ∧
    (result.approved = true → ∃ policy point, sup.envelope.motionPolicy = some policy ∧
      candidate.workspacePointMm = some point ∧
      result.authorization = some (after.authorizationFor candidate policy point uuid)) := by
  dsimp only
  by_cases hsafe : sup.SafeToMove candidate dynamics
  · obtain ⟨policy, point, hpolicy, hpoint, hresult⟩ :=
      sup.evaluate_of_safe candidate dynamics uuid hsafe
    rw [hresult]
    exact ⟨iff_of_true ⟨rfl, rfl⟩ hsafe, nofun, fun _ => ⟨policy, point, hpolicy, hpoint, rfl⟩⟩
  · have hnone := sup.evaluate_of_unsafe candidate dynamics uuid hsafe
    have hdenied := MotionSafetyResult.approved_of_unauthorized _ hnone
    rw [hdenied, hnone]
    exact ⟨iff_of_false nofun hsafe, fun _ => rfl, nofun⟩

end MotionSafetySupervisor

end RoboticCharacter.Safety
