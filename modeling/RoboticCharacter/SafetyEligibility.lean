import RoboticCharacter.SafetyModels

/-! Static motion eligibility: the pose of a candidate against the envelope. -/
namespace RoboticCharacter.Safety

variable {α : Type*} [LinearOrder α] [ToString α]

def stateViolations (envelope : SafetyEnvelope α) (candidate : MotionCandidate α) :
    List SafetyViolation :=
  if candidate.systemState ∉ envelope.allowedStates then
    [{ code := .stateNotAllowed
       detail := s!"motion is not allowed in state {candidate.systemState.value}" }]
  else []

def emptyTargetViolations (candidate : MotionCandidate α) : List SafetyViolation :=
  if candidate.jointTargetsDeg.entries = [] then
    [{ code := .emptyJointTargets, detail := "candidate contains no joint targets" }]
  else []

/-- One turn of the loop over the joint targets. -/
def jointTargetViolations (envelope : SafetyEnvelope α) (name : String)
    (targetDeg : ExtendedNumber α) : List SafetyViolation :=
  if targetDeg.isFinite = false then
    [{ code := .invalidNumericTarget
       detail := s!"joint {PythonText.repr name} target is not finite" }]
  else
    match envelope.joints.lookup name with
    | none =>
      [{ code := .unknownJoint
         detail := s!"joint {PythonText.repr name} is not present in the verified model" }]
    | some constraint =>
      if constraint.verifiedComplete = false then
        [{ code := .jointModelUnverified
           detail :=
             s!"joint {PythonText.repr name} does not have verified min/neutral/max limits" }]
      else if constraint.contains targetDeg = false then
        [{ code := .jointLimitViolation
           detail := s!"joint {PythonText.repr name} target {targetDeg.format} deg is outside " ++
             "verified limits" }]
      else []

def jointViolations (envelope : SafetyEnvelope α) (candidate : MotionCandidate α) :
    List SafetyViolation :=
  if envelope.servosVerified = false then
    [{ code := .jointModelUnverified
       detail := "servo hardware and measured joint limits are not verified" }]
  else
    candidate.jointTargetsDeg.entries.flatMap
      (fun entry => jointTargetViolations envelope entry.1 entry.2)

def workspaceViolations (envelope : SafetyEnvelope α) (candidate : MotionCandidate α) :
    List SafetyViolation :=
  if envelope.robotVerified = false then
    [{ code := .workspaceModelUnverified
       detail := "robot geometry and workspace are not verified" }]
  else if envelope.workspace.verifiedComplete = false then
    [{ code := .workspaceModelUnverified
       detail := "workspace does not contain a complete verified axis envelope" }]
  else
    match candidate.workspacePointMm with
    | none =>
      [{ code := .workspaceTargetRequired
         detail := "candidate must include a workspace point for physical eligibility" }]
    | some point =>
      if point.finite = false then
        [{ code := .invalidNumericTarget
           detail := "workspace target contains a non-finite coordinate" }]
      else if envelope.workspace.contains point = false then
        [{ code := .workspaceLimitViolation
           detail := "workspace target lies outside the verified physical envelope" }]
      else []

def verdict (violations : List SafetyViolation) : MotionEligibility :=
  if violations ≠ [] then ⟨.reject, violations⟩ else ⟨.approve, []⟩

def assessMotionEligibility (envelope : SafetyEnvelope α) (candidate : MotionCandidate α) :
    MotionEligibility :=
  if candidate.estopActive then
    ⟨.estop, [{ code := .estopActive, detail := "emergency stop is active" }]⟩
  else
    verdict (stateViolations envelope candidate ++ (emptyTargetViolations candidate ++
      (jointViolations envelope candidate ++ workspaceViolations envelope candidate)))

theorem verdict_approved_iff (violations : List SafetyViolation) :
    (verdict violations).approved = true ↔ violations = [] := by
  unfold verdict
  split_ifs with h <;> simp_all [MotionEligibility.approved]

def TargetAdmitted (envelope : SafetyEnvelope α) (name : String) (target : ExtendedNumber α) :
    Prop :=
  target.isFinite = true ∧ ∃ constraint, envelope.joints.lookup name = some constraint ∧
    constraint.verifiedComplete = true ∧ constraint.contains target = true

theorem jointTargetViolations_eq_nil_iff (envelope : SafetyEnvelope α) (name : String)
    (target : ExtendedNumber α) :
    jointTargetViolations envelope name target = [] ↔ TargetAdmitted envelope name target := by
  unfold jointTargetViolations TargetAdmitted
  split_ifs with hf
  · simp [hf]
  · cases hc : envelope.joints.lookup name with
    | none => simp
    | some constraint =>
      dsimp only
      split_ifs with hv hin <;> simp_all

/-- What the static layer asks of a candidate. -/
structure StaticallySafe (envelope : SafetyEnvelope α) (candidate : MotionCandidate α) : Prop where
  released : candidate.estopActive = false
  state_allowed : candidate.systemState ∈ envelope.allowedStates
  targets_nonempty : candidate.jointTargetsDeg.entries ≠ []
  servos_verified : envelope.servosVerified = true
  targets_admitted : ∀ name target, candidate.jointTargetsDeg.lookup name = some target →
    TargetAdmitted envelope name target
  robot_verified : envelope.robotVerified = true
  workspace_verified : envelope.workspace.verifiedComplete = true
  point_admitted : ∃ point, candidate.workspacePointMm = some point ∧ point.finite = true ∧
    envelope.workspace.contains point = true

theorem jointViolations_eq_nil_iff (envelope : SafetyEnvelope α) (candidate : MotionCandidate α) :
    jointViolations envelope candidate = [] ↔ envelope.servosVerified = true ∧
      ∀ name target, candidate.jointTargetsDeg.lookup name = some target →
        TargetAdmitted envelope name target := by
  unfold jointViolations
  split_ifs with hs
  · simp [hs]
  · simp only [List.flatMap_eq_nil_iff, jointTargetViolations_eq_nil_iff,
      Bool.eq_true_of_not_eq_false hs, true_and, AList.mem_lookup_iff, ← Option.mem_def]
    exact ⟨fun h name target hm => h ⟨name, target⟩ hm, fun h entry hm => h entry.1 entry.2 hm⟩

omit [ToString α] in
theorem workspaceViolations_eq_nil_iff (envelope : SafetyEnvelope α)
    (candidate : MotionCandidate α) :
    workspaceViolations envelope candidate = [] ↔ envelope.robotVerified = true ∧
      envelope.workspace.verifiedComplete = true ∧
      ∃ point, candidate.workspacePointMm = some point ∧ point.finite = true ∧
        envelope.workspace.contains point = true := by
  unfold workspaceViolations
  split_ifs with hr hw
  · simp [hr]
  · simp [hw]
  · cases hp : candidate.workspacePointMm with
    | none => simp
    | some point =>
      dsimp only
      split_ifs with hf hin <;> simp_all

/-- The static layer approves exactly the statically safe candidates. -/
theorem assessMotionEligibility_approved_iff (envelope : SafetyEnvelope α)
    (candidate : MotionCandidate α) :
    (assessMotionEligibility envelope candidate).approved = true ↔
      StaticallySafe envelope candidate := by
  have hstate : stateViolations envelope candidate = [] ↔
      candidate.systemState ∈ envelope.allowedStates := by
    unfold stateViolations
    split_ifs with h <;> simp_all
  have hempty : emptyTargetViolations candidate = [] ↔
      candidate.jointTargetsDeg.entries ≠ [] := by
    unfold emptyTargetViolations
    split_ifs with h <;> simp_all
  unfold assessMotionEligibility
  split_ifs with he
  · refine iff_of_false (by decide) (fun h => ?_)
    rw [h.released] at he
    cases he
  · rw [verdict_approved_iff, List.append_eq_nil_iff, List.append_eq_nil_iff,
      List.append_eq_nil_iff, hstate, hempty, jointViolations_eq_nil_iff,
      workspaceViolations_eq_nil_iff]
    constructor
    · intro hsilent
      obtain ⟨hallowed, hnonempty, ⟨hservos, htargets⟩, hrobot, hworkspace, hpoint⟩ := hsilent
      exact ⟨Bool.eq_false_of_not_eq_true he, hallowed, hnonempty, hservos, htargets, hrobot,
        hworkspace, hpoint⟩
    · intro h
      exact ⟨h.state_allowed, h.targets_nonempty, ⟨h.servos_verified, h.targets_admitted⟩,
        h.robot_verified, h.workspace_verified, h.point_admitted⟩

end RoboticCharacter.Safety
