import RoboticCharacter.Fallible
import RoboticCharacter.SafetyModels
import Mathlib.Algebra.Order.Ring.Defs
import Mathlib.Data.Nat.Cast.Order.Ring
import Mathlib.Data.List.Sort

/-! The application settings, as far as motion safety reads them, with what their models admit,
and the cross-file validation. -/
namespace RoboticCharacter.Config
open Safety Fallible

section Float

/-- The integer of at most 53 significant bits that is nearest to `n`, at a tie the even one. -/
def roundToSignificand (n : ℕ) : ℕ :=
  let unit := 2^(n.log2-52)
  let quotient := n/unit
  let remainder := n%unit
  if 2*remainder < unit ∨ 2*remainder = unit ∧ quotient%2 = 0 then quotient*unit
  else (quotient+1)*unit

/-- `float(n)`; `none` where it raises because the double would overflow. -/
def floatOfInt {K : Type} [NatCast K] (n : ℕ) : Option K :=
  if roundToSignificand n < 2^1024 then some (roundToSignificand n : K) else none

theorem roundToSignificand_pos {n : ℕ} (h : 0 < n) : 0 < roundToSignificand n := by
  have hunit : 2^(n.log2-52) ≤ n :=
    (Nat.pow_le_pow_right two_pos (Nat.sub_le _ _)).trans (Nat.log2_self_le h.ne')
  have hquotient : 0 < n/2^(n.log2-52) := Nat.div_pos hunit (Nat.two_pow_pos _)
  unfold roundToSignificand
  dsimp only
  split_ifs
  · exact Nat.mul_pos hquotient (Nat.two_pow_pos _)
  · exact Nat.mul_pos (Nat.succ_pos _) (Nat.two_pow_pos _)

theorem floatOfInt_pos {K : Type} [Semiring K] [PartialOrder K] [IsStrictOrderedRing K] {n : ℕ}
    (h : 0 < n) {value : K} (hvalue : floatOfInt n = some value) : 0 < value := by
  unfold floatOfInt at hvalue
  split_ifs at hvalue
  rw [← Option.some.inj hvalue]
  exact Nat.cast_pos.mpr (roundToSignificand_pos h)

end Float

structure SystemSettings where
  simulation : Bool := true
  startupState : SystemState := .boot

/-- The check `gt=0` of a field with a floating-point number; NaN passes it. -/
def GreaterThanZero {α : Type} [LinearOrder α] [Zero α] (value : ExtendedNumber α) : Prop :=
  value.le (.finite 0) = false

section Settings
variable (α : Type) [LinearOrder α] [Zero α]

structure SafetyMotionSettings where
  commandTtlMs : ℕ
  heartbeatIntervalMs : ℕ
  heartbeatTimeoutMs : ℕ
  maxVelocityDegS : ExtendedNumber α
  maxAccelerationDegS2 : ExtendedNumber α
  commandTtl_pos : 0 < commandTtlMs
  heartbeatInterval_pos : 0 < heartbeatIntervalMs
  heartbeatTimeout_pos : 0 < heartbeatTimeoutMs
  maxVelocity_gt : GreaterThanZero maxVelocityDegS
  maxAcceleration_gt : GreaterThanZero maxAccelerationDegS2

structure SafetySettings where
  motion : SafetyMotionSettings α
  motionAllowed : List SystemState
  requireManualReset : Bool := true

structure RobotLinksSettings where
  shoulderMm : Option (ExtendedNumber α) := none
  forearmMm : Option (ExtendedNumber α) := none
  shoulder_gt : ∀ value ∈ shoulderMm, GreaterThanZero value
  forearm_gt : ∀ value ∈ forearmMm, GreaterThanZero value

structure RobotPoseSettings where
  home : Dict (ExtendedNumber α) := ∅
  safe : Dict (ExtendedNumber α) := ∅

structure RobotWorkspaceSettings where
  minXMm : Option (ExtendedNumber α) := none
  maxXMm : Option (ExtendedNumber α) := none
  minYMm : Option (ExtendedNumber α) := none
  maxYMm : Option (ExtendedNumber α) := none
  minZMm : Option (ExtendedNumber α) := none
  maxZMm : Option (ExtendedNumber α) := none

structure RobotSettings where
  hardwareVerified : Bool := false
  links : RobotLinksSettings α
  poses : RobotPoseSettings α
  workspace : RobotWorkspaceSettings α

structure ServoJointSettings where
  protocolId : Option ℤ := none
  minDeg : Option (ExtendedNumber α) := none
  maxDeg : Option (ExtendedNumber α) := none
  neutralDeg : Option (ExtendedNumber α) := none
  protocolId_range : ∀ id ∈ protocolId, 1 ≤ id ∧ id ≤ 255

structure ServosSettings where
  hardwareVerified : Bool := false
  joints : Dict (ServoJointSettings α)

structure AppSettings where
  system : SystemSettings
  safety : SafetySettings α
  robot : RobotSettings α
  servos : ServosSettings α

end Settings

section Validator
variable {α : Type} [LinearOrder α] [Zero α]

/-- One turn of the loop of `_validate_workspace`; `minimum >= maximum` is `maximum <= minimum`. -/
def validateAxis (axis : String) (minimum maximum : Option (ExtendedNumber α)) :
    Except String Unit :=
  match minimum, maximum with
  | some minimum, some maximum =>
    require (maximum.le minimum = false) s!"workspace {axis} minimum must be less than maximum"
  | _, _ => .error s!"verified robot requires complete {axis}-workspace limits"

def validateWorkspace (workspace : RobotWorkspaceSettings α) : Except String Unit := do
  validateAxis "x" workspace.minXMm workspace.maxXMm
  validateAxis "y" workspace.minYMm workspace.maxYMm
  validateAxis "z" workspace.minZMm workspace.maxZMm

def validateVerifiedJoint (name : String) (joint : ServoJointSettings α) : Except String Unit :=
  match joint.minDeg, joint.neutralDeg, joint.maxDeg with
  | some minimum, some neutral, some maximum =>
    require (minimum.lt neutral = true ∧ neutral.lt maximum = true)
      s!"servo joint {PythonText.repr name} must satisfy min < neutral < max"
  | _, _, _ =>
    .error s!"verified servo joint {PythonText.repr name} requires min/neutral/max angles"

def validateVerifiedJoints :
    List (Sigma fun _ : String => ServoJointSettings α) → Except String Unit
  | [] => .ok ()
  | ⟨name, joint⟩ :: rest => do
    validateVerifiedJoint name joint
    validateVerifiedJoints rest

/-- The loop of `_validate_protocol_joint_ids`, with the ids seen and the joints they are of. -/
def validateProtocolJointIds : List (Sigma fun _ : String => ServoJointSettings α) →
    List (ℤ × String) → Except String Unit
  | [], _ => .ok ()
  | ⟨name, joint⟩ :: rest, seen =>
    match joint.protocolId with
    | none => .error s!"servo joint {PythonText.repr name} requires protocol_id"
    | some protocolId =>
      match seen.lookup protocolId with
      | some previous =>
        .error (s!"servo joints {PythonText.repr previous} and {PythonText.repr name} " ++
          s!"share protocol_id {protocolId}")
      | none => validateProtocolJointIds rest ((protocolId, name) :: seen)

/-- The check of a branch: nothing is checked where the condition is false. -/
def checkIf (condition : Bool) (check : Except String Unit) : Except String Unit :=
  if condition then check else .ok ()

def validateVerifiedServos (servos : ServosSettings α) : Except String Unit := do
  require (servos.joints.entries ≠ []) "verified servo configuration requires joints"
  validateVerifiedJoints servos.joints.entries

def validateVerifiedRobot (robot : RobotSettings α) : Except String Unit := do
  require (robot.links.shoulderMm.isSome = true ∧ robot.links.forearmMm.isSome = true)
    "verified robot requires measured link lengths"
  require (robot.poses.home.entries ≠ [] ∧ robot.poses.safe.entries ≠ [])
    "verified robot requires home and safe poses"
  validateWorkspace robot.workspace

def illegalStates (settings : AppSettings α) : List String :=
  ((settings.safety.motionAllowed.dedup.filter (fun state => state ∉ [.armed, .executing])).map
    SystemState.value).insertionSort (· ≤ ·)

def illegalStatesText (settings : AppSettings α) : String :=
  String.intercalate ", " (illegalStates settings)

def validateAppSettings (settings : AppSettings α) : Except String Unit := do
  require (settings.system.startupState = .boot) "startup_state must be BOOT"
  require (settings.safety.motion.heartbeatIntervalMs < settings.safety.motion.heartbeatTimeoutMs)
    "heartbeat timeout must exceed heartbeat interval"
  require (settings.safety.motion.commandTtlMs ≤ settings.safety.motion.heartbeatTimeoutMs)
    "command TTL must not exceed heartbeat timeout"
  require (settings.safety.requireManualReset = true)
    "V1 safety requires explicit manual emergency-stop reset"
  require (illegalStates settings = [])
    s!"motion cannot be enabled in states: {illegalStatesText settings}"
  validateProtocolJointIds settings.servos.joints.entries []
  checkIf settings.servos.hardwareVerified (validateVerifiedServos settings.servos)
  checkIf settings.robot.hardwareVerified (validateVerifiedRobot settings.robot)
  checkIf (!settings.system.simulation)
    (require (settings.robot.hardwareVerified = true ∧ settings.servos.hardwareVerified = true)
      "non-simulation mode requires verified robot and servo configurations")

theorem checkIf_eq_ok_iff (condition : Bool) (check : Except String Unit) :
    checkIf condition check = .ok () ↔ (condition = true → check = .ok ()) := by
  unfold checkIf
  cases condition with
  | false => exact iff_of_true rfl (fun h => absurd h Bool.false_ne_true)
  | true => exact ⟨fun h _ => h, fun h => h rfl⟩

omit [Zero α] in
theorem validateAxis_eq_ok_iff (axis : String) (minimum maximum : Option (ExtendedNumber α)) :
    validateAxis axis minimum maximum = .ok () ↔
      ∃ low high, minimum = some low ∧ maximum = some high ∧ high.le low = false := by
  unfold validateAxis
  cases minimum with
  | none => simp
  | some low =>
    cases maximum with
    | none => simp
    | some high => simp

omit [Zero α] in
theorem validateVerifiedJoint_eq_ok_iff (name : String) (joint : ServoJointSettings α) :
    validateVerifiedJoint name joint = .ok () ↔ ∃ low neutral high, joint.minDeg = some low ∧
      joint.neutralDeg = some neutral ∧ joint.maxDeg = some high ∧
        low.lt neutral = true ∧ neutral.lt high = true := by
  unfold validateVerifiedJoint
  cases joint.minDeg with
  | none => simp
  | some low =>
    cases joint.neutralDeg with
    | none => simp
    | some neutral =>
      cases joint.maxDeg with
      | none => simp
      | some high => simp

omit [Zero α] in
theorem validateVerifiedJoints_eq_ok_iff
    (joints : List (Sigma fun _ : String => ServoJointSettings α)) :
    validateVerifiedJoints joints = .ok () ↔
      ∀ entry ∈ joints, validateVerifiedJoint entry.1 entry.2 = .ok () := by
  induction joints with
  | nil => simp [validateVerifiedJoints]
  | cons entry rest ih => rw [validateVerifiedJoints, check_eq_ok_iff, ih, List.forall_mem_cons]

omit [LinearOrder α] [Zero α] in
/-- Every joint has an id, and no id twice. -/
theorem validateProtocolJointIds_eq_ok_iff
    (joints : List (Sigma fun _ : String => ServoJointSettings α)) (seen : List (ℤ × String)) :
    validateProtocolJointIds joints seen = .ok () ↔
      (∀ entry ∈ joints, entry.2.protocolId.isSome = true) ∧
        (joints.filterMap (fun entry => entry.2.protocolId)).Nodup ∧
          ∀ protocolId ∈ joints.filterMap (fun entry => entry.2.protocolId),
            seen.lookup protocolId = none := by
  induction joints generalizing seen with
  | nil => simp [validateProtocolJointIds]
  | cons entry rest ih =>
    obtain ⟨name, joint⟩ := entry
    unfold validateProtocolJointIds
    cases hid : joint.protocolId with
    | none => simp [hid]
    | some protocolId =>
      dsimp only
      rw [List.forall_mem_cons, List.filterMap_cons]
      simp only [hid, Option.isSome_some, true_and]
      cases hseen : seen.lookup protocolId with
      | some previous =>
        constructor
        · intro h
          cases h
        · rintro ⟨-, -, hnew⟩
          have hnone := hnew protocolId List.mem_cons_self
          rw [hseen] at hnone
          cases hnone
      | none =>
        rw [ih, List.nodup_cons, List.forall_mem_cons]
        simp only [hseen, true_and]
        -- An id of the rest is not among the seen ones, nor is it the one just seen.
        have hlookup : ∀ other, ((protocolId, name) :: seen).lookup other = none ↔
            other ≠ protocolId ∧ seen.lookup other = none := by
          intro other
          by_cases hother : other = protocolId
          · rw [hother, List.lookup_cons_self]
            simp
          · rw [List.lookup_cons, beq_false_of_ne hother]
            exact (and_iff_right hother).symm
        simp only [hlookup]
        constructor
        · rintro ⟨hsome, hnodup, hnew⟩
          exact ⟨hsome, ⟨fun hmem => (hnew protocolId hmem).1 rfl, hnodup⟩,
            fun other hother => (hnew other hother).2⟩
        · rintro ⟨hsome, ⟨hfresh, hnodup⟩, hnew⟩
          exact ⟨hsome, hnodup, fun other hother =>
            ⟨fun heq => hfresh (heq ▸ hother), hnew other hother⟩⟩

/-- What motion safety needs of settings that passed the validation. -/
structure Validated (settings : AppSettings α) : Prop where
  manual_reset : settings.safety.requireManualReset = true
  ids_present : ∀ entry ∈ settings.servos.joints.entries, entry.2.protocolId.isSome = true
  ids_unique : (settings.servos.joints.entries.filterMap (fun entry => entry.2.protocolId)).Nodup
  servos : settings.servos.hardwareVerified = true → settings.servos.joints.entries ≠ [] ∧
    ∀ entry ∈ settings.servos.joints.entries, validateVerifiedJoint entry.1 entry.2 = .ok ()
  workspace : settings.robot.hardwareVerified = true →
    validateWorkspace settings.robot.workspace = .ok ()

theorem validated_of_ok {settings : AppSettings α} (h : validateAppSettings settings = .ok ()) :
    Validated settings := by
  simp only [validateAppSettings, check_eq_ok_iff, require_eq_ok_iff, checkIf_eq_ok_iff,
    validateProtocolJointIds_eq_ok_iff, validateVerifiedServos, validateVerifiedRobot,
    validateVerifiedJoints_eq_ok_iff] at h
  obtain ⟨-, -, -, hreset, -, ⟨hpresent, hunique, -⟩, hservos, hrobot, -⟩ := h
  exact ⟨hreset, hpresent, hunique, hservos, fun hverified => (hrobot hverified).2.2⟩

end Validator

end RoboticCharacter.Config
