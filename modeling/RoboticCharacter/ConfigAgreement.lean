import RoboticCharacter.ConfigSettings
import RoboticCharacter.GatewayCore
import RoboticCharacter.SafetyAuthorization
import RoboticCharacter.SafetyLatch
import Mathlib.Data.Rat.Cast.Order

/-! What validated settings give the supervisor and the gateway that are built from them. -/
namespace RoboticCharacter.Config
open Safety Gateway Fallible

inductive ConstructionError
  | overflowError (message : String)
  | valueError (message : String)
  | gatewayProtocol (message : String)
  deriving DecidableEq

section Items
variable {β γ : Type}

theorem nodupKeys_mapItems (d : Dict β) (f : String → β → γ) :
    (d.entries.map fun entry =>
      (⟨entry.1, f entry.1 entry.2⟩ : Sigma fun _ : String => γ)).NodupKeys := by
  have hkeys := d.nodupKeys
  unfold List.NodupKeys List.keys at hkeys ⊢
  rwa [List.map_map]

/-- `{name: f(name, item) for name, item in d.items()}`. -/
def mapItems (d : Dict β) (f : String → β → γ) : Dict γ :=
  ⟨d.entries.map (fun entry => ⟨entry.1, f entry.1 entry.2⟩), nodupKeys_mapItems d f⟩

@[simp]
theorem mapItems_entries (d : Dict β) (f : String → β → γ) :
    (mapItems d f).entries = d.entries.map (fun entry => ⟨entry.1, f entry.1 entry.2⟩) := rfl

end Items

section Factory
variable {α : Type} [Field α] [LinearOrder α]

def pythonFloat (n : ℕ) : Except ConstructionError (ExtendedNumber α) :=
  match floatOfInt n with
  | some value => .ok (.finite value)
  | none => .error (.overflowError "int too large to convert to float")

def jointConstraint (servosVerified : Bool) (name : String) (joint : ServoJointSettings α) :
    JointConstraint α where
  name := name
  minDeg := joint.minDeg
  maxDeg := joint.maxDeg
  neutralDeg := joint.neutralDeg
  verified := servosVerified && joint.minDeg.isSome && joint.maxDeg.isSome &&
    joint.neutralDeg.isSome

def RobotWorkspaceSettings.complete (w : RobotWorkspaceSettings α) : Bool :=
  w.minXMm.isSome && w.maxXMm.isSome && w.minYMm.isSome && w.maxYMm.isSome && w.minZMm.isSome &&
    w.maxZMm.isSome

def workspaceBounds (robot : RobotSettings α) : WorkspaceBounds α where
  minXMm := robot.workspace.minXMm
  maxXMm := robot.workspace.maxXMm
  minYMm := robot.workspace.minYMm
  maxYMm := robot.workspace.maxYMm
  minZMm := robot.workspace.minZMm
  maxZMm := robot.workspace.maxZMm
  verified := robot.hardwareVerified && robot.workspace.complete

/-- The envelope of these settings under a motion policy. -/
def envelopeOf (settings : AppSettings α) (motionPolicy : MotionSafetyPolicy α) :
    SafetyEnvelope α where
  joints := mapItems settings.servos.joints (jointConstraint settings.servos.hardwareVerified)
  workspace := workspaceBounds settings.robot
  allowedStates := settings.safety.motionAllowed.toFinset
  robotVerified := settings.robot.hardwareVerified
  servosVerified := settings.servos.hardwareVerified
  motionPolicy := some motionPolicy

def buildSafetyEnvelope (settings : AppSettings α) :
    Except ConstructionError (SafetyEnvelope α) := do
  let commandTtlMs ← pythonFloat settings.safety.motion.commandTtlMs
  let heartbeatTimeoutMs ← pythonFloat settings.safety.motion.heartbeatTimeoutMs
  return envelopeOf settings
    { commandTtlMs := commandTtlMs
      heartbeatTimeoutMs := heartbeatTimeoutMs
      maxVelocityDegS := settings.safety.motion.maxVelocityDegS
      maxAccelerationDegS2 := settings.safety.motion.maxAccelerationDegS2 }

def buildSafetyLifecyclePolicy (settings : AppSettings α) :
    Except ConstructionError (SafetyLifecyclePolicy α) := do
  let heartbeatTimeoutMs ← pythonFloat settings.safety.motion.heartbeatTimeoutMs
  return { heartbeatTimeoutMs := heartbeatTimeoutMs
           requireManualReset := settings.safety.requireManualReset }

/-- `MotionSafetySupervisor.from_settings`. -/
def supervisorFromSettings (settings : AppSettings α) :
    Except ConstructionError (MotionSafetySupervisor α) := do
  let envelope ← buildSafetyEnvelope settings
  let policy ← buildSafetyLifecyclePolicy settings
  (MotionSafetySupervisor.create envelope policy).mapError .valueError

/-- `RobotGateway.from_settings`: the loop raises at the first joint without an id; past it the
default of `getD` is not used. -/
def gatewayFromSettings (settings : AppSettings α) (ackTimeoutS : ExtendedNumber ℚ)
    (initialSequence : ℤ) : Except ConstructionError RobotGateway :=
  match settings.servos.joints.entries.find? (fun entry => entry.2.protocolId.isNone) with
  | some entry =>
    .error (.gatewayProtocol s!"joint {PythonText.repr entry.1} is missing protocol_id")
  | none =>
    (RobotGateway.new (mapItems settings.servos.joints fun _ joint => joint.protocolId.getD 0)
      ackTimeoutS initialSequence).mapError .valueError

omit [LinearOrder α] in
theorem pythonFloat_eq_ok_iff (n : ℕ) (value : ExtendedNumber α) :
    pythonFloat n = .ok value ↔
      ∃ rounded, floatOfInt n = some rounded ∧ value = .finite rounded := by
  unfold pythonFloat
  cases floatOfInt (K := α) n with
  | none => simp
  | some rounded => simp [eq_comm]

theorem buildSafetyEnvelope_eq_ok {settings : AppSettings α} {envelope : SafetyEnvelope α}
    (h : buildSafetyEnvelope settings = .ok envelope) :
    ∃ motionPolicy, envelope = envelopeOf settings motionPolicy := by
  simp only [buildSafetyEnvelope, bind_eq_ok_iff, pure_eq_ok_iff] at h
  obtain ⟨commandTtlMs, -, heartbeatTimeoutMs, -, rfl⟩ := h
  exact ⟨_, rfl⟩

end Factory

section Supervisor
variable {α : Type} [Field α] [LinearOrder α] [IsStrictOrderedRing α]

omit [IsStrictOrderedRing α] in
theorem create_eq_ok {envelope : SafetyEnvelope α} {policy : SafetyLifecyclePolicy α}
    (hvalid : policy.valid = true) (hmatch : ∀ motionPolicy ∈ envelope.motionPolicy,
      motionPolicy.heartbeatTimeoutMs.eq policy.heartbeatTimeoutMs = true) :
    MotionSafetySupervisor.create envelope policy =
      .ok ⟨envelope, ⟨policy, {}, hvalid⟩, hmatch⟩ := by
  unfold MotionSafetySupervisor.create SafetyLifecycleController.new
  rw [dif_pos hvalid]
  exact dif_pos hmatch

/-- Both layers get the same timeout, so once the two numbers are converted nothing is refused. -/
theorem supervisorFromSettings_constructs {settings : AppSettings α} (h : Validated settings) :
    (∃ sup, supervisorFromSettings settings = .ok sup) ↔
      (∃ ttl : α, floatOfInt settings.safety.motion.commandTtlMs = some ttl) ∧
        ∃ timeout : α, floatOfInt settings.safety.motion.heartbeatTimeoutMs = some timeout := by
  unfold supervisorFromSettings buildSafetyEnvelope buildSafetyLifecyclePolicy
  simp only [bind_eq_ok_iff, pure_eq_ok_iff, mapError_eq_ok_iff, pythonFloat_eq_ok_iff]
  constructor
  · rintro ⟨sup, -, ⟨-, ⟨ttl, httl, -⟩, -, ⟨timeout, htimeout, -⟩, -⟩, -⟩
    exact ⟨⟨ttl, httl⟩, timeout, htimeout⟩
  · rintro ⟨⟨ttl, httl⟩, timeout, htimeout⟩
    have hpositive := floatOfInt_pos settings.safety.motion.heartbeatTimeout_pos htimeout
    have hvalid : (SafetyLifecyclePolicy.mk (.finite timeout)
        settings.safety.requireManualReset).valid = true := by
      unfold SafetyLifecyclePolicy.valid isPositive
      rw [h.manual_reset, Bool.and_true, Bool.and_eq_true]
      exact ⟨rfl, decide_eq_true hpositive⟩
    refine ⟨_, _, ⟨_, ⟨ttl, httl, rfl⟩, _, ⟨timeout, htimeout, rfl⟩, rfl⟩,
      _, ⟨_, ⟨timeout, htimeout, rfl⟩, rfl⟩, create_eq_ok hvalid ?_⟩
    intro motionPolicy hmem
    rw [← Option.some.inj hmem]
    apply (ExtendedNumber.eq_iff _ _).mpr
    exact ⟨rfl, fun h => by cases h⟩

omit [Field α] [LinearOrder α] [IsStrictOrderedRing α] in
/-- With an id for every joint the ids of the map are those of the settings. -/
theorem map_getD_eq_filterMap (joints : List (Sigma fun _ : String => ServoJointSettings α))
    (h : ∀ entry ∈ joints, entry.2.protocolId.isSome = true) :
    joints.map (fun entry => entry.2.protocolId.getD 0) =
      joints.filterMap (fun entry => entry.2.protocolId) := by
  induction joints with
  | nil => rfl
  | cons entry rest ih =>
    obtain ⟨hfirst, hrest⟩ := List.forall_mem_cons.mp h
    obtain ⟨protocolId, hid⟩ := Option.isSome_iff_exists.mp hfirst
    rw [List.map_cons, List.filterMap_cons, hid, ih hrest]
    rfl

omit [IsStrictOrderedRing α] in
/-- The gateway refuses settings without joints, and nothing else that was validated. -/
theorem gatewayFromSettings_constructs {settings : AppSettings α} (h : Validated settings)
    {ackTimeoutS : ExtendedNumber ℚ} (hack : ackTimeoutS.le (.finite 0) = false)
    {initialSequence : ℤ} (hsequence : 0 ≤ initialSequence ∧ initialSequence ≤ 0xFFFF) :
    (∃ gateway, gatewayFromSettings settings ackTimeoutS initialSequence = .ok gateway) ↔
      settings.servos.joints.entries ≠ [] := by
  have hfind : settings.servos.joints.entries.find? (fun entry => entry.2.protocolId.isNone) =
      none := by
    apply List.find?_eq_none.mpr
    intro entry hentry
    rw [Option.isNone_iff_eq_none, ← Option.not_isSome_iff_eq_none, not_not]
    exact h.ids_present entry hentry
  have hrange : ∀ entry ∈ (mapItems settings.servos.joints
      fun _ joint => joint.protocolId.getD 0).entries, 1 ≤ entry.2 ∧ entry.2 ≤ 0xFF := by
    intro entry hentry
    obtain ⟨source, hsource, rfl⟩ := List.mem_map.mp hentry
    obtain ⟨protocolId, hid⟩ := Option.isSome_iff_exists.mp (h.ids_present source hsource)
    dsimp only
    rw [hid]
    exact source.2.protocolId_range protocolId hid
  have hunique : ((mapItems settings.servos.joints
      fun _ joint => joint.protocolId.getD 0).entries.map (fun entry => entry.2)).Nodup := by
    rw [mapItems_entries, List.map_map]
    change (settings.servos.joints.entries.map fun entry => entry.2.protocolId.getD 0).Nodup
    rw [map_getD_eq_filterMap _ h.ids_present]
    exact h.ids_unique
  have hpositive : ¬ ackTimeoutS.le (.finite 0) = true := by
    rw [hack]
    exact Bool.false_ne_true
  -- the gateway's checks in its order; an empty mapping is the only one left to fail
  unfold gatewayFromSettings
  rw [hfind]
  simp only [mapError_eq_ok_iff]
  unfold RobotGateway.new
  rw [if_neg hpositive, dif_pos hsequence]
  by_cases hempty : settings.servos.joints.entries = []
  · have hnone : (mapItems settings.servos.joints
        fun _ joint => joint.protocolId.getD 0).entries = [] := by
      rw [mapItems_entries, hempty, List.map_nil]
    rw [if_pos hnone]
    refine iff_of_false ?_ (not_not.mpr hempty)
    rintro ⟨gateway, hgateway⟩
    cases hgateway
  · have hsome : (mapItems settings.servos.joints
        fun _ joint => joint.protocolId.getD 0).entries ≠ [] :=
      fun hnone => hempty (List.map_eq_nil_iff.mp hnone)
    rw [if_neg hsome, dif_pos hrange, dif_pos hunique]
    exact iff_of_true ⟨_, rfl⟩ hempty

/-- Neither end of an axis is NaN. -/
def RobotWorkspaceSettings.NoNan (w : RobotWorkspaceSettings α) : Prop :=
  ∀ bound ∈ [w.minXMm, w.maxXMm, w.minYMm, w.maxYMm, w.minZMm, w.maxZMm], bound ≠ some .nan

omit [Field α] [IsStrictOrderedRing α] in
theorem axis_lt {axis : String} {minimum maximum : Option (ExtendedNumber α)}
    (h : validateAxis axis minimum maximum = .ok ()) (hmin : minimum ≠ some .nan)
    (hmax : maximum ≠ some .nan) :
    ∃ low high, minimum = some low ∧ maximum = some high ∧ low.lt high = true := by
  obtain ⟨low, high, rfl, rfl, hle⟩ := (validateAxis_eq_ok_iff _ _ _).mp h
  refine ⟨low, high, rfl, rfl, ?_⟩
  have hlow : low ≠ .nan := fun hnan => hmin (congrArg some hnan)
  have hhigh : high ≠ .nan := fun hnan => hmax (congrArg some hnan)
  rw [← Bool.not_eq_false, ExtendedNumber.lt_eq_false_iff high low hhigh hlow, hle]
  exact Bool.false_ne_true

omit [IsStrictOrderedRing α] in
theorem workspaceBounds_verifiedComplete {robot : RobotSettings α}
    (hverified : robot.hardwareVerified = true)
    (h : validateWorkspace robot.workspace = .ok ()) (hnan : robot.workspace.NoNan) :
    (workspaceBounds robot).verifiedComplete = true := by
  simp only [validateWorkspace, check_eq_ok_iff] at h
  simp only [RobotWorkspaceSettings.NoNan, List.forall_mem_cons] at hnan
  obtain ⟨hminX, hmaxX, hminY, hmaxY, hminZ, hmaxZ, -⟩ := hnan
  obtain ⟨x0, x1, hx0, hx1, hx⟩ := axis_lt h.1 hminX hmaxX
  obtain ⟨y0, y1, hy0, hy1, hy⟩ := axis_lt h.2.1 hminY hmaxY
  obtain ⟨z0, z1, hz0, hz1, hz⟩ := axis_lt h.2.2 hminZ hmaxZ
  have hcomplete : robot.workspace.complete = true := by
    unfold RobotWorkspaceSettings.complete
    rw [hx0, hx1, hy0, hy1, hz0, hz1]
    rfl
  unfold WorkspaceBounds.verifiedComplete workspaceBounds
  rw [hverified, hcomplete, hx0, hx1, hy0, hy1, hz0, hz1]
  change (x0.lt x1 && y0.lt y1 && z0.lt z1) = true
  rw [hx, hy, hz]
  rfl

omit [Field α] [IsStrictOrderedRing α] in
theorem jointConstraint_verifiedComplete {name : String} {joint : ServoJointSettings α}
    (h : validateVerifiedJoint name joint = .ok ()) :
    (jointConstraint true name joint).verifiedComplete = true := by
  obtain ⟨low, neutral, high, hlow, hneutral, hhigh, hbelow, habove⟩ :=
    (validateVerifiedJoint_eq_ok_iff _ _).mp h
  unfold JointConstraint.verifiedComplete jointConstraint
  rw [hlow, hneutral, hhigh]
  change (low.lt neutral && neutral.lt high) = true
  rw [hbelow, habove]
  rfl

omit [IsStrictOrderedRing α] in
theorem envelopeOf_verified {settings : AppSettings α} (h : Validated settings)
    (hservos : settings.servos.hardwareVerified = true)
    (hrobot : settings.robot.hardwareVerified = true) (hnan : settings.robot.workspace.NoNan)
    (motionPolicy : MotionSafetyPolicy α) :
    (envelopeOf settings motionPolicy).physicalConstraintsVerified = true := by
  obtain ⟨hjoints, hlimits⟩ := h.servos hservos
  have hnonempty : (mapItems settings.servos.joints
      (jointConstraint settings.servos.hardwareVerified)).entries.isEmpty = false := by
    rw [mapItems_entries, List.isEmpty_eq_false_iff]
    exact fun hnone => hjoints (List.map_eq_nil_iff.mp hnone)
  have hcomplete : (mapItems settings.servos.joints
      (jointConstraint settings.servos.hardwareVerified)).entries.all
        (fun entry => entry.2.verifiedComplete) = true := by
    rw [mapItems_entries, List.all_eq_true, hservos]
    intro entry hentry
    obtain ⟨source, hsource, rfl⟩ := List.mem_map.mp hentry
    exact jointConstraint_verifiedComplete (hlimits source hsource)
  unfold SafetyEnvelope.physicalConstraintsVerified envelopeOf
  dsimp only
  rw [hnonempty, hcomplete, workspaceBounds_verifiedComplete hrobot (h.workspace hrobot) hnan,
    hservos, hrobot]
  rfl

variable [ToString α]

/-- The output carries an authorization. -/
def Mints {α : Type} : SupervisorOutput α → Prop
  | .result r => r.authorization.isSome = true
  | _ => False

omit [IsStrictOrderedRing α] in
theorem envelope_of_call (sup : MotionSafetySupervisor α) (c : SupervisorCall α) :
    (sup.call c).1.envelope = sup.envelope := by
  cases c <;> rfl

omit [IsStrictOrderedRing α] in
/-- A supervisor whose envelope is not verified mints nothing. -/
theorem call_not_mints (sup : MotionSafetySupervisor α) (c : SupervisorCall α)
    (h : sup.envelope.servosVerified = false ∨ sup.envelope.robotVerified = false) :
    ¬ Mints (sup.call c).2 := by
  cases c with
  | evaluate candidate dynamics uuid =>
    have hunsafe : ¬ sup.SafeToMove candidate dynamics := by
      intro hsafe
      obtain hservos | hrobot := h
      · exact Bool.false_ne_true (hservos.symm.trans hsafe.statically_safe.servos_verified)
      · exact Bool.false_ne_true (hrobot.symm.trans hsafe.statically_safe.robot_verified)
    change ¬ (sup.evaluate candidate dynamics uuid).2.authorization.isSome = true
    rw [sup.evaluate_of_unsafe candidate dynamics uuid hunsafe]
    exact Bool.false_ne_true
  | armWatchdog | disarmWatchdog | observeHeartbeatAge | triggerSoftwareEstop
  | requestManualReset => exact id

omit [IsStrictOrderedRing α] in
theorem run_not_mints (sup : MotionSafetySupervisor α) (calls : List (SupervisorCall α))
    (h : sup.envelope.servosVerified = false ∨ sup.envelope.robotVerified = false) :
    ∀ e ∈ Machine.trace MotionSafetySupervisor.call sup calls, ¬ Mints e.output := by
  intro e he
  have hbefore := Machine.trace_invariant MotionSafetySupervisor.call
    (P := fun s => s.envelope = sup.envelope)
    (fun s c hs => (envelope_of_call s c).trans hs) sup rfl calls e he
  have hstep := Machine.trace_step MotionSafetySupervisor.call sup calls e he
  have hmints := call_not_mints e.before e.input (by rw [hbefore]; exact h)
  rwa [hstep] at hmints

/-- What validated settings promise to what is built from them. -/
structure SafetyAgrees (settings : AppSettings α) : Prop where
  supervisor_constructs : (∃ sup, supervisorFromSettings settings = .ok sup) ↔
    (∃ ttl : α, floatOfInt settings.safety.motion.commandTtlMs = some ttl) ∧
      ∃ timeout : α, floatOfInt settings.safety.motion.heartbeatTimeoutMs = some timeout
  gateway_constructs : ∀ ackTimeoutS initialSequence, ackTimeoutS.le (.finite 0) = false →
    0 ≤ initialSequence ∧ initialSequence ≤ 0xFFFF →
    ((∃ gateway, gatewayFromSettings settings ackTimeoutS initialSequence = .ok gateway) ↔
      settings.servos.joints.entries ≠ [])
  never_mints : settings.servos.hardwareVerified = false ∨
      settings.robot.hardwareVerified = false →
    ∀ sup, supervisorFromSettings settings = .ok sup → ∀ calls,
      ∀ e ∈ Machine.trace MotionSafetySupervisor.call sup calls, ¬ Mints e.output
  physical_constraints : settings.servos.hardwareVerified = true →
    settings.robot.hardwareVerified = true → settings.robot.workspace.NoNan →
    ∀ envelope, buildSafetyEnvelope settings = .ok envelope →
      envelope.physicalConstraintsVerified = true

omit [IsStrictOrderedRing α] [ToString α] in
theorem envelope_of_supervisor {settings : AppSettings α} {sup : MotionSafetySupervisor α}
    (h : supervisorFromSettings settings = .ok sup) :
    ∃ motionPolicy, sup.envelope = envelopeOf settings motionPolicy := by
  simp only [supervisorFromSettings, bind_eq_ok_iff, mapError_eq_ok_iff] at h
  obtain ⟨envelope, henvelope, policy, -, hcreate⟩ := h
  obtain ⟨motionPolicy, rfl⟩ := buildSafetyEnvelope_eq_ok henvelope
  refine ⟨motionPolicy, ?_⟩
  simp only [MotionSafetySupervisor.create, bind_eq_ok_iff] at hcreate
  obtain ⟨lifecycle, -, hnew⟩ := hcreate
  unfold MotionSafetySupervisor.new at hnew
  split_ifs at hnew
  rw [← Except.ok.inj hnew]

/-- Settings that pass the validation: what is built from them, and what it then allows. -/
theorem validated_settings_agree {settings : AppSettings α}
    (h : validateAppSettings settings = .ok ()) : SafetyAgrees settings := by
  have hvalidated := validated_of_ok h
  constructor
  · exact supervisorFromSettings_constructs hvalidated
  · exact fun _ _ hack hsequence => gatewayFromSettings_constructs hvalidated hack hsequence
  · intro hunverified sup hsup calls
    apply run_not_mints
    obtain ⟨motionPolicy, henvelope⟩ := envelope_of_supervisor hsup
    rw [henvelope]
    exact hunverified
  · intro hservos hrobot hnan envelope henvelope
    obtain ⟨motionPolicy, rfl⟩ := buildSafetyEnvelope_eq_ok henvelope
    exact envelopeOf_verified hvalidated hservos hrobot hnan motionPolicy

end Supervisor

section Examples

theorem sixty_gt : GreaterThanZero (.finite 60 : ExtendedNumber ℚ) := by
  change decide ((60 : ℚ) ≤ 0) = false
  exact decide_eq_false (by norm_num)

theorem baseId_range : ∀ id ∈ some (1 : ℤ), 1 ≤ id ∧ id ≤ 255 := by decide

theorem commandTtl_gt : 0 < 250 := by decide

theorem heartbeatInterval_gt : 0 < 100 := by decide

/-- The configured motion limits, with this heartbeat timeout. -/
def motionWithTimeout (heartbeatTimeoutMs : ℕ) (h : 0 < heartbeatTimeoutMs) :
    SafetyMotionSettings ℚ where
  commandTtlMs := 250
  heartbeatIntervalMs := 100
  heartbeatTimeoutMs := heartbeatTimeoutMs
  maxVelocityDegS := .finite 60
  maxAccelerationDegS2 := .finite 60
  commandTtl_pos := commandTtl_gt
  heartbeatInterval_pos := heartbeatInterval_gt
  heartbeatTimeout_pos := h
  maxVelocity_gt := sixty_gt
  maxAcceleration_gt := sixty_gt

theorem link_gt : ∀ value ∈ some (ExtendedNumber.finite (60 : ℚ)), GreaterThanZero value := by
  intro value hvalue
  rw [← Option.some.inj hvalue]
  exact sixty_gt

/-- A robot whose workspace starts at `minXMm`. -/
def robotFrom (hardwareVerified : Bool) (minXMm : ExtendedNumber ℚ) : RobotSettings ℚ where
  hardwareVerified := hardwareVerified
  links := ⟨some (.finite 60), some (.finite 60), link_gt, link_gt⟩
  poses := ⟨AList.singleton "base" (.finite 0), AList.singleton "base" (.finite 0)⟩
  workspace :=
    { minXMm := some minXMm
      maxXMm := some (.finite 60)
      minYMm := some (.finite 0)
      maxYMm := some (.finite 60)
      minZMm := some (.finite 0)
      maxZMm := some (.finite 60) }

def baseJoint : ServoJointSettings ℚ where
  protocolId := some 1
  minDeg := some (.finite (-60))
  maxDeg := some (.finite 60)
  neutralDeg := some (.finite 0)
  protocolId_range := baseId_range

def settingsOf (motion : SafetyMotionSettings ℚ) (robot : RobotSettings ℚ)
    (servos : ServosSettings ℚ) : AppSettings ℚ where
  system := {}
  safety := ⟨motion, [.armed, .executing], true⟩
  robot := robot
  servos := servos

def verifiedSettings : AppSettings ℚ :=
  settingsOf (motionWithTimeout 500 (Nat.succ_pos 499)) (robotFrom true (.finite 0))
    ⟨true, AList.singleton "base" baseJoint⟩

theorem validated_settings_agree_verified : SafetyAgrees verifiedSettings :=
  validated_settings_agree (by rfl)

/-- Nothing is verified, and no joint is configured. -/
def jointlessSettings : AppSettings ℚ :=
  settingsOf (motionWithTimeout 500 (Nat.succ_pos 499)) (robotFrom false (.finite 0)) ⟨false, ∅⟩

/-- Everything is verified, over a workspace without a lower end. -/
def nanSettings : AppSettings ℚ :=
  settingsOf (motionWithTimeout 500 (Nat.succ_pos 499)) (robotFrom true .nan)
    ⟨true, AList.singleton "base" baseJoint⟩

def hugeTimeoutMs : ℕ := 2^1024

theorem hugeTimeoutMs_gt : 250 < hugeTimeoutMs := by decide +kernel

/-- The heartbeat timeout is beyond every double. -/
def hugeSettings : AppSettings ℚ :=
  settingsOf (motionWithTimeout hugeTimeoutMs (Nat.zero_lt_of_lt hugeTimeoutMs_gt))
    (robotFrom false (.finite 0)) ⟨false, AList.singleton "base" baseJoint⟩

/-- The validation passes settings without joints, which the gateway refuses, a workspace bound
that is NaN, which the safety model counts as unverified, and a timeout that no double holds. -/
theorem validated_settings_disagree :
    (validateAppSettings jointlessSettings = .ok () ∧
      ∀ gateway, gatewayFromSettings jointlessSettings (.finite (1/2)) 0 ≠ .ok gateway) ∧
    (validateAppSettings nanSettings = .ok () ∧ ∃ envelope,
      buildSafetyEnvelope nanSettings = .ok envelope ∧
        envelope.physicalConstraintsVerified = false) ∧
    (validateAppSettings hugeSettings = .ok () ∧
      ∀ sup, supervisorFromSettings hugeSettings ≠ .ok sup) := by
  have hjointless : validateAppSettings jointlessSettings = .ok () := by rfl
  have hnan : validateAppSettings nanSettings = .ok () := by rfl
  have hhuge : validateAppSettings hugeSettings = .ok () := by
    simp only [validateAppSettings, check_eq_ok_iff, require_eq_ok_iff]
    exact ⟨rfl, (by decide : 100 < 250).trans hugeTimeoutMs_gt, hugeTimeoutMs_gt.le, rfl, rfl, rfl,
      rfl, rfl, rfl⟩
  refine ⟨⟨hjointless, ?_⟩, ⟨hnan, ?_⟩, hhuge, ?_⟩
  · intro gateway hgateway
    have hack : (ExtendedNumber.finite (1/2 : ℚ)).le (.finite 0) = false := by
      apply decide_eq_false
      norm_num
    have hsequence : (0 : ℤ) ≤ 0 ∧ (0 : ℤ) ≤ 0xFFFF := by decide
    exact (gatewayFromSettings_constructs (validated_of_ok hjointless) hack hsequence).mp
      ⟨gateway, hgateway⟩ rfl
  · have hconverted (n : ℕ) (hn : roundToSignificand n < 2^1024) :
        pythonFloat n = .ok (.finite (roundToSignificand n : ℚ)) :=
      (pythonFloat_eq_ok_iff _ _).mpr ⟨_, if_pos hn, rfl⟩
    obtain ⟨envelope, hbuild⟩ : ∃ envelope, buildSafetyEnvelope nanSettings = .ok envelope := by
      simp only [buildSafetyEnvelope, bind_eq_ok_iff, pure_eq_ok_iff]
      exact ⟨_, _, hconverted 250 (by decide +kernel), _, hconverted 500 (by decide +kernel), rfl⟩
    obtain ⟨motionPolicy, rfl⟩ := buildSafetyEnvelope_eq_ok hbuild
    exact ⟨_, hbuild, rfl⟩
  · intro sup hsup
    obtain ⟨-, timeout, htimeout⟩ :=
      (supervisorFromSettings_constructs (validated_of_ok hhuge)).mp ⟨sup, hsup⟩
    have hoverflow : ¬ roundToSignificand hugeTimeoutMs < 2^1024 := by decide +kernel
    have hnone : floatOfInt (K := ℚ) hugeTimeoutMs = none := if_neg hoverflow
    cases hnone.symm.trans htimeout

end Examples

end RoboticCharacter.Config
