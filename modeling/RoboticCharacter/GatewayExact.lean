import RoboticCharacter.SimulationRuntime
import RoboticCharacter.SimulationSafety

/-! The wire form of an authorization in exact arithmetic, and the joint targets that a robot
with the same joint ids reads back from it. -/
namespace RoboticCharacter.Gateway.Exact
open Safety Fallible PythonMath Simulation

section Encode
variable {K : Type} [Field K] [LinearOrder K] [FloorRing K]

def exactProtocolInteger (name : String) (value : ExtendedNumber K) (scale : ℕ)
    (minimum maximum : ℤ) : Except GatewayFailure ℤ :=
  match value with
  | .finite v =>
    let scaled := v*(scale : K)
    let integral := roundHalfEven scaled
    if scaled ≠ (integral : K) then
      .error (.protocol s!"{name} is not exactly representable at protocol scale {scale}")
    else if ¬ (minimum ≤ integral ∧ integral ≤ maximum) then
      .error (.protocol s!"{name} encoded value must be in [{minimum}, {maximum}]")
    else .ok integral
  | _ => .error (.protocol s!"{name} must be finite")

def encodeTargets (ids : Dict ℤ) :
    List (Sigma fun _ : String => ExtendedNumber K) → Except GatewayFailure (List JointTarget)
  | [] => .ok []
  | ⟨name, angleDeg⟩ :: rest =>
    match ids.lookup name with
    | none => .error (.protocol
        s!"authorization references unmapped joint {PythonText.repr name}")
    | some protocolId => do
      let targetCdeg ← exactProtocolInteger s!"joint {PythonText.repr name} target" angleDeg 100
        (-32768) 32767
      let targets ← encodeTargets ids rest
      return ⟨protocolId, targetCdeg⟩ :: targets

def encodeAuthorization (g : RobotGateway) (authorization : MotionAuthorization K) :
    Except GatewayFailure ValidatedMotionCommand := do
  let targets ← encodeTargets g.jointProtocolIds authorization.jointTargetsDeg.entries
  let ttlMs ← exactProtocolInteger "command_ttl_ms" authorization.commandTtlMs 1 1 0xFFFF
  let maxVelocity ← exactProtocolInteger "max_velocity_deg_s" authorization.maxVelocityDegS 100
    1 0xFFFF
  let maxAcceleration ← exactProtocolInteger "max_acceleration_deg_s2"
    authorization.maxAccelerationDegS2 100 1 0xFFFF
  return {
    commandId := authorization.authorizationId
    ttlMs
    mode := .position
    targets := RobotGateway.sortTargets targets
    maxVelocityCdegS := maxVelocity
    maxAccelerationCdegS2 := maxAcceleration }

def authorizationPayload (g : RobotGateway) (authorization : MotionAuthorization K) :
    Except GatewayFailure Bytes := do
  let command ← encodeAuthorization g authorization
  RobotGateway.liftCodec command.encode

theorem exactProtocolInteger_scaled {name : String} {value : K} {scale : ℕ} {minimum maximum z : ℤ}
    (h : exactProtocolInteger name (.finite value) scale minimum maximum = .ok z) :
    value*(scale : K) = (z : K) := by
  simp only [exactProtocolInteger] at h
  split_ifs at h with hexact hrange
  rw [← Except.ok.inj h]
  exact not_not.mp hexact

end Encode

section Targets
variable {K : Type} [Field K] [LinearOrder K]

/-- The target on the wire is the angle of the joint, in centidegrees, under its id. -/
structure TargetOf (m : RobotModel K) (angleDeg : JointName → K) (name : JointName)
    (target : JointTarget) : Prop where
  id_eq : target.jointId = (m.joint name).protocolId
  exact : (target.targetCdeg : K) = angleDeg name*100

theorem encodeTargets_targets [FloorRing K] (m : RobotModel K) (angleDeg : JointName → K)
    (names : List JointName) : ∀ {targets : List JointTarget},
      encodeTargets (jointIds m)
        (names.map fun name => ⟨name.name, ExtendedNumber.finite (angleDeg name)⟩) = .ok targets →
      List.Forall₂ (TargetOf m angleDeg) names targets := by
  induction names with
  | nil =>
    intro targets h
    cases h
    exact List.Forall₂.nil
  | cons name names ih =>
    intro targets h
    have hid : (jointIds m).lookup name.name = some ((m.joint name).protocolId : ℤ) :=
      lookup_jointDict m (fun name => ((m.joint name).protocolId : ℤ)) name
    simp only [List.map_cons, encodeTargets, hid, bind_eq_ok_iff, pure_eq_ok_iff] at h
    obtain ⟨z, hz, rest, hrest, rfl⟩ := h
    refine List.Forall₂.cons ⟨rfl, ?_⟩ (ih hrest)
    have hscaled := exactProtocolInteger_scaled hz
    exact_mod_cast hscaled.symm

theorem exists_target {m : RobotModel K} {angleDeg : JointName → K} {names : List JointName}
    {targets : List JointTarget} (h : List.Forall₂ (TargetOf m angleDeg) names targets) :
    (∀ name ∈ names, ∃ target ∈ targets, TargetOf m angleDeg name target) ∧
      ∀ target ∈ targets, ∃ name ∈ names, TargetOf m angleDeg name target := by
  induction h with
  | nil => exact ⟨nofun, nofun⟩
  | @cons name target names targets hfirst _ ih =>
    constructor
    · intro other hother
      obtain rfl | hrest := List.mem_cons.mp hother
      · exact ⟨target, List.mem_cons_self, hfirst⟩
      · obtain ⟨found, hfound, htarget⟩ := ih.1 other hrest
        exact ⟨found, List.mem_cons_of_mem _ hfound, htarget⟩
    · intro other hother
      obtain rfl | hrest := List.mem_cons.mp hother
      · exact ⟨name, List.mem_cons_self, hfirst⟩
      · obtain ⟨found, hfound, htarget⟩ := ih.2 other hrest
        exact ⟨found, List.mem_cons_of_mem _ hfound, htarget⟩

omit [LinearOrder K] in
/-- Where every target of a joint asks for one angle, and there is one, that is requested. -/
theorem foldl_retarget (jointId : ℕ) (angle : K) (targets : List JointTarget)
    (hsame : ∀ target ∈ targets, target.jointId = jointId →
      (target.targetCdeg : K)/100 = angle) :
    ∀ current : K, (current = angle ∨ ∃ target ∈ targets, target.jointId = jointId) →
      targets.foldl (DigitalTwinRobot.retarget jointId) current = angle := by
  induction targets with
  | nil =>
    intro current h
    obtain hcurrent | ⟨target, htarget, -⟩ := h
    · exact hcurrent
    · exact absurd htarget List.not_mem_nil
  | cons first targets ih =>
    intro current h
    have hrest := ih fun target htarget => hsame target (List.mem_cons_of_mem first htarget)
    rw [List.foldl_cons]
    apply hrest
    by_cases hid : first.jointId = (jointId : ℤ)
    · left
      unfold DigitalTwinRobot.retarget
      rw [if_pos hid]
      exact hsame first List.mem_cons_self hid
    · have hkeeps : DigitalTwinRobot.retarget jointId current first = current := if_neg hid
      rw [hkeeps]
      obtain hcurrent | ⟨target, htarget, htid⟩ := h
      · exact Or.inl hcurrent
      · obtain rfl | hlater := List.mem_cons.mp htarget
        · exact absurd htid hid
        · exact Or.inr ⟨target, hlater, htid⟩

variable [IsStrictOrderedRing K]

/-- A command with one exact target for every joint asks for these angles. -/
theorem requested_of_targets (twin : DigitalTwinRobot K) (angleDeg : JointName → K)
    {targets : List JointTarget} {command : ValidatedMotionCommand}
    (htargets : List.Forall₂ (TargetOf twin.model angleDeg) twin.model.jointNames targets)
    (hcommand : command.targets.Perm targets) : twin.requested command = angleDeg := by
  obtain ⟨hasked, hmeant⟩ := exists_target htargets
  funext name
  apply foldl_retarget
  · intro target htarget hid
    obtain ⟨other, -, hother⟩ := hmeant target (hcommand.mem_iff.mp htarget)
    -- Ids are unique, so the target is that of the joint.
    have hname : other = name := by
      apply twin.model.profile.ids_unique
      exact_mod_cast hother.id_eq.symm.trans hid
    subst hname
    rw [hother.exact]
    exact mul_div_cancel_right₀ _ (by norm_num)
  · obtain ⟨target, htarget, hexact⟩ := hasked name (twin.model.profile.order_complete name)
    exact Or.inr ⟨target, hcommand.mem_iff.mpr htarget, hexact.id_eq⟩

/-- The payload of an authorization of all joints: the device decodes it to a command that asks
for the authorized angles. -/
theorem authorizationPayload_requested [FloorRing K] (g : RobotGateway) (m : RobotModel K)
    (hids : g.jointProtocolIds = jointIds m) (authorization : MotionAuthorization K)
    (angleDeg : JointName → K)
    (htargets : authorization.jointTargetsDeg = jointDict m fun name => .finite (angleDeg name))
    {payload : Bytes} (h : authorizationPayload g authorization = .ok payload) :
    ∃ command, Codec.ValidatedMotionCommand.decode payload = .ok command ∧
      ∀ twin : DigitalTwinRobot K, twin.model = m → twin.requested command = angleDeg := by
  have hlift : ∀ encoded, RobotGateway.liftCodec encoded = .ok payload → encoded = .ok payload := by
    intro encoded hencoded
    cases encoded with
    | error error => cases hencoded
    | ok bytes => exact congrArg Except.ok (Except.ok.inj hencoded)
  obtain ⟨command, hcommand, hencoded⟩ := (bind_eq_ok_iff _ _ _).mp h
  have hdecoded := Codec.ValidatedMotionCommand.decode_of_encode command payload
    ((Codec.ValidatedMotionCommand.encode_agrees command payload).mpr (hlift _ hencoded))
  refine ⟨command, hdecoded, ?_⟩
  intro twin hmodel
  simp only [encodeAuthorization, bind_eq_ok_iff, pure_eq_ok_iff, hids, htargets] at hcommand
  obtain ⟨targets, hlist, -, -, -, -, -, -, rfl⟩ := hcommand
  subst hmodel
  exact requested_of_targets twin angleDeg
    (encodeTargets_targets twin.model angleDeg twin.model.jointNames hlist)
    (List.perm_insertionSort _ targets)

end Targets
end RoboticCharacter.Gateway.Exact
