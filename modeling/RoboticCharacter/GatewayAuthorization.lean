import RoboticCharacter.GatewayCore

/-! An authorization on the wire: no quantization, and no drift from the firmware. -/
namespace RoboticCharacter.Gateway
open Safety Fallible

/-- A value is accepted exactly when it is an integer in wire units, within the range. -/
theorem exactProtocolInteger_eq_ok_iff (name : String) (value : ExtendedNumber FloatRepr)
    (scale : ℕ) (hscale : scale ≤ 100) (minimum maximum z : ℤ) :
    exactProtocolInteger name value scale minimum maximum = .ok z ↔
      ∃ v, value = .finite v ∧ v.toRat*scale = z ∧ minimum ≤ z ∧ z ≤ maximum := by
  cases value with
  | finite v =>
    -- 17 digits times at most 100 stay under the 28 of the context: the product is exact
    have hfits : v.decimal.coefficient*scale < 10^contextPrecision := by
      calc
        v.decimal.coefficient*scale ≤ v.decimal.coefficient*100 := Nat.mul_le_mul_left _ hscale
        _ < 10^17*100 := Nat.mul_lt_mul_of_pos_right v.coefficient_lt (by decide)
        _ < 10^contextPrecision := by decide
    have hexact := v.decimal.toRat_mulNat contextPrecision scale hfits
    have hiff := (v.decimal.mulNat contextPrecision scale).toRat_eq_toIntegralValue_iff z
    rw [hexact] at hiff
    simp only [exactProtocolInteger, ExtendedNumber.finite.injEq, exists_eq_left', FloatRepr.toRat]
    rw [← hiff, ← hexact]
    by_cases hround : (v.decimal.mulNat contextPrecision scale).toRat =
        (v.decimal.mulNat contextPrecision scale).toIntegralValue.toRat
    · rw [if_neg (not_not.mpr hround)]
      by_cases hrange : minimum ≤ (v.decimal.mulNat contextPrecision scale).toIntegralValue.toInt ∧
          (v.decimal.mulNat contextPrecision scale).toIntegralValue.toInt ≤ maximum
      · rw [if_neg (not_not.mpr hrange), Except.ok.injEq]
        constructor
        · intro hz
          exact ⟨⟨hround, hz⟩, hz ▸ hrange⟩
        · exact fun h => h.1.2
      · rw [if_pos hrange]
        refine iff_of_false (by simp) ?_
        intro hvalue
        obtain ⟨⟨_, hz⟩, hin⟩ := hvalue
        rw [← hz] at hin
        exact hrange hin
    · rw [if_pos hround]
      exact iff_of_false (by simp) (fun h => hround h.1.1)
  | infinity | negInfinity | nan => simp [exactProtocolInteger]

/-- The target on the wire is the authorized angle of a mapped joint, in centidegrees. -/
structure TargetOf (ids : Dict ℤ) (entry : Sigma fun _ : String => ExtendedNumber FloatRepr)
    (target : JointTarget) : Prop where
  mapped : ids.lookup entry.1 = some target.jointId
  exact : ∃ v, entry.2 = .finite v ∧ v.toRat*100 = target.targetCdeg
  target_ge : -32768 ≤ target.targetCdeg
  target_le : target.targetCdeg ≤ 32767

namespace RobotGateway

theorem encodeTargets_eq_ok_iff (ids : Dict ℤ)
    (entries : List (Sigma fun _ : String => ExtendedNumber FloatRepr))
    (targets : List JointTarget) :
    encodeTargets ids entries = .ok targets ↔ List.Forall₂ (TargetOf ids) entries targets := by
  induction entries generalizing targets with
  | nil => simp [encodeTargets, eq_comm]
  | cons entry rest ih =>
    obtain ⟨name, angleDeg⟩ := entry
    rw [List.forall₂_cons_left_iff]
    cases hid : ids.lookup name with
    | none =>
      simp only [encodeTargets, hid]
      refine iff_of_false nofun ?_
      intro htargets
      obtain ⟨t, ts, ht, _, _⟩ := htargets
      have hmapped := hid.symm.trans ht.mapped
      cases hmapped
    | some protocolId =>
      simp only [encodeTargets, hid, bind_eq_ok_iff, pure_eq_ok_iff, ih,
        exactProtocolInteger_eq_ok_iff _ _ 100 (le_refl _)]
      constructor
      · intro hencoded
        obtain ⟨z, ⟨v, hv, hz, hlow, hhigh⟩, ts, hts, htargets⟩ := hencoded
        have ht : TargetOf ids ⟨name, angleDeg⟩ ⟨protocolId, z⟩ :=
          ⟨hid, ⟨v, hv, by exact_mod_cast hz⟩, hlow, hhigh⟩
        exact ⟨_, ts, ht, hts, htargets.symm⟩
      · intro hforall
        obtain ⟨t, ts, ht, hts, htargets⟩ := hforall
        obtain ⟨v, hv, hz⟩ := ht.exact
        have hsame := hid.symm.trans ht.mapped
        refine ⟨t.targetCdeg,
          ⟨v, hv, by exact_mod_cast hz, ht.target_ge, ht.target_le⟩, ts, hts, ?_⟩
        subst htargets
        rw [Option.some.inj hsame]

theorem jointProtocolIds_inj (g : RobotGateway) (a b : String) (id : ℤ)
    (ha : g.jointProtocolIds.lookup a = some id) (hb : g.jointProtocolIds.lookup b = some id) :
    a = b := by
  have hma := AList.mem_lookup_iff.mp (Option.mem_def.mpr ha)
  have hmb := AList.mem_lookup_iff.mp (Option.mem_def.mpr hb)
  have heq := List.inj_on_of_nodup_map g.ids_unique hma hmb rfl
  exact congrArg Sigma.fst heq

theorem jointProtocolIds_range (g : RobotGateway) (a : String) (id : ℤ)
    (ha : g.jointProtocolIds.lookup a = some id) : 1 ≤ id ∧ id ≤ 0xFF :=
  g.ids_range _ (AList.mem_lookup_iff.mp (Option.mem_def.mpr ha))

theorem exists_entry_of_mem {ids : Dict ℤ}
    {entries : List (Sigma fun _ : String => ExtendedNumber FloatRepr)}
    {targets : List JointTarget} (h : List.Forall₂ (TargetOf ids) entries targets)
    (t : JointTarget) (ht : t ∈ targets) : ∃ entry ∈ entries, TargetOf ids entry t := by
  induction h with
  | nil => cases ht
  | @cons entry u entries targets hu _ ih =>
    rcases List.mem_cons.mp ht with rfl | hrest
    · exact ⟨entry, List.mem_cons_self .., hu⟩
    · obtain ⟨entry', hentry', ht'⟩ := ih hrest
      exact ⟨entry', List.mem_cons_of_mem _ hentry', ht'⟩

theorem targets_nodup (g : RobotGateway)
    (entries : List (Sigma fun _ : String => ExtendedNumber FloatRepr))
    (targets : List JointTarget) (hkeys : entries.NodupKeys)
    (h : List.Forall₂ (TargetOf g.jointProtocolIds) entries targets) :
    (targets.map JointTarget.jointId).Nodup := by
  induction h with
  | nil => exact List.nodup_nil
  | @cons entry t entries ts ht hts ih =>
    obtain ⟨hfresh, hrest⟩ := List.nodupKeys_cons.mp hkeys
    rw [List.map_cons, List.nodup_cons]
    refine ⟨?_, ih hrest⟩
    intro hmem
    obtain ⟨u, hu, hsame⟩ := List.mem_map.mp hmem
    -- the other target comes from an entry of the same joint
    obtain ⟨entry', hentry', hu'⟩ := exists_entry_of_mem hts u hu
    have hname := g.jointProtocolIds_inj _ _ _ ht.mapped (hsame ▸ hu'.mapped)
    exact hfresh (hname ▸ List.mem_map_of_mem hentry')

theorem sortTargets_ascending (targets : List JointTarget)
    (h : (targets.map JointTarget.jointId).Nodup) :
    (sortTargets targets).Pairwise (fun s t => s.jointId < t.jointId) := by
  let r (s t : JointTarget) : Prop := s.jointId ≤ t.jointId
  have htotal : Std.Total r := ⟨fun s t => le_total s.jointId t.jointId⟩
  have htrans : IsTrans JointTarget r := ⟨fun _ _ _ => le_trans⟩
  have hsorted : (sortTargets targets).Pairwise r := List.pairwise_insertionSort r targets
  have hnodup : ((sortTargets targets).map JointTarget.jointId).Nodup :=
    ((List.perm_insertionSort r targets).map _).nodup_iff.mpr h
  have hne := List.pairwise_map.mp hnodup
  exact (hsorted.and hne).imp (fun h => lt_of_le_of_ne h.1 h.2)

/-- A command that repeats an authorization in wire units, one target for each joint. -/
structure ExactCommand (g : RobotGateway) (authorization : MotionAuthorization FloatRepr)
    (command : ValidatedMotionCommand) : Prop where
  id_eq : command.commandId = authorization.authorizationId
  mode_eq : command.mode = .position
  ascending : command.targets.Pairwise (fun s t => s.jointId < t.jointId)
  targets : ∃ targets, targets.Perm command.targets ∧
    List.Forall₂ (TargetOf g.jointProtocolIds) authorization.jointTargetsDeg.entries targets
  ttl : ∃ v, authorization.commandTtlMs = .finite v ∧ v.toRat = command.ttlMs
  velocity : ∃ v, authorization.maxVelocityDegS = .finite v ∧
    v.toRat*100 = command.maxVelocityCdegS
  acceleration : ∃ v, authorization.maxAccelerationDegS2 = .finite v ∧
    v.toRat*100 = command.maxAccelerationCdegS2

theorem encodeAuthorization_exact (g : RobotGateway)
    (authorization : MotionAuthorization FloatRepr) (command : ValidatedMotionCommand)
    (h : g.encodeAuthorization authorization = .ok command) :
    g.ExactCommand authorization command := by
  simp only [encodeAuthorization, bind_eq_ok_iff, pure_eq_ok_iff, encodeTargets_eq_ok_iff,
    exactProtocolInteger_eq_ok_iff _ _ 100 (le_refl _),
    exactProtocolInteger_eq_ok_iff _ _ 1 (by decide)] at h
  obtain ⟨ts, hts, ttl, ⟨v1, hv1, ht1, _⟩, vel, ⟨v2, hv2, ht2, _⟩, acc, ⟨v3, hv3, ht3, _⟩,
    hcommand⟩ := h
  subst hcommand
  have hids := g.targets_nodup _ _ authorization.jointTargetsDeg.nodupKeys hts
  refine ⟨rfl, rfl, sortTargets_ascending ts hids,
    ⟨ts, (List.perm_insertionSort _ ts).symm, hts⟩, ⟨v1, hv1, ?_⟩, ⟨v2, hv2, ?_⟩, ⟨v3, hv3, ?_⟩⟩
  · simpa only [Nat.cast_one, mul_one] using ht1
  · exact_mod_cast ht2
  · exact_mod_cast ht3

/-- The gateway maps no joint to the id the firmware refuses. -/
theorem ExactCommand.ids_pos {g : RobotGateway} {authorization : MotionAuthorization FloatRepr}
    {command : ValidatedMotionCommand} (h : g.ExactCommand authorization command) :
    ∀ t ∈ command.targets, 1 ≤ t.jointId := by
  obtain ⟨ts, hperm, hts⟩ := h.targets
  intro t ht
  obtain ⟨entry, -, hentry⟩ := exists_entry_of_mem hts t (hperm.mem_iff.mpr ht)
  exact (g.jointProtocolIds_range _ _ hentry.mapped).1

theorem authorizationPayload_eq_ok_iff (g : RobotGateway)
    (authorization : MotionAuthorization FloatRepr) (bytes : Bytes) :
    g.authorizationPayload authorization = .ok bytes ↔
      ∃ command, g.encodeAuthorization authorization = .ok command ∧ command.Encodable ∧
        bytes = command.pack := by
  have hlift : ∀ payload, liftCodec payload = .ok bytes ↔ payload = .ok bytes := by
    intro payload
    cases payload <;> simp [liftCodec]
  simp only [authorizationPayload, bind_eq_ok_iff, hlift, ValidatedMotionCommand.encode_eq_ok_iff]

/-- `send_authorization` either raises and keeps its sequence number, or sends, under that
number, a command that the host decodes to the authorization in exact wire units and
whose payload the firmware accepts. -/
theorem sendAuthorization_exact (g : RobotGateway) (isOpen : Bool)
    (authorization : MotionAuthorization FloatRepr) :
    (∃ e, g.sendAuthorization isOpen authorization = (g, .error e)) ∨
    ∃ frame command, g.sendAuthorization isOpen authorization = (g.nextSequence, .ok frame) ∧
      frame.messageType = .validatedMotionCommand ∧ frame.sequence = g.sequence ∧
      ValidatedMotionCommand.decode frame.payload = .ok command ∧
      g.ExactCommand authorization command ∧
      Firmware.validateMotionPayload frame.payload (UInt16.ofNat frame.payload.length) = true := by
  unfold sendAuthorization
  cases hpayload : g.authorizationPayload authorization with
  | error e => exact .inl ⟨e, rfl⟩
  | ok bytes =>
    -- the payload is a packed command, and its few targets keep it within a frame
    obtain ⟨command, hcommand, hencodable, rfl⟩ :=
      (g.authorizationPayload_eq_ok_iff authorization bytes).mp hpayload
    have hexact := g.encodeAuthorization_exact authorization command hcommand
    cases isOpen with
    | false => exact .inl ⟨_, rfl⟩
    | true =>
      right
      have hlen := command.length_pack
      have hcount := hencodable.count_le
      have hfits : command.pack.length ≤ maxPayloadSize := by
        unfold maxJointTargets at hcount
        unfold maxPayloadSize
        omega
      exact ⟨_, command, g.startRequest_fits .validatedMotionCommand command.pack hfits, rfl, rfl,
        command.decode_pack hencodable, hexact,
        Firmware.validateMotionPayload_pack command hencodable hexact.ids_pos⟩

end RobotGateway

end RoboticCharacter.Gateway
