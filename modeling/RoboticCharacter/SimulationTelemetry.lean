import RoboticCharacter.Machine
import RoboticCharacter.SimulationFloatJoint
import RoboticCharacter.SimulationTwin

/-! The plant's report on the wire: it can be encoded exactly while every position and every
velocity fits its signed 16-bit field, and that they fit follows from where the joints are sent and
at what speed. The numbers are the binary floating-point numbers of the code. -/
namespace RoboticCharacter
open Machine

/-- A report that the decoder gives back as it was encoded. -/
def RoundTrips (report : RobotTelemetry) : Prop :=
  ∃ payload, Codec.RobotTelemetry.encode report = .ok payload ∧
    Codec.RobotTelemetry.decode payload = .ok report

theorem roundTrips_iff (report : RobotTelemetry) :
    RoundTrips report ↔ ∃ payload, Codec.RobotTelemetry.encode report = .ok payload := by
  constructor
  · rintro ⟨payload, hencode, _⟩
    exact ⟨payload, hencode⟩
  · rintro ⟨payload, hencode⟩
    exact ⟨payload, hencode, Codec.RobotTelemetry.inverse.decode_encode _ payload hencode⟩

namespace ReferenceRobotProfile

theorem order_length {K : Type*} [Zero K] [LT K] (profile : ReferenceRobotProfile K) :
    1 ≤ profile.order.length ∧ profile.order.length ≤ maxJointTargets := by
  constructor
  · exact List.length_pos_of_mem (profile.order_complete .base)
  · have hsubset : profile.order ⊆ referenceOrder := fun name _ => referenceOrder_complete name
    have hle := (List.subperm_of_subset profile.order_nodup hsubset).length_le
    exact hle.trans (by decide)

end ReferenceRobotProfile

namespace Floating
open Binary64 PythonMath
open ExtendedNumber (finite)

namespace DigitalTwinRobot

/-- The clock and the currents fit their fields. -/
structure MetersFit (twin : DigitalTwinRobot) : Prop where
  uptime_nonneg : 0 ≤ twin.uptimeMs
  uptime_le : twin.uptimeMs ≤ 0xFFFFFFFF
  currents_fit : ∀ name, 0 ≤ twin.currents name ∧ twin.currents name ≤ 1200

theorem atHome_of_new (model : RobotModel FiniteDouble) (supplyMv : ℤ) (twin : DigitalTwinRobot)
    (h : new model supplyMv = .ok twin) : ∃ hge hle, twin = atHome model supplyMv hge hle := by
  unfold new at h
  split_ifs at h with hge hle
  exact ⟨hge, hle, (Except.ok.inj h).symm⟩

theorem metersFit_new (model : RobotModel FiniteDouble) (supplyMv : ℤ) (twin : DigitalTwinRobot)
    (h : new model supplyMv = .ok twin) : twin.MetersFit := by
  obtain ⟨_, _, rfl⟩ := atHome_of_new model supplyMv twin h
  have hresting : (0 : ℤ) ≤ 80 ∧ (80 : ℤ) ≤ 1200 := by decide
  exact ⟨le_rfl, by norm_num [atHome], fun _ => hresting⟩

theorem metersFit_advance (twin : DigitalTwinRobot) (dt : Double) (ticks : ℤ)
    (hdt : Duration dt ticks) (h : twin.MetersFit) : (twin.advance ticks).MetersFit := by
  obtain ⟨d, _, hpos, _, rfl⟩ := duration_value dt ticks hdt
  have hticks := roundHalfEven_nonneg _ (nearest_nonneg (d*1000) (by positivity))
  refine ⟨?_, min_le_left _ _, h.currents_fit⟩
  exact le_min (by norm_num) (add_nonneg h.uptime_nonneg hticks)

theorem metersFit_call (twin : DigitalTwinRobot) (c : TwinCall) (h : twin.MetersFit) :
    (twin.call c).1.MetersFit := by
  have hperforms := twin.performs_call c
  generalize (twin.call c).1 = after at hperforms ⊢
  cases hperforms with
  | nothing => exact h
  | assigned command targets velocityLimit accelerationLimit state hchecked =>
    exact ⟨h.uptime_nonneg, h.uptime_le, h.currents_fit⟩
  | held dt ticks hdt =>
    have hnext := metersFit_advance twin dt ticks hdt h
    have hholding : (0 : ℤ) ≤ 60 ∧ (60 : ℤ) ≤ 1200 := by decide
    exact ⟨hnext.uptime_nonneg, hnext.uptime_le, fun _ => hholding⟩
  | moved dt ticks hdt hstate after hmoves state =>
    have hnext := metersFit_advance twin dt ticks hdt h
    refine ⟨hmoves.uptime_eq ▸ hnext.uptime_nonneg, hmoves.uptime_eq ▸ hnext.uptime_le, ?_⟩
    intro name
    rcases hmoves.current_cases name with hsame | hcurrent
    · change 0 ≤ after.currents name ∧ after.currents name ≤ 1200
      rw [hsame]
      exact hnext.currents_fit name
    · exact stepJoint_current_fits _ _ _ _ _ _ _ _ hcurrent
  | stopped => exact ⟨h.uptime_nonneg, h.uptime_le, h.currents_fit⟩
  | released => exact ⟨h.uptime_nonneg, h.uptime_le, h.currents_fit⟩

/-- The report is built, and the decoder gives it back as it was encoded. -/
def ReportRoundTrips (twin : DigitalTwinRobot) (flags : ℤ) : Prop :=
  ∃ report, twin.telemetry flags = .ok report ∧ RoundTrips report

/-- The report with the given hundredths of the positions and the velocities. -/
def report (twin : DigitalTwinRobot) (flags : ℤ) (positionsCdeg velocitiesCdegS : JointName → ℤ) :
    RobotTelemetry where
  uptimeMs := twin.uptimeMs
  state := twin.state
  flags := flags
  supplyMv := twin.supplyMv
  joints := twin.model.jointNames.map (fun name =>
    { jointId := (twin.model.joint name).protocolId
      positionCdeg := positionsCdeg name
      velocityCdegS := velocitiesCdegS name
      currentMa := twin.currents name })

theorem telemetry_of_hundredths (twin : DigitalTwinRobot) (flags : ℤ)
    (positionsCdeg velocitiesCdegS : JointName → ℤ)
    (hposition : ∀ name, hundredths (twin.positions name) = .ok (positionsCdeg name))
    (hvelocity : ∀ name, hundredths (twin.velocities name) = .ok (velocitiesCdegS name)) :
    twin.telemetry flags = .ok (twin.report flags positionsCdeg velocitiesCdegS) := by
  have hjoints := Fallible.mapM_eq_ok twin.jointTelemetry _ twin.model.jointNames (fun name _ => by
    unfold jointTelemetry
    rw [hposition name, hvelocity name]
    rfl)
  unfold telemetry
  rw [hjoints]
  rfl

/-- A report is only built if no conversion raises. -/
theorem hundredths_of_telemetry (twin : DigitalTwinRobot) (flags : ℤ) (built : RobotTelemetry)
    (h : twin.telemetry flags = .ok built) (name : JointName) :
    ∃ p v, hundredths (twin.positions name) = .ok p ∧
      hundredths (twin.velocities name) = .ok v := by
  unfold telemetry at h
  obtain ⟨joints, hjoints, _⟩ := (Fallible.bind_eq_ok_iff _ _ _).mp h
  obtain ⟨joint, hjoint⟩ := Fallible.mapM_members _ _ _ hjoints name
    (twin.model.profile.order_complete name)
  simp only [jointTelemetry, Fallible.bind_eq_ok_iff, Fallible.pure_eq_ok_iff] at hjoint
  obtain ⟨p, hp, v, hv, _⟩ := hjoint
  exact ⟨p, v, hp, hv⟩

/-- Of all the fields of a report only the positions and the velocities can be out of range. -/
theorem report_roundTrips_iff (twin : DigitalTwinRobot) (h : twin.MetersFit) (flags : ℤ)
    (hflags : 0 ≤ flags ∧ flags ≤ 0xFF) (positionsCdeg velocitiesCdegS : JointName → ℤ) :
    RoundTrips (twin.report flags positionsCdeg velocitiesCdegS) ↔
      ∀ name, (-32768 ≤ positionsCdeg name ∧ positionsCdeg name < 32768) ∧
        -32768 ≤ velocitiesCdegS name ∧ velocitiesCdegS name < 32768 := by
  have hsupply : 0 ≤ twin.supplyMv ∧ twin.supplyMv ≤ 0xFFFF :=
    ⟨le_trans (by norm_num) twin.supply_ge, twin.supply_le⟩
  have hcount : 1 ≤ (twin.report flags positionsCdeg velocitiesCdegS).joints.length ∧
      (twin.report flags positionsCdeg velocitiesCdegS).joints.length ≤ maxJointTargets := by
    unfold report
    rw [List.length_map]
    exact twin.model.profile.order_length
  have hnodup :
      ((twin.report flags positionsCdeg velocitiesCdegS).joints.map (·.jointId)).Nodup := by
    unfold report
    rw [List.map_map]
    apply twin.model.profile.order_nodup.map
    intro a b hid
    change ((twin.model.joint a).protocolId : ℤ) = (twin.model.joint b).protocolId at hid
    exact twin.model.profile.ids_unique a b (Int.ofNat_inj.mp hid)
  -- what is left to be checked of each joint are its own four fields
  rw [roundTrips_iff, Codec.RobotTelemetry.encodes_iff _ ⟨h.uptime_nonneg, h.uptime_le⟩ hflags
    hsupply hcount hnodup]
  simp only [report, List.forall_mem_map, Codec.RobotJointTelemetry.encodes_iff]
  constructor
  · intro hjoints name
    obtain ⟨_, hposition, hvelocity, _⟩ := hjoints name (twin.model.profile.order_complete name)
    exact ⟨hposition, hvelocity⟩
  · intro hfits name _
    have hid := (twin.model.joint name).protocolId_ge
    have hid' := (twin.model.joint name).protocolId_le
    have hcurrent := h.currents_fit name
    exact ⟨by omega, (hfits name).1, (hfits name).2, by omega⟩

theorem reportRoundTrips_iff (twin : DigitalTwinRobot) (h : twin.MetersFit) (flags : ℤ)
    (hflags : 0 ≤ flags ∧ flags ≤ 0xFF) : twin.ReportRoundTrips flags ↔
      ∀ name, FitsCentidegrees (twin.positions name) ∧ FitsCentidegrees (twin.velocities name) := by
  constructor
  · intro hround
    obtain ⟨built, hbuilt, htrips⟩ := hround
    choose p v hposition hvelocity using twin.hundredths_of_telemetry flags built hbuilt
    rw [twin.telemetry_of_hundredths flags _ _ hposition hvelocity] at hbuilt
    rw [← Except.ok.inj hbuilt, twin.report_roundTrips_iff h flags hflags] at htrips
    intro name
    obtain ⟨hp, hv⟩ := htrips name
    exact ⟨(fitsCentidegrees_iff _).mpr ⟨_, hposition name, hp⟩,
      (fitsCentidegrees_iff _).mpr ⟨_, hvelocity name, hv⟩⟩
  · intro hfits
    choose p hposition hp using fun name => (fitsCentidegrees_iff _).mp (hfits name).1
    choose v hvelocity hv using fun name => (fitsCentidegrees_iff _).mp (hfits name).2
    refine ⟨_, twin.telemetry_of_hundredths flags p v hposition hvelocity, ?_⟩
    rw [twin.report_roundTrips_iff h flags hflags]
    exact fun name => ⟨hp name, hv name⟩

/-- Every position, velocity and target fits its field. -/
structure OnWire (twin : DigitalTwinRobot) : Prop where
  position_fits : ∀ name, FitsCentidegrees (twin.positions name)
  velocity_fits : ∀ name, FitsCentidegrees (twin.velocities name)
  target_fits : ∀ name, FitsCentidegrees (twin.targets name)

/-- A command that assigns its targets, even if it raises then, sends each joint into the field;
and a step that moves the joints finds each of them at rest or with limits, and a place to run to,
that fit. -/
def LeadsInField (twin : DigitalTwinRobot) : TwinCall → Prop
  | .accept command => ∀ targets, twin.checkedTargets command = .ok targets →
      ∀ name, FitsCentidegrees (targets name)
  | .step dt => ∀ ticks, Duration dt ticks → twin.state ≠ .estop → ∀ name,
      Settled ((twin.targets name).sub (twin.positions name)) (twin.velocities name) ∨
      KeepsField (velocityLimit (twin.model.joint name) twin.commandVelocityLimit)
        (accelerationLimit (twin.model.joint name) twin.commandAccelerationLimit)
        (twin.targets name) dt (twin.positions name) (twin.velocities name)
  | _ => True

theorem onWire_new (model : RobotModel FiniteDouble) (supplyMv : ℤ) (twin : DigitalTwinRobot)
    (h : new model supplyMv = .ok twin)
    (hhome : ∀ name, FitsCentidegrees (.ofFinite (model.home name))) : twin.OnWire := by
  obtain ⟨_, _, rfl⟩ := atHome_of_new model supplyMv twin h
  exact ⟨hhome, fun _ => fits_zero, hhome⟩

theorem onWire_call (twin : DigitalTwinRobot) (c : TwinCall) (h : twin.OnWire)
    (hleads : twin.LeadsInField c) : (twin.call c).1.OnWire := by
  have hperforms := twin.performs_call c
  generalize (twin.call c).1 = after at hperforms ⊢
  cases hperforms with
  | nothing => exact h
  | assigned command targets velocityLimit accelerationLimit state hchecked =>
    exact ⟨h.position_fits, h.velocity_fits, hleads targets hchecked⟩
  | held dt ticks hdt => exact ⟨h.position_fits, h.velocity_fits, h.target_fits⟩
  | moved dt ticks hdt hstate after hmoves state =>
    have hstep (name : JointName) := stepJoint_fits (twin.model.joint name)
      twin.commandVelocityLimit twin.commandAccelerationLimit _ dt _ _ ticks hdt
      (h.target_fits name) (h.position_fits name) (h.velocity_fits name)
      (hleads ticks hdt hstate name)
    refine ⟨?_, ?_, ?_⟩
    · intro name
      change FitsCentidegrees (after.positions name)
      rcases hmoves.joint_cases name with ⟨hposition, _⟩ | ⟨hposition, _⟩
      · exact hposition ▸ h.position_fits name
      · exact hposition ▸ (hstep name).1
    · intro name
      change FitsCentidegrees (after.velocities name)
      rcases hmoves.joint_cases name with ⟨_, hvelocity⟩ | ⟨_, hvelocity⟩
      · exact hvelocity ▸ h.velocity_fits name
      · exact hvelocity ▸ (hstep name).2
    · intro name
      change FitsCentidegrees (after.targets name)
      exact hmoves.targets_eq ▸ h.target_fits name
  | stopped => exact ⟨h.position_fits, fun _ => fits_zero, h.position_fits⟩
  | released => exact ⟨h.position_fits, h.velocity_fits, h.target_fits⟩

/-- The telemetry of a run: a report is built and round-trips exactly if its positions and
velocities fit their fields, and they do all along a run that starts in the fields and whose calls
lead the joints nowhere else. -/
theorem telemetry_encodable (model : RobotModel FiniteDouble) (supplyMv : ℤ)
    (twin : DigitalTwinRobot) (hnew : new model supplyMv = .ok twin) (calls : List TwinCall)
    (flags : ℤ) (hflags : 0 ≤ flags ∧ flags ≤ 0xFF) :
    (∀ t ∈ states call twin calls, t.ReportRoundTrips flags ↔
      ∀ name, FitsCentidegrees (t.positions name) ∧ FitsCentidegrees (t.velocities name)) ∧
    ((∀ name, FitsCentidegrees (.ofFinite (model.home name))) →
      (∀ e ∈ trace call twin calls, e.before.LeadsInField e.input) →
        ∀ t ∈ states call twin calls, t.ReportRoundTrips flags) := by
  have hmeters := states_invariant call metersFit_call twin (metersFit_new model supplyMv twin hnew)
    calls
  refine ⟨fun t ht => t.reportRoundTrips_iff (hmeters t ht) flags hflags, ?_⟩
  intro hhome hleads t ht
  have hinv := states_guarded call LeadsInField onWire_call twin
    (onWire_new model supplyMv twin hnew hhome) calls hleads t ht
  apply (t.reportRoundTrips_iff (hmeters t ht) flags hflags).mpr
  exact fun name => ⟨hinv.position_fits name, hinv.velocity_fits name⟩

/-- The reference arm at home, on the default supply. -/
def testTwin : DigitalTwinRobot := atHome referenceArm 6000 (by decide) (by decide)

def moveBase := RoboticCharacter.DigitalTwinRobot.moveBase

/-- The targets of a command fit if they are found to fit whenever there are any. -/
theorem checked_fits (twin : DigitalTwinRobot) (command : ValidatedMotionCommand)
    (h : ∀ name, ∀ x ∈ (twin.checkedTargets command).toOption.map (fun targets => targets name),
      FitsCentidegrees x) : twin.LeadsInField (.accept command) := by
  intro targets hchecked name
  apply h name
  rw [hchecked]
  rfl

/-- The base is sent out, and back while it still moves outwards. -/
def outAndBack : List TwinCall :=
  [.accept (moveBase 9000 4500 12000), .step (.literal 1), .accept (moveBase 0 4500 12000),
    .step (.literal (1/2))]

theorem telemetry_encodable_from_rest :
    new referenceArm 6000 = .ok testTwin ∧
    (∀ t ∈ states call testTwin outAndBack, t.ReportRoundTrips 0) ∧
    ((run call testTwin outAndBack).velocities .base).value = finite (-15) := by
  refine ⟨rfl, ?_, by decide +kernel⟩
  apply (telemetry_encodable referenceArm 6000 testTwin rfl _ 0 ⟨by norm_num, by norm_num⟩).2
  · intro name
    cases name <;> decide +kernel
  · simp only [outAndBack, trace_cons, trace_nil, List.forall_mem_cons]
    refine ⟨?_, ?_, ?_, ?_, fun _ h => absurd h List.not_mem_nil⟩
    · apply checked_fits
      intro name
      cases name <;> decide +kernel
    · intro ticks hdt hstate name
      cases name with
      | base => exact .inr ⟨by decide +kernel, by decide +kernel, fun _ => by decide +kernel⟩
      | shoulder => exact .inl (by decide +kernel)
      | elbow => exact .inl (by decide +kernel)
      | gripper => exact .inl (by decide +kernel)
    · apply checked_fits
      intro name
      cases name <;> decide +kernel
    · intro ticks hdt hstate name
      cases name with
      | base => exact .inr ⟨by decide +kernel, by decide +kernel, fun _ => by decide +kernel⟩
      | shoulder => exact .inl (by decide +kernel)
      | elbow => exact .inl (by decide +kernel)
      | gripper => exact .inl (by decide +kernel)

/-- The base moves to its upper limit at 45 deg/s and is then sent back home at an
acceleration of 0.01 deg/s². -/
def sendAndRecall : List TwinCall :=
  [.accept (moveBase 13500 4500 12000), .step (.literal 1), .accept (moveBase 0 4500 1),
    .step (.literal 10)]

/-- Ten seconds after it was sent back the base is at 494 degrees. -/
theorem retargeting_leaves_wire :
    ∃ t ∈ states call testTwin sendAndRecall, ¬ t.ReportRoundTrips 0 := by
  refine ⟨_, run_mem_states call _ _, ?_⟩
  have hmeters := states_invariant call metersFit_call testTwin
    (metersFit_new referenceArm 6000 testTwin rfl) sendAndRecall _ (run_mem_states call _ _)
  rw [reportRoundTrips_iff _ hmeters 0 ⟨by norm_num, by norm_num⟩]
  intro hfits
  exact absurd (hfits .base).1 (by decide +kernel)

end DigitalTwinRobot
end Floating
end RoboticCharacter
