import RoboticCharacter.SafetyEligibility
import Mathlib.Data.List.Sort

/-! Dynamic motion eligibility: freshness and per-joint velocity and acceleration. -/
namespace RoboticCharacter.Safety

variable {α : Type*} [AddCommGroup α] [LinearOrder α] [ToString α]

def sortedNames (names : List String) : List String := names.insertionSort (· ≤ ·)

/-- An age check: the code and text of an unusable age, those of an age over the limit. -/
def ageViolations (age limit : ExtendedNumber α) (invalid stale : SafetyViolation) :
    List SafetyViolation :=
  if age.isFinite = false ∨ age.lt (.finite 0) = true then [invalid]
  else if limit.lt age = true then [stale]
  else []

def commandAgeViolations (policy : MotionSafetyPolicy α) (dynamics : MotionDynamics α) :
    List SafetyViolation :=
  ageViolations dynamics.commandAgeMs policy.commandTtlMs
    { code := .commandAgeInvalid, detail := "command age must be a finite non-negative value" }
    { code := .commandStale
      detail := s!"command age {dynamics.commandAgeMs.format} ms exceeds TTL " ++
        s!"{policy.commandTtlMs.format} ms" }

def heartbeatAgeViolations (policy : MotionSafetyPolicy α) (dynamics : MotionDynamics α) :
    List SafetyViolation :=
  ageViolations dynamics.heartbeatAgeMs policy.heartbeatTimeoutMs
    { code := .heartbeatAgeInvalid, detail := "heartbeat age must be a finite non-negative value" }
    { code := .heartbeatStale
      detail := s!"heartbeat age {dynamics.heartbeatAgeMs.format} ms exceeds timeout " ++
        s!"{policy.heartbeatTimeoutMs.format} ms" }

/-- Target joints without a sample, in name order. -/
def missingSampleViolations (candidate : MotionCandidate α) (samples : Dict (ExtendedNumber α))
    (code : SafetyViolationCode) (what : String) : List SafetyViolation :=
  (sortedNames (candidate.jointTargetsDeg.keys.filter (fun name => name ∉ samples.keys))).map
    (fun name => { code, detail := s!"joint {PythonText.repr name} is missing {what} sample" })

def unknownSampleViolations (envelope : SafetyEnvelope α) (dynamics : MotionDynamics α) :
    List SafetyViolation :=
  (sortedNames ((dynamics.jointVelocitiesDegS.keys ++
      dynamics.jointAccelerationsDegS2.keys).dedup.filter
        (fun name => name ∉ envelope.joints.keys))).map
    (fun name =>
      { code := .dynamicSampleUnknownJoint
        detail := s!"dynamic sample references unknown joint {PythonText.repr name}" })

/-- One turn of the loop over the samples of a rate; other joints are skipped. -/
def rateViolations (candidate : MotionCandidate α) (limit : ExtendedNumber α)
    (code : SafetyViolationCode) (what unit : String) (name : String) (rate : ExtendedNumber α) :
    List SafetyViolation :=
  if name ∉ candidate.jointTargetsDeg.keys then []
  else if rate.isFinite = false then
    [{ code := .invalidNumericTarget
       detail := s!"joint {PythonText.repr name} {what} is not finite" }]
  else if limit.lt rate.abs = true then
    [{ code
       detail := s!"joint {PythonText.repr name} {what} {rate.format} {unit} exceeds limit " ++
         s!"{limit.format} {unit}" }]
  else []

def velocityViolations (policy : MotionSafetyPolicy α) (candidate : MotionCandidate α)
    (dynamics : MotionDynamics α) : List SafetyViolation :=
  dynamics.jointVelocitiesDegS.entries.flatMap (fun entry =>
    rateViolations candidate policy.maxVelocityDegS .velocityLimitViolation "velocity" "deg/s"
      entry.1 entry.2)

def accelerationViolations (policy : MotionSafetyPolicy α) (candidate : MotionCandidate α)
    (dynamics : MotionDynamics α) : List SafetyViolation :=
  dynamics.jointAccelerationsDegS2.entries.flatMap (fun entry =>
    rateViolations candidate policy.maxAccelerationDegS2 .accelerationLimitViolation
      "acceleration" "deg/s^2" entry.1 entry.2)

def dynamicViolations (envelope : SafetyEnvelope α) (policy : MotionSafetyPolicy α)
    (candidate : MotionCandidate α) (dynamics : MotionDynamics α) : List SafetyViolation :=
  commandAgeViolations policy dynamics ++ (heartbeatAgeViolations policy dynamics ++
    (missingSampleViolations candidate dynamics.jointVelocitiesDegS .velocitySampleMissing
        "a velocity" ++
      (missingSampleViolations candidate dynamics.jointAccelerationsDegS2
          .accelerationSampleMissing "an acceleration" ++
        (unknownSampleViolations envelope dynamics ++
          (velocityViolations policy candidate dynamics ++
            accelerationViolations policy candidate dynamics)))))

def policyUnavailable (detail : String) : MotionEligibility :=
  ⟨.reject, [{ code := .motionPolicyUnavailable, detail }]⟩

def assessDynamicMotionEligibility (envelope : SafetyEnvelope α) (candidate : MotionCandidate α)
    (dynamics : MotionDynamics α) : MotionEligibility :=
  let staticResult := assessMotionEligibility envelope candidate
  if staticResult.approved = false then staticResult
  else
    match envelope.motionPolicy with
    | none => policyUnavailable "dynamic motion policy is missing or invalid"
    | some policy =>
      if policy.valid = false then policyUnavailable "dynamic motion policy is missing or invalid"
      else verdict (dynamicViolations envelope policy candidate dynamics)

structure RateAdmitted (limit rate : ExtendedNumber α) : Prop where
  isFinite : rate.isFinite = true
  within : rate.abs.le limit = true

/-- What the dynamic layer asks of a statically safe candidate. -/
structure DynamicallySafe (envelope : SafetyEnvelope α) (policy : MotionSafetyPolicy α)
    (candidate : MotionCandidate α) (dynamics : MotionDynamics α) : Prop where
  policy_valid : policy.valid = true
  command_fresh : ExtendedNumber.FiniteIn (.finite 0) policy.commandTtlMs dynamics.commandAgeMs
  heartbeat_fresh :
    ExtendedNumber.FiniteIn (.finite 0) policy.heartbeatTimeoutMs dynamics.heartbeatAgeMs
  velocities : ∀ name ∈ candidate.jointTargetsDeg, ∃ velocity,
    dynamics.jointVelocitiesDegS.lookup name = some velocity ∧
      RateAdmitted policy.maxVelocityDegS velocity
  accelerations : ∀ name ∈ candidate.jointTargetsDeg, ∃ acceleration,
    dynamics.jointAccelerationsDegS2.lookup name = some acceleration ∧
      RateAdmitted policy.maxAccelerationDegS2 acceleration
  samples_known : ∀ name, name ∈ dynamics.jointVelocitiesDegS ∨
    name ∈ dynamics.jointAccelerationsDegS2 → name ∈ envelope.joints

omit [ToString α] in
theorem ageViolations_eq_nil_iff (age limit : ExtendedNumber α) (invalid stale : SafetyViolation)
    (hl : limit ≠ .nan) :
    ageViolations age limit invalid stale = [] ↔
      ExtendedNumber.FiniteIn (.finite 0) limit age := by
  rw [ExtendedNumber.finiteIn_iff _ _ _ (by simp) hl]
  unfold ageViolations
  split_ifs with h1 h2
  · simp [h1]
  · simp [h2]
  · simp [h1, h2]

theorem sortedNames_map_eq_nil_iff {β : Type*} (names : List String) (f : String → β) :
    (sortedNames names).map f = [] ↔ names = [] := by
  rw [List.map_eq_nil_iff, ← List.length_eq_zero_iff, sortedNames, List.length_insertionSort,
    List.length_eq_zero_iff]

omit [AddCommGroup α] [LinearOrder α] [ToString α] in
theorem missingSampleViolations_eq_nil_iff (candidate : MotionCandidate α)
    (samples : Dict (ExtendedNumber α)) (code : SafetyViolationCode) (what : String) :
    missingSampleViolations candidate samples code what = [] ↔
      ∀ name ∈ candidate.jointTargetsDeg, name ∈ samples := by
  rw [missingSampleViolations, sortedNames_map_eq_nil_iff]
  simp [List.filter_eq_nil_iff, AList.mem_keys]

omit [AddCommGroup α] [LinearOrder α] [ToString α] in
theorem unknownSampleViolations_eq_nil_iff (envelope : SafetyEnvelope α)
    (dynamics : MotionDynamics α) :
    unknownSampleViolations envelope dynamics = [] ↔
      ∀ name, name ∈ dynamics.jointVelocitiesDegS ∨ name ∈ dynamics.jointAccelerationsDegS2 →
        name ∈ envelope.joints := by
  rw [unknownSampleViolations, sortedNames_map_eq_nil_iff]
  simp [List.filter_eq_nil_iff, AList.mem_keys]

theorem rateViolations_eq_nil_iff (candidate : MotionCandidate α) (limit : ExtendedNumber α)
    (hl : limit ≠ .nan) (code : SafetyViolationCode) (what unit name : String)
    (rate : ExtendedNumber α) :
    rateViolations candidate limit code what unit name rate = [] ↔
      (name ∈ candidate.jointTargetsDeg → RateAdmitted limit rate) := by
  unfold rateViolations
  -- the negated membership test comes last
  split_ifs with hn hf hlt
  · refine iff_of_false id (fun h => ?_)
    rw [(h (AList.mem_keys.mpr hn)).isFinite] at hf
    cases hf
  · refine iff_of_false id (fun h => ?_)
    have hadm := h (AList.mem_keys.mpr hn)
    have hnan := ExtendedNumber.abs_ne_nan _ (ExtendedNumber.ne_nan_of_isFinite _ hadm.isFinite)
    rw [(ExtendedNumber.lt_eq_false_iff _ _ hnan hl).mpr hadm.within] at hlt
    cases hlt
  · have hfin := Bool.eq_true_of_not_eq_false hf
    have hnan := ExtendedNumber.abs_ne_nan _ (ExtendedNumber.ne_nan_of_isFinite _ hfin)
    refine iff_of_true rfl (fun _ => ⟨hfin, ?_⟩)
    exact (ExtendedNumber.lt_eq_false_iff _ _ hnan hl).mp (Bool.eq_false_of_not_eq_true hlt)
  · exact iff_of_true rfl (fun h => absurd (AList.mem_keys.mp h) hn)

/-- A loop over samples is silent exactly when it admits every sample of a target joint. -/
theorem rateLoop_eq_nil_iff (candidate : MotionCandidate α) (samples : Dict (ExtendedNumber α))
    (limit : ExtendedNumber α) (hl : limit ≠ .nan) (code : SafetyViolationCode)
    (what unit : String) :
    samples.entries.flatMap (fun entry =>
        rateViolations candidate limit code what unit entry.1 entry.2) = [] ↔
      ∀ name rate, samples.lookup name = some rate → name ∈ candidate.jointTargetsDeg →
        RateAdmitted limit rate := by
  simp only [List.flatMap_eq_nil_iff, rateViolations_eq_nil_iff candidate limit hl]
  constructor
  · intro h name rate hm
    exact h ⟨name, rate⟩ (AList.mem_lookup_iff.mp hm)
  · intro h entry hm
    exact h entry.1 entry.2 (AList.mem_lookup_iff.mpr hm)

omit [ToString α] in
/-- Presence and admission of every target's sample, as one statement about each target. -/
theorem samples_admitted_iff (candidate : MotionCandidate α) (samples : Dict (ExtendedNumber α))
    (limit : ExtendedNumber α) :
    ((∀ name ∈ candidate.jointTargetsDeg, name ∈ samples) ∧
      ∀ name rate, samples.lookup name = some rate → name ∈ candidate.jointTargetsDeg →
        RateAdmitted limit rate) ↔
    ∀ name ∈ candidate.jointTargetsDeg, ∃ rate,
      samples.lookup name = some rate ∧ RateAdmitted limit rate := by
  constructor
  · intro hboth name hname
    obtain ⟨hpresent, hadmitted⟩ := hboth
    obtain ⟨rate, hrate⟩ := Option.isSome_iff_exists.mp (AList.lookup_isSome.mpr
      (hpresent name hname))
    exact ⟨rate, hrate, hadmitted name rate hrate hname⟩
  · intro h
    refine ⟨fun name hname => ?_, fun name rate hrate hname => ?_⟩
    · obtain ⟨rate, hrate, -⟩ := h name hname
      exact AList.lookup_isSome.mp (by rw [hrate]; rfl)
    · obtain ⟨rate', hrate', hadm⟩ := h name hname
      rw [hrate] at hrate'
      cases hrate'
      exact hadm

theorem dynamicViolations_eq_nil_iff (envelope : SafetyEnvelope α) (policy : MotionSafetyPolicy α)
    (hv : policy.valid = true) (candidate : MotionCandidate α) (dynamics : MotionDynamics α) :
    dynamicViolations envelope policy candidate dynamics = [] ↔
      DynamicallySafe envelope policy candidate dynamics := by
  -- a valid policy has no NaN limit, so a comparison with one can be trusted
  have hpos := hv
  simp only [MotionSafetyPolicy.valid, List.all_cons, List.all_nil, Bool.and_eq_true] at hpos
  obtain ⟨httl, hbeat, hvel, hacc, -⟩ := hpos
  simp only [dynamicViolations, commandAgeViolations, heartbeatAgeViolations,
    velocityViolations, accelerationViolations, List.append_eq_nil_iff,
    ageViolations_eq_nil_iff _ _ _ _ (isPositive_ne_nan _ httl),
    ageViolations_eq_nil_iff _ _ _ _ (isPositive_ne_nan _ hbeat),
    missingSampleViolations_eq_nil_iff, unknownSampleViolations_eq_nil_iff,
    rateLoop_eq_nil_iff _ _ _ (isPositive_ne_nan _ hvel),
    rateLoop_eq_nil_iff _ _ _ (isPositive_ne_nan _ hacc)]
  constructor
  · intro hsilent
    obtain ⟨hc, hh, hmv, hma, hu, hrv, hra⟩ := hsilent
    exact ⟨hv, hc, hh, (samples_admitted_iff _ _ _).mp ⟨hmv, hrv⟩,
      (samples_admitted_iff _ _ _).mp ⟨hma, hra⟩, hu⟩
  · intro h
    obtain ⟨hmv, hrv⟩ := (samples_admitted_iff _ _ _).mpr h.velocities
    obtain ⟨hma, hra⟩ := (samples_admitted_iff _ _ _).mpr h.accelerations
    exact ⟨h.command_fresh, h.heartbeat_fresh, hmv, hma, h.samples_known, hrv, hra⟩

/-- The dynamic layer approves exactly the candidates safe in both layers. -/
theorem assessDynamicMotionEligibility_approved_iff (envelope : SafetyEnvelope α)
    (candidate : MotionCandidate α) (dynamics : MotionDynamics α) :
    (assessDynamicMotionEligibility envelope candidate dynamics).approved = true ↔
      StaticallySafe envelope candidate ∧ ∃ policy, envelope.motionPolicy = some policy ∧
        DynamicallySafe envelope policy candidate dynamics := by
  rw [← assessMotionEligibility_approved_iff]
  unfold assessDynamicMotionEligibility
  dsimp only
  split_ifs with hstatic
  · simp [hstatic]
  · rw [Bool.eq_true_of_not_eq_false hstatic]
    cases hpolicy : envelope.motionPolicy with
    | none => simp [policyUnavailable, MotionEligibility.approved]
    | some policy =>
      dsimp only
      split_ifs with hvalid
      · refine iff_of_false (by simp [policyUnavailable, MotionEligibility.approved]) ?_
        intro hboth
        obtain ⟨_, policy', hp, hsafe⟩ := hboth
        cases hp
        rw [hsafe.policy_valid] at hvalid
        cases hvalid
      · rw [verdict_approved_iff,
          dynamicViolations_eq_nil_iff _ _ (Bool.eq_true_of_not_eq_false hvalid)]
        simp

end RoboticCharacter.Safety
