import RoboticCharacter.EventHistory

/-! The single-servo HIL guard of the robot MCU: what makes a target eligible, over
every sequence of calls. -/
namespace RoboticCharacter.Firmware
open Machine EventHistory

structure SingleServoHilCalibration where
  protocolId : UInt8 := 0
  channel : UInt8 := 0
  lowerCdeg : Int16 := 0
  neutralCdeg : Int16 := 0
  upperCdeg : Int16 := 0
  lowerPulseUs : UInt16 := 0
  neutralPulseUs : UInt16 := 0
  upperPulseUs : UInt16 := 0
  testLowerCdeg : Int16 := 0
  testUpperCdeg : Int16 := 0
  maxStepCdeg : UInt16 := 0
  deriving DecidableEq, Repr

inductive HilGuardDecision
  | kRejectedUnconfigured
  | kRejectedNotArmed
  | kRejectedJointMismatch
  | kRejectedOutsideTestEnvelope
  | kRejectedStepTooLarge
  | kEligibleForDriverLayer
  deriving DecidableEq, Repr

def validHilCalibration (calibration : SingleServoHilCalibration) : Bool :=
  if calibration.protocolId = 0 ∨ calibration.maxStepCdeg = 0 then false
  else if ¬ (calibration.lowerCdeg < calibration.neutralCdeg ∧
      calibration.neutralCdeg < calibration.upperCdeg) then false
  else if ¬ (calibration.lowerCdeg ≤ calibration.testLowerCdeg ∧
      calibration.testLowerCdeg < calibration.testUpperCdeg ∧
      calibration.testUpperCdeg ≤ calibration.upperCdeg) then false
  else if ¬ (calibration.testLowerCdeg ≤ calibration.neutralCdeg ∧
      calibration.neutralCdeg ≤ calibration.testUpperCdeg) then false
  else if calibration.lowerPulseUs = 0 ∨ calibration.neutralPulseUs = 0 ∨
      calibration.upperPulseUs = 0 ∨ calibration.lowerPulseUs = calibration.upperPulseUs then false
  else
    let pulseLow := if calibration.lowerPulseUs < calibration.upperPulseUs
      then calibration.lowerPulseUs else calibration.upperPulseUs
    let pulseHigh := if calibration.lowerPulseUs > calibration.upperPulseUs
      then calibration.lowerPulseUs else calibration.upperPulseUs
    if ¬ (pulseLow < calibration.neutralPulseUs ∧ calibration.neutralPulseUs < pulseHigh) then false
    else
      -- the subtraction is made on `int`, the cast keeps its low sixteen bits
      let testSpan :=
        (calibration.testUpperCdeg.toInt32-calibration.testLowerCdeg.toInt32).toUInt32.toUInt16
      decide (calibration.maxStepCdeg ≤ testSpan)

structure SingleServoHilGuard where
  calibration : SingleServoHilCalibration := {}
  configured : Bool := false
  armed : Bool := false
  estopLatched : Bool := false
  deriving DecidableEq, Repr

namespace SingleServoHilGuard

def configure (guard : SingleServoHilGuard) (calibration : SingleServoHilCalibration) :
    SingleServoHilGuard × Bool :=
  if validHilCalibration calibration = false then
    ({ guard with configured := false, armed := false }, false)
  else
    ({ calibration, configured := true, armed := false, estopLatched := false }, true)

def arm (guard : SingleServoHilGuard) (wiringVerified independentEstopVerified estopClear
    manualAcknowledgement : Bool) : SingleServoHilGuard × Bool :=
  if guard.configured = false ∨ wiringVerified = false ∨ independentEstopVerified = false ∨
      estopClear = false ∨ manualAcknowledgement = false ∨ guard.estopLatched = true then
    ({ guard with armed := false }, false)
  else ({ guard with armed := true }, true)

def observeEstop (guard : SingleServoHilGuard) (active : Bool) : SingleServoHilGuard :=
  if active then { guard with estopLatched := true, armed := false } else guard

def manualReset (guard : SingleServoHilGuard) (estopClear manualAcknowledgement : Bool) :
    SingleServoHilGuard × Bool :=
  if guard.configured = false ∨ estopClear = false ∨ manualAcknowledgement = false then
    (guard, false)
  else ({ guard with estopLatched := false, armed := false }, true)

def evaluateTarget (guard : SingleServoHilGuard) (protocolId : UInt8)
    (currentCdeg targetCdeg : Int16) : HilGuardDecision :=
  if guard.configured = false then .kRejectedUnconfigured
  else if guard.armed = false ∨ guard.estopLatched = true then .kRejectedNotArmed
  else if protocolId ≠ guard.calibration.protocolId then .kRejectedJointMismatch
  else if targetCdeg < guard.calibration.testLowerCdeg ∨
      targetCdeg > guard.calibration.testUpperCdeg then .kRejectedOutsideTestEnvelope
  else
    let delta := targetCdeg.toInt32-currentCdeg.toInt32
    let magnitude := (if delta < 0 then -delta else delta).toUInt32
    if magnitude > guard.calibration.maxStepCdeg.toUInt32 then .kRejectedStepTooLarge
    else .kEligibleForDriverLayer

end SingleServoHilGuard

inductive HilOperation
  | configure (calibration : SingleServoHilCalibration)
  | arm (wiringVerified independentEstopVerified estopClear manualAcknowledgement : Bool)
  | observeEstop (active : Bool)
  | manualReset (estopClear manualAcknowledgement : Bool)
  deriving DecidableEq, Repr

inductive HilAnswer
  | configured (accepted : Bool)
  | armed (accepted : Bool)
  | observed
  | reset (accepted : Bool)
  deriving DecidableEq, Repr

def hilStep (guard : SingleServoHilGuard) : HilOperation → SingleServoHilGuard × HilAnswer
  | .configure calibration =>
    ((guard.configure calibration).1, .configured (guard.configure calibration).2)
  | .arm wiringVerified independentEstopVerified estopClear manualAcknowledgement =>
    let answered :=
      guard.arm wiringVerified independentEstopVerified estopClear manualAcknowledgement
    (answered.1, .armed answered.2)
  | .observeEstop active => (guard.observeEstop active, .observed)
  | .manualReset estopClear manualAcknowledgement =>
    let answered := guard.manualReset estopClear manualAcknowledgement
    (answered.1, .reset answered.2)

abbrev HilEvent := Event SingleServoHilGuard HilOperation HilAnswer

def hilRun (ops : List HilOperation) : SingleServoHilGuard := run hilStep {} ops

def hilTrace (ops : List HilOperation) : List HilEvent := trace hilStep {} ops

def IsConfigure (e : HilEvent) : Prop := ∃ calibration, e.input = .configure calibration

def IsEstop (e : HilEvent) : Prop := e.input = .observeEstop true

def IsManualReset (e : HilEvent) : Prop := e.output = .reset true

def IsCheckedArm (e : HilEvent) : Prop :=
  e.input = .arm true true true true ∧ e.output = .armed true

/-- A `Configure` that took effect while the E-stop was latched. -/
def IsRelease (e : HilEvent) : Prop :=
  e.before.estopLatched = true ∧ e.output = .configured true

instance (e : HilEvent) : Decidable (IsEstop e) := inferInstanceAs (Decidable (_ = _))

instance (e : HilEvent) : Decidable (IsManualReset e) := inferInstanceAs (Decidable (_ = _))

/-- The last `Configure` succeeded with this calibration. -/
def LastConfigured (past : List HilEvent) (calibration : SingleServoHilCalibration) : Prop :=
  ∃ before e later, past = before ++ e :: later ∧ e.input = .configure calibration ∧
    e.output = .configured true ∧ validHilCalibration calibration = true ∧
    ∀ x ∈ later, ¬ IsConfigure x

/-- A fully checked `Arm` succeeded after the last `Configure`, and by then every
observed E-stop had been reset by hand. -/
def ArmedAfterChecks (past : List HilEvent) (calibration : SingleServoHilCalibration) : Prop :=
  ∃ before e later, past = before ++ e :: later ∧ IsCheckedArm e ∧
    LastConfigured before calibration ∧ (∀ x ∈ later, ¬ IsConfigure x) ∧
    FollowedBy IsEstop IsManualReset before ∧ ∀ x ∈ later, ¬ IsEstop x

structure WithinTestEnvelope (calibration : SingleServoHilCalibration) (protocolId : UInt8)
    (currentCdeg targetCdeg : Int16) : Prop where
  joint : protocolId = calibration.protocolId
  lower : calibration.testLowerCdeg ≤ targetCdeg
  upper : targetCdeg ≤ calibration.testUpperCdeg
  step : (targetCdeg.toInt-currentCdeg.toInt).natAbs ≤ calibration.maxStepCdeg.toNat

def EligibilityEarned (past : List HilEvent) (protocolId : UInt8)
    (currentCdeg targetCdeg : Int16) : Prop :=
  ∃ calibration, ArmedAfterChecks past calibration ∧
    WithinTestEnvelope calibration protocolId currentCdeg targetCdeg

theorem toInt_sub_toInt32 (x y : Int16) : (x.toInt32-y.toInt32).toInt = x.toInt-y.toInt := by
  have hx := x.toInt_lt
  have hx' := x.le_toInt
  have hy := y.toInt_lt
  have hy' := y.le_toInt
  rw [Int32.toInt_sub, Int16.toInt_toInt32, Int16.toInt_toInt32, Int.bmod_def]
  split <;> omega

/-- The `int32_t` difference of two angles and its magnitude do not overflow. -/
theorem step_magnitude (current target : Int16) :
    (if target.toInt32-current.toInt32 < 0 then -(target.toInt32-current.toInt32)
      else target.toInt32-current.toInt32).toUInt32.toNat =
        (target.toInt-current.toInt).natAbs := by
  have hd := toInt_sub_toInt32 target current
  have ht := target.toInt_lt
  have ht' := target.le_toInt
  have hc := current.toInt_lt
  have hc' := current.le_toInt
  generalize target.toInt32-current.toInt32 = delta at hd ⊢
  have hzero : delta < 0 ↔ delta.toInt < 0 := Int32.lt_iff_toInt_lt
  have hpos : ∀ x : Int32, 0 ≤ x.toInt → x.toUInt32.toNat = x.toInt.toNat := by
    intro x hx
    exact Int32.toNat_toUInt32_of_le (Int32.le_iff_toInt_le.mpr hx)
  split_ifs with hneg
  · have hnegated : (-delta).toInt = -delta.toInt := by
      rw [Int32.toInt_neg, Int.bmod_def]
      split <;> omega
    have hlt := hzero.mp hneg
    rw [hpos _ (by omega), hnegated, hd]
    omega
  · have hge : 0 ≤ delta.toInt := Int.not_lt.mp (fun h => hneg (hzero.mpr h))
    rw [hpos _ hge, hd]
    omega

theorem evaluateTarget_eligible_iff (guard : SingleServoHilGuard) (protocolId : UInt8)
    (currentCdeg targetCdeg : Int16) :
    guard.evaluateTarget protocolId currentCdeg targetCdeg = .kEligibleForDriverLayer ↔
      guard.configured = true ∧ guard.armed = true ∧ guard.estopLatched = false ∧
        WithinTestEnvelope guard.calibration protocolId currentCdeg targetCdeg := by
  have hmagnitude := step_magnitude currentCdeg targetCdeg
  dsimp only [SingleServoHilGuard.evaluateTarget]
  generalize (if targetCdeg.toInt32-currentCdeg.toInt32 < 0
    then -(targetCdeg.toInt32-currentCdeg.toInt32)
    else targetCdeg.toInt32-currentCdeg.toInt32).toUInt32 = magnitude at hmagnitude ⊢
  have hstep : magnitude ≤ guard.calibration.maxStepCdeg.toUInt32 ↔
      (targetCdeg.toInt-currentCdeg.toInt).natAbs ≤ guard.calibration.maxStepCdeg.toNat := by
    rw [← hmagnitude, UInt32.le_iff_toNat_le, UInt16.toNat_toUInt32]
  split_ifs with hconfigured harmed hjoint henvelope hlarge
  · simp only [hconfigured, Bool.false_eq_true, false_and]
  · simp only [false_iff]
    rintro ⟨_, harm, hlatch, _⟩
    simp only [harm, hlatch, Bool.true_eq_false, Bool.false_eq_true, or_self] at harmed
  · simp only [false_iff]
    rintro ⟨_, _, _, henv⟩
    exact hjoint henv.joint
  · simp only [false_iff]
    rintro ⟨_, _, _, henv⟩
    rcases henvelope with hlow | hhigh
    · exact Int16.not_le.mpr hlow henv.lower
    · exact Int16.not_le.mpr hhigh henv.upper
  · simp only [false_iff]
    rintro ⟨_, _, _, henv⟩
    exact UInt32.not_le.mpr hlarge (hstep.mpr henv.step)
  · simp only [not_or, Bool.not_eq_false, Bool.not_eq_true] at hconfigured harmed
    have henv : WithinTestEnvelope guard.calibration protocolId currentCdeg targetCdeg := by
      refine ⟨not_not.mp hjoint, ?_, ?_, hstep.mp (UInt32.not_lt.mp hlarge)⟩
      · exact Int16.not_lt.mp (fun h => henvelope (.inl h))
      · exact Int16.not_lt.mp (fun h => henvelope (.inr h))
    simp only [hconfigured, harmed, henv, and_self]

theorem LastConfigured.snoc {past : List HilEvent} {calibration : SingleServoHilCalibration}
    (h : LastConfigured past calibration) (e : HilEvent) (he : ¬ IsConfigure e) :
    LastConfigured (past ++ [e]) calibration := by
  obtain ⟨before, configure, later, rfl, hinput, houtput, hvalid, hlater⟩ := h
  refine ⟨before, configure, later ++ [e], by simp, hinput, houtput, hvalid, ?_⟩
  intro x hx
  rcases List.mem_append.mp hx with hx | hx
  · exact hlater x hx
  · rw [List.mem_singleton.mp hx]
    exact he

theorem LastConfigured.append {past : List HilEvent} {calibration : SingleServoHilCalibration}
    (h : LastConfigured past calibration) (more : List HilEvent)
    (hmore : ∀ e ∈ more, ¬ IsConfigure e) : LastConfigured (past ++ more) calibration := by
  induction more using List.reverseRecOn with
  | nil => rwa [List.append_nil]
  | append_singleton more e ih =>
    rw [← List.append_assoc]
    apply LastConfigured.snoc
    · exact ih (fun x hx => hmore x (List.mem_append_left _ hx))
    · exact hmore e (List.mem_append_right _ (List.mem_singleton_self e))

/-- How the guard came to be armed: nothing since the checked `Arm` has configured it,
stopped it or reset it. -/
def ArmedSince (past : List HilEvent) (calibration : SingleServoHilCalibration) : Prop :=
  ∃ before e later, past = before ++ e :: later ∧ IsCheckedArm e ∧
    e.before.estopLatched = false ∧ LastConfigured before calibration ∧
    ∀ x ∈ later, ¬ IsConfigure x ∧ ¬ IsEstop x ∧ ¬ IsManualReset x

structure HilInvariant (past : List HilEvent) (guard : SingleServoHilGuard) : Prop where
  configured : guard.configured = true → LastConfigured past guard.calibration
  armed_configured : guard.armed = true → guard.configured = true
  armed_released : guard.armed = true → guard.estopLatched = false
  armed_since : guard.armed = true → ArmedSince past guard.calibration
  latched : guard.estopLatched = true → ¬ FollowedBy IsEstop IsManualReset past
  released : guard.estopLatched = false →
    FollowedBy IsEstop IsManualReset past ∨ ¬ FollowedBy IsRelease IsManualReset past

/-- A call that is neither a reset nor an E-stop nor a release leaves what is open open. -/
theorem followedBy_quiet {past : List HilEvent} {e : HilEvent} {p : HilEvent → Prop}
    (hreset : ¬ IsManualReset e) (hp : ¬ p e) :
    FollowedBy p IsManualReset (past ++ [e]) ↔ FollowedBy p IsManualReset past := by
  have hopen := followedBy_append_unanswered (p := p) past [e] (by simpa using hreset)
  simpa only [List.forall_mem_singleton, hp, not_false_eq_true, and_true] using hopen

namespace HilInvariant
variable {past : List HilEvent} {guard : SingleServoHilGuard}

theorem latch_kept (h : HilInvariant past guard) {e : HilEvent} (hreset : ¬ IsManualReset e)
    (hestop : ¬ IsEstop e) (hrelease : ¬ IsRelease e) :
    (guard.estopLatched = true → ¬ FollowedBy IsEstop IsManualReset (past ++ [e])) ∧
      (guard.estopLatched = false → FollowedBy IsEstop IsManualReset (past ++ [e]) ∨
        ¬ FollowedBy IsRelease IsManualReset (past ++ [e])) := by
  rw [followedBy_quiet hreset hestop, followedBy_quiet hreset hrelease]
  exact ⟨h.latched, h.released⟩

/-- A call that changes nothing and is none of the recorded kinds. -/
theorem unchanged (h : HilInvariant past guard) {e : HilEvent} (hconfigure : ¬ IsConfigure e)
    (hreset : ¬ IsManualReset e) (hestop : ¬ IsEstop e) (hrelease : ¬ IsRelease e) :
    HilInvariant (past ++ [e]) guard := by
  have hlatch := h.latch_kept hreset hestop hrelease
  refine ⟨?_, h.armed_configured, h.armed_released, ?_, hlatch.1, hlatch.2⟩
  · exact fun hc => (h.configured hc).snoc e hconfigure
  · intro ha
    obtain ⟨before, arm, later, rfl, harm, hclear, hlast, hlater⟩ := h.armed_since ha
    refine ⟨before, arm, later ++ [e], by simp, harm, hclear, hlast, ?_⟩
    intro x hx
    rcases List.mem_append.mp hx with hx | hx
    · exact hlater x hx
    · rw [List.mem_singleton.mp hx]
      exact ⟨hconfigure, hestop, hreset⟩

theorem configure (h : HilInvariant past guard) (calibration : SingleServoHilCalibration) :
    HilInvariant (past ++ [⟨guard, .configure calibration,
      (hilStep guard (.configure calibration)).2, (hilStep guard (.configure calibration)).1⟩])
      (hilStep guard (.configure calibration)).1 := by
  dsimp only [hilStep, SingleServoHilGuard.configure]
  split_ifs with hvalid
  · have hlatch := h.latch_kept
      (e := ⟨guard, .configure calibration, .configured false, { guard with
        configured := false, armed := false }⟩) (by simp [IsManualReset]) (by simp [IsEstop])
      (by simp [IsRelease])
    exact ⟨nofun, nofun, nofun, nofun, hlatch.1, hlatch.2⟩
  · refine ⟨fun _ => ?_, nofun, nofun, nofun, nofun, fun _ => ?_⟩
    · exact ⟨past, _, [], rfl, rfl, rfl, by simpa using hvalid, by simp⟩
    · -- a configuration under a latched stop is the release that no reset answers
      have hopen := followedBy_append_unanswered (p := IsRelease) (q := IsManualReset) past
        [⟨guard, .configure calibration, .configured true, ⟨calibration, true, false, false⟩⟩]
        (by simp [IsManualReset])
      cases hl : guard.estopLatched with
      | true =>
        right
        rw [hopen]
        simp only [List.forall_mem_singleton, IsRelease, hl, and_self, not_true_eq_false,
          and_false, not_false_eq_true]
      | false =>
        rw [followedBy_quiet (by simp [IsManualReset]) (by simp [IsEstop]), hopen]
        simp only [List.forall_mem_singleton, IsRelease, hl, Bool.false_eq_true, not_false_eq_true,
          and_true]
        exact h.released hl

theorem disarmed (h : HilInvariant past guard) :
    HilInvariant past { guard with armed := false } :=
  ⟨h.configured, nofun, nofun, nofun, h.latched, h.released⟩

theorem arm (h : HilInvariant past guard) (wiring independent clear acknowledged : Bool) :
    HilInvariant (past ++ [⟨guard, .arm wiring independent clear acknowledged,
      (hilStep guard (.arm wiring independent clear acknowledged)).2,
      (hilStep guard (.arm wiring independent clear acknowledged)).1⟩])
      (hilStep guard (.arm wiring independent clear acknowledged)).1 := by
  dsimp only [hilStep, SingleServoHilGuard.arm]
  split_ifs with hrefused
  · apply disarmed
    apply h.unchanged <;> simp [IsConfigure, IsManualReset, IsEstop, IsRelease]
  · simp only [not_or, Bool.not_eq_false, Bool.not_eq_true] at hrefused
    obtain ⟨hconfigured, hwiring, hindependent, hclear, hacknowledged, hreleased⟩ := hrefused
    subst hwiring hindependent hclear hacknowledged
    have hkept : HilInvariant (past ++ [⟨guard, .arm true true true true, .armed true,
        { guard with armed := true }⟩]) guard := by
      apply h.unchanged <;> simp [IsConfigure, IsManualReset, IsEstop, IsRelease]
    refine ⟨hkept.configured, fun _ => hconfigured, fun _ => hreleased, fun _ => ?_,
      hkept.latched, hkept.released⟩
    exact ⟨past, _, [], rfl, ⟨rfl, rfl⟩, hreleased, h.configured hconfigured, by simp⟩

theorem observeEstop (h : HilInvariant past guard) (active : Bool) :
    HilInvariant (past ++ [⟨guard, .observeEstop active,
      (hilStep guard (.observeEstop active)).2, (hilStep guard (.observeEstop active)).1⟩])
      (hilStep guard (.observeEstop active)).1 := by
  cases active with
  | false => apply h.unchanged <;> simp [IsConfigure, IsManualReset, IsEstop, IsRelease, hilStep]
  | true =>
    dsimp only [hilStep, SingleServoHilGuard.observeEstop]
    refine ⟨?_, nofun, nofun, nofun, fun _ => ?_, nofun⟩
    · exact fun hc => (h.configured hc).snoc _ (by simp [IsConfigure])
    · rw [followedBy_append_unanswered _ _ (by simp [IsManualReset])]
      simp [IsEstop]

theorem manualReset (h : HilInvariant past guard) (clear acknowledged : Bool) :
    HilInvariant (past ++ [⟨guard, .manualReset clear acknowledged,
      (hilStep guard (.manualReset clear acknowledged)).2,
      (hilStep guard (.manualReset clear acknowledged)).1⟩])
      (hilStep guard (.manualReset clear acknowledged)).1 := by
  dsimp only [hilStep, SingleServoHilGuard.manualReset]
  split_ifs with hrefused
  · apply h.unchanged <;> simp [IsConfigure, IsManualReset, IsEstop, IsRelease]
  · refine ⟨?_, nofun, nofun, nofun, nofun, fun _ => .inl ?_⟩
    · exact fun hc => (h.configured hc).snoc _ (by simp [IsConfigure])
    · exact followedBy_append_answer past _ rfl (by simp [IsEstop])

theorem hilRun (ops : List HilOperation) : HilInvariant (hilTrace ops) (hilRun ops) := by
  apply history_invariant
  · exact ⟨nofun, nofun, nofun, nofun, nofun, fun _ => .inl trivial⟩
  · intro past guard op h
    cases op with
    | configure calibration => exact h.configure calibration
    | arm wiring independent clear acknowledged => exact h.arm wiring independent clear acknowledged
    | observeEstop active => exact h.observeEstop active
    | manualReset clear acknowledged => exact h.manualReset clear acknowledged

end HilInvariant

/-- An unanswered release leaves open the E-stop it released. -/
theorem estop_open_of_release (ops : List HilOperation)
    (h : ¬ FollowedBy IsRelease IsManualReset (hilTrace ops)) :
    ¬ FollowedBy IsEstop IsManualReset (hilTrace ops) := by
  obtain ⟨past, e, later, hsplit, ⟨hlatched, hconfigured⟩, hno⟩ :=
    exists_open_of_not_followedBy h
  obtain ⟨hpast, hbefore⟩ := trace_split hilStep {} ops past later e hsplit
  have hinv := HilInvariant.hilRun (past.map Event.input)
  have hopen : ¬ FollowedBy IsEstop IsManualReset past := by
    rw [hpast]
    apply hinv.latched
    rwa [hbefore] at hlatched
  rw [hsplit, followedBy_append_unanswered]
  · exact fun hall => hopen hall.1
  · intro y hy
    rcases List.mem_cons.mp hy with rfl | hrest
    · simp [IsManualReset, hconfigured]
    · exact hno y hrest

/-- An armed guard whose every release was followed by a reset was armed after its checks. -/
theorem armedAfterChecks_of_armed (ops : List HilOperation) (harmed : (hilRun ops).armed = true)
    (hreset : FollowedBy IsRelease IsManualReset (hilTrace ops)) :
    ArmedAfterChecks (hilTrace ops) (hilRun ops).calibration := by
  have hinv := HilInvariant.hilRun ops
  obtain ⟨before, e, later, hsplit, harm, hclear, hlast, hlater⟩ := hinv.armed_since harmed
  obtain ⟨hpast, hbefore⟩ := trace_split hilStep {} ops before later e hsplit
  have hthen := HilInvariant.hilRun (before.map Event.input)
  refine ⟨before, e, later, hsplit, harm, hlast, fun x hx => (hlater x hx).1, ?_,
    fun x hx => (hlater x hx).2.1⟩
  -- no reset came after the arm, so every release before it had been answered by then
  have hanswered : FollowedBy IsRelease IsManualReset before := by
    rw [hsplit, followedBy_append_unanswered] at hreset
    · exact hreset.1
    · intro y hy
      rcases List.mem_cons.mp hy with rfl | hrest
      · simp [IsManualReset, harm.2]
      · exact (hlater y hrest).2.2
  rw [hbefore] at hclear
  rw [hpast] at hanswered ⊢
  rcases hthen.released hclear with hfollowed | hopen
  · exact hfollowed
  · exact absurd hanswered hopen

theorem ArmedAfterChecks.estops_reset {past : List HilEvent}
    {calibration : SingleServoHilCalibration} (h : ArmedAfterChecks past calibration) :
    FollowedBy IsEstop IsManualReset past := by
  obtain ⟨before, e, later, rfl, harm, _, _, hfollowed, hlater⟩ := h
  apply hfollowed.append
  intro x hx
  rcases List.mem_cons.mp hx with rfl | hrest
  · simp [IsEstop, harm.1]
  · exact hlater x hrest

theorem testLower_le_testUpper_of_valid {calibration : SingleServoHilCalibration}
    (h : validHilCalibration calibration = true) :
    calibration.testLowerCdeg ≤ calibration.testUpperCdeg := by
  dsimp only [validHilCalibration] at h
  by_cases henvelope : calibration.lowerCdeg ≤ calibration.testLowerCdeg ∧
      calibration.testLowerCdeg < calibration.testUpperCdeg ∧
      calibration.testUpperCdeg ≤ calibration.upperCdeg
  · exact Int16.le_of_lt henvelope.2.1
  · rw [if_pos henvelope] at h
    split_ifs at h

/-- An armed guard finds some target eligible: the lower end of its own test range. -/
theorem exists_eligible_of_armed (ops : List HilOperation) (h : (hilRun ops).armed = true) :
    ∃ protocolId currentCdeg targetCdeg,
      (hilRun ops).evaluateTarget protocolId currentCdeg targetCdeg = .kEligibleForDriverLayer := by
  have hinv := HilInvariant.hilRun ops
  have hconfigured := hinv.armed_configured h
  obtain ⟨_, _, _, _, _, _, hvalid, _⟩ := hinv.configured hconfigured
  refine ⟨(hilRun ops).calibration.protocolId, (hilRun ops).calibration.testLowerCdeg,
    (hilRun ops).calibration.testLowerCdeg, ?_⟩
  rw [evaluateTarget_eligible_iff]
  refine ⟨hconfigured, h, hinv.armed_released h, rfl, Int16.le_refl _,
    testLower_le_testUpper_of_valid hvalid, ?_⟩
  rw [Int.sub_self, Int.natAbs_zero]
  exact Nat.zero_le _

/-- Eligibility is earned at the end of exactly the runs in which every `Configure` made
under a latched E-stop was followed by a manual reset before the guard was armed again. -/
theorem hil_eligibility_earned_iff (ops : List HilOperation) :
    (∀ protocolId currentCdeg targetCdeg,
      (hilRun ops).evaluateTarget protocolId currentCdeg targetCdeg = .kEligibleForDriverLayer →
        EligibilityEarned (hilTrace ops) protocolId currentCdeg targetCdeg) ↔
      ((hilRun ops).armed = true → FollowedBy IsRelease IsManualReset (hilTrace ops)) := by
  constructor
  · intro hearned harmed
    obtain ⟨protocolId, currentCdeg, targetCdeg, heligible⟩ := exists_eligible_of_armed ops harmed
    obtain ⟨calibration, hchecks, _⟩ := hearned _ _ _ heligible
    by_contra hopen
    exact estop_open_of_release ops hopen hchecks.estops_reset
  · intro hreset protocolId currentCdeg targetCdeg heligible
    obtain ⟨_, harmed, _, henvelope⟩ := (evaluateTarget_eligible_iff _ _ _ _).mp heligible
    exact ⟨_, armedAfterChecks_of_armed ops harmed (hreset harmed), henvelope⟩

/-- The calibration of the guard's own test. -/
def benchCalibration : SingleServoHilCalibration :=
  { protocolId := 1, lowerCdeg := -6000, upperCdeg := 6000, lowerPulseUs := 1100,
    neutralPulseUs := 1500, upperPulseUs := 1900, testLowerCdeg := -1000, testUpperCdeg := 1000,
    maxStepCdeg := 200 }

def reconfiguredUnderStop : List HilOperation :=
  [.configure benchCalibration, .observeEstop true, .configure benchCalibration,
    .arm true true true true]

theorem hil_eligibility_unearned :
    (hilRun reconfiguredUnderStop).evaluateTarget 1 0 100 = .kEligibleForDriverLayer ∧
      (∀ e ∈ hilTrace reconfiguredUnderStop, ¬ IsManualReset e) ∧
      ¬ EligibilityEarned (hilTrace reconfiguredUnderStop) 1 0 100 := by
  have hnone : ∀ e ∈ hilTrace reconfiguredUnderStop, ¬ IsManualReset e := by decide
  have hstop : ∃ e ∈ hilTrace reconfiguredUnderStop, IsEstop e := by decide
  refine ⟨by decide, hnone, ?_⟩
  rintro ⟨calibration, hchecks, _⟩
  obtain ⟨e, he, hestop⟩ := hstop
  obtain ⟨y, hy, hreset⟩ := hchecks.estops_reset.answered e he hestop
  exact hnone y hy hreset

end RoboticCharacter.Firmware
