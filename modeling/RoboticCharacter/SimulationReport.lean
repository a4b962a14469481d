import RoboticCharacter.SimulationGoal
import RoboticCharacter.SimulationChannel

/-! A report of `execute_behavior` means that the goal was reached, over every interleaving of the
runtime's calls. -/
namespace RoboticCharacter.Simulation
open Safety Gateway PythonMath Machine Robotics Fallible

/-! ### Reports -/
section Reports
variable {K : Type} [Field K] [LinearOrder K] [FloorRing K] [ToString K]

/-- The report is one of this behavior, and the twin stands at its goal. -/
structure GoalReached (m : RobotModel K) (past : List (RuntimeEvent K))
    (twin : DigitalTwinRobot K) (id : ℕ) (report : SimulationExecutionReport K)
    (intent : BehaviorIntent) (authorization : MotionAuthorization K)
    (goal : EmbodiedBehaviorGoal K) : Prop where
  behavior : BehaviorGoal m past id intent authorization goal
  at_rest : twin.AtRest
  positions : twin.positions = goal.targetJointsDeg
  within : m.WithinLimits twin.positions
  cue : report.cue = intent.cue.value
  style : report.style = intent.style.value
  authorizationId : report.authorizationId = authorization.authorizationId
  telemetry : report.telemetry = twin.telemetry 0

/-- An output is no report, or one of a goal that was reached. -/
def ReportsReached (m : RobotModel K) (past : List (RuntimeEvent K)) (twin : DigitalTwinRobot K)
    (output : RuntimeOutput K) : Prop :=
  ∀ id report, output = .executeDone id (.ok report) →
    ∃ intent authorization goal, GoalReached m past twin id report intent authorization goal

theorem reportsReached_raised {m : RobotModel K} {past : List (RuntimeEvent K)}
    {twin : DigitalTwinRobot K} (errand : Errand K) (id : ℕ) (failure : RuntimeFailure) :
    ReportsReached m past twin (errand.raised id failure) := by
  intro other report hreport
  cases errand with
  | estop | heartbeat | motion => cases hreport

theorem reportsReached_startErrand {m : RobotModel K} {past : List (RuntimeEvent K)}
    {twin : DigitalTwinRobot K} (env : Surroundings K) (r : SimulationRuntime K) (id : ℕ)
    (errand : Errand K) : ReportsReached m past twin (r.startErrand env id errand).2 := by
  obtain ⟨gateway, -, ⟨failure, hstart⟩ | ⟨frame, -, hstart⟩⟩ := startErrand_cases env r id errand
  · rw [hstart]
    exact reportsReached_raised errand id _
  · rw [hstart]
    exact fun _ _ hreport => nomatch hreport

variable [SquareRoot K]

/-- A motion that was acknowledged settles at its goal, or the call raises. -/
theorem finishExecute_reached {m : RobotModel K} {past : List (RuntimeEvent K)}
    {r : SimulationRuntime K} (h : RecordInv m past r) (hactive : r.active = none) {id : ℕ}
    {intent : BehaviorIntent} {authorization : MotionAuthorization K}
    {goal : EmbodiedBehaviorGoal K} (hgoal : BehaviorGoal m past id intent authorization goal)
    (hpursues : r.twin.Pursues goal.targetJointsDeg) (decision : MotionDecision)
    (heartbeatReceipt motionReceipt : GatewayReceipt) :
    let finished := r.finishExecute id intent decision authorization heartbeatReceipt motionReceipt
    GoalInv m past finished.1 ∧ ReportsReached m past finished.1.twin finished.2 := by
  obtain ⟨hsettled, hmodel⟩ :=
    SimulationRuntime.settle_pursues r.stepS_pos SimulationRuntime.maxSteps 0 hpursues
  unfold SimulationRuntime.finishExecute
  generalize SimulationRuntime.settle r.stepS SimulationRuntime.maxSteps r.twin 0 = settled
    at hsettled hmodel ⊢
  obtain ⟨twin, steps⟩ := settled
  have hbase : RecordInv m past (r.setTwin twin) := ⟨hmodel.trans h.model_eq, h.ids_eq, h.called⟩
  dsimp only at hsettled ⊢
  split_ifs with hidle
  · exact ⟨hbase.goalInv hactive, fun _ _ hreport => nomatch hreport⟩
  · refine ⟨hbase.goalInv hactive, ?_⟩
    intro other report hreport
    cases hreport
    have hrest : twin.AtRest := by
      obtain hexecuting | hrest := hsettled.state
      · rw [hexecuting] at hidle
        exact absurd nofun hidle
      · exact hrest
    have hpositions : twin.positions = goal.targetJointsDeg :=
      hrest.positions.trans hsettled.targets_eq
    refine ⟨intent, authorization, goal, ?_⟩
    exact
      { behavior := hgoal
        at_rest := hrest
        positions := hpositions
        within := by
          change m.WithinLimits twin.positions
          rw [hpositions]
          exact embody_within m intent hgoal.embodied
        cue := rfl
        style := rfl
        authorizationId := rfl
        telemetry := rfl }

end Reports

section Execute
variable {K : Type} [Field K] [LinearOrder K] [ToString K]

/-- An authorization repeats the targets of its candidate. -/
theorem authorized_targets (sup : MotionSafetySupervisor K) (candidate : MotionCandidate K)
    (dynamics : MotionDynamics K) (uuid : Uuid) {authorization : MotionAuthorization K}
    (h : (sup.evaluate candidate dynamics uuid).2.authorization = some authorization) :
    authorization.jointTargetsDeg = candidate.jointTargetsDeg := by
  by_cases hsafe : sup.SafeToMove candidate dynamics
  · obtain ⟨policy, point, -, -, hresult⟩ := sup.evaluate_of_safe candidate dynamics uuid hsafe
    rw [hresult] at h
    rw [← Option.some.inj h]
    rfl
  · rw [sup.evaluate_of_unsafe candidate dynamics uuid hsafe] at h
    cases h

variable [FloorRing K] [SquareRoot K] [Trigonometry K]

/-- A behavior is refused, or its goal is approved and the heartbeat before its motion starts. -/
inductive BeginsExecute (arm : ArmModel K) (stepS : K) (r : SimulationRuntime K) (id : ℕ)
    (intent : BehaviorIntent) (uuid : Uuid) : SimulationRuntime K × RuntimeOutput K → Prop
  | refused (supervisor : MotionSafetySupervisor K) (failure : RuntimeFailure) :
      BeginsExecute arm stepS r id intent uuid
        ({ r with supervisor := supervisor }, .executeDone id (.error failure))
  | approved (goal : EmbodiedBehaviorGoal K) (hgoal : embody arm.toRobotModel intent = .ok goal)
      (candidate : MotionCandidate K) (dynamics : MotionDynamics K)
      (htargets : candidate.jointTargetsDeg =
        jointDict r.twin.model (fun name => .finite (goal.targetJointsDeg name)))
      (authorization : MotionAuthorization K)
      (happroved : (r.supervisor.evaluate candidate dynamics uuid).2.approved = true)
      (hauthorization : (r.supervisor.evaluate candidate dynamics uuid).2.authorization =
        some authorization) (decision : MotionDecision) :
      BeginsExecute arm stepS r id intent uuid
        (SimulationRuntime.startErrand (behaviorSurroundings arm stepS)
          { r with supervisor := (r.supervisor.evaluate candidate dynamics uuid).1 } id
          (.heartbeat intent decision authorization))

theorem beginExecute_cases (arm : ArmModel K) (stepS : K) (r : SimulationRuntime K) (id : ℕ)
    (intent : BehaviorIntent) (uuid : Uuid) : BeginsExecute arm stepS r id intent uuid
      (r.beginExecute (behaviorSurroundings arm stepS) id intent uuid) := by
  unfold SimulationRuntime.beginExecute
  cases hplan : (behaviorSurroundings arm stepS).plan intent r.twin.positions with
  | error message => exact .refused r.supervisor _
  | ok planned =>
    obtain ⟨goal, hgoal, hplanned⟩ := planBehavior_goal arm stepS intent r.twin.positions hplan
    dsimp only
    split
    · rename_i authorization happroved hauthorization
      refine .approved goal hgoal _ _ ?_ authorization happroved hauthorization _
      rw [← hplanned]
      rfl
    · exact .refused _ _

end Execute

/-! ### Steps of the runtime -/
section Steps
variable {K : Type} [Field K] [LinearOrder K] [FloorRing K] [SquareRoot K] [Trigonometry K]
  [ToString K]

/-- The call that gets the lock starts a request that is in order, or has none. -/
theorem GoalInv.grant {arm : ArmModel K} {stepS : K} {past : List (RuntimeEvent K)}
    {r : SimulationRuntime K} (h : GoalInv arm.toRobotModel past r) (hclear : r.Unambiguous)
    (uuid : Uuid) (output : RuntimeOutput K) :
    let after := (r.grant (behaviorSurroundings arm stepS) uuid).1
    GoalInv arm.toRobotModel (past ++ [⟨r, .grant uuid, output, after⟩]) after := by
  dsimp only
  obtain hidle | ⟨call, rest, hactive, hwaiting, hcall⟩ :=
    r.grant_cases (behaviorSurroundings arm stepS) uuid
  · rw [hidle]
    exact h.append _
  · have hbase : RecordInv arm.toRobotModel past (r.granted rest) := by
      refine ⟨h.model_eq, h.ids_eq, ?_⟩
      intro other hother
      exact h.called other (by rw [hwaiting]; exact List.mem_cons_of_mem call hother)
    have hfree : (r.granted rest).Unambiguous := ⟨hclear.unsent, hclear.unacknowledged⟩
    obtain ⟨-, hgrant⟩ | ⟨intent, hkind, hgrant⟩ := hcall
    · rw [hgrant]
      exact (hbase.append _).startErrand hfree fun _ _ _ => ⟨True, .estop⟩
    · have hbegins := beginExecute_cases arm stepS (r.granted rest) call.id intent uuid
      rw [hgrant]
      generalize (r.granted rest).beginExecute (behaviorSurroundings arm stepS) call.id intent uuid
        = begun at hbegins ⊢
      cases hbegins with
      | refused supervisor failure =>
        exact RecordInv.goalInv ((hbase.append _).withSupervisor supervisor) hactive
      | approved goal hgoal candidate dynamics htargets authorization happroved hauthorization
          decision =>
        apply ((hbase.append _).withSupervisor _).startErrand (hfree.withSupervisor _)
        intro gateway frame _
        refine ⟨True, .heartbeat goal ?_⟩
        -- the call was recorded when it was made, and its approval is this step
        obtain ⟨e, he, hcalled⟩ :=
          h.called call (by rw [hwaiting]; exact List.mem_cons_self) intent hkind
        have hcandidate : candidate.jointTargetsDeg = jointDict arm.toRobotModel
            (fun name => .finite (goal.targetJointsDeg name)) := by
          rw [htargets]
          exact congrArg (fun m => jointDict m _) h.model_eq
        refine
          { called := ⟨e, List.mem_append_left _ he, hcalled⟩
            embodied := hgoal
            approved := ⟨_, List.mem_append_right past (List.mem_singleton_self _), ?_⟩
            targets := (authorized_targets _ _ _ _ hauthorization).trans hcandidate }
        have hsupervisor := (SimulationRuntime.sameSafety_startErrand
          (behaviorSurroundings arm stepS)
          { r.granted rest with
            supervisor := ((r.granted rest).supervisor.evaluate candidate dynamics uuid).1 }
          call.id (.heartbeat intent decision authorization)).supervisor_eq
        refine ⟨⟨rest, ?_⟩, uuid, candidate, dynamics, rfl, hcandidate, hsupervisor, happroved,
          hauthorization⟩
        rw [← hkind]
        exact hwaiting

theorem reportsReached_grant {m : RobotModel K} {past : List (RuntimeEvent K)}
    {twin : DigitalTwinRobot K} (arm : ArmModel K) (stepS : K) (r : SimulationRuntime K)
    (uuid : Uuid) :
    ReportsReached m past twin (r.grant (behaviorSurroundings arm stepS) uuid).2 := by
  obtain hidle | ⟨call, rest, -, -, hcall⟩ := r.grant_cases (behaviorSurroundings arm stepS) uuid
  · rw [hidle]
    exact fun _ _ hreport => nomatch hreport
  · obtain ⟨-, hgrant⟩ | ⟨intent, -, hgrant⟩ := hcall
    · rw [hgrant]
      exact reportsReached_startErrand _ _ _ _
    · have hbegins := beginExecute_cases arm stepS (r.granted rest) call.id intent uuid
      rw [hgrant]
      generalize (r.granted rest).beginExecute (behaviorSurroundings arm stepS) call.id intent uuid
        = begun at hbegins ⊢
      cases hbegins with
      | refused => exact fun _ _ hreport => nomatch hreport
      | approved => exact reportsReached_startErrand _ _ _ _

end Steps

section Runs
variable {K : Type} [Field K] [LinearOrder K] [IsStrictOrderedRing K] [FloorRing K] [SquareRoot K]
  [Trigonometry K] [ToString K]

/-- The call goes on with the receipt of a request that did what it stands for. -/
theorem resume_reached {arm : ArmModel K} {stepS : K} {past : List (RuntimeEvent K)}
    {r : SimulationRuntime K} (h : RecordInv arm.toRobotModel past r) (hclear : r.Unambiguous)
    {a : ActiveCall K} {served : Prop}
    (herrand : ErrandOk arm.toRobotModel past r.twin a.id a.request a.errand served)
    (hserved : served) (receipt : GatewayReceipt) :
    let resumed := r.resume (behaviorSurroundings arm stepS) a receipt
    GoalInv arm.toRobotModel past resumed.1 ∧
      ReportsReached arm.toRobotModel past resumed.1.twin resumed.2 := by
  obtain ⟨id, errand, request, phase⟩ := a
  dsimp only at herrand
  cases herrand with
  | estop =>
    exact ⟨(h.release.withSupervisor _).goalInv rfl, fun _ _ hreport => nomatch hreport⟩
  | @heartbeat intent decision authorization goal hgoal =>
    refine ⟨h.startErrand hclear ?_, reportsReached_startErrand _ _ _ _⟩
    intro gateway frame hsend
    refine ⟨_, .motion goal hgoal ?_⟩
    have hstarts := startRequest_starts hsend
    exact
      { type_eq := hstarts.type_eq
        asks := Gateway.Exact.authorizationPayload_requested r.gateway arm.toRobotModel h.ids_eq
          authorization goal.targetJointsDeg hgoal.targets hstarts.payload_eq }
  | motion goal hgoal hcarries =>
    exact finishExecute_reached h.release rfl hgoal hserved _ _ _

/-- An event of the request under way, with what the call does then. -/
theorem requestStep_reached {arm : ArmModel K} {stepS : K} {past : List (RuntimeEvent K)}
    {r : SimulationRuntime K} (h : GoalInv arm.toRobotModel past r) (hclear : r.Unambiguous)
    (event : RequestEvent) :
    let answered := r.step (behaviorSurroundings arm stepS) (.request event)
    GoalInv arm.toRobotModel past answered.1 ∧
      ReportsReached arm.toRobotModel past answered.1.twin answered.2 := by
  unfold SimulationRuntime.step
  cases hactive : r.active with
  | none => exact ⟨h, fun _ _ hreport => nomatch hreport⟩
  | some a =>
    obtain ⟨served, herrand, hlink⟩ := h.active a hactive
    have houtcome := requestStep_link hactive hlink event
    have hsafety := SimulationRuntime.sameSafety_requestStep r a event
    have hnumbers := sameNumbers_requestStep hactive event
    dsimp only
    generalize r.requestStep a event = stepped at houtcome hsafety hnumbers ⊢
    have htwin : stepped.1.twin = r.twin :=
      congrArg DigitalTwinProtocolDevice.twin hsafety.device_eq
    have hbase : RecordInv arm.toRobotModel past stepped.1 := by
      refine ⟨(congrArg _ htwin).trans h.model_eq, hnumbers.ids_eq.trans h.ids_eq, ?_⟩
      rw [hsafety.waiting_eq]
      exact h.called
    rw [← htwin] at herrand
    cases houtcome with
    | goesOn next b hnext hid hsame hrequest hlater =>
      refine ⟨⟨hbase, ?_⟩, fun _ _ hreport => nomatch hreport⟩
      intro other hother
      obtain rfl := Option.some.inj (hnext.symm.trans hother)
      rw [← hid, ← hsame, ← hrequest] at herrand
      exact ⟨served, herrand, hlater⟩
    | returns next receipt hdevice hserved =>
      exact resume_reached hbase (hclear.of_sameNumbers hnumbers hdevice) herrand hserved receipt
    | raises next failure =>
      exact ⟨hbase.release.goalInv rfl, reportsReached_raised a.errand a.id failure⟩

theorem step_reached {arm : ArmModel K} (stepS : K) {past : List (RuntimeEvent K)}
    {r : SimulationRuntime K} (h : GoalInv arm.toRobotModel past r) (hclear : r.Unambiguous)
    (input : RuntimeInput) :
    let answered := r.step (behaviorSurroundings arm stepS) input
    GoalInv arm.toRobotModel (past ++ [⟨r, input, answered.2, answered.1⟩]) answered.1 ∧
      ReportsReached arm.toRobotModel past answered.1.twin answered.2 := by
  dsimp only
  cases input with
  | call kind =>
    refine ⟨(h.append _).same ⟨h.model_eq, h.ids_eq, ?_⟩ rfl rfl rfl (fun _ hf => hf)
      (fun _ hf => hf), fun _ _ hreport => nomatch hreport⟩
    intro call hcall intent hkind
    obtain hbefore | hnew := List.mem_append.mp hcall
    · exact (h.append _).called call hbefore intent hkind
    · -- The call that was just made waits under the next id.
      rw [List.mem_singleton.mp hnew] at hkind ⊢
      exact ⟨_, List.mem_append_right past (List.mem_singleton_self _), congrArg _ hkind, rfl⟩
  | grant uuid => exact ⟨h.grant hclear uuid _, reportsReached_grant arm stepS r uuid⟩
  | request event =>
    obtain ⟨hafter, hreports⟩ := requestStep_reached h hclear event
    exact ⟨hafter.append _, hreports⟩
  | serve => exact ⟨h.serve.append _, fun _ _ hreport => nomatch hreport⟩
  | loseRequest =>
    refine ⟨(h.append _).same ⟨h.model_eq, h.ids_eq, (h.append _).called⟩ rfl rfl rfl ?_
      (fun _ hf => hf), fun _ _ hreport => nomatch hreport⟩
    exact fun _ hframe => List.mem_of_mem_tail hframe
  | loseResponse =>
    refine ⟨(h.append _).same ⟨h.model_eq, h.ids_eq, (h.append _).called⟩ rfl rfl rfl
      (fun _ hf => hf) ?_, fun _ _ hreport => nomatch hreport⟩
    exact fun _ hframe => List.mem_of_mem_tail hframe
  | resetEstop =>
    refine ⟨h.resetEstop.append _, ?_⟩
    obtain ⟨cleared, hresets⟩ := r.resetEstop_same.resets
    intro id report hreport
    exact nomatch hresets.symm.trans hreport
  | readDiagnostics =>
    exact ⟨(h.append _).same ⟨h.model_eq, h.ids_eq, (h.append _).called⟩ rfl rfl rfl
      (fun _ hf => hf) (fun _ hf => hf), fun _ _ hreport => nomatch hreport⟩

/-- A step on the channel, where the numbers are never ambiguous. -/
theorem linkStep_reached {arm : ArmModel K} (stepS : K) {past : List (RuntimeEvent K)}
    {r : SimulationRuntime K} (h : GoalInv arm.toRobotModel past r) (hchannel : ChannelInv r)
    (input : RuntimeInput) :
    let answered := r.linkStep (behaviorSurroundings arm stepS) input
    GoalInv arm.toRobotModel (past ++ [⟨r, input, answered.2, answered.1⟩]) answered.1 ∧
      ReportsReached arm.toRobotModel past answered.1.twin answered.2 := by
  dsimp only
  obtain hwaits | ⟨-, hstep⟩ := r.linkStep_cases (behaviorSurroundings arm stepS) input
  · rw [hwaits]
    exact ⟨h.append _, fun _ _ hreport => nomatch hreport⟩
  · rw [hstep]
    exact step_reached stepS h hchannel.unambiguous input

/-- Whenever `execute_behavior` returns a report, the twin stands at the goal of a behavior that
was called under the id of the report, and the supervisor approved exactly this goal as the call
got the lock. Requests may fail, be lost or time out, and calls may interleave at their await
points. -/
theorem report_means_goal_reached (arm : ArmModel K) (supervisor : MotionSafetySupervisor K)
    (stepS : K) (runtime : SimulationRuntime K)
    (hruntime : SimulationRuntime.new arm.toRobotModel supervisor stepS = .ok runtime)
    (inputs : List RuntimeInput) (past later : List (RuntimeEvent K)) (e : RuntimeEvent K)
    (htrace : trace (SimulationRuntime.linkStep (behaviorSurroundings arm stepS)) runtime inputs =
      past ++ e :: later)
    (id : ℕ) (report : SimulationExecutionReport K)
    (hreport : e.output = .executeDone id (.ok report)) :
    ∃ intent authorization goal,
      GoalReached arm.toRobotModel past e.after.twin id report intent authorization goal := by
  unfold SimulationRuntime.new at hruntime
  split_ifs at hruntime with hstep
  obtain rfl := Except.ok.inj hruntime
  have hinv := history_invariant (SimulationRuntime.linkStep (behaviorSurroundings arm stepS))
    (P := fun past r => GoalInv arm.toRobotModel past r ∧ ChannelInv r)
    _ ⟨goalInv_fresh arm.toRobotModel supervisor stepS hstep, channelInv_fresh _ _ _ hstep⟩
    (fun past r input h => ⟨(linkStep_reached stepS h.1 h.2 input).1,
      h.2.linkStep (behaviorSurroundings_fits arm stepS) input⟩)
    (past.map Event.input)
  obtain ⟨hpast, hbefore⟩ := trace_split _ _ _ past later e htrace
  rw [← hpast, ← hbefore] at hinv
  obtain ⟨hgoal, hchannel⟩ := hinv
  have hmem : e ∈ past ++ e :: later := List.mem_append_right past List.mem_cons_self
  rw [← htrace] at hmem
  have hevent := trace_step _ _ inputs e hmem
  have hreports := (linkStep_reached stepS hgoal hchannel e.input).2
  rw [hevent] at hreports
  exact hreports id report hreport

end Runs

/-! ### A run on fractions -/

/-- Exact on quarter turns, which is what an evaluated run needs. -/
def quarterSin (degrees : ℚ) : ℚ :=
  if degrees = 90*(⌊degrees/90⌋ : ℚ) then
    if ⌊degrees/90⌋ % 4 = 1 then 1 else if ⌊degrees/90⌋ % 4 = 3 then -1 else 0
  else 0

/-- Angles are in degrees. -/
instance : Trigonometry ℚ := ⟨180, quarterSin, fun degrees => quarterSin (degrees+90)⟩

def listeningRow : JointName → JointRow
  | .base => ⟨1, -180, 180, 0, 10, 30⟩
  | .shoulder => ⟨2, -180, 180, -5, 10, 30⟩
  | .elbow => ⟨3, -180, 180, 5, 10, 30⟩
  | .gripper => ⟨4, 0, 70, 20, 10, 30⟩

theorem listeningRow_valid (name : JointName) : (listeningRow name).Valid := by
  cases name <;> constructor <;> decide

theorem listeningRow_ids (a b : JointName)
    (h : (listeningRow a).protocolId = (listeningRow b).protocolId) : a = b := by
  cases a <;> cases b <;> first | rfl | cases h

/-- An arm that listens stretched out along its first axis. -/
def listeningArm : ArmModel ℚ where
  profile := {
    joints := fun name => (listeningRow name).toJoint ℚ (listeningRow_valid name)
    order := referenceOrder
    order_nodup := referenceOrder_nodup
    order_complete := referenceOrder_complete
    ids_unique := listeningRow_ids }
  geometry := referenceGeometry ℚ

/-- A call of `execute_behavior`, up to the answer to its motion. -/
def listeningInputs : List RuntimeInput :=
  [.call (.execute ⟨.listen, .expressive⟩), .grant Uuid.zero, .request .written, .serve,
    .request .deviceReturns, .request .receive, .request .written, .serve,
    .request .deviceReturns]

def listeningStep : SimulationRuntime ℚ → RuntimeInput → SimulationRuntime ℚ × RuntimeOutput ℚ :=
  SimulationRuntime.linkStep (behaviorSurroundings listeningArm 1)

def RuntimeOutput.ReportsFirst : RuntimeOutput ℚ → Bool
  | .executeDone 0 (.ok _) => true
  | _ => false

theorem exists_report {output : RuntimeOutput ℚ} (h : output.ReportsFirst = true) :
    ∃ report, output = .executeDone 0 (.ok report) := by
  unfold RuntimeOutput.ReportsFirst at h
  split at h
  · exact ⟨_, rfl⟩
  · cases h

def listeningReports : Bool :=
  match buildSimulationSupervisor listeningArm with
  | .error _ => false
  | .ok supervisor =>
    match SimulationRuntime.new listeningArm.toRobotModel supervisor 1 with
    | .error _ => false
    | .ok runtime =>
      (listeningStep (run listeningStep runtime listeningInputs) (.request .receive)).2.ReportsFirst

theorem listeningReports_eq : listeningReports = true := by decide +kernel

theorem report_means_goal_reached_listening : ∃ supervisor runtime report intent authorization goal,
    buildSimulationSupervisor listeningArm = .ok supervisor ∧
    SimulationRuntime.new listeningArm.toRobotModel supervisor 1 = .ok runtime ∧
    GoalReached listeningArm.toRobotModel (trace listeningStep runtime listeningInputs)
      (listeningStep (run listeningStep runtime listeningInputs) (.request .receive)).1.twin 0
      report intent authorization goal := by
  have hreports := listeningReports_eq
  unfold listeningReports at hreports
  split at hreports
  · cases hreports
  · rename_i supervisor hsupervisor
    split at hreports
    · cases hreports
    · rename_i runtime hruntime
      obtain ⟨report, hreport⟩ := exists_report hreports
      obtain ⟨intent, authorization, goal, hreached⟩ :=
        report_means_goal_reached listeningArm supervisor 1 runtime hruntime _
          (trace listeningStep runtime listeningInputs) [] _
          (trace_append listeningStep runtime listeningInputs [.request .receive]) 0 report hreport
      exact ⟨supervisor, runtime, report, intent, authorization, goal, hsupervisor, hruntime,
        hreached⟩

end RoboticCharacter.Simulation
