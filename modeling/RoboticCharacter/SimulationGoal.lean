import RoboticCharacter.SimulationLink
import RoboticCharacter.BehaviorEmbodiment
import RoboticCharacter.GatewayExact

/-! What a behavior that is being executed stands for: the goal that was planned and approved for
it, the frame that asks for the goal, and what an acknowledgement of that frame says of the
twin. -/
namespace RoboticCharacter.Simulation
open Safety Gateway PythonMath Machine Robotics Fallible

section Surroundings
variable {K : Type} [Field K] [LinearOrder K] [FloorRing K] [SquareRoot K] [Trigonometry K]
  [ToString K]

/-- The planners of the runtime, and the encoder of its gateway. -/
def behaviorSurroundings (arm : ArmModel K) (stepS : K) : Surroundings K where
  plan := planBehavior arm stepS
  authorizationPayload := Gateway.Exact.authorizationPayload

end Surroundings

/-! ### The record of a behavior -/
section Record
variable {K : Type} [Field K] [LinearOrder K]

/-- The frame carries a command that asks a twin of this model for these targets. -/
structure Carries (m : RobotModel K) (request : Frame) (targetsDeg : JointName → K) : Prop where
  type_eq : request.messageType = .validatedMotionCommand
  asks : ∃ command, Codec.ValidatedMotionCommand.decode request.payload = .ok command ∧
    ∀ twin : DigitalTwinRobot K, twin.model = m → twin.requested command = targetsDeg

/-- The record and the runtime that it leads to, but for the call that holds the lock. -/
structure RecordInv (m : RobotModel K) (past : List (RuntimeEvent K)) (r : SimulationRuntime K) :
    Prop where
  model_eq : r.twin.model = m
  ids_eq : r.gateway.jointProtocolIds = jointIds m
  called : ∀ call ∈ r.waiting, ∀ intent, call.kind = .execute intent →
    ∃ e ∈ past, e.input = .call (.execute intent) ∧ e.before.nextId = call.id

theorem RecordInv.append {m : RobotModel K} {past : List (RuntimeEvent K)}
    {r : SimulationRuntime K} (h : RecordInv m past r) (later : List (RuntimeEvent K)) :
    RecordInv m (past ++ later) r where
  model_eq := h.model_eq
  ids_eq := h.ids_eq
  called := fun call hcall intent hkind => by
    obtain ⟨e, he, hcalled⟩ := h.called call hcall intent hkind
    exact ⟨e, List.mem_append_left later he, hcalled⟩

theorem RecordInv.withSupervisor {m : RobotModel K} {past : List (RuntimeEvent K)}
    {r : SimulationRuntime K} (h : RecordInv m past r) (supervisor : MotionSafetySupervisor K) :
    RecordInv m past { r with supervisor := supervisor } := ⟨h.model_eq, h.ids_eq, h.called⟩

theorem RecordInv.release {m : RobotModel K} {past : List (RuntimeEvent K)}
    {r : SimulationRuntime K} (h : RecordInv m past r) : RecordInv m past r.release :=
  ⟨h.model_eq, h.ids_eq, h.called⟩

variable [ToString K]

/-- At this event the call got the lock, the supervisor was shown these targets, and its approval
was this authorization. -/
structure Approval (m : RobotModel K) (e : RuntimeEvent K) (id : ℕ) (intent : BehaviorIntent)
    (targetsDeg : JointName → K) (authorization : MotionAuthorization K) : Prop where
  granted : ∃ rest, e.before.waiting = ⟨id, .execute intent⟩ :: rest
  evaluated : ∃ uuid candidate dynamics, e.input = .grant uuid ∧
    candidate.jointTargetsDeg = jointDict m (fun name => .finite (targetsDeg name)) ∧
    e.after.supervisor = (e.before.supervisor.evaluate candidate dynamics uuid).1 ∧
    (e.before.supervisor.evaluate candidate dynamics uuid).2.approved = true ∧
    (e.before.supervisor.evaluate candidate dynamics uuid).2.authorization = some authorization

variable [FloorRing K]

/-- What the record says of a behavior that is being executed: its call, its goal, and that the
supervisor approved exactly the goal. -/
structure BehaviorGoal (m : RobotModel K) (past : List (RuntimeEvent K)) (id : ℕ)
    (intent : BehaviorIntent) (authorization : MotionAuthorization K)
    (goal : EmbodiedBehaviorGoal K) : Prop where
  called : ∃ e ∈ past, e.input = .call (.execute intent) ∧ e.before.nextId = id
  embodied : embody m intent = .ok goal
  approved : ∃ e ∈ past, Approval m e id intent goal.targetJointsDeg authorization
  targets : authorization.jointTargetsDeg =
    jointDict m (fun name => .finite (goal.targetJointsDeg name))

theorem BehaviorGoal.append {m : RobotModel K} {past : List (RuntimeEvent K)} {id : ℕ}
    {intent : BehaviorIntent} {authorization : MotionAuthorization K}
    {goal : EmbodiedBehaviorGoal K} (h : BehaviorGoal m past id intent authorization goal)
    (later : List (RuntimeEvent K)) :
    BehaviorGoal m (past ++ later) id intent authorization goal := by
  obtain ⟨call, hcall, hcalled⟩ := h.called
  obtain ⟨grant, hgrant, happroval⟩ := h.approved
  exact
    { called := ⟨call, List.mem_append_left later hcall, hcalled⟩
      embodied := h.embodied
      approved := ⟨grant, List.mem_append_left later hgrant, happroval⟩
      targets := h.targets }

/-- What is known of the call that holds the lock, and what an acknowledgement of its request
stands for: that of a motion says that the twin moves to the goal. -/
inductive ErrandOk (m : RobotModel K) (past : List (RuntimeEvent K)) (twin : DigitalTwinRobot K)
    (id : ℕ) (request : Frame) : Errand K → Prop → Prop
  | estop : ErrandOk m past twin id request .estop True
  | heartbeat {intent : BehaviorIntent} {decision : MotionDecision}
      {authorization : MotionAuthorization K} (goal : EmbodiedBehaviorGoal K)
      (hgoal : BehaviorGoal m past id intent authorization goal) :
      ErrandOk m past twin id request (.heartbeat intent decision authorization) True
  | motion {intent : BehaviorIntent} {decision : MotionDecision}
      {authorization : MotionAuthorization K} {heartbeatReceipt : GatewayReceipt}
      (goal : EmbodiedBehaviorGoal K)
      (hgoal : BehaviorGoal m past id intent authorization goal)
      (hcarries : Carries m request goal.targetJointsDeg) :
      ErrandOk m past twin id request (.motion intent decision authorization heartbeatReceipt)
        (twin.Pursues goal.targetJointsDeg)

theorem ErrandOk.append {m : RobotModel K} {past : List (RuntimeEvent K)}
    {twin : DigitalTwinRobot K} {id : ℕ} {request : Frame} {errand : Errand K} {served : Prop}
    (h : ErrandOk m past twin id request errand served) (later : List (RuntimeEvent K)) :
    ErrandOk m (past ++ later) twin id request errand served := by
  cases h with
  | estop => exact .estop
  | heartbeat goal hgoal => exact .heartbeat goal (hgoal.append later)
  | motion goal hgoal hcarries => exact .motion goal (hgoal.append later) hcarries

def ActiveOk (m : RobotModel K) (past : List (RuntimeEvent K)) (r : SimulationRuntime K)
    (a : ActiveCall K) : Prop :=
  ∃ served, ErrandOk m past r.twin a.id a.request a.errand served ∧ OnLink r a served

theorem ActiveOk.append {m : RobotModel K} {past : List (RuntimeEvent K)}
    {r : SimulationRuntime K} {a : ActiveCall K} (h : ActiveOk m past r a)
    (later : List (RuntimeEvent K)) : ActiveOk m (past ++ later) r a := by
  obtain ⟨served, herrand, hlink⟩ := h
  exact ⟨served, herrand.append later, hlink⟩

structure GoalInv (m : RobotModel K) (past : List (RuntimeEvent K)) (r : SimulationRuntime K) :
    Prop extends RecordInv m past r where
  active : ∀ a, r.active = some a → ActiveOk m past r a

theorem GoalInv.append {m : RobotModel K} {past : List (RuntimeEvent K)}
    {r : SimulationRuntime K} (h : GoalInv m past r) (later : List (RuntimeEvent K)) :
    GoalInv m (past ++ later) r where
  toRecordInv := h.toRecordInv.append later
  active := fun a ha => (h.active a ha).append later

theorem RecordInv.goalInv {m : RobotModel K} {past : List (RuntimeEvent K)}
    {r : SimulationRuntime K} (h : RecordInv m past r) (hactive : r.active = none) :
    GoalInv m past r where
  toRecordInv := h
  active := fun a ha => by
    rw [hactive] at ha
    cases ha

theorem goalInv_fresh (m : RobotModel K) (supervisor : MotionSafetySupervisor K) (stepS : K)
    (hstep : 0 < stepS) : GoalInv m [] (SimulationRuntime.fresh m supervisor stepS hstep) :=
  RecordInv.goalInv ⟨rfl, rfl, nofun⟩ rfl

/-- What leaves the twin and the call that holds the lock, and brings nothing on the link. -/
theorem GoalInv.same {m : RobotModel K} {past : List (RuntimeEvent K)}
    {r next : SimulationRuntime K} (h : GoalInv m past r) (hbase : RecordInv m past next)
    (htwin : next.twin = r.twin) (hactive : next.active = r.active)
    (htask : next.deviceTask = r.deviceTask) (hdevice : ∀ frame ∈ next.toDevice, frame ∈ r.toDevice)
    (hhost : ∀ frame ∈ next.toHost, frame ∈ r.toHost) : GoalInv m past next where
  toRecordInv := hbase
  active := fun a ha => by
    rw [hactive] at ha
    obtain ⟨served, herrand, hlink⟩ := h.active a ha
    rw [← htwin] at herrand
    exact ⟨served, herrand, hlink.same hdevice hhost (fun ht => htask.symm.trans ht) id⟩

/-- A request that starts keeps the invariant, where its errand is in order. -/
theorem RecordInv.startErrand {m : RobotModel K} {past : List (RuntimeEvent K)}
    {env : Surroundings K} {r : SimulationRuntime K} (h : RecordInv m past r)
    (hclear : r.Unambiguous) {id : ℕ} {errand : Errand K}
    (herrand : ∀ gateway frame, r.send env errand = (gateway, .ok frame) →
      ∃ served, ErrandOk m past r.twin id frame errand served) :
    GoalInv m past (r.startErrand env id errand).1 := by
  obtain ⟨gateway, hgateway, hcases⟩ := startErrand_cases env r id errand
  have hids : gateway.jointProtocolIds = r.gateway.jointProtocolIds := by
    obtain rfl | rfl := hgateway
    · rfl
    · rfl
  obtain ⟨failure, hstart⟩ | ⟨frame, hsend, hstart⟩ := hcases
  · rw [hstart]
    exact RecordInv.goalInv ⟨h.model_eq, hids.trans h.ids_eq, h.called⟩ rfl
  · rw [hstart]
    obtain ⟨served, hok⟩ := herrand gateway frame hsend
    have hsequence := (send_sequence hsend).1
    refine ⟨⟨h.model_eq, hids.trans h.ids_eq, h.called⟩, ?_⟩
    intro a ha
    obtain rfl := Option.some.inj ha
    refine ⟨served, hok, ?_⟩
    constructor
    · intro other hother hsame
      exact absurd (hsame.trans hsequence) (hclear.unsent other hother)
    · rintro (⟨other, hother, hack⟩ | ⟨receipt, hread⟩)
      · dsimp only at hack
        rw [hsequence] at hack
        exact absurd hack (hclear.unacknowledged other hother)
      · cases hread

/-- Another twin in the place of the one before: an acknowledgement may stand for what it does with
the command of the request, or go on standing for what the one before did. -/
theorem ErrandOk.retwin {m : RobotModel K} {past : List (RuntimeEvent K)}
    {twin : DigitalTwinRobot K} {id : ℕ} {request : Frame} {errand : Errand K} {served : Prop}
    (h : ErrandOk m past twin id request errand served) (next : DigitalTwinRobot K) :
    ∃ later, ErrandOk m past next id request errand later ∧
      ((∀ targetsDeg, Carries m request targetsDeg → next.Pursues targetsDeg) → later) ∧
      ((∀ targetsDeg, twin.Pursues targetsDeg → next.Pursues targetsDeg) → served → later) := by
  cases h with
  | estop => exact ⟨True, .estop, fun _ => trivial, fun _ _ => trivial⟩
  | heartbeat goal hgoal =>
    exact ⟨True, .heartbeat goal hgoal, fun _ => trivial, fun _ _ => trivial⟩
  | motion goal hgoal hcarries =>
    exact ⟨next.Pursues goal.targetJointsDeg, .motion goal hgoal hcarries,
      fun hreached => hreached _ hcarries, fun hkept => hkept _⟩

/-- The device acknowledges the motion of the call only as the twin takes up its command. -/
theorem GoalInv.serve {m : RobotModel K} {past : List (RuntimeEvent K)} {r : SimulationRuntime K}
    (h : GoalInv m past r) : GoalInv m past r.serve := by
  unfold SimulationRuntime.serve
  split
  · rename_i request rest htask hdevice
    have hmodel := DigitalTwinProtocolDevice.model_serveOnce r.device request
    have hunanswered {a : ActiveCall K} {served : Prop} (hlink : OnLink r a served) :
        ¬ r.Answered a := fun hanswered => (hlink.answered hanswered).1 htask
    have hnumbered {a : ActiveCall K} {served : Prop} (hlink : OnLink r a served) :
        ∀ frame ∈ request :: rest, frame.sequence = a.request.sequence → frame = a.request := by
      rw [← hdevice]
      exact hlink.numbered
    split
    · rename_i device response exchange hserve
      rw [hserve] at hmodel
      refine ⟨⟨hmodel.trans h.model_eq, h.ids_eq, h.called⟩, ?_⟩
      intro a ha
      obtain ⟨served, herrand, hlink⟩ := h.active a ha
      obtain ⟨later, hlater, hreached, -⟩ := herrand.retwin device.twin
      refine ⟨later, hlater,
        fun frame hframe => hnumbered hlink frame (List.mem_cons_of_mem _ hframe), ?_⟩
      intro hanswered
      refine ⟨nofun, hreached ?_⟩
      intro targetsDeg hcarries
      -- Nothing had answered the request before, so the response does.
      have hack : RobotGateway.Acknowledges response a.request.sequence := by
        obtain ⟨frame, hframe, hack⟩ | hread := hanswered
        · obtain hbefore | hnew := List.mem_append.mp hframe
          · exact absurd (Or.inl ⟨frame, hbefore, hack⟩) (hunanswered hlink)
          · rwa [List.mem_singleton.mp hnew] at hack
        · exact absurd (Or.inr hread) (hunanswered hlink)
      have hresponse : (r.device.serveOnce request).2 = .ok (response, exchange) := by rw [hserve]
      have hown : request = a.request :=
        hnumbered hlink request List.mem_cons_self (serveOnce_acknowledges hresponse hack)
      rw [← hown] at hcarries
      obtain ⟨command, hcommand, hasks⟩ := hcarries.asks
      have hpursues := DigitalTwinProtocolDevice.pursues_of_ack hresponse hack.1 hcarries.type_eq
        hcommand
      rw [hserve, hasks r.device.twin h.model_eq] at hpursues
      exact hpursues
    · rename_i device error hserve
      rw [hserve] at hmodel
      refine ⟨⟨hmodel.trans h.model_eq, h.ids_eq, h.called⟩, ?_⟩
      intro a ha
      obtain ⟨served, herrand, hlink⟩ := h.active a ha
      obtain ⟨later, hlater, -, -⟩ := herrand.retwin device.twin
      refine ⟨later, hlater,
        fun frame hframe => hnumbered hlink frame (List.mem_cons_of_mem _ hframe), ?_⟩
      intro hanswered
      exact absurd hanswered (hunanswered hlink)
  · exact h

/-- A reset moves nothing but a stopped twin, and that pursues no goal. -/
theorem GoalInv.resetEstop {m : RobotModel K} {past : List (RuntimeEvent K)}
    {r : SimulationRuntime K} (h : GoalInv m past r) : GoalInv m past (r.resetEstop).1 := by
  by_cases hstopped : r.twin.state = .estop
  · unfold SimulationRuntime.resetEstop
    rw [if_neg (not_not.mpr hstopped)]
    refine ⟨⟨?_, h.ids_eq, h.called⟩, ?_⟩
    · change r.twin.resetEstop.model = m
      unfold DigitalTwinRobot.resetEstop
      rw [if_pos hstopped]
      exact h.model_eq
    · intro a ha
      obtain ⟨served, herrand, hlink⟩ := h.active a ha
      obtain ⟨later, hlater, -, hkept⟩ := herrand.retwin r.twin.resetEstop
      have hserved : served → later :=
        hkept fun _ hpursues => absurd hstopped hpursues.not_stopped
      exact ⟨later, hlater, hlink.same (fun _ hframe => hframe) (fun _ hframe => hframe) id hserved⟩
  · rw [r.resetEstop_moving hstopped]
    exact h

end Record
end RoboticCharacter.Simulation
