import RoboticCharacter.SimulationReport

/-! Who may move the twin: over every interleaving of the runtime's calls, and whatever gets lost on
the link, the twin takes up and follows only targets that the supervisor approved, each approval
once and in the order of the calls. -/
namespace RoboticCharacter.Simulation
open Safety Gateway PythonMath Machine Robotics Fallible EventHistory

/-! ### The twin between two commands -/
section Glides
variable {K : Type} [Field K] [LinearOrder K]

/-- The states that a twin can be in. -/
def KnownState (twin : DigitalTwinRobot K) : Prop :=
  twin.state = .idle ∨ twin.state = .executing ∨ twin.state = .estop

/-- What happens to a twin that gets no command: it goes on to the targets that it has, if it is
executing, and stays where it is otherwise. -/
structure Glides (before after : DigitalTwinRobot K) : Prop where
  model_eq : after.model = before.model
  targets_eq : after.targets = before.targets
  known : KnownState after
  executing : after.state = .executing → before.state = .executing
  positions : after.positions ≠ before.positions → before.state = .executing

theorem Glides.refl {twin : DigitalTwinRobot K} (h : KnownState twin) : Glides twin twin :=
  ⟨rfl, rfl, h, id, fun hmoved => absurd rfl hmoved⟩

theorem Glides.trans {before middle after : DigitalTwinRobot K} (h : Glides before middle)
    (hnext : Glides middle after) : Glides before after where
  model_eq := hnext.model_eq.trans h.model_eq
  targets_eq := hnext.targets_eq.trans h.targets_eq
  known := hnext.known
  executing := fun hafter => h.executing (hnext.executing hafter)
  positions := fun hmoved => by
    by_cases hfirst : middle.positions = before.positions
    · apply h.executing
      apply hnext.positions
      rwa [hfirst]
    · exact h.positions hfirst

theorem resetEstop_glides {twin : DigitalTwinRobot K} (h : KnownState twin) :
    Glides twin twin.resetEstop := by
  unfold DigitalTwinRobot.resetEstop
  split_ifs with hstopped
  · refine ⟨rfl, rfl, .inl rfl, ?_, fun hmoved => absurd rfl hmoved⟩
    intro hexecuting
    cases hexecuting
  · exact Glides.refl h

variable [FloorRing K] [SquareRoot K]

theorem step_glides {twin : DigitalTwinRobot K} (h : KnownState twin) (hidle : twin.state ≠ .idle)
    (dt : K) : Glides twin (twin.call (.step dt)).1 := by
  have hperforms := twin.performs_call (.step dt)
  generalize (twin.call (.step dt)).1 = after at hperforms ⊢
  cases hperforms with
  | nothing => exact Glides.refl h
  | held _ hdt hstopped =>
    exact ⟨rfl, rfl, h, id, fun hmoved => absurd rfl hmoved⟩
  | moved _ hdt hrunning =>
    have hexecuting : twin.state = .executing := by
      obtain hstate | hstate | hstate := h
      · exact absurd hstate hidle
      · exact hstate
      · exact absurd hstate hrunning
    refine ⟨rfl, rfl, ?_, fun _ => hexecuting, fun _ => hexecuting⟩
    unfold KnownState DigitalTwinRobot.moved
    dsimp only
    split_ifs
    · exact .inr (.inl rfl)
    · exact .inl rfl

theorem settle_glides (stepS : K) (budget : ℕ) {twin : DigitalTwinRobot K} (h : KnownState twin)
    (steps : ℕ) : Glides twin (SimulationRuntime.settle stepS budget twin steps).1 := by
  induction budget generalizing twin steps with
  | zero => exact Glides.refl h
  | succ budget ih =>
    rw [SimulationRuntime.settle]
    split_ifs with hidle
    · exact Glides.refl h
    · have hstep := step_glides h hidle stepS
      exact hstep.trans (ih hstep.known (steps+1))

end Glides

/-! ### Commands on the link -/

def isMotion (frame : Frame) : Bool := decide (frame.messageType = .validatedMotionCommand)

section Record
variable {K : Type} [Field K] [LinearOrder K] [ToString K] [FloorRing K]

/-- The supervisor approved these targets for the behavior of this call. -/
def Approved (m : RobotModel K) (past : List (RuntimeEvent K)) (id : ℕ)
    (targetsDeg : JointName → K) : Prop :=
  ∃ intent authorization goal, BehaviorGoal m past id intent authorization goal ∧
    goal.targetJointsDeg = targetsDeg

theorem Approved.append {m : RobotModel K} {past : List (RuntimeEvent K)} {id : ℕ}
    {targetsDeg : JointName → K} (h : Approved m past id targetsDeg)
    (later : List (RuntimeEvent K)) : Approved m (past ++ later) id targetsDeg := by
  obtain ⟨intent, authorization, goal, hgoal, htargets⟩ := h
  exact ⟨intent, authorization, goal, hgoal.append later, htargets⟩

/-- A frame that carries the approved targets of the call. -/
def FrameApproved (m : RobotModel K) (past : List (RuntimeEvent K)) (frame : Frame) (id : ℕ) :
    Prop :=
  ∃ targetsDeg, Approved m past id targetsDeg ∧ Carries m frame targetsDeg

theorem FrameApproved.append {m : RobotModel K} {past : List (RuntimeEvent K)} {frame : Frame}
    {id : ℕ} (h : FrameApproved m past frame id) (later : List (RuntimeEvent K)) :
    FrameApproved m (past ++ later) frame id := by
  obtain ⟨targetsDeg, happroved, hcarries⟩ := h
  exact ⟨targetsDeg, happroved.append later, hcarries⟩

def Errand.isMotion : Errand K → Bool
  | .motion _ _ _ _ => true
  | _ => false

/-- The request of a call, with what was approved for the call before it sent its motion. -/
inductive RequestApproved (m : RobotModel K) (past : List (RuntimeEvent K)) (id : ℕ)
    (request : Frame) : Errand K → Prop
  | estop (hother : isMotion request = false) : RequestApproved m past id request .estop
  | heartbeat {intent : BehaviorIntent} {decision : MotionDecision}
      {authorization : MotionAuthorization K} (hother : isMotion request = false)
      (goal : EmbodiedBehaviorGoal K)
      (hgoal : BehaviorGoal m past id intent authorization goal) :
      RequestApproved m past id request (.heartbeat intent decision authorization)
  | motion {intent : BehaviorIntent} {decision : MotionDecision}
      {authorization : MotionAuthorization K} {heartbeatReceipt : GatewayReceipt}
      (hmotion : isMotion request = true) (hframe : FrameApproved m past request id) :
      RequestApproved m past id request (.motion intent decision authorization heartbeatReceipt)

theorem RequestApproved.append {m : RobotModel K} {past : List (RuntimeEvent K)} {id : ℕ}
    {request : Frame} {errand : Errand K} (h : RequestApproved m past id request errand)
    (later : List (RuntimeEvent K)) : RequestApproved m (past ++ later) id request errand := by
  cases h with
  | estop hother => exact .estop hother
  | heartbeat hother goal hgoal => exact .heartbeat hother goal (hgoal.append later)
  | motion hmotion hframe => exact .motion hmotion (hframe.append later)

theorem RequestApproved.isMotion_eq {m : RobotModel K} {past : List (RuntimeEvent K)} {id : ℕ}
    {request : Frame} {errand : Errand K} (h : RequestApproved m past id request errand) :
    isMotion request = errand.isMotion := by
  cases h with
  | estop hother | heartbeat hother => exact hother
  | motion hmotion => exact hmotion

theorem RequestApproved.frame {m : RobotModel K} {past : List (RuntimeEvent K)} {id : ℕ}
    {request : Frame} {errand : Errand K} (h : RequestApproved m past id request errand)
    (hmotion : errand.isMotion = true) : FrameApproved m past request id := by
  cases h with
  | estop | heartbeat => exact nomatch hmotion
  | motion _ hframe => exact hframe

/-- The device takes up a motion command at this event. -/
def takesUp (e : RuntimeEvent K) : Bool :=
  match e.input, e.before.deviceTask, e.before.toDevice with
  | .serve, .receiving, request :: _ =>
    isMotion request && (e.before.twin.dispatch request).isOk
  | _, _, _ => false

/-- At this event the twin took up the targets that had been approved for the call. -/
def TookUp (m : RobotModel K) (past : List (RuntimeEvent K)) (e : RuntimeEvent K) (id : ℕ) :
    Prop :=
  ∃ before later, past = before ++ e :: later ∧ e.after.twin.state = .executing ∧
    Approved m before id e.after.twin.targets

theorem TookUp.append {m : RobotModel K} {past : List (RuntimeEvent K)} {e : RuntimeEvent K}
    {id : ℕ} (h : TookUp m past e id) (more : List (RuntimeEvent K)) :
    TookUp m (past ++ more) e id := by
  obtain ⟨before, later, rfl, htook⟩ := h
  exact ⟨before, later ++ more, by simp, htook⟩

/-- The motion of the call has been written. -/
def ActiveCall.motionSent (a : ActiveCall K) : Bool :=
  a.errand.isMotion && decide (a.phase ≠ .writing)

/-- The ids of the calls whose motion may still be written, and the next id. -/
def SimulationRuntime.upcoming (r : SimulationRuntime K) : List ℕ :=
  ((r.active.filter fun a => !a.motionSent).map ActiveCall.id).toList ++
    (r.waiting.map RuntimeCall.id ++ [r.nextId])

/-- The motions that the twin took up and those on the link belong to calls in the order of their
ids, all before the calls that are still to come. -/
structure MotionLedger (m : RobotModel K) (past : List (RuntimeEvent K)) (r : SimulationRuntime K)
    (taken flight : List ℕ) : Prop where
  took : List.Forall₂ (TookUp m past) (past.filter takesUp) taken
  linked : List.Forall₂ (FrameApproved m past) (r.toDevice.filter isMotion) flight
  ordered : (taken ++ flight ++ r.upcoming).Pairwise (· < ·)

/-- A twin that is executing follows targets that were approved. -/
structure TwinInv (m : RobotModel K) (past : List (RuntimeEvent K)) (twin : DigitalTwinRobot K) :
    Prop where
  known : KnownState twin
  pursued : twin.state = .executing → ∃ id, Approved m past id twin.targets

structure AuthorityInv (m : RobotModel K) (past : List (RuntimeEvent K))
    (r : SimulationRuntime K) : Prop extends RecordInv m past r, TwinInv m past r.twin where
  active : ∀ a, r.active = some a → RequestApproved m past a.id a.request a.errand
  ledger : ∃ taken flight, MotionLedger m past r taken flight

theorem TwinInv.append {m : RobotModel K} {past : List (RuntimeEvent K)}
    {twin : DigitalTwinRobot K} (h : TwinInv m past twin) (later : List (RuntimeEvent K)) :
    TwinInv m (past ++ later) twin where
  known := h.known
  pursued := fun hexecuting => by
    obtain ⟨id, happroved⟩ := h.pursued hexecuting
    exact ⟨id, happroved.append later⟩

theorem TwinInv.glides {m : RobotModel K} {past : List (RuntimeEvent K)}
    {twin after : DigitalTwinRobot K} (h : TwinInv m past twin) (hglides : Glides twin after) :
    TwinInv m past after where
  known := hglides.known
  pursued := fun hexecuting => by
    rw [hglides.targets_eq]
    exact h.pursued (hglides.executing hexecuting)

/-! ### Steps of the ledger -/

omit [ToString K] [FloorRing K] in
theorem filter_quiet {past : List (RuntimeEvent K)} {e : RuntimeEvent K} (he : takesUp e = false) :
    (past ++ [e]).filter takesUp = past.filter takesUp := by
  rw [List.filter_append, List.filter_singleton, he, cond_false, List.append_nil]

theorem forall₂_suffix {α β : Type} {R : α → β → Prop} {xs ys : List α} {ids : List β}
    (h : List.Forall₂ R xs ids) (hsuffix : ys <:+ xs) :
    ∃ rest, rest <:+ ids ∧ List.Forall₂ R ys rest := by
  rw [List.suffix_iff_eq_drop] at hsuffix
  refine ⟨ids.drop (xs.length-ys.length), List.drop_suffix _ _, ?_⟩
  have hdrop := List.forall₂_drop (xs.length-ys.length) h
  rwa [← hsuffix] at hdrop

variable {m : RobotModel K} {past : List (RuntimeEvent K)} {r next : SimulationRuntime K}
  {taken flight : List ℕ} {e : RuntimeEvent K}

/-- Nothing is taken up or written: frames may get lost, and calls may end. -/
theorem MotionLedger.shrink (h : MotionLedger m past r taken flight) (he : takesUp e = false)
    (hdevice : next.toDevice.filter isMotion <:+ r.toDevice.filter isMotion)
    (hupcoming : next.upcoming.Sublist r.upcoming) :
    ∃ rest, MotionLedger m (past ++ [e]) next taken rest := by
  obtain ⟨rest, hrest, hlinked⟩ := forall₂_suffix h.linked hdevice
  refine ⟨rest, ?_, ?_, ?_⟩
  · rw [filter_quiet he]
    exact h.took.imp fun _ _ htook => htook.append [e]
  · exact hlinked.imp fun _ _ hframe => hframe.append [e]
  · refine List.Pairwise.sublist ?_ h.ordered
    exact ((List.Sublist.refl taken).append hrest.sublist).append hupcoming

/-- A call is made. -/
theorem MotionLedger.call (h : MotionLedger m past r taken flight) (he : takesUp e = false)
    (hdevice : next.toDevice = r.toDevice)
    (hupcoming : next.upcoming = r.upcoming ++ [r.nextId+1]) :
    MotionLedger m (past ++ [e]) next taken flight := by
  refine ⟨?_, ?_, ?_⟩
  · rw [filter_quiet he]
    exact h.took.imp fun _ _ htook => htook.append [e]
  · rw [hdevice]
    exact h.linked.imp fun _ _ hframe => hframe.append [e]
  · have hordered := h.ordered
    rw [hupcoming, ← List.append_assoc]
    -- the last id of the ledger is the next one, and the others are below it
    unfold SimulationRuntime.upcoming at hordered ⊢
    simp only [← List.append_assoc] at hordered ⊢
    refine List.pairwise_append.mpr ⟨hordered, List.pairwise_singleton _ _, ?_⟩
    intro id hid other hother
    rw [List.mem_singleton.mp hother]
    obtain hbefore | hlast := List.mem_append.mp hid
    · have hlt := (List.pairwise_append.mp hordered).2.2 id hbefore r.nextId
        (List.mem_singleton_self _)
      omega
    · rw [List.mem_singleton.mp hlast]
      exact Nat.lt_succ_self _

/-- The motion of the call that holds the lock is written. -/
theorem MotionLedger.write (h : MotionLedger m past r taken flight) (he : takesUp e = false)
    {request : Frame} {id : ℕ} (hmotion : isMotion request = true)
    (hframe : FrameApproved m past request id) (hdevice : next.toDevice = r.toDevice ++ [request])
    (hupcoming : r.upcoming = id :: next.upcoming) :
    MotionLedger m (past ++ [e]) next taken (flight ++ [id]) := by
  refine ⟨?_, ?_, ?_⟩
  · rw [filter_quiet he]
    exact h.took.imp fun _ _ htook => htook.append [e]
  · rw [hdevice, List.filter_append, List.filter_singleton, hmotion, cond_true]
    apply List.rel_append
    · exact h.linked.imp fun _ _ hbefore => hbefore.append [e]
    · exact .cons (hframe.append [e]) .nil
  · have hordered := h.ordered
    rw [hupcoming] at hordered
    rw [← List.append_assoc taken, List.append_assoc (taken ++ flight), List.singleton_append]
    exact hordered

/-- The device takes up the first motion on the link. -/
theorem MotionLedger.take (h : MotionLedger m past r taken flight) (he : takesUp e = true)
    {request : Frame} {rest : List Frame} (hmotion : isMotion request = true)
    (hbefore : r.toDevice = request :: rest) (hdevice : next.toDevice = rest)
    (hupcoming : next.upcoming = r.upcoming)
    (htook : ∀ id, FrameApproved m past request id → TookUp m (past ++ [e]) e id) :
    ∃ taken flight, MotionLedger m (past ++ [e]) next taken flight := by
  have hlinked := h.linked
  rw [hbefore, List.filter_cons_of_pos hmotion] at hlinked
  cases hlinked with
  | @cons _ id _ flight hframe hrest =>
    refine ⟨taken ++ [id], flight, ?_, ?_, ?_⟩
    · rw [List.filter_append, List.filter_singleton, he, cond_true]
      apply List.rel_append
      · exact h.took.imp fun _ _ hpast => hpast.append [e]
      · exact .cons (htook id hframe) .nil
    · rw [hdevice]
      exact hrest.imp fun _ _ hlater => hlater.append [e]
    · rw [hupcoming, List.append_assoc taken, List.singleton_append]
      exact h.ordered

/-! ### Steps of the runtime -/

/-- What takes nothing up and starts no request. -/
theorem AuthorityInv.quiet (h : AuthorityInv m past r) (he : takesUp e = false)
    (hrecord : RecordInv m (past ++ [e]) next) (htwin : TwinInv m (past ++ [e]) next.twin)
    (hactive : ∀ a, next.active = some a → RequestApproved m past a.id a.request a.errand)
    (hdevice : next.toDevice.filter isMotion <:+ r.toDevice.filter isMotion)
    (hupcoming : next.upcoming.Sublist r.upcoming) :
    AuthorityInv m (past ++ [e]) next where
  toRecordInv := hrecord
  toTwinInv := htwin
  active := fun a ha => (hactive a ha).append [e]
  ledger := by
    obtain ⟨taken, flight, hledger⟩ := h.ledger
    exact ⟨taken, hledger.shrink he hdevice hupcoming⟩

omit [Field K] [LinearOrder K] [ToString K] [FloorRing K] in
theorem motionSent_writing (id : ℕ) (errand : Errand K) (request : Frame) :
    (ActiveCall.mk id errand request .writing).motionSent = false :=
  Bool.and_false _

omit [ToString K] [FloorRing K] in
/-- The calls that wait are still to come. -/
theorem waiting_upcoming (r : SimulationRuntime K) :
    (r.waiting.map RuntimeCall.id ++ [r.nextId]).Sublist r.upcoming :=
  List.sublist_append_right _ _

/-- A call starts a request that is in order, or raises. -/
theorem startErrand_authority {env : Surroundings K} {before : SimulationRuntime K}
    (h : AuthorityInv m past before) (he : takesUp e = false)
    (hrecord : RecordInv m (past ++ [e]) r) (htwin : r.twin = before.twin)
    (hdevice : r.toDevice = before.toDevice) {id : ℕ} {errand : Errand K}
    (hupcoming : (id :: (r.waiting.map RuntimeCall.id ++ [r.nextId])).Sublist before.upcoming)
    (hrequest : ∀ gateway frame, r.send env errand = (gateway, .ok frame) →
      RequestApproved m (past ++ [e]) id frame errand) :
    AuthorityInv m (past ++ [e]) (r.startErrand env id errand).1 := by
  obtain ⟨taken, flight, hledger⟩ := h.ledger
  have htwinInv : TwinInv m (past ++ [e]) r.twin := by
    rw [htwin]
    exact h.toTwinInv.append [e]
  obtain ⟨gateway, hgateway, hcases⟩ := startErrand_cases env r id errand
  have hids : gateway.jointProtocolIds = r.gateway.jointProtocolIds := by
    obtain rfl | rfl := hgateway
    · rfl
    · rfl
  have hsuffix : r.toDevice.filter isMotion <:+ before.toDevice.filter isMotion := by rw [hdevice]
  obtain ⟨failure, hstart⟩ | ⟨frame, hsend, hstart⟩ := hcases
  · rw [hstart]
    refine ⟨⟨hrecord.model_eq, hids.trans hrecord.ids_eq, hrecord.called⟩, htwinInv,
      (fun a (ha : none = some a) => nomatch ha), taken, ?_⟩
    refine hledger.shrink he hsuffix ?_
    change (r.waiting.map RuntimeCall.id ++ [r.nextId]).Sublist _
    exact (List.sublist_cons_self _ _).trans hupcoming
  · rw [hstart]
    refine ⟨⟨hrecord.model_eq, hids.trans hrecord.ids_eq, hrecord.called⟩, htwinInv, ?_, taken, ?_⟩
    · intro a ha
      obtain rfl := Option.some.inj ha
      exact hrequest gateway frame hsend
    · refine hledger.shrink he hsuffix ?_
      unfold SimulationRuntime.upcoming
      dsimp only
      rw [Option.filter_some, motionSent_writing]
      exact hupcoming

/-- What the record says of a behavior from the step on at which its goal is approved. -/
theorem RecordInv.behaviorGoal (h : RecordInv m past r) {call : RuntimeCall}
    {rest : List RuntimeCall} (hwaiting : r.waiting = call :: rest) {intent : BehaviorIntent}
    (hkind : call.kind = .execute intent) {goal : EmbodiedBehaviorGoal K}
    (hgoal : embody m intent = .ok goal) {candidate : MotionCandidate K}
    {dynamics : MotionDynamics K} (htargets : candidate.jointTargetsDeg =
      jointDict r.twin.model (fun name => .finite (goal.targetJointsDeg name)))
    {authorization : MotionAuthorization K} {uuid : Uuid}
    (happroved : (r.supervisor.evaluate candidate dynamics uuid).2.approved = true)
    (hauthorization : (r.supervisor.evaluate candidate dynamics uuid).2.authorization =
      some authorization) {after : SimulationRuntime K}
    (hafter : after.supervisor = (r.supervisor.evaluate candidate dynamics uuid).1)
    (output : RuntimeOutput K) :
    BehaviorGoal m (past ++ [⟨r, .grant uuid, output, after⟩]) call.id intent
      authorization goal := by
  obtain ⟨e, he, hcalled⟩ :=
    h.called call (by rw [hwaiting]; exact List.mem_cons_self) intent hkind
  have hcandidate : candidate.jointTargetsDeg = jointDict m
      (fun name => .finite (goal.targetJointsDeg name)) := by
    rw [htargets]
    exact congrArg (fun model => jointDict model _) h.model_eq
  refine
    { called := ⟨e, List.mem_append_left _ he, hcalled⟩
      embodied := hgoal
      approved := ⟨_, List.mem_append_right past (List.mem_singleton_self _), ?_⟩
      targets := (authorized_targets _ _ _ _ hauthorization).trans hcandidate }
  refine ⟨⟨rest, ?_⟩, uuid, candidate, dynamics, rfl, hcandidate, hafter, happroved,
    hauthorization⟩
  rw [← hkind]
  exact hwaiting

omit [ToString K] [FloorRing K] in
/-- The frames of an E-stop and of a heartbeat are no motions. -/
theorem not_motion_of_starts {g after : RobotGateway} {messageType : MessageType}
    {payload : Except GatewayFailure Bytes} {frame : Frame}
    (h : Starts g after messageType payload frame) (htype : messageType ≠ .validatedMotionCommand) :
    isMotion frame = false := by
  unfold isMotion
  rw [h.type_eq]
  exact decide_eq_false htype

omit [ToString K] [FloorRing K] in
theorem upcoming_active {a : ActiveCall K} (hactive : r.active = some a) :
    r.upcoming = (if a.motionSent then [] else [a.id]) ++
      (r.waiting.map RuntimeCall.id ++ [r.nextId]) := by
  unfold SimulationRuntime.upcoming
  rw [hactive, Option.filter_some]
  cases hsent : a.motionSent <;> simp

omit [ToString K] [FloorRing K] in
theorem upcoming_idle (hactive : r.active = none) :
    r.upcoming = r.waiting.map RuntimeCall.id ++ [r.nextId] := by
  unfold SimulationRuntime.upcoming
  rw [hactive]
  rfl

/-- What the device does with the next frame. -/
structure ServesFrame (r after : SimulationRuntime K) (request : Frame) (rest : List Frame) : Prop
    where
  device_eq : after.device = (r.device.serveOnce request).1
  toDevice_eq : after.toDevice = rest
  gateway_eq : after.gateway = r.gateway
  waiting_eq : after.waiting = r.waiting
  active_eq : after.active = r.active
  nextId_eq : after.nextId = r.nextId

omit [ToString K] [FloorRing K] in
theorem serve_frame {request : Frame} {rest : List Frame} (htask : r.deviceTask = .receiving)
    (hdevice : r.toDevice = request :: rest) : ServesFrame r r.serve request rest := by
  unfold SimulationRuntime.serve
  rw [htask, hdevice]
  dsimp only
  split
  · rename_i device response exchange hserve
    exact ⟨by rw [hserve], rfl, rfl, rfl, rfl, rfl⟩
  · rename_i device error hserve
    exact ⟨by rw [hserve], rfl, rfl, rfl, rfl, rfl⟩

omit [ToString K] [FloorRing K] in
theorem serve_idle (hidle : ∀ request rest, ¬ (r.deviceTask = .receiving ∧
    r.toDevice = request :: rest)) (output : RuntimeOutput K) (after : SimulationRuntime K) :
    r.serve = r ∧ takesUp ⟨r, .serve, output, after⟩ = false := by
  unfold SimulationRuntime.serve takesUp
  dsimp only
  constructor
  · split
    · rename_i request rest htask hdevice
      exact absurd ⟨htask, hdevice⟩ (hidle request rest)
    · rfl
  · split
    · rename_i request rest _ htask hdevice
      exact absurd ⟨htask, hdevice⟩ (hidle request rest)
    · rfl

omit [ToString K] [FloorRing K] in
/-- A motion that is dispatched leaves a twin that follows the targets that it carries. -/
theorem takesUp_motion {request : Frame} {rest : List Frame} {after : DigitalTwinRobot K}
    (htask : r.deviceTask = .receiving) (hdevice : r.toDevice = request :: rest)
    (hdispatch : r.twin.dispatch request = .ok after)
    (hmotion : request.messageType = .validatedMotionCommand) (output : RuntimeOutput K) :
    takesUp ⟨r, .serve, output, next⟩ = true ∧ after.state = .executing ∧
      ∀ targetsDeg, Carries r.twin.model request targetsDeg → after.targets = targetsDeg := by
  refine ⟨?_, ?_⟩
  · unfold takesUp isMotion
    dsimp only
    rw [htask, hdevice]
    dsimp only
    rw [hdispatch, decide_eq_true hmotion]
    rfl
  · have hcases := (r.twin.dispatch_eq_ok_iff after request).mp hdispatch
    simp only [hmotion, reduceCtorEq, false_and, or_false, false_or, true_and] at hcases
    obtain ⟨command, hdecode, haccept⟩ := hcases
    obtain ⟨-, rfl⟩ := (r.twin.accept_eq_ok_iff after command).mp haccept
    refine ⟨rfl, ?_⟩
    intro targetsDeg hcarries
    obtain ⟨decoded, hdecoded, hasks⟩ := hcarries.asks
    obtain rfl : command = decoded := Except.ok.inj (hdecode.symm.trans hdecoded)
    exact hasks r.twin rfl

/-- The device takes the next frame: the twin takes up a motion, is stopped, or is left alone. -/
theorem serve_authority (h : AuthorityInv m past r) (output : RuntimeOutput K) :
    AuthorityInv m (past ++ [⟨r, .serve, output, r.serve⟩]) r.serve := by
  by_cases hready : ∃ request rest, r.deviceTask = .receiving ∧ r.toDevice = request :: rest
  · obtain ⟨request, rest, htask, hdevice⟩ := hready
    have hserves := serve_frame htask hdevice
    have hmodel : r.serve.twin.model = r.twin.model := by
      unfold SimulationRuntime.twin
      rw [hserves.device_eq]
      exact r.device.model_serveOnce request
    have hrecord : RecordInv m past r.serve := by
      refine ⟨hmodel.trans h.model_eq, ?_, ?_⟩
      · rw [hserves.gateway_eq]
        exact h.ids_eq
      · rw [hserves.waiting_eq]
        exact h.called
    have hupcoming : r.serve.upcoming = r.upcoming := by
      unfold SimulationRuntime.upcoming
      rw [hserves.active_eq, hserves.waiting_eq, hserves.nextId_eq]
    have hactive : ∀ a, r.serve.active = some a →
        RequestApproved m past a.id a.request a.errand := by
      rw [hserves.active_eq]
      exact h.active
    have hsuffix : r.serve.toDevice.filter isMotion <:+ r.toDevice.filter isMotion := by
      rw [hserves.toDevice_eq, hdevice]
      exact (List.suffix_cons request rest).filter isMotion
    -- a frame that is no command to move leaves the ledger
    have hquiet (he : takesUp ⟨r, .serve, output, r.serve⟩ = false)
        (htwin : TwinInv m (past ++ [⟨r, .serve, output, r.serve⟩]) r.serve.twin) :
        AuthorityInv m (past ++ [⟨r, .serve, output, r.serve⟩]) r.serve :=
      h.quiet he (hrecord.append _) htwin hactive hsuffix (by rw [hupcoming])
    cases hdispatch : r.twin.dispatch request with
    | error error =>
      have htwin : r.serve.twin = r.twin := by
        unfold SimulationRuntime.twin
        rw [hserves.device_eq]
        exact r.device.twin_serveOnce_error request error hdispatch
      refine hquiet ?_ ?_
      · unfold takesUp
        dsimp only
        rw [htask, hdevice]
        dsimp only
        rw [hdispatch]
        exact Bool.and_false _
      · rw [htwin]
        exact h.toTwinInv.append _
    | ok after =>
      have htwin : r.serve.twin = after := by
        unfold SimulationRuntime.twin
        rw [hserves.device_eq]
        exact r.device.twin_serveOnce_ok request after hdispatch
      have hother (htype : request.messageType ≠ .validatedMotionCommand) :
          takesUp ⟨r, .serve, output, r.serve⟩ = false := by
        unfold takesUp isMotion
        dsimp only
        rw [htask, hdevice]
        dsimp only
        rw [decide_eq_false htype]
        rfl
      obtain ⟨htype, -, rfl⟩ | ⟨htype, -⟩ | ⟨htype, -, rfl⟩ :=
        (r.twin.dispatch_eq_ok_iff after request).mp hdispatch
      · refine hquiet ?_ ?_
        · exact hother (by rw [htype]; exact nofun)
        · rw [htwin]
          exact h.toTwinInv.append _
      · obtain ⟨he, hexecuting, htargets⟩ := takesUp_motion htask hdevice hdispatch htype output
        have hmotion : isMotion request = true := decide_eq_true htype
        have happroved (id : ℕ) (hframe : FrameApproved m past request id) :
            Approved m past id after.targets := by
          obtain ⟨targetsDeg, hgoal, hcarries⟩ := hframe
          rw [← h.model_eq] at hcarries
          rwa [htargets targetsDeg hcarries]
        obtain ⟨taken, flight, hledger⟩ := h.ledger
        -- the frame is on the link, so its goal was approved
        obtain ⟨first, hfirst⟩ : ∃ id, FrameApproved m past request id := by
          have hlinked := hledger.linked
          rw [hdevice, List.filter_cons_of_pos hmotion] at hlinked
          cases hlinked with
          | cons hframe _ => exact ⟨_, hframe⟩
        refine ⟨hrecord.append _, ?_, fun a ha => (hactive a ha).append _, ?_⟩
        · rw [htwin]
          exact ⟨.inr (.inl hexecuting), fun _ => ⟨first, (happroved first hfirst).append _⟩⟩
        · refine hledger.take he hmotion hdevice hserves.toDevice_eq hupcoming ?_
          intro id hframe
          refine ⟨past, [], rfl, ?_, ?_⟩
          · dsimp only
            rw [htwin]
            exact hexecuting
          · dsimp only
            rw [htwin]
            exact happroved id hframe
      · refine hquiet ?_ ?_
        · exact hother (by rw [htype]; exact nofun)
        · rw [htwin]
          exact ⟨.inr (.inr rfl), nofun⟩
  · obtain ⟨hsame, he⟩ := serve_idle (fun request rest hready' => hready ⟨request, rest, hready'⟩)
      output r.serve
    rw [hsame] at he ⊢
    exact h.quiet he (h.toRecordInv.append _) (h.toTwinInv.append _) h.active
      List.suffix_rfl (List.Sublist.refl _)

/-- A request that ends has left the link to the device, the twin and the queue as they were. -/
structure RequestEnds (r after : SimulationRuntime K) : Prop where
  device_eq : after.device = r.device
  toDevice_eq : after.toDevice = r.toDevice
  waiting_eq : after.waiting = r.waiting
  nextId_eq : after.nextId = r.nextId

omit [ToString K] [FloorRing K] in
theorem requestStep_ends (a : ActiveCall K) (event : RequestEvent)
    {outcome : Except RuntimeFailure GatewayReceipt}
    (houtcome : (r.requestStep a event).2 = some outcome) :
    RequestEnds r (r.requestStep a event).1 := by
  have heffect := r.requestStep_effect a event
  generalize r.requestStep a event = stepped at heffect houtcome ⊢
  cases heffect with
  | ignored | written | awaits | taskEnds => exact nomatch houtcome
  | writeFails | receiveFails | refused | acknowledged | taskAwaited => exact ⟨rfl, rfl, rfl, rfl⟩

/-- A request goes on: its frame may be written, which is when a motion of the call comes on the
link. -/
theorem goesOn_authority (h : AuthorityInv m past r) {a : ActiveCall K}
    (hactive : r.active = some a) (event : RequestEvent)
    (houtcome : (r.requestStep a event).2 = none) (output : RuntimeOutput K) :
    AuthorityInv m (past ++ [⟨r, .request event, output, (r.requestStep a event).1⟩])
      (r.requestStep a event).1 := by
  have hnumbers := sameNumbers_requestStep hactive event
  have hsafety := SimulationRuntime.sameSafety_requestStep r a event
  have htwin : (r.requestStep a event).1.twin = r.twin :=
    congrArg DigitalTwinProtocolDevice.twin hsafety.device_eq
  have hrecord : RecordInv m past (r.requestStep a event).1 := by
    refine ⟨(congrArg _ htwin).trans h.model_eq, hnumbers.ids_eq.trans h.ids_eq, ?_⟩
    rw [hsafety.waiting_eq]
    exact h.called
  have heffect := r.requestStep_effect a event
  generalize r.requestStep a event = stepped at heffect houtcome htwin hrecord ⊢
  have hbase : TwinInv m (past ++ [⟨r, .request event, output, stepped.1⟩]) stepped.1.twin := by
    rw [htwin]
    exact h.toTwinInv.append _
  have hrequest := h.active a hactive
  cases heffect with
  | writeFails | receiveFails | refused | acknowledged | taskAwaited => exact nomatch houtcome
  | ignored | taskEnds =>
    exact h.quiet rfl (hrecord.append _) hbase h.active List.suffix_rfl
      (List.Sublist.refl _)
  | awaits response rest gateway receipt hphase =>
    refine h.quiet rfl (hrecord.append _) hbase ?_ List.suffix_rfl ?_
    · intro b hb
      rw [← Option.some.inj hb]
      exact hrequest
    · rw [upcoming_active hactive, upcoming_active (r := { r with
        gateway := gateway
        toHost := rest
        active := some { a with phase := .awaitingDevice receipt } }) rfl]
      unfold ActiveCall.motionSent
      rw [hphase]
      exact List.Sublist.refl _
  | written hphase =>
    have hwriting : a.motionSent = false := by
      unfold ActiveCall.motionSent
      rw [hphase]
      exact Bool.and_false _
    have hmotion := hrequest.isMotion_eq
    have hnext : ∀ b, some { a with phase := .awaitingAnswer } = some b →
        RequestApproved m past b.id b.request b.errand := by
      intro b hb
      rw [← Option.some.inj hb]
      exact hrequest
    have hupcoming := upcoming_active (r := { r with
      gateway := r.gateway.countSent
      toDevice := r.toDevice ++ [a.request]
      active := some { a with phase := .awaitingAnswer } }) rfl
    have hsent : ActiveCall.motionSent { a with phase := .awaitingAnswer } = a.errand.isMotion :=
      Bool.and_true _
    rw [hsent] at hupcoming
    cases herrand : a.errand.isMotion with
    | false =>
      rw [herrand] at hmotion
      refine h.quiet rfl (hrecord.append _) hbase hnext ?_ ?_
      · dsimp only
        rw [List.filter_append, List.filter_singleton, hmotion, cond_false, List.append_nil]
      · dsimp only
        rw [hupcoming, upcoming_active hactive, hwriting, herrand]
    | true =>
      rw [herrand] at hmotion
      obtain ⟨taken, flight, hledger⟩ := h.ledger
      refine ⟨hrecord.append _, hbase, fun b hb => (hnext b hb).append _, taken, flight ++ [a.id],
        ?_⟩
      refine hledger.write rfl hmotion (hrequest.frame herrand) rfl ?_
      rw [upcoming_active hactive, hwriting]
      dsimp only
      rw [hupcoming, herrand]
      rfl

/-- A call that ends sends nothing more; the twin may have settled. -/
theorem ended_authority (h : AuthorityInv m past r) (he : takesUp e = false)
    (hrecord : RecordInv m past next) (hglides : Glides r.twin next.twin)
    (hactive : next.active = none) (hdevice : next.toDevice = r.toDevice)
    (hwaiting : next.waiting = r.waiting) (hnextId : next.nextId = r.nextId) :
    AuthorityInv m (past ++ [e]) next := by
  refine h.quiet he (hrecord.append _) ((h.toTwinInv.append _).glides hglides) ?_ ?_ ?_
  · intro a ha
    exact absurd (hactive.symm.trans ha) (Option.some_ne_none a).symm
  · rw [hdevice]
  · rw [upcoming_idle hactive, hwaiting, hnextId]
    exact waiting_upcoming r

/-- The record of a request that ends. -/
theorem record_of_ends (h : AuthorityInv m past r) {a : ActiveCall K}
    (hactive : r.active = some a) (event : RequestEvent)
    (hends : RequestEnds r (r.requestStep a event).1) :
    RecordInv m past (r.requestStep a event).1 := by
  have hnumbers := sameNumbers_requestStep hactive event
  refine ⟨?_, hnumbers.ids_eq.trans h.ids_eq, ?_⟩
  · unfold SimulationRuntime.twin
    rw [hends.device_eq]
    exact h.model_eq
  · rw [hends.waiting_eq]
    exact h.called

theorem reset_authority (h : AuthorityInv m past r) (output : RuntimeOutput K) :
    AuthorityInv m (past ++ [⟨r, .resetEstop, output, (r.resetEstop).1⟩]) (r.resetEstop).1 := by
  by_cases hstopped : r.twin.state = .estop
  · have hglides := resetEstop_glides h.known
    unfold SimulationRuntime.resetEstop
    rw [if_neg (not_not.mpr hstopped)]
    refine h.quiet rfl ⟨hglides.model_eq.trans h.model_eq, h.ids_eq, (h.append _).called⟩ ?_
      h.active List.suffix_rfl (List.Sublist.refl _)
    exact (h.toTwinInv.append _).glides hglides
  · rw [r.resetEstop_moving hstopped]
    exact h.quiet rfl (h.toRecordInv.append _) (h.toTwinInv.append _) h.active List.suffix_rfl
      (List.Sublist.refl _)

theorem authority_fresh (m : RobotModel K) (supervisor : MotionSafetySupervisor K) (stepS : K)
    (hstep : 0 < stepS) : AuthorityInv m [] (SimulationRuntime.fresh m supervisor stepS hstep) where
  toRecordInv := ⟨rfl, rfl, nofun⟩
  toTwinInv := ⟨.inl rfl, nofun⟩
  active := fun a (ha : none = some a) => nomatch ha
  ledger := ⟨[], [], .nil, .nil, List.pairwise_singleton _ _⟩

end Record

section Grant
variable {K : Type} [Field K] [LinearOrder K] [FloorRing K] [SquareRoot K] [Trigonometry K]
  [ToString K] {arm : ArmModel K} {stepS : K} {past : List (RuntimeEvent K)}
  {r : SimulationRuntime K}

theorem grant_authority (h : AuthorityInv arm.toRobotModel past r) (uuid : Uuid)
    (output : RuntimeOutput K) :
    let after := (r.grant (behaviorSurroundings arm stepS) uuid).1
    AuthorityInv arm.toRobotModel (past ++ [⟨r, .grant uuid, output, after⟩]) after := by
  dsimp only
  obtain hidle | ⟨call, rest, hactive, hwaiting, hcall⟩ :=
    r.grant_cases (behaviorSurroundings arm stepS) uuid
  · rw [hidle]
    exact h.quiet rfl (h.toRecordInv.append _) (h.toTwinInv.append _) h.active
      List.suffix_rfl (List.Sublist.refl _)
  · have hbase : RecordInv arm.toRobotModel past (r.granted rest) := by
      refine ⟨h.model_eq, h.ids_eq, ?_⟩
      intro other hother
      exact h.called other (by rw [hwaiting]; exact List.mem_cons_of_mem call hother)
    -- the id of the call leaves the queue as its call gets the lock
    have hupcoming : (call.id :: (rest.map RuntimeCall.id ++ [r.nextId])).Sublist r.upcoming := by
      have hsub := waiting_upcoming r
      rw [hwaiting] at hsub
      exact hsub
    obtain ⟨-, hgrant⟩ | ⟨intent, hkind, hgrant⟩ := hcall
    · rw [hgrant]
      refine startErrand_authority h rfl (hbase.append _) rfl rfl hupcoming ?_
      intro gateway frame hsend
      unfold SimulationRuntime.send RobotGateway.sendEstop at hsend
      exact .estop (not_motion_of_starts (startRequest_starts hsend) nofun)
    · have hbegins := beginExecute_cases arm stepS (r.granted rest) call.id intent uuid
      rw [hgrant]
      generalize (r.granted rest).beginExecute (behaviorSurroundings arm stepS) call.id intent uuid
        = begun at hbegins ⊢
      cases hbegins with
      | refused supervisor failure =>
        have hidle : SimulationRuntime.upcoming { r.granted rest with supervisor := supervisor } =
            rest.map RuntimeCall.id ++ [r.nextId] := upcoming_idle hactive
        refine h.quiet rfl ((hbase.append _).withSupervisor supervisor) (h.toTwinInv.append _)
          h.active List.suffix_rfl ?_
        refine List.Sublist.trans ?_ hupcoming
        dsimp only
        rw [hidle]
        exact List.sublist_cons_self _ _
      | approved goal hgoal candidate dynamics htargets authorization happroved hauthorization
          decision =>
        refine startErrand_authority h rfl ((hbase.append _).withSupervisor _) rfl rfl hupcoming ?_
        intro gateway frame hsend
        refine .heartbeat (not_motion_of_starts (startRequest_starts hsend) nofun) goal ?_
        apply h.behaviorGoal hwaiting hkind hgoal htargets happroved hauthorization
        exact (SimulationRuntime.sameSafety_startErrand _ _ _ _).supervisor_eq

omit [Trigonometry K] [ToString K] in
theorem finishExecute_runtime (r : SimulationRuntime K) (id : ℕ) (intent : BehaviorIntent)
    (decision : MotionDecision) (authorization : MotionAuthorization K)
    (heartbeatReceipt motionReceipt : GatewayReceipt) :
    (r.finishExecute id intent decision authorization heartbeatReceipt motionReceipt).1 =
      r.setTwin (SimulationRuntime.settle r.stepS SimulationRuntime.maxSteps r.twin 0).1 := by
  unfold SimulationRuntime.finishExecute
  dsimp only
  split_ifs <;> rfl

/-- A call makes the last id of the ledger, and the next one comes behind it. -/
theorem call_authority (h : AuthorityInv arm.toRobotModel past r) (kind : CallKind) :
    let answered := r.step (behaviorSurroundings arm stepS) (.call kind)
    AuthorityInv arm.toRobotModel (past ++ [⟨r, .call kind, answered.2, answered.1⟩])
      answered.1 := by
  obtain ⟨taken, flight, hledger⟩ := h.ledger
  refine ⟨⟨h.model_eq, h.ids_eq, ?_⟩, h.toTwinInv.append _, fun a ha => (h.active a ha).append _,
    taken, flight, hledger.call rfl rfl ?_⟩
  · intro call hcall intent hkind
    obtain hbefore | hnew := List.mem_append.mp hcall
    · exact (h.toRecordInv.append _).called call hbefore intent hkind
    · rw [List.mem_singleton.mp hnew] at hkind ⊢
      exact ⟨_, List.mem_append_right past (List.mem_singleton_self _), congrArg _ hkind, rfl⟩
  · unfold SimulationRuntime.upcoming SimulationRuntime.step
    dsimp only
    simp only [List.map_append, List.map_cons, List.map_nil, List.append_assoc]

variable [IsStrictOrderedRing K]

theorem request_authority (h : AuthorityInv arm.toRobotModel past r) (event : RequestEvent)
    (output : RuntimeOutput K) :
    let after := (r.step (behaviorSurroundings arm stepS) (.request event)).1
    AuthorityInv arm.toRobotModel (past ++ [⟨r, .request event, output, after⟩]) after := by
  dsimp only
  have hstepped := SimulationRuntime.step_request (behaviorSurroundings arm stepS) r event
  generalize r.step (behaviorSurroundings arm stepS) (.request event) = stepped at hstepped ⊢
  cases hstepped with
  | idle hidle =>
    exact h.quiet rfl (h.toRecordInv.append _) (h.toTwinInv.append _) h.active List.suffix_rfl
      (List.Sublist.refl _)
  | goesOn a hactive houtcome => exact goesOn_authority h hactive event houtcome output
  | raises a hactive failure houtcome =>
    have hends := requestStep_ends a event houtcome
    have hrecord := record_of_ends h hactive event hends
    have htwin : (r.requestStep a event).1.twin = r.twin :=
      congrArg DigitalTwinProtocolDevice.twin hends.device_eq
    exact ended_authority h rfl hrecord.release (htwin.symm ▸ Glides.refl h.known) rfl
      hends.toDevice_eq hends.waiting_eq hends.nextId_eq
  | returns a hactive receipt houtcome =>
    have hends := requestStep_ends a event houtcome
    have hrecord := record_of_ends h hactive event hends
    have htwin : (r.requestStep a event).1.twin = r.twin :=
      congrArg DigitalTwinProtocolDevice.twin hends.device_eq
    have hkept : Glides r.twin (r.requestStep a event).1.twin := by
      rw [htwin]
      exact Glides.refl h.known
    -- without a further command the settling loop lets the twin glide
    have hglides := hkept.trans (settle_glides (r.requestStep a event).1.stepS
      SimulationRuntime.maxSteps hkept.known 0)
    have hrequest := h.active a hactive
    obtain ⟨id, errand, request, phase⟩ := a
    cases hrequest with
    | estop =>
      exact ended_authority h rfl (hrecord.release.withSupervisor _) hkept rfl hends.toDevice_eq
        hends.waiting_eq hends.nextId_eq
    | @heartbeat intent decision authorization hother goal hgoal =>
      refine startErrand_authority h rfl (hrecord.append _) htwin hends.toDevice_eq ?_ ?_
      · rw [hends.waiting_eq, hends.nextId_eq, upcoming_active hactive]
        exact List.Sublist.refl _
      · intro gateway frame hsend
        have hstarts := startRequest_starts hsend
        refine .motion ?_ ⟨goal.targetJointsDeg, ⟨intent, authorization, goal, hgoal.append _, rfl⟩,
          hstarts.type_eq, ?_⟩
        · exact decide_eq_true hstarts.type_eq
        · exact Gateway.Exact.authorizationPayload_requested _ arm.toRobotModel hrecord.ids_eq
            authorization goal.targetJointsDeg hgoal.targets hstarts.payload_eq
    | @motion intent decision authorization heartbeatReceipt hmotion hframe =>
      change AuthorityInv arm.toRobotModel _ (SimulationRuntime.finishExecute _ _ _ _ _ _ _).1
      rw [finishExecute_runtime]
      exact ended_authority h rfl
        ⟨hglides.model_eq.trans h.model_eq, hrecord.ids_eq, hrecord.called⟩ hglides rfl
        hends.toDevice_eq hends.waiting_eq hends.nextId_eq

theorem step_authority (h : AuthorityInv arm.toRobotModel past r) (input : RuntimeInput) :
    let answered := r.step (behaviorSurroundings arm stepS) input
    AuthorityInv arm.toRobotModel (past ++ [⟨r, input, answered.2, answered.1⟩]) answered.1 := by
  dsimp only
  have hrecord := h.toRecordInv.append
    [⟨r, input, (r.step (behaviorSurroundings arm stepS) input).2,
    (r.step (behaviorSurroundings arm stepS) input).1⟩]
  have htwin := h.toTwinInv.append [⟨r, input, (r.step (behaviorSurroundings arm stepS) input).2,
    (r.step (behaviorSurroundings arm stepS) input).1⟩]
  cases input with
  | call kind => exact call_authority h kind
  | grant uuid => exact grant_authority h uuid _
  | request event => exact request_authority h event _
  | serve => exact serve_authority h _
  | loseRequest =>
    exact h.quiet rfl ⟨hrecord.model_eq, hrecord.ids_eq, hrecord.called⟩ htwin h.active
      ((List.tail_suffix _).filter isMotion) (List.Sublist.refl _)
  | loseResponse =>
    exact h.quiet rfl ⟨hrecord.model_eq, hrecord.ids_eq, hrecord.called⟩ htwin h.active
      List.suffix_rfl (List.Sublist.refl _)
  | resetEstop => exact reset_authority h _
  | readDiagnostics =>
    exact h.quiet rfl ⟨hrecord.model_eq, hrecord.ids_eq, hrecord.called⟩ htwin h.active
      List.suffix_rfl (List.Sublist.refl _)

end Grant

/-! ### The twin over a step -/
section Twin
variable {K : Type} [Field K] [LinearOrder K] [FloorRing K] [SquareRoot K] [ToString K]
  (env : Surroundings K) {r : SimulationRuntime K}

omit [FloorRing K] [SquareRoot K] in
theorem beginExecute_device (id : ℕ) (intent : BehaviorIntent) (uuid : Uuid) :
    (r.beginExecute env id intent uuid).1.device = r.device := by
  unfold SimulationRuntime.beginExecute
  split
  · rfl
  · dsimp only
    split
    · exact (SimulationRuntime.sameSafety_startErrand _ _ _ _).device_eq
    · rfl

omit [FloorRing K] [SquareRoot K] in
theorem grant_device (uuid : Uuid) : (r.grant env uuid).1.device = r.device := by
  obtain hidle | ⟨call, rest, -, -, ⟨-, hgrant⟩ | ⟨intent, -, hgrant⟩⟩ := r.grant_cases env uuid
  · rw [hidle]
  · rw [hgrant]
    exact (SimulationRuntime.sameSafety_startErrand _ _ _ _).device_eq
  · rw [hgrant]
    exact beginExecute_device env _ _ _

/-- A call that goes on with a receipt lets the twin settle, if it was for a motion. -/
theorem resume_twin (h : KnownState r.twin) (a : ActiveCall K) (receipt : GatewayReceipt) :
    Glides r.twin (r.resume env a receipt).1.twin := by
  unfold SimulationRuntime.resume
  cases a.errand with
  | estop => exact Glides.refl h
  | heartbeat intent decision authorization =>
    have hdevice := (SimulationRuntime.sameSafety_startErrand env r a.id
      (.motion intent decision authorization receipt)).device_eq
    dsimp only
    unfold SimulationRuntime.twin
    rw [hdevice]
    exact Glides.refl h
  | motion intent decision authorization heartbeatReceipt =>
    dsimp only
    rw [finishExecute_runtime]
    exact settle_glides _ _ h 0

/-- Only the device gives the twin a command. -/
theorem step_twin (h : KnownState r.twin) (input : RuntimeInput) (hserve : input ≠ .serve) :
    Glides r.twin (r.step env input).1.twin := by
  -- a step that keeps the device keeps the twin
  have hsame (after : SimulationRuntime K) (hdevice : after.device = r.device) :
      Glides r.twin after.twin := by
    unfold SimulationRuntime.twin
    rw [hdevice]
    exact Glides.refl h
  cases input with
  | serve => exact absurd rfl hserve
  | grant uuid => exact hsame _ (grant_device env uuid)
  | request event =>
    have hstepped := SimulationRuntime.step_request env r event
    generalize r.step env (.request event) = stepped at hstepped ⊢
    cases hstepped with
    | idle => exact Glides.refl h
    | goesOn a | raises a =>
      exact hsame _ (SimulationRuntime.sameSafety_requestStep r a event).device_eq
    | returns a _ receipt =>
      have hkept := hsame _ (SimulationRuntime.sameSafety_requestStep r a event).device_eq
      exact hkept.trans (resume_twin env hkept.known a receipt)
  | resetEstop =>
    have hglides := resetEstop_glides h
    change Glides r.twin (r.resetEstop).1.twin
    unfold SimulationRuntime.resetEstop
    split_ifs with hstopped
    · exact Glides.refl h
    · exact hglides
  | call | loseRequest | loseResponse | readDiagnostics => exact Glides.refl h

omit [FloorRing K] [SquareRoot K] [ToString K] in
/-- The device moves nothing: a twin that executes after a frame took up its command, or executed
before. -/
theorem serve_twin (output : RuntimeOutput K) :
    r.serve.twin.positions = r.twin.positions ∧
      (r.serve.twin.state = .executing → takesUp ⟨r, .serve, output, r.serve⟩ = true ∨
        r.serve.twin = r.twin) := by
  by_cases hready : ∃ request rest, r.deviceTask = .receiving ∧ r.toDevice = request :: rest
  · obtain ⟨request, rest, htask, hdevice⟩ := hready
    have hserves := serve_frame htask hdevice
    unfold SimulationRuntime.twin
    rw [hserves.device_eq]
    cases hdispatch : r.twin.dispatch request with
    | error error =>
      rw [r.device.twin_serveOnce_error request error hdispatch]
      exact ⟨rfl, fun _ => .inr rfl⟩
    | ok after =>
      rw [r.device.twin_serveOnce_ok request after hdispatch]
      obtain ⟨-, -, rfl⟩ | ⟨htype, command, -, haccept⟩ | ⟨-, -, rfl⟩ :=
        (r.twin.dispatch_eq_ok_iff after request).mp hdispatch
      · exact ⟨rfl, fun _ => .inr rfl⟩
      · refine ⟨?_, fun _ => .inl (takesUp_motion htask hdevice hdispatch htype output).1⟩
        obtain ⟨-, rfl⟩ := (r.twin.accept_eq_ok_iff after command).mp haccept
        rfl
      · exact ⟨rfl, nofun⟩
  · obtain ⟨hsame, -⟩ := serve_idle (fun request rest hready' => hready ⟨request, rest, hready'⟩)
      output r.serve
    rw [hsame]
    exact ⟨rfl, fun _ => .inr rfl⟩

end Twin
/-! ### Runs -/
section Runs
variable {K : Type} [Field K] [LinearOrder K] [IsStrictOrderedRing K] [FloorRing K] [SquareRoot K]
  [Trigonometry K] [ToString K]

/-- Nothing moves without the supervisor. In every run of the runtime, however its calls interleave
at their await points and whatever is lost on the link, each motion command that the twin takes up
carries the goal that the supervisor approved for a call of `execute_behavior`; every call has at
most one, and they come in the order of the calls. A twin starts to execute only with such a
command, and its joints move only while it executes one, to the approved targets. -/
theorem motion_only_on_approval (arm : ArmModel K) (supervisor : MotionSafetySupervisor K)
    (stepS : K) (runtime : SimulationRuntime K)
    (hruntime : SimulationRuntime.new arm.toRobotModel supervisor stepS = .ok runtime)
    (inputs : List RuntimeInput) :
    (∃ ids : List ℕ, ids.Pairwise (· < ·) ∧
      List.Forall₂
        (TookUp arm.toRobotModel
          (trace (SimulationRuntime.step (behaviorSurroundings arm stepS)) runtime inputs))
        ((trace (SimulationRuntime.step (behaviorSurroundings arm stepS)) runtime inputs).filter
          takesUp) ids) ∧
    ∀ past e later,
      trace (SimulationRuntime.step (behaviorSurroundings arm stepS)) runtime inputs =
        past ++ e :: later →
      (e.after.twin.state = .executing → takesUp e = true ∨ e.before.twin.state = .executing ∧
        e.after.twin.targets = e.before.twin.targets) ∧
      (e.after.twin.positions ≠ e.before.twin.positions → e.before.twin.state = .executing ∧
        e.after.twin.targets = e.before.twin.targets ∧
        ∃ id, Approved arm.toRobotModel past id e.before.twin.targets) := by
  unfold SimulationRuntime.new at hruntime
  split_ifs at hruntime with hstep
  obtain rfl := Except.ok.inj hruntime
  have hinv (some : List RuntimeInput) := history_invariant
    (SimulationRuntime.step (behaviorSurroundings arm stepS)) (P := AuthorityInv arm.toRobotModel)
    _ (authority_fresh arm.toRobotModel supervisor stepS hstep)
    (fun past r input h => step_authority h input) some
  constructor
  · obtain ⟨taken, flight, hledger⟩ := (hinv inputs).ledger
    refine ⟨taken, ?_, hledger.took⟩
    exact (List.pairwise_append.mp (List.pairwise_append.mp hledger.ordered).1).1
  · intro past e later htrace
    obtain ⟨hpast, hbefore⟩ := trace_split _ _ _ past later e htrace
    have hmem : e ∈ trace (SimulationRuntime.step (behaviorSurroundings arm stepS))
        (SimulationRuntime.fresh arm.toRobotModel supervisor stepS hstep) inputs := by
      rw [htrace]
      exact List.mem_append_right past List.mem_cons_self
    have hevent := trace_step _ _ inputs e hmem
    have hnow : AuthorityInv arm.toRobotModel past e.before := by
      rw [hpast, hbefore]
      exact hinv (past.map Event.input)
    have hafter : (e.before.step (behaviorSurroundings arm stepS) e.input).1 = e.after := by
      rw [hevent]
    by_cases hserve : e.input = .serve
    · obtain ⟨before, input, output, after⟩ := e
      dsimp only at hserve hafter hnow ⊢
      subst hserve
      obtain rfl : before.serve = after := hafter
      obtain ⟨hpositions, hexecuting⟩ := serve_twin (r := before) output
      refine ⟨fun hstate => ?_, fun hmoved => absurd hpositions hmoved⟩
      obtain htook | hsame := hexecuting hstate
      · exact .inl htook
      · rw [hsame] at hstate ⊢
        exact .inr ⟨hstate, rfl⟩
    · have hglides := step_twin (behaviorSurroundings arm stepS) hnow.known e.input hserve
      rw [hafter] at hglides
      refine ⟨fun hstate => .inr ⟨hglides.executing hstate, hglides.targets_eq⟩, fun hmoved => ?_⟩
      have hexecuting := hglides.positions hmoved
      exact ⟨hexecuting, hglides.targets_eq, hnow.pursued hexecuting⟩

end Runs

def listeningTrace (runtime : SimulationRuntime ℚ) : List (RuntimeEvent ℚ) :=
  trace (SimulationRuntime.step (behaviorSurroundings listeningArm 1)) runtime listeningInputs

def listeningTakesUp : Bool :=
  match buildSimulationSupervisor listeningArm with
  | .error _ => false
  | .ok supervisor =>
    match SimulationRuntime.new listeningArm.toRobotModel supervisor 1 with
    | .error _ => false
    | .ok runtime => ((listeningTrace runtime).filter takesUp).length = 1

theorem listeningTakesUp_eq : listeningTakesUp = true := by decide +kernel

/-- The listening arm, up to the answer to its motion, which the twin takes up. -/
theorem motion_only_on_approval_listening : ∃ supervisor runtime,
    buildSimulationSupervisor listeningArm = .ok supervisor ∧
    SimulationRuntime.new listeningArm.toRobotModel supervisor 1 = .ok runtime ∧
    ((listeningTrace runtime).filter takesUp).length = 1 ∧
    ∃ ids : List ℕ, ids.Pairwise (· < ·) ∧
      List.Forall₂ (TookUp listeningArm.toRobotModel (listeningTrace runtime))
        ((listeningTrace runtime).filter takesUp) ids := by
  have htakes := listeningTakesUp_eq
  unfold listeningTakesUp at htakes
  split at htakes
  · cases htakes
  · rename_i supervisor hsupervisor
    split at htakes
    · cases htakes
    · rename_i runtime hruntime
      exact ⟨supervisor, runtime, hsupervisor, hruntime, of_decide_eq_true htakes,
        (motion_only_on_approval listeningArm supervisor 1 runtime hruntime listeningInputs).1⟩

end RoboticCharacter.Simulation
