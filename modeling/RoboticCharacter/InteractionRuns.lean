import RoboticCharacter.InteractionApi
import RoboticCharacter.AsyncQueue

/-! The interactions over every interleaving of requests, replies of the engine and steps of the
runtime: each request gets the execution that its own response asked for, and no other. -/
namespace RoboticCharacter.Api
open Safety Gateway PythonMath Machine Simulation Robotics Multimodal Fallible AsyncQueue
open Characters (CharacterResponseV1 EngineReply readReply renderMessage)

/-! ### Calls and their ids -/
section Calls
variable {K : Type} [Field K] [LinearOrder K] [FloorRing K] [ToString K]

/-- The calls that are recorded have different ids, and those that have not ended are recorded. -/
structure CallsInv (m : RobotModel K) (record : List (RuntimeEvent K))
    (r : SimulationRuntime K) : Prop extends GoalInv m record r where
  ordered : (r.executing.map Prod.fst ++ [r.nextId]).Pairwise (· < ·)
  recorded : ∀ call ∈ r.executing, ∃ e ∈ record,
    e.input = .call (.execute call.2) ∧ e.before.nextId = call.1
  earlier : ∀ e ∈ record, ∀ kind, e.input = .call kind → e.before.nextId < r.nextId
  distinct : ∀ e ∈ record, ∀ other ∈ record, ∀ kind otherKind, e.input = .call kind →
    other.input = .call otherKind → e.before.nextId = other.before.nextId → kind = otherKind

/-- The twin stands at the goal of the behavior, and the report is one of it. -/
structure Embodies (m : RobotModel K) (twin : DigitalTwinRobot K) (intent : BehaviorIntent)
    (report : SimulationExecutionReport K) : Prop where
  cue : report.cue = intent.cue.value
  style : report.style = intent.style.value
  telemetry : report.telemetry = twin.telemetry 0
  at_rest : twin.AtRest
  goal : ∃ goal, embody m intent = .ok goal ∧ twin.positions = goal.targetJointsDeg ∧
    m.WithinLimits twin.positions

theorem CallsInv.nodup {m : RobotModel K} {record : List (RuntimeEvent K)}
    {r : SimulationRuntime K} (h : CallsInv m record r) : (r.executing.map Prod.fst).Nodup := by
  have hordered := (List.pairwise_append.mp h.ordered).1
  exact hordered.imp fun hlt => Nat.ne_of_lt hlt

theorem callsInv_fresh (m : RobotModel K) (supervisor : MotionSafetySupervisor K) (stepS : K)
    (h : 0 < stepS) : CallsInv m [] (.fresh m supervisor stepS h) where
  toGoalInv := goalInv_fresh m supervisor stepS h
  ordered := List.pairwise_singleton _ _
  recorded := fun _ hcall => absurd hcall List.not_mem_nil
  earlier := fun _ he => absurd he List.not_mem_nil
  distinct := fun _ he => absurd he List.not_mem_nil

variable {m : RobotModel K} {record : List (RuntimeEvent K)} {r next : SimulationRuntime K}
  {e : RuntimeEvent K}

/-- A step that is no call. -/
theorem CallsInv.kept (h : CallsInv m record r) (hgoal : GoalInv m (record ++ [e]) next)
    (hinput : ∀ kind, e.input ≠ .call kind) (hexecuting : next.executing <:+ r.executing)
    (hnext : next.nextId = r.nextId) : CallsInv m (record ++ [e]) next where
  toGoalInv := hgoal
  ordered := by
    rw [hnext]
    exact List.Pairwise.sublist (List.Sublist.append_right (hexecuting.sublist.map Prod.fst) _)
      h.ordered
  recorded := by
    intro call hcall
    obtain ⟨earlier, hearlier, hcalled⟩ := h.recorded call (hexecuting.subset hcall)
    exact ⟨earlier, List.mem_append_left _ hearlier, hcalled⟩
  earlier := by
    intro other hother kind hkind
    rw [hnext]
    obtain hold | hlast := List.mem_append.mp hother
    · exact h.earlier other hold kind hkind
    · rw [List.mem_singleton.mp hlast] at hkind
      exact absurd hkind (hinput kind)
  distinct := by
    intro first hfirst second hsecond kind otherKind hkind hother hid
    obtain hfirst | hlast := List.mem_append.mp hfirst
    · obtain hsecond | hlast := List.mem_append.mp hsecond
      · exact h.distinct first hfirst second hsecond kind otherKind hkind hother hid
      · rw [List.mem_singleton.mp hlast] at hother
        exact absurd hother (hinput otherKind)
    · rw [List.mem_singleton.mp hlast] at hkind
      exact absurd hkind (hinput kind)

/-- A call takes the next id. -/
theorem CallsInv.call (h : CallsInv m record r) (hgoal : GoalInv m (record ++ [e]) next)
    (hbefore : e.before = r) (kind : CallKind) (hinput : e.input = .call kind)
    (hexecuting : next.executing =
      r.executing ++ (RuntimeCall.mk r.nextId kind).execute.toList)
    (hnext : next.nextId = r.nextId+1) : CallsInv m (record ++ [e]) next where
  toGoalInv := hgoal
  ordered := by
    have hbelow : ∀ id ∈ r.executing.map Prod.fst, id < r.nextId := fun id hid =>
      (List.pairwise_append.mp h.ordered).2.2 id hid _ (List.mem_singleton_self _)
    -- an estop takes an id too, but has nothing to execute
    have hids : (next.executing.map Prod.fst).Sublist
        (r.executing.map Prod.fst ++ [r.nextId]) := by
      rw [hexecuting, List.map_append]
      apply List.Sublist.append_left
      unfold RuntimeCall.execute
      cases kind with
      | estop => exact List.nil_sublist _
      | execute intent => exact List.Sublist.refl _
    rw [hnext]
    refine List.pairwise_append.mpr
      ⟨List.Pairwise.sublist hids h.ordered, List.pairwise_singleton _ _, ?_⟩
    intro id hid last hlast
    rw [List.mem_singleton.mp hlast]
    obtain hold | hnew := List.mem_append.mp (hids.subset hid)
    · exact Nat.lt_succ_of_lt (hbelow id hold)
    · rw [List.mem_singleton.mp hnew]
      exact Nat.lt_succ_self _
  recorded := by
    intro call hcall
    rw [hexecuting] at hcall
    obtain hold | hnew := List.mem_append.mp hcall
    · obtain ⟨earlier, hearlier, hcalled⟩ := h.recorded call hold
      exact ⟨earlier, List.mem_append_left _ hearlier, hcalled⟩
    · refine ⟨e, List.mem_append_right _ (List.mem_singleton_self e), ?_⟩
      rw [hinput, hbefore]
      unfold RuntimeCall.execute at hnew
      cases kind with
      | estop => exact absurd hnew List.not_mem_nil
      | execute intent =>
        rw [List.mem_singleton.mp hnew]
        exact ⟨rfl, rfl⟩
  earlier := by
    intro other hother otherKind hkind
    rw [hnext]
    obtain hold | hlast := List.mem_append.mp hother
    · exact Nat.lt_succ_of_lt (h.earlier other hold otherKind hkind)
    · rw [List.mem_singleton.mp hlast, hbefore]
      exact Nat.lt_succ_self _
  distinct := by
    intro first hfirst second hsecond firstKind secondKind hfirstKind hsecondKind hid
    obtain hfirst | hlast := List.mem_append.mp hfirst
    · obtain hsecond | hlast := List.mem_append.mp hsecond
      · exact h.distinct first hfirst second hsecond firstKind secondKind hfirstKind hsecondKind
          hid
      · have hlt := h.earlier first hfirst firstKind hfirstKind
        rw [hid, List.mem_singleton.mp hlast, hbefore] at hlt
        exact absurd hlt (Nat.lt_irrefl _)
    · rw [List.mem_singleton.mp hlast] at hfirstKind hid
      obtain hsecond | hlast := List.mem_append.mp hsecond
      · have hlt := h.earlier second hsecond secondKind hsecondKind
        rw [← hid, hbefore] at hlt
        exact absurd hlt (Nat.lt_irrefl _)
      · rw [List.mem_singleton.mp hlast] at hsecondKind
        exact RuntimeInput.call.inj (hfirstKind.symm.trans hsecondKind)

end Calls

section Step
variable {K : Type} [Field K] [LinearOrder K] [IsStrictOrderedRing K] [FloorRing K] [SquareRoot K]
  [Trigonometry K] [ToString K] {arm : ArmModel K} (stepS : K) {record : List (RuntimeEvent K)}
  {r : SimulationRuntime K}

/-- A step of the runtime keeps the calls and ends at most the first one, and a report is one of
the behavior that was called. -/
theorem CallsInv.step (h : CallsInv arm.toRobotModel record r) (hclear : r.Unambiguous)
    (input : RuntimeInput) :
    let stepped := r.step (behaviorSurroundings arm stepS) input
    CallsInv arm.toRobotModel (record ++ [⟨r, input, stepped.2, stepped.1⟩]) stepped.1 ∧
      ∀ id intent report rest, r.executing = (id, intent) :: rest →
        stepped.2 = .executeDone id (.ok report) →
          Embodies arm.toRobotModel stepped.1.twin intent report := by
  intro stepped
  obtain ⟨hgoal, hreports⟩ := step_reached stepS h.toGoalInv hclear input
  constructor
  · by_cases hcall : ∃ kind, input = .call kind
    -- a call adds to what is executed, and every other step takes at most the first one away
    · obtain ⟨kind, rfl⟩ := hcall
      exact h.call hgoal rfl kind rfl (r.executing_call _ kind) rfl
    · have hother : ∀ kind, input ≠ .call kind := fun kind heq => hcall ⟨kind, heq⟩
      obtain ⟨heffect, hnext⟩ := r.step_effect (behaviorSurroundings arm stepS) input hother
      refine h.kept hgoal hother ?_ hnext
      generalize (r.step (behaviorSurroundings arm stepS) input).2 = output at heffect
      generalize hafter : stepped.1.executing = after
      rw [show (r.step (behaviorSurroundings arm stepS) input).1.executing = after from hafter]
        at heffect
      cases heffect with
      | kept => exact List.suffix_rfl
      | ended id intent rest result hfirst =>
        rw [hfirst]
        exact List.suffix_cons _ _
  · intro id intent report rest hfirst hreport
    obtain ⟨called, authorization, goal, hreached⟩ := hreports id report hreport
    -- the call of the report is the first one, since both have its id
    obtain ⟨e, he, hinput, hid⟩ := hreached.behavior.called
    obtain ⟨own, hown, howninput, hownid⟩ :=
      h.recorded (id, intent) (by rw [hfirst]; exact List.mem_cons_self)
    have hkind := h.distinct e he own hown _ _ hinput howninput (hid.trans hownid.symm)
    obtain rfl : called = intent := CallKind.execute.inj hkind
    exact {
      cue := hreached.cue
      style := hreached.style
      telemetry := hreached.telemetry
      at_rest := hreached.at_rest
      goal := ⟨goal, hreached.behavior.embodied, hreached.positions, hreached.within⟩ }

end Step

/-! ### What a step of the server can do -/
section Serves
variable {K : Type} [Field K] [LinearOrder K] [FloorRing K] [SquareRoot K] [ToString K]

/-- What an input can make of the server. -/
inductive Serves (env : Surroundings K) (reader : Pydantic.Input JsonValue) (s : ApiServer K) :
    ApiInput → ApiServer K × ApiOutput K → Prop
  | idle (input : ApiInput) : Serves env reader s input (s, .none)
  | refuses (request : SimulationInteractionRequest) (statusCode : ℕ) (detail : String) :
      Serves env reader s (.interact request)
        ({ s with tasks := s.tasks ++ [.answered] },
          .answered s.tasks.length (.refused statusCode detail))
  | asks (request : SimulationInteractionRequest) (voice : Option VoiceTranscript)
      (meaning : MeaningFrame) (message : String) (hvoice : request.voice = .ok voice)
      (hmeaning : MultimodalCorrelator.default.correlate request.timestampMs request.text voice
        request.observation = .ok meaning) :
      Serves env reader s (.interact request)
        ({ s with tasks := s.tasks ++ [.thinking meaning] }, .asked s.tasks.length message)
  | declines (index : ℕ) (meaning : MeaningFrame) (reply : EngineReply) (statusCode : ℕ)
      (detail : String) (htask : s.tasks[index]? = some (.thinking meaning)) :
      Serves env reader s (.engine index reply) (s.answer index (.refused statusCode detail))
  | rests (index : ℕ) (meaning : MeaningFrame) (reply : EngineReply)
      (response : CharacterResponseV1) (htask : s.tasks[index]? = some (.thinking meaning))
      (hreply : readReply reader reply = .ok response)
      (hnone : Behavior.requested response = none) :
      Serves env reader s (.engine index reply)
        (s.answer index (.ok ⟨meaning, response, none⟩ none))
  | moves (index : ℕ) (meaning : MeaningFrame) (reply : EngineReply)
      (response : CharacterResponseV1) (behavior : Behavior.BehaviorIntent)
      (htask : s.tasks[index]? = some (.thinking meaning))
      (hreply : readReply reader reply = .ok response)
      (hsome : Behavior.requested response = some behavior) :
      Serves env reader s (.engine index reply)
        ({ runtime := (s.runtime.step env (.call (.execute behavior.toBehaviorIntent))).1
           tasks := s.tasks.set index
            (.moving ⟨meaning, response, some behavior⟩ behavior s.runtime.nextId) }, .none)
  | runs (input : RuntimeInput) (hpermits : s.runtime.Permits input)
      (hother : ∀ intent, input ≠ .call (.execute intent))
      (hquiet : ∀ id result, (s.runtime.step env input).2 ≠ .executeDone id result) :
      Serves env reader s (.runtime input)
        ({ s with runtime := (s.runtime.step env input).1 }, .none)
  | ends (input : RuntimeInput) (id : ℕ) (hpermits : s.runtime.Permits input)
      (result : Except RuntimeFailure (SimulationExecutionReport K))
      (hother : ∀ intent, input ≠ .call (.execute intent))
      (houtput : (s.runtime.step env input).2 = .executeDone id result) :
      Serves env reader s (.runtime input)
        (ApiServer.executed { s with runtime := (s.runtime.step env input).1 } id result)

theorem serves_interact (env : Surroundings K) (reader : Pydantic.Input JsonValue) (s : ApiServer K)
    (request : SimulationInteractionRequest) :
    Serves env reader s (.interact request) (s.interact request) := by
  unfold ApiServer.interact
  dsimp only
  split
  · exact .refuses request 422 _
  · rename_i voice hvoice
    split
    · exact .refuses request 503 _
    · rename_i meaning hmeaning
      split
      · exact .refuses request 503 _
      · exact .asks request voice meaning _ hvoice hmeaning

theorem serves_reply (env : Surroundings K) (reader : Pydantic.Input JsonValue) (s : ApiServer K)
    (index : ℕ) (meaning : MeaningFrame) (reply : EngineReply)
    (htask : s.tasks[index]? = some (.thinking meaning)) :
    Serves env reader s (.engine index reply) (s.reply env reader index meaning reply) := by
  unfold ApiServer.reply
  split
  · exact .declines index meaning reply 503 _ htask
  · rename_i response hreply
    have hplan := Behavior.plan_eq response
    split
    · exact .declines index meaning reply 503 _ htask
    · rename_i hnone
      exact .rests index meaning reply response htask hreply
        (Except.ok.inj (hplan.symm.trans hnone))
    · rename_i behavior hsome
      exact .moves index meaning reply response behavior htask hreply
        (Except.ok.inj (hplan.symm.trans hsome))

theorem serves_runtime (env : Surroundings K) (reader : Pydantic.Input JsonValue) (s : ApiServer K)
    (input : RuntimeInput) (hother : ∀ intent, input ≠ .call (.execute intent)) :
    Serves env reader s (.runtime input) (match s.runtime.linkStep env input with
      | (runtime, .executeDone id result) =>
        ApiServer.executed { s with runtime := runtime } id result
      | (runtime, _) => ({ s with runtime := runtime }, .none)) := by
  obtain hwaits | ⟨hpermits, hlink⟩ := s.runtime.linkStep_cases env input
  · rw [hwaits]
    exact .idle _
  · rw [hlink]
    split
    · rename_i runtime id result hstep
      have hruntime : runtime = (s.runtime.step env input).1 := by rw [hstep]
      rw [hruntime]
      exact .ends input id hpermits result hother (by rw [hstep])
    · rename_i runtime output hquiet hstep
      have hruntime : runtime = (s.runtime.step env input).1 := by rw [hstep]
      rw [hruntime]
      refine .runs input hpermits hother ?_
      intro id result hdone
      rw [hstep] at hdone
      exact hquiet id result hdone

theorem serves_step (env : Surroundings K) (reader : Pydantic.Input JsonValue) (s : ApiServer K)
    (input : ApiInput) :
    Serves env reader s input (s.step env reader input) := by
  unfold ApiServer.step
  split
  · exact serves_interact env reader s _
  · split
    · rename_i htask
      exact serves_reply env reader s _ _ _ htask
    · exact .idle _
  · exact .idle _
  · rename_i input hother
    exact serves_runtime env reader s input fun intent heq => hother intent heq

/-- The task that waits for an execution is answered with what comes of it. -/
def executionAnswer (interaction : InteractionResult) :
    Except RuntimeFailure (SimulationExecutionReport K) → Answer K
  | .ok report => .ok interaction (some report)
  | .error failure => failureAnswer failure

omit [FloorRing K] [SquareRoot K] [ToString K] in
theorem ApiServer.executed_eq {s : ApiServer K} {id : ℕ} {interaction : InteractionResult}
    {behavior : Behavior.BehaviorIntent}
    (htask : s.tasks[s.tasks.findIdx (Task.awaits id)]? = some (.moving interaction behavior id))
    (result : Except RuntimeFailure (SimulationExecutionReport K)) :
    s.executed id result =
      s.answer (s.tasks.findIdx (Task.awaits id)) (executionAnswer interaction result) := by
  unfold ApiServer.executed
  dsimp only
  rw [htask]
  cases result with
  | ok report => rfl
  | error failure => rfl

end Serves

/-! ### The tasks -/

abbrev ApiEvent (K : Type) [Field K] [LinearOrder K] :=
  Event (ApiServer K) ApiInput (ApiOutput K)

def ApiOutput.answeredIndex {K : Type} : ApiOutput K → Option ℕ
  | .answered index _ => some index
  | _ => .none

section Tasks
variable {K : Type} [Field K] [LinearOrder K] {past : List (ApiEvent K)}

/-- The frame was correlated from the request that arrived at this place. -/
def Posted (past : List (ApiEvent K)) (index : ℕ) (meaning : MeaningFrame) : Prop :=
  ∃ e ∈ past, ∃ request voice, e.input = .interact request ∧ e.before.tasks.length = index ∧
    request.voice = .ok voice ∧
    MultimodalCorrelator.default.correlate request.timestampMs request.text voice
      request.observation = .ok meaning

/-- The engine gave this response to the request that arrived at this place. -/
def Replied (reader : Pydantic.Input JsonValue) (past : List (ApiEvent K)) (index : ℕ)
    (response : CharacterResponseV1) : Prop :=
  ∃ e ∈ past, ∃ reply, e.input = .engine index reply ∧ readReply reader reply = .ok response

/-- The result is of this request and of the reply to it. -/
structure OwnResult (reader : Pydantic.Input JsonValue) (past : List (ApiEvent K)) (index : ℕ)
    (result : InteractionResult) : Prop where
  posted : Posted past index result.meaning
  replied : Replied reader past index result.characterResponse
  behavior : result.behavior = Behavior.requested result.characterResponse

def TaskOk (reader : Pydantic.Input JsonValue) (past : List (ApiEvent K)) (index : ℕ) : Task → Prop
  | .thinking meaning => Posted past index meaning
  | .moving result behavior _ =>
    OwnResult reader past index result ∧ result.behavior = some behavior
  | .answered => True

/-- A request is answered once. -/
structure TaskInv (reader : Pydantic.Input JsonValue) (past : List (ApiEvent K))
    (tasks : List Task) : Prop where
  own : ∀ index task, tasks[index]? = some task → TaskOk reader past index task
  answered : ∀ e ∈ past, ∀ index, e.output.answeredIndex = some index →
    tasks[index]? = some .answered
  once : (past.filterMap fun e => e.output.answeredIndex).Nodup

theorem Posted.append {index : ℕ} {meaning : MeaningFrame} (h : Posted past index meaning)
    (e : ApiEvent K) : Posted (past ++ [e]) index meaning := by
  obtain ⟨earlier, hearlier, hposted⟩ := h
  exact ⟨earlier, List.mem_append_left _ hearlier, hposted⟩

theorem Replied.append {index : ℕ} {response : CharacterResponseV1}
    (h : Replied reader past index response) (e : ApiEvent K) :
    Replied reader (past ++ [e]) index response := by
  obtain ⟨earlier, hearlier, hreplied⟩ := h
  exact ⟨earlier, List.mem_append_left _ hearlier, hreplied⟩

theorem OwnResult.append {index : ℕ} {result : InteractionResult}
    (h : OwnResult reader past index result) (e : ApiEvent K) :
    OwnResult reader (past ++ [e]) index result :=
  ⟨h.posted.append e, h.replied.append e, h.behavior⟩

theorem TaskOk.append {index : ℕ} {task : Task} (h : TaskOk reader past index task)
    (e : ApiEvent K) : TaskOk reader (past ++ [e]) index task := by
  cases task with
  | thinking meaning => exact Posted.append h e
  | moving result behavior id => exact ⟨h.1.append e, h.2⟩
  | answered => trivial

/-- The tasks are updated at one place, which was not answered before if it is answered now. -/
theorem TaskInv.update {tasks next : List Task} (h : TaskInv reader past tasks) {e : ApiEvent K}
    (hown : ∀ index task, next[index]? = some task →
      tasks[index]? = some task ∨ TaskOk reader (past ++ [e]) index task)
    (hkept : ∀ index : ℕ, tasks[index]? = some .answered → next[index]? = some .answered)
    (hanswers : ∀ index, e.output.answeredIndex = some index →
      tasks[index]? ≠ some .answered ∧ next[index]? = some .answered) :
    TaskInv reader (past ++ [e]) next where
  own := by
    intro index task htask
    obtain hold | hnew := hown index task htask
    · exact (h.own index task hold).append e
    · exact hnew
  answered := by
    intro other hother index hindex
    obtain hold | hlast := List.mem_append.mp hother
    · exact hkept index (h.answered other hold index hindex)
    · rw [List.mem_singleton.mp hlast] at hindex
      exact (hanswers index hindex).2
  once := by
    rw [filterMap_snoc]
    refine List.nodup_append.mpr ⟨h.once, ?_, ?_⟩
    · cases e.output.answeredIndex with
      | none => exact List.nodup_nil
      | some index => exact List.nodup_singleton index
    -- what was answered before is marked as answered, so it cannot be answered again
    · intro index hindex other hother heq
      obtain ⟨earlier, hearlier, hanswered⟩ := List.mem_filterMap.mp hindex
      rw [Option.mem_toList, ← heq] at hother
      exact (hanswers index hother).1 (h.answered earlier hearlier index hanswered)

theorem TaskInv.same {tasks : List Task} (h : TaskInv reader past tasks) {e : ApiEvent K}
    (hquiet : e.output.answeredIndex = none) : TaskInv reader (past ++ [e]) tasks := by
  apply h.update (fun _ _ htask => .inl htask) (fun _ hkept => hkept)
  intro index hindex
  rw [hquiet] at hindex
  cases hindex

/-- A request arrives. -/
theorem TaskInv.arrive {tasks : List Task} (h : TaskInv reader past tasks) {e : ApiEvent K}
    (task : Task) (hown : TaskOk reader (past ++ [e]) tasks.length task)
    (hanswers : ∀ index, e.output.answeredIndex = some index →
      index = tasks.length ∧ task = .answered) :
    TaskInv reader (past ++ [e]) (tasks ++ [task]) := by
  refine h.update ?_ ?_ ?_
  · intro index found hfound
    rw [List.getElem?_append] at hfound
    split_ifs at hfound with hlt
    · exact .inl hfound
    · -- past the old tasks there is only the new one
      rw [List.getElem?_singleton] at hfound
      split_ifs at hfound with hzero
      have hindex : index = tasks.length := by omega
      rw [hindex, ← Option.some.inj hfound]
      exact .inr hown
  · intro index hkept
    rw [List.getElem?_append_left (List.getElem?_eq_some_iff.mp hkept).1]
    exact hkept
  · intro index hindex
    obtain ⟨rfl, rfl⟩ := hanswers index hindex
    rw [List.getElem?_eq_none (Nat.le_refl _), List.getElem?_concat_length]
    exact ⟨nofun, rfl⟩

/-- A request that waits goes on, or is answered. -/
theorem TaskInv.set {tasks : List Task} (h : TaskInv reader past tasks) {e : ApiEvent K} {index : ℕ}
    {old : Task} (hold : tasks[index]? = some old) (hwaits : old ≠ .answered) (task : Task)
    (hown : TaskOk reader (past ++ [e]) index task)
    (hanswers : ∀ other, e.output.answeredIndex = some other →
      other = index ∧ task = .answered) : TaskInv reader (past ++ [e]) (tasks.set index task) := by
  have hlt : index < tasks.length := (List.getElem?_eq_some_iff.mp hold).1
  refine h.update ?_ ?_ ?_
  · intro other found hfound
    rw [List.getElem?_set] at hfound
    split_ifs at hfound with hsame
    · rw [← hsame, ← Option.some.inj hfound]
      exact .inr hown
    · exact .inl hfound
  · intro other hkept
    have hother : index ≠ other := by
      rintro rfl
      rw [hold] at hkept
      exact hwaits (Option.some.inj hkept)
    rw [List.getElem?_set_ne hother]
    exact hkept
  · intro other hother
    obtain ⟨rfl, rfl⟩ := hanswers other hother
    rw [hold, List.getElem?_set_self hlt]
    exact ⟨fun heq => hwaits (Option.some.inj heq), rfl⟩

/-- The calls that are waited for, when one task changes. -/
theorem calls_set {tasks : List Task} {index : ℕ} {old : Task} (hold : tasks[index]? = some old)
    (task : Task) :
    ((tasks.set index task).filterMap Task.call ++ old.call.toList).Perm
      (tasks.filterMap Task.call ++ task.call.toList) := by
  obtain ⟨front, back, hsplit, hset⟩ := exists_split_of_getElem? tasks index old hold
  have hpart (other : Task) : (front ++ other :: back).filterMap Task.call =
      front.filterMap Task.call ++ (other.call.toList ++ back.filterMap Task.call) := by
    rw [List.filterMap_append, List.filterMap_cons]
    cases other.call with
    | none => rfl
    | some call => rfl
  -- both sides have the same parts in another order
  rw [hset, hsplit, hpart, hpart, List.perm_iff_count]
  intro call
  simp only [List.count_append]
  omega

/-- The task that waits for a call is found by its id. -/
theorem awaited_task {tasks : List Task} {id : ℕ} {intent : BehaviorIntent}
    (hcall : (id, intent) ∈ tasks.filterMap Task.call) :
    ∃ result behavior,
      tasks[tasks.findIdx (Task.awaits id)]? = some (.moving result behavior id) := by
  obtain ⟨task, htask, hcalls⟩ := List.mem_filterMap.mp hcall
  have hawaits : Task.awaits id task = true := by
    cases task with
    | moving result behavior waited =>
      have hid := congrArg Prod.fst (Option.some.inj hcalls)
      exact decide_eq_true hid
    | thinking | answered => cases hcalls
  have hlt : tasks.findIdx (Task.awaits id) < tasks.length :=
    List.findIdx_lt_length_of_exists ⟨task, htask, hawaits⟩
  have hfound := List.findIdx_getElem (w := hlt)
  rw [List.getElem?_eq_getElem hlt]
  generalize tasks[tasks.findIdx (Task.awaits id)] = found at hfound
  cases found with
  | moving result behavior waited =>
    obtain rfl : waited = id := of_decide_eq_true hfound
    exact ⟨result, behavior, rfl⟩
  | thinking | answered => cases hfound

end Tasks

/-! ### Steps of the server -/

/-- What the runtime raises is never answered with a result. -/
theorem failureAnswer_ne_ok {K : Type} (failure : RuntimeFailure) (result : InteractionResult)
    (execution : Option (SimulationExecutionReport K)) :
    failureAnswer failure ≠ .ok result execution := by
  intro hanswer
  cases failure <;> cases hanswer

theorem thinking_ne_answered (meaning : MeaningFrame) : Task.thinking meaning ≠ .answered := by
  intro heq
  cases heq

section ServerInv
variable {K : Type} [Field K] [LinearOrder K] [FloorRing K] [ToString K]

/-- What an answer says of an execution: there is none where no behavior was asked for, and a
report is one of the behavior that was, at whose goal the twin stands. -/
def Executed (m : RobotModel K) (twin : DigitalTwinRobot K) (result : InteractionResult) :
    Option (SimulationExecutionReport K) → Prop
  | none => result.behavior = none
  | some report => ∃ behavior, result.behavior = some behavior ∧
      Embodies m twin behavior.toBehaviorIntent report

/-- The calls that the tasks wait for are those that the runtime has not ended. -/
structure ApiInv (reader : Pydantic.Input JsonValue) (m : RobotModel K) (past : List (ApiEvent K))
    (s : ApiServer K) : Prop where
  runtime : ∃ record, CallsInv m record s.runtime
  tasks : TaskInv reader past s.tasks
  waiting : (s.tasks.filterMap Task.call).Perm s.runtime.executing
  answers : ∀ e ∈ past, ∀ index result execution,
    e.output = .answered index (.ok result execution) →
      OwnResult reader past index result ∧ Executed m e.after.runtime.twin result execution

variable {m : RobotModel K} {past : List (ApiEvent K)} {s next : ApiServer K} {e : ApiEvent K}

theorem ApiInv.advance (h : ApiInv reader m past s)
    (hruntime : ∃ record, CallsInv m record next.runtime)
    (htasks : TaskInv reader (past ++ [e]) next.tasks)
    (hwaiting : (next.tasks.filterMap Task.call).Perm next.runtime.executing)
    (hanswer : ∀ index result execution, e.output = .answered index (.ok result execution) →
      OwnResult reader (past ++ [e]) index result ∧
        Executed m e.after.runtime.twin result execution) :
    ApiInv reader m (past ++ [e]) next where
  runtime := hruntime
  tasks := htasks
  waiting := hwaiting
  answers := by
    intro other hother index result execution houtput
    obtain hold | hlast := List.mem_append.mp hother
    · obtain ⟨hown, hexecuted⟩ := h.answers other hold index result execution houtput
      exact ⟨hown.append e, hexecuted⟩
    · rw [List.mem_singleton.mp hlast] at houtput ⊢
      exact hanswer index result execution houtput

/-- A step that answers nothing. -/
theorem ApiInv.quiet (h : ApiInv reader m past s)
    (hruntime : ∃ record, CallsInv m record next.runtime)
    (hquiet : e.output.answeredIndex = none) (htasks : TaskInv reader (past ++ [e]) next.tasks)
    (hwaiting : (next.tasks.filterMap Task.call).Perm next.runtime.executing) :
    ApiInv reader m (past ++ [e]) next := by
  apply h.advance hruntime htasks hwaiting
  intro index result execution houtput
  rw [houtput] at hquiet
  cases hquiet

/-- A task that waits for the engine is answered. -/
theorem ApiInv.declines (h : ApiInv reader m past s) {index : ℕ} {meaning : MeaningFrame}
    (htask : s.tasks[index]? = some (.thinking meaning)) (answer : Answer K)
    (houtput : e.output = .answered index answer)
    (hanswer : ∀ result execution, answer = .ok result execution →
      OwnResult reader (past ++ [e]) index result ∧
        Executed m e.after.runtime.twin result execution) :
    ApiInv reader m (past ++ [e]) { s with tasks := s.tasks.set index .answered } := by
  have hwaits := thinking_ne_answered meaning
  have hanswered (other : ℕ) (hother : e.output.answeredIndex = some other) :
      other = index ∧ Task.answered = .answered := by
    rw [houtput] at hother
    exact ⟨(Option.some.inj hother).symm, rfl⟩
  have hcalls : ((s.tasks.set index .answered).filterMap Task.call).Perm
      (s.tasks.filterMap Task.call) := by
    simpa only [Task.call, Option.toList_none, List.append_nil] using calls_set htask .answered
  refine h.advance h.runtime (h.tasks.set htask hwaits .answered trivial hanswered)
    (hcalls.trans h.waiting) ?_
  intro other result execution hother
  obtain ⟨rfl, heq⟩ := ApiOutput.answered.inj (houtput.symm.trans hother)
  exact hanswer result execution heq

end ServerInv

section ServerSteps
variable {K : Type} [Field K] [LinearOrder K] [IsStrictOrderedRing K] [FloorRing K] [SquareRoot K]
  [Trigonometry K] [ToString K] {arm : ArmModel K} {stepS : K} {past : List (ApiEvent K)}
  {s : ApiServer K}

/-- A task that waits for the engine goes on to its call. -/
theorem ApiInv.moves (h : ApiInv reader arm.toRobotModel past s) (hclear : s.runtime.Unambiguous)
    {e : ApiEvent K} {index : ℕ} {meaning : MeaningFrame} {response : CharacterResponseV1}
    {behavior : Behavior.BehaviorIntent} (htask : s.tasks[index]? = some (.thinking meaning))
    (hquiet : e.output.answeredIndex = none)
    (hown : OwnResult reader (past ++ [e]) index ⟨meaning, response, some behavior⟩) :
    ApiInv reader arm.toRobotModel (past ++ [e])
      { runtime := (s.runtime.step (behaviorSurroundings arm stepS)
          (.call (.execute behavior.toBehaviorIntent))).1
        tasks := s.tasks.set index
          (.moving ⟨meaning, response, some behavior⟩ behavior s.runtime.nextId) } := by
  obtain ⟨record, hcalls⟩ := h.runtime
  have hstepped := (hcalls.step stepS hclear
    (.call (.execute behavior.toBehaviorIntent))).1
  have hset := calls_set htask
    (.moving ⟨meaning, response, some behavior⟩ behavior s.runtime.nextId)
  rw [show (Task.thinking meaning).call = none from rfl, Option.toList_none, List.append_nil]
    at hset
  refine h.quiet ⟨_, hstepped⟩ hquiet ?_ ?_
  · apply h.tasks.set htask (thinking_ne_answered meaning)
      (.moving ⟨meaning, response, some behavior⟩ behavior s.runtime.nextId) ⟨hown, rfl⟩
    intro other hother
    rw [hquiet] at hother
    cases hother
  · rw [s.runtime.executing_call]
    exact hset.trans (h.waiting.append_right _)

/-- Anything that happens to the runtime without ending an execution. -/
theorem ApiInv.runs (h : ApiInv reader arm.toRobotModel past s) (hclear : s.runtime.Unambiguous)
    {e : ApiEvent K} (hquiet : e.output.answeredIndex = none) (input : RuntimeInput)
    (hother : ∀ intent, input ≠ .call (.execute intent))
    (hends : ∀ id result,
      (s.runtime.step (behaviorSurroundings arm stepS) input).2 ≠ .executeDone id result) :
    ApiInv reader arm.toRobotModel (past ++ [e])
      { s with runtime := (s.runtime.step (behaviorSurroundings arm stepS) input).1 } := by
  obtain ⟨record, hcalls⟩ := h.runtime
  refine h.quiet ⟨_, (hcalls.step stepS hclear input).1⟩ hquiet (h.tasks.same hquiet) ?_
  have hexecuting : (s.runtime.step (behaviorSurroundings arm stepS) input).1.executing =
      s.runtime.executing := by
    by_cases hcall : ∃ kind, input = .call kind
    · obtain ⟨kind, rfl⟩ := hcall
      rw [s.runtime.executing_call]
      cases kind with
      | estop => exact List.append_nil _
      | execute intent => exact absurd rfl (hother intent)
    · have heffect := (s.runtime.step_effect (behaviorSurroundings arm stepS) input
        fun kind heq => hcall ⟨kind, heq⟩).1
      generalize (s.runtime.step (behaviorSurroundings arm stepS) input).2 = output
        at heffect hends
      generalize (s.runtime.step (behaviorSurroundings arm stepS) input).1.executing = after
        at heffect ⊢
      cases heffect with
      | kept => rfl
      | ended id intent rest result => exact absurd rfl (hends id result)
  rw [hexecuting]
  exact h.waiting

/-- An execution ends: the request that asked for it is answered. -/
theorem ApiInv.ends (h : ApiInv reader arm.toRobotModel past s) (hclear : s.runtime.Unambiguous)
    (input : RuntimeInput) {id : ℕ}
    {result : Except RuntimeFailure (SimulationExecutionReport K)}
    (hother : ∀ intent, input ≠ .call (.execute intent))
    (houtput : (s.runtime.step (behaviorSurroundings arm stepS) input).2 =
      .executeDone id result) :
    let answered := ApiServer.executed
      { s with runtime := (s.runtime.step (behaviorSurroundings arm stepS) input).1 } id result
    ApiInv reader arm.toRobotModel (past ++ [⟨s, .runtime input, answered.2, answered.1⟩])
      answered.1 := by
  obtain ⟨record, hcalls⟩ := h.runtime
  obtain ⟨hstepped, hembodies⟩ := hcalls.step stepS hclear input
  -- the output ends the first call of the runtime
  have hfirst : ∃ intent, s.runtime.executing = (id, intent) ::
      (s.runtime.step (behaviorSurroundings arm stepS) input).1.executing := by
    have hnocall : ∀ kind, input ≠ .call kind := by
      rintro kind rfl
      cases houtput
    have heffect := (s.runtime.step_effect (behaviorSurroundings arm stepS) input hnocall).1
    rw [houtput] at heffect
    generalize (s.runtime.step (behaviorSurroundings arm stepS) input).1.executing = after
      at heffect ⊢
    cases heffect with
    | kept _ hquiet => exact absurd rfl (hquiet id result)
    | ended _ intent _ _ hfirst => exact ⟨intent, hfirst⟩
  obtain ⟨intent, hfirst⟩ := hfirst
  have hwaits : (id, intent) ∈ s.tasks.filterMap Task.call := by
    rw [h.waiting.mem_iff, hfirst]
    exact List.mem_cons_self
  obtain ⟨interaction, behavior, htask⟩ := awaited_task hwaits
  -- the ids are different, so the task that is found asked for this behavior
  have hbehavior : behavior.toBehaviorIntent = intent := by
    have hfound : (id, behavior.toBehaviorIntent) ∈ s.runtime.executing := by
      rw [← h.waiting.mem_iff]
      exact List.mem_filterMap.mpr ⟨_, List.mem_of_getElem? htask, rfl⟩
    have hsame := List.inj_on_of_nodup_map hcalls.nodup hfound
      (h.waiting.mem_iff.mp hwaits) rfl
    exact congrArg Prod.snd hsame
  obtain ⟨hown, hasked⟩ := h.tasks.own _ _ htask
  -- the task no longer waits, and the runtime no longer executes: the same call goes on both sides
  have hperm : ((s.tasks.set (s.tasks.findIdx (Task.awaits id)) .answered).filterMap
      Task.call).Perm
      (s.runtime.step (behaviorSurroundings arm stepS) input).1.executing := by
    have hset := calls_set htask .answered
    rw [show (Task.moving interaction behavior id).call = some (id, intent) by
      rw [← hbehavior]; rfl, show Task.answered.call = none from rfl, Option.toList_none,
      List.append_nil] at hset
    have hcons := hset.trans (h.waiting.trans (List.Perm.of_eq hfirst))
    exact (List.perm_append_singleton _ _).symm.trans hcons |>.cons_inv
  have hwaiting : Task.moving interaction behavior id ≠ .answered := by
    intro heq
    cases heq
  dsimp only
  rw [ApiServer.executed_eq (s := { s with
    runtime := (s.runtime.step (behaviorSurroundings arm stepS) input).1 }) htask]
  refine h.advance ⟨_, hstepped⟩ (h.tasks.set htask hwaiting .answered trivial ?_) hperm ?_
  · intro other hother
    exact ⟨(Option.some.inj hother).symm, rfl⟩
  · intro index response execution hanswer
    obtain ⟨rfl, hresponse⟩ := ApiOutput.answered.inj hanswer
    cases result with
    | error failure => exact absurd hresponse (failureAnswer_ne_ok failure response execution)
    -- a report is of the call that is first, which is the one the task made
    | ok report =>
      obtain ⟨rfl, rfl⟩ := Answer.ok.inj hresponse
      refine ⟨hown.append _, behavior, hasked, ?_⟩
      rw [hbehavior]
      exact hembodies id intent report _ hfirst houtput

theorem ApiInv.step (h : ApiInv reader arm.toRobotModel past s) (hclear : s.runtime.Unambiguous)
    (input : ApiInput) :
    let stepped := s.step (behaviorSurroundings arm stepS) reader input
    ApiInv reader arm.toRobotModel (past ++ [⟨s, input, stepped.2, stepped.1⟩]) stepped.1 := by
  intro stepped
  have hserves := serves_step (behaviorSurroundings arm stepS) reader s input
  change Serves _ reader s input stepped at hserves
  generalize stepped = after at hserves ⊢
  cases hserves with
  | idle => exact h.quiet h.runtime rfl (h.tasks.same rfl) h.waiting
  | refuses request statusCode detail =>
    have harrived := h.tasks.arrive (e := ⟨s, .interact request,
      .answered s.tasks.length (.refused statusCode detail),
      { s with tasks := s.tasks ++ [.answered] }⟩) .answered trivial
      fun index hindex => ⟨(Option.some.inj hindex).symm, rfl⟩
    refine h.advance h.runtime harrived ?_ ?_
    · rw [filterMap_snoc]
      exact (List.Perm.of_eq (List.append_nil _)).trans h.waiting
    · intro index result execution hanswer
      obtain ⟨-, hresult⟩ := ApiOutput.answered.inj hanswer
      cases hresult
  | asks request voice meaning message hvoice hmeaning =>
    have hposted : Posted (past ++ [⟨s, .interact request, .asked s.tasks.length message,
        { s with tasks := s.tasks ++ [.thinking meaning] }⟩]) s.tasks.length meaning :=
      ⟨_, List.mem_append_right _ (List.mem_singleton_self _), request, voice, rfl, rfl, hvoice,
        hmeaning⟩
    refine h.quiet h.runtime rfl (h.tasks.arrive (.thinking meaning) hposted ?_) ?_
    · intro index hindex
      cases hindex
    · rw [filterMap_snoc]
      exact (List.Perm.of_eq (List.append_nil _)).trans h.waiting
  | declines index meaning reply statusCode detail htask =>
    apply h.declines htask (.refused statusCode detail) rfl
    intro result execution hanswer
    cases hanswer
  | rests index meaning reply response htask hreply hnone =>
    apply h.declines htask (.ok ⟨meaning, response, none⟩ none) rfl
    intro result execution hanswer
    obtain ⟨rfl, rfl⟩ := Answer.ok.inj hanswer
    have hposted : Posted past index meaning := h.tasks.own index _ htask
    refine ⟨⟨hposted.append _, ?_, hnone.symm⟩, rfl⟩
    exact ⟨_, List.mem_append_right _ (List.mem_singleton_self _), reply, rfl, hreply⟩
  | moves index meaning reply response behavior htask hreply hsome =>
    apply h.moves hclear htask rfl
    have hposted : Posted past index meaning := h.tasks.own index _ htask
    refine ⟨hposted.append _, ?_, hsome.symm⟩
    exact ⟨_, List.mem_append_right _ (List.mem_singleton_self _), reply, rfl, hreply⟩
  | runs input _ hother hquiet => exact h.runs hclear rfl input hother hquiet
  | ends input id _ result hother houtput => exact h.ends hclear input hother houtput

end ServerSteps

/-! ### Runs -/

theorem apiInv_new {K : Type} [Field K] [LinearOrder K] [FloorRing K] [ToString K]
    (reader : Pydantic.Input JsonValue) (m : RobotModel K) (supervisor : MotionSafetySupervisor K)
    (stepS : K) (h : 0 < stepS) :
    ApiInv reader m [] (.new (.fresh m supervisor stepS h)) where
  runtime := ⟨[], callsInv_fresh m supervisor stepS h⟩
  tasks := {
    own := by
      intro index task htask
      cases htask
    answered := fun _ he => absurd he List.not_mem_nil
    once := List.nodup_nil }
  waiting := List.Perm.refl _
  answers := fun _ he => absurd he List.not_mem_nil

section Runs
variable {K : Type} [Field K] [LinearOrder K] [IsStrictOrderedRing K] [FloorRing K] [SquareRoot K]
  [Trigonometry K] [ToString K]

omit [IsStrictOrderedRing K] [Trigonometry K] in
/-- A step of the server is at most one step of the runtime on its channel. -/
theorem channelInv_step {env : Surroundings K} (hfits : env.Fits)
    (reader : Pydantic.Input JsonValue) {s : ApiServer K} (h : ChannelInv s.runtime)
    (input : ApiInput) : ChannelInv (s.step env reader input).1.runtime := by
  have hserves := serves_step env reader s input
  generalize s.step env reader input = stepped at hserves ⊢
  cases hserves with
  | idle | refuses | asks | declines | rests => exact h
  | moves => exact h.step hfits (trivial : s.runtime.Permits (.call _))
  | runs input hpermits => exact h.step hfits hpermits
  | ends input id hpermits =>
    unfold ApiServer.executed
    dsimp only
    split
    · exact h.step hfits hpermits
    · exact h.step hfits hpermits
    · exact h.step hfits hpermits

/-- In every interleaving of requests, replies of the engine and steps of the runtime, a request is
answered at most once, the requests that wait for the runtime are those whose calls it has not
ended, and a request is answered with the frame of its own words, the response to that frame and
the execution that this response asked for. The page reads this answer, unless a text of the
response is blank to it. -/
theorem interactions_answered (arm : ArmModel K) (supervisor : MotionSafetySupervisor K) (stepS : K)
    (runtime : SimulationRuntime K)
    (hruntime : SimulationRuntime.new arm.toRobotModel supervisor stepS = .ok runtime)
    (reader : Pydantic.Input JsonValue) (inputs : List ApiInput) :
    let step := ApiServer.step (behaviorSurroundings arm stepS) reader
    let past := trace step (.new runtime) inputs
    let last := run step (.new runtime) inputs
    (past.filterMap fun e => e.output.answeredIndex).Nodup ∧
    (last.tasks.filterMap Task.call).Perm last.runtime.executing ∧
    ∀ e ∈ past, ∀ index result execution, e.output = .answered index (.ok result execution) →
      OwnResult reader past index result ∧
      Executed arm.toRobotModel e.after.runtime.twin result execution ∧
      ∀ number uuid view,
        Dashboard.readInteraction (serializeResult number uuid result execution) = .ok view ↔
          Dashboard.Legible result.characterResponse ∧
            view = ⟨.ofModel result.characterResponse, execution.isSome⟩ := by
  intro step past last
  unfold SimulationRuntime.new at hruntime
  split_ifs at hruntime with hstep
  obtain rfl := Except.ok.inj hruntime
  have hinv : ApiInv reader arm.toRobotModel past last ∧ ChannelInv last.runtime := by
    refine history_invariant (P := fun past s => ApiInv reader arm.toRobotModel past s ∧
      ChannelInv s.runtime) step _ ⟨apiInv_new reader _ _ _ hstep, channelInv_fresh _ _ _ hstep⟩
      ?_ inputs
    rintro past s input ⟨hapi, hchannel⟩
    exact ⟨hapi.step hchannel.unambiguous input,
      channelInv_step (behaviorSurroundings_fits arm stepS) reader hchannel input⟩
  obtain ⟨hapi, -⟩ := hinv
  refine ⟨hapi.tasks.once, hapi.waiting, ?_⟩
  intro e he index result execution houtput
  obtain ⟨hown, hexecuted⟩ := hapi.answers e he index result execution houtput
  exact ⟨hown, hexecuted, Dashboard.readInteraction_iff result execution⟩

end Runs

section Listening

def listeningRequest : SimulationInteractionRequest where
  timestampMs := 1000
  text := some "Listen to this"
  voiceText := none
  voiceConfidence := .finite 1
  gesture := none
  gestureConfidence := .finite 1
  timestamp_nonneg := by decide
  voice_unit := by decide
  gesture_unit := by decide

def listeningResponse : CharacterResponseV1 where
  interactionId := "listening-1"
  decisionId := "decision-2"
  speech := ⟨"I am listening.", .supportive, true, by decide⟩
  expression := ⟨"attentive", .subtle, by decide⟩
  motion := ⟨.listen, .expressive, .optional, by decide, by decide⟩
  persistenceDurable := true
  identifiers_nonempty := by decide

/-- A request, the reply of the engine and the requests to the device that follow. -/
def interactionInputs : List ApiInput :=
  [.interact listeningRequest, .engine 0 (.answers 200 (some (.object
    [("safe_to_publish", .bool true), ("character_response", listeningResponse.modelDump)])))] ++
    (listeningInputs.tail ++ [RuntimeInput.request .receive]).map .runtime

def interactionTrace (runtime : SimulationRuntime ℚ) : List (ApiEvent ℚ) :=
  trace (ApiServer.step (behaviorSurroundings listeningArm 1) Characters.jsonInput) (.new runtime)
    interactionInputs

def ApiOutput.ExecutesFirst : ApiOutput ℚ → Bool
  | .answered 0 (.ok _ (some _)) => true
  | _ => false

def listeningAnswers : Bool :=
  match buildSimulationSupervisor listeningArm with
  | .error _ => false
  | .ok supervisor =>
    match SimulationRuntime.new listeningArm.toRobotModel supervisor 1 with
    | .error _ => false
    | .ok runtime => (interactionTrace runtime).any fun e => e.output.ExecutesFirst

theorem listeningAnswers_eq : listeningAnswers = true := by decide +kernel

theorem exists_execution {output : ApiOutput ℚ} (h : output.ExecutesFirst = true) :
    ∃ result report, output = .answered 0 (.ok result (some report)) := by
  unfold ApiOutput.ExecutesFirst at h
  split at h
  · exact ⟨_, _, rfl⟩
  · cases h

theorem interactions_answered_listening : ∃ supervisor runtime, ∃ e ∈ interactionTrace runtime,
    ∃ result report, buildSimulationSupervisor listeningArm = .ok supervisor ∧
      SimulationRuntime.new listeningArm.toRobotModel supervisor 1 = .ok runtime ∧
      e.output = .answered 0 (.ok result (some report)) ∧
      OwnResult Characters.jsonInput (interactionTrace runtime) 0 result ∧
      Executed listeningArm.toRobotModel e.after.runtime.twin result (some report) := by
  have hanswers := listeningAnswers_eq
  unfold listeningAnswers at hanswers
  split at hanswers
  · cases hanswers
  · rename_i supervisor hsupervisor
    split at hanswers
    · cases hanswers
    · rename_i runtime hruntime
      obtain ⟨e, he, hexecutes⟩ := List.any_eq_true.mp hanswers
      obtain ⟨result, report, houtput⟩ := exists_execution hexecutes
      obtain ⟨-, -, hresults⟩ := interactions_answered listeningArm supervisor 1 runtime hruntime
        Characters.jsonInput interactionInputs
      obtain ⟨hown, hexecuted, -⟩ := hresults e he 0 result (some report) houtput
      exact ⟨supervisor, runtime, e, he, result, report, hsupervisor, hruntime, houtput, hown,
        hexecuted⟩

end Listening
end RoboticCharacter.Api
