import Mathlib.Data.List.Induction
import Mathlib.Data.List.Nodup
import RoboticCharacter.FirmwareLatch

/-! The motion-command identity memory over whole runs. The runtime remembers one
UUID, the last it deferred; a run remembers them all. -/
namespace RoboticCharacter.Firmware
open RobotRuntime

/-- The command UUID of a call that deferred its motion command. -/
def deferredId (e : Machine.Event RobotRuntime Operation Outcome) : Option Bytes :=
  match e.input with
  | .handleFrame data _ =>
    if e.output = .dispatched .kMotionDeferred then
      (parseFrame data).map (fun frame => motionCommandId frame.payload)
    else none
  | _ => none

def deferredIds (timeout : UInt32) (ops : List Operation) : List Bytes :=
  (Machine.trace step (.new timeout) ops).filterMap deferredId

/-- A call brings a motion command as far as the identity check. -/
def ReachesIdentityCheck (rt : RobotRuntime) (op : Operation) (id : Bytes) : Prop :=
  ∃ data nowMs frame, op = .handleFrame data nowMs ∧ parseFrame data = some frame ∧
    rt.refusesSequence frame = false ∧ (rt.acceptSequence frame).MotionReaches frame nowMs ∧
    id = motionCommandId frame.payload

/-- The memory agrees with the run: it holds the UUID of the last deferred command. -/
structure Remembers (rt : RobotRuntime) (ids : List Bytes) : Prop where
  seen_iff : rt.motionCommandSeen = true ↔ ids ≠ []
  last_eq : ∀ id, ids.getLast? = some id → rt.lastMotionCommandId = id

theorem deferredIds_append_one (timeout : UInt32) (ops : List Operation) (op : Operation) :
    deferredIds timeout (ops ++ [op]) = deferredIds timeout ops ++
      (deferredId ⟨run timeout ops, op, (step (run timeout ops) op).2,
        (step (run timeout ops) op).1⟩).toList := by
  simp only [deferredIds, Machine.trace_append, List.filterMap_append, Machine.trace_cons,
    Machine.trace_nil, List.filterMap_cons, List.filterMap_nil, run]
  split <;> simp_all

theorem run_append_one (timeout : UInt32) (ops : List Operation) (op : Operation) :
    run timeout (ops ++ [op]) = (step (run timeout ops) op).1 := by
  rw [run, Machine.run_append]
  rfl

/-- What one call does to the identity memory: it defers a command that is not the
remembered one and remembers it, or it defers nothing and keeps the memory. -/
inductive IdentityStep (rt : RobotRuntime) (op : Operation) : Prop
  | deferred (id : Bytes) (reaches : ReachesIdentityCheck rt op id)
      (new : rt.motionCommandSeen = true → rt.lastMotionCommandId ≠ id)
      (recorded : deferredId ⟨rt, op, (step rt op).2, (step rt op).1⟩ = some id)
      (seen : (step rt op).1.motionCommandSeen = true)
      (last : (step rt op).1.lastMotionCommandId = id)
  | kept (repeats : ∀ id, ReachesIdentityCheck rt op id →
        rt.motionCommandSeen = true ∧ rt.lastMotionCommandId = id)
      (recorded : deferredId ⟨rt, op, (step rt op).2, (step rt op).1⟩ = none)
      (seen : (step rt op).1.motionCommandSeen = rt.motionCommandSeen)
      (last : (step rt op).1.lastMotionCommandId = rt.lastMotionCommandId)

theorem handleFrame_identity (rt : RobotRuntime) (data : Bytes) (nowMs : UInt32) :
    IdentityStep rt (.handleFrame data nowMs) := by
  by_cases hd : (rt.handleFrame data nowMs).2 = .kMotionDeferred
  · obtain ⟨frame, hp, hs, hr, hid, hafter⟩ := handleFrame_deferred rt data nowMs hd
    refine .deferred (motionCommandId frame.payload) ⟨data, nowMs, frame, rfl, hp, hs, hr, rfl⟩
      ?_ ?_ ?_ ?_
    · simpa [motionCommandWasAccepted] using hid
    · simp only [deferredId, step, hd, ↓reduceIte, hp, Option.map_some]
    · simp only [step, hafter, rememberMotionCommand]
    · simp only [step, hafter, rememberMotionCommand]
  · have hkept : (rt.handleFrame data nowMs).1.motionCommandSeen = rt.motionCommandSeen ∧
        (rt.handleFrame data nowMs).1.lastMotionCommandId = rt.lastMotionCommandId := by
      have hh := rt.handled data nowMs
      generalize (rt.handleFrame data nowMs).1 = after,
        (rt.handleFrame data nowMs).2 = result at hh hd ⊢
      cases hh with
      | motionDeferred => exact absurd rfl hd
      | _ => simp
    refine .kept ?_ ?_ hkept.1 hkept.2
    · -- a command that is new at the identity check would have been deferred
      intro id hreach
      obtain ⟨data', nowMs', frame, hop, hp, hs, hr, rfl⟩ := hreach
      cases hop
      by_contra hnew
      apply hd
      apply (handleFrame_deferred_iff rt data nowMs).mpr
      refine ⟨frame, hp, hs, hr, ?_⟩
      simpa [motionCommandWasAccepted] using hnew
    · simp only [deferredId, step, Outcome.dispatched.injEq, hd, ↓reduceIte]

theorem step_identity (rt : RobotRuntime) (op : Operation) : IdentityStep rt op := by
  -- only a frame reaches the identity check
  have hframe : ∀ id, ReachesIdentityCheck rt op id →
      ∃ data nowMs, op = .handleFrame data nowMs := by
    intro id hreach
    obtain ⟨data, nowMs, _, hop, _⟩ := hreach
    exact ⟨data, nowMs, hop⟩
  cases op with
  | handleFrame data nowMs => exact handleFrame_identity rt data nowMs
  | tick nowMs =>
    refine .kept ?_ rfl (by simp [step]) (by simp [step])
    intro id hreach
    obtain ⟨_, _, hop⟩ := hframe id hreach
    cases hop
  | observePhysicalEstop active =>
    refine .kept ?_ rfl ?_ ?_
    · intro id hreach
      obtain ⟨_, _, hop⟩ := hframe id hreach
      cases hop
    all_goals cases active <;> simp [step, observePhysicalEstop]
  | manualReset nowMs =>
    refine .kept ?_ rfl ?_ ?_
    · intro id hreach
      obtain ⟨_, _, hop⟩ := hframe id hreach
      cases hop
    all_goals
      simp only [step, manualReset]
      split_ifs <;> simp

theorem remembers_run (timeout : UInt32) (ops : List Operation) :
    Remembers (run timeout ops) (deferredIds timeout ops) := by
  induction ops using List.reverseRecOn with
  | nil => exact ⟨by simp [run, deferredIds, RobotRuntime.new], nofun⟩
  | append_singleton ops op ih =>
    rw [run_append_one, deferredIds_append_one]
    cases step_identity (run timeout ops) op with
    | deferred id reaches new recorded seen last =>
      rw [recorded, Option.toList_some]
      refine ⟨by simp [seen], ?_⟩
      intro id' hlast
      rw [List.getLast?_append_of_ne_nil _ (by simp), List.getLast?_singleton] at hlast
      rw [last, Option.some.inj hlast]
    | kept repeats recorded seen last =>
      rw [recorded, Option.toList_none, List.append_nil]
      refine ⟨by rw [seen, ih.seen_iff], ?_⟩
      intro id hlast
      rw [last, ih.last_eq id hlast]

def DeferredAtMostOnce (timeout : UInt32) (ops : List Operation) : Prop :=
  (deferredIds timeout ops).Nodup

/-- A command that reaches the identity check either was never deferred in the run or
is the one deferred last. -/
def RepeatsOnlyLast (timeout : UInt32) (before : List Operation) (op : Operation) : Prop :=
  ∀ id, ReachesIdentityCheck (run timeout before) op id →
    id ∈ deferredIds timeout before → (deferredIds timeout before).getLast? = some id

/-- One call keeps the run free of double deferrals exactly when it repeats only the
last command. -/
theorem deferredAtMostOnce_append_one (timeout : UInt32) (before : List Operation)
    (op : Operation) (h : DeferredAtMostOnce timeout before) :
    DeferredAtMostOnce timeout (before ++ [op]) ↔ RepeatsOnlyLast timeout before op := by
  have hmem := remembers_run timeout before
  rw [DeferredAtMostOnce, deferredIds_append_one]
  cases step_identity (run timeout before) op with
  | deferred id hreach hnew recorded =>
    rw [recorded, Option.toList_some, List.nodup_append]
    constructor
    · -- the command is the one just deferred, so it was not deferred before
      intro hnodup id' hreach' hin
      obtain ⟨data, nowMs, frame, rfl, hp, _, _, rfl⟩ := hreach
      obtain ⟨data', nowMs', frame', hop, hp', _, _, rfl⟩ := hreach'
      cases hop
      cases hp.symm.trans hp'
      exact absurd rfl (hnodup.2.2 _ hin _ (List.mem_singleton_self _))
    · -- a command deferred before is the remembered one, which the check refuses
      intro hrepeat
      refine ⟨h, List.nodup_singleton id, ?_⟩
      intro a ha b hb hab
      rw [List.mem_singleton] at hb
      subst hab hb
      have hlast := hmem.last_eq a (hrepeat a hreach ha)
      exact hnew (hmem.seen_iff.mpr (List.ne_nil_of_mem ha)) hlast
  | kept repeats recorded =>
    rw [recorded, Option.toList_none, List.append_nil]
    -- nothing was deferred; what reached the check and was refused is the last command
    refine iff_of_true h ?_
    intro id hreach hin
    obtain ⟨_, hlast⟩ := repeats id hreach
    obtain ⟨last, hl⟩ : ∃ last, (deferredIds timeout before).getLast? = some last :=
      Option.isSome_iff_exists.mp (List.getLast?_isSome.mpr (List.ne_nil_of_mem hin))
    rw [hl, ← hmem.last_eq last hl, hlast]

theorem DeferredAtMostOnce.of_append (timeout : UInt32) (before after : List Operation)
    (h : DeferredAtMostOnce timeout (before ++ after)) : DeferredAtMostOnce timeout before := by
  rw [DeferredAtMostOnce, deferredIds, Machine.trace_append, List.filterMap_append] at h
  exact (List.nodup_append.mp h).1

/-- The identity memory over whole runs: no command is deferred twice exactly when
every command that reaches the identity check is new or repeats the last one. -/
theorem deferred_once_iff_repeats_only_last (timeout : UInt32) (ops : List Operation) :
    DeferredAtMostOnce timeout ops ↔
      ∀ before op after, ops = before ++ op :: after → RepeatsOnlyLast timeout before op := by
  constructor
  · intro h before op after hsplit
    subst hsplit
    have hearlier : DeferredAtMostOnce timeout (before ++ [op]) := by
      refine DeferredAtMostOnce.of_append timeout _ after ?_
      rwa [List.append_assoc, List.singleton_append]
    have hbefore := DeferredAtMostOnce.of_append timeout before [op] hearlier
    exact (deferredAtMostOnce_append_one timeout before op hbefore).mp hearlier
  · intro h
    induction ops using List.reverseRecOn with
    | nil => exact List.nodup_nil
    | append_singleton ops op ih =>
      have hops : DeferredAtMostOnce timeout ops := by
        refine ih ?_
        intro before op' after hsplit
        refine h before op' (after ++ [op]) ?_
        rw [hsplit, List.append_assoc, List.cons_append]
      exact (deferredAtMostOnce_append_one timeout ops op hops).mpr (h ops op [] rfl)

/-- One heartbeat, then the commands A, B and A again, each on a fresh sequence number. -/
def alternatingOps : List Operation :=
  [.handleFrame (contractFrame .heartbeat 1 []) 100,
   .handleFrame (contractFrame .validatedMotionCommand 2 (contractMotionPayload 7)) 110,
   .handleFrame (contractFrame .validatedMotionCommand 3 (contractMotionPayload 8)) 120,
   .handleFrame (contractFrame .validatedMotionCommand 4 (contractMotionPayload 7)) 130]

theorem alternating_command_deferred_twice : ¬ DeferredAtMostOnce 500 alternatingOps := by
  have hids : deferredIds 500 alternatingOps =
      [motionCommandId (contractMotionPayload 7), motionCommandId (contractMotionPayload 8),
        motionCommandId (contractMotionPayload 7)] := by decide +kernel
  rw [DeferredAtMostOnce, hids]
  decide

end RoboticCharacter.Firmware
