import Mathlib.Data.List.Chain
import RoboticCharacter.SafetyModels

/-! The canonical legal system-state transition table, and what a path through it passes. -/
namespace RoboticCharacter.StateManagement
open Safety (SystemState)

def legalTransitions : SystemState → List SystemState
  | .boot => [.selfTest, .fault, .estop, .shutdown]
  | .selfTest => [.calibrating, .degraded, .fault, .estop, .shutdown]
  | .calibrating => [.idle, .degraded, .fault, .estop, .shutdown]
  | .idle => [.armed, .calibrating, .degraded, .fault, .estop, .shutdown]
  | .armed => [.executing, .idle, .degraded, .fault, .estop, .shutdown]
  | .executing => [.armed, .degraded, .fault, .estop, .shutdown]
  | .degraded => [.selfTest, .idle, .fault, .estop, .shutdown]
  | .fault => [.selfTest, .estop, .shutdown]
  | .estop => [.selfTest, .shutdown]
  | .shutdown => []

def allowedTargets (state : SystemState) : List SystemState := legalTransitions state

def canTransition (current target : SystemState) : Bool :=
  decide (target ∈ legalTransitions current)

/-- The message of `InvalidStateTransition`, or nothing to object to. -/
def validateTransition (current target : SystemState) : Except String Unit :=
  if canTransition current target then .ok ()
  else .error ("illegal system transition: " ++ current.value ++ " -> " ++ target.value)

theorem validateTransition_eq_ok_iff (current target : SystemState) :
    validateTransition current target = .ok () ↔ canTransition current target = true := by
  dsimp only [validateTransition]
  split_ifs with h
  · simp only [h]
  · simp only [reduceCtorEq, h]

theorem shutdown_final (target : SystemState) : canTransition .shutdown target = false := by
  cases target <;> rfl

/-- The states a recovery has passed, in order, when it reaches a state. -/
def recoveryStages : SystemState → List SystemState
  | .selfTest | .calibrating | .degraded => [.selfTest]
  | .idle => [.selfTest, .idle]
  | .armed | .executing => [.selfTest, .idle, .armed]
  | .boot | .fault | .estop | .shutdown => []

theorem recoveryStages_step (current target : SystemState)
    (h : canTransition current target = true) :
    (recoveryStages target).Sublist (recoveryStages current ++ [target]) := by
  cases current <;> cases target <;> first | exact absurd h (by decide) | decide

def LegalPath (path : List SystemState) : Prop :=
  path.IsChain (fun current target => canTransition current target = true)

theorem recoveryStages_path (stop : SystemState) (hstop : recoveryStages stop = [])
    (mid : List SystemState) (state : SystemState) (h : LegalPath (stop :: (mid ++ [state]))) :
    (recoveryStages state).Sublist (mid ++ [state]) := by
  induction mid using List.reverseRecOn generalizing state with
  | nil =>
    have hstep : canTransition stop state = true := by simpa [LegalPath] using h
    simpa only [hstop, List.nil_append] using recoveryStages_step stop state hstep
  | append_singleton mid last ih =>
    have hsplit : stop :: (mid ++ [last] ++ [state]) = (stop :: mid) ++ last :: state :: [] := by
      simp only [List.append_assoc, List.cons_append, List.nil_append]
    rw [LegalPath, hsplit, List.isChain_append_cons_cons] at h
    obtain ⟨hfront, hstep, _⟩ := h
    exact (recoveryStages_step last state hstep).trans ((ih last hfront).append_right [state])

/-- Execution after a stop comes by way of self-test, idle and armed, in that order. -/
theorem execution_recovered (path before mid later : List SystemState) (stop : SystemState)
    (h : LegalPath path) (hsplit : path = before ++ stop :: (mid ++ .executing :: later))
    (hstop : stop = .estop ∨ stop = .fault) :
    ([.selfTest, .idle, .armed] : List SystemState).Sublist mid := by
  have hstages : recoveryStages stop = [] := by rcases hstop with rfl | rfl <;> rfl
  have hpart : LegalPath (stop :: (mid ++ [.executing])) := by
    apply List.IsChain.infix h
    exact ⟨before, later, by rw [hsplit]; simp⟩
  have hpassed := recoveryStages_path stop hstages mid .executing hpart
  -- the last stage is the armed state, so execution itself is none of the three
  rw [List.sublist_append_iff] at hpassed
  obtain ⟨front, back, happend, hfront, hback⟩ := hpassed
  cases hback with
  | cons _ hnil =>
    rw [List.sublist_nil.mp hnil, List.append_nil] at happend
    rw [← happend] at hfront
    exact hfront
  | cons_cons _ hnil =>
    rw [List.sublist_nil.mp hnil] at happend
    have hlast := congrArg List.getLast? happend
    simp [recoveryStages] at hlast

end RoboticCharacter.StateManagement
