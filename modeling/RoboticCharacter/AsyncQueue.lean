import Mathlib.Data.List.Sort

/-! A bounded priority queue with the bookkeeping of unfinished tasks, and tasks that are
kept in a list and change one at a time, as cooperative code sees them between suspensions. -/
namespace AsyncQueue

structure PriorityQueue (α : Type*) where
  maxsize : ℕ
  items : List α := []
  unfinished : ℕ := 0
  deriving DecidableEq, Repr

namespace PriorityQueue
variable {α : Type*} (before : α → α → Prop) [DecidableRel before]

def full (queue : PriorityQueue α) : Bool :=
  decide (0 < queue.maxsize) && decide (queue.maxsize ≤ queue.items.length)

/-- `put_nowait` on a queue that is not full; the items stay in the order of their rank. -/
def put (queue : PriorityQueue α) (x : α) : PriorityQueue α :=
  { queue with items := queue.items.orderedInsert before x, unfinished := queue.unfinished+1 }

def getNowait (queue : PriorityQueue α) : Option (α × PriorityQueue α) :=
  match queue.items with
  | [] => none
  | x :: rest => some (x, { queue with items := rest })

def taskDone (queue : PriorityQueue α) : PriorityQueue α :=
  { queue with unfinished := queue.unfinished-1 }

@[simp]
theorem put_unfinished (queue : PriorityQueue α) (x : α) :
    (queue.put before x).unfinished = queue.unfinished+1 := rfl

theorem put_items_perm (queue : PriorityQueue α) (x : α) :
    (queue.put before x).items.Perm (x :: queue.items) :=
  List.perm_orderedInsert before x queue.items

theorem getNowait_eq_some (queue rest : PriorityQueue α) (x : α)
    (h : queue.getNowait = some (x, rest)) :
    queue.items = x :: rest.items ∧ rest.unfinished = queue.unfinished := by
  unfold getNowait at h
  cases hitems : queue.items with
  | nil => simp only [hitems, reduceCtorEq] at h
  | cons first others =>
    simp only [hitems, Option.some.injEq, Prod.mk.injEq] at h
    obtain ⟨rfl, rfl⟩ := h
    exact ⟨rfl, rfl⟩

end PriorityQueue

section Tasks
variable {α β : Type*}

/-- The task at an index, with those before and after it, and what becomes of the list when
that one changes. -/
theorem exists_split_of_getElem? (tasks : List α) (index : ℕ) (x : α)
    (h : tasks[index]? = some x) :
    ∃ front back, tasks = front ++ x :: back ∧ ∀ y, tasks.set index y = front ++ y :: back := by
  induction tasks generalizing index with
  | nil => simp only [List.getElem?_nil, reduceCtorEq] at h
  | cons first rest ih =>
    cases index with
    | zero =>
      rw [List.getElem?_cons_zero, Option.some.injEq] at h
      exact ⟨[], rest, by rw [h]; rfl, fun y => rfl⟩
    | succ index =>
      rw [List.getElem?_cons_succ] at h
      obtain ⟨front, back, hsplit, hset⟩ := ih index h
      refine ⟨first :: front, back, by rw [hsplit]; rfl, fun y => ?_⟩
      rw [List.set_cons_succ, hset, List.cons_append]

end Tasks

end AsyncQueue
