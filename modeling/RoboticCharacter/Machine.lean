import Mathlib.Logic.Relation
import Mathlib.Data.Nat.Notation

/-! Deterministic machines that answer every input: runs, the record of a run,
and the two induction rules used on them (an invariant of every reachable state,
and a latch that only a release can open). -/
namespace Machine

variable {σ ι ο : Type*}

/-- One answered input, with the state before and after it. -/
structure Event (σ ι ο : Type*) where
  before : σ
  input : ι
  output : ο
  after : σ

def run (step : σ → ι → σ × ο) : σ → List ι → σ
  | s, [] => s
  | s, i :: rest => run step (step s i).1 rest

def trace (step : σ → ι → σ × ο) : σ → List ι → List (Event σ ι ο)
  | _, [] => []
  | s, i :: rest => ⟨s, i, (step s i).2, (step s i).1⟩ :: trace step (step s i).1 rest

variable (step : σ → ι → σ × ο)

@[simp]
theorem run_nil (s : σ) : run step s [] = s := rfl

@[simp]
theorem run_cons (s : σ) (i : ι) (rest : List ι) :
    run step s (i :: rest) = run step (step s i).1 rest := rfl

@[simp]
theorem trace_nil (s : σ) : trace step s [] = [] := rfl

@[simp]
theorem trace_cons (s : σ) (i : ι) (rest : List ι) :
    trace step s (i :: rest) =
      ⟨s, i, (step s i).2, (step s i).1⟩ :: trace step (step s i).1 rest := rfl

theorem run_append (s : σ) (is js : List ι) :
    run step s (is ++ js) = run step (run step s is) js := by
  induction is generalizing s with
  | nil => rfl
  | cons i is ih => simp only [List.cons_append, run_cons, ih]

theorem trace_append (s : σ) (is js : List ι) :
    trace step s (is ++ js) = trace step s is ++ trace step (run step s is) js := by
  induction is generalizing s with
  | nil => rfl
  | cons i is ih => simp only [List.cons_append, run_cons, trace_cons, ih]

/-- What every step preserves, a run preserves. -/
theorem run_invariant {P : σ → Prop} (hstep : ∀ s i, P s → P (step s i).1)
    (s : σ) (hs : P s) (is : List ι) : P (run step s is) := by
  induction is generalizing s with
  | nil => exact hs
  | cons i is ih => exact ih _ (hstep s i hs)

theorem trace_inputs (s : σ) (is : List ι) : (trace step s is).map Event.input = is := by
  induction is generalizing s with
  | nil => rfl
  | cons i is ih => simp only [trace_cons, List.map_cons, ih]

theorem trace_step (s : σ) (is : List ι) (e : Event σ ι ο) (he : e ∈ trace step s is) :
    step e.before e.input = (e.after, e.output) := by
  induction is generalizing s with
  | nil => simp only [trace_nil, List.not_mem_nil] at he
  | cons i is ih =>
    rcases List.mem_cons.mp he with rfl | hrest
    · rfl
    · exact ih _ hrest

theorem trace_invariant {P : σ → Prop} (hstep : ∀ s i, P s → P (step s i).1)
    (s : σ) (hs : P s) (is : List ι) (e : Event σ ι ο) (he : e ∈ trace step s is) :
    P e.before := by
  induction is generalizing s with
  | nil => simp only [trace_nil, List.not_mem_nil] at he
  | cons i is ih =>
    rcases List.mem_cons.mp he with rfl | hrest
    · exact hs
    · exact ih _ (hstep s i hs) hrest

/-- What every allowed step preserves holds all along a run whose steps are all allowed. -/
theorem trace_guarded {P : σ → Prop} (allowed : σ → ι → Prop)
    (hstep : ∀ s i, P s → allowed s i → P (step s i).1)
    (s : σ) (hs : P s) (is : List ι)
    (hall : ∀ e ∈ trace step s is, allowed e.before e.input)
    (e : Event σ ι ο) (he : e ∈ trace step s is) : P e.before := by
  induction is generalizing s with
  | nil => simp only [trace_nil, List.not_mem_nil] at he
  | cons i is ih =>
    have hi := hall _ (List.mem_cons_self ..)
    rcases List.mem_cons.mp he with rfl | hrest
    · exact hs
    · exact ih _ (hstep s i hs hi) (fun e he => hall e (List.mem_cons_of_mem _ he)) hrest

/-- A condition that only a releasing output can end holds until one is given. -/
theorem run_latched {P : σ → Prop} (release : ο → Prop)
    (hstep : ∀ s i, P s → ¬ release (step s i).2 → P (step s i).1)
    (s : σ) (hs : P s) (is : List ι)
    (hno : ∀ e ∈ trace step s is, ¬ release e.output) : P (run step s is) := by
  induction is generalizing s with
  | nil => exact hs
  | cons i is ih =>
    have hi := hno _ (List.mem_cons_self ..)
    exact ih _ (hstep s i hs hi) (fun e he => hno e (List.mem_cons_of_mem _ he))

theorem trace_latched {P : σ → Prop} (release : ο → Prop)
    (hstep : ∀ s i, P s → ¬ release (step s i).2 → P (step s i).1)
    (s : σ) (hs : P s) (is : List ι)
    (hno : ∀ e ∈ trace step s is, ¬ release e.output)
    (e : Event σ ι ο) (he : e ∈ trace step s is) : P e.before := by
  refine trace_guarded step (fun s i => ¬ release (step s i).2) hstep s hs is ?_ e he
  intro e he
  have hstep := trace_step step s is e he
  rw [hstep]
  exact hno e he

section Rank
variable {P : σ → Prop} (rank : σ → ℕ) (counted : Event σ ι ο → Bool)
  (goal : Event σ ι ο → Prop) (hkeeps : ∀ s i, P s → P (step s i).1)
  (hrank : ∀ e : Event σ ι ο, P e.before → step e.before e.input = (e.after, e.output) →
    ¬ goal e → rank e.after+(if counted e then 1 else 0) ≤ rank e.before)
include hkeeps hrank

/-- Until its goal is met, a run makes no more counted steps than its rank falls by. -/
theorem run_ranked (s : σ) (hs : P s) (is : List ι) (hno : ∀ e ∈ trace step s is, ¬ goal e) :
    rank (run step s is)+(trace step s is).countP counted ≤ rank s := by
  induction is generalizing s with
  | nil => exact Nat.le_refl _
  | cons i is ih =>
    have hfirst := hrank ⟨s, i, (step s i).2, (step s i).1⟩ hs rfl (hno _ (List.mem_cons_self ..))
    have hrest := ih _ (hkeeps s i hs) (fun e he => hno e (List.mem_cons_of_mem _ he))
    dsimp only at hfirst
    rw [run_cons, trace_cons, List.countP_cons]
    omega

/-- With as many counted steps as its rank, which stays positive, a run meets its goal. -/
theorem goal_of_ranked (hpos : ∀ s, P s → 0 < rank s) (s : σ) (hs : P s) (is : List ι)
    (h : rank s ≤ (trace step s is).countP counted) :
    ∃ e ∈ trace step s is, goal e := by
  apply Classical.byContradiction
  intro hnone
  have hno : ∀ e ∈ trace step s is, ¬ goal e := fun e he hgoal => hnone ⟨e, he, hgoal⟩
  have hfall := run_ranked step rank counted goal hkeeps hrank s hs is hno
  have hend := hpos _ (run_invariant step hkeeps s hs is)
  omega

end Rank

/-- The states of a run, the first one included. -/
def states (s : σ) (is : List ι) : List σ := s :: (trace step s is).map Event.after

theorem states_cons (s : σ) (i : ι) (rest : List ι) :
    states step s (i :: rest) = s :: states step (step s i).1 rest := rfl

/-- What every allowed step preserves holds in every state of a run of allowed steps. -/
theorem states_guarded {P : σ → Prop} (allowed : σ → ι → Prop)
    (hstep : ∀ s i, P s → allowed s i → P (step s i).1)
    (s : σ) (hs : P s) (is : List ι)
    (hall : ∀ e ∈ trace step s is, allowed e.before e.input) :
    ∀ t ∈ states step s is, P t := by
  induction is generalizing s with
  | nil =>
    intro t ht
    rw [List.mem_singleton.mp ht]
    exact hs
  | cons i is ih =>
    have hi := hall _ (List.mem_cons_self ..)
    rw [states_cons]
    intro t ht
    rcases List.mem_cons.mp ht with rfl | hrest
    · exact hs
    · exact ih _ (hstep s i hs hi) (fun e he => hall e (List.mem_cons_of_mem _ he)) t hrest

theorem states_invariant {P : σ → Prop} (hstep : ∀ s i, P s → P (step s i).1)
    (s : σ) (hs : P s) (is : List ι) : ∀ t ∈ states step s is, P t := by
  apply states_guarded step (fun _ _ => True) (fun s i h _ => hstep s i h) s hs is
  exact fun _ _ => trivial

theorem run_mem_states (s : σ) (is : List ι) : run step s is ∈ states step s is := by
  induction is generalizing s with
  | nil => exact List.mem_singleton_self s
  | cons i is ih => exact List.mem_cons_of_mem _ (ih _)

theorem after_mem_states (s : σ) (is : List ι) (e : Event σ ι ο) (he : e ∈ trace step s is) :
    e.after ∈ states step s is :=
  List.mem_cons_of_mem _ (List.mem_map_of_mem he)

theorem states_latched {P : σ → Prop} (release : ο → Prop)
    (hstep : ∀ s i, P s → ¬ release (step s i).2 → P (step s i).1)
    (s : σ) (hs : P s) (is : List ι)
    (hno : ∀ e ∈ trace step s is, ¬ release e.output) : ∀ t ∈ states step s is, P t := by
  apply states_guarded step (fun s i => ¬ release (step s i).2) hstep s hs is
  intro e he
  -- the record of a step holds what the step answered
  rw [trace_step step s is e he]
  exact hno e he

section Version
variable {β : Type*} (view : σ → β) (version : β → ℕ)
  (hstep : ∀ s i, view (step s i).1 = view s ∨ version (view (step s i).1) = version (view s) + 1)
include hstep

/-- A view that changes only with its version number is unchanged or later. -/
theorem states_later (s : σ) (is : List ι) :
    ∀ t ∈ states step s is, view t = view s ∨ version (view s) < version (view t) := by
  induction is generalizing s with
  | nil =>
    intro t ht
    rw [List.mem_singleton.mp ht]
    exact .inl rfl
  | cons i is ih =>
    rw [states_cons]
    intro t ht
    rcases List.mem_cons.mp ht with rfl | hrest
    · exact .inl rfl
    · have ht := ih _ t hrest
      rcases hstep s i with hsame | hnext
      · rwa [hsame] at ht
      · rw [hnext] at ht
        rcases ht with heq | hlt
        · right
          rw [heq, hnext]
          omega
        · right
          omega

theorem states_version_inj (s : σ) (is : List ι) :
    ∀ t ∈ states step s is, ∀ u ∈ states step s is,
      version (view t) = version (view u) → view t = view u := by
  induction is generalizing s with
  | nil =>
    intro t ht u hu _
    rw [List.mem_singleton.mp ht, List.mem_singleton.mp hu]
  | cons i is ih =>
    intro t ht u hu heq
    have hlt := states_later step view version hstep s (i :: is)
    rw [states_cons] at ht hu
    -- a state with the first one's version is not later, so it has the first one's view
    rcases List.mem_cons.mp ht with rfl | ht'
    · rcases hlt u (by rw [states_cons]; exact hu) with h | h
      · exact h.symm
      · omega
    · rcases List.mem_cons.mp hu with rfl | hu'
      · rcases hlt t (by rw [states_cons]; exact ht) with h | h
        · exact h
        · omega
      · exact ih _ t ht' u hu' heq

end Version

end Machine
