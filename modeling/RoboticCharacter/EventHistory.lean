import Mathlib.Data.List.Induction
import RoboticCharacter.Machine

/-! The record of a run as a property of its past: an invariant that ties the state to
everything recorded so far, and events that wait for a later answer. -/
namespace Machine

variable {σ ι ο : Type*} (step : σ → ι → σ × ο)

/-- What every further event preserves, of the record and of the state it leads to,
holds at the end of a run. -/
theorem history_invariant {P : List (Event σ ι ο) → σ → Prop} (s : σ) (hs : P [] s)
    (hstep : ∀ past t i, P past t →
      P (past ++ [⟨t, i, (step t i).2, (step t i).1⟩]) (step t i).1)
    (is : List ι) : P (trace step s is) (run step s is) := by
  induction is using List.reverseRecOn with
  | nil => exact hs
  | append_singleton is i ih =>
    rw [trace_append, run_append]
    exact hstep _ _ i ih

theorem filterMap_snoc {α β : Type*} (f : α → Option β) (past : List α) (a : α) :
    (past ++ [a]).filterMap f = past.filterMap f ++ (f a).toList := by
  rw [List.filterMap_append]
  cases h : f a with
  | none => simp only [List.filterMap_cons, h, List.filterMap_nil, Option.toList_none]
  | some b => simp only [List.filterMap_cons, h, List.filterMap_nil, Option.toList_some]

/-- A record is cut where its inputs are. -/
theorem trace_split (s : σ) (is : List ι) (past later : List (Event σ ι ο)) (e : Event σ ι ο)
    (h : trace step s is = past ++ e :: later) :
    past = trace step s (past.map Event.input) ∧
      e.before = run step s (past.map Event.input) := by
  induction past generalizing s is with
  | nil =>
    cases is with
    | nil => simp only [trace_nil, List.nil_append, reduceCtorEq] at h
    | cons i is =>
      rw [trace_cons, List.nil_append] at h
      rw [← (List.cons.inj h).1]
      exact ⟨rfl, rfl⟩
  | cons first past ih =>
    cases is with
    | nil => simp only [trace_nil, List.cons_append, reduceCtorEq] at h
    | cons i is =>
      rw [trace_cons, List.cons_append] at h
      obtain ⟨hfirst, hrest⟩ := List.cons.inj h
      have hcut := ih _ _ hrest
      rw [← hfirst]
      rw [List.map_cons, trace_cons, run_cons]
      exact ⟨congrArg _ hcut.1, hcut.2⟩

theorem trace_rest (s : σ) (is : List ι) (past later : List (Event σ ι ο)) (e : Event σ ι ο)
    (h : trace step s is = past ++ e :: later) :
    later = trace step e.after (later.map Event.input) := by
  have hcut := trace_split step s is past later e h
  have hstep := trace_step step s is e (h ▸ List.mem_append_right _ (List.mem_cons_self ..))
  have hinputs := trace_inputs step s is
  rw [h, List.map_append, List.map_cons] at hinputs
  rw [← hinputs, trace_append, ← hcut.1, trace_cons, ← hcut.2] at h
  have hrest := (List.cons.inj (List.append_cancel_left h)).2
  rw [hstep] at hrest
  exact hrest.symm

theorem trace_from (s : σ) (is : List ι) (past later : List (Event σ ι ο)) (e : Event σ ι ο)
    (h : trace step s is = past ++ e :: later) :
    e :: later = trace step e.before (e.input :: later.map Event.input) := by
  have hstep := trace_step step s is e (h ▸ List.mem_append_right _ List.mem_cons_self)
  rw [trace_cons, hstep]
  exact congrArg (e :: ·) (trace_rest step s is past later e h)

/-- Where every step of a system makes one step of a part of it or none, the part's steps make a
run of the part. -/
theorem trace_projects {σ' ι' ο' : Type*} (part : σ → σ') (partStep : σ' → ι' → σ' × ο')
    (performed : ο → Option (ι' × ο'))
    (hstep : ∀ s i, (performed (step s i).2 = none ∧ part (step s i).1 = part s) ∨
      ∃ made, performed (step s i).2 = some (made, (partStep (part s) made).2) ∧
        part (step s i).1 = (partStep (part s) made).1)
    (s : σ) (is : List ι) :
    ∃ made, trace partStep (part s) made = (trace step s is).filterMap (fun e =>
        (performed e.output).map fun p => ⟨part e.before, p.1, p.2, part e.after⟩) ∧
      run partStep (part s) made = part (run step s is) := by
  induction is generalizing s with
  | nil => exact ⟨[], rfl, rfl⟩
  | cons i is ih =>
    obtain ⟨rest, htrace, hrun⟩ := ih (step s i).1
    rcases hstep s i with ⟨hnone, hsame⟩ | ⟨made, hsome, hafter⟩
    · refine ⟨rest, ?_, ?_⟩
      · rw [trace_cons, List.filterMap_cons, ← htrace, hsame]
        dsimp only
        rw [hnone]
        rfl
      · rw [run_cons, ← hrun, hsame]
    · refine ⟨made :: rest, ?_, ?_⟩
      · rw [trace_cons, trace_cons, List.filterMap_cons, ← htrace, hafter]
        dsimp only
        rw [hsome]
        rfl
      · rw [run_cons, run_cons, ← hrun, hafter]

section Queue
variable {α : Type*} (contents : σ → List α) (taken given : ο → List α)

/-- A queue whose every step puts what it takes at the end and gives what it has at the front:
over a run, what was given and what is left are what was there and what was taken. -/
theorem run_conserves
    (hstep : ∀ s i, contents s ++ taken (step s i).2 = given (step s i).2 ++ contents (step s i).1)
    (s : σ) (is : List ι) :
    contents s ++ (trace step s is).flatMap (fun e => taken e.output) =
      (trace step s is).flatMap (fun e => given e.output) ++ contents (run step s is) := by
  induction is generalizing s with
  | nil => rw [trace_nil, run_nil, List.flatMap_nil, List.append_nil, List.flatMap_nil,
      List.nil_append]
  | cons i is ih =>
    rw [trace_cons, List.flatMap_cons, List.flatMap_cons, run_cons]
    calc
      contents s ++ (taken (step s i).2 ++ _) = (contents s ++ taken (step s i).2) ++ _ :=
        (List.append_assoc ..).symm
      _ = given (step s i).2 ++ (contents (step s i).1 ++ _) := by
        rw [hstep, List.append_assoc]
      _ = _ := by rw [ih, List.append_assoc]

/-- A counter of what every step gives. -/
theorem run_counts (count : σ → ℕ)
    (hstep : ∀ s i, count (step s i).1 = count s+(given (step s i).2).length)
    (s : σ) (is : List ι) :
    count (run step s is) =
      count s+((trace step s is).flatMap (fun e => given e.output)).length := by
  induction is generalizing s with
  | nil => rfl
  | cons i is ih =>
    rw [trace_cons, List.flatMap_cons, List.length_append, run_cons, ih, hstep, Nat.add_assoc]

end Queue

/-- Runs on allowed inputs are the runs of the machine that has no other inputs. -/
theorem states_allowed (allowed : ι → Prop) (s : σ) (is : List { i // allowed i }) :
    states (fun s (i : { i // allowed i }) => step s i.1) s is =
      states step s (is.map Subtype.val) := by
  induction is generalizing s with
  | nil => rfl
  | cons i is ih => rw [List.map_cons, states_cons, states_cons, ih]

theorem states_version_inj_allowed {β : Type*} (view : σ → β) (version : β → ℕ)
    (allowed : ι → Prop)
    (hstep : ∀ s i, allowed i →
      view (step s i).1 = view s ∨ version (view (step s i).1) = version (view s)+1)
    (s : σ) (is : List ι) (hall : ∀ i ∈ is, allowed i) :
    ∀ t ∈ states step s is, ∀ u ∈ states step s is,
      version (view t) = version (view u) → view t = view u := by
  have hinj := states_version_inj (fun s (i : { i // allowed i }) => step s i.1) view version
    (fun s i => hstep s i.1 i.2) s (is.attachWith allowed hall)
  rwa [states_allowed, List.attachWith_map_subtype_val] at hinj

end Machine

namespace EventHistory

variable {α : Type*} {p q : α → Prop}

/-- Every event that `p` opens has a later one that `q` answers. -/
def FollowedBy (p q : α → Prop) : List α → Prop
  | [] => True
  | x :: rest => (p x → ∃ y ∈ rest, q y) ∧ FollowedBy p q rest

@[simp]
theorem followedBy_nil : FollowedBy p q [] := trivial

/-- Where nothing more is answered, nothing more may be opened. -/
theorem followedBy_append_unanswered (past later : List α) (hno : ∀ y ∈ later, ¬ q y) :
    FollowedBy p q (past ++ later) ↔ FollowedBy p q past ∧ ∀ x ∈ later, ¬ p x := by
  have hlater : FollowedBy p q later ↔ ∀ x ∈ later, ¬ p x := by
    clear past
    induction later with
    | nil => simp only [followedBy_nil, List.not_mem_nil, false_implies, implies_true]
    | cons x later ih =>
      have hrest := ih (fun y hy => hno y (List.mem_cons_of_mem _ hy))
      have hnone : ¬ ∃ y ∈ later, q y := by
        rintro ⟨y, hy, hq⟩
        exact hno y (List.mem_cons_of_mem _ hy) hq
      simp only [FollowedBy, hrest, hnone, imp_false, List.forall_mem_cons]
  induction past with
  | nil => simp only [List.nil_append, hlater, followedBy_nil, true_and]
  | cons x past ih =>
    have hx : (∃ y ∈ past ++ later, q y) ↔ ∃ y ∈ past, q y := by
      constructor
      · rintro ⟨y, hy, hq⟩
        rcases List.mem_append.mp hy with hpast | hrest
        · exact ⟨y, hpast, hq⟩
        · exact absurd hq (hno y hrest)
      · rintro ⟨y, hy, hq⟩
        exact ⟨y, List.mem_append_left _ hy, hq⟩
    rw [List.cons_append]
    simp only [FollowedBy, hx, ih, and_assoc]

/-- An answer settles everything opened before it. -/
theorem followedBy_append_answer (past : List α) (x : α) (hq : q x) (hp : ¬ p x) :
    FollowedBy p q (past ++ [x]) := by
  induction past with
  | nil => exact ⟨fun h => absurd h hp, trivial⟩
  | cons y past ih =>
    exact ⟨fun _ => ⟨x, List.mem_append_right _ (List.mem_singleton_self x), hq⟩, ih⟩

/-- What opens nothing leaves every earlier answer in place. -/
theorem FollowedBy.append {past later : List α} (hpast : FollowedBy p q past)
    (hlater : ∀ x ∈ later, ¬ p x) : FollowedBy p q (past ++ later) := by
  induction past with
  | nil =>
    induction later with
    | nil => trivial
    | cons x later ih =>
      refine ⟨fun hx => absurd hx (hlater x (List.mem_cons_self ..)), ?_⟩
      exact ih (fun y hy => hlater y (List.mem_cons_of_mem _ hy))
  | cons x past ih =>
    refine ⟨fun hx => ?_, ih hpast.2⟩
    obtain ⟨y, hy, hq⟩ := hpast.1 hx
    exact ⟨y, List.mem_append_left _ hy, hq⟩

theorem FollowedBy.answered {past : List α} (h : FollowedBy p q past) (x : α) (hx : x ∈ past)
    (hp : p x) : ∃ y ∈ past, q y := by
  induction past with
  | nil => simp only [List.not_mem_nil] at hx
  | cons first past ih =>
    rcases List.mem_cons.mp hx with rfl | hrest
    · obtain ⟨y, hy, hq⟩ := h.1 hp
      exact ⟨y, List.mem_cons_of_mem _ hy, hq⟩
    · obtain ⟨y, hy, hq⟩ := ih h.2 hrest
      exact ⟨y, List.mem_cons_of_mem _ hy, hq⟩

/-- An event left open is one with no answer after it. -/
theorem exists_open_of_not_followedBy {past : List α} (h : ¬ FollowedBy p q past) :
    ∃ before x later, past = before ++ x :: later ∧ p x ∧ ∀ y ∈ later, ¬ q y := by
  induction past with
  | nil => exact absurd trivial h
  | cons x past ih =>
    by_cases hrest : FollowedBy p q past
    · simp only [FollowedBy, hrest, and_true, Classical.not_imp, not_exists, not_and] at h
      exact ⟨[], x, past, rfl, h.1, h.2⟩
    · obtain ⟨before, y, later, rfl, hy, hlater⟩ := ih hrest
      exact ⟨x :: before, y, later, rfl, hy, hlater⟩

end EventHistory
