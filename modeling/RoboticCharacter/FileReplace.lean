import Mathlib.Data.List.Basic
import Mathlib.Logic.Function.Basic

/-! A file that is written under a temporary name and then put in place: what is under both names
at every moment, however the calls end and wherever the writer is stopped. -/
namespace FileReplace

/-- The files by their names, with what is in them. -/
abbrev Files (π β : Type) := π → Option (List β)

structure Job (π β : Type) where
  path : π
  temporary : π
  payload : List β

/-- The next call of a writer. -/
inductive Phase (β : Type)
  | opening
  | writing (rest : List β)
  | closing
  | replacing
  | removing
  | written
  | failed
  deriving DecidableEq

/-- How a call ends. A write that is done takes some of what is left. -/
inductive Answer
  | done (count : ℕ)
  | error
  deriving DecidableEq

variable {π β : Type} [DecidableEq β]

def Phase.next (payload : List β) : Phase β → Answer → Phase β
  | opening, .done _ => writing payload
  | writing rest, .done count => if rest.drop count = [] then closing else writing (rest.drop count)
  | closing, .done _ => replacing
  | replacing, .done _ => written
  | opening, .error | writing _, .error | closing, .error | replacing, .error => removing
  | removing, _ => failed
  | written, _ => written
  | failed, _ => failed

/-- The phase after the calls that the writer lived to make. -/
def Job.phaseAfter (job : Job π β) (answers : List Answer) : Phase β :=
  answers.foldl (Phase.next job.payload) .opening

omit [DecidableEq β] in
/-- A writer whose calls are all done has written, however long its payload is. -/
theorem Job.phaseAfter_whole (job : Job π β) (opened closed replaced : ℕ) :
    job.phaseAfter [.done opened, .done job.payload.length, .done closed, .done replaced] =
      .written := by
  simp only [Job.phaseAfter, List.foldl_cons, List.foldl_nil, Phase.next, List.drop_length,
    if_true]

variable [DecidableEq π]

/-- What a call does to the files. -/
def Job.effect (job : Job π β) (files : Files π β) : Phase β → Answer → Files π β
  | .opening, .done _ => Function.update files job.temporary (some [])
  | .writing rest, .done count => Function.update files job.temporary
      ((files job.temporary).map (· ++ rest.take count))
  | .replacing, .done _ =>
    Function.update (Function.update files job.path (files job.temporary)) job.temporary none
  | .removing, .done _ => Function.update files job.temporary none
  | _, _ => files

def Job.run (job : Job π β) : Phase β → Files π β → List Answer → Files π β
  | _, files, [] => files
  | phase, files, answer :: rest =>
    job.run (phase.next job.payload answer) (job.effect files phase answer) rest

def Job.filesAfter (job : Job π β) (files : Files π β) (answers : List Answer) : Files π β :=
  job.run .opening files answers

/-- What is under the temporary name in a phase. -/
def Job.Temporary (job : Job π β) (before content : Option (List β)) : Phase β → Prop
  | .opening => content = before
  | .writing rest => ∃ taken, content = some taken ∧ taken ++ rest = job.payload
  | .closing | .replacing => content = some job.payload
  | .removing => content = before ∨ ∃ taken, content = some taken ∧ taken <+: job.payload
  | .written => content = none
  | .failed => content = none ∨ content = before ∨
      ∃ taken, content = some taken ∧ taken <+: job.payload

/-- The path has its old content until the whole payload is put in its place. -/
structure Job.Progress (job : Job π β) (before : Files π β) (phase : Phase β)
    (files : Files π β) : Prop where
  others : ∀ name, name ≠ job.path → name ≠ job.temporary → files name = before name
  path : files job.path = if phase = .written then some job.payload else before job.path
  temporary : job.Temporary (before job.temporary) (files job.temporary) phase

namespace Job
variable {job : Job π β} {before files : Files π β}

/-- A call that concerns the temporary name only. -/
theorem Progress.update (hdistinct : job.temporary ≠ job.path) {phase : Phase β}
    (h : job.Progress before phase files) (next : Phase β) (hphase : phase ≠ .written)
    (hnext : next ≠ .written) (content : Option (List β))
    (hcontent : job.Temporary (before job.temporary) content next) :
    job.Progress before next (Function.update files job.temporary content) := by
  refine ⟨?_, ?_, ?_⟩
  · intro name hpath htemporary
    rw [Function.update_of_ne htemporary]
    exact h.others name hpath htemporary
  · rw [Function.update_of_ne hdistinct.symm, h.path, if_neg hphase, if_neg hnext]
  · rwa [Function.update_self]

omit [DecidableEq π] in
/-- A call that leaves the files as they are. -/
theorem Progress.keep {phase next : Phase β} (h : job.Progress before phase files)
    (hwritten : phase = .written ↔ next = .written)
    (hcontent : job.Temporary (before job.temporary) (files job.temporary) next) :
    job.Progress before next files := by
  refine ⟨h.others, ?_, hcontent⟩
  rw [h.path]
  exact if_congr hwritten rfl rfl

theorem Progress.step (hdistinct : job.temporary ≠ job.path) {phase : Phase β}
    (h : job.Progress before phase files) (answer : Answer) :
    job.Progress before (phase.next job.payload answer) (job.effect files phase answer) := by
  have htemporary := h.temporary
  cases phase with
  | opening =>
    cases answer with
    | done count => exact h.update hdistinct (.writing job.payload) nofun nofun _ ⟨[], rfl, rfl⟩
    | error => exact h.keep (by simp [Phase.next]) (.inl htemporary)
  | writing rest =>
    obtain ⟨taken, hcontent, hpayload⟩ := htemporary
    cases answer with
    | done count =>
      have hwhole : taken ++ rest.take count ++ rest.drop count = job.payload := by
        rw [List.append_assoc, List.take_append_drop, hpayload]
      dsimp only [Phase.next, effect]
      rw [hcontent, Option.map_some]
      split_ifs with hlast
      · apply h.update hdistinct .closing nofun nofun
        rw [hlast, List.append_nil] at hwhole
        exact congrArg some hwhole
      · exact h.update hdistinct (.writing (rest.drop count)) nofun nofun _ ⟨_, rfl, hwhole⟩
    | error =>
      apply h.keep (by simp [Phase.next])
      exact .inr ⟨taken, hcontent, rest, hpayload⟩
  | closing =>
    cases answer with
    | done count => exact h.keep (by simp [Phase.next]) htemporary
    | error => exact h.keep (by simp [Phase.next]) (.inr ⟨_, htemporary, List.prefix_rfl⟩)
  | replacing =>
    cases answer with
    | done count =>
      -- the one call that changes what is under the path
      refine ⟨?_, ?_, Function.update_self _ _ _⟩
      · intro name hpath hother
        change Function.update (Function.update files _ _) _ _ name = _
        rw [Function.update_of_ne hother, Function.update_of_ne hpath]
        exact h.others name hpath hother
      · change Function.update (Function.update files _ _) _ _ job.path = _
        rw [Function.update_of_ne hdistinct.symm, Function.update_self]
        exact htemporary.trans (if_pos rfl).symm
    | error => exact h.keep (by simp [Phase.next]) (.inr ⟨_, htemporary, List.prefix_rfl⟩)
  | removing =>
    cases answer with
    | done count => exact h.update hdistinct .failed nofun nofun none (.inl rfl)
    | error => exact h.keep (by simp [Phase.next]) (.inr htemporary)
  | written => cases answer <;> exact h
  | failed => cases answer <;> exact h

theorem Progress.run (hdistinct : job.temporary ≠ job.path) {phase : Phase β}
    (h : job.Progress before phase files) (answers : List Answer) :
    job.Progress before (answers.foldl (Phase.next job.payload) phase)
      (job.run phase files answers) := by
  induction answers generalizing phase files with
  | nil => exact h
  | cons answer rest ih => exact ih (h.step hdistinct answer)

/-- Wherever the writer is stopped. -/
theorem progress (hdistinct : job.temporary ≠ job.path) (answers : List Answer) :
    job.Progress before (job.phaseAfter answers) (job.filesAfter before answers) := by
  apply Progress.run hdistinct
  exact ⟨fun name _ _ => rfl, (if_neg nofun).symm, rfl⟩

end Job
end FileReplace
