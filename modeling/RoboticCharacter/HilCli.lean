import RoboticCharacter.FileReplace
import RoboticCharacter.HilGate

/-! The readiness command: one process for each invocation, each of which may be stopped at any of
its calls. Two processes on one permit at a time are not meant. -/
namespace RoboticCharacter.Hil
open FileReplace Fallible

structure HilPath where
  parent : String
  name : String
  deriving DecidableEq

/-- `path.with_name(f".{path.name}.tmp")`. -/
def HilPath.temporary (path : HilPath) : HilPath :=
  { path with name := "." ++ path.name ++ ".tmp" }

abbrev HilFiles := Files HilPath UInt8

/-- What stands in documents: the library's validation of what was parsed, and the text of a
permit with its line break. -/
structure Documents (φ δ : Type) [FloatValue φ] [EvidenceTime δ] where
  readEvidence : List UInt8 → Option (SingleServoHilEvidence φ δ)
  readEvidence_valid : ∀ content evidence, readEvidence content = some evidence →
    evidence.validate = .ok ()
  permitText : HilActivationPermit φ → List UInt8

/-- Why the configuration is not loaded: its own error, which is no `ValueError`, or one. -/
inductive ConfigFailure
  | configurationError
  | valueError
  deriving DecidableEq, Repr

/-- The arguments, the configuration that they lead to, and how the calls of the process end, as
far as it lives. -/
structure Invocation (φ : Type) where
  settings : Except ConfigFailure (ServoWiring φ)
  evidence : HilPath
  readable : Bool
  permitOut : Option HilPath
  answers : List Answer

inductive Exit
  | code (status : ℕ)
  | raised
  | killed
  deriving DecidableEq, Repr

/-- Only a `ValueError` is caught. -/
def ConfigFailure.exit : ConfigFailure → Exit
  | configurationError => .raised
  | valueError => .code 2

section Command
variable {α φ δ : Type} [FloatValue φ] [EvidenceTime δ] (docs : Documents φ δ)

/-- `load_evidence`; a file that cannot be read is an invalid document. -/
def loadEvidence (readable : Bool) (content : Option (List UInt8)) :
    Option (SingleServoHilEvidence φ δ) :=
  if readable then content.bind docs.readEvidence else none

def orExit (exit : Exit) (result : Option α) : Except Exit α :=
  result.elim (.error exit) .ok

/-- The permit of the decision, or how the process ends without one. -/
def Invocation.decide (run : Invocation φ) (files : HilFiles) :
    Except Exit (HilActivationPermit φ) := do
  let settings ← run.settings.mapError ConfigFailure.exit
  let evidence ← orExit (.code 2) (loadEvidence docs run.readable (files run.evidence))
  let decision ← orExit .raised (settings.evaluate evidence)
  orExit (.code 3) (if decision.approved then decision.permit else none)

def permitJob (path : HilPath) (permit : HilActivationPermit φ) : Job HilPath UInt8 where
  path
  temporary := path.temporary
  payload := docs.permitText permit

def exitOf : Phase UInt8 → Exit
  | .written => .code 0
  | .failed => .code 4
  | _ => .killed

/-- `_write_model`. What is raised before its `try` is not caught by the command. -/
def writePermit (path : HilPath) (permit : HilActivationPermit φ) (files : HilFiles) :
    List Answer → HilFiles × Exit
  | [] => (files, .killed)
  | .error :: _ => (files, .raised)
  | .done _ :: answers =>
    if path.name = "" then (files, .raised)
    else
      let job := permitJob docs path permit
      (job.filesAfter files answers, exitOf (job.phaseAfter answers))

def main (run : Invocation φ) (files : HilFiles) : HilFiles × Exit :=
  match run.decide docs files with
  | .error exit => (files, exit)
  | .ok permit =>
    match run.permitOut with
    | none => (files, .code 0)
    | some path => writePermit docs path permit files run.answers

/-- The files after one process after the other. -/
def filesAfter (files : HilFiles) (runs : List (Invocation φ)) : HilFiles :=
  runs.foldl (fun files run => (main docs run files).1) files

/-- The command finds evidence, and the gate approves it with this permit. -/
def Invocation.Approves (run : Invocation φ) (files : HilFiles) (permit : HilActivationPermit φ) :
    Prop :=
  ∃ settings content evidence, run.settings = .ok settings ∧
    files run.evidence = some content ∧ docs.readEvidence content = some evidence ∧
    Permits settings evidence permit

/-! ### One process -/

theorem HilPath.temporary_ne (path : HilPath) : path.temporary ≠ path := by
  intro h
  have hlength := congrArg (fun p : HilPath => p.name.length) h
  simp only [HilPath.temporary, String.length_append] at hlength
  have hdot : (".").length = 1 := rfl
  omega

variable {docs}

@[simp]
theorem orExit_eq_ok_iff (exit : Exit) (result : Option α) (a : α) :
    orExit exit result = .ok a ↔ result = some a := by
  cases result <;> simp [orExit]

theorem approves_of_decide {run : Invocation φ} {files : HilFiles}
    {permit : HilActivationPermit φ} (h : run.decide docs files = .ok permit) :
    run.Approves docs files permit := by
  unfold Invocation.decide at h
  simp only [bind_eq_ok_iff, mapError_eq_ok_iff, orExit_eq_ok_iff] at h
  obtain ⟨settings, hsettings, evidence, hevidence, decision, hdecision, hpermit⟩ := h
  obtain ⟨content, hcontent, hread⟩ : ∃ content, files run.evidence = some content ∧
      docs.readEvidence content = some evidence := by
    unfold loadEvidence at hevidence
    split_ifs at hevidence with hreadable
    exact Option.bind_eq_some_iff.mp hevidence
  refine ⟨settings, content, evidence, hsettings, hcontent, hread,
    docs.readEvidence_valid content evidence hread, decision, hdecision, ?_⟩
  split_ifs at hpermit with happroved
  exact hpermit

theorem decide_of_approves {run : Invocation φ} {files : HilFiles} {settings : ServoWiring φ}
    {content : List UInt8} {evidence : SingleServoHilEvidence φ δ} {permit : HilActivationPermit φ}
    {decision : HilGateDecision φ} (hsettings : run.settings = .ok settings)
    (hreadable : run.readable = true) (hcontent : files run.evidence = some content)
    (hread : docs.readEvidence content = some evidence)
    (hdecision : settings.evaluate evidence = some decision) (happroved : decision.approved = true)
    (hpermit : decision.permit = some permit) : run.decide docs files = .ok permit := by
  have hload : loadEvidence docs run.readable (files run.evidence) = some evidence := by
    rw [loadEvidence, if_pos hreadable, hcontent, Option.bind_some, hread]
  unfold Invocation.decide
  simp only [bind_eq_ok_iff, mapError_eq_ok_iff, orExit_eq_ok_iff]
  refine ⟨settings, hsettings, evidence, hload, decision, hdecision, ?_⟩
  rw [if_pos happroved, hpermit]

variable (docs) in
/-- A process with a permit ends as its writing does. -/
theorem main_exit {run : Invocation φ} {files : HilFiles} {permit : HilActivationPermit φ}
    {path : HilPath} {count : ℕ} {answers : List Answer}
    (hdecide : run.decide docs files = .ok permit) (hout : run.permitOut = some path)
    (hname : path.name ≠ "") (hanswers : run.answers = .done count :: answers) :
    (main docs run files).2 = exitOf ((permitJob docs path permit).phaseAfter answers) := by
  unfold main
  rw [hdecide, hout, hanswers]
  dsimp only [writePermit]
  rw [if_neg hname]

theorem exitOf_eq_zero_iff (phase : Phase UInt8) : exitOf phase = .code 0 ↔ phase = .written := by
  cases phase <;> simp [exitOf]

theorem eq_failed_of_exitOf {phase : Phase UInt8} (hwritten : phase ≠ .written)
    (hkilled : exitOf phase ≠ .killed) : phase = .failed := by
  cases phase with
  | written => exact absurd rfl hwritten
  | failed => rfl
  | _ => exact absurd rfl hkilled

variable (docs) in
/-- How a process that has a permit to write leaves the files and ends. -/
theorem writePermit_cases (path : HilPath) (permit : HilActivationPermit φ) (files : HilFiles)
    (answers : List Answer) :
    (writePermit docs path permit files answers).1 = files ∧
        ((writePermit docs path permit files answers).2 = .raised ∨
          (writePermit docs path permit files answers).2 = .killed) ∨
      ∃ phase, (permitJob docs path permit).Progress files phase
          (writePermit docs path permit files answers).1 ∧
        (writePermit docs path permit files answers).2 = exitOf phase := by
  cases answers with
  | nil => exact .inl ⟨rfl, .inr rfl⟩
  | cons answer answers =>
    cases answer with
    | error => exact .inl ⟨rfl, .inl rfl⟩
    | done count =>
      unfold writePermit
      split_ifs with hname
      · exact .inl ⟨rfl, .inl rfl⟩
      · exact .inr ⟨_, Job.progress path.temporary_ne answers, rfl⟩

theorem raises_orExit {P : Exit → Prop} (exit : Exit) (hexit : P exit) (result : Option α) :
    Raises P (orExit exit result) := by
  cases result with
  | none => exact raises_error P exit hexit
  | some a => exact raises_ok P a

/-- Without a permit the command does not end well. -/
theorem decide_raises (run : Invocation φ) (files : HilFiles) :
    Raises (fun exit => exit ≠ .code 0) (run.decide docs files) := by
  unfold Invocation.decide
  apply raises_bind
  · apply raises_mapError
    intro failure
    cases failure <;> decide
  intro settings _
  apply raises_bind
  · exact raises_orExit _ (by decide) _
  intro evidence _
  apply raises_bind
  · exact raises_orExit _ (by decide) _
  intro decision _
  exact raises_orExit _ (by decide) _

variable (docs) in
/-- How one process leaves the files and ends: it changes them only to write the permit that it
approved. -/
theorem main_cases (run : Invocation φ) (files : HilFiles) :
    (main docs run files).1 = files ∧
        ((main docs run files).2 = .code 0 → run.permitOut = none) ∨
      ∃ path permit phase, run.permitOut = some path ∧ run.Approves docs files permit ∧
        (permitJob docs path permit).Progress files phase (main docs run files).1 ∧
        (main docs run files).2 = exitOf phase := by
  unfold main
  cases hdecide : run.decide docs files with
  | error exit =>
    left
    exact ⟨rfl, fun h => absurd h (decide_raises run files exit hdecide)⟩
  | ok permit =>
    cases hout : run.permitOut with
    | none => exact .inl ⟨rfl, fun _ => rfl⟩
    | some path =>
      obtain ⟨hfiles, hexit⟩ | ⟨phase, hprogress, hexit⟩ :=
        writePermit_cases docs path permit files run.answers
      · refine .inl ⟨hfiles, fun h => ?_⟩
        rw [h] at hexit
        exact absurd hexit (by simp)
      · exact .inr ⟨path, permit, phase, rfl, approves_of_decide hdecide, hprogress, hexit⟩

/-! ### One process after the other -/

variable (docs) in
theorem filesAfter_append (files : HilFiles) (earlier later : List (Invocation φ)) :
    filesAfter docs files (earlier ++ later) =
      filesAfter docs (filesAfter docs files earlier) later :=
  List.foldl_append

/-- What is under a name: what was there, or the whole text of a permit that one of the processes
approved and put there. -/
def Whole (docs : Documents φ δ) (files : HilFiles) (runs : List (Invocation φ)) (name : HilPath)
    (content : Option (List UInt8)) : Prop :=
  content = files name ∨
    ∃ earlier run later permit, runs = earlier ++ run :: later ∧ run.permitOut = some name ∧
      run.Approves docs (filesAfter docs files earlier) permit ∧
      content = some (docs.permitText permit)

theorem Whole.snoc {files : HilFiles} {runs : List (Invocation φ)} {name : HilPath}
    {content : Option (List UInt8)} (h : Whole docs files runs name content)
    (run : Invocation φ) : Whole docs files (runs ++ [run]) name content := by
  obtain hfirst | ⟨earlier, other, later, permit, rfl, hother⟩ := h
  · exact .inl hfirst
  · exact .inr ⟨earlier, other, later ++ [run], permit, by simp, hother⟩

variable (docs) in
theorem filesAfter_whole (files : HilFiles) (runs : List (Invocation φ)) (name : HilPath)
    (hname : ∀ run ∈ runs, ∀ path, run.permitOut = some path → path.temporary ≠ name) :
    Whole docs files runs name (filesAfter docs files runs name) := by
  induction runs using List.reverseRecOn with
  | nil => exact .inl rfl
  | append_singleton runs run ih =>
    have hbefore := ih fun other hother => hname other (List.mem_append_left _ hother)
    have htemporary := hname run (List.mem_append_right _ (List.mem_singleton_self run))
    have hstep : filesAfter docs files (runs ++ [run]) =
        (main docs run (filesAfter docs files runs)).1 := filesAfter_append docs files runs [run]
    rw [hstep]
    -- either this process left the name as it was, or it put its own permit there
    have hkept (hsame : (main docs run (filesAfter docs files runs)).1 name =
        filesAfter docs files runs name) : Whole docs files (runs ++ [run]) name
          ((main docs run (filesAfter docs files runs)).1 name) := by
      rw [hsame]
      exact hbefore.snoc run
    obtain ⟨hfiles, _⟩ | ⟨path, permit, phase, hout, happroves, hprogress, _⟩ :=
      main_cases docs run (filesAfter docs files runs)
    · exact hkept (congrFun hfiles name)
    · by_cases hpath : name = path
      · subst hpath
        have hcontent := hprogress.path
        by_cases hwritten : phase = .written
        · rw [if_pos hwritten] at hcontent
          exact .inr ⟨runs, run, [], permit, rfl, hout, happroves, hcontent⟩
        · rw [if_neg hwritten] at hcontent
          exact hkept hcontent
      · exact hkept (hprogress.others name hpath (htemporary path hout).symm)

variable (docs) in
/-- Permit files are whole. However the processes end, and wherever they are killed, a file that
is no temporary one holds what it held or the document of a permit that one of them approved; the
next process that ends well has left the document of its own permit, and one that reports a
failure has left every file as it was, its temporary one apart. -/
theorem permit_files_whole (files : HilFiles) (runs : List (Invocation φ)) (name : HilPath)
    (hname : ∀ run ∈ runs, ∀ path, run.permitOut = some path → path.temporary ≠ name) :
    Whole docs files runs name (filesAfter docs files runs name) ∧
    ∀ run : Invocation φ, ∀ after exit, main docs run (filesAfter docs files runs) = (after, exit) →
      (exit = .code 0 → ∀ path, run.permitOut = some path → ∃ permit,
        run.Approves docs (filesAfter docs files runs) permit ∧
        after path = some (docs.permitText permit) ∧ after path.temporary = none) ∧
      (exit ≠ .code 0 → exit ≠ .killed → ∀ other,
        (exit = .code 4 → run.permitOut.map HilPath.temporary ≠ some other) →
          after other = filesAfter docs files runs other) := by
  refine ⟨filesAfter_whole docs files runs name hname, ?_⟩
  intro run after exit hmain
  have hcases := main_cases docs run (filesAfter docs files runs)
  rw [hmain] at hcases
  dsimp only at hcases
  constructor
  · intro hexit path hout
    obtain ⟨_, hnone⟩ | ⟨_, permit, phase, hpath, happroves, hprogress, hphase⟩ := hcases
    · exact absurd ((hnone hexit).symm.trans hout) nofun
    · obtain rfl : _ = path := Option.some.inj (hpath.symm.trans hout)
      obtain rfl : phase = .written := (exitOf_eq_zero_iff phase).mp (hphase.symm.trans hexit)
      have hcontent := hprogress.path
      exact ⟨permit, happroves, hcontent, hprogress.temporary⟩
  · intro hzero hkilled other hother
    obtain ⟨hfiles, _⟩ | ⟨path, permit, phase, hpath, _, hprogress, hphase⟩ := hcases
    · rw [hfiles]
    · obtain rfl : phase = .failed := by
        rw [hphase, Ne, exitOf_eq_zero_iff] at hzero
        rw [hphase] at hkilled
        exact eq_failed_of_exitOf hzero hkilled
      have htemporary := hother hphase
      rw [hpath] at htemporary
      by_cases hname : other = path
      · rw [hname]
        exact hprogress.path
      · exact hprogress.others other hname fun h => htemporary (congrArg some h.symm)

end Command

/-! The bench of the gate, from its evidence to its permit. -/

def benchLine (field : String × String) : String :=
  "  \"" ++ field.1 ++ "\": " ++ field.2

/-- `permit.model_dump_json(indent=2)` for texts without escapes, and the line break. -/
def benchPermitText (permit : HilActivationPermit SignType) : List UInt8 :=
  let number (x : SignType) := String.ofList (PythonJson.PyFloat.text x)
  let text (s : String) := "\"" ++ s ++ "\""
  let fields := [("schema_version", text "rci.single_servo_hil_permit.v1"),
    ("evidence_sha256", text permit.evidenceSha256), ("joint_name", text permit.jointName),
    ("channel", toString permit.channel), ("protocol_id", toString permit.protocolId),
    ("lower_angle_deg", number permit.lowerAngleDeg),
    ("neutral_angle_deg", number permit.neutralAngleDeg),
    ("upper_angle_deg", number permit.upperAngleDeg),
    ("lower_pulse_us", toString permit.lowerPulseUs),
    ("neutral_pulse_us", toString permit.neutralPulseUs),
    ("upper_pulse_us", toString permit.upperPulseUs),
    ("test_lower_angle_deg", number permit.testLowerAngleDeg),
    ("test_upper_angle_deg", number permit.testUpperAngleDeg),
    ("max_test_step_deg", number permit.maxTestStepDeg)]
  ("\x7b\n" ++ String.intercalate ",\n" (fields.map benchLine) ++ "\n\x7d\n").toUTF8.data.toList

/-- The evidence as it was written, which is what is found again. -/
def benchDocument : List UInt8 :=
  ((evidenceText benchEvidence).getD "").toUTF8.data.toList

def benchDocuments : Documents SignType String where
  readEvidence content := if content = benchDocument then some benchEvidence else none
  readEvidence_valid content evidence h := by
    split_ifs at h
    rw [← Option.some.inj h]
    decide +kernel
  permitText := benchPermitText

def benchFiles : HilFiles := fun path =>
  if path = ⟨"bench", "evidence.json"⟩ then some benchDocument else none

def benchInvocation (answers : List Answer) : Invocation SignType where
  settings := .ok benchWiring
  evidence := ⟨"bench", "evidence.json"⟩
  readable := true
  permitOut := some ⟨"bench", "permit.json"⟩
  answers

/-- The first process is killed while it writes; the second fails to put its file in place. -/
def benchInvocations : List (Invocation SignType) :=
  [benchInvocation [.done 0, .done 0, .done 7],
    benchInvocation [.done 0, .done 0, .done 4096, .done 0, .error, .done 0]]

theorem bench_temporary : ∀ run ∈ benchInvocations, ∀ path, run.permitOut = some path →
    path.temporary ≠ ⟨"bench", "permit.json"⟩ ∧ path ≠ ⟨"bench", "evidence.json"⟩ ∧
      path.temporary ≠ ⟨"bench", "evidence.json"⟩ := by
  intro run hrun path hout
  have hpath : path = ⟨"bench", "permit.json"⟩ := by
    simp only [benchInvocations, List.mem_cons, List.not_mem_nil, or_false] at hrun
    obtain rfl | rfl := hrun <;> exact (Option.some.inj hout).symm
  rw [hpath]
  decide

/-- The two processes leave the evidence as it is. -/
theorem bench_evidence :
    filesAfter benchDocuments benchFiles benchInvocations ⟨"bench", "evidence.json"⟩ =
      some benchDocument := by
  obtain hkept | ⟨earlier, run, later, permit, hruns, hout, -⟩ :=
    filesAfter_whole benchDocuments benchFiles benchInvocations ⟨"bench", "evidence.json"⟩
      (fun run hrun path hout => (bench_temporary run hrun path hout).2.2)
  · rw [hkept]
    exact if_pos rfl
  · have hrun : run ∈ benchInvocations := by
      rw [hruns]
      exact List.mem_append_right _ List.mem_cons_self
    exact absurd rfl (bench_temporary run hrun _ hout).2.1

theorem bench_decides : ∃ permit, ∀ answers, (benchInvocation answers).decide benchDocuments
    (filesAfter benchDocuments benchFiles benchInvocations) = .ok permit := by
  have hvalid : benchEvidence.validate = .ok () := by decide +kernel
  have hnone : benchWiring.reasons benchEvidence = [] := by decide +kernel
  obtain ⟨hreasons, -⟩ | ⟨-, text, -, hdecision⟩ := evaluate_eq benchWiring benchEvidence hvalid
  · exact absurd hnone hreasons
  have hread : benchDocuments.readEvidence benchDocument = some benchEvidence := by
    dsimp only [benchDocuments]
    exact if_pos (Eq.refl benchDocument)
  exact ⟨_, fun answers => decide_of_approves rfl rfl bench_evidence hread hdecision rfl rfl⟩

/-- After both, a third process is left alone: it ends with code 0 and its permit is there. -/
theorem permit_files_whole_bench : ∃ answers permit after,
    main benchDocuments (benchInvocation answers)
        (filesAfter benchDocuments benchFiles benchInvocations) = (after, .code 0) ∧
      Whole benchDocuments benchFiles benchInvocations ⟨"bench", "permit.json"⟩
        (filesAfter benchDocuments benchFiles benchInvocations ⟨"bench", "permit.json"⟩) ∧
      after ⟨"bench", "permit.json"⟩ = some (benchPermitText permit) := by
  obtain ⟨permit, hdecide⟩ := bench_decides
  let job := permitJob benchDocuments ⟨"bench", "permit.json"⟩ permit
  have hexit := main_exit benchDocuments
    (hdecide [.done 0, .done 0, .done job.payload.length, .done 0, .done 0]) rfl (by decide) rfl
  rw [job.phaseAfter_whole] at hexit
  obtain ⟨hwhole, hnext⟩ := permit_files_whole benchDocuments benchFiles benchInvocations
    ⟨"bench", "permit.json"⟩ (fun run hrun path hout => (bench_temporary run hrun path hout).1)
  obtain ⟨after, hmain⟩ : ∃ after, main benchDocuments
      (benchInvocation [.done 0, .done 0, .done job.payload.length, .done 0, .done 0])
      (filesAfter benchDocuments benchFiles benchInvocations) = (after, .code 0) := by
    rw [show Exit.code 0 = exitOf (.written : Phase UInt8) from rfl, ← hexit]
    exact ⟨_, Prod.mk.eta.symm⟩
  obtain ⟨written, -, hcontent, -⟩ := (hnext _ _ _ hmain).1 rfl _ rfl
  exact ⟨_, written, _, hmain, hwhole, hcontent⟩

end RoboticCharacter.Hil
