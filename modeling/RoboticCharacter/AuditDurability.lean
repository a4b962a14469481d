import RoboticCharacter.AuditReload

/-! Concurrent calls of `append` on a log with a path. The lock admits one call at a time, in the
order of arrival; its line is written by a thread of the executor, which may fail at any byte,
and the task that waits for the thread may be cancelled at any time. -/
namespace RoboticCharacter.Audit
open PythonJson PythonText

/-- The thread of one `_append_line`: in the executor's queue, running with so many bytes of its
record in the file, returned, or raised an AuditStorageError with so many bytes in the file. -/
inductive Job
  | queued
  | running (written : ℕ)
  | finished
  | failed (written : ℕ)

/-- An append that holds the lock and awaits its thread. -/
structure Pending (φ υ δ : Type) where
  entry : AuditEntry φ υ δ
  record : ByteArray
  job : Job

/-- `_append_line` handed to the executor. -/
def Pending.queue {φ υ δ : Type} (entry : AuditEntry φ υ δ) (line : List Char) : Pending φ υ δ where
  entry := entry
  record := (String.ofList line).toUTF8
  job := .queued

/-- A thread that goes on after its task was cancelled. -/
structure Orphan where
  record : ByteArray
  written : ℕ

structure LoggerState (φ υ δ : Type) where
  entries : List (AuditEntry φ υ δ)
  file : Option ByteArray
  holder : Option (Pending φ υ δ)
  waiting : List (AppendCall φ υ)
  orphans : List Orphan
  /-- The entries that calls of `append` returned, in order. -/
  returned : List (AuditEntry φ υ δ)

/-- The bytes of its record that the holder's thread has put into the file. -/
def Pending.bytes {φ υ δ : Type} (p : Pending φ υ δ) : ByteArray :=
  match p.job with
  | .queued => ByteArray.empty
  | .running written => p.record.extract 0 written
  | .finished => p.record
  | .failed written => p.record.extract 0 written

theorem Pending.bytes_queued {φ υ δ : Type} {p : Pending φ υ δ} (h : p.job = .queued) :
    p.bytes = ByteArray.empty := by
  unfold Pending.bytes
  rw [h]

theorem Pending.bytes_running {φ υ δ : Type} {p : Pending φ υ δ} {written : ℕ}
    (h : p.job = .running written) : p.bytes = p.record.extract 0 written := by
  unfold Pending.bytes
  rw [h]

theorem Pending.bytes_finished {φ υ δ : Type} {p : Pending φ υ δ} (h : p.job = .finished) :
    p.bytes = p.record := by
  unfold Pending.bytes
  rw [h]

theorem Pending.bytes_failed {φ υ δ : Type} {p : Pending φ υ δ} {written : ℕ}
    (h : p.job = .failed written) : p.bytes = p.record.extract 0 written := by
  unfold Pending.bytes
  rw [h]

def LoggerState.holderBytes {φ υ δ : Type} (s : LoggerState φ υ δ) : ByteArray :=
  (s.holder.map Pending.bytes).getD ByteArray.empty

theorem holderBytes_none {φ υ δ : Type} {s : LoggerState φ υ δ} (h : s.holder = none) :
    s.holderBytes = ByteArray.empty := by
  unfold LoggerState.holderBytes
  rw [h]
  rfl

theorem holderBytes_some {φ υ δ : Type} {s : LoggerState φ υ δ} {p : Pending φ υ δ}
    (h : s.holder = some p) :
    s.holderBytes = p.bytes := by
  unfold LoggerState.holderBytes
  rw [h]
  rfl

inductive LoggerAction (φ υ : Type)
  | call (call : AppendCall φ υ)
  /-- The first waiting task takes the lock that was released. -/
  | wake
  | startThread
  /-- The thread opens the file, if it has not, and the next bytes of its record reach it. -/
  | put (count : ℕ)
  | threadReturns
  | threadRaises
  /-- The task continues after its thread ended. -/
  | resume
  | cancelHolder
  | cancelWaiting (place : ℕ)
  | orphanPut (place count : ℕ)
  | orphanEnds (place : ℕ)

section
variable {φ υ δ : Type}

/-- The file after the next bytes of a record were appended to it. -/
def putBytes (file : Option ByteArray) (record : ByteArray) (written count : ℕ) :
    Option ByteArray :=
  some (file.getD ByteArray.empty ++ record.extract written (written + count))

def stepHolder (s : LoggerState φ υ δ) (p : Pending φ υ δ) :
    LoggerAction φ υ → Option (LoggerState φ υ δ)
  | .startThread =>
    match p.job with
    | .queued => some { s with holder := some { p with job := .running 0 } }
    | _ => none
  | .put count =>
    match p.job with
    | .running written =>
      if written + count ≤ p.record.size then
        some { s with file := putBytes s.file p.record written count,
                      holder := some { p with job := .running (written + count) } }
      else none
    | _ => none
  | .threadReturns =>
    match p.job with
    | .running written =>
      if written = p.record.size then some { s with holder := some { p with job := .finished } }
      else none
    | _ => none
  | .threadRaises =>
    match p.job with
    | .running written => some { s with holder := some { p with job := .failed written } }
    | _ => none
  | .resume =>
    match p.job with
    | .finished =>
      some { s with entries := s.entries ++ [p.entry], holder := none,
                    returned := s.returned ++ [p.entry] }
    | .failed _ => some { s with holder := none }
    | _ => none
  | .cancelHolder =>
    match p.job with
    -- The executor drops a thread that it has not started.
    | .queued => some { s with holder := none }
    | .running written =>
      some { s with holder := none,
                    orphans := s.orphans ++ [{ record := p.record, written := written }] }
    | .finished => some { s with holder := none }
    | .failed _ => some { s with holder := none }
  | _ => none

/-- The steps of the append that holds the lock, one for each stage of its thread. -/
inductive HolderStep (s : LoggerState φ υ δ) (p : Pending φ υ δ) :
    LoggerAction φ υ → LoggerState φ υ δ → Prop
  | startThread : p.job = .queued →
      HolderStep s p .startThread { s with holder := some { p with job := .running 0 } }
  | put (count written : ℕ) : p.job = .running written → written + count ≤ p.record.size →
      HolderStep s p (.put count)
        { s with file := putBytes s.file p.record written count,
                 holder := some { p with job := .running (written + count) } }
  | threadReturns : p.job = .running p.record.size →
      HolderStep s p .threadReturns { s with holder := some { p with job := .finished } }
  | threadRaises (written : ℕ) : p.job = .running written →
      HolderStep s p .threadRaises { s with holder := some { p with job := .failed written } }
  | returns : p.job = .finished →
      HolderStep s p .resume { s with entries := s.entries ++ [p.entry], holder := none,
                                      returned := s.returned ++ [p.entry] }
  | raises (written : ℕ) : p.job = .failed written →
      HolderStep s p .resume { s with holder := none }
  | cancelRunning (written : ℕ) : p.job = .running written →
      HolderStep s p .cancelHolder
        { s with holder := none,
                 orphans := s.orphans ++ [{ record := p.record, written := written }] }
  | cancelEnded : (∀ written, p.job ≠ .running written) →
      HolderStep s p .cancelHolder { s with holder := none }

theorem stepHolder_cases {s next : LoggerState φ υ δ} {p : Pending φ υ δ}
    {action : LoggerAction φ υ} (h : stepHolder s p action = some next) :
    HolderStep s p action next := by
  obtain ⟨entry, record, job⟩ := p
  cases action with
  | startThread =>
    cases job with
    | queued =>
      cases h
      exact HolderStep.startThread rfl
    | _ => cases h
  | put count =>
    cases job with
    | running written =>
      simp only [stepHolder] at h
      split_ifs at h with hroom
      cases h
      exact HolderStep.put count written rfl hroom
    | _ => cases h
  | threadReturns =>
    cases job with
    | running written =>
      simp only [stepHolder] at h
      split_ifs at h with hwhole
      cases h
      subst hwhole
      exact HolderStep.threadReturns rfl
    | _ => cases h
  | threadRaises =>
    cases job with
    | running written =>
      cases h
      exact HolderStep.threadRaises written rfl
    | _ => cases h
  | resume =>
    cases job with
    | finished =>
      cases h
      exact HolderStep.returns rfl
    | failed written =>
      cases h
      exact HolderStep.raises written rfl
    | _ => cases h
  | cancelHolder =>
    cases job with
    | running written =>
      cases h
      exact HolderStep.cancelRunning written rfl
    | _ =>
      cases h
      exact HolderStep.cancelEnded nofun
  | call call => cases h
  | wake => cases h
  | cancelWaiting place => cases h
  | orphanPut place count => cases h
  | orphanEnds place => cases h

variable [PyFloat φ] [AuditModel φ υ δ]

/-- The body of `append` up to `await asyncio.to_thread(…)`. Where it raises, the lock is
released at once. -/
def begin (s : LoggerState φ υ δ) (call : AppendCall φ υ) : LoggerState φ υ δ :=
  match newEntry s.entries call with
  | none => s
  | some entry =>
    match recordLine entry with
    | none => s
    | some line =>
      { s with holder := some (Pending.queue entry line) }

def step (s : LoggerState φ υ δ) (action : LoggerAction φ υ) : Option (LoggerState φ υ δ) :=
  match action with
  | .call call =>
    if s.holder.isNone ∧ s.waiting = [] then some (begin s call)
    else some { s with waiting := s.waiting ++ [call] }
  | .wake =>
    match s.holder, s.waiting with
    | none, call :: waiting => some (begin { s with waiting := waiting } call)
    | _, _ => none
  | .cancelWaiting place =>
    if place < s.waiting.length then some { s with waiting := s.waiting.eraseIdx place } else none
  | .orphanPut place count =>
    match s.orphans[place]? with
    | none => none
    | some orphan =>
      if orphan.written + count ≤ orphan.record.size then
        some { s with file := putBytes s.file orphan.record orphan.written count,
                      orphans := s.orphans.set place
                        { orphan with written := orphan.written + count } }
      else none
  | .orphanEnds place =>
    if place < s.orphans.length then some { s with orphans := s.orphans.eraseIdx place } else none
  | action =>
    match s.holder with
    | none => none
    | some p => stepHolder s p action

def run (s : LoggerState φ υ δ) : List (LoggerAction φ υ) → Option (LoggerState φ υ δ)
  | [] => some s
  | action :: actions => (step s action).bind fun next => run next actions

/-- A logger that was just constructed. -/
def opened (log : DurableLog φ υ δ) : LoggerState φ υ δ where
  entries := log.entries
  file := log.file
  holder := none
  waiting := []
  orphans := []
  returned := []

/-- No append is in progress. -/
def Idle (s : LoggerState φ υ δ) : Prop := s.holder = none ∧ s.waiting = []

/-! ### What the steps do -/

theorem begin_cases (s : LoggerState φ υ δ) (call : AppendCall φ υ) : begin s call = s ∨
    ∃ entry line, newEntry s.entries call = some entry ∧ AuditModel.dumpJson entry = some line ∧
      begin s call = { s with holder := some (Pending.queue entry (line ++ [newline])) } := by
  unfold begin recordLine
  cases hnew : newEntry s.entries call with
  | none => exact Or.inl rfl
  | some entry =>
    cases hline : AuditModel.dumpJson entry with
    | none => exact Or.inl (by simp only [hline, Option.map_none])
    | some line =>
      exact Or.inr ⟨entry, line, rfl, hline, by simp only [hline, Option.map_some]⟩

/-- The steps of a logger. -/
inductive LogStep (s : LoggerState φ υ δ) : LoggerAction φ υ → LoggerState φ υ δ → Prop
  | begins (call : AppendCall φ υ) : s.holder = none → LogStep s (.call call) (begin s call)
  | waits (call : AppendCall φ υ) :
      LogStep s (.call call) { s with waiting := s.waiting ++ [call] }
  | wakes (call : AppendCall φ υ) (waiting : List (AppendCall φ υ)) : s.holder = none →
      s.waiting = call :: waiting → LogStep s .wake (begin { s with waiting := waiting } call)
  | leaves (place : ℕ) :
      LogStep s (.cancelWaiting place) { s with waiting := s.waiting.eraseIdx place }
  | orphanPut (place count : ℕ) (orphan : Orphan) : s.orphans[place]? = some orphan →
      LogStep s (.orphanPut place count)
        { s with file := putBytes s.file orphan.record orphan.written count,
                 orphans := s.orphans.set place
                   { orphan with written := orphan.written + count } }
  | orphanEnds (place : ℕ) :
      LogStep s (.orphanEnds place) { s with orphans := s.orphans.eraseIdx place }
  | holder {action : LoggerAction φ υ} {next : LoggerState φ υ δ} (p : Pending φ υ δ) :
      s.holder = some p → HolderStep s p action next → LogStep s action next

theorem logStep_of_holder {s next : LoggerState φ υ δ} {action : LoggerAction φ υ}
    (h : (match s.holder with
      | none => none
      | some p => stepHolder s p action) = some next) : LogStep s action next := by
  cases hp : s.holder with
  | none =>
    rw [hp] at h
    cases h
  | some p =>
    rw [hp] at h
    exact LogStep.holder p hp (stepHolder_cases h)

theorem step_cases {s next : LoggerState φ υ δ} {action : LoggerAction φ υ}
    (h : step s action = some next) : LogStep s action next := by
  cases action with
  | call call =>
    simp only [step] at h
    split_ifs at h with hfree
    · cases h
      exact LogStep.begins call (Option.isNone_iff_eq_none.mp hfree.1)
    · cases h
      exact LogStep.waits call
  | wake =>
    simp only [step] at h
    split at h
    · rename_i call waiting hnone hwaiting
      cases h
      exact LogStep.wakes call waiting hnone hwaiting
    · cases h
  | cancelWaiting place =>
    simp only [step] at h
    split_ifs at h
    cases h
    exact LogStep.leaves place
  | orphanPut place count =>
    simp only [step] at h
    split at h
    · cases h
    · rename_i orphan horphan
      split_ifs at h
      cases h
      exact LogStep.orphanPut place count orphan horphan
  | orphanEnds place =>
    simp only [step] at h
    split_ifs at h
    cases h
    exact LogStep.orphanEnds place
  | startThread => exact logStep_of_holder h
  | put count => exact logStep_of_holder h
  | threadReturns => exact logStep_of_holder h
  | threadRaises => exact logStep_of_holder h
  | resume => exact logStep_of_holder h
  | cancelHolder => exact logStep_of_holder h

/-! ### What the file needs -/

/-- The payload is JSON: its keys are strings at every depth and its numbers are finite. -/
def AppendCall.IsJson (call : AppendCall φ υ) : Prop :=
  ∃ data : List (String × JsonData φ), call.rawPayload = rawEntries data ∧
    ∀ x ∈ entriesFloats data, IsFinite x

/-- The same of an entry. -/
def AuditEntry.IsJson (entry : AuditEntry φ υ δ) : Prop :=
  ∃ data : List (String × JsonData φ), entry.payload = objectEntries data ∧
    ∀ x ∈ entriesFloats data, IsFinite x

theorem Appended.isJson {entries : List (AuditEntry φ υ δ)} {call : AppendCall φ υ}
    {entry : AuditEntry φ υ δ} (h : Appended entries call entry) (hcall : call.IsJson) :
    entry.IsJson := by
  obtain ⟨data, hdata, hfinite⟩ := hcall
  refine ⟨data, ?_, hfinite⟩
  apply Option.some.inj
  rw [← h.payload, hdata, stringKeys_rawEntries]

/-- JSON data that is dumped as it is keeps its text. -/
theorem Appended.keepsText {entries : List (AuditEntry φ υ δ)} {call : AppendCall φ υ}
    {entry : AuditEntry φ υ δ} (h : Appended entries call entry) (hcall : call.IsJson)
    (hround : RoundTrips entry) : KeepsText υ δ call.rawPayload := by
  obtain ⟨data, hdata, -⟩ := hcall
  have hpayload : entry.payload = objectEntries data := by
    apply Option.some.inj
    rw [← h.payload, hdata, stringKeys_rawEntries]
  rw [hdata]
  apply keepsText_rawEntries
  rw [← hpayload]
  exact hround.payload data hpayload

/-- The call's record is one line, and it is read back as its entry. -/
def CleanCall (call : AppendCall φ υ) : Prop := call.OneLine ∧ call.IsJson

/-- A step after which no byte of an append that does not return is in the file: a thread raises
before its first byte, a cancelled task's thread has written nothing and never writes, and a
finished thread's task is not cancelled. -/
def CleanStep (s : LoggerState φ υ δ) : LoggerAction φ υ → Prop
  | .call call => CleanCall call
  | .threadRaises => ∀ p ∈ s.holder, p.job = .running 0
  | .cancelHolder => ∀ p ∈ s.holder,
      p.job = .queued ∨ p.job = .running 0 ∨ ∃ written, p.job = .failed written
  | .orphanPut _ count => count = 0
  | _ => True

/-- Every step of the run is clean. -/
def CleanRun (s : LoggerState φ υ δ) : List (LoggerAction φ υ) → Prop
  | [] => True
  | action :: actions => CleanStep s action ∧ ∀ next, step s action = some next →
      CleanRun next actions

/-! ### The invariant -/

/-- The holder's record is that of the next entry, and a thread that raised wrote nothing. -/
structure HolderOk (entries : List (AuditEntry φ υ δ)) (p : Pending φ υ δ) : Prop where
  made : ∃ call line, CleanCall call ∧ newEntry entries call = some p.entry ∧
    AuditModel.dumpJson p.entry = some line ∧
    p.record = (String.ofList (line ++ [newline])).toUTF8
  failed : ∀ written, p.job = .failed written → written = 0

/-- The file is the durable text of the entries in memory, and after it what the holder's thread
has written. -/
structure LoggerInv (s : LoggerState φ υ δ) : Prop where
  file : ∃ text, EndsLine text ∧ loadText text = .ok s.entries ∧
    s.file.getD ByteArray.empty = (String.ofList text).toUTF8 ++ s.holderBytes
  chain : verifyChain s.entries = .ok ()
  holder : ∀ p ∈ s.holder, HolderOk s.entries p
  waiting : ∀ call ∈ s.waiting, CleanCall call
  orphans : ∀ orphan ∈ s.orphans, orphan.written = 0

theorem fileHolds_of_bytes {file : Option ByteArray} {text : List Char}
    (h : file.getD ByteArray.empty = (String.ofList text).toUTF8) : FileHolds file text := by
  cases file with
  | none =>
    refine Or.inl ⟨rfl, ?_⟩
    have hempty : String.ofList text = "" := String.toByteArray_inj.mp h.symm
    have hlist := congrArg String.toList hempty
    rwa [String.toList_ofList] at hlist
  | some bytes => exact Or.inr (congrArg some h)

theorem FileHolds.bytes {file : Option ByteArray} {text : List Char} (h : FileHolds file text) :
    file.getD ByteArray.empty = (String.ofList text).toUTF8 := by
  obtain ⟨rfl, rfl⟩ | rfl := h
  · rfl
  · rfl

theorem LoggerInv.durable {s : LoggerState φ υ δ} (h : LoggerInv s) (hholder : s.holder = none) :
    Durable { entries := s.entries, file := s.file : DurableLog φ υ δ } := by
  obtain ⟨text, hends, htext, hfile⟩ := h.file
  unfold LoggerState.holderBytes at hfile
  rw [hholder, Option.map_none, Option.getD_none, ByteArray.append_empty] at hfile
  exact ⟨text, fileHolds_of_bytes hfile, hends, htext, h.chain⟩

/-- The invariant asks of the file only what its bytes are. -/
theorem LoggerInv.of_bytes {s next : LoggerState φ υ δ} (h : LoggerInv s)
    (hentries : next.entries = s.entries)
    (hbytes : ∀ text : ByteArray, s.file.getD ByteArray.empty = text ++ s.holderBytes →
      next.file.getD ByteArray.empty = text ++ next.holderBytes)
    (hholder : ∀ p ∈ next.holder, HolderOk s.entries p)
    (hwaiting : ∀ call ∈ next.waiting, CleanCall call)
    (horphans : ∀ orphan ∈ next.orphans, orphan.written = 0) : LoggerInv next := by
  obtain ⟨text, hends, htext, hfile⟩ := h.file
  exact
    { file := ⟨text, hends, by rw [hentries]; exact htext, hbytes _ hfile⟩
      chain := by rw [hentries]; exact h.chain
      holder := by rw [hentries]; exact hholder
      waiting := hwaiting
      orphans := horphans }

theorem extract_zero (bytes : ByteArray) : bytes.extract 0 0 = ByteArray.empty := by
  rw [ByteArray.extract_eq_empty_iff]
  omega

theorem putBytes_getD (file : Option ByteArray) (record : ByteArray) (written count : ℕ) :
    (putBytes file record written count).getD ByteArray.empty =
      file.getD ByteArray.empty ++ record.extract written (written + count) := rfl

theorem begin_inv {s : LoggerState φ υ δ} (h : LoggerInv s) (hnone : s.holder = none)
    {call : AppendCall φ υ} (hcall : CleanCall call) : LoggerInv (begin s call) := by
  obtain hsame | ⟨entry, line, hnew, hline, hbegin⟩ := begin_cases s call
  · rwa [hsame]
  · rw [hbegin]
    refine h.of_bytes rfl ?_ ?_ h.waiting h.orphans
    · intro text hfile
      rw [holderBytes_none hnone] at hfile
      exact hfile
    · intro p hp
      obtain rfl := Option.some.inj hp
      exact ⟨⟨call, line, hcall, hnew, hline, rfl⟩, nofun⟩

/-- A clean step of the holder keeps the invariant. Its record is whole in the file when the
call returns, and no byte of it is when the call does not. -/
theorem holderStep_inv {s next : LoggerState φ υ δ} {p : Pending φ υ δ} {action : LoggerAction φ υ}
    (h : LoggerInv s) (hp : s.holder = some p) (hstep : HolderStep s p action next)
    (hclean : CleanStep s action)
    (htrips : ∀ entry ∈ next.returned, entry.IsJson → RoundTrips entry) : LoggerInv next := by
  have hok := h.holder p hp
  have hbytes := holderBytes_some hp
  cases hstep with
  | startThread hjob =>
    refine h.of_bytes rfl ?_ ?_ h.waiting h.orphans
    · intro text hfile
      rw [hbytes, Pending.bytes_queued hjob] at hfile
      exact hfile.trans (congrArg (text ++ ·) (extract_zero p.record).symm)
    · intro q hq
      obtain rfl := Option.some.inj hq
      exact ⟨hok.made, nofun⟩
  | put count written hjob hroom =>
    refine h.of_bytes rfl ?_ ?_ h.waiting h.orphans
    · intro text hfile
      have hjoin : p.record.extract 0 written ++ p.record.extract written (written + count) =
          p.record.extract 0 (written + count) := by
        rw [ByteArray.extract_append_extract, Nat.min_eq_left (Nat.zero_le _),
          Nat.max_eq_right (Nat.le_add_right _ _)]
      rw [hbytes, Pending.bytes_running hjob] at hfile
      rw [putBytes_getD, hfile, ByteArray.append_assoc, hjoin]
      rfl
    · intro q hq
      obtain rfl := Option.some.inj hq
      exact ⟨hok.made, nofun⟩
  | threadReturns hjob =>
    refine h.of_bytes rfl ?_ ?_ h.waiting h.orphans
    · intro text hfile
      rw [hbytes, Pending.bytes_running hjob, ByteArray.extract_zero_size] at hfile
      exact hfile
    · intro q hq
      obtain rfl := Option.some.inj hq
      exact ⟨hok.made, nofun⟩
  | threadRaises written hjob =>
    -- A clean thread raises before its first byte.
    have hzero := hclean p hp
    rw [hjob] at hzero
    injection hzero with hzero
    subst hzero
    refine h.of_bytes rfl ?_ ?_ h.waiting h.orphans
    · intro text hfile
      rw [hbytes, Pending.bytes_running hjob] at hfile
      exact hfile
    · intro q hq
      obtain rfl := Option.some.inj hq
      exact ⟨hok.made, fun w hw => by injection hw with hw; exact hw.symm⟩
  | returns hjob =>
    obtain ⟨text, hends, htext, hfile⟩ := h.file
    obtain ⟨call, line, ⟨hone, hjson⟩, hnew, hline, hrecord⟩ := hok.made
    rw [hbytes, Pending.bytes_finished hjob, hrecord] at hfile
    have happended := newEntry_appended hnew
    have hentry : RoundTrips p.entry :=
      htrips p.entry (List.mem_append_right _ (List.mem_singleton_self p.entry))
        (happended.isJson hjson)
    have hbefore : Durable { entries := s.entries, file := some (String.ofList text).toUTF8 } :=
      ⟨text, Or.inr rfl, hends, htext, h.chain⟩
    obtain ⟨longer, hholds, hlonger, hload, hchain⟩ :=
      hbefore.append hnew hentry.line (happended.keepsText hjson hentry) hone hline
    refine ⟨⟨longer, hlonger, hload, ?_⟩, hchain, nofun, h.waiting, h.orphans⟩
    have hnone : (LoggerState.holderBytes (φ := φ) (υ := υ) (δ := δ)
        { s with entries := s.entries ++ [p.entry], holder := none,
                 returned := s.returned ++ [p.entry] }) = ByteArray.empty := rfl
    rw [hnone, ByteArray.append_empty]
    exact hfile.trans hholds.bytes
  | raises written hjob =>
    have hzero := hok.failed written hjob
    subst hzero
    refine h.of_bytes rfl ?_ nofun h.waiting h.orphans
    intro text hfile
    rw [hbytes, Pending.bytes_failed hjob, extract_zero] at hfile
    exact hfile
  | cancelRunning written hjob =>
    -- The thread that goes on has written nothing.
    have hzero : written = 0 := by
      obtain hqueued | hrunning | ⟨w, hfailed⟩ := hclean p hp
      · rw [hjob] at hqueued
        cases hqueued
      · rw [hjob] at hrunning
        cases hrunning
        rfl
      · rw [hjob] at hfailed
        cases hfailed
    subst hzero
    refine h.of_bytes rfl ?_ nofun h.waiting ?_
    · intro text hfile
      rw [hbytes, Pending.bytes_running hjob, extract_zero] at hfile
      exact hfile
    · intro orphan horphan
      obtain hbefore | hnew := List.mem_append.mp horphan
      · exact h.orphans orphan hbefore
      · rw [List.mem_singleton.mp hnew]
  | cancelEnded hjob =>
    refine h.of_bytes rfl ?_ nofun h.waiting h.orphans
    intro text hfile
    have hempty : p.bytes = ByteArray.empty := by
      obtain hqueued | hrunning | ⟨w, hfailed⟩ := hclean p hp
      · exact Pending.bytes_queued hqueued
      · exact absurd hrunning (hjob 0)
      · rw [Pending.bytes_failed hfailed, hok.failed w hfailed]
        exact extract_zero p.record
    rw [hbytes, hempty] at hfile
    exact hfile

theorem begin_entries (s : LoggerState φ υ δ) (call : AppendCall φ υ) :
    (begin s call).entries = s.entries ∧ (begin s call).returned = s.returned := by
  obtain hsame | ⟨entry, line, -, -, hbegin⟩ := begin_cases s call
  · rw [hsame]
    exact ⟨rfl, rfl⟩
  · rw [hbegin]
    exact ⟨rfl, rfl⟩

/-- The entries grow by what `append` returns, and by nothing else. -/
theorem step_entries {s next : LoggerState φ υ δ} {action : LoggerAction φ υ}
    (h : step s action = some next) : ∃ more, next.entries = s.entries ++ more ∧
      next.returned = s.returned ++ more := by
  have hsame : ∀ t : LoggerState φ υ δ, t.entries = s.entries ∧ t.returned = s.returned →
      ∃ more, t.entries = s.entries ++ more ∧ t.returned = s.returned ++ more := by
    intro t ht
    exact ⟨[], by rw [List.append_nil, ht.1], by rw [List.append_nil, ht.2]⟩
  cases step_cases h with
  | begins call hnone => exact hsame _ (begin_entries s call)
  | wakes call waiting hnone hwaiting => exact hsame _ (begin_entries _ call)
  | holder p hp hholder =>
    cases hholder with
    | returns hjob => exact ⟨[p.entry], rfl, rfl⟩
    | _ => exact hsame _ ⟨rfl, rfl⟩
  | _ => exact hsame _ ⟨rfl, rfl⟩

theorem step_inv {s next : LoggerState φ υ δ} {action : LoggerAction φ υ} (h : LoggerInv s)
    (hstep : step s action = some next) (hclean : CleanStep s action)
    (htrips : ∀ entry ∈ next.returned, entry.IsJson → RoundTrips entry) : LoggerInv next := by
  cases step_cases hstep with
  | begins call hnone => exact begin_inv h hnone hclean
  | waits call =>
    refine h.of_bytes rfl (fun _ hfile => hfile) h.holder ?_ h.orphans
    intro later hlater
    obtain hbefore | hnew := List.mem_append.mp hlater
    · exact h.waiting later hbefore
    · rw [List.mem_singleton.mp hnew]
      exact hclean
  | wakes call waiting hnone hwaiting =>
    have hcall : ∀ later ∈ call :: waiting, CleanCall later := by
      rw [← hwaiting]
      exact h.waiting
    have hwoken : LoggerInv { s with waiting := waiting } :=
      h.of_bytes rfl (fun _ hfile => hfile) h.holder
        (fun later hlater => hcall later (List.mem_cons_of_mem call hlater)) h.orphans
    exact begin_inv hwoken hnone (hcall call List.mem_cons_self)
  | leaves place =>
    exact h.of_bytes rfl (fun _ hfile => hfile) h.holder
      (fun later hlater => h.waiting later (List.mem_of_mem_eraseIdx hlater)) h.orphans
  | orphanPut place count orphan horphan =>
    -- The thread of a cancelled task puts no byte.
    have hzero := h.orphans orphan (List.mem_of_getElem? horphan)
    have hcount : count = 0 := hclean
    subst hcount
    refine h.of_bytes rfl ?_ h.holder h.waiting ?_
    · intro text hfile
      rw [putBytes_getD, hzero, extract_zero, ByteArray.append_empty]
      exact hfile
    · intro other hother
      obtain hbefore | rfl := List.mem_or_eq_of_mem_set hother
      · exact h.orphans other hbefore
      · exact hzero
  | orphanEnds place =>
    exact h.of_bytes rfl (fun _ hfile => hfile) h.holder h.waiting
      fun orphan horphan => h.orphans orphan (List.mem_of_mem_eraseIdx horphan)
  | holder p hp hholder => exact holderStep_inv h hp hholder hclean htrips

/-! ### Whole runs -/

theorem run_cons {s final : LoggerState φ υ δ} {action : LoggerAction φ υ}
    {actions : List (LoggerAction φ υ)} (h : run s (action :: actions) = some final) :
    ∃ next, step s action = some next ∧ run next actions = some final :=
  Option.bind_eq_some_iff.mp h

theorem run_entries (actions : List (LoggerAction φ υ)) : ∀ {s final : LoggerState φ υ δ},
    run s actions = some final → ∃ more, final.entries = s.entries ++ more ∧
      final.returned = s.returned ++ more := by
  induction actions with
  | nil =>
    intro s final h
    cases h
    exact ⟨[], (List.append_nil _).symm, (List.append_nil _).symm⟩
  | cons action actions ih =>
    intro s final h
    obtain ⟨next, hstep, hrest⟩ := run_cons h
    obtain ⟨first, hentries, hreturned⟩ := step_entries hstep
    obtain ⟨more, hfinal, hlast⟩ := ih hrest
    refine ⟨first ++ more, ?_, ?_⟩
    · rw [hfinal, hentries, List.append_assoc]
    · rw [hlast, hreturned, List.append_assoc]

theorem run_inv (actions : List (LoggerAction φ υ)) : ∀ {s final : LoggerState φ υ δ},
    LoggerInv s → run s actions = some final → CleanRun s actions →
      (∀ entry ∈ final.returned, entry.IsJson → RoundTrips entry) → LoggerInv final := by
  induction actions with
  | nil =>
    intro s final h hrun _ _
    cases hrun
    exact h
  | cons action actions ih =>
    intro s final h hrun hclean htrips
    obtain ⟨next, hstep, hrest⟩ := run_cons hrun
    obtain ⟨more, -, hreturned⟩ := run_entries actions hrest
    have hnext : ∀ entry ∈ next.returned, entry.IsJson → RoundTrips entry := by
      intro entry hentry
      apply htrips
      rw [hreturned]
      exact List.mem_append_left more hentry
    exact ih (step_inv h hstep hclean.1 hnext) hrest (hclean.2 next hstep) htrips

theorem opened_inv {log : DurableLog φ υ δ} (h : Durable log) : LoggerInv (opened log) := by
  obtain ⟨text, hfile, hends, htext, hchain⟩ := h
  refine ⟨⟨text, hends, htext, ?_⟩, hchain, nofun, nofun, nofun⟩
  have hnone : (opened log).holderBytes = ByteArray.empty := rfl
  rw [hnone, ByteArray.append_empty]
  exact hfile.bytes

/-- What opening a file reads is durable, where the file ends a line. -/
theorem durable_of_openLogger {file : Option ByteArray} {text : List Char}
    {entries : List (AuditEntry φ υ δ)} (hfile : FileHolds file text) (hends : EndsLine text)
    (hopen : openLogger file = .ok entries) :
    Durable { entries := entries, file := file : DurableLog φ υ δ } := by
  unfold openLogger at hopen
  rw [load_of_holds hfile] at hopen
  cases hload : (loadText text : Except LogError (List (AuditEntry φ υ δ))) with
  | error error =>
    rw [hload] at hopen
    cases hopen
  | ok loaded =>
    rw [hload] at hopen
    simp only at hopen
    cases hchain : verifyChain loaded with
    | error error =>
      rw [hchain] at hopen
      cases hopen
    | ok accepted =>
      rw [hchain] at hopen
      cases hopen
      exact ⟨text, hfile, hends, hload, hchain⟩

/-- Whatever the threads and the cancellations do, the entries are those that were opened and
those that calls returned. The file is read back as them, whenever no append is in progress, if
every call's payload is JSON without a line break and no step of the run left bytes of an append
that did not return. What pydantic does with an entry whose payload is JSON is assumed. -/
theorem appends_durable (file : Option ByteArray) (text : List Char)
    (entries : List (AuditEntry φ υ δ)) (actions : List (LoggerAction φ υ))
    (final : LoggerState φ υ δ) (hfile : FileHolds file text) (hends : EndsLine text)
    (hopen : openLogger file = .ok entries)
    (hrun : run (opened { entries := entries, file := file }) actions = some final) :
    final.entries = entries ++ final.returned ∧
      (CleanRun (opened { entries := entries, file := file : DurableLog φ υ δ }) actions →
        (∀ entry ∈ final.returned, entry.IsJson → RoundTrips entry) → Idle final →
        openLogger final.file = .ok final.entries) := by
  constructor
  · obtain ⟨more, hentries, hreturned⟩ := run_entries actions hrun
    have hmore : final.returned = more := hreturned
    rw [hentries, hmore]
    rfl
  · intro hclean htrips hidle
    have hstart := opened_inv (durable_of_openLogger hfile hends hopen)
    have hfinal := run_inv actions hstart hrun hclean htrips
    exact (hfinal.durable hidle.1).openLogger

/-- A free logger takes the call and queues the writing of its record. -/
theorem step_call_queued {s : LoggerState φ υ δ} (hidle : Idle s) {call : AppendCall φ υ}
    {entry : AuditEntry φ υ δ} {line : List Char} (hnew : newEntry s.entries call = some entry)
    (hline : AuditModel.dumpJson entry = some line) :
    step s (.call call) =
      some { s with holder := some (Pending.queue entry (line ++ [newline])) } := by
  have hbegin : begin s call =
      { s with holder := some (Pending.queue entry (line ++ [newline])) } := by
    unfold begin recordLine
    rw [hnew]
    simp only [hline, Option.map_some]
  rw [← hbegin]
  exact if_pos ⟨Option.isNone_iff_eq_none.mpr hidle.1, hidle.2⟩

/-- The thread of a call puts the whole record into the file. -/
theorem step_put_whole (s : LoggerState φ υ δ) (entry : AuditEntry φ υ δ) (line : List Char) :
    step { s with holder := some { Pending.queue entry (line ++ [newline]) with
                                   job := .running 0 } }
        (.put (String.ofList (line ++ [newline])).toUTF8.size) =
      some { s with file := appendLine s.file (line ++ [newline]),
                    holder := some { entry := entry,
                                     record := (String.ofList (line ++ [newline])).toUTF8,
                                     job := .running
                                       (String.ofList (line ++ [newline])).toUTF8.size } } := by
  have hwhole : putBytes s.file (String.ofList (line ++ [newline])).toUTF8 0
      (String.ofList (line ++ [newline])).toUTF8.size = appendLine s.file (line ++ [newline]) := by
    unfold putBytes appendLine
    rw [Nat.zero_add, ByteArray.extract_zero_size]
  simp only [step, stepHolder, Pending.queue, Nat.zero_add, le_refl, if_true, hwhole]

/-- A free logger takes the call, and the thread puts the whole record into the file. -/
theorem run_written {s : LoggerState φ υ δ} (hidle : Idle s) {call : AppendCall φ υ}
    {entry : AuditEntry φ υ δ} {line : List Char} (hnew : newEntry s.entries call = some entry)
    (hline : AuditModel.dumpJson entry = some line) (actions : List (LoggerAction φ υ)) :
    run s (.call call :: .startThread ::
        .put (String.ofList (line ++ [newline])).toUTF8.size :: actions) =
      run { s with file := appendLine s.file (line ++ [newline]),
                   holder := some { entry := entry,
                                    record := (String.ofList (line ++ [newline])).toUTF8,
                                    job := .running
                                      (String.ofList (line ++ [newline])).toUTF8.size } }
        actions := by
  rw [run, step_call_queued hidle hnew hline, Option.bind_some, run]
  have hstart : step { s with holder := some (Pending.queue entry (line ++ [newline])) }
      .startThread =
        some { s with holder := some { Pending.queue entry (line ++ [newline]) with
                                       job := .running 0 } } := rfl
  rw [hstart, Option.bind_some, run, step_put_whole, Option.bind_some]

/-- A thread that raises before its first byte leaves the logger as it was. -/
theorem run_raised {s : LoggerState φ υ δ} (hidle : Idle s) {call : AppendCall φ υ}
    {entry : AuditEntry φ υ δ} {line : List Char} (hnew : newEntry s.entries call = some entry)
    (hline : AuditModel.dumpJson entry = some line) (actions : List (LoggerAction φ υ)) :
    run s (.call call :: .startThread :: .threadRaises :: .resume :: actions) = run s actions := by
  have hsame : ({ s with holder := none } : LoggerState φ υ δ) = s := by
    rw [← hidle.1]
  rw [run, step_call_queued hidle hnew hline, Option.bind_some]
  change run { s with holder := none } actions = run s actions
  rw [hsame]

theorem CleanRun.raised {s : LoggerState φ υ δ} (hidle : Idle s) {call : AppendCall φ υ}
    {entry : AuditEntry φ υ δ} {line : List Char} (hnew : newEntry s.entries call = some entry)
    (hline : AuditModel.dumpJson entry = some line) (hcall : CleanCall call)
    {actions : List (LoggerAction φ υ)} (hrest : CleanRun s actions) :
    CleanRun s (.call call :: .startThread :: .threadRaises :: .resume :: actions) := by
  have hsame : ({ s with holder := none } : LoggerState φ υ δ) = s := by
    rw [← hidle.1]
  refine ⟨hcall, fun queued hqueued => ⟨trivial, fun running hrunning => ?_⟩⟩
  rw [step_call_queued hidle hnew hline] at hqueued
  obtain rfl := Option.some.inj hqueued
  obtain rfl := Option.some.inj hrunning
  refine ⟨?_, fun failed hfailed => ⟨trivial, fun next hnext => ?_⟩⟩
  · intro p hp
    obtain rfl := Option.some.inj hp
    rfl
  · obtain rfl := Option.some.inj hfailed
    obtain rfl := Option.some.inj hnext
    rwa [hsame]

end

/-! ### A note whose fsync fails -/

theorem noteCall_isJson (text : String) : (noteCall text).toCall.IsJson :=
  ⟨(noteCall text).data, (noteCall text).rawPayload_toCall, nofun⟩

theorem laterNote_isJson : laterNote.toCall.IsJson :=
  ⟨laterNote.data, laterNote.rawPayload_toCall, nofun⟩

/-- The call raises and its entry is not in memory, but the next logger loads it. -/
theorem failed_append_reloaded :
    ∃ (actions : List (LoggerAction Empty String)) (final : LoggerState Empty String String),
      run (opened { entries := [], file := none }) actions = some final ∧ Idle final ∧
        final.entries = [] ∧ final.returned = [] ∧
        ∃ entry : AuditEntry Empty String String, openLogger final.file = .ok [entry] := by
  obtain ⟨entry, -, hnew, -, hround, -⟩ := notes_entries
  obtain ⟨line, hline, -⟩ := hround.line
  have hstart : Durable ({ entries := [], file := none } : DurableLog Empty String String) :=
    ⟨[], Or.inl ⟨rfl, rfl⟩, Or.inl rfl, rfl, rfl⟩
  have hidle : Idle (opened ({ entries := [], file := none } : DurableLog Empty String String)) :=
    ⟨rfl, rfl⟩
  refine ⟨_, { opened { entries := [], file := none } with
      file := appendLine none (line ++ [newline]) },
    (run_written hidle hnew hline [.threadRaises, .resume]).trans rfl, ⟨rfl, rfl⟩, rfl, rfl, entry,
    ?_⟩
  have hkeeps := (newEntry_appended hnew).keepsText (noteCall_isJson "one") hround
  exact (hstart.append hnew hround.line hkeeps noteCall_oneLine hline).openLogger

/-- A note, a second one whose thread cannot open the file, and the second one again. -/
theorem appends_durable_notes :
    ∃ (actions : List (LoggerAction Empty String)) (final : LoggerState Empty String String),
      run (opened { entries := [], file := none }) actions = some final ∧
        LoggerAction.threadRaises ∈ actions ∧ final.returned.length = 2 ∧
        final.entries = final.returned ∧ openLogger final.file = .ok final.entries := by
  obtain ⟨first, second, hnew, hlater, hfirst, hsecond⟩ := notes_entries
  obtain ⟨line, hline, -⟩ := hfirst.line
  obtain ⟨laterLine, hlaterLine, -⟩ := hsecond.line
  have hidle : Idle (opened ({ entries := [], file := none } : DurableLog Empty String String)) :=
    ⟨rfl, rfl⟩
  let noted : LoggerState Empty String String :=
    { opened { entries := [], file := none } with
      entries := [first], file := appendLine none (line ++ [newline]), returned := [first] }
  have hnoted : Idle noted := ⟨rfl, rfl⟩
  let again : List (LoggerAction Empty String) :=
    [.call laterNote.toCall, .startThread,
      .put (String.ofList (laterLine ++ [newline])).toUTF8.size, .threadReturns, .resume]
  let afterFirst : List (LoggerAction Empty String) :=
    .call laterNote.toCall :: .startThread :: .threadRaises :: .resume :: again
  let actions : List (LoggerAction Empty String) :=
    .call (noteCall "one").toCall :: .startThread ::
      .put (String.ofList (line ++ [newline])).toUTF8.size :: .threadReturns :: .resume ::
        afterFirst
  have hwritten : ∀ rest, run (opened { entries := [], file := none })
      (.call (noteCall "one").toCall :: .startThread ::
        .put (String.ofList (line ++ [newline])).toUTF8.size :: .threadReturns :: .resume ::
          rest) = run noted rest := by
    intro rest
    rw [run_written hidle hnew hline]
    simp only [run, step, stepHolder, if_true, Option.bind_some]
    rfl
  have hrun : run (opened { entries := [], file := none }) actions =
      some { noted with
        entries := [first, second],
        file := appendLine noted.file (laterLine ++ [newline]),
        returned := [first, second] } := by
    rw [hwritten, run_raised hnoted hlater hlaterLine, run_written hnoted hlater hlaterLine]
    simp only [run, step, stepHolder, if_true, Option.bind_some]
    rfl
  have hnote : CleanCall (noteCall "one").toCall := ⟨noteCall_oneLine, noteCall_isJson "one"⟩
  have hnext : CleanCall laterNote.toCall := ⟨laterNote_oneLine, laterNote_isJson⟩
  have hclean : CleanRun
      (opened ({ entries := [], file := none } : DurableLog Empty String String)) actions := by
    refine ⟨hnote, fun s1 h1 => ⟨trivial, fun s2 h2 => ⟨trivial, fun s3 h3 => ⟨trivial,
      fun s4 h4 => ⟨trivial, fun s5 h5 => ?_⟩⟩⟩⟩⟩
    -- the five steps lead to the state in which the first note is recorded
    have hreached : run (opened { entries := [], file := none })
        [.call (noteCall "one").toCall, .startThread,
          .put (String.ofList (line ++ [newline])).toUTF8.size, .threadReturns, .resume] =
          some s5 := by
      simp only [run, h1, h2, h3, h4, h5, Option.bind_some]
    rw [hwritten] at hreached
    obtain rfl := Option.some.inj hreached
    apply CleanRun.raised hnoted hlater hlaterLine hnext
    exact ⟨hnext, fun _ _ => ⟨trivial, fun _ _ => ⟨trivial, fun _ _ => ⟨trivial,
      fun _ _ => ⟨trivial, fun _ _ => trivial⟩⟩⟩⟩⟩
  obtain ⟨hentries, hreload⟩ := appends_durable none [] [] actions _ (Or.inl ⟨rfl, rfl⟩)
    (Or.inl rfl) rfl hrun
  refine ⟨actions, _, hrun, by simp [actions, afterFirst], rfl, hentries,
    hreload hclean ?_ ⟨rfl, rfl⟩⟩
  intro entry hentry _
  obtain rfl | rfl := List.mem_pair.mp hentry
  · exact hfirst
  · exact hsecond

end RoboticCharacter.Audit
