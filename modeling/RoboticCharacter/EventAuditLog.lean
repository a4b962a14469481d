import RoboticCharacter.EventAuditOnce

/-! What the audit log holds after a run of the event bus: one record of every entry whose call of
the bridge's handler returned, and nothing else; and which entries have none. -/
namespace RoboticCharacter.EventAudit
open Events Machine PythonJson

section Records
variable {φ υ δ ε τ : Type}

/-- The record holds what the bridge passes on of the event. -/
def Records (dump : ε → Option (EventDump φ υ)) (entry : Entry ε)
    (record : Audit.AuditEntry φ υ δ) : Prop :=
  ∃ fields, dump entry.event = some fields ∧ record.eventType.1 = fields.eventType ∧
    record.source.1 = fields.source ∧ record.interactionId = fields.interactionId ∧
    record.payload = Audit.objectEntries fields.payload

variable [PyFloat φ] [Audit.AuditModel φ υ δ] {dump : ε → Option (EventDump φ υ)}

omit [PyFloat φ] [Audit.AuditModel φ υ δ] in
theorem rawPayload_call (fields : EventDump φ υ) (stamp : Stamp υ) :
    (fields.call stamp).rawPayload = Audit.rawEntries fields.payload := rfl

theorem records_of_made {chain : List (Audit.AuditEntry φ υ δ)} {entry : Entry ε}
    {record : Audit.AuditEntry φ υ δ} (h : AuditedBus.Made dump chain entry record) :
    Records dump entry record := by
  obtain ⟨fields, stamp, hfields, hnew⟩ := h
  have happended := Audit.newEntry_appended hnew
  have hpayload := happended.payload
  rw [rawPayload_call, Audit.stringKeys_rawEntries] at hpayload
  exact ⟨fields, hfields, happended.eventType, happended.source, happended.interactionId,
    (Option.some.inj hpayload).symm⟩

/-- The events are passed on as JSON data. -/
def DumpsJson (υ δ : Type) [Audit.AuditModel φ υ δ] (dump : ε → Option (EventDump φ υ)) : Prop :=
  ∀ event fields, dump event = some fields →
    Audit.jsonPayload υ δ (Audit.objectEntries fields.payload) = some fields.payload

/-- A record of JSON data continues a chain that verifies. -/
theorem verified_of_made (hjson : DumpsJson υ δ dump)
    {chain : List (Audit.AuditEntry φ υ δ)} {entry : Entry ε} {record : Audit.AuditEntry φ υ δ}
    (h : AuditedBus.Made dump chain entry record) (hchain : Audit.verifyChain chain = .ok ()) :
    Audit.verifyChain (chain ++ [record]) = .ok () := by
  obtain ⟨fields, stamp, hfields, hnew⟩ := h
  apply (Audit.verifyChain_concat chain record).mpr
  refine ⟨hchain, (Audit.newEntry_appended hnew).accepted_of_keepsText ?_⟩
  rw [rawPayload_call]
  exact Audit.keepsText_rawEntries (hjson entry.event fields hfields)

/-- The log is what it was at the start and the records of the audited entries. -/
structure Logged (dump : ε → Option (EventDump φ υ)) (log : Audit.DurableLog φ υ δ)
    (past : List (AuditedEvent φ υ δ ε τ)) (s : AuditedBus φ υ δ ε τ) : Prop where
  wired : s.Wired dump
  entries : s.logger.entries = log.entries ++ s.logger.returned
  records : List.Forall₂ (Records dump) (audited past) s.logger.returned
  verified : DumpsJson υ δ dump → Audit.verifyChain log.entries = .ok () →
    Audit.verifyChain s.logger.entries = .ok ()

theorem Logged.step [DecidableEq τ] (isInstance : ε → τ → Bool) (anyEvent : τ)
    {log : Audit.DurableLog φ υ δ} {past : List (AuditedEvent φ υ δ ε τ)}
    {s : AuditedBus φ υ δ ε τ} (h : Logged dump log past s) (input : AuditedInput υ ε τ) :
    Logged dump log (past ++ [⟨s, input, (s.step isInstance anyEvent dump input).2,
      (s.step isInstance anyEvent dump input).1⟩]) (s.step isInstance anyEvent dump input).1 := by
  have hwired := h.wired.step isInstance anyEvent input
  have hrecorded := AuditedBus.step_recorded isInstance anyEvent h.wired input
  generalize (s.step isInstance anyEvent dump input).1 = after at hwired hrecorded ⊢
  generalize (s.step isInstance anyEvent dump input).2 = output at hrecorded ⊢
  have hsnoc := audited_snoc past ⟨s, input, output, after⟩
  generalize audited? (⟨s, input, output, after⟩ : AuditedEvent φ υ δ ε τ) = now
    at hrecorded hsnoc
  cases hrecorded with
  | quiet hentries hreturned =>
    refine ⟨hwired, ?_, ?_, ?_⟩
    · rw [hentries, hreturned]
      exact h.entries
    · rw [hsnoc, hreturned, Option.toList_none, List.append_nil]
      exact h.records
    · rw [hentries]
      exact h.verified
  | appended entry record hmade hentries hreturned =>
    refine ⟨hwired, ?_, ?_, ?_⟩
    · rw [hentries, hreturned, h.entries, List.append_assoc]
    · rw [hsnoc, hreturned, Option.toList_some]
      exact List.rel_append h.records (.cons (records_of_made hmade) .nil)
    · intro hjson hlog
      rw [hentries]
      exact verified_of_made hjson hmade (h.verified hjson hlog)

end Records

section Runs
variable {φ υ δ ε τ : Type} [PyFloat φ] [Audit.AuditModel φ υ δ] [DecidableEq τ]
  (isInstance : ε → τ → Bool) (anyEvent : τ) (dump : ε → Option (EventDump φ υ))
  (config : EventBusConfig) (log : Audit.DurableLog φ υ δ) (ops : List (AuditedInput υ ε τ))

/-- The steps of the bus in a run of the system are a run of the bus. -/
theorem busPast_run : ∃ made,
    busPast (auditedTrace isInstance anyEvent dump config log ops) =
      busTrace isInstance config made ∧
    (auditedRun isInstance anyEvent dump config log ops).bus = busRun isInstance config made := by
  have hproject := trace_projects (AuditedBus.step isInstance anyEvent dump) AuditedBus.bus
    (busStep isInstance) id
    (fun s input => (AuditedBus.step_move isInstance anyEvent dump s input).projects)
    (.new config log) ops
  obtain ⟨made, htrace, hrun⟩ := hproject
  exact ⟨made, htrace.symm, hrun.symm⟩

omit [PyFloat φ] [Audit.AuditModel φ υ δ] [DecidableEq τ] in
theorem subscribed_new : Subscribed anyEvent (.new config log : AuditedBus φ υ δ ε τ) := by
  have hhandlers : (startedBus config : EventBus ε τ).handlers = [] := rfl
  refine ⟨?_, ⟨?_, ?_⟩, nofun, ?_, nofun⟩
  · exact List.nodup_nil
  · exact List.nodup_nil
  · intro registered hmem
    exact absurd hmem List.not_mem_nil
  · intro eventType registered _ hmem
    exact absurd hmem List.not_mem_nil

theorem audits_run : Audits isInstance anyEvent
    (auditedTrace isInstance anyEvent dump config log ops)
    (auditedRun isInstance anyEvent dump config log ops) := by
  induction ops using List.reverseRecOn with
  | nil =>
    have hnone : ∀ pair : Entry ε × List RegisteredHandler, pair ∉ taken (busPast (τ := τ)
        ([] : List (AuditedEvent φ υ δ ε τ))) := fun pair => List.not_mem_nil
    refine ⟨subscribed_new anyEvent config log, ?_, ?_, rfl, ?_⟩
    · exact fun pair hpair => absurd hpair (hnone pair)
    · exact fun pair hpair => absurd hpair (hnone pair)
    · exact fun e he => absurd he List.not_mem_nil
  | append_singleton ops op ih =>
    obtain ⟨made, htrace, hrun⟩ := busPast_run isInstance anyEvent dump config log ops
    have hcalls := calls_run isInstance config made
    rw [← htrace, ← hrun] at hcalls
    rw [auditedTrace, trace_append, auditedRun, run_append]
    exact ih.step hcalls op (AuditedBus.step_move isInstance anyEvent dump _ op)

theorem logged_run :
    Logged dump log (auditedTrace isInstance anyEvent dump config log ops)
      (auditedRun isInstance anyEvent dump config log ops) := by
  apply history_invariant (P := Logged dump log)
  · refine ⟨⟨List.nodup_nil, nofun, fun _ => rfl, List.Forall₂.nil⟩, ?_, List.Forall₂.nil, ?_⟩
    · exact (List.append_nil _).symm
    · exact fun _ hlog => hlog
  · exact fun past s input h => h.step isInstance anyEvent input

/-- After any run the log is what it was at the start and one record of each entry that the
bridge's handler returned for, in the order of the returns. No entry of the bus is audited
twice, and where the events are passed on as JSON data a chain that verified still does. -/
theorem audit_log_records_events (config : EventBusConfig) (log : Audit.DurableLog φ υ δ)
    (ops : List (AuditedInput υ ε τ)) :
    let past := auditedTrace isInstance anyEvent dump config log ops
    let final := auditedRun isInstance anyEvent dump config log ops
    final.logger.entries = log.entries ++ final.logger.returned ∧
      (DumpsJson υ δ dump → Audit.verifyChain log.entries = .ok () →
        Audit.verifyChain final.logger.entries = .ok ()) ∧
      List.Forall₂ (Records dump) (audited past) final.logger.returned ∧
      (∀ entry ∈ audited past, entry ∈ accepted (busPast past)) ∧
      ((audited past).map Entry.sequence).Nodup := by
  have hlogged := logged_run isInstance anyEvent dump config log ops
  have haudits := audits_run isInstance anyEvent dump config log ops
  obtain ⟨made, htrace, hrun⟩ := busPast_run isInstance anyEvent dump config log ops
  have hledger := ledger_run isInstance config made
  have hcalls := calls_run isInstance config made
  rw [← htrace, ← hrun] at hledger hcalls
  generalize auditedTrace isInstance anyEvent dump config log ops = past at *
  generalize auditedRun isInstance anyEvent dump config log ops = final at *
  refine ⟨hlogged.entries, hlogged.verified, hlogged.records, ?_, ?_⟩
  · intro entry hentry
    rw [haudits.returns] at hentry
    obtain ⟨call, hcall, hreturned⟩ := List.mem_filterMap.mp hentry
    obtain ⟨rfl, _, _⟩ := returnedIn_some hreturned
    exact hledger.taken_accepted (hcalls.ended_taken call hcall)
  · rw [haudits.returns]
    apply List.pairwise_map.mpr
    apply List.pairwise_filterMap.mpr
    have honce := List.pairwise_map.mp hcalls.ended_once
    apply honce.imp_of_mem
    intro first second hfirst hsecond hne a ha b hb heq
    obtain ⟨rfl, hown, _⟩ := returnedIn_some ha
    obtain ⟨rfl, hother, _⟩ := returnedIn_some hb
    obtain ⟨pair, hpair, hnumber, hmem⟩ := hcalls.ended_matched hfirst
    obtain ⟨other, hpair', hnumber', hmem'⟩ := hcalls.ended_matched hsecond
    -- both calls were made for one entry, and of its handlers one is the bridge's
    obtain rfl := hledger.taken_inj hpair hpair' (by rw [hnumber, hnumber', heq])
    have hsame := haudits.single pair hpair _ hmem _ hmem' hown hother
    exact hne (Prod.ext heq hsame)

/-- Once nothing is unfinished, and where no worker was aborted: an accepted entry is audited, or
the failure of the bridge's handler is recorded, or the bridge was not subscribed when the entry
was taken. -/
theorem accepted_events_audited (hany : ∀ event, isInstance event anyEvent = true)
    (hisolated : ∀ e ∈ busPast (auditedTrace isInstance anyEvent dump config log ops), ¬ Aborts e)
    (hjoined : (auditedRun isInstance anyEvent dump config log ops).bus.queue.unfinished = 0) :
    let past := auditedTrace isInstance anyEvent dump config log ops
    let final := auditedRun isInstance anyEvent dump config log ops
    ∀ entry ∈ accepted (busPast past), entry ∈ audited past ∨
      (∃ failure ∈ failed (busPast past), failure.event = entry.event ∧
        failure.subscriptionId ∈ final.handles ∧
        failure.handlerName = "EventAuditBridge._handle") ∨
      ∃ e ∈ past, e.before.subscription = none ∧ ∃ input matched,
        e.output = some (input, .took entry matched) := by
  have haudits := audits_run isInstance anyEvent dump config log ops
  obtain ⟨made, htrace, hrun⟩ := busPast_run isInstance anyEvent dump config log ops
  have hledger := ledger_run isInstance config made
  have hcalls := calls_run isInstance config made
  have hkeeps : ∀ e ∈ busTrace isInstance config made, ¬ Disrupts e := by
    intro e he
    have hstep := trace_step (busStep isInstance) (startedBus config) made e he
    exact mt (aborts_of_disrupts isInstance hstep) (hisolated e (by rwa [htrace]))
  rw [hrun] at hjoined
  obtain ⟨hcalled, hidle⟩ := isolated_joined isInstance config made hkeeps hjoined
  rw [← htrace] at hcalled
  rw [← htrace, ← hrun] at hledger hcalls
  rw [← hrun] at hidle
  generalize auditedTrace isInstance anyEvent dump config log ops = past at *
  generalize auditedRun isInstance anyEvent dump config log ops = final at *
  intro past' final' entry hentry
  obtain ⟨matched, htaken, hinvoked⟩ := hcalled entry hentry
  -- the step in which the entry was taken
  obtain ⟨busEvent, hbusEvent, htook⟩ := List.mem_filterMap.mp htaken
  obtain ⟨e, he, hevent⟩ := List.mem_filterMap.mp hbusEvent
  obtain ⟨⟨input, answer⟩, houtput, rfl⟩ := Option.map_eq_some_iff.mp hevent
  cases answer with
  | took held handlers =>
    obtain ⟨rfl, rfl⟩ := Prod.mk.inj (Option.some.inj htook)
    by_cases hactive : e.before.subscription = none
    · exact .inr (.inr ⟨e, he, hactive, input, handlers, houtput⟩)
    obtain ⟨registered, hmem, hown, hname⟩ :=
      haudits.covers e he input held handlers houtput (hany held.event) hactive
    -- its call was made, and it has ended, since nothing is under way
    have hmade : (held.sequence, registered) ∈ invocations (busPast past) :=
      mem_invokedFor.mp (hinvoked ▸ hmem)
    have hended := hcalls.balanced.mem_iff.mp hmade
    rw [hidle, List.map_nil, List.append_nil] at hended
    obtain ⟨⟨other, handler, outcome⟩, hcall, heq⟩ := List.mem_map.mp hended
    obtain ⟨hnumber, rfl⟩ := Prod.mk.inj heq
    obtain ⟨pair, hpair, hsame⟩ := List.mem_map.mp (hcalls.ended_taken _ hcall)
    have hentry' : other = held := by
      have hone := hledger.taken_inj hpair htaken ((congrArg Entry.sequence hsame).trans hnumber)
      rw [hone] at hsame
      exact hsame.symm
    subst hentry'
    cases outcome with
    | returned =>
      left
      rw [show audited past' = _ from haudits.returns]
      exact List.mem_filterMap.mpr ⟨_, hcall, if_pos hown⟩
    | raised errorType message =>
      obtain ⟨step, hstep, next, hanswer⟩ := mem_ended hcall
      refine .inr (.inl ⟨⟨other.event, handler.subscriptionId, handler.handlerName, errorType,
        message⟩, ?_, rfl, hown, hname⟩)
      apply List.mem_filterMap.mpr
      refine ⟨step, hstep, ?_⟩
      rw [hanswer]
      rfl
    | escaped counted =>
      obtain ⟨step, hstep, next, hanswer⟩ := mem_ended hcall
      exact absurd ⟨_, _, counted, next, hanswer⟩ (hisolated step hstep)
  | _ => cases htook

end Runs

/-! ### Two notes that are published and audited -/

abbrev Note := Audit.JsonCall Empty String

def noteDump (note : Note) : Option (EventDump Empty String) :=
  some { eventType := note.eventType.1, source := note.source.1,
         interactionId := note.interactionId, payload := note.data }

def noteStamp (note : Note) : Stamp String where
  entryId := note.entryId
  now := note.now

theorem noteDump_json : DumpsJson String String noteDump := by
  intro event fields h
  obtain rfl := Option.some.inj h
  exact Audit.jsonPayload_objectEntries _

/-- The bridge is subscribed, and the worker is done with so many notes. -/
def audits (count : ℕ) (logger : Audit.LoggerState Empty String String) :
    AuditedBus Empty String String Note Unit where
  bus := { (startedBus defaultConfig : EventBus Note Unit) with
           handlers := [((), [⟨0, "EventAuditBridge._handle"⟩])]
           subscriptions := 1
           sequence := count
           published := count
           delivered := count }
  logger := logger
  subscription := some 0
  handles := [0]

/-- A note is published and taken, and its record of so many bytes is written. -/
def noteOps (note : Note) (size : ℕ) : List (AuditedInput String Note Unit) :=
  [.bus (.publish note .normal) (noteStamp note), .bus (.take 0) (noteStamp note),
    .thread .starts, .thread (.puts size), .thread .returns, .resumes (noteStamp note) ""]

theorem run_noteOps (count : ℕ) (logger : Audit.LoggerState Empty String String)
    (hidle : Audit.Idle logger) (note : Note) (hpayload : note.payload = some note.data)
    {record : Audit.AuditEntry Empty String String} {line : List Char}
    (hnew : Audit.newEntry logger.entries note.toCall = some record)
    (hline : Audit.AuditModel.dumpJson record = some line) :
    run (AuditedBus.step (fun _ _ => true) () noteDump) (audits count logger)
        (noteOps note (String.ofList (line ++ [PythonText.newline])).toUTF8.size) =
      audits (count+1) { logger with
        entries := logger.entries ++ [record],
        file := Audit.appendLine logger.file (line ++ [PythonText.newline]),
        returned := logger.returned ++ [record] } := by
  let entry : Entry Note := ⟨20, count, note⟩
  let calls : AuditedBus Empty String String Note Unit :=
    { audits count logger with
      bus := { (audits count logger).bus with
               queue := { (startedBus defaultConfig : EventBus Note Unit).queue with
                          unfinished := 1 }
               workers := [⟨.dispatching ⟨entry, ⟨0, "EventAuditBridge._handle"⟩, []⟩, false⟩]
               sequence := count+1
               published := count+1 } }
  have htaken : run (AuditedBus.step (fun _ _ => true) () noteDump) (audits count logger)
      [.bus (.publish note .normal) (noteStamp note), .bus (.take 0) (noteStamp note)] =
        calls.handle noteDump 0 (noteStamp note) note := rfl
  have hcall : (noteDump note).map (fun fields => fields.call (noteStamp note)) =
      some note.toCall := by
    dsimp only [noteDump, Option.map_some, EventDump.call, noteStamp, Audit.JsonCall.toCall]
    rw [hpayload, Option.map_some]
  have hqueued : calls.handle noteDump 0 (noteStamp note) note =
      { calls with
        logger := { logger with
                    holder := some (Audit.Pending.queue record (line ++ [PythonText.newline])) }
        holder := some 0 } := by
    obtain ⟨fields, hfields, hsame⟩ := Option.map_eq_some_iff.mp hcall
    dsimp only [AuditedBus.handle]
    rw [hfields]
    dsimp only
    rw [hsame, show calls.logger = logger from rfl, Audit.step_call_queued hidle hnew hline]
    rfl
  have hwritten : run (AuditedBus.step (fun _ _ => true) () noteDump)
      { calls with
        logger := { logger with
                    holder := some { Audit.Pending.queue record (line ++ [PythonText.newline]) with
                                     job := .running 0 } }
        holder := some 0 }
      [.thread (.puts (String.ofList (line ++ [PythonText.newline])).toUTF8.size)] =
      { calls with
        logger := { logger with
                    file := Audit.appendLine logger.file (line ++ [PythonText.newline])
                    holder := some {
                      entry := record
                      record := (String.ofList (line ++ [PythonText.newline])).toUTF8
                      job := .running (String.ofList (line ++ [PythonText.newline])).toUTF8.size } }
        holder := some 0 } := by
    rw [run, run]
    dsimp only [AuditedBus.step, ThreadStep.action]
    rw [Audit.step_put_whole]
  have hsplit : noteOps note (String.ofList (line ++ [PythonText.newline])).toUTF8.size =
      [.bus (.publish note .normal) (noteStamp note), .bus (.take 0) (noteStamp note)] ++
        ([.thread .starts] ++
          ([.thread (.puts (String.ofList (line ++ [PythonText.newline])).toUTF8.size)] ++
            [.thread .returns, .resumes (noteStamp note) ""])) := rfl
  have hstarted : run (AuditedBus.step (fun _ _ => true) () noteDump)
      { calls with
        logger := { logger with
                    holder := some (Audit.Pending.queue record (line ++ [PythonText.newline])) }
        holder := some 0 } [.thread .starts] =
      { calls with
        logger := { logger with
                    holder := some { Audit.Pending.queue record (line ++ [PythonText.newline]) with
                                     job := .running 0 } }
        holder := some 0 } := rfl
  rw [hsplit, run_append, htaken, hqueued, run_append, hstarted, run_append, hwritten]
  simp only [run, AuditedBus.step, ThreadStep.action, Audit.step, Audit.stepHolder, if_true]
  rw [hidle.1]
  rfl

/-- A note, and a second one after it. -/
theorem audit_log_records_events_notes : ∃ ops : List (AuditedInput String Note Unit),
    let final := auditedRun (fun _ _ => true) () noteDump defaultConfig
      ({ entries := [], file := none } : Audit.DurableLog Empty String String) ops
    let past := auditedTrace (fun _ _ => true) () noteDump defaultConfig
      ({ entries := [], file := none } : Audit.DurableLog Empty String String) ops
    final.logger.returned.length = 2 ∧ final.logger.entries = final.logger.returned ∧
      Audit.verifyChain final.logger.entries = .ok () ∧
      List.Forall₂ (Records noteDump) (audited past) final.logger.returned := by
  obtain ⟨first, second, hnew, hlater, hfirst, hsecond⟩ := Audit.notes_entries
  obtain ⟨line, hline, -⟩ := hfirst.line
  obtain ⟨laterLine, hlaterLine, -⟩ := hsecond.line
  let log : Audit.DurableLog Empty String String := { entries := [], file := none }
  let ops : List (AuditedInput String Note Unit) := [.bridgeStart] ++
    (noteOps (Audit.noteCall "one") (String.ofList (line ++ [PythonText.newline])).toUTF8.size ++
      noteOps Audit.laterNote (String.ofList (laterLine ++ [PythonText.newline])).toUTF8.size)
  have hrun : (auditedRun (fun _ _ => true) () noteDump defaultConfig log ops).logger.returned =
      [first, second] := by
    have hstart : run (AuditedBus.step (fun _ _ => true) () noteDump) (.new defaultConfig log)
        [.bridgeStart] = audits 0 (Audit.opened log) := rfl
    have hone := run_noteOps 0 (Audit.opened log) ⟨rfl, rfl⟩ (Audit.noteCall "one") rfl hnew hline
    let noted : Audit.LoggerState Empty String String :=
      { Audit.opened log with
        entries := [first]
        file := Audit.appendLine none (line ++ [PythonText.newline])
        returned := [first] }
    have htwo := run_noteOps 1 noted ⟨rfl, rfl⟩ Audit.laterNote rfl hlater hlaterLine
    rw [auditedRun, run_append, hstart, run_append, hone]
    change (run _ (audits 1 noted) _).logger.returned = _
    rw [htwo]
    rfl
  obtain ⟨hentries, hverified, hrecords, -⟩ :=
    audit_log_records_events (fun _ _ => true) () noteDump defaultConfig log ops
  refine ⟨ops, ?_, ?_, hverified noteDump_json rfl, hrecords⟩
  · rw [hrun]
    rfl
  · rw [hentries]
    exact List.nil_append _

/-- An event that has no JSON form: the bridge's handler raises before it calls `append`. -/
def failedOps : List (AuditedInput String Note Unit) :=
  [.bridgeStart, .bus (.publish (Audit.noteCall "one") .normal) (noteStamp (Audit.noteCall "one")),
    .bus (.take 0) (noteStamp (Audit.noteCall "one")),
    .raises 0 "PydanticSerializationError" "" (noteStamp (Audit.noteCall "one"))]

def failedTrace : List (AuditedEvent Empty String String Note Unit) :=
  auditedTrace (fun _ _ => true) () (fun _ => none) defaultConfig { entries := [], file := none }
    failedOps

def failedRun : AuditedBus Empty String String Note Unit :=
  auditedRun (fun _ _ => true) () (fun _ => none) defaultConfig { entries := [], file := none }
    failedOps

theorem accepted_events_audited_failed : (accepted (busPast failedTrace)).length = 1 ∧
    ∀ entry ∈ accepted (busPast failedTrace), entry ∈ audited failedTrace ∨
      (∃ failure ∈ failed (busPast failedTrace), failure.event = entry.event ∧
        failure.subscriptionId ∈ failedRun.handles ∧
        failure.handlerName = "EventAuditBridge._handle") ∨
      ∃ e ∈ failedTrace, e.before.subscription = none ∧ ∃ input matched,
        e.output = some (input, .took entry matched) := by
  have hclean : (busPast failedTrace).all (fun e => !aborts e) = true := by decide
  have hjoined : failedRun.bus.queue.unfinished = 0 := by decide
  refine ⟨by decide, ?_⟩
  unfold failedRun at hjoined ⊢
  unfold failedTrace at hclean ⊢
  apply accepted_events_audited (fun _ _ => true) () (fun _ => none) defaultConfig
    ({ entries := [], file := none } : Audit.DurableLog Empty String String) failedOps
    (fun _ => rfl)
  · intro e he habort
    have hkept := List.all_eq_true.mp hclean e he
    rw [(aborts_iff e).mpr habort] at hkept
    cases hkept
  · exact hjoined

end RoboticCharacter.EventAudit
