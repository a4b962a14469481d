import RoboticCharacter.AsciiJson
import RoboticCharacter.AuditLogger

/-! When a log that `append` wrote is read back: every line must be one line for the reader. -/
namespace RoboticCharacter.Audit
open PythonJson PythonText

/-- A call of `append` with labels that are not empty and a payload of JSON data. -/
structure JsonCall (φ υ : Type) where
  eventType : Label
  source : Label
  payload : Option (List (String × JsonData φ))
  interactionId : Option υ
  entryId : υ
  now : UtcTime

namespace JsonCall
variable {φ υ : Type}

def toCall (call : JsonCall φ υ) : AppendCall φ υ where
  eventType := call.eventType.1
  source := call.source.1
  payload := call.payload.map rawEntries
  interactionId := call.interactionId
  entryId := call.entryId
  now := call.now

/-- The payload that is recorded. -/
def data (call : JsonCall φ υ) : List (String × JsonData φ) := call.payload.getD []

theorem rawPayload_toCall (call : JsonCall φ υ) :
    call.toCall.rawPayload = rawEntries call.data := by
  unfold AppendCall.rawPayload toCall data
  cases call.payload <;> rfl

end JsonCall

section
variable {φ υ δ : Type}

/-- The characters of the strings that a caller chose for the entry. -/
def AuditEntry.chars (entry : AuditEntry φ υ δ) : List Char :=
  entry.eventType.1.toList ++ entry.source.1.toList ++
    entry.payload.flatMap fun item => item.1.toList ++ valueChars PyKey.chars item.2

/-- The characters of every string that the caller gives. -/
def AppendCall.chars (call : AppendCall φ υ) : List Char :=
  call.eventType.toList ++ call.source.toList ++ entriesChars PyKey.chars call.rawPayload

theorem stringKeys_chars {payload : List (PyKey φ × PyObject φ)} :
    ∀ {entries : List (String × PyObject φ)}, stringKeys payload = some entries →
      entriesChars PyKey.chars payload =
        entries.flatMap fun item => item.1.toList ++ valueChars PyKey.chars item.2 := by
  induction payload with
  | nil =>
    intro entries h
    cases h
    rfl
  | cons item payload ih =>
    obtain ⟨key, value⟩ := item
    intro entries h
    cases key with
    | str k =>
      obtain ⟨rest, hrest, rfl⟩ := Option.map_eq_some_iff.mp h
      rw [entriesChars, ih hrest, List.flatMap_cons, List.append_assoc]
      rfl
    | int n => cases h
    | bool b => cases h
    | float x => cases h
    | none => cases h

variable [PyFloat φ] [AuditModel φ υ δ]

/-- The line of an entry has no control characters and, above U+007E, the characters of the
entry's strings, and it is read back as the entry. -/
def LineTrips (entry : AuditEntry φ υ δ) : Prop :=
  ∃ line, AuditModel.dumpJson entry = some line ∧ (∀ c ∈ line, 32 ≤ c.toNat) ∧
    (∀ c, 126 < c.toNat → (c ∈ line ↔ c ∈ entry.chars)) ∧ readRecord line = some entry

/-- What pydantic and `json.loads` do with an entry: JSON data is dumped as it is, and the line
makes the round trip. -/
structure RoundTrips (entry : AuditEntry φ υ δ) : Prop where
  payload : ∀ data, entry.payload = objectEntries data →
    jsonPayload υ δ entry.payload = some data
  line : LineTrips entry

theorem Appended.chars {entries : List (AuditEntry φ υ δ)} {call : AppendCall φ υ}
    {entry : AuditEntry φ υ δ} (h : Appended entries call entry) : entry.chars = call.chars := by
  unfold AuditEntry.chars AppendCall.chars
  rw [h.eventType, h.source, ← stringKeys_chars h.payload]

theorem Appended.data {entries : List (AuditEntry φ υ δ)} {call : JsonCall φ υ}
    {entry : AuditEntry φ υ δ} (h : Appended entries call.toCall entry) :
    entry.payload = objectEntries call.data := by
  apply Option.some.inj
  rw [← stringKeys_rawEntries, ← call.rawPayload_toCall, h.payload]

/-! ### One line -/

theorem breaksLine_code {c : Char} (h : breaksLine c = true) : 126 < c.toNat := by
  simp only [breaksLine, Bool.or_eq_true, beq_iff_eq] at h
  omega

/-- A record without a line break is one line of the text. -/
theorem loadText_append {text line : List Char} {entries : List (AuditEntry φ υ δ)}
    {entry : AuditEntry φ υ δ} (hends : EndsLine text) (htext : loadText text = .ok entries)
    (hline : ∀ c ∈ line, isLineBreak c = false) (hrecord : readRecord line = some entry) :
    loadText (text ++ (line ++ [newline])) = .ok (entries ++ [entry]) := by
  have hne : newline.toNat ≠ 13 := by decide
  have hlines : splitlines (line ++ [newline]) = [line] :=
    splitlines_line hline isLineBreak_newline hne []
  have hblank : isBlank line = false := by
    obtain ⟨v, hv, -⟩ := Option.bind_eq_some_iff.mp hrecord
    exact isBlank_of_loads hv
  unfold loadText at htext ⊢
  rw [splitlines_append hends, hlines]
  apply loadLines_append [line] htext
  rw [loadLines_cons_of_record hblank hrecord]
  rfl

/-- A record with a line break: its first piece is no record. If it were one, it would be a
whole JSON object, and the record would have something after its object. -/
theorem readRecord_piece {piece rest : List Char} {c : Char} (hc : breaksLine c = true)
    {entry : AuditEntry φ υ δ} (hrecord : readRecord (piece ++ c :: rest) = some entry) :
    isBlank piece = false ∧ (readRecord piece : Option (AuditEntry φ υ δ)) = none := by
  obtain ⟨hspace, hjson, -⟩ := breaksLine_space hc
  obtain ⟨v, hv, -⟩ := Option.bind_eq_some_iff.mp hrecord
  refine ⟨?_, ?_⟩
  · by_contra hblank
    have hall := (isBlank_iff piece).mp (Bool.of_not_eq_false hblank)
    rw [loads_blank_append hall hspace hjson] at hv
    cases hv
  · by_contra hsome
    obtain ⟨other, hother⟩ := Option.ne_none_iff_exists'.mp hsome
    obtain ⟨w, hw, hvalid⟩ := Option.bind_eq_some_iff.mp hother
    obtain ⟨fields, rfl⟩ := AuditModel.validate_dict hvalid
    rw [loads_object_append hw hjson] at hv
    cases hv

/-- A log with such a record does not load, whatever stands around the record. -/
theorem loadText_broken {text line later : List Char} (hends : EndsLine text)
    (hcontrols : ∀ c ∈ line, 32 ≤ c.toNat) {c : Char} (hmem : c ∈ line)
    (hc : breaksLine c = true) {entry : AuditEntry φ υ δ} (hrecord : readRecord line = some entry) :
    ∃ error, (loadText (text ++ (line ++ newline :: later)) :
      Except LogError (List (AuditEntry φ υ δ))) = .error error := by
  have hsplit : line.takeWhile (fun d => !isLineBreak d) ++
      line.dropWhile (fun d => !isLineBreak d) = line := List.takeWhile_append_dropWhile
  have hpiece : ∀ d ∈ line.takeWhile (fun d => !isLineBreak d), isLineBreak d = false := by
    intro d hd
    have htake := List.mem_takeWhile_imp hd
    rwa [Bool.not_eq_true'] at htake
  cases hdrop : line.dropWhile (fun d => !isLineBreak d) with
  | nil =>
    -- The whole line would be without a break.
    rw [hdrop, List.append_nil] at hsplit
    rw [← hsplit] at hmem
    have hnot := hpiece c hmem
    rw [isLineBreak_iff (hcontrols c (by rw [← hsplit]; exact hmem)), hc] at hnot
    cases hnot
  | cons d tail =>
    have hbreak : isLineBreak d = true := by
      have hhead := List.head?_dropWhile_not (fun d => !isLineBreak d) line
      rw [hdrop] at hhead
      simpa using hhead
    have hdmem : d ∈ line := by
      rw [← hsplit, hdrop]
      exact List.mem_append_right _ List.mem_cons_self
    have hdbreak : breaksLine d = true := by
      rw [← isLineBreak_iff (hcontrols d hdmem)]
      exact hbreak
    rw [hdrop] at hsplit
    rw [← hsplit] at hrecord
    obtain ⟨hblank, hnone⟩ := readRecord_piece hdbreak hrecord
    have hsplitLine : line.takeWhile (fun d => !isLineBreak d) ++ d :: (tail ++ newline :: later) =
        line ++ newline :: later := by
      rw [← List.cons_append, ← List.append_assoc, hsplit]
    have hline := splitlines_line hpiece hbreak (breaksLine_space hdbreak).2.2
      (tail ++ newline :: later)
    rw [hsplitLine] at hline
    unfold loadText
    rw [splitlines_append hends, hline]
    exact loadLines_error (List.mem_append_right _ List.mem_cons_self) hblank hnone 1

/-! ### Files -/

/-- The file holds this text; one that does not exist holds none. -/
def FileHolds (file : Option ByteArray) (text : List Char) : Prop :=
  (file = none ∧ text = []) ∨ file = some (String.ofList text).toUTF8

theorem load_of_holds {file : Option ByteArray} {text : List Char} (h : FileHolds file text) :
    (load file : Except LogError (List (AuditEntry φ υ δ))) = loadText text := by
  obtain ⟨rfl, rfl⟩ | rfl := h
  · rfl
  · have hbytes : (String.ofList text).toUTF8 = text.utf8Encode := String.toByteArray_ofList
    unfold load
    simp only [hbytes, List.utf8Decode?_utf8Encode]

theorem FileHolds.appendLine {file : Option ByteArray} {text : List Char}
    (h : FileHolds file text) (line : List Char) :
    FileHolds (appendLine file line) (text ++ line) := by
  have hbytes : ∀ s : List Char, (String.ofList s).toUTF8 = s.utf8Encode :=
    fun s => String.toByteArray_ofList
  refine Or.inr (congrArg some ?_)
  obtain ⟨rfl, rfl⟩ | rfl := h
  · rw [List.nil_append]
    exact ByteArray.empty_append
  · rw [Option.getD_some, hbytes, hbytes, hbytes, List.utf8Encode_append]

/-- The file is read back as the chain in memory, and the next line starts on its own. -/
def Durable (log : DurableLog φ υ δ) : Prop :=
  ∃ text, FileHolds log.file text ∧ EndsLine text ∧ loadText text = .ok log.entries ∧
    verifyChain log.entries = .ok ()

theorem Durable.openLogger {log : DurableLog φ υ δ} (h : Durable log) :
    openLogger log.file = .ok log.entries := by
  obtain ⟨text, hfile, -, htext, hchain⟩ := h
  unfold Audit.openLogger
  rw [load_of_holds hfile, htext]
  simp only [hchain]

/-- A call whose strings do not break a line. -/
def AppendCall.OneLine (call : AppendCall φ υ) : Prop := ∀ c ∈ call.chars, breaksLine c = false

/-- JSON data keeps its text. -/
theorem RoundTrips.keepsText {entries : List (AuditEntry φ υ δ)} {call : JsonCall φ υ}
    {entry : AuditEntry φ υ δ} (h : RoundTrips entry)
    (happended : Appended entries call.toCall entry) :
    KeepsText υ δ call.toCall.rawPayload := by
  rw [call.rawPayload_toCall]
  apply keepsText_rawEntries
  rw [← happended.data]
  exact h.payload call.data happended.data

/-- The call's record goes to the file and its entry to the chain. -/
theorem appendDurable_cases {log next : DurableLog φ υ δ} {call : AppendCall φ υ}
    (h : appendDurable log call = some next) :
    ∃ entry line, newEntry log.entries call = some entry ∧
      AuditModel.dumpJson entry = some line ∧ next.entries = log.entries ++ [entry] ∧
      next.file = appendLine log.file (line ++ [newline]) := by
  obtain ⟨entry, hnew, hrest⟩ := Option.bind_eq_some_iff.mp h
  obtain ⟨record, hrecord, rfl⟩ := Option.map_eq_some_iff.mp hrest
  obtain ⟨line, hline, rfl⟩ := Option.map_eq_some_iff.mp hrecord
  exact ⟨entry, line, hnew, hline, rfl, rfl⟩

/-- A call of one line whose payload keeps its text keeps the log durable. -/
theorem Durable.append {log : DurableLog φ υ δ} (h : Durable log) {call : AppendCall φ υ}
    {entry : AuditEntry φ υ δ} (hnew : newEntry log.entries call = some entry)
    (htrips : LineTrips entry) (hkeeps : KeepsText υ δ call.rawPayload) (hcall : call.OneLine)
    {line : List Char} (hline : AuditModel.dumpJson entry = some line) :
    Durable { entries := log.entries ++ [entry],
              file := appendLine log.file (line ++ [newline]) } := by
  obtain ⟨text, hfile, hends, htext, hchain⟩ := h
  obtain ⟨dumped, hdumped, hcontrols, hchars, hrecord⟩ := htrips
  rw [hline] at hdumped
  obtain rfl := Option.some.inj hdumped
  have happended := newEntry_appended hnew
  -- A break of the line would be a character of one of the caller's strings.
  have hsafe : ∀ c ∈ line, isLineBreak c = false := by
    intro c hc
    rw [isLineBreak_iff (hcontrols c hc)]
    by_contra hbreak
    have hbreak := Bool.of_not_eq_false hbreak
    have hmem := (hchars c (breaksLine_code hbreak)).mp hc
    rw [happended.chars] at hmem
    rw [hcall c hmem] at hbreak
    cases hbreak
  exact ⟨text ++ (line ++ [newline]), hfile.appendLine _,
    Or.inr ⟨text ++ line, (List.append_assoc _ _ _).symm⟩,
    loadText_append hends htext hsafe hrecord,
    (verifyChain_concat _ _).mpr ⟨hchain, happended.accepted_of_keepsText hkeeps⟩⟩

/-- A run that starts on an empty log writes the lines of its entries, one after the other. -/
theorem appendAllDurable_cons {log final : DurableLog φ υ δ} {call : AppendCall φ υ}
    {calls : List (AppendCall φ υ)} (h : appendAllDurable log (call :: calls) = some final) :
    ∃ next, appendDurable log call = some next ∧ appendAllDurable next calls = some final :=
  Option.bind_eq_some_iff.mp h

theorem appendAllDurable_prefix {final : DurableLog φ υ δ} (calls : List (AppendCall φ υ)) :
    ∀ {log : DurableLog φ υ δ}, appendAllDurable log calls = some final →
      log.entries <+: final.entries ∧ ∀ text, FileHolds log.file text →
        ∃ later, FileHolds final.file (text ++ later) := by
  induction calls with
  | nil =>
    intro log h
    cases h
    refine ⟨List.prefix_refl _, ?_⟩
    intro text htext
    exact ⟨[], by rwa [List.append_nil]⟩
  | cons call calls ih =>
    intro log h
    obtain ⟨next, hstep, hrest⟩ := appendAllDurable_cons h
    obtain ⟨entry, line, -, -, hentries, hfile⟩ := appendDurable_cases hstep
    obtain ⟨hkept, hlater⟩ := ih hrest
    rw [hentries] at hkept
    refine ⟨(List.prefix_append _ _).trans hkept, ?_⟩
    intro text htext
    obtain ⟨later, hfinal⟩ := hlater (text ++ (line ++ [newline])) (by
      rw [hfile]
      exact htext.appendLine _)
    rw [List.append_assoc] at hfinal
    exact ⟨_, hfinal⟩

/-- Calls without line breaks keep the log durable. -/
theorem durable_of_oneLine {final : DurableLog φ υ δ} (calls : List (JsonCall φ υ)) :
    ∀ {log : DurableLog φ υ δ}, Durable log →
      appendAllDurable log (calls.map JsonCall.toCall) = some final →
      (∀ entry ∈ final.entries, RoundTrips entry) → (∀ call ∈ calls, call.toCall.OneLine) →
      Durable final := by
  induction calls with
  | nil =>
    intro log hlog h _ _
    cases h
    exact hlog
  | cons call calls ih =>
    intro log hlog h hround hcalls
    obtain ⟨next, hstep, hrest⟩ := appendAllDurable_cons h
    obtain ⟨entry, line, hnew, hline, hentries, hfile⟩ := appendDurable_cases hstep
    have hmem : entry ∈ final.entries := by
      have hgrows := appendAllDurable_prefix _ hrest
      apply hgrows.1.subset
      rw [hentries]
      exact List.mem_append_right _ (List.mem_singleton_self entry)
    have hkeeps := (hround entry hmem).keepsText (newEntry_appended hnew)
    have hnext := hlog.append hnew (hround entry hmem).line hkeeps
      (hcalls call List.mem_cons_self) hline
    have heq : next = { entries := log.entries ++ [entry],
                        file := appendLine log.file (line ++ [newline]) } := by
      rw [← hentries, ← hfile]
    rw [← heq] at hnext
    exact ih hnext hrest hround fun later hlater => hcalls later (List.mem_cons_of_mem call hlater)

/-- One call with a line break spoils the file for good. -/
theorem broken_of_lineBreak {final : DurableLog φ υ δ} (calls : List (JsonCall φ υ)) :
    ∀ {log : DurableLog φ υ δ} {text : List Char}, FileHolds log.file text → EndsLine text →
      appendAllDurable log (calls.map JsonCall.toCall) = some final →
      (∀ entry ∈ final.entries, RoundTrips entry) → (∃ call ∈ calls, ¬ call.toCall.OneLine) →
      ∃ error, (load final.file : Except LogError (List (AuditEntry φ υ δ))) = .error error := by
  induction calls with
  | nil =>
    intro log text _ _ _ _ hbad
    obtain ⟨call, hcall, -⟩ := hbad
    exact absurd hcall List.not_mem_nil
  | cons call calls ih =>
    intro log text htext hends h hround hbad
    obtain ⟨next, hstep, hrest⟩ := appendAllDurable_cons h
    obtain ⟨entry, line, hnew, hline, hentries, hfile⟩ := appendDurable_cases hstep
    obtain ⟨hkept, hlater⟩ := appendAllDurable_prefix _ hrest
    have hnext : FileHolds next.file (text ++ (line ++ [newline])) := by
      rw [hfile]
      exact htext.appendLine _
    obtain ⟨bad, hmem, hbreaks⟩ := hbad
    obtain rfl | hmem := List.mem_cons.mp hmem
    · have hentry : entry ∈ final.entries := by
        apply hkept.subset
        rw [hentries]
        exact List.mem_append_right _ (List.mem_singleton_self entry)
      obtain ⟨dumped, hdumped, hcontrols, hchars, hrecord⟩ := (hround entry hentry).line
      rw [hline] at hdumped
      obtain rfl := Option.some.inj hdumped
      obtain ⟨c, hc⟩ := not_forall.mp hbreaks
      obtain ⟨hcmem, hcbreak⟩ := Classical.not_imp.mp hc
      have hcbreak := Bool.of_not_eq_false hcbreak
      rw [← (newEntry_appended hnew).chars] at hcmem
      have hcline := (hchars c (breaksLine_code hcbreak)).mpr hcmem
      obtain ⟨later, hholds⟩ := hlater _ hnext
      rw [load_of_holds hholds, List.append_assoc, List.append_assoc]
      exact loadText_broken hends hcontrols hcline hcbreak hrecord
    · exact ih hnext (Or.inr ⟨text ++ line, (List.append_assoc _ _ _).symm⟩) hrest hround
        ⟨bad, hmem, hbreaks⟩

/-- A log that successful calls wrote is read back as the writer's entries exactly when no
string of the calls has a character that ends a line and is not escaped. -/
theorem durable_log_reloads_iff (calls : List (JsonCall φ υ)) (log : DurableLog φ υ δ)
    (hrun : appendAllDurable { entries := [], file := none } (calls.map JsonCall.toCall) = some log)
    (hround : ∀ entry ∈ log.entries, RoundTrips entry) :
    openLogger log.file = .ok log.entries ↔ ∀ call ∈ calls, call.toCall.OneLine := by
  have hempty : FileHolds none [] := Or.inl ⟨rfl, rfl⟩
  constructor
  · intro hopen call hcall
    by_contra hbad
    obtain ⟨error, herror⟩ := broken_of_lineBreak calls hempty (Or.inl rfl) hrun hround
      ⟨call, hcall, hbad⟩
    unfold openLogger at hopen
    rw [herror] at hopen
    cases hopen
  · intro hcalls
    have hstart : Durable ({ entries := [], file := none } : DurableLog φ υ δ) :=
      ⟨[], hempty, Or.inl rfl, rfl, rfl⟩
    exact (durable_of_oneLine calls hstart hrun hround hcalls).openLogger

end
/-! ### A record with U+2028 -/

/-- The dict that `model_dump_json` writes, its fields in the order of the model. -/
def entryJson (entry : AuditEntry Empty String String) (payload : List (String × JsonData Empty)) :
    JsonData Empty :=
  .dict [("entry_id", .str entry.entryId), ("sequence", .int entry.sequence),
    ("timestamp", .str entry.timestamp), ("event_type", .str entry.eventType.1),
    ("source", .str entry.source.1), ("interaction_id", entry.interactionId.elim .none .str),
    ("payload", .dict payload), ("previous_hash", .str entry.previousHash.1),
    ("entry_hash", .str entry.entryHash.1)]

def field (fields : List (String × JsonData Empty)) (name : String) : Option (JsonData Empty) :=
  (fields.find? fun item => item.1 == name).map Prod.snd

def textField (fields : List (String × JsonData Empty)) (name : String) : Option String :=
  match field fields name with
  | some (.str s) => some s
  | _ => none

def optionalField (fields : List (String × JsonData Empty)) (name : String) :
    Option (Option String) :=
  match field fields name with
  | some .none => some none
  | some (.str s) => some (some s)
  | _ => none

def intField (fields : List (String × JsonData Empty)) (name : String) : Option ℕ :=
  match field fields name with
  | some (.int (.ofNat n)) => some n
  | _ => none

def dictField (fields : List (String × JsonData Empty)) (name : String) :
    Option (List (String × JsonData Empty)) :=
  match field fields name with
  | some (.dict es) => some es
  | _ => none

def labelOf (s : String) : Option Label := if h : 1 ≤ s.length then some ⟨s, h⟩ else none

def digestOf (s : String) : Option Digest := if h : s.length = 64 then some ⟨s, h⟩ else none

/-- The validation of a record that has every field. -/
def readEntry : JsonData Empty → Option (AuditEntry Empty String String)
  | .dict fields => do
    let entryId ← textField fields "entry_id"
    let sequence ← intField fields "sequence"
    let timestamp ← textField fields "timestamp"
    let eventType ← (textField fields "event_type").bind labelOf
    let source ← (textField fields "source").bind labelOf
    let interactionId ← optionalField fields "interaction_id"
    let payload ← dictField fields "payload"
    let previousHash ← (textField fields "previous_hash").bind digestOf
    let entryHash ← (textField fields "entry_hash").bind digestOf
    some
      { entryId := entryId, sequence := sequence, timestamp := timestamp, eventType := eventType,
        source := source, interactionId := interactionId, payload := objectEntries payload,
        previousHash := previousHash, entryHash := entryHash }
  | _ => none

theorem readEntry_dict {v : JsonData Empty} {entry : AuditEntry Empty String String}
    (h : readEntry v = some entry) : ∃ fields, v = .dict fields := by
  cases v with
  | dict fields => exact ⟨fields, rfl⟩
  | none => cases h
  | bool b => cases h
  | int n => cases h
  | float x => cases h
  | str s => cases h
  | list vs => cases h

instance : AuditModel Empty String String where
  dumpJson entry := (jsonPayload String String entry.payload).map fun payload =>
    render (entryJson entry payload)
  validate := readEntry
  validate_dict := readEntry_dict

/-- The fields of the written dict. -/
def entryFieldsJson (entry : AuditEntry Empty String String)
    (payload : List (String × JsonData Empty)) : List (String × JsonData Empty) :=
  match entryJson entry payload with
  | .dict fields => fields
  | _ => []

theorem readEntry_entryJson (entry : AuditEntry Empty String String)
    {data : List (String × JsonData Empty)} (hdata : entry.payload = objectEntries data) :
    readEntry (entryJson entry data) = some entry := by
  have hlabel : ∀ s : Label, labelOf s.1 = some s := fun s => dif_pos s.2
  have hdigest : ∀ s : Digest, digestOf s.1 = some s := fun s => dif_pos s.2
  have hid : textField (entryFieldsJson entry data) "entry_id" = some entry.entryId := rfl
  have hsequence : intField (entryFieldsJson entry data) "sequence" = some entry.sequence := rfl
  have htime : textField (entryFieldsJson entry data) "timestamp" = some entry.timestamp := rfl
  have hevent : textField (entryFieldsJson entry data) "event_type" = some entry.eventType.1 := rfl
  have hsource : textField (entryFieldsJson entry data) "source" = some entry.source.1 := rfl
  have hinteraction : optionalField (entryFieldsJson entry data) "interaction_id" =
      some entry.interactionId := by
    have hfield : field (entryFieldsJson entry data) "interaction_id" =
        some (entry.interactionId.elim .none .str) := rfl
    unfold optionalField
    rw [hfield]
    cases entry.interactionId <;> rfl
  have hpayload : dictField (entryFieldsJson entry data) "payload" = some data := rfl
  have hprevious : textField (entryFieldsJson entry data) "previous_hash" =
      some entry.previousHash.1 := rfl
  have hhash : textField (entryFieldsJson entry data) "entry_hash" = some entry.entryHash.1 := rfl
  have hdict : entryJson entry data = .dict (entryFieldsJson entry data) := rfl
  rw [hdict]
  simp only [readEntry, hid, hsequence, htime, hevent, hsource, hinteraction, hpayload, hprevious,
    hhash, Option.bind_eq_bind, Option.bind_some, hlabel, hdigest, ← hdata]

theorem jsonPayload_objectEntries (data : List (String × JsonData Empty)) :
    jsonPayload String String (objectEntries data) = some data := by
  induction data with
  | nil => rfl
  | cons entry data ih =>
    have hmode : AuditFields.jsonMode String String
        (mapKeys (PyKey.str : String → PyKey Empty) entry.2) = some entry.2 :=
      congrArg some (mapKeys_leftInverse (fun _ => rfl) entry.2)
    unfold objectEntries at ih ⊢
    rw [List.map_cons, jsonPayload, hmode, ih]
    rfl

/-- The characters of an entry that no caller chose. -/
def AuditEntry.ownChars (entry : AuditEntry Empty String String) : List Char :=
  entry.entryId.toList ++ (entry.timestamp.toList ++ ((entry.interactionId.getD "").toList ++
    (entry.previousHash.1.toList ++ entry.entryHash.1.toList)))

theorem entriesChars_objectEntries (data : List (String × JsonData Empty)) :
    ((objectEntries data).flatMap fun item => item.1.toList ++ valueChars PyKey.chars item.2) =
      entriesChars String.toList data := by
  induction data with
  | nil => rfl
  | cons item data ih =>
    unfold objectEntries at ih ⊢
    rw [List.map_cons, List.flatMap_cons, ih, valueChars_mapKeys, entriesChars, List.append_assoc]
    rfl

theorem ascii_of_all {text : List Char} (h : (text.all fun c => decide (c.toNat ≤ 126)) = true) :
    ∀ c ∈ text, c.toNat ≤ 126 := fun c hc => of_decide_eq_true (List.all_eq_true.mp h c hc)

/-- Above U+007E, the written entry has the characters of the caller's strings. -/
theorem mem_chars_entryJson (entry : AuditEntry Empty String String)
    {data : List (String × JsonData Empty)} (hdata : entry.payload = objectEntries data)
    (hown : ∀ c ∈ entry.ownChars, c.toNat ≤ 126) (c : Char) (hbeyond : 126 < c.toNat) :
    c ∈ valueChars String.toList (entryJson entry data) ↔ c ∈ entry.chars := by
  have hnames : (["entry_id", "sequence", "timestamp", "event_type", "source", "interaction_id",
      "payload", "previous_hash", "entry_hash"].all fun name =>
        name.toList.all fun d => decide (d.toNat ≤ 126)) = true := by decide
  have hname : ∀ name ∈ ["entry_id", "sequence", "timestamp", "event_type", "source",
      "interaction_id", "payload", "previous_hash", "entry_hash"], c ∉ name.toList :=
    fun name hmem hc =>
      absurd (ascii_of_all (List.all_eq_true.mp hnames name hmem) c hc) (by omega)
  simp only [List.forall_mem_cons] at hname
  obtain ⟨hid, hsequence, htime, hevent, hsource, hinteraction, hpayload, hprevious, hhash, -⟩ :=
    hname
  have hnot : c ∉ entry.ownChars := fun hc => absurd (hown c hc) (by omega)
  unfold AuditEntry.ownChars at hnot
  simp only [List.mem_append, not_or] at hnot
  have hasked : c ∉ valueChars String.toList
      (entry.interactionId.elim (.none : JsonData Empty) .str) := by
    cases hasked : entry.interactionId with
    | none => exact List.not_mem_nil
    | some id =>
      have hfree := hnot.2.2.1
      rw [hasked] at hfree
      exact hfree
  unfold AuditEntry.chars entryJson
  rw [hdata, entriesChars_objectEntries]
  simp only [valueChars, entriesChars, List.mem_append, hid, hsequence, htime, hevent, hsource,
    hinteraction, hpayload, hprevious, hhash, hnot.1, hnot.2.1, hnot.2.2.2.1, hnot.2.2.2.2, hasked,
    List.not_mem_nil, false_or, or_false, or_assoc]

theorem roundTrips_of_ascii {entry : AuditEntry Empty String String}
    {data : List (String × JsonData Empty)} (hdata : entry.payload = objectEntries data)
    (hpairs : (ofPairsEntries data).foldl setItem [] = data)
    (hown : ∀ c ∈ entry.ownChars, c.toNat ≤ 126) : RoundTrips entry := by
  have hline : AuditModel.dumpJson entry = some (render (entryJson entry data)) := by
    have hpayload := jsonPayload_objectEntries data
    rw [← hdata] at hpayload
    exact congrArg (Option.map fun payload => render (entryJson entry payload)) hpayload
  have hfields : ofPairs (entryJson entry data) = entryJson entry data := by
    have hinner : ofPairsEntries (entryFieldsJson entry data) = entryFieldsJson entry data := by
      unfold entryFieldsJson entryJson
      simp only [ofPairsEntries, ofPairs, hpairs]
      cases entry.interactionId <;> rfl
    have hkeys : (([] ++ entryFieldsJson entry data).map Prod.fst).Nodup := by
      have hnames : ([] ++ entryFieldsJson entry data).map Prod.fst =
          ["entry_id", "sequence", "timestamp", "event_type", "source", "interaction_id",
            "payload", "previous_hash", "entry_hash"] := rfl
      rw [hnames]
      decide
    have hdict : entryJson entry data = .dict (entryFieldsJson entry data) := rfl
    rw [hdict, ofPairs, hinner, foldl_setItem _ hkeys, List.nil_append]
  have hspells := spells_render (entryJson entry data)
  refine ⟨?_, render (entryJson entry data), hline, hspells.controls, ?_, ?_⟩
  · intro other hother
    rw [hother]
    exact jsonPayload_objectEntries other
  · intro c hbeyond
    rw [hspells.beyond c hbeyond]
    exact mem_chars_entryJson entry hdata hown c hbeyond
  · unfold readRecord
    rw [loads_render, hfields]
    exact readEntry_entryJson entry hdata

theorem textHash_ascii (text : String) : ∀ c ∈ (textHash text).1.toList, c.toNat ≤ 126 :=
  Sha256.hexdigest_ascii _

theorem genesisHash_ascii : ∀ c ∈ genesisHash.1.toList, c.toNat ≤ 126 :=
  ascii_of_all (by decide)

def noteCall (text : String) : JsonCall Empty String where
  eventType := ⟨"OperatorNote", Nat.le_add_left 1 11⟩
  source := ⟨"tests", Nat.le_add_left 1 4⟩
  payload := some [("text", .str text)]
  interactionId := none
  entryId := "00000000-0000-4000-8000-000000000002"
  now := { year := 2026, month := 1, day := 1, hour := 0, minute := 0, second := 0,
           microsecond := 0 }

/-- A note of two lines with U+2028 between them. -/
def twoLines : String := String.ofList ['o', 'n', 'e', Char.ofNat 0x2028, 't', 'w', 'o']

/-- A second note, a minute after the first. -/
def laterNote : JsonCall Empty String where
  eventType := ⟨"OperatorNote", Nat.le_add_left 1 11⟩
  source := ⟨"tests", Nat.le_add_left 1 4⟩
  payload := some [("text", .str "two"), ("count", .int 12)]
  interactionId := some "00000000-0000-4000-8000-000000000004"
  entryId := "00000000-0000-4000-8000-000000000003"
  now := { year := 2026, month := 1, day := 1, hour := 0, minute := 1, second := 0,
           microsecond := 0 }

theorem Appended.lastHash_ascii {entries : List (AuditEntry Empty String String)}
    {call : AppendCall Empty String} {entry : AuditEntry Empty String String}
    (h : Appended entries call entry) : ∀ c ∈ entry.entryHash.1.toList, c.toNat ≤ 126 := by
  obtain ⟨text, -, hhash⟩ := Option.map_eq_some_iff.mp h.entryHash
  rw [← hhash]
  exact textHash_ascii text

/-- Whatever the chain before it, the entry of a call with an ASCII id and time round trips. -/
theorem Appended.roundTrips {entries : List (AuditEntry Empty String String)}
    {call : JsonCall Empty String} {entry : AuditEntry Empty String String}
    (h : Appended entries call.toCall entry)
    (hlast : ∀ c ∈ (lastHash entries).1.toList, c.toNat ≤ 126)
    (hpairs : (ofPairsEntries call.data).foldl setItem [] = call.data)
    (hown : ∀ c ∈ call.entryId.toList ++ (call.now.text.toList ++
      (call.interactionId.getD "").toList), c.toNat ≤ 126) : RoundTrips entry := by
  apply roundTrips_of_ascii h.data hpairs
  have htime : entry.timestamp = call.now.text := h.timestamp
  unfold AuditEntry.ownChars
  rw [htime, h.entryId, h.interactionId, h.previousHash]
  intro c hc
  simp only [List.mem_append] at hc hown
  rcases hc with hid | htime | hasked | hprevious | hhash
  · exact hown c (.inl hid)
  · exact hown c (.inr (.inl htime))
  · exact hown c (.inr (.inr hasked))
  · exact hlast c hprevious
  · exact h.lastHash_ascii c hhash

theorem noteCall_runs : ∀ text ∈ [twoLines, "one"],
    (newEntry ([] : List (AuditEntry Empty String String)) (noteCall text).toCall).isSome
      = true := by
  decide

theorem laterNote_runs :
    ((newEntry ([] : List (AuditEntry Empty String String)) (noteCall "one").toCall).bind
      fun first => newEntry [first] laterNote.toCall).isSome = true := by
  decide

theorem noteCall_roundTrips {text : String} {entry : AuditEntry Empty String String}
    (hnew : newEntry [] (noteCall text).toCall = some entry) : RoundTrips entry := by
  refine (newEntry_appended hnew).roundTrips genesisHash_ascii rfl ?_
  change ∀ c ∈ (noteCall "").entryId.toList ++ ((noteCall "").now.text.toList ++
    ((noteCall "").interactionId.getD "").toList), c.toNat ≤ 126
  exact ascii_of_all (by decide)

theorem noteCall_oneLine : (noteCall "one").toCall.OneLine := by
  have hall : ((noteCall "one").toCall.chars.all fun c => !breaksLine c) = true := by
    decide
  intro c hc
  simpa using List.all_eq_true.mp hall c hc

theorem laterNote_oneLine : laterNote.toCall.OneLine := by
  have hall : (laterNote.toCall.chars.all fun c => !breaksLine c) = true := by decide
  intro c hc
  simpa using List.all_eq_true.mp hall c hc

theorem laterNote_ascii : ∀ c ∈ laterNote.entryId.toList ++ (laterNote.now.text.toList ++
    (laterNote.interactionId.getD "").toList), c.toNat ≤ 126 := ascii_of_all (by decide)

/-- The entries of the two notes. -/
theorem notes_entries : ∃ first second : AuditEntry Empty String String,
    newEntry [] (noteCall "one").toCall = some first ∧
      newEntry [first] laterNote.toCall = some second ∧ RoundTrips first ∧ RoundTrips second := by
  obtain ⟨second, hsecond⟩ := Option.isSome_iff_exists.mp laterNote_runs
  obtain ⟨first, hnew, hlater⟩ := Option.bind_eq_some_iff.mp hsecond
  have hlast : lastHash [first] = first.entryHash := rfl
  refine ⟨first, second, hnew, hlater, noteCall_roundTrips hnew,
    (newEntry_appended hlater).roundTrips ?_ rfl laterNote_ascii⟩
  rw [hlast]
  exact (newEntry_appended hnew).lastHash_ascii

theorem appendDurable_of_roundTrips (log : DurableLog Empty String String)
    {call : AppendCall Empty String} {entry : AuditEntry Empty String String}
    (hnew : newEntry log.entries call = some entry) (hround : RoundTrips entry) :
    ∃ line, AuditModel.dumpJson entry = some line ∧ appendDurable log call =
      some { entries := log.entries ++ [entry],
             file := appendLine log.file (line ++ [newline]) } := by
  obtain ⟨line, hline, -⟩ := hround.line
  refine ⟨line, hline, ?_⟩
  unfold appendDurable recordLine
  rw [hnew, Option.bind_some, hline]
  rfl

/-- The log of one note. -/
theorem noteCall_log (text : String) (htext : text ∈ [twoLines, "one"]) :
    ∃ log : DurableLog Empty String String,
      appendAllDurable { entries := [], file := none } [(noteCall text).toCall] = some log ∧
        ∀ entry ∈ log.entries, RoundTrips entry := by
  obtain ⟨entry, hnew⟩ := Option.isSome_iff_exists.mp (noteCall_runs text htext)
  have hround := noteCall_roundTrips hnew
  obtain ⟨line, -, hstep⟩ := appendDurable_of_roundTrips
    { entries := [], file := none } hnew hround
  refine ⟨{ entries := [entry], file := appendLine none (line ++ [newline]) }, ?_, ?_⟩
  · rw [appendAllDurable, hstep]
    rfl
  · intro other hother
    rw [List.mem_singleton.mp hother]
    exact hround

/-- `splitlines` cuts the record of such a note in two, and neither piece is JSON. -/
theorem durable_log_unreadable :
    ∃ (calls : List (JsonCall Empty String)) (log : DurableLog Empty String String),
      appendAllDurable { entries := [], file := none } (calls.map JsonCall.toCall) = some log ∧
      (∀ entry ∈ log.entries, RoundTrips entry) ∧
      ∃ error, (openLogger log.file :
        Except LogError (List (AuditEntry Empty String String))) = .error error := by
  obtain ⟨log, hrun, hround⟩ := noteCall_log twoLines List.mem_cons_self
  have hbad : ¬ (noteCall twoLines).toCall.OneLine := by
    intro h
    have hbreak := h (Char.ofNat 0x2028) (by decide)
    revert hbreak
    decide
  obtain ⟨error, herror⟩ := broken_of_lineBreak [noteCall twoLines] (Or.inl ⟨rfl, rfl⟩)
    (Or.inl rfl) hrun hround ⟨noteCall twoLines, List.mem_singleton_self _, hbad⟩
  refine ⟨[noteCall twoLines], log, hrun, hround, error, ?_⟩
  unfold openLogger
  rw [herror]

theorem durable_log_reloads_notes :
    ∃ log : DurableLog Empty String String,
      appendAllDurable { entries := [], file := none }
          ([noteCall "one", laterNote].map JsonCall.toCall) = some log ∧
        log.entries.length = 2 ∧ openLogger log.file = .ok log.entries := by
  obtain ⟨first, second, hnew, hlater, hfirst, hsecond⟩ := notes_entries
  obtain ⟨line, -, hstep⟩ := appendDurable_of_roundTrips
    { entries := [], file := none } hnew hfirst
  obtain ⟨laterLine, -, hlaterStep⟩ := appendDurable_of_roundTrips
    { entries := [first], file := appendLine none (line ++ [newline]) } hlater hsecond
  have hrun : appendAllDurable { entries := [], file := none }
      ([noteCall "one", laterNote].map JsonCall.toCall) =
        some { entries := [first, second],
               file := appendLine (appendLine none (line ++ [newline]))
                (laterLine ++ [newline]) } := by
    rw [List.map_cons, List.map_cons, List.map_nil, appendAllDurable, hstep]
    simp only [List.nil_append, Option.bind_some, appendAllDurable, hlaterStep]
    rfl
  refine ⟨_, hrun, rfl, (durable_log_reloads_iff [noteCall "one", laterNote] _ hrun ?_).mpr ?_⟩
  · intro entry hentry
    obtain rfl | rfl := List.mem_pair.mp hentry
    · exact hfirst
    · exact hsecond
  · intro call hcall
    obtain rfl | rfl := List.mem_pair.mp hcall
    · exact noteCall_oneLine
    · exact laterNote_oneLine

end RoboticCharacter.Audit
