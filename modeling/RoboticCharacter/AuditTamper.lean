import Mathlib.Data.List.Forall2
import Mathlib.Data.List.Induction
import RoboticCharacter.AuditChain
import RoboticCharacter.JsonRoundTrip

/-! What the hash of the last entry says about the whole chain, and which appended chains verify. -/
namespace RoboticCharacter.Audit
open PythonJson

/-! ### The hashed text -/

theorem sortKeys_optional {κ φ : Type} [DictKey κ] (interactionId : Option String) :
    sortKeys (interactionId.elim .none .str : PyValue κ φ) =
      some (interactionId.elim .none .str) := by
  cases interactionId <;> rfl

section
variable {κ φ : Type} [DictKey κ] {key : String → κ}

/-- The hashed fields in the order they are written. -/
def sortedFields (entryId : String) (sequence : ℕ) (timestamp eventType source : String)
    (interactionId : Option String) (payload : JsonData φ) (previousHash : String) : JsonData φ :=
  .dict [("entry_id", .str entryId), ("event_type", .str eventType),
    ("interaction_id", interactionId.elim .none .str), ("payload", payload),
    ("previous_hash", .str previousHash), ("sequence", .int sequence), ("source", .str source),
    ("timestamp", .str timestamp)]

theorem sortEntries_fields {α : Type} (hkey : KeyOfString key) (a b c d e f g h : α) :
    sortEntries [(key "entry_id", a), (key "sequence", b), (key "timestamp", c),
      (key "event_type", d), (key "source", e), (key "interaction_id", f), (key "payload", g),
      (key "previous_hash", h)] =
    some [(key "entry_id", a), (key "event_type", d), (key "interaction_id", f),
      (key "payload", g), (key "previous_hash", h), (key "sequence", b), (key "source", e),
      (key "timestamp", c)] := by
  simp +decide only [sortEntries, Option.bind_some, insertEntry, hkey.less, DictKey.less,
    Option.map_some, decide_false, decide_true]

theorem sortKeys_fieldsDict (hkey : KeyOfString key) (entryId : String) (sequence : ℕ)
    (timestamp eventType source : String) (interactionId : Option String)
    (payload : PyValue κ φ) (previousHash : String) :
    sortKeys (fieldsDict key entryId sequence timestamp eventType source interactionId payload
      previousHash) = (sortKeys payload).map fun sorted =>
        sortedFields entryId sequence timestamp eventType source interactionId sorted
          previousHash := by
  unfold fieldsDict
  rw [sortKeys]
  simp only [sortKeysEntries, sortKeys, sortKeys_optional, Option.bind_some, Option.map_some]
  cases sortKeys payload with
  | none => rfl
  | some sorted =>
    simp only [Option.bind_some, Option.map_some, sortEntries_fields hkey, sortedFields,
      List.map_cons, List.map_nil, keyText, hkey.text]

variable [PyFloat φ]

/-- The hash of the fields is that of their text, in which the payload is written sorted. -/
theorem computeEntryHash_fieldsDict (hkey : KeyOfString key) (entryId : String) (sequence : ℕ)
    (timestamp eventType source : String) (interactionId : Option String)
    (payload : PyValue κ φ) (previousHash : String) :
    computeEntryHash (fieldsDict key entryId sequence timestamp eventType source interactionId
      payload previousHash) = (sortKeys payload).map fun sorted =>
        textHash (String.ofList (render (sortedFields entryId sequence timestamp eventType source
          interactionId sorted previousHash))) := by
  unfold computeEntryHash canonicalJson dumpsSorted
  rw [sortKeys_fieldsDict hkey]
  cases sortKeys payload <;> rfl

end

theorem optionalText_injective {φ υ δ : Type} [AuditFields φ υ δ] {a b : Option υ}
    (h : ((a.map (AuditFields.uuidText φ δ)).elim .none .str : JsonData φ) =
      (b.map (AuditFields.uuidText φ δ)).elim .none .str) : a = b := by
  cases a with
  | none =>
    cases b with
    | none => rfl
    | some y => cases h
  | some x =>
    cases b with
    | none => cases h
    | some y =>
      have htext : AuditFields.uuidText φ δ x = AuditFields.uuidText φ δ y := by
        injection h
      rw [AuditFields.uuidText_injective htext]

theorem lastHash_concat {φ υ δ : Type} (entries : List (AuditEntry φ υ δ))
    (entry : AuditEntry φ υ δ) :
    lastHash (entries ++ [entry]) = entry.entryHash := by
  unfold lastHash
  rw [List.getLast?_concat]
  rfl

/-! ### Payloads of JSON data -/

/-- The payload dict of JSON data, as the caller passes it. -/
def rawEntries {φ : Type} (data : List (String × JsonData φ)) :
    List (PyKey φ × PyObject φ) :=
  mapKeysEntries .str data

/-- The same payload after validation. -/
def objectEntries {φ : Type} (data : List (String × JsonData φ)) :
    List (String × PyObject φ) :=
  data.map fun entry => (entry.1, mapKeys .str entry.2)

theorem stringKeys_rawEntries {φ : Type} (data : List (String × JsonData φ)) :
    stringKeys (rawEntries data) = some (objectEntries data) := by
  induction data with
  | nil => rfl
  | cons entry data ih =>
    unfold rawEntries at ih ⊢
    rw [mapKeysEntries, stringKeys, ih]
    rfl

/-! ### Entries -/

/-- No two of the texts have one hash. -/
def CollisionFree (texts : List String) : Prop :=
  ∀ s ∈ texts, ∀ t ∈ texts, textHash s = textHash t → s = t

theorem CollisionFree.mono {texts more : List String} (h : CollisionFree more)
    (hsub : ∀ s ∈ texts, s ∈ more) : CollisionFree texts :=
  fun s hs t ht heq => h s (hsub s hs) t (hsub t ht) heq

section
variable {φ υ δ : Type} [PyFloat φ] [AuditFields φ υ δ]

/-- The payload as it is hashed, its dicts sorted: two payloads have one of these exactly when
they differ at most in the order of dict entries. -/
def sortedPayload (entry : AuditEntry φ υ δ) : Option (JsonData φ) :=
  (jsonPayload υ δ entry.payload).bind fun payload => sortKeys (.dict payload)

/-- The hashed fields of an entry with this sorted payload. -/
def entryFields (entry : AuditEntry φ υ δ) (payload : JsonData φ) : JsonData φ :=
  sortedFields (AuditFields.uuidText φ δ entry.entryId) entry.sequence
    (AuditFields.timeText φ υ entry.timestamp) entry.eventType.1 entry.source.1
    (entry.interactionId.map (AuditFields.uuidText φ δ)) payload entry.previousHash.1

/-- The text that is hashed for an entry. -/
def hashedText (entry : AuditEntry φ υ δ) : Option String :=
  (sortedPayload entry).map fun payload => String.ofList (render (entryFields entry payload))

theorem hash_hashableFields (entry : AuditEntry φ υ δ) :
    (hashableFields entry).bind computeEntryHash = (hashedText entry).map textHash := by
  unfold hashableFields hashedText sortedPayload entryFields
  cases jsonPayload υ δ entry.payload with
  | none => rfl
  | some payload =>
    simp only [Option.map_some, Option.bind_some, computeEntryHash_fieldsDict keyOfString_id]
    cases sortKeys (.dict payload : JsonData φ) <;> rfl

/-- Two entries agree on every hashed field. -/
structure HashedFieldsAgree (a b : AuditEntry φ υ δ) : Prop where
  entryId : a.entryId = b.entryId
  sequence : a.sequence = b.sequence
  timestamp : a.timestamp = b.timestamp
  eventType : a.eventType = b.eventType
  source : a.source = b.source
  interactionId : a.interactionId = b.interactionId
  payload : sortedPayload a = sortedPayload b
  previousHash : a.previousHash = b.previousHash

/-- One hashed text, one set of hashed fields: the text is the JSON of the fields, and JSON
texts are not ambiguous. -/
theorem HashedFieldsAgree.of_text {a b : AuditEntry φ υ δ} {text : String}
    (ha : hashedText a = some text) (hb : hashedText b = some text) : HashedFieldsAgree a b := by
  obtain ⟨p, hp, hpText⟩ := Option.map_eq_some_iff.mp ha
  obtain ⟨q, hq, hqText⟩ := Option.map_eq_some_iff.mp hb
  have hrender : render (entryFields a p) = render (entryFields b q) :=
    String.ofList_injective (hpText.trans hqText.symm)
  have hfields := render_injective hrender
  unfold entryFields sortedFields at hfields
  injection hfields with hlist
  simp only [List.cons.injEq, Prod.mk.injEq, PyValue.str.injEq, PyValue.int.injEq, true_and,
    and_true] at hlist
  obtain ⟨hid, hevent, hinteraction, hpayload, hprevious, hsequence, hsource, htime⟩ := hlist
  exact
    { entryId := AuditFields.uuidText_injective hid
      sequence := Int.ofNat_inj.mp hsequence
      timestamp := AuditFields.timeText_injective htime
      eventType := Subtype.ext hevent
      source := Subtype.ext hsource
      interactionId := optionalText_injective hinteraction
      payload := by rw [hp, hq, hpayload]
      previousHash := Subtype.ext hprevious }

/-! ### Accepted chains -/

/-- What the check of one entry asks. -/
structure EntryAccepted (previous : Digest) (sequence : ℕ) (entry : AuditEntry φ υ δ) : Prop where
  sequence : entry.sequence = sequence
  previousHash : entry.previousHash = previous
  entryHash : (hashedText entry).map textHash = some entry.entryHash

theorem verifyFrom_cons (previous : Digest) (sequence : ℕ) (entry : AuditEntry φ υ δ)
    (entries : List (AuditEntry φ υ δ)) :
    verifyFrom previous sequence (entry :: entries) = .ok () ↔
      EntryAccepted previous sequence entry ∧
        verifyFrom entry.entryHash (sequence + 1) entries = .ok () := by
  rw [verifyFrom, hash_hashableFields]
  by_cases hsequence : entry.sequence = sequence
  · by_cases hprevious : entry.previousHash = previous
    · rw [if_neg (not_not_intro hsequence), if_neg (not_not_intro hprevious)]
      cases hhash : (hashedText entry).map textHash with
      | none =>
        refine ⟨nofun, ?_⟩
        intro h
        have haccepted := h.1.entryHash
        rw [hhash] at haccepted
        cases haccepted
      | some expected =>
        by_cases heq : entry.entryHash = expected
        · simp only [heq, ne_eq, not_true_eq_false, if_false]
          constructor
          · intro h
            exact ⟨⟨hsequence, hprevious, by rw [hhash, heq]⟩, h⟩
          · exact fun h => h.2
        · simp only [ne_eq, heq, not_false_eq_true, if_true]
          refine ⟨nofun, ?_⟩
          intro h
          have haccepted := h.1.entryHash
          rw [hhash] at haccepted
          exact absurd (Option.some.inj haccepted).symm heq
    · rw [if_neg (not_not_intro hsequence), if_pos hprevious]
      exact ⟨nofun, fun h => absurd h.1.previousHash hprevious⟩
  · rw [if_pos hsequence]
    exact ⟨nofun, fun h => absurd h.1.sequence hsequence⟩

theorem verifyFrom_append (entries : List (AuditEntry φ υ δ)) (entry : AuditEntry φ υ δ) :
    ∀ (previous : Digest) (sequence : ℕ),
      verifyFrom previous sequence (entries ++ [entry]) = .ok () ↔
        verifyFrom previous sequence entries = .ok () ∧
          EntryAccepted ((entries.getLast?.map AuditEntry.entryHash).getD previous)
            (sequence + entries.length) entry := by
  induction entries with
  | nil =>
    intro previous sequence
    rw [List.nil_append, verifyFrom_cons]
    exact ⟨fun h => ⟨rfl, h.1⟩, fun h => ⟨h.2, rfl⟩⟩
  | cons first rest ih =>
    intro previous sequence
    have hlength : sequence + 1 + rest.length = sequence + (first :: rest).length := by
      rw [List.length_cons]
      omega
    have hlast : (rest.getLast?.map AuditEntry.entryHash).getD first.entryHash =
        ((first :: rest).getLast?.map AuditEntry.entryHash).getD previous := by
      rw [List.getLast?_cons]
      cases rest.getLast? <;> rfl
    rw [List.cons_append, verifyFrom_cons, verifyFrom_cons, ih, hlength, hlast, and_assoc]

/-- A chain is accepted when its beginning is and the last entry continues it. -/
theorem verifyChain_concat (entries : List (AuditEntry φ υ δ)) (entry : AuditEntry φ υ δ) :
    verifyChain (entries ++ [entry]) = .ok () ↔
      verifyChain entries = .ok () ∧ EntryAccepted (lastHash entries) entries.length entry := by
  have h := verifyFrom_append entries entry genesisHash 0
  rwa [Nat.zero_add] at h

/-- The texts hashed for the entries of a chain. -/
def hashedTexts (entries : List (AuditEntry φ υ δ)) : List String := entries.filterMap hashedText

theorem hashedTexts_concat (entries : List (AuditEntry φ υ δ)) (entry : AuditEntry φ υ δ) :
    hashedTexts (entries ++ [entry]) = hashedTexts entries ++ (hashedText entry).toList := by
  unfold hashedTexts
  rw [List.filterMap_append]
  cases h : hashedText entry with
  | none =>
    rw [List.filterMap_cons_none h]
    rfl
  | some text =>
    rw [List.filterMap_cons_some h]
    rfl

/-- In an accepted chain an entry's sequence is its place. -/
theorem sequence_of_accepted {entries : List (AuditEntry φ υ δ)}
    (h : verifyChain entries = .ok ()) :
    ∀ (i : ℕ) (entry : AuditEntry φ υ δ), entries[i]? = some entry → entry.sequence = i := by
  induction entries using List.reverseRecOn with
  | nil =>
    intro i entry hi
    cases hi
  | append_singleton entries last ih =>
    obtain ⟨hentries, hlast⟩ := (verifyChain_concat entries last).mp h
    intro i entry hi
    obtain hlt | hge := Nat.lt_or_ge i entries.length
    · rw [List.getElem?_append_left hlt] at hi
      exact ih hentries i entry hi
    · rw [List.getElem?_append_right hge] at hi
      have hzero : i - entries.length = 0 := by
        by_contra hne
        rw [List.getElem?_eq_none (by rw [List.length_singleton]; omega)] at hi
        cases hi
      rw [hzero] at hi
      have hentry : last = entry := Option.some.inj hi
      rw [← hentry, hlast.sequence]
      omega

/-- The links are followed from the last entry to the first. Equal last hashes are hashes of
one text, so the last entries agree, and with them the hashes before. -/
theorem agree_of_lastHash {a b : List (AuditEntry φ υ δ)} (ha : verifyChain a = .ok ())
    (hb : verifyChain b = .ok ()) (hane : a ≠ []) (hbne : b ≠ [])
    (hfree : CollisionFree (hashedTexts a ++ hashedTexts b)) (hlast : lastHash a = lastHash b) :
    List.Forall₂ HashedFieldsAgree a b := by
  induction a using List.reverseRecOn generalizing b with
  | nil => exact absurd rfl hane
  | append_singleton as x ih =>
    obtain rfl | ⟨bs, y, rfl⟩ := List.eq_nil_or_concat b
    · exact absurd rfl hbne
    obtain ⟨has, hx⟩ := (verifyChain_concat as x).mp ha
    rw [List.concat_eq_append] at hb hlast hfree ⊢
    obtain ⟨hbs, hy⟩ := (verifyChain_concat bs y).mp hb
    rw [lastHash_concat, lastHash_concat] at hlast
    rw [hashedTexts_concat, hashedTexts_concat] at hfree
    obtain ⟨s, hs, hsHash⟩ := Option.map_eq_some_iff.mp hx.entryHash
    obtain ⟨t, ht, htHash⟩ := Option.map_eq_some_iff.mp hy.entryHash
    have hsMem : s ∈ (hashedText x).toList := by
      rw [hs]
      exact List.mem_singleton_self s
    have htMem : t ∈ (hashedText y).toList := by
      rw [ht]
      exact List.mem_singleton_self t
    have htext : s = t := by
      apply hfree s (List.mem_append_left _ (List.mem_append_right _ hsMem)) t
        (List.mem_append_right _ (List.mem_append_right _ htMem))
      rw [hsHash, htHash, hlast]
    have hagree := HashedFieldsAgree.of_text (hs.trans (congrArg some htext)) ht
    -- The sequences say that both chains are equally long, the links that both go on alike.
    have hlength : as.length = bs.length := by
      rw [← hx.sequence, ← hy.sequence, hagree.sequence]
    have hprevious : lastHash as = lastHash bs := by
      rw [← hx.previousHash, ← hy.previousHash, hagree.previousHash]
    refine List.rel_append ?_ (List.Forall₂.cons hagree List.Forall₂.nil)
    by_cases hempty : as = []
    · have hbs : bs = [] := by
        apply List.eq_nil_of_length_eq_zero
        rw [← hlength, hempty]
        rfl
      rw [hempty, hbs]
      exact List.Forall₂.nil
    · have hbne : bs ≠ [] := by
        intro h
        rw [h, List.length_nil] at hlength
        exact hempty (List.eq_nil_of_length_eq_zero hlength)
      refine ih has hbs hempty hbne (hfree.mono ?_) hprevious
      intro text htext
      obtain hmem | hmem := List.mem_append.mp htext
      · exact List.mem_append_left _ (List.mem_append_left _ hmem)
      · exact List.mem_append_right _ (List.mem_append_left _ hmem)

/-! ### Appended chains -/

/-- The text hashed by a call, before validation. -/
def callText (δ : Type) [AuditFields φ υ δ] (call : AppendCall φ υ) (sequence : ℕ)
    (previousHash : Digest) : Option String :=
  (sortKeys (.dict call.rawPayload : PyObject φ)).map fun payload =>
    String.ofList (render (sortedFields (AuditFields.uuidText φ δ call.entryId) sequence
      call.now.text call.eventType call.source
      (call.interactionId.map (AuditFields.uuidText φ δ)) payload previousHash.1))

/-- The payload has one JSON text, whether its keys are sorted before pydantic turns them into
strings or after. -/
def KeepsText (υ δ : Type) [AuditFields φ υ δ] (payload : List (PyKey φ × PyObject φ)) : Prop :=
  ((stringKeys payload).bind (jsonPayload υ δ)).bind (fun entries =>
    canonicalJson (.dict entries : JsonData φ)) = canonicalJson (.dict payload : PyObject φ)

/-- What a successful call appends. -/
structure Appended (entries : List (AuditEntry φ υ δ)) (call : AppendCall φ υ)
    (entry : AuditEntry φ υ δ) : Prop where
  sequence : entry.sequence = entries.length
  previousHash : entry.previousHash = lastHash entries
  entryHash : (callText δ call entries.length (lastHash entries)).map textHash =
    some entry.entryHash
  entryId : entry.entryId = call.entryId
  timestamp : AuditFields.timeText φ υ entry.timestamp = call.now.text
  eventType : entry.eventType.1 = call.eventType
  source : entry.source.1 = call.source
  interactionId : entry.interactionId = call.interactionId
  payload : stringKeys call.rawPayload = some entry.payload

theorem newEntry_appended {entries : List (AuditEntry φ υ δ)} {call : AppendCall φ υ}
    {entry : AuditEntry φ υ δ} (h : newEntry entries call = some entry) :
    Appended entries call entry := by
  obtain ⟨entryHash, hhash, hvalid⟩ := Option.bind_eq_some_iff.mp h
  unfold AppendCall.validate at hvalid
  split_ifs at hvalid with hevent hsource
  obtain ⟨payload, hpayload, rfl⟩ := Option.map_eq_some_iff.mp hvalid
  unfold AppendCall.fields at hhash
  rw [computeEntryHash_fieldsDict keyOfString_str] at hhash
  exact
    { sequence := rfl
      previousHash := rfl
      entryHash := by
        unfold callText
        rw [Option.map_map]
        exact hhash
      entryId := rfl
      timestamp := AuditFields.timeText_ofUtc call.now
      eventType := rfl
      source := rfl
      interactionId := rfl
      payload := hpayload }

/-- The text of a chain entry with this sorted payload. -/
def payloadText (δ : Type) [AuditFields φ υ δ] (call : AppendCall φ υ) (sequence : ℕ)
    (previousHash : Digest) (payload : JsonData φ) : String :=
  String.ofList (render (sortedFields (AuditFields.uuidText φ δ call.entryId) sequence
    call.now.text call.eventType call.source
    (call.interactionId.map (AuditFields.uuidText φ δ)) payload previousHash.1))

theorem payloadText_injective (call : AppendCall φ υ) (sequence : ℕ) (previousHash : Digest) :
    Function.Injective (payloadText δ call sequence previousHash) := by
  intro p q h
  have hfields := render_injective (String.ofList_injective h)
  unfold sortedFields at hfields
  injection hfields with hlist
  simp only [List.cons.injEq, Prod.mk.injEq, true_and, and_true] at hlist
  exact hlist

section
variable {entries : List (AuditEntry φ υ δ)} {call : AppendCall φ υ} {entry : AuditEntry φ υ δ}

/-- Verification hashes the fields of the call again, with the payload as pydantic dumps it. -/
theorem Appended.hashedText_eq (h : Appended entries call entry) :
    hashedText entry =
      (sortedPayload entry).map (payloadText δ call entries.length (lastHash entries)) := by
  have hfields : ∀ payload, entryFields entry payload =
      sortedFields (AuditFields.uuidText φ δ call.entryId) entries.length call.now.text
        call.eventType call.source (call.interactionId.map (AuditFields.uuidText φ δ)) payload
        (lastHash entries).1 := by
    intro payload
    unfold entryFields
    rw [h.entryId, h.sequence, h.timestamp, h.eventType, h.source, h.interactionId,
      h.previousHash]
  unfold hashedText payloadText
  simp only [hfields]

theorem Appended.keepsText_iff (h : Appended entries call entry) :
    KeepsText υ δ call.rawPayload ↔
      hashedText entry = callText δ call entries.length (lastHash entries) := by
  have hraw : callText δ call entries.length (lastHash entries) =
      (sortKeys (.dict call.rawPayload : PyObject φ)).map
        (payloadText δ call entries.length (lastHash entries)) := rfl
  have hsorted : ((stringKeys call.rawPayload).bind (jsonPayload υ δ)).bind (fun payload =>
      canonicalJson (.dict payload : JsonData φ)) =
      (sortedPayload entry).map fun sorted => String.ofList (render sorted) := by
    rw [h.payload, Option.bind_some]
    unfold sortedPayload canonicalJson dumpsSorted
    cases jsonPayload υ δ entry.payload <;> rfl
  have htext : Function.Injective fun sorted : JsonData φ => String.ofList (render sorted) :=
    fun p q heq => render_injective (String.ofList_injective heq)
  unfold KeepsText
  rw [hsorted, h.hashedText_eq, hraw]
  unfold canonicalJson dumpsSorted
  rw [(Option.map_injective htext).eq_iff,
    (Option.map_injective (payloadText_injective call _ _)).eq_iff]

theorem Appended.accepted_of_keepsText (h : Appended entries call entry)
    (hkeeps : KeepsText υ δ call.rawPayload) :
    EntryAccepted (lastHash entries) entries.length entry := by
  have hhash := h.entryHash
  rw [← h.keepsText_iff.mp hkeeps] at hhash
  exact ⟨h.sequence, h.previousHash, hhash⟩

/-- The new entry verifies exactly when validation and dumping kept the payload's text. -/
theorem Appended.accepted_iff (h : Appended entries call entry)
    (hfree : CollisionFree ((callText δ call entries.length (lastHash entries)).toList ++
      (hashedText entry).toList)) :
    EntryAccepted (lastHash entries) entries.length entry ↔ KeepsText υ δ call.rawPayload := by
  refine ⟨?_, h.accepted_of_keepsText⟩
  intro haccepted
  obtain ⟨s, hs, hsHash⟩ := Option.map_eq_some_iff.mp h.entryHash
  obtain ⟨t, ht, htHash⟩ := Option.map_eq_some_iff.mp haccepted.entryHash
  rw [hs, ht] at hfree
  have htext : t = s := by
    apply hfree t (List.mem_append_right _ (List.mem_singleton_self t)) s
      (List.mem_append_left _ (List.mem_singleton_self s))
    rw [htHash, hsHash]
  rw [h.keepsText_iff, hs, ht, htext]

end

/-- The texts that the calls hash. -/
def appendTexts (entries : List (AuditEntry φ υ δ)) : List (AppendCall φ υ) → List String
  | [] => []
  | call :: calls =>
    (callText δ call entries.length (lastHash entries)).toList ++
      ((newEntry entries call).elim [] fun entry => appendTexts (entries ++ [entry]) calls)

theorem appendAll_prefix {entries chain : List (AuditEntry φ υ δ)} :
    ∀ {calls : List (AppendCall φ υ)}, appendAll entries calls = some chain →
      entries <+: chain := by
  intro calls
  induction calls generalizing entries with
  | nil =>
    intro h
    cases h
    exact List.prefix_refl _
  | cons call calls ih =>
    intro h
    obtain ⟨entry, -, hrest⟩ := Option.bind_eq_some_iff.mp h
    exact (List.prefix_append entries [entry]).trans (ih hrest)

theorem hashedText_mem {entries chain : List (AuditEntry φ υ δ)} {entry : AuditEntry φ υ δ}
    (h : entries ++ [entry] <+: chain) :
    ∀ text ∈ (hashedText entry).toList, text ∈ hashedTexts chain := by
  intro text htext
  have hmem : entry ∈ chain := h.subset (List.mem_append_right _ (List.mem_singleton_self entry))
  exact List.mem_filterMap.mpr ⟨entry, hmem, Option.mem_toList.mp htext⟩

/-- One call after the other: the chain stays verifiable while the payloads keep their texts. -/
theorem verifyChain_appendAll {chain : List (AuditEntry φ υ δ)} (calls : List (AppendCall φ υ)) :
    ∀ {entries : List (AuditEntry φ υ δ)}, appendAll entries calls = some chain →
      CollisionFree (appendTexts entries calls ++ hashedTexts chain) →
      (verifyChain chain = .ok () ↔
        verifyChain entries = .ok () ∧ ∀ call ∈ calls, KeepsText υ δ call.rawPayload) := by
  induction calls with
  | nil =>
    intro entries h _
    cases h
    exact ⟨fun hok => ⟨hok, fun call hcall => absurd hcall List.not_mem_nil⟩, fun hok => hok.1⟩
  | cons call calls ih =>
    intro entries h hfree
    obtain ⟨entry, hnew, hrest⟩ := Option.bind_eq_some_iff.mp h
    have happended := newEntry_appended hnew
    have hstep : CollisionFree ((callText δ call entries.length (lastHash entries)).toList ++
        (hashedText entry).toList) := by
      apply hfree.mono
      intro text htext
      obtain hcall | hentry := List.mem_append.mp htext
      · exact List.mem_append_left _ (List.mem_append_left _ hcall)
      · have hkept := appendAll_prefix hrest
        exact List.mem_append_right _ (hashedText_mem hkept text hentry)
    have hlater : CollisionFree (appendTexts (entries ++ [entry]) calls ++ hashedTexts chain) := by
      apply hfree.mono
      intro text htext
      rw [appendTexts, hnew]
      obtain hcall | hentry := List.mem_append.mp htext
      · exact List.mem_append_left _ (List.mem_append_right _ hcall)
      · exact List.mem_append_right _ hentry
    rw [ih hrest hlater, verifyChain_concat, happended.accepted_iff hstep, List.forall_mem_cons,
      and_assoc]

theorem verifyChain_of_keepsText {chain : List (AuditEntry φ υ δ)}
    (calls : List (AppendCall φ υ)) : ∀ {entries : List (AuditEntry φ υ δ)},
      appendAll entries calls = some chain → verifyChain entries = .ok () →
      (∀ call ∈ calls, KeepsText υ δ call.rawPayload) → verifyChain chain = .ok () := by
  induction calls with
  | nil =>
    intro entries h hok _
    cases h
    exact hok
  | cons call calls ih =>
    intro entries h hok hkeeps
    obtain ⟨entry, hnew, hrest⟩ := Option.bind_eq_some_iff.mp h
    have happended := newEntry_appended hnew
    have haccepted := happended.accepted_of_keepsText (hkeeps call List.mem_cons_self)
    apply ih hrest ((verifyChain_concat entries entry).mpr ⟨hok, haccepted⟩)
    exact fun later hlater => hkeeps later (List.mem_cons_of_mem call hlater)

/-- JSON data that the dump leaves alone keeps its text. -/
theorem keepsText_rawEntries {data : List (String × JsonData φ)}
    (h : jsonPayload υ δ (objectEntries data) = some data) :
    KeepsText υ δ (rawEntries data) := by
  have hsort := sortKeys_mapKeys (keyOfString_str (φ := φ)) (.dict data : JsonData φ)
  unfold KeepsText canonicalJson dumpsSorted
  rw [stringKeys_rawEntries, Option.bind_some, h, Option.bind_some]
  unfold rawEntries
  rw [← hsort, mapKeys]

/-- Two accepted chains with one last hash agree entry by entry on the hashed fields, as many
as there are; an accepted chain counts from zero; and a chain that calls of `append` made is
accepted exactly when no payload changed its text by the dump that verification hashes. -/
theorem audit_chain_tamper_evident_iff :
    (∀ a b : List (AuditEntry φ υ δ), verifyChain a = .ok () → verifyChain b = .ok () →
      a ≠ [] → b ≠ [] → CollisionFree (hashedTexts a ++ hashedTexts b) →
      lastHash a = lastHash b → List.Forall₂ HashedFieldsAgree a b) ∧
    (∀ a : List (AuditEntry φ υ δ), verifyChain a = .ok () →
      ∀ (i : ℕ) (entry : AuditEntry φ υ δ), a[i]? = some entry → entry.sequence = i) ∧
    (∀ (calls : List (AppendCall φ υ)) (chain : List (AuditEntry φ υ δ)),
      appendAll [] calls = some chain →
      CollisionFree (appendTexts (δ := δ) [] calls ++ hashedTexts chain) →
      (verifyChain chain = .ok () ↔ ∀ call ∈ calls, KeepsText υ δ call.rawPayload)) := by
  refine ⟨?_, ?_, ?_⟩
  · intro a b ha hb hane hbne hfree hlast
    exact agree_of_lastHash ha hb hane hbne hfree hlast
  · intro a ha
    exact sequence_of_accepted ha
  · intro calls chain hchain hfree
    rw [verifyChain_appendAll calls hchain hfree]
    exact ⟨fun h => h.2, fun h => ⟨rfl, h⟩⟩

end

/-! ### A nested dict with integer keys -/

/-- No floats. -/
instance : PyFloat Empty where
  text := nofun
  parse _ := none
  less := nofun
  lessInt := nofun
  intLess _ := nofun
  text_literal := nofun
  parse_text := nofun

/-- UUIDs and datetimes by their texts; a dump turns integer keys into their decimal texts. -/
instance : AuditFields Empty String String where
  uuidText s := s
  uuidText_injective := Function.injective_id
  timeText s := s
  timeText_injective := Function.injective_id
  ofUtc := UtcTime.text
  timeText_ofUtc _ := rfl
  jsonMode v := some (mapKeys PyKey.text v)

def callOf (payload : List (PyKey Empty × PyObject Empty)) : AppendCall Empty String where
  eventType := "HeadCount"
  source := "tests"
  payload := some payload
  interactionId := none
  entryId := "00000000-0000-4000-8000-000000000001"
  now := { year := 2026, month := 1, day := 1, hour := 0, minute := 0, second := 0,
           microsecond := 0 }

/-- The payload `{"counts": {2: 1, 10: 1}}`. -/
def countsCall : AppendCall Empty String :=
  callOf [(.str "counts", .dict [(.int 2, .int 1), (.int 10, .int 1)])]

/-! The texts as lists of characters and their hashes as lists of digits, which evaluate without
the bytes of strings. -/

def charsHash (text : List Char) : List Char :=
  (Sha256.digest (text.flatMap String.utf8EncodeChar)).words.flatMap Sha256.hexWord

theorem utf8_ofList (text : List Char) :
    (String.ofList text).toUTF8.data.toList = text.flatMap String.utf8EncodeChar := by
  have hbytes : (String.ofList text).toUTF8 = text.utf8Encode := String.toByteArray_ofList
  rw [hbytes, List.utf8Encode, List.toList_data_toByteArray]

theorem textHash_ofList (text : List Char) :
    (textHash (String.ofList text)).1 = String.ofList (charsHash text) :=
  congrArg Sha256.hexdigest (utf8_ofList text)

theorem textHash_ne {s t : List Char} (h : charsHash s ≠ charsHash t) :
    textHash (String.ofList s) ≠ textHash (String.ofList t) := by
  intro heq
  have hdigits := congrArg Subtype.val heq
  rw [textHash_ofList, textHash_ofList] at hdigits
  exact h (String.ofList_injective hdigits)

def hashedChars (entry : AuditEntry Empty String String) : Option (List Char) :=
  (sortedPayload entry).map fun payload => render (entryFields entry payload)

theorem hashedText_chars (entry : AuditEntry Empty String String) :
    hashedText entry = (hashedChars entry).map String.ofList := by
  unfold hashedText hashedChars
  rw [Option.map_map]
  rfl

def callChars (call : AppendCall Empty String) (sequence : ℕ) (previousHash : String) :
    Option (List Char) :=
  (sortKeys (.dict call.rawPayload : PyObject Empty)).map fun payload =>
    render (sortedFields (AuditFields.uuidText Empty String call.entryId) sequence
      call.now.text call.eventType call.source
      (call.interactionId.map (AuditFields.uuidText Empty String)) payload previousHash)

theorem callText_chars (call : AppendCall Empty String) (sequence : ℕ) (previousHash : Digest) :
    callText String call sequence previousHash =
      (callChars call sequence previousHash.1).map String.ofList := by
  unfold callText callChars
  rw [Option.map_map]
  rfl

theorem countsCall_rehashed :
    ((newEntry ([] : List (AuditEntry Empty String String)) countsCall).bind fun entry =>
      (hashedChars entry).bind fun t => (callChars countsCall 0 genesisHash.1).map fun s =>
        decide (charsHash s ≠ charsHash t)) = some true := by
  decide +kernel

/-- `json.dumps` sorts the keys 2 and 10 as numbers, and the dump's keys "2" and "10" sort the
other way, so `append` makes a chain that `verify_chain` rejects. -/
theorem audit_chain_rejects_own_entry :
    ∃ (calls : List (AppendCall Empty String)) (chain : List (AuditEntry Empty String String)),
      appendAll [] calls = some chain ∧
      CollisionFree (appendTexts (δ := String) [] calls ++ hashedTexts chain) ∧
      verifyChain chain = .error (.entryHash 0) := by
  obtain ⟨entry, hnew, hrehash⟩ := Option.bind_eq_some_iff.mp countsCall_rehashed
  obtain ⟨rehashed, hrehashed, hdigits⟩ := Option.bind_eq_some_iff.mp hrehash
  obtain ⟨hashed, hhashed, hdiffer⟩ := Option.map_eq_some_iff.mp hdigits
  have happended := newEntry_appended hnew
  obtain ⟨s, hs, hsHash⟩ := Option.map_eq_some_iff.mp happended.entryHash
  obtain ⟨t, ht⟩ : ∃ t, hashedText entry = some t := by
    rw [hashedText_chars, hrehashed]
    exact ⟨_, rfl⟩
  have hne : textHash t ≠ entry.entryHash := by
    have hs' : some (String.ofList hashed) = some s :=
      calc some (String.ofList hashed)
        _ = (callChars countsCall 0 genesisHash.1).map String.ofList :=
            (congrArg (Option.map String.ofList) hhashed).symm
        _ = callText String countsCall 0 genesisHash :=
            (callText_chars countsCall 0 genesisHash).symm
        _ = some s := hs
    have ht' : some (String.ofList rehashed) = some t :=
      calc some (String.ofList rehashed)
        _ = (hashedChars entry).map String.ofList :=
            (congrArg (Option.map String.ofList) hrehashed).symm
        _ = some t := (hashedText_chars entry).symm.trans ht
    rw [← hsHash, ← Option.some.inj hs', ← Option.some.inj ht']
    exact (textHash_ne (of_decide_eq_true hdiffer)).symm
  have hchain : appendAll [] [countsCall] = some [entry] := by
    rw [appendAll, hnew]
    rfl
  have htexts : appendTexts (δ := String) [] [countsCall] ++ hashedTexts [entry] = [s, t] := by
    unfold hashedTexts
    rw [appendTexts, hnew, hs, List.filterMap_cons_some ht]
    rfl
  refine ⟨[countsCall], [entry], hchain, ?_, ?_⟩
  · rw [htexts]
    intro x hx y hy heq
    rw [List.mem_pair] at hx hy
    obtain rfl | rfl := hx <;> obtain rfl | rfl := hy
    · rfl
    · exact absurd (heq.symm.trans hsHash) hne
    · exact absurd (heq.trans hsHash) hne
    · rfl
  · have hsequence : entry.sequence = 0 := happended.sequence
    have hprevious : entry.previousHash = genesisHash := happended.previousHash
    unfold verifyChain
    rw [verifyFrom, if_neg (not_not_intro hsequence), if_neg (not_not_intro hprevious),
      hash_hashableFields, ht, Option.map_some]
    simp only [ne_eq, Ne.symm hne, not_false_eq_true, if_true, hsequence]

/-- The payload `{"count": 12}`. -/
def countCall : AppendCall Empty String := callOf [(.str "count", .int 12)]

/-- The payload `{"counts": {2: 1}}`, and the same with a string for its key. -/
def numberedCall : AppendCall Empty String := callOf [(.str "counts", .dict [(.int 2, .int 1)])]
def namedCall : AppendCall Empty String := callOf [(.str "counts", .dict [(.str "2", .int 1)])]

theorem numberedCalls_appended :
    ((newEntry ([] : List (AuditEntry Empty String String)) numberedCall).bind fun entry =>
      newEntry [entry] countCall).isSome = true := by
  decide

theorem namedCall_appended :
    (newEntry ([] : List (AuditEntry Empty String String)) namedCall).isSome = true := by
  decide

theorem callText_named : callText String numberedCall 0 genesisHash =
    callText String namedCall 0 genesisHash := rfl

theorem numberedCalls_hashes :
    ((callChars numberedCall 0 genesisHash.1).bind fun first =>
      (callChars countCall 1 (String.ofList (charsHash first))).map fun second =>
        decide (charsHash first ≠ charsHash second)) = some true := by
  decide +kernel

theorem calls_keepText : ∀ call ∈ [numberedCall, namedCall, countCall],
    KeepsText String String call.rawPayload := by
  unfold KeepsText
  decide

/-- The texts of two entries that were appended one after the other and keep their texts. -/
theorem texts_of_two {first second : AuditEntry Empty String String}
    {one two : AppendCall Empty String} (hone : newEntry [] one = some first)
    (htwo : newEntry [first] two = some second)
    (hkeepsOne : KeepsText String String one.rawPayload)
    (hkeepsTwo : KeepsText String String two.rawPayload) :
    ∃ s t, callText String one 0 genesisHash = some s ∧ first.entryHash = textHash s ∧
      callText String two 1 (textHash s) = some t ∧ second.entryHash = textHash t ∧
      appendTexts (δ := String) [] [one, two] = [s, t] ∧ hashedTexts [first, second] = [s, t] := by
  have hfirst := newEntry_appended hone
  have hsecond := newEntry_appended htwo
  obtain ⟨s, hs, hsHash⟩ := Option.map_eq_some_iff.mp hfirst.entryHash
  obtain ⟨t, ht, htHash⟩ := Option.map_eq_some_iff.mp hsecond.entryHash
  have hlast : lastHash [first] = textHash s := hsHash.symm
  rw [hlast] at ht
  refine ⟨s, t, hs, hsHash.symm, ht, htHash.symm, ?_, ?_⟩
  · have htext :
        callText String two ([] ++ [first]).length (lastHash ([] ++ [first])) = some t := by
      rw [List.nil_append, hlast]
      exact ht
    rw [appendTexts, hone, hs, Option.elim_some, appendTexts, htext, List.nil_append, htwo]
    rfl
  · unfold hashedTexts
    have htextOne := hfirst.keepsText_iff.mp hkeepsOne
    have htextTwo := hsecond.keepsText_iff.mp hkeepsTwo
    rw [hlast] at htextTwo
    rw [List.filterMap_cons_some (htextOne.trans hs), List.filterMap_cons_some (htextTwo.trans ht)]
    rfl

theorem collisionFree_of_two {texts : List String} {s t : String}
    (htexts : ∀ x ∈ texts, x = s ∨ x = t) (hne : textHash s ≠ textHash t) :
    CollisionFree texts := by
  intro x hx y hy heq
  obtain rfl | rfl := htexts x hx <;> obtain rfl | rfl := htexts y hy
  · rfl
  · exact absurd heq hne
  · exact absurd heq.symm hne
  · rfl

/-- Two logs that differ in the kind of a key: both verify, and their entries agree. -/
theorem audit_chain_tamper_evident_keys :
    ∃ a b : List (AuditEntry Empty String String),
      appendAll [] [numberedCall, countCall] = some a ∧
      appendAll [] [namedCall, countCall] = some b ∧ a.length = 2 ∧
      verifyChain a = .ok () ∧ verifyChain b = .ok () ∧ List.Forall₂ HashedFieldsAgree a b := by
  obtain ⟨second, hbind⟩ := Option.isSome_iff_exists.mp numberedCalls_appended
  obtain ⟨first, hfirst, hsecond⟩ := Option.bind_eq_some_iff.mp hbind
  obtain ⟨named, hnamed⟩ := Option.isSome_iff_exists.mp namedCall_appended
  have hkeeps := calls_keepText
  simp only [List.forall_mem_cons] at hkeeps
  obtain ⟨hkeepsNumbered, hkeepsNamed, hkeepsCount, -⟩ := hkeeps
  obtain ⟨s, t, hs, hsHash, ht, htHash, htexts, hhashed⟩ :=
    texts_of_two hfirst hsecond hkeepsNumbered hkeepsCount
  -- the two first entries have one hash, so that the second call makes one entry of both
  have hsame : lastHash [named] = lastHash [first] := by
    obtain ⟨u, hu, huHash⟩ := Option.map_eq_some_iff.mp (newEntry_appended hnamed).entryHash
    have hus : u = s := by
      have huText : callText String namedCall 0 genesisHash = some u := hu
      rw [← callText_named, hs] at huText
      exact (Option.some.inj huText).symm
    rw [hus] at huHash
    exact huHash.symm.trans hsHash.symm
  have hsecondNamed : newEntry [named] countCall = some second := by
    unfold newEntry at hsecond ⊢
    rw [hsame]
    exact hsecond
  obtain ⟨u, v, hu, huHash, hv, -, hnamedTexts, hnamedHashed⟩ :=
    texts_of_two hnamed hsecondNamed hkeepsNamed hkeepsCount
  rw [← callText_named, hs] at hu
  obtain rfl := Option.some.inj hu
  rw [ht] at hv
  obtain rfl := Option.some.inj hv
  have hne : textHash s ≠ textHash t := by
    obtain ⟨one, hone, hrest⟩ := Option.bind_eq_some_iff.mp numberedCalls_hashes
    obtain ⟨two, htwo, hdiffer⟩ := Option.map_eq_some_iff.mp hrest
    rw [callText_chars, hone] at hs
    obtain rfl := Option.some.inj hs
    rw [callText_chars, textHash_ofList, htwo] at ht
    obtain rfl := Option.some.inj ht
    exact textHash_ne (of_decide_eq_true hdiffer)
  have hchain : appendAll [] [numberedCall, countCall] = some [first, second] := by
    rw [appendAll, hfirst, Option.bind_some, List.nil_append, appendAll, hsecond]
    rfl
  have hnamedChain : appendAll [] [namedCall, countCall] = some [named, second] := by
    rw [appendAll, hnamed, Option.bind_some, List.nil_append, appendAll, hsecondNamed]
    rfl
  have hfree : ∀ texts : List String, (∀ x ∈ texts, x ∈ [s, t]) → CollisionFree texts :=
    fun texts hsub => collisionFree_of_two (fun x hx => List.mem_pair.mp (hsub x hx)) hne
  have htamper := audit_chain_tamper_evident_iff (φ := Empty) (υ := String) (δ := String)
  have hverified : verifyChain [first, second] = .ok () := by
    apply (htamper.2.2 [numberedCall, countCall] _ hchain ?_).mpr
    · simp only [List.forall_mem_cons]
      exact ⟨hkeepsNumbered, hkeepsCount, nofun⟩
    · rw [htexts, hhashed]
      exact hfree _ (by simp)
  have hnamedVerified : verifyChain [named, second] = .ok () := by
    apply (htamper.2.2 [namedCall, countCall] _ hnamedChain ?_).mpr
    · simp only [List.forall_mem_cons]
      exact ⟨hkeepsNamed, hkeepsCount, nofun⟩
    · rw [hnamedTexts, hnamedHashed]
      exact hfree _ (by simp)
  refine ⟨[first, second], [named, second], hchain, hnamedChain, rfl, hverified, hnamedVerified, ?_⟩
  apply htamper.1 _ _ hverified hnamedVerified (List.cons_ne_nil _ _) (List.cons_ne_nil _ _) _ rfl
  rw [hhashed, hnamedHashed]
  exact hfree _ (by simp)

end RoboticCharacter.Audit
