import RoboticCharacter.EventAuditBridge
import RoboticCharacter.EventStatistics

/-! The entries that the bridge's handler was called for: those taken while the bridge was
subscribed, each once. -/
namespace RoboticCharacter.Events
open Machine

section Numbers
variable {ε τ : Type*} [DecidableEq τ]

theorem busStep_subscriptions_le (isInstance : ε → τ → Bool) (bus : EventBus ε τ)
    (input : BusInput ε τ) :
    bus.subscriptions ≤ (busStep isInstance bus input).1.subscriptions := by
  by_cases hsubscribe : ∃ eventType handlerName, input = .subscribe eventType handlerName
  · obtain ⟨eventType, handlerName, rfl⟩ := hsubscribe
    exact Nat.le_succ _
  by_cases hunsubscribe : ∃ subscriptionId eventType, input = .unsubscribe subscriptionId eventType
  · obtain ⟨subscriptionId, eventType, rfl⟩ := hunsubscribe
    dsimp only [busStep, EventBus.unsubscribe]
    split <;> exact le_rfl
  · simp only [not_exists] at hsubscribe hunsubscribe
    exact (busStep_handlers isInstance bus input hsubscribe hunsubscribe).2.ge

omit [DecidableEq τ] in
/-- Among the entries taken each has a number of its own. -/
theorem Ledger.taken_inj {past : List (BusEvent ε τ)} {bus : EventBus ε τ} (h : Ledger past bus)
    {a b : Entry ε × List RegisteredHandler} (ha : a ∈ taken past) (hb : b ∈ taken past)
    (hnumber : a.1.sequence = b.1.sequence) : a = b := by
  have hdistinct := h.distinct
  rw [List.map_append] at hdistinct
  have hnodup := (List.nodup_append.mp hdistinct).1
  rw [(h.accounted.map Entry.sequence).nodup_iff, List.map_append] at hnodup
  have htaken := (List.nodup_append.mp hnodup).2.1
  rw [List.map_map] at htaken
  exact List.inj_on_of_nodup_map htaken ha hb hnumber

omit [DecidableEq τ] in
theorem Ledger.taken_accepted {past : List (BusEvent ε τ)} {bus : EventBus ε τ}
    (h : Ledger past bus) {entry : Entry ε} (hentry : entry ∈ (taken past).map Prod.fst) :
    entry ∈ accepted past :=
  h.accounted.mem_iff.mpr (List.mem_append_right _ hentry)

omit [DecidableEq τ] in
/-- A call that has ended was one of an entry taken, to a handler that was matched then. -/
theorem Calls.ended_matched {past : List (BusEvent ε τ)} {bus : EventBus ε τ} (h : Calls past bus)
    {call : Entry ε × RegisteredHandler × HandlerOutcome} (hcall : call ∈ ended past) :
    ∃ pair ∈ taken past, pair.1.sequence = call.1.sequence ∧ call.2.1 ∈ pair.2 := by
  have hmade : (call.1.sequence, call.2.1) ∈ invocations past :=
    h.balanced.mem_iff.mpr (List.mem_append_left _ (List.mem_map_of_mem
      (f := fun call : Entry ε × RegisteredHandler × HandlerOutcome => (call.1.sequence, call.2.1))
      hcall))
  exact h.of_taken _ (List.mem_append_left _ hmade)

omit [DecidableEq τ] in
theorem Calls.ended_once {past : List (BusEvent ε τ)} {bus : EventBus ε τ} (h : Calls past bus) :
    ((ended past).map (fun call => (call.1.sequence, call.2.1))).Nodup := by
  have hmade := (List.nodup_append.mp h.once).1
  rw [h.balanced.nodup_iff] at hmade
  exact (List.nodup_append.mp hmade).1

omit [DecidableEq τ] in
theorem mem_invokedFor {past : List (BusEvent ε τ)} {entry : Entry ε}
    {registered : RegisteredHandler} :
    registered ∈ invokedFor past entry ↔ (entry.sequence, registered) ∈ invocations past := by
  unfold invokedFor
  simp only [List.mem_map, List.mem_filter, decide_eq_true_iff, Prod.exists]
  constructor
  · rintro ⟨_, _, ⟨hmem, rfl⟩, rfl⟩
    exact hmem
  · exact fun hmem => ⟨_, _, ⟨hmem, rfl⟩, rfl⟩

omit [DecidableEq τ] in
/-- A call ended in a step that answered how. -/
theorem mem_ended {past : List (BusEvent ε τ)} {entry : Entry ε} {registered : RegisteredHandler}
    {outcome : HandlerOutcome} (h : (entry, registered, outcome) ∈ ended past) :
    ∃ e ∈ past, ∃ next, e.output = .handled entry registered outcome next := by
  obtain ⟨e, he, hended⟩ := List.mem_filterMap.mp h
  cases hanswer : e.output with
  | handled held handler ending next =>
    rw [hanswer] at hended
    obtain ⟨rfl, rfl, rfl⟩ := Option.some.inj hended
    exact ⟨e, he, next, hanswer⟩
  | _ =>
    rw [hanswer] at hended
    cases hended

end Numbers

end RoboticCharacter.Events

namespace RoboticCharacter.EventAudit
open Events Machine PythonJson

section Once
variable {φ υ δ ε τ : Type}

/-- The entry of a call that returned, if the handler was under one of these subscriptions. -/
def returnedIn (handles : List ℕ) : Entry ε × RegisteredHandler × HandlerOutcome → Option (Entry ε)
  | (entry, registered, .returned) =>
    if registered.subscriptionId ∈ handles then some entry else none
  | _ => none

theorem auditedIn_eq (handles : List ℕ) (answer : BusAnswer ε) :
    auditedIn handles answer = answer.ended?.bind (returnedIn handles) := by
  cases answer with
  | handled entry registered outcome next => cases outcome <;> rfl
  | _ => rfl

theorem returnedIn_some {handles : List ℕ} {call : Entry ε × RegisteredHandler × HandlerOutcome}
    {entry : Entry ε} (h : returnedIn handles call = some entry) :
    call.1 = entry ∧ call.2.1.subscriptionId ∈ handles ∧ call.2.2 = .returned := by
  obtain ⟨held, registered, outcome⟩ := call
  cases outcome with
  | returned =>
    dsimp only [returnedIn] at h
    split_ifs at h with hmem
    exact ⟨Option.some.inj h, hmem, rfl⟩
  | raised errorType message => cases h
  | escaped counted => cases h

theorem returnedIn_congr {handles others : List ℕ}
    {call : Entry ε × RegisteredHandler × HandlerOutcome}
    (h : call.2.1.subscriptionId ∈ handles ↔ call.2.1.subscriptionId ∈ others) :
    returnedIn handles call = returnedIn others call := by
  obtain ⟨held, registered, outcome⟩ := call
  cases outcome with
  | returned => exact if_congr h rfl rfl
  | raised errorType message => rfl
  | escaped counted => rfl

variable [DecidableEq τ] {isInstance : ε → τ → Bool} {anyEvent : τ}

/-- A subscription of the bridge is one that was not there before. -/
theorem BusMove.handles_iff {s after : AuditedBus φ υ δ ε τ} {output : AuditedOutput ε τ}
    (h : BusMove isInstance anyEvent s after output) {subscriptionId : ℕ}
    (hlt : subscriptionId < s.bus.subscriptions) :
    subscriptionId ∈ after.handles ↔ subscriptionId ∈ s.handles := by
  cases h with
  | still _ hhandles => rw [hhandles]
  | made _ _ _ hhandles => rw [hhandles]
  | unsubscribed _ _ _ hhandles => rw [hhandles]
  | subscribed _ _ hhandles =>
    rw [hhandles, List.mem_append, List.mem_singleton]
    exact or_iff_left hlt.ne

/-- Where the bridge gets a subscription, the bus takes nothing and ends no call. -/
theorem BusMove.handles_eq {s after : AuditedBus φ υ δ ε τ} {input : BusInput ε τ}
    {answer : BusAnswer ε} (h : BusMove isInstance anyEvent s after (some (input, answer)))
    (hbusy : answer.taken? ≠ none ∨ answer.ended? ≠ none) : after.handles = s.handles := by
  cases h with
  | made _ _ _ hhandles => exact hhandles
  | unsubscribed _ _ _ hhandles => exact hhandles
  | subscribed => exact absurd hbusy (by simp [BusAnswer.taken?, BusAnswer.ended?])

/-- What the calls of the bridge's handler say of the entries that the bus took. -/
structure Audits (isInstance : ε → τ → Bool) (anyEvent : τ)
    (past : List (AuditedEvent φ υ δ ε τ)) (s : AuditedBus φ υ δ ε τ) : Prop where
  subscribed : Subscribed anyEvent s
  numbered : ∀ pair ∈ taken (busPast past), ∀ registered ∈ pair.2,
    registered.subscriptionId < s.bus.subscriptions
  single : ∀ pair ∈ taken (busPast past), ∀ a ∈ pair.2, ∀ b ∈ pair.2,
    a.subscriptionId ∈ s.handles → b.subscriptionId ∈ s.handles → a = b
  returns : audited past = (ended (busPast past)).filterMap (returnedIn s.handles)
  covers : ∀ e ∈ past, ∀ input entry matched, e.output = some (input, .took entry matched) →
    isInstance entry.event anyEvent = true → e.before.subscription ≠ none →
    ∃ registered ∈ matched, registered.subscriptionId ∈ s.handles ∧
      registered.handlerName = "EventAuditBridge._handle"

namespace Audits
variable {past : List (AuditedEvent φ υ δ ε τ)} {s after : AuditedBus φ υ δ ε τ}

/-- What a step takes, it takes for the handlers that are matched. -/
theorem taken_new {input : BusInput ε τ} {entry : Entry ε} {matched : List RegisteredHandler}
    (h : (busStep isInstance s.bus input).2 = .took entry matched) :
    matched = s.bus.matchedHandlers isInstance entry.event := by
  have heffect := busStep_effect isInstance s.bus input
  rw [h] at heffect
  exact heffect.took.2

omit [DecidableEq τ] in
/-- A step in which the bus does nothing. -/
theorem still (h : Audits isInstance anyEvent past s) (input : AuditedInput υ ε τ)
    (hbus : after.bus = s.bus) (hhandles : after.handles = s.handles)
    (hsubscribed : Subscribed anyEvent after) :
    Audits isInstance anyEvent (past ++ [⟨s, input, none, after⟩]) after := by
  have hsame : busPast (past ++ [⟨s, input, none, after⟩]) = busPast past := by
    rw [busPast_snoc]
    exact List.append_nil _
  have hquiet : audited (past ++ [⟨s, input, none, after⟩]) = audited past := by
    rw [audited_snoc]
    exact List.append_nil _
  refine ⟨hsubscribed, ?_, ?_, ?_, ?_⟩
  · rw [hsame, hbus]
    exact h.numbered
  · rw [hsame, hhandles]
    exact h.single
  · rw [hsame, hquiet, hhandles]
    exact h.returns
  · intro e he made entry matched houtput hinstance hactive
    rw [hhandles]
    rcases List.mem_append.mp he with hearlier | hnow
    · exact h.covers e hearlier made entry matched houtput hinstance hactive
    · obtain rfl := List.mem_singleton.mp hnow
      cases houtput

/-- A step of the bus. What it takes and what it ends are the bridge's as of before the step. -/
theorem moved (h : Audits isInstance anyEvent past s) (hcalls : Calls (busPast past) s.bus)
    (input : AuditedInput υ ε τ) {made : BusInput ε τ}
    (hmove : BusMove isInstance anyEvent s after
      (some (made, (busStep isInstance s.bus made).2)))
    (hbus : after.bus = (busStep isInstance s.bus made).1) :
    Audits isInstance anyEvent
      (past ++ [⟨s, input, some (made, (busStep isInstance s.bus made).2), after⟩]) after := by
  have hsubscribed := h.subscribed.move hmove
  have heq := hmove.handles_eq
  have hmono : ∀ subscriptionId ∈ s.handles, subscriptionId ∈ after.handles :=
    fun id hmem => (hmove.handles_iff (h.subscribed.known id hmem)).mpr hmem
  have hmore : s.bus.subscriptions ≤ after.bus.subscriptions := by
    rw [hbus]
    exact busStep_subscriptions_le isInstance s.bus made
  generalize hanswer : (busStep isInstance s.bus made).2 = answer at heq ⊢
  have hpast : busPast (past ++ [⟨s, input, some (made, answer), after⟩]) =
      busPast past ++ [⟨s.bus, made, answer, after.bus⟩] := busPast_snoc _ _
  have htaken : ∀ pair ∈ taken (busPast past ++ [⟨s.bus, made, answer, after.bus⟩]),
      pair ∈ taken (busPast past) ∨ after.handles = s.handles ∧
        pair.2 = s.bus.matchedHandlers isInstance pair.1.event := by
    intro pair hpair
    rw [taken_snoc] at hpair
    rcases List.mem_append.mp hpair with hold | hnew
    · exact .inl hold
    · have hsome := Option.mem_toList.mp hnew
      refine .inr ⟨heq (.inl (by rw [hsome]; exact Option.some_ne_none _)), ?_⟩
      cases answer with
      | took entry matched =>
        obtain rfl := Option.some.inj hsome
        exact taken_new hanswer
      | _ => cases hsome
  refine ⟨hsubscribed, ?_, ?_, ?_, ?_⟩
  · intro pair hpair registered hmem
    rw [hpast] at hpair
    apply lt_of_lt_of_le _ hmore
    rcases htaken pair hpair with hold | ⟨_, hmatched⟩
    · exact h.numbered pair hold registered hmem
    · rw [hmatched] at hmem
      obtain ⟨type, _, hregistered⟩ := registered_of_matched.mp hmem
      exact h.subscribed.distinct.numbered registered hregistered.mem
  · intro pair hpair a ha b hb hown hother
    rw [hpast] at hpair
    rcases htaken pair hpair with hold | ⟨hhandles, hmatched⟩
    · apply h.single pair hold a ha b hb
      · exact (hmove.handles_iff (h.numbered pair hold a ha)).mp hown
      · exact (hmove.handles_iff (h.numbered pair hold b hb)).mp hother
    · rw [hmatched] at ha hb
      rw [hhandles] at hown hother
      exact h.subscribed.matched_single ha hb hown hother
  · have hold : (ended (busPast past)).filterMap (returnedIn after.handles) = audited past := by
      rw [h.returns]
      apply List.filterMap_congr
      intro call hcall
      obtain ⟨pair, hpair, _, hmem⟩ := hcalls.ended_matched hcall
      exact returnedIn_congr (hmove.handles_iff (h.numbered pair hpair call.2.1 hmem))
    have hnew : answer.ended?.bind (returnedIn s.handles) =
        answer.ended?.bind (returnedIn after.handles) := by
      cases hcall : answer.ended? with
      | none => rfl
      | some call => rw [heq (.inr (by rw [hcall]; exact Option.some_ne_none _))]
    have hlast : audited? (⟨s, input, some (made, answer), after⟩ : AuditedEvent φ υ δ ε τ) =
        answer.ended?.bind (returnedIn after.handles) := by
      rw [← hnew, ← auditedIn_eq]
      rfl
    rw [hpast, ended_snoc, List.filterMap_append, hold, audited_snoc, hlast]
    dsimp only
    cases answer.ended? with
    | none => rfl
    | some call =>
      rw [Option.toList_some, Option.bind_some]
      cases hreturned : returnedIn after.handles call with
      | none => simp only [List.filterMap_cons, hreturned, List.filterMap_nil, Option.toList_none]
      | some entry =>
        simp only [List.filterMap_cons, hreturned, List.filterMap_nil, Option.toList_some]
  · intro e he performed entry matched houtput hinstance hactive
    rcases List.mem_append.mp he with hearlier | hnow
    · obtain ⟨registered, hmem, hown, hname⟩ :=
        h.covers e hearlier performed entry matched houtput hinstance hactive
      exact ⟨registered, hmem, hmono _ hown, hname⟩
    · -- the bridge is subscribed, so its handler is among those matched
      obtain rfl := List.mem_singleton.mp hnow
      obtain ⟨rfl, rfl⟩ := Prod.mk.inj (Option.some.inj houtput)
      obtain ⟨subscriptionId, hsome⟩ := Option.ne_none_iff_exists'.mp hactive
      have hown := (h.subscribed.active subscriptionId hsome).1
      rw [taken_new hanswer]
      exact ⟨_, h.subscribed.matched_own hsome hinstance, hmono _ hown, rfl⟩

theorem step (h : Audits isInstance anyEvent past s) (hcalls : Calls (busPast past) s.bus)
    (input : AuditedInput υ ε τ) {output : AuditedOutput ε τ}
    (hmove : BusMove isInstance anyEvent s after output) :
    Audits isInstance anyEvent (past ++ [⟨s, input, output, after⟩]) after := by
  rcases hmove.projects with ⟨rfl, hbus⟩ | ⟨made, rfl, hbus⟩
  · apply h.still input hbus _ (h.subscribed.move hmove)
    cases hmove with
    | still _ hhandles => exact hhandles
  · exact h.moved hcalls input hmove hbus

end Audits
end Once
end RoboticCharacter.EventAudit
