import RoboticCharacter.EventAuditCalls
import RoboticCharacter.EventSubscriptions

/-! The bridge's subscription over a run of the audited bus: what each step does to it, and to the
run of the bus that the steps make. -/
namespace RoboticCharacter.EventAudit
open Events Machine PythonJson

section Runs
variable {φ υ δ ε τ : Type} [PyFloat φ] [Audit.AuditModel φ υ δ] [DecidableEq τ]
  (isInstance : ε → τ → Bool) (anyEvent : τ) (dump : ε → Option (EventDump φ υ))

def auditedRun (config : EventBusConfig) (log : Audit.DurableLog φ υ δ)
    (ops : List (AuditedInput υ ε τ)) : AuditedBus φ υ δ ε τ :=
  run (AuditedBus.step isInstance anyEvent dump) (.new config log) ops

def auditedTrace (config : EventBusConfig) (log : Audit.DurableLog φ υ δ)
    (ops : List (AuditedInput υ ε τ)) : List (AuditedEvent φ υ δ ε τ) :=
  trace (AuditedBus.step isInstance anyEvent dump) (.new config log) ops

end Runs

section Projection
variable {φ υ δ ε τ : Type}

/-- The step that the bus made. -/
def busEvent? (e : AuditedEvent φ υ δ ε τ) : Option (BusEvent ε τ) :=
  e.output.map fun performed => ⟨e.before.bus, performed.1, performed.2, e.after.bus⟩

/-- The run of the bus. -/
def busPast (past : List (AuditedEvent φ υ δ ε τ)) : List (BusEvent ε τ) :=
  past.filterMap busEvent?

theorem busPast_snoc (past : List (AuditedEvent φ υ δ ε τ)) (e : AuditedEvent φ υ δ ε τ) :
    busPast (past ++ [e]) = busPast past ++ (busEvent? e).toList :=
  filterMap_snoc busEvent? past e

theorem audited_snoc (past : List (AuditedEvent φ υ δ ε τ)) (e : AuditedEvent φ υ δ ε τ) :
    audited (past ++ [e]) = audited past ++ (audited? e).toList :=
  filterMap_snoc audited? past e

/-- What a step does with the bus and the bridge's subscription. -/
inductive BusMove [DecidableEq τ] (isInstance : ε → τ → Bool) (anyEvent : τ)
    (s after : AuditedBus φ υ δ ε τ) : AuditedOutput ε τ → Prop
  | still (hbus : after.bus = s.bus) (hhandles : after.handles = s.handles)
      (hsubscription : after.subscription = s.subscription) :
      BusMove isInstance anyEvent s after none
  | made (input : BusInput ε τ) (hforeign : ∀ subscriptionId eventType,
        input = .unsubscribe subscriptionId eventType → subscriptionId ∉ s.handles)
      (hbus : after.bus = (busStep isInstance s.bus input).1)
      (hhandles : after.handles = s.handles)
      (hsubscription : after.subscription = s.subscription) :
      BusMove isInstance anyEvent s after (some (input, (busStep isInstance s.bus input).2))
  | subscribed (hnone : s.subscription = none)
      (hbus : after.bus = (s.bus.subscribe anyEvent "EventAuditBridge._handle").1)
      (hhandles : after.handles = s.handles ++ [s.bus.subscriptions])
      (hsubscription : after.subscription = some s.bus.subscriptions) :
      BusMove isInstance anyEvent s after (some
        (.subscribe anyEvent "EventAuditBridge._handle", .subscribed s.bus.subscriptions))
  | unsubscribed (subscriptionId : ℕ) (hsome : s.subscription = some subscriptionId)
      (hbus : after.bus = (s.bus.unsubscribe subscriptionId anyEvent).1)
      (hhandles : after.handles = s.handles) (hnone : after.subscription = none) :
      BusMove isInstance anyEvent s after (some
        (.unsubscribe subscriptionId anyEvent, (s.bus.unsubscribe subscriptionId anyEvent).2))

end Projection

namespace AuditedBus
section Moves
variable {φ υ δ ε τ : Type} [PyFloat φ] [Audit.AuditModel φ υ δ]
  (isInstance : ε → τ → Bool) (anyEvent : τ) (dump : ε → Option (EventDump φ υ))

theorem handle_bus (s : AuditedBus φ υ δ ε τ) (index : ℕ) (stamp : Stamp υ) (event : ε) :
    (s.handle dump index stamp event).bus = s.bus ∧
      (s.handle dump index stamp event).handles = s.handles ∧
      (s.handle dump index stamp event).subscription = s.subscription := by
  unfold AuditedBus.handle
  split
  · exact ⟨rfl, rfl, rfl⟩
  · split
    · exact ⟨rfl, rfl, rfl⟩
    · split_ifs <;> exact ⟨rfl, rfl, rfl⟩

variable [DecidableEq τ]

theorem busSteps_move (s t : AuditedBus φ υ δ ε τ) (input : BusInput ε τ) (stamp : Stamp υ)
    (hforeign : ∀ subscriptionId eventType,
      input = .unsubscribe subscriptionId eventType → subscriptionId ∉ s.handles)
    (hbus : t.bus = s.bus) (hhandles : t.handles = s.handles)
    (hsubscription : t.subscription = s.subscription) :
    BusMove isInstance anyEvent s (t.busSteps isInstance dump input stamp).1
      (t.busSteps isInstance dump input stamp).2 := by
  have hmade : ∀ after : AuditedBus φ υ δ ε τ,
      after.bus = (busStep isInstance t.bus input).1 → after.handles = t.handles →
      after.subscription = t.subscription →
      BusMove isInstance anyEvent s after (some (input, (busStep isInstance t.bus input).2)) := by
    intro after hafter hsame hsub
    rw [hbus] at hafter ⊢
    exact .made input hforeign hafter (hsame.trans hhandles) (hsub.trans hsubscription)
  unfold AuditedBus.busSteps
  dsimp only
  split
  · split_ifs
    · obtain ⟨hafter, hsame, hsub⟩ := handle_bus dump
        { t with bus := (busStep isInstance t.bus input).1 } _ stamp _
      exact hmade _ hafter hsame hsub
    · exact hmade _ rfl rfl rfl
  · exact hmade _ rfl rfl rfl

theorem step_move (s : AuditedBus φ υ δ ε τ) (input : AuditedInput υ ε τ) :
    BusMove isInstance anyEvent s (s.step isInstance anyEvent dump input).1
      (s.step isInstance anyEvent dump input).2 := by
  have hstill : BusMove isInstance anyEvent s s none := .still rfl rfl rfl
  cases input with
  | bus made stamp =>
    cases made with
    | handlerEnds index outcome =>
      dsimp only [AuditedBus.step]
      split_ifs
      · exact hstill
      · exact busSteps_move isInstance anyEvent dump s s _ stamp nofun rfl rfl rfl
    | unsubscribe subscriptionId eventType =>
      dsimp only [AuditedBus.step]
      split_ifs with hown
      · exact hstill
      · apply busSteps_move isInstance anyEvent dump s s _ stamp _ rfl rfl rfl
        rintro other type heq
        obtain ⟨rfl, rfl⟩ := BusInput.unsubscribe.inj heq
        exact hown
    | _ => exact busSteps_move isInstance anyEvent dump s s _ stamp nofun rfl rfl rfl
  | bridgeStart =>
    dsimp only [AuditedBus.step]
    split
    · exact hstill
    · rename_i hnone
      exact .subscribed hnone rfl rfl rfl
  | bridgeStop =>
    dsimp only [AuditedBus.step]
    split
    · exact hstill
    · rename_i subscriptionId hsome
      exact .unsubscribed subscriptionId hsome rfl rfl rfl
  | thread threadStep =>
    dsimp only [AuditedBus.step]
    split
    · exact hstill
    · exact .still rfl rfl rfl
  | lockTaken =>
    dsimp only [AuditedBus.step]
    split
    · split_ifs
      · exact hstill
      · exact .still rfl rfl rfl
    · exact hstill
  | resumes stamp error =>
    dsimp only [AuditedBus.step]
    split
    · split_ifs
      · exact hstill
      · exact busSteps_move isInstance anyEvent dump s _ _ stamp nofun rfl rfl rfl
    · exact hstill
  | raises index errorType message stamp =>
    dsimp only [AuditedBus.step]
    split_ifs
    · exact busSteps_move isInstance anyEvent dump s s _ stamp nofun rfl rfl rfl
    · exact hstill
  | cancelled index =>
    dsimp only [AuditedBus.step]
    split_ifs
    · split
      · exact hstill
      · exact .made _ nofun rfl rfl rfl
    · split
      · exact hstill
      · exact .made _ nofun rfl rfl rfl
    · exact hstill

end Moves
end AuditedBus

section Bridge
variable {φ υ δ ε τ : Type} {isInstance : ε → τ → Bool} {anyEvent : τ}

theorem BusMove.projects [DecidableEq τ] {s after : AuditedBus φ υ δ ε τ}
    {output : AuditedOutput ε τ} (h : BusMove isInstance anyEvent s after output) :
    (output = none ∧ after.bus = s.bus) ∨ ∃ made,
      output = some (made, (busStep isInstance s.bus made).2) ∧
        after.bus = (busStep isInstance s.bus made).1 := by
  cases h with
  | still hbus => exact .inl ⟨rfl, hbus⟩
  | made input _ hbus => exact .inr ⟨input, rfl, hbus⟩
  | subscribed _ hbus => exact .inr ⟨_, rfl, hbus⟩
  | unsubscribed _ _ hbus => exact .inr ⟨_, rfl, hbus⟩

/-- The bridge's handler is registered once at most, under the type of all events, and it is
registered as long as the bridge holds its subscription. -/
structure Subscribed (anyEvent : τ) (s : AuditedBus φ υ δ ε τ) : Prop where
  keys : (s.bus.handlers.map Prod.fst).Nodup
  distinct : DistinctSubscriptions s.bus
  known : ∀ subscriptionId ∈ s.handles, subscriptionId < s.bus.subscriptions
  single : ∀ eventType registered, Registered s.bus.handlers eventType registered →
    registered.subscriptionId ∈ s.handles →
      eventType = anyEvent ∧ s.subscription = some registered.subscriptionId
  active : ∀ subscriptionId, s.subscription = some subscriptionId →
    subscriptionId ∈ s.handles ∧
      Registered s.bus.handlers anyEvent ⟨subscriptionId, "EventAuditBridge._handle"⟩

namespace Subscribed
variable {s after : AuditedBus φ υ δ ε τ}

theorem same (h : Subscribed anyEvent s) (hhandlers : after.bus.handlers = s.bus.handlers)
    (hsubscriptions : after.bus.subscriptions = s.bus.subscriptions)
    (hhandles : after.handles = s.handles) (hsubscription : after.subscription = s.subscription) :
    Subscribed anyEvent after := by
  refine ⟨?_, h.distinct.same hhandlers hsubscriptions, ?_, ?_, ?_⟩
  · rw [hhandlers]
    exact h.keys
  · rw [hhandles, hsubscriptions]
    exact h.known
  · rw [hhandlers, hhandles, hsubscription]
    exact h.single
  · rw [hhandlers, hhandles, hsubscription]
    exact h.active

/-- No two of the handlers matched at once are the bridge's. -/
theorem matched_single (h : Subscribed anyEvent s) {event : ε} {a b : RegisteredHandler}
    (ha : a ∈ s.bus.matchedHandlers isInstance event)
    (hb : b ∈ s.bus.matchedHandlers isInstance event) (hown : a.subscriptionId ∈ s.handles)
    (hother : b.subscriptionId ∈ s.handles) : a = b := by
  obtain ⟨first, _, hfirst⟩ := registered_of_matched.mp ha
  obtain ⟨second, _, hsecond⟩ := registered_of_matched.mp hb
  apply h.distinct.eq_of_id hfirst hsecond
  have heq := (h.single first a hfirst hown).2
  rw [(h.single second b hsecond hother).2] at heq
  exact (Option.some.inj heq).symm

/-- While the bridge is subscribed, its handler is matched by every event. -/
theorem matched_own (h : Subscribed anyEvent s) {subscriptionId : ℕ}
    (hsome : s.subscription = some subscriptionId) {event : ε}
    (hany : isInstance event anyEvent = true) :
    ⟨subscriptionId, "EventAuditBridge._handle"⟩ ∈ s.bus.matchedHandlers isInstance event := by
  apply registered_of_matched.mpr
  exact ⟨anyEvent, hany, (h.active subscriptionId hsome).2⟩

variable [DecidableEq τ]

/-- Someone else subscribes. -/
theorem subscribe (h : Subscribed anyEvent s) (eventType : τ) (handlerName : String)
    (hbus : after.bus = (s.bus.subscribe eventType handlerName).1)
    (hhandles : after.handles = s.handles) (hsubscription : after.subscription = s.subscription) :
    Subscribed anyEvent after := by
  refine ⟨?_, ?_, ?_, ?_, ?_⟩
  · rw [hbus]
    exact addHandler_keys_nodup _ _ h.keys
  · rw [hbus]
    exact h.distinct.subscribe eventType handlerName
  · intro subscriptionId hmem
    rw [hhandles] at hmem
    rw [hbus]
    exact Nat.lt_succ_of_lt (h.known subscriptionId hmem)
  · intro type registered hregistered hmem
    rw [hbus] at hregistered
    rw [hhandles] at hmem
    rw [hsubscription]
    rcases (registered_addHandler _ _ _ _ _).mp hregistered with hold | ⟨_, rfl⟩
    · exact h.single type registered hold hmem
    · exact absurd (h.known _ hmem) (lt_irrefl _)
  · intro subscriptionId hsome
    rw [hsubscription] at hsome
    rw [hhandles, hbus]
    obtain ⟨hmem, hregistered⟩ := h.active subscriptionId hsome
    exact ⟨hmem, (registered_addHandler _ _ _ _ _).mpr (.inl hregistered)⟩

/-- Someone else's subscription is taken back. -/
theorem unsubscribe (h : Subscribed anyEvent s) {subscriptionId : ℕ} (eventType : τ)
    (hforeign : subscriptionId ∉ s.handles)
    (hbus : after.bus = (s.bus.unsubscribe subscriptionId eventType).1)
    (hhandles : after.handles = s.handles) (hsubscription : after.subscription = s.subscription) :
    Subscribed anyEvent after := by
  have hdistinct := h.distinct.unsubscribe subscriptionId eventType
  unfold EventBus.unsubscribe at hbus hdistinct
  split at hbus
  · exact h.same (by rw [hbus]) (by rw [hbus]) hhandles hsubscription
  · rename_i handlers hlookup
    rw [hlookup] at hdistinct
    have hkept := registered_dropHandler subscriptionId eventType s.bus.handlers h.keys
    refine ⟨?_, ?_, ?_, ?_, ?_⟩
    · rw [hbus]
      exact h.keys.sublist (dropHandler_keys _ _ _)
    · rw [hbus]
      exact hdistinct
    · rw [hbus, hhandles]
      exact h.known
    · intro type registered hregistered hmem
      rw [hbus] at hregistered
      rw [hhandles] at hmem
      rw [hsubscription]
      exact h.single type registered ((hkept type registered).mp hregistered).1 hmem
    · intro own hsome
      rw [hsubscription] at hsome
      rw [hhandles, hbus]
      obtain ⟨hmem, hregistered⟩ := h.active own hsome
      refine ⟨hmem, (hkept _ _).mpr ⟨hregistered, ?_⟩⟩
      rintro ⟨_, rfl⟩
      exact hforeign hmem

/-- The bridge subscribes. -/
theorem start (h : Subscribed anyEvent s) (hnone : s.subscription = none)
    (hbus : after.bus = (s.bus.subscribe anyEvent "EventAuditBridge._handle").1)
    (hhandles : after.handles = s.handles ++ [s.bus.subscriptions])
    (hsubscription : after.subscription = some s.bus.subscriptions) :
    Subscribed anyEvent after := by
  refine ⟨?_, ?_, ?_, ?_, ?_⟩
  · rw [hbus]
    exact addHandler_keys_nodup _ _ h.keys
  · rw [hbus]
    exact h.distinct.subscribe anyEvent _
  · intro subscriptionId hmem
    rw [hhandles] at hmem
    rw [hbus]
    rcases List.mem_append.mp hmem with hold | hnew
    · exact Nat.lt_succ_of_lt (h.known subscriptionId hold)
    · rw [List.mem_singleton.mp hnew]
      exact Nat.lt_succ_self _
  · intro type registered hregistered hmem
    rw [hbus] at hregistered
    rw [hhandles] at hmem
    rw [hsubscription]
    rcases (registered_addHandler _ _ _ _ _).mp hregistered with hold | ⟨htype, rfl⟩
    · -- the handler was registered under no subscription of the bridge
      rcases List.mem_append.mp hmem with hown | hnew
      · have hactive := (h.single type registered hold hown).2
        rw [hnone] at hactive
        cases hactive
      · have hlt := h.distinct.numbered registered hold.mem
        have heq := List.mem_singleton.mp hnew
        omega
    · exact ⟨htype.symm, rfl⟩
  · intro subscriptionId hsome
    rw [hsubscription] at hsome
    obtain rfl := Option.some.inj hsome
    rw [hhandles, hbus]
    exact ⟨List.mem_append_right _ (List.mem_singleton_self _),
      (registered_addHandler _ _ _ _ _).mpr (.inr ⟨rfl, rfl⟩)⟩

/-- The bridge takes its subscription back. -/
theorem stop (h : Subscribed anyEvent s) {subscriptionId : ℕ}
    (hsome : s.subscription = some subscriptionId)
    (hbus : after.bus = (s.bus.unsubscribe subscriptionId anyEvent).1)
    (hhandles : after.handles = s.handles) (hnone : after.subscription = none) :
    Subscribed anyEvent after := by
  obtain ⟨_, subscribed, hsubscribed, hkey, _⟩ := h.active subscriptionId hsome
  have hdistinct := h.distinct.unsubscribe subscriptionId anyEvent
  unfold EventBus.unsubscribe at hbus hdistinct
  split at hbus
  · -- the type of all events is in the dictionary
    rename_i hlookup
    apply absurd hkey.symm
    simpa using List.lookup_eq_none_iff.mp hlookup subscribed hsubscribed
  · rename_i handlers hlookup
    rw [hlookup] at hdistinct
    have hkept := registered_dropHandler subscriptionId anyEvent s.bus.handlers h.keys
    refine ⟨?_, ?_, ?_, ?_, ?_⟩
    · rw [hbus]
      exact h.keys.sublist (dropHandler_keys _ _ _)
    · rw [hbus]
      exact hdistinct
    · rw [hbus, hhandles]
      exact h.known
    · intro type registered hregistered hmem
      rw [hbus] at hregistered
      rw [hhandles] at hmem
      obtain ⟨hold, hother⟩ := (hkept type registered).mp hregistered
      obtain ⟨htype, hown⟩ := h.single type registered hold hmem
      rw [hsome] at hown
      exact absurd ⟨htype.symm, (Option.some.inj hown).symm⟩ hother
    · intro other hother
      rw [hnone] at hother
      cases hother

theorem move (h : Subscribed anyEvent s) {output : AuditedOutput ε τ}
    (hmove : BusMove isInstance anyEvent s after output) : Subscribed anyEvent after := by
  cases hmove with
  | still hbus hhandles hsubscription =>
    exact h.same (by rw [hbus]) (by rw [hbus]) hhandles hsubscription
  | subscribed hnone hbus hhandles hsubscription => exact h.start hnone hbus hhandles hsubscription
  | unsubscribed subscriptionId hsome hbus hhandles hnone => exact h.stop hsome hbus hhandles hnone
  | made input hforeign hbus hhandles hsubscription =>
    by_cases hsubscribe : ∃ eventType handlerName, input = .subscribe eventType handlerName
    · obtain ⟨eventType, handlerName, rfl⟩ := hsubscribe
      exact h.subscribe eventType handlerName hbus hhandles hsubscription
    by_cases hunsubscribe : ∃ subscriptionId eventType,
        input = .unsubscribe subscriptionId eventType
    · obtain ⟨subscriptionId, eventType, rfl⟩ := hunsubscribe
      exact h.unsubscribe eventType (hforeign _ _ rfl) hbus hhandles hsubscription
    · simp only [not_exists] at hsubscribe hunsubscribe
      obtain ⟨hhandlers, hsubscriptions⟩ :=
        busStep_handlers isInstance s.bus input hsubscribe hunsubscribe
      exact h.same (by rw [hbus, hhandlers]) (by rw [hbus, hsubscriptions]) hhandles hsubscription

end Subscribed
end Bridge
end RoboticCharacter.EventAudit
