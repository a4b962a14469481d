import RoboticCharacter.EventDelivery

/-! The dictionary of the event bus as a relation between event types and the handlers that are
registered under them. -/
namespace RoboticCharacter.Events

section Registrations
variable {ε τ : Type*}

/-- The handler is registered under the type. -/
def Registered (handlers : List (τ × List RegisteredHandler)) (eventType : τ)
    (registered : RegisteredHandler) : Prop :=
  ∃ subscribed ∈ handlers, subscribed.1 = eventType ∧ registered ∈ subscribed.2

theorem registered_nil (eventType : τ) (registered : RegisteredHandler) :
    ¬ Registered [] eventType registered := by
  rintro ⟨subscribed, hmem, _⟩
  exact List.not_mem_nil hmem

theorem registered_cons {key eventType : τ} {registrations : List RegisteredHandler}
    {rest : List (τ × List RegisteredHandler)} {registered : RegisteredHandler} :
    Registered ((key, registrations) :: rest) eventType registered ↔
      key = eventType ∧ registered ∈ registrations ∨ Registered rest eventType registered := by
  unfold Registered
  simp only [List.mem_cons, exists_eq_or_imp]

theorem Registered.mem {handlers : List (τ × List RegisteredHandler)} {eventType : τ}
    {registered : RegisteredHandler} (h : Registered handlers eventType registered) :
    registered ∈ handlers.flatMap Prod.snd := by
  obtain ⟨subscribed, hsubscribed, _, hmem⟩ := h
  exact List.mem_flatMap.mpr ⟨subscribed, hsubscribed, hmem⟩

/-- Two registrations with one id are one. -/
theorem DistinctSubscriptions.eq_of_id {bus : EventBus ε τ} (h : DistinctSubscriptions bus)
    {a b : τ} {first second : RegisteredHandler} (hfirst : Registered bus.handlers a first)
    (hsecond : Registered bus.handlers b second)
    (hid : first.subscriptionId = second.subscriptionId) : first = second :=
  List.inj_on_of_nodup_map h.distinct hfirst.mem hsecond.mem hid

theorem registered_of_matched {isInstance : ε → τ → Bool} {bus : EventBus ε τ} {event : ε}
    {registered : RegisteredHandler} :
    registered ∈ bus.matchedHandlers isInstance event ↔
      ∃ eventType, isInstance event eventType = true ∧
        Registered bus.handlers eventType registered := by
  rw [mem_matchedHandlers_iff]
  constructor
  · rintro ⟨subscribed, hsubscribed, hinstance, hmem⟩
    exact ⟨subscribed.1, hinstance, subscribed, hsubscribed, rfl, hmem⟩
  · rintro ⟨eventType, hinstance, subscribed, hsubscribed, rfl, hmem⟩
    exact ⟨subscribed, hsubscribed, hinstance, hmem⟩

variable [DecidableEq τ]

theorem registered_addHandler (registered : RegisteredHandler) (eventType : τ)
    (handlers : List (τ × List RegisteredHandler)) (key : τ) (other : RegisteredHandler) :
    Registered (EventBus.addHandler registered eventType handlers) key other ↔
      Registered handlers key other ∨ eventType = key ∧ other = registered := by
  induction handlers with
  | nil =>
    unfold EventBus.addHandler
    rw [registered_cons, List.mem_singleton, or_comm]
  | cons subscribed rest ih =>
    obtain ⟨type, registrations⟩ := subscribed
    dsimp only [EventBus.addHandler]
    split_ifs with htype
    · rw [registered_cons, registered_cons, List.mem_append, List.mem_singleton, htype]
      tauto
    · rw [registered_cons, registered_cons, ih, or_assoc]

/-- A key that the dictionary gets was in it, or is the new handler's type. -/
theorem addHandler_keys (registered : RegisteredHandler) (eventType : τ)
    (handlers : List (τ × List RegisteredHandler)) :
    (EventBus.addHandler registered eventType handlers).map Prod.fst =
      if eventType ∈ handlers.map Prod.fst then handlers.map Prod.fst
      else handlers.map Prod.fst ++ [eventType] := by
  induction handlers with
  | nil => rfl
  | cons subscribed rest ih =>
    obtain ⟨type, registrations⟩ := subscribed
    dsimp only [EventBus.addHandler]
    split_ifs with htype hmem hmem
    · rfl
    · exact absurd (htype ▸ List.mem_cons_self) hmem
    · have hrest : eventType ∈ rest.map Prod.fst := by
        rcases List.mem_cons.mp hmem with heq | hrest
        · exact absurd heq.symm htype
        · exact hrest
      rw [List.map_cons, ih, if_pos hrest]
      rfl
    · have hrest : eventType ∉ rest.map Prod.fst := fun hin =>
        hmem (List.mem_cons_of_mem _ hin)
      rw [List.map_cons, ih, if_neg hrest]
      rfl

theorem addHandler_keys_nodup (registered : RegisteredHandler) (eventType : τ)
    {handlers : List (τ × List RegisteredHandler)} (h : (handlers.map Prod.fst).Nodup) :
    ((EventBus.addHandler registered eventType handlers).map Prod.fst).Nodup := by
  rw [addHandler_keys]
  split_ifs with hmem
  · exact h
  · exact List.Nodup.append h (List.nodup_singleton _)
      (List.disjoint_singleton.mpr hmem)

theorem dropHandler_keys (subscriptionId : ℕ) (eventType : τ)
    (handlers : List (τ × List RegisteredHandler)) :
    ((EventBus.dropHandler subscriptionId eventType handlers).map Prod.fst).Sublist
      (handlers.map Prod.fst) := by
  induction handlers with
  | nil => exact List.Sublist.refl _
  | cons subscribed rest ih =>
    dsimp only [EventBus.dropHandler]
    split_ifs
    · exact List.sublist_cons_self _ _
    · exact List.Sublist.refl _
    · exact ih.cons_cons _

/-- Under no other type a registration is dropped, and under its own only the one with the id. -/
theorem registered_dropHandler (subscriptionId : ℕ) (eventType : τ)
    (handlers : List (τ × List RegisteredHandler)) (hkeys : (handlers.map Prod.fst).Nodup)
    (key : τ) (other : RegisteredHandler) :
    Registered (EventBus.dropHandler subscriptionId eventType handlers) key other ↔
      Registered handlers key other ∧
        ¬ (eventType = key ∧ other.subscriptionId = subscriptionId) := by
  induction handlers with
  | nil =>
    unfold EventBus.dropHandler
    exact ⟨fun h => absurd h (registered_nil key other), fun h => h.1⟩
  | cons subscribed rest ih =>
    obtain ⟨type, registrations⟩ := subscribed
    obtain ⟨hfresh, hrest⟩ := List.nodup_cons.mp hkeys
    -- the type of the first item has no other item
    have hnone : Registered rest type other → False := by
      rintro ⟨later, hlater, heq, _⟩
      exact hfresh (List.mem_map.mpr ⟨later, hlater, heq⟩)
    dsimp only [EventBus.dropHandler]
    have hkept : other ∈ registrations.filter (fun registered =>
        registered.subscriptionId ≠ subscriptionId) ↔
        other ∈ registrations ∧ other.subscriptionId ≠ subscriptionId := by
      rw [List.mem_filter, decide_eq_true_iff]
    split_ifs with htype hempty
    · subst htype
      rw [hempty] at hkept
      rw [registered_cons]
      have hdropped : ¬ (other ∈ registrations ∧ other.subscriptionId ≠ subscriptionId) :=
        fun h => List.not_mem_nil (hkept.mpr h)
      constructor
      · intro h
        refine ⟨.inr h, ?_⟩
        rintro ⟨rfl, _⟩
        exact hnone h
      · rintro ⟨⟨rfl, hmem⟩ | h, hne⟩
        · exact absurd ⟨hmem, fun heq => hne ⟨rfl, heq⟩⟩ hdropped
        · exact h
    · subst htype
      rw [registered_cons, registered_cons, hkept]
      constructor
      · rintro (⟨rfl, hmem, hne⟩ | h)
        · exact ⟨.inl ⟨rfl, hmem⟩, fun heq => hne heq.2⟩
        · refine ⟨.inr h, ?_⟩
          rintro ⟨rfl, _⟩
          exact hnone h
      · rintro ⟨⟨rfl, hmem⟩ | h, hne⟩
        · exact .inl ⟨rfl, hmem, fun heq => hne ⟨rfl, heq⟩⟩
        · exact .inr h
    · rw [registered_cons, registered_cons, ih hrest]
      constructor
      · rintro (⟨rfl, hmem⟩ | ⟨h, hne⟩)
        · exact ⟨.inl ⟨rfl, hmem⟩, fun heq => htype heq.1.symm⟩
        · exact ⟨.inr h, hne⟩
      · rintro ⟨⟨rfl, hmem⟩ | h, hne⟩
        · exact .inl ⟨rfl, hmem⟩
        · exact .inr ⟨h, hne⟩

end Registrations

end RoboticCharacter.Events
