import Mathlib.Tactic.Common

/-! Computations that may raise, as a chain of checks: what a chain that ends well
has passed. -/
namespace Fallible

universe u
variable {ε : Type*} {α β : Type u}

def require (condition : Prop) [Decidable condition] (error : ε) : Except ε Unit :=
  if condition then .ok () else .error error

@[simp]
theorem require_eq_ok_iff (condition : Prop) [Decidable condition] (error : ε) (u : Unit) :
    require condition error = .ok u ↔ condition := by
  unfold require
  split_ifs with h <;> simp [h]

@[simp]
theorem bind_eq_ok_iff (x : Except ε α) (f : α → Except ε β) (b : β) :
    (x >>= f) = .ok b ↔ ∃ a, x = .ok a ∧ f a = .ok b := by
  cases x with
  | error e => simp [bind, Except.bind]
  | ok a => simp [bind, Except.bind]

/-- A check, and then the rest. -/
theorem check_eq_ok_iff {β : Type} (check : Except ε Unit) (f : Unit → Except ε β) (b : β) :
    (check >>= f) = .ok b ↔ check = .ok () ∧ f () = .ok b := by
  rw [bind_eq_ok_iff]
  constructor
  · rintro ⟨⟨⟩, hcheck, hrest⟩
    exact ⟨hcheck, hrest⟩
  · rintro ⟨hcheck, hrest⟩
    exact ⟨(), hcheck, hrest⟩

@[simp]
theorem pure_eq_ok_iff (a b : α) : (pure a : Except ε α) = .ok b ↔ a = b := by
  simp [pure, Except.pure]

@[simp]
theorem mapError_eq_ok_iff {ε' : Type*} (f : ε → ε') (x : Except ε α) (a : α) :
    x.mapError f = .ok a ↔ x = .ok a := by
  cases x <;> simp [Except.mapError]

/-- Every error the computation raises is one of `P`. -/
def Raises (P : ε → Prop) (x : Except ε α) : Prop := ∀ e, x = .error e → P e

theorem raises_ok (P : ε → Prop) (a : α) : Raises P (.ok a : Except ε α) := by
  intro e h
  cases h

theorem raises_pure (P : ε → Prop) (a : α) : Raises P (pure a : Except ε α) := raises_ok P a

theorem raises_error (P : ε → Prop) (e : ε) (he : P e) : Raises P (.error e : Except ε α) := by
  intro e' h
  rw [← Except.error.inj h]
  exact he

theorem raises_bind (P : ε → Prop) (x : Except ε α) (f : α → Except ε β) (hx : Raises P x)
    (hf : ∀ a, x = .ok a → Raises P (f a)) : Raises P (x >>= f) := by
  cases x with
  | error e => exact raises_error P e (hx e rfl)
  | ok a => exact hf a rfl

theorem raises_mapError {ε' : Type*} (P : ε' → Prop) (f : ε → ε') (hf : ∀ e, P (f e))
    (x : Except ε α) : Raises P (x.mapError f) := by
  cases x with
  | error e => exact raises_error P (f e) (hf e)
  | ok a => exact raises_ok P a

/-- A computation that ends well for every member maps the list. -/
theorem mapM_eq_ok {ι : Type*} (f : ι → Except ε β) (g : ι → β) (values : List ι)
    (h : ∀ value ∈ values, f value = .ok (g value)) : values.mapM f = .ok (values.map g) := by
  induction values with
  | nil => rfl
  | cons first rest ih =>
    have hrest := ih fun value hvalue => h value (List.mem_cons_of_mem first hvalue)
    rw [List.mapM_cons, h first List.mem_cons_self, hrest]
    rfl

/-- A computation that ends well for a list ends well for each of its members. -/
theorem mapM_members {ι : Type*} (f : ι → Except ε β) (values : List ι) (results : List β)
    (h : values.mapM f = .ok results) : ∀ value ∈ values, ∃ result, f value = .ok result := by
  induction values generalizing results with
  | nil => exact fun _ hvalue => absurd hvalue List.not_mem_nil
  | cons first rest ih =>
    simp only [List.mapM_cons, bind_eq_ok_iff, pure_eq_ok_iff] at h
    obtain ⟨result, hfirst, others, hrest, _⟩ := h
    intro value hvalue
    rcases List.mem_cons.mp hvalue with rfl | hmem
    · exact ⟨result, hfirst⟩
    · exact ih others hrest value hmem

/-! Statements on an object: what was assigned before an error stays assigned. -/
section InPlace
variable {ε σ α β : Type} (f : α → ExceptT ε (StateM σ) β) (object : σ)

theorem run_get_bind (g : σ → ExceptT ε (StateM σ) β) :
    (get >>= g).run.run object = (g object).run.run object := rfl

theorem run_ofExcept_ok (x : Except ε α) (a : α) (h : x = .ok a) :
    (MonadExcept.ofExcept x >>= f).run.run object = (f a).run.run object := by
  rw [h]
  rfl

theorem run_ofExcept_error (x : Except ε α) (e : ε) (h : x = .error e) :
    (MonadExcept.ofExcept x >>= f).run.run object = (.error e, object) := by
  rw [h]
  rfl

end InPlace
end Fallible
