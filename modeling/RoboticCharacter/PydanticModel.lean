import RoboticCharacter.Fallible

/-! The validation of a mapping against a model: every field is read for itself, all refusals are
collected, and the check of the whole model comes last. -/
namespace Pydantic
open Fallible

inductive ErrorKind
  | missing
  | extraForbidden
  | typeMismatch
  | outOfRange
  | valueError (message : String)
  deriving DecidableEq, Repr

/-- One refusal, with the path of the value that it is about. -/
structure ErrorDetails where
  loc : List String
  kind : ErrorKind
  deriving DecidableEq, Repr

def ErrorDetails.within (name : String) (e : ErrorDetails) : ErrorDetails :=
  { e with loc := name :: e.loc }

abbrev Validated (β : Type) := Except (List ErrorDetails) β

/-- What the library reads from a value, by the type a field is declared with: `str`, the text of
an enumeration or of a literal, `bool`, a literal truth value, and the mapping of a model. -/
structure Input (α : Type) where
  text : α → Option String
  strictText : α → Option String
  boolean : α → Option Bool
  strictBoolean : α → Option Bool
  mapping : α → Option (List (String × α))

variable {α β γ : Type}

def valueError (message : String) : List ErrorDetails := [⟨[], .valueError message⟩]

def typed : Option β → Validated β
  | some b => .ok b
  | none => .error [⟨[], .typeMismatch⟩]

/-- Both results, or the refusals of both. -/
def both (x : Validated β) (y : Validated γ) : Validated (β × γ) :=
  match x, y with
  | .ok b, .ok c => .ok (b, c)
  | .ok _, .error es => .error es
  | .error es, .ok _ => .error es
  | .error es, .error fs => .error (es ++ fs)

/-- A check of one field of its own: `gt`, `ge`, `le`, or that a number is finite. -/
def bounded (name : String) (condition : Prop) [Decidable condition] : Validated Unit :=
  require condition [⟨[name], .outOfRange⟩]

/-- All checks, with the refusals of all of them. -/
def collect : List (Validated Unit) → Validated Unit
  | [] => .ok ()
  | check :: rest => (both check (collect rest)).map fun _ => ()

def lookup (entries : List (String × α)) (name : String) : Option α :=
  (entries.find? fun entry => entry.1 = name).map Prod.snd

def field (entries : List (String × α)) (name : String) (read : α → Validated β) : Validated β :=
  match lookup entries name with
  | none => .error [⟨[name], .missing⟩]
  | some value => (read value).mapError (List.map (ErrorDetails.within name))

/-- `extra="forbid"`. -/
def forbidExtra (entries : List (String × α)) (names : List String) : Validated Unit :=
  let unknown := entries.filter fun entry => entry.1 ∉ names
  if unknown = [] then .ok ()
  else .error (unknown.map fun entry => ⟨[entry.1], .extraForbidden⟩)

namespace Input
variable (input : Input α)

def str (value : α) : Validated String := typed (input.text value)

def bool (value : α) : Validated Bool := typed (input.boolean value)

def fields (value : α) : Validated (List (String × α)) := typed (input.mapping value)

/-- A member of an enumeration, by its text. -/
def enum (members : List β) (text : β → String) (value : α) : Validated β :=
  typed ((input.strictText value).bind fun given => members.find? fun b => text b = given)

def literal (text : String) (value : α) : Validated Unit :=
  typed (if input.strictText value = some text then some () else none)

def literalTrue (value : α) : Validated Unit :=
  typed (if input.strictBoolean value = some true then some () else none)

/-- The text at the end of a path of fields. -/
def textAt : List String → α → Option String
  | [], value => input.text value
  | name :: rest, value => do
    let entries ← input.mapping value
    let child ← lookup entries name
    textAt rest child

end Input

@[simp]
theorem typed_eq_ok_iff (x : Option β) (b : β) : typed x = .ok b ↔ x = some b := by
  cases x <;> simp [typed]

@[simp]
theorem both_eq_ok_iff (x : Validated β) (y : Validated γ) (result : β × γ) :
    both x y = .ok result ↔ x = .ok result.1 ∧ y = .ok result.2 := by
  cases x <;> cases y <;> simp [both, Prod.ext_iff]

theorem collect_eq_ok_iff (checks : List (Validated Unit)) (u : Unit) :
    collect checks = .ok u ↔ ∀ check ∈ checks, check = .ok () := by
  induction checks with
  | nil => simp [collect]
  | cons check rest ih =>
    rw [List.forall_mem_cons, ← ih, collect]
    cases check <;> cases collect rest <;> simp [both, Except.map]

@[simp]
theorem field_eq_ok_iff (entries : List (String × α)) (name : String) (read : α → Validated β)
    (b : β) :
    field entries name read = .ok b ↔ ∃ value, lookup entries name = some value ∧
      read value = .ok b := by
  unfold field
  cases lookup entries name <;> simp

/-- Where no name comes twice, an entry is found under its name. -/
theorem lookup_of_mem {entries : List (String × α)} (hnodup : (entries.map Prod.fst).Nodup)
    {name : String} {value : α} (h : (name, value) ∈ entries) :
    lookup entries name = some value := by
  induction entries with
  | nil => cases h
  | cons entry entries ih =>
    obtain ⟨hnew, hrest⟩ := List.nodup_cons.mp hnodup
    unfold lookup
    obtain rfl | hlater := List.mem_cons.mp h
    · rw [List.find?_cons_of_pos (by simp)]
      rfl
    · -- the first entry has another name
      have hother : entry.1 ≠ name := by
        intro heq
        rw [heq] at hnew
        exact hnew (List.mem_map_of_mem hlater)
      rw [List.find?_cons_of_neg (by simpa using hother)]
      exact ih hrest hlater

/-- A field that was read is where its path leads. -/
theorem textAt_of_field (input : Input α) (value : α) (entries : List (String × α))
    (name : String) (rest : List String) (text : String)
    (hentries : input.mapping value = some entries)
    (h : ∃ child, lookup entries name = some child ∧ input.textAt rest child = some text) :
    input.textAt (name :: rest) value = some text := by
  obtain ⟨child, hchild, htext⟩ := h
  unfold Input.textAt
  rw [hentries]
  change (lookup entries name).bind _ = some text
  rw [hchild]
  exact htext

end Pydantic
