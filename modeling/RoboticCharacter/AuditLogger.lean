import RoboticCharacter.AuditTamper
import RoboticCharacter.JsonPrefix
import RoboticCharacter.TextLines

/-! The durable log of `rci.audit.logger`: one JSON line for an entry, and the loading of a log. -/
namespace RoboticCharacter.Audit
open PythonJson PythonText

/-- What pydantic does with a whole entry: `model_dump_json`, `none` where it raises, and
`model_validate` of a value that `json.loads` returned, `none` where it raises a
ValidationError. Only a dict is validated. -/
class AuditModel (φ υ δ : Type) extends AuditFields φ υ δ where
  dumpJson : AuditEntry φ υ δ → Option (List Char)
  validate : JsonData φ → Option (AuditEntry φ υ δ)
  validate_dict : ∀ {v : JsonData φ} {entry : AuditEntry φ υ δ}, validate v = some entry →
    ∃ fields, v = .dict fields

section
variable {φ υ δ : Type} [PyFloat φ] [AuditModel φ υ δ]

/-- What opening a log raises. -/
inductive LogError
  | decoding
  | record (line : ℕ)
  | chain (error : ChainError)
  deriving DecidableEq

/-- The texts of the errors that the audit modules raise themselves. -/
def LogError.message : LogError → String
  | .decoding => ""
  | .record line => "invalid audit record at line " ++ toString line
  | .chain error => error.message

/-- The record of one line, `none` where it is invalid. -/
def readRecord (line : List Char) : Option (AuditEntry φ υ δ) :=
  (loads line).bind AuditModel.validate

/-- The loop of `_load`, from this line number on. -/
def loadLines : ℕ → List (List Char) → Except LogError (List (AuditEntry φ υ δ))
  | _, [] => .ok []
  | number, line :: lines =>
    if isBlank line then loadLines (number + 1) lines
    else
      match readRecord line with
      | none => .error (.record number)
      | some entry => (loadLines (number + 1) lines).map (entry :: ·)

def loadText (text : List Char) : Except LogError (List (AuditEntry φ υ δ)) :=
  loadLines 1 (splitlines text)

/-- `_load`: a file that does not exist has no entries. -/
def load : Option ByteArray → Except LogError (List (AuditEntry φ υ δ))
  | none => .ok []
  | some bytes =>
    match bytes.utf8Decode? with
    | none => .error .decoding
    | some text => loadText text.toList

/-- `AuditLogger(path)`: the entries of the file, once their chain verifies. -/
def openLogger (file : Option ByteArray) : Except LogError (List (AuditEntry φ υ δ)) :=
  match load file with
  | .error error => .error error
  | .ok entries =>
    match verifyChain entries with
    | .error error => .error (.chain error)
    | .ok () => .ok entries

/-- A logger with a path: the entries in memory and the file. -/
structure DurableLog (φ υ δ : Type) where
  entries : List (AuditEntry φ υ δ)
  file : Option ByteArray

/-- `entry.model_dump_json() + "\n"`. -/
def recordLine (entry : AuditEntry φ υ δ) : Option (List Char) :=
  (AuditModel.dumpJson entry).map fun line => line ++ [newline]

/-- `_append_line`, when nothing fails: the line goes to the end of the file. -/
def appendLine (file : Option ByteArray) (line : List Char) : Option ByteArray :=
  some (file.getD ByteArray.empty ++ (String.ofList line).toUTF8)

/-- A call of `append` that returns. -/
def appendDurable (log : DurableLog φ υ δ) (call : AppendCall φ υ) : Option (DurableLog φ υ δ) :=
  (newEntry log.entries call).bind fun entry =>
    (recordLine entry).map fun line =>
      { entries := log.entries ++ [entry], file := appendLine log.file line }

def appendAllDurable (log : DurableLog φ υ δ) :
    List (AppendCall φ υ) → Option (DurableLog φ υ δ)
  | [] => some log
  | call :: calls => (appendDurable log call).bind fun log => appendAllDurable log calls

/-! ### Loading line by line -/

theorem loadLines_cons_of_record {line : List Char} (hblank : isBlank line = false)
    {entry : AuditEntry φ υ δ} (hrecord : readRecord line = some entry) (number : ℕ)
    (lines : List (List Char)) :
    loadLines number (line :: lines) = (loadLines (number + 1) lines).map (entry :: ·) := by
  rw [loadLines, hblank, hrecord]
  rfl

/-- Lines after lines that load are loaded after them. -/
theorem loadLines_append {first : List (List Char)} (later : List (List Char)) :
    ∀ {number : ℕ} {entries more : List (AuditEntry φ υ δ)},
      loadLines number first = .ok entries →
      loadLines (number + first.length) later = .ok more →
      loadLines number (first ++ later) = .ok (entries ++ more) := by
  induction first with
  | nil =>
    intro number entries more hfirst hlater
    cases hfirst
    exact hlater
  | cons line lines ih =>
    intro number entries more hfirst hlater
    have hnumber : number + (line :: lines).length = number + 1 + lines.length := by
      rw [List.length_cons]
      omega
    rw [hnumber] at hlater
    rw [loadLines] at hfirst
    rw [List.cons_append, loadLines]
    split_ifs at hfirst ⊢ with hblank
    · exact ih hfirst hlater
    · split at hfirst
      · cases hfirst
      · rename_i entry hrecord
        cases hlines : (loadLines (number + 1) lines : Except LogError (List (AuditEntry φ υ δ)))
          with
        | error error =>
          rw [hlines] at hfirst
          cases hfirst
        | ok rest =>
          rw [hlines] at hfirst
          cases hfirst
          rw [ih hlines hlater]
          rfl

/-- One line that is no record keeps the whole log from loading. -/
theorem loadLines_error {lines : List (List Char)} {line : List Char} (hmem : line ∈ lines)
    (hblank : isBlank line = false)
    (hrecord : (readRecord line : Option (AuditEntry φ υ δ)) = none) :
    ∀ number, ∃ error, (loadLines number lines : Except LogError (List (AuditEntry φ υ δ))) =
      .error error := by
  induction lines with
  | nil => exact absurd hmem List.not_mem_nil
  | cons first rest ih =>
    intro number
    obtain rfl | hrest := List.mem_cons.mp hmem
    · refine ⟨.record number, ?_⟩
      rw [loadLines, hblank, hrecord]
      rfl
    · obtain ⟨error, herror⟩ := ih hrest (number + 1)
      rw [loadLines, herror]
      split_ifs
      · exact ⟨error, rfl⟩
      · cases (readRecord first : Option (AuditEntry φ υ δ)) with
        | none => exact ⟨_, rfl⟩
        | some entry => exact ⟨error, rfl⟩

/-! ### Records -/

/-- The characters that end a line for `str.splitlines` and that JSON does not escape. -/
def breaksLine (c : Char) : Bool := c.toNat == 0x85 || c.toNat == 0x2028 || c.toNat == 0x2029

theorem isLineBreak_iff {c : Char} (hc : 32 ≤ c.toNat) : isLineBreak c = breaksLine c := by
  rw [Bool.eq_iff_iff]
  simp only [isLineBreak, breaksLine, List.contains_iff_mem, List.mem_cons, List.not_mem_nil,
    or_false, Bool.or_eq_true, beq_iff_eq]
  omega

theorem breaksLine_space {c : Char} (hc : breaksLine c = true) :
    isSpace c = true ∧ isJsonSpace c = false ∧ c.toNat ≠ 13 := by
  simp only [breaksLine, Bool.or_eq_true, beq_iff_eq] at hc
  refine ⟨?_, ?_, ?_⟩
  · simp only [isSpace, Bool.or_eq_true, beq_iff_eq]
    omega
  · simp only [isJsonSpace, Bool.or_eq_false_iff, beq_eq_false_iff_ne]
    omega
  · omega

/-- A record that is read back is no blank line. -/
theorem isBlank_of_loads {line : List Char} {v : JsonData φ} (h : loads line = some v) :
    isBlank line = false := by
  by_contra hblank
  have hspace := (isBlank_iff line).mp (Bool.of_not_eq_false hblank)
  rw [loads_blank hspace] at h
  cases h

end
end RoboticCharacter.Audit
