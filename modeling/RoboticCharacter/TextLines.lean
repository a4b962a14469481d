import Mathlib.Data.List.TakeWhile
import Mathlib.Tactic.Common
import RoboticCharacter.PythonText

/-! Python's `str.splitlines`, and which texts are blank. -/
namespace PythonText

def newline : Char := Char.ofNat 10

/-- The characters at which `str.splitlines` ends a line. -/
def isLineBreak (c : Char) : Bool :=
  [0x0A, 0x0B, 0x0C, 0x0D, 0x1C, 0x1D, 0x1E, 0x85, 0x2028, 0x2029].contains c.toNat

/-- `text.splitlines()`: a carriage return and the line feed after it are one end of a line. -/
def splitlines : List Char → List (List Char)
  | [] => []
  | c :: rest =>
    if isLineBreak c then
      if c.toNat = 13 ∧ rest.head? = some newline then splitlines rest else [] :: splitlines rest
    else
      match splitlines rest with
      | [] => [[c]]
      | line :: lines => (c :: line) :: lines

theorem isLineBreak_newline : isLineBreak newline = true := by decide

theorem splitlines_break {c : Char} (hc : isLineBreak c = true) (hne : c.toNat ≠ 13)
    (rest : List Char) : splitlines (c :: rest) = [] :: splitlines rest := by
  rw [splitlines, if_pos hc, if_neg]
  exact fun h => hne h.1

/-- A line ends at its first break. -/
theorem splitlines_line {line : List Char} (hline : ∀ d ∈ line, isLineBreak d = false) {c : Char}
    (hc : isLineBreak c = true) (hne : c.toNat ≠ 13) (rest : List Char) :
    splitlines (line ++ c :: rest) = line :: splitlines rest := by
  induction line with
  | nil => exact splitlines_break hc hne rest
  | cons d line ih =>
    have hd := hline d List.mem_cons_self
    have hrest := ih fun x hx => hline x (List.mem_cons_of_mem d hx)
    rw [List.cons_append, splitlines, hd, hrest]
    rfl

theorem splitlines_newline_ne_nil (text : List Char) : splitlines (text ++ [newline]) ≠ [] := by
  induction text with
  | nil => exact List.cons_ne_nil _ _
  | cons c rest ih =>
    rw [List.cons_append, splitlines]
    split_ifs
    · exact ih
    · exact List.cons_ne_nil _ _
    · split
      · exact List.cons_ne_nil _ _
      · exact List.cons_ne_nil _ _

/-- What follows a line feed is split on its own. -/
theorem splitlines_append_newline (text rest : List Char) :
    splitlines (text ++ newline :: rest) = splitlines (text ++ [newline]) ++ splitlines rest := by
  have hne : newline.toNat ≠ 13 := by decide
  induction text with
  | nil =>
    have hlast : splitlines ([] ++ [newline]) = [[]] := rfl
    rw [hlast, List.nil_append, splitlines_break isLineBreak_newline hne]
    rfl
  | cons c tail ih =>
    have hhead : (tail ++ newline :: rest).head? = (tail ++ [newline]).head? := by
      cases tail <;> rfl
    rw [List.cons_append, List.cons_append, splitlines, splitlines, hhead, ih]
    split_ifs
    · rfl
    · rfl
    · obtain ⟨line, lines, hlines⟩ := List.exists_cons_of_ne_nil (splitlines_newline_ne_nil tail)
      rw [hlines]
      rfl

/-- The text is empty or ends a line. -/
def EndsLine (text : List Char) : Prop := text = [] ∨ ∃ front, text = front ++ [newline]

theorem splitlines_append {text : List Char} (h : EndsLine text) (rest : List Char) :
    splitlines (text ++ rest) = splitlines text ++ splitlines rest := by
  obtain rfl | ⟨front, rfl⟩ := h
  · rfl
  · rw [List.append_assoc]
    exact splitlines_append_newline front rest

/-! ### Blank texts -/

/-- `not text.strip()`. -/
def isBlank (text : List Char) : Bool := (strip (String.ofList text)).isEmpty

theorem isBlank_iff (text : List Char) : isBlank text = true ↔ ∀ c ∈ text, isSpace c = true := by
  have hempty : isBlank text = true ↔
      ((text.dropWhile isSpace).reverse.dropWhile isSpace).reverse = [] := by
    unfold isBlank strip
    rw [String.isEmpty_iff, String.toList_ofList, ← String.toList_eq_nil_iff, String.toList_ofList]
  rw [hempty, List.reverse_eq_nil_iff, List.dropWhile_eq_nil_iff]
  constructor
  · intro h c hc
    -- A character that is no space would head what `dropWhile` leaves.
    have hmem : c ∈ text.takeWhile isSpace ++ text.dropWhile isSpace := by
      rw [List.takeWhile_append_dropWhile]
      exact hc
    obtain htake | hdrop := List.mem_append.mp hmem
    · exact List.mem_takeWhile_imp htake
    · exact h c (List.mem_reverse.mpr hdrop)
  · intro h c hc
    exact h c ((List.dropWhile_suffix isSpace).subset (List.mem_reverse.mp hc))

end PythonText
