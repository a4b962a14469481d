import RoboticCharacter.JsonRoundTrip

/-! `json.dumps` as it is called without `ensure_ascii=False`: every character outside printable
ASCII is written as `\u` and the hexadecimal digits of its UTF-16 code units. -/
namespace PrefixCode
variable {α β : Type*}

/-- No code is the beginning of a text that begins with another one. -/
def PrefixFree (code : α → List β) : Prop :=
  ∀ a b r s, code a ++ r = code b ++ s → a = b

/-- What a prefix-free code without empty words makes of a list determines the list. -/
theorem flatMap_injective {code : α → List β} (hfree : PrefixFree code) (hne : ∀ a, code a ≠ []) :
    Function.Injective (fun xs : List α => xs.flatMap code) := by
  intro xs
  induction xs with
  | nil =>
    intro ys h
    cases ys with
    | nil => rfl
    | cons y ys => exact absurd (List.append_eq_nil_iff.mp h.symm).1 (hne y)
  | cons x xs ih =>
    intro ys h
    cases ys with
    | nil => exact absurd (List.append_eq_nil_iff.mp h).1 (hne x)
    | cons y ys =>
      obtain rfl := hfree x y _ _ h
      have hrest : xs.flatMap code = ys.flatMap code := List.append_cancel_left h
      rw [ih hrest]

end PrefixCode

namespace PythonJson
open PrefixCode

/-- The four hexadecimal digits of a code unit. -/
def hexDigits (n : ℕ) : List Char :=
  [Nat.digitChar (n/4096%16), Nat.digitChar (n/256%16), Nat.digitChar (n/16%16),
    Nat.digitChar (n%16)]

def unicodeEscape (n : ℕ) : List Char := backslash :: 'u' :: hexDigits n

/-- The first UTF-16 code unit of a character. -/
def leadUnit (n : ℕ) : ℕ := if n < 0x10000 then n else 0xd800+(n-0x10000)/1024%1024

/-- One character, or a surrogate pair. -/
def escapeUnicode (c : Char) : List Char :=
  if c.toNat < 0x10000 then unicodeEscape c.toNat
  else unicodeEscape (leadUnit c.toNat) ++ unicodeEscape (0xdc00+(c.toNat-0x10000)%1024)

def isPrintable (c : Char) : Bool := decide (32 ≤ c.toNat ∧ c.toNat ≤ 126)

/-- A character of a text that `json.dumps` writes with `ensure_ascii=False`. -/
def asciiChar (c : Char) : List Char := if isPrintable c then [c] else escapeUnicode c

section
variable {κ φ : Type} [PyFloat φ]

/-- `json.dumps(value, sort_keys=True, separators=(",", ":"))`. Only strings hold characters that
the escape is for. -/
def dumpsAscii [DictKey κ] (value : PyValue κ φ) : Option String :=
  (sortKeys value).map fun sorted => String.ofList ((render sorted).flatMap asciiChar)

end

/-! ### What the escapes keep apart -/

theorem digitChar_injective : ∀ m < 16, ∀ n < 16, Nat.digitChar m = Nat.digitChar n → m = n := by
  decide

theorem hexDigits_injective {m n : ℕ} (hm : m < 0x10000) (hn : n < 0x10000)
    (h : hexDigits m = hexDigits n) : m = n := by
  unfold hexDigits at h
  simp only [List.cons.injEq, and_true] at h
  obtain ⟨h1, h2, h3, h4⟩ := h
  have e1 := digitChar_injective _ (Nat.mod_lt _ (by omega)) _ (Nat.mod_lt _ (by omega)) h1
  have e2 := digitChar_injective _ (Nat.mod_lt _ (by omega)) _ (Nat.mod_lt _ (by omega)) h2
  have e3 := digitChar_injective _ (Nat.mod_lt _ (by omega)) _ (Nat.mod_lt _ (by omega)) h3
  have e4 := digitChar_injective _ (Nat.mod_lt _ (by omega)) _ (Nat.mod_lt _ (by omega)) h4
  omega

theorem char_range (c : Char) : c.toNat < 0xd800 ∨ 0xdfff < c.toNat ∧ c.toNat < 0x110000 :=
  c.valid

/-- A character is no surrogate, so its first code unit tells whether there is a second one. -/
theorem escapeUnicode_prefixFree : PrefixFree escapeUnicode := by
  intro c d r s h
  have hc := char_range c
  have hd := char_range d
  have hlead : ∀ x : Char, ∃ rest : List Char,
      escapeUnicode x = unicodeEscape (leadUnit x.toNat) ++ rest ∧
        (x.toNat < 0x10000 ∧ rest = [] ∨ 0x10000 ≤ x.toNat ∧
          rest = unicodeEscape (0xdc00+(x.toNat-0x10000)%1024)) := by
    intro x
    unfold escapeUnicode leadUnit
    split_ifs with hx
    · exact ⟨[], (List.append_nil _).symm, .inl ⟨hx, rfl⟩⟩
    · exact ⟨_, rfl, .inr ⟨not_lt.mp hx, rfl⟩⟩
  have hunit : ∀ (m n : ℕ) (p q : List Char), m < 0x10000 → n < 0x10000 →
      unicodeEscape m ++ p = unicodeEscape n ++ q → m = n ∧ p = q := by
    intro m n p q hm hn heq
    obtain ⟨hcode, hrest⟩ := List.append_inj heq rfl
    unfold unicodeEscape at hcode
    simp only [List.cons.injEq, true_and] at hcode
    exact ⟨hexDigits_injective hm hn hcode, hrest⟩
  obtain ⟨p, hcode, hp⟩ := hlead c
  obtain ⟨q, hdcode, hq⟩ := hlead d
  have hleadLt : ∀ x : Char, leadUnit x.toNat < 0x10000 := by
    intro x
    unfold leadUnit
    split_ifs <;> omega
  rw [hcode, hdcode, List.append_assoc, List.append_assoc] at h
  obtain ⟨hsame, hrest⟩ := hunit _ _ _ _ (hleadLt c) (hleadLt d) h
  unfold leadUnit at hsame
  apply Char.toNat_inj.mp
  rcases hp with ⟨hc', rfl⟩ | ⟨hc', rfl⟩ <;> rcases hq with ⟨hd', rfl⟩ | ⟨hd', rfl⟩
  · rw [if_pos hc', if_pos hd'] at hsame
    exact hsame
  · rw [if_pos hc', if_neg (not_lt.mpr hd')] at hsame
    omega
  · rw [if_neg (not_lt.mpr hc'), if_pos hd'] at hsame
    omega
  · rw [if_neg (not_lt.mpr hc'), if_neg (not_lt.mpr hd')] at hsame
    obtain ⟨hlow, _⟩ := hunit _ _ _ _ (by omega) (by omega) hrest
    omega

/-- The pieces that a JSON text is made of: a printable character, an escape of one letter, or a
character that is escaped by its code. -/
inductive JsonPiece
  | plain (c : {c : Char // isPrintable c = true ∧ c ≠ backslash})
  | short (letter : {c : Char // isPrintable c = true ∧ c ≠ 'u'})
  | coded (c : {c : Char // isPrintable c = false})

namespace JsonPiece

/-- The piece without `ensure_ascii`. -/
def text : JsonPiece → List Char
  | plain c => [c.1]
  | short letter => [backslash, letter.1]
  | coded c => if c.1.toNat < 32 then escapeUnicode c.1 else [c.1]

def ascii : JsonPiece → List Char
  | plain c => [c.1]
  | short letter => [backslash, letter.1]
  | coded c => escapeUnicode c.1

theorem escapeUnicode_head (c : Char) : ∃ rest, escapeUnicode c = backslash :: 'u' :: rest := by
  unfold escapeUnicode unicodeEscape
  split_ifs <;> exact ⟨_, rfl⟩

theorem ascii_ne_nil (piece : JsonPiece) : piece.ascii ≠ [] := by
  cases piece with
  | plain c => exact List.cons_ne_nil _ _
  | short letter => exact List.cons_ne_nil _ _
  | coded c =>
    obtain ⟨rest, heq⟩ := escapeUnicode_head c.1
    change escapeUnicode c.1 ≠ []
    rw [heq]
    exact List.cons_ne_nil _ _

theorem ascii_prefixFree : PrefixFree ascii := by
  intro a b r s h
  have hcoded : ∀ c : {c : Char // isPrintable c = false}, ∃ rest,
      (coded c).ascii = backslash :: 'u' :: rest := fun c => escapeUnicode_head c.1
  cases a with
  | plain c =>
    cases b with
    | plain d =>
      simp only [ascii, List.cons_append, List.nil_append, List.cons.injEq] at h
      rw [Subtype.ext h.1]
    | short letter =>
      simp only [ascii, List.cons_append, List.nil_append, List.cons.injEq] at h
      exact absurd h.1 c.2.2
    | coded d =>
      obtain ⟨rest, heq⟩ := hcoded d
      rw [heq] at h
      simp only [ascii, List.cons_append, List.nil_append, List.cons.injEq] at h
      exact absurd h.1 c.2.2
  | short letter =>
    cases b with
    | plain d =>
      simp only [ascii, List.cons_append, List.nil_append, List.cons.injEq] at h
      exact absurd h.1.symm d.2.2
    | short other =>
      simp only [ascii, List.cons_append, List.nil_append, List.cons.injEq, true_and] at h
      rw [Subtype.ext h.1]
    | coded d =>
      obtain ⟨rest, heq⟩ := hcoded d
      rw [heq] at h
      simp only [ascii, List.cons_append, List.nil_append, List.cons.injEq, true_and] at h
      exact absurd h.1 letter.2.2
  | coded c =>
    cases b with
    | plain d =>
      obtain ⟨rest, heq⟩ := hcoded c
      rw [heq] at h
      simp only [ascii, List.cons_append, List.nil_append, List.cons.injEq] at h
      exact absurd h.1.symm d.2.2
    | short letter =>
      obtain ⟨rest, heq⟩ := hcoded c
      rw [heq] at h
      simp only [ascii, List.cons_append, List.nil_append, List.cons.injEq, true_and] at h
      exact absurd h.1.symm letter.2.2
    | coded d =>
      have hsame := escapeUnicode_prefixFree c.1 d.1 r s h
      rw [Subtype.ext hsame]

theorem printable_digit (n : ℕ) (h : n < 16) : isPrintable (Nat.digitChar n) = true := by
  revert n
  decide

theorem asciiChar_of_printable {c : Char} (h : isPrintable c = true) : asciiChar c = [c] :=
  if_pos h

theorem unicodeEscape_ascii (n : ℕ) : (unicodeEscape n).flatMap asciiChar = unicodeEscape n := by
  have hdigit : ∀ m, asciiChar (Nat.digitChar (m%16)) = [Nat.digitChar (m%16)] := fun m =>
    asciiChar_of_printable (printable_digit _ (Nat.mod_lt _ (by omega)))
  have hslash : asciiChar backslash = [backslash] := by decide
  have hletter : asciiChar 'u' = ['u'] := by decide
  unfold unicodeEscape hexDigits
  simp only [List.flatMap_cons, List.flatMap_nil, hdigit, hslash, hletter, List.cons_append,
    List.nil_append]

/-- Escaping a text escapes its pieces. -/
theorem text_ascii (piece : JsonPiece) : piece.text.flatMap asciiChar = piece.ascii := by
  cases piece with
  | plain c =>
    have hc := asciiChar_of_printable c.2.1
    simp only [text, ascii, List.flatMap_cons, List.flatMap_nil, hc, List.append_nil]
  | short letter =>
    have hslash : asciiChar backslash = [backslash] := by decide
    have hl := asciiChar_of_printable letter.2.1
    simp only [text, ascii, List.flatMap_cons, List.flatMap_nil, hslash, hl, List.cons_append,
      List.nil_append]
  | coded c =>
    dsimp only [text, ascii]
    split_ifs with hcontrol
    · unfold escapeUnicode
      rw [if_pos (by omega), unicodeEscape_ascii]
    · have hc : asciiChar c.1 = escapeUnicode c.1 := if_neg (by rw [c.2]; exact Bool.false_ne_true)
      rw [List.flatMap_cons, List.flatMap_nil, hc, List.append_nil]

end JsonPiece

/-- The text is made of pieces. -/
def InPieces (text : List Char) : Prop :=
  ∃ pieces : List JsonPiece, text = pieces.flatMap JsonPiece.text

/-- Two texts in pieces that are escaped to one are one. -/
theorem InPieces.eq_of_ascii {a b : List Char} (ha : InPieces a) (hb : InPieces b)
    (h : a.flatMap asciiChar = b.flatMap asciiChar) : a = b := by
  obtain ⟨pieces, rfl⟩ := ha
  obtain ⟨others, rfl⟩ := hb
  simp only [List.flatMap_assoc, JsonPiece.text_ascii] at h
  rw [flatMap_injective JsonPiece.ascii_prefixFree JsonPiece.ascii_ne_nil h]

namespace InPieces

theorem nil : InPieces [] := ⟨[], rfl⟩

theorem append {a b : List Char} (ha : InPieces a) (hb : InPieces b) : InPieces (a ++ b) := by
  obtain ⟨pieces, rfl⟩ := ha
  obtain ⟨others, rfl⟩ := hb
  exact ⟨pieces ++ others, List.flatMap_append.symm⟩

theorem cons {c : Char} (hc : isPrintable c = true ∧ c ≠ backslash) {rest : List Char}
    (hrest : InPieces rest) : InPieces (c :: rest) := by
  obtain ⟨pieces, rfl⟩ := hrest
  exact ⟨.plain ⟨c, hc⟩ :: pieces, rfl⟩

/-- Characters that are written as they are. -/
theorem of_plain {text : List Char} (h : ∀ c ∈ text, isPrintable c = true ∧ c ≠ backslash) :
    InPieces text := by
  induction text with
  | nil => exact nil
  | cons c rest ih =>
    exact cons (h c List.mem_cons_self) (ih fun d hd => h d (List.mem_cons_of_mem _ hd))

/-- The same for a given text, by evaluation. -/
theorem of_all {text : List Char}
    (h : (text.all fun c => isPrintable c && c != backslash) = true) : InPieces text := by
  apply of_plain
  intro c hc
  have hchar := List.all_eq_true.mp h c hc
  rw [Bool.and_eq_true, bne_iff_ne] at hchar
  exact hchar

theorem flatMap {α : Type} {f : α → List Char} {xs : List α} (h : ∀ x ∈ xs, InPieces (f x)) :
    InPieces (xs.flatMap f) := by
  induction xs with
  | nil => exact nil
  | cons x xs ih =>
    rw [List.flatMap_cons]
    exact append (h x List.mem_cons_self) (ih fun y hy => h y (List.mem_cons_of_mem _ hy))

end InPieces

/-! ### The texts of values -/

theorem plain_of_digit {c : Char} (h : c.isDigit = true) :
    isPrintable c = true ∧ c ≠ backslash := by
  have hrange := (isDigit_code c).mp h
  refine ⟨decide_eq_true (by omega), ?_⟩
  rintro rfl
  revert h
  decide

theorem NumberParts.WellFormed.plain {parts : NumberParts} (h : parts.WellFormed) :
    ∀ c ∈ parts.text, isPrintable c = true ∧ c ≠ backslash := by
  intro c hc
  simp only [NumberParts.text, List.mem_append] at hc
  rcases hc with ((hsign | hwhole) | hfraction) | hexponent
  · rcases h.sign with heq | heq <;> rw [heq] at hsign
    · exact absurd hsign List.not_mem_nil
    · rw [List.mem_singleton.mp hsign]
      decide
  · rcases h.whole with heq | ⟨_, _, _, _, hdigits⟩
    · rw [heq] at hwhole
      rw [List.mem_singleton.mp hwhole]
      decide
    · exact plain_of_digit (hdigits c hwhole)
  · rcases h.fraction with heq | ⟨ds, heq, _, hdigits⟩ <;> rw [heq] at hfraction
    · exact absurd hfraction List.not_mem_nil
    · rcases List.mem_cons.mp hfraction with rfl | hmem
      · decide
      · exact plain_of_digit (hdigits c hmem)
  · rcases h.exponent with heq | ⟨letter, mark, ds, heq, hletter, hmark, _, hdigits⟩ <;>
      rw [heq] at hexponent
    · exact absurd hexponent List.not_mem_nil
    · rcases List.mem_cons.mp hexponent with rfl | hmem
      · rcases hletter with rfl | rfl <;> decide
      · rcases List.mem_append.mp hmem with hin | hin
        · rcases hmark with rfl | rfl | rfl
          · exact absurd hin List.not_mem_nil
          · rw [List.mem_singleton.mp hin]
            decide
          · rw [List.mem_singleton.mp hin]
            decide
        · exact plain_of_digit (hdigits c hin)

theorem inPieces_int (n : ℤ) : InPieces (intText n) := by
  rw [← intParts_text]
  exact InPieces.of_plain (intParts_wellFormed n).plain

theorem inPieces_float {φ : Type} [PyFloat φ] (x : φ) : InPieces (PyFloat.text x) := by
  obtain hword | ⟨parts, hparts, -, htext⟩ := (PyFloat.text_literal x).word_or_number
  · apply InPieces.of_all
    have hall : (constantWords.all fun word => word.all fun c => isPrintable c && c != backslash) =
        true := rfl
    exact List.all_eq_true.mp hall _ hword
  · rw [htext]
    exact InPieces.of_plain hparts.plain

theorem shortEscape_letter {c letter : Char} (h : shortEscape c = some letter) :
    isPrintable letter = true ∧ letter ≠ 'u' := by
  unfold shortEscape at h
  split_ifs at h <;> obtain rfl := Option.some.inj h <;> decide

theorem inPieces_escapeChar (c : Char) : InPieces (escapeChar c) := by
  unfold escapeChar
  cases hshort : shortEscape c with
  | some letter => exact ⟨[.short ⟨letter, shortEscape_letter hshort⟩], rfl⟩
  | none =>
    dsimp only
    split_ifs with hcontrol
    · -- a control character is escaped by its code in either form
      have hcode : isPrintable c = false := decide_eq_false (by omega)
      refine ⟨[.coded ⟨c, hcode⟩], ?_⟩
      have hzero : c.toNat/4096%16 = 0 ∧ c.toNat/256%16 = 0 ∧ c.toNat/16%16 = c.toNat/16 := by
        omega
      have hdigit : Nat.digitChar 0 = '0' := by decide
      simp only [List.flatMap_cons, List.flatMap_nil, JsonPiece.text, hcontrol, if_true,
        escapeUnicode, if_pos (show c.toNat < 0x10000 by omega), unicodeEscape, hexDigits, hzero,
        hdigit, List.append_nil]
    · by_cases hprint : isPrintable c = true
      · apply InPieces.of_plain
        intro d hd
        rw [List.mem_singleton.mp hd]
        refine ⟨hprint, ?_⟩
        rintro rfl
        revert hshort
        decide
      · refine ⟨[.coded ⟨c, Bool.eq_false_iff.mpr hprint⟩], ?_⟩
        simp only [List.flatMap_cons, List.flatMap_nil, JsonPiece.text, hcontrol, if_false,
          List.append_nil]

theorem inPieces_string (s : String) : InPieces (stringText s) := by
  have hquote : isPrintable quote = true ∧ quote ≠ backslash := by decide
  unfold stringText
  apply InPieces.cons hquote
  apply InPieces.append
  · exact InPieces.flatMap fun c _ => inPieces_escapeChar c
  · exact InPieces.cons hquote InPieces.nil

section
variable {φ : Type} [PyFloat φ]

mutual
theorem inPieces_render : ∀ v : JsonData φ, InPieces (render v)
  | .none => by
    rw [render]
    exact InPieces.of_all rfl
  | .bool true => by
    rw [render]
    exact InPieces.of_all rfl
  | .bool false => by
    rw [render]
    exact InPieces.of_all rfl
  | .int n => by
    rw [render]
    exact inPieces_int n
  | .float x => by
    rw [render]
    exact inPieces_float x
  | .str s => by
    rw [render]
    exact inPieces_string s
  | .list [] => by
    rw [render]
    exact InPieces.of_all rfl
  | .list (v :: vs) => by
    rw [render]
    exact InPieces.cons (by decide) ((inPieces_render v).append (inPieces_renderItems vs))
  | .dict [] => by
    rw [render]
    exact InPieces.of_all rfl
  | .dict ((k, v) :: es) => by
    rw [render]
    exact InPieces.cons (by decide) ((inPieces_string k).append
      (InPieces.cons (by decide) ((inPieces_render v).append (inPieces_renderEntries es))))

theorem inPieces_renderItems : ∀ vs : List (JsonData φ), InPieces (renderItems vs)
  | [] => by
    rw [renderItems]
    exact InPieces.of_all rfl
  | v :: vs => by
    rw [renderItems]
    exact InPieces.cons (by decide) ((inPieces_render v).append (inPieces_renderItems vs))

theorem inPieces_renderEntries : ∀ es : List (String × JsonData φ), InPieces (renderEntries es)
  | [] => by
    rw [renderEntries]
    exact InPieces.of_all rfl
  | (k, v) :: es => by
    rw [renderEntries]
    exact InPieces.cons (by decide) ((inPieces_string k).append
      (InPieces.cons (by decide) ((inPieces_render v).append (inPieces_renderEntries es))))
end

/-- The ASCII text of a value tells it from every other one. -/
theorem renderAscii_injective {v w : JsonData φ}
    (h : (render v).flatMap asciiChar = (render w).flatMap asciiChar) : v = w :=
  render_injective ((inPieces_render v).eq_of_ascii (inPieces_render w) h)

end

/-! ### The characters of a text -/

/-- The text has no control characters and, above U+007E, the characters of the strings in it. -/
structure Spells (text strings : List Char) : Prop where
  controls : ∀ c ∈ text, 32 ≤ c.toNat
  beyond : ∀ c : Char, 126 < c.toNat → (c ∈ text ↔ c ∈ strings)

theorem isPrintable_code {c : Char} (h : isPrintable c = true) : 32 ≤ c.toNat ∧ c.toNat ≤ 126 :=
  of_decide_eq_true h

theorem isPrintable_digitChar (n : ℕ) : isPrintable (Nat.digitChar (n%16)) = true := by
  have hall : ∀ d < 16, isPrintable (Nat.digitChar d) = true := by decide
  exact hall _ (Nat.mod_lt n (by decide))

namespace Spells

theorem printable {text : List Char} (h : ∀ c ∈ text, isPrintable c = true) : Spells text [] where
  controls c hc := (isPrintable_code (h c hc)).1
  beyond c hbeyond := by
    constructor
    · intro hc
      exact absurd (isPrintable_code (h c hc)).2 (by omega)
    · exact fun hc => absurd hc List.not_mem_nil

theorem of_all {text : List Char} (h : text.all isPrintable = true) : Spells text [] :=
  printable (List.all_eq_true.mp h)

theorem append {text strings later laterStrings : List Char} (h : Spells text strings)
    (hlater : Spells later laterStrings) : Spells (text ++ later) (strings ++ laterStrings) where
  controls c hc := (List.mem_append.mp hc).elim (h.controls c) (hlater.controls c)
  beyond c hbeyond := by
    rw [List.mem_append, List.mem_append, h.beyond c hbeyond, hlater.beyond c hbeyond]

/-- A printable character in front belongs to no string. -/
theorem cons {c : Char} {text strings : List Char} (hc : isPrintable c = true)
    (h : Spells text strings) : Spells (c :: text) strings := by
  have hone : Spells [c] [] := printable (fun d hd => by rwa [List.mem_singleton.mp hd])
  exact hone.append h

/-- The same for a printable character behind. -/
theorem concat {c : Char} {text strings : List Char} (h : Spells text strings)
    (hc : isPrintable c = true) : Spells (text ++ [c]) strings := by
  have hone : Spells [c] [] := printable (fun d hd => by rwa [List.mem_singleton.mp hd])
  have hjoined := h.append hone
  rwa [List.append_nil] at hjoined

/-- A string of printable characters may be left out. -/
theorem of_append {text strings ascii later : List Char}
    (h : Spells text (strings ++ (ascii ++ later))) (hascii : ∀ c ∈ ascii, c.toNat ≤ 126) :
    Spells text (strings ++ later) where
  controls := h.controls
  beyond c hbeyond := by
    have hnot : c ∉ ascii := fun hc => absurd (hascii c hc) (by omega)
    rw [h.beyond c hbeyond, List.mem_append, List.mem_append, List.mem_append]
    simp only [hnot, false_or]

end Spells

theorem spells_escapeChar (c : Char) : Spells (escapeChar c) [c] := by
  unfold escapeChar
  cases hshort : shortEscape c with
  | some letter =>
    -- the characters that have a letter are ASCII
    have hcode : c.toNat ≤ 126 := by
      unfold shortEscape at hshort
      split_ifs at hshort with h1 h2 h3 h4 h5 h6 h7
      · rw [h1]
        decide
      · rw [h2]
        decide
      all_goals omega
    have htext : Spells [backslash, letter] [] :=
      .cons (by decide) (.cons (shortEscape_letter hshort).1 (.printable nofun))
    refine ⟨htext.controls, fun d hbeyond => ?_⟩
    rw [htext.beyond d hbeyond, List.mem_singleton]
    refine iff_of_false List.not_mem_nil ?_
    rintro rfl
    omega
  | none =>
    dsimp only
    split_ifs with hcontrol
    · have hhigh : c.toNat/16%16 = c.toNat/16 := by omega
      have hhighDigit := isPrintable_digitChar (c.toNat/16)
      rw [hhigh] at hhighDigit
      have htext : Spells
          [backslash, 'u', '0', '0', Nat.digitChar (c.toNat/16), Nat.digitChar (c.toNat%16)] [] :=
        .cons (by decide) (.cons (by decide) (.cons (by decide) (.cons (by decide)
          (.cons hhighDigit (.cons (isPrintable_digitChar c.toNat) (.printable nofun))))))
      refine ⟨htext.controls, fun d hbeyond => ?_⟩
      rw [htext.beyond d hbeyond, List.mem_singleton]
      refine iff_of_false List.not_mem_nil ?_
      rintro rfl
      omega
    · refine ⟨fun d hd => ?_, fun _ _ => Iff.rfl⟩
      rw [List.mem_singleton.mp hd]
      omega

theorem spells_escaped (s : List Char) : Spells (s.flatMap escapeChar) s := by
  induction s with
  | nil => exact .printable nofun
  | cons c s ih =>
    rw [List.flatMap_cons]
    exact (spells_escapeChar c).append ih

theorem spells_string (s : String) : Spells (stringText s) s.toList := by
  have hquote : isPrintable quote = true := by decide
  unfold stringText
  exact .cons hquote ((spells_escaped s.toList).concat hquote)

theorem spells_float {φ : Type} [PyFloat φ] (x : φ) : Spells (PyFloat.text x) [] := by
  apply Spells.printable
  obtain hword | ⟨parts, hparts, -, htext⟩ := (PyFloat.text_literal x).word_or_number
  · have hall : (constantWords.all fun word => word.all isPrintable) = true := rfl
    exact List.all_eq_true.mp (List.all_eq_true.mp hall _ hword)
  · intro c hc
    rw [htext] at hc
    exact (hparts.plain c hc).1

theorem spells_int (n : ℤ) : Spells (intText n) [] := by
  apply Spells.printable
  intro c hc
  rw [← intParts_text] at hc
  exact ((intParts_wellFormed n).plain c hc).1

section
variable {φ : Type} [PyFloat φ]

mutual
/-- A written value spells the strings in it, keys among them. -/
theorem spells_render : ∀ v : JsonData φ, Spells (render v) (valueChars String.toList v)
  | .none => by
    rw [render]
    exact .of_all (by decide)
  | .bool true => by
    rw [render]
    exact .of_all (by decide)
  | .bool false => by
    rw [render]
    exact .of_all (by decide)
  | .int n => by
    rw [render]
    exact spells_int n
  | .float x => by
    rw [render]
    exact spells_float x
  | .str s => by
    rw [render, valueChars]
    exact spells_string s
  | .list [] => by
    rw [render]
    exact .of_all (by decide)
  | .list (v :: vs) => by
    rw [render, valueChars, itemsChars]
    exact .cons (by decide) ((spells_render v).append (spells_renderItems vs))
  | .dict [] => by
    rw [render]
    exact .of_all (by decide)
  | .dict ((k, v) :: es) => by
    rw [render, valueChars, entriesChars]
    exact .cons (by decide) ((spells_string k).append
      (.cons (by decide) ((spells_render v).append (spells_renderEntries es))))

theorem spells_renderItems :
    ∀ vs : List (JsonData φ), Spells (renderItems vs) (itemsChars String.toList vs)
  | [] => by
    rw [renderItems]
    exact .of_all (by decide)
  | v :: vs => by
    rw [renderItems, itemsChars]
    exact .cons (by decide) ((spells_render v).append (spells_renderItems vs))

theorem spells_renderEntries :
    ∀ es : List (String × JsonData φ), Spells (renderEntries es) (entriesChars String.toList es)
  | [] => by
    rw [renderEntries]
    exact .of_all (by decide)
  | (k, v) :: es => by
    rw [renderEntries, entriesChars]
    exact .cons (by decide) ((spells_string k).append
      (.cons (by decide) ((spells_render v).append (spells_renderEntries es))))
end

end

/-! ### Records -/

/-- Two lists with the same distinct keys in the same order that are one up to order are one. -/
theorem eq_of_perm_of_keys {κ α : Type} {es fs : List (κ × α)}
    (hkeys : es.map Prod.fst = fs.map Prod.fst) (hnodup : (es.map Prod.fst).Nodup)
    (hperm : es.Perm fs) : es = fs := by
  induction es generalizing fs with
  | nil => exact (List.nil_perm.mp hperm).symm
  | cons e es ih =>
    cases fs with
    | nil => exact List.perm_nil.mp hperm
    | cons f fs =>
      obtain ⟨hkey, hrest⟩ := List.cons.inj hkeys
      obtain ⟨hfresh, hdistinct⟩ := List.nodup_cons.mp hnodup
      have hhead : e = f := by
        rcases List.mem_cons.mp (hperm.mem_iff.mp List.mem_cons_self) with heq | hmem
        · exact heq
        · -- the key of the first entry is no other entry's
          apply absurd _ hfresh
          have hin : e.1 ∈ fs.map Prod.fst := List.mem_map_of_mem hmem
          exact hrest.symm ▸ hin
      subst hhead
      rw [ih hrest hdistinct hperm.cons_inv]

section
variable {α φ : Type}

theorem insertEntry_string (entry : String × α) (es : List (String × α)) :
    ∃ sorted, insertEntry entry es = some sorted ∧ sorted.Perm (entry :: es) := by
  induction es with
  | nil => exact ⟨_, rfl, List.Perm.refl _⟩
  | cons next rest ih =>
    obtain ⟨sorted, hsorted, hperm⟩ := ih
    unfold insertEntry
    dsimp only [DictKey.less]
    by_cases hless : next.1.toList < entry.1.toList
    · rw [decide_eq_true hless, hsorted]
      refine ⟨next :: sorted, rfl, ?_⟩
      exact (hperm.cons next).trans (List.Perm.swap entry next rest)
    · rw [decide_eq_false hless]
      exact ⟨_, rfl, List.Perm.refl _⟩

/-- Entries with string keys can be sorted. -/
theorem sortEntries_string (es : List (String × α)) :
    ∃ sorted, sortEntries es = some sorted ∧ sorted.Perm es := by
  induction es with
  | nil => exact ⟨[], rfl, List.Perm.refl _⟩
  | cons entry rest ih =>
    obtain ⟨sorted, hsorted, hperm⟩ := ih
    obtain ⟨more, hmore, hinserted⟩ := insertEntry_string entry sorted
    refine ⟨more, ?_, hinserted.trans (hperm.cons entry)⟩
    rw [sortEntries, hsorted, Option.bind_some, hmore]

mutual
/-- JSON data can be sorted. -/
theorem sortKeys_isSome : ∀ v : JsonData φ, (sortKeys v).isSome = true
  | .none => rfl
  | .bool _ => rfl
  | .int _ => rfl
  | .float _ => rfl
  | .str _ => rfl
  | .list vs => by
    rw [sortKeys, Option.isSome_map]
    exact sortKeysItems_isSome vs
  | .dict es => by
    obtain ⟨values, hvalues⟩ := Option.isSome_iff_exists.mp (sortKeysEntries_isSome es)
    obtain ⟨sorted, hsorted, _⟩ := sortEntries_string values
    rw [sortKeys, hvalues, Option.bind_some, hsorted]
    rfl

theorem sortKeysItems_isSome : ∀ vs : List (JsonData φ), (sortKeysItems vs).isSome = true
  | [] => rfl
  | v :: vs => by
    obtain ⟨w, hw⟩ := Option.isSome_iff_exists.mp (sortKeys_isSome v)
    rw [sortKeysItems, hw, Option.bind_some, Option.isSome_map]
    exact sortKeysItems_isSome vs

theorem sortKeysEntries_isSome : ∀ es : List (String × JsonData φ),
    (sortKeysEntries es).isSome = true
  | [] => rfl
  | (k, v) :: es => by
    obtain ⟨w, hw⟩ := Option.isSome_iff_exists.mp (sortKeys_isSome v)
    rw [sortKeysEntries, hw, Option.bind_some, Option.isSome_map]
    exact sortKeysEntries_isSome es
end

theorem sortKeysEntries_values {es sorted : List (String × JsonData φ)}
    (h : sortKeysEntries es = some sorted) :
    sorted.map Prod.fst = es.map Prod.fst ∧
      sorted.map (fun entry => some entry.2) = es.map (fun entry => sortKeys entry.2) := by
  induction es generalizing sorted with
  | nil =>
    obtain rfl := Option.some.inj h
    exact ⟨rfl, rfl⟩
  | cons entry es ih =>
    obtain ⟨k, v⟩ := entry
    rw [sortKeysEntries] at h
    obtain ⟨w, hw, hrest⟩ := Option.bind_eq_some_iff.mp h
    obtain ⟨more, hmore, rfl⟩ := Option.map_eq_some_iff.mp hrest
    obtain ⟨hkeys, hvalues⟩ := ih hmore
    refine ⟨congrArg (k :: ·) hkeys, ?_⟩
    rw [List.map_cons, List.map_cons, hvalues]
    exact congrArg (· :: _) hw.symm

theorem sortKeysItems_values {vs sorted : List (JsonData φ)} (h : sortKeysItems vs = some sorted) :
    sorted.map some = vs.map sortKeys := by
  induction vs generalizing sorted with
  | nil =>
    obtain rfl := Option.some.inj h
    rfl
  | cons v vs ih =>
    rw [sortKeysItems] at h
    obtain ⟨w, hw, hrest⟩ := Option.bind_eq_some_iff.mp h
    obtain ⟨more, hmore, rfl⟩ := Option.map_eq_some_iff.mp hrest
    rw [List.map_cons, List.map_cons, ih hmore, hw]

/-- Records with the same fields that are sorted to one have the same sorted values. -/
theorem sortKeys_record {es fs : List (String × JsonData φ)}
    (hkeys : es.map Prod.fst = fs.map Prod.fst) (hnodup : (es.map Prod.fst).Nodup)
    (h : sortKeys (.dict es : JsonData φ) = sortKeys (.dict fs)) :
    es.map (fun entry => sortKeys entry.2) = fs.map (fun entry => sortKeys entry.2) := by
  obtain ⟨xs, hxs⟩ := Option.isSome_iff_exists.mp (sortKeysEntries_isSome es)
  obtain ⟨ys, hys⟩ := Option.isSome_iff_exists.mp (sortKeysEntries_isSome fs)
  obtain ⟨hxKeys, hxValues⟩ := sortKeysEntries_values hxs
  obtain ⟨hyKeys, hyValues⟩ := sortKeysEntries_values hys
  obtain ⟨xsorted, hxSorted, hxPerm⟩ := sortEntries_string xs
  obtain ⟨ysorted, hySorted, hyPerm⟩ := sortEntries_string ys
  have htext : (keyText : String × JsonData φ → String × JsonData φ) = id := rfl
  rw [sortKeys, sortKeys, hxs, hys, Option.bind_some, Option.bind_some, hxSorted, hySorted,
    Option.map_some, Option.map_some, htext, List.map_id, List.map_id] at h
  obtain rfl := PyValue.dict.inj (Option.some.inj h)
  have hsame : xs = ys := by
    apply eq_of_perm_of_keys
    · rw [hxKeys, hkeys, hyKeys]
    · rw [hxKeys]
      exact hnodup
    · exact hxPerm.symm.trans hyPerm
  rw [← hxValues, ← hyValues, hsame]

theorem sortKeys_items {vs ws : List (JsonData φ)}
    (h : sortKeys (.list vs : JsonData φ) = sortKeys (.list ws)) :
    vs.map sortKeys = ws.map sortKeys := by
  obtain ⟨xs, hxs⟩ := Option.isSome_iff_exists.mp (sortKeysItems_isSome vs)
  obtain ⟨ys, hys⟩ := Option.isSome_iff_exists.mp (sortKeysItems_isSome ws)
  rw [sortKeys, sortKeys, hxs, hys, Option.map_some, Option.map_some] at h
  obtain rfl := PyValue.list.inj (Option.some.inj h)
  rw [← sortKeysItems_values hxs, ← sortKeysItems_values hys]

/-- The text of JSON data tells what it is sorted to. -/
theorem dumpsAscii_eq [PyFloat φ] {v w : JsonData φ} (h : dumpsAscii v = dumpsAscii w) :
    sortKeys v = sortKeys w := by
  obtain ⟨x, hx⟩ := Option.isSome_iff_exists.mp (sortKeys_isSome v)
  obtain ⟨y, hy⟩ := Option.isSome_iff_exists.mp (sortKeys_isSome w)
  unfold dumpsAscii at h
  rw [hx, hy, Option.map_some, Option.map_some] at h
  rw [hx, hy, renderAscii_injective (String.ofList_injective (Option.some.inj h))]

theorem dumpsAscii_isSome [PyFloat φ] (v : JsonData φ) : (dumpsAscii v).isSome = true := by
  unfold dumpsAscii
  rw [Option.isSome_map]
  exact sortKeys_isSome v

end

end PythonJson
