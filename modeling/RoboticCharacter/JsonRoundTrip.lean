import Mathlib.Tactic.Common
import RoboticCharacter.JsonScanner

/-! The scanner reads back what the writer wrote: first strings and numbers, then every value
whose text is followed by nothing or by a delimiter. Hence no two values have one text. -/
namespace PythonJson

/-! ### Strings -/

theorem shortEscape_unescape {c letter : Char} (h : shortEscape c = some letter) :
    letter ≠ 'u' ∧ unescapeLetter letter = some c := by
  -- Each letter is of one character, so the cases are those of the writer's table.
  unfold shortEscape at h
  split_ifs at h with h1 h2 h3 h4 h5 h6 h7 <;> cases h
  · subst h1
    decide
  · subst h2
    decide
  · have hc : c = Char.ofNat 8 := by rw [← h3, Char.ofNat_toNat]
    subst hc
    decide
  · have hc : c = Char.ofNat 9 := by rw [← h4, Char.ofNat_toNat]
    subst hc
    decide
  · have hc : c = Char.ofNat 10 := by rw [← h5, Char.ofNat_toNat]
    subst hc
    decide
  · have hc : c = Char.ofNat 12 := by rw [← h6, Char.ofNat_toNat]
    subst hc
    decide
  · have hc : c = Char.ofNat 13 := by rw [← h7, Char.ofNat_toNat]
    subst hc
    decide

theorem hexValue_digitChar : ∀ n < 16, hexValue (Nat.digitChar n) = some n := by
  decide

theorem scanUnicode_control (c : Char) (rest : List Char) (hc : c.toNat < 32) :
    scanUnicode ('0' :: '0' :: Nat.digitChar (c.toNat/16) :: Nat.digitChar (c.toNat%16) :: rest) =
      some (c, rest) := by
  have hzero : hexValue '0' = some 0 := by decide
  have hhigh : hexValue (Nat.digitChar (c.toNat/16)) = some (c.toNat/16) := by
    apply hexValue_digitChar
    omega
  have hlow : hexValue (Nat.digitChar (c.toNat%16)) = some (c.toNat%16) := by
    apply hexValue_digitChar
    omega
  have hvalue : 4096*0 + 256*0 + 16*(c.toNat/16) + c.toNat%16 = c.toNat := by omega
  have hscan : scanHex ('0' :: '0' :: Nat.digitChar (c.toNat/16) ::
      Nat.digitChar (c.toNat%16) :: rest) = some (c.toNat, rest) := by
    simp only [scanHex, hzero, hhigh, hlow, hvalue]
  have hnotHigh : isHighSurrogate c.toNat = false := by
    simp only [isHighSurrogate, Bool.and_eq_false_iff, decide_eq_false_iff_not]
    omega
  have hnotLow : isLowSurrogate c.toNat = false := by
    simp only [isLowSurrogate, Bool.and_eq_false_iff, decide_eq_false_iff_not]
    omega
  simp only [scanUnicode, hscan, hnotHigh, hnotLow, Bool.false_eq_true, if_false,
    Char.ofNat_toNat]

/-- One written character is read as that character. -/
theorem scanChars_escapeChar (c : Char) (fuel : ℕ) (rest : List Char) :
    scanChars (fuel + 1) (escapeChar c ++ rest) =
      (scanChars fuel rest).map fun scanned => (c :: scanned.1, scanned.2) := by
  have hquote : backslash ≠ quote := by decide
  have hplain : ¬ backslash.toNat < 32 := by decide
  unfold escapeChar
  cases hshort : shortEscape c with
  | some letter =>
    obtain ⟨hletter, hback⟩ := shortEscape_unescape hshort
    simp only [List.cons_append, List.nil_append, scanChars, hquote, hplain, if_false, if_true,
      hletter, hback]
  | none =>
    by_cases hcontrol : c.toNat < 32
    · simp only [hcontrol, if_true, List.cons_append, List.nil_append, scanChars, hquote, hplain,
        if_false, scanUnicode_control c rest hcontrol]
    · have hc : c ≠ quote ∧ c ≠ backslash := by
        refine ⟨?_, ?_⟩ <;>
        · intro he
          subst he
          revert hshort
          decide
      simp only [hcontrol, if_false, List.cons_append, List.nil_append, scanChars, hc.1, hc.2]

theorem scanChars_flatMap (s : List Char) (rest : List Char) :
    ∀ fuel, s.length < fuel →
      scanChars fuel (s.flatMap escapeChar ++ quote :: rest) = some (s, rest) := by
  induction s with
  | nil =>
    intro fuel hfuel
    obtain ⟨fuel, rfl⟩ : ∃ n, fuel = n + 1 := ⟨fuel - 1, by omega⟩
    simp only [List.flatMap_nil, List.nil_append, scanChars, if_true]
  | cons c s ih =>
    intro fuel hfuel
    obtain ⟨fuel, rfl⟩ : ∃ n, fuel = n + 1 := ⟨fuel - 1, by omega⟩
    have hs : s.length < fuel := by
      rw [List.length_cons] at hfuel
      omega
    rw [List.flatMap_cons, List.append_assoc, scanChars_escapeChar, ih fuel hs]
    rfl

theorem escapeChar_length_pos (c : Char) : 1 ≤ (escapeChar c).length := by
  unfold escapeChar
  split
  · exact Nat.le_add_left 1 1
  · split_ifs
    · exact Nat.le_add_left 1 5
    · exact Nat.le_refl 1

theorem length_le_flatMap_escapeChar (s : List Char) :
    s.length ≤ (s.flatMap escapeChar).length := by
  induction s with
  | nil => exact Nat.le_refl 0
  | cons c s ih =>
    have hc := escapeChar_length_pos c
    rw [List.flatMap_cons, List.length_append, List.length_cons]
    omega

theorem scanString_stringText (s : String) (rest : List Char) :
    scanString (s.toList.flatMap escapeChar ++ quote :: rest) = some (s, rest) := by
  have hfuel : s.toList.length <
      (s.toList.flatMap escapeChar ++ quote :: rest).length + 1 := by
    have hlength := length_le_flatMap_escapeChar s.toList
    rw [List.length_append]
    omega
  unfold scanString
  rw [scanChars_flatMap s.toList rest _ hfuel, Option.map_some, String.ofList_toList]

/-! ### Numbers -/

/-- What may follow a number: nothing that could be one more character of it. -/
def NumberEnds (rest : List Char) : Prop :=
  ∀ c ∈ rest.head?, c.isDigit = false ∧ c ≠ '.' ∧ c ≠ 'e' ∧ c ≠ 'E'

theorem scanDigits_append {ds rest : List Char} (hds : ∀ d ∈ ds, d.isDigit = true)
    (hrest : ∀ c ∈ rest.head?, c.isDigit = false) : scanDigits (ds ++ rest) = (ds, rest) := by
  have hstop : rest.takeWhile Char.isDigit = [] ∧ rest.dropWhile Char.isDigit = rest := by
    cases rest with
    | nil => exact ⟨rfl, rfl⟩
    | cons c rest =>
      have hc := hrest c rfl
      refine ⟨?_, ?_⟩
      · rw [List.takeWhile_cons, hc]
        rfl
      · rw [List.dropWhile_cons, hc]
        rfl
  unfold scanDigits
  rw [List.takeWhile_append_of_pos hds, List.dropWhile_append_of_pos hds, hstop.1, hstop.2,
    List.append_nil]

theorem isDigit_ne {d : Char} (hd : d.isDigit = true) :
    d ≠ '-' ∧ d ≠ '+' ∧ d ≠ '.' ∧ d ≠ 'e' ∧ d ≠ 'E' := by
  refine ⟨?_, ?_, ?_, ?_, ?_⟩ <;>
  · intro he
    subst he
    revert hd
    decide

theorem scanSign_append {sign rest : List Char} (hsign : sign = [] ∨ sign = ['-'])
    (hrest : ∀ c ∈ rest.head?, c ≠ '-') : scanSign (sign ++ rest) = (sign, rest) := by
  obtain rfl | rfl := hsign
  · rw [List.nil_append]
    cases rest with
    | nil => rfl
    | cons c rest =>
      have hc := hrest c rfl
      unfold scanSign
      split
      · rename_i heq
        injection heq with he
        exact absurd he hc
      · rfl
  · rfl

theorem scanMark_append {mark rest : List Char} (hmark : mark = [] ∨ mark = ['+'] ∨ mark = ['-'])
    (hrest : ∀ c ∈ rest.head?, c ≠ '+' ∧ c ≠ '-') : scanMark (mark ++ rest) = (mark, rest) := by
  obtain rfl | rfl | rfl := hmark
  · rw [List.nil_append]
    cases rest with
    | nil => rfl
    | cons c rest =>
      have hc := hrest c rfl
      unfold scanMark
      split
      · rename_i heq
        injection heq with he
        exact absurd he hc.1
      · rename_i heq
        injection heq with he
        exact absurd he hc.2
      · rfl
  · rfl
  · rfl

theorem scanWhole_append {parts : NumberParts} (hparts : parts.WellFormed) {rest : List Char}
    (hrest : ∀ c ∈ rest.head?, c.isDigit = false) :
    scanWhole (parts.whole ++ rest) = some (parts.whole, rest) := by
  obtain hzero | ⟨c, ds, hcons, hc, hdigits⟩ := hparts.whole
  · rw [hzero]
    rfl
  · have hscan := scanDigits_append hdigits hrest
    have hdigit : c.isDigit = true := hdigits c (by rw [hcons]; exact List.mem_cons_self)
    rw [hcons, List.cons_append] at hscan ⊢
    rw [scanWhole, if_neg hc, if_pos hdigit, hscan]

theorem scanFraction_append {parts : NumberParts} (hparts : parts.WellFormed) {rest : List Char}
    (hrest : ∀ c ∈ rest.head?, c.isDigit = false ∧ c ≠ '.') :
    scanFraction (parts.fraction ++ rest) = (parts.fraction, rest) := by
  obtain hnil | ⟨ds, hcons, hds, hdigits⟩ := hparts.fraction
  · rw [hnil, List.nil_append]
    cases rest with
    | nil => rfl
    | cons c rest =>
      have hc := (hrest c rfl).2
      unfold scanFraction
      split
      · rename_i heq
        injection heq with he
        exact absurd he hc
      · rfl
  · have hscan := scanDigits_append hdigits fun c hc => (hrest c hc).1
    rw [hcons, List.cons_append]
    simp only [scanFraction, hscan, hds, if_false]

theorem scanExponent_append {parts : NumberParts} (hparts : parts.WellFormed) {rest : List Char}
    (hrest : NumberEnds rest) :
    scanExponent (parts.exponent ++ rest) = (parts.exponent, rest) := by
  obtain hnil | ⟨letter, mark, ds, hcons, hletter, hmark, hds, hdigits⟩ := hparts.exponent
  · rw [hnil, List.nil_append]
    cases rest with
    | nil => rfl
    | cons c rest =>
      obtain ⟨-, -, he, hE⟩ := hrest c rfl
      rw [scanExponent, if_neg]
      intro h
      exact h.1.elim he hE
  · -- The mark ends where the first digit stands.
    have hhead : ∀ c ∈ (ds ++ rest).head?, c ≠ '+' ∧ c ≠ '-' := by
      intro c hc
      cases ds with
      | nil => exact absurd rfl hds
      | cons d ds =>
        rw [List.cons_append, List.head?_cons, Option.mem_some_iff] at hc
        subst hc
        have hd := isDigit_ne (hdigits d List.mem_cons_self)
        exact ⟨hd.2.1, hd.1⟩
    have hscanMark := scanMark_append hmark hhead
    have hscan := scanDigits_append hdigits fun c hc => (hrest c hc).1
    rw [hcons, List.cons_append, List.append_assoc, scanExponent, hscanMark, hscan,
      if_pos ⟨hletter, hds⟩]

theorem NumberParts.WellFormed.whole_head {parts : NumberParts} (h : parts.WellFormed) :
    ∃ c ds, parts.whole = c :: ds ∧ c.isDigit = true := by
  obtain hzero | ⟨c, ds, hcons, -, hdigits⟩ := h.whole
  · exact ⟨'0', [], hzero, rfl⟩
  · exact ⟨c, ds, hcons, hdigits c (by rw [hcons]; exact List.mem_cons_self)⟩

/-- The head of an optional part followed by more. -/
theorem head_append_cases {part rest : List Char} {P : Char → Prop}
    (hpart : ∀ c ∈ part.head?, P c) (hrest : ∀ c ∈ rest.head?, P c) :
    ∀ c ∈ (part ++ rest).head?, P c := by
  cases part with
  | nil => exact hrest
  | cons d part => exact hpart

theorem NumberParts.WellFormed.fraction_head {parts : NumberParts} (h : parts.WellFormed) :
    ∀ c ∈ parts.fraction.head?, c = '.' := by
  intro c hc
  obtain hnil | ⟨ds, hcons, -⟩ := h.fraction
  · rw [hnil] at hc
    cases hc
  · rw [hcons, List.head?_cons, Option.mem_some_iff] at hc
    exact hc.symm

theorem NumberParts.WellFormed.exponent_head {parts : NumberParts} (h : parts.WellFormed) :
    ∀ c ∈ parts.exponent.head?, c = 'e' ∨ c = 'E' := by
  intro c hc
  obtain hnil | ⟨letter, mark, ds, hcons, hletter, -⟩ := h.exponent
  · rw [hnil] at hc
    cases hc
  · rw [hcons, List.head?_cons, Option.mem_some_iff] at hc
    subst hc
    exact hletter

theorem scanNumber_append {parts : NumberParts} (hparts : parts.WellFormed) {rest : List Char}
    (hrest : NumberEnds rest) : scanNumber (parts.text ++ rest) = some (parts, rest) := by
  -- What follows each part: the head of the next part that is not empty.
  have hexponent : ∀ c ∈ (parts.exponent ++ rest).head?, c.isDigit = false ∧ c ≠ '.' := by
    apply head_append_cases
    · intro c hc
      obtain rfl | rfl := hparts.exponent_head c hc <;> decide
    · intro c hc
      exact ⟨(hrest c hc).1, (hrest c hc).2.1⟩
  have hfraction : ∀ c ∈ (parts.fraction ++ (parts.exponent ++ rest)).head?,
      c.isDigit = false := by
    apply head_append_cases
    · intro c hc
      rw [hparts.fraction_head c hc]
      decide
    · intro c hc
      exact (hexponent c hc).1
  have hwhole : ∀ c ∈ (parts.whole ++ (parts.fraction ++ (parts.exponent ++ rest))).head?,
      c ≠ '-' := by
    obtain ⟨d, ds, hcons, hd⟩ := hparts.whole_head
    intro c hc
    rw [hcons, List.cons_append, List.head?_cons, Option.mem_some_iff] at hc
    subst hc
    exact (isDigit_ne hd).1
  have hsign := scanSign_append hparts.sign hwhole
  have htext : parts.text ++ rest =
      parts.sign ++ (parts.whole ++ (parts.fraction ++ (parts.exponent ++ rest))) := by
    simp only [NumberParts.text, List.append_assoc]
  unfold scanNumber
  rw [htext, hsign]
  simp only [scanWhole_append hparts hfraction, scanFraction_append hparts hexponent,
    scanExponent_append hparts hrest]

/-- The digits of a number start with zero only when the number is zero. -/
theorem toDigits_whole (n : ℕ) : Nat.toDigits 10 n = ['0'] ∨
    ∃ c ds, Nat.toDigits 10 n = c :: ds ∧ c ≠ '0' ∧
      ∀ d ∈ Nat.toDigits 10 n, d.isDigit = true := by
  have hdigits : ∀ d ∈ Nat.toDigits 10 n, d.isDigit = true :=
    fun d hd => Nat.isDigit_of_mem_toDigits (by omega) (by omega) hd
  -- The induction is on the number, which loses its last digit.
  have hhead : n = 0 ∨ ∃ c ds, Nat.toDigits 10 n = c :: ds ∧ c ≠ '0' := by
    induction n using Nat.strongRecOn with
    | ind n ih =>
      by_cases hsmall : n < 10
      · by_cases hzero : n = 0
        · exact Or.inl hzero
        · refine Or.inr ⟨n.digitChar, [], Nat.toDigits_of_lt_base hsmall, ?_⟩
          have hall : ∀ m < 10, m ≠ 0 → Nat.digitChar m ≠ '0' := by decide
          exact hall n hsmall hzero
      · have hrest := ih (n/10) (by omega)
          (fun d hd => Nat.isDigit_of_mem_toDigits (by omega) (by omega) hd)
        obtain hzero | ⟨c, ds, hcons, hc⟩ := hrest
        · omega
        · refine Or.inr ⟨c, ds ++ [(n%10).digitChar], ?_, hc⟩
          rw [Nat.toDigits_of_base_le (by omega) (by omega), hcons]
          rfl
  obtain hzero | ⟨c, ds, hcons, hc⟩ := hhead
  · rw [hzero]
    exact Or.inl (Nat.toDigits_zero 10)
  · exact Or.inr ⟨c, ds, hcons, hc, hdigits⟩

/-- The parts of an integer's text. -/
def intParts (n : ℤ) : NumberParts where
  sign := if n < 0 then ['-'] else []
  whole := Nat.toDigits 10 n.natAbs
  fraction := []
  exponent := []

theorem intParts_text (n : ℤ) : (intParts n).text = intText n := by
  unfold intParts NumberParts.text intText
  split_ifs with h
  · simp only [List.append_nil, List.cons_append, List.nil_append]
  · simp only [List.append_nil, List.nil_append]

theorem intParts_wellFormed (n : ℤ) : (intParts n).WellFormed where
  sign := by
    unfold intParts
    split_ifs
    · exact Or.inr rfl
    · exact Or.inl rfl
  whole := toDigits_whole n.natAbs
  fraction := Or.inl rfl
  exponent := Or.inl rfl

section
variable {φ : Type} [PyFloat φ]

theorem intParts_value (n : ℤ) : (intParts n).value = some (PyValue.int n : JsonData φ) := by
  have hmagnitude : Nat.ofDigitChars 10 (intParts n).whole 0 = n.natAbs :=
    Nat.ofDigitChars_ten_toDigits
  have hempty : (intParts n).fraction = [] ∧ (intParts n).exponent = [] := ⟨rfl, rfl⟩
  have hvalue : (if (intParts n).sign = [] then (n.natAbs : ℤ) else -(n.natAbs : ℤ)) = n := by
    by_cases h : n < 0
    · have hsign : (intParts n).sign = ['-'] := if_pos h
      rw [hsign, if_neg (List.cons_ne_nil _ _)]
      omega
    · have hsign : (intParts n).sign = [] := if_neg h
      rw [hsign, if_pos rfl]
      omega
  unfold NumberParts.value
  rw [if_pos hempty]
  simp only [hmagnitude, hvalue]

theorem scanPlain_int (n : ℤ) {rest : List Char} (hrest : NumberEnds rest) :
    scanPlain (intText n ++ rest) = some ((.int n : JsonData φ), rest) := by
  unfold scanPlain
  rw [← intParts_text, scanNumber_append (intParts_wellFormed n) hrest]
  simp only [intParts_value, Option.map_some]

/-- No word starts as a number does. -/
theorem scanNumber_word {word : List Char × Option (JsonData φ)} (hword : word ∈ plainWords)
    (rest : List Char) : scanNumber (word.1 ++ rest) = none := by
  simp only [plainWords, constantWords, List.map_cons, List.map_nil, List.mem_cons,
    List.not_mem_nil, or_false] at hword
  obtain rfl | rfl | rfl | rfl | rfl | rfl := hword <;> rfl

/-- No word is the beginning of another one. -/
theorem find_word {word : List Char × Option (JsonData φ)} (hword : word ∈ plainWords)
    (rest : List Char) :
    plainWords.find? (fun other : List Char × Option (JsonData φ) =>
      other.1.isPrefixOf (word.1 ++ rest)) = some word := by
  simp only [plainWords, constantWords, List.map_cons, List.map_nil, List.mem_cons,
    List.not_mem_nil, or_false] at hword
  obtain rfl | rfl | rfl | rfl | rfl | rfl := hword <;> rfl

theorem scanPlain_word {word : List Char × Option (JsonData φ)} (hword : word ∈ plainWords)
    (rest : List Char) :
    scanPlain (word.1 ++ rest) = word.2.map fun value => (value, rest) := by
  unfold scanPlain
  rw [scanNumber_word hword, find_word hword]
  simp only [List.drop_left]

theorem FloatLiteral.word_or_number {text : List Char} (h : FloatLiteral text) :
    text ∈ constantWords ∨ ∃ parts : NumberParts, parts.WellFormed ∧
      (parts.fraction ≠ [] ∨ parts.exponent ≠ []) ∧ text = parts.text := by
  cases h with
  | constant word hword => exact Or.inl hword
  | number parts hparts hfloat => exact Or.inr ⟨parts, hparts, hfloat, rfl⟩

theorem scanPlain_float (x : φ) {rest : List Char} (hrest : NumberEnds rest) :
    scanPlain (PyFloat.text x ++ rest) = some ((.float x : JsonData φ), rest) := by
  have hparse := PyFloat.parse_text x
  obtain hword | ⟨parts, hparts, hfloat, htext⟩ := (PyFloat.text_literal x).word_or_number
  · have hmem : (PyFloat.text x, (PyFloat.parse (PyFloat.text x)).map .float) ∈
        (plainWords : List (List Char × Option (JsonData φ))) := by
      unfold plainWords
      refine List.mem_cons_of_mem _ (List.mem_cons_of_mem _ (List.mem_cons_of_mem _ ?_))
      exact List.mem_map_of_mem hword
    rw [scanPlain_word hmem rest, hparse]
    rfl
  · have hvalue : parts.value = some (.float x : JsonData φ) := by
      have hnot : ¬ (parts.fraction = [] ∧ parts.exponent = []) :=
        fun h => hfloat.elim (fun hf => hf h.1) (fun he => he h.2)
      unfold NumberParts.value
      rw [if_neg hnot, ← htext, hparse]
      rfl
    unfold scanPlain
    rw [htext, scanNumber_append hparts hrest]
    simp only [hvalue, Option.map_some]

/-! ### Values -/

/-- What follows a value inside a text: the end, whitespace, or the delimiter after it. -/
def Delimited (rest : List Char) : Prop :=
  ∀ c ∈ rest.head?, c = ',' ∨ c = ']' ∨ c = '}' ∨ isJsonSpace c = true

theorem Delimited.numberEnds {rest : List Char} (h : Delimited rest) : NumberEnds rest := by
  intro c hc
  obtain rfl | rfl | rfl | hspace := h c hc
  · decide
  · decide
  · decide
  · have hcode : c.toNat = 32 ∨ c.toNat = 9 ∨ c.toNat = 10 ∨ c.toNat = 13 := by
      simpa only [isJsonSpace, Bool.or_eq_true, beq_iff_eq, or_assoc] using hspace
    have hall : ∀ n ∈ [32, 9, 10, 13], (Char.ofNat n).isDigit = false ∧ Char.ofNat n ≠ '.' ∧
        Char.ofNat n ≠ 'e' ∧ Char.ofNat n ≠ 'E' := by decide
    have hmem : c.toNat ∈ [32, 9, 10, 13] := by
      simpa only [List.mem_cons, List.not_mem_nil, or_false] using hcode
    have hc := hall c.toNat hmem
    rwa [Char.ofNat_toNat] at hc

theorem delimited_renderItems (vs : List (JsonData φ)) (rest : List Char) :
    Delimited (renderItems vs ++ rest) := by
  intro c hc
  cases vs with
  | nil =>
    rw [renderItems, List.cons_append, List.head?_cons, Option.mem_some_iff] at hc
    exact Or.inr (Or.inl hc.symm)
  | cons v vs =>
    rw [renderItems, List.cons_append, List.head?_cons, Option.mem_some_iff] at hc
    exact Or.inl hc.symm

theorem delimited_renderEntries (es : List (String × JsonData φ)) (rest : List Char) :
    Delimited (renderEntries es ++ rest) := by
  intro c hc
  cases es with
  | nil =>
    rw [renderEntries, List.cons_append, List.head?_cons, Option.mem_some_iff] at hc
    exact Or.inr (Or.inr (Or.inl hc.symm))
  | cons e es =>
    rw [renderEntries, List.cons_append, List.head?_cons, Option.mem_some_iff] at hc
    exact Or.inl hc.symm

/-- The text starts as a value does. -/
def StartsValue (text : List Char) : Prop :=
  ∃ c rest, text = c :: rest ∧ isJsonSpace c = false ∧ c ≠ ']' ∧ c ≠ '}'

/-- The text starts as a number or a word does. -/
def StartsPlain (text : List Char) : Prop :=
  ∃ c rest, text = c :: rest ∧ c ≠ quote ∧ c ≠ '{' ∧ c ≠ '[' ∧
    isJsonSpace c = false ∧ c ≠ ']' ∧ c ≠ '}'

theorem StartsPlain.value {text : List Char} (h : StartsPlain text) : StartsValue text := by
  obtain ⟨c, rest, htext, -, -, -, hspace⟩ := h
  exact ⟨c, rest, htext, hspace⟩

theorem StartsPlain.append {text : List Char} (h : StartsPlain text) (rest : List Char) :
    StartsPlain (text ++ rest) := by
  obtain ⟨c, more, rfl, hc⟩ := h
  exact ⟨c, more ++ rest, rfl, hc⟩

theorem StartsValue.append {text : List Char} (h : StartsValue text) (rest : List Char) :
    StartsValue (text ++ rest) := by
  obtain ⟨c, more, rfl, hc⟩ := h
  exact ⟨c, more ++ rest, rfl, hc⟩

theorem skipSpace_of_starts {text : List Char} (h : StartsValue text) :
    skipSpace text = text := by
  obtain ⟨c, rest, rfl, hspace, -⟩ := h
  unfold skipSpace
  rw [List.dropWhile_cons, hspace]
  rfl

theorem isDigit_code (c : Char) : c.isDigit = true ↔ 48 ≤ c.toNat ∧ c.toNat ≤ 57 := by
  simp only [Char.isDigit, Bool.and_eq_true, decide_eq_true_eq, UInt32.le_iff_toNat_le]
  exact Iff.rfl

theorem isDigit_plain {c : Char} (hc : c.isDigit = true) : c ≠ quote ∧ c ≠ '{' ∧ c ≠ '[' ∧
    isJsonSpace c = false ∧ c ≠ ']' ∧ c ≠ '}' := by
  have hrange := (isDigit_code c).mp hc
  have hspace : isJsonSpace c = false := by
    simp only [isJsonSpace, Bool.or_eq_false_iff, beq_eq_false_iff_ne]
    omega
  refine ⟨?_, ?_, ?_, hspace, ?_, ?_⟩ <;>
  · intro he
    subst he
    revert hc
    decide

theorem NumberParts.WellFormed.startsPlain {parts : NumberParts} (h : parts.WellFormed) :
    StartsPlain parts.text := by
  obtain ⟨c, ds, hcons, hdigit⟩ := h.whole_head
  unfold NumberParts.text
  obtain hsign | hsign := h.sign
  · rw [hsign, hcons]
    exact ⟨c, ds ++ parts.fraction ++ parts.exponent, rfl, isDigit_plain hdigit⟩
  · rw [hsign]
    refine ⟨'-', parts.whole ++ parts.fraction ++ parts.exponent, ?_, by decide⟩
    simp only [List.cons_append, List.nil_append]

theorem startsPlain_int (n : ℤ) : StartsPlain (intText n) := by
  rw [← intParts_text]
  exact (intParts_wellFormed n).startsPlain

theorem startsPlain_float (x : φ) : StartsPlain (PyFloat.text x) := by
  obtain hword | ⟨parts, hparts, -, htext⟩ := (PyFloat.text_literal x).word_or_number
  · simp only [constantWords, List.mem_cons, List.not_mem_nil, or_false] at hword
    obtain h | h | h := hword <;>
    · rw [h]
      exact ⟨_, _, rfl, by decide⟩
  · rw [htext]
    exact hparts.startsPlain

theorem startsValue_render (v : JsonData φ) : StartsValue (render v) := by
  cases v with
  | none => exact ⟨'n', _, render.eq_1, by decide⟩
  | bool b =>
    cases b with
    | true => exact ⟨'t', _, render.eq_2, by decide⟩
    | false => exact ⟨'f', _, render.eq_3, by decide⟩
  | int n =>
    rw [render]
    exact (startsPlain_int n).value
  | float x =>
    rw [render]
    exact (startsPlain_float x).value
  | str s =>
    rw [render]
    exact ⟨quote, _, rfl, by decide⟩
  | list vs =>
    cases vs with
    | nil =>
      rw [render]
      exact ⟨'[', _, rfl, by decide⟩
    | cons v vs =>
      rw [render]
      exact ⟨'[', _, rfl, by decide⟩
  | dict es =>
    cases es with
    | nil =>
      rw [render]
      exact ⟨'{', _, rfl, by decide⟩
    | cons e es =>
      rw [render]
      exact ⟨'{', _, rfl, by decide⟩

theorem scanOnce_plain {text : List Char} (h : StartsPlain text) (fuel : ℕ) :
    scanOnce (fuel + 1) text = (scanPlain text : Option (JsonData φ × List Char)) := by
  obtain ⟨c, rest, rfl, hquote, hbrace, hbracket, -⟩ := h
  simp only [scanOnce, hquote, hbrace, hbracket, if_false]

theorem scanKey_render (key : String) {text : List Char} (h : StartsValue text) :
    scanKey (stringText key ++ ':' :: text) = some (key, text) := by
  have hcolon : skipSpace (':' :: text) = ':' :: text := rfl
  have hscan := scanString_stringText key (':' :: text)
  simp only [stringText, List.cons_append, List.append_assoc, List.nil_append, scanKey, if_true,
    hscan, hcolon, skipSpace_of_starts h]

section
variable {fuel : ℕ} {text more rest : List Char} {v : JsonData φ} {vs : List (JsonData φ)}
  {es : List (String × JsonData φ)}

theorem scanOnce_list (h : StartsValue text) (hv : scanOnce fuel text = some (v, more))
    (hvs : scanItems fuel more = some (vs, rest)) :
    scanOnce (fuel + 1) ('[' :: text) = some (.list (v :: vs), rest) := by
  have hskip := skipSpace_of_starts h
  obtain ⟨c, tail, rfl, -, hclose, -⟩ := h
  have hquote : '[' ≠ quote := by decide
  have hbrace : '[' ≠ '{' := by decide
  rw [scanOnce, if_neg hquote, if_neg hbrace, if_pos rfl, hskip]
  split
  · rename_i heq
    injection heq with he
    exact absurd he hclose
  · simp only [hv, hvs, Option.map_some]

theorem scanOnce_dict (key : String) (h : StartsValue text)
    (hv : scanOnce fuel text = some (v, more)) (hes : scanEntries fuel more = some (es, rest)) :
    scanOnce (fuel + 1) ('{' :: (stringText key ++ ':' :: text)) =
      some (.dict ((key, v) :: es), rest) := by
  have hquote : '{' ≠ quote := by decide
  have hstart : StartsValue (stringText key ++ ':' :: text) := ⟨quote, _, rfl, by decide⟩
  have hkey := scanKey_render key h
  rw [scanOnce, if_neg hquote, if_pos rfl, skipSpace_of_starts hstart]
  split
  · rename_i heq
    unfold stringText at heq
    injection heq with he
    exact absurd he (by decide)
  · simp only [hkey, hv, hes, Option.map_some]

theorem scanItems_cons (h : StartsValue text) (hv : scanOnce fuel text = some (v, more))
    (hvs : scanItems fuel more = some (vs, rest)) :
    scanItems (fuel + 1) (',' :: text) = some (v :: vs, rest) := by
  have hcomma : skipSpace (',' :: text) = ',' :: text := rfl
  simp only [scanItems, hcomma, skipSpace_of_starts h, hv, hvs, Option.map_some]

theorem scanEntries_cons (key : String) (h : StartsValue text)
    (hv : scanOnce fuel text = some (v, more)) (hes : scanEntries fuel more = some (es, rest)) :
    scanEntries (fuel + 1) (',' :: (stringText key ++ ':' :: text)) =
      some ((key, v) :: es, rest) := by
  have hcomma : skipSpace (',' :: (stringText key ++ ':' :: text)) =
      ',' :: (stringText key ++ ':' :: text) := rfl
  have hstart : StartsValue (stringText key ++ ':' :: text) := ⟨quote, _, rfl, by decide⟩
  simp only [scanEntries, hcomma, skipSpace_of_starts hstart, scanKey_render key h, hv, hes,
    Option.map_some]

end

theorem scanOnce_word (word : List Char × Option (JsonData φ)) (hword : word ∈ plainWords)
    (hstart : StartsPlain word.1) (rest : List Char) (fuel : ℕ) :
    scanOnce (fuel + 1) (word.1 ++ rest) = word.2.map fun value => (value, rest) := by
  rw [scanOnce_plain (hstart.append rest), scanPlain_word hword]

mutual
/-- The scanner takes a written value off the front, whatever delimiter follows it. -/
theorem scanOnce_render : ∀ (v : JsonData φ) (fuel : ℕ) (rest : List Char),
    (render v).length < fuel → Delimited rest → scanOnce fuel (render v ++ rest) = some (v, rest)
  | _, 0, _, hfuel, _ => absurd hfuel (Nat.not_lt_zero _)
  | .none, fuel + 1, rest, _, _ => by
    have hword := scanOnce_word (φ := φ) (['n', 'u', 'l', 'l'], some .none)
      List.mem_cons_self ⟨'n', _, rfl, by decide⟩ rest fuel
    rw [render]
    exact hword
  | .bool true, fuel + 1, rest, _, _ => by
    have hword := scanOnce_word (φ := φ) (['t', 'r', 'u', 'e'], some (.bool true))
      (List.mem_cons_of_mem _ List.mem_cons_self) ⟨'t', _, rfl, by decide⟩ rest fuel
    rw [render]
    exact hword
  | .bool false, fuel + 1, rest, _, _ => by
    have hword := scanOnce_word (φ := φ) (['f', 'a', 'l', 's', 'e'], some (.bool false))
      (List.mem_cons_of_mem _ (List.mem_cons_of_mem _ List.mem_cons_self))
      ⟨'f', _, rfl, by decide⟩ rest fuel
    rw [render]
    exact hword
  | .int n, fuel + 1, rest, _, hrest => by
    rw [render, scanOnce_plain ((startsPlain_int n).append rest)]
    exact scanPlain_int n hrest.numberEnds
  | .float x, fuel + 1, rest, _, hrest => by
    rw [render, scanOnce_plain ((startsPlain_float x).append rest)]
    exact scanPlain_float x hrest.numberEnds
  | .str s, fuel + 1, rest, _, _ => by
    have hscan := scanString_stringText s rest
    simp only [render, stringText, List.cons_append, List.append_assoc, List.nil_append, scanOnce,
      if_true, hscan, Option.map_some]
  | .list [], fuel + 1, rest, _, _ => by
    rw [render]
    rfl
  | .list (v :: vs), fuel + 1, rest, hfuel, _ => by
    rw [render, List.length_cons, List.length_append] at hfuel
    have hv := scanOnce_render v fuel (renderItems vs ++ rest) (by omega)
      (delimited_renderItems vs rest)
    have hvs := scanItems_render vs fuel rest (by omega)
    have hstart := (startsValue_render v).append (renderItems vs ++ rest)
    rw [render, List.cons_append, List.append_assoc]
    exact scanOnce_list hstart hv hvs
  | .dict [], fuel + 1, rest, _, _ => by
    rw [render]
    rfl
  | .dict ((k, v) :: es), fuel + 1, rest, hfuel, _ => by
    rw [render, List.length_cons, List.length_append, List.length_cons,
      List.length_append] at hfuel
    have hv := scanOnce_render v fuel (renderEntries es ++ rest) (by omega)
      (delimited_renderEntries es rest)
    have hes := scanEntries_render es fuel rest (by omega)
    have hstart := (startsValue_render v).append (renderEntries es ++ rest)
    rw [render, List.cons_append, List.append_assoc, List.cons_append, List.append_assoc]
    exact scanOnce_dict k hstart hv hes

theorem scanItems_render : ∀ (vs : List (JsonData φ)) (fuel : ℕ) (rest : List Char),
    (renderItems vs).length < fuel → scanItems fuel (renderItems vs ++ rest) = some (vs, rest)
  | _, 0, _, hfuel => absurd hfuel (Nat.not_lt_zero _)
  | [], fuel + 1, rest, _ => by
    rw [renderItems]
    rfl
  | v :: vs, fuel + 1, rest, hfuel => by
    rw [renderItems, List.length_cons, List.length_append] at hfuel
    have hv := scanOnce_render v fuel (renderItems vs ++ rest) (by omega)
      (delimited_renderItems vs rest)
    have hvs := scanItems_render vs fuel rest (by omega)
    have hstart := (startsValue_render v).append (renderItems vs ++ rest)
    rw [renderItems, List.cons_append, List.append_assoc]
    exact scanItems_cons hstart hv hvs

theorem scanEntries_render : ∀ (es : List (String × JsonData φ)) (fuel : ℕ) (rest : List Char),
    (renderEntries es).length < fuel →
      scanEntries fuel (renderEntries es ++ rest) = some (es, rest)
  | _, 0, _, hfuel => absurd hfuel (Nat.not_lt_zero _)
  | [], fuel + 1, rest, _ => by
    rw [renderEntries]
    rfl
  | (k, v) :: es, fuel + 1, rest, hfuel => by
    rw [renderEntries, List.length_cons, List.length_append, List.length_cons,
      List.length_append] at hfuel
    have hv := scanOnce_render v fuel (renderEntries es ++ rest) (by omega)
      (delimited_renderEntries es rest)
    have hes := scanEntries_render es fuel rest (by omega)
    have hstart := (startsValue_render v).append (renderEntries es ++ rest)
    rw [renderEntries, List.cons_append, List.append_assoc, List.cons_append, List.append_assoc]
    exact scanEntries_cons k hstart hv hes
end

/-- A dict of distinct keys is the list of its pairs. -/
theorem foldl_setItem {α : Type} (es : List (String × α)) :
    ∀ {front : List (String × α)}, ((front ++ es).map Prod.fst).Nodup →
      es.foldl setItem front = front ++ es := by
  induction es with
  | nil =>
    intro front _
    exact (List.append_nil front).symm
  | cons entry es ih =>
    intro front hnodup
    have hnew : front.any (fun old => old.1 == entry.1) = false := by
      rw [List.any_eq_false]
      intro old hold heq
      rw [List.map_append, List.nodup_append] at hnodup
      exact hnodup.2.2 old.1 (List.mem_map_of_mem hold) entry.1
        (List.mem_map_of_mem List.mem_cons_self) (beq_iff_eq.mp heq)
    have hset : setItem front entry = front ++ [entry] := by
      unfold setItem
      rw [hnew]
      rfl
    rw [List.append_cons] at hnodup
    rw [List.foldl_cons, hset, ih hnodup, List.append_assoc]
    rfl

theorem ofPairsEntries_flat {φ : Type} {es : List (String × JsonData φ)}
    (h : ∀ entry ∈ es, ofPairs entry.2 = entry.2) : ofPairsEntries es = es := by
  induction es with
  | nil => rw [ofPairsEntries]
  | cons entry es ih =>
    rw [ofPairsEntries, h entry List.mem_cons_self,
      ih fun later hlater => h later (List.mem_cons_of_mem _ hlater)]

/-- A dict of distinct keys is read as it is, if its values are. -/
theorem ofPairs_flat {φ : Type} {es : List (String × JsonData φ)} (hkeys : (es.map Prod.fst).Nodup)
    (h : ∀ entry ∈ es, ofPairs entry.2 = entry.2) : ofPairs (.dict es) = .dict es := by
  have hfold : es.foldl setItem [] = [] ++ es := foldl_setItem es hkeys
  rw [ofPairs, ofPairsEntries_flat h, hfold, List.nil_append]

/-- A written value is the whole text of one value. -/
theorem loads_render (v : JsonData φ) : loads (render v) = some (ofPairs v) := by
  have hend : Delimited [] := fun c hc => by cases hc
  have hscan := scanOnce_render v ((render v).length + 1) [] (Nat.lt_succ_self _) hend
  rw [List.append_nil] at hscan
  unfold loads
  rw [skipSpace_of_starts (startsValue_render v), hscan]
  rfl

/-- No two values have one text. -/
theorem render_injective {v w : JsonData φ} (h : render v = render w) : v = w := by
  have hend : Delimited [] := fun c hc => by cases hc
  have hv := scanOnce_render v ((render v).length + 1) [] (Nat.lt_succ_self _) hend
  have hw := scanOnce_render w ((render w).length + 1) [] (Nat.lt_succ_self _) hend
  rw [h, hw, Option.some.injEq, Prod.mk.injEq] at hv
  exact hv.1.symm

end
end PythonJson
