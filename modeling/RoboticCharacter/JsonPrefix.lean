import Mathlib.Data.List.TakeWhile
import RoboticCharacter.JsonRoundTrip
import RoboticCharacter.PythonText

/-! What the scanner reads does not depend on what follows it, nor on fuel beyond the length of
the text. A text that starts with a complete value therefore holds nothing else. -/
namespace PythonJson

/-! ### Strings -/

theorem scanHex_append {text rest : List Char} {n : ℕ} (h : scanHex text = some (n, rest)) :
    rest.length < text.length ∧ ∀ u, scanHex (text ++ u) = some (n, rest ++ u) := by
  unfold scanHex at h
  split at h
  · rename_i a b c d tail
    split at h
    · rename_i x y z w hx hy hz hw
      cases h
      refine ⟨?_, ?_⟩
      · simp only [List.length_cons]
        omega
      · intro u
        simp only [List.cons_append, scanHex, hx, hy, hz, hw]
    · cases h
  · cases h

theorem scanUnicode_append {text rest : List Char} {c : Char}
    (h : scanUnicode text = some (c, rest)) :
    rest.length < text.length ∧ ∀ u, scanUnicode (text ++ u) = some (c, rest ++ u) := by
  unfold scanUnicode at h
  split at h
  · cases h
  · rename_i n after hhex
    obtain ⟨hlength, happend⟩ := scanHex_append hhex
    split_ifs at h with hhigh hlow
    · split at h
      · rename_i slash low
        split_ifs at h with hslash
        split at h
        · cases h
        · rename_i m tail hhexLow
          obtain ⟨hlengthLow, happendLow⟩ := scanHex_append hhexLow
          split_ifs at h with hm
          obtain ⟨rfl, rfl⟩ := Prod.mk.inj (Option.some.inj h)
          refine ⟨?_, ?_⟩
          · simp only [List.length_cons] at hlength
            omega
          · intro u
            simp only [scanUnicode, happend u, hhigh, if_true, List.cons_append, hslash,
              happendLow u, hm]
      · cases h
    · cases h
      refine ⟨hlength, ?_⟩
      intro u
      simp only [scanUnicode, happend u, hhigh, hlow, Bool.false_eq_true, if_false]

/-- A scanned string ends at its own quote. -/
theorem scanChars_append : ∀ (fuel : ℕ) {text s rest : List Char},
    scanChars fuel text = some (s, rest) → rest.length < text.length ∧
      ∀ n u, text.length < n → scanChars n (text ++ u) = some (s, rest ++ u)
  | 0, _, _, _, h => by cases h
  | _ + 1, [], _, _, h => by cases h
  | fuel + 1, c :: tail, s, rest, h => by
    -- Whatever the step reads, the rest of the string is shorter and needs less fuel.
    have hnext : ∀ {after s' : List Char} {d : Char}, after.length ≤ tail.length →
        (scanChars fuel after).map (fun scanned => (d :: scanned.1, scanned.2)) =
          some (s', rest) →
        rest.length < (c :: tail).length ∧ ∀ n u, tail.length < n →
          (scanChars n (after ++ u)).map (fun scanned => (d :: scanned.1, scanned.2)) =
            some (s', rest ++ u) := by
      intro after s' d hafter hmap
      obtain ⟨⟨t, r⟩, hscan, heq⟩ := Option.map_eq_some_iff.mp hmap
      obtain ⟨rfl, rfl⟩ := Prod.mk.inj heq
      obtain ⟨hlength, happend⟩ := scanChars_append fuel hscan
      refine ⟨?_, ?_⟩
      · rw [List.length_cons]
        exact Nat.lt_succ_of_lt (Nat.lt_of_lt_of_le hlength hafter)
      · intro n u hn
        rw [happend n u (by omega)]
        rfl
    rw [scanChars.eq_def] at h
    dsimp only at h
    split_ifs at h with hquote hcontrol hslash
    · cases h
      refine ⟨Nat.lt_succ_self _, ?_⟩
      intro n u hn
      cases n with
      | zero => exact absurd hn (Nat.not_lt_zero _)
      | succ n => simp only [List.cons_append, scanChars, hquote, if_true]
    · subst hslash
      split at h
      · cases h
      · rename_i letter after
        split_ifs at h with hletter
        · split at h
          · cases h
          · rename_i d more hunicode
            obtain ⟨hlength, happend⟩ := scanUnicode_append hunicode
            have hmore : more.length ≤ (letter :: after).length := by
              rw [List.length_cons]
              omega
            obtain ⟨hshort, hmap⟩ := hnext hmore h
            refine ⟨hshort, ?_⟩
            intro n u hn
            cases n with
            | zero => exact absurd hn (Nat.not_lt_zero _)
            | succ n =>
              have hscan := hmap n u (Nat.lt_of_succ_lt_succ hn)
              simp only [List.cons_append, scanChars, hquote, hcontrol, hletter, if_false,
                if_true, happend u, hscan]
        · split at h
          · cases h
          · rename_i d hback
            obtain ⟨hshort, hmap⟩ := hnext (Nat.le_succ _) h
            refine ⟨hshort, ?_⟩
            intro n u hn
            cases n with
            | zero => exact absurd hn (Nat.not_lt_zero _)
            | succ n =>
              have hscan := hmap n u (Nat.lt_of_succ_lt_succ hn)
              simp only [List.cons_append, scanChars, hquote, hcontrol, hletter, if_false,
                if_true, hback, hscan]
    · obtain ⟨hshort, hmap⟩ := hnext (Nat.le_refl _) h
      refine ⟨hshort, ?_⟩
      intro n u hn
      cases n with
      | zero => exact absurd hn (Nat.not_lt_zero _)
      | succ n =>
        have hscan := hmap n u (Nat.lt_of_succ_lt_succ hn)
        simp only [List.cons_append, scanChars, hquote, hcontrol, hslash, if_false, hscan]

theorem scanString_append {text rest : List Char} {s : String}
    (h : scanString text = some (s, rest)) :
    rest.length < text.length ∧ ∀ u, scanString (text ++ u) = some (s, rest ++ u) := by
  obtain ⟨⟨t, r⟩, hscan, heq⟩ := Option.map_eq_some_iff.mp h
  obtain ⟨rfl, rfl⟩ := Prod.mk.inj heq
  obtain ⟨hlength, happend⟩ := scanChars_append _ hscan
  refine ⟨hlength, ?_⟩
  intro u
  have hfuel : text.length < (text ++ u).length + 1 := by
    rw [List.length_append]
    omega
  unfold scanString
  rw [happend _ u hfuel]
  rfl

/-! ### Whitespace -/

theorem skipSpace_length (text : List Char) : (skipSpace text).length ≤ text.length :=
  (List.dropWhile_suffix isJsonSpace).length_le

theorem skipSpace_append {text rest : List Char} {c : Char} (h : skipSpace text = c :: rest)
    (u : List Char) : skipSpace (text ++ u) = c :: (rest ++ u) := by
  have hne : (List.dropWhile isJsonSpace text).isEmpty = false := by
    unfold skipSpace at h
    rw [h]
    rfl
  unfold skipSpace at h ⊢
  rw [List.dropWhile_append, hne, h]
  rfl

theorem skipSpace_append_of_nil {text : List Char} (h : skipSpace text = []) (u : List Char) :
    skipSpace (text ++ u) = skipSpace u := by
  unfold skipSpace at h ⊢
  rw [List.dropWhile_append, h]
  rfl

theorem skipSpace_append_of_ne {text : List Char} (h : skipSpace text ≠ []) (u : List Char) :
    skipSpace (text ++ u) = skipSpace text ++ u := by
  obtain ⟨c, rest, hcons⟩ := List.exists_cons_of_ne_nil h
  rw [skipSpace_append hcons u, hcons]
  rfl

/-! ### Numbers -/

theorem scanDigits_sound (text : List Char) :
    (scanDigits text).1 ++ (scanDigits text).2 = text ∧
      ∀ d ∈ (scanDigits text).1, d.isDigit = true :=
  ⟨List.takeWhile_append_dropWhile, fun _ hd => List.mem_takeWhile_imp hd⟩

theorem scanSign_sound (text : List Char) :
    (scanSign text).1 ++ (scanSign text).2 = text ∧
      ((scanSign text).1 = [] ∨ (scanSign text).1 = ['-']) := by
  unfold scanSign
  split
  · exact ⟨rfl, Or.inr rfl⟩
  · exact ⟨rfl, Or.inl rfl⟩

theorem scanMark_sound (text : List Char) :
    (scanMark text).1 ++ (scanMark text).2 = text ∧
      ((scanMark text).1 = [] ∨ (scanMark text).1 = ['+'] ∨ (scanMark text).1 = ['-']) := by
  unfold scanMark
  split
  · exact ⟨rfl, Or.inr (Or.inl rfl)⟩
  · exact ⟨rfl, Or.inr (Or.inr rfl)⟩
  · exact ⟨rfl, Or.inl rfl⟩

theorem scanWhole_sound {text whole rest : List Char} (h : scanWhole text = some (whole, rest)) :
    whole ++ rest = text ∧ (whole = ['0'] ∨
      ∃ c ds, whole = c :: ds ∧ c ≠ '0' ∧ ∀ d ∈ whole, d.isDigit = true) := by
  unfold scanWhole at h
  split at h
  · cases h
  · rename_i c tail
    split_ifs at h with hzero hdigit
    · cases h
      exact ⟨by rw [hzero]; rfl, Or.inl rfl⟩
    · obtain ⟨htext, hdigits⟩ := scanDigits_sound (c :: tail)
      injection h with h
      rw [h] at htext hdigits
      have hfirst : whole = c :: tail.takeWhile Char.isDigit := by
        have hone : (scanDigits (c :: tail)).1 = whole := congrArg Prod.fst h
        rw [← hone]
        unfold scanDigits
        rw [List.takeWhile_cons, hdigit]
        rfl
      exact ⟨htext, Or.inr ⟨c, _, hfirst, hzero, hdigits⟩⟩

theorem scanFraction_sound (text : List Char) :
    (scanFraction text).1 ++ (scanFraction text).2 = text ∧ ((scanFraction text).1 = [] ∨
      ∃ ds, (scanFraction text).1 = '.' :: ds ∧ ds ≠ [] ∧ ∀ d ∈ ds, d.isDigit = true) := by
  unfold scanFraction
  split
  · rename_i tail
    obtain ⟨htext, hdigits⟩ := scanDigits_sound tail
    split_ifs with hempty
    · exact ⟨rfl, Or.inl rfl⟩
    · exact ⟨congrArg (List.cons '.') htext, Or.inr ⟨_, rfl, hempty, hdigits⟩⟩
  · exact ⟨rfl, Or.inl rfl⟩

theorem scanExponent_sound (text : List Char) :
    (scanExponent text).1 ++ (scanExponent text).2 = text ∧ ((scanExponent text).1 = [] ∨
      ∃ letter mark ds, (scanExponent text).1 = letter :: (mark ++ ds) ∧
        (letter = 'e' ∨ letter = 'E') ∧ (mark = [] ∨ mark = ['+'] ∨ mark = ['-']) ∧
        ds ≠ [] ∧ ∀ d ∈ ds, d.isDigit = true) := by
  unfold scanExponent
  split
  · exact ⟨rfl, Or.inl rfl⟩
  · rename_i c tail
    obtain ⟨hmarkText, hmark⟩ := scanMark_sound tail
    obtain ⟨htext, hdigits⟩ := scanDigits_sound (scanMark tail).2
    split_ifs with hletter
    · refine ⟨?_, Or.inr ⟨c, _, _, rfl, hletter.1, hmark, hletter.2, hdigits⟩⟩
      rw [List.cons_append, List.append_assoc, htext, hmarkText]
    · exact ⟨rfl, Or.inl rfl⟩

/-- A scanned number is a number of the grammar, at the front of the text. -/
theorem scanNumber_sound {text rest : List Char} {parts : NumberParts}
    (h : scanNumber text = some (parts, rest)) :
    parts.WellFormed ∧ text = parts.text ++ rest := by
  unfold scanNumber at h
  split at h
  · cases h
  · rename_i whole after hwhole
    obtain ⟨hsignText, hsign⟩ := scanSign_sound text
    obtain ⟨hwholeText, hwholeForm⟩ := scanWhole_sound hwhole
    obtain ⟨hfractionText, hfraction⟩ := scanFraction_sound after
    obtain ⟨hexponentText, hexponent⟩ := scanExponent_sound (scanFraction after).2
    cases h
    refine ⟨⟨hsign, hwholeForm, hfraction, hexponent⟩, ?_⟩
    simp only [NumberParts.text, List.append_assoc, hexponentText, hfractionText, hwholeText,
      hsignText]

theorem NumberParts.WellFormed.text_length_pos {parts : NumberParts} (h : parts.WellFormed) :
    0 < parts.text.length := by
  obtain ⟨c, rest, htext, -⟩ := h.startsPlain
  rw [htext]
  exact Nat.succ_pos _

/-! ### Values -/

/-- The value cannot go on after the text that was read: it has a closing character of its own,
or what follows it is no part of a number. -/
def Settled {φ : Type} (v : JsonData φ) (rest : List Char) : Prop :=
  (∃ s, v = .str s) ∨ (∃ vs, v = .list vs) ∨ (∃ es, v = .dict es) ∨
    (rest ≠ [] ∧ NumberEnds rest)

theorem settled_of_delimited {φ : Type} {v : JsonData φ} {rest : List Char}
    (h : rest ≠ [] ∧ Delimited rest) : Settled v rest :=
  Or.inr (Or.inr (Or.inr ⟨h.1, h.2.numberEnds⟩))

/-- Only an object is read as a dict. -/
theorem ofPairs_dict {φ : Type} {v : JsonData φ} {es : List (String × JsonData φ)}
    (h : ofPairs v = .dict es) : ∃ pairs, v = .dict pairs := by
  cases v with
  | dict pairs => exact ⟨pairs, rfl⟩
  | list vs =>
    rw [ofPairs] at h
    cases h
  | none => cases h
  | bool b => cases h
  | int n => cases h
  | float x => cases h
  | str s => cases h

section
variable {φ : Type} [PyFloat φ]

theorem plainWords_length_pos {word : List Char × Option (JsonData φ)}
    (hword : word ∈ plainWords) : 0 < word.1.length := by
  simp only [plainWords, constantWords, List.map_cons, List.map_nil, List.mem_cons,
    List.not_mem_nil, or_false] at hword
  obtain rfl | rfl | rfl | rfl | rfl | rfl := hword <;> exact Nat.succ_pos _

theorem numberEnds_append {rest : List Char} (hne : rest ≠ []) (h : NumberEnds rest)
    (u : List Char) : NumberEnds (rest ++ u) := by
  cases rest with
  | nil => exact absurd rfl hne
  | cons c rest => exact h

theorem scanPlain_append {text rest : List Char} {v : JsonData φ}
    (h : scanPlain text = some (v, rest)) : rest.length < text.length ∧
      ∀ u, (u = [] ∨ (rest ≠ [] ∧ NumberEnds rest)) →
        scanPlain (text ++ u) = some (v, rest ++ u) := by
  have hwhole := h
  unfold scanPlain at h
  split at h
  · rename_i parts after hnumber
    obtain ⟨value, hvalue, heq⟩ := Option.map_eq_some_iff.mp h
    obtain ⟨rfl, rfl⟩ := Prod.mk.inj heq
    obtain ⟨hparts, htext⟩ := scanNumber_sound hnumber
    have hpos := hparts.text_length_pos
    refine ⟨?_, ?_⟩
    · rw [htext, List.length_append]
      omega
    · intro u hu
      obtain rfl | ⟨hne, hends⟩ := hu
      · rw [List.append_nil, List.append_nil]
        exact hwhole
      · unfold scanPlain
        rw [htext, List.append_assoc, scanNumber_append hparts (numberEnds_append hne hends u)]
        simp only [hvalue, Option.map_some]
  · split at h
    · rename_i word hfind
      obtain ⟨value, hvalue, heq⟩ := Option.map_eq_some_iff.mp h
      obtain ⟨rfl, rfl⟩ := Prod.mk.inj heq
      have hword := List.mem_of_find?_eq_some hfind
      have hfront := List.find?_some hfind
      have htext : text = word.1 ++ text.drop word.1.length :=
        (List.prefix_iff_eq_append.mp (List.isPrefixOf_iff_prefix.mp hfront)).symm
      have hpos := plainWords_length_pos hword
      have hle := congrArg List.length htext
      refine ⟨?_, ?_⟩
      · rw [List.length_append] at hle
        omega
      · intro u _
        have hscan := scanPlain_word hword (text.drop word.1.length ++ u)
        rw [← List.append_assoc, ← htext] at hscan
        rw [hscan, hvalue]
        rfl
    · cases h

theorem scanKey_append {text rest : List Char} {key : String}
    (h : scanKey text = some (key, rest)) :
    rest.length < text.length ∧
      ∀ u, rest ≠ [] → scanKey (text ++ u) = some (key, rest ++ u) := by
  unfold scanKey at h
  split at h
  · cases h
  · rename_i c tail
    split_ifs at h with hquote
    split at h
    · cases h
    · rename_i name after hstring
      obtain ⟨hlength, happend⟩ := scanString_append hstring
      split at h
      · rename_i more hcolon
        cases h
        have hmore := skipSpace_length more
        have hafter := skipSpace_length after
        rw [hcolon, List.length_cons] at hafter
        refine ⟨?_, ?_⟩
        · rw [List.length_cons]
          omega
        · intro u hne
          obtain ⟨d, ds, hd⟩ := List.exists_cons_of_ne_nil hne
          simp only [List.cons_append, scanKey, hquote, if_true, happend u,
            skipSpace_append hcolon u, skipSpace_append hd u, hd]
      · cases h

/-- A text whose whitespace ends at a delimiter. -/
theorem delimited_of_skipSpace {text rest : List Char} {c : Char}
    (h : skipSpace text = c :: rest) (hc : c = ',' ∨ c = ']' ∨ c = '}') :
    text ≠ [] ∧ Delimited text := by
  cases text with
  | nil => cases h
  | cons d text =>
    refine ⟨List.cons_ne_nil _ _, ?_⟩
    intro x hx
    rw [List.head?_cons, Option.mem_some_iff] at hx
    subst hx
    by_cases hspace : isJsonSpace d = true
    · exact Or.inr (Or.inr (Or.inr hspace))
    · unfold skipSpace at h
      rw [List.dropWhile_cons, if_neg hspace] at h
      injection h with hd
      rw [hd]
      obtain hc | hc | hc := hc
      · exact Or.inl hc
      · exact Or.inr (Or.inl hc)
      · exact Or.inr (Or.inr (Or.inl hc))

theorem scanItems_delimited {fuel : ℕ} {text rest : List Char} {vs : List (JsonData φ)}
    (h : scanItems fuel text = some (vs, rest)) : text ≠ [] ∧ Delimited text := by
  cases fuel with
  | zero => cases h
  | succ fuel =>
    rw [scanItems] at h
    split at h
    · rename_i heq
      exact delimited_of_skipSpace heq (Or.inr (Or.inl rfl))
    · rename_i heq
      exact delimited_of_skipSpace heq (Or.inl rfl)
    · cases h

theorem scanEntries_delimited {fuel : ℕ} {text rest : List Char}
    {es : List (String × JsonData φ)} (h : scanEntries fuel text = some (es, rest)) :
    text ≠ [] ∧ Delimited text := by
  cases fuel with
  | zero => cases h
  | succ fuel =>
    rw [scanEntries] at h
    split at h
    · rename_i heq
      exact delimited_of_skipSpace heq (Or.inr (Or.inr rfl))
    · rename_i heq
      exact delimited_of_skipSpace heq (Or.inl rfl)
    · cases h

/-- What a success of a scanner says: it left a shorter text, and any fuel above the length of
its text gives the same value, whatever comes after the text, if something may come. -/
def Reads {α : Type} (scan : ℕ → List Char → Option (α × List Char)) (text : List Char)
    (value : α) (rest : List Char) (continued : Prop) : Prop :=
  rest.length < text.length ∧ ∀ n u, text.length < n → (u = [] ∨ continued) →
    scan n (text ++ u) = some (value, rest ++ u)

theorem Reads.ne_nil {α : Type} {scan : ℕ → List Char → Option (α × List Char)}
    {text rest : List Char} {value : α} {continued : Prop}
    (h : Reads scan text value rest continued) : text ≠ [] := by
  intro hnil
  have hlength := h.1
  rw [hnil] at hlength
  exact absurd hlength (Nat.not_lt_zero _)

/-- A success is carried over for every fuel that is a successor, so for all that suffice. -/
theorem Reads.of_succ {α : Type} {scan : ℕ → List Char → Option (α × List Char)}
    {text rest : List Char} {value : α} {continued : Prop} (hshort : rest.length < text.length)
    (hscan : ∀ n u, text.length ≤ n → (u = [] ∨ continued) →
      scan (n + 1) (text ++ u) = some (value, rest ++ u)) :
    Reads scan text value rest continued := by
  refine ⟨hshort, ?_⟩
  intro n u hn hcontinued
  cases n with
  | zero => exact absurd hn (Nat.not_lt_zero _)
  | succ n => exact hscan n u (Nat.le_of_lt_succ hn) hcontinued

/-- The fuel suffices for every text the scanner reads with some fuel. -/
structure ReadsAll (fuel : ℕ) : Prop where
  value : ∀ {text rest : List Char} {v : JsonData φ}, scanOnce fuel text = some (v, rest) →
    Reads scanOnce text v rest (Settled v rest)
  items : ∀ {text rest : List Char} {vs : List (JsonData φ)},
    scanItems fuel text = some (vs, rest) → Reads scanItems text vs rest True
  entries : ∀ {text rest : List Char} {es : List (String × JsonData φ)},
    scanEntries fuel text = some (es, rest) → Reads scanEntries text es rest True

/-- A value of a list, and what follows it. -/
structure ReadsRest (start rest : List Char) (v : JsonData φ) (more : List Char)
    (vs : List (JsonData φ)) : Prop where
  shorter : rest.length < start.length
  ne_nil : start ≠ []
  value : ∀ n u, start.length < n → scanOnce n (start ++ u) = some (v, more ++ u)
  items : ∀ n u, start.length < n → scanItems n (more ++ u) = some (vs, rest ++ u)

theorem ReadsAll.readsRest {fuel : ℕ} (ih : ReadsAll (φ := φ) fuel)
    {start more rest : List Char} {v : JsonData φ} {vs : List (JsonData φ)}
    (hv : scanOnce fuel start = some (v, more)) (hvs : scanItems fuel more = some (vs, rest)) :
    ReadsRest start rest v more vs := by
  have hvalue := ih.value hv
  have hitems := ih.items hvs
  have hsettled := settled_of_delimited (v := v) (scanItems_delimited hvs)
  have hmore := hvalue.1
  have hrest := hitems.1
  refine ⟨by omega, hvalue.ne_nil, ?_, ?_⟩
  · exact fun n u hn => hvalue.2 n u hn (Or.inr hsettled)
  · exact fun n u hn => hitems.2 n u (by omega) (Or.inr trivial)

/-- A key of an object with its value, and what follows them. -/
structure ReadsEntry (start rest : List Char) (key : String) (after : List Char) (v : JsonData φ)
    (more : List Char) (es : List (String × JsonData φ)) : Prop where
  shorter : rest.length < start.length
  ne_nil : start ≠ []
  key : ∀ u, scanKey (start ++ u) = some (key, after ++ u)
  value : ∀ n u, start.length ≤ n → scanOnce n (after ++ u) = some (v, more ++ u)
  entries : ∀ n u, start.length ≤ n → scanEntries n (more ++ u) = some (es, rest ++ u)

theorem ReadsAll.readsEntry {fuel : ℕ} (ih : ReadsAll (φ := φ) fuel)
    {start after more rest : List Char} {key : String} {v : JsonData φ}
    {es : List (String × JsonData φ)} (hkey : scanKey start = some (key, after))
    (hv : scanOnce fuel after = some (v, more)) (hes : scanEntries fuel more = some (es, rest)) :
    ReadsEntry start rest key after v more es := by
  obtain ⟨hafter, happend⟩ := scanKey_append hkey
  have hvalue := ih.value hv
  have hentries := ih.entries hes
  have hsettled := settled_of_delimited (v := v) (scanEntries_delimited hes)
  have hmore := hvalue.1
  have hrest := hentries.1
  have hstart : start ≠ [] := by
    rintro rfl
    exact absurd hafter (Nat.not_lt_zero _)
  refine ⟨by omega, hstart, fun u => happend u hvalue.ne_nil, ?_, ?_⟩
  · exact fun n u hn => hvalue.2 n u (by omega) (Or.inr hsettled)
  · exact fun n u hn => hentries.2 n u (by omega) (Or.inr trivial)

theorem scanItems_reads {fuel : ℕ} (ih : ReadsAll (φ := φ) fuel) {text rest : List Char}
    {vs : List (JsonData φ)} (h : scanItems (fuel + 1) text = some (vs, rest)) :
    Reads scanItems text vs rest True := by
  have hskip := skipSpace_length text
  rw [scanItems] at h
  split at h
  · rename_i tail heq
    cases h
    rw [heq, List.length_cons] at hskip
    refine Reads.of_succ hskip ?_
    intro n u _ _
    simp only [scanItems, skipSpace_append heq u]
  · rename_i tail heq
    rw [heq, List.length_cons] at hskip
    have htail := skipSpace_length tail
    split at h
    · cases h
    · rename_i v more hv
      obtain ⟨⟨vs', rest'⟩, hvs, hpair⟩ := Option.map_eq_some_iff.mp h
      obtain ⟨rfl, rfl⟩ := Prod.mk.inj hpair
      have hreads := ih.readsRest hv hvs
      have hshorter : rest'.length < text.length := hreads.shorter.trans (by omega)
      refine Reads.of_succ hshorter ?_
      intro n u hn _
      simp only [scanItems, skipSpace_append heq u, skipSpace_append_of_ne hreads.ne_nil u,
        hreads.value n u (by omega), hreads.items n u (by omega), Option.map_some]
  · cases h

theorem scanEntries_reads {fuel : ℕ} (ih : ReadsAll (φ := φ) fuel) {text rest : List Char}
    {es : List (String × JsonData φ)} (h : scanEntries (fuel + 1) text = some (es, rest)) :
    Reads scanEntries text es rest True := by
  have hskip := skipSpace_length text
  rw [scanEntries] at h
  split at h
  · rename_i tail heq
    cases h
    rw [heq, List.length_cons] at hskip
    refine Reads.of_succ hskip ?_
    intro n u _ _
    simp only [scanEntries, skipSpace_append heq u]
  · rename_i tail heq
    rw [heq, List.length_cons] at hskip
    have htail := skipSpace_length tail
    split at h
    · cases h
    · rename_i key after hkey
      split at h
      · cases h
      · rename_i v more hv
        obtain ⟨⟨es', rest'⟩, hes, hpair⟩ := Option.map_eq_some_iff.mp h
        obtain ⟨rfl, rfl⟩ := Prod.mk.inj hpair
        have hreads := ih.readsEntry hkey hv hes
        have hshorter : rest'.length < text.length := hreads.shorter.trans (by omega)
        refine Reads.of_succ hshorter ?_
        intro n u hn _
        simp only [scanEntries, skipSpace_append heq u, skipSpace_append_of_ne hreads.ne_nil u,
          hreads.key u, hreads.value n u (by omega), hreads.entries n u (by omega),
          Option.map_some]
  · cases h

theorem scanOnce_string {fuel : ℕ} {tail rest : List Char} {v : JsonData φ}
    (h : scanOnce (fuel + 1) (quote :: tail) = some (v, rest)) :
    Reads scanOnce (quote :: tail) v rest (Settled v rest) := by
  rw [scanOnce, if_pos rfl] at h
  obtain ⟨⟨s, rest'⟩, hstring, hpair⟩ := Option.map_eq_some_iff.mp h
  obtain ⟨rfl, rfl⟩ := Prod.mk.inj hpair
  obtain ⟨hlength, happend⟩ := scanString_append hstring
  refine Reads.of_succ (Nat.lt_succ_of_lt hlength) ?_
  intro n u _ _
  simp only [List.cons_append, scanOnce, if_true, happend u, Option.map_some]

/-- What does not begin with a character does not with more text after it either. -/
theorem append_ne_cons {text : List Char} (hne : text ≠ []) {c : Char}
    (hnot : ∀ tail, text ≠ c :: tail) (u tail : List Char) : text ++ u ≠ c :: tail := by
  obtain ⟨first, more, rfl⟩ := List.exists_cons_of_ne_nil hne
  intro heq
  have hfirst : first = c := (List.cons.inj heq).1
  exact hnot more (hfirst ▸ rfl)

theorem scanOnce_object {fuel : ℕ} (ih : ReadsAll (φ := φ) fuel) {tail rest : List Char}
    {v : JsonData φ} (h : scanOnce (fuel + 1) ('{' :: tail) = some (v, rest)) :
    Reads scanOnce ('{' :: tail) v rest (Settled v rest) := by
  have hquote : '{' ≠ quote := by decide
  have hskip := skipSpace_length tail
  rw [scanOnce, if_neg hquote, if_pos rfl] at h
  split at h
  · rename_i after heq
    cases h
    rw [heq, List.length_cons] at hskip
    refine Reads.of_succ (Nat.lt_succ_of_lt hskip) ?_
    intro n u _ _
    simp only [List.cons_append, scanOnce, hquote, if_false, if_true, skipSpace_append heq u]
  · rename_i hnotClosed
    split at h
    · cases h
    · rename_i key after hkey
      split at h
      · cases h
      · rename_i w more hw
        obtain ⟨⟨es, rest'⟩, hes, hpair⟩ := Option.map_eq_some_iff.mp h
        obtain ⟨rfl, rfl⟩ := Prod.mk.inj hpair
        have hreads := ih.readsEntry hkey hw hes
        have hshorter : rest'.length < (('{' : Char) :: tail).length :=
          Nat.lt_succ_of_lt (hreads.shorter.trans_le hskip)
        refine Reads.of_succ hshorter ?_
        intro n u hn _
        rw [List.length_cons] at hn
        rw [List.cons_append, scanOnce, if_neg hquote, if_pos rfl,
          skipSpace_append_of_ne hreads.ne_nil u]
        split
        · rename_i tail' heq
          exact absurd heq (append_ne_cons hreads.ne_nil hnotClosed u tail')
        · simp only [hreads.key u, hreads.value n u (by omega), hreads.entries n u (by omega),
            Option.map_some]

theorem scanOnce_array {fuel : ℕ} (ih : ReadsAll (φ := φ) fuel) {tail rest : List Char}
    {v : JsonData φ} (h : scanOnce (fuel + 1) ('[' :: tail) = some (v, rest)) :
    Reads scanOnce ('[' :: tail) v rest (Settled v rest) := by
  have hquote : '[' ≠ quote := by decide
  have hbrace : '[' ≠ '{' := by decide
  have hskip := skipSpace_length tail
  rw [scanOnce, if_neg hquote, if_neg hbrace, if_pos rfl] at h
  split at h
  · rename_i after heq
    cases h
    rw [heq, List.length_cons] at hskip
    refine Reads.of_succ (Nat.lt_succ_of_lt hskip) ?_
    intro n u _ _
    simp only [List.cons_append, scanOnce, hquote, hbrace, if_false, if_true,
      skipSpace_append heq u]
  · rename_i hnotClosed
    split at h
    · cases h
    · rename_i w more hw
      obtain ⟨⟨vs, rest'⟩, hvs, hpair⟩ := Option.map_eq_some_iff.mp h
      obtain ⟨rfl, rfl⟩ := Prod.mk.inj hpair
      have hreads := ih.readsRest hw hvs
      have hshorter : rest'.length < (('[' : Char) :: tail).length :=
        Nat.lt_succ_of_lt (hreads.shorter.trans_le hskip)
      refine Reads.of_succ hshorter ?_
      intro n u hn _
      rw [List.length_cons] at hn
      rw [List.cons_append, scanOnce, if_neg hquote, if_neg hbrace, if_pos rfl,
        skipSpace_append_of_ne hreads.ne_nil u]
      split
      · rename_i tail' heq
        exact absurd heq (append_ne_cons hreads.ne_nil hnotClosed u tail')
      · simp only [hreads.value n u (by omega), hreads.items n u (by omega), Option.map_some]

theorem numberValue_plain {parts : NumberParts} {v : JsonData φ} (h : parts.value = some v) :
    (∃ n, v = .int n) ∨ ∃ x, v = .float x := by
  unfold NumberParts.value at h
  by_cases hint : parts.fraction = [] ∧ parts.exponent = []
  · rw [if_pos hint] at h
    exact Or.inl ⟨_, (Option.some.inj h).symm⟩
  · rw [if_neg hint] at h
    obtain ⟨x, -, hx⟩ := Option.map_eq_some_iff.mp h
    exact Or.inr ⟨x, hx.symm⟩

theorem wordValue_plain {word : List Char × Option (JsonData φ)} {v : JsonData φ}
    (hword : word ∈ plainWords) (h : word.2 = some v) :
    v = .none ∨ (∃ b, v = .bool b) ∨ ∃ x, v = .float x := by
  simp only [plainWords, List.mem_cons, List.mem_map] at hword
  obtain rfl | rfl | rfl | ⟨constant, -, rfl⟩ := hword
  · exact Or.inl (Option.some.inj h).symm
  · exact Or.inr (Or.inl ⟨true, (Option.some.inj h).symm⟩)
  · exact Or.inr (Or.inl ⟨false, (Option.some.inj h).symm⟩)
  · obtain ⟨x, -, hx⟩ := Option.map_eq_some_iff.mp h
    exact Or.inr (Or.inr ⟨x, hx.symm⟩)

/-- What `scanPlain` read has no closing character, so the text must settle it. -/
theorem settled_plain {text rest : List Char} {v : JsonData φ}
    (h : scanPlain text = some (v, rest)) (hsettled : Settled v rest) :
    rest ≠ [] ∧ NumberEnds rest := by
  have hplain : v = .none ∨ (∃ b, v = .bool b) ∨ (∃ n, v = .int n) ∨ ∃ x, v = .float x := by
    unfold scanPlain at h
    split at h
    · rename_i parts after _
      obtain ⟨value, hvalue, hpair⟩ := Option.map_eq_some_iff.mp h
      obtain ⟨rfl, -⟩ := Prod.mk.inj hpair
      exact Or.inr (Or.inr (numberValue_plain hvalue))
    · split at h
      · rename_i word hfind
        obtain ⟨value, hvalue, hpair⟩ := Option.map_eq_some_iff.mp h
        obtain ⟨rfl, -⟩ := Prod.mk.inj hpair
        obtain hv | hv | hv := wordValue_plain (List.mem_of_find?_eq_some hfind) hvalue
        · exact Or.inl hv
        · exact Or.inr (Or.inl hv)
        · exact Or.inr (Or.inr (Or.inr hv))
      · cases h
  obtain ⟨s, rfl⟩ | ⟨vs, rfl⟩ | ⟨es, rfl⟩ | hrest := hsettled
  · obtain hv | ⟨b, hv⟩ | ⟨n, hv⟩ | ⟨x, hv⟩ := hplain <;> cases hv
  · obtain hv | ⟨b, hv⟩ | ⟨n, hv⟩ | ⟨x, hv⟩ := hplain <;> cases hv
  · obtain hv | ⟨b, hv⟩ | ⟨n, hv⟩ | ⟨x, hv⟩ := hplain <;> cases hv
  · exact hrest

theorem scanOnce_reads {fuel : ℕ} (ih : ReadsAll (φ := φ) fuel) {text rest : List Char}
    {v : JsonData φ} (h : scanOnce (fuel + 1) text = some (v, rest)) :
    Reads scanOnce text v rest (Settled v rest) := by
  cases text with
  | nil => cases h
  | cons c tail =>
    by_cases hquote : c = quote
    · subst hquote
      exact scanOnce_string h
    by_cases hbrace : c = '{'
    · subst hbrace
      exact scanOnce_object ih h
    by_cases hbracket : c = '['
    · subst hbracket
      exact scanOnce_array ih h
    rw [scanOnce, if_neg hquote, if_neg hbrace, if_neg hbracket] at h
    obtain ⟨hlength, happend⟩ := scanPlain_append h
    refine Reads.of_succ hlength ?_
    intro n u _ hu
    have hscan := happend u (hu.imp_right fun hsettled => settled_plain h hsettled)
    rw [List.cons_append] at hscan ⊢
    rw [scanOnce, if_neg hquote, if_neg hbrace, if_neg hbracket, hscan]

/-- Reading never needs more fuel than the text is long, and never looks past its end. -/
theorem readsAll (fuel : ℕ) : ReadsAll (φ := φ) fuel := by
  induction fuel with
  | zero => exact ⟨nofun, nofun, nofun⟩
  | succ fuel ih => exact ⟨scanOnce_reads ih, scanItems_reads ih, scanEntries_reads ih⟩

/-- The fuel of `loads` is enough: no fuel reads a text that this one does not. -/
theorem scanOnce_fuel {fuel : ℕ} {text rest : List Char} {v : JsonData φ}
    (h : scanOnce fuel text = some (v, rest)) :
    ∀ n, text.length < n → scanOnce n text = some (v, rest) := by
  intro n hn
  have hreads := ((readsAll fuel).value h).2 n [] hn (Or.inl rfl)
  rwa [List.append_nil, List.append_nil] at hreads

/-! ### Whole texts -/

/-- After a whole object nothing but whitespace may come. -/
theorem loads_object_append {text : List Char} {es : List (String × JsonData φ)}
    (h : loads text = some (.dict es : JsonData φ)) {c : Char} (hc : isJsonSpace c = false)
    (rest : List Char) : (loads (text ++ c :: rest) : Option (JsonData φ)) = none := by
  unfold loads at h
  split at h
  · cases h
  · rename_i v after hscan
    split_ifs at h with hend
    obtain ⟨pairs, rfl⟩ := ofPairs_dict (Option.some.inj h)
    have hreads := (readsAll _).value hscan
    have hlength := skipSpace_length text
    have hfuel : (skipSpace text).length < (text ++ c :: rest).length + 1 := by
      rw [List.length_append]
      omega
    have hwhole := hreads.2 _ (c :: rest) hfuel
      (Or.inr (Or.inr (Or.inr (Or.inl ⟨pairs, rfl⟩))))
    have hleft : skipSpace (after ++ c :: rest) = c :: rest := by
      rw [skipSpace_append_of_nil hend]
      unfold skipSpace
      rw [List.dropWhile_cons, hc]
      rfl
    unfold loads
    rw [skipSpace_append_of_ne hreads.ne_nil, hwhole]
    simp only [hleft, List.cons_ne_nil, if_false]

/-- A number or a word starts with a digit, a sign or one of five letters. -/
theorem scanPlain_head {c : Char} {tail rest : List Char} {v : JsonData φ}
    (h : scanPlain (c :: tail) = some (v, rest)) :
    c.isDigit = true ∨ c ∈ ['-', 'n', 't', 'f', 'N', 'I'] := by
  unfold scanPlain at h
  split at h
  · rename_i parts after hnumber
    obtain ⟨hparts, htext⟩ := scanNumber_sound hnumber
    obtain ⟨d, ds, hwhole, hdigit⟩ := hparts.whole_head
    unfold NumberParts.text at htext
    obtain hsign | hsign := hparts.sign
    · rw [hsign, hwhole] at htext
      injection htext with hc
      rw [hc]
      exact Or.inl hdigit
    · rw [hsign] at htext
      injection htext with hc
      rw [hc]
      exact Or.inr List.mem_cons_self
  · split at h
    · rename_i word hfind
      have hfront := List.find?_some hfind
      have hword := List.mem_of_find?_eq_some hfind
      simp only [plainWords, constantWords, List.map_cons, List.map_nil, List.mem_cons,
        List.not_mem_nil, or_false] at hword
      refine Or.inr ?_
      obtain rfl | rfl | rfl | rfl | rfl | rfl := hword <;>
      · have hc := List.head_eq_of_cons_eq (List.prefix_iff_eq_append.mp
          (List.isPrefixOf_iff_prefix.mp hfront))
        rw [← hc]
        decide
    · cases h

/-- No value starts with whitespace, JSON's or Python's. -/
theorem scanOnce_space {fuel : ℕ} {c : Char} (hc : PythonText.isSpace c = true)
    (rest : List Char) : (scanOnce fuel (c :: rest) : Option (JsonData φ × List Char)) = none := by
  have hne : ∀ d, PythonText.isSpace d = false → c ≠ d := by
    intro d hd he
    rw [he, hd] at hc
    cases hc
  have hdigit : c.isDigit = false := by
    by_contra h
    have hrange := (isDigit_code c).mp (Bool.of_not_eq_false h)
    simp only [PythonText.isSpace, Bool.or_eq_true, Bool.and_eq_true, decide_eq_true_eq,
      beq_iff_eq] at hc
    omega
  cases fuel with
  | zero => rfl
  | succ fuel =>
    rw [scanOnce, if_neg (hne quote (by decide)), if_neg (hne '{' (by decide)),
      if_neg (hne '[' (by decide))]
    cases hplain : (scanPlain (c :: rest) : Option (JsonData φ × List Char)) with
    | none => rfl
    | some scanned =>
      obtain hd | hmem := scanPlain_head hplain
      · rw [hdigit] at hd
        cases hd
      · have hall : (['-', 'n', 't', 'f', 'N', 'I'].all fun d => !PythonText.isSpace d) = true := by
          decide
        have hplainChar : PythonText.isSpace c = false := by
          simpa using List.all_eq_true.mp hall c hmem
        exact absurd rfl (hne c hplainChar)

/-- A text whose first character after JSON's whitespace is whitespace too is no JSON. -/
theorem loads_of_space {text : List Char}
    (h : ∀ c ∈ (skipSpace text).head?, PythonText.isSpace c = true) :
    (loads text : Option (JsonData φ)) = none := by
  unfold loads
  cases hskip : skipSpace text with
  | nil => rfl
  | cons c rest =>
    rw [hskip] at h
    rw [scanOnce_space (h c rfl)]

theorem loads_blank {text : List Char} (h : ∀ c ∈ text, PythonText.isSpace c = true) :
    (loads text : Option (JsonData φ)) = none := by
  apply loads_of_space
  intro c hc
  exact h c ((List.dropWhile_suffix isJsonSpace).subset (List.mem_of_mem_head? hc))

/-- Nor is one that is blank up to a further space that JSON does not skip. -/
theorem loads_blank_append {text : List Char} (h : ∀ c ∈ text, PythonText.isSpace c = true)
    {c : Char} (hc : PythonText.isSpace c = true) (hjson : isJsonSpace c = false)
    (rest : List Char) : (loads (text ++ c :: rest) : Option (JsonData φ)) = none := by
  apply loads_of_space
  intro d hd
  cases hskip : skipSpace text with
  | nil =>
    have hleft : skipSpace (c :: rest) = c :: rest := by
      unfold skipSpace
      rw [List.dropWhile_cons, hjson]
      rfl
    rw [skipSpace_append_of_nil hskip, hleft, List.head?_cons, Option.mem_some_iff] at hd
    rwa [← hd]
  | cons e after =>
    rw [skipSpace_append hskip, List.head?_cons, Option.mem_some_iff] at hd
    have hmem : e ∈ text := (List.dropWhile_suffix isJsonSpace).subset (by
      unfold skipSpace at hskip
      rw [hskip]
      exact List.mem_cons_self)
    rw [← hd]
    exact h e hmem

end
end PythonJson
