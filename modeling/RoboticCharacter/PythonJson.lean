import Mathlib.Data.Int.Basic
import Mathlib.Data.List.Basic

/-! The values that `json.dumps` writes, with sorted keys, compact separators and characters
outside ASCII as they are. -/
namespace PythonJson

/-- A Python value made of JSON's kinds; `κ` is the type of its dict keys, `φ` that of floats. -/
inductive PyValue (κ φ : Type) where
  | none
  | bool (value : Bool)
  | int (value : ℤ)
  | float (value : φ)
  | str (value : String)
  | list (items : List (PyValue κ φ))
  | dict (entries : List (κ × PyValue κ φ))

/-- A value whose dict keys are all strings. -/
abbrev JsonData (φ : Type) := PyValue String φ

/-- What sorting and writing ask of a key: `less` is Python's `<`, `none` when the two
cannot be compared, and `text` the string it is written as. -/
class DictKey (κ : Type) where
  less : κ → κ → Option Bool
  text : κ → String

instance : DictKey String where
  less s t := some (decide (s.toList < t.toList))
  text s := s

/-! ### Floats -/

/-- The parts of a number's text. -/
structure NumberParts where
  (sign whole fraction exponent : List Char)

def NumberParts.text (parts : NumberParts) : List Char :=
  parts.sign ++ parts.whole ++ parts.fraction ++ parts.exponent

/-- The grammar of JSON numbers: no leading zero, and digits after a point or an exponent. -/
structure NumberParts.WellFormed (parts : NumberParts) : Prop where
  sign : parts.sign = [] ∨ parts.sign = ['-']
  whole : parts.whole = ['0'] ∨
    ∃ c ds, parts.whole = c :: ds ∧ c ≠ '0' ∧ ∀ d ∈ parts.whole, d.isDigit = true
  fraction : parts.fraction = [] ∨
    ∃ ds, parts.fraction = '.' :: ds ∧ ds ≠ [] ∧ ∀ d ∈ ds, d.isDigit = true
  exponent : parts.exponent = [] ∨
    ∃ letter mark ds, parts.exponent = letter :: (mark ++ ds) ∧ (letter = 'e' ∨ letter = 'E') ∧
      (mark = [] ∨ mark = ['+'] ∨ mark = ['-']) ∧ ds ≠ [] ∧ ∀ d ∈ ds, d.isDigit = true

/-- The constants outside the standard that Python writes. -/
def constantWords : List (List Char) :=
  [['N', 'a', 'N'], ['I', 'n', 'f', 'i', 'n', 'i', 't', 'y'],
   ['-', 'I', 'n', 'f', 'i', 'n', 'i', 't', 'y']]

/-- The texts of floats in JSON: a number with a fraction or an exponent, or a constant. -/
inductive FloatLiteral : List Char → Prop
  | constant (word : List Char) : word ∈ constantWords → FloatLiteral word
  | number (parts : NumberParts) : parts.WellFormed → parts.fraction ≠ [] ∨ parts.exponent ≠ [] →
      FloatLiteral parts.text

/-- Python's floats, by their texts: `float.__repr__` and `float(text)`. The first writes a
literal that the second reads back. Their order counts where they are keys. -/
class PyFloat (φ : Type) where
  text : φ → List Char
  parse : List Char → Option φ
  less : φ → φ → Bool
  lessInt : φ → ℤ → Bool
  intLess : ℤ → φ → Bool
  text_literal : ∀ x, FloatLiteral (text x)
  parse_text : ∀ x, parse (text x) = some x

/-! ### Texts -/

def quote : Char := Char.ofNat 34
def backslash : Char := Char.ofNat 92

/-- The letter of a character that has an escape of its own. -/
def shortEscape (c : Char) : Option Char :=
  if c = quote then some quote
  else if c = backslash then some backslash
  else if c.toNat = 8 then some 'b'
  else if c.toNat = 9 then some 't'
  else if c.toNat = 10 then some 'n'
  else if c.toNat = 12 then some 'f'
  else if c.toNat = 13 then some 'r'
  else none

/-- One character inside a string: only the quote, the backslash and the control characters
below U+0020 are escaped. -/
def escapeChar (c : Char) : List Char :=
  match shortEscape c with
  | some letter => [backslash, letter]
  | none =>
    if c.toNat < 32 then
      [backslash, 'u', '0', '0', Nat.digitChar (c.toNat/16), Nat.digitChar (c.toNat%16)]
    else [c]

def stringText (s : String) : List Char := quote :: (s.toList.flatMap escapeChar ++ [quote])

/-- `int.__repr__`. -/
def intText (n : ℤ) : List Char :=
  if n < 0 then '-' :: Nat.toDigits 10 n.natAbs else Nat.toDigits 10 n.natAbs

section
variable {κ φ : Type}

mutual
/-- The compact text of a value, its dicts in the order they have. -/
def render [PyFloat φ] : JsonData φ → List Char
  | .none => ['n', 'u', 'l', 'l']
  | .bool true => ['t', 'r', 'u', 'e']
  | .bool false => ['f', 'a', 'l', 's', 'e']
  | .int n => intText n
  | .float x => PyFloat.text x
  | .str s => stringText s
  | .list [] => ['[', ']']
  | .list (v :: vs) => '[' :: (render v ++ renderItems vs)
  | .dict [] => ['{', '}']
  | .dict ((k, v) :: es) => '{' :: (stringText k ++ ':' :: (render v ++ renderEntries es))

/-- The items after the first one, and the closing bracket. -/
def renderItems [PyFloat φ] : List (JsonData φ) → List Char
  | [] => [']']
  | v :: vs => ',' :: (render v ++ renderItems vs)

/-- The entries after the first one, and the closing brace. -/
def renderEntries [PyFloat φ] : List (String × JsonData φ) → List Char
  | [] => ['}']
  | (k, v) :: es => ',' :: (stringText k ++ ':' :: (render v ++ renderEntries es))
end

/-- The keys that `json.dumps` takes. -/
inductive PyKey (φ : Type) where
  | str (value : String)
  | int (value : ℤ)
  | bool (value : Bool)
  | float (value : φ)
  | none

/-- The number that a key is, for comparisons: a bool is zero or one. -/
def PyKey.number? : PyKey φ → Option (ℤ ⊕ φ)
  | .int n => some (.inl n)
  | .bool b => some (.inl (if b then 1 else 0))
  | .float x => some (.inr x)
  | .str _ => Option.none
  | .none => Option.none

def numberLess [PyFloat φ] : ℤ ⊕ φ → ℤ ⊕ φ → Bool
  | .inl m, .inl n => decide (m < n)
  | .inl m, .inr y => PyFloat.intLess m y
  | .inr x, .inl n => PyFloat.lessInt x n
  | .inr x, .inr y => PyFloat.less x y

/-- Strings compare with strings and numbers with numbers; `None` compares with nothing. -/
def PyKey.less [PyFloat φ] : PyKey φ → PyKey φ → Option Bool
  | .str s, .str t => DictKey.less s t
  | k, l =>
    match k.number?, l.number? with
    | some x, some y => some (numberLess x y)
    | _, _ => Option.none

def PyKey.text [PyFloat φ] : PyKey φ → String
  | .str s => s
  | .int n => String.ofList (intText n)
  | .bool true => "true"
  | .bool false => "false"
  | .float x => String.ofList (PyFloat.text x)
  | .none => "null"

instance [PyFloat φ] : DictKey (PyKey φ) where
  less := PyKey.less
  text := PyKey.text

/-! ### Sorted keys -/

/-- Puts an entry before the first one whose key is not smaller. -/
def insertEntry {α : Type} [DictKey κ] (entry : κ × α) : List (κ × α) → Option (List (κ × α))
  | [] => some [entry]
  | next :: rest =>
    match DictKey.less next.1 entry.1 with
    | none => none
    | some false => some (entry :: next :: rest)
    | some true => (insertEntry entry rest).map (next :: ·)

/-- `sorted(dct.items())` for a dict, whose keys are distinct; `none` where the comparison of
two keys raises a TypeError. -/
def sortEntries {α : Type} [DictKey κ] : List (κ × α) → Option (List (κ × α))
  | [] => some []
  | entry :: rest => (sortEntries rest).bind (insertEntry entry)

/-- An entry as it is written, its key turned into text. -/
def keyText {α : Type} [DictKey κ] (entry : κ × α) : String × α := (DictKey.text entry.1, entry.2)

mutual
/-- The value in the order `json.dumps(…, sort_keys=True)` walks it, keys as texts. -/
def sortKeys [DictKey κ] : PyValue κ φ → Option (JsonData φ)
  | .none => some .none
  | .bool b => some (.bool b)
  | .int n => some (.int n)
  | .float x => some (.float x)
  | .str s => some (.str s)
  | .list vs => (sortKeysItems vs).map .list
  | .dict es => ((sortKeysEntries es).bind sortEntries).map fun sorted => .dict (sorted.map keyText)

def sortKeysItems [DictKey κ] : List (PyValue κ φ) → Option (List (JsonData φ))
  | [] => some []
  | v :: vs => (sortKeys v).bind fun w => (sortKeysItems vs).map (w :: ·)

def sortKeysEntries [DictKey κ] : List (κ × PyValue κ φ) → Option (List (κ × JsonData φ))
  | [] => some []
  | (k, v) :: es => (sortKeys v).bind fun w => (sortKeysEntries es).map ((k, w) :: ·)
end

/-- `json.dumps(value, sort_keys=True, separators=(",", ":"), ensure_ascii=False)`. -/
def dumpsSorted [DictKey κ] [PyFloat φ] (value : PyValue κ φ) : Option String :=
  (sortKeys value).map fun sorted => String.ofList (render sorted)

/-! ### Keys as strings -/

/-- A key made of a string is compared and written as the string. -/
structure KeyOfString [DictKey κ] (key : String → κ) : Prop where
  less : ∀ s t, DictKey.less (key s) (key t) = DictKey.less s t
  text : ∀ s, DictKey.text (key s) = s

theorem keyOfString_id : KeyOfString (id : String → String) := ⟨fun _ _ => rfl, fun _ => rfl⟩

theorem keyOfString_str [PyFloat φ] : KeyOfString (PyKey.str : String → PyKey φ) :=
  ⟨fun _ _ => rfl, fun _ => rfl⟩

mutual
/-- The value with every key of its dicts changed. -/
def mapKeys {κ' : Type} (f : κ → κ') : PyValue κ φ → PyValue κ' φ
  | .none => .none
  | .bool b => .bool b
  | .int n => .int n
  | .float x => .float x
  | .str s => .str s
  | .list vs => .list (mapKeysItems f vs)
  | .dict es => .dict (mapKeysEntries f es)

def mapKeysItems {κ' : Type} (f : κ → κ') : List (PyValue κ φ) → List (PyValue κ' φ)
  | [] => []
  | v :: vs => mapKeys f v :: mapKeysItems f vs

def mapKeysEntries {κ' : Type} (f : κ → κ') : List (κ × PyValue κ φ) → List (κ' × PyValue κ' φ)
  | [] => []
  | (k, v) :: es => (f k, mapKeys f v) :: mapKeysEntries f es
end

mutual
theorem mapKeys_leftInverse {κ' : Type} {f : κ → κ'} {g : κ' → κ} (h : ∀ k, g (f k) = k) :
    ∀ v : PyValue κ φ, mapKeys g (mapKeys f v) = v
  | .none => rfl
  | .bool _ => rfl
  | .int _ => rfl
  | .float _ => rfl
  | .str _ => rfl
  | .list vs => by rw [mapKeys, mapKeys, mapKeysItems_leftInverse h vs]
  | .dict es => by rw [mapKeys, mapKeys, mapKeysEntries_leftInverse h es]

theorem mapKeysItems_leftInverse {κ' : Type} {f : κ → κ'} {g : κ' → κ} (h : ∀ k, g (f k) = k) :
    ∀ vs : List (PyValue κ φ), mapKeysItems g (mapKeysItems f vs) = vs
  | [] => rfl
  | v :: vs => by
    rw [mapKeysItems, mapKeysItems, mapKeys_leftInverse h v, mapKeysItems_leftInverse h vs]

theorem mapKeysEntries_leftInverse {κ' : Type} {f : κ → κ'} {g : κ' → κ}
    (h : ∀ k, g (f k) = k) :
    ∀ es : List (κ × PyValue κ φ), mapKeysEntries g (mapKeysEntries f es) = es
  | [] => rfl
  | (k, v) :: es => by
    rw [mapKeysEntries, mapKeysEntries, h, mapKeys_leftInverse h v,
      mapKeysEntries_leftInverse h es]
end

mutual
/-- The characters of the strings in a value. -/
def valueChars (keyChars : κ → List Char) : PyValue κ φ → List Char
  | .str s => s.toList
  | .list vs => itemsChars keyChars vs
  | .dict es => entriesChars keyChars es
  | _ => []

def itemsChars (keyChars : κ → List Char) : List (PyValue κ φ) → List Char
  | [] => []
  | v :: vs => valueChars keyChars v ++ itemsChars keyChars vs

def entriesChars (keyChars : κ → List Char) : List (κ × PyValue κ φ) → List Char
  | [] => []
  | (k, v) :: es => keyChars k ++ (valueChars keyChars v ++ entriesChars keyChars es)
end

mutual
theorem valueChars_mapKeys {κ' : Type} (f : κ → κ') (keyChars : κ' → List Char) :
    ∀ v : PyValue κ φ, valueChars keyChars (mapKeys f v) = valueChars (fun k => keyChars (f k)) v
  | .none => rfl
  | .bool _ => rfl
  | .int _ => rfl
  | .float _ => rfl
  | .str _ => rfl
  | .list vs => by rw [mapKeys, valueChars, valueChars, itemsChars_mapKeys f keyChars vs]
  | .dict es => by rw [mapKeys, valueChars, valueChars, entriesChars_mapKeys f keyChars es]

theorem itemsChars_mapKeys {κ' : Type} (f : κ → κ') (keyChars : κ' → List Char) :
    ∀ vs : List (PyValue κ φ),
      itemsChars keyChars (mapKeysItems f vs) = itemsChars (fun k => keyChars (f k)) vs
  | [] => rfl
  | v :: vs => by
    rw [mapKeysItems, itemsChars, itemsChars, valueChars_mapKeys f keyChars v,
      itemsChars_mapKeys f keyChars vs]

theorem entriesChars_mapKeys {κ' : Type} (f : κ → κ') (keyChars : κ' → List Char) :
    ∀ es : List (κ × PyValue κ φ),
      entriesChars keyChars (mapKeysEntries f es) = entriesChars (fun k => keyChars (f k)) es
  | [] => rfl
  | (k, v) :: es => by
    rw [mapKeysEntries, entriesChars, entriesChars, valueChars_mapKeys f keyChars v,
      entriesChars_mapKeys f keyChars es]
end

mutual
/-- The floats in a value. -/
def valueFloats : PyValue κ φ → List φ
  | .float x => [x]
  | .list vs => itemsFloats vs
  | .dict es => entriesFloats es
  | _ => []

def itemsFloats : List (PyValue κ φ) → List φ
  | [] => []
  | v :: vs => valueFloats v ++ itemsFloats vs

def entriesFloats : List (κ × PyValue κ φ) → List φ
  | [] => []
  | (_, v) :: es => valueFloats v ++ entriesFloats es
end

/-- A float that is neither NaN nor infinite, by its text. -/
def IsFinite [PyFloat φ] (x : φ) : Prop := PyFloat.text x ∉ constantWords

/-- The characters of a key. -/
def PyKey.chars : PyKey φ → List Char
  | .str s => s.toList
  | _ => []

/-- An entry with its key changed. -/
def rekey {κ' α : Type} (f : κ → κ') (entry : κ × α) : κ' × α := (f entry.1, entry.2)

section
variable {α : Type} [DictKey κ] {key : String → κ}

theorem insertEntry_rekey (hkey : KeyOfString key) (entry : String × α)
    (es : List (String × α)) :
    insertEntry (rekey key entry) (es.map (rekey key)) =
      (insertEntry entry es).map (List.map (rekey key)) := by
  induction es with
  | nil => rfl
  | cons next rest ih =>
    have hless : DictKey.less (rekey key next).1 (rekey key entry).1 =
        DictKey.less next.1 entry.1 := hkey.less _ _
    rw [List.map_cons, insertEntry, insertEntry, hless, ih]
    cases DictKey.less next.1 entry.1 with
    | none => rfl
    | some smaller =>
      cases smaller with
      | false => rfl
      | true => cases insertEntry entry rest <;> rfl

theorem sortEntries_rekey (hkey : KeyOfString key) (es : List (String × α)) :
    sortEntries (es.map (rekey key)) = (sortEntries es).map (List.map (rekey key)) := by
  induction es with
  | nil => rfl
  | cons entry rest ih =>
    rw [List.map_cons, sortEntries, sortEntries, ih]
    cases sortEntries rest with
    | none => rfl
    | some sorted => exact insertEntry_rekey hkey entry sorted

theorem keyText_rekey (hkey : KeyOfString key) (entry : String × α) :
    keyText (rekey key entry) = keyText entry :=
  Prod.ext (hkey.text entry.1) rfl

mutual
/-- Keys that are made of strings do not change the order a value is written in. -/
theorem sortKeys_mapKeys (hkey : KeyOfString key) :
    ∀ v : JsonData φ, sortKeys (mapKeys key v) = sortKeys v
  | .none => rfl
  | .bool _ => rfl
  | .int _ => rfl
  | .float _ => rfl
  | .str _ => rfl
  | .list vs => by
    rw [mapKeys, sortKeys, sortKeys, sortKeysItems_mapKeys hkey vs]
  | .dict es => by
    have hes := sortKeysEntries_mapKeys hkey es
    rw [mapKeys, sortKeys, sortKeys, hes]
    cases sortKeysEntries es with
    | none => rfl
    | some sorted =>
      have hsort := sortEntries_rekey hkey sorted
      simp only [Option.map_some, Option.bind_some, hsort]
      cases sortEntries sorted with
      | none => rfl
      | some entries =>
        have htexts : (entries.map (rekey key)).map keyText = entries.map keyText := by
          rw [List.map_map]
          exact List.map_congr_left fun entry _ => keyText_rekey hkey entry
        simp only [Option.map_some, htexts]

theorem sortKeysItems_mapKeys (hkey : KeyOfString key) :
    ∀ vs : List (JsonData φ), sortKeysItems (mapKeysItems key vs) = sortKeysItems vs
  | [] => rfl
  | v :: vs => by
    rw [mapKeysItems, sortKeysItems, sortKeysItems, sortKeys_mapKeys hkey v,
      sortKeysItems_mapKeys hkey vs]

theorem sortKeysEntries_mapKeys (hkey : KeyOfString key) :
    ∀ es : List (String × JsonData φ), sortKeysEntries (mapKeysEntries key es) =
      (sortKeysEntries es).map (List.map (rekey key))
  | [] => rfl
  | (k, v) :: es => by
    rw [mapKeysEntries, sortKeysEntries, sortKeysEntries, sortKeys_mapKeys hkey v,
      sortKeysEntries_mapKeys hkey es]
    cases sortKeys v with
    | none => rfl
    | some w => cases sortKeysEntries es <;> rfl
end

end

end

end PythonJson
