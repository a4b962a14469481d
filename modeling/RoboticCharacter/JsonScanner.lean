import RoboticCharacter.PythonJson

/-! `json.loads`: the scanner of Python's json module, which reads one value off the front of
a text. -/
namespace PythonJson

/-- The whitespace of JSON. -/
def isJsonSpace (c : Char) : Bool :=
  c.toNat == 32 || c.toNat == 9 || c.toNat == 10 || c.toNat == 13

def skipSpace (text : List Char) : List Char := text.dropWhile isJsonSpace

/-! ### Strings -/

/-- The character that a one-letter escape stands for. -/
def unescapeLetter (letter : Char) : Option Char :=
  if letter = quote then some quote
  else if letter = backslash then some backslash
  else if letter = '/' then some '/'
  else if letter = 'b' then some (Char.ofNat 8)
  else if letter = 'f' then some (Char.ofNat 12)
  else if letter = 'n' then some (Char.ofNat 10)
  else if letter = 'r' then some (Char.ofNat 13)
  else if letter = 't' then some (Char.ofNat 9)
  else none

def hexValue (c : Char) : Option ℕ :=
  if c.isDigit then some (c.toNat - 48)
  else if 'a' ≤ c ∧ c ≤ 'f' then some (c.toNat - 87)
  else if 'A' ≤ c ∧ c ≤ 'F' then some (c.toNat - 55)
  else none

/-- The four hexadecimal digits after `\u`, and what follows them. -/
def scanHex : List Char → Option (ℕ × List Char)
  | a :: b :: c :: d :: rest =>
    match hexValue a, hexValue b, hexValue c, hexValue d with
    | some x, some y, some z, some w => some (4096*x + 256*y + 16*z + w, rest)
    | _, _, _, _ => none
  | _ => none

def isHighSurrogate (n : ℕ) : Bool := 0xD800 ≤ n && n < 0xDC00
def isLowSurrogate (n : ℕ) : Bool := 0xDC00 ≤ n && n < 0xE000

/-- The character of a `\u` escape and what follows it. A pair of surrogates is one character.
A surrogate alone is a string to Python and no text of characters; a text with one is not read
here, and `pairsSurrogates` tells which texts have one. -/
def scanUnicode (text : List Char) : Option (Char × List Char) :=
  match scanHex text with
  | none => none
  | some (n, rest) =>
    if isHighSurrogate n then
      match rest with
      | slash :: 'u' :: low =>
        if slash = backslash then
          match scanHex low with
          | none => none
          | some (m, rest) =>
            if isLowSurrogate m then
              some (Char.ofNat (0x10000 + 1024*(n - 0xD800) + (m - 0xDC00)), rest)
            else none
        else none
      | _ => none
    else if isLowSurrogate n then none
    else some (Char.ofNat n, rest)

/-- No `\u` escape of the text is a surrogate alone; the fuel bounds the number of characters. -/
def pairsSurrogates : ℕ → List Char → Bool
  | 0, _ | _ + 1, [] => true
  | fuel + 1, c :: rest =>
    if c = backslash then
      match rest with
      | [] => true
      | letter :: later =>
        if letter = 'u' then
          match scanHex later, scanUnicode later with
          | some _, none => false
          | some _, some (_, after) => pairsSurrogates fuel after
          | none, _ => pairsSurrogates fuel later
        else pairsSurrogates fuel later
    else pairsSurrogates fuel rest

/-- Every string of the JSON text is one of characters. -/
def HasCharacters (text : List Char) : Prop := pairsSurrogates text.length text = true

instance (text : List Char) : Decidable (HasCharacters text) :=
  inferInstanceAs (Decidable (_ = true))

/-- The characters of a string up to its closing quote, and what follows it; the fuel bounds
the number of characters. -/
def scanChars : ℕ → List Char → Option (List Char × List Char)
  | 0, _ => none
  | _ + 1, [] => none
  | fuel + 1, c :: rest =>
    if c = quote then some ([], rest)
    else if c.toNat < 32 then none
    else if c = backslash then
      match rest with
      | [] => none
      | letter :: rest =>
        if letter = 'u' then
          match scanUnicode rest with
          | none => none
          | some (d, rest) => (scanChars fuel rest).map fun scanned => (d :: scanned.1, scanned.2)
        else
          match unescapeLetter letter with
          | none => none
          | some d => (scanChars fuel rest).map fun scanned => (d :: scanned.1, scanned.2)
    else (scanChars fuel rest).map fun scanned => (c :: scanned.1, scanned.2)

/-- A string after its opening quote. -/
def scanString (text : List Char) : Option (String × List Char) :=
  (scanChars (text.length + 1) text).map fun scanned => (String.ofList scanned.1, scanned.2)

/-! ### Numbers -/

def scanSign : List Char → List Char × List Char
  | '-' :: rest => (['-'], rest)
  | text => ([], text)

def scanDigits (text : List Char) : List Char × List Char :=
  (text.takeWhile Char.isDigit, text.dropWhile Char.isDigit)

/-- Digits without a leading zero. -/
def scanWhole : List Char → Option (List Char × List Char)
  | [] => none
  | c :: rest =>
    if c = '0' then some (['0'], rest)
    else if c.isDigit then some (scanDigits (c :: rest)) else none

/-- A point with a digit after it, and the digits. -/
def scanFraction : List Char → List Char × List Char
  | '.' :: rest =>
    if (scanDigits rest).1 = [] then ([], '.' :: rest)
    else ('.' :: (scanDigits rest).1, (scanDigits rest).2)
  | text => ([], text)

def scanMark : List Char → List Char × List Char
  | '+' :: rest => (['+'], rest)
  | '-' :: rest => (['-'], rest)
  | text => ([], text)

/-- An exponent; a letter without digits after it is not part of the number. -/
def scanExponent : List Char → List Char × List Char
  | [] => ([], [])
  | c :: rest =>
    if (c = 'e' ∨ c = 'E') ∧ (scanDigits (scanMark rest).2).1 ≠ [] then
      (c :: ((scanMark rest).1 ++ (scanDigits (scanMark rest).2).1),
        (scanDigits (scanMark rest).2).2)
    else ([], c :: rest)

def scanNumber (text : List Char) : Option (NumberParts × List Char) :=
  match scanWhole (scanSign text).2 with
  | none => none
  | some (whole, rest) =>
    some ({ sign := (scanSign text).1, whole := whole, fraction := (scanFraction rest).1,
            exponent := (scanExponent (scanFraction rest).2).1 },
      (scanExponent (scanFraction rest).2).2)

section
variable {φ : Type} [PyFloat φ]

/-- `int` of the text without a fraction or an exponent, `float` of every other text. -/
def NumberParts.value (parts : NumberParts) : Option (JsonData φ) :=
  if parts.fraction = [] ∧ parts.exponent = [] then
    let magnitude : ℤ := Nat.ofDigitChars 10 parts.whole 0
    some (.int (if parts.sign = [] then magnitude else -magnitude))
  else (PyFloat.parse parts.text).map .float

/-- The words of values that are no numbers. -/
def plainWords : List (List Char × Option (JsonData φ)) :=
  (['n', 'u', 'l', 'l'], some .none) :: (['t', 'r', 'u', 'e'], some (.bool true)) ::
  (['f', 'a', 'l', 's', 'e'], some (.bool false)) ::
  constantWords.map fun word => (word, (PyFloat.parse word).map .float)

/-- A number or a word; no word starts as a number does. -/
def scanPlain (text : List Char) : Option (JsonData φ × List Char) :=
  match scanNumber text with
  | some (parts, rest) => parts.value.map fun value => (value, rest)
  | none =>
    match plainWords.find? (fun word => word.1.isPrefixOf text) with
    | some word => word.2.map fun value => (value, text.drop word.1.length)
    | none => none

/-- A key with its colon and the whitespace around it. -/
def scanKey : List Char → Option (String × List Char)
  | [] => none
  | c :: rest =>
    if c = quote then
      match scanString rest with
      | none => none
      | some (key, rest) =>
        match skipSpace rest with
        | ':' :: rest => some (key, skipSpace rest)
        | _ => none
    else none

mutual
/-- One value at the front of the text, with what follows it. -/
def scanOnce : ℕ → List Char → Option (JsonData φ × List Char)
  | 0, _ => none
  | _ + 1, [] => none
  | fuel + 1, c :: rest =>
    if c = quote then (scanString rest).map fun scanned => (.str scanned.1, scanned.2)
    else if c = '{' then
      match skipSpace rest with
      | '}' :: rest => some (.dict [], rest)
      | text =>
        match scanKey text with
        | none => none
        | some (key, text) =>
          match scanOnce fuel text with
          | none => none
          | some (value, text) =>
            (scanEntries fuel text).map fun scanned =>
              (.dict ((key, value) :: scanned.1), scanned.2)
    else if c = '[' then
      match skipSpace rest with
      | ']' :: rest => some (.list [], rest)
      | text =>
        match scanOnce fuel text with
        | none => none
        | some (value, text) =>
          (scanItems fuel text).map fun scanned => (.list (value :: scanned.1), scanned.2)
    else scanPlain (c :: rest)

/-- What follows a value of a list: its end, or a comma and the next value. -/
def scanItems : ℕ → List Char → Option (List (JsonData φ) × List Char)
  | 0, _ => none
  | fuel + 1, text =>
    match skipSpace text with
    | ']' :: rest => some ([], rest)
    | ',' :: rest =>
      match scanOnce fuel (skipSpace rest) with
      | none => none
      | some (value, text) =>
        (scanItems fuel text).map fun scanned => (value :: scanned.1, scanned.2)
    | _ => none

/-- What follows a value of an object: its end, or a comma, the next key and its value. -/
def scanEntries : ℕ → List Char → Option (List (String × JsonData φ) × List Char)
  | 0, _ => none
  | fuel + 1, text =>
    match skipSpace text with
    | '}' :: rest => some ([], rest)
    | ',' :: rest =>
      match scanKey (skipSpace rest) with
      | none => none
      | some (key, text) =>
        match scanOnce fuel text with
        | none => none
        | some (value, text) =>
          (scanEntries fuel text).map fun scanned => ((key, value) :: scanned.1, scanned.2)
    | _ => none
end

/-- `dct[key] = value`: an old entry of the key keeps its place. -/
def setItem {α : Type} (entries : List (String × α)) (entry : String × α) : List (String × α) :=
  if entries.any (fun old => old.1 == entry.1) then
    entries.map fun old => if old.1 == entry.1 then (old.1, entry.2) else old
  else entries ++ [entry]

mutual
/-- The value that the scanned pairs make: of several entries of one key the last one counts. -/
def ofPairs : JsonData φ → JsonData φ
  | .list vs => .list (ofPairsItems vs)
  | .dict es => .dict ((ofPairsEntries es).foldl setItem [])
  | value => value

def ofPairsItems : List (JsonData φ) → List (JsonData φ)
  | [] => []
  | v :: vs => ofPairs v :: ofPairsItems vs

def ofPairsEntries : List (String × JsonData φ) → List (String × JsonData φ)
  | [] => []
  | (k, v) :: es => (k, ofPairs v) :: ofPairsEntries es
end

/-- `json.loads(text)`: one value with nothing but whitespace around it. The fuel is more than
the scanner uses, since it reads a character on every level. -/
def loads (text : List Char) : Option (JsonData φ) :=
  match scanOnce (text.length + 1) (skipSpace text) with
  | none => none
  | some (value, rest) => if skipSpace rest = [] then some (ofPairs value) else none

end

end PythonJson
