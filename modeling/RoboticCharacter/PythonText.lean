/-! The text operations of Python that messages of the host are built with. -/
namespace PythonText

/-- The code points `str.strip` removes. -/
def isSpace (c : Char) : Bool :=
  let n := c.toNat
  (9 ≤ n && n ≤ 13) || (28 ≤ n && n ≤ 32) || n == 0x85 || n == 0xA0 || n == 0x1680 ||
    (0x2000 ≤ n && n ≤ 0x200A) || n == 0x2028 || n == 0x2029 || n == 0x202F || n == 0x205F ||
    n == 0x3000

def strip (text : String) : String :=
  String.ofList (((text.toList.dropWhile isSpace).reverse.dropWhile isSpace).reverse)

/-- `text.split()`: the runs of characters between the white space. -/
def split (text : String) : List String :=
  ((text.toList.splitOnP isSpace).filter (· ≠ [])).map String.ofList

def quoteChar : Char := Char.ofNat 39
def doubleQuoteChar : Char := Char.ofNat 34
def backslashChar : Char := Char.ofNat 92

/-- One character of `repr(text)` between the given quotes; a control character is
written as a hexadecimal escape. -/
def reprChar (quote c : Char) : List Char :=
  if c = quote ∨ c = backslashChar then [backslashChar, c]
  else if c.toNat = 9 then [backslashChar, Char.ofNat 116]
  else if c.toNat = 10 then [backslashChar, Char.ofNat 110]
  else if c.toNat = 13 then [backslashChar, Char.ofNat 114]
  else if c.toNat < 32 ∨ (127 ≤ c.toNat ∧ c.toNat ≤ 0xA0) ∨ c.toNat = 0xAD then
    [backslashChar, Char.ofNat 120, Nat.digitChar (c.toNat/16), Nat.digitChar (c.toNat%16)]
  else [c]

/-- `repr(text)`: single quotes, unless the text has one and no double quote. -/
def repr (text : String) : String :=
  let quote := if quoteChar ∈ text.toList ∧ doubleQuoteChar ∉ text.toList then doubleQuoteChar
    else quoteChar
  String.ofList (quote :: (text.toList.flatMap (reprChar quote) ++ [quote]))

end PythonText
