import Mathlib.Data.Rat.Defs
import Mathlib.Tactic.Common

/-! JSON values as a JavaScript program reads them after `JSON.parse`, and the checks it makes
of their kinds. -/
namespace RoboticCharacter

inductive JsonValue
  | null
  | bool (value : Bool)
  | number (value : ℚ)
  | string (value : String)
  | array (items : List JsonValue)
  | object (entries : List (String × JsonValue))

namespace JsonValue

/-- `record[key]`: the last entry of the key, or `undefined`. -/
def property (entries : List (String × JsonValue)) (key : String) : Option JsonValue :=
  (entries.reverse.find? (fun entry => entry.1 = key)).map Prod.snd

def maxSafeInteger : ℤ := 9007199254740991

/-- `Number.isSafeInteger`. -/
def isSafeInteger (value : ℚ) : Bool :=
  decide (value.den = 1 ∧ -maxSafeInteger ≤ value.num ∧ value.num ≤ maxSafeInteger)

theorem isSafeInteger_natCast (n : ℕ) :
    isSafeInteger (n : ℚ) = decide ((n : ℤ) ≤ maxSafeInteger) := by
  unfold isSafeInteger maxSafeInteger
  rw [Rat.den_natCast, Rat.num_natCast]
  have hlow : -(9007199254740991 : ℤ) ≤ n := by omega
  simp only [hlow, true_and]

/-- The characters that `String.prototype.trim` removes. -/
def isTrimmed (c : Char) : Bool :=
  [0x09, 0x0A, 0x0B, 0x0C, 0x0D, 0x20, 0xA0, 0x1680, 0x2028, 0x2029, 0x202F, 0x205F, 0x3000,
    0xFEFF].contains c.toNat || (0x2000 ≤ c.toNat && c.toNat ≤ 0x200A)

/-- `value.trim() === ""`. -/
def isBlank (value : String) : Bool := value.toList.all isTrimmed

end JsonValue
end RoboticCharacter
