import Mathlib.Data.Nat.Bitwise
import Mathlib.Tactic.Ring

/-! Little-endian base-256 numerals: the byte string of a natural number at a
fixed width, and the number a byte string denotes. -/
namespace LittleEndian

/-- The `width` low bytes of `n`, least significant first. -/
def encode : ℕ → ℕ → List UInt8
  | 0, _ => []
  | width+1, n => UInt8.ofNat n :: encode width (n/256)

def decode : List UInt8 → ℕ
  | [] => 0
  | b :: bytes => b.toNat + 256*decode bytes

@[simp]
theorem length_encode (width n : ℕ) : (encode width n).length = width := by
  induction width generalizing n with
  | zero => rfl
  | succ width ih => simp only [encode, List.length_cons, ih]

theorem decode_lt (bytes : List UInt8) : decode bytes < 256^bytes.length := by
  induction bytes with
  | nil => simp only [decode, List.length_nil, pow_zero, Nat.lt_one_iff]
  | cons b bytes ih =>
    have hb := b.toNat_lt
    simp only [decode, List.length_cons, pow_succ]
    omega

theorem decode_encode (width n : ℕ) (hn : n < 256^width) : decode (encode width n) = n := by
  induction width generalizing n with
  | zero => simp only [pow_zero] at hn; simp only [encode, decode]; omega
  | succ width ih =>
    have hd : n/256 < 256^width := by
      apply Nat.div_lt_of_lt_mul
      rwa [pow_succ, mul_comm] at hn
    simp only [encode, decode, ih (n/256) hd, UInt8.toNat_ofNat']
    omega

theorem encode_decode (bytes : List UInt8) : encode bytes.length (decode bytes) = bytes := by
  induction bytes with
  | nil => rfl
  | cons b bytes ih =>
    have hb := b.toNat_lt
    have hlow : UInt8.ofNat (b.toNat + 256*decode bytes) = b := by
      apply UInt8.toNat_inj.mp
      simp only [UInt8.toNat_ofNat']
      omega
    have hhigh : (b.toNat + 256*decode bytes)/256 = decode bytes := by omega
    simp only [decode, List.length_cons, encode, hlow, hhigh, ih]

end LittleEndian
