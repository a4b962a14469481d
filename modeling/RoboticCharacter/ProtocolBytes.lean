import RoboticCharacter.LittleEndian

/-! Byte strings on the wire, as the two sides read and write their fields: the
host through `struct` formats, the firmware through shifts on fixed-width words. -/
namespace RoboticCharacter

abbrev Bytes := List UInt8

/-- `data[index]`; every read of the source stays inside the string. -/
def byteAt (data : Bytes) (index : ℕ) : UInt8 := data.getD index 0

structure Uuid where
  bytes : Bytes
  length_eq : bytes.length = 16
  deriving DecidableEq

/-- `UUID(int=0)`. -/
def Uuid.zero : Uuid := ⟨List.replicate 16 0, List.length_replicate⟩

namespace Host

/-- `struct` fields `B`, `H` and `I` under `<`. -/
def packB (value : ℕ) : Bytes := LittleEndian.encode 1 value
def packH (value : ℕ) : Bytes := LittleEndian.encode 2 value
def packI (value : ℕ) : Bytes := LittleEndian.encode 4 value
/-- `struct` field `h` under `<`: two's complement in two bytes. -/
def packSigned (value : ℤ) : Bytes := packH (value % 65536).toNat

def unpackB (data : Bytes) (offset : ℕ) : ℕ := LittleEndian.decode ((data.drop offset).take 1)
def unpackH (data : Bytes) (offset : ℕ) : ℕ := LittleEndian.decode ((data.drop offset).take 2)
def unpackI (data : Bytes) (offset : ℕ) : ℕ := LittleEndian.decode ((data.drop offset).take 4)

/-- The reading of `h`: the upper half of the 16-bit range is negative. -/
def unpackSigned (data : Bytes) (offset : ℕ) : ℤ :=
  if unpackH data offset < 32768 then unpackH data offset else (unpackH data offset : ℤ) - 65536

@[simp] theorem length_packB (n : ℕ) : (packB n).length = 1 := LittleEndian.length_encode 1 n
@[simp] theorem length_packH (n : ℕ) : (packH n).length = 2 := LittleEndian.length_encode 2 n
@[simp] theorem length_packI (n : ℕ) : (packI n).length = 4 := LittleEndian.length_encode 4 n
@[simp] theorem length_packSigned (z : ℤ) : (packSigned z).length = 2 := length_packH _

/-- A field is read back where it was written. -/
theorem unpackB_packB (left right : Bytes) (n offset : ℕ) (hl : left.length = offset)
    (hn : n < 256) : unpackB (left ++ (packB n ++ right)) offset = n := by
  have ht : ((left ++ (packB n ++ right)).drop offset).take 1 = packB n := by
    rw [List.drop_left' hl, List.take_left' (length_packB n)]
  rw [unpackB, ht]
  exact LittleEndian.decode_encode 1 n (by omega)

theorem unpackH_packH (left right : Bytes) (n offset : ℕ) (hl : left.length = offset)
    (hn : n < 65536) : unpackH (left ++ (packH n ++ right)) offset = n := by
  have ht : ((left ++ (packH n ++ right)).drop offset).take 2 = packH n := by
    rw [List.drop_left' hl, List.take_left' (length_packH n)]
  rw [unpackH, ht]
  exact LittleEndian.decode_encode 2 n (by omega)

theorem unpackSigned_packSigned (left right : Bytes) (z : ℤ) (offset : ℕ)
    (hl : left.length = offset) (hlo : -32768 ≤ z) (hhi : z ≤ 32767) :
    unpackSigned (left ++ (packSigned z ++ right)) offset = z := by
  have hu : unpackH (left ++ (packSigned z ++ right)) offset = (z % 65536).toNat :=
    unpackH_packH left right _ offset hl (by omega)
  rw [unpackSigned, hu]
  split <;> omega

/-- Writing back a field that was read gives the bytes it was read from. -/
theorem packB_unpackB (data : Bytes) (offset : ℕ) (h : offset+1 ≤ data.length) :
    packB (unpackB data offset) = (data.drop offset).take 1 := by
  have hl : ((data.drop offset).take 1).length = 1 := by
    rw [List.length_take, List.length_drop]
    omega
  have he := LittleEndian.encode_decode ((data.drop offset).take 1)
  rwa [hl] at he

theorem packH_unpackH (data : Bytes) (offset : ℕ) (h : offset+2 ≤ data.length) :
    packH (unpackH data offset) = (data.drop offset).take 2 := by
  have hl : ((data.drop offset).take 2).length = 2 := by
    rw [List.length_take, List.length_drop]
    omega
  have he := LittleEndian.encode_decode ((data.drop offset).take 2)
  rwa [hl] at he

theorem unpackH_lt (data : Bytes) (offset : ℕ) : unpackH data offset < 65536 := by
  have h := LittleEndian.decode_lt ((data.drop offset).take 2)
  have hl : ((data.drop offset).take 2).length ≤ 2 := List.length_take_le 2 _
  calc
    unpackH data offset < 256^((data.drop offset).take 2).length := h
    _ ≤ 256^2 := Nat.pow_le_pow_right (by decide) hl
    _ = 65536 := by decide

theorem unpackB_eq_byteAt (data : Bytes) (offset : ℕ) :
    unpackB data offset = (byteAt data offset).toNat := by
  unfold unpackB byteAt
  rw [List.getD_eq_getElem?_getD, ← List.head?_drop]
  cases hd : data.drop offset with
  | nil => rfl
  | cons b rest => simp [LittleEndian.decode]

theorem unpackH_eq_byteAt (data : Bytes) (offset : ℕ) :
    unpackH data offset = (byteAt data offset).toNat + 256*(byteAt data (offset+1)).toNat := by
  have h1 : data[offset+1]? = (data.drop offset)[1]? := by rw [List.getElem?_drop]
  unfold unpackH byteAt
  rw [List.getD_eq_getElem?_getD, List.getD_eq_getElem?_getD, h1, ← List.head?_drop]
  rcases hd : data.drop offset with _ | ⟨a, _ | ⟨b, rest⟩⟩ <;> simp [LittleEndian.decode]

end Host

namespace Firmware

def readU16Le (data : Bytes) (offset : ℕ) : UInt16 :=
  (byteAt data offset).toUInt16 ||| ((byteAt data (offset+1)).toUInt16 <<< 8)

/-- `WriteU16Le`: the two bytes stored at `out`. -/
def writeU16Le (value : UInt16) : Bytes :=
  [(value &&& 0xFF).toUInt8, ((value >>> 8) &&& 0xFF).toUInt8]

theorem readU16Le_toNat (data : Bytes) (offset : ℕ) :
    (readU16Le data offset).toNat =
      (byteAt data offset).toNat + 256*(byteAt data (offset+1)).toNat := by
  have ha := (byteAt data offset).toNat_lt
  have hb := (byteAt data (offset+1)).toNat_lt
  have hshift : ((byteAt data (offset+1)).toNat <<< 8) % 2^16 =
      (byteAt data (offset+1)).toNat <<< 8 := by
    rw [Nat.shiftLeft_eq]
    omega
  simp only [readU16Le, UInt16.toNat_or, UInt16.toNat_shiftLeft, UInt8.toNat_toUInt16]
  rw [show (UInt16.toNat 8) % 16 = 8 from rfl, hshift, Nat.or_comm,
    ← Nat.shiftLeft_add_eq_or_of_lt (by omega : (byteAt data offset).toNat < 2^8), Nat.shiftLeft_eq]
  omega

theorem readU16Le_eq_unpackH (data : Bytes) (offset : ℕ) :
    (readU16Le data offset).toNat = Host.unpackH data offset := by
  rw [readU16Le_toNat, Host.unpackH_eq_byteAt]

theorem writeU16Le_eq_packH (value : UInt16) : writeU16Le value = Host.packH value.toNat := by
  have hlow : (value &&& 0xFF).toUInt8 = UInt8.ofNat value.toNat := by
    apply UInt8.toNat_inj.mp
    simp only [UInt16.toNat_toUInt8, UInt16.toNat_and, UInt8.toNat_ofNat']
    rw [show (UInt16.toNat 0xFF) = 2^8-1 from rfl, Nat.and_two_pow_sub_one_eq_mod]
    omega
  have hhigh : ((value >>> 8) &&& 0xFF).toUInt8 = UInt8.ofNat (value.toNat/256) := by
    apply UInt8.toNat_inj.mp
    simp only [UInt16.toNat_toUInt8, UInt16.toNat_and, UInt16.toNat_shiftRight, UInt8.toNat_ofNat']
    rw [show (UInt16.toNat 0xFF) = 2^8-1 from rfl, Nat.and_two_pow_sub_one_eq_mod,
      show (UInt16.toNat 8) % 16 = 8 from rfl, Nat.shiftRight_eq_div_pow]
    omega
  simp only [writeU16Le, hlow, hhigh, Host.packH, LittleEndian.encode]

end Firmware

end RoboticCharacter
