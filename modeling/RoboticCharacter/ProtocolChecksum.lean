import RoboticCharacter.ProtocolBytes

/-! CRC-16/CCITT-FALSE as the host computes it on integers and as the firmware
computes it on a 16-bit register. -/
namespace RoboticCharacter

namespace Host

/-- One of the eight shifts of a byte. -/
def crcShift (crc : ℕ) : ℕ :=
  if crc &&& 0x8000 ≠ 0 then ((crc <<< 1) ^^^ 0x1021) &&& 0xFFFF else (crc <<< 1) &&& 0xFFFF

def crcByte (crc : ℕ) (byte : UInt8) : ℕ := Nat.repeat crcShift 8 (crc ^^^ (byte.toNat <<< 8))

def crc16CcittFalse (data : Bytes) : ℕ := data.foldl crcByte 0xFFFF

end Host

namespace Firmware

def crcShift (crc : UInt16) : UInt16 :=
  if crc &&& 0x8000 ≠ 0 then (crc <<< 1) ^^^ 0x1021 else crc <<< 1

def crcByte (crc : UInt16) (byte : UInt8) : UInt16 :=
  Nat.repeat crcShift 8 (crc ^^^ (byte.toUInt16 <<< 8))

def crc16CcittFalse (data : Bytes) : UInt16 := data.foldl crcByte 0xFFFF

theorem crcShift_toNat (crc : UInt16) : (crcShift crc).toNat = Host.crcShift crc.toNat := by
  have hmask : (0xFFFF : ℕ) = 2^16-1 := rfl
  have htest : crc &&& 0x8000 ≠ 0 ↔ crc.toNat &&& 0x8000 ≠ 0 := by
    rw [ne_eq, ← UInt16.toNat_inj, UInt16.toNat_and]
    rfl
  have hshift : (crc <<< 1).toNat = (crc.toNat <<< 1) % 2^16 := by
    rw [UInt16.toNat_shiftLeft]
    rfl
  unfold crcShift Host.crcShift
  by_cases h : crc &&& 0x8000 ≠ 0
  · rw [if_pos h, if_pos (htest.mp h), UInt16.toNat_xor, hshift, hmask,
      Nat.and_two_pow_sub_one_eq_mod, Nat.xor_mod_two_pow]
    rfl
  · rw [if_neg h, if_neg (fun h' => h (htest.mpr h')), hshift, hmask,
      Nat.and_two_pow_sub_one_eq_mod]

theorem crcShift_repeat_toNat (n : ℕ) (crc : UInt16) :
    (Nat.repeat crcShift n crc).toNat = Nat.repeat Host.crcShift n crc.toNat := by
  induction n with
  | zero => rfl
  | succ n ih => simp only [Nat.repeat, crcShift_toNat, ih]

theorem crcByte_toNat (crc : UInt16) (byte : UInt8) :
    (crcByte crc byte).toNat = Host.crcByte crc.toNat byte := by
  have hb := byte.toNat_lt
  have hshift : (byte.toUInt16 <<< 8).toNat = byte.toNat <<< 8 := by
    rw [UInt16.toNat_shiftLeft, UInt8.toNat_toUInt16, show (UInt16.toNat 8) % 16 = 8 from rfl,
      Nat.shiftLeft_eq]
    omega
  rw [crcByte, Host.crcByte, crcShift_repeat_toNat, UInt16.toNat_xor, hshift]

/-- The two sides compute the same checksum of every byte string. -/
theorem crc16CcittFalse_toNat (data : Bytes) :
    (crc16CcittFalse data).toNat = Host.crc16CcittFalse data := by
  have hfold (crc : UInt16) :
      (data.foldl crcByte crc).toNat = data.foldl Host.crcByte crc.toNat := by
    induction data generalizing crc with
    | nil => rfl
    | cons b data ih => simp only [List.foldl_cons, ih, crcByte_toNat]
  exact hfold 0xFFFF

end Firmware

theorem Host.crc16CcittFalse_lt (data : Bytes) : Host.crc16CcittFalse data < 65536 := by
  rw [← Firmware.crc16CcittFalse_toNat]
  exact UInt16.toNat_lt _

example : Host.crc16CcittFalse [0x31,0x32,0x33,0x34,0x35,0x36,0x37,0x38,0x39] = 0x29B1 := by
  decide +kernel

end RoboticCharacter
