import RoboticCharacter.CyclicRedundancy
import RoboticCharacter.FirmwareFrame

/-! What an error in two consecutive bytes of an encoded frame does to the frame check of the
host and of the firmware. -/
namespace RoboticCharacter
open CyclicRedundancy

/-- The polynomial of CRC-16/CCITT-FALSE. -/
def crcPolynomial : BitVec 16 := 0x1021

theorem crcPolynomial_odd : crcPolynomial.getLsbD 0 = true := by decide

/-- A byte as the register sees it, in the upper half. -/
def crcSymbol (byte : UInt8) : BitVec 16 := (byte.toUInt16 <<< 8).toBitVec

theorem crcSymbol_xor (a b : UInt8) : crcSymbol (a ^^^ b) = crcSymbol a ^^^ crcSymbol b := by
  unfold crcSymbol
  rw [UInt8.toUInt16_xor, UInt16.toBitVec_shiftLeft, UInt16.toBitVec_shiftLeft,
    UInt16.toBitVec_shiftLeft, UInt16.toBitVec_xor]
  exact BitVec.shiftLeft_xor_distrib _ _ _

namespace Firmware

/-- The firmware's shift is the register's. -/
theorem crcShift_toBitVec (crc : UInt16) :
    (crcShift crc).toBitVec = shift crcPolynomial crc.toBitVec := by
  have hmask : crc &&& 0x8000 ≠ 0 ↔ crc.toBitVec.msb = true := by
    rw [BitVec.msb_eq_decide, decide_eq_true_eq, ne_eq, ← UInt16.toNat_inj, UInt16.toNat_and]
    change ¬ crc.toNat &&& 2^15 = 0 ↔ 2^15 ≤ crc.toNat
    have hlt : crc.toNat < 2^16 := crc.toNat_lt
    rw [Nat.and_two_pow]
    obtain hbit | hbit : crc.toNat.testBit 15 = true ∨ crc.toNat.testBit 15 = false := by
      cases crc.toNat.testBit 15
      · exact Or.inr rfl
      · exact Or.inl rfl
    · rw [hbit]
      exact iff_of_true (by decide) (Nat.ge_two_pow_of_testBit hbit)
    · rw [hbit]
      refine iff_of_false (by decide) ?_
      rw [Nat.testBit_eq_decide_div_mod_eq] at hbit
      have := of_decide_eq_false hbit
      omega
  unfold crcShift shift
  split_ifs with h hmsb hmsb
  · rfl
  · exact absurd (hmask.mp h) hmsb
  · exact absurd (hmask.mpr hmsb) h
  · rfl

theorem crcByte_toBitVec (crc : UInt16) (byte : UInt8) :
    (crcByte crc byte).toBitVec = feed crcPolynomial 8 crc.toBitVec (crcSymbol byte) := by
  have hrepeat (count : ℕ) (register : UInt16) : (Nat.repeat crcShift count register).toBitVec =
      shifts crcPolynomial count register.toBitVec := by
    induction count with
    | zero => rfl
    | succ count ih =>
      change (crcShift (Nat.repeat crcShift count register)).toBitVec = _
      rw [crcShift_toBitVec, ih]
      rfl
  rw [crcByte, hrepeat, UInt16.toBitVec_xor]
  rfl

theorem crc16CcittFalse_toBitVec (data : Bytes) :
    (crc16CcittFalse data).toBitVec = run crcPolynomial 8 0xFFFF (data.map crcSymbol) := by
  have hfold (register : UInt16) : (data.foldl crcByte register).toBitVec =
      run crcPolynomial 8 register.toBitVec (data.map crcSymbol) := by
    induction data generalizing register with
    | nil => rfl
    | cons byte rest ih =>
      rw [List.foldl_cons, ih, crcByte_toBitVec]
      rfl
  exact hfold 0xFFFF

end Firmware

/-- What an error in one byte of the message does to the register eight shifts later. -/
def crcError (error : UInt8) : BitVec 16 := shifts crcPolynomial 8 (crcSymbol error)

/-- No error in one byte leaves the lower half of the register as it was, and one leaves the
upper half. -/
theorem crcError_table : ((List.range 256).all fun n =>
    (n = 0 || (crcError (UInt8.ofNat n)).toNat % 256 != 0) &&
      (n = 0 || n = 0x89 || 256 ≤ (crcError (UInt8.ofNat n)).toNat)) = true := by
  decide +kernel

theorem crcError_table_at (error : UInt8) :
    (error ≠ 0 → (crcError error).toNat % 256 ≠ 0) ∧
      (error ≠ 0 → error ≠ 0x89 → 256 ≤ (crcError error).toNat) := by
  have hrow := List.all_eq_true.mp crcError_table error.toNat
    (List.mem_range.mpr error.toNat_lt)
  have hzero : error.toNat = 0 ↔ error = 0 := UInt8.toNat_inj (b := 0)
  have hslip : error.toNat = 0x89 ↔ error = 0x89 := UInt8.toNat_inj (b := 0x89)
  simp only [UInt8.ofNat_toNat, Bool.and_eq_true, Bool.or_eq_true, decide_eq_true_eq, bne_iff_ne,
    hzero, hslip] at hrow
  refine ⟨fun hne => hrow.1.resolve_left hne, ?_⟩
  intro hne hne'
  obtain (h | h) | h := hrow.2
  · exact absurd h hne
  · exact absurd h hne'
  · exact h

theorem crcSymbol_toNat (byte : UInt8) : (crcSymbol byte).toNat = 256*byte.toNat := by
  have hb := byte.toNat_lt
  change (byte.toUInt16 <<< 8).toNat = _
  rw [UInt16.toNat_shiftLeft, UInt8.toNat_toUInt16, show (UInt16.toNat 8) % 16 = 8 from rfl,
    Nat.shiftLeft_eq]
  omega

/-- A byte's error in the register is undone by the next byte only if both are zero. -/
theorem crcError_eq_symbol {errorX errorY : UInt8} (h : crcError errorX = crcSymbol errorY) :
    errorX = 0 ∧ errorY = 0 := by
  have hlow : (crcError errorX).toNat % 256 = 0 := by
    rw [h, crcSymbol_toNat, Nat.mul_mod_right]
  have hx : errorX = 0 := by
    by_contra hne
    exact (crcError_table_at errorX).1 hne hlow
  refine ⟨hx, UInt8.toNat_inj.mp ?_⟩
  have hsymbol := crcSymbol_toNat errorY
  have hnothing : (crcError 0).toNat = 0 := by decide
  rw [← h, hx, hnothing] at hsymbol
  change errorY.toNat = 0
  omega

/-- A byte's error in the register stays in the lower half only for one value of the error. -/
theorem crcError_lt {error : UInt8} (h : (crcError error).toNat < 256) :
    error = 0 ∨ error = 0x89 := by
  by_contra hne
  rw [not_or] at hne
  exact absurd ((crcError_table_at error).2 hne.1 hne.2) (not_le.mpr h)

namespace Host

theorem crc_eq_iff (left right : Bytes) : crc16CcittFalse left = crc16CcittFalse right ↔
    run crcPolynomial 8 0xFFFF (left.map crcSymbol) =
      run crcPolynomial 8 0xFFFF (right.map crcSymbol) := by
  rw [← Firmware.crc16CcittFalse_toNat, ← Firmware.crc16CcittFalse_toNat, UInt16.toNat_inj,
    ← UInt16.toBitVec_inj, Firmware.crc16CcittFalse_toBitVec, Firmware.crc16CcittFalse_toBitVec]

/-- The checksum sees every error in two consecutive bytes of its message. -/
theorem crc_burst (before after : Bytes) (x y errorX errorY : UInt8)
    (h : crc16CcittFalse (before ++ (x ^^^ errorX) :: (y ^^^ errorY) :: after) =
      crc16CcittFalse (before ++ x :: y :: after)) : errorX = 0 ∧ errorY = 0 := by
  rw [crc_eq_iff, List.map_append, List.map_append, List.map_cons, List.map_cons, List.map_cons,
    List.map_cons, crcSymbol_xor, crcSymbol_xor, run_burst_iff crcPolynomial_odd] at h
  exact crcError_eq_symbol h

theorem crc_last_xor (before : Bytes) (x error : UInt8) :
    crc16CcittFalse (before ++ [x ^^^ error]) =
      crc16CcittFalse (before ++ [x]) ^^^ (crcError error).toNat := by
  have hregister (data : Bytes) : crc16CcittFalse data =
      (run crcPolynomial 8 0xFFFF (data.map crcSymbol)).toNat := by
    rw [← Firmware.crc16CcittFalse_toBitVec, ← Firmware.crc16CcittFalse_toNat]
    rfl
  rw [hregister, hregister, List.map_append, List.map_append, List.map_singleton,
    List.map_singleton, crcSymbol_xor, run_last_xor, BitVec.toNat_xor]
  rfl

theorem packH_inj {a b : ℕ} (ha : a < 65536) (hb : b < 65536) (h : packH a = packH b) : a = b := by
  have hread := congrArg LittleEndian.decode h
  rwa [packH, packH, LittleEndian.decode_encode 2 a (by omega),
    LittleEndian.decode_encode 2 b (by omega)] at hread

theorem packH_eq (n : ℕ) : packH n = [UInt8.ofNat n, UInt8.ofNat (n/256)] := rfl

/-- The lower of two packed bytes differs by an error exactly when the number does. -/
theorem packH_xor_low {a b : ℕ} (ha : a < 65536) (hb : b < 65536) (error : UInt8) :
    packH b = [UInt8.ofNat a ^^^ error, UInt8.ofNat (a/256)] ↔ b = a ^^^ error.toNat := by
  have he := error.toNat_lt
  have hsplit (n : ℕ) : n ^^^ error.toNat = 256*(n/256) + (n%256 ^^^ error.toNat) := by
    have hlow : (n ^^^ error.toNat) % 256 = n%256 ^^^ error.toNat := by
      have hmod := Nat.xor_mod_two_pow (a := n) (b := error.toNat) (n := 8)
      rwa [Nat.mod_eq_of_lt (by omega : error.toNat < 2^8)] at hmod
    have hhigh : (n ^^^ error.toNat) / 256 = n/256 := by
      have hdiv := Nat.xor_div_two_pow (a := n) (b := error.toNat) (n := 8)
      rwa [Nat.div_eq_of_lt (by omega : error.toNat < 2^8), Nat.xor_zero] at hdiv
    have := Nat.div_add_mod (n ^^^ error.toNat) 256
    omega
  have hlt : a%256 ^^^ error.toNat < 256 :=
    Nat.xor_lt_two_pow (n := 8) (by omega) (by omega)
  have hlow : UInt8.ofNat a ^^^ error = UInt8.ofNat (a ^^^ error.toNat) := by
    rw [UInt8.ofNat_xor, UInt8.ofNat_toNat]
  have hhigh : a/256 = (a ^^^ error.toNat)/256 := by
    have := hsplit a
    omega
  rw [hlow, hhigh, ← packH_eq]
  constructor
  · apply packH_inj hb
    have := hsplit a
    omega
  · rintro rfl
    rfl

end Host

/-- The bytes with an error added at a place and at the next one. -/
def corruptAt (data : Bytes) (place : ℕ) (error next : UInt8) : Bytes :=
  (data.modify place (· ^^^ error)).modify (place+1) (· ^^^ next)

theorem corruptAt_split (before after : Bytes) (x y error next : UInt8) :
    corruptAt (before ++ x :: y :: after) before.length error next =
      before ++ (x ^^^ error) :: (y ^^^ next) :: after := by
  induction before with
  | nil => rfl
  | cons b before ih =>
    exact congrArg (b :: ·) ih

/-- Two bytes in a row split a string at their place. -/
theorem exists_split {data : Bytes} {place : ℕ} (h : place+1 < data.length) :
    ∃ before x y after, data = before ++ x :: y :: after ∧ before.length = place := by
  refine ⟨data.take place, data[place], data[place+1], data.drop (place+2), ?_, ?_⟩
  · rw [List.getElem_cons_drop, List.getElem_cons_drop, List.take_append_drop]
  · rw [List.length_take]
    omega

theorem length_corruptAt (data : Bytes) (place : ℕ) (error next : UInt8) :
    (corruptAt data place error next).length = data.length := by
  rw [corruptAt, List.length_modify, List.length_modify]

theorem xor_eq_self_iff (b error : UInt8) : b ^^^ error = b ↔ error = 0 := by
  constructor
  · intro h
    rw [← UInt8.zero_xor (a := error), ← UInt8.xor_self (a := b), UInt8.xor_assoc, h]
  · rintro rfl
    exact UInt8.xor_zero

theorem byteAt_append (before after : Bytes) (b : UInt8) :
    byteAt (before ++ b :: after) before.length = b := by
  rw [byteAt, List.getD_append_right _ _ _ _ le_rfl, Nat.sub_self]
  rfl

namespace Frame
open Host

/-- The one burst that both checks let through: it takes the last payload byte and the lower
byte of the checksum, which is sent first. -/
structure Slips (f : Frame) (place : ℕ) (error next : UInt8) : Prop where
  payload_pos : 0 < f.payload.length
  place_eq : place+1 = headerSize+f.payload.length
  error_eq : error = 0x89
  next_eq : next = 0xA1

/-- The header's last byte is the upper half of the payload's length. -/
theorem last_header_byte {f : Frame} (hempty : f.payload.length = 0) {before : Bytes} {x : UInt8}
    (hbody : f.body = before ++ [x]) (hlength : before.length = 7) : x = 0 := by
  have hfields := f.header_fields f.payload
  have hlast : byteAt f.body 7 = x := by
    rw [hbody, ← hlength]
    exact byteAt_append before [] x
  have hread : unpackH f.body 6 = f.payload.length := hfields.length_eq
  rw [unpackH_eq_byteAt, hlast, hempty] at hread
  apply UInt8.toNat_inj.mp
  change x.toNat = 0
  omega

theorem eq_zero_of_within_body {f g : Frame} {place : ℕ} {error next : UInt8}
    (h : corruptAt f.encode place error next = g.encode)
    (hsize : g.payload.length = f.payload.length)
    (hplace : place+1 < f.body.length) : error = 0 ∧ next = 0 := by
  obtain ⟨before, x, y, after, hbody, rfl⟩ := exists_split hplace
  have hcorrupt : corruptAt f.encode before.length error next =
      before ++ (x ^^^ error) :: (y ^^^ next) :: after ++ packH (crc16CcittFalse f.body) := by
    rw [encode, hbody, List.append_assoc, List.cons_append, List.cons_append, corruptAt_split,
      List.append_assoc, List.cons_append, List.cons_append]
  rw [hcorrupt, encode] at h
  have hlength : (before ++ (x ^^^ error) :: (y ^^^ next) :: after).length = g.body.length := by
    have hlengths := congrArg List.length hbody
    rw [length_body] at hlengths
    rw [length_body, hsize, hlengths]
    simp only [List.length_append, List.length_cons]
  obtain ⟨hbodies, hcrcs⟩ := List.append_inj h hlength
  have hcrc := packH_inj (crc16CcittFalse_lt _) (crc16CcittFalse_lt _) hcrcs
  rw [← hbodies, hbody] at hcrc
  exact crc_burst before after x y error next hcrc.symm

theorem slips_of_boundary {f g : Frame} {place : ℕ} {error next : UInt8}
    (h : corruptAt f.encode place error next = g.encode)
    (hsize : g.payload.length = f.payload.length) (hne : ¬ (error = 0 ∧ next = 0))
    (hplace : place+1 = f.body.length) : f.Slips place error next := by
  have hbody : ∃ before x, f.body = before ++ [x] ∧ before.length = place := by
    refine ⟨f.body.take place, f.body[place], ?_, ?_⟩
    · rw [List.take_append_getElem, hplace, List.take_length]
    · rw [List.length_take]
      omega
  obtain ⟨before, x, hbody, rfl⟩ := hbody
  -- the last byte of the body is changed and the first of the checksum
  have hcorrupt : corruptAt f.encode before.length error next =
      (before ++ [x ^^^ error]) ++ [UInt8.ofNat (crc16CcittFalse f.body) ^^^ next,
        UInt8.ofNat (crc16CcittFalse f.body/256)] := by
    rw [encode, packH_eq]
    generalize crc16CcittFalse f.body = crc
    rw [hbody, List.append_assoc, List.singleton_append, corruptAt_split, List.append_assoc,
      List.singleton_append]
  rw [hcorrupt, encode] at h
  have hlength : (before ++ [x ^^^ error]).length = g.body.length := by
    rw [length_body, hsize, ← length_body, hbody, List.length_append, List.length_append]
    rfl
  obtain ⟨hbodies, hcrcs⟩ := List.append_inj h hlength
  rw [eq_comm, packH_xor_low (crc16CcittFalse_lt _) (crc16CcittFalse_lt _), ← hbodies,
    crc_last_xor, hbody, Nat.xor_right_inj] at hcrcs
  have hnext := next.toNat_lt
  obtain rfl | rfl := crcError_lt (by omega : (crcError error).toNat < 256)
  · -- without an error in the message the checksum's error is seen
    have hzero : (crcError 0).toNat = 0 := by decide
    rw [hzero] at hcrcs
    exact absurd ⟨rfl, UInt8.toNat_inj.mp hcrcs.symm⟩ hne
  · have hslip : (crcError 0x89).toNat = 0xA1 := by decide
    rw [hslip] at hcrcs
    refine ⟨?_, ?_, rfl, UInt8.toNat_inj.mp hcrcs.symm⟩
    · rw [Nat.pos_iff_ne_zero]
      intro hempty
      have hseven : before.length = 7 := by
        rw [length_body, hempty, headerSize] at hplace
        omega
      have hx := last_header_byte hempty hbody hseven
      have hx' := last_header_byte (hsize.trans hempty) hbodies.symm hseven
      rw [hx] at hx'
      exact absurd hx' (by decide)
    · rw [hplace, length_body]

theorem eq_zero_of_within_crc {f g : Frame} {error next : UInt8}
    (h : corruptAt f.encode f.body.length error next = g.encode)
    (hsize : g.payload.length = f.payload.length) : error = 0 ∧ next = 0 := by
  have hcorrupt : corruptAt f.encode f.body.length error next =
      f.body ++ [UInt8.ofNat (crc16CcittFalse f.body) ^^^ error,
        UInt8.ofNat (crc16CcittFalse f.body/256) ^^^ next] := by
    rw [encode, packH_eq, corruptAt_split]
  rw [hcorrupt, encode] at h
  have hlength : f.body.length = g.body.length := by rw [length_body, length_body, hsize]
  obtain ⟨hbodies, hcrcs⟩ := List.append_inj h hlength
  rw [← hbodies, packH_eq, List.cons.injEq, List.cons.injEq, xor_eq_self_iff,
    xor_eq_self_iff] at hcrcs
  exact ⟨hcrcs.1, hcrcs.2.1⟩

theorem slips_of_encode {f g : Frame} {place : ℕ} {error next : UInt8}
    (hplace : place+1 < f.encode.length) (hne : ¬ (error = 0 ∧ next = 0))
    (h : corruptAt f.encode place error next = g.encode) : f.Slips place error next := by
  have hsize : g.payload.length = f.payload.length := by
    have hlengths := congrArg List.length h
    rw [length_corruptAt, length_encode, length_encode] at hlengths
    omega
  have hlength := f.length_body
  rw [f.length_encode, crcSize] at hplace
  obtain hinside | hboundary | hcrc :
      place+1 < f.body.length ∨ place+1 = f.body.length ∨ place = f.body.length := by omega
  · exact absurd (eq_zero_of_within_body h hsize hinside) hne
  · exact slips_of_boundary h hsize hne hboundary
  · subst hcrc
    exact absurd (eq_zero_of_within_crc h hsize) hne

/-- The burst that slips through turns the encoding into another frame's. -/
theorem encode_of_slips {f : Frame} {place : ℕ} {error next : UInt8}
    (h : f.Slips place error next) :
    ∃ g : Frame, corruptAt f.encode place error next = g.encode := by
  obtain ⟨hpos, hplace, rfl, rfl⟩ := h
  obtain ⟨start, x, hpayload⟩ : ∃ start x, f.payload = start ++ [x] := by
    obtain hnil | ⟨start, x, heq⟩ := List.eq_nil_or_concat f.payload
    · rw [hnil] at hpos
      exact absurd hpos (by decide)
    · exact ⟨start, x, by rw [heq, List.concat_eq_append]⟩
  have hlength : (start ++ [x ^^^ 0x89]).length = f.payload.length := by
    rw [hpayload, List.length_append, List.length_append]
    rfl
  -- the frame with the last payload byte changed; its checksum differs by 0xA1
  let g : Frame := ⟨f.messageType, f.sequence, start ++ [x ^^^ 0x89], f.sequence_fits,
    hlength ▸ f.payload_fits⟩
  have hheader : g.header = f.header := by
    unfold header
    rw [show g.payload.length = f.payload.length from hlength]
  have hbody : f.body = (f.header ++ start) ++ [x] := by
    rw [body, hpayload, List.append_assoc]
  have hbody' : g.body = (f.header ++ start) ++ [x ^^^ 0x89] := by
    rw [body, hheader, List.append_assoc]
  have hcrc : crc16CcittFalse g.body = crc16CcittFalse f.body ^^^ (0xA1 : UInt8).toNat := by
    have hslip : (crcError 0x89).toNat = 0xA1 := by decide
    rw [hbody', crc_last_xor, ← hbody, hslip]
    rfl
  have hplace' : place = (f.header ++ start).length := by
    rw [List.length_append, length_header]
    rw [hpayload, List.length_append] at hplace
    have hone : [x].length = 1 := rfl
    omega
  refine ⟨g, ?_⟩
  have hpacked := (packH_xor_low (crc16CcittFalse_lt f.body) (crc16CcittFalse_lt g.body)
    0xA1).mpr hcrc
  rw [encode, encode, hpacked, packH_eq, hplace']
  generalize crc16CcittFalse f.body = crc
  rw [hbody, hbody', List.append_assoc, List.singleton_append, corruptAt_split,
    List.append_assoc (f.header ++ start), List.singleton_append]

/-- A burst in an encoded frame is refused by both checks, but for the one that slips
through, which both accept. -/
theorem burst_accepted_iff (f : Frame) (place : ℕ) (error next : UInt8)
    (hplace : place+1 < f.encode.length) (hne : ¬ (error = 0 ∧ next = 0)) :
    ((∃ g, decode (corruptAt f.encode place error next) = .ok g) ↔ f.Slips place error next) ∧
      ((∃ p, Firmware.parseFrame (corruptAt f.encode place error next) = some p) ↔
        f.Slips place error next) := by
  have hslips : (∃ g : Frame, corruptAt f.encode place error next = g.encode) ↔
      f.Slips place error next := by
    constructor
    · rintro ⟨g, hg⟩
      exact slips_of_encode hplace hne hg
    · exact encode_of_slips
  constructor
  · simpa only [decode_eq_ok_iff] using hslips
  · rw [← hslips]
    simp only [Firmware.parseFrame_eq_some_iff]
    constructor
    · rintro ⟨_, g, hg, -⟩
      exact ⟨g, hg⟩
    · rintro ⟨g, hg⟩
      exact ⟨_, g, hg, rfl⟩

/-- A heartbeat frame of one payload byte. -/
def oneByteFrame : Frame :=
  ⟨.heartbeat, 7, [0], by decide, by decide⟩

theorem burst_refused_oneByte :
    (¬ ∃ g, decode (corruptAt oneByteFrame.encode 8 0x89 0xA0) = .ok g) ∧
      ¬ ∃ p, Firmware.parseFrame (corruptAt oneByteFrame.encode 8 0x89 0xA0) = some p := by
  have hiff := burst_accepted_iff oneByteFrame 8 0x89 0xA0 (by decide) (by decide)
  rw [hiff.1, hiff.2, and_self]
  intro h
  exact absurd h.next_eq (by decide)

/-- The error 0x89 in the payload byte and 0xA1 in the byte after it pass both checks. -/
theorem burst_undetected : ¬ ∀ (f : Frame) (place : ℕ) (error next : UInt8),
    place+1 < f.encode.length → ¬ (error = 0 ∧ next = 0) →
    (∀ g, decode (corruptAt f.encode place error next) ≠ .ok g) ∧
      Firmware.parseFrame (corruptAt f.encode place error next) = none := by
  intro h
  have hslips : oneByteFrame.Slips 8 0x89 0xA1 := ⟨by decide, by decide, rfl, rfl⟩
  obtain ⟨g, hg⟩ := encode_of_slips hslips
  have hrefused := (h oneByteFrame 8 0x89 0xA1 (by decide) (by decide)).1 g
  exact hrefused ((decode_eq_ok_iff _ g).mpr hg)

end Frame

end RoboticCharacter
