import Mathlib.Data.List.Forall2
import RoboticCharacter.LittleEndian
import RoboticCharacter.Fallible

/-! The little-endian integer formats of Python's `struct`, as `<` selects them: rows of
integers packed field after field, and the loops that pack and unpack records. -/
namespace PythonStruct
open Fallible

inductive Field
  | B
  | H
  | I
  | h
  deriving DecidableEq, Repr

namespace Field

def width : Field → ℕ
  | B => 1
  | H => 2
  | I => 4
  | h => 2

/-- The least value of the field; a signed field has half of its range below zero. -/
def low : Field → ℤ
  | h => -32768
  | _ => 0

def span (f : Field) : ℤ := 256^f.width

def Fits (f : Field) (value : ℤ) : Prop := f.low ≤ value ∧ value < f.low+f.span

instance (f : Field) (value : ℤ) : Decidable (f.Fits value) :=
  inferInstanceAs (Decidable (_ ∧ _))

def pack (f : Field) (value : ℤ) : List UInt8 :=
  LittleEndian.encode f.width (value % f.span).toNat

/-- The value of the field's range that the bytes denote modulo its span. -/
def unpack (f : Field) (data : List UInt8) : ℤ :=
  f.low + (LittleEndian.decode data - f.low) % f.span

@[simp]
theorem fits_B (value : ℤ) : B.Fits value ↔ 0 ≤ value ∧ value < 256 := by
  simp [Fits, low, span, width]

@[simp]
theorem fits_H (value : ℤ) : H.Fits value ↔ 0 ≤ value ∧ value < 65536 := by
  simp [Fits, low, span, width]

@[simp]
theorem fits_I (value : ℤ) : I.Fits value ↔ 0 ≤ value ∧ value < 4294967296 := by
  simp [Fits, low, span, width]

@[simp]
theorem fits_h (value : ℤ) : h.Fits value ↔ -32768 ≤ value ∧ value < 32768 := by
  simp [Fits, low, span, width]

@[simp]
theorem length_pack (f : Field) (value : ℤ) : (f.pack value).length = f.width :=
  LittleEndian.length_encode _ _

theorem pack_of_nonneg (f : Field) (value : ℤ) (h0 : 0 ≤ value) (h1 : value < f.span) :
    f.pack value = LittleEndian.encode f.width value.toNat := by
  rw [pack, Int.emod_eq_of_lt h0 h1]

theorem span_pos (f : Field) : 0 < f.span := by cases f <;> decide

theorem fits_unpack (f : Field) (data : List UInt8) : f.Fits (f.unpack data) := by
  have hs := f.span_pos
  have hlow := Int.emod_nonneg (LittleEndian.decode data - f.low) hs.ne'
  have hhigh := Int.emod_lt_of_pos (LittleEndian.decode data - f.low) hs
  unfold Fits unpack
  omega

theorem unpack_pack (f : Field) (value : ℤ) (hv : f.Fits value) :
    f.unpack (f.pack value) = value := by
  have hs := f.span_pos
  have hlow := Int.emod_nonneg value hs.ne'
  have hhigh := Int.emod_lt_of_pos value hs
  have hdec : LittleEndian.decode (f.pack value) = (value % f.span).toNat := by
    apply LittleEndian.decode_encode
    have hcast : ((256^f.width : ℕ) : ℤ) = f.span := by simp [span]
    omega
  have hmod : (value % f.span - f.low) % f.span = (value - f.low) % f.span := by
    rw [Int.sub_emod, Int.emod_emod, ← Int.sub_emod]
  have hsmall : (value - f.low) % f.span = value - f.low :=
    Int.emod_eq_of_lt (by have := hv.1; omega) (by have := hv.2; omega)
  rw [unpack, hdec, Int.toNat_of_nonneg hlow, hmod, hsmall]
  omega

theorem pack_unpack (f : Field) (data : List UInt8) (hd : data.length = f.width) :
    f.pack (f.unpack data) = data := by
  have hlt : (LittleEndian.decode data : ℤ) < f.span := by
    have hb := LittleEndian.decode_lt data
    rw [hd] at hb
    unfold span
    exact_mod_cast hb
  have hmod : (f.unpack data) % f.span = LittleEndian.decode data := by
    calc
      (f.unpack data) % f.span = (f.low + (LittleEndian.decode data - f.low)) % f.span := by
        rw [unpack, Int.add_emod, Int.emod_emod, ← Int.add_emod]
      _ = LittleEndian.decode data % f.span := by congr 1; omega
      _ = LittleEndian.decode data := Int.emod_eq_of_lt (Int.natCast_nonneg _) hlt
  have he := LittleEndian.encode_decode data
  rw [pack, hmod, Int.toNat_natCast, ← hd, he]

end Field

/-- What `struct.error` reports: a count of values, a value out of range, a buffer size. -/
inductive StructError
  | arity
  | range
  | size
  deriving DecidableEq, Repr

def size (fmt : List Field) : ℕ := (fmt.map Field.width).sum

def packRow (fmt : List Field) (row : List ℤ) : List UInt8 :=
  (List.zipWith Field.pack fmt row).flatten

def pack (fmt : List Field) (row : List ℤ) : Except StructError (List UInt8) := do
  require (row.length = fmt.length) .arity
  require (List.Forall₂ Field.Fits fmt row) .range
  return packRow fmt row

def readRow : List Field → List UInt8 → List ℤ
  | [], _ => []
  | f :: fmt, data => f.unpack (data.take f.width) :: readRow fmt (data.drop f.width)

def unpack (fmt : List Field) (data : List UInt8) : Except StructError (List ℤ) := do
  require (data.length = size fmt) .size
  return readRow fmt data

def unpackFrom (fmt : List Field) (data : List UInt8) (offset : ℕ) :
    Except StructError (List ℤ) := do
  require (offset+size fmt ≤ data.length) .size
  return readRow fmt (data.drop offset)

@[simp] theorem size_nil : size [] = 0 := rfl
@[simp] theorem size_cons (f : Field) (fmt : List Field) : size (f :: fmt) = f.width+size fmt := by
  simp [size]

@[simp]
theorem length_readRow (fmt : List Field) (data : List UInt8) :
    (readRow fmt data).length = fmt.length := by
  induction fmt generalizing data with
  | nil => rfl
  | cons f fmt ih => simp only [readRow, List.length_cons, ih]

theorem pack_eq_ok_iff (fmt : List Field) (row : List ℤ) (data : List UInt8) :
    pack fmt row = .ok data ↔ List.Forall₂ Field.Fits fmt row ∧ data = packRow fmt row := by
  simp only [pack, bind_eq_ok_iff, require_eq_ok_iff, pure_eq_ok_iff, exists_and_left,
    exists_const]
  constructor
  · intro h
    exact ⟨h.2.1, h.2.2.symm⟩
  · intro h
    exact ⟨h.1.length_eq.symm, h.1, h.2.symm⟩

theorem length_packRow (fmt : List Field) (row : List ℤ) (h : List.Forall₂ Field.Fits fmt row) :
    (packRow fmt row).length = size fmt := by
  induction h with
  | nil => rfl
  | cons hf htail ih =>
    simp only [packRow, List.zipWith_cons_cons, List.flatten_cons, List.length_append,
      Field.length_pack, size_cons] at ih ⊢
    omega

theorem readRow_packRow (fmt : List Field) (row : List ℤ) (rest : List UInt8)
    (h : List.Forall₂ Field.Fits fmt row) : readRow fmt (packRow fmt row ++ rest) = row := by
  induction h with
  | nil => rfl
  | @cons f value fmt row hf htail ih =>
    have hsplit : packRow (f :: fmt) (value :: row) ++ rest =
        f.pack value ++ (packRow fmt row ++ rest) := by
      simp only [packRow, List.zipWith_cons_cons, List.flatten_cons, List.append_assoc]
    rw [hsplit, readRow, List.take_left' (f.length_pack value),
      List.drop_left' (f.length_pack value), f.unpack_pack value hf, ih]

theorem readRow_fits (fmt : List Field) (data : List UInt8) :
    List.Forall₂ Field.Fits fmt (readRow fmt data) := by
  induction fmt generalizing data with
  | nil => exact List.Forall₂.nil
  | cons f fmt ih => exact List.Forall₂.cons (f.fits_unpack _) (ih _)

theorem packRow_readRow (fmt : List Field) (data : List UInt8) (h : size fmt ≤ data.length) :
    packRow fmt (readRow fmt data) = data.take (size fmt) := by
  induction fmt generalizing data with
  | nil => simp [packRow]
  | cons f fmt ih =>
    rw [size_cons] at h
    have hhead : (data.take f.width).length = f.width := by rw [List.length_take]; omega
    have htail := ih (data.drop f.width) (by rw [List.length_drop]; omega)
    have hstep : packRow (f :: fmt) (readRow (f :: fmt) data) =
        f.pack (f.unpack (data.take f.width)) ++ packRow fmt (readRow fmt (data.drop f.width)) := by
      simp only [packRow, readRow, List.zipWith_cons_cons, List.flatten_cons]
    rw [hstep, f.pack_unpack _ hhead, htail, size_cons, List.take_add]

/-- Unpacking and packing are the same relation between a row and a byte string. -/
theorem unpack_eq_ok_iff (fmt : List Field) (data : List UInt8) (row : List ℤ) :
    unpack fmt data = .ok row ↔ pack fmt row = .ok data := by
  rw [pack_eq_ok_iff]
  simp only [unpack, bind_eq_ok_iff, require_eq_ok_iff, pure_eq_ok_iff, exists_and_left,
    exists_const]
  constructor
  · intro h
    have hrow := packRow_readRow fmt data h.1.ge
    rw [← h.1, List.take_length] at hrow
    rw [← h.2]
    exact ⟨readRow_fits fmt data, hrow.symm⟩
  · intro h
    have hread := readRow_packRow fmt row [] h.1
    rw [List.append_nil] at hread
    rw [h.2]
    exact ⟨length_packRow fmt row h.1, hread⟩

theorem unpackFrom_eq_ok_iff (fmt : List Field) (data : List UInt8) (offset : ℕ) (row : List ℤ) :
    unpackFrom fmt data offset = .ok row ↔
      pack fmt row = .ok ((data.drop offset).take (size fmt)) ∧ offset+size fmt ≤ data.length := by
  rw [pack_eq_ok_iff]
  simp only [unpackFrom, bind_eq_ok_iff, require_eq_ok_iff, pure_eq_ok_iff, exists_and_left,
    exists_const]
  constructor
  · intro h
    have hrow := packRow_readRow fmt (data.drop offset) (by rw [List.length_drop]; omega)
    rw [← h.2]
    exact ⟨⟨readRow_fits fmt _, hrow.symm⟩, h.1⟩
  · intro h
    have hsplit := List.take_append_drop (size fmt) (data.drop offset)
    rw [h.1.2] at hsplit
    rw [← hsplit]
    exact ⟨h.2, readRow_packRow fmt row _ h.1.1⟩

theorem length_of_pack (fmt : List Field) (row : List ℤ) (data : List UInt8)
    (h : pack fmt row = .ok data) : data.length = size fmt := by
  obtain ⟨hf, hd⟩ := (pack_eq_ok_iff fmt row data).mp h
  rw [hd, length_packRow fmt row hf]

/-- A packed row is read back where it stands. -/
theorem unpackFrom_packed (fmt : List Field) (row : List ℤ) (left mid right : List UInt8)
    (offset : ℕ) (hl : left.length = offset) (h : pack fmt row = .ok mid) :
    unpackFrom fmt (left ++ (mid ++ right)) offset = .ok row := by
  have hm := length_of_pack fmt row mid h
  rw [unpackFrom_eq_ok_iff, List.drop_left' hl, List.take_left' hm]
  refine ⟨h, ?_⟩
  simp only [List.length_append]
  omega

theorem unpack_eq_ok (fmt : List Field) (data : List UInt8) (h : data.length = size fmt) :
    unpack fmt data = .ok (readRow fmt data) := by
  simp [unpack, require, h, bind, Except.bind, pure, Except.pure]

theorem unpackFrom_eq_ok (fmt : List Field) (data : List UInt8) (offset : ℕ)
    (h : offset+size fmt ≤ data.length) :
    unpackFrom fmt data offset = .ok (readRow fmt (data.drop offset)) := by
  simp [unpackFrom, require, h, bind, Except.bind, pure, Except.pure]

section Loops

variable {α ε : Type}

/-- `for item in items: payload.extend(...)`. -/
def packEach (packOne : α → Except ε (List UInt8)) : List α → Except ε (List UInt8)
  | [] => .ok []
  | a :: rest => do
    let head ← packOne a
    let tail ← packEach packOne rest
    return head ++ tail

/-- `for _ in range(count): items.append(...); offset += width`. -/
def unpackEach (unpackOne : ℕ → Except ε α) (width : ℕ) : ℕ → ℕ → Except ε (List α)
  | 0, _ => .ok []
  | count+1, offset => do
    let a ← unpackOne offset
    let rest ← unpackEach unpackOne width count (offset+width)
    return a :: rest

theorem packEach_mono (f g : α → Except ε (List UInt8))
    (hfg : ∀ a data, f a = .ok data → g a = .ok data) (items : List α) (data : List UInt8)
    (h : packEach f items = .ok data) : packEach g items = .ok data := by
  induction items generalizing data with
  | nil => exact h
  | cons a rest ih =>
    simp only [packEach, bind_eq_ok_iff, pure_eq_ok_iff] at h ⊢
    obtain ⟨head, hhead, tail, htail, heq⟩ := h
    exact ⟨head, hfg a head hhead, tail, ih tail htail, heq⟩

theorem packEach_succeeds_iff (packOne : α → Except ε (List UInt8)) (items : List α) :
    (∃ data, packEach packOne items = .ok data) ↔ ∀ a ∈ items, ∃ data, packOne a = .ok data := by
  induction items with
  | nil => exact iff_of_true ⟨[], rfl⟩ fun _ h => absurd h List.not_mem_nil
  | cons a rest ih =>
    rw [List.forall_mem_cons, ← ih]
    simp only [packEach, bind_eq_ok_iff, pure_eq_ok_iff]
    constructor
    · rintro ⟨_, head, hhead, tail, htail, _⟩
      exact ⟨⟨head, hhead⟩, tail, htail⟩
    · rintro ⟨⟨head, hhead⟩, tail, htail⟩
      exact ⟨_, head, hhead, tail, htail, rfl⟩

theorem length_packEach (packOne : α → Except ε (List UInt8)) (width : ℕ)
    (hw : ∀ a data, packOne a = .ok data → data.length = width) (items : List α)
    (data : List UInt8) (h : packEach packOne items = .ok data) :
    data.length = items.length*width := by
  induction items generalizing data with
  | nil =>
    have hnil : [] = data := Except.ok.inj h
    simp [← hnil]
  | cons a rest ih =>
    simp only [packEach, bind_eq_ok_iff, pure_eq_ok_iff] at h
    obtain ⟨head, hhead, tail, htail, heq⟩ := h
    have h1 := hw a head hhead
    have h2 := ih tail htail
    rw [← heq, List.length_append, h1, h2, List.length_cons, Nat.succ_mul]
    omega

/-- Where one record is read as it is packed, the loops read and pack the same records. -/
theorem unpackEach_eq_ok_iff (packOne : α → Except ε (List UInt8)) (unpackOne : ℕ → Except ε α)
    (width : ℕ) (data : List UInt8)
    (hw : ∀ a bytes, packOne a = .ok bytes → bytes.length = width)
    (hone : ∀ offset a, offset+width ≤ data.length →
      (unpackOne offset = .ok a ↔ packOne a = .ok ((data.drop offset).take width)))
    (count offset : ℕ) (hroom : offset+count*width ≤ data.length) (items : List α) :
    unpackEach unpackOne width count offset = .ok items ↔
      items.length = count ∧
        packEach packOne items = .ok ((data.drop offset).take (count*width)) := by
  induction count generalizing offset items with
  | zero =>
    rw [unpackEach, Nat.zero_mul, List.take_zero]
    constructor
    · intro h
      have hnil : [] = items := Except.ok.inj h
      rw [← hnil]
      exact ⟨rfl, rfl⟩
    · intro h
      rw [List.length_eq_zero_iff.mp h.1]
  | succ count ih =>
    rw [Nat.succ_mul] at hroom
    have hhead := hone offset
    have htail := ih (offset+width) (by omega)
    have hcut : (data.drop offset).take ((count+1)*width) =
        (data.drop offset).take width ++ (data.drop (offset+width)).take (count*width) := by
      rw [Nat.succ_mul, Nat.add_comm, List.take_add, List.drop_drop]
    simp only [unpackEach, bind_eq_ok_iff, pure_eq_ok_iff]
    constructor
    · rintro ⟨a, ha, rest, hrest, rfl⟩
      obtain ⟨hcount, hpack⟩ := (htail rest).mp hrest
      refine ⟨by rw [List.length_cons, hcount], ?_⟩
      simp only [packEach, bind_eq_ok_iff, pure_eq_ok_iff]
      exact ⟨_, (hhead a (by omega)).mp ha, _, hpack, hcut.symm⟩
    · intro h
      obtain ⟨hcount, hpack⟩ := h
      cases items with
      | nil => exact absurd hcount (by simp)
      | cons a rest =>
        simp only [packEach, bind_eq_ok_iff, pure_eq_ok_iff] at hpack
        obtain ⟨head, hh, tail, ht, heq⟩ := hpack
        -- the first record is exactly `width` bytes of the run
        have hcut' : head ++ tail = (data.drop offset).take width ++
            (data.drop (offset+width)).take (count*width) := heq.trans hcut
        have hlen : head.length = ((data.drop offset).take width).length := by
          rw [hw a head hh, List.length_take, List.length_drop]
          omega
        obtain ⟨h1, h2⟩ := List.append_inj hcut' hlen
        refine ⟨a, (hhead a (by omega)).mpr (h1 ▸ hh), rest, (htail rest).mpr ⟨?_, h2 ▸ ht⟩, rfl⟩
        rw [List.length_cons] at hcount
        omega

theorem raises_packEach (P : ε → Prop) (packOne : α → Except ε (List UInt8)) (items : List α)
    (hone : ∀ a ∈ items, Raises P (packOne a)) : Raises P (packEach packOne items) := by
  induction items with
  | nil => exact raises_ok P []
  | cons a rest ih =>
    obtain ⟨ha, hrest⟩ := List.forall_mem_cons.mp hone
    apply raises_bind P _ _ ha
    intro head _
    apply raises_bind P _ _ (ih hrest)
    intro tail _
    exact raises_pure P _

theorem raises_unpackEach (P : ε → Prop) (unpackOne : ℕ → Except ε α) (width bound : ℕ)
    (hone : ∀ offset, offset+width ≤ bound → Raises P (unpackOne offset))
    (count offset : ℕ) (hroom : offset+count*width ≤ bound) :
    Raises P (unpackEach unpackOne width count offset) := by
  induction count generalizing offset with
  | zero => exact raises_ok P []
  | succ count ih =>
    rw [Nat.succ_mul] at hroom
    apply raises_bind P _ _ (hone offset (by omega))
    intro a _
    apply raises_bind P _ _ (ih (offset+width) (by omega))
    intro rest _
    exact raises_pure P _

end Loops

end PythonStruct
