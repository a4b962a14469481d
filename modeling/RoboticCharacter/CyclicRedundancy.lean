import Mathlib.Logic.Function.Basic
import Mathlib.Data.Nat.Notation
import Mathlib.Tactic.ByContra
import Mathlib.Tactic.SplitIfs

/-! The shift register of a cyclic redundancy check, over any width and polynomial: it is
linear in exclusive or, and one to one when the polynomial has a constant term. -/
namespace CyclicRedundancy

variable {w : ℕ} (poly : BitVec w)

/-- One shift of the register, reduced by the polynomial when a one falls out. -/
def shift (register : BitVec w) : BitVec w :=
  if register.msb then register <<< 1 ^^^ poly else register <<< 1

def shifts (count : ℕ) (register : BitVec w) : BitVec w := Nat.repeat (shift poly) count register

/-- The register after one more symbol of `count` bits. -/
def feed (count : ℕ) (register symbol : BitVec w) : BitVec w :=
  shifts poly count (register ^^^ symbol)

def run (count : ℕ) (register : BitVec w) (symbols : List (BitVec w)) : BitVec w :=
  symbols.foldl (feed poly count) register

theorem xor_xor_self_right (a b : BitVec w) : a ^^^ b ^^^ b = a := by
  rw [BitVec.xor_assoc, BitVec.xor_self, BitVec.xor_zero]

theorem shift_xor (a b : BitVec w) : shift poly (a ^^^ b) = shift poly a ^^^ shift poly b := by
  have hcancel : a <<< 1 ^^^ poly ^^^ (b <<< 1 ^^^ poly) = a <<< 1 ^^^ b <<< 1 := by
    rw [← BitVec.xor_assoc, BitVec.xor_assoc (a <<< 1) poly, BitVec.xor_comm poly,
      ← BitVec.xor_assoc, xor_xor_self_right]
  have hright : a <<< 1 ^^^ poly ^^^ b <<< 1 = a <<< 1 ^^^ b <<< 1 ^^^ poly := by
    rw [BitVec.xor_assoc, BitVec.xor_comm poly, ← BitVec.xor_assoc]
  unfold shift
  rw [BitVec.msb_xor, BitVec.shiftLeft_xor_distrib]
  -- a one falls out of the sum when it falls out of exactly one of the two
  cases ha : a.msb <;> cases hb : b.msb
  · rfl
  · exact BitVec.xor_assoc _ _ _
  · exact hright.symm
  · exact hcancel.symm

theorem shifts_xor (count : ℕ) (a b : BitVec w) :
    shifts poly count (a ^^^ b) = shifts poly count a ^^^ shifts poly count b := by
  induction count with
  | zero => rfl
  | succ count ih =>
    have hstep (r : BitVec w) : shifts poly (count+1) r = shift poly (shifts poly count r) := rfl
    rw [hstep, hstep, hstep, ih, shift_xor]

theorem feed_xor_symbol (count : ℕ) (register symbol error : BitVec w) :
    feed poly count register (symbol ^^^ error) =
      feed poly count register symbol ^^^ shifts poly count error := by
  rw [feed, feed, ← shifts_xor, BitVec.xor_assoc]

theorem feed_xor_register (count : ℕ) (register error symbol : BitVec w) :
    feed poly count (register ^^^ error) symbol =
      feed poly count register symbol ^^^ shifts poly count error := by
  rw [feed, feed, ← shifts_xor, BitVec.xor_assoc, BitVec.xor_comm error, ← BitVec.xor_assoc]

section Injective
variable {poly}

/-- What was shifted in tells whether a one fell out, so nothing is lost. -/
theorem shift_eq_zero (hodd : poly.getLsbD 0 = true) {register : BitVec w}
    (h : shift poly register = 0#w) : register = 0#w := by
  have hwidth : 0 < w := by
    by_contra hzero
    rw [BitVec.getLsbD_of_ge poly 0 (by omega)] at hodd
    cases hodd
  unfold shift at h
  split_ifs at h with hmsb
  · have hlow := congrArg (fun r : BitVec w => r.getLsbD 0) h
    simp only [BitVec.getLsbD_xor, BitVec.getLsbD_shiftLeft, hodd, BitVec.getLsbD_zero] at hlow
    simp at hlow
  · apply BitVec.eq_of_getLsbD_eq
    intro i hi
    rw [BitVec.getLsbD_zero]
    obtain hlast | hearlier := Nat.lt_or_eq_of_le (Nat.le_sub_one_of_lt hi)
    · have hbit := congrArg (fun r : BitVec w => r.getLsbD (i+1)) h
      simpa [BitVec.getLsbD_shiftLeft, show i+1 < w by omega, hi] using hbit
    · rw [hearlier, ← BitVec.msb_eq_getLsbD_last]
      exact (Bool.not_eq_true _).mp hmsb

theorem shifts_eq_zero (hodd : poly.getLsbD 0 = true) (count : ℕ) {register : BitVec w}
    (h : shifts poly count register = 0#w) : register = 0#w := by
  induction count with
  | zero => exact h
  | succ count ih => exact ih (shift_eq_zero hodd h)

theorem feed_injective (hodd : poly.getLsbD 0 = true) (count : ℕ) (symbol : BitVec w) :
    Function.Injective fun register => feed poly count register symbol := by
  intro a b hab
  have hzero : shifts poly count (a ^^^ b) = 0#w := by
    rw [shifts_xor]
    have hfed : shifts poly count (a ^^^ symbol) = shifts poly count (b ^^^ symbol) := hab
    rw [shifts_xor, shifts_xor, BitVec.xor_left_inj] at hfed
    rw [hfed, BitVec.xor_self]
  exact BitVec.xor_eq_zero_iff.mp (shifts_eq_zero hodd count hzero)

/-- Two registers that differ never meet again under the same symbols. -/
theorem run_injective (hodd : poly.getLsbD 0 = true) (count : ℕ) (symbols : List (BitVec w)) :
    Function.Injective fun register => run poly count register symbols := by
  induction symbols with
  | nil => exact fun _ _ hab => hab
  | cons symbol rest ih => exact ih.comp (feed_injective hodd count symbol)

/-- An error in two symbols in a row stays unseen only if the second undoes the first. -/
theorem run_burst_iff (hodd : poly.getLsbD 0 = true) (count : ℕ) (register : BitVec w)
    (before after : List (BitVec w)) (x y errorX errorY : BitVec w) :
    run poly count register (before ++ (x ^^^ errorX) :: (y ^^^ errorY) :: after) =
        run poly count register (before ++ x :: y :: after) ↔
      shifts poly count errorX = errorY := by
  let reached := run poly count register before
  have hsplit (u v : BitVec w) : run poly count register (before ++ u :: v :: after) =
      run poly count (feed poly count (feed poly count reached u) v) after := by
    rw [run, List.foldl_append, List.foldl_cons, List.foldl_cons]
    rfl
  rw [hsplit, hsplit, (run_injective hodd count after).eq_iff,
    feed_xor_symbol poly count reached x errorX, feed_xor_symbol, feed_xor_register,
    BitVec.xor_assoc, ← shifts_xor]
  constructor
  · intro h
    have hzero : shifts poly count (shifts poly count errorX ^^^ errorY) = 0#w := by
      rw [← BitVec.xor_right_inj (feed poly count (feed poly count reached x) y), BitVec.xor_zero]
      exact h
    exact BitVec.xor_eq_zero_iff.mp (shifts_eq_zero hodd count hzero)
  · rintro rfl
    have hnothing : shifts poly count (0#w) = 0#w := by
      rw [← BitVec.xor_self (x := 0#w), shifts_xor, BitVec.xor_self, BitVec.xor_self]
    rw [BitVec.xor_self, hnothing, BitVec.xor_zero]

end Injective

/-- An error in the last symbol reaches the register as its shifts. -/
theorem run_last_xor (count : ℕ) (register : BitVec w) (before : List (BitVec w))
    (x error : BitVec w) :
    run poly count register (before ++ [x ^^^ error]) =
      run poly count register (before ++ [x]) ^^^ shifts poly count error := by
  rw [run, run, List.foldl_append, List.foldl_append, List.foldl_cons, List.foldl_cons,
    feed_xor_symbol]
  rfl

end CyclicRedundancy
