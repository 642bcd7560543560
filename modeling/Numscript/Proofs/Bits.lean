import Mathlib.Data.Nat.Bitwise

/-!
# Sets of numbers as bits

A set of small numbers is a number whose bits are set at them, so that two sets are compared at once.
-/
namespace Numscript

/-- The number whose bits are set at the numbers of a list. -/
def bits (numbers : List Nat) : Nat := numbers.foldr (fun i m => 1 <<< i ||| m) 0

theorem testBit_bits {numbers : List Nat} {i : Nat} : (bits numbers).testBit i = true ↔ i ∈ numbers := by
  induction numbers with
  | nil => simp [bits]
  | cons n numbers ih =>
    have hone : (1 <<< n).testBit i = true ↔ i = n := by
      rw [Nat.one_shiftLeft, Nat.testBit_two_pow, decide_eq_true_eq]
      exact eq_comm
    rw [bits, List.foldr_cons, Nat.testBit_or, Bool.or_eq_true, hone, List.mem_cons]
    exact or_congr_right ih

theorem mem_iff_of_bits_eq {a b : List Nat} (h : bits a = bits b) (i : Nat) : i ∈ a ↔ i ∈ b := by
  rw [← testBit_bits, ← testBit_bits, h]

end Numscript
