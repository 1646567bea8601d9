import Mathlib.Data.Nat.Bitwise

/-!
# Leading bits

Words that agree in their first bits, compared under a mask and as natural
numbers.

Results:

* `and_leadingMask_eq_iff`: masked words are equal exactly when the numbers that
  the leading bits write are.
* `toNat_shiftLeft_or`: appending low bits to a word is place-value arithmetic.
-/

namespace ChatmanEcosystem.Common

/-- The word of width `w` with ones in its first `n` bits. -/
def leadingMask (w n : ℕ) : BitVec w := BitVec.allOnes w <<< (w - n)

/-- The number that the first `n` bits of a number of `w` bits write. -/
def leadingBits (w n x : ℕ) : ℕ := x / 2 ^ (w - n)

theorem getLsbD_leadingMask (w n i : ℕ) :
    (leadingMask w n).getLsbD i = (decide (i < w) && !decide (i < w - n)) := by
  rw [leadingMask, BitVec.getLsbD_shiftLeft, BitVec.getLsbD_allOnes]
  by_cases hi : i < w
  · have hlow : i - (w - n) < w := by omega
    simp [hi, hlow]
  · simp [hi]

theorem testBit_leadingBits (w n i : ℕ) (x : BitVec w) :
    (leadingBits w n x.toNat).testBit i = x.getLsbD (w - n + i) := by
  rw [leadingBits, ← Nat.shiftRight_eq_div_pow, Nat.testBit_shiftRight, BitVec.testBit_toNat]

/-- Two words are equal under the mask exactly when their leading bits write the
same number. -/
theorem and_leadingMask_eq_iff {w n : ℕ} (x y : BitVec w) :
    x &&& leadingMask w n = y &&& leadingMask w n ↔
      leadingBits w n x.toNat = leadingBits w n y.toNat := by
  constructor
  · intro h
    apply Nat.eq_of_testBit_eq
    intro i
    rw [testBit_leadingBits, testBit_leadingBits]
    have hbit := congrArg (·.getLsbD (w - n + i)) h
    simp only [BitVec.getLsbD_and, getLsbD_leadingMask] at hbit
    have hlow : ¬ w - n + i < w - n := by omega
    by_cases hi : w - n + i < w
    · simpa only [hi, hlow, decide_true, decide_false, Bool.not_false, Bool.and_true] using hbit
    · rw [BitVec.getLsbD_of_ge _ _ (by omega), BitVec.getLsbD_of_ge _ _ (by omega)]
  · intro h
    apply BitVec.eq_of_getLsbD_eq
    intro i hi
    simp only [BitVec.getLsbD_and, getLsbD_leadingMask]
    by_cases hlow : i < w - n
    · simp [hlow]
    · have hbit := congrArg (·.testBit (i - (w - n))) h
      simp only [testBit_leadingBits] at hbit
      have hindex : w - n + (i - (w - n)) = i := by omega
      rw [hindex] at hbit
      rw [hbit]

/-- Shifting a word and setting its low bits, as long as nothing is shifted out. -/
theorem toNat_shiftLeft_or {w k low : ℕ} (x : BitVec w) (hlow : low < 2 ^ k)
    (hx : x.toNat * 2 ^ k + low < 2 ^ w) :
    (x <<< k ||| BitVec.ofNat w low).toNat = x.toNat * 2 ^ k + low := by
  have hshift : x.toNat <<< k = x.toNat * 2 ^ k := Nat.shiftLeft_eq _ _
  rw [BitVec.toNat_or, BitVec.toNat_shiftLeft, BitVec.toNat_ofNat, Nat.mod_eq_of_lt (by omega),
    Nat.mod_eq_of_lt (by omega), ← Nat.shiftLeft_add_eq_or_of_lt hlow, hshift]

end ChatmanEcosystem.Common
