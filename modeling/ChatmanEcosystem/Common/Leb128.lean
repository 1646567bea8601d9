import Mathlib.Data.List.Basic
import Mathlib.Tactic.Ring

/-!
# Unsigned LEB128

A natural number as bytes of seven bits, lowest first; the high bit of a byte
says that another one follows. `IsLeb` is the shape of such a list, `lebValue` the
number that it denotes, without any bound, and `lebEncode` the shortest list.

Results:

* `lebValue_encode`, `isLeb_encode`, `length_encode_le`: the encoding denotes the
  number, in the fewest bytes.
* `lebValue_lt`: how great a number of a given length can be.
-/

namespace ChatmanEcosystem.Common

/-- The number that the seven low bits of the bytes denote. -/
def lebValue : List UInt8 → ℕ
  | [] => 0
  | byte :: bytes => byte.toNat % 128 + 128 * lebValue bytes

/-- The high bit is set in all bytes but the last. -/
def IsLeb : List UInt8 → Prop
  | [] => False
  | [byte] => byte.toNat < 128
  | byte :: bytes => 128 ≤ byte.toNat ∧ IsLeb bytes

/-- The shortest bytes of a number. -/
def lebEncode (n : ℕ) : List UInt8 :=
  if n < 128 then [UInt8.ofNat n] else UInt8.ofNat (n % 128 + 128) :: lebEncode (n / 128)
termination_by n
decreasing_by omega

variable {byte : UInt8} {bytes : List UInt8}

theorem isLeb_cons (h : 128 ≤ byte.toNat) (hbytes : IsLeb bytes) : IsLeb (byte :: bytes) := by
  cases bytes with
  | nil => exact hbytes.elim
  | cons next bytes => exact ⟨h, hbytes⟩

theorem IsLeb.ne_nil (h : IsLeb bytes) : bytes ≠ [] := by
  intro hnil
  rw [hnil] at h
  exact h

theorem IsLeb.tail (h : IsLeb (byte :: bytes)) (hbyte : 128 ≤ byte.toNat) : IsLeb bytes := by
  cases bytes with
  | nil =>
    have hlast : byte.toNat < 128 := h
    omega
  | cons next bytes => exact h.2

theorem IsLeb.tail_eq_nil (h : IsLeb (byte :: bytes)) (hbyte : byte.toNat < 128) : bytes = [] := by
  cases bytes with
  | nil => rfl
  | cons next bytes =>
    have hmore : 128 ≤ byte.toNat := h.1
    omega

theorem IsLeb.exists_last (h : IsLeb bytes) :
    ∃ byte ∈ bytes, byte.toNat < 128 := by
  induction bytes with
  | nil => exact h.elim
  | cons byte bytes ih =>
    by_cases hbyte : 128 ≤ byte.toNat
    · obtain ⟨last, hmem, hlast⟩ := ih (h.tail hbyte)
      exact ⟨last, List.mem_cons_of_mem byte hmem, hlast⟩
    · exact ⟨byte, List.mem_cons_self, by omega⟩

theorem lebValue_lt (bytes : List UInt8) : lebValue bytes < 2 ^ (7 * bytes.length) := by
  induction bytes with
  | nil => decide
  | cons byte bytes ih =>
    have hbyte : byte.toNat % 128 < 128 := Nat.mod_lt _ (by decide)
    have hpow : 2 ^ (7 * (bytes.length + 1)) = 128 * 2 ^ (7 * bytes.length) := by
      rw [Nat.mul_succ, pow_add]
      ring
    rw [lebValue, List.length_cons, hpow]
    omega

theorem toNat_ofNat_of_lt {n : ℕ} (h : n < 256) : (UInt8.ofNat n).toNat = n := by
  rw [UInt8.toNat_ofNat']
  exact Nat.mod_eq_of_lt h

theorem lebValue_encode (n : ℕ) : lebValue (lebEncode n) = n := by
  induction n using Nat.strongRecOn with
  | ind n ih =>
    rw [lebEncode]
    split_ifs with hsmall
    · rw [lebValue, lebValue, toNat_ofNat_of_lt (by omega)]
      omega
    · rw [lebValue, ih (n / 128) (by omega), toNat_ofNat_of_lt (by omega)]
      omega

theorem isLeb_encode (n : ℕ) : IsLeb (lebEncode n) := by
  induction n using Nat.strongRecOn with
  | ind n ih =>
    rw [lebEncode]
    split_ifs with hsmall
    · show (UInt8.ofNat n).toNat < 128
      rw [toNat_ofNat_of_lt (by omega)]
      exact hsmall
    · refine isLeb_cons ?_ (ih (n / 128) (by omega))
      rw [toNat_ofNat_of_lt (by omega)]
      omega

theorem length_encode_le {n k : ℕ} (hk : 0 < k) (h : n < 2 ^ (7 * k)) :
    (lebEncode n).length ≤ k := by
  induction k generalizing n with
  | zero => omega
  | succ k ih =>
    rw [lebEncode]
    split_ifs with hsmall
    · rw [List.length_singleton]
      omega
    · have hpow : 2 ^ (7 * (k + 1)) = 128 * 2 ^ (7 * k) := by
        rw [Nat.mul_succ, pow_add]
        ring
      have hpos : 0 < k := by
        rcases Nat.eq_zero_or_pos k with rfl | hpos
        · simp at h
          omega
        · exact hpos
      have hrest := ih hpos (n := n / 128) (by omega)
      rw [List.length_cons]
      omega

end ChatmanEcosystem.Common
