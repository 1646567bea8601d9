import Mathlib.Algebra.GroupWithZero.Nat
import Mathlib.Data.Nat.Basic

/-!
# Saturating and checked arithmetic on `u64`

`saturating_add`, `saturating_sub` and `saturating_mul` stop at `u64::MAX` and at 0 instead of
wrapping, `checked_add` and `checked_mul` have no result there. `+= 1` wraps there, or panics in a
build that checks for overflows (`increment`).
`Iterator::max` over a list is `List.max?`.
-/

namespace ChatmanEcosystem.Rust

/-- The `u64` closest to a natural number from below. -/
def saturate (n : ℕ) : UInt64 := UInt64.ofNat (min n (2 ^ 64 - 1))

/-- `u64::saturating_add`. -/
def saturatingAdd (a b : UInt64) : UInt64 := saturate (a.toNat + b.toNat)

/-- `u64::saturating_mul`. -/
def saturatingMul (a b : UInt64) : UInt64 := saturate (a.toNat * b.toNat)

/-- `u64::saturating_sub`. -/
def saturatingSub (a b : UInt64) : UInt64 := UInt64.ofNat (a.toNat - b.toNat)

/-- `u64::checked_add`. -/
def checkedAdd (a b : UInt64) : Option UInt64 :=
  if a.toNat + b.toNat < 2 ^ 64 then some (a + b) else none

/-- `u64::checked_mul`. -/
def checkedMul (a b : UInt64) : Option UInt64 :=
  if a.toNat * b.toNat < 2 ^ 64 then some (a * b) else none

/-- `a += 1`; a panic is `none`. -/
def increment (overflowChecks : Bool) (a : UInt64) : Option UInt64 :=
  if overflowChecks ∧ a.toNat + 1 = 2 ^ 64 then none else some (a + 1)

/-- `u64::MAX`. -/
def u64Max : ℕ := 2 ^ 64 - 1

theorem toNat_le_u64Max (a : UInt64) : a.toNat ≤ u64Max := Nat.le_pred_of_lt a.toNat_lt

theorem toNat_saturate (n : ℕ) : (saturate n).toNat = min n u64Max := by
  have hlt : min n u64Max < 2 ^ 64 := lt_of_le_of_lt (min_le_right _ _) (by decide)
  exact (UInt64.toNat_ofNat_of_lt' hlt)

theorem toNat_saturatingAdd (a b : UInt64) :
    (saturatingAdd a b).toNat = min (a.toNat + b.toNat) u64Max := toNat_saturate _

theorem toNat_saturatingMul (a b : UInt64) :
    (saturatingMul a b).toNat = min (a.toNat * b.toNat) u64Max := toNat_saturate _

theorem toNat_saturatingSub (a b : UInt64) : (saturatingSub a b).toNat = a.toNat - b.toNat := by
  have hlt : a.toNat - b.toNat < 2 ^ 64 := lt_of_le_of_lt (Nat.sub_le _ _) a.toNat_lt
  exact UInt64.toNat_ofNat_of_lt' hlt

/-- A sum that saturates at every step. -/
theorem toNat_foldl_saturatingAdd {α : Type*} (f : α → UInt64) (xs : List α) (sum : UInt64) :
    (xs.foldl (fun sum x => saturatingAdd sum (f x)) sum).toNat =
      min (sum.toNat + (xs.map fun x => (f x).toNat).sum) u64Max := by
  induction xs generalizing sum with
  | nil =>
    have hmax := toNat_le_u64Max sum
    rw [List.foldl_nil, List.map_nil, List.sum_nil]
    omega
  | cons x xs ih =>
    rw [List.foldl_cons, ih, toNat_saturatingAdd, List.map_cons, List.sum_cons]
    omega

/-- Without overflow checks the sum wraps. -/
theorem increment_unchecked (a : UInt64) : increment false a = some (a + 1) := rfl

/-- An increment panics at the greatest number, in a build with overflow checks. -/
theorem increment_eq_none {overflowChecks : Bool} {a : UInt64} :
    increment overflowChecks a = none ↔ overflowChecks = true ∧ a.toNat + 1 = 2 ^ 64 := by
  unfold increment
  split_ifs with hmax
  · exact iff_of_true rfl hmax
  · exact iff_of_false (by simp) hmax

/-- An increment that does not wrap counts up. -/
theorem toNat_of_increment {overflowChecks : Bool} {a b : UInt64}
    (hfits : overflowChecks = true ∨ a.toNat + 1 < 2 ^ 64)
    (h : increment overflowChecks a = some b) : b.toNat = a.toNat + 1 := by
  unfold increment at h
  split_ifs at h with hmax
  have hlt := a.toNat_lt
  have hsum : a.toNat + 1 < 2 ^ 64 := by
    rcases hfits with hchecks | hfits
    · have hne : a.toNat + 1 ≠ 2 ^ 64 := fun heq => hmax ⟨hchecks, heq⟩
      omega
    · exact hfits
  rw [← Option.some.inj h, UInt64.toNat_add, UInt64.toNat_one, Nat.mod_eq_of_lt hsum]

theorem max_eq_ite (a b : UInt64) : max a b = if a ≤ b then b else a := rfl

instance lawfulMax : Std.LawfulOrderMax UInt64 where
  max_eq_or a b := by
    rw [max_eq_ite]
    split_ifs <;> simp
  max_le_iff a b c := by
    simp only [max_eq_ite, UInt64.le_iff_toNat_le]
    split_ifs <;> omega

end ChatmanEcosystem.Rust
