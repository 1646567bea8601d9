import ChatmanEcosystem.Py.Dict
import Mathlib.Algebra.Order.Group.Int
import Mathlib.Order.Comparable

/-!
# Vector clocks

Model of `Relation` and `VectorClock.compare`
(`scripts/release_train/replicated_policy_admission/vector_clock.py`, lines 5–32).

`compare` looks at the keys of both clocks and reads a missing key as zero, so
it compares the clocks as functions on all keys: clocks are preordered
pointwise (two spellings of one function are EQUAL).
-/

namespace ChatmanEcosystem.Replicas

open Py

/-- `Relation` (lines 5–9). -/
inductive Relation
  | before
  | after
  | equal
  | concurrent
  deriving DecidableEq

/-- `VectorClock` (lines 11–13). -/
structure VectorClock where
  values : List (String × ℤ)
  deriving DecidableEq

namespace VectorClock

/-- `as_dict` (lines 21–22). -/
def asDict (clock : VectorClock) : List (String × ℤ) := ofPairs clock.values

/-- `a.get(k, 0)`. -/
def get (clock : VectorClock) (key : String) : ℤ := (clock.asDict.lookup key).getD 0

/-- `compare` (lines 24–32). -/
def compare (clock other : VectorClock) : Relation :=
  let keys := clock.asDict.map Prod.fst ++ other.asDict.map Prod.fst
  let le := keys.all fun key => clock.get key ≤ other.get key
  let ge := keys.all fun key => clock.get key ≥ other.get key
  if le && ge then .equal
  else if le then .before
  else if ge then .after
  else .concurrent

/-- Clocks are compared at every key. -/
instance : Preorder VectorClock where
  le clock other := ∀ key, clock.get key ≤ other.get key
  le_refl clock key := le_refl (clock.get key)
  le_trans _ _ _ hfirst hsecond key := (hfirst key).trans (hsecond key)

variable {clock other : VectorClock}

theorem le_def : clock ≤ other ↔ ∀ key, clock.get key ≤ other.get key := Iff.rfl

theorem get_of_notMem {key : String} (h : key ∉ clock.asDict.map Prod.fst) :
    clock.get key = 0 := by
  have hlookup : clock.asDict.lookup key = none := by
    rw [List.lookup_eq_none_iff]
    intro item hitem
    refine bne_iff_ne.mpr fun hkey => h ?_
    rw [hkey]
    exact List.mem_map_of_mem hitem
  rw [get, hlookup, Option.getD_none]

theorem all_keys_iff : (clock.asDict.map Prod.fst ++ other.asDict.map Prod.fst).all
    (fun key => clock.get key ≤ other.get key) = true ↔ clock ≤ other := by
  rw [List.all_eq_true, le_def]
  constructor
  · intro h key
    by_cases hkey : key ∈ clock.asDict.map Prod.fst ++ other.asDict.map Prod.fst
    · exact of_decide_eq_true (h key hkey)
    · rw [List.mem_append, not_or] at hkey
      rw [get_of_notMem hkey.1, get_of_notMem hkey.2]
  · exact fun h key _ => decide_eq_true (h key)

theorem all_keys_ge_iff : (clock.asDict.map Prod.fst ++ other.asDict.map Prod.fst).all
    (fun key => clock.get key ≥ other.get key) = true ↔ other ≤ clock := by
  rw [← all_keys_iff, List.all_eq_true, List.all_eq_true]
  simp only [List.mem_append, or_comm, ge_iff_le]

instance : DecidableLE VectorClock := fun _ _ => decidable_of_iff _ all_keys_iff

instance : DecidableLT VectorClock := fun _ _ => decidable_of_iff _ lt_iff_le_not_ge.symm

theorem compare_eq : clock.compare other =
    if clock ≤ other ∧ other ≤ clock then .equal
    else if clock ≤ other then .before
    else if other ≤ clock then .after
    else .concurrent := by
  simp only [compare, Bool.and_eq_true, all_keys_iff, all_keys_ge_iff]

theorem compare_eq_before : clock.compare other = .before ↔ clock < other := by
  rw [compare_eq, lt_iff_le_not_ge]
  split_ifs with hequal hle hge <;> simp_all

theorem compare_eq_concurrent : clock.compare other = .concurrent ↔
    IncompRel (· ≤ ·) clock other := by
  rw [compare_eq, IncompRel]
  split_ifs with hequal hle hge <;> simp_all

end VectorClock

end ChatmanEcosystem.Replicas
