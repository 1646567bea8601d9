import Mathlib.Data.Option.Basic
import Mathlib.Tactic.SplitIfs
import Std.Data.ExtTreeMap

/-!
# A map from its values

A map that is written out as the list of its values is read back by a loop that
adds one value after the other, each under the key that it finds in the value.

Result:

* `rebuild_eq`: the map that is read back is the map that was written out.
-/

namespace ChatmanEcosystem.Common

variable {ε σ κ ρ : Type*} {cmp : κ → κ → Ordering} [Std.TransCmp cmp] [Std.LawfulEqCmp cmp]
  {entries : σ → Std.ExtTreeMap κ ρ cmp} {add : σ → ρ → Except ε σ}
  {map : Std.ExtTreeMap κ ρ cmp}

/-- An insertion leaves the values under the other keys as they are. -/
theorem getElem?_insert_of_ne (map : Std.ExtTreeMap κ ρ cmp) {key other : κ} (h : key ≠ other)
    (row : ρ) : (map.insert key row)[other]? = map[other]? := by
  rw [Std.ExtTreeMap.getElem?_insert, if_neg]
  exact fun hsame => h (Std.LawfulEqCmp.compare_eq_iff_eq.mp hsame)

/-- What `add` does with a value of the map whose key is free. -/
def Adds (entries : σ → Std.ExtTreeMap κ ρ cmp) (add : σ → ρ → Except ε σ)
    (map : Std.ExtTreeMap κ ρ cmp) : Prop :=
  ∀ s key row, map[key]? = some row → (entries s)[key]? = none →
    ∃ after, add s row = .ok after ∧ entries after = (entries s).insert key row

/-- The loop adds values whose keys are free and differ. -/
theorem Adds.foldlM (h : Adds entries add map) {pairs : List (κ × ρ)}
    (hpairs : ∀ pair ∈ pairs, map[pair.1]? = some pair.2)
    (hdistinct : pairs.Pairwise fun a b => ¬ cmp a.1 b.1 = .eq) {s : σ}
    (hfree : ∀ pair ∈ pairs, (entries s)[pair.1]? = none) :
    ∃ after, (pairs.map Prod.snd).foldlM add s = .ok after ∧
      ∀ key row, (entries after)[key]? = some row ↔
        (entries s)[key]? = some row ∨ (key, row) ∈ pairs := by
  induction pairs generalizing s with
  | nil => exact ⟨s, rfl, by simp⟩
  | cons pair pairs ih =>
    obtain ⟨hpair, hpairs⟩ := List.forall_mem_cons.mp hpairs
    obtain ⟨hfirst, hdistinct⟩ := List.pairwise_cons.mp hdistinct
    obtain ⟨hnew, hfree⟩ := List.forall_mem_cons.mp hfree
    obtain ⟨middle, hadd, hmiddle⟩ := h s pair.1 pair.2 hpair hnew
    have hstill : ∀ other ∈ pairs, (entries middle)[other.1]? = none := by
      intro other hother
      rw [hmiddle, Std.ExtTreeMap.getElem?_insert, if_neg (hfirst other hother)]
      exact hfree other hother
    obtain ⟨after, hloop, hafter⟩ := ih hpairs hdistinct hstill
    refine ⟨after, ?_, fun key row => ?_⟩
    · rw [List.map_cons, List.foldlM_cons, hadd]
      exact hloop
    · rw [hafter, hmiddle, Std.ExtTreeMap.getElem?_insert, List.mem_cons]
      split_ifs with hkey
      · rw [← Std.LawfulEqCmp.compare_eq_iff_eq.mp hkey, hnew]
        simp [Prod.ext_iff, eq_comm]
      · have hne : key ≠ pair.1 := by
          rintro rfl
          exact hkey Std.ReflCmp.compare_self
        simp [Prod.ext_iff, hne]

/-- What is added to nothing is the map. -/
theorem Adds.rebuild_eq (h : Adds entries add map) {start : σ} (hstart : entries start = ∅) :
    ∃ rebuilt, (map.toList.map Prod.snd).foldlM add start = .ok rebuilt ∧
      entries rebuilt = map := by
  obtain ⟨rebuilt, hloop, hrebuilt⟩ := h.foldlM
    (fun pair hpair => Std.ExtTreeMap.mem_toList_iff_getElem?_eq_some.mp hpair)
    Std.ExtTreeMap.distinct_keys_toList
    (fun pair _ => by rw [hstart, Std.ExtTreeMap.getElem?_empty])
  refine ⟨rebuilt, hloop, Std.ExtTreeMap.ext_getElem? fun {key} => Option.ext fun row => ?_⟩
  rw [hrebuilt, hstart, Std.ExtTreeMap.getElem?_empty,
    Std.ExtTreeMap.mem_toList_iff_getElem?_eq_some]
  simp

end ChatmanEcosystem.Common
