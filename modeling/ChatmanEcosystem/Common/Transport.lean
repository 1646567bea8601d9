import Mathlib.Algebra.BigOperators.Ring.List
import Mathlib.Algebra.Order.BigOperators.Group.List
import Mathlib.Data.List.Nodup
import Mathlib.Tactic.Ring

/-!
# Transport plans and potentials

A plan is a list of rows; a row has a source, a target, an amount and a cost
for a unit. `total` adds the amounts of the rows with one key, so the marginals
of the plan are its totals by source and by target.

Results:

* `cost_eq_value_add_slack`: the cost of a plan is the value of any potential
  plus what the rows leave of the costs.
* `value_le_cost`: weak duality.
* `slack_eq_zero`: complementary slackness.
-/

namespace ChatmanEcosystem.Common.Transport

variable {ρ α β K : Type*} [DecidableEq α] [DecidableEq β]

/-- The amounts of the rows with one key. -/
def total [Add K] [Zero K] (key : ρ → α) (amount : ρ → K) (rows : List ρ) (a : α) : K :=
  ((rows.filter (key · = a)).map amount).sum

section Ring

variable [CommRing K] {key : ρ → α} {amount : ρ → K} {rows : List ρ}

@[simp] theorem total_nil (a : α) : total key amount [] a = 0 := rfl

theorem total_cons (row : ρ) (a : α) : total key amount (row :: rows) a =
    (if a = key row then amount row else 0) + total key amount rows a := by
  by_cases ha : a = key row
  · simp [total, ha]
  · simp [total, ha, Ne.symm ha]

/-- A sum over the keys, weighed by the totals, is a sum over the rows. -/
theorem sum_total {keys : List α} (hnodup : keys.Nodup) (h : ∀ row ∈ rows, key row ∈ keys)
    (u : α → K) : (keys.map fun a => total key amount rows a * u a).sum =
      (rows.map fun row => amount row * u (key row)).sum := by
  induction rows with
  | nil => simp
  | cons row rows ih =>
    have hrest := ih fun other hother => h other (List.mem_cons_of_mem _ hother)
    have hone : (keys.map fun a => (if a = key row then amount row else 0) * u a).sum =
        amount row * u (key row) := by
      simp only [ite_mul, zero_mul]
      rw [List.sum_map_ite_eq, List.count_eq_one_of_mem hnodup (h row List.mem_cons_self)]
      simp
    simp only [total_cons, add_mul, List.sum_map_add, List.map_cons, List.sum_cons, hrest, hone]

/-- What a row leaves of its cost under a potential. -/
def slack (source : ρ → α) (target : ρ → β) (cost : ρ → K) (u : α → K) (v : β → K) (row : ρ) : K :=
  cost row - u (source row) - v (target row)

/-- The rows of a plan lead from the sources to the targets. -/
structure Joins (source : ρ → α) (target : ρ → β) (rows : List ρ) (sources : List α)
    (targets : List β) : Prop where
  nodup_sources : sources.Nodup
  nodup_targets : targets.Nodup
  source_mem : ∀ row ∈ rows, source row ∈ sources
  target_mem : ∀ row ∈ rows, target row ∈ targets

variable {source : ρ → α} {target : ρ → β} {sources : List α} {targets : List β}

/-- The value of a potential for the marginals of a plan. -/
def value (source : ρ → α) (target : ρ → β) (amount : ρ → K) (rows : List ρ) (sources : List α)
    (targets : List β) (u : α → K) (v : β → K) : K :=
  (sources.map fun a => total source amount rows a * u a).sum +
    (targets.map fun b => total target amount rows b * v b).sum

/-- The cost of a plan is the value of a potential and what the rows leave. -/
theorem cost_eq_value_add_slack (h : Joins source target rows sources targets) (cost : ρ → K)
    (u : α → K) (v : β → K) :
    (rows.map fun row => amount row * cost row).sum =
      value source target amount rows sources targets u v +
        (rows.map fun row => amount row * slack source target cost u v row).sum := by
  rw [value, sum_total h.nodup_sources h.source_mem, sum_total h.nodup_targets h.target_mem,
    ← List.sum_map_add, ← List.sum_map_add]
  refine congrArg List.sum (List.map_congr_left fun row _ => ?_)
  unfold slack
  ring

end Ring

section Duality

variable [CommRing K] [LinearOrder K] [IsStrictOrderedRing K] {source : ρ → α} {target : ρ → β}
  {amount cost : ρ → K} {rows : List ρ} {sources : List α} {targets : List β}
  {u : α → K} {v : β → K}

omit [DecidableEq α] [DecidableEq β] in
/-- A row with a nonnegative amount and a potential below its cost leaves something nonnegative. -/
theorem mul_slack_nonneg {row : ρ} (hamount : 0 ≤ amount row)
    (hfeasible : u (source row) + v (target row) ≤ cost row) :
    0 ≤ amount row * slack source target cost u v row := by
  refine mul_nonneg hamount ?_
  rw [slack, sub_sub]
  exact sub_nonneg.mpr hfeasible

/-- Weak duality. -/
theorem value_le_cost (h : Joins source target rows sources targets)
    (hamount : ∀ row ∈ rows, 0 ≤ amount row)
    (hfeasible : ∀ row ∈ rows, u (source row) + v (target row) ≤ cost row) :
    value source target amount rows sources targets u v ≤
      (rows.map fun row => amount row * cost row).sum := by
  rw [cost_eq_value_add_slack h cost u v]
  refine le_add_of_nonneg_right (List.sum_nonneg fun x hx => ?_)
  obtain ⟨row, hrow, rfl⟩ := List.mem_map.mp hx
  exact mul_slack_nonneg (hamount row hrow) (hfeasible row hrow)

/-- Complementary slackness: where cost and value agree, a row that moves something leaves
nothing. -/
theorem slack_eq_zero (h : Joins source target rows sources targets)
    (hamount : ∀ row ∈ rows, 0 ≤ amount row)
    (hfeasible : ∀ row ∈ rows, u (source row) + v (target row) ≤ cost row)
    (heq : (rows.map fun row => amount row * cost row).sum =
      value source target amount rows sources targets u v)
    {row : ρ} (hrow : row ∈ rows) (hmoves : 0 < amount row) :
    slack source target cost u v row = 0 := by
  have hsum : (rows.map fun row => amount row * slack source target cost u v row).sum = 0 := by
    rw [cost_eq_value_add_slack h cost u v] at heq
    exact left_eq_add.mp heq.symm
  have hnonneg : ∀ x ∈ rows.map fun row => amount row * slack source target cost u v row,
      0 ≤ x := by
    intro x hx
    obtain ⟨other, hother, rfl⟩ := List.mem_map.mp hx
    exact mul_slack_nonneg (hamount other hother) (hfeasible other hother)
  have hzero : amount row * slack source target cost u v row = 0 :=
    List.all_zero_of_le_zero_le_of_sum_eq_zero hnonneg hsum
      (List.mem_map_of_mem (f := fun row => amount row * slack source target cost u v row) hrow)
  exact (mul_eq_zero.mp hzero).resolve_left hmoves.ne'

end Duality

end ChatmanEcosystem.Common.Transport
