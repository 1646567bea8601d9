import Mathlib.Algebra.Order.BigOperators.Group.Finset
import Mathlib.Tactic.Linarith

/-!
# Finite probability spaces

A finite probability space has a weight for each outcome; an event is a finite set of
outcomes. The weights may be rationals, reals, or the elements of another ordered ring.

Results:

* `prob_union_add_prob_inter`: inclusion and exclusion.
* `prob_add_prob_le`, `prob_inter_le_left`, `prob_inter_le_right`: what two events say
  about both of them, whatever their joint distribution.
-/

namespace ChatmanEcosystem.Common

variable {Ω K : Type*} [Fintype Ω] [CommRing K] [LinearOrder K] [IsStrictOrderedRing K]

/-- The outcomes have weights that add up to one. -/
structure FiniteProbability (Ω K : Type*) [Fintype Ω] [CommRing K] [LinearOrder K] where
  weight : Ω → K
  nonneg : ∀ outcome, 0 ≤ weight outcome
  total : ∑ outcome, weight outcome = 1

namespace FiniteProbability

variable (space : FiniteProbability Ω K) {A B : Finset Ω}

/-- The probability of an event. -/
def prob (A : Finset Ω) : K := ∑ outcome ∈ A, space.weight outcome

theorem prob_nonneg : 0 ≤ space.prob A := Finset.sum_nonneg fun outcome _ => space.nonneg outcome

theorem prob_mono (h : A ⊆ B) : space.prob A ≤ space.prob B :=
  Finset.sum_le_sum_of_subset_of_nonneg h fun outcome _ _ => space.nonneg outcome

theorem prob_le_one : space.prob A ≤ 1 := by
  have hmono := space.prob_mono (Finset.subset_univ A)
  rwa [prob, prob, space.total] at hmono

variable [DecidableEq Ω]

omit [IsStrictOrderedRing K] in
theorem prob_union_add_prob_inter :
    space.prob (A ∪ B) + space.prob (A ∩ B) = space.prob A + space.prob B :=
  Finset.sum_union_inter

/-- Two events that are likely enough overlap. -/
theorem prob_add_prob_le : space.prob A + space.prob B - 1 ≤ space.prob (A ∩ B) := by
  have hsum := space.prob_union_add_prob_inter (A := A) (B := B)
  have hunion := space.prob_le_one (A := A ∪ B)
  linarith

theorem prob_inter_le_left : space.prob (A ∩ B) ≤ space.prob A :=
  space.prob_mono Finset.inter_subset_left

theorem prob_inter_le_right : space.prob (A ∩ B) ≤ space.prob B :=
  space.prob_mono Finset.inter_subset_right

/-- Two events are independent. -/
def Independent (A B : Finset Ω) : Prop := space.prob (A ∩ B) = space.prob A * space.prob B

end FiniteProbability

end ChatmanEcosystem.Common
