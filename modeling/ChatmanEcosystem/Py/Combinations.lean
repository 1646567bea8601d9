import Mathlib.Data.List.Sublists
import Mathlib.Order.Lattice

/-!
# `itertools.combinations`
-/

namespace ChatmanEcosystem.Py

/-- `list(combinations(items, size))`. -/
def combinations {α : Type*} : ℕ → List α → List (List α)
  | 0, _ => [[]]
  | _ + 1, [] => []
  | size + 1, item :: items =>
    (combinations size items).map (item :: ·) ++ combinations (size + 1) items

variable {α : Type*} {size : ℕ} {items chosen : List α}

theorem mem_combinations : chosen ∈ combinations size items ↔
    chosen.Sublist items ∧ chosen.length = size := by
  induction items generalizing size chosen with
  | nil =>
    cases size with
    | zero => simp +contextual [combinations]
    | succ size => simp +contextual [combinations]
  | cons item items ih =>
    cases size with
    | zero => simp +contextual [combinations]
    | succ size =>
      rw [combinations, List.mem_append, List.mem_map, List.sublist_cons_iff]
      simp only [ih]
      constructor
      · rintro (⟨rest, ⟨hsub, hlen⟩, rfl⟩ | ⟨hsub, hlen⟩)
        · exact ⟨.inr ⟨rest, rfl, hsub⟩, by simp [hlen]⟩
        · exact ⟨.inl hsub, hlen⟩
      · rintro ⟨hsub | ⟨rest, rfl, hsub⟩, hlen⟩
        · exact .inr ⟨hsub, hlen⟩
        · exact .inl ⟨rest, ⟨hsub, by simpa using hlen⟩, rfl⟩

theorem forall_combinations_two {R : α → α → Prop} :
    (∀ pair ∈ combinations 2 items, ∀ a b, pair = [a, b] → R a b) ↔ items.Pairwise R := by
  induction items with
  | nil => simp [combinations]
  | cons item items ih =>
    have hone : ∀ a, [a] ∈ combinations 1 items ↔ a ∈ items := by
      simp [mem_combinations]
    rw [List.pairwise_cons, ← ih]
    simp only [combinations, List.mem_append, List.mem_map]
    constructor
    · intro h
      exact ⟨fun b hb => h _ (.inl ⟨[b], (hone b).mpr hb, rfl⟩) item b rfl,
        fun pair hpair => h pair (.inr hpair)⟩
    · rintro ⟨hfirst, hrest⟩ pair (⟨rest, hrest', rfl⟩ | hpair) a b heq
      · obtain ⟨rfl, rfl⟩ := List.cons.inj heq
        exact hfirst b ((hone b).mp hrest')
      · exact hrest pair hpair a b heq

/-- Combinations of increasing items come in lexicographic order. -/
theorem pairwise_combinations [LinearOrder α] (h : items.Pairwise (· < ·)) :
    (combinations size items).Pairwise (· < ·) := by
  induction items generalizing size with
  | nil =>
    cases size with
    | zero => simp [combinations]
    | succ size => simp [combinations]
  | cons item items ih =>
    rw [List.pairwise_cons] at h
    cases size with
    | zero => simp [combinations]
    | succ size =>
      rw [combinations, List.pairwise_append]
      refine ⟨?_, ih h.2, ?_⟩
      · rw [List.pairwise_map]
        exact (ih h.2).imp fun hlt => List.Lex.cons hlt
      · intro first hfirst second hsecond
        obtain ⟨rest, -, rfl⟩ := List.mem_map.mp hfirst
        obtain ⟨hsub, hlen⟩ := mem_combinations.mp hsecond
        cases second with
        | nil => cases hlen
        | cons head tail => exact List.Lex.rel (h.1 head (hsub.subset List.mem_cons_self))

end ChatmanEcosystem.Py
