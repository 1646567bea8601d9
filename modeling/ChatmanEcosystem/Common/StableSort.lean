import Mathlib.Data.List.Sort

/-!
# Sorted lists

Programs that sort a list to take its first element select the first element of
the list that is least. `List.mergeSort` is stable, and its first element is
characterised here by the place it has in the unsorted list.

Results:

* `head?_mergeSort_eq_some`: the first element of the sorted list stands in the
  list before everything it does not exceed, and after nothing that does not
  exceed it.
* `insertionSort_eq_of_perm`: a list that is sorted by a key depends on its
  elements only, if the key tells them apart.
* `sortBy_eq_of_perm`, `eq_of_sortBy_swap`: so does a list that is sorted by a comparison
  if no two elements compare equal, and only then.
-/

namespace ChatmanEcosystem.Common

variable {α : Type*} {le : α → α → Bool}

/-- `x` is the first least element of the list. -/
def FirstLeast (le : α → α → Bool) (xs : List α) (x : α) : Prop :=
  ∃ pre post, xs = pre ++ x :: post ∧ (∀ y ∈ pre, le y x = false) ∧ ∀ y ∈ post, le x y = true

/-- The first element after sorting `a :: xs` is `a` or the one of sorting `xs`. -/
theorem head?_mergeSort_cons (htrans : ∀ a b c, le a b → le b c → le a c)
    (htotal : ∀ a b, le a b || le b a) (a : α) (xs : List α) :
    ((a :: xs).mergeSort le).head? = some (match (xs.mergeSort le).head? with
      | none => a
      | some b => if le a b then a else b) := by
  obtain ⟨front, back, hcons, hxs, hfront⟩ := List.mergeSort_cons htrans htotal a xs
  rw [hcons, hxs]
  cases front with
  | nil =>
    cases back with
    | nil => rfl
    | cons b back =>
      have hsorted := List.pairwise_mergeSort htrans htotal (a :: xs)
      rw [hcons] at hsorted
      have hab : le a b = true := (List.pairwise_cons.mp hsorted).1 b (by simp)
      simp [hab]
  | cons b front =>
    have hab : le a b = false := by simpa using hfront b (by simp)
    simp [hab]

theorem head?_mergeSort_eq_none {xs : List α} : (xs.mergeSort le).head? = none ↔ xs = [] := by
  rw [List.head?_eq_none_iff]
  constructor
  · intro h
    have hperm := List.mergeSort_perm xs le
    rw [h] at hperm
    exact hperm.symm.eq_nil
  · rintro rfl
    exact List.mergeSort_nil

theorem head?_mergeSort_eq_some (htrans : ∀ a b c, le a b → le b c → le a c)
    (htotal : ∀ a b, le a b || le b a) {xs : List α} {x : α} :
    (xs.mergeSort le).head? = some x ↔ FirstLeast le xs x := by
  have hother : ∀ a b, le a b = false → le b a = true := by
    intro a b hab
    have h := htotal a b
    rwa [hab, Bool.false_or] at h
  constructor
  · intro h
    induction xs generalizing x with
    | nil => simp at h
    | cons a xs ih =>
      rw [head?_mergeSort_cons htrans htotal] at h
      cases hhead : (xs.mergeSort le).head? with
      | none =>
        rw [hhead] at h
        obtain rfl := Option.some.inj h
        obtain rfl := head?_mergeSort_eq_none.mp hhead
        exact ⟨[], [], rfl, by simp, by simp⟩
      | some b =>
        rw [hhead] at h
        obtain ⟨pre, post, rfl, hpre, hpost⟩ := ih hhead
        by_cases hab : le a b = true
        · -- `a` does not exceed `b`, and `b` does not exceed the others
          simp only [hab, if_true, Option.some.injEq] at h
          obtain rfl := h
          refine ⟨[], pre ++ b :: post, rfl, by simp, fun y hy => ?_⟩
          rcases List.mem_append.mp hy with hy | hy
          · exact htrans _ _ _ hab (hother y b (hpre y hy))
          · rcases List.mem_cons.mp hy with rfl | hy
            · exact hab
            · exact htrans _ _ _ hab (hpost y hy)
        · simp only [hab, Bool.false_eq_true, if_false, Option.some.injEq] at h
          obtain rfl := h
          refine ⟨a :: pre, post, rfl, fun y hy => ?_, hpost⟩
          rcases List.mem_cons.mp hy with rfl | hy
          · simpa using hab
          · exact hpre y hy
  · rintro ⟨pre, post, rfl, hpre, hpost⟩
    induction pre with
    | nil =>
      rw [List.nil_append, head?_mergeSort_cons htrans htotal]
      cases hhead : (post.mergeSort le).head? with
      | none => rfl
      | some b =>
        have hmem : b ∈ post := List.mem_mergeSort.mp (List.mem_of_mem_head? hhead)
        simp [hpost b hmem]
    | cons a pre ih =>
      have hpre' : ∀ y ∈ pre, le y x = false := fun y hy => hpre y (List.mem_cons_of_mem a hy)
      rw [List.cons_append, head?_mergeSort_cons htrans htotal, ih hpre']
      simp [hpre a (by simp)]

variable {β : Type*} [LinearOrder β] {key : α → β}

theorem pairwise_insertionSort_key (xs : List α) :
    (xs.insertionSort fun a b => key a ≤ key b).Pairwise fun a b => key a ≤ key b := by
  have htotal : Std.Total fun a b : α => key a ≤ key b := ⟨fun a b => le_total (key a) (key b)⟩
  have htrans : IsTrans α fun a b => key a ≤ key b := ⟨fun _ _ _ => le_trans⟩
  exact List.pairwise_insertionSort _ xs

theorem insertionSort_eq_of_perm {xs ys : List α} (h : xs.Perm ys)
    (hkey : ∀ a ∈ xs, ∀ b ∈ xs, key a = key b → a = b) :
    (xs.insertionSort fun a b => key a ≤ key b) = ys.insertionSort fun a b => key a ≤ key b := by
  have hxs := List.perm_insertionSort (fun a b => key a ≤ key b) xs
  have hys := List.perm_insertionSort (fun a b => key a ≤ key b) ys
  refine (hxs.trans (h.trans hys.symm)).eq_of_pairwise ?_ (pairwise_insertionSort_key xs)
    (pairwise_insertionSort_key ys)
  intro a b ha hb hab hba
  exact hkey a (hxs.mem_iff.mp ha) b (h.mem_iff.mpr (hys.mem_iff.mp hb)) (le_antisymm hab hba)

/-! ## Sorting by a comparison -/

section Comparison

variable {cmp : α → α → Ordering}

/-- The stable sort by a comparison. -/
def sortBy (cmp : α → α → Ordering) (xs : List α) : List α := xs.mergeSort fun a b => (cmp a b).isLE

theorem sortBy_perm (cmp : α → α → Ordering) (xs : List α) : (sortBy cmp xs).Perm xs :=
  List.mergeSort_perm xs _

variable [Std.TransCmp cmp]

theorem isLE_total (a b : α) : ((cmp a b).isLE || (cmp b a).isLE) = true := by
  have hswap : cmp b a = (cmp a b).swap := Std.OrientedCmp.eq_swap
  rw [hswap, Ordering.isLE_swap]
  cases cmp a b <;> rfl

theorem pairwise_sortBy (xs : List α) : (sortBy cmp xs).Pairwise fun a b => (cmp a b).isLE = true :=
  List.pairwise_mergeSort (fun _ _ _ => Std.TransCmp.isLE_trans) isLE_total xs

/-- The order in which the elements arrive does not show. -/
theorem sortBy_eq_of_perm {xs ys : List α} (h : xs.Perm ys)
    (hcmp : ∀ a ∈ xs, ∀ b ∈ xs, cmp a b = .eq → a = b) : sortBy cmp xs = sortBy cmp ys := by
  have hxs := sortBy_perm cmp xs
  have hys := sortBy_perm cmp ys
  refine (hxs.trans (h.trans hys.symm)).eq_of_pairwise ?_ (pairwise_sortBy xs) (pairwise_sortBy ys)
  intro a b ha hb hab hba
  have heq : cmp a b = .eq := Std.OrientedCmp.isLE_antisymm hab hba
  exact hcmp a (hxs.mem_iff.mp ha) b (h.mem_iff.mpr (hys.mem_iff.mp hb)) heq

/-- Of two elements that compare equal, the one that arrives first is sorted first. -/
theorem eq_of_sortBy_swap {a b : α} {xs : List α} (heq : cmp a b = .eq)
    (h : sortBy cmp (a :: b :: xs) = sortBy cmp (b :: a :: xs)) : a = b := by
  have htrans : ∀ x y z : α, (cmp x y).isLE = true → (cmp y z).isLE = true →
      (cmp x z).isLE = true := fun _ _ _ => Std.TransCmp.isLE_trans
  have hab : (cmp a b).isLE = true := by rw [heq]; rfl
  have hba : (cmp b a).isLE = true := by rw [Std.OrientedCmp.eq_symm heq]; rfl
  obtain ⟨front, back, hfirst, -, hfront⟩ := List.mergeSort_cons htrans isLE_total a (b :: xs)
  obtain ⟨front', back', hsecond, -, hfront'⟩ := List.mergeSort_cons htrans isLE_total b (a :: xs)
  -- neither of the two stands before the other
  have ha : b ∉ front := fun hmem => by simpa [hab] using hfront b hmem
  have hb : a ∉ front' := fun hmem => by simpa [hba] using hfront' a hmem
  unfold sortBy at h
  rw [hfirst, hsecond] at h
  rcases List.append_eq_append_iff.mp h with ⟨middle, hleft, hright⟩ | ⟨middle, hleft, hright⟩
  · cases middle with
    | nil => exact (List.cons.inj hright).1
    | cons c middle =>
      obtain ⟨rfl, -⟩ := List.cons.inj hright
      exact absurd (by simp [hleft]) hb
  · cases middle with
    | nil => exact (List.cons.inj hright).1.symm
    | cons c middle =>
      obtain ⟨rfl, -⟩ := List.cons.inj hright
      exact absurd (by simp [hleft]) ha

end Comparison

end ChatmanEcosystem.Common
