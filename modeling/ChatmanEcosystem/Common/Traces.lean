import Mathlib.Data.List.Basic
import Mathlib.Data.List.Count
import Mathlib.Logic.Relation

/-!
# Traces up to exchange of independent letters

A word stands for every word that is obtained from it by exchanging adjacent
letters that are independent.

* `Exchange indep v w`: one exchange leads from `v` to `w`.
* `Exchangeable indep v w`: finitely many do.
* `project a b w`: the word without the letters other than `a` and `b`.

`exchangeable_iff` characterises the relation without exchanges: the words have
the same letters as often, and the same projection onto every two letters that
are not independent. `project_eq_of_not_sublist` computes a projection in which
the letters come in one order only.
-/

namespace ChatmanEcosystem.Common

open Relation

variable {α : Type*}

/-- Two adjacent independent letters are exchanged. -/
inductive Exchange (indep : α → α → Prop) : List α → List α → Prop
  | swap (first : List α) (a b : α) (rest : List α) (h : indep a b) :
      Exchange indep (first ++ a :: b :: rest) (first ++ b :: a :: rest)

/-- Finitely many exchanges lead from one word to the other. -/
def Exchangeable (indep : α → α → Prop) : List α → List α → Prop :=
  ReflTransGen (Exchange indep)

variable {indep : α → α → Prop} {a b : α} {v w : List α}

theorem Exchange.cons (h : Exchange indep v w) : Exchange indep (a :: v) (a :: w) := by
  obtain ⟨first, c, d, rest, hindep⟩ := h
  exact .swap (a :: first) c d rest hindep

theorem Exchangeable.cons (h : Exchangeable indep v w) :
    Exchangeable indep (a :: v) (a :: w) := by
  induction h with
  | refl => exact .refl
  | tail _ hstep ih => exact ih.tail hstep.cons

theorem Exchangeable.perm (h : Exchangeable indep v w) : v.Perm w := by
  induction h with
  | refl => exact .refl _
  | tail _ hstep ih =>
    obtain ⟨first, c, d, rest, -⟩ := hstep
    exact ih.trans (.append_left _ (.swap _ _ _))

/-- The first letter moves behind letters that it is independent of. -/
theorem exchangeable_behind {first rest : List α} (h : ∀ x ∈ first, indep a x) :
    Exchangeable indep (a :: (first ++ rest)) (first ++ a :: rest) := by
  induction first with
  | nil => exact .refl
  | cons x first ih =>
    have hswap : Exchange indep (a :: x :: (first ++ rest)) (x :: a :: (first ++ rest)) :=
      .swap [] a x (first ++ rest) (h x List.mem_cons_self)
    have htail := ih fun y hy => h y (List.mem_cons_of_mem _ hy)
    exact (ReflTransGen.single hswap).trans htail.cons

variable [DecidableEq α]

/-- The word without the letters other than `a` and `b`. -/
def project (a b : α) (w : List α) : List α := w.filter fun x => x = a ∨ x = b

@[simp] theorem project_append : project a b (v ++ w) = project a b v ++ project a b w :=
  List.filter_append ..

theorem project_cons {x : α} : project a b (x :: w) =
    if x = a ∨ x = b then x :: project a b w else project a b w := by
  simp [project, List.filter_cons]

/-- An exchange of independent letters is not seen by two letters that are dependent. -/
theorem Exchangeable.project_eq (hdep : ¬ indep a b) (hdep' : ¬ indep b a)
    (h : Exchangeable indep v w) : project a b v = project a b w := by
  induction h with
  | refl => rfl
  | tail _ hstep ih =>
    obtain ⟨first, c, d, rest, hindep⟩ := hstep
    rw [ih, project_append, project_append, project_cons, project_cons, project_cons, project_cons]
    by_cases hc : c = a ∨ c = b
    · by_cases hd : d = a ∨ d = b
      · rcases hc with rfl | rfl
        · rcases hd with rfl | rfl
          · rfl
          · exact absurd hindep hdep
        · rcases hd with rfl | rfl
          · exact absurd hindep hdep'
          · rfl
      · simp [hc, hd]
    · simp [hc]

/-- A letter that is dependent on `a` does not come before the first `a`, if the other word begins
with `a`. -/
theorem indep_of_project_eq {first rest : List α} (hfirst : a ∉ first)
    (h : ∀ x, ¬ indep a x → project a x (a :: v) = project a x (first ++ a :: rest)) :
    ∀ x ∈ first, indep a x := by
  intro x hx
  by_contra hdep
  have hhead := congrArg List.head? (h x hdep)
  rw [project_cons, if_pos (.inl rfl), List.head?_cons, project_append, List.head?_append] at hhead
  have hsome : (project a x first).head? = some x := by
    have hne : project a x first ≠ [] :=
      List.ne_nil_of_mem (List.mem_filter.mpr ⟨hx, decide_eq_true (.inr rfl)⟩)
    obtain ⟨y, hy⟩ := Option.ne_none_iff_exists'.mp (mt List.head?_eq_none_iff.mp hne)
    obtain ⟨hmem, hor⟩ := List.mem_filter.mp (List.mem_of_mem_head? hy)
    rcases of_decide_eq_true hor with rfl | rfl
    · exact absurd hmem hfirst
    · exact hy
  rw [hsome] at hhead
  obtain rfl : a = x := by simpa using hhead
  exact hfirst hx

/-- Words are exchangeable exactly when they hold the same letters as often and agree on every two
dependent letters. -/
theorem exchangeable_iff (hsymm : ∀ a b, indep a b → indep b a) : Exchangeable indep v w ↔
    v.Perm w ∧ ∀ a b, ¬ indep a b → project a b v = project a b w := by
  constructor
  · exact fun h => ⟨h.perm, fun a b hdep => h.project_eq hdep (mt (hsymm b a) hdep)⟩
  · rintro ⟨hperm, hproject⟩
    induction v generalizing w with
    | nil =>
      rw [List.nil_perm.mp hperm]
      exact .refl
    | cons a v ih =>
      obtain ⟨first, rest, hfirst, rfl, -⟩ :=
        List.exists_erase_eq (hperm.mem_iff.mp List.mem_cons_self)
      have hindep := indep_of_project_eq hfirst (hproject a)
      have hbehind : Exchangeable indep (a :: (first ++ rest)) (first ++ a :: rest) :=
        exchangeable_behind hindep
      refine ReflTransGen.trans (Exchangeable.cons (ih ?_ fun c d hdep => ?_)) hbehind
      · exact (hperm.trans hbehind.perm.symm).cons_inv
      · have hcons := hproject c d hdep
        rw [← hbehind.project_eq hdep (mt (hsymm d c) hdep), project_cons, project_cons] at hcons
        split_ifs at hcons with hseen
        · exact List.tail_eq_of_cons_eq hcons
        · exact hcons

/-- Letters that come in one order only. -/
theorem project_eq_of_not_sublist (hne : a ≠ b) (h : ¬ [b, a].Sublist w) :
    project a b w = List.replicate (w.count a) a ++ List.replicate (w.count b) b := by
  induction w with
  | nil => rfl
  | cons x w ih =>
    have htail : ¬ [b, a].Sublist w := fun hsub => h (hsub.cons x)
    rw [project_cons, ih htail]
    by_cases hxa : x = a
    · subst hxa
      rw [if_pos (.inl rfl), List.count_cons_self, List.count_cons_of_ne hne,
        List.replicate_succ, List.cons_append]
    · by_cases hxb : x = b
      · subst hxb
        have hnone : w.count a = 0 := by
          rw [List.count_eq_zero]
          exact fun ha => h ((List.singleton_sublist.mpr ha).cons_cons x)
        rw [if_pos (.inr rfl), List.count_cons_of_ne hxa, List.count_cons_self, hnone,
          List.replicate_zero, List.nil_append, List.nil_append, List.replicate_succ]
      · rw [if_neg (not_or.mpr ⟨hxa, hxb⟩), List.count_cons_of_ne hxa, List.count_cons_of_ne hxb]

theorem project_self : project a a w = List.replicate (w.count a) a := by
  simp only [project, or_self]
  rw [List.filter_eq]

end ChatmanEcosystem.Common
