import Mathlib.Data.Finset.Basic
import Mathlib.Order.WellFounded

/-!
# Dependency graphs

A graph is the list of what each node depends on. `visit` is the depth-first check
for cycles with a set of nodes on the way and one of nodes that are finished; `depth`
bounds its recursion.

Results:

* `acc_of_check`: the nodes that the check finishes are well founded.
* `exists_minimal`: below a well-founded node that is not good there is one that is
  not good while everything that it depends on is.
* `closure_good_iff`: when the nodes of a set and what they depend on are good, so is
  everything they reach, unless a good node outside the set depends on one that is not.
-/

namespace ChatmanEcosystem.Common

open Relation

variable {α : Type*}

/-- `a` depends on `b`. -/
def Depends (deps : α → List α) (a b : α) : Prop := b ∈ deps a

/-! ## The check -/

/-- The nodes on the way, and the finished ones. -/
structure Marks (α : Type*) where
  visiting : Finset α
  visited : Finset α

/-- Why the check stops. -/
inductive Stop (α : Type*)
  | cycle (node : α)
  | tooDeep

variable [DecidableEq α] {deps : α → List α} {depth : ℕ} {marks marks' : Marks α} {a : α}

/-- Everything below a node is visited before the node is finished. -/
def visit (deps : α → List α) : ℕ → Marks α → α → Except (Stop α) (Marks α)
  | 0, _, _ => .error .tooDeep
  | depth + 1, marks, a =>
    if a ∈ marks.visited then .ok marks
    else if a ∈ marks.visiting then .error (.cycle a)
    else do
      let marks ← (deps a).foldlM (visit deps depth)
        { marks with visiting := insert a marks.visiting }
      return { visiting := marks.visiting.erase a, visited := insert a marks.visited }

/-- The check of a list of nodes. -/
def check (deps : α → List α) (depth : ℕ) (nodes : List α) : Except (Stop α) (Marks α) :=
  nodes.foldlM (visit deps depth) ⟨∅, ∅⟩

/-- What is finished is well founded. -/
def Marks.Founded (deps : α → List α) (marks : Marks α) : Prop :=
  ∀ a ∈ marks.visited, Acc (flip (Depends deps)) a

/-- What visiting keeps and what it adds. -/
structure Visits (deps : α → List α) (marks marks' : Marks α) (nodes : List α) : Prop where
  mono : marks.visited ⊆ marks'.visited
  founded : marks.Founded deps → marks'.Founded deps
  finished : ∀ a ∈ nodes, a ∈ marks'.visited

omit [DecidableEq α] in
theorem Visits.foldlM {step : Marks α → α → Except (Stop α) (Marks α)}
    (hstep : ∀ {marks marks' a}, step marks a = .ok marks' → Visits deps marks marks' [a])
    {nodes : List α} (h : nodes.foldlM step marks = .ok marks') :
    Visits deps marks marks' nodes := by
  induction nodes generalizing marks with
  | nil =>
    obtain rfl := Except.ok.inj h
    exact ⟨subset_rfl, id, fun a ha => absurd ha List.not_mem_nil⟩
  | cons a nodes ih =>
    rw [List.foldlM_cons] at h
    cases hfirst : step marks a with
    | error stop => simp [hfirst, bind, Except.bind] at h
    | ok middle =>
      rw [hfirst] at h
      have hone := hstep hfirst
      have hrest := ih h
      refine ⟨hone.mono.trans hrest.mono, fun hfounded => hrest.founded (hone.founded hfounded), ?_⟩
      intro b hb
      rcases List.mem_cons.mp hb with rfl | hb
      · exact hrest.mono (hone.finished b (List.mem_singleton_self b))
      · exact hrest.finished b hb

theorem visits_visit (h : visit deps depth marks a = .ok marks') :
    Visits deps marks marks' [a] := by
  induction depth generalizing marks marks' a with
  | zero => exact absurd h (by simp [visit])
  | succ depth ih =>
    rw [visit] at h
    by_cases hvisited : a ∈ marks.visited
    · rw [if_pos hvisited] at h
      obtain rfl := Except.ok.inj h
      refine ⟨subset_rfl, id, fun b hb => ?_⟩
      rwa [List.mem_singleton.mp hb]
    rw [if_neg hvisited] at h
    by_cases hvisiting : a ∈ marks.visiting
    · exact absurd h (by simp [hvisiting])
    rw [if_neg hvisiting] at h
    cases hbelow : (deps a).foldlM (visit deps depth)
        { marks with visiting := insert a marks.visiting } with
    | error stop => simp [hbelow, bind, Except.bind] at h
    | ok below =>
      rw [hbelow] at h
      obtain rfl := Except.ok.inj h
      have hdeps := Visits.foldlM ih hbelow
      refine ⟨hdeps.mono.trans (Finset.subset_insert a _), ?_, ?_⟩
      · intro hfounded b hb
        have hbelow' : below.Founded deps := hdeps.founded hfounded
        rcases Finset.mem_insert.mp hb with rfl | hb
        · exact ⟨b, fun c hc => hbelow' c (hdeps.finished c hc)⟩
        · exact hbelow' b hb
      · intro b hb
        rw [List.mem_singleton.mp hb]
        exact Finset.mem_insert_self a _

/-- The nodes that the check goes through are well founded. -/
theorem acc_of_check {nodes : List α} (h : check deps depth nodes = .ok marks) (ha : a ∈ nodes) :
    Acc (flip (Depends deps)) a := by
  have hvisits := Visits.foldlM visits_visit h
  have hempty : (⟨∅, ∅⟩ : Marks α).Founded deps := fun b hb => absurd hb (Finset.notMem_empty b)
  exact hvisits.founded hempty a (hvisits.finished a ha)

omit [DecidableEq α]

/-! ## Good nodes -/

/-- A least node that is not good. -/
theorem exists_minimal (good : α → Prop) (h : Acc (flip (Depends deps)) a) (ha : ¬ good a) :
    ∃ b, ReflTransGen (Depends deps) a b ∧ ¬ good b ∧ ∀ c ∈ deps b, good c := by
  induction h with
  | intro a _ ih =>
    by_cases hdeps : ∀ c ∈ deps a, good c
    · exact ⟨a, .refl, ha, hdeps⟩
    · push Not at hdeps
      obtain ⟨c, hc, hbad⟩ := hdeps
      obtain ⟨b, hreach, hb⟩ := ih c hc hbad
      exact ⟨b, .head hc hreach, hb⟩

/-- What is reached from a set of nodes, the nodes themselves included. -/
def Closure (deps : α → List α) (roots : α → Prop) (a : α) : Prop :=
  ∃ root, roots root ∧ ReflTransGen (Depends deps) root a

/-- Everything that is reached is good, unless a good node outside of the roots depends on one
that is not good. -/
theorem closure_good_iff {good roots : α → Prop}
    (hroots : ∀ a, roots a → good a ∧ ∀ b ∈ deps a, good b) :
    (∀ a, Closure deps roots a → good a) ↔
      ∀ a, Closure deps roots a → ¬ roots a → good a → ∀ b ∈ deps a, good b := by
  constructor
  · intro hall a ⟨root, hroot, hreach⟩ _ _ b hb
    exact hall b ⟨root, hroot, hreach.tail hb⟩
  · intro hsound a ⟨root, hroot, hreach⟩
    induction hreach with
    | refl => exact (hroots root hroot).1
    | @tail b c hbefore hdep ih =>
      by_cases hb : roots b
      · exact (hroots b hb).2 c hdep
      · exact hsound b ⟨root, hroot, hbefore⟩ hb ih c hdep

end ChatmanEcosystem.Common
