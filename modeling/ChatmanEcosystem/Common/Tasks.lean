import Mathlib.Data.List.Basic

/-!
# Tasks of an interleaving

Concurrent callers as a list of task states, numbered by position: a caller
that arrives goes to the end of the list, and a step of one caller replaces its
entry. The rules say what has to be shown for a fact about all tasks after such
a step.

Results:

* `forall_set`: one task steps, the others stand.
* `forall_concat`: a task arrives.
* `pairwise_set`, `pairwise_concat`: the same for facts about two tasks.
-/

namespace ChatmanEcosystem.Common

variable {α : Type*} {tasks : List α}

variable {P : ℕ → α → Prop} {i : ℕ} {new : α}

/-- A fact about every task holds after a step of task `i` if it holds of the new
state of `i` and of the others. -/
theorem forall_set (hnew : P i new) (hothers : ∀ j task, j ≠ i → tasks[j]? = some task → P j task) :
    ∀ j task, (tasks.set i new)[j]? = some task → P j task := by
  intro j task h
  rw [List.getElem?_set] at h
  split_ifs at h with hij hlt
  · obtain rfl := Option.some.inj h
    exact hij ▸ hnew
  · exact hothers j task (fun hji => hij hji.symm) h

/-- A fact about every task holds after an arrival if it holds of the new task and
of the others. -/
theorem forall_concat (hnew : P tasks.length new)
    (hothers : ∀ j task, tasks[j]? = some task → P j task) :
    ∀ j task, (tasks ++ [new])[j]? = some task → P j task := by
  intro j task h
  by_cases hlt : j < tasks.length
  · rw [List.getElem?_append_left hlt] at h
    exact hothers j task h
  · have hle : tasks.length ≤ j := by omega
    rw [List.getElem?_append_right hle] at h
    have hzero : j - tasks.length = 0 := by
      by_contra hne
      rw [List.getElem?_eq_none (by rw [List.length_singleton]; omega)] at h
      cases h
    rw [hzero] at h
    obtain rfl := Option.some.inj h
    have hj : j = tasks.length := by omega
    exact hj ▸ hnew

variable {R : α → α → Prop}

/-- A symmetric fact about every two tasks holds after a step of task `i` if it
holds of the new state of `i` with every other task. -/
theorem pairwise_set (hsymm : ∀ a b, R a b → R b a)
    (hold : ∀ (j k : ℕ) a b, j ≠ k → tasks[j]? = some a → tasks[k]? = some b → R a b)
    (hnew : ∀ (j : ℕ) task, j ≠ i → tasks[j]? = some task → R new task) :
    ∀ (j k : ℕ) a b, j ≠ k → (tasks.set i new)[j]? = some a → (tasks.set i new)[k]? = some b →
      R a b := by
  have hmixed : ∀ (j : ℕ) task, j ≠ i → (tasks.set i new)[j]? = some task →
    tasks[j]? = some task := by
    intro j task hj h
    rwa [List.getElem?_set_ne (Ne.symm hj)] at h
  have hself : ∀ task, (tasks.set i new)[i]? = some task → task = new := by
    intro task h
    rw [List.getElem?_set, if_pos rfl] at h
    split_ifs at h
    exact (Option.some.inj h).symm
  intro j k a b hjk ha hb
  by_cases hj : j = i
  · subst hj
    rw [hself a ha]
    exact hnew k b (Ne.symm hjk) (hmixed k b (Ne.symm hjk) hb)
  · by_cases hk : k = i
    · subst hk
      rw [hself b hb]
      exact hsymm _ _ (hnew j a hj (hmixed j a hj ha))
    · exact hold j k a b hjk (hmixed j a hj ha) (hmixed k b hk hb)

theorem pairwise_concat (hsymm : ∀ a b, R a b → R b a)
    (hold : ∀ (j k : ℕ) a b, j ≠ k → tasks[j]? = some a → tasks[k]? = some b → R a b)
    (hnew : ∀ (j : ℕ) task, tasks[j]? = some task → R new task) :
    ∀ (j k : ℕ) a b, j ≠ k → (tasks ++ [new])[j]? = some a → (tasks ++ [new])[k]? = some b →
      R a b := by
  intro j k a b hjk ha hb
  have hside : ∀ (j : ℕ) task, (tasks ++ [new])[j]? = some task →
      tasks[j]? = some task ∨ (j = tasks.length ∧ task = new) :=
    forall_concat (.inr ⟨rfl, rfl⟩) fun _ _ h => .inl h
  rcases hside j a ha with hja | ⟨hj, haj⟩
  · rcases hside k b hb with hkb | ⟨-, hbk⟩
    · exact hold j k a b hjk hja hkb
    · rw [hbk]
      exact hsymm _ _ (hnew j a hja)
  · rcases hside k b hb with hkb | ⟨hk, -⟩
    · rw [haj]
      exact hnew k b hkb
    · exact absurd (hj.trans hk.symm) hjk

/-- What is read off the tasks is different if it is for every two tasks. -/
theorem nodup_filterMap {β : Type*} {f : α → Option β}
    (h : ∀ (i j : ℕ) a b, i ≠ j → tasks[i]? = some a → tasks[j]? = some b →
      ∀ x ∈ f a, f b ≠ some x) : (tasks.filterMap f).Nodup := by
  rw [List.Nodup, List.pairwise_filterMap, List.pairwise_iff_getElem]
  intro i j hi hj hij x hx y hy hxy
  exact h i j _ _ (by omega) (List.getElem?_eq_getElem hi) (List.getElem?_eq_getElem hj) x hx
    (by rw [hy, hxy])

end ChatmanEcosystem.Common
