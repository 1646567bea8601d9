import Mathlib.Data.List.Nodup
import Mathlib.Data.List.Range

/-!
# Versions that are compared and counted up

Values under keys, each with a version: a value that is there has a version from
1 on, and 0 stands for none. A write says which version it expects to replace,
is accepted if that is the current one, and counts it up.

* `expectation`: what an accepted write has to expect.
* `Recorded`: a log has the expectations of the writes that were accepted.

The rules are `recorded_nil` and `Recorded.accept` for the log, `Recorded.length`
for the number of accepted writes of a key, and `Recorded.nodup` for the accepted
writes of an expectation.
-/

namespace ChatmanEcosystem.Common

variable {κ : Type*} [DecidableEq κ]

/-- What a write of a key at a version has to expect. -/
def expectation (version : ℕ) : Option ℕ := if version = 0 then none else some version

theorem expectation_injective : Function.Injective expectation := by
  intro a b h
  unfold expectation at h
  split_ifs at h with ha hb hb
  · rw [ha, hb]
  · exact Option.some.inj h

/-- The log has the expectations of the accepted writes: for each key those of its versions up to
the current one, in order. -/
def Recorded (version : κ → ℕ) (log : List (κ × Option ℕ)) : Prop :=
  ∀ key, (log.filter (·.1 = key)).map (·.2) = (List.range (version key)).map expectation

theorem recorded_nil : Recorded (fun _ : κ => 0) [] := fun _ => rfl

variable {version : κ → ℕ} {log : List (κ × Option ℕ)}

/-- A write is accepted, and counts the version of its key up. -/
theorem Recorded.accept (h : Recorded version log) {later : κ → ℕ} {key : κ}
    (hkey : later key = version key + 1) (hothers : ∀ other, other ≠ key →
      later other = version other) :
    Recorded later (log ++ [(key, expectation (version key))]) := by
  intro other
  rw [List.filter_append, List.map_append, h other]
  by_cases heq : other = key
  · subst heq
    rw [hkey, List.range_succ, List.map_append]
    simp
  · have hskip : ¬ key = other := fun hsame => heq hsame.symm
    rw [hothers other heq]
    simp [hskip]

/-- As many writes of a key are accepted as its version says. -/
theorem Recorded.length (h : Recorded version log) (key : κ) :
    (log.filter (·.1 = key)).length = version key := by
  have hlength := congrArg List.length (h key)
  rw [List.length_map, List.length_map, List.length_range] at hlength
  exact hlength

/-- No two writes of a key that expect the same version are accepted. -/
theorem Recorded.nodup (h : Recorded version log) : log.Nodup := by
  rw [List.nodup_iff_count_le_one]
  rintro ⟨key, expected⟩
  have hnodup : ((log.filter (·.1 = key)).map (·.2)).Nodup := by
    rw [h key]
    exact List.nodup_range.map expectation_injective
  have hfilter : (log.filter (·.1 = key)).count (key, expected) = log.count (key, expected) :=
    List.count_filter (by simp)
  have hmap := List.count_le_count_map (f := Prod.snd) (l := log.filter (·.1 = key))
    (x := (key, expected))
  rw [hfilter] at hmap
  exact hmap.trans (List.nodup_iff_count_le_one.mp hnodup expected)

end ChatmanEcosystem.Common
