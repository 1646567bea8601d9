import ChatmanEcosystem.Common.Concurrent

/-!
# Effects that are marked after they are made

A call makes an effect outside the shared state and then marks in the shared
state that it has; calls that find the mark make no effect. `Marking` says which
effects are counted, what the mark is, and which calls have made an effect that
is not marked yet. `Marking.assertions` says that there is at most one effect,
and that it is marked or owed.

Results:

* `Marking.hold_writes`: a step that makes no effect, and marks what its call owes.
* `Marking.hold_creates`: a step that makes an effect, when nothing is marked and no
  call owes a mark.
-/

namespace ChatmanEcosystem.Common.Concurrent

variable {σ φ ε : Type*}

/-- Effects, their mark, and the calls that owe it. -/
structure Marking (σ φ ε : Type*) where
  /-- The effects that have been made, the newest first. -/
  effects : σ → List ε
  /-- The effects that are counted. -/
  about : ε → Bool
  marked : σ → Prop
  owes : φ → Bool
  /-- What a call knows of the shared state, and needs for its mark. -/
  knows : σ → φ → Prop

namespace Marking

/-- At most one effect is made. -/
def Once (M : Marking σ φ ε) (shared : σ) : Prop := ((M.effects shared).filter M.about).length ≤ 1

/-- There is at most one effect, and it is marked or owed. -/
def assertions (M : Marking σ φ ε) : Assertions σ φ Unit where
  shared := M.Once
  call := M.knows
  settled _ shared := (∀ effect ∈ M.effects shared, M.about effect = false) ∨ M.marked shared
  owes _ _ phase := M.owes phase = true

variable {M : Marking σ φ ε} {system : System σ φ} {shared : σ} {new phase : φ} {i : ℕ}

/-- Nothing has been made. -/
theorem hold_init {shared : σ} (h : M.effects shared = []) :
    M.assertions.Hold { shared, calls := [] } where
  shared := by
    show (List.filter _ (M.effects shared)).length ≤ 1
    rw [h]
    exact Nat.zero_le 1
  call i phase hcall := by cases hcall
  apart i j a b _ hcall := by cases hcall
  accounted _ := .inl (.inl fun effect hmem => absurd (h ▸ hmem) List.not_mem_nil)

/-- A call is made, and it owes nothing. -/
theorem hold_enters (h : M.assertions.Hold system) (hknows : M.knows system.shared new) :
    M.assertions.Hold { system with calls := system.calls ++ [new] } :=
  h.enter h.shared hknows (fun _ _ _ => trivial) (fun _ _ _ => .refl _ _ _) fun _ => .inl

/-- A call goes on without an effect. -/
theorem hold_writes (h : M.assertions.Hold system) (hcall : system.calls[i]? = some phase)
    (heffects : M.effects shared = M.effects system.shared) (hknows : M.knows shared new)
    (hothers : ∀ call, M.knows system.shared call → M.knows shared call)
    (hmarked : M.marked system.shared → M.marked shared)
    (howes : M.owes phase = true → M.marked shared ∨ M.owes new = true) :
    M.assertions.Hold { shared, calls := system.calls.set i new } := by
  refine h.resume hcall ?_ hknows (fun _ _ _ _ => trivial)
    (fun j call _ _ => ⟨hothers call, fun _ => .inr⟩) ?_
  · show (List.filter _ (M.effects shared)).length ≤ 1
    rw [heffects]
    exact h.shared
  · rintro _ ((hnone | hmark) | how)
    · refine .inl (.inl ?_)
      rw [heffects]
      exact hnone
    · exact .inl (.inr (hmarked hmark))
    · exact (howes how).imp_left .inr

/-- A call makes an effect: if it is counted, there was none. -/
theorem hold_creates (h : M.assertions.Hold system) (hcall : system.calls[i]? = some phase)
    {effect : ε} (heffects : M.effects shared = effect :: M.effects system.shared)
    (hknows : M.knows shared new)
    (hothers : ∀ call, M.knows system.shared call → M.knows shared call)
    (hmarked : M.marked system.shared → M.marked shared) (howes : M.owes phase = false)
    (hfree : M.about effect = true →
      ¬ M.marked system.shared ∧ ∀ call ∈ system.calls, M.owes call = false)
    (hnew : M.about effect = true → M.owes new = true) :
    M.assertions.Hold { shared, calls := system.calls.set i new } := by
  have hnone : M.about effect = true → ∀ earlier ∈ M.effects system.shared,
    M.about earlier = false := by
    intro habout
    obtain ⟨hunmarked, hnobody⟩ := hfree habout
    rcases h.accounted () with (hnone | hmark) | ⟨j, call, hj, how⟩
    · exact hnone
    · exact absurd hmark hunmarked
    · have hquiet := hnobody call (List.mem_of_getElem? hj)
      rw [show _ = true from how] at hquiet
      cases hquiet
  refine h.resume hcall ?_ hknows (fun _ _ _ _ => trivial)
    (fun j call _ _ => ⟨hothers call, fun _ => .inr⟩) ?_
  · show (List.filter _ (M.effects shared)).length ≤ 1
    rw [heffects]
    by_cases habout : M.about effect = true
    · rw [List.filter_cons_of_pos habout,
        List.filter_eq_nil_iff.mpr fun earlier hmem => by rw [hnone habout earlier hmem]; decide]
      exact Nat.le_refl 1
    · rw [List.filter_cons_of_neg habout]
      exact h.shared
  · intro _ hbefore
    by_cases habout : M.about effect = true
    · exact .inr (hnew habout)
    · rcases hbefore with (hbefore | hmark) | how
      · refine .inl (.inl ?_)
        rw [heffects]
        exact List.forall_mem_cons.mpr ⟨by simpa using habout, hbefore⟩
      · exact .inl (.inr (hmarked hmark))
      · rw [show _ = true from how] at howes
        cases howes

end Marking

end ChatmanEcosystem.Common.Concurrent
