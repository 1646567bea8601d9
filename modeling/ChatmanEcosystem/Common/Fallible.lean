import ChatmanEcosystem.Rust.Result

/-!
# Computations that may fail

What holds of a computation in `Except`, whatever it is about.

* `Refuses`: which refusals it can end in.
* `Alike`: two of them end alike.
* `TakenBack`: a run of steps that the inverse steps take back.
-/

namespace ChatmanEcosystem.Common

/-! ## Which refusals a computation can end in

`Refuses P x` says that `x`, if it fails, fails with an error that satisfies
`P`. The rules follow the shape of a computation; in the rule for a sequence the
later part may use that the earlier one has succeeded.
-/

section

open Rust

variable {ε : Type*} {α β : Type} {P : ε → Prop}

/-- A failure of the computation satisfies `P`. -/
def Refuses (P : ε → Prop) (x : Except ε α) : Prop := ∀ error, x = .error error → P error

theorem refuses_ok {a : α} : Refuses P (.ok a) := fun _ h => nomatch h

theorem refuses_pure {a : α} : Refuses P (pure a) := fun _ h => nomatch h

theorem refuses_error {error : ε} (h : P error) : Refuses P (.error error : Except ε α) := by
  intro other hother
  rw [← Except.error.inj hother]
  exact h

theorem refuses_ensure {c : Prop} [Decidable c] {error : ε} (h : P error) :
    Refuses P (ensure c error) := by
  unfold ensure
  split_ifs with hc
  · exact refuses_ok
  · exact refuses_error h

theorem Refuses.bind {x : Except ε α} {f : α → Except ε β} (hx : Refuses P x)
    (hf : ∀ a, x = .ok a → Refuses P (f a)) : Refuses P (x >>= f) := by
  cases x with
  | error error => exact refuses_error (hx error rfl)
  | ok a => exact hf a rfl

theorem refuses_forM {xs : List α} {f : α → Except ε Unit} (h : ∀ x ∈ xs, Refuses P (f x)) :
    Refuses P (xs.forM f) := by
  induction xs with
  | nil => exact refuses_pure
  | cons x xs ih =>
    exact (h x List.mem_cons_self).bind fun _ _ => ih fun y hy => h y (List.mem_cons_of_mem _ hy)

theorem refuses_mapM {xs : List α} {f : α → Except ε β} (h : ∀ x ∈ xs, Refuses P (f x)) :
    Refuses P (xs.mapM f) := by
  induction xs with
  | nil => exact refuses_pure
  | cons x xs ih =>
    rw [List.mapM_cons]
    exact (h x List.mem_cons_self).bind fun _ _ =>
      (ih fun y hy => h y (List.mem_cons_of_mem _ hy)).bind fun _ _ => refuses_pure

theorem refuses_foldlM {xs : List α} {f : β → α → Except ε β}
    (h : ∀ state, ∀ x ∈ xs, Refuses P (f state x)) (state : β) :
    Refuses P (xs.foldlM f state) := by
  induction xs generalizing state with
  | nil => exact refuses_pure
  | cons x xs ih =>
    exact (h state x List.mem_cons_self).bind fun next _ =>
      ih (fun state y hy => h state y (List.mem_cons_of_mem _ hy)) next

end

/-! ## Two runs side by side

Two computations end alike if both fail, with related errors, or both succeed,
with related results. The rules follow the shape of a computation; the rule for
a loop carries a relation of the two states that may depend on the elements that are
still to come.
-/

section

open Rust

variable {ε : Type*} {α β γ δ σ τ : Type} {E : ε → ε → Prop}

/-- Both fail with errors related by `E`, or both succeed with results related by `R`. -/
inductive Alike (E : ε → ε → Prop) (R : α → β → Prop) : Except ε α → Except ε β → Prop
  | ok {a : α} {b : β} (h : R a b) : Alike E R (.ok a) (.ok b)
  | error {e f : ε} (h : E e f) : Alike E R (.error e) (.error f)

theorem Alike.bind {R : α → β → Prop} {S : γ → δ → Prop} {x : Except ε α} {y : Except ε β}
    {f : α → Except ε γ} {g : β → Except ε δ} (h : Alike E R x y)
    (hnext : ∀ a b, R a b → Alike E S (f a) (g b)) : Alike E S (x >>= f) (y >>= g) := by
  cases h with
  | ok hab => exact hnext _ _ hab
  | error hef => exact .error hef

theorem alike_self (hE : ∀ e, E e e) (x : Except ε α) : Alike E Eq x x := by
  cases x with
  | ok a => exact .ok rfl
  | error e => exact .error (hE e)

/-- Two checks whose conditions agree. -/
theorem alike_ensure {c d : Prop} [Decidable c] [Decidable d] {e f : ε} (h : c ↔ d)
    (hef : E e f) : Alike E Eq (ensure c e) (ensure d f) := by
  unfold ensure
  by_cases hc : c
  · rw [if_pos hc, if_pos (h.mp hc)]
    exact .ok rfl
  · rw [if_neg hc, if_neg (mt h.mpr hc)]
    exact .error hef

/-- Two loops whose steps end alike, as long as `R` relates the states before the step with the
elements still to come. -/
theorem alike_foldlM {R : List α → σ → τ → Prop} {f : σ → α → Except ε σ} {g : τ → α → Except ε τ}
    (hstep : ∀ x rest s t, R (x :: rest) s t → Alike E (R rest) (f s x) (g t x)) {xs : List α}
    {s : σ} {t : τ} (h : R xs s t) : Alike E (R []) (xs.foldlM f s) (xs.foldlM g t) := by
  induction xs generalizing s t with
  | nil => exact .ok h
  | cons x xs ih =>
    rw [List.foldlM_cons, List.foldlM_cons]
    apply Alike.bind (hstep x xs s t h)
    intro s' t' hnext
    exact ih hnext

end

/-! ## Runs that can be taken back

A step that checks the state before it changes it can be taken back by the step
that checks the changed state and restores the first one. A run of such steps is
taken back by their inverses in reverse order.

Results:

* `TakenBack.foldlM`: the inverses succeed on the end of the run and give its start.
* `TakenBack.foldlM_append`: after the inverses of the last steps of the run the
  state is the one before those steps.
-/

section

open Rust

variable {ε : Type*} {σ α : Type} {step : σ → α → Except ε σ} {inverse : α → α}

/-- The inverse of a step that succeeds takes it back. -/
def TakenBack (step : σ → α → Except ε σ) (inverse : α → α) : Prop :=
  ∀ start middle a, step start a = .ok middle → step middle (inverse a) = .ok start

theorem foldlM_append_eq_ok {xs ys : List α} {start finish : σ} :
    (xs ++ ys).foldlM step start = .ok finish ↔
      ∃ middle, xs.foldlM step start = .ok middle ∧ ys.foldlM step middle = .ok finish := by
  rw [List.foldlM_append, bind_eq_ok]

/-- The inverses of the steps, last step first. -/
def inverses (inverse : α → α) (xs : List α) : List α := xs.reverse.map inverse

theorem inverses_cons (x : α) (xs : List α) :
    inverses inverse (x :: xs) = inverses inverse xs ++ [inverse x] := by
  simp [inverses]

theorem TakenBack.foldlM (h : TakenBack step inverse) {xs : List α} {start finish : σ}
    (hrun : xs.foldlM step start = .ok finish) :
    (inverses inverse xs).foldlM step finish = .ok start := by
  induction xs generalizing start with
  | nil =>
    obtain rfl := Except.ok.inj hrun
    rfl
  | cons x xs ih =>
    rw [List.foldlM_cons, bind_eq_ok] at hrun
    obtain ⟨middle, hfirst, hrest⟩ := hrun
    -- the run from the second state on is taken back first
    have hback : (inverses inverse xs).foldlM step finish = .ok middle := ih hrest
    have hlast : step middle (inverse x) = .ok start := h start middle x hfirst
    rw [inverses_cons, foldlM_append_eq_ok]
    refine ⟨middle, hback, ?_⟩
    rw [List.foldlM_cons, hlast]
    rfl

theorem TakenBack.foldlM_append (h : TakenBack step inverse) {xs ys : List α} {start finish : σ}
    (hrun : (xs ++ ys).foldlM step start = .ok finish) :
    ∃ middle, xs.foldlM step start = .ok middle ∧
      (inverses inverse ys).foldlM step finish = .ok middle := by
  obtain ⟨middle, hfront, hback⟩ := foldlM_append_eq_ok.mp hrun
  exact ⟨middle, hfront, h.foldlM hback⟩

end

end ChatmanEcosystem.Common
