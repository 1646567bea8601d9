import Mathlib.Data.List.Forall2

/-!
# Fallible computations

A function that returns `Result` is a computation in `Except`. `ensure` is an
early return under a condition. The rules here take a successful run apart at
`?` (`bind_eq_ok`) and at an early return (`ensure_eq_ok`), go through a loop that
only checks (`forM_eq_ok`) or collects (`mem_of_mapM`), say when a loop succeeds
(`exists_mapM_iff`, `exists_foldlM_iff`), find the step at which a loop failed
(`exists_of_foldlM_eq_error`), and take a condition on the result to the result
(`forall_eq_ok_iff`). `okOr` turns an `Option` into a `Result`.
-/

namespace ChatmanEcosystem.Rust

variable {ε : Type*} {α β : Type}

variable {x : Except ε α} {f : α → Except ε β} {b : β}

theorem bind_eq_ok :
    (x >>= f) = .ok b ↔ ∃ a, x = .ok a ∧ f a = .ok b := by
  cases x <;> simp [bind, Except.bind]

theorem exists_bind_iff :
    (∃ b, (x >>= f) = .ok b) ↔ ∃ a, x = .ok a ∧ ∃ b, f a = .ok b := by
  simp only [bind_eq_ok]
  constructor
  · intro ⟨b, a, hx, hf⟩
    exact ⟨a, hx, b, hf⟩
  · intro ⟨a, hx, b, hf⟩
    exact ⟨b, a, hx, hf⟩

/-- Two steps, the second of which succeeds after every success of the first or after none. -/
theorem exists_bind_iff_and {first after : Prop} (hfirst : (∃ a, x = .ok a) ↔ first)
    (hafter : ∀ a, x = .ok a → ((∃ b, f a = .ok b) ↔ after)) :
    (∃ b, (x >>= f) = .ok b) ↔ first ∧ after := by
  rw [exists_bind_iff, ← hfirst]
  constructor
  · intro ⟨a, hx, hf⟩
    exact ⟨⟨a, hx⟩, (hafter a hx).mp hf⟩
  · intro ⟨⟨a, hx⟩, hf⟩
    exact ⟨a, hx, (hafter a hx).mpr hf⟩

variable {a : α}

theorem pure_eq_ok {b : α} : (pure a : Except ε α) = .ok b ↔ a = b := by
  simp [pure, Except.pure]

/-- What is asked of the result of a computation that succeeds. -/
theorem forall_eq_ok_iff {x : Except ε (α × β)} (h : x = .ok (a, b)) {p : α → β → Prop} :
    (∀ a' b', x = .ok (a', b') → p a' b') ↔ p a b := by
  constructor
  · intro hall
    exact hall a b h
  · intro hp a' b' hok
    rw [h] at hok
    obtain ⟨rfl, rfl⟩ := Prod.mk.inj (Except.ok.inj hok)
    exact hp

theorem mapError_eq_ok {ε' : Type*} {f : ε → ε'} :
    x.mapError f = .ok a ↔ x = .ok a := by
  cases x <;> simp [Except.mapError]

/-- `if !c { return Err(error); }`. -/
def ensure (c : Prop) [Decidable c] (error : ε) : Except ε Unit :=
  if c then .ok () else .error error

variable {error : ε} {u : Unit}

@[simp] theorem ensure_eq_ok {c : Prop} [Decidable c] :
    ensure c error = .ok u ↔ c := by
  simp [ensure]

/-- `Option::ok_or`. -/
def okOr (x : Option α) (error : ε) : Except ε α := x.elim (.error error) .ok

@[simp] theorem okOr_eq_ok {x : Option α} :
    okOr x error = .ok a ↔ x = some a := by
  cases x <;> simp [okOr]

theorem toOption_eq_some : x.toOption = some a ↔ x = .ok a := by
  cases x with
  | error raised => simp [Except.toOption]
  | ok b => simp [Except.toOption]

variable {xs : List α}

theorem forM_eq_ok {f : α → Except ε Unit} :
    xs.forM f = .ok u ↔ ∀ x ∈ xs, f x = .ok () := by
  induction xs with
  | nil => simp [List.forM, pure, Except.pure]
  | cons x xs ih =>
    rw [List.forM, bind_eq_ok, List.forall_mem_cons]
    exact ⟨fun ⟨_, hx, hxs⟩ => ⟨hx, ih.mp hxs⟩, fun ⟨hx, hxs⟩ => ⟨(), hx, ih.mpr hxs⟩⟩

variable {ys : List β}

/-- What a loop collects, if no step of it fails. -/
theorem mem_of_mapM (h : xs.mapM f = .ok ys) {y : β} : y ∈ ys ↔ ∃ x ∈ xs, f x = .ok y := by
  induction xs generalizing ys with
  | nil =>
    obtain rfl := Except.ok.inj h
    simp
  | cons x xs ih =>
    simp only [List.mapM_cons, bind_eq_ok, pure_eq_ok] at h
    obtain ⟨z, hz, zs, hzs, rfl⟩ := h
    have hfirst : f x = .ok y ↔ y = z := by rw [hz, Except.ok.injEq, eq_comm]
    simp only [List.mem_cons, ih hzs, exists_eq_or_imp, hfirst]

/-- A loop that collects goes through its results one by one. -/
theorem forall₂_of_mapM (h : xs.mapM f = .ok ys) :
    List.Forall₂ (fun x y => f x = .ok y) xs ys := by
  induction xs generalizing ys with
  | nil =>
    obtain rfl := Except.ok.inj h
    exact .nil
  | cons x xs ih =>
    simp only [List.mapM_cons, bind_eq_ok, pure_eq_ok] at h
    obtain ⟨y, hy, ys, hys, rfl⟩ := h
    exact .cons hy (ih hys)

/-- A loop that collects has not failed at any step. -/
theorem ok_of_mapM (h : xs.mapM f = .ok ys) {x : α} (hx : x ∈ xs) : ∃ y, f x = .ok y := by
  induction xs generalizing ys with
  | nil => exact absurd hx List.not_mem_nil
  | cons first xs ih =>
    simp only [List.mapM_cons, bind_eq_ok, pure_eq_ok] at h
    obtain ⟨y, hy, zs, hzs, -⟩ := h
    rcases List.mem_cons.mp hx with rfl | hx
    · exact ⟨y, hy⟩
    · exact ih hzs hx

theorem mapM_ok {f : α → β} {g : α → Except ε β} (h : ∀ x ∈ xs, g x = .ok (f x)) :
    xs.mapM g = .ok (xs.map f) := by
  induction xs with
  | nil => rfl
  | cons x xs ih =>
    rw [List.mapM_cons, h x List.mem_cons_self,
      ih fun other hother => h other (List.mem_cons_of_mem _ hother)]
    rfl

/-- A loop that changes nothing. -/
theorem mapM_self {g : α → Except ε α} (h : ∀ x ∈ xs, g x = .ok x) :
    xs.mapM g = .ok xs := by
  have hmap : xs.mapM g = .ok (xs.map id) := mapM_ok h
  rwa [List.map_id] at hmap

theorem exists_mapM (h : ∀ x ∈ xs, ∃ y, f x = .ok y) :
    ∃ ys, xs.mapM f = .ok ys := by
  induction xs with
  | nil => exact ⟨[], rfl⟩
  | cons x xs ih =>
    obtain ⟨y, hy⟩ := h x List.mem_cons_self
    obtain ⟨ys, hys⟩ := ih fun x hx => h x (List.mem_cons_of_mem _ hx)
    refine ⟨y :: ys, ?_⟩
    rw [List.mapM_cons, bind_eq_ok]
    refine ⟨y, hy, ?_⟩
    rw [bind_eq_ok]
    exact ⟨ys, hys, rfl⟩

/-- A loop that collects succeeds if every step of it does. -/
theorem exists_mapM_iff :
    (∃ ys, xs.mapM f = .ok ys) ↔ ∀ x ∈ xs, ∃ y, f x = .ok y :=
  ⟨fun ⟨_, h⟩ _ hx => ok_of_mapM h hx, exists_mapM⟩

variable {p : α → Prop} {step : β → α → Except ε β} {start : β}

/-- A loop whose steps succeed in every state or in none succeeds if all of them do. -/
theorem exists_foldlM_iff (hstep : ∀ state, ∀ x ∈ xs, (∃ state', step state x = .ok state') ↔ p x) :
    (∃ last, xs.foldlM step start = .ok last) ↔ ∀ x ∈ xs, p x := by
  induction xs generalizing start with
  | nil => exact iff_of_true ⟨start, rfl⟩ nofun
  | cons x xs ih =>
    have hrest : ∀ state, ∀ y ∈ xs, (∃ state', step state y = .ok state') ↔ p y :=
      fun state y hy => hstep state y (List.mem_cons_of_mem _ hy)
    rw [List.foldlM_cons, exists_bind_iff, List.forall_mem_cons,
      ← hstep start x List.mem_cons_self]
    constructor
    · intro ⟨state, hfirst, hlater⟩
      exact ⟨⟨state, hfirst⟩, (ih hrest).mp hlater⟩
    · intro ⟨⟨state, hfirst⟩, hlater⟩
      exact ⟨state, hfirst, (ih hrest).mpr hlater⟩

/-- A check of all with one refusal. -/
theorem forM_ensure [DecidablePred p] :
    xs.forM (fun x => ensure (p x) error) = ensure (∀ x ∈ xs, p x) error := by
  induction xs with
  | nil => rfl
  | cons x xs ih =>
    rw [List.forM, ih]
    by_cases hx : p x
    · simp only [ensure, hx, if_true, List.forall_mem_cons, true_and]
      rfl
    · simp only [ensure, hx, if_false, List.forall_mem_cons, false_and]
      rfl

/-- A loop that fails has failed at a step. -/
theorem exists_of_foldlM_eq_error (h : xs.foldlM step start = .error error) :
    ∃ x ∈ xs, ∃ state, step state x = .error error := by
  induction xs generalizing start with
  | nil => exact nomatch h
  | cons x xs ih =>
    rw [List.foldlM_cons] at h
    cases hfirst : step start x with
    | error first =>
      rw [hfirst] at h
      obtain rfl := Except.error.inj h
      exact ⟨x, List.mem_cons_self, start, hfirst⟩
    | ok state =>
      rw [hfirst] at h
      obtain ⟨y, hy, hstate⟩ := ih h
      exact ⟨y, List.mem_cons_of_mem _ hy, hstate⟩

/-- A loop that collects and fails has failed at a step. -/
theorem exists_of_mapM_eq_error (h : xs.mapM f = .error error) : ∃ x ∈ xs, f x = .error error := by
  induction xs with
  | nil => exact nomatch h
  | cons x xs ih =>
    rw [List.mapM_cons] at h
    cases hfirst : f x with
    | error first =>
      rw [hfirst] at h
      obtain rfl := Except.error.inj h
      exact ⟨x, List.mem_cons_self, hfirst⟩
    | ok y =>
      cases hrest : xs.mapM f with
      | ok ys => simp [hfirst, hrest, bind, Except.bind, pure, Except.pure] at h
      | error last =>
        rw [hfirst, hrest] at h
        obtain rfl := Except.error.inj h
        obtain ⟨z, hz, hlast⟩ := ih hrest
        exact ⟨z, List.mem_cons_of_mem _ hz, hlast⟩

end ChatmanEcosystem.Rust
