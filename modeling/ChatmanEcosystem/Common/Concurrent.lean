import ChatmanEcosystem.Common.Run
import ChatmanEcosystem.Common.Tasks

/-!
# Concurrent calls over a shared state

A program is given by what each of its calls does from one await point to the
next. Any number of calls run at once: a call runs without interruption up to
an operation that it awaits, and goes on when the operation is answered.

* `Program`: what a call does when it is made, and when it goes on.
* `Program.next`: the system after an event.
* `Assertions`: what is asserted of the shared state, of each call, of each two
  calls, and of the things that the shared state or else some call accounts for.
* `Assertions.Hold`: the assertions hold in a state of the system.

The rule is that of assertions free of interference. `hold_next` asks of a call
that goes on that it keeps its own assertion and does not invalidate those of the
other calls; `Hold.enter`, `Hold.resume` and `Hold.move` are the three cases.
-/

namespace ChatmanEcosystem.Common.Concurrent

variable {σ φ κ α μ ι : Type*}

/-- What the calls do. `φ` is where a call stands, `κ` is what a call is made with, `α` is what an
awaited operation answers, and `μ` is what happens to the shared state `σ` besides. -/
structure Program (σ φ κ α μ : Type*) where
  /-- A call up to its first await. -/
  enter : σ → κ → φ × σ
  /-- A call from an answer to its next await, if it waits for such an answer. -/
  resume : σ → φ → α → Option (φ × σ)
  /-- A change of the shared state by others. -/
  move : σ → μ → σ

/-- The shared state, and where the calls stand that have been made. -/
@[ext] structure System (σ φ : Type*) where
  shared : σ
  calls : List φ

/-- A call is made, a call gets an answer, or others change the shared state. -/
inductive Event (κ α μ : Type*)
  | call (request : κ)
  | answer (call : ℕ) (answer : α)
  | move (change : μ)

namespace Program

variable (program : Program σ φ κ α μ)

/-- The system after an event. An answer that a call does not wait for does not happen. -/
def next (system : System σ φ) : Event κ α μ → System σ φ
  | .call request =>
    let entered := program.enter system.shared request
    { shared := entered.2, calls := system.calls ++ [entered.1] }
  | .answer i answer =>
    match system.calls[i]? with
    | none => system
    | some phase =>
      match program.resume system.shared phase answer with
      | none => system
      | some (phase, shared) => { shared, calls := system.calls.set i phase }
  | .move change => { system with shared := program.move system.shared change }

variable {program}

theorem next_answer {system : System σ φ} {i : ℕ} {answer : α} {phase : φ} {after : φ × σ}
    (hcall : system.calls[i]? = some phase)
    (hresume : program.resume system.shared phase answer = some after) :
    program.next system (.answer i answer) =
      { shared := after.2, calls := system.calls.set i after.1 } := by
  show (match system.calls[i]? with
    | none => system
    | some phase => _) = _
  rw [hcall]
  show (match program.resume system.shared phase answer with
    | none => system
    | some (phase, shared) => _) = _
  rw [hresume]

/-- An answer is taken by the call that waits for it, or does not happen. -/
theorem next_answer_cases (system : System σ φ) (i : ℕ) (answer : α) :
    program.next system (.answer i answer) = system ∨
    ∃ phase after, system.calls[i]? = some phase ∧
      program.resume system.shared phase answer = some after ∧
      program.next system (.answer i answer) =
        { shared := after.2, calls := system.calls.set i after.1 } := by
  cases hcall : system.calls[i]? with
  | none => exact .inl (by simp only [next, hcall])
  | some phase =>
    cases hresume : program.resume system.shared phase answer with
    | none => exact .inl (by simp only [next, hcall, hresume])
    | some after => exact .inr ⟨phase, after, rfl, hresume, next_answer hcall hresume⟩

/-- A condition that is met by the calls that are made, by the changes of others and by the answers
that no call takes is exact for the events if it is for the calls that go on. -/
theorem next_iff {Q : System σ φ → Prop} {C : System σ φ → Event κ α μ → Prop} {system : System σ φ}
    (henter : ∀ request, Q (program.next system (.call request)) ↔ C system (.call request))
    (hresume : ∀ i answer phase after, system.calls[i]? = some phase →
      program.resume system.shared phase answer = some after →
      (Q { shared := after.2, calls := system.calls.set i after.1 } ↔ C system (.answer i answer)))
    (hignore : ∀ i answer, (∀ phase, system.calls[i]? = some phase →
      program.resume system.shared phase answer = none) → (Q system ↔ C system (.answer i answer)))
    (hmove : ∀ change, Q (program.next system (.move change)) ↔ C system (.move change))
    (event : Event κ α μ) : Q (program.next system event) ↔ C system event := by
  cases event with
  | call request => exact henter request
  | move change => exact hmove change
  | answer i answer =>
    cases hcall : system.calls[i]? with
    | none =>
      have hnext : program.next system (.answer i answer) = system := by simp only [next, hcall]
      rw [hnext]
      exact hignore i answer fun phase hphase => by simp [hcall] at hphase
    | some phase =>
      cases hgo : program.resume system.shared phase answer with
      | none =>
        have hnext : program.next system (.answer i answer) = system := by
          simp only [next, hcall, hgo]
        rw [hnext]
        refine hignore i answer fun other hother => ?_
        obtain rfl := Option.some.inj (hcall.symm.trans hother)
        exact hgo
      | some after =>
        rw [next_answer hcall hgo]
        exact hresume i answer phase after hcall hgo

/-- What a call keeps as it goes on, some call has after every event. -/
theorem exists_call_next {p : φ → Prop}
    (hkeep : ∀ shared phase answer after, program.resume shared phase answer = some after →
      p phase → p after.1)
    {system : System σ φ} (event : Event κ α μ) (h : ∃ call ∈ system.calls, p call) :
    ∃ call ∈ (program.next system event).calls, p call := by
  obtain ⟨call, hcall, hp⟩ := h
  cases event with
  | call request => exact ⟨call, List.mem_append_left _ hcall, hp⟩
  | move change => exact ⟨call, hcall, hp⟩
  | answer i answer =>
    rcases program.next_answer_cases system i answer with hnext | ⟨phase, after, hphase, hgo, hnext⟩
    · rw [hnext]
      exact ⟨call, hcall, hp⟩
    · rw [hnext]
      obtain ⟨j, hj⟩ := List.mem_iff_getElem?.mp hcall
      by_cases heq : j = i
      · subst heq
        obtain rfl := Option.some.inj (hphase.symm.trans hj)
        have hlt : j < system.calls.length := (List.getElem?_eq_some_iff.mp hj).1
        exact ⟨after.1, List.mem_set hlt _, hkeep _ _ _ _ hgo hp⟩
      · have hset : (system.calls.set i after.1)[j]? = some call := by
          rw [List.getElem?_set_ne (Ne.symm heq)]
          exact hj
        exact ⟨call, List.mem_of_getElem? hset, hp⟩

end Program

variable {calls : List φ}

/-- A call that goes on is replaced, the others stay. -/
theorem mem_set_iff_of_ne {i : ℕ} {phase new call : φ} (hcall : calls[i]? = some phase)
    (hne : call ≠ phase) :
    call ∈ calls.set i new ↔ call = new ∨ call ∈ calls := by
  have hlt : i < calls.length := (List.getElem?_eq_some_iff.mp hcall).1
  constructor
  · intro h
    exact (List.mem_or_eq_of_mem_set h).symm
  · rintro (rfl | h)
    · exact List.mem_set hlt _
    · obtain ⟨j, hj⟩ := List.mem_iff_getElem?.mp h
      have hji : i ≠ j := by
        rintro rfl
        exact hne (Option.some.inj (hj.symm.trans hcall))
      exact List.mem_of_getElem? ((List.getElem?_set_ne hji).trans hj)

variable {β : Type*}

/-- What a call keeps as it goes on is read off the calls as before. -/
theorem map_set_of_eq {f : φ → β} {i : ℕ} {phase new : φ} (hcall : calls[i]? = some phase)
    (hkeep : f new = f phase) :
    (calls.set i new).map f = calls.map f := by
  rw [List.map_set, hkeep]
  have hphase : (calls.map f)[i]? = some (f phase) := by
    rw [List.getElem?_map, hcall, Option.map_some]
  obtain ⟨hlt, hget⟩ := List.getElem?_eq_some_iff.mp hphase
  rw [← hget, List.set_getElem_self]

/-- What is read off the calls after a call went on is read off that call, or as before. -/
theorem mem_map_set {f : φ → β} {i : ℕ} {new : φ} {b : β} (h : b ∈ (calls.set i new).map f) :
    b = f new ∨ b ∈ calls.map f := by
  rw [List.map_set] at h
  exact (List.mem_or_eq_of_mem_set h).symm

/-- What is not read off the call that goes on is still read off the calls. -/
theorem mem_map_set_iff_of_ne {f : φ → β} {i : ℕ} {phase new : φ} {b : β}
    (hcall : calls[i]? = some phase) (hne : b ≠ f phase) :
    b ∈ (calls.set i new).map f ↔ b = f new ∨ b ∈ calls.map f := by
  have hphase : (calls.map f)[i]? = some (f phase) := by
    rw [List.getElem?_map, hcall, Option.map_some]
  rw [List.map_set]
  exact mem_set_iff_of_ne hphase hne

/-! ## Assertions -/

/-- Assertions about the shared state and the calls. Each thing `k` is either settled in the
shared state or owed by a call. -/
structure Assertions (σ φ ι : Type*) where
  shared : σ → Prop
  call : σ → φ → Prop
  apart : φ → φ → Prop := fun _ _ => True
  symm : ∀ a b, apart a b → apart b a := by exact fun _ _ h => h
  settled : ι → σ → Prop
  owes : ι → σ → φ → Prop

namespace Assertions

variable {A : Assertions σ φ ι}

/-- The assertions hold in a state of the system. -/
structure Hold (A : Assertions σ φ ι) (system : System σ φ) : Prop where
  shared : A.shared system.shared
  call : ∀ (i : ℕ) phase, system.calls[i]? = some phase → A.call system.shared phase
  apart : ∀ (i j : ℕ) a b, i ≠ j → system.calls[i]? = some a → system.calls[j]? = some b →
    A.apart a b
  accounted : ∀ k, A.settled k system.shared ∨
    ∃ (i : ℕ) (phase : φ), system.calls[i]? = some phase ∧ A.owes k system.shared phase

/-- The shared state may change to `shared` as far as a call is concerned. -/
structure Spares (A : Assertions σ φ ι) (before shared : σ) (phase : φ) : Prop where
  call : A.call before phase → A.call shared phase
  owes : ∀ k, A.owes k before phase → A.settled k shared ∨ A.owes k shared phase

theorem Spares.refl (A : Assertions σ φ ι) (shared : σ) (phase : φ) :
    A.Spares shared shared phase := ⟨id, fun _ => .inr⟩

variable {system : System σ φ} {shared : σ} {new phase : φ} {i : ℕ}

/-- No call has been made. -/
theorem Hold.start (hshared : A.shared shared) (hsettled : ∀ k, A.settled k shared) :
    A.Hold { shared, calls := [] } where
  shared := hshared
  call i phase hcall := by
    rw [List.getElem?_nil] at hcall
    cases hcall
  apart i j a b _ ha := by
    rw [List.getElem?_nil] at ha
    cases ha
  accounted k := .inl (hsettled k)

/-- Others change the shared state. -/
theorem Hold.move (h : A.Hold system) (hshared : A.shared shared)
    (hcalls : ∀ (j : ℕ) call, system.calls[j]? = some call → A.Spares system.shared shared call)
    (hsettled : ∀ k, A.settled k system.shared → A.settled k shared) :
    A.Hold { system with shared } where
  shared := hshared
  call j call hcall := (hcalls j call hcall).call (h.call j call hcall)
  apart := h.apart
  accounted k := by
    rcases h.accounted k with hk | ⟨j, call, hcall, hk⟩
    · exact .inl (hsettled k hk)
    · exact ((hcalls j call hcall).owes k hk).imp_right fun hk => ⟨j, call, hcall, hk⟩

/-- A call is made. -/
theorem Hold.enter (h : A.Hold system) (hshared : A.shared shared) (hnew : A.call shared new)
    (happart : ∀ (j : ℕ) call, system.calls[j]? = some call → A.apart new call)
    (hcalls : ∀ (j : ℕ) call, system.calls[j]? = some call → A.Spares system.shared shared call)
    (hsettled : ∀ k, A.settled k system.shared → A.settled k shared ∨ A.owes k shared new) :
    A.Hold { shared, calls := system.calls ++ [new] } where
  shared := hshared
  call := forall_concat hnew fun j call hcall => (hcalls j call hcall).call (h.call j call hcall)
  apart := pairwise_concat A.symm h.apart happart
  accounted k := by
    have hlast : (system.calls ++ [new])[system.calls.length]? = some new :=
      List.getElem?_concat_length
    rcases h.accounted k with hk | ⟨j, call, hcall, hk⟩
    · exact (hsettled k hk).imp_right fun hk => ⟨_, new, hlast, hk⟩
    · refine ((hcalls j call hcall).owes k hk).imp_right fun hk => ⟨j, call, ?_, hk⟩
      rw [List.getElem?_append_left (List.getElem?_eq_some_iff.mp hcall).1]
      exact hcall

/-- A call goes on: it keeps its own assertion, and spares the other calls. -/
theorem Hold.resume (h : A.Hold system) (hcall : system.calls[i]? = some phase)
    (hshared : A.shared shared) (hnew : A.call shared new)
    (happart : ∀ (j : ℕ) call, j ≠ i → system.calls[j]? = some call → A.apart new call)
    (hothers : ∀ (j : ℕ) call, j ≠ i → system.calls[j]? = some call →
      A.Spares system.shared shared call)
    (hsettled : ∀ k, A.settled k system.shared ∨ A.owes k system.shared phase →
      A.settled k shared ∨ A.owes k shared new) :
    A.Hold { shared, calls := system.calls.set i new } where
  shared := hshared
  call := forall_set hnew fun j call hj hother => (hothers j call hj hother).call
    (h.call j call hother)
  apart := pairwise_set A.symm h.apart happart
  accounted k := by
    have hlt : i < system.calls.length := (List.getElem?_eq_some_iff.mp hcall).1
    have hown : A.settled k shared ∨ A.owes k shared new →
        A.settled k shared ∨ ∃ (j : ℕ) (call : φ), (system.calls.set i new)[j]? = some call ∧
          A.owes k shared call := fun hk =>
      hk.imp_right fun hk => ⟨i, new, List.getElem?_set_self hlt, hk⟩
    rcases h.accounted k with hk | ⟨j, call, hother, hk⟩
    · exact hown (hsettled k (.inl hk))
    · by_cases hj : j = i
      · subst hj
        rw [hcall] at hother
        obtain rfl := Option.some.inj hother
        exact hown (hsettled k (.inr hk))
      · refine ((hothers j call hj hother).owes k hk).imp_right fun hk => ⟨j, call, ?_, hk⟩
        rw [List.getElem?_set_ne (Ne.symm hj)]
        exact hother

/-- A call goes on and leaves the shared state as it is. -/
theorem Hold.goesOn (h : A.Hold system) (hcall : system.calls[i]? = some phase)
    (hnew : A.call system.shared new)
    (happart : ∀ (j : ℕ) call, j ≠ i → system.calls[j]? = some call → A.apart new call)
    (howes : ∀ k, A.owes k system.shared phase →
      A.settled k system.shared ∨ A.owes k system.shared new) :
    A.Hold { system with calls := system.calls.set i new } :=
  h.resume hcall h.shared hnew happart (fun _ _ _ _ => .refl A _ _) fun k hk =>
    hk.elim .inl (howes k)

/-! ## Runs -/

variable {program : Program σ φ κ α μ} {C : System σ φ → Event κ α μ → Prop}

/-- The assertions hold after an event that meets the condition `C`, if they do after the call, the
answer or the change that it is. -/
theorem hold_next
    (henter : ∀ system request, A.Hold system → C system (.call request) →
      A.Hold (program.next system (.call request)))
    (hresume : ∀ (system : System σ φ) i answer phase after, A.Hold system →
      C system (.answer i answer) → system.calls[i]? = some phase →
      program.resume system.shared phase answer = some after →
      A.Hold { shared := after.2, calls := system.calls.set i after.1 })
    (hmove : ∀ system change, A.Hold system → C system (.move change) →
      A.Hold (program.next system (.move change)))
    (system : System σ φ) (event : Event κ α μ) (h : A.Hold system) (hC : C system event) :
    A.Hold (program.next system event) := by
  cases event with
  | call request => exact henter system request h hC
  | move change => exact hmove system change h hC
  | answer i answer =>
    rcases program.next_answer_cases system i answer with hnext | ⟨phase, after, hcall, hgo, hnext⟩
    · rw [hnext]
      exact h
    · rw [hnext]
      exact hresume system i answer phase after h hC hcall hgo

end Assertions

end ChatmanEcosystem.Common.Concurrent
