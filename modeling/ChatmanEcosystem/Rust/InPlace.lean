import ChatmanEcosystem.Rust.Result

/-!
# Methods on `&mut self`

A method that returns `Result` and changes its object in place: what it has
written before an error stays written. A transaction instead is a function that
returns the changed object with its result, or an error.

* `Method`, `Method.call`: a method, and what a call answers and leaves behind.
* `Method.check`: a computation that does not touch the object.
* `Method.Yields`: what holds of the result and the object after a call.
* `Method.onPart`: a method of a part of the object.
* `committed`: what a transaction leaves behind.

A method does what a transaction does if its calls agree with `committed`. The rules
are `call_bind`, for a method after a method that does so, and `call_check_bind`, for
what comes after a check. The rules of `Yields` (`yields_check_bind`, `yields_bind`) go through
a method that leaves something behind when it errs.
-/

namespace ChatmanEcosystem.Rust

/-- A method that changes an object of type `σ`. -/
abbrev Method (σ ε : Type) := ExceptT ε (StateM σ)

variable {σ ε α β : Type}

/-- The result of a call, and the object after it. -/
def Method.call (method : Method σ ε α) (self : σ) : Except ε α × σ := method.run.run self

/-- A computation that does not touch the object, and `?`. -/
def Method.check (x : Except ε α) : Method σ ε α := ExceptT.mk (pure x)

/-- The result of a transaction, and the object after it. -/
def committed (self : σ) : Except ε (α × σ) → Except ε α × σ
  | .ok (a, after) => (.ok a, after)
  | .error error => (.error error, self)

namespace Method

variable {self : σ}

@[simp] theorem call_pure (a : α) : (pure a : Method σ ε α).call self = (.ok a, self) := rfl

@[simp] theorem call_throw (error : ε) :
    (throw error : Method σ ε α).call self = (.error error, self) := rfl

@[simp] theorem call_get : (get : Method σ ε σ).call self = (.ok self, self) := rfl

@[simp] theorem call_modify (f : σ → σ) :
    (modify f : Method σ ε PUnit).call self = (.ok ⟨⟩, f self) := rfl

@[simp] theorem call_check (x : Except ε α) :
    (check x : Method σ ε α).call self = (x, self) := rfl

@[simp] theorem call_get_bind (f : σ → Method σ ε β) :
    (get >>= f).call self = (f self).call self := rfl

@[simp] theorem call_modify_bind (change : σ → σ) (f : PUnit → Method σ ε β) :
    (modify change >>= f).call self = (f ⟨⟩).call (change self) := rfl

variable {method : Method σ ε α} {f : α → Method σ ε β} {a : α} {after : σ}

/-- A call goes on after a method that returned a value. -/
theorem call_of_ok (h : method.call self = (.ok a, after)) :
    (method >>= f).call self = (f a).call after := by
  show (match method.call self with
    | (x, after) => (ExceptT.bindCont f x).run after) = _
  rw [h]
  rfl

variable {error : ε}

theorem call_of_error (h : method.call self = (.error error, after)) :
    (method >>= f).call self = (.error error, after) := by
  show (match method.call self with
    | (x, after) => (ExceptT.bindCont f x).run after) = _
  rw [h]
  rfl

/-- A method goes on after one that does what a transaction does. -/
theorem call_bind {x : Except ε (α × σ)} {g : α × σ → Except ε (β × σ)}
    (h : method.call self = committed self x)
    (hf : ∀ a after, x = .ok (a, after) → (f a).call after = committed self (g (a, after))) :
    (method >>= f).call self = committed self (x >>= g) := by
  cases x with
  | error error => exact call_of_error h
  | ok result =>
    obtain ⟨a, after⟩ := result
    rw [call_of_ok h]
    exact hf a after rfl

variable {x : Except ε α}

/-- A method goes on after a check. -/
theorem call_check_bind {g : α → Except ε (β × σ)}
    (hf : ∀ a, x = .ok a → (f a).call self = committed self (g a)) :
    (check x >>= f).call self = committed self (x >>= g) := by
  cases x with
  | error error => rfl
  | ok a => exact hf a rfl

/-- A call whose value nobody looks at leaves behind what the call does. -/
theorem call_discard (method : Method σ ε α) :
    (do let _ ← method : Method σ ε Unit).call self =
      ((method.call self).1.map fun _ => (), (method.call self).2) := by
  cases hcall : method.call self with
  | mk x after =>
    cases x with
    | error error => exact call_of_error hcall
    | ok a => exact call_of_ok hcall

/-! ### What a call answers and leaves behind -/

/-- The result of the call, and the object after it, are in `Q`. -/
def Yields (method : Method σ ε α) (self : σ) (Q : Except ε α → σ → Prop) : Prop :=
  Q (method.call self).1 (method.call self).2

variable {Q : Except ε β → σ → Prop}

theorem yields_get_bind {f : σ → Method σ ε β} (h : (f self).Yields self Q) :
    (get >>= f).Yields self Q := h

theorem yields_modify_bind {change : σ → σ} {f : PUnit → Method σ ε β}
    (h : (f ⟨⟩).Yields (change self) Q) : (modify change >>= f).Yields self Q := h

theorem yields_pure {b : β} (h : Q (.ok b) self) : (pure b : Method σ ε β).Yields self Q := h

theorem yields_throw (h : Q (.error error) self) :
    (throw error : Method σ ε β).Yields self Q := h

/-- An error of a check ends the call. -/
theorem yields_check_bind (herror : ∀ error, x = .error error → Q (.error error) self)
    (hok : ∀ a, x = .ok a → (f a).Yields self Q) : (check x >>= f).Yields self Q := by
  cases x with
  | error error => exact herror error rfl
  | ok a => exact hok a rfl

/-- A check that is passed. -/
theorem yields_ok_bind (h : x = .ok a) (hf : (f a).Yields self Q) :
    (check x >>= f).Yields self Q := by
  rw [h]
  exact hf

theorem yields_ensure_bind {c : Prop} [Decidable c] {f : Unit → Method σ ε β} (h : c)
    (hf : (f ()).Yields self Q) : (check (ensure c error) >>= f).Yields self Q :=
  yields_ok_bind (ensure_eq_ok.mpr h) hf

/-- A call of another method, whose result and object are known. -/
theorem yields_bind
    (herror : ∀ error after, method.call self = (.error error, after) → Q (.error error) after)
    (hok : ∀ a after, method.call self = (.ok a, after) → (f a).Yields after Q) :
    (method >>= f).Yields self Q := by
  cases hcall : method.call self with
  | mk x after =>
    cases x with
    | error error =>
      rw [Yields, call_of_error hcall]
      exact herror error after hcall
    | ok a =>
      rw [Yields, call_of_ok hcall]
      exact hok a after hcall

/-- A call whose value nobody looks at. -/
theorem yields_discard {Q : Except ε Unit → σ → Prop}
    (h : method.Yields self fun x after => Q (x.map fun _ => ()) after) :
    (do let _ ← method : Method σ ε Unit).Yields self Q := by
  rw [Yields, call_discard]
  exact h

/-! ### Methods of a part -/

variable {τ δ : Type}

/-- A method of a part of the object, and `?` with `From` for its errors. -/
def onPart (part : σ → τ) (put : σ → τ → σ) (from_ : δ → ε) (method : Method τ δ α) :
    Method σ ε α :=
  ExceptT.mk fun self =>
    let (x, after) := method.call (part self)
    (x.mapError from_, put self after)

variable {part : σ → τ} {put : σ → τ → σ} {from_ : δ → ε}

theorem call_onPart (method : Method τ δ α) :
    (onPart part put from_ method).call self =
      ((method.call (part self)).1.mapError from_, put self (method.call (part self)).2) := rfl

/-- A part that does what a transaction does. -/
theorem call_onPart_of_committed {method : Method τ δ α} {x : Except δ (α × τ)}
    (h : method.call (part self) = committed (part self) x) :
    (∃ error, x = .error error ∧ (onPart part put from_ method).call self =
        (.error (from_ error), put self (part self))) ∨
      ∃ a after, x = .ok (a, after) ∧
        (onPart part put from_ method).call self = (.ok a, put self after) := by
  rw [call_onPart, h]
  cases x with
  | error error => exact .inl ⟨error, rfl, rfl⟩
  | ok result => exact .inr ⟨result.1, result.2, rfl, rfl⟩

end Method

end ChatmanEcosystem.Rust
