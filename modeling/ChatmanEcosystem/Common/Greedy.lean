import ChatmanEcosystem.Rust.Result

/-!
# Greedy choice

A greedy pass takes each element that the ones taken before it allow. If what is
allowed only shrinks as more is taken, then nothing that was passed over can be
taken at the end.

Results:

* `greedy_eq_append`: what a pass takes is a sublist of what it goes through.
* `greedy_preserves`: what each taken element preserves holds at the end.
* `greedy_maximal`: an element that is not taken does not fit what was taken.
-/

namespace ChatmanEcosystem.Common

open Rust

variable {ε α : Type}

/-- A greedy pass. Whether an element is taken may fail to be decided. -/
def greedy (fits : List α → α → Except ε Bool) (chosen : List α) : List α → Except ε (List α)
  | [] => .ok chosen
  | x :: xs => do
    if ← fits chosen x then greedy fits (chosen ++ [x]) xs else greedy fits chosen xs

variable {fits : List α → α → Except ε Bool} {chosen xs result : List α} {x : α}

/-- One step of a pass. -/
theorem greedy_cons : greedy fits chosen (x :: xs) = .ok result ↔
    fits chosen x = .ok true ∧ greedy fits (chosen ++ [x]) xs = .ok result ∨
      fits chosen x = .ok false ∧ greedy fits chosen xs = .ok result := by
  rw [greedy, bind_eq_ok]
  constructor
  · rintro ⟨taken, htaken, h⟩
    cases taken with
    | true => exact .inl ⟨htaken, h⟩
    | false => exact .inr ⟨htaken, h⟩
  · rintro (⟨htaken, h⟩ | ⟨htaken, h⟩)
    · exact ⟨true, htaken, h⟩
    · exact ⟨false, htaken, h⟩

theorem greedy_eq_append (h : greedy fits chosen xs = .ok result) :
    ∃ picked, result = chosen ++ picked ∧ picked.Sublist xs := by
  induction xs generalizing chosen with
  | nil =>
    obtain rfl := Except.ok.inj h
    exact ⟨[], (List.append_nil _).symm, .slnil⟩
  | cons x xs ih =>
    rcases greedy_cons.mp h with ⟨-, h⟩ | ⟨-, h⟩
    · obtain ⟨picked, rfl, hpicked⟩ := ih h
      exact ⟨x :: picked, by simp, hpicked.cons_cons x⟩
    · obtain ⟨picked, rfl, hpicked⟩ := ih h
      exact ⟨picked, rfl, hpicked.cons x⟩

/-- An invariant of a pass. -/
theorem greedy_preserves {P : List α → Prop}
    (hstep : ∀ chosen x, P chosen → fits chosen x = .ok true → P (chosen ++ [x]))
    (hchosen : P chosen) (h : greedy fits chosen xs = .ok result) : P result := by
  induction xs generalizing chosen with
  | nil =>
    obtain rfl := Except.ok.inj h
    exact hchosen
  | cons x xs ih =>
    rcases greedy_cons.mp h with ⟨htaken, h⟩ | ⟨-, h⟩
    · exact ih (hstep chosen x hchosen htaken) h
    · exact ih hchosen h

/-- What was passed over stays unfit as more is taken. -/
theorem greedy_maximal {Fits : List α → α → Prop}
    (hsound : ∀ chosen x, fits chosen x = .ok false → ¬ Fits chosen x)
    (hantitone : ∀ chosen more x, Fits (chosen ++ more) x → Fits chosen x)
    (h : greedy fits chosen xs = .ok result) : ∀ x ∈ xs, x ∈ result ∨ ¬ Fits result x := by
  induction xs generalizing chosen with
  | nil => exact fun x hx => absurd hx List.not_mem_nil
  | cons y xs ih =>
    intro x hx
    rcases greedy_cons.mp h with ⟨htaken, h⟩ | ⟨hpassed, h⟩
    · rcases List.mem_cons.mp hx with rfl | hx
      · obtain ⟨picked, rfl, -⟩ := greedy_eq_append h
        exact .inl (List.mem_append_left _ (List.mem_append_right _ List.mem_cons_self))
      · exact ih h x hx
    · rcases List.mem_cons.mp hx with rfl | hx
      · obtain ⟨picked, rfl, -⟩ := greedy_eq_append h
        exact .inr fun hfits => hsound chosen x hpassed (hantitone chosen picked x hfits)
      · exact ih h x hx

end ChatmanEcosystem.Common
