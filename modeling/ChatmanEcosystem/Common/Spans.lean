import Mathlib.Data.List.Basic

/-!
# Spans of a sampled signal

A signal is sampled one instant after the other. A span is a maximal run of samples
that satisfy a predicate, with its first sample and the first sample after it, if
there is one: the scan keeps the first sample of the span that is open.

Results:

* `mem_spans_iff`: the spans of a list of samples, by the indices of their samples.
-/

namespace ChatmanEcosystem.Common

variable {α : Type*} (p : α → Bool)

/-- The spans that end in the samples, when one is open that began with the given sample. -/
def spansFrom : Option α → List α → List (α × Option α)
  | none, [] => []
  | some first, [] => [(first, none)]
  | opened, a :: rest =>
    if p a then spansFrom (some (opened.getD a)) rest
    else
      match opened with
      | none => spansFrom none rest
      | some first => (first, some a) :: spansFrom none rest

/-- The spans of the samples. -/
def spans (samples : List α) : List (α × Option α) := spansFrom p none samples

/-- The samples from index `i` on satisfy the predicate up to the given one, or to the last. -/
def LastsUntil (samples : List α) (i : ℕ) : Option α → Prop
  | some stop => ∃ j, i ≤ j ∧ samples[j]? = some stop ∧ p stop = false ∧
    ∀ k a, i ≤ k → k < j → samples[k]? = some a → p a = true
  | none => ∀ k a, i ≤ k → samples[k]? = some a → p a = true

variable {p} {samples : List α} {a first : α} {stop : Option α}

theorem lastsUntil_cons_succ {i : ℕ} :
    LastsUntil p (a :: samples) (i + 1) stop ↔ LastsUntil p samples i stop := by
  cases stop with
  | none =>
    constructor
    · intro h k b hik hb
      exact h (k + 1) b (by omega) hb
    · rintro h (_ | k) b hik hb
      · omega
      · exact h k b (by omega) hb
  | some stop =>
    constructor
    · rintro ⟨_ | j, hij, hj, hstop, h⟩
      · omega
      · exact ⟨j, by omega, hj, hstop, fun k b hik hkj hb => h (k + 1) b (by omega) (by omega) hb⟩
    · rintro ⟨j, hij, hj, hstop, h⟩
      refine ⟨j + 1, by omega, hj, hstop, ?_⟩
      rintro (_ | k) b hik hkj hb
      · omega
      · exact h k b (by omega) (by omega) hb

/-- The next sample is in the span. -/
theorem lastsUntil_cons_of_pos (ha : p a = true) :
    LastsUntil p (a :: samples) 0 stop ↔ LastsUntil p samples 0 stop := by
  have hshift : LastsUntil p samples 0 stop ↔ LastsUntil p (a :: samples) 1 stop :=
    lastsUntil_cons_succ.symm
  rw [hshift]
  cases stop with
  | none =>
    refine ⟨fun h k b _ hb => h k b (Nat.zero_le k) hb, ?_⟩
    rintro h (_ | k) b - hb
    · exact Option.some.inj hb ▸ ha
    · exact h (k + 1) b (by omega) hb
  | some stop =>
    constructor
    · rintro ⟨_ | j, -, hj, hstop, h⟩
      · rw [← Option.some.inj hj, ha] at hstop
        cases hstop
      · exact ⟨j + 1, by omega, hj, hstop, fun k b _ hkj hb => h k b (Nat.zero_le k) hkj hb⟩
    · rintro ⟨j, -, hj, hstop, h⟩
      refine ⟨j, Nat.zero_le j, hj, hstop, ?_⟩
      rintro (_ | k) b - hkj hb
      · exact Option.some.inj hb ▸ ha
      · exact h (k + 1) b (by omega) hkj hb

/-- The next sample is the first after the span. -/
theorem lastsUntil_cons_of_neg (ha : p a = false) :
    LastsUntil p (a :: samples) 0 stop ↔ stop = some a := by
  cases stop with
  | none =>
    refine ⟨fun h => ?_, fun h => by cases h⟩
    rw [h 0 a (Nat.le_refl 0) rfl] at ha
    cases ha
  | some stop =>
    constructor
    · rintro ⟨_ | j, -, hj, -, h⟩
      · exact hj.symm
      · rw [h 0 a (Nat.le_refl 0) (Nat.succ_pos j) rfl] at ha
        cases ha
    · rintro ⟨rfl⟩
      exact ⟨0, Nat.le_refl 0, rfl, ha, fun k b _ hk => by omega⟩

/-- A span begins with the sample of index `i`, and the sample before it is not in it. -/
def BeginsAt (p : α → Bool) (samples : List α) (i : ℕ) (first : α) : Prop :=
  samples[i]? = some first ∧ p first = true ∧
    ∀ j b, j + 1 = i → samples[j]? = some b → p b = false

theorem beginsAt_cons_zero : BeginsAt p (a :: samples) 0 first ↔ a = first ∧ p a = true := by
  constructor
  · rintro ⟨hfirst, hp, -⟩
    obtain rfl := Option.some.inj hfirst
    exact ⟨rfl, hp⟩
  · rintro ⟨rfl, hp⟩
    exact ⟨rfl, hp, fun j b hj => by omega⟩

theorem beginsAt_cons_succ {i : ℕ} : BeginsAt p (a :: samples) (i + 1) first ↔
    BeginsAt p samples i first ∧ (i = 0 → p a = false) := by
  constructor
  · rintro ⟨hfirst, hp, hbefore⟩
    refine ⟨⟨hfirst, hp, fun j b hj hb => hbefore (j + 1) b (by omega) hb⟩, ?_⟩
    rintro rfl
    exact hbefore 0 a rfl rfl
  · rintro ⟨⟨hfirst, hp, hbefore⟩, hzero⟩
    refine ⟨hfirst, hp, ?_⟩
    rintro (_ | j) b hj hb
    · rw [← Option.some.inj hb]
      exact hzero (by omega)
    · exact hbefore j b (by omega) hb

/-- The open span, and those that begin later. -/
theorem mem_spansFrom_iff (opened : Option α) :
    (first, stop) ∈ spansFrom p opened samples ↔
      (opened = some first ∧ LastsUntil p samples 0 stop) ∨
      ∃ i, BeginsAt p samples i first ∧ (i = 0 → opened = none) ∧
        LastsUntil p samples (i + 1) stop := by
  induction samples generalizing opened with
  | nil =>
    have hnone : ∀ i, ¬ BeginsAt p [] i first := fun i h => by simpa using h.1
    cases opened with
    | none => simp [spansFrom, hnone]
    | some other =>
      cases stop with
      | none =>
        have hlasts : LastsUntil p [] 0 none := fun k b _ hb => by simp at hb
        simp only [spansFrom, List.mem_singleton, Prod.mk.injEq, and_true, hlasts, hnone, false_and,
          exists_false, or_false, Option.some.injEq]
        exact eq_comm
      | some stop => simp [spansFrom, hnone, LastsUntil]
  | cons a rest ih =>
    have hcons : (∃ i, BeginsAt p (a :: rest) i first ∧ (i = 0 → opened = none) ∧
        LastsUntil p (a :: rest) (i + 1) stop) ↔
        (a = first ∧ p a = true ∧ opened = none ∧ LastsUntil p rest 0 stop) ∨
        ∃ i, BeginsAt p rest i first ∧ (i = 0 → p a = false) ∧ LastsUntil p rest (i + 1) stop := by
      constructor
      · rintro ⟨_ | i, hbegins, hopened, hlasts⟩
        · obtain ⟨hfirst, hp⟩ := beginsAt_cons_zero.mp hbegins
          exact .inl ⟨hfirst, hp, hopened rfl, lastsUntil_cons_succ.mp hlasts⟩
        · obtain ⟨hbegins, hzero⟩ := beginsAt_cons_succ.mp hbegins
          exact .inr ⟨i, hbegins, hzero, lastsUntil_cons_succ.mp hlasts⟩
      · rintro (⟨hfirst, hp, hopened, hlasts⟩ | ⟨i, hbegins, hzero, hlasts⟩)
        · exact ⟨0, beginsAt_cons_zero.mpr ⟨hfirst, hp⟩, fun _ => hopened,
            lastsUntil_cons_succ.mpr hlasts⟩
        · exact ⟨i + 1, beginsAt_cons_succ.mpr ⟨hbegins, hzero⟩, fun h => by omega,
            lastsUntil_cons_succ.mpr hlasts⟩
    rw [hcons]
    cases hp : p a with
    | true =>
      -- the sample continues the open span, or opens one
      have hspans : spansFrom p opened (a :: rest) = spansFrom p (some (opened.getD a)) rest := by
        cases opened <;> simp [spansFrom, hp]
      rw [hspans, ih, lastsUntil_cons_of_pos hp]
      cases opened with
      | none => simp
      | some other => simp
    | false =>
      -- the sample ends the open span
      rw [lastsUntil_cons_of_neg hp]
      cases opened with
      | none =>
        have hspans : spansFrom p none (a :: rest) = spansFrom p none rest := by
          simp [spansFrom, hp]
        rw [hspans, ih]
        simp
      | some other =>
        have hspans : spansFrom p (some other) (a :: rest) =
            (other, some a) :: spansFrom p none rest := by simp [spansFrom, hp]
        rw [hspans, List.mem_cons, ih, Prod.mk.injEq, Option.some.injEq]
        simp [eq_comm (a := first)]

/-- A span begins with a sample that satisfies the predicate after one that does not, and lasts
until the first that does not. -/
theorem mem_spans_iff : (first, stop) ∈ spans p samples ↔
    ∃ i, BeginsAt p samples i first ∧ LastsUntil p samples (i + 1) stop := by
  simp [spans, mem_spansFrom_iff]

end ChatmanEcosystem.Common
