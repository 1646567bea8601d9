import Mathlib.Data.List.Destutter
import Mathlib.Data.List.Range

/-!
# Runs of a deterministic system

A system is a function `next : σ → ε → σ` that says what one event does to the
state. A run is a finite list of events; an interleaving of several callers is
a list of events that carry the caller's number.

* `run next s es`: the state after the events `es`.
* `Along next P s es`: every event of the run is taken in a state where
  `P state event` holds. This is how a condition on the steps of a run is
  stated.
* `Always next Q s es`: `Q` holds in every state the run passes, the first and
  the last included.

The rules are `run_invariant` and `run_rel` for unconditional facts,
`always_of_along`, `along_of_along` and `run_rel_of_along` for those that need a condition on the
steps, and `always_iff_along`, `always_iff_along_given` and `run_iff_along` for a condition that is
exact at every step.
-/

namespace ChatmanEcosystem.Common

variable {σ ε : Type*} (next : σ → ε → σ)

/-- The state reached from `s` by the events `es`. -/
def run (s : σ) (es : List ε) : σ := es.foldl next s

@[simp] theorem run_nil (s : σ) : run next s [] = s := rfl

@[simp] theorem run_cons (s : σ) (e : ε) (es : List ε) :
    run next s (e :: es) = run next (next s e) es := rfl

@[simp] theorem run_append (s : σ) (es fs : List ε) :
    run next s (es ++ fs) = run next (run next s es) fs := List.foldl_append

variable {next}

variable {I : σ → Prop} {s : σ}

/-- What every step preserves, every run preserves. -/
theorem run_invariant (hstep : ∀ s e, I s → I (next s e)) (hs : I s) (es : List ε) :
    I (run next s es) := by
  induction es generalizing s with
  | nil => exact hs
  | cons e es ih => exact ih (hstep s e hs)

variable {R : σ → σ → Prop}

/-- A preorder that every step climbs is climbed by every run. The step may use
an invariant `I`. -/
theorem run_rel [Std.Refl R] [IsTrans σ R] (hI : ∀ s e, I s → I (next s e))
    (hstep : ∀ s e, I s → R s (next s e)) (hs : I s) (es : List ε) : R s (run next s es) := by
  induction es generalizing s with
  | nil => exact refl_of R s
  | cons e es ih => exact trans_of R (hstep s e hs) (ih (hI s e hs))

variable (next)

/-- Every event of the run is taken in a state where `P` allows it. -/
def Along (P : σ → ε → Prop) : σ → List ε → Prop
  | _, [] => True
  | s, e :: es => P s e ∧ Along P (next s e) es

/-- Whether a condition on the steps is met can be run. -/
instance Along.decidable (P : σ → ε → Prop) [∀ s e, Decidable (P s e)] :
    (s : σ) → (es : List ε) → Decidable (Along next P s es)
  | _, [] => .isTrue trivial
  | s, e :: es => @instDecidableAnd _ _ _ (decidable P (next s e) es)

/-- `Q` holds in every state of the run. -/
def Always (Q : σ → Prop) : σ → List ε → Prop
  | s, [] => Q s
  | s, e :: es => Q s ∧ Always Q (next s e) es

variable {next}

attribute [local simp] Along Always

variable {P : σ → ε → Prop} {es : List ε}

theorem along_append {fs : List ε} :
    Along next P s (es ++ fs) ↔ Along next P s es ∧ Along next P (run next s es) fs := by
  induction es generalizing s with
  | nil => simp
  | cons e es ih => simp [ih, and_assoc]

theorem along_and {Q : σ → ε → Prop} :
    Along next (fun s e => P s e ∧ Q s e) s es ↔ Along next P s es ∧ Along next Q s es := by
  induction es generalizing s with
  | nil => simp
  | cons e es ih =>
    simp only [Along, ih]
    exact and_and_and_comm

/-- `Along`, event by event. -/
theorem along_iff :
    Along next P s es ↔ ∀ pre e post, es = pre ++ e :: post → P (run next s pre) e := by
  constructor
  · rintro h pre e post rfl
    exact (along_append.mp h).2.1
  · intro h
    induction es generalizing s with
    | nil => trivial
    | cons e es ih =>
      refine ⟨h [] e es rfl, ih fun pre f post hes => ?_⟩
      exact h (e :: pre) f post (by rw [hes, List.cons_append])

variable {Q : σ → Prop}

/-- `Always`, state by state. -/
theorem always_iff :
    Always next Q s es ↔ ∀ pre post, es = pre ++ post → Q (run next s pre) := by
  induction es generalizing s with
  | nil =>
    constructor
    · intro h pre post hes
      obtain ⟨rfl, -⟩ := List.nil_eq_append_iff.mp hes
      exact h
    · intro h; exact h [] [] rfl
  | cons e es ih =>
    rw [Always, ih]
    constructor
    · rintro ⟨h0, h⟩ pre post hes
      cases pre with
      | nil => exact h0
      | cons f pre =>
        obtain ⟨rfl, rfl⟩ := List.cons_eq_cons.mp hes
        exact h pre post rfl
    · intro h
      refine ⟨h [] (e :: es) rfl, fun pre post hes => ?_⟩
      exact h (e :: pre) post (by rw [hes, List.cons_append])

theorem Always.mono {Q' : σ → Prop} (hQ : ∀ s, Q s → Q' s) (h : Always next Q s es) :
    Always next Q' s es :=
  always_iff.mpr fun pre post hes => hQ _ (always_iff.mp h pre post hes)

/-- A preorder that every step that meets `P` climbs is climbed by every run of such steps. -/
theorem run_rel_of_along [Std.Refl R] [IsTrans σ R] (hstep : ∀ s e, P s e → R s (next s e))
    (h : Along next P s es) :
    R s (run next s es) := by
  induction es generalizing s with
  | nil => exact refl_of R s
  | cons e es ih => exact trans_of R (hstep s e h.1) (ih h.2)

/-- An invariant that the condition `P` on the steps preserves holds in every
state of a run whose steps all meet the condition. -/
theorem always_of_along (hstep : ∀ s e, I s → P s e → I (next s e)) (hs : I s)
    (h : Along next P s es) : Always next I s es := by
  induction es generalizing s with
  | nil => exact hs
  | cons e es ih => exact ⟨hs, ih (hstep s e hs h.1) h.2⟩

/-- What a step that meets `P` does in the states of an invariant, it does in every run whose steps
all meet `P`. -/
theorem along_of_along {Q : σ → ε → Prop} (hstep : ∀ s e, I s → P s e → I (next s e))
    (hP : ∀ s e, I s → P s e → Q s e) (hs : I s) (h : Along next P s es) : Along next Q s es := by
  induction es generalizing s with
  | nil => trivial
  | cons e es ih => exact ⟨hP s e hs h.1, ih (hstep s e hs h.1) h.2⟩

/-- If in the states of an unconditional invariant `I` a step from a `Q`-state
leads to a `Q`-state exactly when it meets `P`, then a run from a `Q`-state stays
in `Q` exactly when all its steps meet `P`. -/
theorem always_iff_along (hI : ∀ s e, I s → I (next s e))
    (hex : ∀ s e, I s → Q s → (Q (next s e) ↔ P s e)) (hs : I s) (hq : Q s) :
    Always next Q s es ↔ Along next P s es := by
  induction es generalizing s with
  | nil => simp [Always, Along, hq]
  | cons e es ih =>
    simp only [Always, Along, hq, true_and]
    constructor
    · intro h
      have hq' : Q (next s e) := by cases es <;> first | exact h | exact h.1
      exact ⟨(hex s e hs hq).mp hq', (ih (hI s e hs) hq').mp h⟩
    · rintro ⟨hp, h⟩
      exact (ih (hI s e hs) ((hex s e hs hq).mpr hp)).mpr h

/-- If an invariant `I` has `Q`, is preserved by the steps that meet `D` and `P`, and such a step
out of it that meets `D` and not `P` ends outside `Q`, then a run whose steps all meet `D` stays in
`Q` exactly when they all meet `P`. -/
theorem always_iff_along_given {D : σ → ε → Prop} (hQ : ∀ s, I s → Q s)
    (hI : ∀ s e, I s → D s e → P s e → I (next s e))
    (hP : ∀ s e, I s → D s e → Q (next s e) → P s e) (hs : I s) (hD : Along next D s es) :
    Always next Q s es ↔ Along next P s es := by
  induction es generalizing s with
  | nil => simp [Always, Along, hQ s hs]
  | cons e es ih =>
    simp only [Always, Along, hQ s hs, true_and]
    constructor
    · intro h
      have hnext : Q (next s e) := by cases es <;> first | exact h | exact h.1
      have hp := hP s e hs hD.1 hnext
      exact ⟨hp, (ih (hI s e hs hD.1 hp) hD.2).mp h⟩
    · rintro ⟨hp, h⟩
      exact (ih (hI s e hs hD.1 hp) hD.2).mpr h

theorem along_true (s : σ) (es : List ε) : Along next (fun _ _ => True) s es := by
  induction es generalizing s with
  | nil => trivial
  | cons e es ih => exact ⟨trivial, ih (next s e)⟩

/-- If an invariant `I` has `Q`, is preserved by the steps that meet `P`, and a step out of it that
does not meet `P` ends outside `Q`, then a run stays in `Q` exactly when all its steps meet `P`. -/
theorem always_iff_along_of (hQ : ∀ s, I s → Q s) (hI : ∀ s e, I s → P s e → I (next s e))
    (hP : ∀ s e, I s → Q (next s e) → P s e) (hs : I s) : Always next Q s es ↔ Along next P s es :=
  always_iff_along_given hQ (fun s e h _ => hI s e h) (fun s e h _ => hP s e h) hs (along_true s es)

/-- If in the states of an invariant `I` a step whose event meets `C` leads to a `Q`-state exactly
from a `Q`-state in which it meets `P`, then a run of such events ends in a `Q`-state exactly when
it begins in one and all its steps meet `P`. -/
theorem run_iff_along {C : ε → Prop} (hI : ∀ s e, I s → C e → I (next s e))
    (hex : ∀ s e, I s → C e → (Q (next s e) ↔ Q s ∧ P s e)) (hs : I s) (hC : ∀ e ∈ es, C e) :
    Q (run next s es) ↔ Q s ∧ Along next P s es := by
  induction es generalizing s with
  | nil => simp
  | cons e es ih =>
    obtain ⟨he, hes⟩ := List.forall_mem_cons.mp hC
    rw [run_cons, ih (hI s e hs he) hes, hex s e hs he, Along, and_assoc]

/-- An invariant that the events that meet `C` preserve holds after every run of them. -/
theorem run_invariant_of {C : ε → Prop} (hI : ∀ s e, I s → C e → I (next s e)) (hs : I s)
    (hC : ∀ e ∈ es, C e) : I (run next s es) := by
  induction es generalizing s with
  | nil => exact hs
  | cons e es ih =>
    obtain ⟨he, hes⟩ := List.forall_mem_cons.mp hC
    exact ih (hI s e hs he) hes

/-! ## Stages of a run

Something in the state of a system goes through stages, which are numbered: a step
leaves it at its stage or takes it to the next one.

* `Advances`: what a step may do to the stage.

The rule is `stages_of_advances`: the stages that a run passes, each taken once for
as long as it lasts, are an initial part of all the stages.
-/

section

variable {σ ε β : Type*} {next : σ → ε → σ} {stage : σ → β} {rank : β → ℕ}

/-- The stage stays, or the next one follows. -/
def Advances (rank : β → ℕ) (before after : β) : Prop :=
  rank after = rank before ∨ rank after = rank before + 1

variable {I : σ → Prop} {s : σ}

/-- The numbers of the stages that a run passes. -/
theorem ranks_of_advances (hI : ∀ s e, I s → I (next s e))
    (hstep : ∀ s e, I s → Advances rank (stage s) (stage (next s e))) (hs : I s) (es : List ε) :
    ∃ n, ((es.scanl next s).map fun s => rank (stage s)).destutter (· ≠ ·) =
      List.range' (rank (stage s)) (n + 1) := by
  induction es generalizing s with
  | nil => exact ⟨0, rfl⟩
  | cons e es ih =>
    obtain ⟨n, hn⟩ := ih (hI s e hs)
    obtain ⟨later, hlater⟩ : ∃ later, es.scanl next (next s e) = next s e :: later := by
      cases es with
      | nil => exact ⟨[], rfl⟩
      | cons f es => exact ⟨_, List.scanl_cons⟩
    rw [List.scanl_cons, hlater, List.map_cons, List.map_cons, List.destutter_cons_cons]
    rw [hlater, List.map_cons, List.destutter_cons'] at hn
    rcases hstep s e hs with hsame | hnext
    · rw [if_neg (by rw [hsame]; simp), ← hsame]
      exact ⟨n, hn⟩
    · rw [if_pos (by omega), hn, hnext]
      exact ⟨n + 1, rfl⟩

/-- The stages that a run passes are an initial part of all the stages. -/
theorem stages_of_advances [DecidableEq β] {stages : List β} (hinj : Function.Injective rank)
    (hstages : stages.map rank = List.range stages.length) (hlt : ∀ b, rank b < stages.length)
    (hI : ∀ s e, I s → I (next s e))
    (hstep : ∀ s e, I s → Advances rank (stage s) (stage (next s e))) (hs : I s)
    (hstart : rank (stage s) = 0) (es : List ε) :
    ((es.scanl next s).map stage).destutter (· ≠ ·) <+: stages := by
  obtain ⟨n, hn⟩ := ranks_of_advances hI hstep hs es
  have hmap : (((es.scanl next s).map stage).destutter (· ≠ ·)).map rank = List.range (n + 1) := by
    rw [List.map_destutter_ne _ hinj, List.map_map, List.range_eq_range', ← hstart]
    exact hn
  have hle : n + 1 ≤ stages.length := by
    have hmem : n ∈ List.range (n + 1) := List.mem_range.mpr (Nat.lt_succ_self n)
    rw [← hmap] at hmem
    obtain ⟨b, -, hb⟩ := List.mem_map.mp hmem
    rw [← hb]
    exact hlt b
  have htake : (stages.take (n + 1)).map rank = List.range (n + 1) := by
    rw [List.map_take, hstages, List.take_range, Nat.min_eq_left hle]
  have heq := hinj.list_map (hmap.trans htake.symm)
  rw [heq]
  exact List.take_prefix _ _

end

end ChatmanEcosystem.Common
