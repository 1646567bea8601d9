import ChatmanEcosystem.Common.DepthFirst
import ChatmanEcosystem.Py.Value
import Mathlib.Data.List.Chain

/-!
# The reference oracle of process models

Model of `powl_model.py` and `powl_oracle.py` of
`scripts/release_train/process_intelligence_crown_admission`. A model has a strict
order and choice edges over its activities; the oracle lists the traces from the start
to the first visit of the terminal within a bound.

Results:

* `checkModel_eq_ok`: what the constructor accepts.
* `mem_walk`: what the search collects.
* `exact_iff`: the oracle is exact unless it lists a trace whose start has activities
  before it.
-/

namespace ChatmanEcosystem.ReleaseTrain.Powl

open Common Py Rust Relation

/-! ## Models -/

/-- `graph[n]`: what the strict order puts after an activity (`powl_model.py`, lines 20–21). -/
def followers (strictOrder : List (String × String)) (n : String) : List String :=
  ((strictOrder.filter (·.1 = n)).map Prod.snd).dedup

/-- The order puts `a` before `b`. -/
abbrev Precedes (strictOrder : List (String × String)) : String → String → Prop :=
  Depends (followers strictOrder)

/-- `__post_init__` (`powl_model.py`, lines 13–29). -/
def checkModel (activities : List String) (strictOrder choiceEdges : List (String × String))
    (start terminal : String) (bound : ℤ) : Except (Raised String) Unit := do
  ensure (activities.Nodup ∧ activities ≠ []) (.refusal "INVALID_POWL_ACTIVITIES")
  ensure (start ∈ activities ∧ terminal ∈ activities) (.refusal "INVALID_POWL_TERMINALS")
  ensure (0 < bound) (.refusal "UNBOUNDED_POWL")
  (strictOrder ++ choiceEdges).forM fun edge =>
    ensure (edge.1 ∈ activities ∧ edge.2 ∈ activities ∧ edge.1 ≠ edge.2)
      (.refusal "FOREIGN_POWL_EDGE")
  let _ ← (postOrder (followers strictOrder) (activities.length + 1) activities).mapError
    fun _ => .refusal "CYCLIC_STRICT_ORDER"

/-- `PowlModel` (`powl_model.py`, lines 4–29). -/
structure PowlModel where
  activities : List String
  strictOrder : List (String × String)
  choiceEdges : List (String × String)
  start : String
  terminal : String
  bound : ℤ
  distinct : activities.Nodup ∧ activities ≠ []
  ends : start ∈ activities ∧ terminal ∈ activities
  bounded : 0 < bound
  closed : ∀ edge ∈ strictOrder ++ choiceEdges,
    edge.1 ∈ activities ∧ edge.2 ∈ activities ∧ edge.1 ≠ edge.2
  strict : ∀ a, ¬ TransGen (Precedes strictOrder) a a

variable {activities : List String} {strictOrder choiceEdges : List (String × String)}
  {start terminal a b : String} {bound : ℤ}

theorem mem_followers : b ∈ followers strictOrder a ↔ (a, b) ∈ strictOrder := by
  simp [followers]

/-- The constructor accepts what has the invariants of a model. -/
theorem checkModel_eq_ok :
    checkModel activities strictOrder choiceEdges start terminal bound = .ok () ↔
      (activities.Nodup ∧ activities ≠ []) ∧ (start ∈ activities ∧ terminal ∈ activities) ∧
        0 < bound ∧ (∀ edge ∈ strictOrder ++ choiceEdges,
          edge.1 ∈ activities ∧ edge.2 ∈ activities ∧ edge.1 ≠ edge.2) ∧
        ∀ a, ¬ TransGen (Precedes strictOrder) a a := by
  simp only [checkModel, bind_eq_ok, forM_eq_ok, ensure_eq_ok, mapError_eq_ok, exists_const]
  refine and_congr_right fun _ => and_congr_right fun _ => and_congr_right fun _ =>
    and_congr_right fun hclosed => ?_
  have hfollowers (a : String) : followers strictOrder a ⊆ activities := by
    intro b hb
    exact (hclosed (a, b) (List.mem_append_left _ (mem_followers.mp hb))).2.1
  have hok := postOrder_isOk_iff (fun a _ => hfollowers a) (List.Subset.refl activities)
    (Nat.lt_succ_self activities.length)
  constructor
  · rintro ⟨order, horder, -⟩ a hcycle
    obtain ⟨b, hb, -⟩ := TransGen.head'_iff.mp hcycle
    have ha : a ∈ activities :=
      (hclosed (a, b) (List.mem_append_left _ (mem_followers.mp hb))).1
    exact hok.mp ⟨order, horder⟩ a ha a .refl hcycle
  · intro hstrict
    obtain ⟨order, horder⟩ := hok.mpr fun _ _ a _ => hstrict a
    exact ⟨order, horder, rfl⟩

variable (model : PowlModel)

/-! ## The oracle -/

/-- `predecessors[n]` (`powl_oracle.py`, lines 5–6). -/
def predecessors (n : String) : List String :=
  ((model.strictOrder.filter (·.2 = n)).map Prod.fst).dedup

/-- `choices[n]` (`powl_oracle.py`, lines 7–8). -/
def choices (n : String) : List String :=
  (model.choiceEdges.filter (·.1 = n)).map Prod.snd

/-- `walk` (`powl_oracle.py`, lines 10–19); `remaining` counts the steps up to the bound. -/
def walk : ℕ → String → List String → List String → List (List String)
  | 0, _, _, _ => []
  | remaining + 1, current, seen, trace =>
    if current = model.terminal then [trace]
    else
      let enabled := (sortedTexts (choices model current)).filter fun next =>
        (predecessors model next).all (· ∈ seen)
      enabled.flatMap fun next => walk remaining next (next :: seen) (trace ++ [next])

/-- `bounded_traces` (`powl_oracle.py`, lines 3–21). -/
def boundedTraces : List (List String) :=
  (walk model (model.bound.toNat + 1) model.start [model.start] [model.start]).dedup.insertionSort
    (· ≤ ·)

/-! ## Traces -/

variable {model} {remaining : ℕ} {seen trace rest : List String} {current next : String}

/-- The activities that may follow, one choice edge after the other, to the first visit of the
terminal. -/
structure Continues (model : PowlModel) (remaining : ℕ) (seen : List String) (current : String)
    (rest : List String) : Prop where
  bounded : rest.length < remaining
  follows : (current :: rest).IsChain fun a b => (a, b) ∈ model.choiceEdges
  ends : ∃ front, current :: rest = front ++ [model.terminal] ∧ model.terminal ∉ front
  ordered : ∀ front a back, rest = front ++ a :: back →
    ∀ p, (p, a) ∈ model.strictOrder → p ∈ seen ∨ p ∈ front

theorem continues_terminal : Continues model (remaining + 1) seen model.terminal rest ↔
    rest = [] := by
  constructor
  · intro h
    obtain ⟨front, hfront, hnot⟩ := h.ends
    cases front with
    | nil => exact (List.cons.inj hfront).2
    | cons a front =>
      obtain rfl := (List.cons.inj hfront).1
      exact absurd List.mem_cons_self hnot
  · rintro rfl
    refine ⟨by simp, List.isChain_singleton _,
      ⟨[], rfl, List.not_mem_nil⟩, fun front a back h => ?_⟩
    simp at h

theorem not_continues_nil (hcurrent : current ≠ model.terminal) :
    ¬ Continues model remaining seen current [] := by
  intro h
  obtain ⟨front, hfront, -⟩ := h.ends
  cases front with
  | nil => exact hcurrent (List.cons.inj hfront).1
  | cons a front => simp at hfront

/-- One step of a trace. -/
theorem continues_cons (hcurrent : current ≠ model.terminal) :
    Continues model (remaining + 1) seen current (next :: rest) ↔
      (current, next) ∈ model.choiceEdges ∧ (∀ p, (p, next) ∈ model.strictOrder → p ∈ seen) ∧
        Continues model remaining (next :: seen) next rest := by
  constructor
  · intro h
    obtain ⟨hedge, hfollows⟩ := List.isChain_cons_cons.mp h.follows
    refine ⟨hedge, fun p hp => ?_, ?_, hfollows, ?_, fun front a back hrest p hp => ?_⟩
    · exact (h.ordered [] next rest rfl p hp).resolve_right List.not_mem_nil
    · simpa using h.bounded
    · obtain ⟨front, hfront, hnot⟩ := h.ends
      cases front with
      | nil => simp at hfront
      | cons a front =>
        exact ⟨front, (List.cons.inj hfront).2, fun hin => hnot (List.mem_cons_of_mem _ hin)⟩
    · rcases h.ordered (next :: front) a back (by rw [hrest,
        List.cons_append]) p hp with hseen | hin
      · exact .inl (List.mem_cons_of_mem _ hseen)
      · rcases List.mem_cons.mp hin with rfl | hin
        · exact .inl List.mem_cons_self
        · exact .inr hin
  · rintro ⟨hedge, henabled, h⟩
    refine ⟨by simpa using h.bounded, List.isChain_cons_cons.mpr ⟨hedge, h.follows⟩, ?_,
      fun front a back hrest p hp => ?_⟩
    · obtain ⟨front, hfront, hnot⟩ := h.ends
      refine ⟨current :: front, by rw [hfront, List.cons_append], ?_⟩
      rw [List.mem_cons, not_or]
      exact ⟨Ne.symm hcurrent, hnot⟩
    · cases front with
      | nil =>
        obtain ⟨rfl, -⟩ := List.cons.inj hrest
        exact .inl (henabled p hp)
      | cons b front =>
        obtain ⟨rfl, htail⟩ := List.cons.inj hrest
        rcases h.ordered front a back htail p hp with hseen | hin
        · rcases List.mem_cons.mp hseen with rfl | hseen
          · exact .inr List.mem_cons_self
          · exact .inl hseen
        · exact .inr (List.mem_cons_of_mem _ hin)

theorem mem_choices : next ∈ choices model current ↔ (current, next) ∈ model.choiceEdges := by
  simp [choices]

theorem predecessors_subset : (predecessors model next).all (· ∈ seen) = true ↔
    ∀ p, (p, next) ∈ model.strictOrder → p ∈ seen := by
  simp [predecessors]

/-- What the search collects: what may follow the trace it came with. -/
theorem mem_walk {found : List String} :
    found ∈ walk model remaining current seen trace ↔
      ∃ rest, found = trace ++ rest ∧ Continues model remaining seen current rest := by
  induction remaining generalizing current seen trace with
  | zero =>
    constructor
    · exact fun h => absurd h List.not_mem_nil
    · rintro ⟨rest, -, h⟩
      exact absurd h.bounded (Nat.not_lt_zero _)
  | succ remaining ih =>
    rw [walk]
    by_cases hcurrent : current = model.terminal
    · rw [if_pos hcurrent, List.mem_singleton, hcurrent]
      simp only [continues_terminal, exists_eq_right, List.append_nil]
    · rw [if_neg hcurrent]
      simp only [List.mem_flatMap, List.mem_filter, mem_sortedTexts, mem_choices,
        predecessors_subset, ih]
      constructor
      · rintro ⟨next, ⟨hedge, henabled⟩, rest, rfl, h⟩
        exact ⟨next :: rest, by simp, (continues_cons hcurrent).mpr ⟨hedge, henabled, h⟩⟩
      · rintro ⟨rest, rfl, h⟩
        cases rest with
        | nil => exact absurd h (not_continues_nil hcurrent)
        | cons next rest =>
          obtain ⟨hedge, henabled, h⟩ := (continues_cons hcurrent).mp h
          exact ⟨next, ⟨hedge, henabled⟩, rest, by simp, h⟩

/-- A sequence of activities that the model allows. -/
structure IsTrace (model : PowlModel) (trace : List String) : Prop where
  begins : trace.head? = some model.start
  ends : ∃ front, trace = front ++ [model.terminal] ∧ model.terminal ∉ front
  follows : trace.IsChain fun a b => (a, b) ∈ model.choiceEdges
  bounded : (trace.length : ℤ) ≤ model.bound + 1
  ordered : ∀ front a back, trace = front ++ a :: back →
    ∀ p, (p, a) ∈ model.strictOrder → p ∈ front

/-- The oracle lists the traces of the model, and nothing else. -/
def Exact (model : PowlModel) : Prop := ∀ trace, trace ∈ boundedTraces model ↔ IsTrace model trace

/-- The terminal can be reached from the start within the bound, if each later activity waits for
the activities before it. -/
def Reaches (model : PowlModel) : Prop :=
  ∃ rest, Continues model (model.bound.toNat + 1) [model.start] model.start rest

theorem mem_boundedTraces : trace ∈ boundedTraces model ↔ ∃ rest, trace = model.start :: rest ∧
    Continues model (model.bound.toNat + 1) [model.start] model.start rest := by
  rw [boundedTraces, (List.perm_insertionSort _ _).mem_iff, List.mem_dedup, mem_walk]
  rfl

/-- A trace of the model is one of the search whose start waits for nothing. -/
theorem isTrace_iff : IsTrace model trace ↔
    (∀ p, (p, model.start) ∉ model.strictOrder) ∧ trace ∈ boundedTraces model := by
  have hbound : (model.bound.toNat : ℤ) = model.bound := Int.toNat_of_nonneg model.bounded.le
  rw [mem_boundedTraces]
  constructor
  · intro h
    obtain ⟨rest, rfl⟩ := List.head?_eq_some_iff.mp h.begins
    have hlength := h.bounded
    rw [List.length_cons] at hlength
    refine ⟨fun p hp => ?_, rest, rfl, by omega, h.follows,
      h.ends, fun front a back hrest p hp => ?_⟩
    · exact absurd (h.ordered [] model.start rest rfl p hp) List.not_mem_nil
    · have hin := h.ordered (model.start :: front) a back (by rw [hrest, List.cons_append]) p hp
      rwa [List.mem_cons, ← List.mem_singleton] at hin
  · rintro ⟨hstart, rest, rfl, h⟩
    have hlength := h.bounded
    refine ⟨rfl, h.ends, h.follows, ?_, fun front a back htrace p hp => ?_⟩
    · rw [List.length_cons]
      omega
    · cases front with
      | nil =>
        obtain ⟨rfl, -⟩ := List.cons.inj htrace
        exact absurd hp (hstart p)
      | cons first front =>
        obtain ⟨rfl, hrest⟩ := List.cons.inj htrace
        rw [List.mem_cons, ← List.mem_singleton]
        exact h.ordered front a back hrest p hp

/-- The oracle is exact if nothing is ordered before the start, or if no trace is found at all. -/
theorem exact_iff (model : PowlModel) :
    Exact model ↔ (∀ p, (p, model.start) ∉ model.strictOrder) ∨ ¬ Reaches model := by
  constructor
  · intro hexact
    by_cases hreaches : Reaches model
    · obtain ⟨rest, h⟩ := hreaches
      have htrace := (hexact (model.start :: rest)).mp (mem_boundedTraces.mpr ⟨rest, rfl, h⟩)
      exact .inl (isTrace_iff.mp htrace).1
    · exact .inr hreaches
  · rintro (hstart | hnone) trace
    · exact ⟨fun h => isTrace_iff.mpr ⟨hstart, h⟩, fun h => (isTrace_iff.mp h).2⟩
    · have hempty : trace ∉ boundedTraces model := fun h => by
        obtain ⟨rest, -, h⟩ := mem_boundedTraces.mp h
        exact hnone ⟨rest, h⟩
      exact ⟨fun h => absurd h hempty, fun h => absurd (isTrace_iff.mp h).2 hempty⟩

/-- Three activities, the first of which is ordered after the second. -/
def sampleModel : PowlModel where
  activities := ["s", "p", "t"]
  strictOrder := [("p", "s")]
  choiceEdges := [("s", "t")]
  start := "s"
  terminal := "t"
  bound := 4
  distinct := by decide
  ends := by decide
  bounded := by decide
  closed := by decide
  strict := by
    have hchecked : checkModel ["s", "p", "t"] [("p", "s")] [("s", "t")] "s" "t" 4 = .ok () :=
      toOption_eq_some.mp (by decide)
    exact (checkModel_eq_ok.mp hchecked).2.2.2.2

theorem start_not_waiting : ¬ Exact sampleModel := by
  intro hexact
  have hlisted : ["s", "t"] ∈ boundedTraces sampleModel := by decide
  have hbefore := ((hexact ["s", "t"]).mp hlisted).ordered [] "s" ["t"] rfl "p" (by decide)
  exact absurd hbefore List.not_mem_nil

end ChatmanEcosystem.ReleaseTrain.Powl
