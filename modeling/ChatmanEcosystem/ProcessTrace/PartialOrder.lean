import ChatmanEcosystem.Common.Traces
import Mathlib.Data.Finset.Basic
import Mathlib.Data.List.Sort
import Mathlib.Data.Prod.Lex
import Mathlib.Data.String.Basic

/-!
# Partial-order equivalence of process traces

Model of `Event`, `Trace`, `Independence`, `signature` and `equivalent`
(`scripts/release_train/process_trace_crown/event.py`, lines 5–9; `trace.py`,
lines 8–12; `independence.py`, lines 7–21; `partial_order.py`, lines 5–19).

`equivalent` compares how often each event occurs and, for two events that are
not independent, whether one comes before the other anywhere. Two events that
come in both orders may be interleaved in many ways with one signature.

Results:

* `equivalent_iff`: what `equivalent` compares.
* `equivalent_of_exchangeable`: no exchange of independent events is refused.
* `equivalence_exact_iff`: `equivalent` is trace equivalence exactly for traces
  that it tells apart or that interleave such events alike.
-/

namespace ChatmanEcosystem.ProcessTrace

open Common

/-! ## Model -/

/-- `Event` (lines 5–9). -/
structure Event where
  activity : String
  objectId : String
  lifecycle : String := "complete"
  deriving DecidableEq

/-- `Subject` (`subject.py`, lines 9–13). -/
structure Subject where
  repo : String
  sha : String
  semanticDigest : String
  deriving DecidableEq

/-- `Trace` (lines 8–12). -/
structure Trace where
  subject : Subject
  engine : String
  events : List Event
  deriving DecidableEq

/-- `Independence` (lines 7–9). -/
structure Independence where
  pairs : Finset (Finset String)
  deriving DecidableEq

/-- `Independence.independent` (lines 20–21). -/
def Independence.independent (independence : Independence) (a b : Event) : Bool :=
  {a.objectId, b.objectId} ∈ independence.pairs

/-- `(e.activity, e.object_id, e.lifecycle)`, in the order of tuples. -/
def label (e : Event) : String ×ₗ String ×ₗ String :=
  toLex (e.activity, toLex (e.objectId, e.lifecycle))

/-- The loops of `signature` (lines 8–13). -/
def edges (independence : Independence) :
    List Event → List ((String ×ₗ String ×ₗ String) × (String ×ₗ String ×ₗ String))
  | [] => []
  | left :: events =>
    (events.filter fun right => !independence.independent left right).map
      (fun right => (label left, label right)) ++ edges independence events

/-- `signature` (lines 5–14). -/
def signature (trace : Trace) (independence : Independence) :
    Finset ((String ×ₗ String ×ₗ String) × (String ×ₗ String ×ₗ String)) :=
  (edges independence trace.events).toFinset

/-- `sorted((e.activity, e.object_id, e.lifecycle) for e in trace.events)`. -/
def sortedLabels (trace : Trace) : List (String ×ₗ String ×ₗ String) :=
  (trace.events.map label).insertionSort (· ≤ ·)

/-- `equivalent` (lines 16–19). -/
def equivalent (left right : Trace) (independence : Independence) : Bool :=
  left.subject = right.subject && sortedLabels left = sortedLabels right &&
    signature left independence = signature right independence

/-! ## What is compared -/

section Law

variable (independence : Independence)

/-- The events of one trace become those of the other by exchanges of adjacent events whose
objects are declared independent. -/
def TraceEquivalent (left right : Trace) : Prop :=
  Exchangeable (fun a b => independence.independent a b = true) left.events right.events

/-- The traces hold the same events as often, and every two dependent events come one before the
other in both or in neither. -/
structure Alike (left right : Trace) : Prop where
  perm : left.events.Perm right.events
  order : ∀ a b, independence.independent a b = false →
    ([a, b].Sublist left.events ↔ [a, b].Sublist right.events)

/-- The traces interleave alike every two dependent events that come in both orders. -/
def InterleavedAlike (left right : Trace) : Prop :=
  ∀ a b, independence.independent a b = false → a ≠ b →
    [a, b].Sublist left.events → [b, a].Sublist left.events →
    project a b left.events = project a b right.events

end Law

variable {independence : Independence} {left right : Trace} {events : List Event} {a b : Event}

theorem independent_comm : independence.independent a b = independence.independent b a := by
  rw [Independence.independent, Independence.independent, Finset.pair_comm]

theorem label_injective : Function.Injective label := by
  rintro ⟨activity, objectId, lifecycle⟩ ⟨activity', objectId', lifecycle'⟩ h
  simp only [label, EmbeddingLike.apply_eq_iff_eq, Prod.mk.injEq] at h
  obtain ⟨rfl, rfl, rfl⟩ := h
  rfl

theorem mem_edges : (label a, label b) ∈ edges independence events ↔
    independence.independent a b = false ∧ [a, b].Sublist events := by
  induction events with
  | nil => simp [edges]
  | cons first events ih =>
    have hpair : ∀ right : Event, (label first, label right) = (label a, label b) ↔
        first = a ∧ right = b := fun right => by
      rw [Prod.mk.injEq, label_injective.eq_iff, label_injective.eq_iff]
    rw [edges, List.mem_append, ih, List.mem_map]
    simp only [List.mem_filter, hpair, Bool.not_eq_eq_eq_not, Bool.not_true]
    constructor
    · rintro (⟨right, ⟨hmem, hdep⟩, rfl, rfl⟩ | ⟨hdep, hsub⟩)
      · exact ⟨hdep, (List.singleton_sublist.mpr hmem).cons_cons first⟩
      · exact ⟨hdep, hsub.cons first⟩
    · rintro ⟨hdep, hsub⟩
      rcases List.sublist_cons_iff.mp hsub with hsub | ⟨rest, hrest, hsub⟩
      · exact .inr ⟨hdep, hsub⟩
      · obtain ⟨rfl, rfl⟩ := List.cons.inj hrest
        exact .inl ⟨b, ⟨List.singleton_sublist.mp hsub, hdep⟩, rfl, rfl⟩

theorem sortedLabels_eq_iff : sortedLabels left = sortedLabels right ↔
    left.events.Perm right.events := by
  have hsorted : ∀ trace, (sortedLabels trace).Perm (trace.events.map label) := fun trace =>
    List.perm_insertionSort _ _
  rw [← List.map_perm_map_iff label_injective]
  constructor
  · intro h
    exact (hsorted left).symm.trans ((List.Perm.of_eq h).trans (hsorted right))
  · intro h
    exact (((hsorted left).trans h).trans (hsorted right).symm).eq_of_pairwise'
      (List.pairwise_insertionSort _ _) (List.pairwise_insertionSort _ _)

theorem label_surjective : Function.Surjective label := fun text =>
  ⟨⟨(ofLex text).1, (ofLex (ofLex text).2).1, (ofLex (ofLex text).2).2⟩, rfl⟩

theorem signature_eq_iff : signature left independence = signature right independence ↔
    ∀ a b, independence.independent a b = false →
      ([a, b].Sublist left.events ↔ [a, b].Sublist right.events) := by
  simp only [signature, Finset.ext_iff, List.mem_toFinset, Prod.forall, label_surjective.forall,
    mem_edges]
  refine forall_congr' fun a => forall_congr' fun b => ?_
  exact and_congr_right_iff

/-- What `equivalent` compares. -/
theorem equivalent_iff (hsubject : left.subject = right.subject) :
    equivalent left right independence = true ↔ Alike independence left right := by
  simp only [equivalent, Bool.and_eq_true, decide_eq_true_eq, hsubject, true_and,
    sortedLabels_eq_iff, signature_eq_iff]
  exact ⟨fun h => ⟨h.1, h.2⟩, fun h => ⟨h.perm, h.order⟩⟩

/-! ## Trace equivalence -/

theorem traceEquivalent_iff : TraceEquivalent independence left right ↔
    left.events.Perm right.events ∧ ∀ a b, independence.independent a b = false →
      project a b left.events = project a b right.events := by
  have hsymm : ∀ a b : Event, independence.independent a b = true →
      independence.independent b a = true := fun a b h => independent_comm.symm.trans h
  rw [TraceEquivalent, exchangeable_iff hsymm]
  simp only [Bool.not_eq_true]

theorem sublist_project : [a, b].Sublist events ↔ [a, b].Sublist (project a b events) := by
  constructor
  · intro h
    have hfiltered := h.filter fun x => x = a ∨ x = b
    simpa [project] using hfiltered
  · exact fun h => h.trans List.filter_sublist

theorem Alike.of_traceEquivalent (h : TraceEquivalent independence left right) :
    Alike independence left right := by
  obtain ⟨hperm, hproject⟩ := traceEquivalent_iff.mp h
  refine ⟨hperm, fun a b hdep => ?_⟩
  rw [sublist_project, hproject a b hdep, ← sublist_project]

/-- Traces that are compared as alike are exchangeable if they interleave alike the events that
come in both orders. -/
theorem Alike.traceEquivalent (h : Alike independence left right)
    (hinterleaved : InterleavedAlike independence left right) :
    TraceEquivalent independence left right := by
  refine traceEquivalent_iff.mpr ⟨h.perm, fun a b hdep => ?_⟩
  by_cases hab : a = b
  · subst hab
    rw [project_self, project_self, h.perm.count_eq]
  · have hdep' : independence.independent b a = false := independent_comm.trans hdep
    by_cases hba : [b, a].Sublist left.events
    · by_cases hab' : [a, b].Sublist left.events
      · exact hinterleaved a b hdep hab hab' hba
      · have hright : ¬ [a, b].Sublist right.events := mt (h.order a b hdep).mpr hab'
        have hswap : ∀ events : List Event, project a b events = project b a events :=
          fun events => by simp only [project, or_comm]
        rw [hswap, hswap, project_eq_of_not_sublist (Ne.symm hab) hab',
          project_eq_of_not_sublist (Ne.symm hab) hright, h.perm.count_eq, h.perm.count_eq]
    · have hright : ¬ [b, a].Sublist right.events := mt (h.order b a hdep').mpr hba
      rw [project_eq_of_not_sublist hab hba, project_eq_of_not_sublist hab hright,
        h.perm.count_eq, h.perm.count_eq]

/-- `equivalent` decides trace equivalence exactly for traces that it tells apart and for traces
that interleave alike every two dependent events that come in both orders. -/
theorem equivalence_exact_iff (left right : Trace) (independence : Independence)
    (hsubject : left.subject = right.subject) :
    (equivalent left right independence = true ↔ TraceEquivalent independence left right) ↔
      (Alike independence left right → InterleavedAlike independence left right) := by
  rw [equivalent_iff hsubject]
  constructor
  · intro h halike a b hdep _ _ _
    exact (traceEquivalent_iff.mp (h.mp halike)).2 a b hdep
  · intro h
    exact ⟨fun halike => halike.traceEquivalent (h halike), Alike.of_traceEquivalent⟩

/-- A trace of completed activities on objects. -/
def traceOf (rows : List (String × String)) : Trace :=
  { subject := ⟨"a/b", "1", "2"⟩, engine := "BEAM"
    events := rows.map fun row => { activity := row.1, objectId := row.2 } }

/-- One object that two activities take turns at. -/
def alternating : Trace := traceOf [("A", "x"), ("B", "x"), ("A", "x"), ("B", "x")]

/-- The same activities, the second one twice in a row. -/
def nested : Trace := traceOf [("A", "x"), ("B", "x"), ("B", "x"), ("A", "x")]

theorem interleavings_confused : ¬ (equivalent alternating nested ⟨∅⟩ = true ↔
    TraceEquivalent ⟨∅⟩ alternating nested) := by
  intro h
  have haccepted : equivalent alternating nested ⟨∅⟩ = true := by decide +kernel
  have hproject := (traceEquivalent_iff.mp (h.mp haccepted)).2 ⟨"A", "x", "complete"⟩
    ⟨"B", "x", "complete"⟩ rfl
  exact absurd hproject (by decide)

/-- The law at two events whose objects are declared independent. -/
theorem swapped_pair_exact :
    (equivalent (traceOf [("A", "x"), ("B", "y")]) (traceOf [("B", "y"), ("A", "x")])
        ⟨{{"x", "y"}}⟩ = true ↔
      TraceEquivalent ⟨{{"x", "y"}}⟩ (traceOf [("A", "x"), ("B", "y")])
        (traceOf [("B", "y"), ("A", "x")])) ↔
    (Alike ⟨{{"x", "y"}}⟩ (traceOf [("A", "x"), ("B", "y")]) (traceOf [("B", "y"), ("A", "x")]) →
      InterleavedAlike ⟨{{"x", "y"}}⟩ (traceOf [("A", "x"), ("B", "y")])
        (traceOf [("B", "y"), ("A", "x")])) :=
  equivalence_exact_iff _ _ _ rfl

end ChatmanEcosystem.ProcessTrace
