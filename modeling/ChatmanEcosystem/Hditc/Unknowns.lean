import ChatmanEcosystem.Hditc.Frontier
import ChatmanEcosystem.Hditc.Reversal

/-!
# What critical unknowns have to do with projections

`project` (`crates/hditc/src/lib.rs`, lines 239–291) refuses a candidate that
requires a dimension to be known which the world lists as critical unknown. The
list is the candidate's own: a mutation or a construction constraint on another
dimension reads what the world stores there, unknown or not.

Two worlds are compared that differ only in what they store under unknown
dimensions. The relation that the run of the mutations keeps is that the two states
have the same dimensions and agree on all but the unknown ones that no mutation has
set yet.

Results:

* `project_alike`: a candidate that requires the unknown dimensions it reads projects alike
  on both worlds.
* `unknowns_hidden`: so the frontier of such candidates is the same.
-/

namespace ChatmanEcosystem.Hditc

open Core Rust Common

/-! ## Worlds that differ in unknown dimensions -/

/-- The same dimensions, with the same values outside `hidden`. -/
structure Dimensions.AgreeOutside (hidden : String → Prop) (a b : Dimensions) : Prop where
  present : ∀ dimension : String, a[dimension]?.isSome = b[dimension]?.isSome
  value : ∀ dimension : String, ¬ hidden dimension → a[dimension]? = b[dimension]?

/-- The worlds differ only in the values of critical unknown dimensions. -/
structure World.Twins (world other : World) : Prop where
  subject : world.subject = other.subject
  criticalUnknown : world.criticalUnknown = other.criticalUnknown
  evidenceDigests : world.evidenceDigests = other.evidenceDigests
  dimensions : world.dimensions.AgreeOutside (· ∈ world.criticalUnknown) other.dimensions

/-- Two refusals with one reason. -/
def SameReason (a b : Error) : Prop := a.reason = b.reason

theorem sameReason_self (error : Error) : SameReason error error := rfl

theorem ensure_alike {c d : Prop} [Decidable c] [Decidable d] {code : RefusalCode}
    {detail detail' : String} (h : c ↔ d) :
    Alike SameReason Eq (ensure c (.refused code detail)) (ensure d (.refused code detail')) :=
  alike_ensure h rfl

/-! ## What a projection reads -/

/-- The constraint compares the value of the dimension. -/
def Constraint.readsValue (name : String) : Constraint → Bool
  | present _ | absent _ => false
  | equals d _ | notEquals d _ => d == name

/-- The stored value of a dimension is read: the first mutation on it expects a value, or there
is no mutation on it and a constraint compares it. -/
def readsStored (mutations : List Mutation) (constraints : List Constraint) (name : String) :
    Bool :=
  match mutations.find? (·.dimension == name) with
  | some mutation => mutation.before.isSome
  | none => constraints.any (·.readsValue name)

/-- The candidate requires every critical unknown dimension to be known whose stored value it
reads. -/
def Candidate.RequiresRead (candidate : Candidate) (world : World) : Prop :=
  ∀ name ∈ world.criticalUnknown,
    readsStored candidate.mutations candidate.constructionConstraints name = true →
      name ∈ candidate.requiresKnown

variable {constraints : List Constraint}

theorem readsStored_cons {mutation : Mutation} {mutations : List Mutation} {name : String} :
    readsStored (mutation :: mutations) constraints name =
      if mutation.dimension = name then mutation.before.isSome
      else readsStored mutations constraints name := by
  unfold readsStored
  by_cases hname : mutation.dimension = name
  · simp [hname]
  · simp [hname]

/-! ## One mutation -/

namespace Dimensions

variable {hidden : String → Prop} {a b : Dimensions}

theorem AgreeOutside.store (h : a.AgreeOutside hidden b) (name : String) (value : Option String) :
    (Mutation.store a name value).AgreeOutside (fun other => hidden other ∧ name ≠ other)
      (Mutation.store b name value) := by
  constructor
  · intro other
    rw [Mutation.getElem?_store, Mutation.getElem?_store]
    split_ifs with hname
    · rfl
    · exact h.present other
  · intro other hother
    rw [Mutation.getElem?_store, Mutation.getElem?_store]
    split_ifs with hname
    · rfl
    · exact h.value other fun hhidden => hother ⟨hhidden, hname⟩

/-- Two states that differ only where nothing is read. -/
def Unread (unknown : String → Prop) (constraints : List Constraint) (mutations : List Mutation)
    (a b : Dimensions) : Prop :=
  ∃ hidden : String → Prop, (∀ name, hidden name → unknown name) ∧ a.AgreeOutside hidden b ∧
    ∀ name, hidden name → readsStored mutations constraints name = false

end Dimensions

theorem Mutation.apply_eq (prim : Primitives) (mutation : Mutation) (dimensions : Dimensions) :
    mutation.apply prim dimensions = (do
      nonempty mutation.dimension "mutation dimension"
      ensure (dimensions[mutation.dimension]? = mutation.before)
        (.refused .staleObservation ("dimension " ++ ticked mutation.dimension ++ " expected " ++
          prim.debugOption mutation.before ++ ", observed " ++
          prim.debugOption dimensions[mutation.dimension]?))
      .ok (store dimensions mutation.dimension mutation.after)) := by
  unfold apply
  cases mutation.after <;> rfl

variable {unknown : String → Prop}

/-- One mutation on both states. -/
theorem Mutation.apply_alike {prim : Primitives} (mutation : Mutation) (rest : List Mutation)
    (a b : Dimensions) (h : Dimensions.Unread unknown constraints (mutation :: rest) a b) :
    Alike SameReason (Dimensions.Unread unknown constraints rest) (mutation.apply prim a)
      (mutation.apply prim b) := by
  obtain ⟨hidden, hunknown, hagree, hunread⟩ := h
  -- a hidden dimension is only asked to be absent
  have hfound : a[mutation.dimension]? = mutation.before ↔
      b[mutation.dimension]? = mutation.before := by
    by_cases hname : hidden mutation.dimension
    · have hbefore := hunread _ hname
      rw [readsStored_cons, if_pos rfl, Option.isSome_eq_false_iff, Option.isNone_iff_eq_none]
        at hbefore
      rw [hbefore, ← Option.isNone_iff_eq_none, ← Option.isNone_iff_eq_none,
        ← Option.not_isSome, ← Option.not_isSome, hagree.present]
    · rw [hagree.value _ hname]
  rw [apply_eq, apply_eq]
  refine (alike_self sameReason_self _).bind fun _ _ _ => ?_
  refine (ensure_alike hfound).bind fun _ _ _ => ?_
  apply Alike.ok
  refine ⟨fun other => hidden other ∧ mutation.dimension ≠ other, ?_, hagree.store _ _, ?_⟩
  · intro other hother
    exact hunknown other hother.1
  · intro other hother
    have hstill := hunread other hother.1
    rwa [readsStored_cons, if_neg hother.2] at hstill

/-! ## Constraints -/

variable {constraint : Constraint}

theorem Constraint.holds_congr {hidden : String → Prop} {a b : Dimensions}
    (h : a.AgreeOutside hidden b)
    (hunread : ∀ name, hidden name → constraint.readsValue name = false) :
    constraint.holds a = constraint.holds b := by
  have hcontains : ∀ name : String, a.contains name = b.contains name := by
    intro name
    rw [← Std.ExtTreeMap.isSome_getElem?_eq_contains, h.present,
      Std.ExtTreeMap.isSome_getElem?_eq_contains]
  cases constraint with
  | present name => exact hcontains name
  | absent name => exact congrArg (!·) (hcontains name)
  | equals name value =>
    have hvalue := h.value name fun hhidden => by simpa [readsValue] using hunread name hhidden
    show a[name]?.any (· == value) = b[name]?.any (· == value)
    rw [hvalue]
  | notEquals name value =>
    have hvalue := h.value name fun hhidden => by simpa [readsValue] using hunread name hhidden
    show a[name]?.any (· != value) = b[name]?.any (· != value)
    rw [hvalue]

/-- A normal list has no constraint of its own. -/
theorem mem_of_mem_normalizeConstraints {values : List Constraint}
    (h : constraint ∈ normalizeConstraints values) : constraint ∈ values := by
  have hsorted := (List.destutter_sublist (· ≠ ·) (values.insertionSort (· ≤ ·))).subset h
  exact (List.perm_insertionSort (· ≤ ·) values).mem_iff.mp hsorted

theorem constraintsHold_congr {a b : Dimensions}
    (h : Dimensions.Unread unknown constraints [] a b) :
    constraintsHold (normalizeConstraints constraints) a =
      constraintsHold (normalizeConstraints constraints) b := by
  obtain ⟨hidden, -, hagree, hunread⟩ := h
  have hsame : ∀ constraint ∈ normalizeConstraints constraints,
      constraint.holds a = constraint.holds b := by
    intro constraint hmem
    apply Constraint.holds_congr hagree
    intro name hname
    have hnone : constraints.any (·.readsValue name) = false := hunread name hname
    rw [List.any_eq_false] at hnone
    simpa using hnone constraint (mem_of_mem_normalizeConstraints hmem)
  unfold constraintsHold
  rw [Bool.eq_iff_iff, List.all_eq_true, List.all_eq_true]
  exact forall₂_congr fun constraint hmem => by rw [hsame constraint hmem]

/-! ## Projections -/

section TwoWorlds

variable {prim : Primitives} {world other : World}

theorem World.validate_alike (h : world.Twins other) :
    Alike SameReason Eq (world.validate prim) (other.validate prim) := by
  have hkeys : (∀ key ∈ world.dimensions.keys ++ world.criticalUnknown.toList,
      (!isBlank key) = true) ↔
      ∀ key ∈ other.dimensions.keys ++ other.criticalUnknown.toList, (!isBlank key) = true := by
    have hmem : ∀ key : String, key ∈ world.dimensions ↔ key ∈ other.dimensions := by
      intro key
      rw [← Std.ExtTreeMap.isSome_getElem?_iff_mem, ← Std.ExtTreeMap.isSome_getElem?_iff_mem,
        h.dimensions.present]
    simp only [List.mem_append, Std.ExtTreeMap.mem_keys, hmem, h.criticalUnknown]
  unfold validate
  refine Alike.bind (R := Eq) ?_ fun _ _ _ => ?_
  · rw [h.subject]
    exact alike_self sameReason_self _
  refine Alike.bind (R := Eq) ?_ fun _ _ _ => ?_
  · unfold nonempty
    rw [forM_ensure, forM_ensure]
    exact ensure_alike hkeys
  · rw [h.evidenceDigests]
    exact alike_self sameReason_self _

variable {candidate : Candidate}

theorem project_alike (h : world.Twins other) (hreads : candidate.RequiresRead world) :
    Alike SameReason (Dimensions.AgreeOutside (· ∈ world.criticalUnknown))
      (candidate.project prim world) (candidate.project prim other) := by
  have hsubject : candidate.subject = world.subject ↔ candidate.subject = other.subject := by
    rw [h.subject]
  unfold Candidate.project
  refine (World.validate_alike h).bind fun _ _ _ => ?_
  refine (alike_self sameReason_self _).bind fun _ _ _ => ?_
  refine (ensure_alike hsubject).bind fun _ _ _ => ?_
  refine (alike_self sameReason_self _).bind fun _ _ _ => ?_
  refine (alike_self sameReason_self _).bind fun _ _ _ => ?_
  refine (alike_self sameReason_self _).bind fun _ _ _ => ?_
  refine (alike_self sameReason_self _).bind fun _ _ _ => ?_
  have hknows : world.knows candidate.requiresKnown = other.knows candidate.requiresKnown := by
    unfold World.knows
    rw [h.criticalUnknown]
  rw [← hknows]
  by_cases hknown : world.knows candidate.requiresKnown = true
  · refine (ensure_alike Iff.rfl).bind fun _ _ _ => ?_
    -- no unknown dimension is required, so none is read
    have hstart : Dimensions.Unread (· ∈ world.criticalUnknown) candidate.constructionConstraints
        candidate.mutations world.dimensions other.dimensions := by
      refine ⟨(· ∈ world.criticalUnknown), fun _ hname => hname, h.dimensions, fun name hname => ?_⟩
      rw [Bool.eq_false_iff]
      intro hread
      have hrequired := hreads name hname hread
      unfold World.knows at hknown
      rw [List.all_eq_true] at hknown
      have hnot := hknown name (Std.ExtTreeSet.mem_toList.mpr hname)
      rw [Bool.not_eq_true'] at hnot
      rw [← Std.ExtTreeSet.contains_iff_mem, hnot] at hrequired
      exact absurd hrequired (by decide)
    refine (alike_foldlM (R := Dimensions.Unread (· ∈ world.criticalUnknown)
      candidate.constructionConstraints) Mutation.apply_alike hstart).bind fun a b hend => ?_
    refine (ensure_alike (by rw [constraintsHold_congr hend])).bind fun _ _ _ => ?_
    obtain ⟨hidden, hunknown, hagree, -⟩ := hend
    exact .ok ⟨hagree.present, fun name hname => hagree.value name (mt (hunknown name) hname)⟩
  · -- both refuse: an unknown dimension is required
    have hrefuse : ∀ error : Error, ensure (world.knows candidate.requiresKnown = true) error =
        .error error := fun error => if_neg hknown
    rw [hrefuse, hrefuse]
    exact .error rfl

theorem exclusion_congr (h : world.Twins other) (hreads : candidate.RequiresRead world) :
    candidate.exclusion prim world = candidate.exclusion prim other := by
  have halike : Alike SameReason _ (candidate.project prim world) (candidate.project prim other) :=
    project_alike h hreads
  unfold Candidate.exclusion
  revert halike
  generalize candidate.project prim world = first
  generalize candidate.project prim other = second
  intro halike
  cases halike with
  | ok hagree => rfl
  | error hreason =>
    exact congrArg (fun reason => some (ExcludedCandidate.mk candidate.id reason)) hreason

/-- The values stored under critical unknown dimensions show neither in the outcome of a
projection, outside these dimensions, nor in the frontier, as long as every candidate requires
the ones that it reads to be known. -/
theorem unknowns_hidden (h : world.Twins other) {candidates : List Candidate}
    (hreads : ∀ candidate ∈ candidates, candidate.RequiresRead world) :
    (∀ candidate ∈ candidates,
      Alike SameReason (Dimensions.AgreeOutside (· ∈ world.criticalUnknown))
        (candidate.project prim world) (candidate.project prim other)) ∧
      dfcmFrontier prim world candidates = dfcmFrontier prim other candidates := by
  have hexclusion : ∀ candidate ∈ candidates,
      candidate.exclusion prim world = candidate.exclusion prim other := by
    intro candidate hmem
    exact exclusion_congr h (hreads candidate hmem)
  refine ⟨fun candidate hmem => project_alike h (hreads candidate hmem), ?_⟩
  have hlawful : candidates.filter (·.admitted prim world) =
      candidates.filter (·.admitted prim other) := by
    apply List.filter_congr
    intro candidate hmem
    unfold Candidate.admitted
    rw [hexclusion candidate hmem]
  rw [dfcmFrontier_eq, dfcmFrontier_eq, hlawful, List.filterMap_congr hexclusion]

end TwoWorlds

/-! ## A constraint on an unknown dimension -/

/-- The world of the tests before the command, with an unknown blast radius. -/
def unknownRadius (radius : String) : World where
  subject := fixtureSubject
  dimensions := (Std.ExtTreeMap.insert ∅ "service.state" "pending").insert "blast.radius" radius
  criticalUnknown := Std.ExtTreeSet.insert ∅ "blast.radius"
  evidenceDigests := ∅

theorem unknownRadius_twins (radius other : String) :
    (unknownRadius radius).Twins (unknownRadius other) where
  subject := rfl
  criticalUnknown := rfl
  evidenceDigests := rfl
  dimensions := by
    constructor
    · intro name
      simp only [unknownRadius, Std.ExtTreeMap.getElem?_insert]
      split_ifs <;> rfl
    · intro name hname
      have hother : ¬ compare "blast.radius" name = .eq := by
        intro hsame
        exact hname (Std.ExtTreeSet.mem_insert.mpr (.inl hsame))
      have hstored : ∀ value, (unknownRadius value).dimensions[name]? =
          (Std.ExtTreeMap.insert (∅ : Dimensions) "service.state" "pending")[name]? := by
        intro value
        unfold unknownRadius
        rw [Std.ExtTreeMap.getElem?_insert, if_neg hother]
      rw [hstored, hstored]

theorem project_bounded (prim : Primitives) :
    ∃ projected, fixtureCandidate.project prim (unknownRadius "bounded") = .ok projected := by
  have hvalid : (unknownRadius "bounded").validate prim = .ok () := by
    simp only [World.validate, bind_eq_ok, forM_eq_ok, nonempty, ensure_eq_ok]
    exact ⟨(), fixtureSubject_valid prim, (), by decide +kernel, by decide +kernel⟩
  have happly : Candidate.applyAll prim fixtureCandidate.mutations
      (unknownRadius "bounded").dimensions =
        .ok ((unknownRadius "bounded").dimensions.insert "service.state" "ready") := by
    simp only [Candidate.applyAll, fixtureCandidate, List.foldlM_cons, List.foldlM_nil, bind_eq_ok,
      pure_eq_ok]
    exact ⟨_, Mutation.apply_eq_ok.mpr ⟨by decide, by decide +kernel, rfl⟩, rfl⟩
  simp only [Candidate.project, bind_eq_ok, nonempty, ensure_eq_ok, pure_eq_ok]
  exact ⟨_, (), hvalid, (), fixtureSubject_valid prim, (), rfl, (), by decide, (), by decide, (),
    by decide, (), rfl, (), by decide +kernel, _, happly, (), by decide +kernel, rfl⟩

theorem project_unbounded (prim : Primitives) :
    ¬ ∃ projected, fixtureCandidate.project prim (unknownRadius "unbounded") = .ok projected := by
  intro ⟨projected, hproject⟩
  have happly := Candidate.applyAll_of_project hproject
  simp only [Candidate.applyAll, fixtureCandidate, List.foldlM_cons, List.foldlM_nil, bind_eq_ok,
    pure_eq_ok, Mutation.apply_eq_ok] at happly
  obtain ⟨_, ⟨-, -, rfl⟩, rfl⟩ := happly
  simp only [Candidate.project, bind_eq_ok, ensure_eq_ok, pure_eq_ok] at hproject
  obtain ⟨_, -, _, -, _, -, _, -, _, -, _, -, _, -, _, -, _, -, _, hholds, rfl⟩ := hproject
  revert hholds
  decide +kernel

/-- The candidate of the tests compares the blast radius and does not require it to be known. -/
theorem unknown_radius_shows :
    (unknownRadius "bounded").Twins (unknownRadius "unbounded") ∧
      fixtureCandidate.admitted samplePrimitives (unknownRadius "bounded") = true ∧
      fixtureCandidate.admitted samplePrimitives (unknownRadius "unbounded") = false ∧
      dfcmFrontier samplePrimitives (unknownRadius "bounded") [fixtureCandidate] ≠
        dfcmFrontier samplePrimitives (unknownRadius "unbounded") [fixtureCandidate] := by
  have hbounded := Candidate.admitted_iff.mpr (project_bounded samplePrimitives)
  have hunbounded : fixtureCandidate.admitted samplePrimitives (unknownRadius "unbounded") =
      false := by
    rw [Bool.eq_false_iff]
    exact mt Candidate.admitted_iff.mp (project_unbounded samplePrimitives)
  refine ⟨unknownRadius_twins _ _, hbounded, hunbounded, fun hsame => ?_⟩
  have hlawful := congrArg DfcmFrontier.lawful hsame
  simp only [dfcmFrontier_eq, List.filter_cons, hbounded, hunbounded, if_true] at hlawful
  have hlength := congrArg List.length hlawful
  rw [(sortBy_perm _ _).length_eq, (sortBy_perm _ _).length_eq] at hlength
  revert hlength
  decide

/-- The candidate of the tests without its constraint, which then requires all that it reads. -/
def unconstrainedCandidate : Candidate := { fixtureCandidate with constructionConstraints := [] }

theorem unconstrained_hidden :
    unconstrainedCandidate.RequiresRead (unknownRadius "bounded") ∧
      dfcmFrontier samplePrimitives (unknownRadius "bounded") [unconstrainedCandidate] =
        dfcmFrontier samplePrimitives (unknownRadius "unbounded") [unconstrainedCandidate] := by
  have hreads : unconstrainedCandidate.RequiresRead (unknownRadius "bounded") := by
    intro name hname hread
    have hradius : name = "blast.radius" := by
      rcases Std.ExtTreeSet.mem_insert.mp hname with hsame | hempty
      · exact (Std.LawfulEqOrd.eq_of_compare hsame).symm
      · exact absurd hempty Std.ExtTreeSet.not_mem_empty
    rw [hradius] at hread
    exact absurd hread (by decide)
  refine ⟨hreads, (unknowns_hidden (unknownRadius_twins _ _) ?_).2⟩
  intro candidate hmem
  rw [List.mem_singleton.mp hmem]
  exact hreads

end ChatmanEcosystem.Hditc
