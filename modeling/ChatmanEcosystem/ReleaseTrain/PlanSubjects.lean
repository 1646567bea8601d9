import ChatmanEcosystem.ReleaseTrain.CurrentFrontier
import Mathlib.Data.List.ReduceOption

/-!
# The subjects of a plan

What a plan says of the evidence it is made of: each listed subject is of the
repository key it is planned for, and the current records of the key are about
exactly this subject (`Request.BoundTo`).

Results:

* `mem_order`: the order of a plan has the keys of the evidence.
* `Request.admitRepo_eq_ok`: what a promotable admission establishes.
* `plan_bound_iff`: a plan is bound to its evidence exactly when the current
  records of each key have one subject, of that key, and no later obligation of
  the same id hides a required one.
-/

namespace ChatmanEcosystem.ReleaseTrain.CurrentFrontier

open Py Rust

/-! ## What a plan promises -/

/-- A record of a key that no relation of the key supersedes. -/
def Request.IsCurrent (request : Request) (repo : String) (e : Evidence) : Prop :=
  e ∈ request.evidenceOf repo ∧ ∀ r ∈ request.relationsOf repo, r.olderId ≠ e.evidenceId

/-- A subject of a repository. -/
def OfRepo (repo subject : String) : Prop := ∃ sha, subject = repo ++ "@" ++ sha

/-- A record passes an obligation. -/
def Passes (e : Evidence) (ob : Obligation) : Prop := e.outcome = "PASS" ∧ reaches e ob = true

/-- The records of a key are about the subject that is planned for it. -/
structure Request.BoundTo (request : Request) (repo subject : String) : Prop where
  ofRepo : OfRepo repo subject
  covered : ∀ ob ∈ request.obligations, ob.required = true →
    ∃ e, request.IsCurrent repo e ∧ Passes e ob ∧ e.subject.canonical = subject
  exact : ∀ e, request.IsCurrent repo e → e.subject.canonical = subject

/-- Every subject of a plan is bound to the records of its key. -/
def Plan.Bound (request : Request) (plan : Plan) : Prop :=
  List.Forall₂ request.BoundTo plan.order plan.subjects

/-- The last obligation with an id. -/
def lastOf (obligations : List Obligation) (obligationId : String) : Option Obligation :=
  obligations.reverse.find? (·.obligationId = obligationId)

/-- The current records of a key have one subject of that key, and each required obligation is the
last one of its id or passed all the same. -/
structure Request.OneSubject (request : Request) (repo : String) : Prop where
  ofRepo : ∀ e, request.IsCurrent repo e → OfRepo repo e.subject.canonical
  one : ∀ e e', request.IsCurrent repo e → request.IsCurrent repo e' →
    e.subject.canonical = e'.subject.canonical
  unhidden : ∀ ob ∈ request.obligations, ob.required = true →
    lastOf request.obligations ob.obligationId = some ob ∨
      ∃ e, request.IsCurrent repo e ∧ Passes e ob

/-! ## The order -/

section Order

variable {graph : List (String × List String)} {selected : List String} {depth : ℕ}
  {state state' : Visit} {node : String}

/-- What visiting keeps and what it adds. -/
structure Visits (selected : List String) (state state' : Visit) (nodes : List String) : Prop where
  mono : state.order ⊆ state'.order
  inside : state.order ⊆ selected → state'.order ⊆ selected
  finished : nodes ⊆ state'.order

theorem Visits.foldlM {step : Visit → String → Except (Raised String) Visit} {nodes : List String}
    (hstep : ∀ {state state' node}, node ∈ nodes → step state node = .ok state' →
      Visits selected state state' [node])
    (h : nodes.foldlM step state = .ok state') : Visits selected state state' nodes := by
  induction nodes generalizing state with
  | nil =>
    obtain rfl := Except.ok.inj h
    exact ⟨List.Subset.refl _, id, List.nil_subset _⟩
  | cons node nodes ih =>
    rw [List.foldlM_cons, bind_eq_ok] at h
    obtain ⟨middle, hfirst, hrest⟩ := h
    have hone := hstep List.mem_cons_self hfirst
    have hmore := ih (fun hmem => hstep (List.mem_cons_of_mem node hmem)) hrest
    refine ⟨List.Subset.trans hone.mono hmore.mono, fun hinside => hmore.inside
      (hone.inside hinside), ?_⟩
    exact List.cons_subset.mpr ⟨hmore.mono (hone.finished List.mem_cons_self), hmore.finished⟩

theorem visits_visit
    (hclosed : ∀ node ∈ selected, dependenciesOf graph node ⊆ selected) (hnode : node ∈ selected)
    (h : visit graph depth state node = .ok state') : Visits selected state state' [node] := by
  induction depth generalizing state state' node with
  | zero => exact absurd h (by simp [visit])
  | succ depth ih =>
    unfold visit at h
    by_cases hdone : node ∈ state.order
    · rw [if_pos hdone] at h
      obtain rfl := Except.ok.inj h
      exact ⟨List.Subset.refl _, id, List.cons_subset.mpr ⟨hdone, List.nil_subset _⟩⟩
    rw [if_neg hdone] at h
    by_cases htemporary : node ∈ state.temporary
    · exact absurd h (by simp [htemporary])
    rw [if_neg htemporary, bind_eq_ok] at h
    obtain ⟨below, hbelow, hstate⟩ := h
    obtain rfl := pure_eq_ok.mp hstate
    have hdeps : Visits selected _ below (sorted (dependenciesOf graph node)) :=
      Visits.foldlM (fun hdep hvisit => ih (hclosed node hnode (mem_sorted.mp hdep)) hvisit) hbelow
    refine ⟨List.Subset.trans hdeps.mono (List.subset_append_left _ _), fun hinside => ?_, ?_⟩
    · exact List.append_subset.mpr
        ⟨hdeps.inside hinside, List.cons_subset.mpr ⟨hnode, List.nil_subset _⟩⟩
    · exact List.subset_append_right _ _

/-- The order of a plan has the keys of the evidence. -/
theorem mem_order {py : PyRuntime} {order : List String} {repo : String}
    (h : dependencyOrder py graph selected = .ok order) : repo ∈ order ↔ repo ∈ selected := by
  unfold dependencyOrder at h
  simp only [bind_eq_ok, pure_eq_ok, forM_eq_ok] at h
  obtain ⟨-, hgaps, state, hstate, rfl⟩ := h
  have hclosed : ∀ node ∈ selected, dependenciesOf graph node ⊆ selected := by
    intro node hnode
    have hgap : ∀ dep ∈ dependenciesOf graph node, dep ∈ selected := by
      simpa [checkGap] using hgaps node hnode
    exact fun _ hdep => hgap _ hdep
  have hvisits : Visits selected ⟨[], []⟩ state (sorted selected) :=
    Visits.foldlM (fun hnode hvisit => visits_visit hclosed (mem_sorted.mp hnode) hvisit) hstate
  constructor
  · intro hrepo
    exact hvisits.inside (List.nil_subset _) hrepo
  · intro hrepo
    exact hvisits.finished (mem_sorted.mpr hrepo)

end Order

/-! ## One admission -/

section Admission

variable {request : Request} {repo : String} {evidence : List Evidence}
  {relations : List Supersession} {frontier : Frontier} {obligations : List Obligation}
  {adm : Admission} {e : Evidence} {ob : Obligation}

theorem mem_sortedById {records : List Evidence} : e ∈ sortedById records ↔ e ∈ records :=
  (List.perm_insertionSort _ _).mem_iff

/-- What the frontier calls current. -/
theorem mem_current (h : resolveFrontier evidence relations = .ok frontier) :
    e ∈ frontier.current ↔ e ∈ evidence ∧ ∀ r ∈ relations, r.olderId ≠ e.evidenceId := by
  unfold resolveFrontier at h
  obtain ⟨-, -, hfrontier⟩ := bind_eq_ok.mp h
  rw [← pure_eq_ok.mp hfrontier, mem_sortedById, List.mem_filter]
  simp

/-- An obligation whose state is `PASS` is passed by a current record. -/
theorem passes_of_obligationState (h : obligationState frontier ob = "PASS") :
    ∃ e ∈ frontier.current, Passes e ob := by
  have hpass : "PASS" ∈ (frontier.current.filter (reaches · ob)).map (·.outcome) := by
    by_contra hnone
    unfold obligationState at h
    simp only [hnone, if_false] at h
    split_ifs at h <;> exact absurd h (by decide)
  obtain ⟨e, he, houtcome⟩ := List.mem_map.mp hpass
  obtain ⟨hcurrent, hreaches⟩ := List.mem_filter.mp he
  exact ⟨e, hcurrent, houtcome, hreaches⟩

/-- The state of an id is that of the last obligation with it. -/
theorem lookup_coverage (obligationId : String) :
    (coverage frontier obligations).lookup obligationId =
      (lastOf obligations obligationId).map (obligationState frontier) := by
  unfold coverage lastOf
  rw [lookup_ofPairs, ← List.map_reverse]
  induction obligations.reverse with
  | nil => rfl
  | cons ob obs ih =>
    rw [List.map_cons, List.lookup_cons, ih, List.find?_cons]
    by_cases hid : ob.obligationId = obligationId
    · simp [hid]
    · simp [hid, beq_false_of_ne (Ne.symm hid)]

/-- What a promotable admission says of the frontier. -/
structure Promotes (frontier : Frontier) (obligations : List Obligation) : Prop where
  nonempty : frontier.current ≠ []
  passed : ∀ ob ∈ obligations, ob.required = true →
    (coverage frontier obligations).lookup ob.obligationId = some "PASS"

theorem current_ne_nil_of_standing (h : standing frontier = "PARTIAL_ALIVE") :
    frontier.current ≠ [] := by
  intro hempty
  unfold standing at h
  rw [hempty] at h
  simp at h

theorem promotes_of_promotable {subject : String}
    (h : admitSubject subject frontier obligations = .ok adm)
    (hpromotable : adm.promotable = true) :
    adm.subject = subject ∧ Promotes frontier obligations := by
  unfold admitSubject at h
  obtain ⟨uncovered, huncovered, hadm⟩ := bind_eq_ok.mp h
  rw [← pure_eq_ok.mp hadm] at hpromotable ⊢
  have hreasons := of_decide_eq_true hpromotable
  obtain ⟨hcovered, hstanding⟩ := List.append_eq_nil_iff.mp hreasons
  refine ⟨rfl, current_ne_nil_of_standing ?_, ?_⟩
  · by_contra hother
    simp [hother] at hstanding
  · intro ob hob hrequired
    obtain ⟨reason, hreason⟩ := ok_of_mapM huncovered hob
    obtain ⟨value, hvalue, hpure⟩ := bind_eq_ok.mp hreason
    rw [okOr_eq_ok] at hvalue
    rw [hvalue]
    by_contra hother
    have hne : value ≠ "PASS" := fun hpass => hother (by rw [hpass])
    rw [if_pos ⟨hrequired, hne⟩, pure_eq_ok] at hpure
    have hmem : some (ob.obligationId ++ ":" ++ value) ∈ uncovered := by
      rw [mem_of_mapM huncovered]
      exact ⟨ob, hob, by rw [hreason, hpure]⟩
    rw [← List.reduceOption_mem_iff, hcovered] at hmem
    exact List.not_mem_nil hmem

/-- A promotable admission is labelled with the first current record, and every required obligation
is passed as far as the last one of its id asks. -/
theorem Request.admitRepo_eq_ok (h : request.admitRepo repo = .ok adm)
    (hpromotable : adm.promotable = true) :
    (∃ first, request.IsCurrent repo first ∧ adm.subject = first.subject.canonical) ∧
      ∀ ob ∈ request.obligations, ob.required = true →
        ∃ last, lastOf request.obligations ob.obligationId = some last ∧
          ∃ e, request.IsCurrent repo e ∧ Passes e last := by
  unfold Request.admitRepo at h
  obtain ⟨evidence, hevidence, h⟩ := bind_eq_ok.mp h
  obtain ⟨frontier, hfrontier, hadmit⟩ := bind_eq_ok.mp h
  have hlookup := okOr_eq_ok.mp hevidence
  have hcurrent : ∀ e, e ∈ frontier.current ↔ request.IsCurrent repo e := by
    intro e
    rw [mem_current hfrontier, Request.IsCurrent, Request.evidenceOf, hlookup]
    rfl
  obtain ⟨hsubject, hpromotes⟩ := promotes_of_promotable hadmit hpromotable
  constructor
  · obtain ⟨first, rest, hfirst⟩ := List.exists_cons_of_ne_nil hpromotes.nonempty
    refine ⟨first, (hcurrent first).mp (by rw [hfirst]; exact List.mem_cons_self), ?_⟩
    rw [hsubject, hfirst]
    rfl
  · intro ob hob hrequired
    have hpassed := hpromotes.passed ob hob hrequired
    rw [lookup_coverage] at hpassed
    obtain ⟨last, hlast, hstate⟩ := Option.map_eq_some_iff.mp hpassed
    obtain ⟨e, he, hpasses⟩ := passes_of_obligationState hstate
    exact ⟨last, hlast, e, (hcurrent e).mp he, hpasses⟩

/-- When the subject of a promotable admission is the subject of its evidence. -/
theorem Request.boundTo_iff (h : request.admitRepo repo = .ok adm)
    (hpromotable : adm.promotable = true) :
    request.BoundTo repo adm.subject ↔ request.OneSubject repo := by
  obtain ⟨⟨first, hfirst, hsubject⟩, hpassed⟩ := Request.admitRepo_eq_ok h hpromotable
  constructor
  · intro hbound
    constructor
    · intro e he
      rw [hbound.exact e he]
      exact hbound.ofRepo
    · intro e e' he he'
      rw [hbound.exact e he, hbound.exact e' he']
    · intro ob hob hrequired
      obtain ⟨e, he, hpasses, -⟩ := hbound.covered ob hob hrequired
      exact .inr ⟨e, he, hpasses⟩
  · intro hone
    have hexact : ∀ e, request.IsCurrent repo e → e.subject.canonical = adm.subject := by
      intro e he
      rw [hsubject]
      exact hone.one e first he hfirst
    constructor
    · rw [hsubject]
      exact hone.ofRepo first hfirst
    · intro ob hob hrequired
      have hpasses : ∃ e, request.IsCurrent repo e ∧ Passes e ob := by
        rcases hone.unhidden ob hob hrequired with hlast | hpasses
        · obtain ⟨last, hlast', hpasses⟩ := hpassed ob hob hrequired
          rw [hlast, Option.some.injEq] at hlast'
          rwa [hlast']
        · exact hpasses
      obtain ⟨e, he, hpass⟩ := hpasses
      exact ⟨e, he, hpass, hexact e he⟩
    · exact hexact

end Admission

/-! ## The plan -/

section Plan

variable {py : PyRuntime} {request : Request} {plan : Plan} {receipt : Receipt}

/-- A normalised admission that is promotable is the admission. -/
theorem normalize_of_promotable {propagated : List (String × String)} {adm : Admission}
    (h : (normalize propagated adm).promotable = true) : normalize propagated adm = adm := by
  unfold normalize at h ⊢
  cases hstanding : propagated.lookup (repoOf adm.subject) with
  | none => rfl
  | some standing =>
    rw [hstanding] at h
    dsimp only at h ⊢
    by_cases hblocked : (standing = "BLOCKED" ∨ standing = "BUILD_BROKEN") ∧ adm.promotable = true
    · rw [if_pos hblocked] at h
      exact absurd h (by simp)
    · rw [if_neg hblocked]

/-- A candidate that is selected alone is promotable as a whole. -/
theorem select_singleton {candidate chosen : Candidate} (h : select [candidate] = .ok chosen) :
    chosen = candidate ∧ ∀ adm ∈ candidate.admissions, adm.promotable = true := by
  unfold select at h
  rw [okOr_eq_ok] at h
  by_cases hviable : candidate.admissions ≠ [] ∧ candidate.admissions.all (·.promotable) = true
  · have hfilter : [candidate].filter
        (fun c => c.admissions ≠ [] ∧ c.admissions.all (·.promotable)) = [candidate] := by
      simpa using hviable
    rw [hfilter] at h
    exact ⟨(Option.some.inj h).symm, List.all_eq_true.mp hviable.2⟩
  · have hfilter : [candidate].filter
        (fun c => c.admissions ≠ [] ∧ c.admissions.all (·.promotable)) = [] := by
      simpa using hviable
    rw [hfilter] at h
    exact absurd h (by simp)

/-- A plan lists the promotable admissions of its order. -/
theorem admissions_of_plan (h : manufacturePlan py request = .ok (plan, receipt)) :
    ∃ admissions : List Admission, plan.subjects = admissions.map (·.subject) ∧
      (∀ repo, repo ∈ plan.order ↔ repo ∈ request.evidenceByRepo.map Prod.fst) ∧
      List.Forall₂ (fun repo adm => request.admitRepo repo = .ok adm ∧ adm.promotable = true)
        plan.order admissions := by
  unfold manufacturePlan at h
  obtain ⟨order, horder, h⟩ := bind_eq_ok.mp h
  obtain ⟨admissions, hadmissions, h⟩ := bind_eq_ok.mp h
  obtain ⟨chosen, hchosen, h⟩ := bind_eq_ok.mp h
  obtain ⟨_, -, h⟩ := bind_eq_ok.mp h
  obtain ⟨_, -, h⟩ := bind_eq_ok.mp h
  obtain ⟨hplan, -⟩ := Prod.mk.inj (pure_eq_ok.mp h)
  obtain ⟨hchosen, hpromotable⟩ := select_singleton hchosen
  have hkept : ∀ adm ∈ admissions, adm.promotable = true ∧ normalize (propagate
      (ofPairs (order.zip (admissions.map (·.standing)))) request.graph order) adm = adm := by
    intro adm hadm
    have hnormalized := hpromotable _ (List.mem_map_of_mem hadm)
    have heq := normalize_of_promotable hnormalized
    rw [heq] at hnormalized
    exact ⟨hnormalized, heq⟩
  have hadmitted : chosen.admissions = admissions := by
    rw [hchosen]
    exact (List.map_congr_left fun adm hadm => (hkept adm hadm).2).trans (List.map_id _)
  refine ⟨admissions, ?_, fun repo => ?_, ?_⟩
  · rw [← hplan, ← hadmitted]
  · rw [← hplan, mem_order horder, List.mem_dedup]
  · rw [← hplan]
    have hall := forall₂_of_mapM hadmissions
    exact List.forall₂_iff_zip.mpr ⟨hall.length_eq, fun hmem =>
      ⟨List.forall₂_zip hall hmem, (hkept _ (List.of_mem_zip hmem).2).1⟩⟩

/-- Every subject of a plan is the subject of the current records of its key exactly when, under
every key, the current records have one subject of that key and no later obligation of the same id
hides a required one that they do not pass. -/
theorem plan_bound_iff (h : manufacturePlan py request = .ok (plan, receipt)) :
    plan.Bound request ↔ ∀ repo ∈ request.evidenceByRepo.map Prod.fst, request.OneSubject repo := by
  obtain ⟨admissions, hsubjects, horder, hadmissions⟩ := admissions_of_plan h
  unfold Plan.Bound
  rw [hsubjects, List.forall₂_map_right_iff]
  constructor
  · intro hbound repo hrepo
    have hone : List.Forall₂ (fun repo adm => request.OneSubject repo ∧
        request.admitRepo repo = .ok adm ∧ adm.promotable = true) plan.order admissions :=
      hbound.mp (fun _ _ hbound hadm => ⟨(Request.boundTo_iff hadm.1 hadm.2).mp hbound, hadm⟩)
        hadmissions
    exact ((List.forall₂_and_left _ _).mp hone).1 repo ((horder repo).mpr hrepo)
  · intro hone
    have hall := (List.forall₂_and_left _ _).mpr
      ⟨fun repo hrepo => hone repo ((horder repo).mp hrepo), hadmissions⟩
    exact hall.imp fun _ _ hadm => (Request.boundTo_iff hadm.2.1 hadm.2.2).mpr hadm.1

end Plan

/-! ## Samples -/

/-- A commit of `o/r`. -/
def commitOf (digit : Char) : Subject :=
  { repo := "o/r", sha := String.ofList (List.replicate 40 digit) }

/-- A request for the repository `o/r` with one obligation of its scope. -/
def requestFor (evidence : List Evidence) : Request where
  predecessor := ""
  evidenceByRepo := [("o/r", evidence)]
  relationsByRepo := []
  obligations := [{ obligationId := "repo", requiredScope := "REPOSITORY", required := true }]
  graph := [("o/r", [])]

/-- A test run of the whole repository. -/
def wholeRun (digit : Char) : Evidence :=
  { evidenceId := "whole", subject := commitOf digit, scope := "REPOSITORY", outcome := "PASS",
    observedAt := ⟨true, 0⟩ }

/-- A test run of a part. -/
def focusedRun (digit : Char) : Evidence :=
  { evidenceId := "focused", subject := commitOf digit, scope := "FOCUSED", outcome := "PASS",
    observedAt := ⟨true, 0⟩ }

theorem whole_run_bound :
    ∃ plan receipt, manufacturePlan samplePyRuntime (requestFor [wholeRun 'b']) =
      .ok (plan, receipt) ∧ plan.Bound (requestFor [wholeRun 'b']) := by
  have hplan : (manufacturePlan samplePyRuntime (requestFor [wholeRun 'b'])).toOption.isSome := by
    decide +kernel
  obtain ⟨⟨plan, receipt⟩, hplan⟩ := Option.isSome_iff_exists.mp hplan
  rw [toOption_eq_some] at hplan
  refine ⟨plan, receipt, hplan, (plan_bound_iff hplan).mpr fun repo hrepo => ?_⟩
  have hrepo : repo = "o/r" := List.mem_singleton.mp hrepo
  have hcurrent : ∀ e, (requestFor [wholeRun 'b']).IsCurrent repo e → e = wholeRun 'b' := by
    intro e he
    rw [hrepo] at he
    exact List.mem_singleton.mp he.1
  constructor
  · intro e he
    rw [hcurrent e he, hrepo]
    exact ⟨_, rfl⟩
  · intro e e' he he'
    rw [hcurrent e he, hcurrent e' he']
  · intro ob hob _
    left
    rw [List.mem_singleton.mp hob]
    decide

/-- A plan for the commit of a focused run is covered by the run of another commit. -/
theorem mixed_commits_planned :
    ∃ plan receipt, manufacturePlan samplePyRuntime (requestFor [focusedRun 'a', wholeRun 'b']) =
        .ok (plan, receipt) ∧ plan.subjects = [(commitOf 'a').canonical] ∧
      ¬ plan.Bound (requestFor [focusedRun 'a', wholeRun 'b']) := by
  have hplan : (manufacturePlan samplePyRuntime
      (requestFor [focusedRun 'a', wholeRun 'b'])).toOption.map
        (fun result => (result.1.order, result.1.subjects)) =
      some (["o/r"], [(commitOf 'a').canonical]) := by decide +kernel
  obtain ⟨⟨plan, receipt⟩, hplan, hshape⟩ := Option.map_eq_some_iff.mp hplan
  rw [toOption_eq_some] at hplan
  obtain ⟨horder, hsubjects⟩ := Prod.mk.inj hshape
  refine ⟨plan, receipt, hplan, hsubjects, fun hbound => ?_⟩
  unfold Plan.Bound at hbound
  rw [horder, hsubjects, List.forall₂_cons] at hbound
  have hwhole := hbound.1.exact (wholeRun 'b') ⟨by decide, fun _ hr => absurd hr List.not_mem_nil⟩
  exact absurd hwhole (by decide)

end ChatmanEcosystem.ReleaseTrain.CurrentFrontier
