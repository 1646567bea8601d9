import ChatmanEcosystem.Common.Fallible
import ChatmanEcosystem.ReleaseTrain.PlanSubjects
import Mathlib.Data.Finset.Max

/-!
# Gaps of a frontier

Along the relations that are accepted the records of the ids get later, of one
repository and scope, so a chain of relations ends at an id that nothing
supersedes. The relations are checked on the last record of each id. An earlier
record of a repeated id is superseded with it, unseen.

Results:

* `exists_live`: a superseded id has a later record that nothing supersedes.
* `walk_eq_ok`: no walk along the relations comes back.
* `frontier_gapless_iff`: no superseded record is left without a later current
  one exactly if the hidden ones are not.
-/

namespace ChatmanEcosystem.ReleaseTrain.CurrentFrontier

open Common Py Rust Relation

/-! ## What a frontier promises -/

/-- A record of the same repository and scope, observed strictly later. -/
structure LaterThan (old new : Evidence) : Prop where
  repo : new.subject.repo = old.subject.repo
  scope : new.scope = old.scope
  aware : new.observedAt.aware = old.observedAt.aware
  later : old.observedAt.micros < new.observedAt.micros

/-- Nothing supersedes a record. -/
def Live (relations : List Supersession) (e : Evidence) : Prop :=
  ∀ r ∈ relations, r.olderId ≠ e.evidenceId

/-- Each record is current or historical and none is both; a historical one has a later current
one. -/
structure Gapless (evidence : List Evidence) (frontier : Frontier) : Prop where
  all : (frontier.current ++ frontier.historical).Perm evidence
  apart : ∀ e ∈ frontier.current, e ∉ frontier.historical
  later : ∀ e ∈ frontier.historical, ∃ new ∈ frontier.current, LaterThan e new
  nonempty : evidence ≠ [] → frontier.current ≠ []

/-- The last record with an id. -/
def lastWith (evidence : List Evidence) (evidenceId : String) : Option Evidence :=
  evidence.reverse.find? (·.evidenceId = evidenceId)

/-- The dictionary of the records (`supersession.py`, line 20). -/
abbrev byId (evidence : List Evidence) : List (String × Evidence) :=
  ofPairs (evidence.map fun e => (e.evidenceId, e))

/-- Each relation passes its checks. -/
def Admissible (evidence : List Evidence) (relations : List Supersession) : Prop :=
  ∀ r ∈ relations, ∃ edge, checkRelation (byId evidence) r = .ok edge

/-- A superseded record that another one of its id hides has a later one that nothing supersedes. -/
def HiddenCovered (evidence : List Evidence) (relations : List Supersession) : Prop :=
  ∀ e ∈ evidence, ¬ Live relations e → lastWith evidence e.evidenceId ≠ some e →
    ∃ new ∈ evidence, Live relations new ∧ LaterThan e new

theorem LaterThan.trans {a b c : Evidence} (hab : LaterThan a b) (hbc : LaterThan b c) :
    LaterThan a c where
  repo := hbc.repo.trans hab.repo
  scope := hbc.scope.trans hab.scope
  aware := hbc.aware.trans hab.aware
  later := hab.later.trans hbc.later

variable {evidence : List Evidence} {relations : List Supersession} {frontier : Frontier}
  {e new : Evidence} {older newer : String}

theorem lookup_byId : (byId evidence).lookup older = lastWith evidence older := by
  rw [lookup_ofPairs, ← List.map_reverse, lastWith]
  induction evidence.reverse with
  | nil => rfl
  | cons e records ih =>
    rw [List.map_cons, List.lookup_cons, List.find?_cons, ih]
    by_cases hid : e.evidenceId = older
    · simp [hid]
    · simp [hid, beq_false_of_ne (Ne.symm hid)]

theorem mem_of_lastWith (h : lastWith evidence older = some e) :
    e ∈ evidence ∧ e.evidenceId = older :=
  ⟨List.mem_reverse.mp (List.mem_of_find?_eq_some h), by simpa using List.find?_some h⟩

/-! ## Relations -/

/-- What the checks of a relation establish. -/
theorem checkRelation_eq_ok {r : Supersession} {edge : String × String}
    (h : checkRelation (byId evidence) r = .ok edge) : edge = (r.olderId, r.newerId) ∧
      ∃ old new, lastWith evidence r.olderId = some old ∧ lastWith evidence r.newerId = some new ∧
        LaterThan old new := by
  simp only [checkRelation, lookup_byId, bind_eq_ok, ensure_eq_ok] at h
  obtain ⟨_, -, h⟩ := h
  cases hold : lastWith evidence r.olderId with
  | none => simp [hold] at h
  | some old =>
    cases hnew : lastWith evidence r.newerId with
    | none => simp [hold, hnew] at h
    | some new =>
      simp only [hold, hnew, bind_eq_ok, ensure_eq_ok, isBefore] at h
      obtain ⟨_, ⟨hrepo, hscope⟩, forward, hforward, _, rfl, hedge⟩ := h
      split_ifs at hforward with haware
      have hlater : old.observedAt.micros < new.observedAt.micros := by
        simpa using hforward
      exact ⟨(pure_eq_ok.mp hedge).symm, old, new, rfl, rfl, hrepo.symm, hscope.symm,
        haware.symm, hlater⟩

/-- The dictionary of the relations (`supersession.py`, lines 21 and 33). -/
abbrev edgesOf (relations : List Supersession) : List (String × String) :=
  ofPairs (relations.map fun r => (r.olderId, r.newerId))

theorem mapM_checkRelation (h : Admissible evidence relations) :
    relations.mapM (checkRelation (byId evidence)) =
      .ok (relations.map fun r => (r.olderId, r.newerId)) := by
  refine mapM_ok fun r hr => ?_
  obtain ⟨edge, hedge⟩ := h r hr
  rw [hedge, (checkRelation_eq_ok hedge).1]

/-- An edge leads from a record to a later one. -/
theorem laterThan_of_lookup (h : Admissible evidence relations)
    (hedge : (edgesOf relations).lookup older = some newer) :
    ∃ old new, lastWith evidence older = some old ∧ lastWith evidence newer = some new ∧
      LaterThan old new := by
  rw [lookup_ofPairs] at hedge
  obtain ⟨pre, post, hsplit, -⟩ := List.lookup_eq_some_iff.mp hedge
  have hmem : (older, newer) ∈ relations.map fun r => (r.olderId, r.newerId) := by
    rw [← List.mem_reverse, hsplit]
    exact List.mem_append_right _ List.mem_cons_self
  obtain ⟨r, hr, hpair⟩ := List.mem_map.mp hmem
  obtain ⟨rfl, rfl⟩ := Prod.mk.inj hpair
  obtain ⟨edge, hedge⟩ := h r hr
  exact (checkRelation_eq_ok hedge).2

theorem live_iff : Live relations e ↔ (edgesOf relations).lookup e.evidenceId = none := by
  have hkeys : (edgesOf relations).lookup e.evidenceId = none ↔
      e.evidenceId ∉ (edgesOf relations).map Prod.fst := by
    rw [List.lookup_eq_none_iff, List.mem_map]
    constructor
    · rintro h ⟨edge, hedge, hid⟩
      exact absurd (h edge hedge) (by simp [hid])
    · intro h edge hedge
      simpa using fun hid => h ⟨edge, hedge, hid.symm⟩
  rw [hkeys, mem_keys_ofPairs]
  simp [Live]

/-- The last record of a superseded id has a later one that nothing supersedes. -/
theorem exists_live (h : Admissible evidence relations)
    (hlast : lastWith evidence e.evidenceId = some e) (hlive : ¬ Live relations e) :
    ∃ new ∈ evidence, Live relations new ∧ LaterThan e new := by
  classical
  have hnext : ∀ old, lastWith evidence old.evidenceId = some old → ¬ Live relations old →
      ∃ new ∈ evidence, lastWith evidence new.evidenceId = some new ∧ LaterThan old new := by
    intro old hold hlive
    rw [live_iff] at hlive
    obtain ⟨newer, hedge⟩ := Option.ne_none_iff_exists'.mp hlive
    obtain ⟨old', new, hold', hnew, hlater⟩ := laterThan_of_lookup h hedge
    obtain rfl := Option.some.inj (hold.symm.trans hold')
    obtain ⟨hmem, rfl⟩ := mem_of_lastWith hnew
    exact ⟨new, hmem, hnew, hlater⟩
  -- of the later records, the last one that was observed
  let later := evidence.toFinset.filter fun new =>
    lastWith evidence new.evidenceId = some new ∧ LaterThan e new
  have hmem : ∀ new, new ∈ later ↔ new ∈ evidence ∧
      lastWith evidence new.evidenceId = some new ∧ LaterThan e new := by
    simp [later]
  obtain ⟨first, hfirst, hfirstLast, hfirstLater⟩ := hnext e hlast hlive
  obtain ⟨last, hlastMem, hmax⟩ := later.exists_max_image (fun new => new.observedAt.micros)
    ⟨first, (hmem first).mpr ⟨hfirst, hfirstLast, hfirstLater⟩⟩
  obtain ⟨hlastIn, hlastLast, hlastLater⟩ := (hmem last).mp hlastMem
  refine ⟨last, hlastIn, ?_, hlastLater⟩
  by_contra hdead
  obtain ⟨next, hnextIn, hnextLast, hnextLater⟩ := hnext last hlastLast hdead
  have hle := hmax next ((hmem next).mpr ⟨hnextIn, hnextLast, hlastLater.trans hnextLater⟩)
  exact absurd hnextLater.later (Int.not_lt.mpr hle)

/-! ## Walks -/

/-- A walk along edges that rise does not come back. -/
theorem walk_eq_ok {edges : List (String × String)} {rank : String → ℤ}
    (hrank : ∀ a b, edges.lookup a = some b → rank a < rank b) {steps : ℕ} {seen : List String}
    {current : String} (hbelow : ∀ id ∈ seen, rank id < rank current) (hnodup : seen.Nodup)
    (hkeys : seen ⊆ edges.map Prod.fst) (hsteps : edges.length < steps + seen.length) :
    walk edges steps seen current = .ok () := by
  induction steps generalizing seen current with
  | zero =>
    have hle := (hnodup.subperm hkeys).length_le
    rw [List.length_map] at hle
    omega
  | succ steps ih =>
    rw [walk]
    cases hedge : edges.lookup current with
    | none => rfl
    | some next =>
      have hnew : current ∉ seen := fun hseen => lt_irrefl _ (hbelow current hseen)
      have hup := hrank current next hedge
      have hkey : current ∈ edges.map Prod.fst := by
        obtain ⟨pre, post, hsplit, -⟩ := List.lookup_eq_some_iff.mp hedge
        rw [hsplit]
        simp
      simp only [hnew, if_false]
      refine ih (List.forall_mem_cons.mpr ⟨hup, fun id hid => (hbelow id hid).trans hup⟩)
        (List.nodup_cons.mpr ⟨hnew, hnodup⟩) (List.cons_subset.mpr ⟨hkey, hkeys⟩) ?_
      rw [List.length_cons]
      omega

/-- Relations that pass their checks are accepted. -/
theorem validateRelations_eq_ok (h : Admissible evidence relations) :
    validateRelations evidence relations = .ok () := by
  unfold validateRelations
  rw [bind_eq_ok]
  refine ⟨_, mapM_checkRelation h, ?_⟩
  rw [forM_eq_ok]
  intro id _
  have hrank : ∀ a b, (edgesOf relations).lookup a = some b →
      ((lastWith evidence a).map (·.observedAt.micros)).getD 0 <
        ((lastWith evidence b).map (·.observedAt.micros)).getD 0 := by
    intro a b hedge
    obtain ⟨old, new, hold, hnew, hlater⟩ := laterThan_of_lookup h hedge
    simpa [hold, hnew] using hlater.later
  exact walk_eq_ok hrank (fun _ h => nomatch h) List.nodup_nil (List.nil_subset _) (by simp)

theorem admissible_of_validateRelations (h : validateRelations evidence relations = .ok ()) :
    Admissible evidence relations := by
  unfold validateRelations at h
  obtain ⟨_, hpairs, -⟩ := bind_eq_ok.mp h
  exact fun r hr => ok_of_mapM hpairs hr

/-- The checks of a relation do not refuse a cycle. -/
theorem refuses_checkRelation {r : Supersession} :
    Refuses (· ≠ .refusal "REFUSED[SUPERSESSION_CYCLE]") (checkRelation (byId evidence) r) := by
  unfold checkRelation
  refine (refuses_ensure (by decide)).bind fun _ _ => ?_
  cases (byId evidence).lookup r.olderId with
  | none => exact refuses_error (by decide)
  | some old =>
    cases (byId evidence).lookup r.newerId with
    | none => exact refuses_error (by decide)
    | some new =>
      refine (refuses_ensure (by decide)).bind fun _ _ => ?_
      refine Refuses.bind ?_ fun _ _ => (refuses_ensure (by decide)).bind fun _ _ => refuses_pure
      unfold isBefore
      split_ifs
      · exact refuses_ok
      · exact refuses_error (by decide)

/-- No cycle is ever refused. -/
theorem validateRelations_ne_cycle :
    validateRelations evidence relations ≠ refuse "REFUSED[SUPERSESSION_CYCLE]" := by
  intro hcycle
  have hrefuses : Refuses (· ≠ .refusal "REFUSED[SUPERSESSION_CYCLE]")
      (relations.mapM (checkRelation (byId evidence))) :=
    refuses_mapM fun r _ => refuses_checkRelation
  cases hpairs : relations.mapM (checkRelation (byId evidence)) with
  | error error =>
    have herror : validateRelations evidence relations = .error error := by
      simp only [validateRelations, hpairs]
      rfl
    exact hrefuses error hpairs (Except.error.inj (herror.symm.trans hcycle))
  | ok pairs =>
    rw [validateRelations_eq_ok fun r hr => ok_of_mapM hpairs hr] at hcycle
    exact nomatch hcycle

/-! ## Frontiers -/

/-- What the frontier calls historical. -/
theorem mem_historical (h : resolveFrontier evidence relations = .ok frontier) :
    e ∈ frontier.historical ↔ e ∈ evidence ∧ ¬ Live relations e := by
  unfold resolveFrontier at h
  obtain ⟨-, -, hfrontier⟩ := bind_eq_ok.mp h
  rw [← pure_eq_ok.mp hfrontier, mem_sortedById, List.mem_filter]
  simp [Live]

/-- The records are parted into the current and the historical ones. -/
theorem perm_frontier (h : resolveFrontier evidence relations = .ok frontier) :
    (frontier.current ++ frontier.historical).Perm evidence := by
  unfold resolveFrontier at h
  obtain ⟨-, -, hfrontier⟩ := bind_eq_ok.mp h
  have hnot : (fun e : Evidence => decide (e.evidenceId ∈ relations.map (·.olderId))) =
      fun e => !decide (e.evidenceId ∉ relations.map (·.olderId)) := by
    funext e
    simp only [decide_not, Bool.not_not]
  rw [← pure_eq_ok.mp hfrontier, hnot]
  refine ((List.perm_insertionSort _ _).append (List.perm_insertionSort _ _)).trans ?_
  exact List.filter_append_perm _ evidence

/-- No cycle is refused, and what is accepted has no gap. -/
def NeverGaps (evidence : List Evidence) (relations : List Supersession) : Prop :=
  resolveFrontier evidence relations ≠ refuse "REFUSED[SUPERSESSION_CYCLE]" ∧
    ∀ frontier, resolveFrontier evidence relations = .ok frontier → Gapless evidence frontier

/-- There is no gap exactly if a relation is refused or the hidden records are covered. -/
theorem frontier_gapless_iff (evidence : List Evidence) (relations : List Supersession) :
    NeverGaps evidence relations ↔
      (Admissible evidence relations → HiddenCovered evidence relations) := by
  constructor
  · rintro ⟨-, hgapless⟩ hadmissible e he hdead -
    have hok : resolveFrontier evidence relations = .ok
        { current := sortedById (evidence.filter fun e => e.evidenceId ∉ relations.map (·.olderId))
          historical :=
            sortedById (evidence.filter fun e => e.evidenceId ∈ relations.map (·.olderId)) } := by
      unfold resolveFrontier
      rw [validateRelations_eq_ok hadmissible]
      rfl
    obtain ⟨new, hnew, hlater⟩ := (hgapless _ hok).later e ((mem_historical hok).mpr ⟨he, hdead⟩)
    obtain ⟨hnewIn, hlive⟩ := (mem_current hok).mp hnew
    exact ⟨new, hnewIn, hlive, hlater⟩
  · intro hcovered
    constructor
    · intro hcycle
      unfold resolveFrontier at hcycle
      cases hvalid : validateRelations evidence relations with
      | error error =>
        rw [hvalid] at hcycle
        exact validateRelations_ne_cycle (hvalid.trans (congrArg _ (Except.error.inj hcycle)))
      | ok _ =>
        rw [hvalid] at hcycle
        exact nomatch hcycle
    · intro frontier hok
      have hvalid : validateRelations evidence relations = .ok () := by
        unfold resolveFrontier at hok
        exact (bind_eq_ok.mp hok).choose_spec.1
      have hadmissible := admissible_of_validateRelations hvalid
      have hlater : ∀ e ∈ frontier.historical, ∃ new ∈ frontier.current, LaterThan e new := by
        intro e he
        obtain ⟨hin, hdead⟩ := (mem_historical hok).mp he
        have hnew : ∃ new ∈ evidence, Live relations new ∧ LaterThan e new := by
          by_cases hlast : lastWith evidence e.evidenceId = some e
          · exact exists_live hadmissible hlast hdead
          · exact hcovered hadmissible e hin hdead hlast
        obtain ⟨new, hnewIn, hlive, hlater⟩ := hnew
        exact ⟨new, (mem_current hok).mpr ⟨hnewIn, hlive⟩, hlater⟩
      refine ⟨perm_frontier hok, ?_, hlater, ?_⟩
      · intro e hcurrent hhistorical
        exact ((mem_historical hok).mp hhistorical).2 ((mem_current hok).mp hcurrent).2
      · intro hne hnone
        obtain ⟨e, rest, rfl⟩ := List.exists_cons_of_ne_nil hne
        have hcurrent : ∀ new, new ∉ frontier.current := by
          intro new
          rw [hnone]
          exact List.not_mem_nil
        by_cases hlive : Live relations e
        · exact hcurrent e ((mem_current hok).mpr ⟨List.mem_cons_self, hlive⟩)
        · obtain ⟨new, hnew, -⟩ :=
            hlater e ((mem_historical hok).mpr ⟨List.mem_cons_self, hlive⟩)
          exact hcurrent new hnew

/-! ## A repeated id -/

/-- A receipt of one commit, observed at some minute. -/
def receiptAt (evidenceId : String) (minute : ℤ) : Evidence :=
  { evidenceId, subject := commitOf 'a', scope := "RECEIPT", outcome := "PASS",
    observedAt := ⟨true, minute * 60000000⟩ }

theorem repeated_id_gaps : ¬ NeverGaps [receiptAt "x" 30, receiptAt "x" 10, receiptAt "y" 20]
    [{ olderId := "x", newerId := "y", reason := "NEW_RECEIPT" }] := by
  rintro ⟨-, hgapless⟩
  have hfrontier : (resolveFrontier [receiptAt "x" 30, receiptAt "x" 10, receiptAt "y" 20]
      [{ olderId := "x", newerId := "y", reason := "NEW_RECEIPT" }]).toOption =
      some ⟨[receiptAt "y" 20], [receiptAt "x" 30, receiptAt "x" 10]⟩ := by
    decide +kernel
  obtain ⟨new, hnew, hlater⟩ := (hgapless _ (toOption_eq_some.mp hfrontier)).later
    (receiptAt "x" 30) List.mem_cons_self
  rw [List.mem_singleton.mp hnew] at hlater
  exact absurd hlater.later (by decide)

end ChatmanEcosystem.ReleaseTrain.CurrentFrontier
