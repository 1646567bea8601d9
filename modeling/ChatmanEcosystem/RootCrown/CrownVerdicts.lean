import ChatmanEcosystem.RootCrown.Crown

/-!
# Verdicts of the root crown

Results:

* `evaluate_returns_iff`: a verdict is returned unless private records cannot be dated, the receipt
  before cannot be read, or a head has moved and the rows depend on each other in a cycle.
* `alive_sound`: what ALIVE says, and which rows stay PASS when a head moves.
-/

namespace ChatmanEcosystem.RootCrown

open Common Py Rust Relation

variable {py : PyRuntime} {reqs : List Requirement} {observations : Observations} {heads : Digests}
  {previous : Option Dict} {rid repo : String}

/-! ## The heads -/

/-- A repository has another head than the receipt before has for it. -/
def NewHead (previous : Option Dict) (heads : Digests) (repo : String) : Prop :=
  ∃ receipt sha, previous = some receipt ∧ (repo, sha) ∈ heads ∧
    headMoved (priorHeads receipt) (repo, sha) = true

theorem NewHead.lookup (h : NewHead previous heads repo) :
    ∃ head, heads.lookup repo = some head := by
  obtain ⟨receipt, sha, -, hmem, -⟩ := h
  rw [← Option.isSome_iff_exists, ← Option.not_isNone, Bool.not_eq_true', Bool.eq_false_iff]
  intro hnone
  rw [Option.isNone_iff_eq_none, List.lookup_eq_none_iff] at hnone
  exact absurd (hnone _ hmem) (by simp)

/-- The heads of the receipt before can be read. -/
def HeadsReadable (previous : Option Dict) (heads : Digests) : Prop :=
  ∀ receipt, previous = some receipt → receipt ≠ [] →
    ∀ head ∈ heads, readable (priorHeads receipt) head.1 = true

theorem exists_movedRepos : HeadsReadable previous heads ↔
    ∃ moved, movedRepos previous heads = .ok moved := by
  rw [HeadsReadable]
  match previous with
  | none => simp [movedRepos]
  | some [] => simp [movedRepos]
  | some (item :: items) =>
    simp only [movedRepos, bind_eq_ok, ensure_eq_ok, pure_eq_ok, List.all_eq_true]
    constructor
    · intro h
      exact ⟨_, (), h _ rfl (List.cons_ne_nil _ _), rfl⟩
    · rintro ⟨_, _, hall, -⟩ receipt hreceipt -
      rw [← Option.some.inj hreceipt]
      exact hall

theorem mem_movedRepos {moved : List String} (h : movedRepos previous heads = .ok moved) :
    repo ∈ moved ↔ NewHead previous heads repo := by
  match previous with
  | none =>
    obtain rfl := Except.ok.inj h
    simp [NewHead]
  | some [] =>
    obtain rfl := Except.ok.inj h
    simp [NewHead, headMoved, priorHeads, Dict.getD, Value.dict?]
  | some (item :: items) =>
    simp only [movedRepos, bind_eq_ok, pure_eq_ok] at h
    obtain ⟨-, -, rfl⟩ := h
    simp [NewHead]

/-! ## Dependencies -/

/-- A row depends on another. -/
def DependsOn (reqs : List Requirement) (dep rid : String) : Prop :=
  ∃ req ∈ reqs, req.id = rid ∧ dep ∈ req.dependsOn

/-- A row depends on a repository, itself or through others. -/
inductive DependsOnRepo (reqs : List Requirement) (repo : String) : String → Prop
  | direct {req : Requirement} : req ∈ reqs → repo ∈ req.repos → DependsOnRepo reqs repo req.id
  | through {dep rid : String} : DependsOn reqs dep rid → DependsOnRepo reqs repo dep →
      DependsOnRepo reqs repo rid

theorem repoKey_inj {repo repo' : String} : repoKey repo = repoKey repo' ↔ repo = repo' := by
  simp [repoKey]

theorem repoKey_ne_reqKey : repoKey repo ≠ reqKey rid := by
  intro h
  have hlist := congrArg String.toList h
  simp [repoKey, reqKey] at hlist

theorem newHeadStep {producer consumer : String} :
    (graphOf (newHeadEdges reqs)).Step producer consumer ↔
      ∃ req ∈ reqs, consumer = reqKey req.id ∧
        ((∃ repo ∈ req.repos, producer = repoKey repo) ∨
          ∃ dep ∈ req.dependsOn, producer = reqKey dep) := by
  simp only [Edges.Step, graphOf, newHeadEdges, newHeadEdge, List.mem_map, List.mem_flatMap,
    List.mem_append, Prod.mk.injEq]
  constructor
  · rintro ⟨edge, ⟨req, hreq, ⟨repo, hrepo, rfl⟩ | ⟨dep, hdep, rfl⟩⟩, rfl, rfl⟩
    · exact ⟨req, hreq, rfl, .inl ⟨repo, hrepo, rfl⟩⟩
    · exact ⟨req, hreq, rfl, .inr ⟨dep, hdep, rfl⟩⟩
  · rintro ⟨req, hreq, rfl, ⟨repo, hrepo, rfl⟩ | ⟨dep, hdep, rfl⟩⟩
    · exact ⟨_, ⟨req, hreq, .inl ⟨repo, hrepo, rfl⟩⟩, rfl, rfl⟩
    · exact ⟨_, ⟨req, hreq, .inr ⟨dep, hdep, rfl⟩⟩, rfl, rfl⟩

theorem newHeadStep_reqKey {dep consumer : String} :
    (graphOf (newHeadEdges reqs)).Step (reqKey dep) consumer ↔
      ∃ rid, consumer = reqKey rid ∧ DependsOn reqs dep rid := by
  rw [newHeadStep]
  constructor
  · rintro ⟨req, hreq, rfl, ⟨repo, -, hrepo⟩ | ⟨dep', hdep, hsame⟩⟩
    · exact absurd hrepo.symm repoKey_ne_reqKey
    · rw [reqKey_inj] at hsame
      exact ⟨req.id, rfl, req, hreq, rfl, hsame ▸ hdep⟩
  · rintro ⟨_, rfl, req, hreq, rfl, hdep⟩
    exact ⟨req, hreq, rfl, .inr ⟨dep, hdep, rfl⟩⟩

theorem transGen_reqKey {dep key : String} :
    TransGen (graphOf (newHeadEdges reqs)).Step (reqKey dep) key ↔
      ∃ rid, key = reqKey rid ∧ TransGen (DependsOn reqs) dep rid := by
  constructor
  · intro h
    induction h with
    | single hstep =>
      obtain ⟨rid, rfl, hdep⟩ := newHeadStep_reqKey.mp hstep
      exact ⟨rid, rfl, .single hdep⟩
    | tail _ hstep ih =>
      obtain ⟨mid, rfl, hbefore⟩ := ih
      obtain ⟨rid, rfl, hdep⟩ := newHeadStep_reqKey.mp hstep
      exact ⟨rid, rfl, hbefore.tail hdep⟩
  · rintro ⟨rid, rfl, h⟩
    induction h with
    | single hdep => exact .single (newHeadStep_reqKey.mpr ⟨_, rfl, hdep⟩)
    | tail _ hdep ih => exact ih.tail (newHeadStep_reqKey.mpr ⟨_, rfl, hdep⟩)

/-- The graph has a cycle exactly if rows depend on each other in one. -/
theorem newHead_acyclic : dependencyGraph (newHeadEdges reqs) = .ok () ↔
    ∀ rid, ¬ TransGen (DependsOn reqs) rid rid := by
  rw [dependencyGraph, ensure_eq_ok, Edges.accepts_iff sorted_perm]
  constructor
  · intro h rid hcycle
    exact h (reqKey rid) (transGen_reqKey.mpr ⟨rid, rfl, hcycle⟩)
  · intro h key hcycle
    -- a node on a cycle is the end of an edge, so that it is a row
    obtain ⟨before, -, hstep⟩ := TransGen.tail'_iff.mp hcycle
    obtain ⟨req, -, rfl, -⟩ := newHeadStep.mp hstep
    obtain ⟨rid, hsame, hdep⟩ := transGen_reqKey.mp hcycle
    rw [reqKey_inj] at hsame
    exact h rid (hsame ▸ hdep)

/-- What a repository reaches is what depends on it. -/
theorem reach_repo : ReflTransGen (graphOf (newHeadEdges reqs)).Step (repoKey repo) (reqKey rid) ↔
    DependsOnRepo reqs repo rid := by
  constructor
  · intro h
    have hall : ∀ key, ReflTransGen (graphOf (newHeadEdges reqs)).Step (repoKey repo) key →
        key = repoKey repo ∨ ∃ rid, key = reqKey rid ∧ DependsOnRepo reqs repo rid := by
      intro key hkey
      induction hkey with
      | refl => exact .inl rfl
      | tail _ hstep ih =>
        rcases ih with rfl | ⟨dep, rfl, hdep⟩
        · obtain ⟨req, hreq, rfl, ⟨repo', hrepo, hsame⟩ | ⟨dep, -, hsame⟩⟩ := newHeadStep.mp hstep
          · rw [repoKey_inj] at hsame
            exact .inr ⟨req.id, rfl, .direct hreq (hsame ▸ hrepo)⟩
          · exact absurd hsame repoKey_ne_reqKey
        · obtain ⟨rid, rfl, hrid⟩ := newHeadStep_reqKey.mp hstep
          exact .inr ⟨rid, rfl, .through hrid hdep⟩
    rcases hall _ h with hrepo | ⟨rid', hsame, hdep⟩
    · exact absurd hrepo.symm repoKey_ne_reqKey
    · rw [reqKey_inj] at hsame
      exact hsame ▸ hdep
  · intro h
    induction h with
    | direct hreq hrepo => exact .single (newHeadStep.mpr ⟨_, hreq, rfl, .inl ⟨repo, hrepo, rfl⟩⟩)
    | through hrid _ ih => exact ih.tail (newHeadStep_reqKey.mpr ⟨_, rfl, hrid⟩)

/-- The impact of new heads, row by row. -/
theorem exists_newHeadImpacts : (∃ impacts, newHeadImpacts reqs previous heads = .ok impacts) ↔
    HeadsReadable previous heads ∧
      ((∃ repo, NewHead previous heads repo) → ∀ rid, ¬ TransGen (DependsOn reqs) rid rid) := by
  simp only [newHeadImpacts, bind_eq_ok, pure_eq_ok, exists_movedRepos]
  constructor
  · rintro ⟨_, moved, hmoved, pairs, hpairs, -⟩
    refine ⟨⟨moved, hmoved⟩, ?_⟩
    rintro ⟨repo, hrepo⟩
    obtain ⟨_, hok⟩ := ok_of_mapM hpairs ((mem_movedRepos hmoved).mpr hrepo)
    simp only [impactOf, cascade, List.mapM_cons, bind_eq_ok] at hok
    obtain ⟨_, ⟨_, ⟨_, ⟨_, hgraph, -⟩, -⟩, -⟩, -⟩ := hok
    exact newHead_acyclic.mp hgraph
  · rintro ⟨⟨moved, hmoved⟩, hacyclic⟩
    have hpairs : ∀ repo ∈ moved, ∃ pairs : List (String × String), (do
        let impact ← impactOf (newHeadEdges reqs) [repoKey repo]
        return ((impact.filter (startsWith · "req:")).map (dropText · "req:")).map (·, repo) :
          Outcome (List (String × String))) = .ok pairs := by
      intro repo hrepo
      have hgraph := newHead_acyclic.mpr (hacyclic ⟨repo, (mem_movedRepos hmoved).mp hrepo⟩)
      obtain ⟨impact, himpact, -⟩ := exists_impactOf hgraph [repoKey repo]
      exact ⟨_, by rw [himpact]; rfl⟩
    obtain ⟨pairs, hpairs⟩ := exists_mapM hpairs
    exact ⟨_, moved, hmoved, pairs, hpairs, rfl⟩

theorem startsWith_req {key : String} : startsWith key "req:" = true ↔ ∃ rid, key = reqKey rid := by
  constructor
  · intro h
    obtain ⟨rest, hrest⟩ := List.isPrefixOf_iff_prefix.mp h
    refine ⟨String.ofList rest, ?_⟩
    rw [← String.toList_inj, reqKey, String.toList_append, ← hrest]
    simp
  · rintro ⟨rid, rfl⟩
    simp [startsWith, reqKey]

theorem dropText_reqKey : dropText (reqKey rid) "req:" = rid := by
  simp [dropText, reqKey]

/-- The rows that depend on what has moved, with the repositories that have. -/
theorem mem_newHeadImpacts {impacts : List (String × List String)}
    (h : newHeadImpacts reqs previous heads = .ok impacts) (rid : String) :
    (impacts.lookup rid = none ↔
      ∀ repo, NewHead previous heads repo → ¬ DependsOnRepo reqs repo rid) ∧
    ∀ moved, impacts.lookup rid = some moved → ∀ repo, repo ∈ moved ↔
      NewHead previous heads repo ∧ DependsOnRepo reqs repo rid := by
  have hacyclic := (exists_newHeadImpacts.mp ⟨impacts, h⟩).2
  simp only [newHeadImpacts, bind_eq_ok, pure_eq_ok] at h
  obtain ⟨moved, hmoved, pairs, hpairs, rfl⟩ := h
  have hmem : ∀ repo, (rid, repo) ∈ pairs.flatten ↔
      NewHead previous heads repo ∧ DependsOnRepo reqs repo rid := by
    intro repo
    simp only [List.mem_flatten, mem_of_mapM hpairs, mem_movedRepos hmoved, bind_eq_ok, pure_eq_ok]
    constructor
    · rintro ⟨_, ⟨repo', hrepo, impact, himpact, rfl⟩, hfound⟩
      obtain ⟨impact', himpact', hreach⟩ := exists_impactOf
        (newHead_acyclic.mpr (hacyclic ⟨repo', hrepo⟩)) [repoKey repo']
      rw [himpact] at himpact'
      obtain rfl := Except.ok.inj himpact'
      simp only [List.mem_map, List.mem_filter, Prod.mk.injEq] at hfound
      obtain ⟨_, ⟨key, ⟨hkey, hreq⟩, rfl⟩, hrid, rfl⟩ := hfound
      obtain ⟨rid', rfl⟩ := startsWith_req.mp hreq
      rw [dropText_reqKey] at hrid
      rw [hreach, ← hrid] at *
      obtain ⟨source, hsource, hpath⟩ := hkey
      rw [List.mem_singleton.mp hsource] at hpath
      exact ⟨hrepo, reach_repo.mp hpath⟩
    · rintro ⟨hrepo, hdep⟩
      obtain ⟨impact, himpact, hreach⟩ := exists_impactOf
        (newHead_acyclic.mpr (hacyclic ⟨repo, hrepo⟩)) [repoKey repo]
      refine ⟨_, ⟨repo, hrepo, impact, himpact, rfl⟩, ?_⟩
      have hkey : reqKey rid ∈ impact :=
        (hreach _).mpr ⟨_, List.mem_singleton_self _, reach_repo.mpr hdep⟩
      simp only [List.mem_map, List.mem_filter, Prod.mk.injEq]
      exact ⟨rid, ⟨reqKey rid, ⟨hkey, startsWith_req.mpr ⟨rid, rfl⟩⟩, dropText_reqKey⟩, by simp⟩
  have hkeys : rid ∈ pairs.flatten.map Prod.fst ↔
      ∃ repo, NewHead previous heads repo ∧ DependsOnRepo reqs repo rid := by
    simp only [List.mem_map, Prod.exists, exists_and_right, exists_eq_right, hmem]
  rw [lookup_collect]
  by_cases hrid : rid ∈ pairs.flatten.map Prod.fst
  · rw [if_pos hrid]
    refine ⟨⟨nofun, fun hnone => ?_⟩, fun found hfound repo => ?_⟩
    · obtain ⟨repo, hrepo, hdep⟩ := hkeys.mp hrid
      exact absurd hdep (hnone repo hrepo)
    · rw [← Option.some.inj hfound, ← hmem]
      simp [List.mem_map, List.mem_filter]
  · rw [if_neg hrid]
    refine ⟨⟨fun _ repo hrepo hdep => hrid (hkeys.mpr ⟨repo, hrepo, hdep⟩), fun _ => rfl⟩, nofun⟩

/-! ## The states of the rows -/

variable {registry : Evaluators} {crownSha : String} {impacts : List (String × List String)}

/-- The states have a key each, which is a row's, and come from before the cascade. -/
structure Evaluated (py : PyRuntime) (crownSha : String) (heads : Digests)
    (impacts : List (String × List String)) (reqs : List Requirement)
    (states : List (String × ReqState)) : Prop where
  nodup : (states.map Prod.fst).Nodup
  cascaded : ∀ item ∈ states, ∃ req ∈ reqs, req.id = item.1 ∧
    ∃ before, afterMove py crownSha heads impacts req before = item.2

theorem mem_orderedRows {req : Requirement} : req ∈ orderedRows reqs ↔ req ∈ reqs := by
  rw [orderedRows, List.mem_append, List.mem_filter, List.mem_filter, ← and_or_left]
  by_cases hkind : req.evidenceKind ∈ deferredKinds
  · simp [hkind]
  · simp [hkind]

theorem evaluated_evaluateRows :
    Evaluated py crownSha heads impacts reqs
      (evaluateRows py registry crownSha heads impacts reqs) ∧
    ∀ req ∈ reqs, req.id ∈ (evaluateRows py registry crownSha heads impacts reqs).map Prod.fst := by
  have hrun : ∀ rows : List Requirement, (∀ req ∈ rows, req ∈ reqs) →
      ∀ states, Evaluated py crownSha heads impacts reqs states →
      Evaluated py crownSha heads impacts reqs (rows.foldl (fun states req => setItem states req.id
        (afterMove py crownSha heads impacts req
          (typedState py req (contained registry states req)))) states) ∧
      ∀ key, key ∈ (rows.foldl (fun states req => setItem states req.id
        (afterMove py crownSha heads impacts req
          (typedState py req (contained registry states req)))) states).map Prod.fst ↔
        key ∈ states.map Prod.fst ∨ ∃ req ∈ rows, req.id = key := by
    intro rows
    induction rows with
    | nil =>
      intro _ states h
      simpa using h
    | cons req rows ih =>
      intro hrows states h
      have hreq := hrows req List.mem_cons_self
      have hstep : ∀ before, Evaluated py crownSha heads impacts reqs
          (setItem states req.id (afterMove py crownSha heads impacts req before)) := by
        intro before
        constructor
        · exact nodup_setItem h.nodup
        · intro item hitem
          rcases mem_setItem hitem with rfl | hold
          · exact ⟨req, hreq, rfl, before, rfl⟩
          · exact h.cascaded item hold
      obtain ⟨hall, hkeys⟩ := ih (fun other hother => hrows other (List.mem_cons_of_mem _ hother)) _
        (hstep (typedState py req (contained registry states req)))
      refine ⟨hall, fun key => ?_⟩
      rw [List.foldl_cons, hkeys, keys_setItem]
      split_ifs with hkey
      · constructor
        · rintro (hmem | ⟨other, hother, rfl⟩)
          · exact .inl hmem
          · exact .inr ⟨other, List.mem_cons_of_mem _ hother, rfl⟩
        · rintro (hmem | ⟨other, hother, rfl⟩)
          · exact .inl hmem
          · rcases List.mem_cons.mp hother with rfl | hother
            · exact .inl hkey
            · exact .inr ⟨other, hother, rfl⟩
      · simp only [List.mem_append, List.mem_singleton, List.exists_mem_cons_iff, or_assoc]
        rw [@eq_comm _ key]
  obtain ⟨hall, hkeys⟩ := hrun (orderedRows reqs) (fun req => mem_orderedRows.mp) []
    ⟨List.nodup_nil, by simp⟩
  refine ⟨hall, fun req hreq => (hkeys req.id).mpr (.inr ⟨req, mem_orderedRows.mpr hreq, rfl⟩)⟩

/-- What stays PASS is bound to a head that moved, or to the tree of the crown. -/
theorem afterMove_pass {req : Requirement} {before : ReqState} {moved : List String}
    (hmoved : impacts.lookup req.id = some moved)
    (h : (afterMove py crownSha heads impacts req before).state = .pass) :
    (afterMove py crownSha heads impacts req before).inTree crownSha = true ∨
      ∃ repo ∈ moved, heads.lookup repo =
        (afterMove py crownSha heads impacts req before).subjectSha := by
  simp only [afterMove, hmoved] at h ⊢
  split_ifs at h ⊢ with hdrop
  · cases h
  · -- nothing was dropped: the subject is among the new heads, or the evidence is the crown's own
    have hkept : ¬ (before.subjectSha ∉ moved.map fun repo => heads.lookup repo) ∨
        before.inTree crownSha = true := by
      by_contra hnone
      obtain ⟨hsubject, htree⟩ := not_or.mp hnone
      exact hdrop ⟨h, not_not.mp hsubject, htree⟩
    rcases hkept with hsubject | htree
    · exact .inr (List.mem_map.mp (not_not.mp hsubject))
    · exact .inl htree

/-! ## The terms -/

variable {states : List (String × ReqState)} {release : Release} {verdict : Verdict}

theorem incomplete_eq_nil {members : List Requirement} : incomplete states members = [] ↔
    ∀ req ∈ members, req.required = true → stateOf states req.id = .pass := by
  have hpairs : ∀ pair ∈ members.map (fun req => (req.id, stateOf states req.id)),
      pair.2 = stateOf states pair.1 := by
    intro pair hpair
    obtain ⟨req, -, rfl⟩ := List.mem_map.mp hpair
    rfl
  simp only [incomplete, List.map_eq_nil_iff, List.filter_eq_nil_iff, mem_ofPairs hpairs,
    decide_eq_true_eq, not_and, not_not]
  constructor
  · intro h req hreq hrequired
    refine h (req.id, stateOf states req.id) ⟨List.mem_map.mpr ⟨_, List.mem_map_of_mem hreq, rfl⟩,
      rfl⟩
      (List.mem_map_of_mem (List.mem_filter.mpr ⟨hreq, hrequired⟩))
  · rintro h item ⟨-, hvalue⟩ hid
    obtain ⟨req, hreq, hid⟩ := List.mem_map.mp hid
    obtain ⟨hreq, hrequired⟩ := List.mem_filter.mp hreq
    rw [hvalue, ← hid]
    exact h req hreq hrequired

variable {term : String}

theorem termState_pass (h : (termState py states reqs term).state = "PASS") :
    (∃ req ∈ reqs, req.term = term) ∧
      ∀ req ∈ reqs, req.term = term → req.required = true → stateOf states req.id = .pass := by
  simp only [termState] at h
  split_ifs at h with hmembers hmissing hrefused
  · simp at h
  · rw [incomplete_eq_nil] at hmissing
    constructor
    · obtain ⟨req, hreq⟩ := List.exists_mem_of_ne_nil _ hmembers
      obtain ⟨hreq, hterm⟩ := List.mem_filter.mp hreq
      exact ⟨req, hreq, by simpa using hterm⟩
    · intro req hreq hterm
      exact hmissing req (List.mem_filter.mpr ⟨hreq, by simpa using hterm⟩)
  · simp at h
  · simp at h

theorem subset_gateTerms {version : List ℕ} {entries : List (String × List ℕ)}
    {state : List String × List String} (h : term ∈ state.1) :
    term ∈ (entries.foldl (gateTerm version) state).1 := by
  induction entries generalizing state with
  | nil => exact h
  | cons entry entries ih =>
    refine ih ?_
    rw [gateTerm]
    split_ifs
    · exact h
    · exact List.mem_append_left _ h
    · exact h

variable {doc : RequirementsDoc}

/-- The base terms are evaluated, whatever is declared. -/
theorem mem_releaseTerms {name : Option String} (h : term ∈ terms) :
    term ∈ (releaseTerms py doc name).1 := by
  have hregistry : term ∈ termRegistry := by
    rw [termRegistry, List.mem_append]
    exact .inl h
  have hknown : ∀ known : List String, term ∈ known ++ terms.filter (· ∉ known) := by
    intro known
    by_cases hmem : term ∈ known
    · exact List.mem_append_left _ hmem
    · exact List.mem_append_right _ (List.mem_filter.mpr ⟨h, by simpa using hmem⟩)
  unfold releaseTerms
  rw [List.mem_filter, decide_eq_true_iff]
  refine ⟨hregistry, ?_⟩
  generalize (name.orElse fun _ => doc.release).bind (calver py) = version
  cases version with
  | some version => exact subset_gateTerms (hknown _)
  | none => exact hknown _

/-- The rows that are accepted are of terms that are evaluated. -/
theorem term_of_accepted {premise : Premise} {row : Requirement}
    (h : validateRequirements py premise doc = []) (hrow : row ∈ doc.rows) :
    row.term ∈ (releaseTerms py doc premise.release).1 := by
  have hrows : doc.rows ≠ [] := List.ne_nil_of_mem hrow
  simp only [validateRequirements, if_neg hrows, sortedTexts_eq_nil, List.append_eq_nil_iff,
    List.flatMap_eq_nil_iff, List.map_eq_nil_iff, and_assoc] at h
  obtain ⟨-, -, hmalformed, hbound, -⟩ := h
  have hwell : row ∈ doc.rows.filter (badFields · = []) :=
    List.mem_filter.mpr ⟨hrow, by simpa using hmalformed row hrow⟩
  have hterm := hbound row hwell
  simp only [rowRefusals, List.append_eq_nil_iff, and_assoc] at hterm
  obtain ⟨hterm, -⟩ := hterm
  by_contra hnone
  rw [if_neg hnone] at hterm
  cases hterm

/-! ## The verdict -/

/-- What the receipt says of the rows. -/
theorem judgeRows_requirements (h : evaluate py release observations previous = .ok verdict) :
    ∃ impacts refusals states, newHeadImpacts release.doc.rows previous verdict.receipt.heads =
        .ok impacts ∧ validateRequirements py release.premise release.doc ⊆ refusals ∧
      states = evaluateRows py release.registry release.crownSha verdict.receipt.heads impacts
        release.doc.rows ∧
      verdict = judgeRows py release previous refusals verdict.receipt.heads impacts states := by
  simp only [evaluate, bind_eq_ok, pure_eq_ok] at h
  obtain ⟨chain, -, heads, -, impacts, himpacts, rfl⟩ := h
  refine ⟨impacts, _, _, himpacts, fun refusal hrefusal => ?_, rfl, rfl⟩
  simp only [List.mem_append]
  exact .inl (.inl (.inl (.inl hrefusal)))

theorem lookup_sortedItems (h : (states.map Prod.fst).Nodup) {state : ReqState} :
    (sortedItems states).lookup rid = some state ↔ states.lookup rid = some state := by
  have hperm : (sortedItems states).Perm states := List.perm_insertionSort _ _
  rw [lookup_eq_some_iff ((hperm.map Prod.fst).nodup_iff.mpr h), lookup_eq_some_iff h,
    hperm.mem_iff]

/-- ALIVE has nothing refused, every base term bound and every required row passed. -/
theorem judgeRows_alive {refusals : List String}
    (hrefusals : validateRequirements py release.premise release.doc ⊆ refusals)
    (hstates : Evaluated py crownSha heads impacts release.doc.rows states)
    (hrows : ∀ req ∈ release.doc.rows, req.id ∈ states.map Prod.fst)
    (halive : (judgeRows py release previous refusals heads impacts states).standing = "ALIVE") :
    (judgeRows py release previous refusals heads impacts states).refusals = [] ∧
      (∀ term ∈ terms, (∃ req ∈ release.doc.rows, req.term = term) ∧
        (term, "PASS") ∈ (judgeRows py release previous refusals heads impacts states).terms) ∧
      ∀ req ∈ release.doc.rows, req.required = true → ∃ state,
        (judgeRows py release previous refusals heads impacts states).receipt.requirements.lookup
          req.id = some state ∧ state.state = .pass := by
  simp only [judgeRows] at halive ⊢
  split_ifs at halive with hnone hterms
  · simp at halive
  · rw [ne_eq, not_not] at hnone
    have hpass : ∀ term ∈ (releaseTerms py release.doc (some release.name)).1,
        (termState py states release.doc.rows term).state = "PASS" := by
      intro term hterm
      rw [List.all_map, List.all_eq_true] at hterms
      simpa using hterms term hterm
    refine ⟨hnone, fun term hterm => ?_, fun req hreq hrequired => ?_⟩
    · have hterm : term ∈ (releaseTerms py release.doc (some release.name)).1 :=
        mem_releaseTerms hterm
      refine ⟨(termState_pass (hpass term hterm)).1, ?_⟩
      rw [List.map_map, List.mem_map]
      exact ⟨term, hterm, by simp [hpass term hterm]⟩
    · rw [sortedTexts_eq_nil, List.append_eq_nil_iff] at hnone
      have haccepted : validateRequirements py release.premise release.doc = [] :=
        List.subset_nil.mp (hnone.1 ▸ hrefusals)
      have hterm := term_of_accepted haccepted hreq
      have hstate := (termState_pass (hpass req.term hterm)).2 req hreq (by simp) hrequired
      obtain ⟨item, hitem, hid⟩ := List.mem_map.mp (hrows req hreq)
      have hfound : states.lookup req.id = some item.2 := by
        rw [lookup_eq_some_iff hstates.nodup, ← hid]
        exact hitem
      refine ⟨item.2, (lookup_sortedItems hstates.nodup).mpr hfound, ?_⟩
      simpa [stateOf, hfound] using hstate
  · simp at halive

/-- ALIVE has nothing refused, every base term bound and every required row passed; and a row
that depends on a repository with a new head is passed only on evidence from the crown's own tree,
or about the new head of such a repository. -/
theorem alive_sound (h : evaluate py release observations previous = .ok verdict) :
    (verdict.standing = "ALIVE" → verdict.refusals = [] ∧
      (∀ term ∈ terms, (∃ req ∈ release.doc.rows, req.term = term) ∧
        (term, "PASS") ∈ verdict.terms) ∧
      ∀ req ∈ release.doc.rows, req.required = true → ∃ state,
        verdict.receipt.requirements.lookup req.id = some state ∧ state.state = .pass) ∧
    ∀ rid state, verdict.receipt.requirements.lookup rid = some state → state.state = .pass →
      ∀ repo, NewHead previous verdict.receipt.heads repo →
        DependsOnRepo release.doc.rows repo rid →
        state.inTree release.crownSha = true ∨ ∃ moved head,
          NewHead previous verdict.receipt.heads moved ∧
          DependsOnRepo release.doc.rows moved rid ∧
          verdict.receipt.heads.lookup moved = some head ∧ state.subjectSha = some head := by
  obtain ⟨impacts, refusals, states, himpacts, hrefusals, hstates, hverdict⟩ :=
    judgeRows_requirements h
  have hevaluated : Evaluated py release.crownSha verdict.receipt.heads impacts release.doc.rows
      states ∧ ∀ req ∈ release.doc.rows, req.id ∈ states.map Prod.fst := by
    rw [hstates]
    exact evaluated_evaluateRows
  refine ⟨fun halive => ?_, fun rid state hstate hpass repo hrepo hdep => ?_⟩
  · rw [hverdict] at halive ⊢
    exact judgeRows_alive hrefusals hevaluated.1 hevaluated.2 halive
  · have hfound : states.lookup rid = some state := by
      rw [hverdict] at hstate
      exact (lookup_sortedItems hevaluated.1.nodup).mp hstate
    rw [lookup_eq_some_iff hevaluated.1.nodup] at hfound
    obtain ⟨req, -, hid, before, hbefore⟩ : ∃ req ∈ release.doc.rows, req.id = rid ∧ ∃ before,
        afterMove py release.crownSha verdict.receipt.heads impacts req before = state :=
      hevaluated.1.cascaded _ hfound
    obtain ⟨hnone, hmoved⟩ := mem_newHeadImpacts himpacts rid
    cases himpact : impacts.lookup rid with
    | none => exact absurd hdep (hnone.mp himpact repo hrepo)
    | some moved =>
      have himpact' : impacts.lookup req.id = some moved := by rw [hid, himpact]
      rw [← hbefore] at hpass
      rcases afterMove_pass himpact' hpass with htree | ⟨other, hother, hsubject⟩
      · rw [hbefore] at htree
        exact .inl htree
      · rw [hbefore] at hsubject
        obtain ⟨hnew, hrid⟩ := (hmoved moved himpact other).mp hother
        obtain ⟨head, hhead⟩ := hnew.lookup
        rw [hhead] at hsubject
        exact .inr ⟨other, head, hnew, hrid, hhead, hsubject.symm⟩

/-! ## A cycle -/

/-- Six rows that are accepted, the first of which may depend on others. -/
def crownRows (deps : List String) (locator : String) : List Requirement :=
  [("AC-01", "C"), ("AC-02", "A"), ("AC-03", "R"), ("AC-04", "X"), ("AC-05", "F"),
    ("AC-06", "M")].map fun row =>
    ⟨row.1, "AC", row.2, "chatman/kernel", "holds", "ARTIFACT", locator, ["§48"],
      if row.1 = "AC-01" then deps else [], true⟩

/-- The head of the console. -/
def consoleHead : String := "c0ffee"

/-- An evaluator whose evidence is about the console. -/
def passAll : Evaluator := fun req _ => .ok (.pass req.id (some consoleHead) none)

def sampleRelease (deps : List String) (locator : String) : Release where
  name := "v26.9.25"
  doc := ⟨none, some "v26.9.25", some "RFC-0004", [], crownRows deps locator⟩
  pinned := ["chatman/kernel"]
  rootRepository := "chatman/root"
  rfcText := "# 48. Acceptance\nAC-01 c\nAC-02 a\nAC-03 r\nAC-04 x\nAC-05 f\nAC-06 m\n"
  premiseSet := []
  crownSha := "beef"
  mode := .preTag
  registry := [("ARTIFACT", passAll)]
  drift := .ok []
  policyRefusals := []

/-- The kernel and the console are observed. -/
def sampleObservations : Observations where
  observedAt := some "0"
  repos := [("chatman/kernel", ⟨some "f00d", none⟩), ("chatman/console", ⟨some consoleHead, none⟩)]
  privateAt := none
  privateRepos := []
  compare := []

/-- A receipt of another schema, with other heads. -/
def olderReceipt : Dict :=
  [("schema", .str "v0"),
    ("heads", .dict [("chatman/kernel", .str "0"), ("chatman/console", .str "0")])]

/-- Every row is passed. -/
theorem alive_sound_sample : ∃ verdict,
    evaluate samplePyRuntime (sampleRelease ["AC-02"] "local:a") sampleObservations none =
      .ok verdict ∧ verdict.standing = "ALIVE" ∧ verdict.refusals = [] ∧
    ∀ rid state, verdict.receipt.requirements.lookup rid = some state → state.state = .pass →
      ∀ repo, NewHead none verdict.receipt.heads repo →
        DependsOnRepo (crownRows ["AC-02"] "local:a") repo rid →
        state.inTree "beef" = true ∨ ∃ moved head,
          NewHead none verdict.receipt.heads moved ∧
          DependsOnRepo (crownRows ["AC-02"] "local:a") moved rid ∧
          verdict.receipt.heads.lookup moved = some head ∧ state.subjectSha = some head := by
  have halive : (evaluate samplePyRuntime (sampleRelease ["AC-02"] "local:a") sampleObservations
      none).toOption.map Verdict.standing = some "ALIVE" := by
    decide +kernel
  obtain ⟨verdict, hverdict, halive⟩ := Option.map_eq_some_iff.mp halive
  have hverdict := toOption_eq_some.mp hverdict
  obtain ⟨hsound, hpass⟩ := alive_sound hverdict
  exact ⟨verdict, hverdict, halive, (hsound halive).1, hpass⟩

/-- The first row is about the kernel and the console, both of which have a new head: it is passed
on evidence about the console. -/
theorem stale_pass : ∃ verdict state,
    evaluate samplePyRuntime (sampleRelease [] "chatman/console:receipt.json") sampleObservations
      (some olderReceipt) = .ok verdict ∧
    verdict.receipt.requirements.lookup "AC-01" = some state ∧ state.state = .pass ∧
    NewHead (some olderReceipt) verdict.receipt.heads "chatman/kernel" ∧
    DependsOnRepo (crownRows [] "chatman/console:receipt.json") "chatman/kernel" "AC-01" ∧
    verdict.receipt.heads.lookup "chatman/kernel" ≠ state.subjectSha ∧
    state.inTree "beef" = false := by
  have hfound : ((evaluate samplePyRuntime (sampleRelease [] "chatman/console:receipt.json")
      sampleObservations (some olderReceipt)).toOption.map fun verdict =>
        (verdict.receipt.heads, (verdict.receipt.requirements.lookup "AC-01").map fun state =>
          (state.state, state.subjectSha, state.inTree "beef"))) =
      some ([("chatman/console", consoleHead), ("chatman/kernel", "f00d")],
        some (.pass, some consoleHead, false)) := by
    decide +kernel
  obtain ⟨verdict, hverdict, hfound⟩ := Option.map_eq_some_iff.mp hfound
  obtain ⟨hheads, hstate⟩ := Prod.mk.inj hfound
  obtain ⟨state, hlookup, hstate⟩ := Option.map_eq_some_iff.mp hstate
  obtain ⟨hpass, hsubject, htree⟩ : state.state = .pass ∧ state.subjectSha = some consoleHead ∧
      state.inTree "beef" = false := by
    simpa using hstate
  refine ⟨verdict, state, toOption_eq_some.mp hverdict, hlookup, hpass, ?_, ?_, ?_, htree⟩
  · rw [hheads]
    exact ⟨_, "f00d", rfl, by simp, by decide⟩
  · have hrow : (⟨"AC-01", "AC", "C", "chatman/kernel", "holds", "ARTIFACT",
        "chatman/console:receipt.json", ["§48"], [], true⟩ : Requirement) ∈
        crownRows [] "chatman/console:receipt.json" := by
      decide
    exact .direct hrow (by decide)
  · rw [hheads, hsubject]
    decide

end ChatmanEcosystem.RootCrown
