import ChatmanEcosystem.Common.DepthFirst
import ChatmanEcosystem.Dfcm.DefinitionOfDone
import Mathlib.Data.Finset.Card
import Mathlib.Data.Prod.Lex

/-!
# The frontier

Model of `reverse_edges`, `descendants`, `candidates`, `preserve`, `frontier`, `select` and
`manufacture_intent` (`scripts/dfcm_autonomic_finish.py`, lines 47–76 and 170–381).

Results:

* `exists_candidates`: the candidates of an admitted manifest are its required components that are
  not ALIVE, and finding them raises nothing.
* `unlocks_exact`: their unlocks are the open components that depend on them.
* `preserve_perm`: each of them is preserved, once.
* `progress`: the frontier is not empty while a required component is not ALIVE and all that is not
  ALIVE can be repaired, and what it selects depends on ALIVE components only.
-/

namespace ChatmanEcosystem.Dfcm

open Common Py Rust

/-! ## Candidates -/

/-- `class Candidate` (lines 47–62). -/
structure Candidate where
  componentId : String
  repository : String
  ref : String
  sha : String
  role : String
  standing : Standing
  blocker : Value
  dependencies : List String
  missingAliveDependencies : List String
  directUnlocks : ℕ
  transitiveUnlocks : ℕ
  reversibility : ℕ
  evidenceCost : ℕ
  authorityCost : ℕ

/-- `Candidate.actionable` (lines 64–66). -/
def Candidate.actionable (candidate : Candidate) : Bool :=
  candidate.standing ∈ repairable && candidate.missingAliveDependencies.isEmpty

/-- `Candidate.score` (lines 68–76). -/
def Candidate.score (candidate : Candidate) : ℕ ×ₗ ℕ ×ₗ ℕ ×ₗ ℤ ×ₗ String :=
  toLex (candidate.transitiveUnlocks, toLex (candidate.directUnlocks,
    toLex (candidate.reversibility,
      toLex (-((candidate.evidenceCost + candidate.authorityCost : ℕ) : ℤ),
        candidate.componentId))))

/-- `reverse_edges` (lines 170–175); a set is the list of its members. -/
def reverseEdges (byId : List Component) : List (String × List String) :=
  byId.map fun row => (row.id, ids (byId.filter (row.id ∈ ·.dependsOn)))

/-- The nodes of a graph. -/
def keys (edges : List (String × List String)) : List String := edges.map Prod.fst

theorem mem_keys {edges : List (String × List String)} {node : String} :
    node ∈ keys edges ↔ ∃ children, edges.lookup node = some children := by
  rw [← Option.isSome_iff_exists, List.lookup_isSome_iff, keys]
  simp

variable {seen : Finset String}

theorem unseen_lt {nodes : Finset String} {node : String} (hnode : node ∈ nodes)
    (hseen : node ∉ seen) : (nodes \ insert node seen).card < (nodes \ seen).card := by
  refine Finset.card_lt_card (Finset.ssubset_iff_subset_ne.mpr
    ⟨Finset.sdiff_subset_sdiff subset_rfl (Finset.subset_insert _ _), fun heq => ?_⟩)
  have hmem : node ∈ nodes \ insert node seen := heq ▸ Finset.mem_sdiff.mpr ⟨hnode, hseen⟩
  exact (Finset.mem_sdiff.mp hmem).2 (Finset.mem_insert_self _ _)

/-- The loop of `descendants` (lines 181–186). The top of the stack is its head. -/
def descend (reverse : List (String × List String)) (seen : Finset String) :
    List String → Except PyError (Finset String)
  | [] => .ok seen
  | node :: stack =>
    if _hseen : node ∈ seen then descend reverse seen stack
    else match _hnode : reverse.lookup node with
      | none => .error .keyError
      | some children => descend reverse (insert node seen) (sorted children ++ stack)
termination_by stack => (((keys reverse).toFinset \ seen).card, stack.length)
decreasing_by
  · exact Prod.Lex.right _ (Nat.lt_succ_self _)
  · refine Prod.Lex.left _ _ (unseen_lt ?_ _hseen)
    exact List.mem_toFinset.mpr (mem_keys.mpr ⟨children, _hnode⟩)

/-- `descendants` (lines 178–187). -/
def descendants (cid : String) (reverse : List (String × List String)) :
    Except PyError (Finset String) := do
  let children ← okOr (reverse.lookup cid) .keyError
  descend reverse ∅ (sorted children)

/-- `token in text`. -/
def contains (token text : String) : Bool := token.toList <:+: text.toList

/-- `_costs` (lines 190–214): the reversibility, the cost of the evidence and that of authority. -/
def costs (py : PyRuntime) (row : Component) : ℕ × ℕ × ℕ :=
  let blocker := py.str (row.blocker.getD (.str ""))
  let evidenceCost := match row.standing with
    | .buildBroken => 1
    | .partialAlive => 2
    | .unknown => 3
    | .blocked => 4
    | _ => 9
  let authorityCost :=
    if ["AUTHORITY", "BILLING", "SPENDING", "CREDENTIAL"].any (contains · (py.upper blocker)) then 5
    else 0
  let reversibility :=
    if row.standing = .buildBroken ∨ row.standing = .partialAlive then 3
    else if row.standing = .unknown then 2
    else 1
  (reversibility, evidenceCost, authorityCost)

/-- A required component that is not ALIVE. -/
def Component.isOpen (row : Component) : Bool := row.required && row.standing ≠ .alive

/-- The dependencies of a row that are not ALIVE (lines 226–228). -/
def missingAlive (byId : List Component) (row : Component) : List String :=
  sorted (row.dependsOn.filter fun dep => standing? byId dep ≠ some .alive)

/-- The candidate of a row (lines 226–260). -/
def candidate (py : PyRuntime) (byId : List Component) (row : Component) :
    Except PyError Candidate := do
  let reverse := reverseEdges byId
  let opens (cid : String) : Bool := (row? byId cid).any Component.isOpen
  let desc ← descendants row.id reverse
  let children ← okOr (reverse.lookup row.id) .keyError
  let (reversibility, evidenceCost, authorityCost) := costs py row
  return {
    componentId := row.id
    repository := row.repository
    ref := row.ref
    sha := row.sha
    role := row.role
    standing := row.standing
    blocker := row.blocker.getD .null
    dependencies := row.dependsOn
    missingAliveDependencies := missingAlive byId row
    directUnlocks := children.countP opens
    transitiveUnlocks := (desc.filter (opens · = true)).card
    reversibility := reversibility
    evidenceCost := evidenceCost
    authorityCost := authorityCost }

/-- The required components that are not ALIVE, in the order of their ids. -/
def openRows (byId : List Component) : List Component :=
  (byId.insertionSort (·.id ≤ ·.id)).filter Component.isOpen

/-- `candidates` (lines 217–261). -/
def candidates (py : PyRuntime) (manifest : Dict) : Outcome (List Candidate) := do
  let byId ← components py manifest
  (openRows byId).mapM fun row => (candidate py byId row).mapError .error

/-- The actionable candidates by their score, the highest first. -/
def ranked (all : List Candidate) : List Candidate :=
  (all.filter Candidate.actionable).insertionSort fun a b => b.score ≤ a.score

/-- `frontier` (lines 324–330). -/
def frontier (py : PyRuntime) (manifest : Dict) : Outcome (List Candidate) := do
  let all ← candidates py manifest
  return ranked all

/-! ## Documents -/

/-- `action_for` (lines 264–275). -/
def actionFor (candidate : Candidate) : Outcome String :=
  match candidate.standing with
  | .buildBroken => .ok "DIAGNOSE_REPAIR_VERIFY"
  | .blocked => .ok "RECLASSIFY_OR_USE_BOUNDED_ALTERNATE_TRANSPORT"
  | .partialAlive => .ok "CLOSE_MISSING_EXACT_EXECUTION_EDGE"
  | .unknown => .ok "ORIENT_EXECUTE_CANONICAL_VERIFIER"
  | .unsupported => .ok "PRESERVE_UNSUPPORTED_EDGE"
  | .alive => .error (refused "NO_ACTION" candidate.componentId)

def texts (items : List String) : Value := .list (items.map .str)

/-- The scores of a record. -/
def Candidate.calculus (candidate : Candidate) : Value :=
  .dict [("direct_unlocks", .int candidate.directUnlocks),
    ("transitive_unlocks", .int candidate.transitiveUnlocks),
    ("reversibility", .int candidate.reversibility),
    ("evidence_cost", .int candidate.evidenceCost),
    ("authority_cost", .int candidate.authorityCost)]

/-- `candidate_record` (lines 278–298). -/
def candidateRecord (candidate : Candidate) : Outcome Value := do
  let action ← actionFor candidate
  return .dict [("component", .str candidate.componentId),
    ("repository", .str candidate.repository), ("ref", .str candidate.ref),
    ("sha", .str candidate.sha), ("role", .str candidate.role),
    ("standing", .str candidate.standing.text), ("blocker", candidate.blocker),
    ("dependencies", texts candidate.dependencies),
    ("missing_alive_dependencies", texts candidate.missingAliveDependencies),
    ("actionable", .bool candidate.actionable), ("action", .str action),
    ("score", candidate.calculus)]

/-- `preserve` (lines 301–321). -/
def preserve (py : PyRuntime) (manifest : Dict) : Outcome Dict := do
  let all ← candidates py manifest
  let blocked := (all.filter (!·.actionable)).insertionSort (·.componentId ≤ ·.componentId)
  let manifestDigest ← digest py (.dict manifest)
  let actionable ← (ranked all).mapM candidateRecord
  let blocked ← blocked.mapM candidateRecord
  return [("schema", .str "urn:chatman:dfcm:preserved-frontier:v1"),
    ("manifest_digest", .str manifestDigest),
    ("policy", .str "preserve-maximal-reversible-lawful-topology-before-selection"),
    ("actionable", .list actionable), ("blocked", .list blocked),
    ("selection_performed", .bool false), ("consequential_do_performed", .bool false)]

/-- The subject of an intent. -/
def Candidate.subject (candidate : Candidate) : Value :=
  .dict [("component", .str candidate.componentId), ("repository", .str candidate.repository),
    ("ref", .str candidate.ref), ("sha", .str candidate.sha)]

/-- `manufacture_intent` (lines 341–381). -/
def manufactureIntent (py : PyRuntime) (manifestDigest : String) (candidate : Candidate) :
    Outcome Dict := do
  let action ← actionFor candidate
  let intent : Dict := [("schema", .str "urn:chatman:dfcm:intent:v2"),
    ("subject", candidate.subject), ("role", .str candidate.role),
    ("standing_before", .str candidate.standing.text), ("blocker", candidate.blocker),
    ("action", .str action), ("calculus", candidate.calculus), ("dfcm", candidate.calculus),
    ("authority", .dict [("select", .bool true), ("construct", .bool true), ("do", .bool false),
      ("exclusive_do_path", .str "BRCE")]),
    ("fences", texts [
      "exact-subject identity is frozen",
      "dependency closure must remain ALIVE",
      "generated projections are not source authority",
      "planner/model/proof/hook output grants no DO authority",
      "one failed edge is topology, not graph failure",
      "replay must not re-actuate"]),
    ("acceptance", texts [
      "Read owning repository doctrine and generated-artifact policy.",
      "Repair the existing lawful path; do not create a parallel authority stack.",
      "Run the narrowest owning verifier before broader validation.",
      "Preserve typed negative fixtures and refusal behavior.",
      "Bind observed execution to this exact SHA and intent digest.",
      "Require an owning verifier receipt and deterministic replay before ALIVE eligibility."]),
    ("manifest_digest", .str manifestDigest)]
  let intentDigest ← digest py (.dict intent)
  return intent ++ [("intent_digest", .str intentDigest)]

/-- `select` (lines 333–338). -/
def select (py : PyRuntime) (manifest : Dict) (limit : ℤ) : Outcome (List Dict) := do
  ensure (1 ≤ limit) (refused "LIMIT_INVALID" (toString limit))
  let manifestDigest ← digest py (.dict manifest)
  let actionable ← frontier py manifest
  (actionable.take limit.toNat).mapM (manufactureIntent py manifestDigest)

/-! ## The candidates of an admitted manifest -/

variable {py : PyRuntime} {manifest : Dict} {byId : List Component} {row : Component}

/-- A search that starts from nodes of the graph stays in it. -/
theorem exists_descend {reverse : List (String × List String)} {stack : List String}
    (hclosed : ∀ node children, reverse.lookup node = some children →
      ∀ child ∈ children, child ∈ keys reverse) (hstack : ∀ node ∈ stack, node ∈ keys reverse) :
    ∃ found, descend reverse seen stack = .ok found := by
  induction seen, stack using descend.induct reverse with
  | case1 seen => exact ⟨seen, by rw [descend]⟩
  | case2 seen node stack hseen ih =>
    rw [descend, dif_pos hseen]
    exact ih fun other hother => hstack other (List.mem_cons_of_mem _ hother)
  | case3 seen node stack hseen hnode =>
    obtain ⟨children, hchildren⟩ := mem_keys.mp (hstack node List.mem_cons_self)
    exact absurd (hnode.symm.trans hchildren) (by simp)
  | case4 seen node stack hseen children hnode ih =>
    rw [descend, dif_neg hseen]
    have hnext : ∀ other ∈ sorted children ++ stack, other ∈ keys reverse := by
      intro other hother
      rcases List.mem_append.mp hother with hother | hother
      · exact hclosed node children hnode other (mem_sorted.mp hother)
      · exact hstack other (List.mem_cons_of_mem _ hother)
    split
    · next hnone => exact absurd (hnone.symm.trans hnode) (by simp)
    · next found hfound =>
      obtain rfl := Option.some.inj (hfound.symm.trans hnode)
      exact ih hnext

theorem keys_reverseEdges : keys (reverseEdges byId) = ids byId := by
  rw [keys, reverseEdges, List.map_map]
  rfl

theorem exists_candidate (hrow : row ∈ byId) : ∃ found, candidate py byId row = .ok found := by
  have hclosed : ∀ node children, (reverseEdges byId).lookup node = some children →
      ∀ child ∈ children, child ∈ keys (reverseEdges byId) := by
    intro node children hnode child hchild
    obtain ⟨pre, post, hedges, -⟩ := List.lookup_eq_some_iff.mp hnode
    have hmem : (node, children) ∈ reverseEdges byId := by simp [hedges]
    obtain ⟨_, _, heq⟩ := List.mem_map.mp hmem
    obtain ⟨-, rfl⟩ := Prod.mk.inj heq
    rw [keys_reverseEdges]
    exact List.map_subset _ (List.filter_subset_self _) hchild
  have hkey : row.id ∈ keys (reverseEdges byId) := by
    rw [keys_reverseEdges]
    exact List.mem_map_of_mem hrow
  obtain ⟨children, hchildren⟩ := mem_keys.mp hkey
  obtain ⟨desc, hdesc⟩ : ∃ desc, descend (reverseEdges byId) ∅ (sorted children) = .ok desc :=
    exists_descend hclosed fun node hnode =>
      hclosed row.id children hchildren node (mem_sorted.mp hnode)
  have hdescendants : descendants row.id (reverseEdges byId) = .ok desc := by
    rw [descendants, hchildren]
    exact hdesc
  rw [candidate, hdescendants, hchildren]
  exact ⟨_, rfl⟩

/-- What a candidate has from its row. -/
structure Describes (byId : List Component) (row : Component) (found : Candidate) : Prop where
  componentId : found.componentId = row.id
  standing : found.standing = row.standing
  missing : found.missingAliveDependencies = missingAlive byId row

variable {found : Candidate}

theorem describes_of_candidate (h : candidate py byId row = .ok found) :
    Describes byId row found := by
  simp only [candidate, bind_eq_ok, pure_eq_ok] at h
  obtain ⟨desc, -, children, -, rfl⟩ := h
  exact ⟨rfl, rfl, rfl⟩

theorem mem_openRows : row ∈ openRows byId ↔
    row ∈ byId ∧ row.required = true ∧ row.standing ≠ .alive := by
  rw [openRows, List.mem_filter, (List.perm_insertionSort _ _).mem_iff, Component.isOpen]
  simp

theorem exists_candidates (h : components py manifest = .ok byId) :
    ∃ all, candidates py manifest = .ok all := by
  rw [candidates, h]
  refine exists_mapM fun row hrow => ?_
  obtain ⟨found, hfound⟩ := @exists_candidate py _ _ (mem_openRows.mp hrow).1
  exact ⟨found, mapError_eq_ok.mpr hfound⟩

variable {all : List Candidate}

theorem mem_candidates (h : components py manifest = .ok byId)
    (hall : candidates py manifest = .ok all) :
    found ∈ all ↔ ∃ row ∈ byId, row.required = true ∧ row.standing ≠ .alive ∧
      candidate py byId row = .ok found := by
  rw [candidates, h] at hall
  rw [mem_of_mapM hall]
  simp only [mapError_eq_ok, mem_openRows, and_assoc]

/-- A candidate is actionable when it can be repaired and everything it depends on is ALIVE. -/
theorem Describes.actionable_iff (h : Describes byId row found) :
    found.actionable = true ↔ row.standing ∈ repairable ∧
      ∀ dep ∈ row.dependsOn, standing? byId dep = some .alive := by
  have hmissing : missingAlive byId row = [] ↔
      ∀ dep ∈ row.dependsOn, standing? byId dep = some .alive := by
    rw [List.eq_nil_iff_forall_not_mem]
    simp only [missingAlive, mem_sorted, List.mem_filter, decide_eq_true_eq, not_and, not_not]
  rw [Candidate.actionable, h.standing, h.missing, Bool.and_eq_true, decide_eq_true_eq,
    List.isEmpty_iff, hmissing]

theorem mem_ranked :
    found ∈ ranked all ↔ found ∈ all ∧ found.actionable = true := by
  rw [ranked, (List.perm_insertionSort _ _).mem_iff, List.mem_filter]

variable {selected : List Candidate}

theorem mem_frontier (h : components py manifest = .ok byId)
    (hselected : frontier py manifest = .ok selected) :
    found ∈ selected ↔ ∃ row ∈ byId, row.required = true ∧ row.standing ∈ repairable ∧
      (∀ dep ∈ row.dependsOn, standing? byId dep = some .alive) ∧
        candidate py byId row = .ok found := by
  rw [frontier, bind_eq_ok] at hselected
  obtain ⟨all, hall, hranked⟩ := hselected
  obtain rfl := Except.ok.inj hranked
  have hopen : ∀ standing ∈ repairable, standing ≠ Standing.alive := by decide
  rw [mem_ranked, mem_candidates h hall]
  constructor
  · rintro ⟨⟨row, hrow, hrequired, -, hfound⟩, hactionable⟩
    obtain ⟨hrepairable, hdeps⟩ := (describes_of_candidate hfound).actionable_iff.mp hactionable
    exact ⟨row, hrow, hrequired, hrepairable, hdeps, hfound⟩
  · rintro ⟨row, hrow, hrequired, hrepairable, hdeps, hfound⟩
    exact ⟨⟨row, hrow, hrequired, hopen _ hrepairable, hfound⟩,
      (describes_of_candidate hfound).actionable_iff.mpr ⟨hrepairable, hdeps⟩⟩

/-! ## What is unlocked -/

open Relation

/-- An edge of a graph that lists what each node leads to. -/
def Leads (edges : List (String × List String)) (a b : String) : Prop :=
  ∃ children, edges.lookup a = some children ∧ b ∈ children

section Descending

variable {edges : List (String × List String)} {stack : List String} {a b : String}

/-- A node leads to itself, and to what its children lead to. -/
theorem reach_iff {children : List String} (h : edges.lookup a = some children) :
    ReflTransGen (Leads edges) a b ↔
      b = a ∨ ∃ c ∈ children, ReflTransGen (Leads edges) c b := by
  rw [ReflTransGen.cases_head_iff]
  simp only [Leads, h, Option.some.injEq, exists_eq_left', eq_comm]

/-- Where a search that has gone through some nodes still has to go. -/
theorem reached_of_seen (h : ReflTransGen (Leads edges) a b) (ha : a ∈ seen)
    (hclosed : ∀ a ∈ seen, ∀ b, Leads edges a b → b ∈ seen ∨ b ∈ stack) :
    b ∈ seen ∨ ∃ c ∈ stack, ReflTransGen (Leads edges) c b := by
  induction h with
  | refl => exact .inl ha
  | tail _ hstep ih =>
    rcases ih with hseen | ⟨c, hc, hreach⟩
    · exact (hclosed _ hseen _ hstep).imp_right fun hmem => ⟨_, hmem, .refl⟩
    · exact .inr ⟨c, hc, hreach.tail hstep⟩

/-- A search finds what its stack leads to. -/
theorem mem_descend {desc : Finset String} (h : descend edges seen stack = .ok desc)
    (hclosed : ∀ a ∈ seen, ∀ b, Leads edges a b → b ∈ seen ∨ b ∈ stack) :
    b ∈ desc ↔ b ∈ seen ∨ ∃ a ∈ stack, ReflTransGen (Leads edges) a b := by
  induction seen, stack using descend.induct edges with
  | case1 seen =>
    rw [descend] at h
    obtain rfl := Except.ok.inj h
    simp
  | case2 seen node stack hseen ih =>
    rw [descend, dif_pos hseen] at h
    have hrest : ∀ a ∈ seen, ∀ b, Leads edges a b → b ∈ seen ∨ b ∈ stack := by
      intro a ha b hstep
      rcases hclosed a ha b hstep with hb | hb
      · exact .inl hb
      · exact (List.mem_cons.mp hb).imp_left fun heq => by rwa [heq]
    have hnode := fun hreach => @reached_of_seen seen edges stack node b hreach hseen hrest
    rw [ih h hrest]
    simp only [List.exists_mem_cons_iff]
    tauto
  | case3 seen node stack hseen hnode =>
    rw [descend, dif_neg hseen] at h
    split at h
    · cases h
    · next children hchildren => cases hnode.symm.trans hchildren
  | case4 seen node stack hseen children hnode ih =>
    rw [descend, dif_neg hseen] at h
    have hnext : descend edges (insert node seen) (sorted children ++ stack) = .ok desc := by
      split at h
      · cases h
      · next found hfound => rwa [Option.some.inj (hfound.symm.trans hnode)] at h
    have hrest : ∀ a ∈ insert node seen, ∀ b, Leads edges a b →
        b ∈ insert node seen ∨ b ∈ sorted children ++ stack := by
      intro a ha b hstep
      rw [List.mem_append, mem_sorted, Finset.mem_insert]
      rcases Finset.mem_insert.mp ha with rfl | ha
      · obtain ⟨found, hfound, hb⟩ := hstep
        rw [Option.some.inj (hfound.symm.trans hnode)] at hb
        exact .inr (.inl hb)
      · have hb := hclosed a ha b hstep
        rw [List.mem_cons] at hb
        tauto
    rw [ih hnext hrest]
    simp only [Finset.mem_insert, List.mem_append, or_and_right, exists_or, mem_sorted,
      List.exists_mem_cons_iff, reach_iff hnode]
    exact or_or_or_comm.trans or_left_comm

theorem mem_descendants {desc : Finset String} (h : descendants a edges = .ok desc) :
    b ∈ desc ↔ TransGen (Leads edges) a b := by
  obtain ⟨children, hchildren, hdesc⟩ := bind_eq_ok.mp h
  have hlookup := okOr_eq_ok.mp hchildren
  rw [mem_descend hdesc fun a ha => absurd ha (Finset.notMem_empty a), TransGen.head'_iff]
  constructor
  · rintro (hb | ⟨c, hc, hreach⟩)
    · exact absurd hb (Finset.notMem_empty b)
    · exact ⟨c, ⟨children, hlookup, mem_sorted.mp hc⟩, hreach⟩
  · rintro ⟨c, ⟨found, hfound, hc⟩, hreach⟩
    obtain rfl := Option.some.inj (hfound.symm.trans hlookup)
    exact .inr ⟨c, mem_sorted.mpr hc, hreach⟩

end Descending

theorem eq_of_lookup_reverseEdges {cid : String} {children : List String}
    (h : (reverseEdges byId).lookup cid = some children) :
    children = ids (byId.filter (cid ∈ ·.dependsOn)) := by
  obtain ⟨pre, post, hedges, -⟩ := List.lookup_eq_some_iff.mp h
  have hmem : (cid, children) ∈ reverseEdges byId := by simp [hedges]
  obtain ⟨_, _, heq⟩ := List.mem_map.mp hmem
  obtain ⟨rfl, rfl⟩ := Prod.mk.inj heq
  rfl

/-- The edges lead from what is depended on to what depends on it. -/
theorem leads_iff_depends (h : Admitted byId) {cid other : String} :
    Leads (reverseEdges byId) cid other ↔ Depends (depsOf byId) other cid := by
  constructor
  · rintro ⟨children, hchildren, hother⟩
    rw [eq_of_lookup_reverseEdges hchildren] at hother
    obtain ⟨row, hrow, rfl⟩ := List.mem_map.mp hother
    obtain ⟨hmem, hdep⟩ := List.mem_filter.mp hrow
    rw [Depends, h.depsOf hmem]
    exact of_decide_eq_true hdep
  · intro hdep
    have hmem : other ∈ ids byId := by
      by_contra hnone
      rw [Depends, depsOf, row?_eq_none.mpr hnone] at hdep
      exact List.not_mem_nil hdep
    obtain ⟨row, hrow, rfl⟩ := List.mem_map.mp hmem
    rw [Depends, h.depsOf hrow] at hdep
    have hcid := h.admits row hrow cid hdep
    rw [← keys_reverseEdges] at hcid
    obtain ⟨children, hchildren⟩ := mem_keys.mp hcid
    refine ⟨children, hchildren, ?_⟩
    rw [eq_of_lookup_reverseEdges hchildren]
    exact List.mem_map_of_mem (List.mem_filter.mpr ⟨hrow, decide_eq_true hdep⟩)

theorem transGen_leads_iff (h : Admitted byId) {cid other : String} :
    TransGen (Leads (reverseEdges byId)) cid other ↔
      TransGen (Depends (depsOf byId)) other cid := by
  rw [← Relation.transGen_swap]
  have hswap : Function.swap (Leads (reverseEdges byId)) = Depends (depsOf byId) := by
    funext a b
    exact propext (leads_iff_depends h)
  rw [hswap]

/-- As many required components that are not ALIVE have a property. -/
def OpenCount (byId : List Component) (p : String → Prop) (n : ℕ) : Prop :=
  ∃ counted : Finset String, counted.card = n ∧
    ∀ cid, cid ∈ counted ↔ (∃ row ∈ byId, row.id = cid ∧ row.isOpen = true) ∧ p cid

theorem opens_iff (h : Admitted byId) {cid : String} :
    (row? byId cid).any Component.isOpen = true ↔
      ∃ row ∈ byId, row.id = cid ∧ row.isOpen = true := by
  constructor
  · intro hopen
    obtain ⟨row, hrow, hisOpen⟩ := (Option.any_eq_true _ _).mp hopen
    have hid : row.id = cid := by simpa using List.find?_some hrow
    exact ⟨row, List.mem_of_find?_eq_some hrow, hid, hisOpen⟩
  · rintro ⟨row, hrow, rfl, hisOpen⟩
    rw [h.row? hrow]
    exact hisOpen

/-- The unlocks of a candidate are the components still open that depend on it: at once, and
through any chain. It is none of them. -/
theorem unlocks_exact (h : components py manifest = .ok byId)
    (hall : candidates py manifest = .ok all) (hfound : found ∈ all) :
    OpenCount byId (fun cid => Depends (depsOf byId) cid found.componentId) found.directUnlocks ∧
      OpenCount byId (fun cid => TransGen (Depends (depsOf byId)) cid found.componentId)
        found.transitiveUnlocks ∧
      ¬ TransGen (Depends (depsOf byId)) found.componentId found.componentId := by
  have hadmitted := admitted_of_components h
  obtain ⟨row, hrow, -, -, hcandidate⟩ := (mem_candidates h hall).mp hfound
  simp only [candidate, bind_eq_ok, pure_eq_ok] at hcandidate
  obtain ⟨desc, hdesc, children, hchildren, rfl⟩ := hcandidate
  have hids : children = ids (byId.filter (row.id ∈ ·.dependsOn)) :=
    eq_of_lookup_reverseEdges (okOr_eq_ok.mp hchildren)
  have hnodup : children.Nodup := by
    rw [hids]
    exact hadmitted.distinct.sublist (List.filter_sublist.map _)
  have hmem : ∀ cid, cid ∈ children ↔ Depends (depsOf byId) cid row.id := by
    intro cid
    rw [← leads_iff_depends hadmitted]
    constructor
    · exact fun hcid => ⟨children, okOr_eq_ok.mp hchildren, hcid⟩
    · rintro ⟨found, hfound, hcid⟩
      rwa [Option.some.inj ((okOr_eq_ok.mp hchildren).symm.trans hfound)]
  refine ⟨?_, ?_, ?_⟩
  · refine ⟨(children.filter fun cid => (row? byId cid).any Component.isOpen).toFinset, ?_, ?_⟩
    · rw [List.toFinset_card_of_nodup (hnodup.filter _), List.countP_eq_length_filter]
    · intro cid
      rw [List.mem_toFinset, List.mem_filter, hmem, opens_iff hadmitted]
      exact and_comm
  · refine ⟨desc.filter fun cid => (row? byId cid).any Component.isOpen = true, rfl, ?_⟩
    intro cid
    rw [Finset.mem_filter, mem_descendants hdesc, transGen_leads_iff hadmitted,
      opens_iff hadmitted]
    exact and_comm
  · exact not_transGen_of_acc (hadmitted.founded row.id (List.mem_map_of_mem hrow))

/-- A component to repair, below one that waits for it. -/
def waiting : List Component :=
  [sampleComponent "a" .blocked true ["b", "c"], sampleComponent "b" .buildBroken true ["c"],
    sampleComponent "c" .alive false []]

theorem unlocks_waiting : ∃ all found,
    candidates samplePyRuntime (sampleManifest waiting) = .ok all ∧ found ∈ all ∧
      OpenCount waiting (fun cid => TransGen (Depends (depsOf waiting)) cid found.componentId)
        found.transitiveUnlocks := by
  have hadmits : components samplePyRuntime (sampleManifest waiting) = .ok waiting := rfl
  have hrow : sampleComponent "b" .buildBroken true ["c"] ∈ waiting := by simp [waiting]
  obtain ⟨all, hall⟩ := exists_candidates hadmits
  obtain ⟨found, hcandidate⟩ := @exists_candidate samplePyRuntime _ _ hrow
  have hfound : found ∈ all :=
    (mem_candidates hadmits hall).mpr ⟨_, hrow, rfl, by decide, hcandidate⟩
  exact ⟨all, found, hall, hfound, (unlocks_exact hadmits hall hfound).2.1⟩

/-! ## What is preserved -/

/-- The component that a record names. -/
def componentOf (record : Value) : Value := (record.dict?.getD []).get "component"

theorem exists_records {list : List Candidate} (h : ∀ found ∈ list, found.standing ≠ .alive) :
    ∃ records, list.mapM candidateRecord = .ok records ∧
      records.map componentOf = list.map fun found => .str found.componentId := by
  induction list with
  | nil => exact ⟨[], rfl, rfl⟩
  | cons found list ih =>
    obtain ⟨records, hrecords, hnames⟩ := ih fun other hother => h other (.tail _ hother)
    obtain ⟨action, haction⟩ : ∃ action, actionFor found = .ok action := by
      have hopen := h found List.mem_cons_self
      unfold actionFor
      cases hstanding : found.standing <;> simp_all
    rw [List.mapM_cons, candidateRecord, haction, hrecords]
    exact ⟨_, rfl, congrArg _ hnames⟩

/-- An admitted manifest is preserved: each required component that is not ALIVE stands in one of
the two lists, once. -/
theorem preserve_perm {text : String} (h : components py manifest = .ok byId)
    (hdigest : digest py (.dict manifest) = .ok text) : ∃ document actionable blocked,
      preserve py manifest = .ok document ∧ document.get "actionable" = .list actionable ∧
        document.get "blocked" = .list blocked ∧
        ((actionable ++ blocked).map componentOf).Perm
          ((openRows byId).map fun row => .str row.id) := by
  obtain ⟨all, hall⟩ := exists_candidates h
  have hopen : ∀ found ∈ all, found.standing ≠ .alive := by
    intro found hfound
    obtain ⟨row, -, -, hstanding, hcandidate⟩ := (mem_candidates h hall).mp hfound
    rwa [(describes_of_candidate hcandidate).standing]
  obtain ⟨actionable, hactionable, hnames⟩ := exists_records fun found hfound =>
    hopen found (mem_ranked.mp hfound).1
  let rest := (all.filter (!·.actionable)).insertionSort (·.componentId ≤ ·.componentId)
  have hrest : rest.Perm (all.filter (!·.actionable)) := List.perm_insertionSort _ _
  obtain ⟨blocked, hblocked, hnames'⟩ := exists_records fun found (hfound : found ∈ rest) =>
    hopen found (List.mem_filter.mp (hrest.mem_iff.mp hfound)).1
  have hpreserve : ∃ document, preserve py manifest = .ok document ∧
      document.get "actionable" = .list actionable ∧ document.get "blocked" = .list blocked := by
    simp only [preserve, bind_eq_ok, pure_eq_ok]
    exact ⟨_, ⟨all, hall, text, hdigest, actionable, hactionable, blocked, hblocked, rfl⟩, rfl, rfl⟩
  obtain ⟨document, hdocument, hget, hget'⟩ := hpreserve
  refine ⟨document, actionable, blocked, hdocument, hget, hget', ?_⟩
  · rw [List.map_append, hnames, hnames', ← List.map_append]
    have hall' : (ranked all ++ rest).Perm all :=
      ((List.perm_insertionSort _ _).append hrest).trans (List.filter_append_perm _ all)
    rw [candidates, h] at hall
    refine (hall'.map _).trans (.of_eq ?_)
    rw [← List.forall₂_eq_eq_eq, List.forall₂_map_left_iff, List.forall₂_map_right_iff]
    exact (forall₂_of_mapM hall).flip.imp fun found row hfound =>
      congrArg _ (describes_of_candidate (mapError_eq_ok.mp hfound)).componentId

theorem preserve_perm_waiting : ∃ document actionable blocked,
    preserve samplePyRuntime (sampleManifest waiting) = .ok document ∧
      document.get "actionable" = .list actionable ∧ document.get "blocked" = .list blocked ∧
      ((actionable ++ blocked).map componentOf).Perm [.str "a", .str "b"] :=
  have hadmits : components samplePyRuntime (sampleManifest waiting) = .ok waiting := rfl
  preserve_perm hadmits rfl

/-! ## Progress -/

/-- A required component that is not ALIVE, and that depends on ALIVE components only. -/
def Ready (byId : List Component) (cid : String) : Prop :=
  ∃ row ∈ byId, row.id = cid ∧ row.required = true ∧ row.standing ≠ .alive ∧
    ∀ dep ∈ row.dependsOn, standing? byId dep = some .alive

/-- The component that an intent names. -/
def Names (intent : Dict) (cid : String) : Prop :=
  ∃ subject : Dict, intent.get "subject" = .dict subject ∧ subject.get "component" = .str cid

theorem ready_of_frontier (h : components py manifest = .ok byId)
    (hselected : frontier py manifest = .ok selected) (hmem : found ∈ selected) :
    Ready byId found.componentId := by
  have hopen : ∀ standing ∈ repairable, standing ≠ Standing.alive := by decide
  obtain ⟨row, hrow, hrequired, hrepairable, hdeps, hfound⟩ := (mem_frontier h hselected).mp hmem
  exact ⟨row, hrow, (describes_of_candidate hfound).componentId.symm, hrequired,
    hopen _ hrepairable, hdeps⟩

/-- A component that is ready, and that can be repaired, is selected. -/
theorem frontier_ne_nil (h : components py manifest = .ok byId)
    (hselected : frontier py manifest = .ok selected) (hrow : row ∈ byId)
    (hrequired : row.required = true) (hrepairable : row.standing ∈ repairable)
    (hdeps : ∀ dep ∈ row.dependsOn, standing? byId dep = some .alive) : selected ≠ [] := by
  obtain ⟨found, hfound⟩ := @exists_candidate py _ _ hrow
  exact List.ne_nil_of_mem
    ((mem_frontier h hselected).mpr ⟨row, hrow, hrequired, hrepairable, hdeps, hfound⟩)

/-- Some component that is not ALIVE depends on ALIVE components only. -/
theorem exists_ready (h : Admitted byId) (hrow : row ∈ byId)
    (hstanding : row.standing ≠ .alive) : ∃ below ∈ byId, below.standing ≠ .alive ∧
      ∀ dep ∈ below.dependsOn, standing? byId dep = some .alive := by
  have hmem : row.id ∈ ids byId := List.mem_map_of_mem hrow
  have hbad : ¬ standing? byId row.id = some .alive := by
    rw [h.standing? hrow, Option.some.injEq]
    exact hstanding
  obtain ⟨cid, hreach, hcid, hdeps⟩ := exists_minimal (standing? byId · = some .alive)
    (h.founded row.id hmem) hbad
  obtain ⟨below, hbelow, rfl⟩ := List.mem_map.mp (h.mem_ids hmem hreach)
  rw [h.standing? hbelow, Option.some.injEq] at hcid
  rw [h.depsOf hbelow] at hdeps
  exact ⟨below, hbelow, hcid, hdeps⟩

theorem names_of_manufactureIntent {manifestDigest : String} {intent : Dict}
    (h : manufactureIntent py manifestDigest found = .ok intent) :
    Names intent found.componentId := by
  simp only [manufactureIntent, bind_eq_ok, pure_eq_ok] at h
  obtain ⟨action, -, intentDigest, -, rfl⟩ := h
  exact ⟨_, rfl, rfl⟩

/-- What `select` makes intents of. -/
theorem exists_of_select {limit : ℤ} {intents : List Dict}
    (h : select py manifest limit = .ok intents) :
    ∃ selected manifestDigest, 1 ≤ limit ∧ frontier py manifest = .ok selected ∧
      (selected.take limit.toNat).mapM (manufactureIntent py manifestDigest) = .ok intents := by
  simp only [select, bind_eq_ok, ensure_eq_ok] at h
  obtain ⟨_, hlimit, manifestDigest, -, selected, hselected, hintents⟩ := h
  exact ⟨selected, manifestDigest, hlimit, hselected, hintents⟩

theorem progress (h : components py manifest = .ok byId) :
    ((∀ row ∈ byId, row.standing ≠ .alive →
        row.required = true ∧ row.standing ∈ repairable) →
      (∃ row ∈ byId, row.required = true ∧ row.standing ≠ .alive) →
      (∃ selected, frontier py manifest = .ok selected ∧ selected ≠ []) ∧
        ∀ limit intents, select py manifest limit = .ok intents → intents ≠ []) ∧
    (∀ selected, frontier py manifest = .ok selected →
      ∀ found ∈ selected, Ready byId found.componentId) ∧
    ∀ limit intents, select py manifest limit = .ok intents →
      ∀ intent ∈ intents, ∃ cid, Names intent cid ∧ Ready byId cid := by
  have hadmitted := admitted_of_components h
  refine ⟨fun hrepairable hopen => ?_, ?_, ?_⟩
  · obtain ⟨row, hrow, -, hstanding⟩ := hopen
    obtain ⟨below, hbelow, hbad, hdeps⟩ := exists_ready hadmitted hrow hstanding
    obtain ⟨hrequired, hrepair⟩ := hrepairable below hbelow hbad
    have hne : ∀ selected, frontier py manifest = .ok selected → selected ≠ [] :=
      fun selected hselected => frontier_ne_nil h hselected hbelow hrequired hrepair hdeps
    constructor
    · obtain ⟨all, hall⟩ := exists_candidates h
      have hfrontier : frontier py manifest = .ok (ranked all) := by
        rw [frontier, hall]
        rfl
      exact ⟨ranked all, hfrontier, hne _ hfrontier⟩
    · intro limit intents hintents
      obtain ⟨selected, manifestDigest, hlimit, hselected, hmapM⟩ := exists_of_select hintents
      intro hnil
      obtain ⟨found, rest, rfl⟩ := List.exists_cons_of_ne_nil (hne selected hselected)
      obtain ⟨n, hn⟩ : ∃ n, limit.toNat = n + 1 := ⟨limit.toNat - 1, by omega⟩
      rw [hn, List.take_succ_cons, List.mapM_cons, bind_eq_ok] at hmapM
      obtain ⟨intent, -, hrest⟩ := hmapM
      rw [bind_eq_ok] at hrest
      obtain ⟨others, -, hcons⟩ := hrest
      rw [hnil] at hcons
      exact List.cons_ne_nil _ _ (Except.ok.inj hcons)
  · intro selected hselected found hfound
    exact ready_of_frontier h hselected hfound
  · intro limit intents hintents intent hintent
    obtain ⟨selected, manifestDigest, -, hselected, hmapM⟩ := exists_of_select hintents
    obtain ⟨found, hfound, hmade⟩ := (mem_of_mapM hmapM).mp hintent
    exact ⟨found.componentId, names_of_manufactureIntent hmade,
      ready_of_frontier h hselected (List.mem_of_mem_take hfound)⟩

theorem progress_waiting :
    (∃ selected, frontier samplePyRuntime (sampleManifest waiting) = .ok selected ∧
      selected ≠ []) ∧
    ∀ selected, frontier samplePyRuntime (sampleManifest waiting) = .ok selected →
      ∀ found ∈ selected, Ready waiting found.componentId := by
  have hadmits : components samplePyRuntime (sampleManifest waiting) = .ok waiting := rfl
  have h := progress hadmits
  exact ⟨(h.1 (by decide) (by decide)).1, h.2.1⟩

end ChatmanEcosystem.Dfcm
