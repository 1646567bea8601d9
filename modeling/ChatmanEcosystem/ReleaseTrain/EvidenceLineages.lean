import ChatmanEcosystem.Common.DepthFirst
import ChatmanEcosystem.Py.Value

/-!
# Lineages of evidence

Model of `scripts/release_train/risk_independence_admission/ancestry.py` and of
`scripts/release_train/outcome_capital_transport/graph.py`. Both decide whether two
items of evidence are independent from what they derive from. The first collects
ancestors along all paths and leaves the item itself out; the second walks with a set
of entered items and puts the item in.

Results:

* `checkEdges_eq_ok`, `checkAcyclic_eq_ok`: both constructors accept exactly the
  graphs without cycles.
* `requireDisjoint_isOk_iff`, `independentRoots_isOk_iff`: what the two verdicts say.
* `agrees_iff`: they agree unless one item is an origin of the other.
-/

namespace ChatmanEcosystem.ReleaseTrain.EvidenceLineage

open Common Py Rust Relation

/-- `Refused` (`errors.py`, lines 1–5). -/
structure Refused where
  code : String
  detail : String
  deriving DecidableEq

/-- A list of pairs of an item and what it derives from. -/
abbrev Derivations := List (String × String)

/-- `self.parents.get(child, ())`: a set (`ancestry.py`, lines 6–9 and 14). -/
def parents (edges : Derivations) (child : String) : List String :=
  ((edges.filter (·.1 = child)).map Prod.snd).dedup

/-! ## Ancestry -/

/-- The refusal of `_anc` (`ancestry.py`, line 12). -/
def ancestryStop : Stop String → Raised Refused
  | .cycle _ => .refusal ⟨"ANCESTRY_CYCLE", ""⟩
  | .tooDeep => .error .recursionError

/-- `_anc(n, set())` (`ancestry.py`, lines 11–15). A path visits each end of an edge once. -/
def ancestorsOf (edges : Derivations) (n : String) : Except (Raised Refused) (List String) :=
  (lineage (parents edges) (2 * edges.length + 2) [] n).mapError ancestryStop

/-- The checks of `EvidenceAncestry.__init__` (`ancestry.py`, lines 7–10). -/
def checkEdges (edges : Derivations) : Except (Raised Refused) Unit := do
  edges.forM fun edge => ensure (edge.1 ≠ edge.2) (.refusal ⟨"ANCESTRY_SELF_CYCLE", ""⟩)
  (edges.map Prod.fst).dedup.forM fun n => do
    let _ ← ancestorsOf edges n

/-- An item derives from another one. -/
abbrev Derives (edges : Derivations) : String → String → Prop := Depends (parents edges)

variable {edges : Derivations} {a b n : String}

theorem mem_parents : b ∈ parents edges a ↔ (a, b) ∈ edges := by
  simp [parents]

/-- The items of some edges, and one more. -/
def itemsWith (n : String) (edges : Derivations) : List String :=
  n :: edges.flatMap fun edge => [edge.1, edge.2]

theorem parents_subset (edges : Derivations) (a : String) :
    parents edges a ⊆ itemsWith n edges := by
  intro b hb
  refine List.mem_cons_of_mem _ (List.mem_flatMap.mpr ⟨(a, b), mem_parents.mp hb, ?_⟩)
  exact List.mem_cons_of_mem _ List.mem_cons_self

theorem length_itemsWith : (itemsWith n edges).length = 2 * edges.length + 1 := by
  induction edges with
  | nil => rfl
  | cons edge edges ih =>
    simp only [itemsWith, List.flatMap_cons, List.length_cons, List.length_append,
      List.length_nil] at ih ⊢
    omega

/-- What is found among the ancestors of an item. -/
theorem ancestorsOf_eq_ok {above : List String} (h : ancestorsOf edges n = .ok above) :
    (∀ a, a ∈ above ↔ TransGen (Derives edges) n a) ∧ Acc (flip (Derives edges)) n :=
  lineage_eq_ok (mapError_eq_ok.mp h)

theorem ancestorsOf_isOk (h : ∀ a, ¬ TransGen (Derives edges) a a) :
    ∃ above, ancestorsOf edges n = .ok above := by
  have hlength : (itemsWith n edges).length < 2 * edges.length + 2 := by
    rw [length_itemsWith]
    omega
  obtain ⟨above, habove⟩ := (lineage_isOk_iff (fun a _ => parents_subset edges a)
    (show n ∈ itemsWith n edges from List.mem_cons_self) hlength).mpr fun a _ => h a
  exact ⟨above, mapError_eq_ok.mpr habove⟩

/-- The constructor accepts the edges that make no cycle. -/
theorem checkEdges_eq_ok :
    checkEdges edges = .ok () ↔ ∀ a, ¬ TransGen (Derives edges) a a := by
  simp only [checkEdges, bind_eq_ok, forM_eq_ok, ensure_eq_ok, pure_eq_ok]
  constructor
  · rintro ⟨_, -, hkeys⟩ a hcycle
    obtain ⟨b, hb, -⟩ := TransGen.head'_iff.mp hcycle
    have hkey : a ∈ (edges.map Prod.fst).dedup :=
      List.mem_dedup.mpr (List.mem_map.mpr ⟨(a, b), mem_parents.mp hb, rfl⟩)
    obtain ⟨above, habove, -⟩ := hkeys a hkey
    exact not_transGen_of_acc (ancestorsOf_eq_ok habove).2 hcycle
  · intro h
    refine ⟨(), fun edge hedge hself => ?_, fun n _ => ?_⟩
    · obtain ⟨child, parent⟩ := edge
      obtain rfl : child = parent := hself
      exact h child (.single (mem_parents.mpr hedge))
    · obtain ⟨above, habove⟩ := ancestorsOf_isOk h
      exact ⟨above, habove, trivial⟩

/-- `EvidenceAncestry` (`ancestry.py`, lines 4–10). -/
structure EvidenceAncestry where
  edges : Derivations
  acyclic : ∀ a, ¬ TransGen (Derives edges) a a

/-- `EvidenceAncestry.__init__` (`ancestry.py`, lines 5–10). -/
def EvidenceAncestry.build (edges : Derivations) : Except (Raised Refused) EvidenceAncestry :=
  match h : checkEdges edges with
  | .ok () => .ok ⟨edges, checkEdges_eq_ok.mp h⟩
  | .error raised => .error raised

/-- Each ancestry is built from its edges. -/
theorem EvidenceAncestry.build_edges (ancestry : EvidenceAncestry) :
    build ancestry.edges = .ok ancestry := by
  have hchecked := checkEdges_eq_ok.mpr ancestry.acyclic
  unfold build
  split
  · rfl
  · next raised herror =>
    rw [hchecked] at herror
    exact nomatch herror

/-- `set(left) & set(right)`. -/
def common (left right : List String) : List String := left.filter (· ∈ right)

/-- The refusal of both verdicts, with what is shared. -/
def sharedAncestry (shared : List String) : Raised Refused :=
  .refusal ⟨"SHARED_EVIDENCE_ANCESTRY", ",".intercalate (sortedTexts shared)⟩

/-- `shared_roots` (`ancestry.py`, line 17). -/
def EvidenceAncestry.sharedRoots (ancestry : EvidenceAncestry) (a b : String) :
    Except (Raised Refused) (List String) := do
  return common (← ancestorsOf ancestry.edges a) (← ancestorsOf ancestry.edges b)

/-- `require_disjoint` (`ancestry.py`, lines 18–21). -/
def EvidenceAncestry.requireDisjoint (ancestry : EvidenceAncestry) (a b : String) :
    Except (Raised Refused) Bool := do
  let shared ← ancestry.sharedRoots a b
  ensure (shared = []) (sharedAncestry shared)
  return true

theorem common_eq_nil {left right : List String} :
    common left right = [] ↔ ¬ ∃ c, c ∈ left ∧ c ∈ right := by
  simp [common, List.filter_eq_nil_iff]

variable {ancestry : EvidenceAncestry}

/-- What the ancestors of an item say: the item itself is not looked at. -/
theorem requireDisjoint_isOk_iff :
    (∃ r, ancestry.requireDisjoint a b = .ok r) ↔
      ¬ ∃ c, TransGen (Derives ancestry.edges) a c ∧ TransGen (Derives ancestry.edges) b c := by
  obtain ⟨above, habove⟩ := ancestorsOf_isOk (n := a) ancestry.acyclic
  obtain ⟨above', habove'⟩ := ancestorsOf_isOk (n := b) ancestry.acyclic
  simp only [← (ancestorsOf_eq_ok habove).1, ← (ancestorsOf_eq_ok habove').1, ← common_eq_nil]
  simp only [EvidenceAncestry.requireDisjoint, EvidenceAncestry.sharedRoots, bind_eq_ok,
    ensure_eq_ok, pure_eq_ok, habove, habove', Except.ok.injEq]
  constructor
  · rintro ⟨r, shared, ⟨_, rfl, _, rfl, rfl⟩, _, hshared, -⟩
    exact hshared
  · intro hshared
    exact ⟨true, _, ⟨_, rfl, _, rfl, rfl⟩, (), hshared, rfl⟩

/-! ## Graph -/

/-- `EvidenceNode` (`provenance.py`, lines 4–16). -/
structure EvidenceNode where
  evidenceId : String
  implementation : String
  model : String
  domain : String
  parents : List String
  complete : evidenceId ≠ "" ∧ implementation ≠ "" ∧ model ≠ "" ∧ domain ≠ ""
  other : evidenceId ∉ parents

/-- `self.nodes[k].parents`, for a node of the graph. -/
def parentsIn (nodes : List EvidenceNode) (k : String) : List String :=
  match nodes.find? (·.evidenceId = k) with
  | some node => node.parents
  | none => []

/-- The identities of the nodes: the keys of `self.nodes`. -/
def identities (nodes : List EvidenceNode) : List String := nodes.map (·.evidenceId)

/-- The refusal of `visit` (`graph.py`, line 18). -/
def evidenceStop : Stop String → Raised Refused
  | .cycle k => .refusal ⟨"EVIDENCE_CYCLE", k⟩
  | .tooDeep => .error .recursionError

/-- `_check_acyclic` (`graph.py`, lines 15–23). -/
def checkAcyclic (nodes : List EvidenceNode) : Except (Raised Refused) Unit := do
  let _ ← (postOrder (parentsIn nodes) (nodes.length + 1) (identities nodes)).mapError evidenceStop

/-- The checks of `EvidenceGraph.__init__` (`graph.py`, lines 4–13). -/
def checkNodes (nodes : List EvidenceNode) : Except (Raised Refused) Unit := do
  ensure (identities nodes).Nodup (.refusal ⟨"DUPLICATE_EVIDENCE", ""⟩)
  nodes.forM fun node => node.parents.forM fun p =>
    ensure (p ∈ identities nodes) (.refusal ⟨"MISSING_EVIDENCE_PARENT", p⟩)
  checkAcyclic nodes

/-- `EvidenceGraph` (`graph.py`, lines 3–13). -/
structure EvidenceGraph where
  nodes : List EvidenceNode
  distinct : (identities nodes).Nodup
  closed : ∀ node ∈ nodes, ∀ p ∈ node.parents, p ∈ identities nodes
  acyclic : ∀ a, ¬ TransGen (Depends (parentsIn nodes)) a a

variable {nodes : List EvidenceNode} {node : EvidenceNode}

theorem mem_parentsIn (h : b ∈ parentsIn nodes a) :
    ∃ node ∈ nodes, node.evidenceId = a ∧ b ∈ node.parents := by
  unfold parentsIn at h
  cases hfind : nodes.find? (·.evidenceId = a) with
  | none => simp [hfind] at h
  | some node =>
    rw [hfind] at h
    exact ⟨node, List.mem_of_find?_eq_some hfind, by simpa using List.find?_some hfind, h⟩

/-- A node of a graph is found under its identity. -/
theorem parentsIn_of_mem (hdistinct : (identities nodes).Nodup) (hnode : node ∈ nodes) :
    parentsIn nodes node.evidenceId = node.parents := by
  have hsome : (nodes.find? (·.evidenceId = node.evidenceId)).isSome :=
    List.find?_isSome.mpr ⟨node, hnode, decide_eq_true rfl⟩
  obtain ⟨found, hfind⟩ := Option.isSome_iff_exists.mp hsome
  have hid : found.evidenceId = node.evidenceId := by
    simpa using List.find?_some hfind
  obtain rfl := List.inj_on_of_nodup_map hdistinct (List.mem_of_find?_eq_some hfind) hnode hid
  rw [parentsIn, hfind]

theorem parentsIn_subset (hclosed : ∀ node ∈ nodes, ∀ p ∈ node.parents, p ∈ identities nodes)
    (a : String) : parentsIn nodes a ⊆ identities nodes := by
  intro b hb
  obtain ⟨node, hnode, -, hb⟩ := mem_parentsIn hb
  exact hclosed node hnode b hb

/-- The constructor accepts the nodes that are distinct, closed and make no cycle. -/
theorem checkNodes_eq_ok : checkNodes nodes = .ok () ↔ (identities nodes).Nodup ∧
    (∀ node ∈ nodes, ∀ p ∈ node.parents, p ∈ identities nodes) ∧
      ∀ a, ¬ TransGen (Depends (parentsIn nodes)) a a := by
  simp only [checkNodes, checkAcyclic, bind_eq_ok, forM_eq_ok, ensure_eq_ok, mapError_eq_ok]
  have hok (hclosed : ∀ node ∈ nodes, ∀ p ∈ node.parents, p ∈ identities nodes) :=
    postOrder_isOk_iff (fun a _ => parentsIn_subset hclosed a) (List.Subset.refl _)
      (show (identities nodes).length < nodes.length + 1 by simp [identities])
  constructor
  · rintro ⟨_, hdistinct, _, hclosed, order, horder, -⟩
    refine ⟨hdistinct, hclosed, fun a hcycle => ?_⟩
    obtain ⟨b, hb, -⟩ := TransGen.head'_iff.mp hcycle
    obtain ⟨node, hnode, rfl, -⟩ := mem_parentsIn hb
    exact (hok hclosed).mp ⟨order, horder⟩ _ (List.mem_map_of_mem hnode) _ .refl hcycle
  · rintro ⟨hdistinct, hclosed, hacyclic⟩
    obtain ⟨order, horder⟩ := (hok hclosed).mpr fun _ _ a _ => hacyclic a
    exact ⟨(), hdistinct, (), hclosed, order, horder, rfl⟩

/-- `EvidenceGraph.__init__` (`graph.py`, lines 4–13). -/
def EvidenceGraph.build (nodes : List EvidenceNode) : Except (Raised Refused) EvidenceGraph :=
  match h : checkNodes nodes with
  | .ok () =>
    have hchecked := checkNodes_eq_ok.mp h
    .ok ⟨nodes, hchecked.1, hchecked.2.1, hchecked.2.2⟩
  | .error raised => .error raised

/-- Each graph is built from its nodes. -/
theorem EvidenceGraph.build_nodes (graph : EvidenceGraph) : build graph.nodes = .ok graph := by
  have hchecked := checkNodes_eq_ok.mpr ⟨graph.distinct, graph.closed, graph.acyclic⟩
  unfold build
  split
  · rfl
  · next raised herror =>
    rw [hchecked] at herror
    exact nomatch herror

/-- `ancestors` (`graph.py`, lines 25–31). -/
def EvidenceGraph.ancestors (graph : EvidenceGraph) (evidenceId : String) :
    Except (Raised Refused) (List String) := do
  ensure (evidenceId ∈ identities graph.nodes) (.error .keyError)
  return explore (parentsIn graph.nodes) (graph.nodes.length + 1) [] evidenceId

/-- `independent_roots` (`graph.py`, lines 33–37). -/
def EvidenceGraph.independentRoots (graph : EvidenceGraph) (a b : String) :
    Except (Raised Refused) Bool := do
  let aa := (← graph.ancestors a) ++ [a]
  let bb := (← graph.ancestors b) ++ [b]
  ensure (common aa bb = []) (sharedAncestry (common aa bb))
  return true

/-! ## Verdicts -/

/-- An item derives from another one in a graph. -/
abbrev EvidenceGraph.Derives (graph : EvidenceGraph) : String → String → Prop :=
  Depends (parentsIn graph.nodes)

/-- No item is at once equal to or an ancestor of both. -/
def EvidenceGraph.DisjointLineages (graph : EvidenceGraph) (a b : String) : Prop :=
  ¬ ∃ c, ReflTransGen graph.Derives a c ∧ ReflTransGen graph.Derives b c

variable {graph : EvidenceGraph}

/-- The walk, with the item itself, enters the lineage. -/
theorem ancestors_eq_ok (ha : a ∈ identities graph.nodes) :
    ∃ above, graph.ancestors a = .ok above ∧
      ∀ c, c ∈ above ++ [a] ↔ ReflTransGen graph.Derives a c := by
  refine ⟨explore (parentsIn graph.nodes) (graph.nodes.length + 1) [] a, ?_, fun c => ?_⟩
  · simp only [EvidenceGraph.ancestors, bind_eq_ok, ensure_eq_ok, pure_eq_ok]
    exact ⟨(), ha, trivial⟩
  · rw [List.mem_append, List.mem_singleton, reflTransGen_iff_eq_or_transGen, or_comm,
      mem_explore (fun a _ => parentsIn_subset graph.closed a) ha (by simp [identities])]

/-- What the walks of two items say. -/
theorem independentRoots_isOk_iff (ha : a ∈ identities graph.nodes)
    (hb : b ∈ identities graph.nodes) :
    (∃ r, graph.independentRoots a b = .ok r) ↔ graph.DisjointLineages a b := by
  obtain ⟨above, habove, hmem⟩ := ancestors_eq_ok ha
  obtain ⟨above', habove', hmem'⟩ := ancestors_eq_ok hb
  simp only [EvidenceGraph.DisjointLineages, ← hmem, ← hmem', ← common_eq_nil]
  simp only [EvidenceGraph.independentRoots, bind_eq_ok, ensure_eq_ok, pure_eq_ok, habove, habove',
    Except.ok.injEq]
  constructor
  · rintro ⟨r, _, rfl, _, rfl, _, hshared, -⟩
    exact hshared
  · intro hshared
    exact ⟨true, _, rfl, _, rfl, (), hshared, rfl⟩

/-- The edges of an ancestry are those of a graph. -/
def SameGraph (ancestry : EvidenceAncestry) (graph : EvidenceGraph) : Prop :=
  ∀ child parent, (child, parent) ∈ ancestry.edges ↔
    ∃ node ∈ graph.nodes, node.evidenceId = child ∧ parent ∈ node.parents

/-- The ancestry accepts two items exactly if their lineages are disjoint, as the graph does. -/
def Agrees (ancestry : EvidenceAncestry) (graph : EvidenceGraph) (a b : String) : Prop :=
  ((∃ r, ancestry.requireDisjoint a b = .ok r) ↔ graph.DisjointLineages a b) ∧
    ((∃ r, ancestry.requireDisjoint a b = .ok r) ↔ ∃ r, graph.independentRoots a b = .ok r)

/-- An item that derives from nothing, and that another one is or derives from. -/
def OriginOf (graph : EvidenceGraph) (a b : String) : Prop :=
  parentsIn graph.nodes a = [] ∧ ReflTransGen graph.Derives b a

theorem SameGraph.derives (h : SameGraph ancestry graph) :
    Derives ancestry.edges = graph.Derives := by
  funext a b
  apply propext
  show b ∈ parents ancestry.edges a ↔ b ∈ parentsIn graph.nodes a
  rw [mem_parents, h]
  constructor
  · rintro ⟨node, hnode, rfl, hb⟩
    rwa [parentsIn_of_mem graph.distinct hnode]
  · exact mem_parentsIn

/-- An origin has no ancestors. -/
theorem OriginOf.not_transGen (h : OriginOf graph a b) (c : String) :
    ¬ TransGen graph.Derives a c := by
  intro hreach
  obtain ⟨d, hd, -⟩ := TransGen.head'_iff.mp hreach
  have hd : d ∈ parentsIn graph.nodes a := hd
  rw [h.1] at hd
  exact absurd hd List.not_mem_nil

/-- What one item derives from, and shares with no ancestor of it, is an origin. -/
theorem originOf_of_reaches
    (hproper : ¬ ∃ c, TransGen graph.Derives a c ∧ TransGen graph.Derives b c)
    (hreach : ReflTransGen graph.Derives b a) : OriginOf graph a b := by
  refine ⟨List.eq_nil_iff_forall_not_mem.mpr fun c hc => ?_, hreach⟩
  exact hproper ⟨c, .single hc, .tail' hreach hc⟩

/-- What is shared although no proper ancestor is: an origin. -/
theorem originOf_of_shared {c : String}
    (hproper : ¬ ∃ c, TransGen graph.Derives a c ∧ TransGen graph.Derives b c)
    (ha : ReflTransGen graph.Derives a c) (hb : ReflTransGen graph.Derives b c) :
    OriginOf graph a b ∨ OriginOf graph b a := by
  rcases reflTransGen_iff_eq_or_transGen.mp ha with rfl | hac
  · exact .inl (originOf_of_reaches hproper hb)
  · rcases reflTransGen_iff_eq_or_transGen.mp hb with rfl | hbc
    · exact .inr (originOf_of_reaches (by simpa only [and_comm] using hproper) ha)
    · exact absurd ⟨c, hac, hbc⟩ hproper

/-- The verdicts agree exactly if neither item is an origin of the other. -/
theorem agrees_iff {ancestry : EvidenceAncestry} {graph : EvidenceGraph}
    (hsame : SameGraph ancestry graph) (ha : a ∈ identities graph.nodes)
    (hb : b ∈ identities graph.nodes) :
    Agrees ancestry graph a b ↔ ¬ OriginOf graph a b ∧ ¬ OriginOf graph b a := by
  rw [Agrees, independentRoots_isOk_iff ha hb, and_self, requireDisjoint_isOk_iff, hsame.derives]
  constructor
  · intro hagrees
    constructor
    · intro horigin
      exact hagrees.mp (fun ⟨c, hac, _⟩ => horigin.not_transGen c hac) ⟨a, .refl, horigin.2⟩
    · intro horigin
      exact hagrees.mp (fun ⟨c, _, hbc⟩ => horigin.not_transGen c hbc) ⟨b, horigin.2, .refl⟩
  · rintro ⟨hab, hba⟩
    constructor
    · rintro hproper ⟨c, hac, hbc⟩
      exact (originOf_of_shared hproper hac hbc).elim hab hba
    · rintro hdisjoint ⟨c, hac, hbc⟩
      exact hdisjoint ⟨c, hac.to_reflTransGen, hbc.to_reflTransGen⟩

/-! ## An item and its origin -/

/-- A node without parents, and one that derives from it. -/
def sampleNodes : List EvidenceNode :=
  [⟨"r", "i1", "m1", "d1", [], by decide, by decide⟩,
    ⟨"a", "i2", "m2", "d2", ["r"], by decide, by decide⟩]

def sampleGraph : EvidenceGraph :=
  have hchecked : checkNodes sampleNodes = .ok () := toOption_eq_some.mp (by decide)
  ⟨sampleNodes, (checkNodes_eq_ok.mp hchecked).1, (checkNodes_eq_ok.mp hchecked).2.1,
    (checkNodes_eq_ok.mp hchecked).2.2⟩

def sampleAncestry : EvidenceAncestry :=
  ⟨[("a", "r")], checkEdges_eq_ok.mp (toOption_eq_some.mp (by decide))⟩

theorem sample_sameGraph : SameGraph sampleAncestry sampleGraph := by
  intro child parent
  simp [sampleAncestry, sampleGraph, sampleNodes, eq_comm]

theorem item_with_itself : Agrees sampleAncestry sampleGraph "a" "a" := by
  have hparents : ¬ OriginOf sampleGraph "a" "a" := fun h => absurd h.1 (by decide)
  exact (agrees_iff sample_sameGraph (by decide) (by decide)).mpr ⟨hparents, hparents⟩

theorem origin_accepted : SameGraph sampleAncestry sampleGraph ∧
    ¬ Agrees sampleAncestry sampleGraph "a" "r" := by
  refine ⟨sample_sameGraph, fun h => ?_⟩
  have haccepted : (sampleAncestry.requireDisjoint "a" "r").toOption = some true := by
    decide
  obtain ⟨verdict, hverdict⟩ := h.2.mp ⟨true, toOption_eq_some.mp haccepted⟩
  have hrefused : (sampleGraph.independentRoots "a" "r").toOption = none := by
    decide
  rw [hverdict] at hrefused
  exact nomatch hrefused

end ChatmanEcosystem.ReleaseTrain.EvidenceLineage
