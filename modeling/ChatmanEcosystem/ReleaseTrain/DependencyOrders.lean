import ChatmanEcosystem.Common.LeastOrder
import ChatmanEcosystem.Py.Value

/-!
# Orders of dependencies

Model of `scripts/release_train/graph.py` (lines 8–40) and of
`scripts/release_train/provenance_reconciliation/lineage.py` (lines 9–41). The first
puts what a repository depends on before it, by a depth-first search; the second puts
records of evidence in order, the least one that is ready first.

Results:

* `closureOrder_of_ok`: what a closure has, in which order.
* `dependencyClosure_isOk_iff`: when there is one.
* `least_of_ok`, `orderEvidence_isOk_iff`: the same of ordered evidence.
* `dependency_orders`: both, and that the order of the edges given does not matter.
-/

namespace ChatmanEcosystem.ReleaseTrain.DependencyOrder

open Common Py Rust Relation

/-! ## Closures -/

/-- `Edge` (`graph.py`, lines 8–11). -/
structure Edge where
  upstream : String
  downstream : String
  deriving DecidableEq

/-- `deps.get(node, ())` (`graph.py`, lines 14–19), sorted (line 31). -/
def upstreams (edges : List Edge) (node : String) : List String :=
  sortedTexts ((edges.filter (·.downstream = node)).map (·.upstream))

/-- The keys of `deps` (`graph.py`, lines 18–19). -/
def ends (edges : List Edge) : List String :=
  edges.flatMap fun edge => [edge.downstream, edge.upstream]

/-- The refusal of `visit` (`graph.py`, line 27). -/
def closureStop : Stop String → Raised String
  | .cycle _ => .refusal "DEPENDENCY_CYCLE"
  | .tooDeep => .error .recursionError

/-- `dependency_closure` (`graph.py`, lines 13–37). -/
def dependencyClosure (root : String) (edges : List Edge) :
    Except (Raised String) (List String) := do
  edges.forM fun edge => ensure (edge.upstream ≠ edge.downstream) (.refusal "SELF_DEPENDENCY")
  if root ∉ ends edges then
    return [root]
  (postOrder (upstreams edges) ((ends edges).dedup.length + 1) [root]).mapError closureStop

/-- `is_dependency_closed` (`graph.py`, lines 39–40). -/
def isDependencyClosed (root : String) (selected : List String) (edges : List Edge) :
    Except (Raised String) Bool := do
  return (← dependencyClosure root edges).all (· ∈ selected)

/-! ## Evidence -/

/-- `Refused` (`model.py`). -/
structure Refused where
  code : String
  detail : String
  deriving DecidableEq

/-- What `order_evidence` reads of an `EvidenceRecord` (`provenance.py`, line 15). -/
structure EvidenceRecord where
  evidenceId : String
  deriving DecidableEq

/-- `EvidenceEdge` (`lineage.py`, lines 9–12). -/
structure EvidenceEdge where
  predecessor : String
  successor : String
  deriving DecidableEq

/-- `ids` (`lineage.py`, line 16). -/
def identities (records : List EvidenceRecord) : List String := records.map (·.evidenceId)

/-- What a node waits for: the sources of the distinct edges that line 28 counts. -/
def predecessors (edges : List EvidenceEdge) (item : String) : List String :=
  ((edges.filter (·.successor = item)).map (·.predecessor)).dedup

/-- `sorted(outgoing[current])` (`lineage.py`, lines 26–27 and 34). -/
def outgoing (edges : List EvidenceEdge) (item : String) : List String :=
  sortedTexts ((edges.filter (·.predecessor = item)).map (·.successor))

/-- `indegree` (`lineage.py`, lines 20 and 28). -/
def indegree (edges : List EvidenceEdge) (item : String) : ℤ := (predecessors edges item).length

/-- The checks of an edge (`lineage.py`, lines 22–25). -/
def checkEdge (ids : List String) (edge : EvidenceEdge) : Except (Raised Refused) Unit := do
  ensure (edge.predecessor ∈ ids ∧ edge.successor ∈ ids)
    (.refusal ⟨"EVIDENCE_EDGE_OUTSIDE_CLOSURE", ""⟩)
  ensure (edge.predecessor ≠ edge.successor) (.refusal ⟨"EVIDENCE_SELF_EDGE", edge.predecessor⟩)

/-- The loop (`lineage.py`, lines 29–38); each round releases one of the records. -/
def released (ids : List String) (edges : List EvidenceEdge) : List String :=
  releaseAll (outgoing edges) ids.length (indegree edges)
    (sorted (ids.filter (indegree edges · = 0))) []

/-- `order_evidence` (`lineage.py`, lines 15–41). -/
def orderEvidence (records : List EvidenceRecord) (edges : List EvidenceEdge) :
    Except (Raised Refused) (List String) := do
  let ids := identities records
  ensure ids.Nodup (.refusal ⟨"DUPLICATE_EVIDENCE_ID", ""⟩)
  edges.forM (checkEdge ids)
  ensure ((released ids edges).length = ids.length) (.refusal ⟨"EVIDENCE_LINEAGE_CYCLE", ""⟩)
  return released ids edges

/-! ## What the orders promise -/

/-- A repository depends on another one. -/
def Needs (edges : List Edge) (a b : String) : Prop := ⟨b, a⟩ ∈ edges

/-- The root and what it depends on, each once and after everything that it depends on itself. -/
structure ClosureOrder (root : String) (edges : List Edge) (order : List String) : Prop where
  members : ∀ a, a ∈ order ↔ ReflTransGen (Needs edges) root a
  once : order.Nodup
  after : ∀ front a back, order = front ++ a :: back → ∀ b, Needs edges a b → b ∈ front

/-- A closure is ordered, it is refused exactly on an edge from a node to itself or a cycle that
the root leads to, and it depends on the set of the edges only. -/
structure ClosureExact (root : String) (edges : List Edge) : Prop where
  ordered : ∀ order, dependencyClosure root edges = .ok order → ClosureOrder root edges order
  accepted : (∃ order, dependencyClosure root edges = .ok order) ↔
    (∀ edge ∈ edges, edge.upstream ≠ edge.downstream) ∧
      ∀ a, ReflTransGen (Needs edges) root a → ¬ TransGen (Needs edges) a a
  canonical : ∀ others, (∀ edge, edge ∈ others ↔ edge ∈ edges) →
    dependencyClosure root others = dependencyClosure root edges

/-- A record comes before another one. -/
def Precedes (edges : List EvidenceEdge) (a b : String) : Prop := ⟨a, b⟩ ∈ edges

/-- All records, each after those that come before it. -/
structure EvidenceOrder (records : List EvidenceRecord) (edges : List EvidenceEdge)
    (order : List String) : Prop where
  all : order.Perm (identities records)
  after : ∀ front b back, order = front ++ b :: back → ∀ a, Precedes edges a b → a ∈ front

/-- Ordered evidence is the least order, it is refused exactly on a repeated identity, an edge of
other records or a cycle, and it depends on the set of the edges only. -/
structure EvidenceExact (records : List EvidenceRecord) (edges : List EvidenceEdge) : Prop where
  least : ∀ order, orderEvidence records edges = .ok order → EvidenceOrder records edges order ∧
    ∀ other, EvidenceOrder records edges other → order ≤ other
  accepted : (∃ order, orderEvidence records edges = .ok order) ↔ (identities records).Nodup ∧
    (∀ edge ∈ edges, edge.predecessor ∈ identities records ∧
      edge.successor ∈ identities records) ∧ ∀ a, ¬ TransGen (Precedes edges) a a
  canonical : ∀ others, (∀ edge, edge ∈ others ↔ edge ∈ edges) →
    (orderEvidence records others).toOption = (orderEvidence records edges).toOption

/-! ## The closure -/

variable {root a b : String} {edges others : List Edge} {order : List String}

/-- Where an edge is its two ends, the far ends of the edges at a node are its neighbours. -/
theorem mem_map_filter {ε : Type} {edges : List ε} {near far : ε → String} {edge : ε}
    (hedge : ∀ e, near e = a ∧ far e = b ↔ e = edge) :
    b ∈ (edges.filter (near · = a)).map far ↔ edge ∈ edges := by
  rw [List.mem_map]
  constructor
  · rintro ⟨e, he, hfar⟩
    obtain ⟨hin, hnear⟩ := List.mem_filter.mp he
    rw [← (hedge e).mp ⟨of_decide_eq_true hnear, hfar⟩]
    exact hin
  · intro hin
    obtain ⟨hnear, hfar⟩ := (hedge edge).mpr rfl
    exact ⟨edge, List.mem_filter.mpr ⟨hin, decide_eq_true hnear⟩, hfar⟩

theorem depends_upstreams : Depends (upstreams edges) = Needs edges := by
  funext a b
  apply propext
  show b ∈ upstreams edges a ↔ (⟨b, a⟩ : Edge) ∈ edges
  rw [upstreams, mem_sortedTexts]
  apply mem_map_filter
  intro edge
  rw [Edge.mk.injEq, and_comm]

theorem mem_ends : a ∈ ends edges ↔ ∃ edge ∈ edges, a = edge.downstream ∨ a = edge.upstream := by
  simp [ends]

theorem upstreams_subset : upstreams edges a ⊆ (ends edges).dedup := by
  intro b hb
  have hneeds : Needs edges a b := depends_upstreams ▸ hb
  exact List.mem_dedup.mpr (mem_ends.mpr ⟨_, hneeds, .inr rfl⟩)

/-- A root that no edge names leads nowhere. -/
theorem eq_root_of_not_mem (hroot : root ∉ ends edges) (h : ReflTransGen (Needs edges) root a) :
    a = root := by
  rcases reflTransGen_iff_eq_or_transGen.mp h with hsame | hreach
  · exact hsame
  · obtain ⟨b, hneeds, -⟩ := TransGen.head'_iff.mp hreach
    exact absurd (mem_ends.mpr ⟨_, hneeds, .inl rfl⟩) hroot

theorem dependencyClosure_eq_ok :
    dependencyClosure root edges = .ok order ↔
      (∀ edge ∈ edges, edge.upstream ≠ edge.downstream) ∧
        if root ∈ ends edges then
          postOrder (upstreams edges) ((ends edges).dedup.length + 1) [root] = .ok order
        else [root] = order := by
  simp only [dependencyClosure, bind_eq_ok, forM_eq_ok, ensure_eq_ok, exists_const]
  refine and_congr_right fun _ => ?_
  by_cases hroot : root ∈ ends edges
  · simp [hroot, mapError_eq_ok]
  · simp [hroot, pure_eq_ok]

theorem closureOrder_of_ok (h : dependencyClosure root edges = .ok order) :
    ClosureOrder root edges order := by
  obtain ⟨-, h⟩ := dependencyClosure_eq_ok.mp h
  split_ifs at h with hroot
  · obtain ⟨hordered, hmem⟩ := postOrder_eq_ok h
    refine ⟨fun a => ?_, hordered.nodup, fun front a back hfront b hb => ?_⟩
    · rw [hmem a, depends_upstreams]
      simp
    · rw [← depends_upstreams] at hb
      exact hordered.after front a back hfront hb
  · subst h
    have hnone : ∀ b, ¬ Needs edges root b := fun b hb => hroot (mem_ends.mpr ⟨_, hb, .inl rfl⟩)
    refine ⟨fun a => ?_, List.nodup_singleton root, fun front a back hfront b hb => ?_⟩
    · rw [List.mem_singleton]
      exact ⟨fun h => h ▸ .refl, eq_root_of_not_mem hroot⟩
    · cases front with
      | nil =>
        obtain ⟨rfl, -⟩ := List.cons.inj hfront
        exact absurd hb (hnone b)
      | cons first front => simp at hfront

/-- When there is a closure. -/
theorem dependencyClosure_isOk_iff : (∃ order, dependencyClosure root edges = .ok order) ↔
    (∀ edge ∈ edges, edge.upstream ≠ edge.downstream) ∧
      ∀ a, ReflTransGen (Needs edges) root a → ¬ TransGen (Needs edges) a a := by
  simp only [dependencyClosure_eq_ok, exists_and_left]
  refine and_congr_right fun _ => ?_
  by_cases hroot : root ∈ ends edges
  · simp only [hroot, if_true]
    rw [postOrder_isOk_iff (fun a _ => upstreams_subset) (by simpa using hroot)
      (Nat.lt_succ_self _), depends_upstreams]
    simp
  · simp only [hroot, if_false, exists_eq', true_iff]
    intro a hreach hcycle
    rw [eq_root_of_not_mem hroot hreach] at hcycle
    obtain ⟨b, hneeds, -⟩ := TransGen.head'_iff.mp hcycle
    exact hroot (mem_ends.mpr ⟨_, hneeds, .inl rfl⟩)

/-- The closure depends on the set of the edges only. -/
theorem dependencyClosure_congr (h : ∀ edge, edge ∈ others ↔ edge ∈ edges) :
    dependencyClosure root others = dependencyClosure root edges := by
  have hends : ∀ a, a ∈ ends others ↔ a ∈ ends edges := by
    simp only [mem_ends, h, implies_true]
  have hupstreams : upstreams others = upstreams edges := by
    funext node
    refine sortedTexts_congr fun text => ?_
    simp only [List.mem_map, List.mem_filter, h]
  have hlength : (ends others).dedup.length = (ends edges).dedup.length := by
    refine List.Perm.length_eq ((List.perm_ext_iff_of_nodup (List.nodup_dedup _)
      (List.nodup_dedup _)).mpr fun a => ?_)
    simp only [List.mem_dedup, hends]
  simp only [dependencyClosure, forM_ensure, h, hends, hupstreams, hlength]

/-! ## Ordered evidence -/

variable {records : List EvidenceRecord} {links moreLinks : List EvidenceEdge}

theorem mem_predecessors : a ∈ predecessors links b ↔ Precedes links a b := by
  rw [predecessors, List.mem_dedup]
  apply mem_map_filter
  intro edge
  rw [EvidenceEdge.mk.injEq, and_comm]

theorem mem_outgoing : b ∈ outgoing links a ↔ Precedes links a b := by
  rw [outgoing, mem_sortedTexts]
  apply mem_map_filter
  intro edge
  rw [EvidenceEdge.mk.injEq]

/-- Edges that name records only. -/
def Inside (ids : List String) (links : List EvidenceEdge) : Prop :=
  ∀ edge ∈ links, edge.predecessor ∈ ids ∧ edge.successor ∈ ids

/-- The network of some records. -/
def network (ids : List String) (links : List EvidenceEdge) (hids : ids.Nodup)
    (hinside : Inside ids links) : Network String where
  nodes := ids
  predecessors := predecessors links
  successors := outgoing links
  distinct := hids
  predecessors_nodup _ := List.nodup_dedup _
  successors_nodup _ := (pairwise_sortedTexts _).imp ne_of_lt
  mem_successors _ _ := mem_outgoing.trans mem_predecessors.symm
  predecessors_subset _ _ h := (hinside _ (mem_predecessors.mp h)).1
  successors_subset _ _ h := (hinside _ (mem_outgoing.mp h)).2

variable {ids : List String}

/-- The loop releases the records of the network. -/
theorem released_eq_leastOrder (hids : ids.Nodup) (hinside : Inside ids links) :
    released ids links = (network ids links hids hinside).leastOrder := rfl

/-- An order of the records is an order of their network. -/
theorem evidenceOrder_iff (hids : (identities records).Nodup) :
    EvidenceOrder records links order ↔
      order.Perm (identities records) ∧ Ordered (predecessors links) order := by
  constructor
  · intro h
    refine ⟨h.all, h.all.nodup_iff.mpr hids, fun front b back hfront a ha => ?_⟩
    exact h.after front b back hfront a (mem_predecessors.mp ha)
  · rintro ⟨hperm, hordered⟩
    refine ⟨hperm, fun front b back hfront a ha => ?_⟩
    exact hordered.after front b back hfront (mem_predecessors.mpr ha)

/-- The network has the cycles of the edges. -/
theorem acyclic_iff : (∀ a, ¬ TransGen (Depends (predecessors links)) a a) ↔
    ∀ a, ¬ TransGen (Precedes links) a a := by
  have hswap : Depends (predecessors links) = Function.swap (Precedes links) := by
    funext b a
    exact propext mem_predecessors
  simp only [hswap, transGen_swap]

theorem checkEdge_eq_ok {edge : EvidenceEdge} :
    checkEdge ids edge = .ok () ↔ (edge.predecessor ∈ ids ∧ edge.successor ∈ ids) ∧
      edge.predecessor ≠ edge.successor := by
  simp [checkEdge, bind_eq_ok]

theorem orderEvidence_eq_ok : orderEvidence records links = .ok order ↔
    (identities records).Nodup ∧ (∀ edge ∈ links, checkEdge (identities records) edge = .ok ()) ∧
      (released (identities records) links).length = (identities records).length ∧
        released (identities records) links = order := by
  simp only [orderEvidence, bind_eq_ok, forM_eq_ok, ensure_eq_ok, pure_eq_ok, exists_const]

/-- What is returned is an order of the records, and no other one is less. -/
theorem least_of_ok (h : orderEvidence records links = .ok order) :
    EvidenceOrder records links order ∧
      ∀ other, EvidenceOrder records links other → order ≤ other := by
  obtain ⟨hids, hchecked, hlength, hreleased⟩ := orderEvidence_eq_ok.mp h
  have hinside : Inside (identities records) links := fun edge hedge =>
    (checkEdge_eq_ok.mp (hchecked edge hedge)).1
  subst hreleased
  rw [released_eq_leastOrder hids hinside] at hlength ⊢
  have hordered : Ordered (predecessors links)
      (network (identities records) links hids hinside).leastOrder :=
    @Network.ordered_leastOrder _ _ (network (identities records) links hids hinside)
  refine ⟨(evidenceOrder_iff hids).mpr ⟨Network.leastOrder_perm hlength, hordered⟩,
    fun other hother => ?_⟩
  obtain ⟨hperm, hother⟩ := (evidenceOrder_iff hids).mp hother
  exact Network.leastOrder_le hother hperm hlength

/-- When evidence is ordered. -/
theorem orderEvidence_isOk_iff : (∃ order, orderEvidence records links = .ok order) ↔
    (identities records).Nodup ∧ Inside (identities records) links ∧
      ∀ a, ¬ TransGen (Precedes links) a a := by
  simp only [orderEvidence_eq_ok, exists_and_left, exists_eq', and_true]
  refine and_congr_right fun hids => ?_
  constructor
  · rintro ⟨hchecked, hlength⟩
    have hinside : Inside (identities records) links := fun edge hedge =>
      (checkEdge_eq_ok.mp (hchecked edge hedge)).1
    refine ⟨hinside, acyclic_iff.mp ?_⟩
    rw [released_eq_leastOrder hids hinside] at hlength
    exact Network.length_leastOrder_iff.mp hlength
  · rintro ⟨hinside, hacyclic⟩
    refine ⟨fun edge hedge => checkEdge_eq_ok.mpr ⟨hinside edge hedge, fun hself => ?_⟩, ?_⟩
    · obtain ⟨predecessor, successor⟩ := edge
      obtain rfl : predecessor = successor := hself
      exact hacyclic predecessor (.single hedge)
    · rw [released_eq_leastOrder hids hinside]
      exact Network.length_leastOrder_iff.mpr (acyclic_iff.mpr hacyclic)

theorem released_congr (h : ∀ edge, edge ∈ moreLinks ↔ edge ∈ links) :
    released ids moreLinks = released ids links := by
  have houtgoing : outgoing moreLinks = outgoing links := by
    funext item
    refine sortedTexts_congr fun text => ?_
    simp only [List.mem_map, List.mem_filter, h]
  have hindegree : indegree moreLinks = indegree links := by
    funext item
    refine congrArg Nat.cast (List.Perm.length_eq ((List.perm_ext_iff_of_nodup
      (List.nodup_dedup _) (List.nodup_dedup _)).mpr fun a => ?_))
    simp only [List.mem_dedup, List.mem_map, List.mem_filter, h]
  rw [released, released, houtgoing, hindegree]

/-- Ordered evidence depends on the set of the edges only. -/
theorem orderEvidence_congr (h : ∀ edge, edge ∈ moreLinks ↔ edge ∈ links) :
    (orderEvidence records moreLinks).toOption = (orderEvidence records links).toOption := by
  apply Option.ext
  intro order
  simp only [toOption_eq_some, orderEvidence_eq_ok, released_congr h, h]

/-! ## Both orders -/

/-- Dependency orders are topological, canonical and refused for the reasons given. -/
theorem dependency_orders : (∀ root edges, ClosureExact root edges) ∧
    ∀ records links, EvidenceExact records links :=
  ⟨fun _ _ => ⟨fun _ => closureOrder_of_ok, dependencyClosure_isOk_iff,
      fun _ => dependencyClosure_congr⟩,
    fun _ _ => ⟨fun _ => least_of_ok, orderEvidence_isOk_iff, fun _ => orderEvidence_congr⟩⟩

/-- A repository that depends on itself is refused, also where the root does not lead to it. -/
theorem unreached_self_edge : ¬ ((∃ order, dependencyClosure "r" [⟨"x", "x"⟩] = .ok order) ↔
    ∀ a, ReflTransGen (Needs [⟨"x", "x"⟩]) "r" a → ¬ TransGen (Needs [⟨"x", "x"⟩]) a a) := by
  have hnone : ∀ b, ¬ Needs [⟨"x", "x"⟩] "r" b := fun b hb => by simp [Needs] at hb
  intro h
  obtain ⟨order, horder⟩ := h.mpr fun a hreach hcycle => by
    rcases reflTransGen_iff_eq_or_transGen.mp hreach with rfl | hreach
    · obtain ⟨b, hb, -⟩ := TransGen.head'_iff.mp hcycle
      exact hnone b hb
    · obtain ⟨b, hb, -⟩ := TransGen.head'_iff.mp hreach
      exact hnone b hb
  have hrefused : (dependencyClosure "r" [⟨"x", "x"⟩]).toOption = none := by
    decide
  rw [horder] at hrefused
  exact nomatch hrefused

end ChatmanEcosystem.ReleaseTrain.DependencyOrder
