import ChatmanEcosystem.Py.Value
import ChatmanEcosystem.Replicas.VectorClock
import ChatmanEcosystem.Rust.Result
import Mathlib.Data.List.MinMax
import Mathlib.Data.Prod.Lex
import Mathlib.Order.Preorder.Finite

/-!
# Standing of a replicated policy

Model of `classify_frontier`, `qualify_quorum` and `qualify`
(`scripts/release_train/replicated_policy_admission/frontier.py`, lines 5–19;
`quorum.py`, `standing.py`, `policy.py`, `lease.py`, `dependency.py`,
`receipt.py` and `engine.py`).

`classify_frontier` compares every state with every other one and leaves the
inner loop at the first state that is ahead. The flag for concurrent clocks is
set on the way, so a pair of overtaken states is seen or not by where the state
that overtakes them stands in the list.

Results:

* `classifyFrontier_eq_ok`: the current and the historical states, in every
  order, and what the flag has met.
* `qualifyQuorum_perm`: the quorum does not depend on the order.
* `order_free_iff`: the reporting order does not matter exactly when no clocks
  are concurrent, or a current state is concurrent with another.
-/

namespace ChatmanEcosystem.Replicas

open Py Rust

/-! ## Model -/

/-- The codes of `Refused`. -/
inductive Refused
  | emptyReplicaSet
  | duplicateReplica
  | naiveObservationTime
  | replicaLeaseInactive
  | foreignReplicaSubject
  | dependencyCycle
  | noReplicaQuorum
  | staleReplicaGeneration
  | policyDigestMismatch
  | policyFrontierMismatch
  deriving DecidableEq

/-- `Subject` (`subject.py`, lines 8–11). -/
structure Subject where
  repo : String
  sha : String
  deriving DecidableEq

/-- `Subject.identity` (lines 19–21). -/
def Subject.identity (subject : Subject) : String := subject.repo ++ "@" ++ subject.sha

/-- `ReplicaPolicyState` (`replica.py`, lines 8–15). -/
structure ReplicaPolicyState where
  replicaId : String
  subject : Subject
  generation : ℕ
  policyDigest : String
  frontierDigest : String
  clock : VectorClock
  deriving DecidableEq

/-- `CausalFrontier` (`frontier.py`, lines 5–7). -/
structure CausalFrontier where
  current : List String
  historical : List String
  concurrent : Bool
  deriving DecidableEq

/-- The inner loop (lines 13–17): whether `s` is dominated, and the flag. A state that equals `s`
without being it is EQUAL to it and changes nothing either. -/
def scan (s : ReplicaPolicyState) : List ReplicaPolicyState → Bool → Bool × Bool
  | [], concurrent => (false, concurrent)
  | o :: rest, concurrent =>
    if s = o then scan s rest concurrent
    else match s.clock.compare o.clock with
      | .before => (true, concurrent)
      | .concurrent => scan s rest true
      | .after => scan s rest concurrent
      | .equal => scan s rest concurrent

/-- The lists and the flag of the outer loop. -/
structure Sorting where
  current : List ReplicaPolicyState := []
  historical : List ReplicaPolicyState := []
  concurrent : Bool := false

/-- The body of the outer loop (lines 12–18). -/
def Sorting.place (states : List ReplicaPolicyState) (sorting : Sorting) (s : ReplicaPolicyState) :
    Sorting :=
  let (dominated, concurrent) := scan s states sorting.concurrent
  if dominated then { sorting with historical := sorting.historical ++ [s], concurrent }
  else { sorting with current := sorting.current ++ [s], concurrent }

/-- `sorted(s.replica_id for s in states)`. -/
def ids (states : List ReplicaPolicyState) : List String := sorted (states.map (·.replicaId))

/-- `classify_frontier` (lines 8–19). -/
def classifyFrontier (states : List ReplicaPolicyState) : Except Refused CausalFrontier := do
  ensure (states ≠ []) .emptyReplicaSet
  let sorting := states.foldl (Sorting.place states) {}
  return ⟨ids sorting.current, ids sorting.historical, sorting.concurrent⟩

/-- `QuorumResult` (`quorum.py`, lines 5–7). -/
structure QuorumResult where
  generation : ℕ
  policyDigest : Option String
  frontierDigest : Option String
  agreeing : List String
  splitBrain : Bool
  deriving DecidableEq

/-- `strict_majority` (lines 8–10). -/
def strictMajority (n : ℕ) : Except Refused ℕ := do
  ensure (¬ n ≤ 0) .emptyReplicaSet
  return n / 2 + 1

/-- `(s.policy_digest, s.frontier_digest)`. -/
def ReplicaPolicyState.pair (s : ReplicaPolicyState) : String × String :=
  (s.policyDigest, s.frontierDigest)

/-- `max(s.generation for s in states)`. -/
def maxGeneration (states : List ReplicaPolicyState) : ℕ :=
  (states.map (·.generation)).foldr max 0

/-- `[s for s in states if s.generation == max_gen]` (line 14). -/
def newest (states : List ReplicaPolicyState) : List ReplicaPolicyState :=
  states.filter (·.generation = maxGeneration states)

/-- `Counter(...)` of the pairs of the newest states (line 15). -/
def pairCounts (states : List ReplicaPolicyState) : List ((String × String) × ℕ) :=
  let pairs := (newest states).map (·.pair)
  pairs.dedup.map fun pair => (pair, pairs.count pair)

/-- The key of `max` (line 15). -/
def countKey (item : (String × String) × ℕ) : ℕ ×ₗ (String ×ₗ String) :=
  toLex (item.2, toLex item.1)

/-- `qualify_quorum` (lines 11–19). -/
def qualifyQuorum (states : List ReplicaPolicyState) : Except Refused QuorumResult := do
  ensure (states ≠ []) .emptyReplicaSet
  ensure ((states.map (·.replicaId)).dedup.length = states.length) .duplicateReplica
  let counts := pairCounts states
  let (pair, count) ← okOr (counts.argmax countKey) .emptyReplicaSet
  let threshold ← strictMajority states.length
  let divergent : Bool := counts.length > 1
  if count < threshold then return ⟨maxGeneration states, none, none, [], divergent⟩
  let agreeing := ids ((newest states).filter (·.pair = pair))
  return ⟨maxGeneration states, some pair.1, some pair.2, agreeing,
    divergent && count = threshold && states.length = 2⟩

/-- `Lease` (`lease.py`, lines 4–10). -/
structure Lease where
  notBefore : ℤ
  expiresAt : ℤ
  deriving DecidableEq

/-- `Lease.admits` (lines 11–14). -/
def Lease.admits (lease : Lease) (moment : DateTime) : Except Refused Bool := do
  ensure (moment.aware = true) .naiveObservationTime
  return decide (lease.notBefore ≤ moment.micros ∧ moment.micros < lease.expiresAt)

/-- `DependencyGraph` (`dependency.py`, lines 4–6). -/
structure DependencyGraph where
  edges : List (String × String)
  standing : List (String × String)
  deriving DecidableEq

/-- One child of a released node (lines 15–16). -/
def arrive (state : (String → ℤ) × List String) (child : String) : (String → ℤ) × List String :=
  let left := state.1 child - 1
  (Function.update state.1 child left,
    if left = 0 then sorted (state.2 ++ [child]) else state.2)

/-- The loop of `ordered` (lines 12–16). A node is released once, so as many rounds as there are
nodes are enough. -/
def release (edges : List (String × String)) :
    ℕ → (String → ℤ) → List String → List String → List String
  | 0, _, _, out => out
  | _ + 1, _, [], out => out
  | rounds + 1, incoming, n :: ready, out =>
    let children := (edges.filter (·.1 = n)).map Prod.snd
    let (incoming, ready) := (sorted children).foldl arrive (incoming, ready)
    release edges rounds incoming ready (out ++ [n])

/-- `DependencyGraph.ordered` (lines 7–18). -/
def DependencyGraph.ordered (graph : DependencyGraph) : Except Refused (List String) := do
  let nodes := sortedTexts (graph.standing.map Prod.fst ++
    graph.edges.flatMap fun edge => [edge.1, edge.2])
  let incoming : String → ℤ := fun n => graph.edges.countP (·.2 = n)
  let out := release graph.edges nodes.length incoming (nodes.filter (incoming · = 0)) []
  ensure (out.length = nodes.length) .dependencyCycle
  return out

/-- `DependencyGraph.blockers` (lines 19–20). -/
def DependencyGraph.blockers (graph : DependencyGraph) : Except Refused (List String) := do
  let _ ← graph.ordered
  return sorted ((graph.standing.filter fun item =>
    item.2 ∈ ["BUILD_BROKEN", "BLOCKED"]).map Prod.fst)

/-- `ExpectedPolicy` (`policy.py`, lines 4–8). -/
structure ExpectedPolicy where
  generation : ℕ
  policyDigest : String
  frontierDigest : String
  deriving DecidableEq

/-- `admit_expected` (lines 9–13). -/
def admitExpected (quorum : QuorumResult) (expected : ExpectedPolicy) : Except Refused Unit := do
  ensure (quorum.policyDigest ≠ none) .noReplicaQuorum
  ensure (quorum.generation = expected.generation) .staleReplicaGeneration
  ensure (quorum.policyDigest = some expected.policyDigest) .policyDigestMismatch
  ensure (quorum.frontierDigest = some expected.frontierDigest) .policyFrontierMismatch

/-- `bounded_standing` (`standing.py`, lines 2–6). -/
def boundedStanding (quorum : QuorumResult) (blockers : List String) (causalConcurrent : Bool) :
    String × String :=
  if blockers ≠ [] then ("BLOCKED", "DEPENDENCY_BLOCKER")
  else if quorum.policyDigest = none then ("UNKNOWN", "NO_REPLICA_QUORUM")
  else if quorum.splitBrain || causalConcurrent then ("UNKNOWN", "AMBIGUOUS_REPLICA_TOPOLOGY")
  else ("PARTIAL_ALIVE", "REPLICATED_POLICY_CURRENT")

/-- `Receipt` (`receipt.py`, lines 6–9). -/
structure Receipt where
  subject : String
  generation : ℕ
  policyDigest : Option String
  frontierDigest : Option String
  replicas : List String
  blockers : List String
  standing : String
  reason : String
  phases : List String := ["VERIFY", "CONSTRUCT"]
  authority : String := "SELECT"
  actuationPerformed : Bool := false
  deriving DecidableEq

/-- `Qualification` (`engine.py`, lines 13–15). -/
structure Qualification where
  standing : String
  reason : String
  receipt : Receipt
  deriving DecidableEq

/-- `qualify` (lines 16–23). -/
def qualify (subject : Subject) (states : List ReplicaPolicyState) (lease : Lease)
    (moment : DateTime) (expected : ExpectedPolicy) (dependencies : DependencyGraph) :
    Except Refused Qualification := do
  let active ← lease.admits moment
  ensure (active = true) .replicaLeaseInactive
  ensure (¬ states.any (·.subject ≠ subject)) .foreignReplicaSubject
  let q ← qualifyQuorum states
  let frontier ← classifyFrontier states
  let blockers ← dependencies.blockers
  if q.policyDigest ≠ none then admitExpected q expected
  let (standing, reason) := boundedStanding q blockers frontier.concurrent
  let receipt : Receipt :=
    { subject := subject.identity, generation := q.generation, policyDigest := q.policyDigest
      frontierDigest := q.frontierDigest, replicas := q.agreeing, blockers, standing, reason }
  return ⟨standing, reason, receipt⟩

/-! ## What does not depend on the order -/

/-- Another state is ahead of this one. -/
def Dominated (states : List ReplicaPolicyState) (s : ReplicaPolicyState) : Prop :=
  ∃ o ∈ states, s.clock < o.clock

instance (states : List ReplicaPolicyState) : DecidablePred (Dominated states) := fun s =>
  inferInstanceAs (Decidable (∃ o ∈ states, s.clock < o.clock))

/-- Two clocks are incomparable. -/
def Concurrent (s o : ReplicaPolicyState) : Prop := IncompRel (· ≤ ·) s.clock o.clock

/-- Two of the states are concurrent. -/
def AnyConcurrent (states : List ReplicaPolicyState) : Prop :=
  ∃ s ∈ states, ∃ o ∈ states, Concurrent s o

/-- The frontier is told by the clocks. -/
structure Reports (states : List ReplicaPolicyState) (frontier : CausalFrontier) : Prop where
  current : frontier.current = ids (states.filter (¬ Dominated states ·))
  historical : frontier.historical = ids (states.filter (Dominated states ·))
  concurrent : frontier.concurrent = true ↔ AnyConcurrent states

/-- Every order of the states gives one frontier, which the clocks tell, and one qualification. -/
structure OrderFree (states : List ReplicaPolicyState) : Prop where
  frontier : ∀ others : List ReplicaPolicyState, others.Perm states →
    classifyFrontier others = classifyFrontier states ∧
      ∀ frontier, classifyFrontier others = .ok frontier → Reports states frontier
  qualification : ∀ others : List ReplicaPolicyState, others.Perm states →
    ∀ subject lease moment expected dependencies,
      qualify subject others lease moment expected dependencies =
        qualify subject states lease moment expected dependencies

/-! ## The inner loop -/

variable {states others rest : List ReplicaPolicyState} {s o : ReplicaPolicyState}
  {concurrent : Bool}

/-- The loop meets a concurrent state before one that is ahead. -/
def Meets (s : ReplicaPolicyState) (states : List ReplicaPolicyState) : Prop :=
  ∃ seen o rest, states = seen ++ o :: rest ∧ (∀ p ∈ seen, ¬ s.clock < p.clock) ∧ Concurrent s o

theorem meets_cons : Meets s (o :: rest) ↔
    Concurrent s o ∨ (¬ s.clock < o.clock ∧ Meets s rest) := by
  constructor
  · rintro ⟨seen, met, later, hsplit, hseen, hmet⟩
    cases seen with
    | nil =>
      obtain ⟨rfl, -⟩ := List.cons.inj hsplit
      exact .inl hmet
    | cons first seen =>
      obtain ⟨rfl, rfl⟩ := List.cons.inj hsplit
      exact .inr ⟨hseen _ List.mem_cons_self,
        seen, met, later, rfl, fun p hp => hseen p (List.mem_cons_of_mem _ hp), hmet⟩
  · rintro (hmet | ⟨hnot, seen, met, later, rfl, hseen, hmet⟩)
    · exact ⟨[], o, rest, rfl, by simp, hmet⟩
    · refine ⟨o :: seen, met, later, rfl, fun p hp => ?_, hmet⟩
      rcases List.mem_cons.mp hp with rfl | hp
      · exact hnot
      · exact hseen p hp

theorem not_concurrent_self : ¬ Concurrent s s := fun h => h.1 le_rfl

theorem Concurrent.not_lt (h : Concurrent s o) : ¬ s.clock < o.clock := fun hlt => h.1 hlt.le

/-- What the inner loop finds. -/
theorem scan_iff : ((scan s states concurrent).1 = true ↔ Dominated states s) ∧
    ((scan s states concurrent).2 = true ↔ concurrent = true ∨ Meets s states) := by
  induction states generalizing concurrent with
  | nil => simp [scan, Dominated, Meets]
  | cons o rest ih =>
    have hdominated : Dominated (o :: rest) s ↔ s.clock < o.clock ∨ Dominated rest s := by
      simp [Dominated]
    rw [hdominated, meets_cons, scan]
    by_cases hself : s = o
    · subst hself
      simp [ih, not_concurrent_self]
    · rw [if_neg hself]
      cases hcompare : s.clock.compare o.clock with
      | before =>
        have hlt := VectorClock.compare_eq_before.mp hcompare
        have hnot : ¬ Concurrent s o := fun h => h.not_lt hlt
        simp [hlt, hnot]
      | concurrent =>
        have hmet : Concurrent s o := VectorClock.compare_eq_concurrent.mp hcompare
        simp [ih, hmet, hmet.not_lt]
      | after =>
        have hlt : ¬ s.clock < o.clock := fun h => by
          rw [VectorClock.compare_eq_before.mpr h] at hcompare
          cases hcompare
        have hnot : ¬ Concurrent s o := fun h => by
          rw [VectorClock.compare_eq_concurrent.mpr h] at hcompare
          cases hcompare
        simp [ih, hlt, hnot]
      | equal =>
        have hlt : ¬ s.clock < o.clock := fun h => by
          rw [VectorClock.compare_eq_before.mpr h] at hcompare
          cases hcompare
        have hnot : ¬ Concurrent s o := fun h => by
          rw [VectorClock.compare_eq_concurrent.mpr h] at hcompare
          cases hcompare
        simp [ih, hlt, hnot]

/-! ## The frontier -/

/-- The outer loop sorts by domination; the flag is set where a scan meets a concurrent state. -/
theorem foldl_place (states todo : List ReplicaPolicyState) (sorting : Sorting) :
    (todo.foldl (Sorting.place states) sorting).current =
        sorting.current ++ todo.filter (¬ Dominated states ·) ∧
      (todo.foldl (Sorting.place states) sorting).historical =
        sorting.historical ++ todo.filter (Dominated states ·) ∧
      ((todo.foldl (Sorting.place states) sorting).concurrent = true ↔
        sorting.concurrent = true ∨ ∃ s ∈ todo, Meets s states) := by
  induction todo generalizing sorting with
  | nil => simp
  | cons s todo ih =>
    obtain ⟨hdominated, hmeets⟩ := @scan_iff states s sorting.concurrent
    simp only [List.foldl_cons, List.mem_cons, exists_eq_or_imp]
    obtain ⟨hcurrent, hhistorical, hconcurrent⟩ := ih (Sorting.place states sorting s)
    rw [hcurrent, hhistorical, hconcurrent]
    unfold Sorting.place
    by_cases h : Dominated states s
    · simp [hdominated.mpr h, hmeets, h, or_assoc]
    · simp [Bool.eq_false_iff.mpr (mt hdominated.mp h), hmeets, h, or_assoc]

theorem classifyFrontier_eq_ok {frontier : CausalFrontier} :
    classifyFrontier states = .ok frontier ↔ states ≠ [] ∧
      frontier.current = ids (states.filter (¬ Dominated states ·)) ∧
      frontier.historical = ids (states.filter (Dominated states ·)) ∧
      (frontier.concurrent = true ↔ ∃ s ∈ states, Meets s states) := by
  obtain ⟨hcurrent, hhistorical, hconcurrent⟩ := foldl_place states states {}
  simp only [classifyFrontier, bind_eq_ok, pure_eq_ok, ensure_eq_ok, exists_const]
  simp only [List.nil_append, Bool.false_eq_true, false_or] at hcurrent hhistorical hconcurrent
  refine and_congr_right fun _ => ?_
  rw [hcurrent, hhistorical, ← hconcurrent, ← Bool.eq_iff_iff]
  obtain ⟨current, historical, concurrent⟩ := frontier
  simp only [CausalFrontier.mk.injEq]
  exact and_congr eq_comm (and_congr eq_comm eq_comm)

theorem exists_frontier (h : states ≠ []) : ∃ frontier, classifyFrontier states = .ok frontier := by
  simp [classifyFrontier, h, ensure, bind, Except.bind, pure, Except.pure]

theorem dominated_perm (h : others.Perm states) : Dominated others s ↔ Dominated states s := by
  simp only [Dominated, h.mem_iff]

theorem ids_perm (h : others.Perm states) : ids others = ids states :=
  sorted_eq_of_perm (h.map _)

theorem ids_filter_perm (h : others.Perm states) :
    ids (others.filter (Dominated others ·)) = ids (states.filter (Dominated states ·)) ∧
      ids (others.filter (¬ Dominated others ·)) = ids (states.filter (¬ Dominated states ·)) := by
  have hsame : Dominated others = Dominated states := funext fun s => propext (dominated_perm h)
  simp only [hsame]
  exact ⟨ids_perm (h.filter _), ids_perm (h.filter _)⟩

theorem Meets.exists_concurrent (h : Meets s states) : ∃ o ∈ states, Concurrent s o := by
  obtain ⟨seen, o, rest, rfl, -, hmet⟩ := h
  exact ⟨o, by simp, hmet⟩

/-- Every scan for a current state meets every state. -/
theorem meets_of_not_dominated (hs : ¬ Dominated states s) (ho : o ∈ states)
    (h : Concurrent s o) : Meets s states := by
  obtain ⟨seen, rest, rfl⟩ := List.append_of_mem ho
  exact ⟨seen, o, rest, rfl, fun p hp hlt => hs ⟨p, by simp [hp], hlt⟩, h⟩

/-- Some state is behind no other. -/
theorem exists_current (h : states ≠ []) : ∃ s ∈ states, ¬ Dominated states s := by
  obtain ⟨s, hs, hmax⟩ := Set.Finite.exists_maximalFor (fun s : ReplicaPolicyState => s.clock)
    {s | s ∈ states} states.finite_toSet (List.exists_mem_of_ne_nil states h)
  refine ⟨s, hs, ?_⟩
  rintro ⟨o, ho, hlt⟩
  exact hlt.not_ge (hmax ho hlt.le)

/-- With the current states in front, every other state is overtaken by the first one. -/
theorem not_meets_current_first
    (hnone : ∀ c ∈ states, ¬ Dominated states c → ∀ o ∈ states, ¬ Concurrent c o)
    (hne : states ≠ []) (hs : s ∈ states) :
    ¬ Meets s (states.filter (¬ Dominated states ·) ++ states.filter (Dominated states ·)) := by
  obtain ⟨first, hfirst, hcurrent⟩ := exists_current hne
  have hmem : first ∈ states.filter (¬ Dominated states ·) :=
    List.mem_filter.mpr ⟨hfirst, decide_eq_true hcurrent⟩
  cases hfront : states.filter (¬ Dominated states ·) with
  | nil =>
    rw [hfront] at hmem
    exact absurd hmem List.not_mem_nil
  | cons c front =>
    have hc : c ∈ states ∧ ¬ Dominated states c := by
      have hc : c ∈ states.filter (¬ Dominated states ·) := hfront ▸ List.mem_cons_self
      exact ⟨(List.mem_filter.mp hc).1, of_decide_eq_true (List.mem_filter.mp hc).2⟩
    have hpair : ¬ Concurrent c s := hnone c hc.1 hc.2 s hs
    rw [List.cons_append, meets_cons]
    rintro (hmet | ⟨hnot, hmet⟩)
    · exact hpair hmet.symm
    · -- the first state is not ahead of `s`, so `s` is current itself and meets nobody
      have hle : c.clock ≤ s.clock := by
        by_contra hnle
        have hsc : s.clock ≤ c.clock := by
          by_contra hnsc
          exact hpair ⟨hnle, hnsc⟩
        exact hnot (lt_of_le_not_ge hsc hnle)
      have hs' : ¬ Dominated states s := by
        rintro ⟨o, ho, hlt⟩
        exact hc.2 ⟨o, ho, hle.trans_lt hlt⟩
      obtain ⟨o, ho, hconcurrent⟩ := hmet.exists_concurrent
      have ho : o ∈ states := by
        have hmem : o ∈ c :: front ++ states.filter (Dominated states ·) :=
          List.mem_cons_of_mem _ ho
        rw [← hfront, List.mem_append, List.mem_filter, List.mem_filter] at hmem
        exact hmem.elim And.left And.left
      exact hnone s hs hs' o ho hconcurrent

/-! ## The quorum -/

theorem argmax_eq_of_perm {α β : Type*} [LinearOrder β] {key : α → β}
    (hkey : Function.Injective key) {items others : List α} (h : items.Perm others) :
    items.argmax key = others.argmax key := by
  cases hitem : items.argmax key with
  | none =>
    rw [List.argmax_eq_none] at hitem
    subst hitem
    rw [List.nil_perm.mp h, List.argmax_nil]
  | some item =>
    cases hother : others.argmax key with
    | none =>
      rw [List.argmax_eq_none] at hother
      subst hother
      rw [List.perm_nil.mp h, List.argmax_nil] at hitem
      cases hitem
    | some other =>
      have hle : key item ≤ key other :=
        List.le_of_mem_argmax (h.mem_iff.mp (List.argmax_mem hitem)) hother
      have hge : key other ≤ key item :=
        List.le_of_mem_argmax (h.mem_iff.mpr (List.argmax_mem hother)) hitem
      rw [hkey (le_antisymm hle hge)]

theorem countKey_injective : Function.Injective countKey := by
  rintro ⟨pair, count⟩ ⟨pair', count'⟩ h
  simp only [countKey, EmbeddingLike.apply_eq_iff_eq, Prod.mk.injEq] at h
  rw [h.1, h.2]

theorem newest_perm (h : others.Perm states) : (newest others).Perm (newest states) := by
  have hmax : maxGeneration others = maxGeneration states := (h.map _).foldr_eq 0
  rw [newest, newest, hmax]
  exact h.filter _

theorem pairCounts_perm (h : others.Perm states) :
    (pairCounts others).Perm (pairCounts states) := by
  have hpairs := (newest_perm h).map (·.pair)
  unfold pairCounts
  simp only [hpairs.count_eq]
  exact hpairs.dedup.map _

/-- The quorum does not depend on the reporting order. -/
theorem qualifyQuorum_perm (h : others.Perm states) :
    qualifyQuorum others = qualifyQuorum states := by
  have hempty : others ≠ [] ↔ states ≠ [] := by rw [ne_eq, ne_eq, ← List.length_eq_zero_iff,
    ← List.length_eq_zero_iff, h.length_eq]
  have hdedup : (others.map (·.replicaId)).dedup.length = (states.map (·.replicaId)).dedup.length :=
    (h.map _).dedup.length_eq
  have hmax : maxGeneration others = maxGeneration states := (h.map _).foldr_eq 0
  have hids : ∀ pair : String × String, ids ((newest others).filter (·.pair = pair)) =
      ids ((newest states).filter (·.pair = pair)) := fun pair =>
    ids_perm ((newest_perm h).filter _)
  unfold qualifyQuorum
  simp only [hempty, hdedup, h.length_eq, hmax, hids, (pairCounts_perm h).length_eq,
    argmax_eq_of_perm countKey_injective (pairCounts_perm h)]

/-! ## The reporting order -/

/-- A flag in every order: a current state is concurrent with another, or nobody is. -/
theorem meets_iff_of_perm (h : others.Perm states) (hvisible : AnyConcurrent states →
      ∃ s ∈ states, ¬ Dominated states s ∧ ∃ o ∈ states, Concurrent s o) :
    (∃ s ∈ others, Meets s others) ↔ AnyConcurrent states := by
  constructor
  · rintro ⟨s, hs, hmeets⟩
    obtain ⟨o, ho, hconcurrent⟩ := hmeets.exists_concurrent
    exact ⟨s, h.mem_iff.mp hs, o, h.mem_iff.mp ho, hconcurrent⟩
  · intro hany
    obtain ⟨s, hs, hcurrent, o, ho, hconcurrent⟩ := hvisible hany
    refine ⟨s, h.mem_iff.mpr hs, meets_of_not_dominated ?_ (h.mem_iff.mpr ho) hconcurrent⟩
    exact mt (dominated_perm h).mp hcurrent

theorem classifyFrontier_perm (h : others.Perm states) (hvisible : AnyConcurrent states →
      ∃ s ∈ states, ¬ Dominated states s ∧ ∃ o ∈ states, Concurrent s o) :
    classifyFrontier others = classifyFrontier states := by
  by_cases hne : states = []
  · subst hne
    rw [List.perm_nil.mp h]
  · obtain ⟨frontier, hfrontier⟩ := exists_frontier hne
    rw [hfrontier, classifyFrontier_eq_ok]
    obtain ⟨-, hcurrent, hhistorical, hconcurrent⟩ := classifyFrontier_eq_ok.mp hfrontier
    obtain ⟨hdominated, hundominated⟩ := ids_filter_perm h
    refine ⟨fun hnil => hne ?_, ?_, ?_, ?_⟩
    · rw [hnil] at h
      exact List.nil_perm.mp h
    · rw [hcurrent, hundominated]
    · rw [hhistorical, hdominated]
    · rw [hconcurrent, meets_iff_of_perm (List.Perm.refl states) hvisible,
        meets_iff_of_perm h hvisible]

/-- The reporting order does not matter exactly when no clocks are concurrent, or some current
state is concurrent with another. -/
theorem order_free_iff (states : List ReplicaPolicyState) : OrderFree states ↔
    (AnyConcurrent states →
      ∃ s ∈ states, ¬ Dominated states s ∧ ∃ o ∈ states, Concurrent s o) := by
  constructor
  · intro h hany
    by_contra hnone
    push Not at hnone
    have hne : states ≠ [] := by
      obtain ⟨s, hs, -⟩ := hany
      exact List.ne_nil_of_mem hs
    let front := states.filter (¬ Dominated states ·) ++ states.filter (Dominated states ·)
    have hperm : front.Perm states := by
      have hsplit := List.filter_append_perm (fun s => ¬ Dominated states s) states
      simpa [front] using hsplit
    have hfront : front ≠ [] := fun hnil => hne (List.nil_perm.mp (hnil ▸ hperm))
    obtain ⟨-, hreports⟩ := h.frontier front hperm
    obtain ⟨frontier, hfrontier⟩ := exists_frontier hfront
    have hflag := (hreports frontier hfrontier).concurrent.mpr hany
    obtain ⟨met, hmet, hmeets⟩ := (classifyFrontier_eq_ok.mp hfrontier).2.2.2.mp hflag
    exact not_meets_current_first hnone hne (hperm.mem_iff.mp hmet) hmeets
  · intro hvisible
    have hclassify : ∀ others : List ReplicaPolicyState, others.Perm states →
        classifyFrontier others = classifyFrontier states :=
      fun others h => classifyFrontier_perm h hvisible
    refine ⟨fun others h => ⟨hclassify others h, fun frontier hfrontier => ?_⟩,
      fun others h subject lease moment expected dependencies => ?_⟩
    · rw [hclassify others h] at hfrontier
      obtain ⟨-, hcurrent, hhistorical, hconcurrent⟩ := classifyFrontier_eq_ok.mp hfrontier
      rw [meets_iff_of_perm (List.Perm.refl states) hvisible] at hconcurrent
      exact ⟨hcurrent, hhistorical, hconcurrent⟩
    · have hforeign : others.any (·.subject ≠ subject) = states.any (·.subject ≠ subject) :=
        h.any_eq
      unfold qualify
      rw [hclassify others h, qualifyQuorum_perm h, hforeign]

/-- A replica of one subject and one policy with the given clock. -/
def replicaWith (replicaId : String) (values : List (String × ℤ)) : ReplicaPolicyState :=
  { replicaId, subject := ⟨"a/b", "0"⟩, generation := 7, policyDigest := "p"
    frontierDigest := "f", clock := ⟨values⟩ }

/-- Two concurrent replicas and one that has seen both. -/
def overtakenPair : List ReplicaPolicyState :=
  [replicaWith "a" [("a", 1)], replicaWith "b" [("b", 1)],
    replicaWith "c" [("a", 1), ("b", 1), ("c", 1)]]

theorem order_hides_concurrency : ¬ OrderFree overtakenPair := by
  intro h
  have hsame := (h.frontier overtakenPair.reverse (List.reverse_perm _)).1
  have hflags : (classifyFrontier overtakenPair.reverse).toOption.map (·.concurrent) ≠
      (classifyFrontier overtakenPair).toOption.map (·.concurrent) := by decide +kernel
  exact hflags (by rw [hsame])

end ChatmanEcosystem.Replicas
