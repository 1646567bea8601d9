import ChatmanEcosystem.Common.Classes
import ChatmanEcosystem.Common.Graph
import ChatmanEcosystem.Common.StableSort
import ChatmanEcosystem.Py.Value
import Mathlib.Data.Set.Card

/-!
# The quorum of recovery evidence

Model of `scripts/release_train/recovery_evidence_quorum` (`clusters.py`,
`independence.py`, `policy.py`, `provenance.py`, and the records of `witness.py`
and `source.py`).

Results:

* `related_iff`: when the code takes two witnesses together.
* `mem_correlatedClusters`: the clusters are the connected components.
* `correlatedClusters_perm`: the order of the witnesses does not matter.
* `standingFor_iff`: what a partial life takes.
-/

namespace ChatmanEcosystem.ReleaseTrain.RecoveryQuorum

open Common Py Relation

/-! ## Records -/

/-- `EvidenceSource` (`source.py`, lines 4–8). -/
structure EvidenceSource where
  producer : String
  runId : String
  artifactId : String
  family : String
  complete : producer ≠ "" ∧ runId ≠ "" ∧ artifactId ≠ "" ∧ family ≠ ""
  deriving DecidableEq

/-- `OUTCOMES` (`witness.py`, line 4). -/
inductive Outcome
  | pass
  | fail
  | pending
  | unknown
  | unsupported
  deriving DecidableEq

/-- `RecoveryWitness` (`witness.py`, lines 6–11). The instant is that of UTC, in microseconds. -/
structure RecoveryWitness where
  attemptId : String
  source : EvidenceSource
  evidenceId : String
  outcome : Outcome
  scope : String
  observedAt : ℤ
  named : attemptId ≠ "" ∧ evidenceId ≠ "" ∧ scope ≠ ""
  deriving DecidableEq

/-- `RELATIONS` (`independence.py`, line 1). -/
inductive EvidenceRelation
  | sameEvidence
  | correlated
  | independent
  | unknown
  deriving DecidableEq

/-- `IndependenceEvidence` (`independence.py`, lines 2–5). A later pair of the same two ids takes
the place of an earlier one. -/
structure IndependenceEvidence where
  pairs : List (String × String × EvidenceRelation)

/-- `self.pairs.get(frozenset((a, b)))`. -/
def IndependenceEvidence.explicit (independence : IndependenceEvidence) (a b : String) :
    Option EvidenceRelation :=
  (independence.pairs.reverse.find? fun (x, y, _) => x = a ∧ y = b ∨ x = b ∧ y = a).map (·.2.2)

/-- `ProvenanceGraph` (`provenance.py`, lines 1–14), which refuses cycles. -/
structure ProvenanceGraph where
  edges : Edges String
  acyclic : ∀ node, ¬ TransGen edges.Step node node

/-- `ProvenanceGraph.derives` (`provenance.py`, lines 15–21). The order of a set is left open. -/
def ProvenanceGraph.derives (order : List String → List String) (provenance : ProvenanceGraph)
    (a b : String) : Bool :=
  provenance.edges.leads order a b

/-- `QuorumPolicy` (`policy.py`, lines 3–7). -/
structure QuorumPolicy where
  minIndependentClusters : ℕ
  requiredScope : String
  positive : 1 ≤ minIndependentClusters

/-! ## Clusters -/

variable (order : List String → List String) (independence : IndependenceEvidence)
  (provenance : ProvenanceGraph)

/-- Two sources share an attribute (`independence.py`, line 12). -/
def sharesSource (a b : EvidenceSource) : Bool :=
  a.producer = b.producer || a.runId = b.runId || a.artifactId = b.artifactId ||
    a.family = b.family

/-- `IndependenceEvidence.relation` (`independence.py`, lines 6–13). -/
def relation (a b : RecoveryWitness) : EvidenceRelation :=
  if a.evidenceId = b.evidenceId then .sameEvidence
  else
    match independence.explicit a.evidenceId b.evidenceId with
    | some .independent => .independent
    | some .correlated => .correlated
    | some .sameEvidence => .sameEvidence
    | explicit =>
      if provenance.derives order a.evidenceId b.evidenceId ||
          provenance.derives order b.evidenceId a.evidenceId then .correlated
      else if sharesSource a.source b.source then .correlated
      else explicit.getD .unknown

/-- The condition of a union (`clusters.py`, line 11). -/
def related (a b : RecoveryWitness) : Bool :=
  relation order independence provenance a b ∈ [.sameEvidence, .correlated]

/-- `min(x.evidence_id for x in g)`. -/
def minId (group : List RecoveryWitness) : String :=
  ((group.map (·.evidenceId)).min?).getD ""

/-- `sorted(g, key=lambda x: x.evidence_id)`. -/
def sortedById (group : List RecoveryWitness) : List RecoveryWitness :=
  group.insertionSort fun a b => a.evidenceId ≤ b.evidenceId

/-- `correlated_clusters` (`clusters.py`, lines 1–14). -/
def correlatedClusters (witnesses : List RecoveryWitness) : List (List RecoveryWitness) :=
  ((classes (related order independence provenance) witnesses).insertionSort
    fun g h => minId g ≤ minId h).map sortedById

/-! ## Standing -/

/-- What `standing_for` returns. -/
inductive Standing
  | blocked
  | buildBroken
  | partialAlive
  | unsupported
  | unknown
  deriving DecidableEq

/-- The loop of `standing_for` and what comes after it (`policy.py`, lines 11–17). -/
def standingFrom (policy : QuorumPolicy) :
    List (List RecoveryWitness) → List Outcome → ℕ → Standing
  | [], outcomes, passClusters =>
    if policy.minIndependentClusters ≤ passClusters then .partialAlive
    else if outcomes ≠ [] ∧ ∀ value ∈ outcomes, value = .unsupported then .unsupported
    else .unknown
  | cluster :: clusters, outcomes, passClusters =>
    let values := (cluster.map (·.outcome)).dedup
    if .fail ∈ values then .buildBroken
    else standingFrom policy clusters (outcomes ++ values)
      (if values = [.pass] ∧ ∀ w ∈ cluster, w.scope = policy.requiredScope then passClusters + 1
        else passClusters)

/-- `standing_for` (`policy.py`, lines 8–17). -/
def standingFor (clusters : List (List RecoveryWitness)) (policy : QuorumPolicy)
    (blockers : List String) : Standing :=
  if blockers ≠ [] then .blocked else standingFrom policy clusters [] 0

/-! ## Correlation -/

/-- Two witnesses are taken together: they are one piece of evidence, or they are declared to be,
or nothing declares them independent and one derives from the other or they share a source. -/
def Correlate (a b : RecoveryWitness) : Prop :=
  a.evidenceId = b.evidenceId ∨
  independence.explicit a.evidenceId b.evidenceId = some .correlated ∨
  independence.explicit a.evidenceId b.evidenceId = some .sameEvidence ∨
  independence.explicit a.evidenceId b.evidenceId ≠ some .independent ∧
    (TransGen provenance.edges.Step a.evidenceId b.evidenceId ∨
      TransGen provenance.edges.Step b.evidenceId a.evidenceId ∨
      sharesSource a.source b.source = true)

variable {order independence provenance} {a b w : RecoveryWitness}
  {witnesses others cluster : List RecoveryWitness}

theorem explicit_comm (x y : String) : independence.explicit x y = independence.explicit y x := by
  unfold IndependenceEvidence.explicit
  congr 2
  funext pair
  simp only [or_comm]

theorem sharesSource_comm (x y : EvidenceSource) : sharesSource x y = sharesSource y x := by
  unfold sharesSource
  simp only [eq_comm]

theorem correlate_comm :
    Correlate independence provenance a b ↔ Correlate independence provenance b a := by
  unfold Correlate
  rw [explicit_comm b.evidenceId, sharesSource_comm b.source, @eq_comm _ b.evidenceId]
  rw [or_left_comm (a := TransGen _ b.evidenceId a.evidenceId)]

/-- The code takes together what correlates. -/
theorem related_iff (horder : ∀ list : List String, (order list).Perm list) :
    related order independence provenance a b = true ↔ Correlate independence provenance a b := by
  have hderives : ∀ x y, provenance.derives order x y = true ↔
      TransGen provenance.edges.Step x y := fun x y => Edges.leads_iff horder
  have hattributes : ∀ d d' s : Bool, (if d || d' then EvidenceRelation.correlated
      else if s then .correlated else .unknown) ∈ [EvidenceRelation.sameEvidence, .correlated] ↔
        d = true ∨ d' = true ∨ s = true := by
    decide
  unfold related relation Correlate
  by_cases hid : a.evidenceId = b.evidenceId
  · simp [hid]
  · cases hexplicit : independence.explicit a.evidenceId b.evidenceId with
    | none =>
      rw [if_neg hid]
      refine decide_eq_true_iff.trans ((hattributes _ _ _).trans ?_)
      simp [hid, hderives]
    | some value =>
      cases value with
      | sameEvidence => simp [hid]
      | correlated => simp [hid]
      | independent => simp [hid]
      | unknown =>
        rw [if_neg hid]
        refine decide_eq_true_iff.trans ((hattributes _ _ _).trans ?_)
        simp [hid, hderives]

theorem related_comm (horder : ∀ list : List String, (order list).Perm list)
    (a b : RecoveryWitness) :
    related order independence provenance a b = related order independence provenance b a := by
  rw [Bool.eq_iff_iff, related_iff horder, related_iff horder, correlate_comm]

/-! ## Clusters -/

theorem mem_sortedById : w ∈ sortedById cluster ↔ w ∈ cluster :=
  (List.perm_insertionSort _ _).mem_iff

/-- Records with distinct ids are told apart by them. -/
theorem eq_of_evidenceId (hdistinct : (witnesses.map (·.evidenceId)).Nodup) (ha : a ∈ witnesses)
    (hb : b ∈ witnesses) (h : a.evidenceId = b.evidenceId) : a = b :=
  List.inj_on_of_nodup_map hdistinct ha hb h

/-- The clusters are the components, each sorted by the ids. -/
theorem mem_correlatedClusters (horder : ∀ list : List String, (order list).Perm list)
    (hdistinct : (witnesses.map (·.evidenceId)).Nodup) :
    cluster ∈ correlatedClusters order independence provenance witnesses ↔
      ∃ a ∈ witnesses,
        cluster = sortedById (component (related order independence provenance) witnesses a) := by
  have hmem : ∀ group, group ∈ (classes (related order independence provenance)
      witnesses).insertionSort (fun g h => minId g ≤ minId h) ↔
        ∃ a ∈ witnesses, group = component (related order independence provenance) witnesses a := by
    intro group
    rw [(List.perm_insertionSort _ _).mem_iff]
    exact mem_classes (related_comm horder) hdistinct.of_map
  rw [correlatedClusters, List.mem_map]
  simp only [hmem]
  constructor
  · rintro ⟨_, ⟨a, ha, rfl⟩, rfl⟩
    exact ⟨a, ha, rfl⟩
  · rintro ⟨a, ha, rfl⟩
    exact ⟨_, ⟨a, ha, rfl⟩, rfl⟩

/-- Every witness is in one cluster, once. -/
theorem perm_correlatedClusters :
    (correlatedClusters order independence provenance witnesses).flatten.Perm witnesses := by
  have hsorted : ∀ groups : List (List RecoveryWitness),
      (groups.map sortedById).flatten.Perm groups.flatten := by
    intro groups
    induction groups with
    | nil => exact List.Perm.refl _
    | cons group groups ih => exact (List.perm_insertionSort _ _).append ih
  have hclasses := List.perm_insertionSort (fun g h => minId g ≤ minId h)
    (classes (related order independence provenance) witnesses)
  exact (hsorted _).trans (hclasses.flatten.trans perm_flatten_classes)

theorem exists_minId (hne : cluster ≠ []) : ∃ w ∈ cluster, w.evidenceId = minId cluster := by
  have hids : cluster.map (·.evidenceId) ≠ [] := mt List.map_eq_nil_iff.mp hne
  obtain ⟨id, hid⟩ := Option.ne_none_iff_exists'.mp (mt List.min?_eq_none_iff.mp hids)
  obtain ⟨w, hw, hsame⟩ := List.mem_map.mp (List.min?_mem hid)
  exact ⟨w, hw, by rw [minId, hid, hsame]; rfl⟩

theorem minId_sortedById : minId (sortedById cluster) = minId cluster := by
  have hperm : ((sortedById cluster).map (·.evidenceId)).Perm (cluster.map (·.evidenceId)) :=
    (List.perm_insertionSort _ _).map _
  unfold minId
  cases hmin : (cluster.map (·.evidenceId)).min? with
  | none =>
    rw [List.min?_eq_none_iff] at hmin
    rw [hmin] at hperm
    rw [hperm.eq_nil]
    rfl
  | some id =>
    rw [List.min?_eq_some_iff] at hmin
    have hsorted : ((sortedById cluster).map (·.evidenceId)).min? = some id := by
      rw [List.min?_eq_some_iff]
      exact ⟨hperm.mem_iff.mpr hmin.1, fun b hb => hmin.2 b (hperm.mem_iff.mp hb)⟩
    rw [hsorted]

/-- Records with distinct ids are sorted alike in any order. -/
theorem sortedById_eq_of_perm (hdistinct : (witnesses.map (·.evidenceId)).Nodup)
    {first second : List RecoveryWitness} (hsub : first ⊆ witnesses) (h : first.Perm second) :
    sortedById first = sortedById second :=
  insertionSort_eq_of_perm h fun _ ha _ hb => eq_of_evidenceId hdistinct (hsub ha) (hsub hb)

theorem cluster_subset (hcluster : cluster ∈ correlatedClusters order independence provenance
    witnesses) : cluster ⊆ witnesses := by
  intro w hw
  exact perm_correlatedClusters.mem_iff.mp (List.mem_flatten.mpr ⟨cluster, hcluster, hw⟩)

section Distinct

variable (horder : ∀ list : List String, (order list).Perm list)
  (hdistinct : (witnesses.map (·.evidenceId)).Nodup)

include horder hdistinct

/-- The cluster of a witness. -/
theorem mem_cluster_iff {a : RecoveryWitness} (ha : a ∈ witnesses)
    (hcluster : cluster ∈ correlatedClusters order independence provenance witnesses) :
    a ∈ cluster ↔
      cluster = sortedById (component (related order independence provenance) witnesses a) := by
  obtain ⟨b, hb, rfl⟩ := (mem_correlatedClusters horder hdistinct).mp hcluster
  rw [mem_sortedById, mem_component]
  constructor
  · rintro ⟨-, hconnected⟩
    rw [component_eq hconnected]
  · intro hsame
    have hself : a ∈ sortedById (component (related order independence provenance) witnesses a) :=
      mem_sortedById.mpr (mem_component_self ha)
    rw [← hsame, mem_sortedById] at hself
    exact mem_component.mp hself

theorem cluster_ne_nil (hcluster : cluster ∈ correlatedClusters order independence provenance
    witnesses) : cluster ≠ [] := by
  obtain ⟨a, ha, rfl⟩ := (mem_correlatedClusters horder hdistinct).mp hcluster
  exact List.ne_nil_of_mem (mem_sortedById.mpr (mem_component_self ha))

/-- Clusters with a common witness are the same. -/
theorem cluster_eq {other : List RecoveryWitness}
    (hcluster : cluster ∈ correlatedClusters order independence provenance witnesses)
    (hother : other ∈ correlatedClusters order independence provenance witnesses)
    (hw : w ∈ cluster) (hw' : w ∈ other) : cluster = other := by
  have hin := cluster_subset hcluster hw
  rw [(mem_cluster_iff horder hdistinct hin hcluster).mp hw,
    (mem_cluster_iff horder hdistinct hin hother).mp hw']

theorem nodup_correlatedClusters :
    (correlatedClusters order independence provenance witnesses).Nodup := by
  have hflat : (correlatedClusters order independence provenance witnesses).flatten.Nodup :=
    perm_correlatedClusters.nodup_iff.mpr hdistinct.of_map
  refine (List.nodup_flatten.mp hflat).2.imp_of_mem fun hcluster _ hdisjoint hsame => ?_
  obtain ⟨w, hw⟩ := List.exists_mem_of_ne_nil _ (cluster_ne_nil horder hdistinct hcluster)
  exact hdisjoint hw (hsame ▸ hw)

/-- The order of the witnesses does not matter. -/
theorem correlatedClusters_perm (h : others.Perm witnesses) :
    correlatedClusters order independence provenance others =
      correlatedClusters order independence provenance witnesses := by
  have hdistinct' : (others.map (·.evidenceId)).Nodup := (h.map _).nodup_iff.mpr hdistinct
  have hsorted : ∀ list, (correlatedClusters order independence provenance list).Pairwise
      fun g h => minId g ≤ minId h := by
    intro list
    rw [correlatedClusters, List.pairwise_map]
    simp only [minId_sortedById]
    exact pairwise_insertionSort_key _
  have hcomponent : ∀ a, sortedById (component (related order independence provenance) others a) =
      sortedById (component (related order independence provenance) witnesses a) := by
    intro a
    refine (sortedById_eq_of_perm hdistinct ?_ (perm_component h).symm).symm
    exact fun b hb => (mem_component.mp hb).1
  have hmem : ∀ cluster, cluster ∈ correlatedClusters order independence provenance others ↔
      cluster ∈ correlatedClusters order independence provenance witnesses := by
    intro cluster
    rw [mem_correlatedClusters horder hdistinct, mem_correlatedClusters horder hdistinct']
    simp only [h.mem_iff, hcomponent]
  refine List.Perm.eq_of_pairwise ?_ (hsorted others) (hsorted witnesses)
    ((List.perm_ext_iff_of_nodup (nodup_correlatedClusters horder hdistinct')
      (nodup_correlatedClusters horder hdistinct)).mpr hmem)
  intro g g' hg hg' hle hge
  rw [hmem] at hg
  obtain ⟨w, hw, hid⟩ := exists_minId (cluster_ne_nil horder hdistinct hg)
  obtain ⟨w', hw', hid'⟩ := exists_minId (cluster_ne_nil horder hdistinct hg')
  have hsame : w = w' := eq_of_evidenceId hdistinct (cluster_subset hg hw)
    (cluster_subset hg' hw') (by rw [hid, hid', le_antisymm hle hge])
  exact cluster_eq horder hdistinct hg hg' hw (hsame ▸ hw')

end Distinct

/-! ## Standing -/

/-- All witnesses pass, in the scope that is required. -/
def Passing (policy : QuorumPolicy) (w : RecoveryWitness) : Prop :=
  w.outcome = .pass ∧ w.scope = policy.requiredScope

instance (policy : QuorumPolicy) : DecidablePred (Passing policy) :=
  fun w => inferInstanceAs (Decidable (w.outcome = .pass ∧ w.scope = policy.requiredScope))

theorem dedup_eq_singleton {α : Type*} [DecidableEq α] {a : α} {l : List α} (hne : l ≠ []) :
    l.dedup = [a] ↔ ∀ x ∈ l, x = a := by
  constructor
  · intro h x hx
    rw [← List.mem_dedup, h] at hx
    exact List.mem_singleton.mp hx
  · intro h
    have hrep : l = List.replicate l.length a := List.eq_replicate_iff.mpr ⟨rfl, h⟩
    rw [hrep]
    exact List.replicate_dedup (mt List.length_eq_zero_iff.mp hne)

theorem standingFrom_iff {policy : QuorumPolicy} {clusters : List (List RecoveryWitness)}
    (hne : ∀ cluster ∈ clusters, cluster ≠ []) {outcomes : List Outcome} {passClusters : ℕ} :
    standingFrom policy clusters outcomes passClusters = .partialAlive ↔
      (∀ cluster ∈ clusters, ∀ w ∈ cluster, w.outcome ≠ .fail) ∧
        policy.minIndependentClusters ≤
          passClusters + clusters.countP fun cluster => ∀ w ∈ cluster, Passing policy w := by
  induction clusters generalizing outcomes passClusters with
  | nil =>
    rw [standingFrom]
    split_ifs with henough hunsupported
    · simpa using henough
    · simpa using henough
    · simpa using henough
  | cons cluster clusters ih =>
    obtain ⟨hcluster, hne⟩ := List.forall_mem_cons.mp hne
    have hfail : .fail ∈ (cluster.map (·.outcome)).dedup ↔ ∃ w ∈ cluster, w.outcome = .fail := by
      rw [List.mem_dedup, List.mem_map]
    have hpass : ((cluster.map (·.outcome)).dedup = [.pass] ∧
        ∀ w ∈ cluster, w.scope = policy.requiredScope) ↔ ∀ w ∈ cluster, Passing policy w := by
      rw [dedup_eq_singleton (mt List.map_eq_nil_iff.mp hcluster), List.forall_mem_map]
      exact ⟨fun h w hw => ⟨h.1 w hw, h.2 w hw⟩, fun h => ⟨fun w hw => (h w hw).1,
        fun w hw => (h w hw).2⟩⟩
    simp only [standingFrom, hfail, hpass]
    split_ifs with hbroken hall
    · obtain ⟨w, hw, houtcome⟩ := hbroken
      refine iff_of_false (by decide) fun h => ?_
      exact h.1 cluster List.mem_cons_self w hw houtcome
    · push Not at hbroken
      have hcount := List.countP_cons (p := fun cluster => ∀ w ∈ cluster, Passing policy w)
        (a := cluster) (l := clusters)
      rw [if_pos (decide_eq_true hall)] at hcount
      rw [ih hne, List.forall_mem_cons, and_iff_right hbroken, hcount, Nat.add_assoc,
        Nat.add_comm 1]
    · push Not at hbroken
      have hcount := List.countP_cons (p := fun cluster => ∀ w ∈ cluster, Passing policy w)
        (a := cluster) (l := clusters)
      rw [if_neg (by simpa using hall), Nat.add_zero] at hcount
      rw [ih hne, List.forall_mem_cons, and_iff_right hbroken, hcount]

/-! ## Components -/

/-- The connected components of the witnesses, under correlation. -/
def components (independence : IndependenceEvidence) (provenance : ProvenanceGraph)
    (witnesses : List RecoveryWitness) : Set (Set RecoveryWitness) :=
  {c | ∃ a ∈ witnesses, c = {b | b ∈ witnesses ∧ EqvGen (fun x y => x ∈ witnesses ∧
    y ∈ witnesses ∧ Correlate independence provenance x y) a b}}

/-- The clusters are the components, whatever the order of the witnesses, and a partial life takes
enough components that pass, no failure and no blocker. -/
structure QuorumExact (order : List String → List String) (independence : IndependenceEvidence)
    (provenance : ProvenanceGraph) (witnesses : List RecoveryWitness) : Prop where
  parted : (correlatedClusters order independence provenance witnesses).flatten.Perm witnesses
  connected : ∀ c, c ∈ components independence provenance witnesses ↔
    ∃ cluster ∈ correlatedClusters order independence provenance witnesses,
      c = {w | w ∈ cluster}
  unordered : ∀ others : List RecoveryWitness, others.Perm witnesses →
    correlatedClusters order independence provenance others =
      correlatedClusters order independence provenance witnesses
  standing : ∀ (policy : QuorumPolicy) (blockers : List String),
    standingFor (correlatedClusters order independence provenance witnesses) policy blockers =
        .partialAlive ↔
      blockers = [] ∧ (∀ w ∈ witnesses, w.outcome ≠ .fail) ∧ policy.minIndependentClusters ≤
        {c ∈ components independence provenance witnesses | ∀ w ∈ c, Passing policy w}.ncard

theorem mem_components (horder : ∀ list : List String, (order list).Perm list)
    (hdistinct : (witnesses.map (·.evidenceId)).Nodup) (c : Set RecoveryWitness) :
    c ∈ components independence provenance witnesses ↔
      ∃ cluster ∈ correlatedClusters order independence provenance witnesses,
        c = {w | w ∈ cluster} := by
  have hset : ∀ a, {b | b ∈ witnesses ∧ EqvGen (fun x y => x ∈ witnesses ∧ y ∈ witnesses ∧
      Correlate independence provenance x y) a b} =
        {w | w ∈ sortedById (component (related order independence provenance) witnesses a)} := by
    intro a
    ext b
    rw [Set.mem_ofPred_eq, Set.mem_ofPred_eq, mem_sortedById, mem_component, Connected]
    simp only [related_iff horder]
  constructor
  · rintro ⟨a, ha, rfl⟩
    exact ⟨_, (mem_correlatedClusters horder hdistinct).mpr ⟨a, ha, rfl⟩, hset a⟩
  · rintro ⟨cluster, hcluster, rfl⟩
    obtain ⟨a, ha, rfl⟩ := (mem_correlatedClusters horder hdistinct).mp hcluster
    exact ⟨a, ha, (hset a).symm⟩

/-- As many components pass as clusters do. -/
theorem ncard_passing (horder : ∀ list : List String, (order list).Perm list)
    (hdistinct : (witnesses.map (·.evidenceId)).Nodup) (policy : QuorumPolicy) :
    {c ∈ components independence provenance witnesses | ∀ w ∈ c, Passing policy w}.ncard =
      (correlatedClusters order independence provenance witnesses).countP
        fun cluster => ∀ w ∈ cluster, Passing policy w := by
  let clusters := correlatedClusters order independence provenance witnesses
  let passing := clusters.filter fun cluster => ∀ w ∈ cluster, Passing policy w
  have himage : {c ∈ components independence provenance witnesses | ∀ w ∈ c, Passing policy w} =
      (fun cluster => {w | w ∈ cluster}) '' (passing.toFinset : Set (List RecoveryWitness)) := by
    ext c
    rw [Set.mem_ofPred_eq, mem_components horder hdistinct, Set.mem_image]
    constructor
    · rintro ⟨⟨cluster, hcluster, rfl⟩, hpass⟩
      refine ⟨cluster, ?_, rfl⟩
      rw [List.coe_toFinset, Set.mem_ofPred_eq, List.mem_filter]
      exact ⟨hcluster, decide_eq_true hpass⟩
    · rintro ⟨cluster, hcluster, rfl⟩
      rw [List.coe_toFinset, Set.mem_ofPred_eq, List.mem_filter] at hcluster
      have hpass : ∀ w ∈ cluster, Passing policy w := of_decide_eq_true hcluster.2
      exact ⟨⟨cluster, hcluster.1, rfl⟩, hpass⟩
  have hinj : Set.InjOn (fun cluster : List RecoveryWitness => {w | w ∈ cluster})
      (passing.toFinset : Set (List RecoveryWitness)) := by
    intro g hg h hh hsame
    rw [List.coe_toFinset, Set.mem_ofPred_eq, List.mem_filter] at hg hh
    obtain ⟨w, hw⟩ := List.exists_mem_of_ne_nil _ (cluster_ne_nil horder hdistinct hg.1)
    have hw' : w ∈ h := (Set.ext_iff.mp hsame w).mp hw
    exact cluster_eq horder hdistinct hg.1 hh.1 hw hw'
  rw [himage, hinj.ncard_image, Set.ncard_coe_finset, List.toFinset_card_of_nodup,
    ← List.countP_eq_length_filter]
  exact (nodup_correlatedClusters horder hdistinct).filter _

/-- The clusters and the standing are exact. -/
theorem quorum_exact (order : List String → List String) (independence : IndependenceEvidence)
    (provenance : ProvenanceGraph) (witnesses : List RecoveryWitness)
    (horder : ∀ list : List String, (order list).Perm list)
    (hdistinct : (witnesses.map (·.evidenceId)).Nodup) :
    QuorumExact order independence provenance witnesses where
  parted := perm_correlatedClusters
  connected := mem_components horder hdistinct
  unordered _ h := correlatedClusters_perm horder hdistinct h
  standing policy blockers := by
    have hflat : (∀ cluster ∈ correlatedClusters order independence provenance witnesses,
        ∀ w ∈ cluster, w.outcome ≠ .fail) ↔ ∀ w ∈ witnesses, w.outcome ≠ .fail := by
      constructor
      · intro h w hw
        obtain ⟨cluster, hcluster, hin⟩ :=
          List.mem_flatten.mp (perm_correlatedClusters.mem_iff.mpr hw)
        exact h cluster hcluster w hin
      · exact fun h cluster hcluster w hw => h w (cluster_subset hcluster hw)
    rw [ncard_passing horder hdistinct, standingFor]
    split_ifs with hblocked
    · exact iff_of_false (by decide) fun h => hblocked h.1
    · rw [standingFrom_iff fun cluster => cluster_ne_nil horder hdistinct, Nat.zero_add, hflat,
        and_iff_right (not_not.mp hblocked)]

/-! ## Two witnesses -/

/-- A witness of some run of a producer. -/
def witnessOf (producer runId : String) (hproducer : producer ≠ "") (hrun : runId ≠ "") :
    RecoveryWitness where
  attemptId := "attempt"
  source :=
    { producer, runId, artifactId := runId, family := producer,
      complete := ⟨hproducer, hrun, hrun, hproducer⟩ }
  evidenceId := runId
  outcome := .pass
  scope := "REPOSITORY"
  observedAt := 0
  named := ⟨by decide, hrun, by decide⟩

/-- Nothing derives from anything. -/
def noProvenance : ProvenanceGraph where
  edges := []
  acyclic _ h := by
    obtain ⟨_, hstep, -⟩ := TransGen.head'_iff.mp h
    exact List.not_mem_nil hstep

theorem quorum_of_two : QuorumExact id ⟨[]⟩ noProvenance
    [witnessOf "ci" "1" (by decide) (by decide), witnessOf "lab" "2" (by decide) (by decide)] :=
  quorum_exact _ _ _ _ (fun _ => List.Perm.refl _) (by decide)

end ChatmanEcosystem.ReleaseTrain.RecoveryQuorum
