import ChatmanEcosystem.Common.StableSort
import ChatmanEcosystem.RootCrown.Berthier

/-!
# The campaign compiler

Model of `judge_campaign_candidate` and `select_campaign`
(`scripts/release_train/root_crown/berthier.py`, lines 340–452 and 550–632). A
verdict is looked up by the id of its candidate, and of two verdicts for one id
the later one counts.

Results:

* `mem_eligible_iff`: which candidates `select_campaign` chooses from.
* `standsAlone_iff`: for which candidates the choice is the preferred one among those
  that are judged alive themselves, in whatever order they come.
-/

namespace ChatmanEcosystem.RootCrown

open Common Py Rust

/-! ## Data -/

/-- `class Doctrine`. -/
structure Doctrine where
  subject : String
  premiseDigests : Digests
  invariants : List String
  requiredCapabilities : List String
  authorityCeiling : String
  deriving DecidableEq

/-- `class StrategyPartition`. -/
structure StrategyPartition where
  strategyId : String
  strategy : String
  doctrineDigest : String
  localPremiseDigests : Digests
  localConstraints : List String
  deriving DecidableEq

/-- `class CampaignCandidate`. -/
structure CampaignCandidate where
  candidateId : String
  subject : String
  strategyId : String
  doctrineDigest : String
  partitionDigest : String
  invariants : List String
  capabilities : List String
  actions : List String
  falsifier : String
  objectives : List (String × PyFloat)
  authorityCeiling : String
  observedPartitionDigests : List String
  deriving DecidableEq

/-- `class CampaignVerdict`. -/
structure CampaignVerdict where
  standing : String
  candidateId : String
  refusals : List String
  objectives : List (String × PyFloat)
  deriving DecidableEq, Inhabited

/-- `class CampaignSelection`. -/
structure CampaignSelection where
  candidateId : String
  candidateDigest : String
  objective : String
  value : PyFloat
  maximize : Bool
  deriving DecidableEq

/-- A sorted list of texts. -/
def textList (texts : List String) : Value := .list ((sorted texts).map .str)

/-- `dict(sorted(pairs))`, for pairs of texts. -/
def textDict (pairs : Digests) : Value :=
  let rows := pairs.insertionSort fun a b => a.1 < b.1 ∨ a.1 = b.1 ∧ a.2 ≤ b.2
  .dict ((ofPairs rows).map fun item => (item.1, .str item.2))

/-- `dict(sorted(pairs))`, for numbers with a name each. -/
def numberDict (pairs : List (String × PyFloat)) : Value :=
  let rows := pairs.insertionSort fun a b => a.1 < b.1 ∨ a.1 = b.1 ∧ Value.numberLe a.2 b.2
  .dict ((ofPairs rows).map fun item => (item.1, .float item.2))

/-- `compiled_digest` (lines 347–358). -/
def Doctrine.compiledDigest (py : PyRuntime) (doctrine : Doctrine) : Outcome String :=
  canonicalDigest py (.dict [("subject", .str doctrine.subject),
    ("premise_digests", textDict doctrine.premiseDigests),
    ("invariants", textList doctrine.invariants),
    ("required_capabilities", textList doctrine.requiredCapabilities),
    ("authority_ceiling", .str doctrine.authorityCeiling)])

/-- `partition_digest` (lines 369–380). -/
def StrategyPartition.partitionDigest (py : PyRuntime) (partition : StrategyPartition) :
    Outcome String :=
  canonicalDigest py (.dict [("strategy_id", .str partition.strategyId),
    ("strategy", .str partition.strategy), ("doctrine_digest", .str partition.doctrineDigest),
    ("local_premise_digests", textDict partition.localPremiseDigests),
    ("local_constraints", textList partition.localConstraints)])

namespace CampaignCandidate

/-- `candidate_digest` (lines 399–416). -/
def candidateDigest (py : PyRuntime) (candidate : CampaignCandidate) : Outcome String :=
  canonicalDigest py (.dict [("candidate_id", .str candidate.candidateId),
    ("subject", .str candidate.subject), ("strategy_id", .str candidate.strategyId),
    ("doctrine_digest", .str candidate.doctrineDigest),
    ("partition_digest", .str candidate.partitionDigest),
    ("invariants", textList candidate.invariants),
    ("capabilities", textList candidate.capabilities),
    ("actions", .list (candidate.actions.map .str)), ("falsifier", .str candidate.falsifier),
    ("objectives", numberDict candidate.objectives),
    ("authority_ceiling", .str candidate.authorityCeiling),
    ("observed_partition_digests", textList candidate.observedPartitionDigests)])

/-- `objective` (lines 418–419). -/
def objective (candidate : CampaignCandidate) (name : String) : Option PyFloat :=
  (ofPairs candidate.objectives).lookup name

/-- The value of an objective, if it is finite. -/
def finite (candidate : CampaignCandidate) (name : String) : Option ℚ :=
  match candidate.objective name with
  | some (.finite value) => some value
  | _ => none

end CampaignCandidate

/-! ## The court -/

/-- `CAMPAIGN_ALLOWED_ACTIONS`. -/
def campaignAllowedActions : List String :=
  ["OBSERVE", "SELECT", "DECOMPOSE", "ROUTE", "CONSTRUCT", "VERIFY"]

/-- `_campaign_refusal` (lines 456–457). -/
def campaignRefusal (code detail : String) : String := "REFUSED:" ++ code ++ ":" ++ detail

/-- A refusal that is issued under a condition. -/
def refusalIf (condition : Bool) (code detail : String) : List String :=
  if condition then [campaignRefusal code detail] else []

/-- The refusals of one local premise (lines 579–583). -/
def premiseRefusals (strategyId : String) (current : Digests) (premise : String × String) :
    List String :=
  match current.lookup premise.1 with
  | none => [campaignRefusal "PREMISE_UNBOUND" (strategyId ++ ":" ++ premise.1)]
  | some value =>
    refusalIf (value ≠ premise.2) "STALE_PROJECTION" (strategyId ++ ":" ++ premise.1)

/-- A number that `math.isfinite` accepts. -/
def isFinite : PyFloat → Bool
  | .finite _ => true
  | _ => false

/-- The refusals of a candidate (lines 562–599), with the digests of the doctrine and of the
partition. -/
def candidateRefusals (doctrine : Doctrine) (partition : StrategyPartition)
    (candidate : CampaignCandidate) (current : Option Digests) (compiled isolated : String) :
    List String :=
  let illegal := sortedTexts (candidate.actions.filter (· ∉ campaignAllowedActions))
  refusalIf (partition.doctrineDigest ≠ compiled) "CONSTRAINT_WEAKENING"
      "partition-doctrine-digest" ++
    refusalIf (candidate.doctrineDigest ≠ compiled) "CONSTRAINT_WEAKENING"
      "candidate-doctrine-digest" ++
    refusalIf (!doctrine.invariants.all (· ∈ candidate.invariants)) "CONSTRAINT_WEAKENING"
      "invariant-removed" ++
    refusalIf (candidate.strategyId ≠ partition.strategyId) "CROSS_PARTITION_CONTAMINATION"
      "strategy-id" ++
    refusalIf (candidate.partitionDigest ≠ isolated) "CROSS_PARTITION_CONTAMINATION"
      "partition-digest" ++
    refusalIf (candidate.observedPartitionDigests.isEmpty ||
      !candidate.observedPartitionDigests.all (· = isolated)) "CROSS_PARTITION_CONTAMINATION"
      "observed-partitions" ++
    ((current.map fun current => partition.localPremiseDigests.flatMap
      (premiseRefusals partition.strategyId current)).getD []) ++
    refusalIf (candidate.subject ≠ doctrine.subject) "STRATEGY_UNBOUNDED" "subject" ++
    refusalIf (candidate.candidateId = "" || candidate.falsifier = "" ||
      candidate.actions.isEmpty || candidate.objectives.isEmpty) "STRATEGY_UNBOUNDED"
      "missing-bound" ++
    refusalIf (!doctrine.requiredCapabilities.all (· ∈ candidate.capabilities))
      "STRATEGY_UNBOUNDED" "capability-gap" ++
    refusalIf (!illegal.isEmpty) "STRATEGY_UNBOUNDED" ("actions=" ++ ",".intercalate illegal) ++
    refusalIf (candidate.objectives.any fun item => item.1 = "" || !isFinite item.2)
      "STRATEGY_UNBOUNDED" "objective" ++
    refusalIf ((requireAuthority candidate.authorityCeiling).toOption.isNone)
      "AUTHORITY_INCREASE" candidate.authorityCeiling ++
    refusalIf (candidate.authorityCeiling ≠ doctrine.authorityCeiling) "AUTHORITY_INCREASE"
      candidate.authorityCeiling

/-- `judge_campaign_candidate` (lines 550–610). -/
def judgeCampaignCandidate (py : PyRuntime) (doctrine : Doctrine) (partition : StrategyPartition)
    (candidate : CampaignCandidate) (current : Option Digests) : Outcome CampaignVerdict := do
  let compiled ← doctrine.compiledDigest py
  let isolated ← partition.partitionDigest py
  let refusals := sortedTexts (candidateRefusals doctrine partition candidate current compiled
    isolated)
  return { standing := if refusals = [] then "ALIVE" else "REFUSED"
           candidateId := candidate.candidateId, refusals, objectives := candidate.objectives }

/-! ## The choice -/

/-- `by_id` (line 621). -/
def byId (verdicts : List CampaignVerdict) : List (String × CampaignVerdict) :=
  ofPairs (verdicts.map fun verdict => (verdict.candidateId, verdict))

/-- A candidate whose id is alive, with the value of its objective (lines 624–627). -/
def eligibleRow (verdicts : List CampaignVerdict) (objective : String)
    (candidate : CampaignCandidate) : Option (ℚ × CampaignCandidate) :=
  match (byId verdicts).lookup candidate.candidateId with
  | none => none
  | some verdict =>
    if verdict.standing = "ALIVE" then
      (candidate.finite objective).map fun value => (value, candidate)
    else none

/-- What the rows are sorted by (line 630). -/
def sortKey (maximize : Bool) (row : ℚ × CampaignCandidate) : ℚ ×ₗ String :=
  toLex (if maximize then -row.1 else row.1, row.2.candidateId)

/-- The first of the sorted rows (lines 622–631). -/
def firstEligible (candidates : List CampaignCandidate) (verdicts : List CampaignVerdict)
    (objective : String) (maximize : Bool) : Option (ℚ × CampaignCandidate) :=
  ((candidates.filterMap (eligibleRow verdicts objective)).mergeSort fun a b =>
    sortKey maximize a ≤ sortKey maximize b).head?

/-- `select_campaign` (lines 613–632). -/
def selectCampaign (py : PyRuntime) (candidates : List CampaignCandidate)
    (verdicts : List CampaignVerdict) (objective : String) (maximize : Bool) :
    Outcome (Option CampaignSelection) :=
  match firstEligible candidates verdicts objective maximize with
  | none => .ok none
  | some (value, candidate) => do
    let candidateDigest ← candidate.candidateDigest py
    return some { candidateId := candidate.candidateId, candidateDigest, objective
                  value := .finite value, maximize }

/-! ## What is eligible -/

theorem sortKey_le_trans (maximize : Bool) (a b c : ℚ × CampaignCandidate)
    (hab : decide (sortKey maximize a ≤ sortKey maximize b) = true)
    (hbc : decide (sortKey maximize b ≤ sortKey maximize c) = true) :
    decide (sortKey maximize a ≤ sortKey maximize c) = true := by
  rw [decide_eq_true_iff] at *
  exact le_trans hab hbc

theorem sortKey_le_total (maximize : Bool) (a b : ℚ × CampaignCandidate) :
    (decide (sortKey maximize a ≤ sortKey maximize b) ||
      decide (sortKey maximize b ≤ sortKey maximize a)) = true := by
  rw [Bool.or_eq_true, decide_eq_true_iff, decide_eq_true_iff]
  exact le_total _ _

/-- Rows with the same key have the same value and the same id. -/
theorem sortKey_inj {maximize : Bool} {a b : ℚ × CampaignCandidate}
    (h : sortKey maximize a = sortKey maximize b) :
    a.1 = b.1 ∧ a.2.candidateId = b.2.candidateId := by
  obtain ⟨hvalue, hid⟩ := Prod.mk.inj (toLex_inj.mp h)
  refine ⟨?_, hid⟩
  cases maximize with
  | false => exact hvalue
  | true => exact neg_inj.mp hvalue

section Court

variable {verdictOf : CampaignCandidate → CampaignVerdict} {objective : String}
  {order : List CampaignCandidate} {candidate : CampaignCandidate} {id : String}

/-- The verdict under an id is the one of the last candidate with this id. -/
theorem lookup_byId_concat (hid : ∀ candidate, (verdictOf candidate).candidateId =
    candidate.candidateId) (order : List CampaignCandidate) (candidate : CampaignCandidate) :
    (byId ((order ++ [candidate]).map verdictOf)).lookup candidate.candidateId =
      some (verdictOf candidate) := by
  rw [byId, lookup_ofPairs, List.map_append, List.map_append, List.reverse_append]
  simp [hid]

theorem exists_of_lookup_byId (hid : ∀ candidate, (verdictOf candidate).candidateId =
    candidate.candidateId) {verdict : CampaignVerdict}
    (h : (byId (order.map verdictOf)).lookup id = some verdict) :
    ∃ candidate ∈ order, candidate.candidateId = id ∧ verdictOf candidate = verdict := by
  rw [byId, lookup_ofPairs] at h
  obtain ⟨pre, post, hsplit, -⟩ := List.lookup_eq_some_iff.mp h
  have hmem : (id, verdict) ∈ ((order.map verdictOf).map fun verdict =>
      (verdict.candidateId, verdict)).reverse := by
    rw [hsplit]
    simp
  rw [List.mem_reverse, List.map_map] at hmem
  obtain ⟨candidate, hcandidate, heq⟩ := List.mem_map.mp hmem
  obtain ⟨rfl, rfl⟩ := Prod.mk.inj heq
  exact ⟨candidate, hcandidate, (hid candidate).symm, rfl⟩

theorem lookup_byId_isSome (hid : ∀ candidate, (verdictOf candidate).candidateId =
    candidate.candidateId) (h : candidate ∈ order) :
    ∃ verdict, (byId (order.map verdictOf)).lookup candidate.candidateId = some verdict := by
  rw [byId, lookup_ofPairs, ← Option.isSome_iff_exists, Option.isSome_iff_ne_none, Ne,
    List.lookup_eq_none_iff]
  intro hnone
  have hne := hnone (candidate.candidateId, verdictOf candidate) (by
    rw [List.mem_reverse, List.map_map, List.mem_map]
    exact ⟨candidate, h, by simp [hid]⟩)
  simp at hne

variable {row : ℚ × CampaignCandidate}

/-- What `select_campaign` chooses from: the candidates with a finite value whose id is alive. -/
theorem mem_eligible_iff :
    row ∈ order.filterMap (eligibleRow (order.map verdictOf) objective) ↔
      row.2 ∈ order ∧ row.2.finite objective = some row.1 ∧
        ∃ verdict, (byId (order.map verdictOf)).lookup row.2.candidateId = some verdict ∧
          verdict.standing = "ALIVE" := by
  rw [List.mem_filterMap]
  constructor
  · rintro ⟨candidate, hmem, hrow⟩
    rw [eligibleRow] at hrow
    cases hlookup : (byId (order.map verdictOf)).lookup candidate.candidateId with
    | none =>
      rw [hlookup] at hrow
      cases hrow
    | some verdict =>
      simp only [hlookup] at hrow
      split_ifs at hrow with hstanding
      obtain ⟨value, hvalue, rfl⟩ := Option.map_eq_some_iff.mp hrow
      exact ⟨hmem, hvalue, verdict, hlookup, hstanding⟩
  · rintro ⟨hmem, hvalue, verdict, hlookup, hstanding⟩
    refine ⟨row.2, hmem, ?_⟩
    simp only [eligibleRow, hlookup, if_pos hstanding, hvalue, Option.map_some]

variable {verdicts : List CampaignVerdict}

/-- The choice is a first row among the least. -/
theorem firstEligible_eq_some {maximize : Bool} :
    firstEligible order verdicts objective maximize = some row ↔
      FirstLeast (fun a b => decide (sortKey maximize a ≤ sortKey maximize b))
        (order.filterMap (eligibleRow verdicts objective)) row :=
  head?_mergeSort_eq_some (sortKey_le_trans maximize) (sortKey_le_total maximize)

theorem mem_of_firstEligible {maximize : Bool}
    (h : firstEligible order verdicts objective maximize = some row) :
    row ∈ order.filterMap (eligibleRow verdicts objective) ∧
      ∀ other ∈ order.filterMap (eligibleRow verdicts objective),
        sortKey maximize row ≤ sortKey maximize other := by
  obtain ⟨pre, post, hsplit, hpre, hpost⟩ := firstEligible_eq_some.mp h
  refine ⟨by rw [hsplit]; simp, fun other hother => ?_⟩
  rw [hsplit, List.mem_append, List.mem_cons] at hother
  rcases hother with hother | rfl | hother
  · exact (lt_of_not_ge (decide_eq_false_iff_not.mp (hpre other hother))).le
  · exact le_rfl
  · exact decide_eq_true_iff.mp (hpost other hother)

theorem firstEligible_eq_none {maximize : Bool} :
    firstEligible order verdicts objective maximize = none ↔
      order.filterMap (eligibleRow verdicts objective) = [] := head?_mergeSort_eq_none

end Court

/-! ## The preferred candidate -/

section Preferred

variable (py : PyRuntime) (doctrine : Doctrine)
  (partitionOf : CampaignCandidate → StrategyPartition) (current : Option Digests)
  (candidates : List CampaignCandidate) (objective : String) (maximize : Bool)

/-- The verdicts on the candidates, each judged with its own partition. -/
def court : Outcome (List CampaignVerdict) :=
  candidates.mapM fun candidate =>
    judgeCampaignCandidate py doctrine (partitionOf candidate) candidate current

/-- Judging this very candidate gives ALIVE. -/
def Alive (candidate : CampaignCandidate) : Prop :=
  ∃ verdict, judgeCampaignCandidate py doctrine (partitionOf candidate) candidate current =
    .ok verdict ∧ verdict.standing = "ALIVE"

/-- No candidate that is alive, with a finite value, comes before the row. -/
def Foremost (row : ℚ × CampaignCandidate) : Prop :=
  ∀ other ∈ candidates, Alive py doctrine partitionOf current other →
    ∀ value, other.finite objective = some value →
      sortKey maximize row ≤ sortKey maximize (value, other)

/-- The preferred one among the candidates that are alive, if there is one with a finite value. -/
def Preferred : Option (ℚ × CampaignCandidate) → Prop
  | none => ∀ candidate ∈ candidates, Alive py doctrine partitionOf current candidate →
      candidate.finite objective = none
  | some row => row.2 ∈ candidates ∧ Alive py doctrine partitionOf current row.2 ∧
      row.2.finite objective = some row.1 ∧
      Foremost py doctrine partitionOf current candidates objective maximize row

/-- Whatever the order of the candidates, the one that is chosen is the preferred one among those
that are alive. -/
def StandsAlone : Prop :=
  ∃ best, Preferred py doctrine partitionOf current candidates objective maximize best ∧
    ∀ order : List CampaignCandidate, order.Perm candidates →
      ∃ verdicts, court py doctrine partitionOf current order = .ok verdicts ∧
        firstEligible order verdicts objective maximize = best

/-- A candidate that no one alive comes before and that has its id in common with one that is alive
has it in common with such candidates only, and its value with none of them. -/
def Settled : Prop :=
  ∀ candidate ∈ candidates, ∀ value, candidate.finite objective = some value →
    Foremost py doctrine partitionOf current candidates objective maximize (value, candidate) →
    (∃ other ∈ candidates, other.candidateId = candidate.candidateId ∧
      Alive py doctrine partitionOf current other) →
    ∀ other ∈ candidates, other.candidateId = candidate.candidateId →
      Alive py doctrine partitionOf current other ∧
        (other.finite objective = some value → other = candidate)

/-- The verdict on a candidate that is judged. -/
def verdictOn (candidate : CampaignCandidate) : CampaignVerdict :=
  match judgeCampaignCandidate py doctrine (partitionOf candidate) candidate current with
  | .ok verdict => verdict
  | .error _ => { standing := "", candidateId := candidate.candidateId, refusals := []
                  objectives := [] }

variable {py doctrine partitionOf current candidates objective maximize}
  {order : List CampaignCandidate} {candidate : CampaignCandidate}

theorem candidateId_verdictOn (candidate : CampaignCandidate) :
    (verdictOn py doctrine partitionOf current candidate).candidateId = candidate.candidateId := by
  rw [verdictOn]
  cases hjudge : judgeCampaignCandidate py doctrine (partitionOf candidate) candidate current with
  | error error => rfl
  | ok verdict =>
    obtain ⟨_, -, h⟩ := bind_eq_ok.mp hjudge
    obtain ⟨_, -, h⟩ := bind_eq_ok.mp h
    rw [← pure_eq_ok.mp h]

theorem alive_iff_standing : Alive py doctrine partitionOf current candidate ↔
    (verdictOn py doctrine partitionOf current candidate).standing = "ALIVE" := by
  rw [Alive, verdictOn]
  cases judgeCampaignCandidate py doctrine (partitionOf candidate) candidate current with
  | error error => simp
  | ok verdict => simp

/-- The court judges the candidates in any order. -/
theorem court_of_perm (hjudged : ∀ candidate ∈ candidates, ∃ verdict,
      judgeCampaignCandidate py doctrine (partitionOf candidate) candidate current = .ok verdict)
    (horder : order.Perm candidates) : court py doctrine partitionOf current order =
      .ok (order.map (verdictOn py doctrine partitionOf current)) := by
  refine mapM_ok fun candidate hmem => ?_
  obtain ⟨verdict, hverdict⟩ := hjudged candidate (horder.mem_iff.mp hmem)
  rw [hverdict, verdictOn, hverdict]

/-- The rows to choose from, for the verdicts of the court. -/
abbrev rowsOf (py : PyRuntime) (doctrine : Doctrine)
    (partitionOf : CampaignCandidate → StrategyPartition) (current : Option Digests)
    (objective : String) (order : List CampaignCandidate) : List (ℚ × CampaignCandidate) :=
  order.filterMap (eligibleRow (order.map (verdictOn py doctrine partitionOf current)) objective)

variable {row : ℚ × CampaignCandidate}

/-- What is eligible shares its id with a candidate that is alive. -/
theorem exists_alive_of_eligible (h : row ∈
    rowsOf py doctrine partitionOf current objective order) :
    row.2 ∈ order ∧ row.2.finite objective = some row.1 ∧
      ∃ other ∈ order, other.candidateId = row.2.candidateId ∧
        Alive py doctrine partitionOf current other := by
  obtain ⟨hmem, hvalue, verdict, hlookup, hstanding⟩ := mem_eligible_iff.mp h
  obtain ⟨other, hother, hid, rfl⟩ := exists_of_lookup_byId candidateId_verdictOn hlookup
  exact ⟨hmem, hvalue, other, hother, hid, alive_iff_standing.mpr hstanding⟩

/-- If all with its id are alive, a candidate with a finite value is eligible. -/
theorem eligible_of_alive {value : ℚ} (hmem : candidate ∈ order)
    (hvalue : candidate.finite objective = some value)
    (halive : ∀ other ∈ order, other.candidateId = candidate.candidateId →
      Alive py doctrine partitionOf current other) :
    (value, candidate) ∈ rowsOf py doctrine partitionOf current objective order := by
  obtain ⟨verdict, hlookup⟩ : ∃ verdict,
      (byId (order.map (verdictOn py doctrine partitionOf current))).lookup
        candidate.candidateId = some verdict := lookup_byId_isSome candidateId_verdictOn hmem
  obtain ⟨other, hother, hid, rfl⟩ := exists_of_lookup_byId candidateId_verdictOn hlookup
  exact mem_eligible_iff.mpr ⟨hmem, hvalue, _, hlookup,
    alive_iff_standing.mp (halive other hother hid)⟩

/-- What is chosen for an order of the candidates, once the court has judged them. -/
theorem chosen_of_standsAlone {best : Option (ℚ × CampaignCandidate)}
    (hjudged : ∀ candidate ∈ candidates, ∃ verdict,
      judgeCampaignCandidate py doctrine (partitionOf candidate) candidate current = .ok verdict)
    (h : ∀ order : List CampaignCandidate, order.Perm candidates →
      ∃ verdicts, court py doctrine partitionOf current order = .ok verdicts ∧
        firstEligible order verdicts objective maximize = best)
    (horder : order.Perm candidates) :
    firstEligible order (order.map (verdictOn py doctrine partitionOf current)) objective
      maximize = best := by
  obtain ⟨verdicts, hcourt, hbest⟩ := h order horder
  rw [court_of_perm hjudged horder] at hcourt
  rw [Except.ok.inj hcourt]
  exact hbest

/-- Under the condition, what is eligible and foremost is alive. -/
theorem Settled.alive (h : Settled py doctrine partitionOf current candidates objective maximize)
    (horder : order.Perm candidates)
    (hrow : row ∈ rowsOf py doctrine partitionOf current objective order)
    (hforemost : Foremost py doctrine partitionOf current candidates objective maximize row) :
    ∀ other ∈ candidates, other.candidateId = row.2.candidateId →
      Alive py doctrine partitionOf current other ∧
        (other.finite objective = some row.1 → other = row.2) := by
  obtain ⟨hmem, hvalue, found, hfound, hid, halive⟩ := exists_alive_of_eligible hrow
  exact h row.2 (horder.mem_iff.mp hmem) row.1 hvalue hforemost
    ⟨found, horder.mem_iff.mp hfound, hid, halive⟩

theorem standsAlone_of_settled (hjudged : ∀ candidate ∈ candidates, ∃ verdict,
      judgeCampaignCandidate py doctrine (partitionOf candidate) candidate current = .ok verdict)
    (h : Settled py doctrine partitionOf current candidates objective maximize) :
    StandsAlone py doctrine partitionOf current candidates objective maximize := by
  by_cases hsome : ∃ candidate ∈ candidates, Alive py doctrine partitionOf current candidate ∧
      ∃ value, candidate.finite objective = some value
  · -- the preferred one among the rows that are alive
    let alive := (candidates.filter fun candidate =>
      (verdictOn py doctrine partitionOf current candidate).standing = "ALIVE").filterMap
        fun candidate => (candidate.finite objective).map fun value => (value, candidate)
    have hmem : ∀ row : ℚ × CampaignCandidate, row ∈ alive ↔ row.2 ∈ candidates ∧
        Alive py doctrine partitionOf current row.2 ∧
          row.2.finite objective = some row.1 := by
      intro row
      rw [List.mem_filterMap]
      simp only [List.mem_filter, decide_eq_true_iff, ← alive_iff_standing]
      constructor
      · rintro ⟨candidate, ⟨hcandidate, halive⟩, hrow⟩
        obtain ⟨value, hvalue, rfl⟩ := Option.map_eq_some_iff.mp hrow
        exact ⟨hcandidate, halive, hvalue⟩
      · rintro ⟨hcandidate, halive, hvalue⟩
        exact ⟨row.2, ⟨hcandidate, halive⟩, by rw [hvalue]; rfl⟩
    obtain ⟨candidate, hcandidate, halive, value, hvalue⟩ := hsome
    obtain ⟨best, hbest, hleast⟩ := alive.toFinset.exists_min_image (sortKey maximize)
      ⟨_, List.mem_toFinset.mpr ((hmem (value, candidate)).mpr ⟨hcandidate, halive, hvalue⟩)⟩
    obtain ⟨hbestMem, hbestAlive, hbestValue⟩ := (hmem best).mp (List.mem_toFinset.mp hbest)
    have hforemost : Foremost py doctrine partitionOf current candidates objective maximize best :=
      fun other hother hotherAlive otherValue hotherValue =>
        hleast (otherValue, other) (List.mem_toFinset.mpr
          ((hmem (otherValue, other)).mpr ⟨hother, hotherAlive, hotherValue⟩))
    refine ⟨some best, ⟨hbestMem, hbestAlive, hbestValue, hforemost⟩, fun order horder =>
      ⟨_, court_of_perm hjudged horder, ?_⟩⟩
    -- it is eligible in every order, for all with its id are alive
    have heligible : best ∈ rowsOf py doctrine partitionOf current objective order :=
      eligible_of_alive (horder.mem_iff.mpr hbestMem) hbestValue fun other hother hid =>
        (h best.2 hbestMem best.1 hbestValue hforemost ⟨best.2, hbestMem, rfl, hbestAlive⟩ other
          (horder.mem_iff.mp hother) hid).1
    cases hchosen : firstEligible order
        (order.map (verdictOn py doctrine partitionOf current)) objective maximize with
    | none =>
      rw [firstEligible_eq_none] at hchosen
      rw [rowsOf, hchosen] at heligible
      cases heligible
    | some row =>
      -- what is chosen has the same key, and is alive
      obtain ⟨hrow, hrowLeast⟩ := mem_of_firstEligible hchosen
      have hle := hrowLeast best heligible
      obtain ⟨hrowMem, hrowValue, -⟩ := exists_alive_of_eligible hrow
      have hrowForemost : Foremost py doctrine partitionOf current candidates objective maximize
          row := fun other hother hotherAlive otherValue hotherValue =>
        hle.trans (hforemost other hother hotherAlive otherValue hotherValue)
      have hsame := h.alive horder hrow hrowForemost
      have hrowAlive := (hsame row.2 (horder.mem_iff.mp hrowMem) rfl).1
      have hge := hforemost row.2 (horder.mem_iff.mp hrowMem) hrowAlive row.1 hrowValue
      obtain ⟨hvalueEq, hidEq⟩ := sortKey_inj (le_antisymm hle hge)
      have hcandidateEq := (hsame best.2 hbestMem hidEq.symm).2 (by rw [hvalueEq]; exact hbestValue)
      rw [Prod.ext hvalueEq hcandidateEq.symm]
  · have hnone : ∀ candidate ∈ candidates, Alive py doctrine partitionOf current candidate →
        candidate.finite objective = none := by
      intro candidate hcandidate halive
      rw [Option.eq_none_iff_forall_ne_some]
      intro value hvalue
      exact hsome ⟨candidate, hcandidate, halive, value, hvalue⟩
    refine ⟨none, hnone, fun order horder => ⟨_, court_of_perm hjudged horder, ?_⟩⟩
    rw [firstEligible_eq_none, List.eq_nil_iff_forall_not_mem]
    intro row hrow
    obtain ⟨hrowMem, hrowValue, -⟩ := exists_alive_of_eligible hrow
    have hforemost : Foremost py doctrine partitionOf current candidates objective maximize
      row := by
      intro other hother hotherAlive otherValue hotherValue
      rw [hnone other hother hotherAlive] at hotherValue
      cases hotherValue
    have hrowAlive := (h.alive horder hrow hforemost row.2 (horder.mem_iff.mp hrowMem) rfl).1
    rw [hnone row.2 (horder.mem_iff.mp hrowMem) hrowAlive] at hrowValue
    cases hrowValue

theorem settled_of_standsAlone (hjudged : ∀ candidate ∈ candidates, ∃ verdict,
      judgeCampaignCandidate py doctrine (partitionOf candidate) candidate current = .ok verdict)
    (h : StandsAlone py doctrine partitionOf current candidates objective maximize) :
    Settled py doctrine partitionOf current candidates objective maximize := by
  obtain ⟨best, hbest, hchosen⟩ := h
  have hfirst : ∀ {order : List CampaignCandidate}, order.Perm candidates →
      firstEligible order (order.map (verdictOn py doctrine partitionOf current)) objective
        maximize = best := chosen_of_standsAlone hjudged hchosen
  -- an order in which a candidate comes last: its verdict counts for its id
  have hlast : ∀ last ∈ candidates, ∃ order : List CampaignCandidate, order.Perm candidates ∧
      (byId (order.map (verdictOn py doctrine partitionOf current))).lookup last.candidateId =
        some (verdictOn py doctrine partitionOf current last) := by
    intro last hlast
    refine ⟨candidates.erase last ++ [last], ?_, lookup_byId_concat candidateId_verdictOn _ _⟩
    exact List.perm_append_singleton _ _ |>.trans (List.perm_cons_erase hlast).symm
  intro candidate hcandidate value hvalue hforemost ⟨found, hfound, hfoundId, hfoundAlive⟩
  -- the preferred one has the key of the candidate
  obtain ⟨order, horder, hlookup⟩ := hlast found hfound
  have heligible : (value, candidate) ∈ rowsOf py doctrine partitionOf current objective order :=
    mem_eligible_iff.mpr ⟨horder.mem_iff.mpr hcandidate, hvalue, _,
      by rw [← hfoundId]; exact hlookup, alive_iff_standing.mp hfoundAlive⟩
  have hbestOrder := hfirst horder
  cases best with
  | none =>
    rw [firstEligible_eq_none] at hbestOrder
    rw [rowsOf, hbestOrder] at heligible
    cases heligible
  | some best =>
    obtain ⟨hbestMem, hbestAlive, hbestValue, hbestForemost⟩ := hbest
    have hle := (mem_of_firstEligible hbestOrder).2 _ heligible
    have hge := hforemost best.2 hbestMem hbestAlive best.1 hbestValue
    obtain ⟨hvalueEq, hidEq⟩ := sortKey_inj (le_antisymm hle hge)
    -- with one of its id last that is not alive, it would not be chosen
    have hall : ∀ other ∈ candidates, other.candidateId = candidate.candidateId →
        Alive py doctrine partitionOf current other := by
      intro other hother hid
      obtain ⟨order, horder, hlookup⟩ := hlast other hother
      obtain ⟨-, -, verdict, hverdict, hstanding⟩ :=
        mem_eligible_iff.mp (mem_of_firstEligible (hfirst horder)).1
      rw [hidEq, ← hid, hlookup] at hverdict
      rw [alive_iff_standing, Option.some.inj hverdict]
      exact hstanding
    -- of the candidates with this id and value, the one that comes first is chosen
    have hchosenFirst : ∀ other ∈ candidates, other.candidateId = candidate.candidateId →
        other.finite objective = some value → other = best.2 := by
      intro other hother hid hotherValue
      have horder := (List.perm_cons_erase hother).symm
      have hrow := eligible_of_alive (horder.mem_iff.mpr hother)
        hotherValue fun third hthird hsame =>
        hall third (horder.mem_iff.mp hthird) (hsame.trans hid)
      obtain ⟨-, hotherFinite, verdict, hverdict, hstanding⟩ := mem_eligible_iff.mp hrow
      obtain ⟨pre, post, hsplit, hpre, -⟩ := firstEligible_eq_some.mp (hfirst horder)
      have hhead : eligibleRow ((other :: candidates.erase other).map
          (verdictOn py doctrine partitionOf current)) objective other = some (value, other) := by
        simp only [eligibleRow, hverdict, if_pos hstanding, hotherValue, Option.map_some]
      rw [List.filterMap_cons_some hhead] at hsplit
      cases pre with
      | nil => rw [← (List.cons.inj hsplit).1]
      | cons row pre =>
        obtain ⟨rfl, -⟩ := List.cons.inj hsplit
        have hnot := decide_eq_false_iff_not.mp (hpre _ List.mem_cons_self)
        refine absurd (le_of_eq ?_) hnot
        rw [sortKey, sortKey, hvalueEq, hidEq, hid]
    intro other hother hid
    refine ⟨hall other hother hid, fun hotherValue => ?_⟩
    rw [hchosenFirst other hother hid hotherValue, hchosenFirst candidate hcandidate rfl hvalue]

/-- The choice is the preferred candidate, among those that are judged alive themselves and whatever
their order, exactly when the candidates are settled. -/
theorem standsAlone_iff (hjudged : ∀ candidate ∈ candidates, ∃ verdict,
      judgeCampaignCandidate py doctrine (partitionOf candidate) candidate current = .ok verdict) :
    StandsAlone py doctrine partitionOf current candidates objective maximize ↔
      Settled py doctrine partitionOf current candidates objective maximize :=
  ⟨settled_of_standsAlone hjudged, standsAlone_of_settled hjudged⟩

end Preferred

/-! ## Two candidates with one id -/

section Sample

/-- A doctrine with one premise and one invariant. -/
def sampleDoctrine : Doctrine where
  subject := "crown"
  premiseDigests := [("premise", "1")]
  invariants := ["receipted"]
  requiredCapabilities := []
  authorityCeiling := "CONSTRUCT"

/-- The digest of the doctrine. -/
def sampleCompiled : String :=
  ((sampleDoctrine.compiledDigest samplePyRuntime).toOption).getD ""

/-- A partition under the doctrine. -/
def samplePartition : StrategyPartition where
  strategyId := "or"
  strategy := "objective optimization"
  doctrineDigest := sampleCompiled
  localPremiseDigests := [("instance", "1")]
  localConstraints := []

/-- The digest of the partition. -/
def sampleIsolated : String :=
  ((samplePartition.partitionDigest samplePyRuntime).toOption).getD ""

/-- A candidate of the partition. -/
def sampleCandidate (actions : List String) (cost : ℚ) : CampaignCandidate where
  candidateId := "candidate:or"
  subject := "crown"
  strategyId := "or"
  doctrineDigest := sampleCompiled
  partitionDigest := sampleIsolated
  invariants := ["receipted"]
  capabilities := []
  actions
  falsifier := "counterexample"
  objectives := [("cost", .finite cost)]
  authorityCeiling := "CONSTRUCT"
  observedPartitionDigests := [sampleIsolated]

variable {actions : List String}

/-- The sample is refused for its actions only. -/
theorem candidateRefusals_sampleCandidate (hactions : actions ≠ []) (cost : ℚ) :
    candidateRefusals sampleDoctrine samplePartition (sampleCandidate actions cost)
      none sampleCompiled sampleIsolated = [] ↔ ∀ action ∈ actions,
        action ∈ campaignAllowedActions := by
  have hauthority : (requireAuthority "CONSTRUCT").toOption.isNone = false := by decide
  have hillegal : (sortedTexts (actions.filter (· ∉ campaignAllowedActions))).isEmpty = true ↔
      ∀ action ∈ actions, action ∈ campaignAllowedActions := by
    rw [List.isEmpty_iff, sortedTexts_eq_nil, List.filter_eq_nil_iff]
    simp
  rw [← hillegal]
  simp [candidateRefusals, refusalIf, sampleCandidate, sampleDoctrine, samplePartition, isFinite,
    hauthority, hactions]

theorem judge_sampleCandidate (hactions : actions ≠ []) (cost : ℚ) :
    judgeCampaignCandidate samplePyRuntime sampleDoctrine samplePartition
      (sampleCandidate actions cost) none =
      .ok { standing := if ∀ action ∈ actions, action ∈ campaignAllowedActions then "ALIVE"
              else "REFUSED"
            candidateId := "candidate:or"
            refusals := sortedTexts (candidateRefusals sampleDoctrine samplePartition
              (sampleCandidate actions cost) none sampleCompiled sampleIsolated)
            objectives := [("cost", .finite cost)] } := by
  have hcompiled : sampleDoctrine.compiledDigest samplePyRuntime = .ok sampleCompiled := rfl
  have hisolated : samplePartition.partitionDigest samplePyRuntime = .ok sampleIsolated := rfl
  rw [judgeCampaignCandidate, hcompiled, hisolated]
  show Except.ok _ = _
  simp only [sortedTexts_eq_nil, candidateRefusals_sampleCandidate hactions]
  rfl

/-- The candidate that plans to act. -/
def actingCandidate : CampaignCandidate := sampleCandidate ["DO"] 1

/-- The candidate that plans to construct. -/
def constructingCandidate : CampaignCandidate := sampleCandidate ["CONSTRUCT"] 5

theorem not_alive_actingCandidate :
    ¬ Alive samplePyRuntime sampleDoctrine (fun _ => samplePartition) none actingCandidate := by
  rintro ⟨verdict, hjudge, hstanding⟩
  rw [actingCandidate, judge_sampleCandidate (by decide)] at hjudge
  rw [← Except.ok.inj hjudge] at hstanding
  exact absurd hstanding (by decide)

theorem alive_constructingCandidate :
    Alive samplePyRuntime sampleDoctrine (fun _ => samplePartition) none
      constructingCandidate := by
  refine ⟨_, judge_sampleCandidate (by decide) 5, ?_⟩
  decide

/-- Of two candidates with one id, the one that is refused is chosen: the verdict on the other one
counts for it. -/
theorem refused_candidate_chosen : ∃ verdicts,
    court samplePyRuntime sampleDoctrine (fun _ => samplePartition) none
      [actingCandidate, constructingCandidate] = .ok verdicts ∧
    firstEligible [actingCandidate, constructingCandidate] verdicts "cost" false =
      some (1, actingCandidate) ∧
    ¬ Alive samplePyRuntime sampleDoctrine (fun _ => samplePartition) none actingCandidate := by
  refine ⟨_, court_of_perm ?_ (.refl _), ?_, not_alive_actingCandidate⟩
  · intro candidate hmem
    rcases List.mem_pair.mp hmem with rfl | rfl
    · exact ⟨_, judge_sampleCandidate (by decide) 1⟩
    · exact ⟨_, judge_sampleCandidate (by decide) 5⟩
  · rw [firstEligible_eq_some]
    have halive := alive_iff_standing.mp alive_constructingCandidate
    have hrow : ∀ candidate : CampaignCandidate, candidate.candidateId = "candidate:or" →
        ∀ value, candidate.finite "cost" = some value →
          eligibleRow ([actingCandidate, constructingCandidate].map (verdictOn samplePyRuntime
            sampleDoctrine (fun _ => samplePartition) none)) "cost" candidate =
              some (value, candidate) := by
      intro candidate hid value hvalue
      have hlookup : (byId ([actingCandidate, constructingCandidate].map (verdictOn
          samplePyRuntime sampleDoctrine (fun _ => samplePartition) none))).lookup
            candidate.candidateId = some (verdictOn samplePyRuntime sampleDoctrine
              (fun _ => samplePartition) none constructingCandidate) := by
        rw [hid]
        exact lookup_byId_concat candidateId_verdictOn [actingCandidate] constructingCandidate
      simp only [eligibleRow, hlookup, if_pos halive, hvalue, Option.map_some]
    refine ⟨[], [(5, constructingCandidate)], ?_, nofun, ?_⟩
    · rw [List.filterMap_cons_some (hrow actingCandidate rfl 1 rfl),
        List.filterMap_cons_some (hrow constructingCandidate rfl 5 rfl)]
      rfl
    · intro row hrow
      rw [List.mem_singleton.mp hrow]
      decide +kernel

/-- A candidate alone in its list stands on its own verdict. -/
theorem constructingCandidate_stands :
    StandsAlone samplePyRuntime sampleDoctrine (fun _ => samplePartition) none
      [constructingCandidate] "cost" false := by
  refine (standsAlone_iff ?_).mpr ?_
  · intro candidate hmem
    rw [List.mem_singleton.mp hmem]
    exact ⟨_, judge_sampleCandidate (by decide) 5⟩
  · intro candidate hcandidate value hvalue hforemost hfound other hother hid
    rw [List.mem_singleton.mp hother, List.mem_singleton.mp hcandidate]
    exact ⟨alive_constructingCandidate, fun _ => rfl⟩

end Sample

end ChatmanEcosystem.RootCrown
