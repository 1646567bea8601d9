import ChatmanEcosystem.Common.Greedy
import ChatmanEcosystem.Py.Value
import Mathlib.Algebra.Order.BigOperators.Group.List
import Mathlib.Algebra.Order.Ring.Int

/-!
# Selection of evidence

Model of `scripts/release_train/evidence_acquisition`: `selector.py` (lines 29–54),
`budget.py`, `independence.py`, `candidate.py`, `calibration.py` and `strategy.py`.
Calibrated candidates are taken by falling score, each one that is independent of
those taken and keeps the budget. The scores are computed with floats and are a
parameter here.

Results:

* `admittedIndependent_eq_ok`: what an independence verdict stands on.
* `fits_eq_ok`: when a candidate is taken.
* `select_maximal`: what is selected is admissible and nothing can be added.
-/

namespace ChatmanEcosystem.ReleaseTrain.EvidenceAcquisition

open Common Py Rust

/-! ## Candidates -/

/-- `Strategy` (`strategy.py`, lines 3–6). -/
inductive Strategy
  | maxInformationGain
  | maxInformationPerCost
  | minExpectedEntropy
  deriving DecidableEq

/-- `Belief` (`belief.py`, lines 4–12). -/
structure Belief where
  defect : ℚ
  generation : ℤ
  mass : 0 < defect ∧ defect < 1
  counted : 0 ≤ generation

/-- `EvidenceCandidate` (`candidate.py`, lines 3–18). -/
@[ext] structure EvidenceCandidate where
  id : String
  family : String
  domain : String
  scope : String
  costMilli : ℤ
  latencyMs : ℤ
  authority : String
  named : id ≠ "" ∧ family ≠ "" ∧ domain ≠ "" ∧ scope ≠ ""
  priced : 0 ≤ costMilli ∧ 0 ≤ latencyMs
  selecting : authority = "SELECT"

instance : DecidableEq EvidenceCandidate := fun _ _ => decidable_of_iff' _ EvidenceCandidate.ext_iff

/-- `SensorCalibration` (`calibration.py`, lines 5–18). -/
structure SensorCalibration where
  candidateId : String
  generation : ℤ
  support : ℤ
  tpr : ℚ
  fpr : ℚ
  named : candidateId ≠ "" ∧ 0 ≤ generation ∧ 0 ≤ support
  rated : (0 ≤ fpr ∧ fpr ≤ 1) ∧ 0 ≤ tpr ∧ tpr ≤ 1

/-! ## Independence -/

/-- `IndependenceProof` (`independence.py`, lines 5–8). -/
structure IndependenceProof where
  leftId : String
  rightId : String
  deriving DecidableEq

/-- `tuple(sorted((a, b)))`. -/
def sortedPair (a b : String) : String × String := if a ≤ b then (a, b) else (b, a)

/-- `IndependenceProof.pair` (`independence.py`, lines 10–13). -/
def IndependenceProof.pair (proof : IndependenceProof) :
    Except (Raised String) (String × String) := do
  ensure (proof.leftId ≠ proof.rightId) (.refusal "SELF_INDEPENDENCE_PROOF")
  return sortedPair proof.leftId proof.rightId

local instance lawfulPair : LawfulBEq (String × String) := inferInstance

/-- `admitted_independent` (`independence.py`, lines 15–19). -/
def admittedIndependent (left right : EvidenceCandidate) (proofs : List IndependenceProof) :
    Except (Raised String) Bool := do
  if left.id = right.id ∨ left.family = right.family ∨ left.domain = right.domain then
    return false
  let pairs ← proofs.mapM (·.pair)
  return sortedPair left.id right.id ∈ pairs

/-- The `all` of `select` (`selector.py`, line 45): it stops at the first `False`. -/
def independentOfAll (candidate : EvidenceCandidate) (proofs : List IndependenceProof) :
    List EvidenceCandidate → Except (Raised String) Bool
  | [] => .ok true
  | existing :: selected => do
    if ← admittedIndependent candidate existing proofs then
      independentOfAll candidate proofs selected
    else
      return false

/-! ## Budget -/

/-- `AcquisitionBudget` (`budget.py`, lines 5–9). -/
structure AcquisitionBudget where
  maxCostMilli : ℤ
  maxLatencyMs : ℤ
  maxCount : ℤ
  deriving DecidableEq

/-- `AcquisitionBudget.admit` (`budget.py`, lines 11–19). -/
def AcquisitionBudget.admits (budget : AcquisitionBudget) (candidates : List EvidenceCandidate) :
    Except (Raised String) Unit := do
  ensure (0 ≤ budget.maxCostMilli ∧ 0 ≤ budget.maxLatencyMs ∧ 1 ≤ budget.maxCount)
    (.refusal "INVALID_ACQUISITION_BUDGET")
  ensure (candidates.length ≤ budget.maxCount) (.refusal "ACQUISITION_COUNT_BUDGET")
  ensure ((candidates.map (·.costMilli)).sum ≤ budget.maxCostMilli)
    (.refusal "ACQUISITION_COST_BUDGET")
  ensure ((candidates.map (·.latencyMs)).sum ≤ budget.maxLatencyMs)
    (.refusal "ACQUISITION_LATENCY_BUDGET")

/-! ## Selection -/

/-- `_score` (`selector.py`, lines 17–26): it refuses a calibration without predictive mass. -/
abbrev Scorer (σ : Type) :=
  Strategy → Belief → EvidenceCandidate → SensorCalibration → Except (Raised String) σ

/-- `CandidateScore` (`selector.py`, lines 11–14). -/
structure CandidateScore (σ : Type) where
  candidate : EvidenceCandidate
  score : σ

/-- `by_id` (`selector.py`, line 37): the last calibration of a candidate. -/
def calibrationOf (calibrations : List SensorCalibration) (candidateId : String) :
    Option SensorCalibration :=
  calibrations.reverse.find? (·.candidateId = candidateId)

/-- The order of the keys `(-item.score, item.candidate.id)` (`selector.py`, line 40). -/
abbrev Before {σ : Type} [LinearOrder σ] (a b : CandidateScore σ) : Prop :=
  b.score < a.score ∨ a.score = b.score ∧ a.candidate.id ≤ b.candidate.id

/-- `scored` (`selector.py`, lines 38–41). -/
def scored {σ : Type} [LinearOrder σ] (score : Scorer σ) (belief : Belief)
    (candidates : List EvidenceCandidate) (calibrations : List SensorCalibration)
    (strategy : Strategy) : Except (Raised String) (List (CandidateScore σ)) := do
  let calibrated := candidates.filterMap fun candidate =>
    (calibrationOf calibrations candidate.id).map fun calibration => (candidate, calibration)
  let items ← calibrated.mapM fun (candidate, calibration) => do
    return { candidate, score := ← score strategy belief candidate calibration }
  return items.insertionSort Before

/-- Whether a candidate is added (`selector.py`, lines 45–51). -/
def fits (proofs : List IndependenceProof) (budget : AcquisitionBudget)
    (selected : List EvidenceCandidate) (candidate : EvidenceCandidate) :
    Except (Raised String) Bool := do
  if ← independentOfAll candidate proofs selected then
    match budget.admits (selected ++ [candidate]) with
    | .ok () => return true
    | .error _ => return false
  else
    return false

/-- `select` (`selector.py`, lines 29–54). -/
def select {σ : Type} [LinearOrder σ] (score : Scorer σ) (belief : Belief)
    (candidates : List EvidenceCandidate) (calibrations : List SensorCalibration)
    (proofs : List IndependenceProof) (budget : AcquisitionBudget) (strategy : Strategy) :
    Except (Raised String) (List EvidenceCandidate) := do
  let items ← scored score belief candidates calibrations strategy
  let selected ← greedy (fits proofs budget) [] (items.map (·.candidate))
  ensure (selected ≠ []) (.refusal "NO_ADMISSIBLE_EVIDENCE_SELECTION")
  return selected

/-! ## What is admissible -/

/-- Two candidates are independent: they differ in everything and a proof says so. -/
structure Independent (proofs : List IndependenceProof) (a b : EvidenceCandidate) : Prop where
  ids : a.id ≠ b.id
  families : a.family ≠ b.family
  domains : a.domain ≠ b.domain
  proved : ∃ proof ∈ proofs,
    (proof.leftId = a.id ∧ proof.rightId = b.id) ∨ (proof.leftId = b.id ∧ proof.rightId = a.id)

/-- A selection keeps the budget. -/
structure Within (budget : AcquisitionBudget) (selected : List EvidenceCandidate) : Prop where
  count : selected.length ≤ budget.maxCount
  cost : (selected.map (·.costMilli)).sum ≤ budget.maxCostMilli
  latency : (selected.map (·.latencyMs)).sum ≤ budget.maxLatencyMs

/-- A selection is independent in pairs and keeps the budget. -/
structure Admissible (proofs : List IndependenceProof) (budget : AcquisitionBudget)
    (selected : List EvidenceCandidate) : Prop where
  independent : selected.Pairwise (Independent proofs)
  within : Within budget selected

/-- A candidate of the call has a calibration. -/
def Calibrated (candidates : List EvidenceCandidate) (calibrations : List SensorCalibration)
    (candidate : EvidenceCandidate) : Prop :=
  candidate ∈ candidates ∧ ∃ calibration ∈ calibrations, calibration.candidateId = candidate.id

variable {proofs : List IndependenceProof} {budget : AcquisitionBudget}
  {selected more : List EvidenceCandidate} {a b candidate : EvidenceCandidate}

theorem Independent.symm (h : Independent proofs a b) : Independent proofs b a := by
  obtain ⟨proof, hproof, hpair⟩ := h.proved
  exact ⟨h.ids.symm, h.families.symm, h.domains.symm, proof, hproof, hpair.symm⟩

variable {value : EvidenceCandidate → ℤ}

theorem sum_map_nonneg (hvalue : ∀ c, 0 ≤ value c) :
    0 ≤ (selected.map value).sum := by
  apply List.sum_nonneg
  intro n hn
  obtain ⟨c, -, rfl⟩ := List.mem_map.mp hn
  exact hvalue c

theorem sum_map_le_append (hvalue : ∀ c, 0 ≤ value c) :
    (selected.map value).sum ≤ ((selected ++ more).map value).sum := by
  have hmore : 0 ≤ (more.map value).sum := sum_map_nonneg hvalue
  rw [List.map_append, List.sum_append]
  omega

/-- A part of a selection keeps the budget too. -/
theorem Within.of_append (h : Within budget (selected ++ more)) : Within budget selected where
  count := by
    have hcount := h.count
    rw [List.length_append] at hcount
    omega
  cost := (sum_map_le_append fun c => c.priced.1).trans h.cost
  latency := (sum_map_le_append fun c => c.priced.2).trans h.latency

theorem Within.of_perm (h : Within budget selected) (hperm : selected.Perm more) :
    Within budget more where
  count := hperm.length_eq ▸ h.count
  cost := (hperm.map (·.costMilli)).sum_eq ▸ h.cost
  latency := (hperm.map (·.latencyMs)).sum_eq ▸ h.latency

theorem admissible_append_singleton : Admissible proofs budget (selected ++ [candidate]) ↔
    selected.Pairwise (Independent proofs) ∧ (∀ e ∈ selected, Independent proofs candidate e) ∧
      Within budget (selected ++ [candidate]) := by
  constructor
  · intro h
    obtain ⟨hpairs, -, hlast⟩ := List.pairwise_append.mp h.independent
    exact ⟨hpairs, fun e he => (hlast e he candidate (List.mem_singleton.mpr rfl)).symm, h.within⟩
  · rintro ⟨hpairs, hlast, hwithin⟩
    refine ⟨List.pairwise_append.mpr ⟨hpairs, List.pairwise_singleton _ _, ?_⟩, hwithin⟩
    intro e he c hc
    obtain rfl := List.mem_singleton.mp hc
    exact (hlast e he).symm

/-! ## Verdicts -/

theorem sortedPair_eq_iff {a b c d : String} :
    sortedPair a b = sortedPair c d ↔ (a = c ∧ b = d) ∨ (a = d ∧ b = c) := by
  have hab := @le_antisymm _ _ a b
  have hcd := @le_antisymm _ _ c d
  have htotal := le_total a b
  have htotal' := le_total c d
  unfold sortedPair
  split_ifs with hle hle' hle' <;> rw [Prod.mk.injEq] <;> grind

theorem pair_eq_ok {proof : IndependenceProof} {pair : String × String} :
    proof.pair = .ok pair ↔
      proof.leftId ≠ proof.rightId ∧ sortedPair proof.leftId proof.rightId = pair := by
  simp only [IndependenceProof.pair, bind_eq_ok, ensure_eq_ok, pure_eq_ok, exists_const]

variable {verdict : Bool}

/-- The proofs that are read say which pairs are independent. -/
theorem admittedIndependent_eq_ok (h : admittedIndependent a b proofs = .ok verdict) :
    verdict = true ↔ Independent proofs a b := by
  unfold admittedIndependent at h
  split_ifs at h with hsame
  · obtain rfl := pure_eq_ok.mp h
    have hnot : ¬ Independent proofs a b := fun h => by
      rcases hsame with hid | hfamily | hdomain
      · exact h.ids hid
      · exact h.families hfamily
      · exact h.domains hdomain
    simp [hnot]
  · obtain ⟨pairs, hpairs, hverdict⟩ := bind_eq_ok.mp h
    rw [← pure_eq_ok.mp hverdict, decide_eq_true_iff, mem_of_mapM hpairs]
    obtain ⟨hid, hfamily, hdomain⟩ := not_or.mp hsame |>.imp_right not_or.mp
    constructor
    · rintro ⟨proof, hproof, hpair⟩
      refine ⟨hid, hfamily, hdomain, proof, hproof, ?_⟩
      exact sortedPair_eq_iff.mp (pair_eq_ok.mp hpair).2
    · intro h
      obtain ⟨proof, hproof, hids⟩ := h.proved
      obtain ⟨pair, hpair⟩ := ok_of_mapM hpairs hproof
      refine ⟨proof, hproof, ?_⟩
      rw [hpair, ← (pair_eq_ok.mp hpair).2, sortedPair_eq_iff.mpr hids]

theorem independentOfAll_eq_ok (h : independentOfAll candidate proofs selected = .ok verdict) :
    verdict = true ↔ ∀ e ∈ selected, Independent proofs candidate e := by
  induction selected with
  | nil =>
    obtain rfl := Except.ok.inj h
    simp
  | cons existing selected ih =>
    rw [independentOfAll, bind_eq_ok] at h
    obtain ⟨first, hfirst, h⟩ := h
    have hverdict := admittedIndependent_eq_ok hfirst
    rw [List.forall_mem_cons, ← hverdict]
    cases first with
    | true => simpa using ih h
    | false => simp [← pure_eq_ok.mp h]

/-- A selection that is not empty is within a budget exactly if the budget admits it. -/
theorem admits_eq_ok (hselected : selected ≠ []) :
    budget.admits selected = .ok () ↔ Within budget selected := by
  simp only [AcquisitionBudget.admits, bind_eq_ok, ensure_eq_ok, exists_const]
  constructor
  · rintro ⟨-, hcount, hcost, hlatency⟩
    exact ⟨hcount, hcost, hlatency⟩
  · intro h
    have hcost : 0 ≤ (selected.map (·.costMilli)).sum := sum_map_nonneg fun c => c.priced.1
    have hlatency : 0 ≤ (selected.map (·.latencyMs)).sum := sum_map_nonneg fun c => c.priced.2
    have hlength := List.length_pos_of_ne_nil hselected
    have hcount := h.count
    exact ⟨⟨hcost.trans h.cost, hlatency.trans h.latency, by omega⟩, h.count, h.cost, h.latency⟩

/-- A candidate can be added to a selection. -/
structure Fits (proofs : List IndependenceProof) (budget : AcquisitionBudget)
    (selected : List EvidenceCandidate) (candidate : EvidenceCandidate) : Prop where
  independent : ∀ e ∈ selected, Independent proofs candidate e
  within : Within budget (selected ++ [candidate])

theorem fits_eq_ok (h : fits proofs budget selected candidate = .ok verdict) :
    verdict = true ↔ Fits proofs budget selected candidate := by
  rw [fits, bind_eq_ok] at h
  obtain ⟨independent, hindependent, h⟩ := h
  have hall := independentOfAll_eq_ok hindependent
  have hadmits := @admits_eq_ok budget (selected ++ [candidate]) (by simp)
  cases independent with
  | false =>
    obtain rfl := pure_eq_ok.mp h
    have hnot : ¬ Fits proofs budget selected candidate := by
      intro hfits
      exact Bool.false_ne_true (hall.mpr hfits.independent)
    simp [hnot]
  | true =>
    have hfits : Fits proofs budget selected candidate ↔ Within budget (selected ++ [candidate]) :=
      ⟨fun h => h.within, fun h => ⟨hall.mp rfl, h⟩⟩
    rw [hfits, ← hadmits]
    cases hverdict : budget.admits (selected ++ [candidate]) with
    | ok =>
      rw [if_pos rfl, hverdict] at h
      simp [← pure_eq_ok.mp h]
    | error =>
      rw [if_pos rfl, hverdict] at h
      simp [← pure_eq_ok.mp h]

/-- What does not fit a selection does not fit a larger one. -/
theorem Fits.of_append (h : Fits proofs budget (selected ++ more) candidate) :
    Fits proofs budget selected candidate where
  independent e he := h.independent e (List.mem_append_left _ he)
  within := by
    have hperm : (selected ++ more ++ [candidate]).Perm (selected ++ [candidate] ++ more) := by
      rw [List.append_assoc, List.append_assoc]
      exact List.perm_append_comm.append_left _
    exact (h.within.of_perm hperm).of_append

/-! ## Selections -/

variable {σ : Type} [LinearOrder σ] {score : Scorer σ} {belief : Belief}
  {candidates : List EvidenceCandidate} {calibrations : List SensorCalibration}
  {strategy : Strategy} {items : List (CandidateScore σ)}

theorem isSome_calibrationOf {candidateId : String} :
    (calibrationOf calibrations candidateId).isSome ↔
      ∃ calibration ∈ calibrations, calibration.candidateId = candidateId := by
  rw [calibrationOf, List.find?_isSome]
  simp only [List.mem_reverse, decide_eq_true_iff]

/-- The calibrated candidates are scored, whatever the scores. -/
theorem mem_scored (h : scored score belief candidates calibrations strategy = .ok items) :
    candidate ∈ items.map (·.candidate) ↔ Calibrated candidates calibrations candidate := by
  rw [scored, bind_eq_ok] at h
  obtain ⟨unsorted, hunsorted, h⟩ := h
  rw [← pure_eq_ok.mp h, ((List.perm_insertionSort _ unsorted).map _).mem_iff, List.mem_map,
    Calibrated, ← isSome_calibrationOf, Option.isSome_iff_exists]
  constructor
  · rintro ⟨item, hitem, rfl⟩
    obtain ⟨⟨c, calibration⟩, hpair, hscore⟩ := (mem_of_mapM hunsorted).mp hitem
    simp only [bind_eq_ok, pure_eq_ok] at hscore
    obtain ⟨value, -, rfl⟩ := hscore
    simp only [List.mem_filterMap, Option.map_eq_some_iff, Prod.mk.injEq] at hpair
    obtain ⟨_, hc, _, hcalibration, rfl, rfl⟩ := hpair
    exact ⟨hc, _, hcalibration⟩
  · rintro ⟨hcandidate, calibration, hcalibration⟩
    have hpair : (candidate, calibration) ∈ candidates.filterMap fun candidate =>
        (calibrationOf calibrations candidate.id).map fun calibration =>
          (candidate, calibration) := by
      simp only [List.mem_filterMap, Option.map_eq_some_iff, Prod.mk.injEq]
      exact ⟨candidate, hcandidate, calibration, hcalibration, rfl, rfl⟩
    obtain ⟨item, hitem⟩ := ok_of_mapM hunsorted hpair
    refine ⟨item, (mem_of_mapM hunsorted).mpr ⟨_, hpair, hitem⟩, ?_⟩
    simp only [bind_eq_ok, pure_eq_ok] at hitem
    obtain ⟨value, -, rfl⟩ := hitem
    rfl

/-- A selection is admissible, it is drawn from the calibrated candidates, and none of these could
be added to it. -/
theorem select_maximal
    (h : select score belief candidates calibrations proofs budget strategy = .ok selected) :
    Admissible proofs budget selected ∧
      (∀ c ∈ selected, Calibrated candidates calibrations c) ∧
      ∀ c, Calibrated candidates calibrations c → ¬ Admissible proofs budget (selected ++ [c]) := by
  simp only [select, bind_eq_ok, ensure_eq_ok, pure_eq_ok] at h
  obtain ⟨items, hitems, chosen, hgreedy, _, hnonempty, hselected⟩ := h
  rw [hselected] at hgreedy hnonempty
  have hadmissible : selected = [] ∨ Admissible proofs budget selected := by
    refine greedy_preserves (P := fun chosen => chosen = [] ∨ Admissible proofs budget chosen)
      (fun chosen c hchosen hfits => ?_) (.inl rfl) hgreedy
    have hfits := (fits_eq_ok hfits).mp rfl
    refine .inr (admissible_append_singleton.mpr ⟨?_, hfits.independent, hfits.within⟩)
    rcases hchosen with rfl | hchosen
    · exact List.Pairwise.nil
    · exact hchosen.independent
  refine ⟨hadmissible.resolve_left hnonempty, fun c hc => ?_, fun c hc hlarger => ?_⟩
  · obtain ⟨picked, rfl, hpicked⟩ := greedy_eq_append hgreedy
    exact (mem_scored hitems).mp (hpicked.mem hc)
  · obtain ⟨-, hindependent, hwithin⟩ := admissible_append_singleton.mp hlarger
    have hmaximal := greedy_maximal
      (fun _ _ hpassed hfits => Bool.false_ne_true ((fits_eq_ok hpassed).mpr hfits))
      (fun _ _ _ => Fits.of_append) hgreedy c ((mem_scored hitems).mpr hc)
    rcases hmaximal with htaken | hunfit
    · exact (hindependent c htaken).ids rfl
    · exact hunfit ⟨hindependent, hwithin⟩

/-- A candidate of the family `cusum`, on a domain. -/
def sampleCusum (id domain : String) (h : id ≠ "" ∧ domain ≠ "") : EvidenceCandidate :=
  ⟨id, "cusum", domain, "repo", 10, 5, "SELECT", ⟨h.1, by decide, h.2, by decide⟩, by decide, rfl⟩

def sampleEwma : EvidenceCandidate :=
  ⟨"b", "ewma", "workflow", "repo", 20, 7, "SELECT", by decide, by decide, rfl⟩

def sampleCalibration (candidateId : String) (h : candidateId ≠ "") : SensorCalibration :=
  ⟨candidateId, 1, 20, 9 / 10, 1 / 10, ⟨h, by decide, by decide⟩, by decide +kernel⟩

theorem cusum_passed_over :
    Admissible [⟨"b", "a"⟩, ⟨"b", "c"⟩] ⟨100, 100, 3⟩
        [sampleEwma, sampleCusum "a" "runtime" (by decide)] ∧
      ¬ Admissible [⟨"b", "a"⟩, ⟨"b", "c"⟩] ⟨100, 100, 3⟩
        [sampleEwma, sampleCusum "a" "runtime" (by decide),
          sampleCusum "c" "disk" (by decide)] := by
  have h : select (fun _ _ c _ => .ok c.latencyMs) ⟨1 / 4, 1, by decide +kernel, by decide⟩
      [sampleCusum "c" "disk" (by decide), sampleCusum "a" "runtime" (by decide), sampleEwma]
      [sampleCalibration "a" (by decide), sampleCalibration "b" (by decide),
        sampleCalibration "c" (by decide)]
      [⟨"b", "a"⟩, ⟨"b", "c"⟩] ⟨100, 100, 3⟩ .maxInformationGain =
        .ok [sampleEwma, sampleCusum "a" "runtime" (by decide)] := by
    rw [← toOption_eq_some]
    decide +kernel
  obtain ⟨hadmissible, -, hmaximal⟩ := select_maximal h
  exact ⟨hadmissible, hmaximal _ ⟨List.mem_cons_self, sampleCalibration "c" (by decide), by simp,
    rfl⟩⟩

end ChatmanEcosystem.ReleaseTrain.EvidenceAcquisition
