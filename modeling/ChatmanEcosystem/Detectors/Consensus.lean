import ChatmanEcosystem.Py.Combinations
import ChatmanEcosystem.Py.Dict
import ChatmanEcosystem.Py.Value
import ChatmanEcosystem.Rust.Result
import Mathlib.Data.Finset.Card
import Mathlib.Data.List.Range

/-!
# Consensus of independent detectors

Model of `IndependenceProof`, `independent_clique` and `decide`
(`scripts/release_train/detector_consensus_recovery/independence.py`,
lines 5–19; `consensus.py`, lines 5–16).

`decide` counts the votes of one set of detectors only: the largest set whose
members are pairwise proven independent, and the first in name order among
sets of that size. Whoever is left out of it is not heard.

Results:

* `elected_iff`: what `independent_clique` returns.
* `never_masked_iff`: a confirmed stability hides no FAIL and no quorum of
  DRIFT exactly when nobody who was left out votes so.
-/

namespace ChatmanEcosystem.Detectors

open Py Rust

/-! ## Model -/

/-- The verdicts that `DetectorVote` accepts (`vote.py`, line 14). -/
inductive Ballot
  | stable
  | drift
  | unknown
  | fail
  deriving DecidableEq

/-- `AdmittedVote`: the fingerprint of the detector and its verdict. -/
structure AdmittedVote where
  fingerprint : String
  verdict : Ballot
  deriving DecidableEq

/-- `IndependenceProof` (lines 5–9). -/
structure IndependenceProof where
  left : String
  right : String
  independent : Bool
  basis : String
  deriving DecidableEq

/-- The refusals of `pair` and `decide`. -/
inductive Refusal
  | selfIndependence
  | weakQuorum
  deriving DecidableEq

/-- `tuple(sorted((a, b)))`. -/
def sortedPair (a b : String) : String × String := if a ≤ b then (a, b) else (b, a)

/-- `IndependenceProof.pair` (lines 10–12). -/
def IndependenceProof.pair (proof : IndependenceProof) : Except Refusal (String × String) :=
  if proof.left = proof.right then .error .selfIndependence
  else .ok (sortedPair proof.left proof.right)

/-- `p.independent and p.basis`. -/
def IndependenceProof.holds (proof : IndependenceProof) : Bool :=
  proof.independent && proof.basis ≠ ""

/-- The condition of line 18 on one combination. -/
def isClique (edges : List (String × String)) (combo : List String) : Bool :=
  (combinations 2 combo).all fun pair =>
    match pair with
    | [a, b] => sortedPair a b ∈ edges
    | _ => true

/-- The body of the inner loop (line 18). -/
def keepLonger (edges : List (String × String)) (best combo : List String) : List String :=
  if isClique edges combo ∧ combo.length > best.length then combo else best

/-- `independent_clique` (lines 14–19). -/
def independentClique (detectors : List String) (proofs : List IndependenceProof) :
    Except Refusal (List String) := do
  let names := sortedTexts detectors
  let edges ← (proofs.filter (·.holds)).mapM (·.pair)
  return (List.range' 1 names.length).foldl (fun best size =>
    (combinations size names).foldl (keepLonger edges) best) []

/-- The values of `Consensus.verdict`. -/
inductive Verdict
  | fail
  | driftConfirmed
  | stableConfirmed
  | insufficient
  deriving DecidableEq

/-- `Consensus` (lines 4–9). -/
structure Consensus where
  verdict : Verdict
  admittedDetectors : List String
  driftVotes : ℕ
  stableVotes : ℕ
  deriving DecidableEq

/-- The dictionary `by` of line 13. -/
def byFingerprint (admittedVotes : List AdmittedVote) : List (String × AdmittedVote) :=
  ofPairs (admittedVotes.map fun a => (a.fingerprint, a))

/-- `chosen` (line 13): the votes of a clique. -/
def chosenVotes (admittedVotes : List AdmittedVote) (clique : List String) : List AdmittedVote :=
  clique.filterMap fun name => (byFingerprint admittedVotes).lookup name

/-- `decide` (lines 11–16). -/
def decideConsensus (admittedVotes : List AdmittedVote) (proofs : List IndependenceProof)
    (quorum : ℕ) : Except Refusal Consensus := do
  ensure (¬ quorum < 2) .weakQuorum
  let clique ← independentClique ((byFingerprint admittedVotes).map Prod.fst) proofs
  let chosen := chosenVotes admittedVotes clique
  let drift := chosen.countP (·.verdict = .drift)
  let stable := chosen.countP (·.verdict = .stable)
  let failed := chosen.any (·.verdict = .fail)
  let verdict :=
    if failed then .fail
    else if drift ≥ quorum then .driftConfirmed
    else if stable ≥ quorum then .stableConfirmed
    else .insufficient
  return { verdict, admittedDetectors := clique, driftVotes := drift, stableVotes := stable }

/-! ## What is asked of a confirmed stability -/

section Law

variable (admittedVotes : List AdmittedVote) (proofs : List IndependenceProof) (quorum : ℕ)

/-- A proof says that two detectors are independent, in either order. -/
def Proven (a b : String) : Prop :=
  ∃ proof ∈ proofs, proof.holds = true ∧
    ((proof.left = a ∧ proof.right = b) ∨ (proof.left = b ∧ proof.right = a))

/-- A quorum-sized set of pairwise proven-independent detectors that vote DRIFT. -/
structure DriftQuorum (group : Finset String) : Prop where
  size : group.card = quorum
  proven : (group : Set String).Pairwise (Proven proofs)
  drift : ∀ name ∈ group, ∃ a ∈ admittedVotes, a.fingerprint = name ∧ a.verdict = .drift

/-- Nothing adverse was voted. -/
structure NothingAdverse : Prop where
  noFail : ∀ a ∈ admittedVotes, a.verdict ≠ .fail
  noDrift : ∀ group, ¬ DriftQuorum admittedVotes proofs quorum group

/-- The detectors that voted, in name order. -/
def voters : List String := sortedTexts (admittedVotes.map (·.fingerprint))

/-- The elected set of detectors: pairwise proven independent, no larger such set, and the first
in name order among the largest. -/
structure Elected (clique : List String) : Prop where
  admitted : ∀ proof ∈ proofs, proof.holds = true → proof.left ≠ proof.right
  known : clique.Sublist (voters admittedVotes)
  proven : clique.Pairwise (Proven proofs)
  largest : ∀ other : List String, other.Sublist (voters admittedVotes) →
    other.Pairwise (Proven proofs) → other.length ≤ clique.length
  first : ∀ other : List String, other.Sublist (voters admittedVotes) →
    other.Pairwise (Proven proofs) → other.length = clique.length → clique ≤ other

/-- The counted votes confirm stability. -/
structure Confirms (counted : List AdmittedVote) : Prop where
  noFail : ∀ a ∈ counted, a.verdict ≠ .fail
  drift : counted.countP (·.verdict = .drift) < quorum
  stable : quorum ≤ counted.countP (·.verdict = .stable)

/-- Every adverse vote is among the counted ones. -/
structure Heard (counted : List AdmittedVote) : Prop where
  fail : ∀ a ∈ admittedVotes, a.verdict = .fail → a ∈ counted
  drift : ∀ group, DriftQuorum admittedVotes proofs quorum group →
    ∀ a ∈ admittedVotes, a.fingerprint ∈ group → a.verdict = .drift → a ∈ counted

end Law

variable {admittedVotes : List AdmittedVote} {proofs : List IndependenceProof} {quorum : ℕ}
  {edges : List (String × String)} {clique combo names : List String}

/-! ## Proofs as edges -/

theorem sortedPair_eq_iff {a b c d : String} :
    sortedPair a b = sortedPair c d ↔ (a = c ∧ b = d) ∨ (a = d ∧ b = c) := by
  unfold sortedPair
  split_ifs with hab hcd hcd <;> simp only [Prod.mk.injEq] <;> grind

theorem pair_eq_ok {proof : IndependenceProof} {edge : String × String} :
    proof.pair = .ok edge ↔ proof.left ≠ proof.right ∧
      sortedPair proof.left proof.right = edge := by
  unfold IndependenceProof.pair
  split_ifs with hself <;> simp [hself]

theorem mem_edges (h : (proofs.filter (·.holds)).mapM (·.pair) = .ok edges) {a b : String} :
    sortedPair a b ∈ edges ↔ Proven proofs a b := by
  constructor
  · intro hmem
    obtain ⟨proof, hproof, hpair⟩ := (mem_of_mapM h).mp hmem
    obtain ⟨hproof, hholds⟩ := List.mem_filter.mp hproof
    exact ⟨proof, hproof, hholds, sortedPair_eq_iff.mp (pair_eq_ok.mp hpair).2⟩
  · rintro ⟨proof, hproof, hholds, hends⟩
    have hproof : proof ∈ proofs.filter (·.holds) := List.mem_filter.mpr ⟨hproof, hholds⟩
    obtain ⟨edge, hpair⟩ := ok_of_mapM h hproof
    rw [← sortedPair_eq_iff.mpr hends, (pair_eq_ok.mp hpair).2]
    exact (mem_of_mapM h).mpr ⟨proof, hproof, hpair⟩

theorem exists_edges : (∃ edges, (proofs.filter (·.holds)).mapM (·.pair) = .ok edges) ↔
    ∀ proof ∈ proofs, proof.holds = true → proof.left ≠ proof.right := by
  constructor
  · rintro ⟨edges, h⟩ proof hproof hholds
    obtain ⟨edge, hpair⟩ := ok_of_mapM h (List.mem_filter.mpr ⟨hproof, hholds⟩)
    exact (pair_eq_ok.mp hpair).1
  · intro h
    refine exists_mapM fun proof hproof => ?_
    obtain ⟨hproof, hholds⟩ := List.mem_filter.mp hproof
    exact ⟨_, pair_eq_ok.mpr ⟨h proof hproof hholds, rfl⟩⟩

theorem isClique_iff (h : (proofs.filter (·.holds)).mapM (·.pair) = .ok edges) :
    isClique edges combo = true ↔ combo.Pairwise (Proven proofs) := by
  rw [← forall_combinations_two, isClique, List.all_eq_true]
  refine forall_congr' fun pair => forall_congr' fun _ => ?_
  constructor
  · rintro hpair a b rfl
    exact (mem_edges h).mp (of_decide_eq_true hpair)
  · intro hpair
    split
    · exact decide_eq_true ((mem_edges h).mpr (hpair _ _ rfl))
    · rfl

/-! ## The election -/

/-- The combinations in the order in which they are tried: shorter ones first, and in name order
among those of one size. -/
def attempts (names : List String) : List (List String) :=
  (List.range' 1 names.length).flatMap (combinations · names)

theorem mem_attempts : combo ∈ attempts names ↔ combo.Sublist names ∧ combo ≠ [] := by
  simp only [attempts, List.mem_flatMap, List.mem_range'_1, mem_combinations]
  constructor
  · rintro ⟨size, hsize, hsub, rfl⟩
    exact ⟨hsub, List.ne_nil_of_length_pos hsize.1⟩
  · rintro ⟨hsub, hne⟩
    have hpos : 0 < combo.length := List.length_pos_of_ne_nil hne
    have hle : combo.length ≤ names.length := hsub.length_le
    exact ⟨combo.length, ⟨hpos, by omega⟩, hsub, rfl⟩

theorem pairwise_attempts (h : names.Pairwise (· < ·)) :
    (attempts names).Pairwise fun c d => c.length ≤ d.length ∧ (c.length = d.length → c ≤ d) := by
  rw [attempts, List.pairwise_flatMap]
  constructor
  · intro size _
    refine (pairwise_combinations h).imp_of_mem fun hc hd hlt => ?_
    exact ⟨by rw [(mem_combinations.mp hc).2, (mem_combinations.mp hd).2], fun _ => hlt.le⟩
  · have hsizes : (List.range' 1 names.length).Pairwise (· < ·) := List.pairwise_lt_range'
    refine hsizes.imp fun hlt c hc d hd => ?_
    rw [← (mem_combinations.mp hc).2, ← (mem_combinations.mp hd).2] at hlt
    exact ⟨hlt.le, fun heq => absurd heq hlt.ne⟩

/-- The loop keeps the longest clique so far, and the first of them. -/
structure Kept (edges : List (String × String)) (tried : List (List String))
    (best : List String) : Prop where
  mem : best ≠ [] → best ∈ tried ∧ isClique edges best = true
  largest : ∀ other ∈ tried, isClique edges other = true → other.length ≤ best.length
  first : ∀ other ∈ tried, isClique edges other = true → other.length = best.length →
    best ≤ other

theorem kept_foldl {tried : List (List String)} (hne : ∀ combo ∈ tried, combo ≠ [])
    (h : tried.Pairwise fun c d => c.length ≤ d.length ∧ (c.length = d.length → c ≤ d)) :
    Kept edges tried (tried.foldl (keepLonger edges) []) := by
  induction tried using List.reverseRecOn with
  | nil => exact ⟨fun hne => absurd rfl hne, by simp, by simp⟩
  | append_singleton tried combo ih =>
    obtain ⟨htried, -, hlater⟩ := List.pairwise_append.mp h
    have ih := ih (fun other hother => hne other (by simp [hother])) htried
    have hlater : ∀ other ∈ tried, other.length ≤ combo.length ∧
        (other.length = combo.length → other ≤ combo) := fun other hother => hlater other hother
          combo (List.mem_singleton.mpr rfl)
    rw [List.foldl_append, List.foldl_cons, List.foldl_nil]
    generalize tried.foldl (keepLonger edges) [] = best at ih ⊢
    by_cases hlonger : isClique edges combo ∧ combo.length > best.length
    · rw [keepLonger, if_pos hlonger]
      refine ⟨fun _ => ⟨by simp, hlonger.1⟩, fun other hother hclique => ?_,
        fun other hother hclique heq => ?_⟩
      · rcases List.mem_append.mp hother with hother | hother
        · exact (hlater other hother).1
        · rw [List.mem_singleton.mp hother]
      · rcases List.mem_append.mp hother with hother | hother
        · have hle : other.length ≤ best.length := ih.largest other hother hclique
          omega
        · rw [List.mem_singleton.mp hother]
    · rw [keepLonger, if_neg hlonger]
      refine ⟨fun hbest => ⟨by simp [(ih.mem hbest).1], (ih.mem hbest).2⟩,
        fun other hother hclique => ?_, fun other hother hclique heq => ?_⟩
      · rcases List.mem_append.mp hother with hother | hother
        · exact ih.largest other hother hclique
        · rw [List.mem_singleton.mp hother] at hclique ⊢
          exact not_lt.mp fun hlt => hlonger ⟨hclique, hlt⟩
      · rcases List.mem_append.mp hother with hother | hother
        · exact ih.first other hother hclique heq
        · rw [List.mem_singleton.mp hother] at heq ⊢
          by_cases hbest : best = []
          · rw [hbest] at heq
            exact absurd (List.length_eq_zero_iff.mp heq) (hne combo (by simp))
          · exact (hlater best (ih.mem hbest).1).2 heq.symm

theorem independentClique_eq_ok {detectors : List String} :
    independentClique detectors proofs = .ok clique ↔
      ∃ edges, (proofs.filter (·.holds)).mapM (·.pair) = .ok edges ∧
        (attempts (sortedTexts detectors)).foldl (keepLonger edges) [] = clique := by
  simp only [independentClique, bind_eq_ok, pure_eq_ok, attempts, List.foldl_flatMap]

theorem voters_eq (admittedVotes : List AdmittedVote) :
    sortedTexts ((byFingerprint admittedVotes).map Prod.fst) = voters admittedVotes := by
  refine sortedTexts_congr fun name => ?_
  rw [byFingerprint, mem_keys_ofPairs, List.map_map]
  rfl

/-- A clique is elected by the loop. -/
theorem elected_of_kept (hedges : (proofs.filter (·.holds)).mapM (·.pair) = .ok edges)
    (h : Kept edges (attempts (voters admittedVotes)) clique) :
    Elected admittedVotes proofs clique := by
  have hballot : ∀ other : List String, other.Sublist (voters admittedVotes) →
      other.Pairwise (Proven proofs) → other = [] ∨
        (other ∈ attempts (voters admittedVotes) ∧ isClique edges other = true) := by
    intro other hsub hproven
    by_cases hne : other = []
    · exact .inl hne
    · exact .inr ⟨mem_attempts.mpr ⟨hsub, hne⟩, (isClique_iff hedges).mpr hproven⟩
  have hmem : clique.Sublist (voters admittedVotes) ∧ clique.Pairwise (Proven proofs) := by
    by_cases hne : clique = []
    · simp [hne]
    · obtain ⟨hmem, hclique⟩ := h.mem hne
      exact ⟨(mem_attempts.mp hmem).1, (isClique_iff hedges).mp hclique⟩
  refine ⟨exists_edges.mp ⟨edges, hedges⟩, hmem.1, hmem.2, fun other hsub hproven => ?_,
    fun other hsub hproven hlen => ?_⟩
  · rcases hballot other hsub hproven with rfl | ⟨hother, hclique⟩
    · exact Nat.zero_le _
    · exact h.largest other hother hclique
  · rcases hballot other hsub hproven with rfl | ⟨hother, hclique⟩
    · rw [List.length_eq_zero_iff.mp hlen.symm]
    · exact h.first other hother hclique hlen

theorem Elected.unique {other : List String} (h : Elected admittedVotes proofs clique)
    (hother : Elected admittedVotes proofs other) : clique = other := by
  have hlen : clique.length = other.length :=
    le_antisymm (hother.largest clique h.known h.proven)
      (h.largest other hother.known hother.proven)
  exact le_antisymm (h.first other hother.known hother.proven hlen.symm)
    (hother.first clique h.known h.proven hlen)

/-- `independent_clique` returns the elected set. -/
theorem elected_iff : independentClique ((byFingerprint admittedVotes).map Prod.fst) proofs =
    .ok clique ↔ Elected admittedVotes proofs clique := by
  have hkept : ∀ edges, Kept edges (attempts (voters admittedVotes))
      ((attempts (voters admittedVotes)).foldl (keepLonger edges) []) := fun edges =>
    kept_foldl (fun combo hcombo => (mem_attempts.mp hcombo).2)
      (pairwise_attempts (pairwise_sortedTexts _))
  rw [independentClique_eq_ok, voters_eq]
  constructor
  · rintro ⟨edges, hedges, rfl⟩
    exact elected_of_kept hedges (hkept edges)
  · intro h
    obtain ⟨edges, hedges⟩ := exists_edges.mpr h.admitted
    exact ⟨edges, hedges, (elected_of_kept hedges (hkept edges)).unique h⟩

/-! ## Counted votes and votes that are not heard -/

variable {counted : List AdmittedVote}

theorem confirms_iff :
    (if counted.any (·.verdict = .fail) then Verdict.fail
      else if counted.countP (·.verdict = .drift) ≥ quorum then .driftConfirmed
      else if counted.countP (·.verdict = .stable) ≥ quorum then .stableConfirmed
      else .insufficient) = .stableConfirmed ↔ Confirms quorum counted := by
  constructor
  · intro h
    split_ifs at h with hfail hdrift hstable
    refine ⟨fun a ha hvote => hfail ?_, by omega, hstable⟩
    exact List.any_eq_true.mpr ⟨a, ha, decide_eq_true hvote⟩
  · intro h
    have hfail : ¬ counted.any (·.verdict = .fail) = true := by
      rw [List.any_eq_true]
      rintro ⟨a, ha, hvote⟩
      exact h.noFail a ha (of_decide_eq_true hvote)
    have hdrift : ¬ counted.countP (·.verdict = .drift) ≥ quorum := not_le.mpr h.drift
    rw [if_neg hfail, if_neg hdrift, if_pos h.stable]

theorem decideConsensus_eq_ok {consensus : Consensus} (hquorum : 2 ≤ quorum) :
    (decideConsensus admittedVotes proofs quorum = .ok consensus ∧
      consensus.verdict = .stableConfirmed) ↔
    ∃ clique, Elected admittedVotes proofs clique ∧
      Confirms quorum (chosenVotes admittedVotes clique) ∧
      consensus = { verdict := .stableConfirmed, admittedDetectors := clique
                    driftVotes := (chosenVotes admittedVotes clique).countP (·.verdict = .drift)
                    stableVotes :=
                      (chosenVotes admittedVotes clique).countP (·.verdict = .stable) } := by
  simp only [decideConsensus, bind_eq_ok, pure_eq_ok, ensure_eq_ok, exists_const, elected_iff]
  constructor
  · rintro ⟨⟨-, clique, helected, rfl⟩, hverdict⟩
    exact ⟨clique, helected, confirms_iff.mp hverdict,
      congrArg (fun verdict => (⟨verdict, clique, _, _⟩ : Consensus)) hverdict⟩
  · rintro ⟨clique, helected, hconfirms, rfl⟩
    exact ⟨⟨by omega, clique, helected,
      congrArg (fun verdict => (⟨verdict, clique, _, _⟩ : Consensus)) (confirms_iff.mpr hconfirms)⟩,
        rfl⟩

/-- The counted DRIFT votes of a set of detectors. -/
theorem card_le_countP {group : Finset String}
    (h : ∀ name ∈ group, ∃ a ∈ counted, a.fingerprint = name ∧ a.verdict = .drift) :
    group.card ≤ counted.countP (·.verdict = .drift) := by
  have hsub : group ⊆ ((counted.filter (·.verdict = .drift)).map (·.fingerprint)).toFinset := by
    intro name hname
    obtain ⟨a, ha, rfl, hdrift⟩ := h name hname
    rw [List.mem_toFinset]
    exact List.mem_map_of_mem (List.mem_filter.mpr ⟨ha, decide_eq_true hdrift⟩)
  calc group.card
      ≤ ((counted.filter (·.verdict = .drift)).map (·.fingerprint)).toFinset.card :=
        Finset.card_le_card hsub
    _ ≤ ((counted.filter (·.verdict = .drift)).map (·.fingerprint)).length :=
        List.toFinset_card_le _
    _ = counted.countP (·.verdict = .drift) := by rw [List.length_map, List.countP_eq_length_filter]

/-- Where every adverse vote is counted, a confirmed stability leaves none. -/
theorem Confirms.nothingAdverse (h : Confirms quorum counted)
    (hheard : Heard admittedVotes proofs quorum counted) :
    NothingAdverse admittedVotes proofs quorum := by
  refine ⟨fun a ha hfail => h.noFail a (hheard.fail a ha hfail) hfail, fun group hgroup => ?_⟩
  have hcounted : group.card ≤ counted.countP (·.verdict = .drift) := by
    refine card_le_countP fun name hname => ?_
    obtain ⟨a, ha, rfl, hdrift⟩ := hgroup.drift name hname
    exact ⟨a, hheard.drift group hgroup a ha hname hdrift, rfl, hdrift⟩
  rw [hgroup.size] at hcounted
  exact absurd h.drift (not_lt.mpr hcounted)

/-- A confirmed stability masks nothing adverse exactly when the votes of the elected set, where
they confirm stability, hold every adverse vote. -/
theorem never_masked_iff (admittedVotes : List AdmittedVote) (proofs : List IndependenceProof)
    (quorum : ℕ) (hquorum : 2 ≤ quorum) :
    (∀ consensus, decideConsensus admittedVotes proofs quorum = .ok consensus →
      consensus.verdict = .stableConfirmed → NothingAdverse admittedVotes proofs quorum) ↔
    ∀ clique, Elected admittedVotes proofs clique →
      Confirms quorum (chosenVotes admittedVotes clique) →
      Heard admittedVotes proofs quorum (chosenVotes admittedVotes clique) := by
  constructor
  · intro h clique helected hconfirms
    obtain ⟨hok, hverdict⟩ :=
      (decideConsensus_eq_ok hquorum).mpr ⟨clique, helected, hconfirms, rfl⟩
    have hnothing := h _ hok hverdict
    exact ⟨fun a ha hfail => absurd hfail (hnothing.noFail a ha),
      fun group hgroup => absurd hgroup (hnothing.noDrift group)⟩
  · intro h consensus hok hverdict
    obtain ⟨clique, helected, hconfirms, -⟩ :=
      (decideConsensus_eq_ok hquorum).mp ⟨hok, hverdict⟩
    exact hconfirms.nothingAdverse (h clique helected hconfirms)

/-- Two stable detectors that are proven independent, and a failing one nothing is proven of. -/
def failOutside : List AdmittedVote := [⟨"a", .stable⟩, ⟨"b", .stable⟩, ⟨"c", .fail⟩]

/-- The proof of the pair. -/
def stablePair : List IndependenceProof := [⟨"a", "b", true, "distinct runtime"⟩]

theorem fail_outside_masked : ¬ ∀ consensus,
    decideConsensus failOutside stablePair 2 = .ok consensus →
    consensus.verdict = .stableConfirmed → NothingAdverse failOutside stablePair 2 := by
  intro h
  have hdecided : (decideConsensus failOutside stablePair 2).toOption =
      some ⟨.stableConfirmed, ["a", "b"], 0, 2⟩ := by decide +kernel
  have hnothing := h _ (toOption_eq_some.mp hdecided) rfl
  exact hnothing.noFail ⟨"c", .fail⟩ (by simp [failOutside]) rfl

/-- The law at two independent detectors that both are stable. -/
theorem stable_pair_never_masked :
    (∀ consensus, decideConsensus [⟨"a", .stable⟩, ⟨"b", .stable⟩] stablePair 2 = .ok consensus →
      consensus.verdict = .stableConfirmed →
      NothingAdverse [⟨"a", .stable⟩, ⟨"b", .stable⟩] stablePair 2) ↔
    ∀ clique, Elected [⟨"a", .stable⟩, ⟨"b", .stable⟩] stablePair clique →
      Confirms 2 (chosenVotes [⟨"a", .stable⟩, ⟨"b", .stable⟩] clique) →
      Heard [⟨"a", .stable⟩, ⟨"b", .stable⟩] stablePair 2
        (chosenVotes [⟨"a", .stable⟩, ⟨"b", .stable⟩] clique) :=
  never_masked_iff _ stablePair 2 (by decide)

end ChatmanEcosystem.Detectors
