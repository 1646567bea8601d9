import ChatmanEcosystem.Common.Run
import ChatmanEcosystem.Detectors.Consensus

/-!
# The regime of a drift detector

Model of `HysteresisState` and `advance`
(`scripts/release_train/detector_consensus_recovery/hysteresis.py`, lines 3–18).

DRIFT is entered after enough consecutive DRIFT_CONFIRMED verdicts and cleared
after enough consecutive STABLE_CONFIRMED ones. A streak of drift verdicts that
begins while the regime already is DRIFT is counted from one again, and below
the entry threshold `advance` answers SUSPECT.

Results:

* `Explains.run`: in every run the two counters are streaks at the end of the
  history, and DRIFT has seen a full entry streak.
* `left_as_declared_iff`: a run leaves DRIFT only as declared exactly when no
  drift verdict restarts the entry streak while the regime is DRIFT.
-/

namespace ChatmanEcosystem.Detectors

open Common

/-! ## Model -/

/-- The values of `regime`. -/
inductive Regime
  | stable
  | suspect
  | drift
  | failed
  deriving DecidableEq

/-- `HysteresisState` (lines 3–7). -/
structure HysteresisState where
  regime : Regime := .stable
  enterStreak : ℕ := 0
  clearStreak : ℕ := 0
  deriving DecidableEq

/-- `advance` (lines 9–18). -/
def advance (enterRequired clearRequired : ℕ) (state : HysteresisState) (consensus : Consensus) :
    HysteresisState :=
  match consensus.verdict with
  | .fail => ⟨.failed, 0, 0⟩
  | .driftConfirmed =>
    let n := state.enterStreak + 1
    ⟨if n ≥ enterRequired then .drift else .suspect, n, 0⟩
  | .stableConfirmed =>
    let c := state.clearStreak + 1
    if (state.regime = .drift ∨ state.regime = .suspect) ∧ c < clearRequired then
      ⟨state.regime, 0, c⟩
    else ⟨.stable, 0, c⟩
  | .insufficient => ⟨state.regime, 0, 0⟩

/-! ## The law -/

variable (enterRequired clearRequired : ℕ)

/-- The state after a history of consensus rounds, from the initial one. -/
def after (history : List Consensus) : HysteresisState :=
  run (advance enterRequired clearRequired) {} history

/-- The verdicts of a history. -/
def verdicts (history : List Consensus) : List Verdict := history.map Consensus.verdict

/-- At no point of the history is DRIFT left except by a FAIL or after a full streak of
STABLE_CONFIRMED, and it is never there before a full streak of DRIFT_CONFIRMED. -/
structure LeftAsDeclared (history : List Consensus) : Prop where
  exits : ∀ before consensus later, history = before ++ consensus :: later →
    (after enterRequired clearRequired before).regime = .drift →
    (after enterRequired clearRequired (before ++ [consensus])).regime ≠ .drift →
    consensus.verdict = .fail ∨
      List.replicate clearRequired .stableConfirmed <:+ verdicts (before ++ [consensus])
  entered : ∀ before later, history = before ++ later →
    (after enterRequired clearRequired before).regime = .drift →
    List.replicate enterRequired .driftConfirmed <:+: verdicts before

/-- A drift verdict begins the entry streak again while the regime is DRIFT. -/
def Restarts (state : HysteresisState) (consensus : Consensus) : Prop :=
  state.regime = .drift ∧ consensus.verdict = .driftConfirmed ∧
    state.enterStreak + 1 < enterRequired

/-! ## What the counters count -/

/-- How a state comes from a history: the counters are streaks at its end, and DRIFT has seen
a full entry streak. -/
structure Explains (history : List Verdict) (state : HysteresisState) : Prop where
  entering : List.replicate state.enterStreak .driftConfirmed <:+ history
  clearing : List.replicate state.clearStreak .stableConfirmed <:+ history
  entered : state.regime = .drift →
    List.replicate enterRequired .driftConfirmed <:+: history

variable {enterRequired clearRequired} {history : List Verdict} {state : HysteresisState}
  {consensus : Consensus}

theorem replicate_suffix_concat {verdict : Verdict} {n : ℕ}
    (h : List.replicate n verdict <:+ history) :
    List.replicate (n + 1) verdict <:+ history ++ [verdict] := by
  obtain ⟨earlier, rfl⟩ := h
  rw [List.replicate_succ']
  exact ⟨earlier, by rw [List.append_assoc]⟩

theorem replicate_suffix_of_le {verdict : Verdict} {m n : ℕ} (hle : m ≤ n)
    (h : List.replicate n verdict <:+ history) : List.replicate m verdict <:+ history := by
  have hsplit : List.replicate n verdict =
      List.replicate (n - m) verdict ++ List.replicate m verdict := by
    rw [List.replicate_append_replicate, Nat.sub_add_cancel hle]
  rw [hsplit] at h
  exact (List.suffix_append _ _).trans h

theorem Explains.advance (h : Explains enterRequired history state) (clearRequired : ℕ)
    (consensus : Consensus) :
    Explains enterRequired (history ++ [consensus.verdict])
      (advance enterRequired clearRequired state consensus) := by
  have hkept : state.regime = .drift →
      List.replicate enterRequired .driftConfirmed <:+: history ++ [consensus.verdict] :=
    fun hdrift => (h.entered hdrift).trans (List.prefix_append _ _).isInfix
  unfold Detectors.advance
  cases hverdict : consensus.verdict with
  | fail => exact ⟨List.nil_suffix, List.nil_suffix, fun hdrift => nomatch hdrift⟩
  | driftConfirmed =>
    have hstreak := replicate_suffix_concat h.entering
    refine ⟨hstreak, List.nil_suffix, fun hdrift => ?_⟩
    by_cases hfull : state.enterStreak + 1 ≥ enterRequired
    · exact (replicate_suffix_of_le hfull hstreak).isInfix
    · simp only [if_neg hfull] at hdrift
      exact absurd hdrift (by decide)
  | stableConfirmed =>
    have hstreak := replicate_suffix_concat h.clearing
    rw [hverdict] at hkept
    by_cases hheld : (state.regime = .drift ∨ state.regime = .suspect) ∧
        state.clearStreak + 1 < clearRequired
    · simp only [if_pos hheld]
      exact ⟨List.nil_suffix, hstreak, hkept⟩
    · simp only [if_neg hheld]
      exact ⟨List.nil_suffix, hstreak, fun hdrift => nomatch hdrift⟩
  | insufficient =>
    rw [hverdict] at hkept
    exact ⟨List.nil_suffix, List.nil_suffix, hkept⟩

theorem after_concat (rounds : List Consensus) :
    after enterRequired clearRequired (rounds ++ [consensus]) =
      advance enterRequired clearRequired (after enterRequired clearRequired rounds) consensus := by
  simp [after]

variable (enterRequired clearRequired) in
/-- Every run is explained by its history. -/
theorem Explains.run (rounds : List Consensus) :
    Explains enterRequired (verdicts rounds) (after enterRequired clearRequired rounds) := by
  induction rounds using List.reverseRecOn with
  | nil => exact ⟨List.nil_suffix, List.nil_suffix, fun hdrift => nomatch hdrift⟩
  | append_singleton rounds consensus ih =>
    rw [after_concat]
    have hstep := ih.advance clearRequired consensus
    simpa [verdicts] using hstep

/-! ## How DRIFT is left -/

/-- One round leaves DRIFT by a FAIL, by a full streak of stable verdicts, or by a drift verdict
that begins the entry streak again. -/
theorem leaves_drift (hdrift : state.regime = .drift)
    (hleft : (advance enterRequired clearRequired state consensus).regime ≠ .drift) :
    consensus.verdict = .fail ∨ Restarts enterRequired state consensus ∨
      (consensus.verdict = .stableConfirmed ∧ clearRequired ≤ state.clearStreak + 1) := by
  unfold advance at hleft
  cases hverdict : consensus.verdict with
  | fail => exact .inl rfl
  | driftConfirmed =>
    simp only [hverdict] at hleft
    refine .inr (.inl ⟨hdrift, hverdict, ?_⟩)
    by_contra hfull
    exact hleft (if_pos (by omega))
  | stableConfirmed =>
    simp only [hverdict, hdrift] at hleft
    refine .inr (.inr ⟨rfl, ?_⟩)
    by_contra hshort
    exact hleft (by rw [if_pos ⟨.inl trivial, by omega⟩])
  | insufficient =>
    simp only [hverdict] at hleft
    exact absurd hdrift hleft

theorem Restarts.leaves (h : Restarts enterRequired state consensus) :
    (advance enterRequired clearRequired state consensus).regime = .suspect := by
  obtain ⟨-, hverdict, hshort⟩ := h
  simp only [advance, hverdict]
  exact if_neg (by omega)

/-- A drift verdict does not end a streak of stable verdicts. -/
theorem not_suffix_of_drift {rounds : List Consensus}
    (hverdict : consensus.verdict = .driftConfirmed)
    (hclear : 1 ≤ clearRequired) :
    ¬ List.replicate clearRequired .stableConfirmed <:+ verdicts (rounds ++ [consensus]) := by
  intro hstreak
  obtain ⟨earlier, hearlier⟩ := replicate_suffix_of_le hclear hstreak
  have hlast := congrArg List.getLast? hearlier
  simp [verdicts, hverdict] at hlast

/-- A run leaves DRIFT only as declared exactly when no round restarts the entry streak while
the regime is DRIFT. -/
theorem left_as_declared_iff (enterRequired clearRequired : ℕ) (history : List Consensus)
    (hclear : 1 ≤ clearRequired) :
    LeftAsDeclared enterRequired clearRequired history ↔
      Along (advance enterRequired clearRequired)
        (fun state consensus => ¬ Restarts enterRequired state consensus) {} history := by
  rw [along_iff]
  constructor
  · intro h before consensus later hsplit hrestarts
    change Restarts enterRequired (after enterRequired clearRequired before) consensus at hrestarts
    have hleft : (after enterRequired clearRequired (before ++ [consensus])).regime ≠ .drift := by
      rw [after_concat, Restarts.leaves hrestarts]
      decide
    rcases h.exits before consensus later hsplit hrestarts.1 hleft with hfail | hstreak
    · rw [hrestarts.2.1] at hfail
      exact absurd hfail (by decide)
    · exact not_suffix_of_drift hrestarts.2.1 hclear hstreak
  · intro h
    refine ⟨fun before consensus later hsplit hdrift hleft => ?_, fun before later _ hdrift => ?_⟩
    · rw [after_concat] at hleft
      rcases leaves_drift hdrift hleft with hfail | hrestarts | ⟨hstable, hfull⟩
      · exact .inl hfail
      · exact absurd hrestarts (h before consensus later hsplit)
      · have hstreak := replicate_suffix_concat
          (Explains.run enterRequired clearRequired before).clearing
        refine .inr ?_
        rw [verdicts, List.map_append, List.map_singleton, hstable]
        exact replicate_suffix_of_le hfull hstreak
    · exact (Explains.run enterRequired clearRequired before).entered hdrift

/-- A round with a verdict and no detectors. -/
def round (verdict : Verdict) : Consensus := ⟨verdict, [], 0, 0⟩

/-- DRIFT is entered, one stable round interrupts the streak, and drift is confirmed again. -/
def interruptedDrift : List Consensus :=
  [round .driftConfirmed, round .driftConfirmed, round .stableConfirmed, round .driftConfirmed]

theorem drift_left_for_suspect : ¬ LeftAsDeclared 2 3 interruptedDrift := by
  intro h
  have hexit := h.exits (interruptedDrift.take 3) (round .driftConfirmed) [] rfl rfl (by decide)
  rcases hexit with hfail | hstreak
  · exact absurd hfail (by decide)
  · exact absurd hstreak (by decide)

/-- The law on an uninterrupted entry and a clearing. -/
theorem cleared_as_declared :
    LeftAsDeclared 2 1 [round .driftConfirmed, round .driftConfirmed, round .stableConfirmed] ↔
      Along (advance 2 1) (fun state consensus => ¬ Restarts 2 state consensus) {}
        [round .driftConfirmed, round .driftConfirmed, round .stableConfirmed] :=
  left_as_declared_iff 2 1 _ (by decide)

end ChatmanEcosystem.Detectors
