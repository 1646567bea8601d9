import ChatmanEcosystem.Common.Fallible
import ChatmanEcosystem.Py.Text
import ChatmanEcosystem.Py.Value
import Mathlib.Data.Finset.Card

/-!
# Strict majorities

Model of `scripts/release_train/quorum_sensor_admission/quorum.py`. More than
half of a universe of replicas agrees on a generation and a value.

Results:

* `Majority.inter`: two majorities of a universe have a replica in common.
* `strictMajority_eq_ok`: what a result stands on.
* `strictMajority_ne_multiple`: there are never two strict majorities in a list.
* `strictMajority_agree`: two lists in which no replica votes twice for different
  pairs do not have different results.
-/

namespace ChatmanEcosystem.ReleaseTrain.QuorumSensor

open Common Py Rust

/-! ## Votes -/

/-- `Subject` (`subject.py`, lines 12–15). -/
structure Subject where
  repository : String
  sha : String
  deriving DecidableEq

/-- `ReplicaVote` (lines 10–19). -/
structure ReplicaVote where
  subject : Subject
  replica : String
  generation : ℤ
  valueDigest : String
  named : strip replica.toList ≠ []
  counted : 1 ≤ generation
  digest : valueDigest.length = 64
  deriving DecidableEq

/-- `(v.generation, v.value_digest)`. -/
def ReplicaVote.key (vote : ReplicaVote) : ℤ × String := (vote.generation, vote.valueDigest)

/-- `quorum_size` (lines 22–25). -/
def quorumSize (universeSize : ℕ) : Except (Raised String) ℕ := do
  ensure (1 ≤ universeSize) (.refusal "EMPTY_REPLICA_UNIVERSE")
  return universeSize / 2 + 1

/-- `QuorumResult` (lines 28–33). -/
structure QuorumResult where
  generation : ℤ
  valueDigest : String
  agreeingReplicas : List String
  required : ℕ
  deriving DecidableEq

/-- The checks of the votes (lines 39–47), with the replicas that have voted. -/
def checkVotes (subject : Subject) (knownReplicas : List String) :
    List String → List ReplicaVote → Except (Raised String) Unit
  | _, [] => .ok ()
  | seen, vote :: votes => do
    ensure (vote.subject = subject) (.refusal "FOREIGN_QUORUM_SUBJECT")
    ensure (vote.replica ∈ knownReplicas) (.refusal "FOREIGN_QUORUM_REPLICA")
    ensure (vote.replica ∉ seen) (.refusal "DUPLICATE_QUORUM_REPLICA")
    checkVotes subject knownReplicas (vote.replica :: seen) votes

/-- `Counter(keys).items()`: the keys in the order of their first occurrence. -/
def counter (keys : List (ℤ × String)) : List ((ℤ × String) × ℕ) :=
  keys.reverse.dedup.reverse.map fun key => (key, keys.count key)

/-- The pairs that are counted often enough (lines 48 and 50). -/
def candidatesOf (votes : List ReplicaVote) (required : ℕ) : List (ℤ × String) :=
  ((counter (votes.map (·.key))).filter fun item => required ≤ item.2).map Prod.fst

/-- `strict_majority` (lines 36–57). -/
def strictMajority (subject : Subject) (knownReplicas : List String) (votes : List ReplicaVote) :
    Except (Raised String) (Option QuorumResult) := do
  ensure knownReplicas.Nodup (.refusal "INVALID_REPLICA_UNIVERSE")
  checkVotes subject knownReplicas [] votes
  let required ← quorumSize knownReplicas.length
  ensure ((candidatesOf votes required).length ≤ 1) (.refusal "MULTIPLE_STRICT_MAJORITY_VALUES")
  match candidatesOf votes required with
  | [] => return none
  | key :: _ =>
    let replicas := sorted ((votes.filter fun v => v.key = key).map (·.replica))
    return some
      { generation := key.1, valueDigest := key.2, agreeingReplicas := replicas, required }

/-! ## Majorities -/

/-- More than half of a universe. -/
structure Majority {α : Type*} [DecidableEq α] (all part : Finset α) : Prop where
  subset : part ⊆ all
  most : all.card < 2 * part.card

/-- Two majorities have a member in common. -/
theorem Majority.inter {α : Type*} [DecidableEq α] {all part other : Finset α}
    (h : Majority all part) (h' : Majority all other) : ∃ a, a ∈ part ∧ a ∈ other := by
  have hmost := h.most
  have hmost' := h'.most
  obtain ⟨a, ha⟩ := Finset.inter_nonempty_of_card_lt_card_add_card h.subset h'.subset (by omega)
  exact ⟨a, Finset.mem_inter.mp ha⟩

variable {subject other : Subject} {knownReplicas : List String} {votes others : List ReplicaVote}
  {key : ℤ × String}

/-- The replicas that vote for a pair. -/
def voters (votes : List ReplicaVote) (key : ℤ × String) : Finset String :=
  ((votes.filter fun v => v.key = key).map (·.replica)).toFinset

theorem mem_voters {replica : String} :
    replica ∈ voters votes key ↔ ∃ v ∈ votes, v.key = key ∧ v.replica = replica := by
  simp [voters, and_assoc]

/-- What the checks of the votes establish. -/
structure Checked (subject : Subject) (knownReplicas : List String) (votes : List ReplicaVote) :
    Prop where
  whole : knownReplicas.Nodup
  subject : ∀ v ∈ votes, v.subject = subject
  known : ∀ v ∈ votes, v.replica ∈ knownReplicas
  once : (votes.map (·.replica)).Nodup

theorem checkVotes_eq_ok {seen : List String} :
    checkVotes subject knownReplicas seen votes = .ok () ↔
      (∀ v ∈ votes, v.subject = subject ∧ v.replica ∈ knownReplicas ∧ v.replica ∉ seen) ∧
        (votes.map (·.replica)).Nodup := by
  induction votes generalizing seen with
  | nil => simp [checkVotes]
  | cons vote votes ih =>
    rw [List.forall_mem_cons, List.map_cons, List.nodup_cons, List.mem_map]
    simp only [checkVotes, bind_eq_ok, ensure_eq_ok, ih, exists_const, List.mem_cons, not_or]
    constructor
    · rintro ⟨hsubject, hknown, hseen, hrest, hnodup⟩
      refine ⟨⟨⟨hsubject, hknown, hseen⟩, fun v hv => ?_⟩, ?_, hnodup⟩
      · exact ⟨(hrest v hv).1, (hrest v hv).2.1, (hrest v hv).2.2.2⟩
      · rintro ⟨v, hv, hsame⟩
        exact (hrest v hv).2.2.1 hsame
    · rintro ⟨⟨⟨hsubject, hknown, hseen⟩, hrest⟩, hnew, hnodup⟩
      refine ⟨hsubject, hknown, hseen, fun v hv => ?_, hnodup⟩
      exact ⟨(hrest v hv).1, (hrest v hv).2.1, fun hsame => hnew ⟨v, hv, hsame⟩, (hrest v hv).2.2⟩

theorem refuses_checkVotes {seen : List String} :
    Refuses (· ≠ .refusal "MULTIPLE_STRICT_MAJORITY_VALUES")
      (checkVotes subject knownReplicas seen votes) := by
  induction votes generalizing seen with
  | nil => exact refuses_ok
  | cons vote votes ih =>
    rw [checkVotes]
    refine (refuses_ensure (by decide)).bind fun _ _ => ?_
    refine (refuses_ensure (by decide)).bind fun _ _ => ?_
    exact (refuses_ensure (by decide)).bind fun _ _ => ih

/-- A pair that is counted often enough has a majority of the replicas. -/
theorem Checked.majority (h : Checked subject knownReplicas votes)
    (hcount : knownReplicas.length / 2 + 1 ≤ (votes.map (·.key)).count key) :
    Majority knownReplicas.toFinset (voters votes key) := by
  constructor
  · intro replica hreplica
    obtain ⟨v, hv, -, rfl⟩ := mem_voters.mp hreplica
    exact List.mem_toFinset.mpr (h.known v hv)
  · have hvoters : (voters votes key).card = (votes.map (·.key)).count key := by
      have hnodup : ((votes.filter fun v => v.key = key).map (·.replica)).Nodup :=
        h.once.sublist (List.filter_sublist.map _)
      rw [voters, List.toFinset_card_of_nodup hnodup, List.length_map, List.count_eq_countP,
        List.countP_map, List.countP_eq_length_filter]
      refine congrArg List.length (List.filter_congr fun v _ => ?_)
      rw [Function.comp_apply, beq_eq_decide]
    rw [List.toFinset_card_of_nodup h.whole, hvoters]
    omega

/-- Two pairs that a majority votes for are the same if no replica votes for both. -/
theorem eq_of_majorities {key' : ℤ × String}
    (h : Majority knownReplicas.toFinset (voters votes key))
    (h' : Majority knownReplicas.toFinset (voters others key'))
    (honce : ∀ v ∈ votes, ∀ w ∈ others, v.replica = w.replica → v.key = w.key) : key = key' := by
  obtain ⟨replica, hin, hin'⟩ := h.inter h'
  obtain ⟨v, hv, rfl, rfl⟩ := mem_voters.mp hin
  obtain ⟨w, hw, rfl, hsame⟩ := mem_voters.mp hin'
  exact honce v hv w hw hsame.symm

/-! ## Results -/

theorem mem_candidatesOf {required : ℕ} (h : key ∈ candidatesOf votes required) :
    required ≤ (votes.map (·.key)).count key := by
  obtain ⟨item, hitem, rfl⟩ := List.mem_map.mp h
  obtain ⟨hitem, hcount⟩ := List.mem_filter.mp hitem
  obtain ⟨key, -, rfl⟩ := List.mem_map.mp hitem
  exact of_decide_eq_true hcount

theorem nodup_candidatesOf {required : ℕ} : (candidatesOf votes required).Nodup := by
  have hkeys : ((counter (votes.map (·.key))).map Prod.fst).Nodup := by
    rw [counter, List.map_map]
    refine (List.nodup_reverse.mpr (List.nodup_dedup _)).map fun _ _ h => h
  exact hkeys.sublist (List.filter_sublist.map _)

/-- There is one candidate at most. -/
theorem Checked.length_candidatesOf (h : Checked subject knownReplicas votes) :
    (candidatesOf votes (knownReplicas.length / 2 + 1)).length ≤ 1 := by
  have honce : ∀ v ∈ votes, ∀ w ∈ votes, v.replica = w.replica → v.key = w.key := by
    intro v hv w hw hsame
    rw [List.inj_on_of_nodup_map h.once hv hw hsame]
  cases hcandidates : candidatesOf votes (knownReplicas.length / 2 + 1) with
  | nil => exact Nat.zero_le _
  | cons key rest =>
    cases rest with
    | nil => exact le_rfl
    | cons key' rest =>
      have hnodup : (candidatesOf votes (knownReplicas.length / 2 + 1)).Nodup := nodup_candidatesOf
      rw [hcandidates] at hnodup
      have hmajority : ∀ key ∈ candidatesOf votes (knownReplicas.length / 2 + 1),
          Majority knownReplicas.toFinset (voters votes key) :=
        fun key hkey => h.majority (mem_candidatesOf hkey)
      rw [hcandidates] at hmajority
      have hsame := eq_of_majorities (hmajority key (by simp)) (hmajority key' (by simp)) honce
      simp [hsame] at hnodup

/-- The checks before the votes are counted. -/
theorem strictMajority_eq (subject : Subject) (knownReplicas : List String)
    (votes : List ReplicaVote) :
    (∃ raised, strictMajority subject knownReplicas votes = .error raised ∧
      raised ≠ .refusal "MULTIPLE_STRICT_MAJORITY_VALUES") ∨
    Checked subject knownReplicas votes ∧
      strictMajority subject knownReplicas votes =
        .ok ((candidatesOf votes (knownReplicas.length / 2 + 1)).head?.map fun key =>
          { generation := key.1
            valueDigest := key.2
            agreeingReplicas := sorted ((votes.filter fun v => v.key = key).map (·.replica))
            required := knownReplicas.length / 2 + 1 }) := by
  by_cases hwhole : knownReplicas.Nodup
  · cases hvotes : checkVotes subject knownReplicas [] votes with
    | error raised =>
      refine .inl ⟨raised, ?_, refuses_checkVotes raised hvotes⟩
      simp [strictMajority, ensure, hwhole, hvotes, bind, Except.bind]
    | ok _ =>
      by_cases hsize : 1 ≤ knownReplicas.length
      · obtain ⟨hall, honce⟩ := checkVotes_eq_ok.mp hvotes
        have hchecked : Checked subject knownReplicas votes :=
          ⟨hwhole, fun v hv => (hall v hv).1, fun v hv => (hall v hv).2.1, honce⟩
        have hlength := hchecked.length_candidatesOf
        refine .inr ⟨hchecked, ?_⟩
        simp only [strictMajority, quorumSize, ensure, hwhole, hvotes, hsize, hlength, if_true,
          bind, Except.bind, pure, Except.pure]
        cases candidatesOf votes (knownReplicas.length / 2 + 1) with
        | nil => rfl
        | cons key rest => rfl
      · refine .inl ⟨.refusal "EMPTY_REPLICA_UNIVERSE", ?_, by decide⟩
        simp only [strictMajority, quorumSize, ensure, hwhole, hvotes, hsize, if_true, if_false,
          bind, Except.bind]
  · refine .inl ⟨.refusal "INVALID_REPLICA_UNIVERSE", ?_, by decide⟩
    simp only [strictMajority, ensure, hwhole, if_false, bind, Except.bind]

/-- What a result stands on. -/
theorem strictMajority_eq_ok {result : QuorumResult}
    (h : strictMajority subject knownReplicas votes = .ok (some result)) :
    Majority knownReplicas.toFinset
      (voters votes (result.generation, result.valueDigest)) := by
  rcases strictMajority_eq subject knownReplicas votes with ⟨raised, herror, -⟩ | ⟨hchecked, hok⟩
  · rw [herror] at h
    exact nomatch h
  · rw [hok] at h
    obtain ⟨key, hkey, rfl⟩ := Option.map_eq_some_iff.mp (Except.ok.inj h)
    exact hchecked.majority (mem_candidatesOf (List.mem_of_mem_head? hkey))

/-- Strict majorities of one universe do not disagree, and a list has one of them at most. -/
theorem strict_majorities_agree (knownReplicas : List String) :
    (∀ (subject other : Subject) (votes others : List ReplicaVote) (result result' : QuorumResult),
      (∀ v ∈ votes, ∀ w ∈ others, v.replica = w.replica → v.key = w.key) →
      strictMajority subject knownReplicas votes = .ok (some result) →
      strictMajority other knownReplicas others = .ok (some result') →
        result.generation = result'.generation ∧ result.valueDigest = result'.valueDigest) ∧
    ∀ (subject : Subject) (votes : List ReplicaVote),
      strictMajority subject knownReplicas votes ≠
        .error (.refusal "MULTIPLE_STRICT_MAJORITY_VALUES") := by
  constructor
  · intro subject other votes others result result' honce hfirst hsecond
    exact Prod.mk.inj
      (eq_of_majorities (strictMajority_eq_ok hfirst) (strictMajority_eq_ok hsecond) honce)
  · intro subject votes hmultiple
    rcases strictMajority_eq subject knownReplicas votes with ⟨raised, herror, hne⟩ | ⟨-, hok⟩
    · rw [herror] at hmultiple
      exact hne (Except.error.inj hmultiple)
    · rw [hok] at hmultiple
      exact nomatch hmultiple

end ChatmanEcosystem.ReleaseTrain.QuorumSensor
