import ChatmanEcosystem.Common.Once
import ChatmanEcosystem.Console.ReferralLedger

/-!
# How often a referral is credited

Any interleaving of any number of calls. The row is read before the call of
Stripe and marked after it, and nothing keeps another call from reading it in
between; a call whose update fails leaves the row as if it had never been applied.

Results:

* `Phase.resume_cases`: the ways a call goes on.
* `hold_next`: what a step preserves when it is `Undisturbed`.
* `creditedOnce_of_undisturbed`: in every run whose steps are all undisturbed for a row, at most
  one balance transaction is created for it.
-/

namespace ChatmanEcosystem.Console.Referral

open Common Common.Concurrent

/-! ## The property and the condition -/

/-- At most one balance transaction is created for the row `id`. -/
def CreditedOnce (id : String) (ledger : Ledger) : Prop :=
  (ledger.transactions.filter fun transaction => transaction.credit = id).length ≤ 1

/-- The row `id` is marked. -/
def Applied (id : String) (ledger : Ledger) : Prop :=
  ∃ row ∈ findCredit ledger.rows id, row.appliedAt.isSome = true

instance (id : String) : DecidablePred (CreditedOnce id) := fun ledger => by
  unfold CreditedOnce; infer_instance

instance (id : String) : DecidablePred (Applied id) := fun ledger => by
  unfold Applied; infer_instance

/-- The call has a transaction for the row `id`, and has not marked the row. -/
def Phase.owes (id : String) : Phase → Bool
  | .update existing _ => existing.id = id
  | _ => false

/-- A call that stands at `phase` may go on with the answer. -/
def Phase.Undisturbed (id : String) (system : System Ledger Phase) (phase : Phase)
    (answer : Answer) : Prop :=
  match phase, answer with
  | .balance existing _, .balance (.ok _) =>
    existing.id = id → ¬ Applied id system.shared ∧ ∀ call ∈ system.calls, call.owes id = false
  | .update existing _, .update (.error _) => existing.id ≠ id
  | _, _ => True

instance (id : String) (system : System Ledger Phase) (phase : Phase) (answer : Answer) :
    Decidable (phase.Undisturbed id system answer) := by
  unfold Phase.Undisturbed; split <;> infer_instance

/-- A transaction for the row `id` is created only while the row is unmarked and no other call has
one for it that is not marked yet; and the update of such a call does not fail. -/
def Undisturbed (id : String) (system : System Ledger Phase) : Event Request Answer Empty → Prop
  | .answer i answer => ∀ phase ∈ system.calls[i]?, phase.Undisturbed id system answer
  | .call _ | .move _ => True

instance (id : String) (system : System Ledger Phase) (event : Event Request Answer Empty) :
    Decidable (Undisturbed id system event) := by
  unfold Undisturbed; split <;> infer_instance

/-! ## The invariant -/

/-- The row that a call is about, once it has read it. -/
def Phase.credit? : Phase → Option String
  | .org existing | .subscription existing | .balance existing _ | .update existing _ =>
    some existing.id
  | _ => none

/-- The transactions for the row `id`, and their mark on the row. -/
def marking (id : String) : Marking Ledger Phase BalanceTransaction where
  effects := Ledger.transactions
  about transaction := transaction.credit = id
  marked := Applied id
  owes := Phase.owes id
  knows ledger phase := phase.credit? = some id → (findCredit ledger.rows id).isSome = true

/-! ## How a call goes on -/

theorem Phase.pooled_cases (result : K8sResult Bool) (next : Phase) :
    Phase.pooled result next = next ∨ ∃ outcome, Phase.pooled result next = .done outcome := by
  rcases result with error | _ | _
  · exact .inr ⟨_, rfl⟩
  · exact .inr ⟨_, rfl⟩
  · exact .inl rfl

theorem Phase.ofOrg_cases (referredOrgId : String) (result : K8sResult (Option String))
    (next : Phase) : Phase.ofOrg referredOrgId result next = next ∨
      ∃ outcome, Phase.ofOrg referredOrgId result next = .done outcome := by
  rcases result with error | _ | _
  · exact .inr ⟨_, rfl⟩
  · exact .inr ⟨_, rfl⟩
  · exact .inl rfl

theorem Phase.found_cases (credentials : Bool) (id : String) (stored : Option ReferralCredit) :
    (∃ outcome, Phase.found credentials id stored = .done outcome) ∨
      ∃ existing, stored = some existing ∧ Phase.found credentials id stored = .org existing := by
  cases stored with
  | none => exact .inl ⟨_, rfl⟩
  | some existing =>
    simp only [Phase.found]
    split_ifs
    · exact .inl ⟨_, rfl⟩
    · exact .inr ⟨existing, rfl, rfl⟩
    · exact .inl ⟨_, rfl⟩

theorem Phase.billed_cases (existing : ReferralCredit)
    (result : K8sResult (Option StoredSubscription)) :
    (∃ outcome, Phase.billed existing result = .done outcome) ∨
      ∃ customerId, Phase.billed existing result = .balance existing customerId := by
  cases result with
  | error error => exact .inl ⟨_, rfl⟩
  | ok stored =>
    simp only [Phase.billed]
    split
    · exact .inl ⟨_, rfl⟩
    · exact .inr ⟨_, rfl⟩

/-- The call goes on without a write. -/
structure Phase.Quiet (ledger : Ledger) (phase new : Phase) : Prop where
  before : ∀ id, phase.owes id = false
  after : ∀ id, new.owes id = false
  credit : ∀ id ∈ new.credit?, phase.credit? = some id ∨ (findCredit ledger.rows id).isSome = true

variable {ledger : Ledger} {phase : Phase}

theorem Phase.Quiet.done {new : Phase} (h : ∀ id, phase.owes id = false)
    (hnew : ∃ outcome, new = .done outcome) : Phase.Quiet ledger phase new := by
  obtain ⟨outcome, rfl⟩ := hnew
  exact ⟨h, fun _ => rfl, fun _ hid => (by cases hid)⟩

/-- The ways a call goes on. -/
theorem Phase.resume_cases {credentials : Bool} {answer : Answer} {after : Phase × Ledger}
    (h : phase.resume credentials ledger answer = some after) :
    (∃ new, Phase.Quiet ledger phase new ∧ after = (new, ledger)) ∨
    -- a row is inserted
    (∃ (row : ReferralCredit) (outcome : Outcome), (∀ id, phase.owes id = false) ∧
      after = (.done outcome, { ledger with rows := ledger.rows ++ [row] })) ∨
    -- Stripe creates a transaction
    (∃ existing customerId id, phase = .balance existing customerId ∧ answer = .balance (.ok id) ∧
      after = (.update existing id, { ledger with
        transactions := newTransaction existing customerId id :: ledger.transactions })) ∨
    -- the row is marked, or the update fails
    ∃ existing transactionId outcome, phase = .update existing transactionId ∧
      ((∃ error, answer = .update (.error error) ∧ after = (.done outcome, ledger)) ∨
        ∃ now, after = (.done outcome,
          { ledger with rows := updateCredit ledger.rows existing.id transactionId now })) := by
  unfold Phase.resume at h
  split at h
  · -- `draftOrg`
    obtain rfl := Option.some.inj h
    refine .inl ⟨_, ?_, rfl⟩
    rcases Phase.ofOrg_cases _ _ _ with hnew | hnew
    · rw [hnew]
      exact ⟨fun _ => rfl, fun _ => rfl, fun _ hid => (by cases hid)⟩
    · exact .done (fun _ => rfl) hnew
  · -- `draftPool`
    obtain rfl := Option.some.inj h
    refine .inl ⟨_, ?_, rfl⟩
    rcases Phase.pooled_cases _ _ with hnew | hnew
    · rw [hnew]
      exact ⟨fun _ => rfl, fun _ => rfl, fun _ hid => (by cases hid)⟩
    · exact .done (fun _ => rfl) hnew
  · obtain rfl := Option.some.inj h
    exact .inl ⟨_, .done (fun _ => rfl) ⟨_, rfl⟩, rfl⟩
  · split_ifs at h
    exact .inr (.inl ⟨_, _, fun _ => rfl, (Option.some.inj h).symm⟩)
  · -- `pool`
    obtain rfl := Option.some.inj h
    refine .inl ⟨_, ?_, rfl⟩
    rcases Phase.pooled_cases _ _ with hnew | hnew
    · rw [hnew]
      exact ⟨fun _ => rfl, fun _ => rfl, fun _ hid => (by cases hid)⟩
    · exact .done (fun _ => rfl) hnew
  · obtain rfl := Option.some.inj h
    exact .inl ⟨_, .done (fun _ => rfl) ⟨_, rfl⟩, rfl⟩
  · -- `row`
    rename_i id
    obtain rfl := Option.some.inj h
    refine .inl ⟨_, ?_, rfl⟩
    rcases Phase.found_cases _ _ _ with hnew | ⟨existing, hstored, hnew⟩
    · exact .done (fun _ => rfl) hnew
    · rw [hnew]
      refine ⟨fun _ => rfl, fun _ => rfl, fun credit hcredit => .inr ?_⟩
      obtain rfl := Option.some.inj hcredit
      have hrow : existing.id = id := by simpa using List.find?_some hstored
      rw [hrow, hstored]
      rfl
  · -- `org`
    obtain rfl := Option.some.inj h
    refine .inl ⟨_, ?_, rfl⟩
    rcases Phase.ofOrg_cases _ _ _ with hnew | hnew
    · rw [hnew]
      exact ⟨fun _ => rfl, fun _ => rfl, fun _ hid => .inl hid⟩
    · exact .done (fun _ => rfl) hnew
  · -- `subscription`
    obtain rfl := Option.some.inj h
    refine .inl ⟨_, ?_, rfl⟩
    rcases Phase.billed_cases _ _ with hnew | ⟨customerId, hnew⟩
    · exact .done (fun _ => rfl) hnew
    · rw [hnew]
      exact ⟨fun _ => rfl, fun _ => rfl, fun _ hid => .inl hid⟩
  · obtain rfl := Option.some.inj h
    exact .inl ⟨_, .done (fun _ => rfl) ⟨_, rfl⟩, rfl⟩
  · exact .inr (.inr (.inl ⟨_, _, _, rfl, rfl, (Option.some.inj h).symm⟩))
  · exact .inr (.inr (.inr ⟨_, _, _, rfl, .inl ⟨_, rfl, (Option.some.inj h).symm⟩⟩))
  · obtain rfl := Option.some.inj h
    split
    · exact .inr (.inr (.inr ⟨_, _, _, rfl, .inr ⟨_, rfl⟩⟩))
    · exact .inr (.inr (.inr ⟨_, _, _, rfl, .inr ⟨_, rfl⟩⟩))
  · cases h

/-! ## What an undisturbed step preserves -/

section

variable {id : String} {system : System Ledger Phase} {i : ℕ}

variable {ledger : Ledger}

theorem Applied.concat (h : Applied id ledger) (row : ReferralCredit) :
    Applied id { ledger with rows := ledger.rows ++ [row] } := by
  obtain ⟨found, hfound, hmarked⟩ := h
  refine ⟨found, ?_, hmarked⟩
  rw [findCredit_concat_of_isSome row (by rw [hfound]; rfl)]
  exact hfound

theorem Applied.update (h : Applied id ledger) (credit transactionId : String) (now : ℤ) :
    Applied id { ledger with rows := updateCredit ledger.rows credit transactionId now } := by
  obtain ⟨found, hfound, hmarked⟩ := h
  show ∃ row ∈ findCredit (updateCredit ledger.rows credit transactionId now) id, _
  rw [findCredit_updateCredit, hfound]
  split_ifs
  · exact ⟨_, rfl, rfl⟩
  · exact ⟨found, rfl, hmarked⟩

/-- A row that can be found is found after an insertion and after an update. -/
theorem marking_knows_update {phase : Phase} (credit transactionId : String) (now : ℤ)
    (h : (marking id).knows ledger phase) :
    (marking id).knows
      { ledger with rows := updateCredit ledger.rows credit transactionId now } phase := by
  intro hid
  show (findCredit (updateCredit _ _ _ _) id).isSome = true
  rw [findCredit_updateCredit]
  split_ifs
  · rw [Option.isSome_map]
    exact h hid
  · exact h hid

theorem marking_knows_concat {phase : Phase} (row : ReferralCredit)
    (h : (marking id).knows ledger phase) :
    (marking id).knows { ledger with rows := ledger.rows ++ [row] } phase := by
  intro hid
  show (findCredit (ledger.rows ++ [row]) id).isSome = true
  rw [findCredit_concat_of_isSome row (h hid)]
  exact h hid

/-- The update of a call marks its row. -/
theorem applied_updateCredit {existing : ReferralCredit} {transactionId : String}
    (hfound : (marking id).knows ledger (.update existing transactionId)) (now : ℤ)
    (howes : (Phase.update existing transactionId).owes id = true) :
    Applied id { ledger with rows := updateCredit ledger.rows existing.id transactionId now } := by
  have hid : existing.id = id := of_decide_eq_true howes
  obtain ⟨row, hrow⟩ := Option.isSome_iff_exists.mp (hfound (congrArg some hid))
  refine ⟨applied transactionId now row, ?_, rfl⟩
  show findCredit (updateCredit _ _ _ _) id = _
  rw [findCredit_updateCredit, if_pos hid, hrow]
  rfl

/-- An undisturbed step keeps the assertions. -/
theorem hold_next (toLowerCase : String → String) (credentials : Bool)
    (system : System Ledger Phase) (event : Event Request Answer Empty)
    (h : (marking id).assertions.Hold system) (hundisturbed : Undisturbed id system event) :
    (marking id).assertions.Hold ((program toLowerCase credentials).next system event) := by
  refine Assertions.hold_next (C := Undisturbed id) ?_ ?_ ?_ system event h hundisturbed
  · intro system request h _
    refine Marking.hold_enters h fun hid => ?_
    exfalso
    cases request with
    | apply id => cases hid
    | record input =>
      simp only [program, Phase.enter] at hid
      split at hid <;> cases hid
  · intro system i answer phase after h hundisturbed hcall hresume
    have hphase := hundisturbed phase hcall
    have hknows := h.call i phase hcall
    rcases Phase.resume_cases hresume with ⟨new, hquiet, rfl⟩ | ⟨row, outcome, howes, rfl⟩ |
      ⟨existing, customerId, transactionId, rfl, rfl, rfl⟩ |
      ⟨existing, transactionId, outcome, rfl, ⟨error, rfl, rfl⟩ | ⟨now, rfl⟩⟩
    · refine Marking.hold_writes h hcall rfl (fun hid => ?_) (fun _ hfound => hfound)
        (fun hmark => hmark) ?_
      · exact (hquiet.credit _ hid).elim hknows fun hfound => hfound
      · intro howes
        cases (hquiet.before _).symm.trans howes
    · refine Marking.hold_writes h hcall rfl (fun hid => (by cases hid))
        (fun _ => marking_knows_concat row) (fun hmark => hmark.concat row) fun how => ?_
      cases (howes _).symm.trans how
    · exact Marking.hold_creates h hcall rfl hknows (fun _ hfound => hfound)
        (fun hmark => hmark) rfl
        (fun habout => hphase (of_decide_eq_true habout)) fun habout => habout
    · refine Marking.hold_writes h hcall rfl (fun hid => (by cases hid)) (fun _ hfound => hfound)
        (fun hmark => hmark) fun howes => ?_
      exact absurd (of_decide_eq_true howes) hphase
    · exact Marking.hold_writes h hcall rfl (fun hid => (by cases hid))
        (fun _ => marking_knows_update _ _ now) (fun hmark => hmark.update _ _ now) fun howes =>
          .inl (applied_updateCredit hknows now howes)
  · intro system change
    exact change.elim

end

/-! ## Runs -/

/-- No call, no row, no transaction. -/
def init : System Ledger Phase := { shared := .empty, calls := [] }

/-- In every run whose steps are all undisturbed for the row `id`, at most one balance transaction
is created for it. -/
theorem creditedOnce_of_undisturbed (toLowerCase : String → String) (credentials : Bool)
    (id : String) (events : List (Event Request Answer Empty))
    (h : Along (program toLowerCase credentials).next (Undisturbed id) init events) :
    Always (program toLowerCase credentials).next (fun system => CreditedOnce id system.shared)
      init events := by
  have hhold : Always (program toLowerCase credentials).next (marking id).assertions.Hold init
      events :=
    always_of_along (hold_next toLowerCase credentials) (Marking.hold_init rfl) h
  exact hhold.mono fun system hhold => hhold.shared

/-- A partner's credit of ten dollars, with the id `credit-1`. -/
def recorded : List (Event Request Answer Empty) :=
  [.call (.record { referrerOrgId := none, referrerPartnerId := some " northwind ",
                    referredOrgId := "acme", creditAmountCents := 1000, currency := "usd",
                    reason := "channel deal" }),
    .answer 0 (.org (.ok (some "gymact"))), .answer 0 (.pool (.ok true)),
    .answer 0 (.insert (.ok ("credit-1", 0)))]

/-- The subscription of the referred organisation. -/
def subscribed : StoredSubscription where
  tenantNamespace := "gymact"
  stripeCustomerId := "cus_1"
  stripeSubscriptionId := some "sub_1"
  status := .active
  priceId := some "price_1"
  currentPeriodEnd := none
  updatedAt := 0
  lastEventId := none
  lastEventType := none

/-- An application of the credit up to the call of Stripe. -/
def reads (i : ℕ) : List (Event Request Answer Empty) :=
  [.answer i (.pool (.ok true)), .answer i (.row (.ok ())), .answer i (.org (.ok (some "gymact"))),
    .answer i (.subscription (.ok (some subscribed)))]

/-- The answers of Stripe and of the update. -/
def credits (i : ℕ) (transactionId : String) (update : K8sResult ℤ) :
    List (Event Request Answer Empty) :=
  [.answer i (.balance (.ok transactionId)), .answer i (.update update)]

/-- A credit that is recorded and then applied twice, one call after the other. -/
theorem creditedOnce_sequential :
    let events := recorded ++ [.call (.apply "credit-1")] ++ reads 1 ++ credits 1 "txn_1" (.ok 5) ++
      [.call (.apply "credit-1")] ++ reads 2 ++ credits 2 "txn_2" (.ok 6)
    (run (program String.toLower true).next init events).shared.transactions.map (·.id) =
      ["txn_1"] ∧
    Always (program String.toLower true).next
      (fun system => CreditedOnce "credit-1" system.shared) init
      events := by
  intro events
  exact ⟨by decide +kernel,
    creditedOnce_of_undisturbed String.toLower true "credit-1" events (by decide +kernel)⟩

/-- Two applications that overlap, and an application after one whose update has failed, create
two transactions. -/
theorem credited_twice :
    let overlapping := recorded ++ [.call (.apply "credit-1"), .call (.apply "credit-1")] ++
      reads 1 ++ reads 2 ++ credits 1 "txn_1" (.ok 5) ++ credits 2 "txn_2" (.ok 6)
    let unmarked := recorded ++ [.call (.apply "credit-1")] ++ reads 1 ++
      credits 1 "txn_1" (.error "timeout") ++ [.call (.apply "credit-1")] ++ reads 2 ++
      credits 2 "txn_2" (.ok 6)
    ∀ events ∈ [overlapping, unmarked],
      ¬ Always (program String.toLower true).next
        (fun system => CreditedOnce "credit-1" system.shared) init
        events := by
  intro overlapping unmarked events hevents h
  have hfinal : CreditedOnce "credit-1" (run
    (program String.toLower true).next init events).shared :=
    always_iff.mp h events [] (List.append_nil _).symm
  have hnot : ∀ events ∈ [overlapping, unmarked],
      ¬ CreditedOnce "credit-1" (run (program String.toLower true).next init events).shared := by
    decide +kernel
  exact hnot events hevents hfinal

end ChatmanEcosystem.Console.Referral
