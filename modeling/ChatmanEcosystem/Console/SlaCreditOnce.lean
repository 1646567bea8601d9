import ChatmanEcosystem.Console.SlaCredits

/-!
# How often a month is credited

Any interleaving of any number of requests and decisions. The registry remembers
one month of an organisation, and it is compared before the call of Stripe and
written after it; an approval stays usable for a day.

Results:

* `Phase.resume_cases`: the ways a call goes on.
* `hold_next`: what a step preserves when it is `Undisturbed`.
* `monthCreditedOnce_of_undisturbed`: in every run whose steps are all undisturbed for an
  organisation and a month, at most one balance transaction is created for them.
-/

namespace ChatmanEcosystem.Console.SlaCredit

open Common Common.Concurrent Js

/-! ## The property and the condition -/

/-- At most one balance transaction is created for the organisation and the month. -/
def CreditedOnce (orgId month : String) (stores : Stores) : Prop :=
  (stores.transactions.filter fun transaction =>
    transaction.orgId = orgId ∧ transaction.month = month).length ≤ 1

/-- The entry of the organisation names the month, or a later record has replaced it. -/
def Marked (orgId month : String) (stores : Stores) : Prop :=
  stores.lastMonth orgId = some month ∨ (orgId, month) ∈ stores.replaced

local instance lawfulPair : LawfulBEq (String × String) := inferInstance

instance (orgId month : String) : DecidablePred (CreditedOnce orgId month) := fun stores => by
  unfold CreditedOnce; infer_instance

instance (orgId month : String) : DecidablePred (Marked orgId month) := fun stores => by
  unfold Marked; infer_instance

/-- The call has a transaction for the organisation and the month, and has not recorded it. -/
def Phase.owes (orgId month : String) : Phase → Bool
  | .recordRead approved _ | .recordWrite approved _ _ =>
    approved.orgId = orgId ∧ approved.month = month
  | _ => false

/-- A call that stands at `phase` may go on with the answer. -/
def Phase.Undisturbed (orgId month : String) (system : System Stores Phase) (phase : Phase)
    (answer : Answer) : Prop :=
  match phase, answer with
  | .balance approved _ _ _, .balance (.ok _) =>
    approved.orgId = orgId ∧ approved.month = month →
      ¬ Marked orgId month system.shared ∧ ∀ call ∈ system.calls, call.owes orgId month = false
  | .recordRead approved _, .registry (.error _) | .recordWrite approved _ _, .write (.error _) =>
    ¬ (approved.orgId = orgId ∧ approved.month = month)
  | _, _ => True

instance (orgId month : String) (system : System Stores Phase) (phase : Phase) (answer : Answer) :
    Decidable (phase.Undisturbed orgId month system answer) := by
  unfold Phase.Undisturbed; split <;> infer_instance

/-- A transaction for the organisation and the month is created only while the entry of the
organisation does not name the month, no later record has replaced it, and no other call has such a
transaction that is not recorded yet; and the recording of such a call does not fail. -/
def Undisturbed (orgId month : String) (system : System Stores Phase) :
    Event Request Answer Empty → Prop
  | .answer i answer => ∀ phase ∈ system.calls[i]?, phase.Undisturbed orgId month system answer
  | .call _ | .move _ => True

instance (orgId month : String) (system : System Stores Phase)
    (event : Event Request Answer Empty) : Decidable (Undisturbed orgId month system event) := by
  unfold Undisturbed; split <;> infer_instance

/-! ## How a call goes on -/

/-- The organisation whose entry a call has found when it checked the guard. -/
def Phase.guarded : Phase → Option String
  | .sla approved | .uptime approved _ | .subscription approved _ | .retrieve approved _ _ _
  | .balance approved _ _ _ | .recordRead approved _ | .recordWrite approved _ _ =>
    some approved.orgId
  | _ => none

/-- The call goes on without a credit. -/
structure Phase.Quiet (stores : Stores) (phase new : Phase) (after : Stores) : Prop where
  registry : after.registry = stores.registry
  transactions : after.transactions = stores.transactions
  replaced : after.replaced = stores.replaced
  before : ∀ orgId month, phase.owes orgId month = false
  after : ∀ orgId month, new.owes orgId month = false
  guarded : ∀ orgId ∈ new.guarded,
    phase.guarded = some orgId ∨ stores.registry[orgId]?.isSome = true

variable {stores : Stores} {phase new : Phase}

/-- A call that has not created a transaction goes on to a phase of its own, or to an end. -/
theorem Phase.Quiet.reads (hbefore : ∀ orgId month, phase.owes orgId month = false)
    (hafter : ∀ orgId month, new.owes orgId month = false) (hguarded : ∀ orgId ∈ new.guarded,
      phase.guarded = some orgId ∨ stores.registry[orgId]?.isSome = true) :
    Phase.Quiet stores phase new stores :=
  ⟨rfl, rfl, rfl, hbefore, hafter, hguarded⟩

/-- A call that ends, or has not passed the guard. -/
theorem Phase.Quiet.unguarded {after : Stores} (hregistry : after.registry = stores.registry)
    (htransactions : after.transactions = stores.transactions)
    (hreplaced : after.replaced = stores.replaced)
    (hbefore : ∀ orgId month, phase.owes orgId month = false) (hnew : new.guarded = none) :
    Phase.Quiet stores phase new after where
  registry := hregistry
  transactions := htransactions
  replaced := hreplaced
  before := hbefore
  after orgId month := by
    cases new with
    | recordRead approved id => cases hnew
    | recordWrite approved id entry => cases hnew
    | _ => rfl
  guarded orgId hmem := by
    rw [hnew] at hmem
    cases hmem

theorem Phase.guarded_ofRegistry {orgId : String} {read : K8sResult Unit}
    {next : OrgRegistryEntry → Phase} :
    (Phase.ofRegistry stores orgId read next).guarded = none ∨
      ∃ entry, stores.registry[orgId]? = some entry ∧
        Phase.ofRegistry stores orgId read next = next entry := by
  cases read with
  | error error => exact .inl rfl
  | ok read =>
    simp only [Phase.ofRegistry]
    cases hentry : stores.registry[orgId]? with
    | none => exact .inl rfl
    | some entry => exact .inr ⟨entry, rfl, rfl⟩

theorem Phase.guarded_ofUptime (approved : Approved) (slaTier : SlaTier) (result : K8sResult ℚ) :
    (Phase.ofUptime approved slaTier result).guarded = none ∨
      ∃ creditPct, Phase.ofUptime approved slaTier result = .subscription approved creditPct := by
  cases result with
  | error error => exact .inl rfl
  | ok actualUptimePct =>
    simp only [Phase.ofUptime]
    split
    · exact .inl rfl
    · exact .inr ⟨_, rfl⟩

theorem Phase.guarded_ofSubscription (credentials : Bool) (approved : Approved) (creditPct : ℚ)
    (result : K8sResult (Option StoredSubscription)) :
    (Phase.ofSubscription credentials approved creditPct result).guarded = none ∨
      ∃ customerId subscriptionId,
        Phase.ofSubscription credentials approved creditPct result =
          .retrieve approved creditPct customerId subscriptionId := by
  cases result with
  | error error => exact .inl rfl
  | ok stored =>
    simp only [Phase.ofSubscription]
    split
    · split_ifs
      · exact .inr ⟨_, _, rfl⟩
      · exact .inl rfl
      · exact .inl rfl
    · exact .inl rfl

theorem Phase.guarded_ofRetrieve (approved : Approved) (creditPct : ℚ)
    (customerId subscriptionId : String) (result : K8sResult Subscription) :
    (Phase.ofRetrieve approved creditPct customerId subscriptionId result).guarded = none ∨
      ∃ creditCents currency,
        Phase.ofRetrieve approved creditPct customerId subscriptionId result =
          .balance approved customerId creditCents currency := by
  simp only [Phase.ofRetrieve]
  split
  · exact .inl rfl
  · exact .inr ⟨_, _, rfl⟩

theorem Phase.guarded_ofApprovals (js : JsRuntime) (orgId actor : String)
    (entry : OrgRegistryEntry) (month : String) (read : K8sResult (Option ApprovalStore)) (now : ℤ)
    (requestId : String) :
    (Phase.ofApprovals js orgId actor entry month read now requestId).guarded = none := by
  unfold Phase.ofApprovals
  split <;> rfl

/-- The ways a call goes on. -/
theorem Phase.resume_cases {js : JsRuntime} {credentials : Bool} {answer : Answer}
    {after : Phase × Stores} (h : phase.resume js credentials stores answer = some after) :
    Phase.Quiet stores phase after.1 after.2 ∨
    -- Stripe creates a transaction
    (∃ approved customerId creditCents currency id,
      phase = .balance approved customerId creditCents currency ∧ answer = .balance (.ok id) ∧
      after = (.recordRead approved id, { stores with
        transactions := Phase.newTransaction approved customerId creditCents currency id ::
          stores.transactions })) ∨
    -- the entry to be written is read, or there is none
    (∃ approved id entry, phase = .recordRead approved id ∧
      stores.registry[approved.orgId]? = some entry ∧
      after = (.recordWrite approved id entry, stores)) ∨
    (∃ approved id outcome, phase = .recordRead approved id ∧
      stores.registry[approved.orgId]? = none ∧ after = (.done outcome, stores)) ∨
    -- the recording fails
    (∃ approved id outcome, after = (.done outcome, stores) ∧
      ((phase = .recordRead approved id ∧ ∃ error, answer = .registry (.error error)) ∨
        ∃ entry error, phase = .recordWrite approved id entry ∧ answer = .write (.error error))) ∨
    -- the month is recorded
    ∃ approved id entry outcome, phase = .recordWrite approved id entry ∧
      after = (.done outcome, stores.setLastMonth approved.orgId approved.month entry) := by
  have hquiet : ∀ {new : Phase}, (∀ orgId month, phase.owes orgId month = false) →
      new.guarded = none → Phase.Quiet stores phase new stores := fun hbefore hnew =>
    .unguarded rfl rfl rfl hbefore hnew
  unfold Phase.resume at h
  split at h
  · -- `org`
    obtain rfl := Option.some.inj h
    refine .inl (hquiet (fun _ _ => rfl) ?_)
    rcases Phase.guarded_ofRegistry with hnew | ⟨entry, -, hnew⟩
    · exact hnew
    · exact congrArg Phase.guarded hnew
  · -- `role`
    obtain rfl := Option.some.inj h
    refine .inl (hquiet (fun _ _ => rfl) ?_)
    dsimp only
    split_ifs <;> rfl
  · -- `body`
    obtain rfl := Option.some.inj h
    refine .inl (hquiet (fun _ _ => rfl) ?_)
    dsimp only [Phase.ofBody]
    split_ifs <;> rfl
  · -- `approvals`
    obtain rfl := Option.some.inj h
    exact .inl (hquiet (fun _ _ => rfl) (Phase.guarded_ofApprovals ..))
  · -- `requestApproval`
    rename_i route request result
    obtain rfl := Option.some.inj h
    have hnew : (Phase.requested route request result).guarded = none := by
      cases route <;> cases result <;> rfl
    refine .inl ?_
    dsimp only
    split_ifs
    · exact .unguarded rfl rfl rfl (fun _ _ => rfl) hnew
    · exact .unguarded rfl rfl rfl (fun _ _ => rfl) hnew
  · -- `freshOrg`
    rename_i approved read
    obtain rfl := Option.some.inj h
    refine .inl ?_
    rcases @Phase.guarded_ofRegistry stores approved.orgId read (Phase.ofFreshOrg approved) with
      hnew | ⟨entry, hentry, hnew⟩
    · exact hquiet (fun _ _ => rfl) hnew
    · rw [hnew]
      dsimp only [Phase.ofFreshOrg]
      split_ifs
      · exact hquiet (fun _ _ => rfl) rfl
      · refine .reads (fun _ _ => rfl) (fun _ _ => rfl) fun orgId hmem => .inr ?_
        obtain rfl := Option.some.inj hmem
        rw [hentry]
        rfl
  · -- `sla`
    rename_i approved read
    obtain rfl := Option.some.inj h
    refine .inl ?_
    rcases @Phase.guarded_ofRegistry stores approved.orgId read fun entry =>
      .uptime approved (entry.slaTier.getD .standard) with hnew | ⟨entry, -, hnew⟩
    · exact hquiet (fun _ _ => rfl) hnew
    · rw [hnew]
      exact .reads (fun _ _ => rfl) (fun _ _ => rfl) fun _ hmem => .inl hmem
  · -- `uptime`
    obtain rfl := Option.some.inj h
    refine .inl ?_
    rcases Phase.guarded_ofUptime _ _ _ with hnew | ⟨_, hnew⟩
    · exact hquiet (fun _ _ => rfl) hnew
    · rw [hnew]
      exact .reads (fun _ _ => rfl) (fun _ _ => rfl) fun _ hmem => .inl hmem
  · -- `subscription`
    obtain rfl := Option.some.inj h
    refine .inl ?_
    rcases Phase.guarded_ofSubscription _ _ _ _ with hnew | ⟨_, _, hnew⟩
    · exact hquiet (fun _ _ => rfl) hnew
    · rw [hnew]
      exact .reads (fun _ _ => rfl) (fun _ _ => rfl) fun _ hmem => .inl hmem
  · -- `retrieve`
    obtain rfl := Option.some.inj h
    refine .inl ?_
    rcases Phase.guarded_ofRetrieve _ _ _ _ _ with hnew | ⟨_, _, hnew⟩
    · exact hquiet (fun _ _ => rfl) hnew
    · rw [hnew]
      exact .reads (fun _ _ => rfl) (fun _ _ => rfl) fun _ hmem => .inl hmem
  · obtain rfl := Option.some.inj h
    exact .inl (hquiet (fun _ _ => rfl) rfl)
  · exact .inr (.inl ⟨_, _, _, _, _, rfl, rfl, (Option.some.inj h).symm⟩)
  · exact .inr (.inr (.inr (.inr (.inl ⟨_, _, _, (Option.some.inj h).symm,
      .inl ⟨rfl, _, rfl⟩⟩))))
  · split at h
    · exact .inr (.inr (.inr (.inl ⟨_, _, _, rfl, ‹_›, (Option.some.inj h).symm⟩)))
    · exact .inr (.inr (.inl ⟨_, _, _, rfl, ‹_›, (Option.some.inj h).symm⟩))
  · exact .inr (.inr (.inr (.inr (.inl ⟨_, _, _, (Option.some.inj h).symm,
      .inr ⟨_, _, rfl, rfl⟩⟩))))
  · exact .inr (.inr (.inr (.inr (.inr ⟨_, _, _, _, rfl, (Option.some.inj h).symm⟩))))
  · -- `decision`
    split at h
    · obtain rfl := Option.some.inj h
      exact .inl (hquiet (fun _ _ => rfl) rfl)
    · obtain rfl := Option.some.inj h
      exact .inl (hquiet (fun _ _ => rfl) rfl)
  · -- `decisionWrite`
    obtain rfl := Option.some.inj h
    refine .inl ?_
    dsimp only
    split_ifs
    · exact .unguarded rfl rfl rfl (fun _ _ => rfl) rfl
    · exact .unguarded rfl rfl rfl (fun _ _ => rfl) rfl
  · cases h

/-! ## What an undisturbed step preserves -/

section

variable {orgId month : String}

theorem lastMonth_setLastMonth (stores : Stores) (other otherMonth : String)
    (entry : OrgRegistryEntry) :
    (stores.setLastMonth other otherMonth entry).lastMonth orgId =
      if other = orgId then some otherMonth else stores.lastMonth orgId := by
  show ((stores.registry.insert other _)[orgId]?).bind _ = _
  rw [Std.ExtTreeMap.getElem?_insert]
  by_cases h : other = orgId
  · rw [if_pos h, if_pos (by simpa using h)]
    rfl
  · rw [if_neg h, if_neg (by simpa using h)]
    rfl

/-- A month that is recorded stays known, as the last one or as a replaced one. -/
theorem Marked.setLastMonth {stores : Stores} (h : Marked orgId month stores)
    (other otherMonth : String) (entry : OrgRegistryEntry) :
    Marked orgId month (stores.setLastMonth other otherMonth entry) := by
  unfold Marked
  rw [lastMonth_setLastMonth]
  rcases h with hlast | hreplaced
  · by_cases hother : other = orgId
    · subst hother
      rw [if_pos rfl]
      by_cases hsame : otherMonth = month
      · exact .inl (congrArg some hsame)
      · refine .inr (List.mem_append_left _ ?_)
        rw [hlast, Option.filter_some, if_pos (by simpa using Ne.symm hsame)]
        exact List.mem_singleton_self _
    · rw [if_neg hother]
      exact .inl hlast
  · exact .inr (List.mem_append_right _ hreplaced)

/-- The transactions for the organisation and the month, and the record of the month. -/
def marking (orgId month : String) : Marking Stores Phase BalanceTransaction where
  effects := Stores.transactions
  about transaction := transaction.orgId = orgId ∧ transaction.month = month
  marked := Marked orgId month
  owes := Phase.owes orgId month
  knows stores phase := ∀ org ∈ phase.guarded, stores.registry[org]?.isSome = true

/-- An entry that is in the registry stays there. -/
theorem marking_knows_setLastMonth {stores : Stores} {phase : Phase} (other otherMonth : String)
    (entry : OrgRegistryEntry) (h : (marking orgId month).knows stores phase) :
    (marking orgId month).knows (stores.setLastMonth other otherMonth entry) phase := by
  intro org horg
  show ((stores.registry.insert other _)[org]?).isSome = true
  rw [Std.ExtTreeMap.getElem?_insert]
  split_ifs
  · rfl
  · exact h org horg

/-- An undisturbed step keeps the assertions. -/
theorem hold_next (js : JsRuntime) (credentials : Bool) (system : System Stores Phase)
    (event : Event Request Answer Empty) (h : (marking orgId month).assertions.Hold system)
    (hundisturbed : Undisturbed orgId month system event) :
    (marking orgId month).assertions.Hold ((program js credentials).next system event) := by
  refine Assertions.hold_next (C := Undisturbed orgId month) ?_ ?_ ?_ system event h hundisturbed
  · intro system request h _
    refine Marking.hold_enters h fun org horg => ?_
    cases request <;> cases horg
  · intro system i answer phase after h hundisturbed hcall hresume
    have hphase := hundisturbed phase hcall
    have hknows := h.call i phase hcall
    rcases Phase.resume_cases hresume with hquiet |
      ⟨approved, customerId, creditCents, currency, id, rfl, rfl, rfl⟩ |
      ⟨approved, id, entry, rfl, hentry, rfl⟩ | ⟨approved, id, outcome, rfl, hgone, rfl⟩ |
      ⟨approved, id, outcome, rfl, ⟨rfl, error, rfl⟩ | ⟨entry, error, rfl, rfl⟩⟩ |
      ⟨approved, id, entry, outcome, rfl, rfl⟩
    · have hmarked : Marked orgId month system.shared → Marked orgId month after.2 := by
        intro hmark
        unfold Marked Stores.lastMonth
        rw [hquiet.registry, hquiet.replaced]
        exact hmark
      refine Marking.hold_writes h hcall hquiet.transactions ?_ ?_ hmarked ?_
      · intro org horg
        rw [hquiet.registry]
        exact (hquiet.guarded org horg).elim (hknows org) fun hfound => hfound
      · intro call hcalls org horg
        rw [hquiet.registry]
        exact hcalls org horg
      · intro howes
        cases (hquiet.before _ _).symm.trans howes
    · exact Marking.hold_creates h hcall rfl hknows (fun _ hfound => hfound) (fun hmark => hmark)
        rfl (fun habout => hphase (of_decide_eq_true habout)) fun habout => habout
    · exact Marking.hold_writes h hcall rfl hknows (fun _ hfound => hfound) (fun hmark => hmark)
        .inr
    · -- the entry cannot be gone
      have hfound := hknows approved.orgId rfl
      rw [hgone] at hfound
      cases hfound
    · refine Marking.hold_writes h hcall rfl (fun org horg => (by cases horg))
        (fun _ hfound => hfound) (fun hmark => hmark) fun howes => ?_
      exact absurd (of_decide_eq_true howes) hphase
    · refine Marking.hold_writes h hcall rfl (fun org horg => (by cases horg))
        (fun _ hfound => hfound) (fun hmark => hmark) fun howes => ?_
      exact absurd (of_decide_eq_true howes) hphase
    · refine Marking.hold_writes h hcall rfl (fun org horg => (by cases horg))
        (fun _ => marking_knows_setLastMonth _ _ _) (fun hmark => hmark.setLastMonth _ _ _)
        fun howes => .inl (.inl ?_)
      obtain ⟨hid, hmonth⟩ := of_decide_eq_true howes
      rw [lastMonth_setLastMonth, if_pos hid, hmonth]
  · intro system change
    exact change.elim

end

/-! ## Runs -/

/-- In every run whose steps are all undisturbed for an organisation and a month, at most one
balance transaction is created for them. -/
theorem monthCreditedOnce_of_undisturbed (js : JsRuntime) (credentials : Bool) (registry : Registry)
    (approvals : ApprovalStore) (orgId month : String) (events : List (Event Request Answer Empty))
    (h : Along (program js credentials).next (Undisturbed orgId month) (init registry approvals)
      events) :
    Always (program js credentials).next (fun system => CreditedOnce orgId month system.shared)
      (init registry approvals) events := by
  have hhold : Always (program js credentials).next (marking orgId month).assertions.Hold
      (init registry approvals) events :=
    always_of_along (hold_next js credentials) (Marking.hold_init rfl) h
  exact hhold.mono fun system hhold => hhold.shared

/-- The organisation `acme`, with nothing credited. -/
def acme : Registry :=
  (∅ : Registry).insert "acme"
    { ns := "gymact", slaTier := none, lastSlaCreditAppliedMonth := none }

/-- Its subscription. -/
def subscribed : StoredSubscription where
  tenantNamespace := "gymact"
  stripeCustomerId := "cus_1"
  stripeSubscriptionId := some "sub_1"
  status := .active
  priceId := some "price_1"
  currentPeriodEnd := none
  updatedAt := 0
  lastEventId := none
  lastEventType := none

/-- A thousand dollars a month. -/
def retrieved : Subscription where
  id := "sub_1"
  customer := "cus_1"
  tenantNamespace := some "gymact"
  status := .active
  currency := "usd"
  items :=
    [{ id := "si_1", priceId := some "price_1", unitAmount := some 100000, quantity := none
       currentPeriodEnd := none }]

/-- Ann asks for an approval, the call numbered 0, and Bob gives it, the call numbered 1. -/
def approved : List (Event Request Answer Empty) :=
  [.call (.approval
      { action := .slaCreditApply, targetId := "acme", requestedBy := "ann"
        resourcePayload := none } "r1" 1798675200000),
    .answer 0 (.write (.ok ())),
    .call (.decide { requestId := "r1", approve := true, approvedBy := "bob", reason := none }),
    .answer 1 (.approvals (.ok ()) 1798675200000 ""), .answer 1 (.write (.ok ()))]

/-- A request up to the call of Stripe, the call numbered `i`, in a month with an uptime of 98 %. -/
def requests (i : ℕ) (month : String) : List (Event Request Answer Empty) :=
  [.call (.post "acme" "ann"), .answer i (.registry (.ok ())), .answer i (.role true),
    .answer i (.body (some month) 0), .answer i (.approvals (.ok ()) 1798675200000 "r2"),
    .answer i (.registry (.ok ())), .answer i (.registry (.ok ())), .answer i (.uptime (.ok 98)),
    .answer i (.subscription (.ok (some subscribed))), .answer i (.retrieve (.ok retrieved))]

/-- The answers of Stripe and of the registry. -/
def credits (i : ℕ) (transactionId : String) (write : K8sResult Unit) :
    List (Event Request Answer Empty) :=
  [.answer i (.balance (.ok transactionId)), .answer i (.registry (.ok ())),
    .answer i (.write write)]

/-- A month is credited, is refused the second time, and the next month is credited. -/
theorem monthCreditedOnce_sequential :
    let events := approved ++ requests 2 "2026-01" ++ credits 2 "txn_1" (.ok ()) ++
      requests 3 "2026-01" ++ requests 4 "2026-02" ++ credits 4 "txn_2" (.ok ())
    (run (program gregorian true).next (init acme ∅) events).shared.transactions.map
      (fun transaction => (transaction.month, transaction.amount)) =
        [("2026-02", -19000), ("2026-01", -19000)] ∧
    Always (program gregorian true).next
      (fun system => CreditedOnce "acme" "2026-01" system.shared) (init acme ∅) events := by
  intro events
  exact ⟨by decide +kernel,
    monthCreditedOnce_of_undisturbed gregorian true acme ∅ "acme" "2026-01" events
      (by decide +kernel)⟩

/-- A month is credited twice by two requests that overlap, after a recording that fails, and after
another month has been credited in between. -/
theorem month_credited_twice :
    let overlapping := approved ++ requests 2 "2026-01" ++ requests 3 "2026-01" ++
      credits 2 "txn_1" (.ok ()) ++ credits 3 "txn_2" (.ok ())
    let unrecorded := approved ++ requests 2 "2026-01" ++ credits 2 "txn_1" (.error "timeout") ++
      requests 3 "2026-01" ++ credits 3 "txn_2" (.ok ())
    let replaced := approved ++ requests 2 "2026-01" ++ credits 2 "txn_1" (.ok ()) ++
      requests 3 "2026-02" ++ credits 3 "txn_2" (.ok ()) ++
      requests 4 "2026-01" ++ credits 4 "txn_3" (.ok ())
    ∀ events ∈ [overlapping, unrecorded, replaced],
      ¬ Always (program gregorian true).next
        (fun system => CreditedOnce "acme" "2026-01" system.shared) (init acme ∅) events := by
  intro overlapping unrecorded replaced events hevents h
  have hfinal : CreditedOnce "acme" "2026-01"
      (run (program gregorian true).next (init acme ∅) events).shared :=
    always_iff.mp h events [] (List.append_nil _).symm
  have hnot : ∀ events ∈ [overlapping, unrecorded, replaced], ¬ CreditedOnce "acme" "2026-01"
      (run (program gregorian true).next (init acme ∅) events).shared := by
    decide +kernel
  exact hnot events hevents hfinal

end ChatmanEcosystem.Console.SlaCredit
