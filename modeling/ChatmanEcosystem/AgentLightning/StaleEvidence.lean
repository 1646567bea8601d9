import ChatmanEcosystem.AgentLightning.Calls
import ChatmanEcosystem.Commerce.Redelivery

/-!
# Evidence that was used before

Runs of the service beside a record of the commercial receipts it has consumed.
`bind_entitlement` and `apply_entitlement_event` keep no such record, so a
receipt that activated the entitlement once activates it again after a
suspension or a revocation.

Results:

* `next_keepsRefusing_iff`: what one call does to a suspended service.
* `keepsRefusing_iff_noReplay`: over any run, a suspended or revoked service
  keeps refusing until fresh evidence arrives exactly when no consumed
  activating receipt is presented to it where its checks let it through.
-/

namespace ChatmanEcosystem.AgentLightning

open Common Commerce Core
  Rust

/-- A service with what an observer of the run knows: the commercial receipts
consumed so far, and whether a suspension or a revocation stands that no fresh
evidence has lifted. -/
structure History where
  service : Service
  consumed : List CommercialReceipt
  barred : Bool

namespace History

/-- A service at the beginning of a run. -/
def start (service : Service) : History := { service, consumed := [], barred := false }

/-- After evidence that activates: only fresh evidence lifts the bar. -/
def activated (history : History) (commercial : CommercialReceipt) (service : Service) : History :=
  { service, consumed := commercial :: history.consumed
    barred := history.barred && decide (commercial ∈ history.consumed) }

/-- After a suspension or a revocation. -/
def deactivated (history : History) (commercial : CommercialReceipt) (service : Service) :
    History :=
  { service, consumed := commercial :: history.consumed, barred := true }

variable (signing : Signing)

/-- The run after a call; a refused call changes nothing. -/
def next (history : History) : Op → History
  | .bindEntitlement grant commercial authority =>
    match history.service.bindEntitlement signing grant commercial authority with
    | .ok (_, service) => history.activated commercial service
    | .error _ => history
  | .applyEntitlementEvent commercial authority =>
    match history.service.applyEntitlementEvent signing commercial authority with
    | .ok (_, service) =>
      if commercial.kind = .entitlementReinstated then history.activated commercial service
      else history.deactivated commercial service
    | .error _ => history
  | .admitJob principal request authority =>
    match history.service.admitJob signing principal request authority with
    | .ok (_, service) => { history with service }
    | .error _ => history
  | .authorizeActuation reservationId authority =>
    match history.service.authorizeActuation signing reservationId authority with
    | .ok (_, service) => { history with service }
    | .error _ => history
  | .reconcileUsage permit actual authority =>
    match history.service.reconcileUsage signing permit actual authority with
    | .ok (_, service) => { history with service }
    | .error _ => history

variable {signing} in
theorem next_bindEntitlement (history : History) {grant : Grant} {commercial : CommercialReceipt}
    {authority : Authority} {result : String × Service}
    (h : history.service.bindEntitlement signing grant commercial authority = .ok result) :
    history.next signing (.bindEntitlement grant commercial authority) =
      history.activated commercial result.2 := by
  unfold next
  simp only [h]

variable {signing} in
theorem next_suspended (history : History) {commercial : CommercialReceipt} {authority : Authority}
    {result : Unit × Service}
    (h : history.service.applyEntitlementEvent signing commercial authority = .ok result)
    (hkind : commercial.kind = .entitlementSuspended) :
    history.next signing (.applyEntitlementEvent commercial authority) =
      history.deactivated commercial result.2 := by
  unfold next
  simp only [h]
  exact if_neg (by rw [hkind]; decide)

/-- While the bar stands the entitlement is not active, and no job is admitted and
no actuation authorized, whatever the caller asks. -/
def KeepsRefusing (history : History) : Prop :=
  history.barred = true →
    history.service.activeGrant = none ∧
    (∀ principal request authority, ∃ error,
      history.service.admitJob signing principal request authority = .error error) ∧
    ∀ reservationId authority, ∃ error,
      history.service.authorizeActuation signing reservationId authority = .error error

/-- A consumed receipt that activates is presented while the bar stands, and passes
the checks. -/
def Replays (history : History) (op : Op) : Prop :=
  history.barred = true ∧
  match op with
  | .bindEntitlement grant commercial authority =>
    commercial ∈ history.consumed ∧
      history.service.BindAccepted signing grant commercial authority
  | .applyEntitlementEvent commercial authority =>
    commercial ∈ history.consumed ∧ commercial.kind = .entitlementReinstated ∧
      history.service.EventAccepted signing commercial authority
  | _ => False

variable {signing} {history : History}

/-- Refusals follow from the inactive entitlement. -/
theorem keepsRefusing_iff :
    history.KeepsRefusing signing ↔ (history.barred = true →
      history.service.activeGrant = none) := by
  constructor
  · intro h hbarred
    exact (h hbarred).1
  · intro h hbarred
    have hinactive := h hbarred
    exact ⟨hinactive, Service.admitJob_refused hinactive,
      Service.authorizeActuation_refused hinactive⟩

variable {service : Service}

/-- Accepted evidence that activates breaks a standing bar exactly when it is not fresh. -/
theorem activated_keepsRefusing_iff {commercial : CommercialReceipt}
    (hactive : service.activeGrant.isSome = true) :
    (history.activated commercial service).KeepsRefusing signing ↔
      ¬ (history.barred = true ∧ commercial ∈ history.consumed) := by
  have hsome : service.activeGrant ≠ none := Option.isSome_iff_ne_none.mp hactive
  rw [keepsRefusing_iff]
  simp only [activated, Bool.and_eq_true, decide_eq_true_eq]
  exact ⟨fun h hreplay => hsome (h hreplay), fun h hreplay => absurd hreplay h⟩

theorem deactivated_keepsRefusing {commercial : CommercialReceipt}
    (hinactive : service.activeGrant.isSome = false) :
    (history.deactivated commercial service).KeepsRefusing signing := by
  rw [keepsRefusing_iff]
  intro _
  exact Option.isSome_eq_false_iff.mp hinactive |> Option.isNone_iff_eq_none.mp

/-- A call on jobs keeps the entitlement and the bar. -/
theorem keepsRefusing_of_entitlement (h : service.entitlement = history.service.entitlement)
    (hkeeps : history.KeepsRefusing signing) :
    ({ history with service } : History).KeepsRefusing signing := by
  rw [keepsRefusing_iff] at hkeeps ⊢
  simp only [Service.activeGrant, h]
  exact hkeeps

/-- One call: a service that keeps refusing goes on so exactly when the call is not a replay. -/
theorem next_keepsRefusing_iff (op : Op) (hkeeps : history.KeepsRefusing signing) :
    (history.next signing op).KeepsRefusing signing ↔ ¬ history.Replays signing op := by
  unfold next Replays
  cases op with
  | bindEntitlement grant commercial authority =>
    dsimp only
    cases hbind : history.service.bindEntitlement signing grant commercial authority with
    | error error =>
      refine iff_of_true hkeeps ?_
      rintro ⟨-, -, haccepted⟩
      have h := Service.bindEntitlement_eq_ok.mpr ⟨haccepted, _, rfl, rfl, rfl⟩
      rw [hbind] at h
      cases h
    | ok result =>
      obtain ⟨digest, service⟩ := result
      obtain ⟨haccepted, receipt, -, -, rfl⟩ := Service.bindEntitlement_eq_ok.mp hbind
      rw [activated_keepsRefusing_iff rfl]
      simp only [haccepted, and_true]
  | applyEntitlementEvent commercial authority =>
    dsimp only
    cases happly : history.service.applyEntitlementEvent signing commercial authority with
    | error error =>
      refine iff_of_true hkeeps ?_
      rintro ⟨-, -, -, haccepted⟩
      obtain ⟨service, h⟩ := Service.applyEntitlementEvent_eq_ok.mpr haccepted
      rw [happly] at h
      cases h
    | ok result =>
      obtain ⟨⟨⟩, service⟩ := result
      have haccepted := Service.applyEntitlementEvent_eq_ok.mp ⟨service, happly⟩
      obtain ⟨bound, receipt, -, rfl⟩ := Service.applyEntitlementEvent_writes happly
      by_cases hkind : commercial.kind = .entitlementReinstated
      · simp only [hkind, if_true]
        rw [activated_keepsRefusing_iff (by simp [Service.activeGrant])]
        simp only [haccepted, and_true]
      · simp only [hkind, if_false]
        refine iff_of_true (deactivated_keepsRefusing (by simp [Service.activeGrant])) ?_
        rintro ⟨-, -, h, -⟩
        exact h
  | admitJob principal request authority =>
    refine iff_of_true ?_ (fun h => h.2)
    dsimp only
    cases h : history.service.admitJob signing principal request authority with
    | error error => exact hkeeps
    | ok result =>
      exact keepsRefusing_of_entitlement ((Service.admitJob_step h).entitlement trivial) hkeeps
  | authorizeActuation reservationId authority =>
    refine iff_of_true ?_ (fun h => h.2)
    dsimp only
    cases h : history.service.authorizeActuation signing reservationId authority with
    | error error => exact hkeeps
    | ok result =>
      exact keepsRefusing_of_entitlement
        ((Service.authorizeActuation_step h).entitlement trivial) hkeeps
  | reconcileUsage permit actual authority =>
    refine iff_of_true ?_ (fun h => h.2)
    dsimp only
    cases h : history.service.reconcileUsage signing permit actual authority with
    | error error => exact hkeeps
    | ok result =>
      exact keepsRefusing_of_entitlement
        ((Service.reconcileUsage_step h).entitlement trivial) hkeeps

/-- In every run of a service from its opening, stale evidence never reactivates it
exactly when no step of the run replays consumed evidence. -/
theorem keepsRefusing_iff_noReplay (signing : Signing) (policy : Policy) (timestamp : String)
    (ops : List Op) :
    Always (next signing) (KeepsRefusing signing) (start (Service.opened policy timestamp)) ops ↔
      Along (next signing) (fun history op => ¬ history.Replays signing op)
        (start (Service.opened policy timestamp)) ops := by
  have hstart : (start (Service.opened policy timestamp)).KeepsRefusing signing := by
    rw [keepsRefusing_iff]
    intro h
    cases h
  exact always_iff_along (I := fun _ => True) (fun _ _ _ => trivial)
    (fun history op _ hkeeps => next_keepsRefusing_iff op hkeeps) trivial hstart

end History

/-! ## A fulfillment receipt after the suspension -/

section Fixture

/-- The context of `commerce_fixture` (lines 607–627). -/
def fixtureContext (provider : Provider) : CommerceContext :=
  { Commerce.fixtureContext provider with
    product := "product:agent-lightning-managed"
    capability := "capability:agentic-rl-training"
    offer := "offer:managed-rl" }

/-- `observation` (lines 580–602). -/
def fixtureObservation (context : CommerceContext) (kind : ProviderEventKind) (event : String)
    (quantity : UInt64) : ProviderObservation :=
  { Commerce.fixtureObservation context kind event with
    dimension := "agentic-rl-training", quantity, units := 0, amountMicros := 0 }

/-- `grant` (lines 644–656). -/
def fixtureGrant (organization : String) : Grant where
  organization
  plan := "enterprise"
  modes := {.hosted, .byoc, .priv}
  quota := .of [(.gpuSeconds, 20000), (.inputTokens, 2000000), (.outputTokens, 1000000),
    (.rollouts, 100)]

/-- `request` (lines 657–671). -/
def fixtureRequest (organization : String) (mode : Mode) (suffix : String) : JobRequest where
  id := "job-" ++ suffix
  organization
  workload := .pinned
  mode
  requested := .of [(.gpuSeconds, 3600), (.inputTokens, 100000), (.outputTokens, 20000),
    (.rollouts, 1)]
  idempotencyKey := "idem-" ++ suffix

/-- The principal of `verify_provider_fixture` (lines 684–688). -/
def fixturePrincipal (organization name : String) : Principal where
  organization
  subject := "service-account:" ++ name
  keyFingerprint := "blake3:" ++ String.ofList (List.replicate 64 '0')

end Fixture

example : (Service.new .agentLightning "2026-08-19T00:00:00Z").isOk = true := by decide +kernel

example : (fixturePrincipal "organization:aws-customer" "aws").admitted = true := by decide +kernel

/-- The job of the fixture passes the checks of a service that its entitlement is bound to. -/
theorem fixture_checked {service : Service} {suffix : String}
    (hpolicy : service.policy = .agentLightning)
    (hactive : service.activeGrant = some (fixtureGrant "organization:aws-customer"))
    (hnamed : isBlank ("job-" ++ suffix) = false ∧ isBlank ("idem-" ++ suffix) = false) :
    service.Checked (fixturePrincipal "organization:aws-customer" "aws")
      (fixtureRequest "organization:aws-customer" .hosted suffix) .persistControlPlane
      (fixtureGrant "organization:aws-customer") where
  persists := rfl
  admitted := by decide +kernel
  id := hnamed.1
  idempotencyKey := hnamed.2
  requested := by
    have hrequested : (fixtureRequest "" .hosted "").requested.isEmpty = false := by decide +kernel
    exact hrequested
  units := by
    have hunits : (fixtureRequest "" .hosted "").requested.anyZero = false := by decide +kernel
    exact hunits
  active := hactive
  caller := rfl
  tenant := rfl
  pinned := rfl
  workload := by rw [hpolicy]; rfl
  mode := by
    have hmode : Mode.hosted ∈ (fixtureGrant "").modes := by decide +kernel
    exact hmode
  limit := by
    have hlimit : (fixtureRequest "" .hosted "").requested.toList.all (fun entry =>
        entry.2 ≤ Policy.agentLightning.maxPerJob.amount entry.1) = true := by decide +kernel
    rw [hpolicy]
    exact hlimit

/-- The ledger of `commerce_fixture`, before it authorizes the fulfillment. -/
def fixtureLedger (signing : Signing) : CommerceLedger :=
  let context := fixtureContext .aws
  run (CommerceLedger.next signing) (CommerceLedger.opened context)
    [.observe (fixtureObservation context .agreement "agreement" 0),
      .observe (fixtureObservation context .entitlement "entitlement" 1)]

open CommerceLedger in
/-- The two commercial receipts of the fixture: the ledger issues them, they verify,
and they are about the same subject. -/
theorem fixture_receipts (signing : Signing) : ∃ fulfillment suspended,
    let fulfill := Commerce.Op.authorizeFulfillment "agent-lightning-fulfillment"
    ((fixtureLedger signing).call signing fulfill).1 = .ok fulfillment ∧
    (((fixtureLedger signing).next signing fulfill).call signing
      (.observe (fixtureObservation (fixtureContext .aws) .suspended "suspended" 1))).1 =
        .ok suspended ∧
    fulfillment.verify signing = .ok () ∧ suspended.verify signing = .ok () ∧
    fulfillment.kind = .fulfillmentAuthorized ∧ suspended.kind = .entitlementSuspended ∧
    suspended.core.subject = fulfillment.core.subject := by
  have hagreement : (opened (fixtureContext .aws)).observe
      (fixtureObservation (fixtureContext .aws) .agreement "agreement" 0) =
      .ok (opened (fixtureContext .aws),
        inputOf .agreementObserved "agreement:agreement" "agreement") := by
    decide +kernel
  have hentitlement : (opened (fixtureContext .aws)).observe
      (fixtureObservation (fixtureContext .aws) .entitlement "entitlement" 1) =
      .ok ({ opened (fixtureContext .aws) with
          quantity := 1, plan := "enterprise", entitlement := .active },
        inputOf .entitlementAdmitted "entitlement:entitlement" "entitlement") := by
    decide +kernel
  have hsuspended : (opened (fixtureContext .aws)).observe
      (fixtureObservation (fixtureContext .aws) .suspended "suspended" 1) =
      .ok ({ opened (fixtureContext .aws) with entitlement := .suspended },
        inputOf .entitlementSuspended "suspend:suspended" "suspended") := by
    decide +kernel
  have hkinds : IsEntitlementEvent .agreement ∧ IsEntitlementEvent .entitlement ∧
      IsEntitlementEvent .suspended := by
    unfold IsEntitlementEvent
    decide
  obtain ⟨kagreement, kentitlement, ksuspended⟩ := hkinds
  obtain ⟨r₁, l₁, c₁, -, x₁, s₁, -, -, i₁⟩ := event_accepted signing hagreement kagreement rfl
    (by decide) (by decide) Std.ExtTreeMap.getElem?_empty rfl
  obtain ⟨r₂, l₂, c₂, -, x₂, s₂, q₂, e₂, i₂⟩ := event_accepted signing hentitlement kentitlement x₁
    (by decide) (by decide)
    (by rw [i₁ _ (by decide)]; exact Std.ExtTreeMap.getElem?_empty) (by rw [s₁]; rfl)
  have hledger : fixtureLedger signing = l₂ := by
    simp only [fixtureLedger, run_cons, run_nil, CommerceLedger.next, c₁, c₂]
  have hprepare : l₂.prepare (.authorizeFulfillment "agent-lightning-fulfillment") =
      .ok (l₂, inputOf .fulfillmentAuthorized "agent-lightning-fulfillment" "aws:fulfillment") := by
    have hname : "aws:fulfillment" = l₂.context.provider.asStr ++ ":fulfillment" := by
      rw [x₂]
      decide
    rw [hname]
    refine bind_eq_ok.mpr ⟨(), ensure_eq_ok.mpr ⟨e₂, ?_⟩, rfl⟩
    rw [q₂]
    exact (by decide : (1 : UInt64) ≠ 0)
  have hkey : l₂.idempotency["agent-lightning-fulfillment"]? = none := by
    rw [i₂ _ (by decide), i₁ _ (by decide)]
    exact Std.ExtTreeMap.getElem?_empty
  have hafter : nextState l₂.state .fulfillmentAuthorized = .ok .fulfilled := by
    rw [s₂]
    rfl
  have hfulfilled := call_of_new signing hprepare (by decide) (by decide) hkey hafter
  have hnext : l₂.next signing (.authorizeFulfillment "agent-lightning-fulfillment") =
      l₂.record (inputOf .fulfillmentAuthorized "agent-lightning-fulfillment" "aws:fulfillment")
        (l₂.issue signing (inputOf .fulfillmentAuthorized "agent-lightning-fulfillment"
          "aws:fulfillment") .fulfilled) := congrArg Prod.snd hfulfilled
  have hcontext : (l₂.next signing (.authorizeFulfillment "agent-lightning-fulfillment")).context =
      (opened (fixtureContext .aws)).context := by
    rw [hnext]
    exact x₂
  obtain ⟨r₃, l₃, c₃, hr₃, -⟩ := event_accepted signing hsuspended ksuspended hcontext
    (by decide) (by decide)
    (by rw [hnext, record, Std.ExtTreeMap.getElem?_insert, if_neg (by decide), i₂ _ (by decide),
          i₁ _ (by decide)]
        exact Std.ExtTreeMap.getElem?_empty) rfl
  refine ⟨l₂.issue signing (inputOf .fulfillmentAuthorized "agent-lightning-fulfillment"
    "aws:fulfillment") .fulfilled, r₃, ?_⟩
  rw [hledger]
  refine ⟨congrArg Prod.fst hfulfilled, congrArg Prod.fst c₃, ?_, ?_, rfl, ?_, ?_⟩
  · exact (issue_verify rfl).mpr (by decide)
  · rw [hr₃]
    exact (issue_verify rfl).mpr (by decide)
  · rw [hr₃]
    rfl
  · rw [hr₃, hnext]
    rfl

open History in
/-- Bound, suspended and bound again with the same receipt: the bar stands and the
job of the fixture is admitted. -/
theorem rebound_admits {signing : Signing} {fulfillment suspended : CommercialReceipt}
    (hfulfillment : fulfillment.verify signing = .ok ())
    (hsuspended : suspended.verify signing = .ok ())
    (kfulfillment : fulfillment.kind = .fulfillmentAuthorized)
    (ksuspended : suspended.kind = .entitlementSuspended)
    (hsubject : suspended.core.subject = fulfillment.core.subject) : ∃ reservation service,
    let organization := "organization:aws-customer"
    let bind := Op.bindEntitlement (fixtureGrant organization) fulfillment .persistControlPlane
    let history := run (next signing)
      (start (Service.opened .agentLightning "2026-08-19T00:00:00Z"))
      [bind, .applyEntitlementEvent suspended .persistControlPlane, bind]
    history.barred = true ∧
    history.service.admitJob signing (fixturePrincipal organization "aws")
      (fixtureRequest organization .hosted "suspended") .persistControlPlane =
        .ok (reservation, service) := by
  let opened := Service.opened .agentLightning "2026-08-19T00:00:00Z"
  let grant := fixtureGrant "organization:aws-customer"
  have hgrant : ∀ service : Service, service.policy = .agentLightning →
      service.validGrant grant fulfillment := by
    intro service hpolicy
    unfold Service.validGrant
    rw [hpolicy]
    exact ⟨kfulfillment, by decide +kernel⟩
  have htimestamp : isBlank "2026-08-19T00:00:00Z" = false := by decide
  -- first binding
  have haccepted₁ : opened.BindAccepted signing grant fulfillment .persistControlPlane :=
    ⟨hfulfillment, hgrant _ rfl, (fun _ h => nomatch h), rfl, htimestamp⟩
  obtain ⟨_, service₁, _, hbind₁, h₁⟩ := Service.bindEntitlement_of_accepted haccepted₁
  -- the suspension
  have haccepted₂ : service₁.EventAccepted signing suspended .persistControlPlane := by
    rw [h₁]
    exact ⟨hsuspended, ⟨_, rfl, hsubject⟩, .inl ksuspended, rfl, htimestamp⟩
  obtain ⟨service₂, happly⟩ := Service.applyEntitlementEvent_eq_ok.mpr haccepted₂
  obtain ⟨bound, receipt₂, hbound, h₂⟩ := Service.applyEntitlementEvent_writes happly
  rw [h₁] at hbound
  obtain rfl := Option.some.inj hbound
  -- second binding
  have haccepted₃ : service₂.BindAccepted signing grant fulfillment .persistControlPlane := by
    rw [h₂, h₁]
    refine ⟨hfulfillment, hgrant _ rfl, fun bound hmem => ?_, rfl, htimestamp⟩
    obtain rfl := Option.some.inj hmem
    rfl
  obtain ⟨_, service₃, _, hbind₃, h₃⟩ := Service.bindEntitlement_of_accepted haccepted₃
  have hhistory : run (next signing) (start opened)
      [.bindEntitlement grant fulfillment .persistControlPlane,
        .applyEntitlementEvent suspended .persistControlPlane,
        .bindEntitlement grant fulfillment .persistControlPlane] =
      { service := service₃, consumed := [fulfillment, suspended, fulfillment],
        barred := true } := by
    let bound := (start opened).activated fulfillment service₁
    let closed := bound.deactivated suspended service₂
    rw [run_cons, next_bindEntitlement (start opened) hbind₁, run_cons,
      next_suspended bound happly ksuspended, run_cons, next_bindEntitlement closed hbind₃, run_nil]
    simp [bound, closed, start, activated, deactivated]
  -- the job
  have hquota : opened.checkQuota grant
      (fixtureRequest "organization:aws-customer" .hosted "suspended").requested = .ok () := by
    decide +kernel
  obtain ⟨reservation, service, hadmitted⟩ : ∃ reservation service,
      service₃.admitJob signing (fixturePrincipal "organization:aws-customer" "aws")
        (fixtureRequest "organization:aws-customer" .hosted "suspended") .persistControlPlane =
        .ok (reservation, service) := by
    rw [h₃, h₂, h₁]
    exact ⟨_, _, Service.admitJob_eq_ok.mpr ⟨_, fixture_checked rfl rfl (by decide +kernel),
      .inr ⟨Std.ExtTreeMap.getElem?_empty, hquota, htimestamp, _, rfl, rfl, rfl⟩⟩⟩
  refine ⟨reservation, service, ?_⟩
  dsimp only
  rw [hhistory]
  exact ⟨rfl, hadmitted⟩

open History in
/-- The provider fixture, with the fulfillment receipt bound once more after the
suspension: the job that the fixture expects to be refused is admitted. -/
theorem fulfillment_rebinds_after_suspension :
    let organization := "organization:aws-customer"
    let fulfill := Commerce.Op.authorizeFulfillment "agent-lightning-fulfillment"
    ∀ signing : Signing, ∃ fulfillment suspended reservation service,
      ((fixtureLedger signing).call signing fulfill).1 = .ok fulfillment ∧
      (((fixtureLedger signing).next signing fulfill).call signing
        (.observe (fixtureObservation (fixtureContext .aws) .suspended "suspended" 1))).1 =
          .ok suspended ∧
      let bind := Op.bindEntitlement (fixtureGrant organization) fulfillment .persistControlPlane
      let history := run (next signing)
        (start (Service.opened .agentLightning "2026-08-19T00:00:00Z"))
        [bind, .applyEntitlementEvent suspended .persistControlPlane, bind]
      history.barred = true ∧
      history.service.admitJob signing (fixturePrincipal organization "aws")
        (fixtureRequest organization .hosted "suspended") .persistControlPlane =
          .ok (reservation, service) := by
  intro organization fulfill signing
  obtain ⟨fulfillment, suspended, hfulfill, hsuspend, hfulfillment, hsuspended, kfulfillment,
    ksuspended, hsubject⟩ := fixture_receipts signing
  obtain ⟨reservation, service, hadmitted⟩ :=
    rebound_admits hfulfillment hsuspended kfulfillment ksuspended hsubject
  exact ⟨fulfillment, suspended, reservation, service, hfulfill, hsuspend, hadmitted⟩

end ChatmanEcosystem.AgentLightning
