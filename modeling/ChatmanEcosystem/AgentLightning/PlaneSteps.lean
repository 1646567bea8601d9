import ChatmanEcosystem.AgentLightning.CommercialPlane
import ChatmanEcosystem.Common.Balance

/-!
# The calls of the plane, one by one

What a call of the commercial control plane
(`crates/ecosystem-runtime/src/agent_lightning_commercial_plane.rs`, lines 819–1144) does to its
charges, and when it does it.

Results:

* `CommercialControlPlane.Step`, `call_step`: all that a call can do to the charges.
* `admitRun_of_reserves`, `reconcile_of_meters`, `acceptSettlement_of_settles`: what a call does
  that passes its checks.
* `toNat_exposureMicros`: what `exposure_micros` sums up.
-/

namespace ChatmanEcosystem.AgentLightning

open Commerce Common Core Rust

/-- The charge of a run that is reserved (lines 984–995). -/
def ChargeState.opened (organization idempotencyKey : String) (reserved : ChargeQuote)
    (target : DeploymentTarget) (admissionReceipt : String) : ChargeState :=
  { organization, idempotencyKey, reserved, target, admissionReceipt, intent := none
    settlementReceipt := "" }

namespace CommercialControlPlane

variable (signing : Signing) (plane : CommercialControlPlane)

/-- The plane once a charge is stored and a receipt is pushed. -/
def store (service : Service) (id : String) (charge : ChargeState) (receipt : PlaneReceipt) :
    CommercialControlPlane :=
  { plane with
    service, charges := plane.charges.insert id charge, receipts := plane.receipts ++ [receipt] }

/-- What the charges expose of the budget, without a bound. -/
def exposure : ℕ := total (fun charge : ChargeState => charge.exposed.toNat) plane.charges

/-- What the charges, the budget and the settlements have in common before and after a call. -/
structure Same (plane after : CommercialControlPlane) : Prop where
  charges : after.charges = plane.charges
  budget : after.budget = plane.budget
  settlements : after.settlements = plane.settlements

/-- A run that `admit_run` reserves: everything that it checks, in its order. -/
structure Reserves (organization subject fingerprint : String) (request : JobRequest)
    (target : DeploymentTarget) (authority : Authority) (quote : ChargeQuote)
    (reservation : Reservation) : Prop where
  controls : authority = .persistControlPlane
  deploys : plane.deployment.admit request target = .ok ()
  provides : target.provider = plane.binding.provider
  priced : plane.rateCard.quote request.requested = .ok quote
  fresh : plane.chargeOf request.idempotencyKey = none
  affordable : plane.budget.admit quote.totalMicros plane.exposureMicros = .ok ()
  admitted : ∃ principal service,
    plane.authenticate organization subject fingerprint = .ok principal ∧
      plane.service.admitJob signing principal request authority = .ok (reservation, service)
  free : plane.charges[reservation.id]? = none
  named : isBlank reservation.id = false
  dated : isBlank plane.timestamp = false

/-- A settlement that `accept_settlement` books: everything that it checks, in its order. -/
structure Settles (intent : MeteringIntent) (meter settlement : CommercialReceipt)
    (authority : Authority) (charge : ChargeState) : Prop where
  controls : authority = .persistControlPlane
  meterVerified : meter.verify signing = .ok ()
  settlementVerified : settlement.verify signing = .ok ()
  agreed : meter.kind = .meterAccepted ∧ settlement.kind = .settlementReconciled ∧
    meter.units = intent.billableUnits ∧ settlement.units = intent.billableUnits ∧
    settlement.amountMicros = intent.amountMicros
  stored : plane.charges[intent.reservationId]? = some charge
  metered : charge.intent = some intent
  unsettled : charge.settlementReceipt = ""
  named : isBlank settlement.core.digest = false
  dated : isBlank plane.timestamp = false

/-- A usage that `reconcile_and_construct_metering` meters: everything that it checks, in its
order. -/
structure Meters (permit : ActuationPermit) (actualUsage : Units) (authority : Authority)
    (charge : ChargeState) (quote : ChargeQuote) : Prop where
  controls : authority = .persistControlPlane
  priced : plane.rateCard.quote actualUsage = .ok quote
  stored : plane.charges[permit.reservationId]? = some charge
  unmetered : charge.intent = none
  within : quote.totalMicros ≤ charge.reserved.totalMicros ∧
    quote.totalMicros ≤ plane.budget.maximumJobMicros
  reconciled : ∃ usageReceipt service, isBlank usageReceipt = false ∧
    plane.service.reconcileUsage signing permit actualUsage authority = .ok (usageReceipt, service)
  dated : isBlank plane.timestamp = false

/-- The settlement that a call books, and the reservation that it is booked for: the call returned
and the charge had no settlement before. -/
def booked : PlaneOp → Except PlaneError Unit → List (String × String)
  | .acceptSettlement intent _ settlement _, .ok _ =>
    if (plane.charges[intent.reservationId]?.map (·.settlementReceipt)) = some "" then
      [(settlement.core.digest, intent.reservationId)]
    else []
  | _, _ => []

/-- What a call can do to the charges. -/
inductive Step : PlaneOp → Except PlaneError Unit → CommercialControlPlane → Prop
  | same {op : PlaneOp} {reply : Except PlaneError Unit} {after : CommercialControlPlane}
      (same : plane.Same after) (nothing : plane.booked op reply = []) : Step op reply after
  | reserved {organization subject fingerprint : String} {request : JobRequest}
      {target : DeploymentTarget} {authority : Authority} {quote : ChargeQuote}
      {reservation : Reservation} {receipt : String} {after : CommercialControlPlane}
      (reserves : plane.Reserves signing organization subject fingerprint request target authority
        quote reservation)
      (charges : after.charges = plane.charges.insert reservation.id
        (.opened organization request.idempotencyKey quote target receipt))
      (budget : after.budget = plane.budget) (settlements : after.settlements = plane.settlements) :
      Step (.admitRun organization subject fingerprint request target authority) (.ok ()) after
  | metered {permit : ActuationPermit} {actualUsage : Units} {authority : Authority}
      {charge : ChargeState} {intent : MeteringIntent} {after : CommercialControlPlane}
      (stored : plane.charges[permit.reservationId]? = some charge)
        (unmetered : charge.intent = none)
      (reservation : intent.reservationId = permit.reservationId)
      (within : intent.amountMicros ≤ charge.reserved.totalMicros)
      (charges : after.charges = plane.charges.insert permit.reservationId
        { charge with intent := some intent })
      (budget : after.budget = plane.budget) (settlements : after.settlements = plane.settlements) :
      Step (.reconcileAndConstructMetering permit actualUsage authority) (.ok ()) after
  | settled {intent : MeteringIntent} {meter settlement : CommercialReceipt}
      {authority : Authority} {charge : ChargeState} {receipt : String}
      {after : CommercialControlPlane}
      (settles : plane.Settles signing intent meter settlement authority charge)
      (receipted : receipt ≠ "")
      (charges : after.charges = plane.charges.insert intent.reservationId
        { charge with settlementReceipt := receipt })
      (budget : after.budget = plane.budget)
      (settlements : after.settlements = plane.settlements ++ [settlement.core.digest]) :
      Step (.acceptSettlement intent meter settlement authority) (.ok ()) after

open Method

variable {signing plane}

theorem Same.refl : plane.Same plane := ⟨rfl, rfl, rfl⟩

theorem digest_issue_ne_empty (kind : PlaneKind) (source change : String) (authority : Authority) :
    (plane.issue signing kind source change authority).core.digest ≠ "" := by
  intro hempty
  have hlist := congrArg String.toList hempty
  simp [issue, Receipt.sign, Receipt.calculateDigest] at hlist

variable {α : Type}

/-- A method of the service leaves the charges alone. -/
theorem onService_same (method : Method Service Error α) :
    (onService method).Yields plane fun _ after => plane.Same after := ⟨rfl, rfl, rfl⟩

variable {after : CommercialControlPlane}

/-- A receipt of another kind is about no settlement. -/
theorem same_push {receipt : PlaneReceipt} (h : plane.Same after)
    (hkind : receipt.kind ≠ .settlementAccepted) : plane.Same (after.push receipt) := by
  refine ⟨h.charges, h.budget, ?_⟩
  rw [settlements_push, if_neg hkind, List.append_nil]
  exact h.settlements

/-- A method of the service, which commits a transaction, and what comes after it. -/
theorem yields_onService_bind {β : Type} {method : Method Service Error α}
    {x : Except Error (α × Service)} (h : method.call plane.service = committed plane.service x)
    {f : α → Method CommercialControlPlane PlaneError β}
    {Q : Except PlaneError β → CommercialControlPlane → Prop}
    (herror : ∀ error, Q (.error error) plane)
    (hok : ∀ a service, x = .ok (a, service) → (f a).Yields { plane with service } Q) :
    (onService method >>= f).Yields plane Q := by
  refine yields_bind (fun error after hcall => ?_) fun a after hcall => ?_
  · rcases call_onPart_of_committed h with ⟨_, -, hservice⟩ | ⟨_, _, -, hservice⟩
    · obtain ⟨-, rfl⟩ := Prod.mk.inj (hservice.symm.trans hcall)
      exact herror error
    · cases hservice.symm.trans hcall
  · rcases call_onPart_of_committed h with ⟨_, -, hservice⟩ | ⟨value, service, hx, hservice⟩
    · cases hservice.symm.trans hcall
    · obtain ⟨hvalue, rfl⟩ := Prod.mk.inj (hservice.symm.trans hcall)
      exact hok a service (Except.ok.inj hvalue ▸ hx)

/-- A method of the service that returns, and what comes after it. -/
theorem yields_onService_of_ok {β : Type} {method : Method Service Error α} {a : α}
    {service : Service} (h : method.call plane.service = (.ok a, service))
    {f : α → Method CommercialControlPlane PlaneError β}
    {Q : Except PlaneError β → CommercialControlPlane → Prop}
    (hf : (f a).Yields { plane with service } Q) : (onService method >>= f).Yields plane Q := by
  have hpart : (onService method).call plane = (.ok a, { plane with service }) := by
    rw [onService, call_onPart, h]
    rfl
  rw [Yields, call_of_ok hpart]
  exact hf

/-- A receipt of another kind is issued, and pushed after a change that leaves the charges alone. -/
theorem receipted_same {kind : PlaneKind} (hkind : kind ≠ .settlementAccepted)
    (source change : String) (authority : Authority)
    (identities : IdentityRegistry → IdentityRegistry) :
    (do
      let receipt ← check <| plane.manufactureReceipt signing kind source change authority
      modify fun plane => { plane with identities := identities plane.identities }
      modify (push · receipt)
      return receipt.core.digest : Method CommercialControlPlane PlaneError String).Yields plane
        fun _ after => plane.Same after := by
  refine yields_check_bind (fun _ _ => .refl) fun receipt hreceipt => ?_
  obtain ⟨-, -, -, -, rfl⟩ := manufactureReceipt_eq_ok.mp hreceipt
  exact yields_modify_bind (yields_modify_bind (yields_pure (same_push ⟨rfl, rfl, rfl⟩ hkind)))

theorem registerKey_same (organization subject keyId fingerprint : String)
    (authority : Authority) :
    (registerKey signing organization subject keyId fingerprint authority).Yields plane
      fun _ after => plane.Same after := by
  refine yields_check_bind (fun _ _ => .refl) fun _ _ => yields_get_bind ?_
  refine yields_check_bind (fun _ _ => .refl) fun _ _ => ?_
  exact receipted_same (by decide) _ _ _ fun identities =>
    identities.applyRegister organization subject keyId fingerprint

theorem rotateKey_same (organization subject keyId fingerprint : String) (authority : Authority) :
    (rotateKey signing organization subject keyId fingerprint authority).Yields plane
      fun _ after => plane.Same after := by
  refine yields_check_bind (fun _ _ => .refl) fun _ _ => yields_get_bind ?_
  refine yields_check_bind (fun _ _ => .refl) fun generation _ => ?_
  exact receipted_same (by decide) _ _ _ fun identities =>
    identities.applyRotate organization subject keyId fingerprint generation

theorem revokeIdentity_same (organization subject : String) (authority : Authority) :
    (revokeIdentity signing organization subject authority).Yields plane
      fun _ after => plane.Same after := by
  refine yields_check_bind (fun _ _ => .refl) fun _ _ => yields_get_bind ?_
  refine yields_check_bind (fun _ _ => .refl) fun _ _ => ?_
  exact receipted_same (by decide) _ _ _ fun identities =>
    identities.applyRevoke organization subject

variable {organization subject fingerprint : String}

/-- A key that the registry lets register is registered. -/
theorem registerKey_of_valid {keyId : String}
    (hvalid : plane.identities.validateRegister organization subject keyId fingerprint = .ok ())
    (hdated : isBlank plane.timestamp = false) :
    (registerKey signing organization subject keyId fingerprint .persistControlPlane).Yields plane
      fun _ after => ∃ receipt, after = push { plane with
        identities := plane.identities.applyRegister organization subject keyId fingerprint }
          receipt := by
  have hnamed : isBlank keyId = false := by
    simp only [IdentityRegistry.validateRegister, bind_eq_ok, ensure_eq_ok,
      IdentityRegistry.validateIdentityFields_eq_ok] at hvalid
    obtain ⟨_, hfields, -⟩ := hvalid
    exact hfields.named
  refine yields_ensure_bind rfl (yields_get_bind (yields_ok_bind hvalid ?_))
  refine yields_ok_bind (manufactureReceipt_eq_ok.mpr ⟨rfl, not_isBlank_append _
    (not_isBlank_append _ (not_isBlank_append _ (by decide))), hnamed, hdated, rfl⟩) ?_
  exact yields_modify_bind (yields_modify_bind (yields_pure ⟨_, rfl⟩))

/-- A key that the registry lets revoke is revoked. -/
theorem revokeIdentity_of_valid
    (hvalid : plane.identities.validateRevoke organization subject = .ok ())
    (hdated : isBlank plane.timestamp = false) :
    (revokeIdentity signing organization subject .persistControlPlane).Yields plane
      fun _ after => ∃ receipt, after = push { plane with
        identities := plane.identities.applyRevoke organization subject } receipt := by
  refine yields_ensure_bind rfl (yields_get_bind (yields_ok_bind hvalid ?_))
  refine yields_ok_bind (manufactureReceipt_eq_ok.mpr ⟨rfl, not_isBlank_append _
    (not_isBlank_append _ (not_isBlank_append _ (by decide))), by decide, hdated, rfl⟩) ?_
  exact yields_modify_bind (yields_modify_bind (yields_pure ⟨_, rfl⟩))

theorem persistIdentitySnapshot_same (store : IdentityStore) (tenantKey : String)
    (expectedVersion : Option ℤ) (authority : Authority) :
    (persistIdentitySnapshot signing store tenantKey expectedVersion authority).Yields plane
      fun _ after => plane.Same after := by
  refine yields_check_bind (fun _ _ => .refl) fun _ _ => yields_get_bind ?_
  refine yields_check_bind (fun _ _ => .refl) fun receipt hreceipt => ?_
  obtain ⟨-, -, -, -, rfl⟩ := manufactureReceipt_eq_ok.mp hreceipt
  refine yields_check_bind (fun _ _ => .refl) fun _ _ => ?_
  exact yields_modify_bind (yields_pure (same_push .refl nofun))

theorem authorizeRun_same (reservationId organization subject fingerprint : String)
    (authority : Authority) :
    (authorizeRun signing reservationId organization subject fingerprint authority).Yields plane
      fun _ after => plane.Same after := by
  refine yields_get_bind (yields_check_bind (fun _ _ => .refl) fun _ _ => ?_)
  refine yields_check_bind (fun _ _ => .refl) fun _ _ => ?_
  refine yields_check_bind (fun _ _ => .refl) fun _ _ => ?_
  exact onService_same _

/-- An admission reserves a run, or the charges stay as they are. -/
theorem admitRun_step (organization subject fingerprint : String) (request : JobRequest)
    (target : DeploymentTarget) (authority : Authority) :
    (admitRun signing organization subject fingerprint request target authority).Yields plane
      fun reply after => plane.Step signing
        (.admitRun organization subject fingerprint request target authority)
        (reply.map fun _ => ()) after := by
  have hsame : ∀ {reply : Except PlaneError RunAdmission} {after}, plane.Same after →
      plane.Step signing (.admitRun organization subject fingerprint request target authority)
        (reply.map fun _ => ()) after := fun h => .same h rfl
  refine yields_check_bind (fun _ _ => hsame .refl) fun _ hcontrols => yields_get_bind ?_
  refine yields_check_bind (fun _ _ => hsame .refl) fun principal hprincipal => ?_
  refine yields_check_bind (fun _ _ => hsame .refl) fun _ hdeploys => ?_
  refine yields_check_bind (fun _ _ => hsame .refl) fun _ hprovides => ?_
  refine yields_check_bind (fun _ _ => hsame .refl) fun quote hquote => ?_
  have hservice := @InPlace.admitJob_eq signing plane.service principal request authority
  cases hcharge : plane.chargeOf request.idempotencyKey with
  | some entry =>
    refine yields_onService_bind hservice (fun _ => hsame .refl) fun reservation service _ => ?_
    refine yields_check_bind (fun _ _ => hsame ⟨rfl, rfl, rfl⟩) fun _ _ => ?_
    exact yields_pure (hsame ⟨rfl, rfl, rfl⟩)
  | none =>
    refine yields_check_bind (fun _ _ => hsame .refl) fun _ hbudget => ?_
    refine yields_onService_bind hservice (fun _ => hsame .refl) fun reservation service hadmits =>
      ?_
    refine yields_get_bind ?_
    cases hfree : plane.charges[reservation.id]? with
    | some existing =>
      exact yields_throw (hsame ⟨rfl, rfl, rfl⟩)
    | none =>
      refine yields_check_bind (fun _ _ => hsame ⟨rfl, rfl, rfl⟩) fun receipt hreceipt => ?_
      obtain ⟨-, hnamed, -, hdated, rfl⟩ := manufactureReceipt_eq_ok.mp hreceipt
      refine yields_modify_bind (yields_modify_bind (yields_pure ?_))
      have hreserves : plane.Reserves signing organization subject fingerprint request target
          authority quote reservation :=
        { controls := ensure_eq_ok.mp hcontrols, deploys := hdeploys
          provides := ensure_eq_ok.mp hprovides, priced := hquote, fresh := hcharge
          affordable := hbudget, admitted := ⟨principal, service, hprincipal, hadmits⟩
          free := hfree, named := hnamed, dated := hdated }
      refine .reserved hreserves rfl rfl ?_
      rw [settlements_push, if_neg nofun, List.append_nil]
      rfl

variable {authority : Authority} {quote : ChargeQuote}

/-- A run that passes the checks is reserved. -/
theorem admitRun_of_reserves {request : JobRequest} {target : DeploymentTarget}
    {reservation : Reservation} (h : plane.Reserves signing organization subject fingerprint request
      target authority quote reservation) :
    (admitRun signing organization subject fingerprint request target authority).Yields plane
      fun _ after => ∃ principal service receipt,
        plane.authenticate organization subject fingerprint = .ok principal ∧
        plane.service.admitJob signing principal request authority = .ok (reservation, service) ∧
        receipt.kind = .runAdmitted ∧ after = plane.store service reservation.id
          (.opened organization request.idempotencyKey quote target receipt.core.digest)
          receipt := by
  obtain ⟨principal, service, hprincipal, hadmits⟩ := h.admitted
  have hservice := @InPlace.admitJob_eq signing plane.service principal request authority
  rw [hadmits] at hservice
  refine yields_ensure_bind h.controls (yields_get_bind ?_)
  refine yields_ok_bind hprincipal (yields_ok_bind h.deploys ?_)
  refine yields_ensure_bind h.provides (yields_ok_bind h.priced ?_)
  rw [h.fresh]
  refine yields_ok_bind h.affordable (yields_onService_of_ok hservice (yields_get_bind ?_))
  simp only [h.free]
  refine yields_ok_bind (manufactureReceipt_eq_ok.mpr
    ⟨h.controls, h.named, not_isBlank_append _ (by decide), h.dated, rfl⟩) ?_
  refine yields_modify_bind (yields_modify_bind (yields_pure ?_))
  exact ⟨principal, service, _, hprincipal, hadmits, rfl, rfl⟩

variable {charge : ChargeState} {permit : ActuationPermit}

/-- An authorization is the service's. -/
theorem authorizeRun_of_stored {reservationId : String} {principal : Principal} {service : Service}
    (hprincipal : plane.authenticate organization subject fingerprint = .ok principal)
    (hstored : plane.charges[reservationId]? = some charge)
    (horganization : charge.organization = organization)
    (hpermit : plane.service.authorizeActuation signing reservationId authority =
      .ok (permit, service)) :
    (authorizeRun signing reservationId organization subject fingerprint authority).call plane =
      (.ok permit, { plane with service }) := by
  have hservice := @InPlace.authorizeActuation_eq signing plane.service reservationId authority
  rw [hpermit] at hservice
  have hpart : (onService (InPlace.authorizeActuation signing reservationId authority)).call plane =
      (.ok permit, { plane with service }) := by
    rw [onService, call_onPart, hservice]
    rfl
  have hyields : (authorizeRun signing reservationId organization subject fingerprint
      authority).Yields plane fun reply after =>
        (reply, after) = (.ok permit, { plane with service }) := by
    refine yields_get_bind (yields_ok_bind hprincipal (yields_ok_bind (okOr_eq_ok.mpr hstored) ?_))
    refine yields_ensure_bind horganization ?_
    rw [Yields, hpart]
  exact hyields

/-- A metering sets the intent of a charge, or the charges stay as they are. -/
theorem reconcile_step (permit : ActuationPermit) (actualUsage : Units) (authority : Authority) :
    (reconcileAndConstructMetering signing permit actualUsage authority).Yields plane
      fun reply after => plane.Step signing
        (.reconcileAndConstructMetering permit actualUsage authority)
        (reply.map fun _ => ()) after := by
  have hsame : ∀ {reply : Except PlaneError MeteringIntent} {after}, plane.Same after →
      plane.Step signing (.reconcileAndConstructMetering permit actualUsage authority)
        (reply.map fun _ => ()) after := fun h => .same h rfl
  refine yields_check_bind (fun _ _ => hsame .refl) fun _ _ => yields_get_bind ?_
  refine yields_check_bind (fun _ _ => hsame .refl) fun quote _ => ?_
  refine yields_check_bind (fun _ _ => hsame .refl) fun charge hcharge => ?_
  have hstored := okOr_eq_ok.mp hcharge
  have hservice := @InPlace.reconcileUsage_eq signing plane.service permit actualUsage authority
  cases hintent : charge.intent with
  | some intent =>
    exact yields_check_bind (fun _ _ => hsame .refl) fun _ _ => yields_pure (hsame .refl)
  | none =>
    refine yields_check_bind (fun _ _ => hsame .refl) fun _ hwithin => ?_
    refine yields_onService_bind hservice (fun _ => hsame .refl) fun usage service _ => ?_
    refine yields_get_bind (yields_check_bind (fun _ _ => hsame ⟨rfl, rfl, rfl⟩) ?_)
    intro receipt hreceipt
    obtain ⟨-, -, -, -, rfl⟩ := manufactureReceipt_eq_ok.mp hreceipt
    refine yields_check_bind (fun _ _ => hsame ⟨rfl, rfl, rfl⟩) fun same hsame' => ?_
    obtain rfl := Option.some.inj (hstored.symm.trans (okOr_eq_ok.mp hsame'))
    refine yields_modify_bind (yields_modify_bind (yields_pure ?_))
    refine .metered hstored hintent rfl (ensure_eq_ok.mp hwithin).1 rfl rfl ?_
    rw [settlements_push, if_neg nofun, List.append_nil]
    rfl

/-- A settlement is booked on a charge, or the charges stay as they are. -/
theorem acceptSettlement_step (intent : MeteringIntent) (meter settlement : CommercialReceipt)
    (authority : Authority) :
    (acceptSettlement signing intent meter settlement authority).Yields plane
      fun reply after => plane.Step signing (.acceptSettlement intent meter settlement authority)
        (reply.map fun _ => ()) after := by
  have hrefused : ∀ {error : PlaneError}, plane.Step signing
      (.acceptSettlement intent meter settlement authority) (.error error) plane :=
    .same .refl rfl
  refine yields_check_bind (fun _ _ => hrefused) fun _ hcontrols => ?_
  refine yields_check_bind (fun _ _ => hrefused) fun _ hmeter => ?_
  refine yields_check_bind (fun _ _ => hrefused) fun _ hsettlement => ?_
  refine yields_check_bind (fun _ _ => hrefused) fun _ hagreed => yields_get_bind ?_
  refine yields_check_bind (fun _ _ => hrefused) fun charge hcharge => ?_
  refine yields_check_bind (fun _ _ => hrefused) fun _ hintent => ?_
  have hstored := okOr_eq_ok.mp hcharge
  by_cases hopen : charge.settlementReceipt = ""
  · rw [if_neg (not_not_intro hopen)]
    refine yields_check_bind (fun _ _ => hrefused) fun receipt hreceipt => ?_
    obtain ⟨-, hnamed, -, hdated, rfl⟩ := manufactureReceipt_eq_ok.mp hreceipt
    refine yields_check_bind (fun _ _ => hrefused) fun same hsame => ?_
    obtain rfl := Option.some.inj (hstored.symm.trans (okOr_eq_ok.mp hsame))
    refine yields_modify_bind (yields_modify_bind (yields_pure ?_))
    have hsettles : plane.Settles signing intent meter settlement authority charge :=
      { controls := ensure_eq_ok.mp hcontrols
        meterVerified := mapError_eq_ok.mp hmeter
        settlementVerified := mapError_eq_ok.mp hsettlement
        agreed := ensure_eq_ok.mp hagreed, stored := hstored, metered := ensure_eq_ok.mp hintent
        unsettled := hopen, named := hnamed, dated := hdated }
    refine .settled hsettles ?_ rfl rfl ?_
    · exact digest_issue_ne_empty _ _ _ _
    · rw [settlements_push]
      rfl
  · rw [if_pos hopen]
    refine yields_pure (.same .refl ?_)
    rw [Except.map, booked, hstored, Option.map_some, if_neg]
    exact fun hsome => hopen (Option.some.inj hsome)

/-- A usage that passes the checks is metered. -/
theorem reconcile_of_meters {actualUsage : Units}
    (h : plane.Meters signing permit actualUsage authority charge quote) :
    (reconcileAndConstructMetering signing permit actualUsage authority).Yields plane
      fun reply after => ∃ intent usageReceipt service receipt,
        plane.service.reconcileUsage signing permit actualUsage authority =
          .ok (usageReceipt, service) ∧
        reply = .ok intent ∧ intent.reservationId = permit.reservationId ∧
        intent.billableUnits = quote.totalMicros ∧ intent.amountMicros = quote.totalMicros ∧
        receipt.kind = .meteringConstructed ∧
        after = plane.store service permit.reservationId { charge with intent := some intent }
          receipt := by
  obtain ⟨usageReceipt, service, hnamed, hreconciled⟩ := h.reconciled
  have hservice := @InPlace.reconcileUsage_eq signing plane.service permit actualUsage authority
  rw [hreconciled] at hservice
  refine yields_ensure_bind h.controls (yields_get_bind (yields_ok_bind h.priced ?_))
  refine yields_ok_bind (okOr_eq_ok.mpr h.stored) ?_
  rw [h.unmetered]
  refine yields_ensure_bind h.within (yields_onService_of_ok hservice (yields_get_bind ?_))
  refine yields_ok_bind (manufactureReceipt_eq_ok.mpr
    ⟨h.controls, hnamed, not_isBlank_append _ (by decide), h.dated, rfl⟩) ?_
  refine yields_ok_bind (okOr_eq_ok.mpr h.stored) ?_
  refine yields_modify_bind (yields_modify_bind (yields_pure ?_))
  exact ⟨_, usageReceipt, service, _, hreconciled, rfl, rfl, rfl, rfl, rfl, rfl⟩

variable {intent : MeteringIntent} {meter settlement : CommercialReceipt}

/-- A settlement that passes the checks is accepted. -/
theorem acceptSettlement_of_settles
    (h : plane.Settles signing intent meter settlement authority charge) :
    (acceptSettlement signing intent meter settlement authority).Yields plane
      fun reply after => ∃ receipt, reply = .ok receipt.core.digest ∧
        receipt.kind = .settlementAccepted ∧ receipt.source = settlement.core.digest ∧
        after = plane.store plane.service intent.reservationId
          { charge with settlementReceipt := receipt.core.digest } receipt := by
  refine yields_ensure_bind h.controls ?_
  refine yields_ok_bind (mapError_eq_ok.mpr h.meterVerified) ?_
  refine yields_ok_bind (mapError_eq_ok.mpr h.settlementVerified) ?_
  refine yields_ensure_bind h.agreed (yields_get_bind ?_)
  refine yields_ok_bind (okOr_eq_ok.mpr h.stored) ?_
  refine yields_ensure_bind h.metered ?_
  rw [if_neg (not_not_intro h.unsettled)]
  refine yields_ok_bind (manufactureReceipt_eq_ok.mpr
    ⟨h.controls, h.named, not_isBlank_append _ (by decide), h.dated, rfl⟩) ?_
  refine yields_ok_bind (okOr_eq_ok.mpr h.stored) ?_
  exact yields_modify_bind (yields_modify_bind (yields_pure ⟨_, rfl, rfl, rfl, rfl⟩))

/-- A method that leaves the charges alone, and books no settlement. -/
theorem yields_same {method : Method CommercialControlPlane PlaneError α} {op : PlaneOp}
    (h : method.Yields plane fun _ after => plane.Same after)
    (hnothing : ∀ reply, plane.booked op reply = []) :
    (do let _ ← method : Method CommercialControlPlane PlaneError Unit).Yields plane
      fun reply after => plane.Step signing op reply after :=
  yields_discard (Q := fun reply after => plane.Step signing op reply after)
    (Step.same h (hnothing _))

/-- All that a call can do to the charges. -/
theorem call_step (op : PlaneOp) :
    (call signing op).Yields plane fun reply after => plane.Step signing op reply after := by
  cases op with
  | bindEntitlement grant fulfillment authority =>
    exact yields_same (onService_same _) fun _ => rfl
  | registerKey organization subject keyId fingerprint authority =>
    exact yields_same (registerKey_same _ _ _ _ _) fun _ => rfl
  | rotateKey organization subject keyId fingerprint authority =>
    exact yields_same (rotateKey_same _ _ _ _ _) fun _ => rfl
  | revokeIdentity organization subject authority =>
    exact yields_same (revokeIdentity_same _ _ _) fun _ => rfl
  | persistIdentitySnapshot store tenantKey expectedVersion authority =>
    exact yields_same (persistIdentitySnapshot_same _ _ _ _) fun _ => rfl
  | admitRun organization subject fingerprint request target authority =>
    exact yields_discard (admitRun_step _ _ _ _ _ _)
  | authorizeRun reservationId organization subject fingerprint authority =>
    exact yields_same (authorizeRun_same _ _ _ _ _) fun _ => rfl
  | reconcileAndConstructMetering permit actualUsage authority =>
    exact yields_discard (reconcile_step _ _ _)
  | acceptSettlement intent meter settlement authority =>
    exact yields_discard (acceptSettlement_step _ _ _ _)

/-- A settlement that is accepted is booked. -/
theorem booked_of_settles (h : plane.Settles signing intent meter settlement authority charge) :
    plane.booked (.acceptSettlement intent meter settlement authority) (.ok ()) =
      [(settlement.core.digest, intent.reservationId)] := by
  rw [booked, h.stored, Option.map_some, h.unsettled, if_pos rfl]

/-! ### Sums -/

/-- What `exposure_micros` sums up. -/
theorem toNat_exposureMicros : plane.exposureMicros.toNat = min plane.exposure u64Max := by
  have hzero : (0 : UInt64).toNat = 0 := rfl
  rw [exposureMicros, toNat_foldl_saturatingAdd, exposure, total, hzero, Nat.zero_add]

/-- What a budget that admits a job is left with. -/
theorem exposure_of_affordable {budget : BudgetPolicy} {job : UInt64}
    (h : budget.admit job plane.exposureMicros = .ok ()) :
    min (plane.exposure + job.toNat) u64Max ≤ budget.maximumPeriodMicros.toNat := by
  have hle := (ensure_eq_ok.mp h).2.2
  rw [UInt64.le_iff_toNat_le, toNat_saturatingAdd, toNat_exposureMicros] at hle
  omega

variable {id : String}

theorem exposure_insert_of_none (hfree : plane.charges[id]? = none)
    (hcharges : after.charges = plane.charges.insert id charge) :
    after.exposure = plane.exposure + charge.exposed.toNat := by
  rw [exposure, exposure, hcharges, total_insert_of_notMem hfree]
  omega

theorem exposure_insert_of_some {old : ChargeState} (hstored : plane.charges[id]? = some old)
    (hcharges : after.charges = plane.charges.insert id charge) :
    after.exposure + old.exposed.toNat = plane.exposure + charge.exposed.toNat := by
  rw [exposure, exposure, hcharges]
  exact total_insert_of_getElem? hstored

theorem charges_cases {other : String} {stored : ChargeState}
    (hcharges : after.charges = plane.charges.insert id charge)
    (h : after.charges[other]? = some stored) :
    (id = other ∧ stored = charge) ∨ (id ≠ other ∧ plane.charges[other]? = some stored) := by
  rw [hcharges, Std.ExtTreeMap.getElem?_insert] at h
  split_ifs at h with hkey
  · exact .inl ⟨Std.LawfulEqCmp.compare_eq_iff_eq.mp hkey, (Option.some.inj h).symm⟩
  · refine .inr ⟨?_, h⟩
    rintro rfl
    exact hkey Std.ReflCmp.compare_self

/-- The plane that `new` opens (lines 806–816). -/
def opened (servicePolicy : Policy) (deployment : DeploymentPolicy) (rateCard : RateCard)
    (budget : BudgetPolicy) (binding : MarketplaceBinding) (timestamp : String) :
    CommercialControlPlane :=
  { service := .opened servicePolicy timestamp, identities := .empty, deployment, rateCard, budget
    binding, charges := ∅, receipts := [], timestamp }

end CommercialControlPlane

end ChatmanEcosystem.AgentLightning
