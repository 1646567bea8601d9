import ChatmanEcosystem.AgentLightning.PlaneSteps
import ChatmanEcosystem.AgentLightning.Quota
import ChatmanEcosystem.AgentLightning.RetiredKeys

/-!
# The budget of a period

The charges of the commercial control plane over its runs
(`crates/ecosystem-runtime/src/agent_lightning_commercial_plane.rs`, lines 615–666 and 935–1144):
what they expose of the budget, the intents that are metered of them, and the settlements that
are accepted for them.

Result:

* `sound_iff_careful`: the runs that stay within the budget and settle a receipt once.
-/

namespace ChatmanEcosystem.AgentLightning

open Commerce Common Core Rust

/-! ## Runs -/

/-- The plane, and the settlements that it accepted with the reservations they were accepted
for. -/
structure PlaneHistory where
  plane : CommercialControlPlane
  settled : List (String × String)

namespace PlaneHistory

open CommercialControlPlane

variable (signing : Signing)

def start (plane : CommercialControlPlane) : PlaneHistory where
  plane := plane
  settled := []

def next (history : PlaneHistory) (op : PlaneOp) : PlaneHistory :=
  let (reply, after) := (call signing op).call history.plane
  { plane := after, settled := history.settled ++ history.plane.booked op reply }

/-- The period is within its budget, an intent amounts to what is reserved for its run at most,
and a settlement is accepted for one reservation. -/
structure Sound (history : PlaneHistory) : Prop where
  budget : history.plane.exposure ≤ history.plane.budget.maximumPeriodMicros.toNat
  intents : ∀ (id : String) charge, history.plane.charges[id]? = some charge →
    ∀ intent ∈ charge.intent, intent.reservationId = id ∧
      intent.amountMicros ≤ charge.reserved.totalMicros
  settled : ∀ settlement id other, (settlement, id) ∈ history.settled →
    (settlement, other) ∈ history.settled → id = other

/-- A run that is reserved does not take the sum of the charges above `u64::MAX`, and a settlement
that is booked is one that no receipt of the plane is about. -/
structure Careful (history : PlaneHistory) (op : PlaneOp) : Prop where
  fits : ∀ organization subject fingerprint request target authority quote reservation,
    op = .admitRun organization subject fingerprint request target authority →
      history.plane.Reserves signing organization subject fingerprint request target authority
        quote reservation → history.plane.exposure + quote.totalMicros.toNat ≤ u64Max
  fresh : ∀ intent meter settlement authority charge,
    op = .acceptSettlement intent meter settlement authority →
      history.plane.Settles signing intent meter settlement authority charge →
        settlement.core.digest ∉ history.plane.settlements

/-- What a careful run keeps: the settlements that were accepted are those of the receipts, no two
are the same, and their charges have a settlement. -/
structure Kept (history : PlaneHistory) : Prop where
  budget : history.plane.exposure ≤ history.plane.budget.maximumPeriodMicros.toNat
  intents : ∀ (id : String) charge, history.plane.charges[id]? = some charge →
    ∀ intent ∈ charge.intent, intent.reservationId = id ∧
      intent.amountMicros ≤ charge.reserved.totalMicros
  receipted : history.settled.map Prod.fst = history.plane.settlements
  once : (history.settled.map Prod.fst).Nodup
  closed : ∀ entry ∈ history.settled, ∃ charge,
    history.plane.charges[entry.2]? = some charge ∧ charge.settlementReceipt ≠ ""

variable {signing} {history : PlaneHistory} {op : PlaneOp}

theorem Kept.sound (h : history.Kept) : history.Sound where
  budget := h.budget
  intents := h.intents
  settled _ _ _ hid hother := congrArg Prod.snd (List.inj_on_of_nodup_map h.once hid hother rfl)

theorem kept_start (servicePolicy : Policy) (deployment : DeploymentPolicy) (rateCard : RateCard)
    (budget : BudgetPolicy) (binding : MarketplaceBinding) (timestamp : String) :
    (start (opened servicePolicy deployment rateCard budget binding timestamp)).Kept where
  budget := Nat.zero_le _
  intents id charge hstored := by
    rw [start, opened, Std.ExtTreeMap.getElem?_empty] at hstored
    cases hstored
  receipted := rfl
  once := List.nodup_nil
  closed := nofun

/-- A call that leaves the charges and the settlements as they are keeps everything. -/
theorem Kept.same (h : history.Kept) {after : CommercialControlPlane}
    (hsame : history.plane.Same after) : Kept { plane := after, settled := history.settled } where
  budget := by
    have hbudget := h.budget
    rw [exposure] at hbudget ⊢
    rw [hsame.charges, hsame.budget]
    exact hbudget
  intents := by
    show ∀ (id : String) charge, after.charges[id]? = some charge → _
    rw [hsame.charges]
    exact h.intents
  receipted := h.receipted.trans hsame.settlements.symm
  once := h.once
  closed := by
    show ∀ entry ∈ history.settled, ∃ charge, after.charges[entry.2]? = some charge ∧ _
    rw [hsame.charges]
    exact h.closed

/-- A charge is stored, or replaced by one that has a settlement if the one before had. -/
theorem Kept.closed_insert (h : history.Kept) {after : CommercialControlPlane} {id : String}
    {new : ChargeState} (hcharges : after.charges = history.plane.charges.insert id new)
    (hnew : ∀ old, history.plane.charges[id]? = some old → old.settlementReceipt ≠ "" →
      new.settlementReceipt ≠ "") :
    ∀ entry ∈ history.settled, ∃ charge,
      after.charges[entry.2]? = some charge ∧ charge.settlementReceipt ≠ "" := by
  intro entry hentry
  obtain ⟨charge, hstored, hsettled⟩ := h.closed entry hentry
  by_cases hid : id = entry.2
  · subst hid
    refine ⟨new, ?_, hnew charge hstored hsettled⟩
    rw [hcharges]
    exact Std.ExtTreeMap.getElem?_insert_self
  · refine ⟨charge, ?_, hsettled⟩
    rw [hcharges, Std.ExtTreeMap.getElem?_insert, if_neg]
    · exact hstored
    · exact fun hkey => hid (Std.LawfulEqCmp.compare_eq_iff_eq.mp hkey)

/-- The intents are those of before, and that of the charge that is stored. -/
theorem Kept.intents_insert (h : history.Kept) {after : CommercialControlPlane} {id : String}
    {new : ChargeState} (hcharges : after.charges = history.plane.charges.insert id new)
    (hnew : ∀ intent ∈ new.intent, intent.reservationId = id ∧
      intent.amountMicros ≤ new.reserved.totalMicros) :
    ∀ (other : String) charge, after.charges[other]? = some charge →
      ∀ intent ∈ charge.intent, intent.reservationId = other ∧
        intent.amountMicros ≤ charge.reserved.totalMicros := by
  intro other charge hstored
  rcases charges_cases hcharges hstored with ⟨rfl, rfl⟩ | ⟨-, hbefore⟩
  · exact hnew
  · exact h.intents other charge hbefore

/-- A careful call keeps everything. -/
theorem Kept.next (h : history.Kept) (hcareful : history.Careful signing op) :
    (history.next signing op).Kept := by
  have hstep : history.plane.Step signing op ((call signing op).call history.plane).1
      ((call signing op).call history.plane).2 := call_step op
  rw [PlaneHistory.next]
  generalize ((call signing op).call history.plane) = result at hstep
  obtain ⟨reply, after⟩ := result
  show Kept { plane := after, settled := history.settled ++ history.plane.booked op reply }
  have hwithin := h.budget
  cases hstep with
  | same hsame hnothing =>
    rw [hnothing, List.append_nil]
    exact h.same hsame
  | @reserved organization subject fingerprint request target authority quote reservation receipt _
      hreserves hcharges hbudget hsettlements =>
    have hnothing : history.plane.booked (.admitRun organization subject fingerprint request target
        authority) (.ok ()) = [] := rfl
    have hexposure := exposure_insert_of_none hreserves.free hcharges
    have haffordable := exposure_of_affordable hreserves.affordable
    have hfits := hcareful.fits _ _ _ _ _ _ _ _ rfl hreserves
    rw [hnothing, List.append_nil]
    refine ⟨?_, h.intents_insert hcharges nofun, h.receipted.trans hsettlements.symm, h.once,
      h.closed_insert hcharges fun old hold => ?_⟩
    · show after.exposure ≤ after.budget.maximumPeriodMicros.toNat
      rw [hexposure, hbudget]
      show history.plane.exposure + quote.totalMicros.toNat ≤ _
      omega
    · rw [hreserves.free] at hold
      cases hold
  | @metered permit actualUsage authority charge intent _ hstored hunmetered hreservation hamount
      hcharges hbudget hsettlements =>
    have hnothing : history.plane.booked (.reconcileAndConstructMetering permit actualUsage
        authority) (.ok ()) = [] := rfl
    have hexposure := exposure_insert_of_some hstored hcharges
    have hreserved : charge.exposed = charge.reserved.totalMicros := by
      rw [ChargeState.exposed, hunmetered]
      rfl
    rw [hnothing, List.append_nil]
    refine ⟨?_, h.intents_insert hcharges fun other hother => ?_,
      h.receipted.trans hsettlements.symm, h.once, h.closed_insert hcharges fun old hold => ?_⟩
    · show after.exposure ≤ after.budget.maximumPeriodMicros.toNat
      rw [hreserved] at hexposure
      rw [hbudget]
      have hmetered : after.exposure + charge.reserved.totalMicros.toNat =
          history.plane.exposure + intent.amountMicros.toNat := hexposure
      rw [UInt64.le_iff_toNat_le] at hamount
      omega
    · obtain rfl := Option.some.inj hother
      exact ⟨hreservation, hamount⟩
    · obtain rfl := Option.some.inj (hstored.symm.trans hold)
      exact fun hsettled => hsettled
  | @settled intent meter settlement authority charge receipt _ hsettles hreceipted hcharges hbudget
      hsettlements =>
    have hbooked : history.plane.booked (.acceptSettlement intent meter settlement authority)
        (.ok ()) = [(settlement.core.digest, intent.reservationId)] := booked_of_settles hsettles
    have hexposure := exposure_insert_of_some hsettles.stored hcharges
    have hfresh := hcareful.fresh _ _ _ _ _ rfl hsettles
    rw [hbooked]
    refine ⟨?_, h.intents_insert hcharges ?_, ?_, ?_, fun entry hentry => ?_⟩
    · show after.exposure ≤ after.budget.maximumPeriodMicros.toNat
      have hsame : after.exposure + charge.exposed.toNat =
          history.plane.exposure + charge.exposed.toNat := hexposure
      rw [hbudget]
      omega
    · exact h.intents _ charge hsettles.stored
    · show _ = after.settlements
      rw [hsettlements, List.map_append, h.receipted]
      rfl
    · rw [List.map_append, List.map_singleton, List.nodup_append]
      refine ⟨h.once, List.nodup_singleton _, fun digest hdigest other hother => ?_⟩
      rw [List.mem_singleton.mp hother]
      rw [h.receipted] at hdigest
      intro hsame
      rw [hsame] at hdigest
      exact hfresh hdigest
    · rcases List.mem_append.mp hentry with hbefore | hnew
      · exact h.closed_insert hcharges (fun _ _ _ => hreceipted) entry hbefore
      · rw [List.mem_singleton.mp hnew]
        refine ⟨{ charge with settlementReceipt := receipt }, ?_, hreceipted⟩
        show after.charges[intent.reservationId]? = _
        rw [hcharges]
        exact Std.ExtTreeMap.getElem?_insert_self

/-- A run that is reserved adds its price. -/
theorem next_of_reserves {organization subject fingerprint : String} {request : JobRequest}
    {target : DeploymentTarget} {authority : Authority} {quote : ChargeQuote}
    {reservation : Reservation} (h : history.plane.Reserves signing organization subject fingerprint
      request target authority quote reservation) :
    let after := history.next signing
      (.admitRun organization subject fingerprint request target authority)
    after.plane.budget = history.plane.budget ∧
      after.plane.exposure = history.plane.exposure + quote.totalMicros.toNat := by
  intro after
  have hcall : (call signing (.admitRun organization subject fingerprint request target
      authority)).Yields history.plane fun _ plane => plane.budget = history.plane.budget ∧
        ∃ charge : ChargeState, charge.exposed = quote.totalMicros ∧
          plane.charges = history.plane.charges.insert reservation.id charge := by
    refine Method.yields_discard ?_
    obtain ⟨principal, service, receipt, -, -, -, hafter⟩ := admitRun_of_reserves h
    show CommercialControlPlane.budget (Prod.snd _) = _ ∧ _
    rw [hafter]
    exact ⟨rfl, _, rfl, rfl⟩
  obtain ⟨hbudget, charge, hexposed, hcharges⟩ := hcall
  refine ⟨hbudget, ?_⟩
  rw [← hexposed]
  exact exposure_insert_of_none h.free hcharges

/-- A settlement that passes the checks is one that the history keeps. -/
theorem next_of_settles {intent : MeteringIntent} {meter settlement : CommercialReceipt}
    {authority : Authority} {charge : ChargeState}
    (h : history.plane.Settles signing intent meter settlement authority charge) : ∃ receipt,
    history.next signing (.acceptSettlement intent meter settlement authority) =
      { plane := history.plane.store history.plane.service intent.reservationId
          { charge with settlementReceipt := receipt.core.digest } receipt
        settled := history.settled ++ [(settlement.core.digest, intent.reservationId)] } := by
  obtain ⟨receipt, hreply, -, -, hafter⟩ := acceptSettlement_of_settles h
  have hcall : (call signing (.acceptSettlement intent meter settlement authority)).call
      history.plane = (.ok (), history.plane.store history.plane.service intent.reservationId
        { charge with settlementReceipt := receipt.core.digest } receipt) := by
    refine (Method.call_discard _).trans ?_
    rw [hreply, hafter]
    rfl
  refine ⟨receipt, ?_⟩
  rw [PlaneHistory.next, hcall, ← booked_of_settles h]

/-- A call after which the history is sound was careful. -/
theorem Kept.careful (h : history.Kept) (hsound : (history.next signing op).Sound) :
    history.Careful signing op where
  fits organization subject fingerprint request target authority quote reservation hop
      hreserves := by
    subst hop
    obtain ⟨hbudget, hexposure⟩ := next_of_reserves hreserves
    have hwithin := hsound.budget
    rw [hbudget, hexposure] at hwithin
    have hmax := toNat_le_u64Max history.plane.budget.maximumPeriodMicros
    omega
  fresh intent meter settlement authority charge hop hsettles hmem := by
    subst hop
    rw [← h.receipted] at hmem
    obtain ⟨⟨digest, other⟩, hentry, hdigest⟩ := List.mem_map.mp hmem
    obtain ⟨receipt, hnext⟩ := next_of_settles hsettles
    have hsettled := hsound.settled
    rw [hnext] at hsettled
    have hnew : (settlement.core.digest, intent.reservationId) ∈
        history.settled ++ [(settlement.core.digest, intent.reservationId)] :=
      List.mem_append_right _ (List.mem_singleton_self _)
    have hold : (settlement.core.digest, other) ∈
        history.settled ++ [(settlement.core.digest, intent.reservationId)] := by
      rw [← hdigest]
      exact List.mem_append_left _ hentry
    have hsame := hsettled _ _ _ hold hnew
    obtain ⟨closed, hstored, hclosed⟩ := h.closed _ hentry
    have hid : history.plane.charges[intent.reservationId]? = some closed := hsame ▸ hstored
    obtain rfl := Option.some.inj (hsettles.stored.symm.trans hid)
    exact hclosed hsettles.unsettled

end PlaneHistory

open PlaneHistory CommercialControlPlane in
/-- In every state of a run of a new plane the charges are within the budget of the period, an
intent amounts to what is reserved for its run at most and a settlement is accepted for one
reservation, exactly when no run is reserved that takes their sum above `u64::MAX` and no
settlement is accepted that a receipt of the plane is about already. -/
theorem sound_iff_careful (signing : Signing) (servicePolicy : Policy)
    (deployment : DeploymentPolicy) (rateCard : RateCard) (budget : BudgetPolicy)
    (binding : MarketplaceBinding) (timestamp : String) (ops : List PlaneOp) :
    Always (PlaneHistory.next signing) Sound
        (start (opened servicePolicy deployment rateCard budget binding timestamp)) ops ↔
      Along (PlaneHistory.next signing) (Careful signing)
        (start (opened servicePolicy deployment rateCard budget binding timestamp)) ops :=
  always_iff_along_of (fun _ h => h.sound) (fun _ _ h hcareful => h.next hcareful)
    (fun _ _ h hsound => h.careful hsound) (kept_start _ _ _ _ _ _)

/-! ## One settlement for two runs -/

namespace Service

variable {signing : Signing} {service : Service}

/-- Within the quota, what `check_quota` sums up passes. -/
theorem checkQuota_of_level {grant : Grant} {requested : Units}
    (h : ∀ meter units, requested[meter]? = some units →
      service.level meter + units.toNat ≤ (grant.quota.amount meter).toNat) :
    service.checkQuota grant requested = .ok () := by
  refine forM_eq_ok.mpr fun entry hentry => ?_
  have hle := h entry.1 entry.2 (Std.ExtTreeMap.mem_toList_iff_getElem?_eq_some.mp hentry)
  refine ensure_eq_ok.mpr ?_
  rw [UInt64.le_iff_toNat_le, toNat_saturatingAdd, toNat_saturatingAdd, toNat_reserved]
  unfold level at hle
  omega

/-- The reservation of a new request. -/
def reservationOf (service : Service) (request : JobRequest) (receipt : ControlReceipt) :
    Reservation :=
  { id := reservationName (service.reservations.size + 1), jobId := request.id
    workload := request.workload, mode := request.mode, units := request.requested
    state := .reserved, reserveReceipt := receipt.core.digest, actuationReceipt := "" }

/-- The service once a request is reserved under a name. -/
def reserved (service : Service) (request : JobRequest) (name : String)
    (receipt : ControlReceipt) : Service :=
  { service with
    receipts := service.receipts ++ [receipt]
    reservations := service.reservations.insert name (service.reservationOf request receipt)
    idempotency := service.idempotency.insert request.idempotencyKey (fingerprint request, name) }

/-- A valid request under a new key is reserved. -/
theorem admitJob_eq_reserved {principal : Principal} {request : JobRequest} {grant : Grant}
    (hchecked : service.Checked principal request .persistControlPlane grant)
    (hkey : service.idempotency[request.idempotencyKey]? = none)
    (hquota : service.checkQuota grant request.requested = .ok ())
    (htimestamp : isBlank service.timestamp = false) :
    ∃ receipt, service.admitJob signing principal request .persistControlPlane =
      .ok (service.reservationOf request receipt,
        service.reserved request (reservationName (service.reservations.size + 1)) receipt) :=
  ⟨_, admitJob_eq_ok.mpr ⟨grant, hchecked, .inr ⟨hkey, hquota, htimestamp, _, rfl, rfl, rfl⟩⟩⟩

/-- A reservation of an active entitlement is authorized. -/
theorem authorizeActuation_eq_authorized {id : String} {reservation : Reservation}
    (hactive : service.activeGrant.isSome) (hstored : service.reservations[id]? = some reservation)
    (hstate : reservation.state = .reserved) (htimestamp : isBlank service.timestamp = false) :
    ∃ receipt : ControlReceipt,
      service.authorizeActuation signing id .modifyExternalObject =
        .ok (permit { reservation with
            state := .authorized, actuationReceipt := receipt.core.digest }, { service with
          receipts := service.receipts ++ [receipt]
          reservations := service.reservations.insert id { reservation with
            state := .authorized, actuationReceipt := receipt.core.digest } }) := by
  simp only [authorizeActuation, hstored, hstate, bind_eq_ok, ensure_eq_ok, Prod.exists,
    emit_eq_ok]
  exact ⟨_, (), ⟨trivial, hactive⟩, _, _, ⟨rfl, htimestamp, rfl, rfl⟩, by simp only [hstored]; rfl⟩

/-- An authorized reservation is reconciled with what it holds. -/
theorem reconcileUsage_eq_reconciled {id : String} {reservation : Reservation}
    (hstored : service.reservations[id]? = some reservation)
    (hstate : reservation.state = .authorized) (hid : reservation.id = id)
    (hunits : !reservation.units.isEmpty ∧ !reservation.units.anyZero)
    (htimestamp : isBlank service.timestamp = false) :
    ∃ receipt : ControlReceipt, isBlank receipt.core.digest = false ∧
      service.reconcileUsage signing (permit reservation) reservation.units .persistControlPlane =
        .ok (receipt.core.digest, { service with
          receipts := service.receipts ++ [receipt]
          consumed := service.consumed.book reservation.units
          reservations := service.reservations.insert id
            { reservation with state := .reconciled } }) := by
  have hpermit : (permit reservation).reservationId = id := hid
  have hcovered : reservation.units.toList.all (fun entry =>
      entry.2 ≤ reservation.units.amount entry.1) = true := by
    refine List.all_eq_true.mpr fun entry hentry => decide_eq_true ?_
    have hget := Std.ExtTreeMap.mem_toList_iff_getElem?_eq_some.mp hentry
    rw [Units.amount, hget]
    exact UInt64.le_refl _
  simp only [reconcileUsage, hpermit, hstored, bind_eq_ok, ensure_eq_ok, Prod.exists, emit_eq_ok]
  refine ⟨_, ?_, (), ⟨trivial, hunits⟩, (), ⟨hstate, rfl, rfl, rfl, rfl⟩, (), hcovered, _, _,
    ⟨rfl, htimestamp, rfl, rfl⟩, by simp only [hstored]; rfl⟩
  exact not_isBlank_append _ (by decide)

end Service

namespace CommercialControlPlane

open KeyHistory (fixtureFingerprint validDigest_fixtureFingerprint)

/-- The members of `verification_rate_card` (lines 1235–1245) for the meter of the run. -/
def fixtureRateCard : RateCard where
  currency := "USD"
  ratesMicros := .of [(.rollouts, 50000)]

/-- `verification_budget` (lines 1247–1252). -/
def fixtureBudget : BudgetPolicy where
  maximumJobMicros := 10000000
  maximumPeriodMicros := 30000000

/-- A request for one rollout. -/
def rolloutRequest (suffix : String) : JobRequest :=
  { fixtureRequest "organization:aws-customer" .hosted suffix with
    requested := .of [(.rollouts, 1)] }

/-- `fixture_target` (lines 1307–1329), hosted by AWS. -/
def fixtureTarget : DeploymentTarget where
  provider := .aws
  mode := .hosted
  region := "us-east-1"
  zones := 3
  replicas := 3
  rpoSeconds := 60
  rtoSeconds := 300
  features := {.privateNetwork, .durableReceiptSink}

/-- The plane of `verify_identity_fixture` (lines 1385–1392). -/
def fixturePlane : CommercialControlPlane :=
  opened .agentLightning .enterpriseDefault fixtureRateCard fixtureBudget
    { provider := .aws, dimension := "agent-lightning-charge-micro-usd", currency := "USD" }
    "2026-08-19T00:00:00Z"

/-- The principal that is registered. -/
def operator : Principal where
  organization := "organization:aws-customer"
  subject := "service-account:aws"
  keyFingerprint := fixtureFingerprint 1

theorem fields_operator : IdentityRegistry.ValidFields operator.organization operator.subject
    "key-1" operator.keyFingerprint := by
  have hnamed : isBlank operator.organization = false ∧ isBlank operator.subject = false := by
    decide +kernel
  exact ⟨hnamed.1, hnamed.2, by decide, KeyHistory.validDigest_fixtureFingerprint 1⟩

theorem validateRegister_operator : IdentityRegistry.empty.validateRegister operator.organization
    operator.subject "key-1" operator.keyFingerprint = .ok () := by
  simp only [IdentityRegistry.validateRegister, bind_eq_ok, ensure_eq_ok,
    IdentityRegistry.validateIdentityFields_eq_ok]
  exact ⟨(), fields_operator, Std.ExtTreeMap.getElem?_empty⟩

/-- What a rollout is priced at. -/
def rolloutQuote : ChargeQuote where
  currency := "USD"
  lines := [{ meter := .rollouts, units := 1, unitPriceMicros := 50000, amountMicros := 50000 }]
  totalMicros := 50000

/-- A plane that serves the requests of the principal. -/
structure Serves (plane : CommercialControlPlane) : Prop where
  deployment : plane.deployment = .enterpriseDefault
  rateCard : plane.rateCard = fixtureRateCard
  budget : plane.budget = fixtureBudget
  provider : plane.binding.provider = .aws
  dated : isBlank plane.timestamp = false
  principal : plane.authenticate operator.organization operator.subject operator.keyFingerprint =
    .ok operator
  policy : plane.service.policy = .agentLightning
  granted : plane.service.activeGrant = some (fixtureGrant "organization:aws-customer")
  serviceDated : isBlank plane.service.timestamp = false

variable {signing : Signing} {plane : CommercialControlPlane}

theorem Serves.of_service (h : plane.Serves) {service : Service}
    (hpolicy : service.policy = plane.service.policy)
    (hentitlement : service.entitlement = plane.service.entitlement)
    (htimestamp : service.timestamp = plane.service.timestamp) :
    Serves { plane with service } where
  deployment := h.deployment
  rateCard := h.rateCard
  budget := h.budget
  provider := h.provider
  dated := h.dated
  principal := h.principal
  policy := hpolicy.trans h.policy
  granted := by
    rw [← h.granted, Service.activeGrant, Service.activeGrant]
    show (service.entitlement.filter _).map _ = _
    rw [hentitlement]
  serviceDated := by
    show isBlank service.timestamp = false
    rw [htimestamp]
    exact h.serviceDated

theorem Serves.store (h : plane.Serves) (service : Service)
    (hpolicy : service.policy = plane.service.policy)
    (hentitlement : service.entitlement = plane.service.entitlement)
    (htimestamp : service.timestamp = plane.service.timestamp) (id : String) (charge : ChargeState)
    (receipt : PlaneReceipt) : (plane.store service id charge receipt).Serves :=
  have hafter := h.of_service hpolicy hentitlement htimestamp
  ⟨hafter.deployment, hafter.rateCard, hafter.budget, hafter.provider, hafter.dated,
    hafter.principal, hafter.policy, hafter.granted, hafter.serviceDated⟩

theorem admitted_operator : operator.admitted = true := by
  have hfields : (isBlank operator.organization || isBlank operator.subject) = false := by
    decide +kernel
  rw [Bool.or_eq_false_iff] at hfields
  rw [Principal.admitted, hfields.1, hfields.2, operator, validDigest_fixtureFingerprint]
  rfl

/-- A request under a new key is reserved, for one rollout. -/
theorem Serves.reserves (h : plane.Serves) {suffix : String}
    (hnamed : isBlank ("job-" ++ suffix) = false ∧ isBlank ("idem-" ++ suffix) = false)
    (hcharge : plane.chargeOf ("idem-" ++ suffix) = none)
    (hkey : plane.service.idempotency["idem-" ++ suffix]? = none)
    (hlevel : plane.service.level .rollouts < 100) (hexposure : plane.exposure ≤ 1000000)
    (hfree : plane.charges[reservationName (plane.service.reservations.size + 1)]? = none) :
    ∃ receipt, plane.Reserves signing operator.organization operator.subject
      operator.keyFingerprint (rolloutRequest suffix) fixtureTarget .persistControlPlane
      rolloutQuote (plane.service.reservationOf (rolloutRequest suffix) receipt) ∧
      plane.service.admitJob signing operator (rolloutRequest suffix) .persistControlPlane =
        .ok (plane.service.reservationOf (rolloutRequest suffix) receipt,
          plane.service.reserved (rolloutRequest suffix)
            (reservationName (plane.service.reservations.size + 1)) receipt) := by
  have hrequested : ∀ (meter : Meter) (units : UInt64),
    (rolloutRequest suffix).requested[meter]? = some units →
      meter = .rollouts ∧ units = 1 := by
    intro meter units hunits
    have hmeters : (Units.of [(.rollouts, 1)])[meter]? =
        if meter = .rollouts then some 1 else none := by
      cases meter <;> decide +kernel
    have hget : (Units.of [(.rollouts, 1)])[meter]? = some units := hunits
    rw [hmeters] at hget
    split_ifs at hget with hmeter
    exact ⟨hmeter, (Option.some.inj hget).symm⟩
  have hquota : plane.service.checkQuota (fixtureGrant "organization:aws-customer")
      (rolloutRequest suffix).requested = .ok () := by
    refine Service.checkQuota_of_level fun meter units hunits => ?_
    obtain ⟨rfl, rfl⟩ := hrequested meter units hunits
    have hgranted : ((fixtureGrant "organization:aws-customer").quota.amount .rollouts).toNat =
        100 := by decide +kernel
    have hone : (1 : UInt64).toNat = 1 := rfl
    rw [hgranted, hone]
    omega
  have hvalid : (Units.of [(.rollouts, 1)]).isEmpty = false ∧
      (Units.of [(.rollouts, 1)]).anyZero = false := by
    decide +kernel
  have hlimit : (Units.of [(.rollouts, 1)]).toList.all (fun entry =>
      entry.2 ≤ Policy.agentLightning.maxPerJob.amount entry.1) = true := by decide +kernel
  have hmode : Mode.hosted ∈ (fixtureGrant "organization:aws-customer").modes := by decide +kernel
  have hchecked : plane.service.Checked operator (rolloutRequest suffix) .persistControlPlane
      (fixtureGrant "organization:aws-customer") :=
    ⟨rfl, admitted_operator, by simp [rolloutRequest, fixtureRequest, hnamed.1],
      by simp [rolloutRequest, fixtureRequest, hnamed.2], hvalid.1,
      hvalid.2, h.granted, rfl, rfl, rfl, by rw [h.policy]; rfl, hmode,
      by rw [h.policy]; exact hlimit⟩
  obtain ⟨receipt, hadmits⟩ := @Service.admitJob_eq_reserved signing _ _ _ _ hchecked hkey
    hquota h.serviceDated
  refine ⟨receipt, ?_, hadmits⟩
  have haffordable : fixtureBudget.admit rolloutQuote.totalMicros plane.exposureMicros =
      .ok () := by
    refine ensure_eq_ok.mpr ⟨by decide, by decide, ?_⟩
    have hmax : fixtureBudget.maximumPeriodMicros.toNat = 30000000 := rfl
    have hprice : rolloutQuote.totalMicros.toNat = 50000 := rfl
    rw [UInt64.le_iff_toNat_le, toNat_saturatingAdd, toNat_exposureMicros, hmax, hprice]
    omega
  exact
    { controls := rfl
      deploys := by
        have hdeploys : DeploymentPolicy.enterpriseDefault.admit (rolloutRequest "") fixtureTarget =
            .ok () := by decide +kernel
        rw [h.deployment]
        exact hdeploys
      provides := h.provider.symm
      priced := by
        have hpriced : fixtureRateCard.quote (.of [(.rollouts, 1)]) = .ok rolloutQuote := by
          decide +kernel
        rw [h.rateCard]
        exact hpriced
      fresh := hcharge
      affordable := by
        rw [h.budget]
        exact haffordable
      admitted := ⟨operator, _, h.principal, hadmits⟩
      free := hfree
      named := not_isBlank_append _ (by decide)
      dated := h.dated }

theorem chargeOf_eq_none {key : String}
    (h : ∀ (id : String) charge, plane.charges[id]? = some charge → charge.idempotencyKey ≠ key) :
    plane.chargeOf key = none := by
  refine List.find?_eq_none.mpr fun entry hentry => ?_
  rw [decide_eq_true_iff]
  exact h entry.1 entry.2 (Std.ExtTreeMap.mem_toList_iff_getElem?_eq_some.mp hentry)

end CommercialControlPlane

namespace PlaneHistory

open CommercialControlPlane

variable {signing : Signing} {history : PlaneHistory}

/-- A call that settles nothing leaves the plane behind that its method leaves behind. -/
theorem next_of_discard {α : Type} {method : Method CommercialControlPlane PlaneError α}
    {op : PlaneOp} {after : CommercialControlPlane}
    (hop : call signing op = (do let _ ← method : Method CommercialControlPlane PlaneError Unit))
    (hnothing : ∀ reply, history.plane.booked op reply = [])
    (hafter : (method.call history.plane).2 = after) :
    history.next signing op = { plane := after, settled := history.settled } := by
  rw [PlaneHistory.next, hop, Method.call_discard, hafter]
  show PlaneHistory.mk after (history.settled ++ _) = _
  rw [hnothing, List.append_nil]

/-- A request under a new key is reserved under the next name. -/
theorem next_admitRun (h : history.plane.Serves) {suffix : String}
    (hnamed : isBlank ("job-" ++ suffix) = false ∧ isBlank ("idem-" ++ suffix) = false)
    (hcharge : history.plane.chargeOf ("idem-" ++ suffix) = none)
    (hkey : history.plane.service.idempotency["idem-" ++ suffix]? = none)
    (hlevel : history.plane.service.level .rollouts < 100)
    (hexposure : history.plane.exposure ≤ 1000000) {name : String}
    (hname : reservationName (history.plane.service.reservations.size + 1) = name)
    (hfree : history.plane.charges[name]? = none) :
    ∃ receipt digest planeReceipt, history.next signing
        (.admitRun operator.organization operator.subject operator.keyFingerprint
          (rolloutRequest suffix) fixtureTarget .persistControlPlane) =
      { plane := history.plane.store
          (history.plane.service.reserved (rolloutRequest suffix) name receipt) name
          (.opened operator.organization ("idem-" ++ suffix) rolloutQuote fixtureTarget digest)
          planeReceipt
        settled := history.settled } := by
  subst hname
  obtain ⟨receipt, hreserves, hadmits⟩ :=
    @Serves.reserves signing _ h suffix hnamed hcharge hkey hlevel hexposure hfree
  obtain ⟨principal, service, planeReceipt, hprincipal, hservice, -, hafter⟩ :=
    admitRun_of_reserves hreserves
  obtain rfl := Except.ok.inj (h.principal.symm.trans hprincipal)
  obtain ⟨-, rfl⟩ := Prod.mk.inj (Except.ok.inj (hadmits.symm.trans hservice))
  exact ⟨receipt, _, planeReceipt, next_of_discard rfl (fun _ => rfl) hafter⟩

/-- A reserved run is authorized. -/
theorem next_authorizeRun (h : history.plane.Serves) {name : String} {charge : ChargeState}
    {reservation : Reservation} (hcharge : history.plane.charges[name]? = some charge)
    (horganization : charge.organization = operator.organization)
    (hstored : history.plane.service.reservations[name]? = some reservation)
    (hstate : reservation.state = .reserved) :
    ∃ receipt : ControlReceipt, history.next signing
        (.authorizeRun name operator.organization operator.subject operator.keyFingerprint
          .modifyExternalObject) =
      { plane := { history.plane with
          service := { history.plane.service with
            receipts := history.plane.service.receipts ++ [receipt]
            reservations := history.plane.service.reservations.insert name { reservation with
              state := .authorized, actuationReceipt := receipt.core.digest } } }
        settled := history.settled } := by
  have hactive : history.plane.service.activeGrant.isSome := by rw [h.granted]; rfl
  obtain ⟨receipt, hpermit⟩ := @Service.authorizeActuation_eq_authorized signing _ _ _ hactive
    hstored hstate h.serviceDated
  refine ⟨receipt, next_of_discard rfl (fun _ => rfl) ?_⟩
  rw [authorizeRun_of_stored h.principal hcharge horganization hpermit]

/-- An authorized run is metered with what it has reserved. -/
theorem next_reconcile (h : history.plane.Serves) {name : String} {charge : ChargeState}
    {reservation : Reservation} (hcharge : history.plane.charges[name]? = some charge)
    (hreserved : charge.reserved = rolloutQuote) (hintent : charge.intent = none)
    (hstored : history.plane.service.reservations[name]? = some reservation)
    (hstate : reservation.state = .authorized) (hid : reservation.id = name)
    (hunits : reservation.units = .of [(.rollouts, 1)]) :
    ∃ intent receipt planeReceipt, intent.reservationId = name ∧
      intent.billableUnits = 50000 ∧ intent.amountMicros = 50000 ∧
      history.next signing (.reconcileAndConstructMetering (Service.permit reservation)
          reservation.units .persistControlPlane) =
        { plane := history.plane.store
            { history.plane.service with
              receipts := history.plane.service.receipts ++ [receipt]
              consumed := history.plane.service.consumed.book reservation.units
              reservations := history.plane.service.reservations.insert name
                { reservation with state := .reconciled } } name
            { charge with intent := some intent } planeReceipt
          settled := history.settled } := by
  have hvalid : (Units.of [(.rollouts, 1)]).isEmpty = false ∧
      (Units.of [(.rollouts, 1)]).anyZero = false := by
    decide +kernel
  obtain ⟨receipt, hnamed, hreconciled⟩ := @Service.reconcileUsage_eq_reconciled signing _ _ _
    hstored hstate hid (by rw [hunits]; simpa using hvalid) h.serviceDated
  have hpriced : fixtureRateCard.quote (.of [(.rollouts, 1)]) = .ok rolloutQuote := by
    decide +kernel
  have hpermit : (Service.permit reservation).reservationId = name := hid
  have hmeters : history.plane.Meters signing (Service.permit reservation) reservation.units
      .persistControlPlane charge rolloutQuote :=
    { controls := rfl
      priced := by rw [h.rateCard, hunits]; exact hpriced
      stored := by rw [hpermit]; exact hcharge
      unmetered := hintent
      within := by rw [hreserved, h.budget]; decide
      reconciled := ⟨_, _, hnamed, hreconciled⟩
      dated := h.dated }
  obtain ⟨intent, usageReceipt, service, planeReceipt, hservice, -, hreservation, hunits', hamount,
    -, hafter⟩ := reconcile_of_meters hmeters
  obtain ⟨-, rfl⟩ := Prod.mk.inj (Except.ok.inj (hreconciled.symm.trans hservice))
  rw [hpermit] at hreservation hafter
  exact ⟨intent, receipt, planeReceipt, hreservation, hunits', hamount,
    next_of_discard rfl (fun _ => rfl) hafter⟩

/-- A commercial receipt for the units of one rollout, signed as the ledger signs its own. -/
def providerReceipt (signing : Signing) (kind : ReceiptKind) (units amountMicros : UInt64) :
    CommercialReceipt where
  kind
  stateBefore := .usageRecorded
  stateAfter := .metered
  providerEventRef := "provider-event"
  sourceReceipt := ""
  previousDigest := ""
  units
  amountMicros
  core := Receipt.sign signing
    { id := "receipt:" ++ ("commerce-" ++ (1).repr), subject := "subscription:aws"
      actor := "provider:aws", authority := kind.authority, intention := kind.debug
      observed := ["provider-event"], executed := [kind.debug], changed := ["commercial-state"]
      verified := ["provider observation admitted"], excluded := []
      replay := ["commerce verify-fixtures"], standingBefore := .partialAlive
      standingAfter := .partialAlive, timestamp := "2026-08-19T00:00:00Z", digest := "" }

theorem verify_providerReceipt (kind : ReceiptKind) (units amountMicros : UInt64) :
    (providerReceipt signing kind units amountMicros).verify signing = .ok () := by
  have hname : "commerce-".toList.all isIdChar = true ∧ "commerce-".toList ≠ [] := by decide
  have hfields : isBlank "subscription:aws" = false ∧ isBlank "provider:aws" = false ∧
      isBlank "2026-08-19T00:00:00Z" = false ∧ isBlank "provider-event" = false := by
    decide +kernel
  have hkind : isBlank kind.debug = false := by cases kind <;> decide +kernel
  have hcore : (providerReceipt signing kind units amountMicros).core.verify signing = .ok () := by
    refine Receipt.verify_sign signing (validId_receipt hname.1 hname.2 1) ?_ rfl
    simp only [Receipt.isComplete, hfields, hkind]
    rfl
  rw [CommercialReceipt.verify, hcore]
  simp only [bind_eq_ok, ensure_eq_ok]
  exact ⟨(), trivial, (), rfl, by simp [providerReceipt, hfields]⟩

/-- The entitlement of the fixture is bound, and its principal is registered. -/
theorem exists_serves (signing : Signing) : ∃ plane : CommercialControlPlane, plane.Serves ∧
    plane.charges = ∅ ∧ plane.service.reservations = ∅ ∧ plane.service.idempotency = ∅ ∧
    plane.service.consumed = ∅ ∧
    run (next signing) (start fixturePlane)
      [.bindEntitlement (fixtureGrant "organization:aws-customer")
          (providerReceipt signing .fulfillmentAuthorized 0 0) .persistControlPlane,
        .registerKey operator.organization operator.subject "key-1" operator.keyFingerprint
          .persistControlPlane] = { plane, settled := [] } := by
  have hdated : isBlank "2026-08-19T00:00:00Z" = false := by decide
  have haccepted : fixturePlane.service.BindAccepted signing
      (fixtureGrant "organization:aws-customer")
      (providerReceipt signing .fulfillmentAuthorized 0 0) .persistControlPlane :=
    ⟨verify_providerReceipt _ _ _, ⟨rfl, by decide +kernel⟩, nofun, rfl, hdated⟩
  obtain ⟨digest, service, receipts, hbind, hservice⟩ :=
    Service.bindEntitlement_of_accepted haccepted
  have hmethod := @InPlace.bindEntitlement_eq signing fixturePlane.service
    (fixtureGrant "organization:aws-customer")
    (providerReceipt signing .fulfillmentAuthorized 0 0) .persistControlPlane
  rw [hbind] at hmethod
  have hbound : (start fixturePlane).next signing (.bindEntitlement
      (fixtureGrant "organization:aws-customer")
      (providerReceipt signing .fulfillmentAuthorized 0 0) .persistControlPlane) =
      { plane := { fixturePlane with service }, settled := [] } := by
    refine next_of_discard rfl (fun _ => rfl) ?_
    have hpart := congrArg Prod.snd hmethod
    exact congrArg (fun service => { fixturePlane with service }) hpart
  obtain ⟨receipt, hregistered⟩ := @registerKey_of_valid signing { fixturePlane with service } _ _
    _ _ validateRegister_operator hdated
  have hauthenticate : (IdentityRegistry.empty.applyRegister operator.organization
      operator.subject "key-1" operator.keyFingerprint).authenticate operator.organization
        operator.subject operator.keyFingerprint = .ok operator :=
    IdentityRegistry.authenticate_eq_ok.mpr ⟨fields_operator.fingerprint,
      .registered operator.organization operator.subject "key-1" operator.keyFingerprint, _,
      IdentityRegistry.store_self, rfl, eqIgnoreAsciiCase_iff.mpr rfl, rfl⟩
  refine ⟨push { fixturePlane with
    service
    identities := IdentityRegistry.empty.applyRegister operator.organization operator.subject
      "key-1" operator.keyFingerprint } receipt, ?_, rfl, ?_, ?_, ?_, ?_⟩
  · exact
      { deployment := rfl, rateCard := rfl, budget := rfl, provider := rfl, dated := hdated
        principal := hauthenticate
        policy := by rw [hservice]; rfl
        granted := by rw [hservice]; rfl
        serviceDated := by rw [hservice]; exact hdated }
  · rw [hservice]
    rfl
  · rw [hservice]
    rfl
  · rw [hservice]
    rfl
  · rw [run_cons, hbound, run_cons, run_nil]
    exact next_of_discard rfl (fun _ => rfl) hregistered

/-- A run of one rollout that is admitted under a name and not settled. -/
structure Holds (plane : CommercialControlPlane) (name : String) (charge : ChargeState)
    (reservation : Reservation) : Prop where
  charged : plane.charges[name]? = some charge
  organization : charge.organization = operator.organization
  reserved : charge.reserved = rolloutQuote
  unsettled : charge.settlementReceipt = ""
  stored : plane.service.reservations[name]? = some reservation
  id : reservation.id = name
  units : reservation.units = .of [(.rollouts, 1)]

/-- A call for another run leaves a run as it is. -/
theorem Holds.of_ne {plane after : CommercialControlPlane} {name other : String}
    {charge : ChargeState} {reservation : Reservation} (h : Holds plane name charge reservation)
    (hne : other ≠ name)
    (hcharges : after.charges = plane.charges ∨
      ∃ new, after.charges = plane.charges.insert other new)
    (hreservations : after.service.reservations = plane.service.reservations ∨
      ∃ new, after.service.reservations = plane.service.reservations.insert other new) :
    Holds after name charge reservation where
  charged := by
    rcases hcharges with hcharges | ⟨new, hcharges⟩
    · rw [hcharges, h.charged]
    · rw [hcharges, getElem?_insert_of_ne _ hne, h.charged]
  organization := h.organization
  reserved := h.reserved
  unsettled := h.unsettled
  stored := by
    rcases hreservations with hreservations | ⟨new, hreservations⟩
    · rw [hreservations, h.stored]
    · rw [hreservations, getElem?_insert_of_ne _ hne, h.stored]
  id := h.id
  units := h.units

/-- Two runs of one rollout are admitted. -/
theorem exists_holds (signing : Signing) : ∃ (plane : CommercialControlPlane)
    (first second : ChargeState) (one two : Reservation), plane.Serves ∧
    Holds plane (reservationName 1) first one ∧ first.intent = none ∧ one.state = .reserved ∧
    Holds plane (reservationName 2) second two ∧ second.intent = none ∧ two.state = .reserved ∧
    run (next signing) (start fixturePlane)
      [.bindEntitlement (fixtureGrant "organization:aws-customer")
          (providerReceipt signing .fulfillmentAuthorized 0 0) .persistControlPlane,
        .registerKey operator.organization operator.subject "key-1" operator.keyFingerprint
          .persistControlPlane,
        .admitRun operator.organization operator.subject operator.keyFingerprint
          (rolloutRequest "one") fixtureTarget .persistControlPlane,
        .admitRun operator.organization operator.subject operator.keyFingerprint
          (rolloutRequest "two") fixtureTarget .persistControlPlane] = { plane, settled :=
            [] } := by
  obtain ⟨plane, hserves, hcharges, hreservations, hidempotency, hconsumed, hrun⟩ :=
    exists_serves signing
  have hnames : reservationName 1 ≠ reservationName 2 := by decide +kernel
  have hlevel : plane.service.level .rollouts = 0 := by
    rw [Service.level, hconsumed, hreservations]
    rfl
  have hexposure : plane.exposure = 0 := by
    rw [exposure, hcharges]
    rfl
  -- the first run
  have hsize : reservationName (plane.service.reservations.size + 1) = reservationName 1 := by
    rw [hreservations]
    rfl
  obtain ⟨receipt₁, digest₁, planeReceipt₁, hfirst⟩ := @next_admitRun signing ⟨plane, []⟩ hserves
    "one" (by decide +kernel)
    (chargeOf_eq_none fun id charge hstored => by
      rw [hcharges, Std.ExtTreeMap.getElem?_empty] at hstored
      cases hstored)
    (by rw [hidempotency]; exact Std.ExtTreeMap.getElem?_empty) (lt_of_eq_of_lt hlevel (by omega))
    (le_of_eq_of_le hexposure (by omega)) _ hsize
      (by rw [hcharges]; exact Std.ExtTreeMap.getElem?_empty)
  -- the second run
  obtain ⟨plane₁, hplane₁⟩ : ∃ plane₁, plane₁ = plane.store (plane.service.reserved
      (rolloutRequest "one") (reservationName 1) receipt₁) (reservationName 1)
        (.opened operator.organization "idem-one" rolloutQuote fixtureTarget digest₁)
          planeReceipt₁ := ⟨_, rfl⟩
  have hnext₁ : next signing ⟨plane, []⟩ (.admitRun operator.organization operator.subject
      operator.keyFingerprint (rolloutRequest "one") fixtureTarget .persistControlPlane) =
      { plane := plane₁, settled := [] } := by
    rw [hfirst, hplane₁]
    rfl
  have hserves₁ : plane₁.Serves := by
    rw [hplane₁]
    exact hserves.store (plane.service.reserved _ _ receipt₁) rfl rfl rfl _ _ _
  have hcharges₁ : plane₁.charges = plane.charges.insert (reservationName 1)
      (.opened operator.organization "idem-one" rolloutQuote fixtureTarget digest₁) := by
    rw [hplane₁]
    rfl
  have hservice₁ : plane₁.service = plane.service.reserved (rolloutRequest "one")
      (reservationName 1) receipt₁ := by
    rw [hplane₁]
    rfl
  have hlevel₁ : plane₁.service.level .rollouts = 1 := by
    have hheld : (plane.service.reservationOf (rolloutRequest "one") receipt₁).held .rollouts =
        ((Units.of [(.rollouts, 1)]).amount .rollouts).toNat := rfl
    have hone : ((Units.of [(.rollouts, 1)]).amount .rollouts).toNat = 1 := by decide +kernel
    have hfree : plane.service.reservations[reservationName 1]? = none := by
      rw [hreservations]
      exact Std.ExtTreeMap.getElem?_empty
    have hadd : plane₁.service.level .rollouts = plane.service.level .rollouts +
        (plane.service.reservationOf (rolloutRequest "one") receipt₁).held .rollouts := by
      rw [hservice₁]
      exact Service.level_of_insert hfree rfl rfl
    rw [hadd, hlevel, hheld, hone]
  have hexposure₁ : plane₁.exposure = 50000 := by
    have hprice : rolloutQuote.totalMicros.toNat = 50000 := rfl
    have hadd : plane₁.exposure = plane.exposure + rolloutQuote.totalMicros.toNat :=
      exposure_insert_of_none (by rw [hcharges]; exact Std.ExtTreeMap.getElem?_empty) hcharges₁
    rw [hadd, hexposure, hprice]
  have hsize₁ : reservationName (plane₁.service.reservations.size + 1) = reservationName 2 := by
    rw [hservice₁, Service.reserved, hreservations, Std.ExtTreeMap.size_insert]
    rfl
  obtain ⟨receipt₂, digest₂, planeReceipt₂, hsecond⟩ := @next_admitRun signing ⟨plane₁, []⟩
    hserves₁ "two" (by decide +kernel)
    (chargeOf_eq_none fun id charge hstored => by
      rcases charges_cases hcharges₁ hstored with ⟨-, rfl⟩ | ⟨-, hbefore⟩
      · exact (by decide : "idem-one" ≠ "idem-" ++ "two")
      · rw [hcharges, Std.ExtTreeMap.getElem?_empty] at hbefore
        cases hbefore)
    (by
      rw [hservice₁, Service.reserved, hidempotency]
      exact (getElem?_insert_of_ne _ (by decide) _).trans Std.ExtTreeMap.getElem?_empty)
    (lt_of_eq_of_lt hlevel₁ (by omega))
    (le_of_eq_of_le hexposure₁ (by omega)) _ hsize₁
    (by
      rw [hcharges₁, getElem?_insert_of_ne _ hnames, hcharges]
      exact Std.ExtTreeMap.getElem?_empty)
  have hone : Holds plane₁ (reservationName 1)
      (.opened operator.organization "idem-one" rolloutQuote fixtureTarget digest₁)
      (plane.service.reservationOf (rolloutRequest "one") receipt₁) :=
    { charged := by rw [hcharges₁]; exact Std.ExtTreeMap.getElem?_insert_self
      organization := rfl, reserved := rfl, unsettled := rfl
      stored := by rw [hservice₁]; exact Std.ExtTreeMap.getElem?_insert_self
      id := hsize, units := rfl }
  have htwo : Holds (plane₁.store (plane₁.service.reserved (rolloutRequest "two")
        (reservationName 2) receipt₂) (reservationName 2)
        (.opened operator.organization "idem-two" rolloutQuote fixtureTarget digest₂)
        planeReceipt₂) (reservationName 2)
      (.opened operator.organization "idem-two" rolloutQuote fixtureTarget digest₂)
      (plane₁.service.reservationOf (rolloutRequest "two") receipt₂) :=
    { charged := Std.ExtTreeMap.getElem?_insert_self
      organization := rfl, reserved := rfl, unsettled := rfl
      stored := Std.ExtTreeMap.getElem?_insert_self
      id := hsize₁, units := rfl }
  refine ⟨_, _, _, _, _, ?_, hone.of_ne hnames.symm (.inr ⟨_, rfl⟩) (.inr ⟨_, rfl⟩), rfl, rfl, htwo,
    rfl, rfl, ?_⟩
  · exact hserves₁.store (plane₁.service.reserved _ _ receipt₂) rfl rfl rfl _ _ _
  · rw [run_cons, run_cons, run_nil] at hrun
    rw [run_cons, run_cons, hrun, run_cons, hnext₁, run_cons, hsecond, run_nil]
    rfl

/-- A run that is reserved and held is authorized. -/
theorem Holds.next_authorizeRun {plane : CommercialControlPlane} {name : String}
    {charge : ChargeState} {reservation : Reservation} (h : Holds plane name charge reservation)
    (hserves : plane.Serves) (hstate : reservation.state = .reserved) :
    ∃ (after : CommercialControlPlane) (authorized : Reservation), after.Serves ∧
      Holds after name charge authorized ∧ authorized.state = .authorized ∧
      (∀ other otherCharge otherReservation, name ≠ other →
        Holds plane other otherCharge otherReservation →
          Holds after other otherCharge otherReservation) ∧
      next signing ⟨plane, []⟩ (.authorizeRun name operator.organization operator.subject
        operator.keyFingerprint .modifyExternalObject) = { plane := after, settled := [] } := by
  obtain ⟨receipt, hnext⟩ := @PlaneHistory.next_authorizeRun signing ⟨plane, []⟩ hserves _ _ _
    h.charged h.organization h.stored hstate
  refine ⟨_, { reservation with state := .authorized, actuationReceipt := receipt.core.digest },
    ?_, ?_, rfl, fun other _ _ hne hother => ?_, hnext⟩
  · exact hserves.of_service rfl rfl rfl
  · exact { h with stored := Std.ExtTreeMap.getElem?_insert_self }
  · exact hother.of_ne hne (.inl rfl) (.inr ⟨_, rfl⟩)

/-- A run that is authorized and held is metered. -/
theorem Holds.next_reconcile {plane : CommercialControlPlane} {name : String}
    {charge : ChargeState} {reservation : Reservation} (h : Holds plane name charge reservation)
    (hserves : plane.Serves) (hstate : reservation.state = .authorized)
    (hintent : charge.intent = none) :
    ∃ (after : CommercialControlPlane) (intent : MeteringIntent) (reconciled : Reservation),
      after.Serves ∧ intent.reservationId = name ∧ intent.billableUnits = 50000 ∧
      intent.amountMicros = 50000 ∧ Holds after name { charge with intent := some intent }
        reconciled ∧
      (∀ other otherCharge otherReservation, name ≠ other →
        Holds plane other otherCharge otherReservation →
          Holds after other otherCharge otherReservation) ∧
      next signing ⟨plane, []⟩ (.reconcileAndConstructMetering (Service.permit reservation)
        (.of [(.rollouts, 1)]) .persistControlPlane) = { plane := after, settled := [] } := by
  obtain ⟨intent, receipt, planeReceipt, hname, hunits, hamount, hnext⟩ :=
    @PlaneHistory.next_reconcile signing ⟨plane, []⟩ hserves _ _ _ h.charged h.reserved hintent
      h.stored hstate h.id h.units
  refine ⟨_, intent, { reservation with state := .reconciled }, ?_, hname, hunits, hamount, ?_,
    fun other _ _ hne hother => ?_, by rw [← h.units]; exact hnext⟩
  · refine hserves.store _ ?_ ?_ ?_ _ _ _ <;> rfl
  · exact
      { charged := Std.ExtTreeMap.getElem?_insert_self
        organization := h.organization, reserved := h.reserved, unsettled := h.unsettled
        stored := Std.ExtTreeMap.getElem?_insert_self, id := h.id, units := h.units }
  · exact hother.of_ne hne (.inr ⟨_, rfl⟩) (.inr ⟨_, rfl⟩)

/-- A run that is metered and held is settled. -/
theorem Holds.settles {plane : CommercialControlPlane} {name : String} {charge : ChargeState}
    {reservation : Reservation} {intent : MeteringIntent}
    (h : Holds plane name { charge with intent := some intent } reservation)
    (hserves : plane.Serves) (hname : intent.reservationId = name)
    (hunits : intent.billableUnits = 50000) (hamount : intent.amountMicros = 50000) :
    plane.Settles signing intent (providerReceipt signing .meterAccepted 50000 0)
      (providerReceipt signing .settlementReconciled 50000 50000) .persistControlPlane
      { charge with intent := some intent } where
  controls := rfl
  meterVerified := verify_providerReceipt _ _ _
  settlementVerified := verify_providerReceipt _ _ _
  agreed := ⟨rfl, rfl, hunits.symm, hunits.symm, hamount.symm⟩
  stored := by rw [hname]; exact h.charged
  metered := rfl
  unsettled := h.unsettled
  named := not_isBlank_append _ (by decide)
  dated := hserves.dated

/-- Two runs of one price are admitted, authorized and metered, and the meter and the settlement of
the provider are presented for the one and then for the other. -/
def settledTwice (signing : Signing) (first second : ActuationPermit)
    (firstIntent secondIntent : MeteringIntent) : List PlaneOp :=
  [.bindEntitlement (fixtureGrant "organization:aws-customer")
      (providerReceipt signing .fulfillmentAuthorized 0 0) .persistControlPlane,
    .registerKey operator.organization operator.subject "key-1" operator.keyFingerprint
      .persistControlPlane,
    .admitRun operator.organization operator.subject operator.keyFingerprint
      (rolloutRequest "one") fixtureTarget .persistControlPlane,
    .admitRun operator.organization operator.subject operator.keyFingerprint
      (rolloutRequest "two") fixtureTarget .persistControlPlane,
    .authorizeRun (reservationName 1) operator.organization operator.subject
      operator.keyFingerprint .modifyExternalObject,
    .authorizeRun (reservationName 2) operator.organization operator.subject
      operator.keyFingerprint .modifyExternalObject,
    .reconcileAndConstructMetering first (.of [(.rollouts, 1)]) .persistControlPlane,
    .reconcileAndConstructMetering second (.of [(.rollouts, 1)]) .persistControlPlane,
    .acceptSettlement firstIntent (providerReceipt signing .meterAccepted 50000 0)
      (providerReceipt signing .settlementReconciled 50000 50000) .persistControlPlane,
    .acceptSettlement secondIntent (providerReceipt signing .meterAccepted 50000 0)
      (providerReceipt signing .settlementReconciled 50000 50000) .persistControlPlane]

/-- The settlement is accepted for the two runs. -/
theorem exists_settled_twice (signing : Signing) :
    ∃ (first second : ActuationPermit) (firstIntent secondIntent : MeteringIntent),
      (run (next signing) (start fixturePlane)
          (settledTwice signing first second firstIntent secondIntent)).settled =
        [((providerReceipt signing .settlementReconciled 50000 50000).core.digest,
            reservationName 1),
          ((providerReceipt signing .settlementReconciled 50000 50000).core.digest,
            reservationName 2)] := by
  have hnames : reservationName 1 ≠ reservationName 2 := by decide +kernel
  obtain ⟨plane₄, first, second, one, two, hserves₄, hone₄, hopen₁, hstate₁, htwo₄, hopen₂, hstate₂,
    hrun⟩ := exists_holds signing
  obtain ⟨plane₅, one₅, hserves₅, hone₅, hauthorized₁, hkeep₅, hnext₅⟩ :=
    @Holds.next_authorizeRun signing _ _ _ _ hone₄ hserves₄ hstate₁
  obtain ⟨plane₆, two₆, hserves₆, htwo₆, hauthorized₂, hkeep₆, hnext₆⟩ :=
    @Holds.next_authorizeRun signing _ _ _ _ (hkeep₅ _ _ _ hnames htwo₄) hserves₅ hstate₂
  obtain ⟨plane₇, intent₁, one₇, hserves₇, hname₁, hunits₁, hamount₁, hone₇, hkeep₇, hnext₇⟩ :=
    @Holds.next_reconcile signing _ _ _ _ (hkeep₆ _ _ _ hnames.symm hone₅) hserves₆ hauthorized₁
      hopen₁
  obtain ⟨plane₈, intent₂, two₈, hserves₈, hname₂, hunits₂, hamount₂, htwo₈, hkeep₈, hnext₈⟩ :=
    @Holds.next_reconcile signing _ _ _ _ (hkeep₇ _ _ _ hnames htwo₆) hserves₇ hauthorized₂ hopen₂
  obtain ⟨receipt₁, hnext₉⟩ := @next_of_settles signing ⟨plane₈, []⟩ _ _ _ _ _
    ((hkeep₈ _ _ _ hnames.symm hone₇).settles hserves₈ hname₁ hunits₁ hamount₁)
  obtain ⟨plane₉, hplane₉⟩ : ∃ plane₉, plane₉ = plane₈.store plane₈.service intent₁.reservationId
      { first with intent := some intent₁, settlementReceipt := receipt₁.core.digest } receipt₁ :=
    ⟨_, rfl⟩
  have hserves₉ : plane₉.Serves := by
    rw [hplane₉]
    exact hserves₈.store plane₈.service rfl rfl rfl _ _ _
  have htwo₉ : Holds plane₉ (reservationName 2) { second with intent := some intent₂ } two₈ := by
    rw [hplane₉]
    refine htwo₈.of_ne hnames (.inr
      ⟨{ first with intent := some intent₁, settlementReceipt := receipt₁.core.digest }, ?_⟩)
      (.inl rfl)
    rw [← hname₁]
    rfl
  obtain ⟨receipt₂, hnext₁₀⟩ := @next_of_settles signing
    ⟨plane₉, [((providerReceipt signing .settlementReconciled 50000 50000).core.digest,
      intent₁.reservationId)]⟩ _ _ _ _ _
    (htwo₉.settles hserves₉ hname₂ hunits₂ hamount₂)
  refine ⟨Service.permit one₅, Service.permit two₆, intent₁, intent₂, ?_⟩
  rw [run_cons, run_cons, run_cons, run_cons, run_nil] at hrun
  rw [settledTwice, run_cons, run_cons, run_cons, run_cons, hrun, run_cons, hnext₅, run_cons,
    hnext₆, run_cons,
    hnext₇, run_cons, hnext₈, run_cons, hnext₉, run_cons, ← hplane₉, List.nil_append, hnext₁₀,
    run_nil, hname₁, hname₂]
  rfl

/-- A settlement that was accepted for a run is accepted for another one of the same price. -/
theorem settlement_accepted_twice : ∃ first second firstIntent secondIntent,
    ¬ Always (next sampleSigning) Sound (start fixturePlane)
      (settledTwice sampleSigning first second firstIntent secondIntent) := by
  obtain ⟨first, second, firstIntent, secondIntent, hsettled⟩ := exists_settled_twice sampleSigning
  refine ⟨first, second, firstIntent, secondIntent, fun halways => ?_⟩
  have hsound := (always_iff.mp halways _ [] (List.append_nil _).symm).settled
  rw [hsettled] at hsound
  have hsame := hsound _ (reservationName 1) (reservationName 2) List.mem_cons_self
    (List.mem_cons_of_mem _ List.mem_cons_self)
  exact (by decide +kernel : reservationName 1 ≠ reservationName 2) hsame

end PlaneHistory

end ChatmanEcosystem.AgentLightning
