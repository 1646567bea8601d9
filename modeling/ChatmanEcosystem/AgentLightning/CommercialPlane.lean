import ChatmanEcosystem.AgentLightning.Calls
import ChatmanEcosystem.AgentLightning.IdentitySnapshots

/-!
# The commercial control plane

Model of `CommercialControlPlane`
(`crates/ecosystem-runtime/src/agent_lightning_commercial_plane.rs`, lines 467–1217): the
registry, deployments, prices, budgets, metering and settlements around the paid service. Its
methods change the plane in place, and what the service has written before an error stays written.

Results:

* `manufactureReceipt_eq_ok`: what `manufacture_receipt` issues.
* `CommercialControlPlane.Step`, `call_step`: all that a call can do to the charges.
-/

namespace ChatmanEcosystem.AgentLightning

open Commerce Core Rust

/-! ## Deployments -/

/-- `enum DeploymentFeature` (lines 470–474). -/
inductive DeploymentFeature
  | privateNetwork
  | durableReceiptSink
  | customerManagedKey
  deriving DecidableEq

/-- `struct DeploymentTarget` (lines 477–486). -/
structure DeploymentTarget where
  provider : Provider
  mode : Mode
  region : String
  zones : UInt8
  replicas : UInt16
  rpoSeconds : UInt64
  rtoSeconds : UInt64
  features : Finset DeploymentFeature
  deriving DecidableEq

/-- `struct DeploymentPolicy` (lines 489–497). -/
structure DeploymentPolicy where
  allowedRegions : Std.ExtTreeMap String (Finset String)
  minimumZones : UInt8
  minimumReplicas : UInt16
  maximumReplicas : UInt16
  maximumRpoSeconds : UInt64
  maximumRtoSeconds : UInt64
  customerManagedKeyModes : Finset Mode

/-- `DeploymentPolicy::enterprise_default` (lines 501–524). -/
def DeploymentPolicy.enterpriseDefault : DeploymentPolicy where
  allowedRegions := .ofList [("aws", {"us-east-1", "us-west-2"}),
    ("microsoft", {"eastus", "westus2"}), ("google", {"us-central1", "us-east1"})]
  minimumZones := 2
  minimumReplicas := 2
  maximumReplicas := 64
  maximumRpoSeconds := 300
  maximumRtoSeconds := 900
  customerManagedKeyModes := {.byoc, .priv}

/-- `DeploymentPolicy::admit` (lines 526–568). -/
def DeploymentPolicy.admit (policy : DeploymentPolicy) (request : JobRequest)
    (target : DeploymentTarget) : Except PlaneError Unit := do
  ensure (target.mode = request.mode) (.refused "DEPLOYMENT_MODE_REQUEST_MISMATCH")
  ensure (policy.allowedRegions[target.provider.asStr]?.any (target.region ∈ ·))
    (.refused "DEPLOYMENT_REGION_NOT_ADMITTED")
  ensure (policy.minimumZones ≤ target.zones ∧ policy.minimumReplicas ≤ target.replicas ∧
    target.replicas ≤ policy.maximumReplicas ∧ target.rpoSeconds ≤ policy.maximumRpoSeconds ∧
    target.rtoSeconds ≤ policy.maximumRtoSeconds) (.refused "DEPLOYMENT_RELIABILITY_POLICY_FAILED")
  [DeploymentFeature.privateNetwork, .durableReceiptSink].forM fun feature =>
    ensure (feature ∈ target.features) (PlaneError.refused "DEPLOYMENT_REQUIRED_FEATURE_MISSING")
  ensure (target.mode ∈ policy.customerManagedKeyModes → .customerManagedKey ∈ target.features)
    (.refused "CUSTOMER_MANAGED_KEY_REQUIRED")

/-! ## Prices and budgets -/

/-- `struct ChargeLine` (lines 572–577). -/
structure ChargeLine where
  meter : Meter
  units : UInt64
  unitPriceMicros : UInt64
  amountMicros : UInt64
  deriving DecidableEq

/-- `struct ChargeQuote` (lines 580–584). -/
structure ChargeQuote where
  currency : String
  lines : List ChargeLine
  totalMicros : UInt64
  deriving DecidableEq

/-- `struct RateCard` (lines 587–590). -/
structure RateCard where
  currency : String
  ratesMicros : Units

namespace RateCard

/-- `RateCard::new` (lines 593–613). -/
def new (currency : String) (ratesMicros : Units) : Except PlaneError RateCard := do
  ensure (!isBlank currency ∧ [Meter.gpuSeconds, .inputTokens, .outputTokens, .rollouts].all
    fun meter => ratesMicros.amount meter ≠ 0) (.refused "INCOMPLETE_RATE_CARD")
  return { currency, ratesMicros }

variable (card : RateCard)

/-- One turn of the loop of `quote` (lines 621–642), with `total_micros` and `lines`. -/
def quoteLine (state : UInt64 × List ChargeLine) (entry : Meter × UInt64) :
    Except PlaneError (UInt64 × List ChargeLine) := do
  let (totalMicros, lines) := state
  let (meter, quantity) := entry
  ensure (quantity ≠ 0) (.refused "ZERO_USAGE_UNIT")
  let rate ← okOr card.ratesMicros[meter]? (.refused "METER_NOT_PRICED")
  let amount ← okOr (checkedMul quantity rate) (.refused "CHARGE_OVERFLOW")
  let totalMicros ← okOr (checkedAdd totalMicros amount) (.refused "CHARGE_OVERFLOW")
  return (totalMicros, lines ++
    [{ meter, units := quantity, unitPriceMicros := rate, amountMicros := amount }])

/-- `RateCard::quote` (lines 615–648). -/
def quote (units : Units) : Except PlaneError ChargeQuote := do
  ensure (!units.isEmpty) (.refused "EMPTY_USAGE_VECTOR")
  let (totalMicros, lines) ← units.toList.foldlM card.quoteLine (0, [])
  return { currency := card.currency, lines, totalMicros }

end RateCard

/-- `struct BudgetPolicy` (lines 652–655). -/
structure BudgetPolicy where
  maximumJobMicros : UInt64
  maximumPeriodMicros : UInt64
  deriving DecidableEq

/-- `BudgetPolicy::admit` (lines 658–666). -/
def BudgetPolicy.admit (budget : BudgetPolicy) (jobMicros existingExposure : UInt64) :
    Except PlaneError Unit :=
  ensure (jobMicros ≠ 0 ∧ jobMicros ≤ budget.maximumJobMicros ∧
    saturatingAdd existingExposure jobMicros ≤ budget.maximumPeriodMicros)
    (.refused "COST_BUDGET_EXCEEDED")

/-! ## The plane -/

/-- The members of `struct MarketplaceBinding` (lines 670–689) that the plane reads. -/
structure MarketplaceBinding where
  provider : Provider
  dimension : String
  currency : String
  deriving DecidableEq

/-- `struct MeteringIntent` (lines 747–757). -/
structure MeteringIntent where
  reservationId : String
  provider : Provider
  dimension : String
  actualUsage : Units
  billableUnits : UInt64
  amountMicros : UInt64
  currency : String
  sourceUsageReceipt : String
  controlReceiptDigest : String
  deriving DecidableEq

/-- `struct RunAdmission` (lines 760–765). -/
structure RunAdmission where
  reservation : Reservation
  quote : ChargeQuote
  target : DeploymentTarget
  receiptDigest : String

/-- `struct ChargeState` (lines 768–776). -/
structure ChargeState where
  organization : String
  idempotencyKey : String
  reserved : ChargeQuote
  target : DeploymentTarget
  admissionReceipt : String
  intent : Option MeteringIntent
  settlementReceipt : String

/-- `struct CommercialControlPlane` (lines 779–789). -/
structure CommercialControlPlane where
  service : Service
  identities : IdentityRegistry
  deployment : DeploymentPolicy
  rateCard : RateCard
  budget : BudgetPolicy
  binding : MarketplaceBinding
  charges : Std.ExtTreeMap String ChargeState
  receipts : List PlaneReceipt
  timestamp : String

/-- `From<ServiceError>` (lines 41–45): the displayed service error. -/
def PlaneError.ofService : Error → PlaneError
  | .refused detail => .service ("REFUSED:" ++ detail)
  | .commerce detail => .service ("COMMERCE:" ++ detail)
  | .receipt detail => .service ("RECEIPT:" ++ detail)

/-- `From<CommerceError>` (lines 47–51): the displayed commerce error. -/
def PlaneError.ofCommerce : CommerceError → PlaneError
  | .refused detail => .commerce ("REFUSED:" ++ detail)
  | .provider detail => .commerce ("PROVIDER:" ++ detail)
  | .receipt detail => .commerce ("RECEIPT:" ++ detail)

/-- What a charge exposes of the budget: its intent, or all that is reserved. -/
def ChargeState.exposed (charge : ChargeState) : UInt64 :=
  charge.intent.elim charge.reserved.totalMicros (·.amountMicros)

namespace CommercialControlPlane

/-- `CommercialControlPlane::new` (lines 792–817). -/
def new (servicePolicy : Policy) (deployment : DeploymentPolicy) (rateCard : RateCard)
    (budget : BudgetPolicy) (binding : MarketplaceBinding) (timestamp : String) :
    Except PlaneError CommercialControlPlane := do
  ensure (!isBlank timestamp ∧ rateCard.currency = binding.currency)
    (.refused "INVALID_COMMERCIAL_PLANE_POLICY")
  let service ← (Service.new servicePolicy timestamp).mapError .ofService
  return { service, identities := .empty, deployment, rateCard, budget, binding, charges := ∅
           receipts := [], timestamp }

variable (signing : Signing) (plane : CommercialControlPlane)

/-- `authenticate` (lines 918–926). -/
def authenticate (organization subject fingerprint : String) : Except PlaneError Principal :=
  plane.identities.authenticate organization subject fingerprint

/-- `exposure_micros` (lines 1134–1144). -/
def exposureMicros : UInt64 :=
  plane.charges.toList.foldl (fun sum (_, charge) => saturatingAdd sum charge.exposed) 0

/-- The receipt that `manufacture_receipt` issues (lines 1158–1193). -/
def issue (kind : PlaneKind) (source change : String) (authority : Authority) : PlaneReceipt :=
  let core : Receipt :=
    { id := "receipt:" ++
        ("agent-lightning-commercial-plane-" ++ (plane.receipts.length + 1).repr)
      subject := "service:agent-lightning-commercial"
      actor := "chatman-agent-lightning-commercial-plane"
      authority
      intention := kind.debug
      observed := [source]
      executed := [kind.debug]
      changed := [change]
      verified := ["admission authority identity cost and receipt boundary verified"]
      excluded := ["direct unreceipted external actuation"]
      replay := ["agent-lightning-commercial verify-fixtures"]
      standingBefore := .partialAlive
      standingAfter := .partialAlive
      timestamp := plane.timestamp
      digest := "" }
  { kind
    source
    previous := (plane.receipts.getLast?.map (·.core.digest)).getD ""
    core := core.sign signing }

/-- `manufacture_receipt` (lines 1146–1196). -/
def manufactureReceipt (kind : PlaneKind) (source change : String) (authority : Authority) :
    Except PlaneError PlaneReceipt := do
  requireControlAuthority authority
  ensure (!isBlank source ∧ !isBlank change) (.refused "PLANE_RECEIPT_EVIDENCE_REQUIRED")
  let receipt := plane.issue signing kind source change authority
  ensure (validId receipt.core.id "receipt")
    (.receipt ("invalid identifier \x60" ++ receipt.core.id ++ "\x60"))
  receipt.verify signing
  return receipt

/-! ### Methods -/

open Method

/-- A method of `self.service`. -/
def onService {α : Type} (method : Method Service Error α) :
    Method CommercialControlPlane PlaneError α :=
  onPart (·.service) (fun plane service => { plane with service }) .ofService method

/-- `self.receipts.push(receipt)`. -/
def push (receipt : PlaneReceipt) : CommercialControlPlane :=
  { plane with receipts := plane.receipts ++ [receipt] }

/-- `bind_entitlement` (lines 819–826). -/
def bindEntitlement (grant : Grant) (fulfillment : CommercialReceipt) (authority : Authority) :
    Method CommercialControlPlane PlaneError String :=
  onService (InPlace.bindEntitlement signing grant fulfillment authority)

/-- `format!("identity:{organization}:{subject}")`. -/
def identitySource (organization subject : String) : String :=
  "identity:" ++ organization ++ ":" ++ subject

/-- `register_key` (lines 828–847). -/
def registerKey (organization subject keyId fingerprint : String) (authority : Authority) :
    Method CommercialControlPlane PlaneError String := do
  check <| requireControlAuthority authority
  let plane ← get
  check <| plane.identities.validateRegister organization subject keyId fingerprint
  let source := identitySource organization subject
  let receipt ← check <| plane.manufactureReceipt signing .identityRegistered source keyId authority
  modify fun plane => { plane with
    identities := plane.identities.applyRegister organization subject keyId fingerprint }
  modify (push · receipt)
  return receipt.core.digest

/-- `rotate_key` (lines 849–873). -/
def rotateKey (organization subject keyId fingerprint : String) (authority : Authority) :
    Method CommercialControlPlane PlaneError String := do
  check <| requireControlAuthority authority
  let plane ← get
  let generation ← check <| plane.identities.validateRotate organization subject keyId fingerprint
  let source := identitySource organization subject
  let receipt ← check <| plane.manufactureReceipt signing .identityRotated source
    (keyId ++ ":generation:" ++ generation.toNat.repr) authority
  modify fun plane => { plane with
    identities := plane.identities.applyRotate organization subject keyId fingerprint generation }
  modify (push · receipt)
  return receipt.core.digest

/-- `revoke_identity` (lines 875–892). -/
def revokeIdentity (organization subject : String) (authority : Authority) :
    Method CommercialControlPlane PlaneError String := do
  check <| requireControlAuthority authority
  let plane ← get
  check <| plane.identities.validateRevoke organization subject
  let source := identitySource organization subject
  let receipt ← check <| plane.manufactureReceipt signing .identityRevoked source
    "active-key-revoked" authority
  modify fun plane => { plane with
    identities := plane.identities.applyRevoke organization subject }
  modify (push · receipt)
  return receipt.core.digest

/-- The snapshot that `persist_identity_snapshot` saves (lines 908–914). -/
def snapshot (receipt : PlaneReceipt) : IdentitySnapshot where
  schema := IdentitySnapshot.snapshotSchema
  identities := plane.identities.toRecords
  receipts := plane.receipts ++ [receipt]

/-- `persist_identity_snapshot` (lines 894–918), with the store that it saves to. -/
def persistIdentitySnapshot (store : IdentityStore) (tenantKey : String)
    (expectedVersion : Option ℤ) (authority : Authority) :
    Method CommercialControlPlane PlaneError (ℤ × IdentityStore) := do
  check <| requireControlAuthority authority
  let plane ← get
  let receipt ← check <| plane.manufactureReceipt signing .identitySnapshotPersisted tenantKey
    "identity-snapshot" authority
  let saved ← check <| store.save signing tenantKey (plane.snapshot receipt) expectedVersion
  modify (push · receipt)
  return saved

/-- `restore_identity_snapshot` (lines 928–932). -/
def restoreIdentitySnapshot (snapshot : IdentitySnapshot) :
    Except PlaneError (List IdentityRecord) := do
  return (← snapshot.verify signing).toRecords

/-- The charge under an idempotency key (lines 951–955). -/
def chargeOf (idempotencyKey : String) : Option (String × ChargeState) :=
  plane.charges.toList.find? fun (_, charge) => charge.idempotencyKey = idempotencyKey

/-- `admit_run` (lines 935–1007). -/
def admitRun (organization subject fingerprint : String) (request : JobRequest)
    (target : DeploymentTarget) (authority : Authority) :
    Method CommercialControlPlane PlaneError RunAdmission := do
  check <| requireControlAuthority authority
  let plane ← get
  let principal ← check <| plane.authenticate organization subject fingerprint
  check <| plane.deployment.admit request target
  check <| ensure (target.provider = plane.binding.provider)
    (.refused "MARKETPLACE_PROVIDER_TARGET_MISMATCH")
  let quote ← check <| plane.rateCard.quote request.requested
  match plane.chargeOf request.idempotencyKey with
  | some (reservationId, existing) =>
    let reservation ← onService (InPlace.admitJob signing principal request authority)
    check <| ensure (reservation.id = reservationId ∧ existing.organization = organization ∧
      existing.reserved = quote ∧ existing.target = target) (.refused "IDEMPOTENT_RUN_CONFLICT")
    return { reservation, quote := existing.reserved, target := existing.target
             receiptDigest := existing.admissionReceipt }
  | none =>
    check <| plane.budget.admit quote.totalMicros plane.exposureMicros
    let reservation ← onService (InPlace.admitJob signing principal request authority)
    let plane ← get
    match plane.charges[reservation.id]? with
    | some existing =>
      throw (.refused
        ("RESERVATION_ID_COLLISION:" ++ reservation.id ++ ":" ++ existing.organization))
    | none =>
      let receipt ← check <| plane.manufactureReceipt signing .runAdmitted reservation.id
        ("reserved:" ++ quote.totalMicros.toNat.repr) authority
      modify fun plane => { plane with
        charges := plane.charges.insert reservation.id
          { organization, idempotencyKey := request.idempotencyKey, reserved := quote, target
            admissionReceipt := receipt.core.digest, intent := none, settlementReceipt := "" } }
      modify (push · receipt)
      return { reservation, quote, target, receiptDigest := receipt.core.digest }

/-- `authorize_run` (lines 1008–1027). -/
def authorizeRun (reservationId organization subject fingerprint : String)
    (authority : Authority) : Method CommercialControlPlane PlaneError ActuationPermit := do
  let plane ← get
  let _ ← check <| plane.authenticate organization subject fingerprint
  let charge ← check <| okOr plane.charges[reservationId]? (.refused "RUN_NOT_ADMITTED")
  check <| ensure (charge.organization = organization) (.refused "RUN_TENANT_MISMATCH")
  onService (InPlace.authorizeActuation signing reservationId authority)

/-- `reconcile_and_construct_metering` (lines 1029–1083). -/
def reconcileAndConstructMetering (permit : ActuationPermit) (actualUsage : Units)
    (authority : Authority) : Method CommercialControlPlane PlaneError MeteringIntent := do
  check <| requireControlAuthority authority
  let plane ← get
  let actualQuote ← check <| plane.rateCard.quote actualUsage
  let existing ← check <| okOr plane.charges[permit.reservationId]? (.refused "RUN_NOT_ADMITTED")
  match existing.intent with
  | some intent =>
    check <| ensure (intent.actualUsage = actualUsage) (.refused "USAGE_REPLAY_CONFLICT")
    return intent
  | none =>
    check <| ensure (actualQuote.totalMicros ≤ existing.reserved.totalMicros ∧
      actualQuote.totalMicros ≤ plane.budget.maximumJobMicros)
      (.refused "ACTUAL_COST_EXCEEDS_RESERVATION")
    let usageReceipt ← onService (InPlace.reconcileUsage signing permit actualUsage authority)
    let plane ← get
    let receipt ← check <| plane.manufactureReceipt signing .meteringConstructed usageReceipt
      ("billable-micros:" ++ actualQuote.totalMicros.toNat.repr) authority
    let intent : MeteringIntent :=
      { reservationId := permit.reservationId, provider := plane.binding.provider
        dimension := plane.binding.dimension, actualUsage
        billableUnits := actualQuote.totalMicros, amountMicros := actualQuote.totalMicros
        currency := actualQuote.currency, sourceUsageReceipt := usageReceipt
        controlReceiptDigest := receipt.core.digest }
    let charge ← check <| okOr plane.charges[permit.reservationId]? (.receipt "RUN_DISAPPEARED")
    modify fun plane => { plane with
      charges := plane.charges.insert permit.reservationId { charge with intent := some intent } }
    modify (push · receipt)
    return intent

/-- `accept_settlement` (lines 1085–1128). -/
def acceptSettlement (intent : MeteringIntent) (meter settlement : CommercialReceipt)
    (authority : Authority) : Method CommercialControlPlane PlaneError String := do
  check <| requireControlAuthority authority
  check <| (meter.verify signing).mapError .ofCommerce
  check <| (settlement.verify signing).mapError .ofCommerce
  check <| ensure (meter.kind = .meterAccepted ∧ settlement.kind = .settlementReconciled ∧
    meter.units = intent.billableUnits ∧ settlement.units = intent.billableUnits ∧
    settlement.amountMicros = intent.amountMicros)
    (.refused "PROVIDER_SETTLEMENT_DOES_NOT_MATCH_INTENT")
  let plane ← get
  let existing ← check <| okOr plane.charges[intent.reservationId]? (.refused "RUN_NOT_ADMITTED")
  check <| ensure (existing.intent = some intent) (.refused "METERING_INTENT_NOT_ADMITTED")
  if existing.settlementReceipt ≠ "" then
    return existing.settlementReceipt
  else
    let receipt ← check <| plane.manufactureReceipt signing .settlementAccepted
      settlement.core.digest ("settled:" ++ intent.amountMicros.toNat.repr) authority
    let charge ← check <| okOr plane.charges[intent.reservationId]? (.receipt "RUN_DISAPPEARED")
    modify fun plane => { plane with
      charges := plane.charges.insert intent.reservationId
        { charge with settlementReceipt := receipt.core.digest } }
    modify (push · receipt)
    return receipt.core.digest

end CommercialControlPlane

/-- The calls of the plane. -/
inductive PlaneOp
  | bindEntitlement (grant : Grant) (fulfillment : CommercialReceipt) (authority : Authority)
  | registerKey (organization subject keyId fingerprint : String) (authority : Authority)
  | rotateKey (organization subject keyId fingerprint : String) (authority : Authority)
  | revokeIdentity (organization subject : String) (authority : Authority)
  | persistIdentitySnapshot (store : IdentityStore) (tenantKey : String)
      (expectedVersion : Option ℤ) (authority : Authority)
  | admitRun (organization subject fingerprint : String) (request : JobRequest)
      (target : DeploymentTarget) (authority : Authority)
  | authorizeRun (reservationId organization subject fingerprint : String) (authority : Authority)
  | reconcileAndConstructMetering (permit : ActuationPermit) (actualUsage : Units)
      (authority : Authority)
  | acceptSettlement (intent : MeteringIntent) (meter settlement : CommercialReceipt)
      (authority : Authority)

namespace CommercialControlPlane

variable (signing : Signing)

/-- A call of the plane. -/
def call : PlaneOp → Method CommercialControlPlane PlaneError Unit
  | .bindEntitlement grant fulfillment authority => do
    let _ ← bindEntitlement signing grant fulfillment authority
  | .registerKey organization subject keyId fingerprint authority => do
    let _ ← registerKey signing organization subject keyId fingerprint authority
  | .rotateKey organization subject keyId fingerprint authority => do
    let _ ← rotateKey signing organization subject keyId fingerprint authority
  | .revokeIdentity organization subject authority => do
    let _ ← revokeIdentity signing organization subject authority
  | .persistIdentitySnapshot store tenantKey expectedVersion authority => do
    let _ ← persistIdentitySnapshot signing store tenantKey expectedVersion authority
  | .admitRun organization subject fingerprint request target authority => do
    let _ ← admitRun signing organization subject fingerprint request target authority
  | .authorizeRun reservationId organization subject fingerprint authority => do
    let _ ← authorizeRun signing reservationId organization subject fingerprint authority
  | .reconcileAndConstructMetering permit actualUsage authority => do
    let _ ← reconcileAndConstructMetering signing permit actualUsage authority
  | .acceptSettlement intent meter settlement authority => do
    let _ ← acceptSettlement signing intent meter settlement authority

/-! ## What the checks let through -/

variable {signing} {plane : CommercialControlPlane}

theorem issue_id_valid (kind : PlaneKind) (source change : String) (authority : Authority) :
    validId (plane.issue signing kind source change authority).core.id "receipt" = true := by
  have hname : "agent-lightning-commercial-plane-".toList.all isIdChar = true ∧
      "agent-lightning-commercial-plane-".toList ≠ [] := by decide
  exact validId_receipt hname.1 hname.2 _

theorem issue_core_verify (kind : PlaneKind) (source change : String) (authority : Authority)
    {result : Unit} :
    (plane.issue signing kind source change authority).core.verify signing = .ok result ↔
      isBlank plane.timestamp = false := by
  have hsubject : isBlank "service:agent-lightning-commercial" = false := by decide
  have hactor : isBlank "chatman-agent-lightning-commercial-plane" = false := by decide
  have hintention : isBlank kind.debug = false := by cases kind <;> decide
  constructor
  · intro h
    obtain ⟨_, -, h⟩ := bind_eq_ok.mp h
    obtain ⟨_, h, -⟩ := bind_eq_ok.mp h
    have hcomplete := ensure_eq_ok.mp h
    simp only [Receipt.isComplete, Bool.and_eq_true, Bool.not_eq_true'] at hcomplete
    exact hcomplete.2
  · intro h
    refine Receipt.verify_sign signing
      (@issue_id_valid signing plane kind source change authority) ?_ rfl
    simp only [Receipt.isComplete, hsubject, hactor, hintention, h]
    rfl

/-- A receipt is issued for evidence that is not blank, under the authority of the plane. -/
theorem manufactureReceipt_eq_ok {kind : PlaneKind} {source change : String}
    {authority : Authority} {receipt : PlaneReceipt} :
    plane.manufactureReceipt signing kind source change authority = .ok receipt ↔
      authority = .persistControlPlane ∧ isBlank source = false ∧ isBlank change = false ∧
        isBlank plane.timestamp = false ∧
        receipt = plane.issue signing kind source change authority := by
  simp only [manufactureReceipt, requireControlAuthority, PlaneReceipt.verify, bind_eq_ok,
    mapError_eq_ok, ensure_eq_ok, pure_eq_ok, issue_id_valid, issue_core_verify]
  constructor
  · rintro ⟨_, hauthority, _, ⟨hsource, hchange⟩, _, -, _, ⟨_, htimestamp, -⟩, rfl⟩
    exact ⟨hauthority, by simpa using hsource, by simpa using hchange, htimestamp, rfl⟩
  · rintro ⟨hauthority, hsource, hchange, htimestamp, rfl⟩
    refine ⟨(), hauthority, (), ⟨by simp [hsource], by simp [hchange]⟩, (), trivial, (),
      ⟨(), htimestamp, (), hauthority, ?_⟩, rfl⟩
    simpa [issue] using hsource

/-- The settlements that the receipts of the plane are about. -/
def settlements (plane : CommercialControlPlane) : List String :=
  (plane.receipts.filter (·.kind = .settlementAccepted)).map (·.source)

theorem settlements_push (receipt : PlaneReceipt) : (plane.push receipt).settlements =
    plane.settlements ++ if receipt.kind = .settlementAccepted then [receipt.source] else [] := by
  rw [settlements, settlements, push, List.filter_append, List.map_append]
  by_cases hkind : receipt.kind = .settlementAccepted
  · simp [hkind]
  · simp [hkind]

end CommercialControlPlane

end ChatmanEcosystem.AgentLightning
