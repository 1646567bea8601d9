import ChatmanEcosystem.Commerce.Types
import ChatmanEcosystem.Common.Chain
import Mathlib.Data.Finset.Basic

/-!
# The paid Agent Lightning service

Model of `Service` (`crates/ecosystem-runtime/src/agent_lightning_service.rs`,
lines 14–565): entitlements bound from commercial receipts, job admission under
a quota, actuation permits and usage reconciliation, each with a control
receipt of its own. A function that returns `Err` leaves the service as it was:
every check stands before `emit`, and the two lookups after it find what the
lookup before it found.

Results:

* `emit_eq_ok`: what `emit` accepts, and what it does then.
* `bindEntitlement_eq_ok`, `applyEntitlementEvent_eq_ok`: which commercial
  receipts are accepted, and what they do to the entitlement.
* `admitJob_refused`, `authorizeActuation_refused`: without an active
  entitlement nothing is admitted and nothing is authorized.
-/

namespace ChatmanEcosystem.AgentLightning

open Common Commerce Core Rust

/-! ## Data -/

/-- `enum Error` (lines 18–25). -/
inductive Error
  | refused (detail : String)
  | commerce (detail : String)
  | receipt (detail : String)
  deriving DecidableEq

/-- `From<CommerceError>` (lines 26–30): the displayed commerce error. -/
def Error.ofCommerce : CommerceError → Error
  | .refused detail => .commerce ("REFUSED:" ++ detail)
  | .provider detail => .commerce ("PROVIDER:" ++ detail)
  | .receipt detail => .commerce ("RECEIPT:" ++ detail)

/-- `enum Mode` (lines 34–38). -/
inductive Mode
  | hosted
  | byoc
  | priv
  deriving DecidableEq

/-- `{:?}` of a mode. -/
def Mode.debug : Mode → String
  | hosted => "Hosted"
  | byoc => "Byoc"
  | priv => "Private"

/-- `enum Meter` (lines 42–47). -/
inductive Meter
  | gpuSeconds
  | inputTokens
  | outputTokens
  | rollouts
  deriving DecidableEq

namespace Meter

/-- `{:?}` of a meter. -/
def debug : Meter → String
  | gpuSeconds => "GpuSeconds"
  | inputTokens => "InputTokens"
  | outputTokens => "OutputTokens"
  | rollouts => "Rollouts"

/-- The derived order of the source: the declaration order. -/
instance : Ord Meter := ⟨compareOn Meter.ctorIdx⟩

instance : Std.TransOrd Meter := inferInstanceAs (Std.TransCmp (compareOn Meter.ctorIdx))

instance : Std.LawfulEqOrd Meter where
  eq_of_compare {a b} h := by
    change compare a.ctorIdx b.ctorIdx = .eq at h
    have hidx : a.ctorIdx = b.ctorIdx := compare_eq_iff_eq.mp h
    cases a <;> cases b <;> first | rfl | cases hidx

end Meter

/-- `BTreeMap<Meter, u64>`. -/
abbrev Units := Std.ExtTreeMap Meter UInt64

namespace Units

/-- `BTreeMap::from`. -/
def of (pairs : List (Meter × UInt64)) : Units := Std.ExtTreeMap.ofList pairs

/-- `units.get(meter).copied().unwrap_or(0)`. -/
def amount (units : Units) (meter : Meter) : UInt64 := (units[meter]?).getD 0

/-- `units.values().any(|value| *value == 0)`. -/
def anyZero (units : Units) : Bool := units.toList.any fun (_, value) => value == 0

/-- `{:?}` of the map. -/
def debug (units : Units) : String :=
  "\x7b" ++ ", ".intercalate
    (units.toList.map fun (meter, value) => meter.debug ++ ": " ++ value.toNat.repr) ++ "\x7d"

end Units

/-- `struct Workload` (lines 50–54). -/
structure Workload where
  repository : String
  sha : String
  capability : String
  deriving DecidableEq

/-- `Workload::pinned` (lines 57–63). -/
def Workload.pinned : Workload where
  repository := "https://github.com/seanchatmangpt/agent-lightning"
  sha := "bd80905120affc576eb383f3b4bcc35cacc0e1d0"
  capability := "capability:agentic-rl-training"

/-- `struct Policy` (lines 70–74). -/
structure Policy where
  workload : Workload
  modes : Finset Mode
  maxPerJob : Units
  deriving DecidableEq

/-- `Policy::agent_lightning` (lines 77–88). -/
def Policy.agentLightning : Policy where
  workload := .pinned
  modes := {.hosted, .byoc, .priv}
  maxPerJob := .of [(.gpuSeconds, 604800), (.inputTokens, 100000000),
    (.outputTokens, 100000000), (.rollouts, 100000)]

/-- `struct Principal` (lines 92–96). -/
structure Principal where
  organization : String
  subject : String
  keyFingerprint : String
  deriving DecidableEq

/-- `Principal::admitted` (lines 98–107). -/
def Principal.admitted (principal : Principal) : Bool :=
  validDigest principal.keyFingerprint && !isBlank principal.organization &&
    !isBlank principal.subject

/-- `struct Grant` (lines 111–116). -/
structure Grant where
  organization : String
  plan : String
  modes : Finset Mode
  quota : Units
  deriving DecidableEq

/-- `struct JobRequest` (lines 119–126). -/
structure JobRequest where
  id : String
  organization : String
  workload : Workload
  mode : Mode
  requested : Units
  idempotencyKey : String
  deriving DecidableEq

/-- `enum ReservationState` (lines 129–133). -/
inductive ReservationState
  | reserved
  | authorized
  | reconciled
  deriving DecidableEq

/-- `struct Reservation` (lines 135–144). -/
structure Reservation where
  id : String
  jobId : String
  workload : Workload
  mode : Mode
  units : Units
  state : ReservationState
  reserveReceipt : String
  actuationReceipt : String
  deriving DecidableEq

/-- `struct ActuationPermit` (lines 146–152). -/
structure ActuationPermit where
  reservationId : String
  jobId : String
  workload : Workload
  mode : Mode
  receiptDigest : String
  deriving DecidableEq

/-- `enum Kind` (lines 155–163). -/
inductive Kind
  | entitlementBound
  | entitlementSuspended
  | entitlementReinstated
  | entitlementRevoked
  | usageReserved
  | actuationAuthorized
  | usageReconciled
  deriving DecidableEq

namespace Kind

/-- `Kind::authority` (lines 165–171). -/
def authority : Kind → Authority
  | actuationAuthorized => .modifyExternalObject
  | _ => .persistControlPlane

/-- `{:?}` of a kind. -/
def debug : Kind → String
  | entitlementBound => "EntitlementBound"
  | entitlementSuspended => "EntitlementSuspended"
  | entitlementReinstated => "EntitlementReinstated"
  | entitlementRevoked => "EntitlementRevoked"
  | usageReserved => "UsageReserved"
  | actuationAuthorized => "ActuationAuthorized"
  | usageReconciled => "UsageReconciled"

end Kind

/-- `struct ControlReceipt` (lines 174–179). -/
structure ControlReceipt where
  kind : Kind
  source : String
  previous : String
  core : Receipt
  deriving DecidableEq

/-- `ControlReceipt::verify` (lines 181–189). -/
def ControlReceipt.verify (signing : Signing) (receipt : ControlReceipt) : Except Error Unit := do
  (receipt.core.verify signing).mapError .receipt
  ensure (receipt.core.authority = receipt.kind.authority) (.receipt "AUTHORITY_KIND_MISMATCH")

/-- `struct BoundGrant` (lines 192–196). -/
structure BoundGrant where
  grant : Grant
  commercialSubject : String
  active : Bool
  deriving DecidableEq

/-- `struct Service` (lines 199–207). -/
structure Service where
  policy : Policy
  timestamp : String
  entitlement : Option BoundGrant
  consumed : Units
  reservations : Std.ExtTreeMap String Reservation
  idempotency : Std.ExtTreeMap String (String × String)
  receipts : List ControlReceipt

/-- The id of the `n`-th reservation. -/
def reservationName (n : ℕ) : String := "reservation:agent-lightning-" ++ n.repr

namespace Service

/-! ## Operations -/

/-- The service that `Service::new` opens (lines 218–226). -/
def opened (policy : Policy) (timestamp : String) : Service :=
  { policy, timestamp, entitlement := none, consumed := ∅, reservations := ∅, idempotency := ∅
    receipts := [] }

/-- `Service::new` (lines 209–227). -/
def new (policy : Policy) (timestamp : String) : Except Error Service := do
  ensure (policy.workload = .pinned ∧ policy.modes ≠ ∅ ∧ !isBlank timestamp ∧
    !policy.maxPerJob.anyZero) (.refused "INVALID_SERVICE_POLICY")
  return opened policy timestamp

variable (signing : Signing) (service : Service)

/-- The control receipt that `emit` issues (lines 526–560). -/
def issue (kind : Kind) (authority : Authority) (source change : String) : ControlReceipt :=
  let core : Receipt :=
    { id := "receipt:" ++ ("agent-lightning-service-" ++ (service.receipts.length + 1).repr)
      subject := "service:agent-lightning"
      actor := "agent-lightning-commercial-control-plane"
      authority
      intention := kind.debug
      observed := [source]
      executed := [kind.debug]
      changed := [change]
      verified := ["identity authority entitlement and receipt preconditions admitted"]
      excluded := ["direct unreceipted Agent Lightning actuation"]
      replay := ["agent-lightning-commercial verify-fixtures"]
      standingBefore := .partialAlive
      standingAfter := .partialAlive
      timestamp := service.timestamp
      digest := "" }
  { kind
    source
    previous := (service.receipts.getLast?.map (·.core.digest)).getD ""
    core := core.sign signing }

/-- `emit` (lines 516–564). -/
def emit (kind : Kind) (authority : Authority) (source change : String) :
    Except Error (ControlReceipt × Service) := do
  ensure (authority = kind.authority) (.refused "AUTHORITY_DENIED")
  let receipt := service.issue signing kind authority source change
  ensure (validId receipt.core.id "receipt")
    (.receipt ("invalid identifier \x60" ++ receipt.core.id ++ "\x60"))
  receipt.verify signing
  return (receipt, { service with receipts := service.receipts ++ [receipt] })

/-- The grants that `bind_entitlement` does not refuse as invalid (lines 236–245),
with their commercial receipt. -/
def validGrant (grant : Grant) (commercial : CommercialReceipt) : Prop :=
  commercial.kind = .fulfillmentAuthorized ∧ isBlank grant.organization = false ∧
    isBlank grant.plan = false ∧ grant.modes ≠ ∅ ∧ grant.modes ⊆ service.policy.modes ∧
    grant.quota.isEmpty = false ∧ grant.quota.anyZero = false

instance (grant : Grant) (commercial : CommercialReceipt) :
    Decidable (service.validGrant grant commercial) := by
  unfold validGrant
  infer_instance

/-- `bind_entitlement` (lines 229–268). -/
def bindEntitlement (grant : Grant) (commercial : CommercialReceipt) (authority : Authority) :
    Except Error (String × Service) := do
  (commercial.verify signing).mapError .ofCommerce
  ensure (service.validGrant grant commercial) (.refused "INVALID_ENTITLEMENT_GRANT")
  ensure (∀ bound ∈ service.entitlement, bound.grant.organization = grant.organization)
    (.refused "TENANT_REBIND_REFUSED")
  let (receipt, service) ← service.emit signing .entitlementBound authority
    commercial.core.digest "entitlement"
  return (receipt.core.digest, { service with
    entitlement := some { grant, commercialSubject := commercial.core.subject, active := true } })

/-- The control kind and the status that an entitlement event asks for (lines 283–288). -/
def entitlementChange : ReceiptKind → Except Error (Kind × Bool)
  | .entitlementSuspended => .ok (.entitlementSuspended, false)
  | .entitlementReinstated => .ok (.entitlementReinstated, true)
  | .entitlementRevoked => .ok (.entitlementRevoked, false)
  | _ => .error (.refused "UNSUPPORTED_ENTITLEMENT_EVENT")

/-- `apply_entitlement_event` (lines 270–294). -/
def applyEntitlementEvent (commercial : CommercialReceipt) (authority : Authority) :
    Except Error (Unit × Service) := do
  (commercial.verify signing).mapError .ofCommerce
  match service.entitlement with
  | none => .error (.refused "NO_BOUND_ENTITLEMENT")
  | some bound =>
    ensure (commercial.core.subject = bound.commercialSubject)
      (.refused "COMMERCIAL_SUBJECT_MISMATCH")
    let (kind, active) ← entitlementChange commercial.kind
    let (_, service) ← service.emit signing kind authority commercial.core.digest "entitlement"
    return ((), { service with entitlement := some { bound with active } })

/-- `check_quota` (lines 499–515). -/
def checkQuota (grant : Grant) (requested : Units) : Except Error Unit :=
  requested.toList.forM fun (meter, units) =>
    let live := service.reservations.toList.filter fun (_, r) => r.state ≠ .reconciled
    let reserved := live.foldl (fun sum (_, r) => saturatingAdd sum (r.units.amount meter)) 0
    let used := service.consumed.amount meter
    ensure (saturatingAdd (saturatingAdd used reserved) units ≤ grant.quota.amount meter)
      (.refused "ENTITLEMENT_QUOTA_EXCEEDED")

/-- The fingerprint of a job request (lines 335–338). -/
def fingerprint (request : JobRequest) : String :=
  request.id ++ "|" ++ request.organization ++ "|" ++ request.workload.sha ++ "|" ++
    request.mode.debug ++ "|" ++ request.requested.debug

/-- The grant of an active entitlement. -/
def activeGrant : Option Grant :=
  (service.entitlement.filter (·.active)).map (·.grant)

/-- `admit_job` (lines 296–376). -/
def admitJob (principal : Principal) (request : JobRequest) (authority : Authority) :
    Except Error (Reservation × Service) := do
  ensure (authority = .persistControlPlane ∧ principal.admitted ∧ !isBlank request.id ∧
    !isBlank request.idempotencyKey ∧ !request.requested.isEmpty ∧ !request.requested.anyZero)
    (.refused "INVALID_JOB_ADMISSION")
  match service.activeGrant with
  | none => .error (.refused "ENTITLEMENT_NOT_ACTIVE")
  | some grant =>
    ensure (principal.organization = grant.organization ∧
      request.organization = grant.organization) (.refused "TENANT_IDENTITY_MISMATCH")
    ensure (request.workload = .pinned ∧ request.workload = service.policy.workload)
      (.refused "WORKLOAD_IDENTITY_MISMATCH")
    ensure (request.mode ∈ grant.modes) (.refused "DEPLOYMENT_MODE_NOT_ENTITLED")
    ensure (request.requested.toList.all fun (meter, units) =>
      units ≤ service.policy.maxPerJob.amount meter) (.refused "JOB_LIMIT_EXCEEDED")
    match service.idempotency[request.idempotencyKey]? with
    | some (existing, reservationId) =>
      ensure (existing = fingerprint request) (.refused "IDEMPOTENCY_KEY_CONFLICT")
      match service.reservations[reservationId]? with
      | some reservation => return (reservation, service)
      | none => .error (.receipt "RESERVATION_INDEX_MISSING")
    | none =>
      service.checkQuota grant request.requested
      let id := "reservation:agent-lightning-" ++ (service.reservations.size + 1).repr
      let source := (service.receipts.getLast?.map (·.core.digest)).getD ""
      let (receipt, service) ← service.emit signing .usageReserved authority source request.id
      let reservation : Reservation :=
        { id, jobId := request.id, workload := request.workload, mode := request.mode
          units := request.requested, state := .reserved, reserveReceipt := receipt.core.digest
          actuationReceipt := "" }
      return (reservation, { service with
        reservations := service.reservations.insert id reservation
        idempotency := service.idempotency.insert request.idempotencyKey
          (fingerprint request, id) })

/-- `permit` (lines 490–498). -/
def permit (reservation : Reservation) : ActuationPermit :=
  { reservationId := reservation.id, jobId := reservation.jobId, workload := reservation.workload
    mode := reservation.mode, receiptDigest := reservation.actuationReceipt }

/-- `authorize_actuation` (lines 378–415). -/
def authorizeActuation (reservationId : String) (authority : Authority) :
    Except Error (ActuationPermit × Service) := do
  ensure (authority = .modifyExternalObject ∧ service.activeGrant.isSome)
    (.refused "ACTUATION_NOT_AUTHORIZED")
  match service.reservations[reservationId]? with
  | none => .error (.refused "UNKNOWN_RESERVATION")
  | some reservation =>
    match reservation.state with
    | .reconciled => .error (.refused "RESERVATION_ALREADY_RECONCILED")
    | .authorized => return (permit reservation, service)
    | .reserved =>
      let (receipt, service) ← service.emit signing .actuationAuthorized authority
        reservation.reserveReceipt reservation.jobId
      match service.reservations[reservationId]? with
      | none => .error (.receipt "RESERVATION_DISAPPEARED")
      | some stored =>
        let stored := { stored with
          state := ReservationState.authorized, actuationReceipt := receipt.core.digest }
        return (permit stored, { service with
          reservations := service.reservations.insert reservationId stored })

/-- `reconcile_usage` (lines 417–467). -/
def reconcileUsage (permit : ActuationPermit) (actual : Units) (authority : Authority) :
    Except Error (String × Service) := do
  ensure (authority = .persistControlPlane ∧ !actual.isEmpty ∧ !actual.anyZero)
    (.refused "INVALID_USAGE_RECONCILIATION")
  match service.reservations[permit.reservationId]? with
  | none => .error (.refused "UNKNOWN_RESERVATION")
  | some reservation =>
    ensure (reservation.state = .authorized ∧
      reservation.actuationReceipt = permit.receiptDigest ∧ reservation.jobId = permit.jobId ∧
      reservation.workload = permit.workload ∧ reservation.mode = permit.mode)
      (.refused "INVALID_ACTUATION_PERMIT")
    ensure (actual.toList.all fun (meter, units) => units ≤ reservation.units.amount meter)
      (.refused "ACTUAL_USAGE_EXCEEDS_RESERVATION")
    let (receipt, service) ← service.emit signing .usageReconciled authority permit.receiptDigest
      permit.jobId
    let consumed := actual.toList.foldl (fun (consumed : Units) (meter, units) =>
      consumed.insert meter (saturatingAdd (consumed.amount meter) units)) service.consumed
    match service.reservations[permit.reservationId]? with
    | none => .error (.receipt "RESERVATION_DISAPPEARED")
    | some stored =>
      return (receipt.core.digest, { service with
        consumed
        reservations := service.reservations.insert permit.reservationId
          { stored with state := .reconciled } })

/-! ## What the operations accept -/

section Accepted

variable {signing : Signing} {service : Service}

theorem issue_id_valid (signing : Signing) (service : Service) (kind : Kind) (authority : Authority)
    (source change : String) :
    validId (service.issue signing kind authority source change).core.id "receipt" = true := by
  have hname : "agent-lightning-service-".toList.all isIdChar = true ∧
      "agent-lightning-service-".toList ≠ [] := by decide
  exact validId_receipt hname.1 hname.2 _

variable {kind : Kind} {source change : String}

/-- Of what `emit` issues, only a blank service timestamp does not verify. -/
theorem issue_verify {authority : Authority} (hauthority : authority = kind.authority) :
    (service.issue signing kind authority source change).verify signing = .ok () ↔
      isBlank service.timestamp = false := by
  have hcore : (service.issue signing kind authority source change).core.verify signing = .ok () ↔
      isBlank service.timestamp = false := by
    have hsubject : isBlank "service:agent-lightning" = false := by decide
    have hactor : isBlank "agent-lightning-commercial-control-plane" = false := by decide
    have hintention : isBlank kind.debug = false := by cases kind <;> decide
    constructor
    · intro h
      obtain ⟨_, -, h⟩ := bind_eq_ok.mp h
      obtain ⟨_, h, -⟩ := bind_eq_ok.mp h
      have hcomplete := ensure_eq_ok.mp h
      simp only [Receipt.isComplete, Bool.and_eq_true, Bool.not_eq_true'] at hcomplete
      exact hcomplete.2
    · intro h
      refine Receipt.verify_sign signing
        (issue_id_valid signing service kind authority source change) ?_ rfl
      simp only [Receipt.isComplete, hsubject, hactor, hintention, h]
      rfl
  simp only [ControlReceipt.verify, bind_eq_ok, mapError_eq_ok, ensure_eq_ok, hcore]
  constructor
  · rintro ⟨_, h, -⟩
    exact h
  · intro h
    exact ⟨(), h, hauthority⟩

variable {service' : Service}

/-- `emit` asks for the authority of the kind and signs a receipt. -/
theorem emit_eq_ok {authority : Authority} {receipt : ControlReceipt} :
    service.emit signing kind authority source change = .ok (receipt, service') ↔
      authority = kind.authority ∧ isBlank service.timestamp = false ∧
        receipt = service.issue signing kind authority source change ∧
        service' = { service with receipts := service.receipts ++ [receipt] } := by
  simp only [emit, bind_eq_ok, ensure_eq_ok, issue_id_valid, pure_eq_ok, Prod.mk.injEq]
  constructor
  · rintro ⟨_, hauthority, _, -, _, hverify, rfl, rfl⟩
    exact ⟨hauthority, (issue_verify hauthority).mp hverify, rfl, rfl⟩
  · rintro ⟨hauthority, htimestamp, rfl, rfl⟩
    exact ⟨(), hauthority, (), trivial, (), (issue_verify hauthority).mpr htimestamp, rfl, rfl⟩

variable (signing service) in
/-- What `bind_entitlement` asks of the grant, the commercial receipt and the caller. -/
def BindAccepted (grant : Grant) (commercial : CommercialReceipt) (authority : Authority) : Prop :=
  commercial.verify signing = .ok () ∧ service.validGrant grant commercial ∧
    (∀ bound ∈ service.entitlement, bound.grant.organization = grant.organization) ∧
    authority = .persistControlPlane ∧ isBlank service.timestamp = false

/-- An accepted commercial receipt activates the entitlement. -/
theorem bindEntitlement_eq_ok {grant : Grant} {commercial : CommercialReceipt}
    {authority : Authority} {digest : String} :
    service.bindEntitlement signing grant commercial authority = .ok (digest, service') ↔
      service.BindAccepted signing grant commercial authority ∧
        ∃ receipt, receipt = service.issue signing .entitlementBound authority
            commercial.core.digest "entitlement" ∧
          digest = receipt.core.digest ∧
          service' = { service with
            receipts := service.receipts ++ [receipt]
            entitlement := some
              { grant, commercialSubject := commercial.core.subject, active := true } } := by
  simp only [bindEntitlement, BindAccepted, bind_eq_ok, mapError_eq_ok, ensure_eq_ok, pure_eq_ok,
    Prod.exists, Prod.mk.injEq, emit_eq_ok]
  constructor
  · rintro ⟨_, hverify, _, hgrant, _, htenant, receipt, _, ⟨hauthority, htimestamp, rfl, rfl⟩,
      rfl, rfl⟩
    exact ⟨⟨hverify, hgrant, htenant, hauthority, htimestamp⟩, _, rfl, rfl, rfl⟩
  · rintro ⟨⟨hverify, hgrant, htenant, hauthority, htimestamp⟩, receipt, rfl, rfl, rfl⟩
    exact ⟨(), hverify, (), hgrant, (), htenant, _, _, ⟨hauthority, htimestamp, rfl, rfl⟩,
      rfl, rfl⟩

/-- The service once an accepted commercial receipt is bound. -/
theorem bindEntitlement_of_accepted {grant : Grant} {commercial : CommercialReceipt}
    {authority : Authority} (h : service.BindAccepted signing grant commercial authority) :
    ∃ digest service' receipts,
      service.bindEntitlement signing grant commercial authority = .ok (digest, service') ∧
        service' = { service with
          receipts
          entitlement := some
            { grant, commercialSubject := commercial.core.subject, active := true } } :=
  ⟨_, _, _, bindEntitlement_eq_ok.mpr ⟨h, _, rfl, rfl, rfl⟩, rfl⟩

variable (signing service) in
/-- What `apply_entitlement_event` asks of the commercial receipt and the caller. -/
def EventAccepted (commercial : CommercialReceipt) (authority : Authority) : Prop :=
  commercial.verify signing = .ok () ∧
    (∃ bound ∈ service.entitlement, commercial.core.subject = bound.commercialSubject) ∧
    (commercial.kind = .entitlementSuspended ∨ commercial.kind = .entitlementReinstated ∨
      commercial.kind = .entitlementRevoked) ∧
    authority = .persistControlPlane ∧ isBlank service.timestamp = false

theorem entitlementChange_eq_ok {kind : ReceiptKind} {control : Kind} {active : Bool}
    (h : entitlementChange kind = .ok (control, active)) :
    control.authority = .persistControlPlane ∧
      (kind = .entitlementSuspended ∨ kind = .entitlementReinstated ∨
        kind = .entitlementRevoked) ∧ active = decide (kind = .entitlementReinstated) := by
  cases kind <;> cases h <;> decide

/-- An accepted event sets the status: active after a reinstatement, inactive after
a suspension or a revocation. -/
theorem applyEntitlementEvent_eq_ok {commercial : CommercialReceipt} {authority : Authority} :
    (∃ service', service.applyEntitlementEvent signing commercial authority = .ok ((), service')) ↔
      service.EventAccepted signing commercial authority := by
  simp only [applyEntitlementEvent, EventAccepted, bind_eq_ok, mapError_eq_ok]
  cases hentitlement : service.entitlement with
  | none =>
    constructor
    · rintro ⟨_, _, -, h⟩; cases h
    · rintro ⟨-, ⟨_, h, -⟩, -⟩; cases h
  | some bound =>
    simp only [bind_eq_ok, ensure_eq_ok, pure_eq_ok, Prod.exists, Prod.mk.injEq, emit_eq_ok]
    constructor
    · rintro ⟨_, _, hverify, _, hsubject, kind, active, hchange, _, _,
        ⟨hauthority, htimestamp, -⟩, -⟩
      obtain ⟨hkind, hkinds, -⟩ := entitlementChange_eq_ok hchange
      exact ⟨hverify, ⟨bound, rfl, hsubject⟩, hkinds, hauthority.trans hkind, htimestamp⟩
    · rintro ⟨hverify, ⟨_, hbound, hsubject⟩, hkinds, rfl, htimestamp⟩
      obtain rfl := Option.some.inj hbound
      rcases hkinds with hkind | hkind | hkind <;> rw [hkind]
      all_goals
        exact ⟨_, (), hverify, (), hsubject, _, _, rfl, _, _, ⟨rfl, htimestamp, rfl, rfl⟩, trivial,
          rfl⟩

/-- What an accepted event writes: a receipt, and the status. -/
theorem applyEntitlementEvent_writes {commercial : CommercialReceipt} {authority : Authority}
    (h : service.applyEntitlementEvent signing commercial authority = .ok ((), service')) :
    ∃ bound receipt, service.entitlement = some bound ∧
      service' = { service with
        receipts := service.receipts ++ [receipt]
        entitlement := some
          { bound with active := decide (commercial.kind = .entitlementReinstated) } } := by
  obtain ⟨_, -, h⟩ := bind_eq_ok.mp h
  cases hentitlement : service.entitlement with
  | none => rw [hentitlement] at h; cases h
  | some bound =>
    simp only [hentitlement, bind_eq_ok, pure_eq_ok, Prod.exists, Prod.mk.injEq, emit_eq_ok] at h
    obtain ⟨_, -, kind, active, hchange, receipt, _, ⟨-, -, -, rfl⟩, -, rfl⟩ := h
    obtain ⟨-, -, rfl⟩ := entitlementChange_eq_ok hchange
    exact ⟨bound, receipt, rfl, rfl⟩

/-- Without an active entitlement no job is admitted. -/
theorem admitJob_refused (hinactive : service.activeGrant = none) (principal : Principal)
    (request : JobRequest) (authority : Authority) :
    ∃ error, service.admitJob signing principal request authority = .error error := by
  cases h : service.admitJob signing principal request authority with
  | error error => exact ⟨error, rfl⟩
  | ok result =>
    obtain ⟨_, -, h⟩ := bind_eq_ok.mp h
    rw [hinactive] at h
    cases h

/-- Without an active entitlement no actuation is authorized. -/
theorem authorizeActuation_refused (hinactive : service.activeGrant = none)
    (reservationId : String) (authority : Authority) :
    ∃ error, service.authorizeActuation signing reservationId authority = .error error := by
  cases h : service.authorizeActuation signing reservationId authority with
  | error error => exact ⟨error, rfl⟩
  | ok result =>
    obtain ⟨_, hguard, -⟩ := bind_eq_ok.mp h
    have hactive := (ensure_eq_ok.mp hguard).2
    rw [hinactive] at hactive
    cases hactive

/-- The checks before the key is looked up (lines 302–334). -/
structure Checked (service : Service) (principal : Principal) (request : JobRequest)
    (authority : Authority) (grant : Grant) : Prop where
  persists : authority = .persistControlPlane
  admitted : principal.admitted = true
  id : isBlank request.id = false
  idempotencyKey : isBlank request.idempotencyKey = false
  requested : request.requested.isEmpty = false
  units : request.requested.anyZero = false
  active : service.activeGrant = some grant
  caller : principal.organization = grant.organization
  tenant : request.organization = grant.organization
  pinned : request.workload = .pinned
  workload : request.workload = service.policy.workload
  mode : request.mode ∈ grant.modes
  limit : request.requested.toList.all (fun (meter, units) =>
    units ≤ service.policy.maxPerJob.amount meter) = true

/-- After the checks the key decides: a key in use gives the reservation that is stored under it,
a new key reserves the units of the job. -/
theorem admitJob_eq_ok {principal : Principal} {request : JobRequest} {authority : Authority}
    {reservation : Reservation} {after : Service} :
    service.admitJob signing principal request authority = .ok (reservation, after) ↔
      ∃ grant, service.Checked principal request authority grant ∧
        ((∃ id, service.idempotency[request.idempotencyKey]? = some (fingerprint request, id) ∧
            service.reservations[id]? = some reservation ∧ after = service) ∨
          (service.idempotency[request.idempotencyKey]? = none ∧
            service.checkQuota grant request.requested = .ok () ∧
            isBlank service.timestamp = false ∧ ∃ receipt,
              receipt = service.issue signing .usageReserved authority
                (tip (·.core.digest) "" service.receipts) request.id ∧
              reservation = { id := reservationName (service.reservations.size + 1)
                              jobId := request.id, workload := request.workload
                              mode := request.mode, units := request.requested
                              state := .reserved, reserveReceipt := receipt.core.digest
                              actuationReceipt := "" } ∧
              after = { service with
                receipts := service.receipts ++ [receipt]
                reservations := service.reservations.insert reservation.id reservation
                idempotency := service.idempotency.insert request.idempotencyKey
                  (fingerprint request, reservation.id) })) := by
  cases hgrant : service.activeGrant with
  | none =>
    constructor
    · intro h
      obtain ⟨_, -, h⟩ := bind_eq_ok.mp h
      rw [hgrant] at h
      cases h
    · rintro ⟨grant, hchecked, -⟩
      cases hchecked.active.symm.trans hgrant
  | some grant =>
    have hchecks : (authority = .persistControlPlane ∧ principal.admitted ∧ !isBlank request.id ∧
        !isBlank request.idempotencyKey ∧ !request.requested.isEmpty ∧
        !request.requested.anyZero) ∧
        (principal.organization = grant.organization ∧
          request.organization = grant.organization) ∧
        (request.workload = .pinned ∧ request.workload = service.policy.workload) ∧
        request.mode ∈ grant.modes ∧ (request.requested.toList.all fun (meter, units) =>
          units ≤ service.policy.maxPerJob.amount meter) ↔
        service.Checked principal request authority grant := by
      simp only [Bool.not_eq_true']
      constructor
      · rintro ⟨⟨h₁, h₂, h₃, h₄, h₅, h₆⟩, ⟨h₇, h₈⟩, ⟨h₉, h₁₀⟩, h₁₁, h₁₂⟩
        exact ⟨h₁, h₂, h₃, h₄, h₅, h₆, hgrant, h₇, h₈, h₉, h₁₀, h₁₁, h₁₂⟩
      · intro h
        exact ⟨⟨h.persists, h.admitted, h.id, h.idempotencyKey, h.requested, h.units⟩,
          ⟨h.caller, h.tenant⟩, ⟨h.pinned, h.workload⟩, h.mode, h.limit⟩
    have hsplit : ∀ rest : Grant → Prop, (∃ grant, service.Checked principal request authority
        grant ∧ rest grant) ↔ service.Checked principal request authority grant ∧ rest grant := by
      intro rest
      constructor
      · rintro ⟨found, hchecked, hrest⟩
        obtain rfl := Option.some.inj (hchecked.active.symm.trans hgrant)
        exact ⟨hchecked, hrest⟩
      · rintro ⟨hchecked, hrest⟩
        exact ⟨grant, hchecked, hrest⟩
    rw [hsplit, ← hchecks]
    simp only [admitJob, hgrant, bind_eq_ok, ensure_eq_ok, exists_and_left, exists_const]
    simp only [and_assoc]
    refine and_congr_right fun hauthority => and_congr_right fun _ => and_congr_right fun _ =>
      and_congr_right fun _ => and_congr_right fun _ => and_congr_right fun _ =>
      and_congr_right fun _ => and_congr_right fun _ => and_congr_right fun _ =>
      and_congr_right fun _ => and_congr_right fun _ => and_congr_right fun _ => ?_
    cases hkey : service.idempotency[request.idempotencyKey]? with
    | some entry =>
      obtain ⟨existing, id⟩ := entry
      simp only [bind_eq_ok, ensure_eq_ok, exists_and_left, exists_const, Option.some.injEq,
        Prod.mk.injEq, reduceCtorEq, false_and, or_false]
      cases hstored : service.reservations[id]? with
      | none =>
        constructor
        · rintro ⟨-, h⟩
          cases h
        · rintro ⟨found, ⟨-, rfl⟩, h, -⟩
          cases hstored.symm.trans h
      | some stored =>
        rw [pure_eq_ok, Prod.mk.injEq]
        constructor
        · rintro ⟨hsame, rfl, rfl⟩
          exact ⟨id, ⟨hsame, rfl⟩, hstored, rfl⟩
        · rintro ⟨found, ⟨hsame, rfl⟩, h, rfl⟩
          exact ⟨hsame, Option.some.inj (hstored.symm.trans h), rfl⟩
    | none =>
      simp only [bind_eq_ok, Prod.exists, emit_eq_ok, pure_eq_ok, Prod.mk.injEq, reduceCtorEq,
        false_and, exists_const, false_or, true_and]
      constructor
      · rintro ⟨_, hquota, receipt, _, ⟨-, htimestamp, rfl, rfl⟩, rfl, rfl⟩
        exact ⟨hquota, htimestamp, _, rfl, rfl, rfl⟩
      · rintro ⟨hquota, htimestamp, receipt, rfl, rfl, rfl⟩
        exact ⟨(), hquota, _, _, ⟨hauthority, htimestamp, rfl, rfl⟩, rfl, rfl⟩

end Accepted

end Service

end ChatmanEcosystem.AgentLightning
