import ChatmanEcosystem.AgentLightning.Service
import ChatmanEcosystem.Rust.InPlace

/-!
# The calls of the service, in place

The methods of `Service`
(`crates/ecosystem-runtime/src/agent_lightning_service.rs`, lines 229–467 and
516–564) as they work on `&mut self`: a receipt that `emit` has pushed is there
whatever comes after it.

Results:

* `InPlace.call_eq`: every call does what the operation of `Service` commits.
* `Service.Step`, `Service.next_step`: all that a call can do to the service.
-/

namespace ChatmanEcosystem.AgentLightning

open Common Commerce Core Rust

/-- The calls of the service. -/
inductive Op
  | bindEntitlement (grant : Grant) (commercial : CommercialReceipt) (authority : Authority)
  | applyEntitlementEvent (commercial : CommercialReceipt) (authority : Authority)
  | admitJob (principal : Principal) (request : JobRequest) (authority : Authority)
  | authorizeActuation (reservationId : String) (authority : Authority)
  | reconcileUsage (permit : ActuationPermit) (actual : Units) (authority : Authority)

/-- The calls on jobs. -/
def Op.OnJob : Op → Prop
  | .bindEntitlement .. | .applyEntitlementEvent .. => False
  | .admitJob .. | .authorizeActuation .. | .reconcileUsage .. => True

/-- What the calls return. -/
inductive Reply
  | digest (digest : String)
  | done
  | reservation (reservation : Reservation)
  | permit (permit : ActuationPermit)

/-! ## The methods -/

namespace InPlace

open Method Service

variable (signing : Signing)

/-- `emit` (lines 516–564). -/
def emit (kind : Kind) (authority : Authority) (source change : String) :
    Method Service Error ControlReceipt := do
  check <| ensure (authority = kind.authority) (.refused "AUTHORITY_DENIED")
  let receipt := (← get).issue signing kind authority source change
  check <| ensure (validId receipt.core.id "receipt")
    (.receipt ("invalid identifier \x60" ++ receipt.core.id ++ "\x60"))
  check <| receipt.verify signing
  modify fun service => { service with receipts := service.receipts ++ [receipt] }
  return receipt

/-- `bind_entitlement` (lines 229–268). -/
def bindEntitlement (grant : Grant) (commercial : CommercialReceipt) (authority : Authority) :
    Method Service Error String := do
  check <| (commercial.verify signing).mapError .ofCommerce
  let service ← get
  check <| ensure (service.validGrant grant commercial) (.refused "INVALID_ENTITLEMENT_GRANT")
  check <| ensure (∀ bound ∈ service.entitlement, bound.grant.organization = grant.organization)
    (.refused "TENANT_REBIND_REFUSED")
  let receipt ← emit signing .entitlementBound authority commercial.core.digest "entitlement"
  modify fun service => { service with
    entitlement := some { grant, commercialSubject := commercial.core.subject, active := true } }
  return receipt.core.digest

/-- `apply_entitlement_event` (lines 270–294). -/
def applyEntitlementEvent (commercial : CommercialReceipt) (authority : Authority) :
    Method Service Error Unit := do
  check <| (commercial.verify signing).mapError .ofCommerce
  match (← get).entitlement with
  | none => throw (.refused "NO_BOUND_ENTITLEMENT")
  | some bound =>
    check <| ensure (commercial.core.subject = bound.commercialSubject)
      (.refused "COMMERCIAL_SUBJECT_MISMATCH")
    let (kind, active) ← check <| entitlementChange commercial.kind
    let _ ← emit signing kind authority commercial.core.digest "entitlement"
    modify fun service =>
      { service with entitlement := service.entitlement.map ({ · with active }) }

/-- `admit_job` (lines 296–376). -/
def admitJob (principal : Principal) (request : JobRequest) (authority : Authority) :
    Method Service Error Reservation := do
  check <| ensure (authority = .persistControlPlane ∧ principal.admitted ∧ !isBlank request.id ∧
    !isBlank request.idempotencyKey ∧ !request.requested.isEmpty ∧ !request.requested.anyZero)
    (.refused "INVALID_JOB_ADMISSION")
  let service ← get
  match service.activeGrant with
  | none => throw (.refused "ENTITLEMENT_NOT_ACTIVE")
  | some grant =>
    check <| ensure (principal.organization = grant.organization ∧
      request.organization = grant.organization) (.refused "TENANT_IDENTITY_MISMATCH")
    check <| ensure (request.workload = .pinned ∧ request.workload = service.policy.workload)
      (.refused "WORKLOAD_IDENTITY_MISMATCH")
    check <| ensure (request.mode ∈ grant.modes) (.refused "DEPLOYMENT_MODE_NOT_ENTITLED")
    check <| ensure (request.requested.toList.all fun (meter, units) =>
      units ≤ service.policy.maxPerJob.amount meter) (.refused "JOB_LIMIT_EXCEEDED")
    match service.idempotency[request.idempotencyKey]? with
    | some (existing, reservationId) =>
      check <| ensure (existing = fingerprint request) (.refused "IDEMPOTENCY_KEY_CONFLICT")
      match service.reservations[reservationId]? with
      | some reservation => return reservation
      | none => throw (.receipt "RESERVATION_INDEX_MISSING")
    | none =>
      check <| service.checkQuota grant request.requested
      let id := "reservation:agent-lightning-" ++ (service.reservations.size + 1).repr
      let source := (service.receipts.getLast?.map (·.core.digest)).getD ""
      let receipt ← emit signing .usageReserved authority source request.id
      let reservation : Reservation :=
        { id, jobId := request.id, workload := request.workload, mode := request.mode
          units := request.requested, state := .reserved, reserveReceipt := receipt.core.digest
          actuationReceipt := "" }
      modify fun service => { service with
        reservations := service.reservations.insert id reservation }
      modify fun service => { service with
        idempotency := service.idempotency.insert request.idempotencyKey
          (fingerprint request, id) }
      return reservation

/-- `authorize_actuation` (lines 378–415). -/
def authorizeActuation (reservationId : String) (authority : Authority) :
    Method Service Error ActuationPermit := do
  let service ← get
  check <| ensure (authority = .modifyExternalObject ∧ service.activeGrant.isSome = true)
    (.refused "ACTUATION_NOT_AUTHORIZED")
  match service.reservations[reservationId]? with
  | none => throw (.refused "UNKNOWN_RESERVATION")
  | some reservation =>
    match reservation.state with
    | .reconciled => throw (.refused "RESERVATION_ALREADY_RECONCILED")
    | .authorized => return permit reservation
    | .reserved =>
      let receipt ← emit signing .actuationAuthorized authority reservation.reserveReceipt
        reservation.jobId
      match (← get).reservations[reservationId]? with
      | none => throw (.receipt "RESERVATION_DISAPPEARED")
      | some stored =>
        let stored := { stored with
          state := ReservationState.authorized, actuationReceipt := receipt.core.digest }
        modify fun service => { service with
          reservations := service.reservations.insert reservationId stored }
        return permit stored

/-- `reconcile_usage` (lines 417–467). -/
def reconcileUsage (permit : ActuationPermit) (actual : Units) (authority : Authority) :
    Method Service Error String := do
  check <| ensure (authority = .persistControlPlane ∧ !actual.isEmpty ∧ !actual.anyZero)
    (.refused "INVALID_USAGE_RECONCILIATION")
  match (← get).reservations[permit.reservationId]? with
  | none => throw (.refused "UNKNOWN_RESERVATION")
  | some reservation =>
    check <| ensure (reservation.state = .authorized ∧
      reservation.actuationReceipt = permit.receiptDigest ∧ reservation.jobId = permit.jobId ∧
      reservation.workload = permit.workload ∧ reservation.mode = permit.mode)
      (.refused "INVALID_ACTUATION_PERMIT")
    check <| ensure (actual.toList.all fun (meter, units) => units ≤ reservation.units.amount meter)
      (.refused "ACTUAL_USAGE_EXCEEDS_RESERVATION")
    let receipt ← emit signing .usageReconciled authority permit.receiptDigest permit.jobId
    modify fun service => { service with
      consumed := actual.toList.foldl (fun (consumed : Units) (meter, units) =>
        consumed.insert meter (saturatingAdd (consumed.amount meter) units)) service.consumed }
    match (← get).reservations[permit.reservationId]? with
    | none => throw (.receipt "RESERVATION_DISAPPEARED")
    | some stored =>
      modify fun service => { service with
        reservations := service.reservations.insert permit.reservationId
          { stored with state := .reconciled } }
      return receipt.core.digest

/-- A call of the service. -/
def call : Op → Method Service Error Reply
  | .bindEntitlement grant commercial authority => do
    return .digest (← bindEntitlement signing grant commercial authority)
  | .applyEntitlementEvent commercial authority => do
    applyEntitlementEvent signing commercial authority
    return .done
  | .admitJob principal request authority => do
    return .reservation (← admitJob signing principal request authority)
  | .authorizeActuation reservationId authority => do
    return .permit (← authorizeActuation signing reservationId authority)
  | .reconcileUsage permit actual authority => do
    return .digest (← reconcileUsage signing permit actual authority)

end InPlace

/-! ## What a call commits -/

/-- A call as a transaction. -/
def Service.transact (signing : Signing) (service : Service) : Op → Except Error (Reply × Service)
  | .bindEntitlement grant commercial authority => do
    let (digest, service) ← service.bindEntitlement signing grant commercial authority
    return (.digest digest, service)
  | .applyEntitlementEvent commercial authority => do
    let (_, service) ← service.applyEntitlementEvent signing commercial authority
    return (.done, service)
  | .admitJob principal request authority => do
    let (reservation, service) ← service.admitJob signing principal request authority
    return (.reservation reservation, service)
  | .authorizeActuation reservationId authority => do
    let (permit, service) ← service.authorizeActuation signing reservationId authority
    return (.permit permit, service)
  | .reconcileUsage permit actual authority => do
    let (digest, service) ← service.reconcileUsage signing permit actual authority
    return (.digest digest, service)

namespace InPlace

open Method Service

variable {signing : Signing} {service : Service}

theorem emit_eq (kind : Kind) (authority : Authority) (source change : String) :
    (emit signing kind authority source change).call service =
      committed service (service.emit signing kind authority source change) := by
  refine call_check_bind fun _ _ => ?_
  rw [call_get_bind]
  exact call_check_bind fun _ _ => call_check_bind fun _ _ => rfl

theorem bindEntitlement_eq (grant : Grant) (commercial : CommercialReceipt)
    (authority : Authority) :
    (bindEntitlement signing grant commercial authority).call service =
      committed service (service.bindEntitlement signing grant commercial authority) := by
  refine call_check_bind fun _ _ => ?_
  rw [call_get_bind]
  refine call_check_bind fun _ _ => call_check_bind fun _ _ => ?_
  exact call_bind (emit_eq _ _ _ _) fun _ _ _ => rfl

theorem applyEntitlementEvent_eq (commercial : CommercialReceipt) (authority : Authority) :
    (applyEntitlementEvent signing commercial authority).call service =
      committed service (service.applyEntitlementEvent signing commercial authority) := by
  refine call_check_bind fun _ _ => ?_
  rw [call_get_bind]
  cases hentitlement : service.entitlement with
  | none => rfl
  | some bound =>
    refine call_check_bind fun _ _ => call_check_bind fun _ _ => ?_
    refine call_bind (emit_eq _ _ _ _) fun _ after hafter => ?_
    obtain ⟨-, -, -, rfl⟩ := emit_eq_ok.mp hafter
    rw [call_modify, hentitlement]
    rfl

theorem admitJob_eq (principal : Principal) (request : JobRequest) (authority : Authority) :
    (admitJob signing principal request authority).call service =
      committed service (service.admitJob signing principal request authority) := by
  refine call_check_bind fun _ _ => ?_
  rw [call_get_bind]
  cases service.activeGrant with
  | none => rfl
  | some grant =>
    refine call_check_bind fun _ _ => call_check_bind fun _ _ => call_check_bind fun _ _ =>
      call_check_bind fun _ _ => ?_
    cases service.idempotency[request.idempotencyKey]? with
    | some entry =>
      refine call_check_bind fun _ _ => ?_
      cases service.reservations[entry.2]? <;> rfl
    | none =>
      refine call_check_bind fun _ _ => ?_
      exact call_bind (emit_eq _ _ _ _) fun _ _ _ => rfl

theorem authorizeActuation_eq (reservationId : String) (authority : Authority) :
    (authorizeActuation signing reservationId authority).call service =
      committed service (service.authorizeActuation signing reservationId authority) := by
  show ((get : Method Service Error Service) >>= _).call service = _
  rw [call_get_bind]
  refine call_check_bind fun _ _ => ?_
  cases hstored : service.reservations[reservationId]? with
  | none => rfl
  | some reservation =>
    cases hstate : reservation.state with
    | reconciled | authorized =>
      simp only [hstate]
      rfl
    | reserved =>
      simp only [hstate]
      refine call_bind (emit_eq _ _ _ _) fun _ after hafter => ?_
      obtain ⟨-, -, -, rfl⟩ := emit_eq_ok.mp hafter
      rw [call_get_bind]
      simp only [hstored]
      rfl

theorem reconcileUsage_eq (permit : ActuationPermit) (actual : Units) (authority : Authority) :
    (reconcileUsage signing permit actual authority).call service =
      committed service (service.reconcileUsage signing permit actual authority) := by
  refine call_check_bind fun _ _ => ?_
  rw [call_get_bind]
  cases hstored : service.reservations[permit.reservationId]? with
  | none => rfl
  | some reservation =>
    refine call_check_bind fun _ _ => call_check_bind fun _ _ => ?_
    refine call_bind (emit_eq _ _ _ _) fun _ after hafter => ?_
    obtain ⟨-, -, -, rfl⟩ := emit_eq_ok.mp hafter
    rw [call_modify_bind, call_get_bind]
    simp only [hstored]
    rfl

/-- A call does what its operation commits. -/
theorem call_eq (op : Op) :
    (call signing op).call service = committed service (service.transact signing op) := by
  cases op with
  | bindEntitlement grant commercial authority =>
    exact call_bind (bindEntitlement_eq grant commercial authority) fun _ _ _ => rfl
  | applyEntitlementEvent commercial authority =>
    exact call_bind (applyEntitlementEvent_eq commercial authority) fun _ _ _ => rfl
  | admitJob principal request authority =>
    exact call_bind (admitJob_eq principal request authority) fun _ _ _ => rfl
  | authorizeActuation reservationId authority =>
    exact call_bind (authorizeActuation_eq reservationId authority) fun _ _ _ => rfl
  | reconcileUsage permit actual authority =>
    exact call_bind (reconcileUsage_eq permit actual authority) fun _ _ _ => rfl

end InPlace

/-! ## All that a call can do -/

/-- The units that are consumed once `actual` is reconciled. -/
def Units.book (consumed actual : Units) : Units :=
  actual.toList.foldl (fun (consumed : Units) (meter, units) =>
    consumed.insert meter (saturatingAdd (consumed.amount meter) units)) consumed

namespace Service

variable (signing : Signing)

/-- The service after a call. -/
def next (service : Service) (op : Op) : Service := ((InPlace.call signing op).call service).2

/-- A receipt that `emit` pushes. -/
structure Emits (service : Service) (kind : Kind) (source : String) (receipt : ControlReceipt) :
    Prop where
  verified : receipt.verify signing = .ok ()
  previous : receipt.previous = tip (·.core.digest) "" service.receipts
  kind : receipt.kind = kind
  source : receipt.source = source

/-- What a call can do to the service. -/
inductive Step (service : Service) : Op → Service → Prop
  | unchanged (op : Op) : Step service op service
  | bound {grant : Grant} {commercial : CommercialReceipt} {authority : Authority}
      {receipt : ControlReceipt}
      (emits : service.Emits signing .entitlementBound commercial.core.digest receipt) :
      Step service (.bindEntitlement grant commercial authority) { service with
        receipts := service.receipts ++ [receipt]
        entitlement := some
          { grant, commercialSubject := commercial.core.subject, active := true } }
  | changed {commercial : CommercialReceipt} {authority : Authority} {kind : Kind}
      {bound : BoundGrant} {active : Bool} {receipt : ControlReceipt}
      (entitlement : service.entitlement = some bound)
      (persists : kind.authority = .persistControlPlane) (settles : kind ≠ .usageReconciled)
      (emits : service.Emits signing kind commercial.core.digest receipt) :
      Step service (.applyEntitlementEvent commercial authority) { service with
        receipts := service.receipts ++ [receipt]
        entitlement := some { bound with active } }
  | reserved {principal : Principal} {request : JobRequest} {authority : Authority} {grant : Grant}
      {receipt : ControlReceipt} (active : service.activeGrant = some grant)
      (quota : service.checkQuota grant request.requested = .ok ())
      (emits : service.Emits signing .usageReserved (tip (·.core.digest) "" service.receipts)
        receipt) :
      Step service (.admitJob principal request authority) { service with
        receipts := service.receipts ++ [receipt]
        reservations := service.reservations.insert
          (reservationName (service.reservations.size + 1))
          { id := reservationName (service.reservations.size + 1), jobId := request.id
            workload := request.workload, mode := request.mode, units := request.requested
            state := .reserved, reserveReceipt := receipt.core.digest, actuationReceipt := "" }
        idempotency := service.idempotency.insert request.idempotencyKey
          (fingerprint request, reservationName (service.reservations.size + 1)) }
  | authorized {reservationId : String} {authority : Authority} {reservation : Reservation}
      {receipt : ControlReceipt} (stored : service.reservations[reservationId]? = some reservation)
      (state : reservation.state = .reserved)
      (emits : service.Emits signing .actuationAuthorized reservation.reserveReceipt receipt) :
      Step service (.authorizeActuation reservationId authority) { service with
        receipts := service.receipts ++ [receipt]
        reservations := service.reservations.insert reservationId { reservation with
          state := .authorized, actuationReceipt := receipt.core.digest } }
  | reconciled {permit : ActuationPermit} {actual : Units} {authority : Authority}
      {reservation : Reservation} {receipt : ControlReceipt}
      (stored : service.reservations[permit.reservationId]? = some reservation)
      (state : reservation.state = .authorized)
      (covered : ∀ entry ∈ actual.toList, entry.2 ≤ reservation.units.amount entry.1)
      (emits : service.Emits signing .usageReconciled reservation.actuationReceipt receipt) :
      Step service (.reconcileUsage permit actual authority) { service with
        receipts := service.receipts ++ [receipt]
        consumed := service.consumed.book actual
        reservations := service.reservations.insert permit.reservationId
          { reservation with state := .reconciled } }

variable {signing} {service : Service}

variable {op : Op} {after : Service}

/-- The calls on jobs leave the entitlement alone. -/
theorem Step.entitlement (h : service.Step signing op after) (hjob : op.OnJob) :
    after.entitlement = service.entitlement := by
  cases h with
  | bound | changed => exact absurd hjob id
  | unchanged | reserved | authorized | reconciled => rfl

variable {authority : Authority}

/-- What `emit` accepts is a receipt it pushes. -/
theorem emits_of_emit {kind : Kind} {source change : String} {receipt : ControlReceipt}
    (h : service.emit signing kind authority source change = .ok (receipt, after)) :
    service.Emits signing kind source receipt ∧
      after = { service with receipts := service.receipts ++ [receipt] } := by
  obtain ⟨hauthority, htimestamp, rfl, hafter⟩ := emit_eq_ok.mp h
  exact ⟨⟨(issue_verify hauthority).mpr htimestamp, rfl, rfl, rfl⟩, hafter⟩

/-- A refused call leaves the service as it was. -/
theorem next_of_error {error : Error} (h : service.transact signing op = .error error) :
    service.next signing op = service := by
  rw [next, InPlace.call_eq, h]
  rfl

theorem next_of_ok {reply : Reply} (h : service.transact signing op = .ok (reply, after)) :
    service.next signing op = after := by
  rw [next, InPlace.call_eq, h]
  rfl

variable {commercial : CommercialReceipt} {digest : String}

theorem bindEntitlement_step {grant : Grant}
    (h : service.bindEntitlement signing grant commercial authority = .ok (digest, after)) :
    service.Step signing (.bindEntitlement grant commercial authority) after := by
  simp only [bindEntitlement, bind_eq_ok, pure_eq_ok, Prod.exists, Prod.mk.injEq] at h
  obtain ⟨_, -, _, -, _, -, receipt, _, hemit, -, rfl⟩ := h
  obtain ⟨hemits, rfl⟩ := emits_of_emit hemit
  exact .bound hemits

theorem applyEntitlementEvent_step {done : Unit}
    (h : service.applyEntitlementEvent signing commercial authority = .ok (done, after)) :
    service.Step signing (.applyEntitlementEvent commercial authority) after := by
  obtain ⟨_, -, h⟩ := bind_eq_ok.mp h
  cases hentitlement : service.entitlement with
  | none => rw [hentitlement] at h; cases h
  | some bound =>
    simp only [hentitlement, bind_eq_ok, pure_eq_ok, Prod.exists, Prod.mk.injEq] at h
    obtain ⟨_, -, kind, active, hchange, receipt, _, hemit, -, rfl⟩ := h
    obtain ⟨hkind, -, -⟩ := entitlementChange_eq_ok hchange
    have hsettles : kind ≠ .usageReconciled := by
      rintro rfl
      cases hkinds : commercial.kind <;> rw [hkinds] at hchange <;> cases hchange
    obtain ⟨hemits, rfl⟩ := emits_of_emit hemit
    exact .changed hentitlement hkind hsettles hemits

theorem admitJob_step {principal : Principal} {request : JobRequest} {reservation : Reservation}
    (h : service.admitJob signing principal request authority = .ok (reservation, after)) :
    service.Step signing (.admitJob principal request authority) after := by
  obtain ⟨grant, hchecked, ⟨_, -, -, rfl⟩ | ⟨-, hquota, htimestamp, receipt, rfl, rfl, rfl⟩⟩ :=
    admitJob_eq_ok.mp h
  · exact .unchanged _
  · exact .reserved hchecked.active hquota
      ⟨(issue_verify hchecked.persists).mpr htimestamp, rfl, rfl, rfl⟩

variable {permit : ActuationPermit}

theorem authorizeActuation_step {reservationId : String}
    (h : service.authorizeActuation signing reservationId authority = .ok (permit, after)) :
    service.Step signing (.authorizeActuation reservationId authority) after := by
  obtain ⟨_, -, h⟩ := bind_eq_ok.mp h
  cases hstored : service.reservations[reservationId]? with
  | none => rw [hstored] at h; cases h
  | some reservation =>
    simp only [hstored] at h
    cases hstate : reservation.state with
    | reconciled => rw [hstate] at h; cases h
    | authorized =>
      rw [hstate] at h
      rw [← (Prod.mk.inj (pure_eq_ok.mp h)).2]
      exact .unchanged _
    | reserved =>
      simp only [hstate, bind_eq_ok, Prod.exists] at h
      obtain ⟨receipt, _, hemit, h⟩ := h
      obtain ⟨hemits, rfl⟩ := emits_of_emit hemit
      simp only [hstored, pure_eq_ok, Prod.mk.injEq] at h
      rw [← h.2]
      exact .authorized hstored hstate hemits

theorem reconcileUsage_step {actual : Units}
    (h : service.reconcileUsage signing permit actual authority = .ok (digest, after)) :
    service.Step signing (.reconcileUsage permit actual authority) after := by
  obtain ⟨_, -, h⟩ := bind_eq_ok.mp h
  cases hstored : service.reservations[permit.reservationId]? with
  | none => rw [hstored] at h; cases h
  | some reservation =>
    simp only [hstored, bind_eq_ok, ensure_eq_ok, Prod.exists, List.all_eq_true,
      decide_eq_true_eq] at h
    obtain ⟨_, hpermit, _, hcovered, receipt, _, hemit, h⟩ := h
    obtain ⟨hemits, rfl⟩ := emits_of_emit hemit
    simp only [hstored, pure_eq_ok, Prod.mk.injEq] at h
    rw [← h.2]
    rw [← hpermit.2.1] at hemits
    exact .reconciled hstored hpermit.1 hcovered hemits

/-- All that a call can do. -/
theorem next_step (op : Op) : service.Step signing op (service.next signing op) := by
  cases htransact : service.transact signing op with
  | error error =>
    rw [next_of_error htransact]
    exact .unchanged op
  | ok result =>
    obtain ⟨reply, after⟩ := result
    rw [next_of_ok htransact]
    cases op with
    | bindEntitlement grant commercial authority =>
      obtain ⟨_, hbind, h⟩ := bind_eq_ok.mp htransact
      rw [← (Prod.mk.inj (pure_eq_ok.mp h)).2]
      exact bindEntitlement_step hbind
    | applyEntitlementEvent commercial authority =>
      obtain ⟨_, happly, h⟩ := bind_eq_ok.mp htransact
      rw [← (Prod.mk.inj (pure_eq_ok.mp h)).2]
      exact applyEntitlementEvent_step happly
    | admitJob principal request authority =>
      obtain ⟨_, hadmits, h⟩ := bind_eq_ok.mp htransact
      rw [← (Prod.mk.inj (pure_eq_ok.mp h)).2]
      exact admitJob_step hadmits
    | authorizeActuation reservationId authority =>
      obtain ⟨_, hauthorize, h⟩ := bind_eq_ok.mp htransact
      rw [← (Prod.mk.inj (pure_eq_ok.mp h)).2]
      exact authorizeActuation_step hauthorize
    | reconcileUsage permit actual authority =>
      obtain ⟨_, hreconcile, h⟩ := bind_eq_ok.mp htransact
      rw [← (Prod.mk.inj (pure_eq_ok.mp h)).2]
      exact reconcileUsage_step hreconcile

end Service

end ChatmanEcosystem.AgentLightning
