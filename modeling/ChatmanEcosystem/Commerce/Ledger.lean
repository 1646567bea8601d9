import ChatmanEcosystem.Common.Run
import ChatmanEcosystem.Commerce.Types

/-!
# The commercial ledger

Model of `CommerceLedger` (`crates/ecosystem-runtime/src/commerce.rs`, lines
281–716). An operation checks its arguments, assigns side fields, and hands a
`TransitionInput` to `apply`, which may still refuse. What comes before `apply`
is the operation's definition here, under its source name (the ledger with the
fields assigned, and the input), and `perform` is the call of `apply` after it:
`apply` changes the ledger only where it returns `Ok`, but the assignments stay.

Results:

* `prepare_frame`: what the assignments of an operation leave alone.
* `apply_eq_ok`: what `apply` accepts, and what it does then.
* `inv_run`: the invariant of reachable ledgers.
* `extends_run`: a run forgets no receipt and no idempotency key, and never goes
  back in the lifecycle.
-/

namespace ChatmanEcosystem.Commerce

open Common Core Rust

/-! ## Model -/

/-- `struct TransitionInput` (lines 282–290). -/
structure TransitionInput where
  kind : ReceiptKind
  authority : Authority
  idempotencyKey : String
  eventRef : String
  sourceReceipt : String
  units : UInt64
  amountMicros : UInt64
  deriving DecidableEq

/-- The `json!` object whose text identifies an input (lines 651–655). The
members of a `serde_json` object are in key order. -/
def fingerprint (kind : ReceiptKind) (event source : String) (units amount : UInt64) : String :=
  (Json.obj [("amount", .num amount.toNat), ("event", .str event), ("kind", .str kind.snakeCase),
    ("source", .str source), ("units", .num units.toNat)]).render

def TransitionInput.fingerprint (input : TransitionInput) : String :=
  Commerce.fingerprint input.kind input.eventRef input.sourceReceipt input.units input.amountMicros

/-- The fingerprint of the input that a receipt was issued for. -/
def CommercialReceipt.fingerprint (receipt : CommercialReceipt) : String :=
  Commerce.fingerprint receipt.kind receipt.providerEventRef receipt.sourceReceipt receipt.units
    receipt.amountMicros

/-- Different inputs have different fingerprints. -/
theorem fingerprint_inj {kind kind' : ReceiptKind} {event event' source source' : String}
    {units units' amount amount' : UInt64}
    (h : fingerprint kind event source units amount =
      fingerprint kind' event' source' units' amount') :
    kind = kind' ∧ event = event' ∧ source = source' ∧ units = units' ∧ amount = amount' := by
  have htext := String.ofList_inj.mp h
  simp only [Json.renderChars, Json.renderMembers, List.append_assoc, List.cons_append] at htext
  have hcomma : ','.isDigit = false := by decide
  have hbrace : '\x7d'.isDigit = false := by decide
  -- the members one after the other, each behind its name and a colon
  obtain ⟨-, h1⟩ := Json.quote_append_inj (List.cons.inj htext).2
  obtain ⟨hamount, h1⟩ := Json.num_append_inj hcomma (List.cons.inj h1).2
  obtain ⟨-, h2⟩ := Json.quote_append_inj h1
  obtain ⟨hevent, h2⟩ := Json.quote_append_inj (List.cons.inj h2).2
  obtain ⟨-, h3⟩ := Json.quote_append_inj (List.cons.inj h2).2
  obtain ⟨hkind, h3⟩ := Json.quote_append_inj (List.cons.inj h3).2
  obtain ⟨-, h4⟩ := Json.quote_append_inj (List.cons.inj h3).2
  obtain ⟨hsource, h4⟩ := Json.quote_append_inj (List.cons.inj h4).2
  obtain ⟨-, h5⟩ := Json.quote_append_inj (List.cons.inj h4).2
  obtain ⟨hunits, -⟩ := Json.num_append_inj hbrace (List.cons.inj h5).2
  exact ⟨ReceiptKind.snakeCase_injective hkind, hevent, hsource, UInt64.toNat_inj.mp hunits,
    UInt64.toNat_inj.mp hamount⟩

/-- `struct CommerceLedger` (lines 293–306). -/
structure CommerceLedger where
  context : CommerceContext
  state : CommercialState
  entitlement : EntitlementStatus
  quantity : UInt64
  plan : String
  usageUnits : UInt64
  meteredUnits : UInt64
  settlementMicros : UInt64
  creditsMicros : UInt64
  refundsMicros : UInt64
  receipts : List CommercialReceipt
  idempotency : Std.ExtTreeMap String (String × ℕ)
  deriving DecidableEq

namespace CommerceLedger

/-- The ledger that `CommerceLedger::new` opens for an admitted context (lines 311–324). -/
def opened (context : CommerceContext) : CommerceLedger :=
  { context, state := .discovered, entitlement := .unknown, quantity := 0, plan := ""
    usageUnits := 0, meteredUnits := 0, settlementMicros := 0, creditsMicros := 0
    refundsMicros := 0, receipts := [], idempotency := ∅ }

/-- `CommerceLedger::new` (lines 309–325). -/
def new (context : CommerceContext) : Except CommerceError CommerceLedger := do
  context.validate
  return opened context

section Apply

variable (signing : Signing)

/-- The receipt that `apply` issues for an input (lines 667–708). -/
def issue (ledger : CommerceLedger) (input : TransitionInput) (after : CommercialState) :
    CommercialReceipt :=
  let core : Receipt :=
    { id := "receipt:" ++ ("commerce-" ++ ledger.context.provider.asStr ++ "-" ++
        (ledger.receipts.length + 1).repr)
      subject := "commerce:" ++ ledger.context.provider.asStr ++ ":" ++ ledger.context.agreement
      actor := "marketplace-commerce"
      authority := input.authority
      intention := input.kind.debug
      observed := [input.eventRef]
      executed := [input.kind.debug]
      changed := [ledger.state.debug ++ "->" ++ after.debug]
      verified := ["commercial preconditions admitted"]
      excluded := []
      replay := ["marketplace-commerce verify-fixtures"]
      standingBefore := .partialAlive
      standingAfter := .partialAlive
      timestamp := "2026-08-19T00:00:00Z"
      digest := "" }
  { kind := input.kind
    stateBefore := ledger.state
    stateAfter := after
    providerEventRef := input.eventRef
    sourceReceipt := input.sourceReceipt
    previousDigest := (ledger.receipts.getLast?.map (·.core.digest)).getD ""
    units := input.units
    amountMicros := input.amountMicros
    core := core.sign signing }

/-- The ledger once a receipt is recorded (lines 710–714). -/
def record (ledger : CommerceLedger) (input : TransitionInput) (receipt : CommercialReceipt) :
    CommerceLedger :=
  { ledger with
    state := receipt.stateAfter
    receipts := ledger.receipts ++ [receipt]
    idempotency := ledger.idempotency.insert input.idempotencyKey
      (input.fingerprint, ledger.receipts.length) }

/-- `CommerceLedger::apply` (lines 638–716). -/
def apply (ledger : CommerceLedger) (input : TransitionInput) :
    Except CommerceError (CommercialReceipt × CommerceLedger) := do
  ensure (!isBlank input.idempotencyKey) (.refused "IDEMPOTENCY_KEY_REQUIRED")
  ensure (input.authority = input.kind.authority) (.refused ("AUTHORITY_DENIED_HAVE_" ++
    input.authority.debug ++ "_REQUIRE_" ++ input.kind.authority.debug))
  match ledger.idempotency[input.idempotencyKey]? with
  | some (existing, index) =>
    ensure (existing = input.fingerprint) (.refused "IDEMPOTENCY_KEY_CONFLICT")
    match ledger.receipts[index]? with
    | some receipt => return (receipt, ledger)
    | none => .error (.receipt "IDEMPOTENCY_INDEX_MISSING")
  | none =>
    let after ← nextState ledger.state input.kind
    let receipt := ledger.issue signing input after
    ensure (validId receipt.core.id "receipt")
      (.receipt ("invalid identifier \x60" ++ receipt.core.id ++ "\x60"))
    receipt.verify signing
    return (receipt, ledger.record input receipt)

/-- What a call returns, with the ledger afterwards. -/
abbrev Outcome := Except CommerceError CommercialReceipt × CommerceLedger

/-- Checks, assignments and `apply`, in this order. -/
def perform (ledger : CommerceLedger)
    (prepared : Except CommerceError (CommerceLedger × TransitionInput)) : Outcome :=
  match prepared with
  | .error error => (.error error, ledger)
  | .ok (preset, input) =>
    match preset.apply signing input with
    | .error error => (.error error, preset)
    | .ok (receipt, ledger) => (.ok receipt, ledger)

end Apply

/-! ## Operations -/

/-- A checked operation: the ledger with its side fields assigned, and the input. -/
abbrev Prepared := Except CommerceError (CommerceLedger × TransitionInput)

variable (ledger : CommerceLedger)

/-- An input under the authority that its kind requires. -/
def inputOf (kind : ReceiptKind) (idempotencyKey eventRef : String)
    (sourceReceipt : String := "") (units amountMicros : UInt64 := 0) : TransitionInput :=
  { kind, authority := kind.authority, idempotencyKey, eventRef, sourceReceipt, units
    amountMicros }

/-- `accept_meter` (lines 586–608). -/
def acceptMeter (observation : ProviderObservation) : Prepared := do
  ensure (ledger.state = .usageRecorded ∧ observation.units = ledger.usageUnits ∧
    observation.units ≠ 0) (.refused "METER_MUST_EQUAL_RECEIPTED_USAGE")
  return ({ ledger with meteredUnits := observation.units },
    inputOf .meterAccepted ("meter:" ++ observation.eventRef) observation.eventRef ""
      observation.units)

/-- `reconcile` (lines 610–636). -/
def reconcile (observation : ProviderObservation) : Prepared := do
  ensure (ledger.state = .metered) (.refused "SETTLEMENT_REQUIRES_ACCEPTED_METER")
  ensure (observation.amountMicros =
      saturatingMul ledger.context.unitPriceMicros ledger.meteredUnits ∧
    observation.currency = ledger.context.currency) (.refused "SETTLEMENT_MISMATCH")
  return ({ ledger with settlementMicros := observation.amountMicros },
    inputOf .settlementReconciled ("settlement:" ++ observation.eventRef) observation.eventRef ""
      ledger.meteredUnits observation.amountMicros)

/-- `observe` (lines 327–414). -/
def observe (observation : ProviderObservation) : Prepared := do
  ledger.context.admitObservation observation
  match observation.kind with
  | .agreement =>
    return (ledger,
      inputOf .agreementObserved ("agreement:" ++ observation.eventRef) observation.eventRef)
  | .entitlement =>
    ensure (observation.quantity ≠ 0) (.refused "ZERO_ENTITLEMENT_QUANTITY")
    return ({ ledger with quantity := observation.quantity, plan := observation.plan
                          entitlement := .active },
      inputOf .entitlementAdmitted ("entitlement:" ++ observation.eventRef) observation.eventRef)
  | .entitlementChanged =>
    ensure (observation.quantity ≠ 0 ∧ !isBlank observation.plan)
      (.refused "INVALID_ENTITLEMENT_CHANGE")
    return ({ ledger with quantity := observation.quantity, plan := observation.plan },
      inputOf .entitlementChanged ("entitlement-change:" ++ observation.eventRef)
        observation.eventRef)
  | .suspended =>
    return ({ ledger with entitlement := .suspended },
      inputOf .entitlementSuspended ("suspend:" ++ observation.eventRef) observation.eventRef)
  | .reinstated =>
    return ({ ledger with entitlement := .active },
      inputOf .entitlementReinstated ("reinstate:" ++ observation.eventRef) observation.eventRef)
  | .revoked =>
    return ({ ledger with entitlement := .revoked },
      inputOf .entitlementRevoked ("revoke:" ++ observation.eventRef) observation.eventRef)
  | .meterAccepted => ledger.acceptMeter observation
  | .settlement => ledger.reconcile observation

/-- `authorize_fulfillment` (lines 416–432). -/
def authorizeFulfillment (idempotencyKey : String) : Prepared := do
  ensure (ledger.entitlement = .active ∧ ledger.quantity ≠ 0) (.refused "NO_ACTIVE_ENTITLEMENT")
  return (ledger, inputOf .fulfillmentAuthorized idempotencyKey
    (ledger.context.provider.asStr ++ ":fulfillment"))

/-- `bind_manufacture` (lines 434–452). -/
def bindManufacture (sourceReceipt : String) : Prepared := do
  ensure (ledger.state = .fulfilled ∧ !isBlank sourceReceipt)
    (.refused "MANUFACTURE_REQUIRES_FULFILLMENT_RECEIPT")
  return (ledger, inputOf .manufactureBound ("manufacture:" ++ sourceReceipt)
    (ledger.context.provider.asStr ++ ":manufacture") sourceReceipt)

/-- `bind_delivery` (lines 454–472). -/
def bindDelivery (artifactDigest : String) : Prepared := do
  ensure (ledger.state = .manufactured ∧ startsWith artifactDigest "blake3:")
    (.refused "DELIVERY_REQUIRES_MANUFACTURED_DIGEST")
  return (ledger, inputOf .deliveryBound ("delivery:" ++ artifactDigest)
    (ledger.context.provider.asStr ++ ":delivery") artifactDigest)

/-- `verify_delivery` (lines 474–487). -/
def verifyDelivery (digest : String) : Prepared := do
  ensure (ledger.state = .delivered ∧ startsWith digest "blake3:")
    (.refused "DELIVERY_NOT_VERIFIABLE")
  return (ledger, inputOf .deliveryVerified ("verify:" ++ digest)
    (ledger.context.provider.asStr ++ ":verified") digest)

/-- `derive_usage` (lines 489–510). -/
def deriveUsage (sourceReceipt : String) (units : UInt64) : Prepared := do
  ensure (ledger.state = .verified ∧ units ≠ 0 ∧ !isBlank sourceReceipt)
    (.refused "USAGE_REQUIRES_VERIFIED_FULFILLMENT")
  return ({ ledger with usageUnits := saturatingAdd ledger.usageUnits units },
    inputOf .usageDerived ("usage:" ++ sourceReceipt ++ ":" ++ units.toNat.repr)
      (ledger.context.provider.asStr ++ ":usage") sourceReceipt units)

/-- The adjustment that `apply_credit` and `reconcile_refund` compare with the
settlement (lines 522–530 and 553–561). -/
def adjusted (amountMicros : UInt64) : UInt64 :=
  saturatingAdd (saturatingAdd ledger.creditsMicros ledger.refundsMicros) amountMicros

/-- `apply_credit` (lines 512–541). -/
def applyCredit (key : String) (amountMicros : UInt64) : Prepared := do
  ensure (ledger.state = .reconciled ∧ amountMicros ≠ 0)
    (.refused "CREDIT_REQUIRES_RECONCILED_SETTLEMENT")
  ensure (ledger.adjusted amountMicros ≤ ledger.settlementMicros)
    (.refused "ADJUSTMENT_EXCEEDS_SETTLEMENT")
  return ({ ledger with creditsMicros := saturatingAdd ledger.creditsMicros amountMicros },
    inputOf .creditApplied key (ledger.context.provider.asStr ++ ":credit") "" 0 amountMicros)

/-- `reconcile_refund` (lines 543–572). -/
def reconcileRefund (key : String) (amountMicros : UInt64) : Prepared := do
  ensure (ledger.state = .reconciled ∧ amountMicros ≠ 0)
    (.refused "REFUND_REQUIRES_RECONCILED_SETTLEMENT")
  ensure (ledger.adjusted amountMicros ≤ ledger.settlementMicros)
    (.refused "ADJUSTMENT_EXCEEDS_SETTLEMENT")
  return ({ ledger with refundsMicros := saturatingAdd ledger.refundsMicros amountMicros },
    inputOf .refundReconciled key (ledger.context.provider.asStr ++ ":refund") "" 0 amountMicros)

end CommerceLedger

/-- The operations of the ledger with their arguments. -/
inductive Op
  | observe (observation : ProviderObservation)
  | authorizeFulfillment (idempotencyKey : String)
  | bindManufacture (sourceReceipt : String)
  | bindDelivery (artifactDigest : String)
  | verifyDelivery (digest : String)
  | deriveUsage (sourceReceipt : String) (units : UInt64)
  | applyCredit (key : String) (amountMicros : UInt64)
  | reconcileRefund (key : String) (amountMicros : UInt64)
  | acceptMeter (observation : ProviderObservation)
  | reconcile (observation : ProviderObservation)
  deriving DecidableEq

namespace CommerceLedger

/-- The checks and assignments of an operation. -/
def prepare (ledger : CommerceLedger) : Op → Prepared
  | .observe observation => ledger.observe observation
  | .authorizeFulfillment key => ledger.authorizeFulfillment key
  | .bindManufacture source => ledger.bindManufacture source
  | .bindDelivery digest => ledger.bindDelivery digest
  | .verifyDelivery digest => ledger.verifyDelivery digest
  | .deriveUsage source units => ledger.deriveUsage source units
  | .applyCredit key amount => ledger.applyCredit key amount
  | .reconcileRefund key amount => ledger.reconcileRefund key amount
  | .acceptMeter observation => ledger.acceptMeter observation
  | .reconcile observation => ledger.reconcile observation

/-- A call: what it returns and the ledger afterwards. -/
def call (signing : Signing) (ledger : CommerceLedger) (op : Op) : Outcome :=
  ledger.perform signing (ledger.prepare op)

/-- The ledger after a call. -/
def next (signing : Signing) (ledger : CommerceLedger) (op : Op) : CommerceLedger :=
  (ledger.call signing op).2

/-! ## The assignments before `apply` -/

/-- The two ledgers agree on everything but the side fields. -/
structure SameRecord (preset ledger : CommerceLedger) : Prop where
  context : preset.context = ledger.context
  state : preset.state = ledger.state
  receipts : preset.receipts = ledger.receipts
  idempotency : preset.idempotency = ledger.idempotency

variable {ledger preset : CommerceLedger} {input : TransitionInput}

variable {observation : ProviderObservation}

theorem acceptMeter_frame (h : ledger.acceptMeter observation = .ok (preset, input)) :
    preset.SameRecord ledger ∧ input.authority = input.kind.authority := by
  simp only [acceptMeter, bind_eq_ok, pure_eq_ok, Prod.mk.injEq] at h
  obtain ⟨_, -, rfl, rfl⟩ := h
  exact ⟨⟨rfl, rfl, rfl, rfl⟩, rfl⟩

theorem reconcile_frame (h : ledger.reconcile observation = .ok (preset, input)) :
    preset.SameRecord ledger ∧ input.authority = input.kind.authority := by
  simp only [reconcile, bind_eq_ok, pure_eq_ok, Prod.mk.injEq] at h
  obtain ⟨_, -, _, -, rfl, rfl⟩ := h
  exact ⟨⟨rfl, rfl, rfl, rfl⟩, rfl⟩

theorem observe_frame (h : ledger.observe observation = .ok (preset, input)) :
    preset.SameRecord ledger ∧ input.authority = input.kind.authority := by
  obtain ⟨_, -, h⟩ := bind_eq_ok.mp h
  cases hkind : observation.kind with
  | agreement | suspended | reinstated | revoked =>
    simp only [hkind, pure_eq_ok, Prod.mk.injEq] at h
    obtain ⟨rfl, rfl⟩ := h
    exact ⟨⟨rfl, rfl, rfl, rfl⟩, rfl⟩
  | entitlement | entitlementChanged =>
    simp only [hkind, bind_eq_ok, pure_eq_ok, Prod.mk.injEq] at h
    obtain ⟨_, -, rfl, rfl⟩ := h
    exact ⟨⟨rfl, rfl, rfl, rfl⟩, rfl⟩
  | meterAccepted => rw [hkind] at h; exact acceptMeter_frame h
  | settlement => rw [hkind] at h; exact reconcile_frame h

/-- The assignments leave the context, the lifecycle state, the receipts and the
idempotency keys alone, and the input carries the authority its kind requires. -/
theorem prepare_frame {op : Op} (h : ledger.prepare op = .ok (preset, input)) :
    preset.SameRecord ledger ∧ input.authority = input.kind.authority := by
  cases op with
  | observe observation => exact observe_frame h
  | acceptMeter observation => exact acceptMeter_frame h
  | reconcile observation => exact reconcile_frame h
  | authorizeFulfillment | bindManufacture | bindDelivery | verifyDelivery | deriveUsage =>
    simp only [prepare, authorizeFulfillment, bindManufacture, bindDelivery, verifyDelivery,
      deriveUsage, bind_eq_ok, pure_eq_ok, Prod.mk.injEq] at h
    obtain ⟨_, -, rfl, rfl⟩ := h
    exact ⟨⟨rfl, rfl, rfl, rfl⟩, rfl⟩
  | applyCredit | reconcileRefund =>
    simp only [prepare, applyCredit, reconcileRefund, bind_eq_ok, pure_eq_ok, Prod.mk.injEq] at h
    obtain ⟨_, -, _, -, rfl, rfl⟩ := h
    exact ⟨⟨rfl, rfl, rfl, rfl⟩, rfl⟩

/-! ## What `apply` accepts -/

section Apply

variable {signing : Signing}

theorem issue_id_valid (signing : Signing) (ledger : CommerceLedger) (input : TransitionInput)
    (after : CommercialState) :
    validId (ledger.issue signing input after).core.id "receipt" = true := by
  have hname : ("commerce-" ++ ledger.context.provider.asStr ++ "-").toList.all isIdChar = true ∧
      ("commerce-" ++ ledger.context.provider.asStr ++ "-").toList ≠ [] := by
    cases ledger.context.provider <;> decide
  exact validId_receipt hname.1 hname.2 _

variable {after : CommercialState}

/-- Of what `apply` issues, only a blank event reference does not verify. -/
theorem issue_verify (hauthority : input.authority = input.kind.authority) :
    (ledger.issue signing input after).verify signing = .ok () ↔
      isBlank input.eventRef = false := by
  have hcore : (ledger.issue signing input after).core.verify signing = .ok () := by
    refine Receipt.verify_sign signing (issue_id_valid signing ledger input after) ?_ rfl
    have hsubject := not_isBlank_append ledger.context.agreement
      (not_isBlank_append ":" (not_isBlank_append ledger.context.provider.asStr
        (by decide : isBlank "commerce:" = false)))
    have hactor : isBlank "marketplace-commerce" = false := by decide
    have htimestamp : isBlank "2026-08-19T00:00:00Z" = false := by decide
    have hintention : isBlank input.kind.debug = false := by
      cases input.kind <;> decide
    simp only [Receipt.isComplete, hsubject, hactor, htimestamp, hintention]
    rfl
  simp only [CommercialReceipt.verify, hcore, bind_eq_ok, ensure_eq_ok]
  constructor
  · rintro ⟨_, -, _, -, hevent⟩
    simpa [issue] using hevent
  · intro hevent
    exact ⟨(), trivial, (), hauthority, by simpa [issue] using hevent⟩

variable {receipt : CommercialReceipt} {ledger' : CommerceLedger}

/-- `apply` returns the receipt that the key was used for before, or records a
new one. -/
theorem apply_eq_ok (hauthority : input.authority = input.kind.authority) :
    ledger.apply signing input = .ok (receipt, ledger') ↔
      isBlank input.idempotencyKey = false ∧
      ((∃ index, ledger.idempotency[input.idempotencyKey]? = some (input.fingerprint, index) ∧
          ledger.receipts[index]? = some receipt ∧ ledger' = ledger) ∨
       (ledger.idempotency[input.idempotencyKey]? = none ∧ isBlank input.eventRef = false ∧
        ∃ after, nextState ledger.state input.kind = .ok after ∧
          receipt = ledger.issue signing input after ∧ ledger' = ledger.record input receipt)) := by
  simp only [apply, bind_eq_ok, ensure_eq_ok, hauthority, Bool.not_eq_true', exists_const, true_and]
  refine and_congr_right fun _ => ?_
  cases hkey : ledger.idempotency[input.idempotencyKey]? with
  | none =>
    simp only [bind_eq_ok, ensure_eq_ok, issue_id_valid, issue_verify hauthority, pure_eq_ok,
      Prod.mk.injEq, reduceCtorEq, false_and, exists_const, false_or, true_and]
    constructor
    · rintro ⟨after, hafter, hevent, rfl, rfl⟩
      exact ⟨hevent, after, hafter, rfl, rfl⟩
    · rintro ⟨hevent, after, hafter, rfl, rfl⟩
      exact ⟨after, hafter, hevent, rfl, rfl⟩
  | some entry =>
    obtain ⟨existing, index⟩ := entry
    simp only [bind_eq_ok, ensure_eq_ok, exists_const, Option.some.injEq, Prod.mk.injEq,
      reduceCtorEq, false_and, or_false]
    cases hreceipt : ledger.receipts[index]? with
    | none =>
      constructor
      · rintro ⟨-, h⟩; cases h
      · rintro ⟨_, ⟨-, rfl⟩, h, -⟩; rw [hreceipt] at h; cases h
    | some stored =>
      constructor
      · rintro ⟨rfl, h⟩
        obtain ⟨rfl, rfl⟩ := Prod.mk.inj (pure_eq_ok.mp h)
        exact ⟨index, ⟨rfl, rfl⟩, hreceipt, rfl⟩
      · rintro ⟨_, ⟨rfl, rfl⟩, h, rfl⟩
        rw [hreceipt] at h
        exact ⟨rfl, pure_eq_ok.mpr (by rw [Option.some.inj h])⟩

/-! ## Reachable ledgers -/

/-- Every idempotency key leads to the receipt that was issued for its
fingerprint, and every receipt records a lawful transition that lies behind the
ledger. -/
structure Inv (ledger : CommerceLedger) : Prop where
  index : ∀ (key text : String) (i : ℕ), ledger.idempotency[key]? = some (text, i) →
    ∃ receipt : CommercialReceipt, ledger.receipts[i]? = some receipt ∧ receipt.fingerprint = text
  history : ∀ receipt ∈ ledger.receipts,
    nextState receipt.stateBefore receipt.kind = .ok receipt.stateAfter ∧
      receipt.stateAfter.rank ≤ ledger.state.rank

/-- `ledger'` is a later ledger: same context, no receipt and no key forgotten, no
step back in the lifecycle. -/
structure Extends (ledger ledger' : CommerceLedger) : Prop where
  context : ledger'.context = ledger.context
  entry : ∀ (key : String) (entry : String × ℕ), ledger.idempotency[key]? = some entry →
    ledger'.idempotency[key]? = some entry
  receipts : ledger.receipts <+: ledger'.receipts
  rank : ledger.state.rank ≤ ledger'.state.rank

instance : Std.Refl Extends := ⟨fun _ => ⟨rfl, fun _ _ h => h, List.prefix_rfl, le_rfl⟩⟩

instance : IsTrans CommerceLedger Extends :=
  ⟨fun _ _ _ h k => ⟨k.context.trans h.context, fun key entry he => k.entry key entry
    (h.entry key entry he),
    h.receipts.trans k.receipts, h.rank.trans k.rank⟩⟩

theorem inv_opened (context : CommerceContext) : (opened context).Inv where
  index := by simp [opened]
  history := by simp [opened]

theorem SameRecord.inv (h : preset.SameRecord ledger) (hinv : ledger.Inv) : preset.Inv where
  index := by rw [h.idempotency, h.receipts]; exact hinv.index
  history := by rw [h.receipts, h.state]; exact hinv.history

theorem SameRecord.extends (h : preset.SameRecord ledger) : ledger.Extends preset :=
  ⟨h.context, by rw [h.idempotency]; exact fun _ _ he => he, by rw [h.receipts],
    by rw [h.state]⟩

theorem inv_record (hinv : ledger.Inv) (hafter : nextState ledger.state input.kind = .ok after) :
    (ledger.record input (ledger.issue signing input after)).Inv where
  index := by
    intro key text i hkey
    simp only [record, Std.ExtTreeMap.getElem?_insert, compare_eq_iff_eq] at hkey ⊢
    split_ifs at hkey with heq
    · obtain ⟨rfl, rfl⟩ := Prod.mk.inj (Option.some.inj hkey)
      exact ⟨ledger.issue signing input after, by simp, rfl⟩
    · obtain ⟨receipt, hreceipt, htext⟩ := hinv.index key text i hkey
      have hlt : i < ledger.receipts.length := (List.getElem?_eq_some_iff.mp hreceipt).1
      exact ⟨receipt, by rw [List.getElem?_append_left hlt, hreceipt], htext⟩
  history := by
    intro receipt hmem
    rcases List.mem_append.mp hmem with hmem | hmem
    · obtain ⟨hstep, hrank⟩ := hinv.history receipt hmem
      exact ⟨hstep, hrank.trans (nextState_rank hafter)⟩
    · obtain rfl := List.mem_singleton.mp hmem
      exact ⟨hafter, le_rfl⟩

theorem extends_record (hafter : nextState ledger.state input.kind = .ok after)
    (hkey : ledger.idempotency[input.idempotencyKey]? = none) :
    ledger.Extends (ledger.record input (ledger.issue signing input after)) where
  context := rfl
  entry := by
    intro key entry hentry
    have hne : input.idempotencyKey ≠ key := by
      rintro rfl
      rw [hkey] at hentry
      cases hentry
    simp [record, Std.ExtTreeMap.getElem?_insert, hne, hentry]
  receipts := List.prefix_append _ _
  rank := nextState_rank hafter

/-- `apply` keeps the invariant and forgets nothing. -/
theorem apply_inv (hauthority : input.authority = input.kind.authority) (hinv : ledger.Inv)
    (h : ledger.apply signing input = .ok (receipt, ledger')) :
    ledger'.Inv ∧ ledger.Extends ledger' := by
  obtain ⟨-, ⟨_, -, -, rfl⟩ | ⟨hkey, -, after, hafter, rfl, rfl⟩⟩ := (apply_eq_ok hauthority).mp h
  · exact ⟨hinv, refl_of Extends _⟩
  · exact ⟨inv_record hinv hafter, extends_record hafter hkey⟩

/-- A call that passes its checks is what `apply` makes of the assignments. -/
theorem call_of_prepare (signing : Signing) {op : Op} {preset : CommerceLedger}
    (hprepare : ledger.prepare op = .ok (preset, input)) :
    (∃ error, preset.apply signing input = .error error ∧
      ledger.call signing op = (.error error, preset)) ∨
    (∃ receipt ledger', preset.apply signing input = .ok (receipt, ledger') ∧
      ledger.call signing op = (.ok receipt, ledger')) := by
  unfold call perform
  rw [hprepare]
  cases happly : preset.apply signing input with
  | error error => exact .inl ⟨error, rfl, by simp only [happly]⟩
  | ok result => exact .inr ⟨result.1, result.2, rfl, by simp only [happly]⟩

/-- A call is refused by the checks, refused by `apply` after the assignments, or
accepted by `apply`. -/
theorem call_cases (signing : Signing) (ledger : CommerceLedger) (op : Op) :
    (∃ error, ledger.prepare op = .error error ∧ ledger.call signing op = (.error error, ledger)) ∨
    (∃ preset input, ledger.prepare op = .ok (preset, input) ∧
      ((∃ error, preset.apply signing input = .error error ∧
          ledger.call signing op = (.error error, preset)) ∨
       (∃ receipt ledger', preset.apply signing input = .ok (receipt, ledger') ∧
          ledger.call signing op = (.ok receipt, ledger')))) := by
  cases hprepare : ledger.prepare op with
  | error error =>
    refine .inl ⟨error, rfl, ?_⟩
    unfold call perform
    rw [hprepare]
  | ok prepared =>
    obtain ⟨preset, input⟩ := prepared
    exact .inr ⟨preset, input, rfl, call_of_prepare signing hprepare⟩

/-- A call that succeeds has passed its checks. -/
theorem prepared_of_call {op : Op} (h : ledger.call signing op = (.ok receipt, ledger')) :
    ∃ preset input, ledger.prepare op = .ok (preset, input) := by
  rcases call_cases signing ledger op with ⟨_, -, hcall⟩ | ⟨preset, input, hprepare, -⟩
  · rw [h] at hcall
    cases hcall
  · exact ⟨preset, input, hprepare⟩

/-- One call keeps the invariant and forgets nothing, whether it succeeds or not. -/
theorem next_inv (signing : Signing) (ledger : CommerceLedger) (op : Op) (hinv : ledger.Inv) :
    (ledger.next signing op).Inv ∧ ledger.Extends (ledger.next signing op) := by
  unfold next
  rcases call_cases signing ledger op with ⟨_, -, hcall⟩ | ⟨preset, input, hprepare, h⟩
  · rw [hcall]
    exact ⟨hinv, refl_of Extends _⟩
  · obtain ⟨hframe, hauthority⟩ := prepare_frame hprepare
    have hpreset := hframe.inv hinv
    rcases h with ⟨_, -, hcall⟩ | ⟨receipt, ledger', happly, hcall⟩
    · rw [hcall]
      exact ⟨hpreset, hframe.extends⟩
    · rw [hcall]
      obtain ⟨hinv', hextends⟩ := apply_inv hauthority hpreset happly
      exact ⟨hinv', trans_of Extends hframe.extends hextends⟩

theorem inv_run (signing : Signing) (context : CommerceContext) (ops : List Op) :
    (run (next signing) (opened context) ops).Inv :=
  run_invariant (fun ledger op h => (next_inv signing ledger op h).1) (inv_opened context) ops

theorem extends_run (signing : Signing) {ledger : CommerceLedger} (hinv : ledger.Inv)
    (ops : List Op) : ledger.Extends (run (next signing) ledger ops) :=
  run_rel (fun ledger op h => (next_inv signing ledger op h).1)
    (fun ledger op h => (next_inv signing ledger op h).2) hinv ops

end Apply

end CommerceLedger

end ChatmanEcosystem.Commerce
