import ChatmanEcosystem.Core.Receipt
import ChatmanEcosystem.Rust.U64
import Mathlib.Data.List.Nodup

/-!
# Commercial events, states and receipts

The data of the marketplace ledger (`crates/ecosystem-runtime/src/commerce.rs`,
lines 18–270 and 719–767): provider observations, the lifecycle and its
transition table, the context a ledger is opened for, and commercial receipts.

Results:

* `nextState_rank`: the lifecycle never goes back.
-/

namespace ChatmanEcosystem.Commerce

open Core Rust

/-- `enum CommerceError` (lines 19–26). -/
inductive CommerceError
  | refused (detail : String)
  | provider (detail : String)
  | receipt (detail : String)
  deriving DecidableEq

/-- `enum Provider` (lines 30–34). -/
inductive Provider
  | aws
  | microsoft
  | google
  deriving DecidableEq

/-- `Provider::as_str` (lines 38–44). -/
def Provider.asStr : Provider → String
  | aws => "aws"
  | microsoft => "microsoft"
  | google => "google"

/-- `enum ProviderEventKind` (lines 49–58). -/
inductive ProviderEventKind
  | agreement
  | entitlement
  | entitlementChanged
  | suspended
  | reinstated
  | revoked
  | meterAccepted
  | settlement
  deriving DecidableEq

/-! ## Receipt kinds -/

/-- `enum ReceiptKind` (lines 62–78). -/
inductive ReceiptKind
  | agreementObserved
  | entitlementAdmitted
  | entitlementChanged
  | entitlementSuspended
  | entitlementReinstated
  | entitlementRevoked
  | fulfillmentAuthorized
  | manufactureBound
  | deliveryBound
  | deliveryVerified
  | usageDerived
  | meterAccepted
  | settlementReconciled
  | creditApplied
  | refundReconciled
  deriving DecidableEq

namespace ReceiptKind

/-- `ReceiptKind::authority` (lines 82–98). -/
def authority : ReceiptKind → Authority
  | agreementObserved | entitlementAdmitted | entitlementChanged | manufactureBound
  | deliveryBound | deliveryVerified | usageDerived | settlementReconciled => .persistControlPlane
  | entitlementSuspended | entitlementReinstated | entitlementRevoked
  | fulfillmentAuthorized => .modifyExternalObject
  | meterAccepted | creditApplied | refundReconciled => .spend

/-- `rename_all = "snake_case"`. -/
def snakeCase : ReceiptKind → String
  | agreementObserved => "agreement_observed"
  | entitlementAdmitted => "entitlement_admitted"
  | entitlementChanged => "entitlement_changed"
  | entitlementSuspended => "entitlement_suspended"
  | entitlementReinstated => "entitlement_reinstated"
  | entitlementRevoked => "entitlement_revoked"
  | fulfillmentAuthorized => "fulfillment_authorized"
  | manufactureBound => "manufacture_bound"
  | deliveryBound => "delivery_bound"
  | deliveryVerified => "delivery_verified"
  | usageDerived => "usage_derived"
  | meterAccepted => "meter_accepted"
  | settlementReconciled => "settlement_reconciled"
  | creditApplied => "credit_applied"
  | refundReconciled => "refund_reconciled"

/-- `{:?}` of a receipt kind. -/
def debug : ReceiptKind → String
  | agreementObserved => "AgreementObserved"
  | entitlementAdmitted => "EntitlementAdmitted"
  | entitlementChanged => "EntitlementChanged"
  | entitlementSuspended => "EntitlementSuspended"
  | entitlementReinstated => "EntitlementReinstated"
  | entitlementRevoked => "EntitlementRevoked"
  | fulfillmentAuthorized => "FulfillmentAuthorized"
  | manufactureBound => "ManufactureBound"
  | deliveryBound => "DeliveryBound"
  | deliveryVerified => "DeliveryVerified"
  | usageDerived => "UsageDerived"
  | meterAccepted => "MeterAccepted"
  | settlementReconciled => "SettlementReconciled"
  | creditApplied => "CreditApplied"
  | refundReconciled => "RefundReconciled"

/-- The kinds in the order of their declaration. -/
def all : List ReceiptKind :=
  [agreementObserved, entitlementAdmitted, entitlementChanged, entitlementSuspended,
    entitlementReinstated, entitlementRevoked, fulfillmentAuthorized, manufactureBound,
    deliveryBound, deliveryVerified, usageDerived, meterAccepted, settlementReconciled,
    creditApplied, refundReconciled]

theorem mem_all (kind : ReceiptKind) : kind ∈ all := by
  cases kind <;> decide

theorem snakeCase_injective : Function.Injective snakeCase := by
  have hnodup : (all.map snakeCase).Nodup := by decide +kernel
  intro a b h
  exact List.inj_on_of_nodup_map hnodup (mem_all a) (mem_all b) h

end ReceiptKind

/-! ## The lifecycle -/

/-- `enum EntitlementStatus` (lines 103–108). -/
inductive EntitlementStatus
  | unknown
  | active
  | suspended
  | revoked
  deriving DecidableEq

/-- `enum CommercialState` (lines 112–123). -/
inductive CommercialState
  | discovered
  | agreementObserved
  | entitled
  | fulfilled
  | manufactured
  | delivered
  | verified
  | usageRecorded
  | metered
  | reconciled
  deriving DecidableEq

namespace CommercialState

/-- `{:?}` of a state. -/
def debug : CommercialState → String
  | discovered => "Discovered"
  | agreementObserved => "AgreementObserved"
  | entitled => "Entitled"
  | fulfilled => "Fulfilled"
  | manufactured => "Manufactured"
  | delivered => "Delivered"
  | verified => "Verified"
  | usageRecorded => "UsageRecorded"
  | metered => "Metered"
  | reconciled => "Reconciled"

/-- The position of a state in the lifecycle. -/
def rank : CommercialState → ℕ
  | discovered => 0
  | agreementObserved => 1
  | entitled => 2
  | fulfilled => 3
  | manufactured => 4
  | delivered => 5
  | verified => 6
  | usageRecorded => 7
  | metered => 8
  | reconciled => 9

end CommercialState

/-- `next_state` (lines 719–767). -/
def nextState (current : CommercialState) (kind : ReceiptKind) :
    Except CommerceError CommercialState :=
  match kind, current with
  | .agreementObserved, .discovered => .ok .agreementObserved
  | .entitlementAdmitted, .agreementObserved => .ok .entitled
  | .entitlementChanged, current | .entitlementSuspended, current
  | .entitlementReinstated, current | .entitlementRevoked, current => .ok current
  | .fulfillmentAuthorized, .entitled => .ok .fulfilled
  | .manufactureBound, .fulfilled => .ok .manufactured
  | .deliveryBound, .manufactured => .ok .delivered
  | .deliveryVerified, .delivered => .ok .verified
  | .usageDerived, .verified => .ok .usageRecorded
  | .meterAccepted, .usageRecorded => .ok .metered
  | .settlementReconciled, .metered => .ok .reconciled
  | .creditApplied, .reconciled | .refundReconciled, .reconciled => .ok .reconciled
  | kind, current => .error (.refused
      ("ILLEGAL_COMMERCIAL_TRANSITION_" ++ current.debug ++ "_" ++ kind.debug))

theorem nextState_rank {current next : CommercialState} {kind : ReceiptKind}
    (h : nextState current kind = .ok next) : current.rank ≤ next.rank := by
  cases kind <;> cases current <;> cases h <;> decide

/-! ## Observations and contexts -/

/-- `struct ProviderObservation` (lines 126–141). -/
structure ProviderObservation where
  provider : Provider
  kind : ProviderEventKind
  eventRef : String
  buyerRef : String
  productRef : String
  agreementRef : String
  entitlementRef : String
  subscriptionRef : String
  plan : String
  dimension : String
  quantity : UInt64
  units : UInt64
  amountMicros : UInt64
  currency : String
  deriving DecidableEq

/-- `struct CommerceContext` (lines 144–164). -/
structure CommerceContext where
  seller : String
  buyer : String
  product : String
  capability : String
  sku : String
  offer : String
  order : String
  agreement : String
  subscription : String
  entitlement : String
  fulfillment : String
  provider : Provider
  providerBuyerRef : String
  providerProductRef : String
  providerAgreementRef : String
  providerEntitlementRef : String
  providerSubscriptionRef : String
  unitPriceMicros : UInt64
  currency : String
  deriving DecidableEq

namespace CommerceContext

/-- `CommerceContext::validate` (lines 167–203). -/
def validate (context : CommerceContext) : Except CommerceError Unit := do
  [("seller", context.seller), ("buyer", context.buyer), ("product", context.product),
    ("capability", context.capability), ("sku", context.sku), ("offer", context.offer),
    ("order", context.order), ("agreement", context.agreement),
    ("subscription", context.subscription), ("entitlement", context.entitlement),
    ("fulfillment", context.fulfillment), ("provider_buyer_ref", context.providerBuyerRef),
    ("provider_product_ref", context.providerProductRef),
    ("provider_agreement_ref", context.providerAgreementRef),
    ("provider_entitlement_ref", context.providerEntitlementRef),
    ("provider_subscription_ref", context.providerSubscriptionRef)].forM fun (name, value) =>
      ensure (!isBlank value) (CommerceError.refused ("MISSING_" ++ name))
  ensure (context.unitPriceMicros ≠ 0 ∧ !isBlank context.currency) (.refused "INVALID_PRICE")

/-- `CommerceContext::admit_observation` (lines 205–241). -/
def admitObservation (context : CommerceContext) (observation : ProviderObservation) :
    Except CommerceError Unit := do
  ensure (observation.provider = context.provider) (.refused "PROVIDER_MISMATCH")
  [("BUYER", observation.buyerRef, context.providerBuyerRef),
    ("PRODUCT", observation.productRef, context.providerProductRef),
    ("AGREEMENT", observation.agreementRef, context.providerAgreementRef),
    ("ENTITLEMENT", observation.entitlementRef, context.providerEntitlementRef),
    ("SUBSCRIPTION", observation.subscriptionRef, context.providerSubscriptionRef)].forM
      fun (name, observed, expected) =>
        ensure (observed = expected) (CommerceError.refused (name ++ "_IDENTITY_MISMATCH"))

end CommerceContext

/-! ## Commercial receipts -/

/-- `struct CommercialReceipt` (lines 245–255). -/
structure CommercialReceipt where
  kind : ReceiptKind
  stateBefore : CommercialState
  stateAfter : CommercialState
  providerEventRef : String
  sourceReceipt : String
  previousDigest : String
  units : UInt64
  amountMicros : UInt64
  core : Receipt
  deriving DecidableEq

/-- `CommercialReceipt::verify` (lines 258–269). -/
def CommercialReceipt.verify (signing : Signing) (receipt : CommercialReceipt) :
    Except CommerceError Unit := do
  match receipt.core.verify signing with
  | .error error => .error (.receipt error)
  | .ok () => .ok ()
  ensure (receipt.core.authority = receipt.kind.authority) (.receipt "AUTHORITY_KIND_MISMATCH")
  ensure (!isBlank receipt.providerEventRef) (.receipt "MISSING_PROVIDER_EVENT_REF")

/-! ## Fixtures -/

/-- `fixture_context` (lines 867–890). -/
def fixtureContext (provider : Provider) : CommerceContext :=
  let p := provider.asStr
  { seller := "seller:chatman", buyer := "buyer:" ++ p, product := "product:ggen-saas"
    capability := "capability:verified-manufacture", sku := "sku:enterprise"
    offer := "offer:private", order := "order:" ++ p, agreement := "agreement:" ++ p
    subscription := "subscription:" ++ p, entitlement := "entitlement:" ++ p
    fulfillment := "fulfillment:" ++ p, provider
    providerBuyerRef := p ++ "-buyer", providerProductRef := p ++ "-product"
    providerAgreementRef := p ++ "-agreement", providerEntitlementRef := p ++ "-agreement"
    providerSubscriptionRef := p ++ "-agreement", unitPriceMicros := 10000, currency := "USD" }

/-- `fixture_observation` (lines 892–913). -/
def fixtureObservation (context : CommerceContext) (kind : ProviderEventKind) (event : String) :
    ProviderObservation :=
  { provider := context.provider, kind, eventRef := event, buyerRef := context.providerBuyerRef
    productRef := context.providerProductRef, agreementRef := context.providerAgreementRef
    entitlementRef := context.providerEntitlementRef
    subscriptionRef := context.providerSubscriptionRef, plan := "enterprise"
    dimension := "verified-manufacture", quantity := 5, units := 3, amountMicros := 30000
    currency := "USD" }

example : (fixtureContext .google).validate = .ok () := by decide +kernel

end ChatmanEcosystem.Commerce
