import ChatmanEcosystem.Console.K8s
import ChatmanEcosystem.Rust.Result
import Mathlib.Data.Rat.Floor
import Std.Data.ExtTreeMap

/-!
# Subscriptions

Model of `platform-console/app/lib/stripe-billing.ts`, lines 90–212, 277–365,
527–576 and 609–647: the stored subscription of a tenant, and what the calls that
write it store. Instants are milliseconds since 1970 where the source has their
ISO text. What Stripe and the store answer is an argument.

Results:

* `putStoredSubscription_getElem`: a write touches the record of one tenant.
-/

namespace ChatmanEcosystem.Console

open Rust

/-- `Stripe.Subscription.Status`, and the `no_subscription` of line 94. -/
inductive SubscriptionStatus
  | active
  | canceled
  | incomplete
  | incompleteExpired
  | pastDue
  | paused
  | trialing
  | unpaid
  | noSubscription
  deriving DecidableEq

/-- `StoredSubscription` (lines 90–101). -/
structure StoredSubscription where
  tenantNamespace : String
  stripeCustomerId : String
  stripeSubscriptionId : Option String
  status : SubscriptionStatus
  priceId : Option String
  currentPeriodEnd : Option ℤ
  updatedAt : ℤ
  lastEventId : Option String
  lastEventType : Option String
  deriving DecidableEq

/-- The data of the ConfigMap, a record for each tenant. -/
abbrev SubscriptionStore := Std.ExtTreeMap String StoredSubscription

/-- `getStoredSubscription` (lines 111–123); `read` is what the ConfigMap read answers. -/
def getStoredSubscription (read : K8sResult (Option SubscriptionStore)) (tenantNamespace : String) :
    K8sResult (Option StoredSubscription) :=
  read.map fun store => (store.getD ∅)[tenantNamespace]?

/-- The store after a write of `putStoredSubscription` (lines 138–146). -/
def putStoredSubscription (store : SubscriptionStore) (record : StoredSubscription) :
    SubscriptionStore :=
  store.insert record.tenantNamespace record

@[simp] theorem putStoredSubscription_getElem (store : SubscriptionStore)
    (record : StoredSubscription) (tenantNamespace : String) :
    (putStoredSubscription store record)[tenantNamespace]? =
      if record.tenantNamespace = tenantNamespace then some record
        else store[tenantNamespace]? := by
  simp [putStoredSubscription, Std.ExtTreeMap.getElem?_insert]

/-! ## What Stripe sends -/

/-- A line of a subscription: its id, its price and the end of the period. -/
structure SubscriptionItem where
  id : String
  priceId : Option String
  unitAmount : Option ℤ
  quantity : Option ℤ
  currentPeriodEnd : Option ℤ
  deriving DecidableEq

/-- The members of a `Stripe.Subscription` that are read. -/
structure Subscription where
  id : String
  customer : String
  tenantNamespace : Option String
  status : SubscriptionStatus
  currency : String
  items : List SubscriptionItem
  deriving DecidableEq

/-- `sub.items.data[0]?.price?.id`. -/
def Subscription.priceId (sub : Subscription) : Option String := sub.items.head?.bind (·.priceId)

/-- The end of the period in milliseconds; a zero counts as absent. -/
def Subscription.currentPeriodEnd (sub : Subscription) : Option ℤ :=
  ((sub.items.head?.bind (·.currentPeriodEnd)).filter (· ≠ 0)).map (· * 1000)

/-- An event of Stripe by its type: `customer.subscription.` and `invoice.payment_` with the rest
of the type, or another. An invoice is known by the tenant in its subscription details. -/
inductive StripeEvent
  | subscription (id : String) (created : ℤ) (kind : String) (sub : Subscription)
  | payment (id : String) (created : ℤ) (kind : String) (tenantNamespace : Option String)
  | other (id : String) (created : ℤ) (type : String)
  deriving DecidableEq

/-- A tenant that `if (!tenantNamespace)` lets pass. -/
def namedTenant (tenantNamespace : Option String) : Option String :=
  tenantNamespace.filter (· ≠ "")

/-! ## `applyStripeEvent` -/

/-- The status that a subscription event stores (line 537). -/
def storedStatus (kind : String) (sub : Subscription) : SubscriptionStatus :=
  if kind = "deleted" then .canceled else sub.status

/-- The record of a subscription event (lines 533–544). -/
def subscriptionRecord (id kind : String) (sub : Subscription) (tenantNamespace : String)
    (now : ℤ) : StoredSubscription where
  tenantNamespace
  stripeCustomerId := sub.customer
  stripeSubscriptionId := some sub.id
  status := storedStatus kind sub
  priceId := sub.priceId
  currentPeriodEnd := sub.currentPeriodEnd
  updatedAt := now
  lastEventId := some id
  lastEventType := some ("customer.subscription." ++ kind)

/-- The record of an invoice event (lines 562–568). -/
def paymentRecord (id kind : String) (existing : StoredSubscription) (now : ℤ) :
    StoredSubscription :=
  { existing with
    status := if kind = "failed" then .pastDue else existing.status
    updatedAt := now
    lastEventId := some id
    lastEventType := some ("invoice.payment_" ++ kind) }

/-- `applyStripeEvent` (lines 527–576) up to its write: the record to write, if there is one;
`read` is what the ConfigMap read of an invoice event answers. -/
def applyStripeEvent (event : StripeEvent) (read : K8sResult (Option SubscriptionStore)) (now : ℤ) :
    K8sResult (Option StoredSubscription) :=
  match event with
  | .subscription id _ kind sub =>
    .ok ((namedTenant sub.tenantNamespace).map fun tenant =>
      subscriptionRecord id kind sub tenant now)
  | .payment id _ kind tenantNamespace =>
    match namedTenant tenantNamespace with
    | none => .ok none
    | some tenant =>
      (getStoredSubscription read tenant).map fun existing =>
        existing.map fun record => paymentRecord id kind record now
  | .other _ _ _ => .ok none

/-! ## Creating and swapping -/

/-- The statuses that Stripe bills against (lines 296–297). -/
def swappableStatus (status : SubscriptionStatus) : Bool :=
  status = .active || status = .trialing || status = .pastDue

/-- The subscription that `changeSubscriptionPlan` swaps (line 299), if it does not create one. -/
def swappable (stored : Option StoredSubscription) : Option (StoredSubscription × String) := do
  let record ← stored
  let subscriptionId ← record.stripeSubscriptionId.filter (· ≠ "")
  guard (swappableStatus record.status)
  return (record, subscriptionId)

/-- The record of a created subscription (lines 192–204). -/
def createdRecord (tenantNamespace customerId priceId : String) (sub : Subscription) (now : ℤ) :
    StoredSubscription where
  tenantNamespace
  stripeCustomerId := customerId
  stripeSubscriptionId := some sub.id
  status := sub.status
  priceId := some priceId
  currentPeriodEnd := sub.currentPeriodEnd
  updatedAt := now
  lastEventId := none
  lastEventType := some "subscription.created.via_onboarding"

/-- The record of a swapped subscription (lines 316–328). -/
def swappedRecord (tenantNamespace newPriceId : String) (stored : StoredSubscription)
    (updated : Subscription) (now : ℤ) : StoredSubscription where
  tenantNamespace
  stripeCustomerId := stored.stripeCustomerId
  stripeSubscriptionId := some updated.id
  status := updated.status
  priceId := some (updated.priceId.getD newPriceId)
  currentPeriodEnd := updated.currentPeriodEnd
  updatedAt := now
  lastEventId := none
  lastEventType := some "subscription.updated.via_change_plan"

/-! ## Credits -/

/-- The recurring amount of a subscription in cents (lines 623–627). -/
def monthlySpendCents (sub : Subscription) : ℤ :=
  (sub.items.map fun item => item.unitAmount.getD 0 * item.quantity.getD 1).sum

/-- The cents that `applySlaCreditToStripeBalance` credits (lines 621–637); `retrieved` is what
Stripe answers, and the rounding is that of `Math.round`. -/
def slaCreditCents (creditPctOfMonthlySpend : ℚ) (subscriptionId : String)
    (retrieved : K8sResult Subscription) : K8sResult (ℤ × String) :=
  match retrieved with
  | .error error => .error ("Stripe API error: " ++ error)
  | .ok sub =>
    if monthlySpendCents sub ≤ 0 then
      .error ("subscription " ++ subscriptionId ++
        " has no real recurring monthly amount to compute an SLA credit against")
    else
      let creditCents := (monthlySpendCents sub * (creditPctOfMonthlySpend / 100) + 1 / 2).floor
      if creditCents ≤ 0 then .error "computed SLA credit amount rounds to zero cents"
      else .ok (creditCents, sub.currency)

end ChatmanEcosystem.Console
