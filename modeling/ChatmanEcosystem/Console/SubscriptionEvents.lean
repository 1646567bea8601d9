import ChatmanEcosystem.Common.Run
import ChatmanEcosystem.Console.StripeBilling

/-!
# Deliveries of subscription events

The events of one tenant's subscription, delivered to `applyStripeEvent` in any
order and any number of times, each write succeeding. An event overwrites the
record, and its creation time is not looked at.

Results:

* `deliver_last`: the record is that of the last delivery.
* `converges_iff`: the record ends with the status and the price of the event created last
  exactly when the last delivery has that status and that price.
-/

namespace ChatmanEcosystem.Console

open Common

/-! ## The plan state -/

/-- `PlanState` (`lib/plan-state.ts`, line 118). -/
inductive PlanState
  | active
  | pastDue
  | suspended
  deriving DecidableEq

/-- `mapStripeStatusToPlanState` (`lib/plan-state.ts`, lines 105–109). -/
def mapStripeStatusToPlanState (status : SubscriptionStatus) : PlanState :=
  if status = .active ∨ status = .trialing then .active
  else if status = .pastDue then .pastDue
  else .suspended

/-! ## Deliveries -/

/-- A `customer.subscription.` event. -/
structure SubscriptionEvent where
  id : String
  created : ℤ
  kind : String
  sub : Subscription
  deriving DecidableEq

/-- The status that the event reports. -/
def SubscriptionEvent.status (event : SubscriptionEvent) : SubscriptionStatus :=
  storedStatus event.kind event.sub

/-- The price that the event reports. -/
def SubscriptionEvent.priceId (event : SubscriptionEvent) : Option String := event.sub.priceId

/-- An event that is delivered at an instant. -/
structure Delivery where
  event : SubscriptionEvent
  now : ℤ

/-- The store after a delivery whose write succeeds. -/
def deliver (store : SubscriptionStore) (delivery : Delivery) : SubscriptionStore :=
  let event := delivery.event
  match applyStripeEvent (.subscription event.id event.created event.kind event.sub) (.ok none)
    delivery.now with
  | .ok (some record) => putStoredSubscription store record
  | _ => store

variable {tenant : String}

/-- A delivery stores the record of its event, whatever was stored. -/
theorem deliver_getElem (htenant : tenant ≠ "") (store : SubscriptionStore) {delivery : Delivery}
    (hevent : delivery.event.sub.tenantNamespace = some tenant) :
    (deliver store delivery)[tenant]? =
      some (subscriptionRecord delivery.event.id delivery.event.kind delivery.event.sub tenant
        delivery.now) := by
  have hnamed : namedTenant delivery.event.sub.tenantNamespace = some tenant := by
    rw [hevent, namedTenant, Option.filter_some, if_pos (by simpa using htenant)]
  simp only [deliver, applyStripeEvent, hnamed, Option.map_some]
  rw [putStoredSubscription_getElem]
  exact if_pos rfl

/-- The record is that of the last delivery. -/
theorem deliver_last (htenant : tenant ≠ "") (store : SubscriptionStore)
    (deliveries : List Delivery) {last : Delivery}
    (hevent : last.event.sub.tenantNamespace = some tenant) :
    (run deliver store (deliveries ++ [last]))[tenant]? =
      some (subscriptionRecord last.event.id last.event.kind last.event.sub tenant last.now) := by
  rw [run_append]
  exact deliver_getElem htenant _ hevent

/-! ## Convergence -/

/-- No other event of the list was created later. -/
def CreatedLast (events : List SubscriptionEvent) (latest : SubscriptionEvent) : Prop :=
  latest ∈ events ∧ ∀ event ∈ events, event.created ≤ latest.created

instance (events : List SubscriptionEvent) : DecidablePred (CreatedLast events) := fun latest => by
  unfold CreatedLast; infer_instance

/-- The stored record has the status and the price of the event created last. -/
def Converges (tenant : String) (events : List SubscriptionEvent) (store : SubscriptionStore) :
    Prop :=
  ∀ latest, CreatedLast events latest → ∃ record ∈ store[tenant]?,
    record.status = latest.status ∧ record.priceId = latest.priceId

/-- For the events of one tenant, each delivered at least once in any order, the store converges
exactly when the last delivery reports the status and the price of the event created last. -/
theorem converges_iff (htenant : tenant ≠ "") (store : SubscriptionStore)
    {events : List SubscriptionEvent} {deliveries : List Delivery} {last : Delivery}
    (hevents : ∀ event ∈ events, event.sub.tenantNamespace = some tenant)
    (hdelivered : ∀ event, event ∈ events ↔ event ∈ (deliveries ++ [last]).map (·.event)) :
    Converges tenant events (run deliver store (deliveries ++ [last])) ↔
      ∀ latest, CreatedLast events latest →
        last.event.status = latest.status ∧ last.event.priceId = latest.priceId := by
  have hlast : last.event ∈ events := by
    rw [hdelivered, List.map_append]
    exact List.mem_append_right _ (List.mem_singleton_self _)
  have hstored := deliver_last htenant store deliveries (hevents last.event hlast)
  unfold Converges
  rw [hstored]
  refine forall₂_congr fun latest _ => ?_
  constructor
  · rintro ⟨record, hrecord, hsame⟩
    obtain rfl := Option.some.inj hrecord
    exact hsame
  · intro hsame
    exact ⟨_, rfl, hsame⟩

/-- An event of the tenant `gymact`, on the price `price_1`. -/
def gymactEvent (id : String) (created : ℤ) (kind : String) (status : SubscriptionStatus) :
    SubscriptionEvent where
  id
  created
  kind
  sub :=
    { id := "sub_1", customer := "cus_1", tenantNamespace := some "gymact", status
      currency := "usd"
      items :=
        [{ id := "si_1", priceId := some "price_1", unitAmount := none, quantity := none
           currentPeriodEnd := none }] }

/-- The update is delivered before and after the deletion, and the deletion again at the end. -/
theorem converges_deletion_last :
    let updated := gymactEvent "evt_1" 1 "updated" .active
    let deleted := gymactEvent "evt_2" 2 "deleted" .canceled
    let deliveries : List Delivery := [⟨updated, 10⟩, ⟨deleted, 11⟩, ⟨updated, 12⟩]
    Converges "gymact" [updated, deleted] (run deliver ∅ (deliveries ++ [⟨deleted, 13⟩])) := by
  intro updated deleted deliveries
  refine (converges_iff (by decide) ∅ (by decide) ?_).mpr ?_
  · intro event
    show event ∈ [updated, deleted] ↔ event ∈ [updated, deleted, updated, deleted]
    simp only [List.mem_cons, List.not_mem_nil, or_false]
    tauto
  · rintro latest ⟨hmem, hlatest⟩
    have hcreated := hlatest deleted (by simp)
    rcases List.mem_cons.mp hmem with rfl | hmem
    · exact absurd hcreated (by decide)
    · obtain rfl := List.mem_singleton.mp hmem
      exact ⟨rfl, rfl⟩

/-- An update that is redelivered after the deletion makes the tenant active again. -/
theorem redelivered_update_reactivates :
    let updated := gymactEvent "evt_1" 1 "updated" .active
    let deleted := gymactEvent "evt_2" 2 "deleted" .canceled
    let store := run deliver ∅ [⟨updated, 10⟩, ⟨deleted, 11⟩, ⟨updated, 12⟩]
    ¬ Converges "gymact" [updated, deleted] store ∧
    store["gymact"]?.map (fun record => mapStripeStatusToPlanState record.status) =
      some .active := by
  intro updated deleted store
  have hstatus : store["gymact"]?.map (·.status) = some .active := by decide +kernel
  refine ⟨fun h => ?_, by decide +kernel⟩
  obtain ⟨record, hrecord, hsame, -⟩ := h deleted (by decide)
  rw [show store["gymact"]? = some record from hrecord] at hstatus
  have hactive : record.status = .active := Option.some.inj hstatus
  rw [hsame] at hactive
  exact absurd hactive (by decide)

end ChatmanEcosystem.Console
