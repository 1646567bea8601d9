import ChatmanEcosystem.Console.Subscriptions

/-!
# One live subscription

Any interleaving of any number of calls for a tenant, and any changes of status
at Stripe. The stored status decides whether a plan change swaps or creates, and
an onboarding always creates.

Results:

* `Phase.resume_cases`: the ways a call goes on.
* `hold_next`: what a step preserves when it is `Undisturbed`.
* `oneLive_of_undisturbed`: in every run whose steps are all undisturbed, at most one of the
  subscriptions is not canceled.
-/

namespace ChatmanEcosystem.Console.Subscriptions

open Common Common.Concurrent

/-! ## The property and the condition -/

/-- At most one subscription is not canceled. -/
def OneLive (billing : Billing) : Prop :=
  (billing.subscriptions.filter fun sub => sub.status ≠ .canceled).length ≤ 1

instance : DecidablePred OneLive := fun billing => by
  unfold OneLive; infer_instance

/-- The store names no subscription of the tenant, or a canceled one. -/
def StoredCanceled (tenant : String) (billing : Billing) : Prop :=
  ∀ record ∈ billing.store[tenant]?, record.status = .canceled

instance (tenant : String) : DecidablePred (StoredCanceled tenant) := fun billing => by
  unfold StoredCanceled; infer_instance

/-- The call has created a subscription, and has not stored its record. -/
def Phase.owes : Phase → Bool
  | .write (.created _) _ => true
  | _ => false

/-- A call that stands at `phase` may go on with the answer. -/
def Phase.Undisturbed (tenant : String) (system : System Billing Phase) (phase : Phase)
    (answer : Answer) : Prop :=
  match phase, answer with
  | .create _ _ _, .create (.ok _) _ =>
    StoredCanceled tenant system.shared ∧ ∀ call ∈ system.calls, call.owes = false
  | .write pending _, .write (.error _) => ∀ change, pending ≠ .created change
  | .write _ record, .write (.ok ()) =>
    record.tenantNamespace = tenant → record.status = .canceled →
      record.stripeSubscriptionId = system.shared.subscriptions.head?.map (·.id)
  | _, _ => True

instance (pending : Pending) : Decidable (∀ change, pending ≠ .created change) :=
  decidable_of_iff (pending ≠ .created false ∧ pending ≠ .created true)
    ⟨fun h change => by cases change; exacts [h.1, h.2], fun h => ⟨h _, h _⟩⟩

instance (tenant : String) (system : System Billing Phase) (phase : Phase) (answer : Answer) :
    Decidable (phase.Undisturbed tenant system answer) := by
  unfold Phase.Undisturbed; split <;> infer_instance

/-- A subscription is created only while the store names none or a canceled one and no other call
has created one whose record is not stored yet; the write of such a record does not fail; and a
record that says `canceled` is stored only if it is of the newest subscription. -/
def Undisturbed (tenant : String) (system : System Billing Phase) :
    Event Request Answer StatusChange → Prop
  | .answer i answer => ∀ phase ∈ system.calls[i]?, phase.Undisturbed tenant system answer
  | .call _ | .move _ => True

instance (tenant : String) (system : System Billing Phase)
    (event : Event Request Answer StatusChange) : Decidable (Undisturbed tenant system event) := by
  unfold Undisturbed; split <;> infer_instance

/-! ## How a call goes on -/

/-- The subscription of a record is canceled, if the record says so. -/
def Truthful (billing : Billing) (record : StoredSubscription) : Prop :=
  record.status = .canceled → ∃ id, record.stripeSubscriptionId = some id ∧ billing.Canceled id

/-- What is known of a call: it writes truthful records, a created one is of the tenant and not
canceled, and an invoice event is not the event of a subscription. -/
structure Phase.Sound (tenant : String) (billing : Billing) (phase : Phase) : Prop where
  truthful : ∀ pending record, phase = .write pending record → record.tenantNamespace = tenant →
    Truthful billing record
  created : ∀ change record, phase = .write (.created change) record →
    record.tenantNamespace = tenant ∧ record.status ≠ .canceled
  payment : ∀ event now, phase = .payment event now →
    ∀ id created kind sub, event ≠ .subscription id created kind sub

/-- A call without a created subscription to store. -/
structure Phase.Quiet (tenant : String) (billing : Billing) (phase : Phase) : Prop where
  owes : phase.owes = false
  sound : phase.Sound tenant billing

/-- A phase that writes nothing. -/
theorem Phase.Quiet.of_ne {tenant : String} {billing : Billing} {phase : Phase}
    (hwrite : ∀ pending record, phase ≠ .write pending record)
    (hpayment : ∀ event now, phase ≠ .payment event now) : Phase.Quiet tenant billing phase where
  owes := by
    cases phase with
    | write pending record => exact absurd rfl (hwrite pending record)
    | _ => rfl
  sound :=
    { truthful := fun pending record hphase => absurd hphase (hwrite pending record)
      created := fun change record hphase => absurd hphase (hwrite _ record)
      payment := fun event now hphase => absurd hphase (hpayment event now) }

theorem Phase.Quiet.done {tenant : String} {billing : Billing} (outcome : Outcome) :
    Phase.Quiet tenant billing (.done outcome) :=
  .of_ne (fun _ _ h => (by cases h)) fun _ _ h => (by cases h)

/-- A phase that writes a truthful record of no created subscription. -/
theorem Phase.Quiet.write {tenant : String} {billing : Billing} {pending : Pending}
    {record : StoredSubscription} (hpending : ∀ change, pending ≠ .created change)
    (h : record.tenantNamespace = tenant → Truthful billing record) :
    Phase.Quiet tenant billing (.write pending record) where
  owes := by
    cases pending with
    | created change => exact absurd rfl (hpending change)
    | _ => rfl
  sound :=
    { truthful := fun _ _ hphase => by
        cases hphase
        exact h
      created := fun change _ hphase => by
        cases hphase
        exact absurd rfl (hpending change)
      payment := fun _ _ hphase => (by cases hphase) }

/-- The record of an event is truthful, if the event is and the stored records are. -/
theorem Phase.quiet_ofEvent {tenant : String} {billing : Billing}
    {result : K8sResult (Option StoredSubscription)}
    (h : ∀ record, result = .ok (some record) → record.tenantNamespace = tenant →
      Truthful billing record) : Phase.Quiet tenant billing (Phase.ofEvent result) := by
  rcases result with error | _ | record
  · exact .done _
  · exact .done _
  · exact .write (fun _ hpending => (by cases hpending)) (h record rfl)

variable {id kind : String} {now : ℤ}

/-- What an event stores of a subscription that Stripe reports is truthful. -/
theorem truthful_subscriptionRecord {tenant other : String} {billing : Billing} {created : ℤ}
    {sub : Subscription} (hsent : Phase.Sent tenant billing (.subscription id created kind sub))
    (hnamed : namedTenant sub.tenantNamespace = some other) (hother : other = tenant) :
    Truthful billing (subscriptionRecord id kind sub other now) := by
  intro hstatus
  exact ⟨sub.id, rfl, hsent (by rw [hnamed, hother]) hstatus⟩

/-- What an event stores of an invoice is truthful if the stored record is. -/
theorem truthful_paymentRecord {billing : Billing} {existing : StoredSubscription}
    (h : Truthful billing existing) :
    Truthful billing (paymentRecord id kind existing now) := by
  intro hstatus
  refine h ?_
  rw [paymentRecord] at hstatus
  split_ifs at hstatus with hkind
  exact hstatus

/-- A call begins without a created subscription. -/
theorem Phase.quiet_enter (tenant : String) (credentials : Bool) (billing : Billing)
    (request : Request) :
    Phase.Quiet tenant billing (Phase.enter tenant credentials billing request) := by
  cases request with
  | ensure order =>
    simp only [Phase.enter]
    split_ifs
    · exact .of_ne (fun _ _ hphase => (by cases hphase)) fun _ _ hphase => (by cases hphase)
    · exact .done _
  | change order =>
    simp only [Phase.enter]
    split_ifs
    · exact .of_ne (fun _ _ hphase => (by cases hphase)) fun _ _ hphase => (by cases hphase)
    · exact .done _
  | event event now =>
    cases event with
    | payment id created kind tenantNamespace =>
      refine ⟨rfl, fun _ _ hphase => (by cases hphase), fun _ _ hphase => (by cases hphase), ?_⟩
      intro event now hphase id created kind sub hevent
      cases hphase
      cases hevent
    | other id created type =>
      simp only [Phase.enter]
      split_ifs <;> exact .done _
    | subscription id created kind sub =>
      simp only [Phase.enter]
      split_ifs with hsent
      · refine Phase.quiet_ofEvent fun record hrecord htenant => ?_
        obtain ⟨other, hnamed, rfl⟩ := Option.map_eq_some_iff.mp (Except.ok.inj hrecord)
        exact truthful_subscriptionRecord hsent hnamed htenant
      · exact .done _

/-- A read of the store finds records of their own tenant. -/
def OwnTenant (store : SubscriptionStore) : Prop :=
  ∀ (tenant : String) record, store[tenant]? = some record → record.tenantNamespace = tenant

/-- An invoice event goes on with a truthful record. -/
theorem Phase.quiet_payment {tenant : String} {billing : Billing} {event : StripeEvent}
    {read : K8sResult Unit} (hpayment : ∀ id created kind sub,
    event ≠ .subscription id created kind sub) (hown : OwnTenant billing.store)
    (hstored : ∀ record ∈ billing.store[tenant]?, Truthful billing record) :
    Phase.Quiet tenant billing
      (Phase.ofEvent (applyStripeEvent event (read.map fun _ => some billing.store) now)) := by
  refine Phase.quiet_ofEvent fun record hrecord htenant => ?_
  cases event with
  | subscription id created kind sub => exact absurd rfl (hpayment id created kind sub)
  | other id created type => cases Except.ok.inj hrecord
  | payment id created kind tenantNamespace =>
    simp only [applyStripeEvent] at hrecord
    split at hrecord
    · cases Except.ok.inj hrecord
    · rename_i other _
      cases read with
      | error error => cases hrecord
      | ok _ =>
        obtain ⟨existing, hexisting, rfl⟩ := Option.map_eq_some_iff.mp (Except.ok.inj hrecord)
        have hother : existing.tenantNamespace = other := hown other existing hexisting
        have hsame : other = tenant := hother.symm.trans htenant
        exact truthful_paymentRecord (hstored existing (hsame ▸ hexisting))

theorem Phase.quiet_ofStored (tenant : String) (billing : Billing) (change : Bool) (order : Order)
    (stored : Option StoredSubscription) :
    (Phase.ofStored change order stored).Quiet tenant billing := by
  unfold Phase.ofStored
  split <;> exact .of_ne (fun _ _ h => (by cases h)) fun _ _ h => (by cases h)

theorem Phase.quiet_ofPlan (tenant : String) (billing : Billing) (order : Order)
    (stored : Option StoredSubscription) : (Phase.ofPlan order stored).Quiet tenant billing := by
  unfold Phase.ofPlan
  split <;> exact .of_ne (fun _ _ h => (by cases h)) fun _ _ h => (by cases h)

theorem Phase.quiet_ofRetrieved (tenant : String) (billing : Billing) (order : Order)
    (stored : StoredSubscription) (subscriptionId : String) (current : Subscription) :
    (Phase.ofRetrieved order stored subscriptionId current).Quiet tenant billing := by
  unfold Phase.ofRetrieved
  split
  · exact .of_ne (fun _ _ h => (by cases h)) fun _ _ h => (by cases h)
  · exact .done _

/-- A write is the last of a call, or a checkout follows. -/
theorem Phase.quiet_written {tenant : String} (pending : Pending) (record : StoredSubscription)
    (result : K8sResult Unit) (billing : Billing) :
    (Phase.written pending record result).Quiet tenant billing := by
  unfold Phase.written
  split
  case h_2 => exact .of_ne (fun _ _ h => (by cases h)) fun _ _ h => (by cases h)
  all_goals exact .done _

/-! ## The invariant -/

/-- What is known of the store and of Stripe: the subscriptions have different ids and all but the
newest are canceled, and the stored records are truthful. -/
structure Billing.Sound (tenant : String) (billing : Billing) : Prop where
  tail : ∀ sub ∈ billing.subscriptions.tail, sub.status = .canceled
  ids : (billing.subscriptions.map (·.id)).Nodup
  own : OwnTenant billing.store
  stored : ∀ record ∈ billing.store[tenant]?, Truthful billing record

/-- No subscription is live if the store names none or a canceled one. -/
def Settled (tenant : String) (billing : Billing) : Prop :=
  StoredCanceled tenant billing → ∀ sub ∈ billing.subscriptions, sub.status = .canceled

/-- The store tells of the newest subscription, or a call has yet to store its record. -/
def assertions (tenant : String) : Assertions Billing Phase Unit where
  shared := Billing.Sound tenant
  call := Phase.Sound tenant
  settled _ := Settled tenant
  owes _ _ phase := phase.owes = true

/-- The ways a call goes on. -/
theorem Phase.resume_cases {tenant : String} {billing : Billing} {phase : Phase} {answer : Answer}
    {after : Phase × Billing} (h : Phase.resume tenant billing phase answer = some after)
    (hbilling : billing.Sound tenant) (hphase : phase.Sound tenant billing) :
    (phase.owes = false ∧ after.1.Quiet tenant billing ∧ after.2 = billing) ∨
    -- Stripe creates a subscription
    (∃ change order customerId sub now, phase = .create change order customerId ∧
      answer = .create (.ok sub) now ∧ sub.status = .incomplete ∧
      sub.id ∉ billing.subscriptions.map (·.id) ∧
      after = (.write (.created change) (createdRecord tenant customerId order.priceId sub now),
        { billing with
          subscriptions := { id := sub.id, status := .incomplete } :: billing.subscriptions })) ∨
    -- a record is stored, or the write fails
    ∃ pending record outcome, phase = .write pending record ∧
      ((∃ error, answer = .write (.error error) ∧ after = (outcome, billing)) ∨
        (answer = .write (.ok ()) ∧ after = (outcome,
          { billing with store := putStoredSubscription billing.store record }))) ∧
      ∀ billing, outcome.Quiet tenant billing := by
  unfold Phase.resume at h
  split at h
  · -- `ensureRead` fails
    obtain rfl := Option.some.inj h
    exact .inl ⟨rfl, .done _, rfl⟩
  · obtain rfl := Option.some.inj h
    refine .inl ⟨rfl, ?_, rfl⟩
    exact Phase.quiet_ofStored ..
  · obtain rfl := Option.some.inj h
    exact .inl ⟨rfl, .done _, rfl⟩
  · -- `customer`
    obtain rfl := Option.some.inj h
    exact .inl ⟨rfl, .of_ne (fun _ _ h => (by cases h)) fun _ _ h => (by cases h), rfl⟩
  · obtain rfl := Option.some.inj h
    exact .inl ⟨rfl, .done _, rfl⟩
  · -- `create`
    split_ifs at h with hcreated
    exact .inr (.inl ⟨_, _, _, _, _, rfl, rfl, hcreated.1, hcreated.2, (Option.some.inj h).symm⟩)
  · obtain rfl := Option.some.inj h
    exact .inl ⟨rfl, .done _, rfl⟩
  · -- `changeRead`
    obtain rfl := Option.some.inj h
    exact .inl ⟨rfl, Phase.quiet_ofPlan .., rfl⟩
  · obtain rfl := Option.some.inj h
    exact .inl ⟨rfl, .done _, rfl⟩
  · -- `retrieve`
    obtain rfl := Option.some.inj h
    exact .inl ⟨rfl, Phase.quiet_ofRetrieved .., rfl⟩
  · obtain rfl := Option.some.inj h
    exact .inl ⟨rfl, .done _, rfl⟩
  · -- `update`: Stripe does not update a canceled subscription
    split_ifs at h with hupdated
    obtain rfl := Option.some.inj h
    refine .inl ⟨rfl, .write (fun _ hpending => (by cases hpending)) fun _ hstatus => ?_, rfl⟩
    exact absurd hstatus hupdated.2.1
  · -- `payment`
    obtain rfl := Option.some.inj h
    exact .inl ⟨rfl, Phase.quiet_payment (hphase.payment _ _ rfl) hbilling.own hbilling.stored, rfl⟩
  · -- `write`
    rename_i pending record result
    obtain rfl := Option.some.inj h
    refine .inr (.inr ⟨pending, record, _, rfl, ?_, Phase.quiet_written pending record result⟩)
    rcases result with error | _
    · exact .inl ⟨error, rfl, rfl⟩
    · exact .inr ⟨rfl, rfl⟩
  · -- `checkout`
    obtain rfl := Option.some.inj h
    exact .inl ⟨rfl, .done _, rfl⟩
  · cases h

/-! ## What an undisturbed step preserves -/

section

variable {tenant : String} {billing next : Billing}

variable {record : StoredSubscription}

theorem Truthful.mono (hcanceled : ∀ id, billing.Canceled id → next.Canceled id)
    (h : Truthful billing record) : Truthful next record := by
  intro hstatus
  obtain ⟨id, hid, hcanceledId⟩ := h hstatus
  exact ⟨id, hid, hcanceled id hcanceledId⟩

/-- What is known of a call stays known, as canceled subscriptions stay canceled. -/
theorem Phase.Sound.mono (hcanceled : ∀ id, billing.Canceled id → next.Canceled id) {phase : Phase}
    (h : phase.Sound tenant billing) : phase.Sound tenant next where
  truthful pending record hphase htenant :=
    (h.truthful pending record hphase htenant).mono hcanceled
  created := h.created
  payment := h.payment

theorem spares_of_canceled (hcanceled : ∀ id, billing.Canceled id → next.Canceled id)
    (phase : Phase) : (assertions tenant).Spares billing next phase :=
  ⟨fun h => h.mono hcanceled, fun _ howes => .inr howes⟩

variable {id : String}

/-- A created subscription is the newest. -/
theorem Billing.Sound.create (h : billing.Sound tenant)
    (hid : id ∉ billing.subscriptions.map (·.id))
    (hall : ∀ sub ∈ billing.subscriptions, sub.status = .canceled) :
    Billing.Sound tenant { billing with
      subscriptions := { id, status := .incomplete } :: billing.subscriptions } where
  tail := hall
  ids := List.nodup_cons.mpr ⟨hid, h.ids⟩
  own := h.own
  stored record hrecord := (h.stored record hrecord).mono fun _ hcanceled => by
    obtain ⟨sub, hsub, hstatus⟩ := hcanceled
    exact ⟨sub, List.mem_cons_of_mem _ hsub, hstatus⟩

/-- A truthful record is stored. -/
theorem Billing.Sound.put (h : billing.Sound tenant)
    (hrecord : record.tenantNamespace = tenant → Truthful billing record) :
    Billing.Sound tenant
      { billing with store := putStoredSubscription billing.store record } where
  tail := h.tail
  ids := h.ids
  own other found hfound := by
    rw [putStoredSubscription_getElem] at hfound
    split_ifs at hfound with hother
    · exact Option.some.inj hfound ▸ hother
    · exact h.own other found hfound
  stored found hfound := by
    have hget := Option.mem_def.mp hfound
    rw [putStoredSubscription_getElem] at hget
    split_ifs at hget with htenant
    · exact Option.some.inj hget ▸ hrecord htenant
    · exact h.stored found hget

/-- Only the newest subscription may be live, so none is if that one is canceled. -/
theorem Billing.Sound.all_canceled (h : billing.Sound tenant)
    (hhead : billing.subscriptions.head?.map (·.id) = some id) (hcanceled : billing.Canceled id) :
    ∀ sub ∈ billing.subscriptions, sub.status = .canceled := by
  obtain ⟨newest, hnewest, rfl⟩ := Option.map_eq_some_iff.mp hhead
  obtain ⟨rest, hsubs⟩ : ∃ rest, billing.subscriptions = newest :: rest :=
    ⟨_, (List.cons_head?_tail hnewest).symm⟩
  obtain ⟨sub, hsub, hid, hstatus⟩ := hcanceled
  have htail : ∀ sub ∈ rest, sub.status = .canceled := by
    have := h.tail
    rwa [hsubs] at this
  have hids : newest.id ∉ rest.map (·.id) := by
    have := h.ids
    rw [hsubs] at this
    exact (List.nodup_cons.mp this).1
  rw [hsubs] at hsub ⊢
  have hsame : sub = newest := by
    rcases List.mem_cons.mp hsub with hsub | hsub
    · exact hsub
    · exact absurd (hid ▸ List.mem_map_of_mem hsub) hids
  exact List.forall_mem_cons.mpr ⟨hsame ▸ hstatus, htail⟩

/-- After a write that says `canceled` of the newest subscription only, the store tells of it. -/
theorem Settled.put (hsound : billing.Sound tenant)
    (hsettled : Settled tenant billing ∨ record.tenantNamespace = tenant)
    (hrecord : record.tenantNamespace = tenant → Truthful billing record)
    (hnewest : record.tenantNamespace = tenant → record.status = .canceled →
      record.stripeSubscriptionId = billing.subscriptions.head?.map (·.id)) :
    Settled tenant { billing with store := putStoredSubscription billing.store record } := by
  intro hstored
  by_cases htenant : record.tenantNamespace = tenant
  · have hstatus : record.status = .canceled :=
      hstored record (by rw [putStoredSubscription_getElem, if_pos htenant]; rfl)
    obtain ⟨id, hid, hcanceled⟩ := hrecord htenant hstatus
    exact hsound.all_canceled ((hnewest htenant hstatus).symm.trans hid) hcanceled
  · refine hsettled.resolve_right htenant fun found hfound => hstored found ?_
    rw [putStoredSubscription_getElem, if_neg htenant]
    exact hfound

/-! ### A change of status at Stripe -/

theorem Created.change_id (change : StatusChange) (sub : Created) :
    (sub.change change).id = sub.id := by
  unfold Created.change
  split_ifs <;> rfl

theorem Created.change_canceled (change : StatusChange) {sub : Created}
    (h : sub.status = .canceled) : (sub.change change).status = .canceled := by
  rw [Created.change, if_neg fun hchange => hchange.2 h]
  exact h

theorem Billing.Canceled.move (h : billing.Canceled id) (change : StatusChange) :
    Billing.Canceled
      { billing with subscriptions := billing.subscriptions.map (Created.change change) } id := by
  obtain ⟨sub, hsub, hid, hstatus⟩ := h
  exact ⟨sub.change change, List.mem_map_of_mem hsub, (Created.change_id change sub).trans hid,
    Created.change_canceled change hstatus⟩

theorem Billing.Sound.move (h : billing.Sound tenant) (change : StatusChange) :
    Billing.Sound tenant
      { billing with subscriptions := billing.subscriptions.map (Created.change change) } where
  tail sub hsub := by
    rw [← List.map_tail] at hsub
    obtain ⟨old, hold, rfl⟩ := List.mem_map.mp hsub
    exact Created.change_canceled change (h.tail old hold)
  ids := by
    show ((billing.subscriptions.map (Created.change change)).map (·.id)).Nodup
    rw [List.map_map, show (·.id) ∘ Created.change change = (·.id) from
      funext (Created.change_id change)]
    exact h.ids
  own := h.own
  stored record hrecord := (h.stored record hrecord).mono fun _ hcanceled => hcanceled.move change

theorem Settled.move (h : Settled tenant billing) (change : StatusChange) :
    Settled tenant
      { billing with subscriptions := billing.subscriptions.map (Created.change change) } := by
  intro hstored sub hsub
  obtain ⟨old, hold, rfl⟩ := List.mem_map.mp hsub
  exact Created.change_canceled change (h hstored old hold)

/-! ### The step -/

/-- An undisturbed answer keeps the assertions. -/
theorem hold_answer {system : System Billing Phase} {i : ℕ} {answer : Answer} {phase : Phase}
    {after : Phase × Billing} (h : (assertions tenant).Hold system)
    (hundisturbed : phase.Undisturbed tenant system answer)
    (hcall : system.calls[i]? = some phase)
    (hresume : Phase.resume tenant system.shared phase answer = some after) :
    (assertions tenant).Hold { shared := after.2, calls := system.calls.set i after.1 } := by
  have hsound : phase.Sound tenant system.shared := h.call i phase hcall
  rcases Phase.resume_cases hresume h.shared hsound with ⟨howes, hquiet, hbilling⟩ |
    ⟨change, order, customerId, sub, now, rfl, rfl, hstatus, hfresh, rfl⟩ |
    ⟨pending, record, outcome, rfl, hwrite, hquiet⟩
  · rw [hbilling]
    refine h.goesOn hcall hquiet.sound (fun _ _ _ _ => trivial) fun _ hk => ?_
    cases howes.symm.trans hk
  · obtain ⟨hstored, hothers⟩ := hundisturbed
    have hall : ∀ sub ∈ system.shared.subscriptions, sub.status = .canceled := by
      rcases h.accounted () with hsettled | ⟨j, call, hj, howes⟩
      · exact hsettled hstored
      · cases (hothers call (List.mem_of_getElem? hj)).symm.trans howes
    refine h.resume hcall (h.shared.create hfresh hall) ?_ (fun _ _ _ _ => trivial)
      (fun _ call _ _ => spares_of_canceled ?_ call) fun _ _ => .inr rfl
    · have hlive : (createdRecord tenant customerId order.priceId sub now).status ≠ .canceled := by
        rw [createdRecord, hstatus]
        exact fun h => (by cases h)
      refine ⟨fun _ _ hphase _ hcanceled => ?_, fun _ _ hphase => ?_,
        fun _ _ hphase => (by cases hphase)⟩
      · cases hphase
        exact absurd hcanceled hlive
      · cases hphase
        exact ⟨rfl, hlive⟩
    · rintro id ⟨old, hold, hcanceled⟩
      exact ⟨old, List.mem_cons_of_mem _ hold, hcanceled⟩
  · have hrecord := hsound.truthful pending record rfl
    rcases hwrite with ⟨error, rfl, rfl⟩ | ⟨rfl, rfl⟩
    · refine h.goesOn hcall (hquiet _).sound (fun _ _ _ _ => trivial) fun _ howes => ?_
      cases pending with
      | created change => exact absurd rfl (hundisturbed change)
      | swapped _ => cases howes
      | event => cases howes
    · refine h.resume hcall (h.shared.put hrecord) (hquiet _).sound (fun _ _ _ _ => trivial)
        (fun _ call _ _ => spares_of_canceled ?_ call) fun _ hk =>
          .inl (Settled.put h.shared (hk.imp_right fun howes => ?_) hrecord hundisturbed)
      · exact fun _ hcanceled => hcanceled
      · cases pending with
        | created change => exact (hsound.created change record rfl).1
        | swapped _ => cases howes
        | event => cases howes

/-- An undisturbed step keeps the assertions. -/
theorem hold_next (credentials : Bool) (system : System Billing Phase)
    (event : Event Request Answer StatusChange) (h : (assertions tenant).Hold system)
    (hundisturbed : Undisturbed tenant system event) :
    (assertions tenant).Hold ((program tenant credentials).next system event) := by
  refine Assertions.hold_next (C := Undisturbed tenant) ?_ ?_ ?_ system event h hundisturbed
  · intro system request h _
    exact h.enter h.shared (Phase.quiet_enter tenant credentials system.shared request).sound
      (fun _ _ _ => trivial) (fun _ _ _ => .refl _ _ _) fun _ => .inl
  · intro system i answer phase after h hundisturbed hcall hresume
    exact hold_answer h (hundisturbed phase hcall) hcall hresume
  · intro system change h _
    exact h.move (h.shared.move change)
      (fun _ call _ => spares_of_canceled (fun _ hcanceled => hcanceled.move change) call)
      fun _ hsettled => hsettled.move change

/-- Before the first call nothing is stored, and nothing is created. -/
theorem hold_init (tenant : String) : (assertions tenant).Hold init where
  shared :=
    { tail := fun _ hsub => (by cases hsub)
      ids := List.nodup_nil
      own := fun _ _ hfound => (by cases hfound)
      stored := fun _ hrecord => (by cases hrecord) }
  call _ _ hcall := (by cases hcall)
  apart _ _ _ _ _ hcall := (by cases hcall)
  accounted _ := .inl fun _ _ hsub => (by cases hsub)

theorem Billing.Sound.oneLive (h : billing.Sound tenant) : OneLive billing := by
  unfold OneLive
  cases hsubs : billing.subscriptions with
  | nil => exact Nat.zero_le _
  | cons newest rest =>
    have hrest : rest.filter (fun sub => sub.status ≠ .canceled) = [] := by
      refine List.filter_eq_nil_iff.mpr fun sub hsub => ?_
      have htail := h.tail
      rw [hsubs] at htail
      simp [htail sub hsub]
    rw [List.filter_cons, hrest]
    split_ifs <;> simp

end

/-! ## Runs -/

/-- In every run whose steps are all undisturbed, at most one of the subscriptions created for the
tenant is not canceled. -/
theorem oneLive_of_undisturbed (tenant : String) (credentials : Bool)
    (events : List (Event Request Answer StatusChange))
    (h : Along (program tenant credentials).next (Undisturbed tenant) init events) :
    Always (program tenant credentials).next (fun system => OneLive system.shared) init events := by
  have hhold : Always (program tenant credentials).next (assertions tenant).Hold init events :=
    always_of_along (hold_next credentials) (hold_init tenant) h
  exact hhold.mono fun system hhold => hhold.shared.oneLive

/-- A subscription of the tenant `gymact` as Stripe sends it. -/
def sent (id : String) (status : SubscriptionStatus) : Subscription where
  id
  customer := "cus_1"
  tenantNamespace := some "gymact"
  status
  currency := "usd"
  items := [{ id := "si_1", priceId := some "price_1", unitAmount := some 4900, quantity := some 1,
              currentPeriodEnd := none }]

/-- The plan that the tenant orders. -/
def order : Order := { email := "ops@gymact.test", priceId := "price_1" }

/-- A plan change up to the call of `subscriptions.create`, of a tenant without a customer. -/
def checksOut (i : ℕ) : List (Event Request Answer StatusChange) :=
  [.answer i (.read (.ok ())), .answer i (.read (.ok ())), .answer i (.customer (.ok "cus_1"))]

/-- Stripe creates a subscription, and its record is written. -/
def creates (i : ℕ) (id : String) (write : K8sResult Unit) :
    List (Event Request Answer StatusChange) :=
  [.answer i (.create (.ok (sent id .incomplete)) 0), .answer i (.write write),
    .answer i (.checkout (.ok "https://checkout.stripe.test"))]

/-- A subscription gets a new status, and its event is stored. -/
def reports (i : ℕ) (id kind : String) (status : SubscriptionStatus) :
    List (Event Request Answer StatusChange) :=
  [.move { id, status }, .call (.event (.subscription "evt" 0 kind (sent id status)) 0),
    .answer i (.write (.ok ()))]

/-- A subscription that is created, activated, swapped and canceled, and then another one. -/
theorem oneLive_resubscribed :
    let events := [.call (.change order)] ++ checksOut 0 ++ creates 0 "sub_1" (.ok ()) ++
      reports 1 "sub_1" "updated" .active ++
      [.call (.change order), .answer 2 (.read (.ok ())),
        .answer 2 (.retrieve (.ok (sent "sub_1" .active))),
        .answer 2 (.update (.ok (sent "sub_1" .active)) 0), .answer 2 (.write (.ok ()))] ++
      reports 3 "sub_1" "deleted" .canceled ++
      [.call (.change order), .answer 4 (.read (.ok ())), .answer 4 (.read (.ok ()))] ++
      creates 4 "sub_2" (.ok ())
    (run (program "gymact" true).next init events).shared.subscriptions =
      [{ id := "sub_2", status := .incomplete }, { id := "sub_1", status := .canceled }] ∧
    Always (program "gymact" true).next (fun system => OneLive system.shared) init events := by
  intro events
  exact ⟨by decide +kernel, oneLive_of_undisturbed "gymact" true events (by decide +kernel)⟩

/-- Two subscriptions are live after a second plan change while the first checkout is still open,
after an onboarding of a tenant with an active subscription, after two plan changes that overlap,
and after one whose record was not written and its retry. -/
theorem two_subscriptions_live :
    let repeated := [.call (.change order)] ++ checksOut 0 ++ creates 0 "sub_1" (.ok ()) ++
      [.call (.change order), .answer 1 (.read (.ok ())), .answer 1 (.read (.ok ()))] ++
      creates 1 "sub_2" (.ok ())
    let onboarded := [.call (.change order)] ++ checksOut 0 ++ creates 0 "sub_1" (.ok ()) ++
      reports 1 "sub_1" "updated" .active ++ [.call (.ensure order), .answer 2 (.read (.ok ()))] ++
      creates 2 "sub_2" (.ok ())
    let overlapping := [.call (.change order), .call (.change order)] ++ checksOut 0 ++
      checksOut 1 ++ creates 0 "sub_1" (.ok ()) ++ creates 1 "sub_2" (.ok ())
    let unwritten := [.call (.change order)] ++ checksOut 0 ++
      creates 0 "sub_1" (.error "timeout") ++
      [.call (.change order)] ++ checksOut 1 ++ creates 1 "sub_2" (.ok ())
    ∀ events ∈ [repeated, onboarded, overlapping, unwritten],
      ¬ Always (program "gymact" true).next (fun system => OneLive system.shared) init events := by
  intro repeated onboarded overlapping unwritten events hevents h
  have hfinal : OneLive (run (program "gymact" true).next init events).shared :=
    always_iff.mp h events [] (List.append_nil _).symm
  have hnot : ∀ events ∈ [repeated, onboarded, overlapping, unwritten],
      ¬ OneLive (run (program "gymact" true).next init events).shared := by
    decide +kernel
  exact hnot events hevents hfinal

end ChatmanEcosystem.Console.Subscriptions
