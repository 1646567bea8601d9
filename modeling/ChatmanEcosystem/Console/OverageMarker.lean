import ChatmanEcosystem.Common.Run
import ChatmanEcosystem.Console.OverageBilling

/-!
# How long a namespace counts as billed

Runs of whole calls, ticks of the poller and charges, at any times. A tick
rewrites the stored record with the present window and carries the marker of the
last invoice item over when the window of the record it rewrites is less than a
window's width away. The marker is compared with the tick before, and not with
the window that was charged, so it stands as long as ticks follow each other
closely enough.

Results:

* `bill_cases`: what a charge does to the store and to Stripe.
* `createsItem_iff_lapses`: a charge creates an invoice item exactly when the marker has lapsed,
  whose condition is on the times of the calls since the last item.
-/

namespace ChatmanEcosystem.Console.Overage

open Common Rust

/-- A call with the answers it gets. -/
inductive Call
  | recompute (answers : RecomputeAnswers)
  | bill (answers : BillAnswers)

variable (tenant : String)

/-- The store and Stripe after a call. -/
def next (billing : Billing) : Call → Billing
  | .recompute answers => (recomputeAllOverageEstimates answers billing).2
  | .bill answers => (billNamespaceOverage tenant answers billing).2

/-! ## What the answers allow -/

/-- The estimate can be made, and comes to a cost of this kind. -/
def Metering.Costs (metering : Metering) (P : ℚ → Prop) : Prop :=
  ∃ cost, metering.overageCost = .ok cost ∧ P cost

instance (metering : Metering) (P : ℚ → Prop) [DecidablePred P] : Decidable (metering.Costs P) :=
  match h : metering.overageCost with
  | .ok cost => decidable_of_iff (P cost) (by simp [Metering.Costs, h])
  | .error error => .isFalse (by simp [Metering.Costs, h])

/-- No call that the tick awaits fails. -/
def RecomputeAnswers.Stores (answers : RecomputeAnswers) : Prop :=
  answers.read.isOk ∧ answers.metering.Costs (fun _ => True) ∧ answers.write.isOk

/-- There is an active subscription, and the stored record can be read. -/
def BillAnswers.Reaches (answers : BillAnswers) : Prop :=
  (activeSubscription tenant answers.credentials answers.subscription).isOk ∧ answers.read.isOk

/-- There is no overage, and the record that says so is stored. -/
def BillAnswers.Clears (answers : BillAnswers) : Prop :=
  answers.Reaches tenant ∧ answers.metering.Costs (· ≤ 0) ∧ answers.write.isOk

/-- There is an overage, and Stripe accepts the charge. -/
def BillAnswers.Charges (answers : BillAnswers) : Prop :=
  answers.Reaches tenant ∧ answers.metering.Costs (0 < ·) ∧ answers.item.isOk

instance (answers : RecomputeAnswers) : Decidable answers.Stores := by
  unfold RecomputeAnswers.Stores; infer_instance

instance (answers : BillAnswers) : Decidable (answers.Reaches tenant) := by
  unfold BillAnswers.Reaches; infer_instance

instance (answers : BillAnswers) : Decidable (answers.Clears tenant) := by
  unfold BillAnswers.Clears; infer_instance

instance (answers : BillAnswers) : Decidable (answers.Charges tenant) := by
  unfold BillAnswers.Charges; infer_instance

/-! ## The marker in the store -/

/-- When the stored record was computed, if it carries the id of an invoice item. -/
def markedAt (billing : Billing) : Option ℤ :=
  billing.record.bind fun record =>
    record.lastInvoiceItemId.map fun _ => record.periodStart + windowMs

/-- The stored record does not count as billed for the window that ends now. -/
def Unmarked (billing : Billing) (now : ℤ) : Prop :=
  ∀ last, markedAt billing = some last → windowMs ≤ |last - now|

variable {billing : Billing}

theorem unmarked_iff {now : ℤ} :
    Unmarked billing now ↔ priorSamePeriod billing.record (currentPeriodStart now) = none := by
  have hshift : ∀ periodStart, periodStart + windowMs - now =
    periodStart - currentPeriodStart now := by
    intro periodStart
    unfold currentPeriodStart
    omega
  rw [priorSamePeriod_eq_none]
  constructor
  · intro h record hrecord hmarker
    obtain ⟨item, hitem⟩ := Option.ne_none_iff_exists'.mp hmarker
    rw [← hshift]
    exact h _ (by rw [markedAt, hrecord, Option.bind_some, hitem, Option.map_some])
  · intro h last hlast
    obtain ⟨record, hrecord, hmap⟩ := Option.bind_eq_some_iff.mp hlast
    obtain ⟨item, hitem, rfl⟩ := Option.map_eq_some_iff.mp hmap
    rw [hshift]
    exact h record hrecord (by rw [hitem]; exact nofun)

/-- A tick that stores moves the marker on, or drops it. -/
theorem markedAt_recompute (answers : RecomputeAnswers) (billing : Billing) :
    markedAt (recomputeAllOverageEstimates answers billing).2 =
      if answers.Stores then
        (markedAt billing).bind fun last =>
          if |last - answers.now| < windowMs then some answers.now else none
      else markedAt billing := by
  unfold recomputeAllOverageEstimates
  cases hestimate : estimateNamespaceOverage answers.metering
      (getStoredOverage billing answers.read) with
  | error error =>
    rw [if_neg]
    rintro ⟨hread, ⟨cost, hcost, -⟩, -⟩
    exact estimate_error hestimate ⟨hread, cost, hcost⟩
  | ok estimate =>
    obtain ⟨hresult, hcost⟩ := estimate_ok hestimate
    obtain ⟨hread, hstored⟩ := getStoredOverage_eq_ok.mp hresult
    cases hwrite : answers.write with
    | error error =>
      rw [if_neg]
      rintro ⟨-, -, hok⟩
      rw [hwrite] at hok
      cases hok
    | ok _ =>
      rw [if_pos ⟨hread, ⟨_, hcost, trivial⟩, by rw [hwrite]; rfl⟩]
      show ((recomputedRecord estimate answers.now).lastInvoiceItemId.map fun _ =>
        currentPeriodStart answers.now + windowMs) = _
      have hnow : currentPeriodStart answers.now + windowMs = answers.now := by
        unfold currentPeriodStart
        omega
      rw [hnow]
      show (priorSamePeriod estimate.stored (currentPeriodStart answers.now)).map _ = _
      rw [hstored]
      cases hmarked : markedAt billing with
      | none =>
        have hnone := unmarked_iff.mp (show Unmarked billing answers.now by
          intro last hlast
          rw [hmarked] at hlast
          cases hlast)
        rw [hnone]
        rfl
      | some last =>
        rw [Option.bind_some]
        by_cases hlt : |last - answers.now| < windowMs
        · rw [if_pos hlt]
          obtain ⟨item, hitem⟩ := Option.ne_none_iff_exists'.mp fun hnone =>
            absurd hlt (not_lt.mpr (unmarked_iff.mpr hnone last hmarked))
          rw [hitem, Option.map_some]
        · rw [if_neg hlt, unmarked_iff.mp, Option.map_none]
          intro last' hlast
          rw [hmarked] at hlast
          obtain rfl := Option.some.inj hlast
          exact not_lt.mp hlt

theorem putStoredOverage_eq {write : K8sResult Unit} (record : StoredOverage) (billing : Billing) :
    (putStoredOverage record write billing).2 =
      if write.isOk then { billing with record := some record } else billing := by
  cases write <;> rfl

/-- A charge creates an invoice item if Stripe accepts it, and moves the marker on if the
write after it succeeds. -/
theorem chargeOverage_cases (subscription : ActiveSubscription) (answers : BillAnswers)
    (billing : Billing) {estimate : NamespaceOverageEstimate}
    (hcost : 0 < estimate.overageCostUsd) :
    let after := (chargeOverage subscription estimate answers billing).2
    (after = billing ∧ answers.item.isOk = false) ∨
    (answers.item.isOk = true ∧ (∃ item, after.items = item :: billing.items) ∧
      markedAt after = if answers.write.isOk then some answers.now else markedAt billing) := by
  intro after
  have hcreate : createOverageInvoiceItem estimate.overageCostUsd answers.item = answers.item := by
    rw [createOverageInvoiceItem, ensure, if_pos hcost]
    rfl
  cases hitem : answers.item with
  | error error =>
    rw [hitem] at hcreate
    exact .inl ⟨by simp only [after, chargeOverage, hitem, hcreate], rfl⟩
  | ok id =>
    rw [hitem] at hcreate
    have hafter : after = (putStoredOverage (chargedRecord estimate (currentPeriodStart answers.now)
        id answers.chargedAt) answers.write { billing with
          items := newInvoiceItem subscription estimate (currentPeriodStart answers.now) id ::
            billing.items }).2 := by
      simp only [after, chargeOverage, hitem, hcreate]
    rw [putStoredOverage_eq] at hafter
    rw [hafter]
    by_cases hwrite : answers.write.isOk = true
    · rw [if_pos hwrite, if_pos hwrite]
      refine .inr ⟨rfl, ⟨_, rfl⟩, ?_⟩
      show some (currentPeriodStart answers.now + windowMs) = some answers.now
      rw [currentPeriodStart, Int.sub_add_cancel]
    · rw [if_neg hwrite, if_neg hwrite]
      exact .inr ⟨rfl, ⟨_, rfl⟩, rfl⟩

/-- What a call does: nothing, or it clears the record, or it creates an invoice item. -/
theorem bill_cases (answers : BillAnswers) (billing : Billing) :
    let after := (billNamespaceOverage tenant answers billing).2
    (after = billing ∧ ¬ (Unmarked billing answers.now ∧
        (answers.Clears tenant ∨ answers.Charges tenant))) ∨
    (Unmarked billing answers.now ∧ answers.Clears tenant ∧ after.items = billing.items ∧
      markedAt after = none) ∨
    (Unmarked billing answers.now ∧ answers.Charges tenant ∧
      (∃ item, after.items = item :: billing.items) ∧
      markedAt after = if answers.write.isOk then some answers.now else markedAt billing) := by
  intro after
  cases hsub : activeSubscription tenant answers.credentials answers.subscription with
  | error error =>
    have hreach : ¬ answers.Reaches tenant := by
      intro h
      rw [BillAnswers.Reaches, hsub] at h
      cases h.1
    refine .inl ⟨by simp only [after, billNamespaceOverage, hsub], ?_⟩
    rintro ⟨-, h | h⟩ <;> exact hreach h.1
  | ok subscription =>
    cases hestimate : estimateNamespaceOverage answers.metering
        (getStoredOverage billing answers.read) with
    | error error =>
      have hfails := estimate_error hestimate
      refine .inl ⟨by simp only [after, billNamespaceOverage, hsub, hestimate], ?_⟩
      rintro ⟨-, ⟨hreach, ⟨cost, hcost, -⟩, -⟩ | ⟨hreach, ⟨cost, hcost, -⟩, -⟩⟩ <;>
        exact hfails ⟨hreach.2, cost, hcost⟩
    | ok estimate =>
      obtain ⟨hresult, hcost⟩ := estimate_ok hestimate
      obtain ⟨hread, hstored⟩ := getStoredOverage_eq_ok.mp hresult
      have hreach : answers.Reaches tenant := ⟨by rw [hsub]; rfl, hread⟩
      have hcosts : ∀ P : ℚ → Prop, answers.metering.Costs P ↔ P estimate.overageCostUsd := by
        intro P
        simp only [Metering.Costs, hcost, Except.ok.injEq, exists_eq_left']
      rw [unmarked_iff, ← hstored, BillAnswers.Clears, BillAnswers.Charges, hcosts, hcosts]
      rcases billDecision_cases estimate answers.now with ⟨existing, item, hdecision, hmarked⟩ |
        ⟨hprior, hfree, record, hdecision, hmarker, -⟩ | ⟨hprior, hcharge, hdecision⟩
      · -- the record counts as billed
        refine .inl ⟨by simp only [after, billNamespaceOverage, hsub, hestimate, hdecision], ?_⟩
        exact fun h => hmarked h.1
      · have hafter : after = (putStoredOverage record answers.write billing).2 := by
          simp only [after, billNamespaceOverage, hsub, hestimate, hdecision]
        rw [putStoredOverage_eq] at hafter
        by_cases hwrite : answers.write.isOk = true
        · rw [if_pos hwrite] at hafter
          refine .inr (.inl ⟨hprior, ⟨hreach, hfree, hwrite⟩, by rw [hafter], ?_⟩)
          rw [hafter]
          show record.lastInvoiceItemId.map _ = none
          rw [hmarker, Option.map_none]
        · rw [if_neg hwrite] at hafter
          refine .inl ⟨hafter, ?_⟩
          rintro ⟨-, ⟨-, -, h⟩ | ⟨-, h, -⟩⟩
          · exact hwrite h
          · exact not_lt.mpr hfree h
      · have hafter : after = (chargeOverage subscription estimate answers billing).2 := by
          simp only [after, billNamespaceOverage, hsub, hestimate, hdecision]
        rw [hafter]
        rcases chargeOverage_cases subscription answers billing hcharge with
          ⟨hsame, hitem⟩ | ⟨hitem, hcreated⟩
        · refine .inl ⟨hsame, ?_⟩
          rintro ⟨-, ⟨-, h, -⟩ | ⟨-, -, h⟩⟩
          · exact not_lt.mpr h hcharge
          · rw [hitem] at h
            cases h
        · exact .inr (.inr ⟨hprior, ⟨hreach, hcharge, hitem⟩, hcreated⟩)

/-! ## Runs -/

/-- The call creates an invoice item. -/
def CreatesItem (billing : Billing) (answers : BillAnswers) : Prop :=
  (billNamespaceOverage tenant answers billing).2.items.length = billing.items.length + 1

/-- The call creates no invoice item. -/
def KeepsItems (billing : Billing) (call : Call) : Prop :=
  (next tenant billing call).items = billing.items

instance (billing : Billing) (answers : BillAnswers) :
    Decidable (CreatesItem tenant billing answers) := by
  unfold CreatesItem; infer_instance

instance (billing : Billing) (call : Call) : Decidable (KeepsItems tenant billing call) := by
  unfold KeepsItems; infer_instance

/-- There is an overage, an active subscription, and no call fails. -/
def BillAnswers.Billable (answers : BillAnswers) : Prop :=
  answers.Charges tenant ∧ answers.write.isOk

instance (answers : BillAnswers) : Decidable (answers.Billable tenant) := by
  unfold BillAnswers.Billable; infer_instance

/-- Between `last`, when the marker was stored, and `now`, two of the following calls are a
window's width apart: the ticks that store, each from the one before it, and a charge
that finds no overage, or the one made now, from the last of these ticks. -/
def Lapses (last : ℤ) : List Call → ℤ → Prop
  | [], now => windowMs ≤ |last - now|
  | .recompute answers :: rest, now =>
    if answers.Stores then windowMs ≤ |last - answers.now| ∨ Lapses answers.now rest now
    else Lapses last rest now
  | .bill answers :: rest, now =>
    (answers.Clears tenant ∧ windowMs ≤ |last - answers.now|) ∨ Lapses last rest now

instance Lapses.decidable : (last : ℤ) → (calls : List Call) → (now : ℤ) →
    Decidable (Lapses tenant last calls now)
  | _, [], _ => by unfold Lapses; infer_instance
  | last, .recompute answers :: rest, now => by
    have := decidable answers.now rest now
    have := decidable last rest now
    unfold Lapses
    infer_instance
  | last, .bill _ :: rest, now => by
    have := decidable last rest now
    unfold Lapses
    infer_instance

variable {tenant}

variable {answers : BillAnswers}

theorem createsItem_iff_unmarked (h : answers.Charges tenant) :
    CreatesItem tenant billing answers ↔ Unmarked billing answers.now := by
  rw [CreatesItem]
  rcases bill_cases tenant answers billing with ⟨hafter, hnot⟩ | ⟨-, hclears, -⟩ |
    ⟨hunmarked, -, ⟨item, hitems⟩, -⟩
  · rw [hafter]
    refine iff_of_false (by omega) fun hunmarked => hnot ⟨hunmarked, .inr h⟩
  · obtain ⟨cost, hcost, hfree⟩ := hclears.2.1
    obtain ⟨cost', hcost', hcharge⟩ := h.2.1
    rw [hcost] at hcost'
    obtain rfl := Except.ok.inj hcost'
    exact absurd hcharge (not_lt.mpr hfree)
  · rw [hitems]
    exact iff_of_true List.length_cons hunmarked

/-- A call that creates no item takes the condition on the calls from itself on to the
condition on the calls after it. -/
theorem lapses_cons {call : Call} (h : KeepsItems tenant billing call) (rest : List Call)
    (now : ℤ) :
    (∀ last, markedAt (next tenant billing call) = some last → Lapses tenant last rest now) ↔
      ∀ last, markedAt billing = some last → Lapses tenant last (call :: rest) now := by
  cases call with
  | recompute answers =>
    simp only [next, markedAt_recompute, Lapses]
    by_cases hstores : answers.Stores
    · simp only [if_pos hstores]
      cases hmarked : markedAt billing with
      | none => simp
      | some last =>
        by_cases hlt : |last - answers.now| < windowMs
        · simp [hlt, not_le.mpr hlt]
        · simp [hlt, not_lt.mp hlt]
    · simp only [if_neg hstores]
  | bill answers =>
    simp only [KeepsItems, next, Lapses] at h ⊢
    rcases bill_cases tenant answers billing with ⟨hafter, hnot⟩ | ⟨hunmarked, hclears, -, hnone⟩ |
      ⟨-, -, ⟨item, hitems⟩, -⟩
    · rw [hafter]
      refine forall₂_congr fun last hlast => (or_iff_right ?_).symm
      rintro ⟨hclears, hle⟩
      refine hnot ⟨fun last' hlast' => ?_, .inl hclears⟩
      rw [hlast] at hlast'
      exact Option.some.inj hlast' ▸ hle
    · refine iff_of_true (fun last hlast => ?_) fun last hlast =>
        .inl ⟨hclears, hunmarked last hlast⟩
      rw [hnone] at hlast
      cases hlast
    · rw [hitems] at h
      exact absurd h (List.cons_ne_self _ _)

/-- A charge after calls that create no item creates one exactly when the marker that was
stored before them has lapsed. -/
theorem createsItem_run_iff {mid : List Call} {final : BillAnswers}
    (hmid : Along (next tenant) (KeepsItems tenant) billing mid) (hfinal : final.Charges tenant) :
    CreatesItem tenant (run (next tenant) billing mid) final ↔
      ∀ last, markedAt billing = some last → Lapses tenant last mid final.now := by
  induction mid generalizing billing with
  | nil => exact createsItem_iff_unmarked hfinal
  | cons call rest ih => rw [run_cons, ih hmid.2, lapses_cons hmid.1]

theorem markedAt_of_createsItem (h : CreatesItem tenant billing answers) :
    markedAt (billNamespaceOverage tenant answers billing).2 =
      if answers.write.isOk then some answers.now else markedAt billing := by
  rw [CreatesItem] at h
  rcases bill_cases tenant answers billing with ⟨hafter, -⟩ | ⟨-, -, hitems, -⟩ | ⟨-, -, -, hmarked⟩
  · rw [hafter] at h
    omega
  · rw [hitems] at h
    omega
  · exact hmarked

/-- After the last invoice item, which `created` creates, a charge with a positive overage, an
active subscription and no failure creates an item exactly when the marker has lapsed:
the marker of that item, or, if the write after it failed, the one that stood before. -/
theorem createsItem_iff_lapses (tenant : String) (billing : Billing) (created final : BillAnswers)
    (mid : List Call) (hcreated : CreatesItem tenant billing created)
    (hmid : Along (next tenant) (KeepsItems tenant) (next tenant billing (.bill created)) mid)
    (hfinal : final.Billable tenant) :
    CreatesItem tenant (run (next tenant) billing (.bill created :: mid)) final ↔
      if created.write.isOk then Lapses tenant created.now mid final.now
      else ∀ last, markedAt billing = some last → Lapses tenant last mid final.now := by
  rw [run_cons, createsItem_run_iff hmid hfinal.1]
  show (∀ last, markedAt (billNamespaceOverage tenant created billing).2 = some last → _) ↔ _
  rw [markedAt_of_createsItem hcreated]
  by_cases hwrite : created.write.isOk = true
  · simp only [if_pos hwrite, Option.some.injEq, forall_eq']
  · simp only [if_neg hwrite]

/-! ## The poller every twelve hours -/

/-- A charge at the instant `now` in which nothing fails. -/
def busyBill (now : ℤ) (id : InvoiceItemId) : BillAnswers where
  credentials := true
  subscription := .ok (some { stripeCustomerId := "cus_1", stripeSubscriptionId := some "sub_1" })
  read := .ok ()
  metering := busyMetering
  now
  item := .ok id
  chargedAt := now
  write := .ok ()

/-- A tick at the instant `now` in which nothing fails. -/
def busyTick (now : ℤ) : Call :=
  .recompute { read := .ok (), metering := busyMetering, now, write := .ok () }

/-- When the poller stops for a day after the charge, the marker lapses. -/
theorem createsItem_after_pause :
    let created := busyBill 0 ⟨"ii_1", by decide⟩
    let final := busyBill (49 * hour) ⟨"ii_2", by decide⟩
    let mid := [busyTick (12 * hour), busyTick (40 * hour)]
    CreatesItem "gymact" (run (next "gymact") .empty (.bill created :: mid)) final := by
  intro created final mid
  refine (createsItem_iff_lapses "gymact" .empty created final mid (by decide +kernel)
    (by decide +kernel) (by decide +kernel)).mpr ?_
  rw [if_pos (by decide +kernel)]
  decide +kernel

/-- With a tick every twelve hours, a charge 49 hours after the last invoice item is taken for
a second charge of the same window. -/
theorem no_item_while_poller_ticks :
    let created := busyBill 0 ⟨"ii_1", by decide⟩
    let final := busyBill (49 * hour) ⟨"ii_2", by decide⟩
    let mid := [busyTick (12 * hour), busyTick (24 * hour), busyTick (36 * hour),
      busyTick (48 * hour)]
    CreatesItem "gymact" .empty created ∧
    Along (next "gymact") (KeepsItems "gymact") (next "gymact" .empty (.bill created)) mid ∧
    final.Billable "gymact" ∧ created.now + 2 * windowMs < final.now ∧
    ¬ CreatesItem "gymact" (run (next "gymact") .empty (.bill created :: mid)) final := by
  decide +kernel

end ChatmanEcosystem.Console.Overage
