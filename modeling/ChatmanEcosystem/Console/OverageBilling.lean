import ChatmanEcosystem.Console.K8s
import ChatmanEcosystem.Rust.Result
import Mathlib.Data.Rat.Floor

/-!
# Overage billing

Model of `platform-console/app/lib/overage-billing.ts`, lines 152–600, for one
namespace: the estimate of the overage, the poller's tick that stores it, and the
call that charges it. A record is stored as JSON under the key of its namespace;
the model stores the record, without the namespace. Instants are milliseconds
since 1970 where the source has their ISO text, and amounts are rationals. The
usage, the tier and the rates are what the awaited calls answer.

Results:

* `priorSamePeriod_eq_none`: when a record counts as billed for a window.
* `estimate_ok`, `estimate_error`: when an estimate is made, and of what.
-/

namespace ChatmanEcosystem.Console.Overage

open Rust

/-- `OVERAGE_WINDOW_HOURS` (line 152). -/
def overageWindowHours : ℤ := 24

/-- `windowMs` (lines 478 and 533). -/
def windowMs : ℤ := overageWindowHours * 60 * 60 * 1000

/-- The id of a Stripe invoice item. It is not empty, so that the truth value of
`lastInvoiceItemId` says whether there is one. -/
abbrev InvoiceItemId := { id : String // id ≠ "" }

/-- `StoredOverage` (lines 159–174). -/
structure StoredOverage where
  periodStart : ℤ
  cpuCoreHoursOverage : ℚ
  memoryGiBHoursOverage : ℚ
  overageCostUsd : ℚ
  lastInvoiceItemId : Option InvoiceItemId
  computedAt : ℤ
  deriving DecidableEq

/-! ## The estimate -/

/-- `ProjectTier` (`lib/tiers.ts`, line 23). -/
inductive ProjectTier
  | starter
  | pro
  | enterprise
  deriving DecidableEq

/-- `NamespaceUsageMetrics` (`lib/invoice-preview.ts`, lines 31–37). -/
structure NamespaceUsageMetrics where
  cpuCoreHours : ℚ
  memoryGiBHours : ℚ
  deriving DecidableEq

/-- The two rates of `RateTable` that an overage is priced with. -/
structure RateTable where
  cpuPerCoreHour : ℚ
  memoryPerGiBHour : ℚ
  deriving DecidableEq

/-- `ILLUSTRATIVE_RATES` (`lib/invoice-preview.ts`, lines 17–28). -/
def illustrativeRates : RateTable := { cpuPerCoreHour := 2 / 100, memoryPerGiBHour := 1 / 100 }

/-- `requestsCpu` of `TIER_RESOURCE_QUOTAS` (`lib/tiers.ts`, lines 72–94), in cores. -/
def requestsCpu : ProjectTier → ℚ
  | .starter => 500 / 1000
  | .pro => 1
  | .enterprise => 1500 / 1000

/-- `requestsMemory` of `TIER_RESOURCE_QUOTAS`, in GiB. -/
def requestsMemory : ProjectTier → ℚ
  | .starter => 500 / 1024
  | .pro => 1
  | .enterprise => 1500 / 1024

/-- What the awaited calls of an estimate answer, the read of the stored record apart. -/
structure Metering where
  usage : K8sResult NamespaceUsageMetrics
  tier : K8sResult ProjectTier
  rates : RateTable
  pricingOverrideContractRef : Option String

/-- `NamespaceOverageEstimate` (lines 279–300). -/
structure NamespaceOverageEstimate where
  tier : ProjectTier
  usage : NamespaceUsageMetrics
  baselineCpuCoreHours : ℚ
  baselineMemoryGiBHours : ℚ
  cpuCoreHoursOverage : ℚ
  memoryGiBHoursOverage : ℚ
  overageCostUsd : ℚ
  stored : Option StoredOverage
  pricingOverrideContractRef : Option String
  deriving DecidableEq

/-- `computeOverageAmount` (lines 378–389): the overages of CPU and memory, and their cost. -/
def computeOverageAmount (usage : NamespaceUsageMetrics)
    (baselineCpuCoreHours baselineMemoryGiBHours : ℚ) (rates : RateTable) : ℚ × ℚ × ℚ :=
  let cpuCoreHoursOverage := max 0 (usage.cpuCoreHours - baselineCpuCoreHours)
  let memoryGiBHoursOverage := max 0 (usage.memoryGiBHours - baselineMemoryGiBHours)
  (cpuCoreHoursOverage, memoryGiBHoursOverage,
    cpuCoreHoursOverage * rates.cpuPerCoreHour + memoryGiBHoursOverage * rates.memoryPerGiBHour)

/-- `estimateNamespaceOverage` (lines 399–438), with `quotaBaselineForTier` (lines 250–259). -/
def estimateNamespaceOverage (metering : Metering)
    (storedResult : K8sResult (Option StoredOverage)) :
    K8sResult NamespaceOverageEstimate := do
  let usage ← metering.usage
  let tier ← metering.tier
  let stored ← storedResult
  let baselineCpuCoreHours := requestsCpu tier * overageWindowHours
  let baselineMemoryGiBHours := requestsMemory tier * overageWindowHours
  let (cpuCoreHoursOverage, memoryGiBHoursOverage, overageCostUsd) :=
    computeOverageAmount usage baselineCpuCoreHours baselineMemoryGiBHours metering.rates
  return { tier, usage, baselineCpuCoreHours, baselineMemoryGiBHours, cpuCoreHoursOverage,
           memoryGiBHoursOverage, overageCostUsd, stored
           pricingOverrideContractRef := metering.pricingOverrideContractRef }

/-! ## The store and Stripe -/

/-- An invoice item at Stripe, with the start of the trailing window that its description
names. -/
structure InvoiceItem where
  id : InvoiceItemId
  customer : String
  stripeSubscriptionId : String
  amount : ℤ
  pricingOverrideContractRef : Option String
  periodStart : ℤ
  deriving DecidableEq

/-- The stored record of the namespace, and its invoice items, the newest first. -/
structure Billing where
  record : Option StoredOverage
  items : List InvoiceItem
  deriving DecidableEq

/-- Nothing stored, nothing charged. -/
def Billing.empty : Billing := { record := none, items := [] }

/-- `getStoredOverage` (lines 206–214); `read` says whether the ConfigMap can be read. -/
def getStoredOverage (billing : Billing)
    (read : K8sResult Unit) : K8sResult (Option StoredOverage) :=
  read.map fun _ => billing.record

/-- What `billNamespaceOverage` needs of a `StoredSubscription` (`lib/stripe-billing.ts`,
lines 90–101). -/
structure StoredSubscription where
  stripeCustomerId : String
  stripeSubscriptionId : Option String
  deriving DecidableEq

/-- The customer and the subscription that a charge is made to. -/
structure ActiveSubscription where
  customerId : String
  subscriptionId : String
  deriving DecidableEq

/-- `createOverageInvoiceItem` (`lib/stripe-billing.ts`, lines 407–446), up to the call of
Stripe; `answer` is what that call answers. -/
def createOverageInvoiceItem (amountUsd : ℚ) (answer : K8sResult InvoiceItemId) :
    K8sResult InvoiceItemId := do
  ensure (0 < amountUsd) "amountUsd must be a positive real overage amount"
  answer

/-- The item that Stripe creates for an estimate. The amount is in cents, `Math.round`. -/
def newInvoiceItem (subscription : ActiveSubscription) (estimate : NamespaceOverageEstimate)
    (periodStart : ℤ) (id : InvoiceItemId) : InvoiceItem where
  id
  customer := subscription.customerId
  stripeSubscriptionId := subscription.subscriptionId
  amount := (estimate.overageCostUsd * 100 + 1 / 2).floor
  pricingOverrideContractRef := estimate.pricingOverrideContractRef
  periodStart

/-! ## The marker of a window -/

/-- `currentPeriodStartIso` (lines 453–455), called at the instant `now`. -/
def currentPeriodStart (now : ℤ) : ℤ := now - windowMs

/-- The comparison of two period starts in lines 483 and 537. -/
def samePeriod (periodStart other : ℤ) : Bool := |periodStart - other| < windowMs

/-- `priorSamePeriod` (lines 482–485). -/
def priorSamePeriod (stored : Option StoredOverage) (periodStart : ℤ) : Option InvoiceItemId :=
  match stored with
  | some record => if samePeriod record.periodStart periodStart then record.lastInvoiceItemId
    else none
  | none => none

/-- The record that a tick stores (lines 486–494). -/
def recomputedRecord (estimate : NamespaceOverageEstimate) (now : ℤ) : StoredOverage where
  periodStart := currentPeriodStart now
  cpuCoreHoursOverage := estimate.cpuCoreHoursOverage
  memoryGiBHoursOverage := estimate.memoryGiBHoursOverage
  overageCostUsd := estimate.overageCostUsd
  lastInvoiceItemId := priorSamePeriod estimate.stored (currentPeriodStart now)
  computedAt := now

/-- `alreadyBilledThisPeriod` (lines 535–537), with the record and the item it speaks of. -/
def alreadyBilledThisPeriod (existing : Option StoredOverage) (periodStart : ℤ) :
    Option (StoredOverage × InvoiceItemId) := do
  let record ← existing
  let item ← record.lastInvoiceItemId
  guard (samePeriod record.periodStart periodStart)
  return (record, item)

/-- The three ways of `billNamespaceOverage` after the estimate (lines 539–600). -/
inductive Decision
  | alreadyBilled (existing : StoredOverage) (item : InvoiceItemId)
  | noOverage (record : StoredOverage)
  | charge

/-- Which way `billNamespaceOverage` goes at the instant `now` (lines 532–564). -/
def billDecision (estimate : NamespaceOverageEstimate) (now : ℤ) : Decision :=
  let periodStart := currentPeriodStart now
  match alreadyBilledThisPeriod estimate.stored periodStart with
  | some (existing, item) => .alreadyBilled existing item
  | none =>
    if estimate.overageCostUsd ≤ 0 then
      .noOverage
        { periodStart
          cpuCoreHoursOverage := estimate.cpuCoreHoursOverage
          memoryGiBHoursOverage := estimate.memoryGiBHoursOverage
          overageCostUsd := 0
          lastInvoiceItemId := none
          computedAt := now }
    else .charge

/-- The record that is stored after a charge (lines 584–592). -/
def chargedRecord (estimate : NamespaceOverageEstimate) (periodStart : ℤ) (id : InvoiceItemId)
    (chargedAt : ℤ) : StoredOverage where
  periodStart
  cpuCoreHoursOverage := estimate.cpuCoreHoursOverage
  memoryGiBHoursOverage := estimate.memoryGiBHoursOverage
  overageCostUsd := estimate.overageCostUsd
  lastInvoiceItemId := some id
  computedAt := chargedAt

/-! ## The two calls -/

/-- What the awaited calls and the clock answer in one run of `recomputeAllOverageEstimates`. -/
structure RecomputeAnswers where
  read : K8sResult Unit
  metering : Metering
  now : ℤ
  write : K8sResult Unit

/-- `recomputeAllOverageEstimates` (lines 467–501) of one namespace, run alone. -/
def recomputeAllOverageEstimates (answers : RecomputeAnswers) (billing : Billing) :
    K8sResult (List NamespaceOverageEstimate) × Billing :=
  match estimateNamespaceOverage answers.metering (getStoredOverage billing answers.read) with
  | .error _ => (.ok [], billing)
  | .ok estimate =>
    match answers.write with
    | .error error => (.error error, billing)
    | .ok () =>
      (.ok [estimate], { billing with record := some (recomputedRecord estimate answers.now) })

/-- The data of a `BillOverageResult` (lines 503–505). -/
structure BilledOverage where
  billed : Bool
  record : StoredOverage
  reason : String
  deriving DecidableEq

/-- The checks before the estimate (lines 520–527). -/
def activeSubscription (tenant : String) (credentials : Bool)
    (subResult : K8sResult (Option StoredSubscription)) : K8sResult ActiveSubscription := do
  ensure (credentials = true) "STRIPE_SECRET_KEY not configured"
  let subscription ← subResult
  let found := subscription.bind fun sub =>
    (sub.stripeSubscriptionId.filter (· ≠ "")).map (ActiveSubscription.mk sub.stripeCustomerId)
  match found with
  | some active => return active
  | none => .error ("no active Stripe subscription on file for namespace '" ++ tenant ++ "'")

/-- What the awaited calls and the clock answer in one run of `billNamespaceOverage`, in
the order in which they are asked. -/
structure BillAnswers where
  credentials : Bool
  subscription : K8sResult (Option StoredSubscription)
  read : K8sResult Unit
  metering : Metering
  now : ℤ
  item : K8sResult InvoiceItemId
  chargedAt : ℤ
  write : K8sResult Unit

/-- What `billNamespaceOverage` returns for a record that counts as billed. -/
def alreadyBilledResult (existing : StoredOverage) (item : InvoiceItemId) : BilledOverage where
  billed := false
  record := existing
  reason := "already billed for this period (invoice item " ++ item.val ++ ")"

/-- What `billNamespaceOverage` returns once it has stored a record: with an invoice item, that
it charged, and without one, that there was nothing to charge. -/
def storedResult (record : StoredOverage) : BilledOverage where
  billed := record.lastInvoiceItemId.isSome
  record
  reason :=
    match record.lastInvoiceItemId with
    | some item => "created Stripe InvoiceItem " ++ item.val
    | none => "no overage this period"

/-- `putStoredOverage` (lines 216–222), and the end of `billNamespaceOverage` after it. -/
def putStoredOverage (record : StoredOverage) (write : K8sResult Unit) (billing : Billing) :
    K8sResult BilledOverage × Billing :=
  match write with
  | .error error => (.error error, billing)
  | .ok () => (.ok (storedResult record), { billing with record := some record })

/-- The charge of `billNamespaceOverage` (lines 566–600). -/
def chargeOverage (subscription : ActiveSubscription) (estimate : NamespaceOverageEstimate)
    (answers : BillAnswers) (billing : Billing) : K8sResult BilledOverage × Billing :=
  match createOverageInvoiceItem estimate.overageCostUsd answers.item with
  | .error error => (.error error, billing)
  | .ok id =>
    let periodStart := currentPeriodStart answers.now
    putStoredOverage (chargedRecord estimate periodStart id answers.chargedAt) answers.write
      { billing with
        items := newInvoiceItem subscription estimate periodStart id :: billing.items }

/-- `billNamespaceOverage` (lines 519–600), run alone. -/
def billNamespaceOverage (tenant : String) (answers : BillAnswers) (billing : Billing) :
    K8sResult BilledOverage × Billing :=
  match activeSubscription tenant answers.credentials answers.subscription with
  | .error error => (.error error, billing)
  | .ok subscription =>
    match estimateNamespaceOverage answers.metering (getStoredOverage billing answers.read) with
    | .error error => (.error error, billing)
    | .ok estimate =>
      match billDecision estimate answers.now with
      | .alreadyBilled existing item => (.ok (alreadyBilledResult existing item), billing)
      | .noOverage record => putStoredOverage record answers.write billing
      | .charge => chargeOverage subscription estimate answers billing

/-! ## What a call does -/

variable {periodStart : ℤ}

theorem samePeriod_iff {other : ℤ} :
    samePeriod periodStart other = true ↔ |periodStart - other| < windowMs := decide_eq_true_iff

variable {stored : Option StoredOverage}

theorem priorSamePeriod_eq_some {item : InvoiceItemId} :
    priorSamePeriod stored periodStart = some item ↔ ∃ record, stored = some record ∧
      record.lastInvoiceItemId = some item ∧ |record.periodStart - periodStart| < windowMs := by
  cases stored with
  | none => simp [priorSamePeriod]
  | some record =>
    rw [priorSamePeriod, Option.ite_none_right_eq_some, samePeriod_iff]
    constructor
    · rintro ⟨hsame, hitem⟩
      exact ⟨record, rfl, hitem, hsame⟩
    · rintro ⟨_, hrecord, hitem, hsame⟩
      obtain rfl := Option.some.inj hrecord
      exact ⟨hsame, hitem⟩

theorem priorSamePeriod_eq_none :
    priorSamePeriod stored periodStart = none ↔ ∀ record, stored = some record →
      record.lastInvoiceItemId ≠ none → windowMs ≤ |record.periodStart - periodStart| := by
  rw [Option.eq_none_iff_forall_ne_some]
  constructor
  · intro h record hstored hmarker
    obtain ⟨item, hitem⟩ := Option.ne_none_iff_exists'.mp hmarker
    by_contra hlt
    exact h item (priorSamePeriod_eq_some.mpr ⟨record, hstored, hitem, not_le.mp hlt⟩)
  · intro h item hsome
    obtain ⟨record, hstored, hitem, hlt⟩ := priorSamePeriod_eq_some.mp hsome
    have hle := h record hstored (by rw [hitem]; exact nofun)
    omega

/-- A record counts as billed for a window exactly when a tick would carry its marker over. -/
theorem alreadyBilledThisPeriod_eq_none :
    alreadyBilledThisPeriod stored periodStart = none ↔
      priorSamePeriod stored periodStart = none := by
  cases stored with
  | none => exact iff_of_true rfl rfl
  | some record =>
    unfold alreadyBilledThisPeriod priorSamePeriod
    cases hitem : record.lastInvoiceItemId with
    | none => simp [hitem]
    | some item => by_cases hsame : samePeriod record.periodStart periodStart <;> simp [hitem,
      hsame]

/-- The three ways: the stored record counts as billed, or there is no overage, or there is
one to charge. -/
theorem billDecision_cases (estimate : NamespaceOverageEstimate) (now : ℤ) :
    (∃ existing item, billDecision estimate now = .alreadyBilled existing item ∧
      priorSamePeriod estimate.stored (currentPeriodStart now) ≠ none) ∨
    (priorSamePeriod estimate.stored (currentPeriodStart now) = none ∧
      estimate.overageCostUsd ≤ 0 ∧ ∃ record, billDecision estimate now = .noOverage record ∧
        record.lastInvoiceItemId = none ∧ record.periodStart = currentPeriodStart now) ∨
    (priorSamePeriod estimate.stored (currentPeriodStart now) = none ∧
      0 < estimate.overageCostUsd ∧ billDecision estimate now = .charge) := by
  simp only [billDecision]
  cases hbilled : alreadyBilledThisPeriod estimate.stored (currentPeriodStart now) with
  | some found =>
    refine .inl ⟨found.1, found.2, rfl, fun hprior => ?_⟩
    rw [alreadyBilledThisPeriod_eq_none.mpr hprior] at hbilled
    cases hbilled
  | none =>
    have hprior := alreadyBilledThisPeriod_eq_none.mp hbilled
    by_cases hcost : estimate.overageCostUsd ≤ 0
    · exact .inr (.inl ⟨hprior, hcost, _, if_pos hcost, rfl, rfl⟩)
    · exact .inr (.inr ⟨hprior, not_le.mp hcost, if_neg hcost⟩)

/-- The cost that an estimate comes to. -/
def Metering.overageCost (metering : Metering) : K8sResult ℚ :=
  (estimateNamespaceOverage metering (.ok none)).map (·.overageCostUsd)

/-- What an estimate is made of. -/
theorem estimate_ok {metering : Metering} {storedResult : K8sResult (Option StoredOverage)}
    {estimate : NamespaceOverageEstimate}
    (h : estimateNamespaceOverage metering storedResult = .ok estimate) :
    storedResult = .ok estimate.stored ∧ metering.overageCost = .ok estimate.overageCostUsd := by
  simp only [estimateNamespaceOverage, bind_eq_ok, pure_eq_ok] at h
  obtain ⟨usage, husage, tier, htier, stored, hstored, rfl⟩ := h
  refine ⟨hstored, ?_⟩
  simp [Metering.overageCost, estimateNamespaceOverage, husage, htier, bind, Except.bind, pure,
    Except.pure, Except.map]

variable {billing : Billing} {read : K8sResult Unit}

theorem getStoredOverage_eq_ok :
    getStoredOverage billing read = .ok stored ↔ read.isOk = true ∧ stored = billing.record := by
  cases read with
  | error error => exact iff_of_false nofun nofun
  | ok _ =>
    constructor
    · intro h
      exact ⟨rfl, (Except.ok.inj h).symm⟩
    · rintro ⟨-, rfl⟩
      rfl

/-- An estimate fails only if one of the calls it awaits does. -/
theorem estimate_error {metering : Metering} {error : String}
    (h : estimateNamespaceOverage metering (getStoredOverage billing read) = .error error) :
    ¬ (read.isOk = true ∧ ∃ cost, metering.overageCost = .ok cost) := by
  rintro ⟨hread, cost, hcost⟩
  cases read with
  | error readError => cases hread
  | ok _ =>
    unfold Metering.overageCost at hcost
    cases husage : metering.usage with
    | error usageError =>
      simp [estimateNamespaceOverage, husage, bind, Except.bind, Except.map] at hcost
    | ok usage =>
      cases htier : metering.tier with
      | error tierError =>
        simp [estimateNamespaceOverage, husage, htier, bind, Except.bind, Except.map] at hcost
      | ok tier =>
        simp [estimateNamespaceOverage, getStoredOverage, husage, htier, bind, Except.bind, pure,
          Except.pure, Except.map] at h

/-! ## A busy namespace -/

/-- An hour, in milliseconds. -/
def hour : ℤ := 60 * 60 * 1000

/-- A namespace that runs four cores on a starter tier. -/
def busyMetering : Metering where
  usage := .ok { cpuCoreHours := 96, memoryGiBHours := 0 }
  tier := .ok .starter
  rates := illustrativeRates
  pricingOverrideContractRef := none

end ChatmanEcosystem.Console.Overage
