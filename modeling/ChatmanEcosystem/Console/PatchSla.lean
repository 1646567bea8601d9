import ChatmanEcosystem.Common.KeyedTable
import ChatmanEcosystem.Console.SlaCredits

/-!
# Patch-timeliness credits

Model of the breach scan and the credit of `platform-console/app/lib/patch-sla.ts`
(lines 280–483), with `POST` of
`app/app/api/orgs/[id]/patch-sla-credits/route.ts`, lines 130–364. Requests and
scans run concurrently; each stops at its awaits, and a statement of SQL is
atomic. What the cluster, the approvals and the table of findings answer is an
argument, and Stripe makes one balance transaction for each call that it answers.
The entries of the audit log are left out, since nobody awaits them.

Results:

* `BreachTable.key_credited`: a mark keeps the keys.
-/

namespace ChatmanEcosystem.Console.PatchSla

open Common Common.Concurrent Js
open Console.SlaCredit (SlaTier currentMonth)

/-! ## Findings and breaches -/

/-- `CommittedSeverity` (line 75). -/
inductive CommittedSeverity
  | critical
  | high
  deriving DecidableEq

/-- `PATCH_SLA_COMMITTED_HOURS` (`lib/tiers.ts`, lines 253–257). -/
def patchSlaCommittedHours : SlaTier → CommittedSeverity → ℤ
  | .standard, .critical => 24
  | .standard, .high => 72
  | .priority, .critical => 12
  | .priority, .high => 48
  | .enterprise247, .critical => 4
  | .enterprise247, .high => 24

/-- The members of a `PatchSlaFinding` (lines 81–87) that a scan reads. -/
structure PatchSlaFinding where
  vulnerabilityId : String
  severity : CommittedSeverity
  detectedAt : ℤ
  deriving DecidableEq

/-- `hoursSinceDetected > committedHours` (lines 334–336). -/
def PatchSlaFinding.overdue (finding : PatchSlaFinding) (tier : SlaTier) (now : ℤ) : Bool :=
  patchSlaCommittedHours tier finding.severity * 3600000 < now - finding.detectedAt

/-- `UNIQUE (org_id, image_ref, vulnerability_id)`. -/
structure BreachKey where
  orgId : String
  imageRef : String
  vulnerabilityId : String
  deriving DecidableEq

/-- A row of `patch_sla_breaches`. -/
structure PatchSlaBreach where
  key : BreachKey
  severity : CommittedSeverity
  patchSlaTier : SlaTier
  committedHours : ℤ
  detectedAt : ℤ
  breachedAt : ℤ
  creditAppliedAt : Option ℤ
  deriving DecidableEq

/-- The row is not credited. -/
abbrev PatchSlaBreach.Open (breach : PatchSlaBreach) : Prop := breach.creditAppliedAt = none

/-- The table `patch_sla_breaches`. -/
abbrev BreachTable := KeyedTable PatchSlaBreach.key

namespace BreachTable

/-- The row as `UPDATE` leaves it (lines 475–479). -/
def credited (orgId : String) (now : ℤ) (row : PatchSlaBreach) : PatchSlaBreach :=
  if row.key.orgId = orgId ∧ row.Open then { row with creditAppliedAt := some now } else row

@[simp] theorem key_credited (orgId : String) (now : ℤ) (row : PatchSlaBreach) :
    (credited orgId now row).key = row.key := by
  unfold credited
  split_ifs <;> rfl

/-- `INSERT … ON CONFLICT DO NOTHING` (lines 338–345). -/
def insert (table : BreachTable) (row : PatchSlaBreach) : BreachTable :=
  table.upsert row id fun _ => rfl

/-- The `UPDATE` of `markBreachesCreditApplied` (lines 475–481). -/
def markCredited (table : BreachTable) (orgId : String) (now : ℤ) : BreachTable :=
  table.modify (credited orgId now) (key_credited orgId now)

/-- `getOrgPatchSlaBreaches` (lines 389–395), in the order of their insertion. -/
def ofOrg (table : BreachTable) (orgId : String) : List PatchSlaBreach :=
  table.rows.filter (·.key.orgId = orgId)

end BreachTable

/-! ## The credit -/

/-- `creditPctPerBreach` of `PATCH_SLA_ILLUSTRATIVE_CREDIT_SCHEDULE` (lines 417–424). -/
def creditPctPerBreach : SlaTier → ℚ
  | .standard => 5
  | .priority => 8
  | .enterprise247 => 15

/-- `maxCreditPct` of `PATCH_SLA_ILLUSTRATIVE_CREDIT_SCHEDULE`. -/
def maxCreditPct : SlaTier → ℚ
  | .standard => 25
  | .priority => 40
  | .enterprise247 => 75

/-- The rows that `computePatchSlaCredit` counts (line 449). -/
def uncredited (breaches : List PatchSlaBreach) : List PatchSlaBreach := breaches.filter (·.Open)

/-- `creditPctOfMonthlySpend` of `computePatchSlaCredit` (lines 443–464), if a credit is owed. -/
def computePatchSlaCredit (breaches : List PatchSlaBreach) (tier : SlaTier) : Option ℚ :=
  if (uncredited breaches).length = 0 then none
  else some (min (maxCreditPct tier) ((uncredited breaches).length * creditPctPerBreach tier))

/-! ## The calls -/

/-- The members of an `Org` (`lib/orgs.ts`) that are read. -/
structure Org where
  id : String
  ns : String
  patchSlaTier : Option SlaTier
  deriving DecidableEq

/-- A request with an approval, and with the rows that its percentage counts. -/
structure Claimed where
  orgId : String
  approvedBy : Option String
  counted : List BreachKey
  deriving DecidableEq

/-- A balance transaction that Stripe has made for a request. -/
structure Credit extends Claimed where
  transactionId : String
  amountCents : ℤ
  currency : String
  deriving DecidableEq

/-- `OrgPatchSlaScanResult` (lines 280–285). -/
structure OrgPatchSlaScanResult where
  orgId : String
  patchSlaTier : SlaTier
  newBreaches : ℕ
  errors : List String
  deriving DecidableEq

/-- `PatchSlaBreachScanReport` (lines 287–292). -/
structure PatchSlaBreachScanReport where
  scannedAt : ℤ
  orgsScanned : ℕ
  orgsSkipped : ℕ
  results : List OrgPatchSlaScanResult
  deriving DecidableEq

/-- A scan at an organisation: its report, the organisations to come, and the result so far. -/
structure Scan where
  report : PatchSlaBreachScanReport
  rest : List Org
  result : OrgPatchSlaScanResult
  deriving DecidableEq

/-- How a call ends. -/
inductive Outcome
  | error (status : ℕ) (text : String)
  | pendingApproval (request : ApprovalRequest)
  | notApplied (reason : String)
  | applied (credit : Credit) (breachesCredited : K8sResult ℕ)
  | scanned (result : K8sResult PatchSlaBreachScanReport)
  deriving DecidableEq

/-- Where a call stands: what it awaits, with what it has read. -/
inductive CreditCall
  | readingOrg (orgId : String)
  | checkingRole (orgId : String) (org : Org)
  | checkingApproval (orgId : String) (tier : SlaTier)
  | readingBreaches (orgId : String) (tier : SlaTier) (approvedBy : Option String)
  | readingSubscription (claimed : Claimed) (creditPct : ℚ)
  | retrieving (claimed : Claimed) (creditPct : ℚ) (customerId subscriptionId month : String)
  | crediting (claimed : Claimed) (customerId month : String) (creditCents : ℤ) (currency : String)
  | marking (credit : Credit)
  | listingOrgs
  | listingDeployments (scan : Scan) (org : Org)
  | readingFindings (scan : Scan) (imageRef : String) (imageRefs : List String)
  | inserting (scan : Scan) (imageRef : String) (imageRefs : List String)
    (finding : PatchSlaFinding) (findings : List PatchSlaFinding)
  | done (outcome : Outcome)
  deriving DecidableEq

/-- A request of the route, or a scan. -/
inductive CreditRequest
  | post (orgId : String)
  | scan

/-- What `requireApproval` answers when nothing fails. -/
inductive ApprovalCheck
  | approved (approval : ApprovalRequest)
  | pending (request : ApprovalRequest)

/-- What an awaited operation answers, with the instant at which the call goes on where it reads the
clock. -/
inductive CreditAnswer
  | org (result : K8sResult (Option Org))
  | role (granted : Bool)
  | approval (result : K8sResult ApprovalCheck)
  | breaches (read : K8sResult Unit)
  | subscription (result : K8sResult (Option StoredSubscription)) (now : ℤ)
  | retrieve (result : K8sResult Subscription)
  | balance (result : K8sResult String)
  | marked (result : K8sResult Unit) (now : ℤ)
  | orgs (result : K8sResult (List Org)) (now : ℤ)
  | deployments (images : K8sResult (List String))
  | findings (result : K8sResult (List PatchSlaFinding)) (now : ℤ)
  | inserted (now : ℤ)

namespace CreditCall

/-- The route responds with an error. -/
def fails (status : ℕ) (text : String) : CreditCall := .done (.error status text)

/-- The route from the organisation on (lines 145–151). -/
def ofOrg (orgId : String) : K8sResult (Option Org) → CreditCall
  | .error error => fails 502 error
  | .ok none => fails 404 "org not found"
  | .ok (some org) => .checkingRole orgId org

/-- The route from the role on (lines 154–192). -/
def ofRole (orgId : String) (org : Org) (granted : Bool) : CreditCall :=
  if ¬ granted then fails 403 "forbidden"
  else
    match org.patchSlaTier with
    | none => fails 422 ("org '" ++ orgId ++
        "' has no Patch-Timeliness SLA tier contracted -- nothing to credit")
    | some tier => .checkingApproval orgId tier

/-- The route from the approval on (lines 194–237). -/
def ofApproval (orgId : String) (tier : SlaTier) : K8sResult ApprovalCheck → CreditCall
  | .error error => fails 502 error
  | .ok (.pending request) => .done (.pendingApproval request)
  | .ok (.approved approval) => .readingBreaches orgId tier approval.approvedBy

/-- The route from the breaches on (lines 239–277). -/
def ofBreaches (orgId : String) (tier : SlaTier) (approvedBy : Option String) :
    K8sResult (List PatchSlaBreach) → CreditCall
  | .error error => fails 502 error
  | .ok breaches =>
    match computePatchSlaCredit breaches tier with
    | none => .done (.notApplied "no uncredited patch-timeliness SLA breaches for this org")
    | some creditPct => .readingSubscription
      { orgId, approvedBy, counted := (uncredited breaches).map (·.key) } creditPct

/-- The route from the subscription on (lines 279–315), up to the call of Stripe. -/
def ofSubscription (credentials : Bool) (claimed : Claimed) (creditPct : ℚ) (now : ℤ) :
    K8sResult (Option StoredSubscription) → CreditCall
  | .error error => fails 502 error
  | .ok stored =>
    match (stored.map (·.stripeCustomerId)).filter (· ≠ ""),
        (stored.bind (·.stripeSubscriptionId)).filter (· ≠ "") with
    | some customerId, some subscriptionId =>
      if ¬ credentials then fails 502 "STRIPE_SECRET_KEY not configured"
      else if ¬ 0 < creditPct then
        fails 502 "creditPctOfMonthlySpend must be a real positive SLA credit percentage"
      else .retrieving claimed creditPct customerId subscriptionId (currentMonth now)
    | _, _ =>
      fails 422 ("no real Stripe customer/subscription on file for org '" ++ claimed.orgId ++
        "' -- cannot apply a patch-timeliness SLA credit")

/-- What follows the retrieved subscription. -/
def ofRetrieve (claimed : Claimed) (creditPct : ℚ) (customerId subscriptionId month : String)
    (result : K8sResult Subscription) : CreditCall :=
  match slaCreditCents creditPct subscriptionId result with
  | .error error => fails 502 error
  | .ok (creditCents, currency) => .crediting claimed customerId month creditCents currency

/-- The walk of `runPatchSlaBreachScan` (lines 373–380) up to its next organisation. -/
def nextOrg (report : PatchSlaBreachScanReport) : List Org → CreditCall
  | [] => .done (.scanned (.ok report))
  | org :: rest =>
    match org.patchSlaTier with
    | none => nextOrg { report with orgsSkipped := report.orgsSkipped + 1 } rest
    | some patchSlaTier => .listingDeployments
      { report := { report with orgsScanned := report.orgsScanned + 1 }, rest
        result := { orgId := org.id, patchSlaTier, newBreaches := 0, errors := [] } } org

/-- The end of `scanOrgForBreaches`. -/
def endOrg (scan : Scan) : CreditCall :=
  nextOrg { scan.report with results := scan.report.results ++ [scan.result] } scan.rest

/-- The next image of `scanOrgForBreaches` (line 326). -/
def nextImage (scan : Scan) : List String → CreditCall
  | [] => endOrg scan
  | imageRef :: imageRefs => .readingFindings scan imageRef imageRefs

/-- The next overdue finding of an image (lines 333–337). -/
def nextFinding (scan : Scan) (imageRef : String) (imageRefs : List String) (now : ℤ) :
    List PatchSlaFinding → CreditCall
  | [] => nextImage scan imageRefs
  | finding :: findings =>
    if finding.overdue scan.result.patchSlaTier now then
      .inserting scan imageRef imageRefs finding findings
    else nextFinding scan imageRef imageRefs now findings

/-- The error is recorded in the result of the organisation. -/
def addError (scan : Scan) (error : String) : Scan :=
  { scan with result := { scan.result with errors := scan.result.errors ++ [error] } }

/-- The row that a scan inserts (lines 338–345). -/
def newBreach (scan : Scan) (imageRef : String) (finding : PatchSlaFinding) (now : ℤ) :
    PatchSlaBreach where
  key := { orgId := scan.result.orgId, imageRef, vulnerabilityId := finding.vulnerabilityId }
  severity := finding.severity
  patchSlaTier := scan.result.patchSlaTier
  committedHours := patchSlaCommittedHours scan.result.patchSlaTier finding.severity
  detectedAt := finding.detectedAt
  breachedAt := now
  creditAppliedAt := none

/-- The scan after its insertion (line 346). -/
def countBreach (scan : Scan) (inserted : Bool) : Scan :=
  { scan with result :=
    { scan.result with newBreaches := scan.result.newBreaches + inserted.toNat } }

/-- A call up to its first await. -/
def enter : CreditRequest → CreditCall
  | .post orgId => .readingOrg orgId
  | .scan => .listingOrgs

/-- The call goes on with an answer, if it waits for such an answer. -/
def resume (credentials : Bool) (table : BreachTable) :
    CreditCall → CreditAnswer → Option (CreditCall × BreachTable)
  | .readingOrg orgId, .org result => some (ofOrg orgId result, table)
  | .checkingRole orgId org, .role granted => some (ofRole orgId org granted, table)
  | .checkingApproval orgId tier, .approval result => some (ofApproval orgId tier result, table)
  | .readingBreaches orgId tier approvedBy, .breaches read =>
    some (ofBreaches orgId tier approvedBy (read.map fun _ => table.ofOrg orgId), table)
  | .readingSubscription claimed creditPct, .subscription result now =>
    some (ofSubscription credentials claimed creditPct now result, table)
  | .retrieving claimed creditPct customerId subscriptionId month, .retrieve result =>
    some (ofRetrieve claimed creditPct customerId subscriptionId month result, table)
  | .crediting _ _ _ _ _, .balance (.error error) =>
    some (fails 502 ("Stripe API error: " ++ error), table)
  | .crediting claimed _ _ amountCents currency, .balance (.ok transactionId) =>
    some (.marking { claimed with transactionId, amountCents, currency }, table)
  | .marking credit, .marked (.error error) _ =>
    some (.done (.applied credit (.error error)), table)
  | .marking credit, .marked (.ok ()) now =>
    some (.done (.applied credit (.ok (uncredited (table.ofOrg credit.orgId)).length)),
      table.markCredited credit.orgId now)
  | .listingOrgs, .orgs (.error error) _ => some (.done (.scanned (.error error)), table)
  | .listingOrgs, .orgs (.ok orgs) now =>
    some (nextOrg { scannedAt := now, orgsScanned := 0, orgsSkipped := 0, results := [] } orgs,
      table)
  | .listingDeployments scan _, .deployments (.error error) =>
    some (endOrg (addError scan error), table)
  | .listingDeployments scan _, .deployments (.ok images) =>
    some (nextImage scan images.eraseDups, table)
  | .readingFindings scan _ imageRefs, .findings (.error error) _ =>
    some (nextImage (addError scan error) imageRefs, table)
  | .readingFindings scan imageRef imageRefs, .findings (.ok findings) now =>
    some (nextFinding scan imageRef imageRefs now findings, table)
  | .inserting scan imageRef imageRefs finding findings, .inserted now =>
    let row := newBreach scan imageRef finding now
    let inserted : Bool := row.key ∉ table.rows.map (·.key)
    some (nextFinding (countBreach scan inserted) imageRef imageRefs now findings,
      table.insert row)
  | _, _ => none

end CreditCall

/-- The route and the scans as a program of concurrent calls. -/
def creditProgram (credentials : Bool) :
    Program BreachTable CreditCall CreditRequest CreditAnswer Empty where
  enter table request := (CreditCall.enter request, table)
  resume := CreditCall.resume credentials
  move table _ := table

/-- The table and the calls. -/
abbrev CreditSystem := System BreachTable CreditCall

/-- A step of the system. -/
abbrev CreditEvent := Event CreditRequest CreditAnswer Empty

/-- No breaches, before the first call. -/
def creditStart : CreditSystem := { shared := KeyedTable.empty, calls := [] }

end ChatmanEcosystem.Console.PatchSla
