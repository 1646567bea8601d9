import ChatmanEcosystem.Common.Concurrent
import ChatmanEcosystem.Console.AuditChain
import ChatmanEcosystem.Console.K8s

/-!
# Legal holds and the retention purge

Model of `placeLegalHold`, `releaseLegalHold` and the lookups of
`platform-console/app/lib/legal-hold.ts`, lines 66–336, and of
`purgeExpiredAuditRows` (`app/lib/retention.ts`, lines 155–238), as concurrent
calls over the ConfigMap of the holds and the audit log. A call stops at its
awaits. A write that fails changes nothing, a purge of the log is one transaction
under the advisory lock, and `crypto.randomUUID()` is not the id of a stored hold.
Others persist entries of the audit log at any time. The receipts of the purge are
not kept, since no call reads them.

Results:

* `mem_activeHolds`, `mem_excludeOrgIds`: which holds the guard of a purge sees, and what it
  excludes for them.
-/

namespace ChatmanEcosystem.Console.LegalHolds

open Common.Concurrent Js Rust

/-- `LegalHoldScope` (line 69). -/
inductive LegalHoldScope
  | platform
  | org
  deriving DecidableEq

/-- `LegalHoldStatus` (line 70). -/
inductive LegalHoldStatus
  | active
  | released
  deriving DecidableEq

/-- `LegalHold` (lines 72–91). -/
structure LegalHold where
  holdId : String
  scope : LegalHoldScope
  orgId : Option String
  name : String
  reason : String
  status : LegalHoldStatus
  createdBy : String
  createdAt : String
  releasedBy : Option String
  releasedAt : Option String
  releaseReason : Option String
  deriving DecidableEq

/-- The data of the ConfigMap, by the ids of the holds. -/
abbrev HoldStore := Std.ExtTreeMap String LegalHold

/-- `getLegalHold` (lines 155–159); `read` is what the ConfigMap read answers. -/
def getLegalHold (read : K8sResult HoldStore) (holdId : String) : K8sResult (Option LegalHold) :=
  read.map fun store => store[holdId]?

/-- The input of `placeLegalHold` (lines 184–190). -/
structure LegalHoldInput where
  scope : LegalHoldScope
  orgId : Option String
  name : String
  reason : String
  createdBy : String

/-- `LegalHoldPurgeGuard` (lines 299–310). -/
structure LegalHoldPurgeGuard where
  blockedEntirely : Bool
  excludeOrgIds : List String
  activeHolds : List LegalHold
  deriving DecidableEq

section Model

variable (js : JsRuntime)

/-- The active holds, the newest first (lines 170–172). -/
def activeHolds (store : HoldStore) : List LegalHold :=
  ((store.toList.map (·.2)).filter fun hold => hold.status = .active).mergeSort
    fun a b => js.localeCompare b.createdAt a.createdAt ≤ 0

/-- `listActiveLegalHolds` (lines 167–174). -/
def listActiveLegalHolds (read : K8sResult HoldStore) : K8sResult (List LegalHold) :=
  read.map (activeHolds js)

/-- The hold that `placeLegalHold` stores (lines 191–200). -/
def placedHold (input : LegalHoldInput) (holdId : String) (now : ℤ) : LegalHold where
  holdId
  scope := input.scope
  orgId := match input.scope with
    | .platform => none
    | .org => input.orgId
  name := input.name
  reason := input.reason
  status := .active
  createdBy := input.createdBy
  createdAt := js.toISOString now
  releasedBy := none
  releasedAt := none
  releaseReason := none

/-- The hold that `releaseLegalHold` stores (lines 270–276). -/
def releasedHold (existing : LegalHold) (releasedBy releaseReason : String) (now : ℤ) : LegalHold :=
  { existing with
    status := .released
    releasedBy := some releasedBy
    releasedAt := some (js.toISOString now)
    releaseReason := some releaseReason }

/-- The guard of these active holds (lines 322–334). -/
def LegalHoldPurgeGuard.ofActive (active : List LegalHold) : LegalHoldPurgeGuard where
  blockedEntirely := active.any fun hold => hold.scope = .platform
  excludeOrgIds := (active.filterMap fun hold =>
    if hold.scope = .org then hold.orgId.filter (· ≠ "") else none).eraseDups
  activeHolds := active

/-- `computeLegalHoldPurgeGuard` (lines 318–336). -/
def computeLegalHoldPurgeGuard (read : K8sResult HoldStore) : K8sResult LegalHoldPurgeGuard :=
  (listActiveLegalHolds js read).map .ofActive

/-- An audit entry of a hold or of a purge. -/
def holdEntry (orgId : Option String) (actor path requestId : String)
    (now : ℤ) : AuditLogEntry where
  requestId
  timestamp := js.toISOString now
  actor
  method := "POST"
  path
  status := 200
  castleReceiptDigest := none
  impersonatedBy := none
  impersonationSessionId := none
  orgId := presentText orgId
  keyId := none
  durationMs := none
  slaCreditStripeTransactionId := none
  slaCreditAmountCents := none
  slaCreditMonth := none

end Model

/-- The active holds are those that are stored as active. -/
theorem mem_activeHolds {js : JsRuntime} {store : HoldStore} {hold : LegalHold} :
    hold ∈ activeHolds js store ↔
      (∃ key : String, store[key]? = some hold) ∧ hold.status = .active := by
  rw [activeHolds, List.mem_mergeSort, List.mem_filter, List.mem_map, decide_eq_true_eq]
  refine and_congr_left fun _ => ?_
  constructor
  · rintro ⟨⟨key, hold⟩, hmem, rfl⟩
    exact ⟨key, Std.ExtTreeMap.mem_toList_iff_getElem?_eq_some.mp hmem⟩
  · rintro ⟨key, hkey⟩
    exact ⟨(key, hold), Std.ExtTreeMap.mem_toList_iff_getElem?_eq_some.mpr hkey, rfl⟩

/-- Holds that do not block a purge are of organisations, which the purge excludes. -/
theorem mem_excludeOrgIds {active : List LegalHold}
    (hblocked : (LegalHoldPurgeGuard.ofActive active).blockedEntirely = false) {hold : LegalHold}
    (hmem : hold ∈ active) :
    hold.scope = .org ∧ ∀ orgId : Text, hold.orgId = some orgId.val →
      orgId.val ∈ (LegalHoldPurgeGuard.ofActive active).excludeOrgIds := by
  have hscope : hold.scope = .org := by
    cases hscope : hold.scope with
    | org => rfl
    | platform => exact absurd hscope (by simpa using List.any_eq_false.mp hblocked hold hmem)
  refine ⟨hscope, fun orgId horg => List.mem_eraseDups.mpr (List.mem_filterMap.mpr ⟨hold, hmem,
    ?_⟩)⟩
  rw [if_pos hscope, horg]
  exact Option.filter_eq_some_iff.mpr ⟨rfl, decide_eq_true orgId.property⟩

/-- The cutoff of a purge (`retention.ts`, line 189). -/
def cutoff (retentionDays : ℚ) (now : ℤ) : Option ℤ :=
  timeClip (now - retentionDays * 24 * 60 * 60 * 1000)

/-- `RetentionPurgeReceipt` (`retention.ts`, lines 110–118). -/
structure RetentionPurgeReceipt where
  id : ℕ
  ranAt : ℤ
  cutoff : String
  retentionDays : ℚ
  deletedCount : ℕ
  tombstone : Option String
  actor : String
  deriving DecidableEq

/-- The receipt of a purge (`retention.ts`, lines 124–141). -/
def toReceipt (id : ℕ) (ranAt : ℤ) (retentionDays : ℚ) (actor : String)
    (purged : AuditLogPurgeResult) : RetentionPurgeReceipt where
  id
  ranAt
  cutoff := purged.cutoff
  retentionDays
  deletedCount := purged.deletedCount
  tombstone := purged.tombstone
  actor

/-! ## The calls -/

/-- A call. `retentionDays` is `none` for a number that is not finite. -/
inductive Request
  | place (input : LegalHoldInput) (holdId : String) (now : ℤ)
  | release (holdId releasedBy releaseReason : String)
  | purge (retentionDays : Option ℚ) (actor : String)

/-- How a call ends; the last is an exception. -/
inductive Outcome
  | placed (result : K8sResult LegalHold)
  | released (result : K8sResult LegalHold)
  | purged (result : K8sResult RetentionPurgeReceipt)
  | rejected (error : String)
  deriving DecidableEq

/-- What an audit entry is written for. -/
inductive Audited
  | placed (hold : LegalHold)
  | released (hold : LegalHold)
  | blocked (blockingHold : Option LegalHold)
  | excluded (retentionDays : ℚ) (actor : String) (purged : AuditLogPurgeResult)
  deriving DecidableEq

/-- Where a call stands: what it awaits, with what it has read. -/
inductive Phase
  | placeWrite (hold : LegalHold)
  | releaseRead (holdId releasedBy releaseReason : String)
  | releaseWrite (released : LegalHold) (releasedBy : String)
  | pool (retentionDays : ℚ) (actor : String)
  | guardRead (retentionDays : ℚ) (actor : String)
  | purge (retentionDays : ℚ) (actor : String) (cutoff : Option ℤ) (guard : LegalHoldPurgeGuard)
  | receipt (retentionDays : ℚ) (actor : String) (purged : AuditLogPurgeResult)
  | audit (entry : AuditLogEntry) (ts : ℤ) (audited : Audited)
  | done (outcome : Outcome)
  deriving DecidableEq

/-- `new Date()` and `newRequestId()` where a call goes on. -/
structure Moment where
  now : ℤ
  requestId : String

/-- What an awaited operation answers. A pool may be absent; an entry is inserted after `skipped`
values of the sequence, or there is no database; a receipt gets an id and an instant. -/
inductive Answer
  | read (result : K8sResult Unit) (moment : Moment)
  | write (result : K8sResult Unit) (moment : Moment)
  | pool (result : K8sResult Bool)
  | purge (result : K8sResult Unit) (moment : Moment)
  | audit (result : K8sResult (Option ℕ))
  | receipt (result : K8sResult (ℕ × ℤ))

/-- The holds and the audit log. Beside them stands what has happened: `placed` are the holds whose
placement has returned, `ended` the ids of the holds whose release was stored. -/
structure Office where
  holds : HoldStore
  log : AuditTable
  placed : List LegalHold
  ended : List String

/-- An entry that somebody persists. -/
structure Persisted where
  ts : ℤ
  skipped : ℕ
  entry : AuditLogEntry

section Program

variable (js : JsRuntime) (sha256 : String → String)

/-- A committed entry. -/
def Office.persist (office : Office) (persisted : Persisted) : Office :=
  { office with
    log := persistAuditLogEntry sha256 persisted.ts persisted.skipped persisted.entry office.log }

/-- A committed purge of the log. -/
def Office.purge (office : Office) (cutoff : ℤ) (excludeOrgIds : List String) : Office :=
  { office with
    log := { office.log with
      rows := (purgeAuditLogRowsOlderThan js sha256 cutoff excludeOrgIds office.log.rows).2 } }

namespace Phase

/-- A purge ends without a receipt. -/
def purgeFails (error : String) : Phase := .done (.purged (.error error))

/-- The entry of a placement (`legal-hold.ts`, lines 204–215). -/
def ofPlaced (hold : LegalHold) (moment : Moment) : Phase :=
  .audit (holdEntry js hold.orgId hold.createdBy
    ("/api/owner/legal-hold (holdId=" ++ hold.holdId ++ ")") moment.requestId moment.now)
    moment.now (.placed hold)

/-- `releaseLegalHold` after its read (lines 260–277). -/
def ofExisting (holdId releasedBy releaseReason : String) (existing : Option LegalHold) (now : ℤ) :
    Phase :=
  match existing with
  | none => .done (.released (.error ("no legal hold found with id '" ++ holdId ++ "'")))
  | some existing =>
    if existing.status = .released then .done (.released (.ok existing))
    else .releaseWrite (releasedHold js existing releasedBy releaseReason now) releasedBy

/-- The entry of a release (lines 280–291). -/
def ofReleased (released : LegalHold) (releasedBy : String) (moment : Moment) : Phase :=
  .audit (holdEntry js released.orgId releasedBy
    ("/api/owner/legal-hold (holdId=" ++ released.holdId ++ ", action=release)") moment.requestId
    moment.now) moment.now (.released released)

/-- A purge after it has read the holds (`retention.ts`, lines 170–191). -/
def ofGuard (retentionDays : ℚ) (actor : String) (guard : LegalHoldPurgeGuard) (moment : Moment) :
    Phase :=
  if guard.blockedEntirely then
    .audit (holdEntry js none actor "/api/cron/retention-purge (blocked by legal hold)"
      moment.requestId moment.now) moment.now
      (.blocked (guard.activeHolds.find? fun hold => hold.scope = .platform))
  else .purge retentionDays actor (LegalHolds.cutoff retentionDays moment.now) guard

/-- A purge after its transaction (lines 195–208). -/
def ofPurged (retentionDays : ℚ) (actor : String) (guard : LegalHoldPurgeGuard)
    (purged : AuditLogPurgeResult) (moment : Moment) : Phase :=
  if 0 < guard.excludeOrgIds.length then
    .audit (holdEntry js none actor ("/api/cron/retention-purge (legal-hold-excluded orgs=" ++
      ",".intercalate guard.excludeOrgIds ++ ")") moment.requestId moment.now) moment.now
      (.excluded retentionDays actor purged)
  else .receipt retentionDays actor purged

/-- What follows an audit entry. -/
def audited : Audited → Phase
  | .placed hold => .done (.placed (.ok hold))
  | .released hold => .done (.released (.ok hold))
  | .blocked blockingHold => purgeFails
    ("retention purge refused: an active platform-wide legal hold (" ++
      (blockingHold.map (·.holdId)).getD "unknown" ++ ", \"" ++
      (blockingHold.map (·.name)).getD "unnamed" ++ "\") is in force -- nothing was destroyed")
  | .excluded retentionDays actor purged => .receipt retentionDays actor purged

/-- A call up to its first await. -/
def enter : Request → Phase
  | .place input holdId now => .placeWrite (placedHold js input holdId now)
  | .release holdId releasedBy releaseReason => .releaseRead holdId releasedBy releaseReason
  | .purge retentionDays actor =>
    match retentionDays.filter (0 < ·) with
    | none => purgeFails "retentionDays must be a positive number"
    | some retentionDays => .pool retentionDays actor

/-- The call goes on with an answer, if it waits for such an answer. -/
def resume (office : Office) : Phase → Answer → Option (Phase × Office)
  | .placeWrite _, .write (.error error) _ => some (.done (.placed (.error error)), office)
  | .placeWrite hold, .write (.ok ()) moment =>
    if hold.holdId ∈ office.holds then none
    else some (ofPlaced js hold moment,
      { office with holds := office.holds.insert hold.holdId hold })
  | .releaseRead _ _ _, .read (.error error) _ => some (.done (.released (.error error)), office)
  | .releaseRead holdId releasedBy releaseReason, .read (.ok ()) moment =>
    some (ofExisting js holdId releasedBy releaseReason office.holds[holdId]? moment.now, office)
  | .releaseWrite _ _, .write (.error error) _ => some (.done (.released (.error error)), office)
  | .releaseWrite released releasedBy, .write (.ok ()) moment =>
    some (ofReleased js released releasedBy moment,
      { office with
        holds := office.holds.insert released.holdId released
        ended := released.holdId :: office.ended })
  | .pool _ _, .pool (.error error) => some (.done (.rejected error), office)
  | .pool _ _, .pool (.ok false) =>
    some (purgeFails "audit log database not configured or unreachable", office)
  | .pool retentionDays actor, .pool (.ok true) => some (.guardRead retentionDays actor, office)
  | .guardRead retentionDays actor, .read result moment =>
    match computeLegalHoldPurgeGuard js (result.map fun _ => office.holds) with
    | .error error => some (purgeFails error, office)
    | .ok guard => some (ofGuard js retentionDays actor guard moment, office)
  | .purge _ _ _ _, .purge (.error error) _ => some (purgeFails error, office)
  | .purge _ _ none _, .purge (.ok ()) _ => some (.done (.rejected "Invalid time value"), office)
  | .purge retentionDays actor (some cutoff) guard, .purge (.ok ()) moment =>
    some (ofPurged js retentionDays actor guard (purgeAuditLogRowsOlderThan js sha256 cutoff
      guard.excludeOrgIds office.log.rows).1 moment,
      office.purge js sha256 cutoff guard.excludeOrgIds)
  | .receipt _ _ _, .receipt (.error error) => some (purgeFails error, office)
  | .receipt retentionDays actor purged, .receipt (.ok (id, ranAt)) =>
    some (.done (.purged (.ok (toReceipt id ranAt retentionDays actor purged))), office)
  | .audit _ _ _, .audit (.error error) => some (.done (.rejected error), office)
  | .audit entry ts what, .audit (.ok skipped) =>
    let office := match skipped with
      | none => office
      | some skipped => office.persist sha256 { ts, skipped, entry }
    some (audited what, match what with
      | .placed hold => { office with placed := hold :: office.placed }
      | _ => office)
  | _, _ => none

end Phase

/-- The calls as a program of concurrent calls. -/
def program : Program Office Phase Request Answer Persisted where
  enter office request := (Phase.enter js request, office)
  resume := Phase.resume js sha256
  move := Office.persist sha256

end Program

end ChatmanEcosystem.Console.LegalHolds
