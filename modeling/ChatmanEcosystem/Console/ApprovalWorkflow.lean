import ChatmanEcosystem.Common.StableSort
import ChatmanEcosystem.Console.K8s
import ChatmanEcosystem.Js.Runtime
import ChatmanEcosystem.Rust.Result

/-!
# The approval workflow

Model of `platform-console/app/lib/approval-workflow.ts`, lines 55–89, 473–534
and 863–1057: the rows of the approvals ConfigMap, the requests and decisions
that write them, and `findApprovedRequest`. A row is stored as the JSON of an
`ApprovalRequest`; the model stores the request.

Results:

* `findApprovedRequest_ok`: no request is found exactly when no row is fresh.
* `recordApprovalDecision_distinct`: nobody decides on their own request.
-/

namespace ChatmanEcosystem.Console

open Common Js Rust

/-- `APPROVAL_TTL_HOURS` (line 55). -/
def approvalTtlHours : ℤ := 24

/-- `ApprovalAction` (lines 57–89). -/
inductive ApprovalAction
  | orgDelete
  | quotaOverride
  | tierDowngrade
  | backupRetentionChange
  | exportSubscriptionUpdate
  | drFailover
  | dsarErasure
  | castleVerbSchedule
  | freezeOverride
  | environmentPromote
  | deploymentQuarantine
  | slaCreditApply
  | patchSlaCreditApply
  | k8sFaultRemediateSuggest
  | pricingOverride
  | invoiceReconciliationApprove
  | ssoRoleMappingUpdate
  | complianceRotationBlock
  | breakGlassJustificationReview
  | subprocessorRegistryUpdate
  | cmekKeyBinding
  | leRequestRespond
  | dataDestructionCertificateIssue
  | deniedPartyOverride
  | changeOfControlNotify
  | insurancePolicyUpdate
  | personnelAttestationRecord
  | sourceEscrowSnapshot
  | pentestFindingResolve
  | vendorOffboardingAttestationIssue
  | legalHoldRelease
  | geofenceExceptionGrant
  deriving DecidableEq

/-- `ApprovalStatus` (line 473). -/
inductive ApprovalStatus
  | pending
  | approved
  | rejected
  deriving DecidableEq

/-- The members of `ApprovalResourcePayload` that a freeze override and an SLA credit have (lines
534–535 and 566). -/
structure ApprovalResourcePayload where
  requestedFreezeId : Option String := none
  requestedFreezeReason : Option String := none
  requestedSlaCreditMonth : Option String := none
  deriving DecidableEq

/-- `ApprovalRequest` (lines 863–874). -/
structure ApprovalRequest where
  requestId : String
  action : ApprovalAction
  targetId : String
  requestedBy : String
  requestedAt : String
  status : ApprovalStatus
  approvedBy : Option String
  approvedAt : Option String
  reason : Option String
  resourcePayload : Option ApprovalResourcePayload
  deriving DecidableEq

/-- The data of the approvals ConfigMap. -/
abbrev ApprovalStore := Std.ExtTreeMap String ApprovalRequest

/-- The input of `createApprovalRequest` and `requireApproval`. -/
structure ApprovalInput where
  action : ApprovalAction
  targetId : String
  requestedBy : String
  resourcePayload : Option ApprovalResourcePayload
  deriving DecidableEq

variable (js : JsRuntime)

/-- `getAll` (lines 899–917); `read` is what the ConfigMap read answers. -/
def getAll (read : K8sResult (Option ApprovalStore)) : K8sResult ApprovalStore :=
  read.map fun store => store.getD ∅

/-- `listApprovals` (lines 919–926). -/
def listApprovals (read : K8sResult (Option ApprovalStore)) : K8sResult (List ApprovalRequest) :=
  (getAll read).map fun store =>
    (store.toList.map (·.2)).mergeSort fun a b => js.localeCompare b.requestedAt a.requestedAt ≤ 0

/-- `getApproval` (lines 928–932). -/
def getApproval (read : K8sResult (Option ApprovalStore)) (requestId : String) :
    K8sResult (Option ApprovalRequest) :=
  (getAll read).map fun store => store[requestId]?

/-- The row that `createApprovalRequest` writes (lines 946–955). -/
def newRequest (input : ApprovalInput) (requestId : String) (now : ℤ) : ApprovalRequest :=
  { requestId, action := input.action, targetId := input.targetId
    requestedBy := input.requestedBy, requestedAt := js.toISOString now, status := .pending
    approvedBy := none, approvedAt := none, reason := none
    resourcePayload := input.resourcePayload }

/-- `createApprovalRequest` (lines 940–961); `write` is what the ConfigMap write answers. -/
def createApprovalRequest (input : ApprovalInput) (requestId : String) (now : ℤ)
    (write : K8sResult Unit) : K8sResult ApprovalRequest :=
  write.map fun _ => newRequest js input requestId now

/-- The input of `recordApprovalDecision`; an approval or a rejection. -/
structure DecisionInput where
  requestId : String
  approve : Bool
  approvedBy : String
  reason : Option String
  deriving DecidableEq

/-- `recordApprovalDecision` (lines 975–999) up to its write: the updated row. -/
def recordApprovalDecision (input : DecisionInput) (read : K8sResult (Option ApprovalStore))
    (now : ℤ) : K8sResult ApprovalRequest := do
  match ← getApproval read input.requestId with
  | none => .error "not_found"
  | some existing =>
    ensure (existing.status = .pending) "already_decided"
    ensure (existing.requestedBy ≠ input.approvedBy) "self_approval"
    return { existing with
      status := if input.approve then .approved else .rejected
      approvedBy := some input.approvedBy
      approvedAt := some (js.toISOString now)
      reason := input.reason }

/-- The rows that `findApprovedRequest` accepts at an instant (lines 1015–1024). -/
def Fresh (action : ApprovalAction) (targetId : String) (now : ℤ) (request : ApprovalRequest) :
    Prop :=
  request.action = action ∧ request.targetId = targetId ∧ request.status = .approved ∧
    ∃ approvedAt ∈ request.approvedAt, ∃ instant ∈ js.dateParse approvedAt,
      now - approvalTtlHours * 60 * 60 * 1000 ≤ instant

instance (action : ApprovalAction) (targetId : String) (now : ℤ) :
    DecidablePred (Fresh js action targetId now) := fun request => by
  unfold Fresh
  infer_instance

/-- `findApprovedRequest` (lines 1008–1028). -/
def findApprovedRequest (action : ApprovalAction) (targetId : String)
    (read : K8sResult (Option ApprovalStore)) (now : ℤ) : K8sResult (Option ApprovalRequest) :=
  (listApprovals js read).map fun all =>
    ((all.filter fun request => Fresh js action targetId now request).mergeSort fun a b =>
      js.localeCompare (b.approvedAt.getD "") (a.approvedAt.getD "") ≤ 0).head?

/-- `requireApproval` (lines 1040–1057): an approval, or the pending request. -/
def requireApproval (input : ApprovalInput) (read : K8sResult (Option ApprovalStore)) (now : ℤ)
    (requestId : String) (requestedAt : ℤ) (write : K8sResult Unit) :
    K8sResult (ApprovalRequest ⊕ ApprovalRequest) := do
  match ← findApprovedRequest js input.action input.targetId read now with
  | some approval => return .inl approval
  | none => return .inr (← createApprovalRequest js input requestId requestedAt write)

/-! ## What is found -/

variable {js}

/-- A row of the store that `findApprovedRequest` accepts. -/
def HasFresh (js : JsRuntime) (action : ApprovalAction) (targetId : String)
    (store : Option ApprovalStore) (now : ℤ) : Prop :=
  ∃ (requestId : String) (request : ApprovalRequest), (store.getD ∅)[requestId]? = some request ∧
    Fresh js action targetId now request

theorem findApprovedRequest_ok (js : JsRuntime) (action : ApprovalAction) (targetId : String)
    (store : Option ApprovalStore) (now : ℤ) :
    ∃ found, findApprovedRequest js action targetId (.ok store) now = .ok found ∧
      (found = none ↔ ¬ HasFresh js action targetId store now) := by
  refine ⟨_, rfl, ?_⟩
  rw [head?_mergeSort_eq_none, List.filter_eq_nil_iff]
  simp only [List.mem_mergeSort, List.mem_map, decide_eq_true_eq, HasFresh]
  constructor
  · rintro h ⟨requestId, request, hrow, hfresh⟩
    exact h request ⟨(requestId, request), Std.ExtTreeMap.mem_toList_iff_getElem?_eq_some.mpr hrow,
      rfl⟩ hfresh
  · rintro h request ⟨⟨requestId, _⟩, hmem, rfl⟩ hfresh
    exact h ⟨requestId, _, Std.ExtTreeMap.mem_toList_iff_getElem?_eq_some.mp hmem, hfresh⟩

/-- Nobody decides on their own request. -/
theorem recordApprovalDecision_distinct {input : DecisionInput}
    {read : K8sResult (Option ApprovalStore)} {now : ℤ} {request : ApprovalRequest}
    (h : recordApprovalDecision js input read now = .ok request) :
    request.approvedBy = some input.approvedBy ∧ request.requestedBy ≠ input.approvedBy := by
  obtain ⟨found, -, h⟩ := bind_eq_ok.mp h
  cases found with
  | none => cases h
  | some existing =>
    simp only [bind_eq_ok, ensure_eq_ok, pure_eq_ok] at h
    obtain ⟨_, -, _, hdistinct, rfl⟩ := h
    exact ⟨rfl, hdistinct⟩

end ChatmanEcosystem.Console
