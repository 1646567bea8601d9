import ChatmanEcosystem.Py.Value

/-!
# The data of the root crown

Model of the requirements, the evidence bindings and the requirement states of
`scripts/release_train/root_crown/model.py` (lines 224–525). The fields of a binding that the
dataclass types as text or `None` are texts; what a receipt declares of its lineage is any value.
-/

namespace ChatmanEcosystem.RootCrown

open Py

/-! ## Codes -/

/-- `BINDING_KINDS` (line 224). -/
def bindingKinds : List String :=
  ["IN_TREE_DERIVED", "REMOTE_RECEIPT", "OPERATOR_LOCAL", "LOCAL_RECEIPT"]

/-- `SCHEMA_BINDING` (line 225). -/
def schemaBinding : String := "https://chatman.dev/root-crown/evidence-binding/v1"

/-- `FAILURE_CLASS` (lines 259–356): the failure class and the broken term of each code. -/
def failureClass : List (String × String × String) :=
  [("REQ_MALFORMED", "EVIDENCE_FAILURE", "admission_vacuous"),
    ("REQ_DUPLICATE_ID", "EVIDENCE_FAILURE", "admission_vacuous"),
    ("REQ_COVERAGE_GAP", "EVIDENCE_FAILURE", "admission_vacuous"),
    ("REQ_OWNER_UNADMITTED", "AUTHORITY_FAILURE", "R_missing_authority"),
    ("REQ_TERM_UNBOUND", "EVIDENCE_FAILURE", "admission_vacuous"),
    ("REQ_PREMISE_UNBOUND", "AUTHORITY_FAILURE", "mu_on_O"),
    ("REQ_KIND_UNKNOWN", "CAPABILITY_GAP", "admission_vacuous"),
    ("PROJECTION_DRIFT", "VERIFICATION_FAILURE", "mu_unlawful"),
    ("PROJECTION_INPUT_MISSING", "EVIDENCE_FAILURE", "R_missing_replay"),
    ("STALE_PROJECTION", "DEPENDENCY_FAILURE", "R_not_fed_back"),
    ("ARTIFACT_DIGEST_MISMATCH", "EVIDENCE_FAILURE", "R_missing_identity"),
    ("OMITTED_SUBJECT", "DEPENDENCY_FAILURE", "R_missing_consequence"),
    ("UNEVIDENCED_WORK", "EVIDENCE_FAILURE", "mu_on_O"),
    ("AUTHORITY_INCREASE", "AUTHORITY_FAILURE", "R_missing_authority"),
    ("BREAK_GLASS_AS_NORMAL", "AUTHORITY_FAILURE", "R_missing_authority"),
    ("PREMISE_UNBOUND", "AUTHORITY_FAILURE", "mu_on_O"),
    ("DEPENDENCY_CYCLE", "DEPENDENCY_FAILURE", "mu_unlawful"),
    ("NO_RENEWAL_DELTA", "VERIFICATION_FAILURE", "admission_vacuous"),
    ("CONSTRAINT_WEAKENING", "MODEL_COUNTEREXAMPLE", "mu_unlawful"),
    ("CROSS_PARTITION_CONTAMINATION", "EVIDENCE_FAILURE", "R_missing_identity"),
    ("STRATEGY_UNBOUNDED", "CAPABILITY_GAP", "admission_vacuous"),
    ("MANIFEST_INVALID", "VERIFICATION_FAILURE", "mu_unlawful"),
    ("SUBJECT_NOT_TERMINAL", "SUBJECT_FAILURE", "R_missing_standing"),
    ("ORIGIN_AUTHORITY_NOT_UNIQUE", "AUTHORITY_FAILURE", "R_missing_authority"),
    ("ARTIFACT_REFUSED", "VERIFICATION_FAILURE", "R_missing_standing"),
    ("ARTIFACT_SUBJECT_SPLIT", "SUBJECT_FAILURE", "R_missing_identity"),
    ("UNAUTHORIZED_WORKTREE", "SUBJECT_FAILURE", "mu_on_O"),
    ("TRANSIENT_DEPENDENCY", "DEPENDENCY_FAILURE", "R_missing_identity"),
    ("SHA_NOT_MERGED", "SUBJECT_FAILURE", "R_missing_identity"),
    ("COLD_RECONSTRUCTION_DIVERGED", "BUILD_FAILURE", "R_missing_replay"),
    ("BERTHIER_COURT_FAILED", "VERIFICATION_FAILURE", "mu_unlawful"),
    ("XPROD_REFUSED", "MODEL_COUNTEREXAMPLE", "admission_vacuous"),
    ("TAG_SHA_SPLIT", "AUTHORITY_FAILURE", "R_missing_identity"),
    ("CLAIM_WITHOUT_RECEIPT", "EVIDENCE_FAILURE", "R_missing_consequence"),
    ("RECEIPT_CHAIN_BROKEN", "EVIDENCE_FAILURE", "R_not_fed_back"),
    ("CROWN_SHA_SPLIT", "SUBJECT_FAILURE", "R_missing_identity"),
    ("BLOCKED_WITHOUT_TYPE", "EVIDENCE_FAILURE", "R_missing_standing"),
    ("UNKNOWN_EVIDENCE_KIND", "CAPABILITY_GAP", "admission_vacuous"),
    ("PRIVATE_OBSERVATION_DIGEST_MISMATCH", "EVIDENCE_FAILURE", "R_missing_identity"),
    ("PRIVATE_HEAD_SPLIT", "SUBJECT_FAILURE", "R_missing_identity"),
    ("REQUIRED_UNKNOWN", "EVIDENCE_FAILURE", "R_missing_standing"),
    ("VERIFIER_CRASHED", "VERIFICATION_FAILURE", "mu_unlawful"),
    ("TAG_OBJECT_DIGEST_MISMATCH", "EVIDENCE_FAILURE", "R_missing_identity"),
    ("TAG_MUTATED", "AUTHORITY_FAILURE", "R_missing_identity"),
    ("TAG_SUBJECT_SPLIT", "SUBJECT_FAILURE", "R_missing_identity"),
    ("TAG_RECEIPT_SPLIT", "EVIDENCE_FAILURE", "R_missing_identity"),
    ("SUBJECT_TREE_MISMATCH", "SUBJECT_FAILURE", "R_missing_replay"),
    ("HISTORICAL_OBSERVATION_SPLIT", "EVIDENCE_FAILURE", "mu_on_O"),
    ("PAYLOAD_MUTATED_POST_TAG", "SUBJECT_FAILURE", "mu_unlawful"),
    ("TERMINALITY_POLICY_MISSING", "EVIDENCE_FAILURE", "admission_vacuous"),
    ("POLICY_COVERAGE_GAP", "EVIDENCE_FAILURE", "admission_vacuous"),
    ("POLICY_RELAXATION_UNGROUNDED", "AUTHORITY_FAILURE", "mu_on_O"),
    ("ACCEPTANCE_DRIFT", "VERIFICATION_FAILURE", "R_not_fed_back"),
    ("OWNER_SPLIT", "AUTHORITY_FAILURE", "R_missing_authority"),
    ("EVIDENCE_SUBJECT_SPLIT", "SUBJECT_FAILURE", "R_missing_identity"),
    ("EVIDENCE_SUBJECT_MUTABLE", "SUBJECT_FAILURE", "R_missing_identity"),
    ("EVIDENCE_LINEAGE_MISSING", "EVIDENCE_FAILURE", "R_missing_identity"),
    ("EVIDENCE_DIGEST_MISMATCH", "EVIDENCE_FAILURE", "R_missing_identity"),
    ("EVIDENCE_NOT_DURABLE", "EVIDENCE_FAILURE", "R_missing_replay"),
    ("EVIDENCE_CONTAINER_CLAIMS_SUBJECT", "SUBJECT_FAILURE", "mu_on_O"),
    ("EVIDENCE_DELTA_MISCLAIMED", "EVIDENCE_FAILURE", "admission_vacuous"),
    ("EVIDENCE_DELTA_UNBOUNDED", "EVIDENCE_FAILURE", "R_missing_identity"),
    ("TAG_UNRECORDED", "EVIDENCE_FAILURE", "R_missing_identity"),
    ("REPLAY_DIVERGED", "VERIFICATION_FAILURE", "R_missing_replay"),
    ("SUBJECT_ABSENT", "EVIDENCE_FAILURE", "R_missing_replay"),
    ("CURRENT_HEAD_UNATTESTED", "SUBJECT_FAILURE", "R_missing_identity"),
    ("EVIDENCE_ABSENT", "EVIDENCE_FAILURE", "R_missing_consequence"),
    ("OBSERVATION_MISSING", "TRANSPORT_FAILURE", "R_missing_identity"),
    ("OBSERVATION_STALE", "EVIDENCE_FAILURE", "R_not_fed_back"),
    ("NOT_COLD", "EVIDENCE_FAILURE", "R_missing_replay"),
    ("CLOSURE_PARTIAL", "DEPENDENCY_FAILURE", "R_missing_standing"),
    ("ARTIFACT_BLOCKED", "DEPENDENCY_FAILURE", "R_missing_standing"),
    ("ARTIFACT_UNBOUND", "EVIDENCE_FAILURE", "R_missing_identity"),
    ("ARTIFACT_NOT_JSON", "EVIDENCE_FAILURE", "R_missing_consequence"),
    ("XPROD_BLOCKED", "EVIDENCE_FAILURE", "R_missing_standing"),
    ("CROWN_DEPENDENCIES_OPEN", "DEPENDENCY_FAILURE", "R_missing_standing"),
    ("NEW_HEAD_UNEVIDENCED", "EVIDENCE_FAILURE", "R_missing_identity"),
    ("AUTONOMIC_RECEIPT_DIGEST_MISMATCH", "EVIDENCE_FAILURE", "R_missing_identity"),
    ("AUTONOMIC_STANDING_UNDERIVED", "VERIFICATION_FAILURE", "R_missing_standing"),
    ("AUTONOMIC_RECEIPT_STALE", "EVIDENCE_FAILURE", "R_not_fed_back"),
    ("AUTONOMIC_NOT_AUTONOMIC", "CAPABILITY_GAP", "mu_on_O"),
    ("CROWN_NOT_ALIVE", "DEPENDENCY_FAILURE", "R_missing_standing"),
    ("SHA_MISMATCH", "SUBJECT_FAILURE", "R_missing_identity"),
    ("TAG_EXISTS_ELSEWHERE", "AUTHORITY_FAILURE", "R_missing_identity"),
    ("RECEIPT_UNVERIFIED", "EVIDENCE_FAILURE", "R_missing_identity")]

/-! ## Requirements -/

/-- `class Requirement` (lines 376–386). -/
structure Requirement where
  id : String
  kind : String
  term : String
  ownerRepo : String
  acceptance : String
  evidenceKind : String
  evidenceLocator : String
  premiseRefs : List String
  dependsOn : List String
  required : Bool
  deriving DecidableEq

/-! ## Bindings -/

/-- A text, or `None`. -/
def ofText : Option String → Value
  | some text => .str text
  | none => .null

/-- `lineage_proof`. -/
structure LineageProof where
  status : Value
  deltaPaths : Option (List Value)
  deltaClass : Value

/-- `class EvidenceBinding` (lines 412–440). -/
structure EvidenceBinding where
  requirementId : String
  kind : String
  evaluatedSubjectSha : Option String
  evaluatedSubjectKind : String
  containerRepository : Option String
  evidenceContainerSha : Option String
  evidenceLocator : Option String
  evidenceDigest : Option String
  producer : String
  court : String
  command : Option String
  /-- `null`, or an integer. -/
  exitCode : Value
  toolchain : Option String
  standing : Option String
  owner : Option String
  ownerSource : String
  lineageProof : LineageProof
  bindingDigest : String

namespace EvidenceBinding

/-- The body of a binding, its changed paths sorted. -/
def bodyWith (binding : EvidenceBinding) (deltaPaths : Value) : Value :=
  .dict [("schema", .str schemaBinding), ("requirement_id", .str binding.requirementId),
    ("kind", .str binding.kind), ("evaluated_subject_sha", ofText binding.evaluatedSubjectSha),
    ("evaluated_subject_kind", .str binding.evaluatedSubjectKind),
    ("container_repository", ofText binding.containerRepository),
    ("evidence_container_sha", ofText binding.evidenceContainerSha),
    ("evidence_locator", ofText binding.evidenceLocator),
    ("evidence_digest", ofText binding.evidenceDigest), ("producer", .str binding.producer),
    ("court", .str binding.court), ("command", ofText binding.command),
    ("exit_code", binding.exitCode), ("toolchain", ofText binding.toolchain),
    ("standing", ofText binding.standing), ("owner", ofText binding.owner),
    ("owner_source", .str binding.ownerSource),
    ("lineage_proof", .dict [("status", binding.lineageProof.status), ("delta_paths", deltaPaths),
      ("delta_class", binding.lineageProof.deltaClass)])]

/-- `body` (lines 442–468). -/
def body (binding : EvidenceBinding) : Except PyError Value := do
  match binding.lineageProof.deltaPaths with
  | none => return binding.bodyWith .null
  | some paths => return binding.bodyWith (.list (← Value.sort paths))

/-- `computed_digest` (lines 470–471). -/
def computedDigest (py : PyRuntime) (binding : EvidenceBinding) : Except PyError String := do
  return py.sha256 (← py.dumps (← binding.body))

/-- The binding with a digest. -/
def withDigest (binding : EvidenceBinding) (digest : String) : EvidenceBinding :=
  { binding with bindingDigest := digest }

/-- `sealed` (lines 473–477). -/
def sealed (py : PyRuntime) (binding : EvidenceBinding) : Except PyError EvidenceBinding := do
  return binding.withDigest (← binding.computedDigest py)

end EvidenceBinding

/-! ## States of a requirement -/

/-- `STATES`. -/
inductive State
  | pass
  | blocked
  | refused
  | unknown
  deriving DecidableEq

/-- `class ReqState` (lines 484–509). The failure class and the broken term go by the code. -/
structure ReqState where
  state : State
  code : Option String
  detail : String
  subjectSha : Option String
  binding : Option EvidenceBinding

namespace ReqState

/-- `PASS` (lines 512–513). -/
def pass (detail : String) (subjectSha : Option String) (binding : Option EvidenceBinding) :
    ReqState where
  state := .pass
  code := none
  detail
  subjectSha
  binding

/-- `BLOCKED` (lines 516–517). -/
def blocked (code detail : String) (subjectSha : Option String) : ReqState where
  state := .blocked
  code := some code
  detail
  subjectSha
  binding := none

/-- `REFUSED` (lines 520–521). -/
def refused (code detail : String) (subjectSha : Option String) : ReqState where
  state := .refused
  code := some code
  detail
  subjectSha
  binding := none

/-- `UNKNOWN` (lines 524–525). -/
def unknown (code detail : String) (subjectSha : Option String) : ReqState where
  state := .unknown
  code := some code
  detail
  subjectSha
  binding := none

/-- The failure class and the broken term. -/
def classified (state : ReqState) : Option (String × String) :=
  state.code.bind fun code => failureClass.lookup code

end ReqState

end ChatmanEcosystem.RootCrown
