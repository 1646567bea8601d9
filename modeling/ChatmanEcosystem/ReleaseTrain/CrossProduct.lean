import ChatmanEcosystem.Py.Dict
import ChatmanEcosystem.Py.Value
import ChatmanEcosystem.Rust.Result

/-!
# The cross-product court

Model of `scripts/release_train/cross_product_court/evaluator.py` and of the cases of `model.py`
(lines 13–166), whose constructors refuse what the structures here cannot hold.
-/

namespace ChatmanEcosystem.ReleaseTrain.CrossProduct

open Py Rust

/-! ## Cases -/

/-- `class Formalism`. -/
inductive Formalism
  | hddl
  | fond
  | tla
  | powl
  | ocel
  | brce
  | receipt
  deriving DecidableEq

/-- The value of a formalism. -/
def Formalism.value : Formalism → String
  | .hddl => "HDDL"
  | .fond => "FOND"
  | .tla => "TLA+"
  | .powl => "POWL"
  | .ocel => "OCEL2"
  | .brce => "BRCE"
  | .receipt => "RECEIPT"

/-- `class EvidenceResult`. -/
inductive EvidenceResult
  | pass
  | counterexample
  | refused
  | blocked
  | unknown
  deriving DecidableEq

/-- The value of a result. -/
def EvidenceResult.value : EvidenceResult → String
  | .pass => "PASS"
  | .counterexample => "COUNTEREXAMPLE"
  | .refused => "REFUSED"
  | .blocked => "BLOCKED"
  | .unknown => "UNKNOWN"

/-- `class Standing`. -/
inductive Standing
  | alive
  | partialAlive
  | blocked
  | refused
  deriving DecidableEq

/-- The value of a standing. -/
def Standing.value : Standing → String
  | .alive => "ALIVE"
  | .partialAlive => "PARTIAL_ALIVE"
  | .blocked => "BLOCKED"
  | .refused => "REFUSED"

/-- Lowercase hexadecimal digits. -/
def isHex (text : String) : Bool := text.toList.all (· ∈ "0123456789abcdef".toList)

/-- `class SubjectBinding`. -/
structure SubjectBinding where
  repository : String
  subjectSha : String
  owned : '/' ∈ repository.toList ∧ repository.toList.head? ≠ some '/'
  exact : subjectSha.length = 40 ∧ isHex subjectSha = true
  deriving DecidableEq

/-- `SubjectBinding.identity`. -/
def SubjectBinding.identity (subject : SubjectBinding) : String :=
  subject.repository ++ "@" ++ subject.subjectSha

/-- `class EvidenceRecord`, with what the court reads of it. -/
structure EvidenceRecord where
  evidenceId : String
  subject : SubjectBinding
  formalism : Formalism
  claimId : String
  artifactDigest : String
  result : EvidenceResult
  deriving DecidableEq

/-- `class RelationRequirement`. -/
structure RelationRequirement where
  relationId : String
  left : Formalism
  right : Formalism
  claimId : String
  distinct : left ≠ right
  deriving DecidableEq

/-- `class MutantExpectation`. -/
structure MutantExpectation where
  mutantId : String
  formalism : Formalism
  claimId : String
  expected : EvidenceResult
  failClosed : expected = .counterexample ∨ expected = .refused
  deriving DecidableEq

/-- `class CrossProductCase`. -/
structure CrossProductCase where
  caseId : String
  semanticSubjectId : String
  subjects : List SubjectBinding
  requiredFormalisms : List Formalism
  evidence : List EvidenceRecord
  relations : List RelationRequirement
  mutants : List MutantExpectation
  bound : subjects ≠ []
  onePerRepository : (subjects.map SubjectBinding.repository).Nodup
  required : requiredFormalisms ≠ []
  requiredOnce : requiredFormalisms.Nodup
  deriving DecidableEq

/-! ## The court -/

/-- The exact subject of a repository. -/
def admittedSha (case : CrossProductCase) (repository : String) : Option String :=
  (ofPairs (case.subjects.map fun item => (item.repository, item.subjectSha))).lookup repository

/-- The evidence about an exact subject of the case. -/
def isBound (case : CrossProductCase) (item : EvidenceRecord) : Bool :=
  admittedSha case item.subject.repository = some item.subject.subjectSha

/-- `_index(case).get((formalism, claim_id), [])`. -/
def indexed (case : CrossProductCase) (formalism : Formalism) (claimId : String) :
    List EvidenceRecord :=
  case.evidence.filter fun item => item.formalism = formalism ∧ item.claimId = claimId

/-- `_by_digest`. -/
def byDigest (evidence : List EvidenceRecord) : List (String × List EvidenceRecord) :=
  collect (evidence.map fun item => (item.artifactDigest, item))

/-- The formalisms of some evidence. -/
def formalismsOf (evidence : List EvidenceRecord) : List Formalism :=
  (evidence.map EvidenceRecord.formalism).dedup

/-- Some evidence of one artifact witnesses a relation between each two of its formalisms. -/
def isWitness (case : CrossProductCase) (items : List EvidenceRecord) : Bool :=
  (items.map EvidenceRecord.claimId).dedup.length = 1 &&
    (formalismsOf items).all fun left => (formalismsOf items).all fun right =>
      !(decide (left.value < right.value)) || case.relations.any fun relation =>
        decide (some relation.claimId = (items.map EvidenceRecord.claimId).head?) &&
          (decide (relation.left = left ∧ relation.right = right) ||
            decide (relation.left = right ∧ relation.right = left))

/-- `_independence_refusals` (lines 33–68). -/
def independenceRefusals (case : CrossProductCase) : List String :=
  ((byDigest case.evidence).insertionSort fun a b => a.1 ≤ b.1).filterMap fun group =>
    if 2 ≤ (formalismsOf group.2).length ∧ ¬ isWitness case group.2 then
      some ("REFUSED:" ++ ("NON_INDEPENDENT_EVIDENCE:" ++ group.1 ++ ":" ++
        ",".intercalate (sorted (group.2.map EvidenceRecord.evidenceId))))
    else none

/-- `_independent_formalisms` (lines 71–78). -/
def independentFormalisms (evidence : List EvidenceRecord) : List Formalism :=
  (byDigest evidence).flatMap fun group =>
    if (formalismsOf group.2).length = 1 then formalismsOf group.2 else []

/-- The refusal of a record's subject (lines 92–101). -/
def subjectRefusal (case : CrossProductCase) (item : EvidenceRecord) : Option String :=
  match admittedSha case item.subject.repository with
  | none => some ("REFUSED:" ++ ("UNBOUND_EVIDENCE_REPOSITORY:" ++ item.subject.repository))
  | some expected =>
    if expected = item.subject.subjectSha then none
    else some ("REFUSED:" ++ ("SUBJECT_IDENTITY_SPLIT:" ++ item.subject.repository ++
      ":expected=" ++
      expected ++ ":observed=" ++ item.subject.subjectSha))

/-- The refusals of the identities of the evidence (lines 83–101). -/
def identityRefusals (case : CrossProductCase) : List String :=
  (if (case.evidence.map EvidenceRecord.evidenceId).Nodup then [] else
    ["REFUSED:" ++ "DUPLICATE_EVIDENCE_ID"]) ++ case.evidence.filterMap (subjectRefusal case)

/-- The dimensions that are present (line 109). -/
def present (case : CrossProductCase) : List Formalism :=
  independentFormalisms (case.evidence.filter (isBound case))

/-- The refusals of the dimensions (lines 110–121). -/
def dimensionRefusals (case : CrossProductCase) : List String :=
  let shared := (formalismsOf (case.evidence.filter (isBound case))).filter (· ∉ present case)
  let missing := case.requiredFormalisms.filter (· ∉ present case)
  (sorted (shared.map Formalism.value)).map (fun value =>
    "BLOCKED:" ++ ("DIMENSION_NOT_INDEPENDENT:" ++ value)) ++
  if missing = [] then [] else
    ["BLOCKED:" ++ ("MISSING_DIMENSION:" ++ ",".intercalate (sorted (missing.map Formalism.value)))]

/-- A relation is checked, or refused (lines 125–148). -/
def checkRelation (case : CrossProductCase) (relation : RelationRequirement) :
    Except String Unit :=
  let left := indexed case relation.left relation.claimId
  let right := indexed case relation.right relation.claimId
  if left = [] ∨ right = [] then
    .error ("BLOCKED:" ++ ("RELATION_EVIDENCE_MISSING:" ++ relation.relationId))
  else if (left ++ right).any fun item => !isBound case item then
    .error ("REFUSED:" ++ ("RELATION_SUBJECT_SPLIT:" ++ relation.relationId))
  else if (left ++ right).any fun item => item.result ≠ .pass then
    .error ("REFUSED:" ++ ("RELATION_NOT_PASS:" ++ relation.relationId))
  else .ok ()

/-- A mutant is checked, or refused (lines 151–176). -/
def checkMutant (case : CrossProductCase) (mutant : MutantExpectation) : Except String Unit :=
  match indexed case mutant.formalism mutant.claimId with
  | [] => .error ("BLOCKED:" ++ ("MUTANT_EVIDENCE_MISSING:" ++ mutant.mutantId))
  | [found] =>
    if isBound case found = false then
      .error ("REFUSED:" ++ ("MUTANT_SUBJECT_SPLIT:" ++ mutant.mutantId))
    else if found.result ≠ mutant.expected then
      .error ("REFUSED:" ++ ("MUTANT_SURVIVED:" ++ mutant.mutantId ++ ":expected=" ++
        mutant.expected.value ++ ":observed=" ++ found.result.value))
    else .ok ()
  | _ => .error ("REFUSED:" ++ ("MUTANT_EVIDENCE_AMBIGUOUS:" ++ mutant.mutantId))

/-- The refusal of a check. -/
def refusalOf : Except String Unit → Option String
  | .error refusal => some refusal
  | .ok () => none

/-- All refusals, in the order in which they are found. -/
def refusalsOf (case : CrossProductCase) : List String :=
  identityRefusals case ++ independenceRefusals case ++ dimensionRefusals case ++
    case.relations.filterMap (fun relation => refusalOf (checkRelation case relation)) ++
    case.mutants.filterMap fun mutant => refusalOf (checkMutant case mutant)

/-- `refusal.startswith(start)`. -/
def startsWith (text start : String) : Bool := start.toList.isPrefixOf text.toList

/-- The relations that are checked. -/
def checkedRelations (case : CrossProductCase) : List RelationRequirement :=
  case.relations.filter fun relation => refusalOf (checkRelation case relation) = none

/-- The mutants that are checked. -/
def checkedMutants (case : CrossProductCase) : List MutantExpectation :=
  case.mutants.filter fun mutant => refusalOf (checkMutant case mutant) = none

/-- The standing of a case (lines 178–190). -/
def standingOf (case : CrossProductCase) : Standing :=
  if (refusalsOf case).any (startsWith · "REFUSED:") then .refused
  else if (refusalsOf case).any (startsWith · "BLOCKED:") then .blocked
  else if (checkedRelations case).length ≠ case.relations.length ∨
      (checkedMutants case).length ≠ case.mutants.length then .partialAlive
  else .alive

/-- `class CrossProductReceipt`. -/
structure CrossProductReceipt where
  schema : String
  caseId : String
  semanticSubjectId : String
  subjectBindings : List String
  standing : Standing
  claimCeiling : String
  authority : String
  dimensionsPresent : List String
  relationsChecked : List String
  mutantsChecked : List String
  refusals : List String
  evidenceIds : List String
  receiptDigest : String
  deriving DecidableEq

/-- `canonical_payload`. -/
def CrossProductReceipt.canonicalPayload (receipt : CrossProductReceipt) : Value :=
  let texts := fun values : List String => Value.list (values.map .str)
  .dict [("schema", .str receipt.schema), ("case_id", .str receipt.caseId),
    ("semantic_subject_id", .str receipt.semanticSubjectId),
    ("subject_bindings", texts receipt.subjectBindings), ("standing", .str receipt.standing.value),
    ("claim_ceiling", .str receipt.claimCeiling), ("authority", .str receipt.authority),
    ("dimensions_present", texts receipt.dimensionsPresent),
    ("relations_checked", texts receipt.relationsChecked),
    ("mutants_checked", texts receipt.mutantsChecked), ("refusals", texts receipt.refusals),
    ("evidence_ids", texts receipt.evidenceIds)]

/-- `evaluate` (lines 81–211). -/
def evaluate (py : PyRuntime) (case : CrossProductCase) : Except PyError CrossProductReceipt := do
  let receipt : CrossProductReceipt :=
    { schema := "https://chatman.dev/cross-product-court/receipt/v1"
      caseId := case.caseId
      semanticSubjectId := case.semanticSubjectId
      subjectBindings := sorted (case.subjects.map SubjectBinding.identity)
      standing := standingOf case
      claimCeiling := "COMPOSITIONAL_CORRESPONDENCE_ONLY"
      authority := "NONE"
      dimensionsPresent := sortedTexts ((present case).map Formalism.value)
      relationsChecked := sorted ((checkedRelations case).map RelationRequirement.relationId)
      mutantsChecked := sorted ((checkedMutants case).map MutantExpectation.mutantId)
      refusals := sortedTexts (refusalsOf case)
      evidenceIds := sorted (case.evidence.map EvidenceRecord.evidenceId)
      receiptDigest := "" }
  return { receipt with
    receiptDigest := "sha256:" ++ py.sha256 (← py.dumps receipt.canonicalPayload) }

end ChatmanEcosystem.ReleaseTrain.CrossProduct
