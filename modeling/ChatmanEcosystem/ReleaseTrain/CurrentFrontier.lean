import ChatmanEcosystem.Py.Dict
import ChatmanEcosystem.Py.Value
import ChatmanEcosystem.Rust.Result
import Mathlib.Data.Prod.Lex

/-!
# Plans of the current frontier

Model of `scripts/release_train/current_frontier` (`engine.py`, `obligation.py`,
`admission.py`, `frontier.py`, `supersession.py`, `dependency.py`,
`candidate.py`, `receipt.py` and the records of `evidence.py` and `subject.py`).

A plan is made of one admission for each repository key of the evidence. An
admission is labelled with the subject of the first current record of its key;
which subjects the other current records have is not looked at.
-/

namespace ChatmanEcosystem.ReleaseTrain.CurrentFrontier

open Py Rust

/-! ## Records -/

/-- `Subject` (`subject.py`, lines 12–26). -/
structure Subject where
  repo : String
  sha : String
  deriving DecidableEq

/-- `Subject.canonical` (`subject.py`, lines 25–26). -/
def Subject.canonical (subject : Subject) : String := subject.repo ++ "@" ++ subject.sha

/-- `Evidence` (`evidence.py`, lines 17–24), what a plan reads of it. -/
structure Evidence where
  evidenceId : String
  subject : Subject
  scope : String
  outcome : String
  observedAt : DateTime
  deriving DecidableEq

/-- `Supersession` (`supersession.py`, lines 12–15). -/
structure Supersession where
  olderId : String
  newerId : String
  reason : String
  deriving DecidableEq

/-- `Obligation` (`obligation.py`, lines 11–15). -/
structure Obligation where
  obligationId : String
  requiredScope : String
  required : Bool
  deriving DecidableEq

/-- `Frontier` (`frontier.py`, lines 7–10). -/
structure Frontier where
  current : List Evidence
  historical : List Evidence
  deriving DecidableEq

/-- `Admission` (`admission.py`, lines 7–13). -/
structure Admission where
  subject : String
  standing : String
  obligationStates : List (String × String)
  promotable : Bool
  reasons : List String
  deriving DecidableEq

/-- `Candidate` (`candidate.py`, lines 9–15). -/
structure Candidate where
  name : String
  admissions : List Admission
  dependencyRelief : ℕ
  reversibility : ℕ
  risk : ℕ
  deriving DecidableEq

/-- The plan of `manufacture_plan` (`engine.py`, line 28). -/
structure Plan where
  predecessor : String
  candidate : String
  subjects : List String
  order : List String
  phases : List String
  standing : String
  deriving DecidableEq

/-- `Receipt` (`receipt.py`, lines 12–16). -/
structure Receipt where
  schema : String
  body : Dict
  digest : String

/-! ## Supersession -/

/-- A refusal, with its text. -/
abbrev refuse {α : Type} (reason : String) : Except (Raised String) α := .error (.refusal reason)

/-- `old.observed_at < new.observed_at`. -/
def isBefore (old new : DateTime) : Except (Raised String) Bool :=
  if old.aware = new.aware then .ok (old.micros < new.micros) else .error (.error .typeError)

/-- `ALLOWED_REASONS` (`supersession.py`, line 17). -/
def allowedReasons : List String :=
  ["NEW_HEAD", "NEW_RUN", "NEW_ARTIFACT", "NEW_RECEIPT", "CORRECTION"]

/-- The checks of one relation (`supersession.py`, lines 24–32). -/
def checkRelation (byId : List (String × Evidence)) (relation : Supersession) :
    Except (Raised String) (String × String) := do
  ensure (relation.reason ∈ allowedReasons) (.refusal "REFUSED[UNKNOWN_SUPERSESSION_REASON]")
  match byId.lookup relation.olderId, byId.lookup relation.newerId with
  | some old, some new =>
    ensure (old.subject.repo = new.subject.repo ∧ old.scope = new.scope)
      (.refusal "REFUSED[INCOMPATIBLE_SUPERSESSION]")
    let forward ← isBefore old.observedAt new.observedAt
    ensure (forward = true) (.refusal "REFUSED[NON_FORWARD_SUPERSESSION]")
    return (relation.olderId, relation.newerId)
  | _, _ => refuse "REFUSED[ORPHAN_SUPERSESSION]"

/-- The walk from one record along the relations (`supersession.py`, lines 36–39). With the number
of relations as a bound, a walk that is still going on has come back. -/
def walk (edges : List (String × String)) : ℕ → List String → String → Except (Raised String) Unit
  | 0, _, _ => refuse "REFUSED[SUPERSESSION_CYCLE]"
  | steps + 1, seen, current =>
    match edges.lookup current with
    | none => .ok ()
    | some next =>
      if current ∈ seen then refuse "REFUSED[SUPERSESSION_CYCLE]"
      else walk edges steps (current :: seen) next

/-- `validate_relations` (`supersession.py`, lines 19–40). -/
def validateRelations (evidence : List Evidence) (relations : List Supersession) :
    Except (Raised String) Unit := do
  let byId := ofPairs (evidence.map fun e => (e.evidenceId, e))
  let pairs ← relations.mapM (checkRelation byId)
  let edges := ofPairs pairs
  (edges.map Prod.fst).forM (walk edges (edges.length + 1) [])

/-- `sorted(records, key=lambda e: e.evidence_id)`. -/
def sortedById (records : List Evidence) : List Evidence :=
  records.insertionSort fun a b => a.evidenceId ≤ b.evidenceId

/-- `resolve_frontier` (`frontier.py`, lines 12–17). -/
def resolveFrontier (evidence : List Evidence) (relations : List Supersession) :
    Except (Raised String) Frontier := do
  validateRelations evidence relations
  let superseded := relations.map (·.olderId)
  return { current := sortedById (evidence.filter fun e => e.evidenceId ∉ superseded)
           historical := sortedById (evidence.filter fun e => e.evidenceId ∈ superseded) }

/-! ## Admission -/

/-- `standing` (`frontier.py`, lines 19–30). -/
def standing (frontier : Frontier) : String :=
  let outcomes := frontier.current.map (·.outcome)
  if "FAIL" ∈ outcomes then "BUILD_BROKEN"
  else if "PENDING" ∈ outcomes ∨ "UNKNOWN" ∈ outcomes ∨ outcomes = [] then "UNKNOWN"
  else if outcomes.all (· = "UNSUPPORTED") then "UNSUPPORTED"
  else if outcomes.all (fun outcome => outcome = "PASS" ∨ outcome = "UNSUPPORTED") ∧
      "PASS" ∈ outcomes then "PARTIAL_ALIVE"
  else "UNKNOWN"

/-- `_SCOPE_RANK` (`obligation.py`, line 9), with a default. -/
def scopeRank (scope : String) (default : ℕ) : ℕ :=
  (List.lookup scope
    [("FOCUSED", 1), ("RUNTIME", 2), ("REPOSITORY", 3), ("DEPENDENCY", 3), ("RECEIPT", 2)]).getD
    default

/-- A record may cover an obligation (`obligation.py`, line 20). -/
def reaches (e : Evidence) (obligation : Obligation) : Bool :=
  scopeRank obligation.requiredScope 99 ≤ scopeRank e.scope 0

/-- The state of an obligation (`obligation.py`, lines 20–29). -/
def obligationState (frontier : Frontier) (obligation : Obligation) : String :=
  let candidates := frontier.current.filter (reaches · obligation)
  let outcomes := candidates.map (·.outcome)
  if candidates = [] then if obligation.required then "MISSING" else "OPTIONAL_MISSING"
  else if "FAIL" ∈ outcomes then "FAIL"
  else if "PENDING" ∈ outcomes ∨ "UNKNOWN" ∈ outcomes then "UNKNOWN"
  else if outcomes.all (· = "UNSUPPORTED") then "UNSUPPORTED"
  else if "PASS" ∈ outcomes then "PASS"
  else "UNKNOWN"

/-- `coverage` (`obligation.py`, lines 17–30). -/
def coverage (frontier : Frontier) (obligations : List Obligation) : List (String × String) :=
  ofPairs (obligations.map fun ob => (ob.obligationId, obligationState frontier ob))

/-- `admit_subject` (`admission.py`, lines 15–23). -/
def admitSubject (subject : String) (frontier : Frontier) (obligations : List Obligation) :
    Except (Raised String) Admission := do
  let states := coverage frontier obligations
  let state := standing frontier
  let uncovered ← obligations.mapM fun ob => do
    let value ← okOr (states.lookup ob.obligationId) (.error .keyError)
    return if ob.required ∧ value ≠ "PASS" then some (ob.obligationId ++ ":" ++ value) else none
  let reasons := uncovered.reduceOption ++
    if state ≠ "PARTIAL_ALIVE" then ["standing:" ++ state] else []
  return { subject, standing := state,
           obligationStates := states.insertionSort fun a b => a.1 ≤ b.1,
           promotable := reasons = [], reasons := sorted reasons }

/-! ## Dependencies -/

/-- `graph.get(node, ())`. -/
def dependenciesOf (graph : List (String × List String)) (node : String) : List String :=
  (graph.lookup node).getD []

/-- The variables of `dependency_order` (`dependency.py`, line 11). `permanent` has the nodes of
`order`. -/
structure Visit where
  temporary : List String
  order : List String

/-- `visit` (`dependency.py`, lines 12–18), at most so many calls deep. -/
def visit (graph : List (String × List String)) :
    ℕ → Visit → String → Except (Raised String) Visit
  | 0, _, _ => .error (.error .recursionError)
  | depth + 1, state, node =>
    if node ∈ state.order then .ok state
    else if node ∈ state.temporary then refuse "REFUSED[DEPENDENCY_CYCLE]"
    else do
      let state ← (sorted (dependenciesOf graph node)).foldlM (visit graph depth)
        { state with temporary := node :: state.temporary }
      return { temporary := state.temporary.erase node, order := state.order ++ [node] }

variable (py : PyRuntime)

/-- The check for a gap (`dependency.py`, lines 7–10). The nodes come in the order of the keys; only
which gap is named depends on it. -/
def checkGap (graph : List (String × List String)) (selected : List String) (node : String) :
    Except (Raised String) Unit :=
  let missing := (dependenciesOf graph node).dedup.filter (· ∉ selected)
  if missing = [] then .ok ()
  else refuse ("REFUSED[DEPENDENCY_GAP]:" ++ node ++ ":" ++
    py.repr (.list ((sorted missing).map .str)))

/-- `dependency_order` (`dependency.py`, lines 6–20). -/
def dependencyOrder (graph : List (String × List String)) (selected : List String) :
    Except (Raised String) (List String) := do
  selected.forM (checkGap py graph selected)
  let state ← (sorted selected).foldlM (visit graph py.recursionLimit) ⟨[], []⟩
  return state.order

/-- One turn of the loop of `propagate` (`dependency.py`, lines 24–26). -/
def propagateOne (graph : List (String × List String)) (out : List (String × String))
    (repo : String) : List (String × String) :=
  if (dependenciesOf graph repo).any fun dep =>
      out.lookup dep = some "BUILD_BROKEN" ∨ out.lookup dep = some "BLOCKED" then
    setItem out repo "BLOCKED"
  else out

/-- `propagate` (`dependency.py`, lines 22–27). -/
def propagate (standingByRepo : List (String × String)) (graph : List (String × List String))
    (order : List String) : List (String × String) :=
  order.foldl (propagateOne graph) standingByRepo

/-! ## The plan -/

/-- `Candidate.score` (`candidate.py`, lines 17–19). -/
def Candidate.score (c : Candidate) : ℕ ×ₗ ℕ ×ₗ ℤ ×ₗ String :=
  toLex (c.dependencyRelief, toLex (c.reversibility, toLex (-(c.risk : ℤ), c.name)))

/-- `select` (`candidate.py`, lines 21–25). -/
def select (candidates : List Candidate) : Except (Raised String) Candidate :=
  let viable := candidates.filter fun c => c.admissions ≠ [] ∧ c.admissions.all (·.promotable)
  okOr (viable.insertionSort fun a b => b.score ≤ a.score).head?
    (.refusal "REFUSED[NO_CURRENT_FRONTIER_CANDIDATE]")

/-- `require` (`authority.py`, lines 9–16), without a receipt. -/
def requireAction (action : String) : Except (Raised String) Unit :=
  if action ∈ ["OBSERVE", "SELECT", "CONSTRUCT", "VERIFY"] then .ok ()
  else if action ∈ ["DO", "MERGE", "RELEASE", "DEPLOY", "MESSAGE", "SPEND", "DELETE",
      "LIVE_CLOUD"] then refuse ("REFUSED[BRCE_REQUIRED]:" ++ action)
  else refuse ("REFUSED[UNKNOWN_ACTION]:" ++ action)

/-- The plan as a dictionary (`engine.py`, line 28). -/
def Plan.toDict (plan : Plan) : Dict :=
  [("predecessor", .str plan.predecessor), ("candidate", .str plan.candidate),
    ("subjects", .list (plan.subjects.map .str)), ("order", .list (plan.order.map .str)),
    ("phases", .list (plan.phases.map .str)), ("standing", .str plan.standing)]

/-- `manufacture` (`receipt.py`, lines 18–22). -/
def manufacture (body : Dict) : Except (Raised String) Receipt := do
  let payload := setItem body "actuation_performed" (.bool false)
  let text ← (py.dumps (.dict payload)).mapError .error
  return { schema := "chatman.current-frontier-promotion/1", body := payload,
           digest := py.sha256 text }

/-- What `manufacture_plan` is called with. -/
structure Request where
  predecessor : String
  evidenceByRepo : List (String × List Evidence)
  relationsByRepo : List (String × List Supersession)
  obligations : List Obligation
  graph : List (String × List String)

/-- The records under a key. -/
def Request.evidenceOf (request : Request) (repo : String) : List Evidence :=
  (request.evidenceByRepo.lookup repo).getD []

/-- The relations under a key. -/
def Request.relationsOf (request : Request) (repo : String) : List Supersession :=
  (request.relationsByRepo.lookup repo).getD []

/-- One turn of the loop over the order (`engine.py`, lines 16–18). -/
def Request.admitRepo (request : Request) (repo : String) : Except (Raised String) Admission := do
  let evidence ← okOr (request.evidenceByRepo.lookup repo) (.error .keyError)
  let frontier ← resolveFrontier evidence (request.relationsOf repo)
  let subject := (frontier.current.head?.map (·.subject.canonical)).getD repo
  admitSubject subject frontier request.obligations

/-- `adm.subject.split("@", 1)[0]`. -/
def repoOf (subject : String) : String := String.ofList (subject.toList.takeWhile (· ≠ '@'))

/-- The normalisation of an admission (`engine.py`, lines 21–25). -/
def normalize (propagated : List (String × String)) (adm : Admission) : Admission :=
  match propagated.lookup (repoOf adm.subject) with
  | some standing =>
    if (standing = "BLOCKED" ∨ standing = "BUILD_BROKEN") ∧ adm.promotable then
      { subject := adm.subject, standing, obligationStates := adm.obligationStates,
        promotable := false, reasons := ["dependency:" ++ standing] }
    else adm
  | none => adm

/-- `manufacture_plan` (`engine.py`, lines 11–30). -/
def manufacturePlan (request : Request) : Except (Raised String) (Plan × Receipt) := do
  let repos := (request.evidenceByRepo.map Prod.fst).dedup
  let order ← dependencyOrder py request.graph repos
  let admissions ← order.mapM request.admitRepo
  let standings := ofPairs (order.zip (admissions.map (·.standing)))
  let propagated := propagate standings request.graph order
  let normalized := admissions.map (normalize propagated)
  let chosen ← select
    [{ name := "current-frontier", admissions := normalized, dependencyRelief := order.length,
       reversibility := 10, risk := 1 }]
  requireAction "CONSTRUCT"
  let plan : Plan :=
    { predecessor := request.predecessor, candidate := chosen.name,
      subjects := chosen.admissions.map (·.subject), order, phases := ["VERIFY", "CONSTRUCT"],
      standing := "PARTIAL_ALIVE" }
  let receipt ← manufacture py plan.toDict
  return (plan, receipt)

end ChatmanEcosystem.ReleaseTrain.CurrentFrontier
