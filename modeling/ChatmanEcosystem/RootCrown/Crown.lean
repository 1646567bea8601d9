import ChatmanEcosystem.RootCrown.Berthier

/-!
# The root crown

Model of `_new_head_impacts` and `evaluate` (`scripts/release_train/root_crown/crown.py`, lines
52–287), of `admit_private` (`scripts/release_train/root_crown/evidence.py`, lines 54–152) and of
`require_complete`. The evaluators are functions of a row and of the states so far: the rest of
their context is the same for all rows. The receipt is typed, without its JSON text and digests.
-/

namespace ChatmanEcosystem.RootCrown

open Common Py Rust

/-! ## What is observed -/

/-- A text that counts as true. -/
def isSet (text : Option String) : Bool := text.any (· ≠ "")

/-- A repository that is observed publicly. -/
structure RepoObservation where
  headSha : Option String
  error : Option String
  deriving DecidableEq

/-- A receipt in an operator-local record. -/
structure PrivateReceipt where
  path : Option String
  content : Option String
  sha256 : Option String
  blobSha : Option String
  deriving DecidableEq

/-- An operator-local record of a private repository. -/
structure PrivateRecord where
  headSha : Option String
  observedAt : Option String
  observer : Option String
  error : Option String
  receipts : List PrivateReceipt
  deriving DecidableEq

/-- The observations of a frontier. -/
structure Observations where
  observedAt : Option String
  repos : List (String × RepoObservation)
  /-- When the private repositories were observed. -/
  privateAt : Option String
  privateRepos : List (String × PrivateRecord)
  /-- How each private head compares with the public one. -/
  compare : List (String × String)
  deriving DecidableEq

/-- What becomes of an operator-local record. -/
inductive PrivateOutcome
  | admitted (head : String)
  | failed (state : ReqState)
  /-- The public observation stays primary. -/
  | unneeded

/-- `_parse_time`. -/
def parseTime (py : PyRuntime) (value : Option String) : Option DateTime :=
  py.dateTime (String.ofList ((py.str (ofText value)).toList.flatMap fun c =>
    if c = 'Z' then "+00:00".toList else [c]))

/-- `OPERATOR_LOCAL_FRESHNESS`, in microseconds. -/
def operatorLocalFreshness : ℤ := 12 * 3600 * 1000000

/-- The receipts of a record whose bytes have another digest. -/
def mismatchedReceipts (py : PyRuntime) (record : PrivateRecord) : List String :=
  record.receipts.filterMap fun receipt => receipt.content.bind fun content =>
    if some (py.sha256 content) ≠ receipt.sha256 ∨ some (py.gitBlob content) ≠ receipt.blobSha then
      some (py.str (ofText receipt.path)) else none

/-- When a record was observed. -/
def recordedAt (observations : Observations) (record : PrivateRecord) : Option String :=
  if isSet record.observedAt then record.observedAt else observations.privateAt

/-- A record of an age that is admitted, or not (lines 109–127). -/
def admitAged (py : PyRuntime) (observations : Observations) (repository : String)
    (record : PrivateRecord) (age : ℤ) : PrivateOutcome :=
  let observed := (observations.repos.lookup repository).getD ⟨none, none⟩
  if operatorLocalFreshness < age then
    .failed (.blocked "OBSERVATION_STALE" (repository ++ ": operator-local observation " ++
      py.str (ofText record.observedAt) ++ " older than 12:00:00") none)
  else if record.observer ≠ some "operator-local" ∨ isSet record.error ∨
      ¬ record.headSha.any (·.length = 40) then
    .failed (.blocked "OBSERVATION_MISSING" (repository ++ ": operator-local record unusable (" ++
      py.str (ofText record.error) ++ ")") none)
  else if ¬ isSet observed.error ∧ isSet observed.headSha then .unneeded
  else .admitted (record.headSha.getD "")

/-- What `admit_private` does with one record (lines 81–127). -/
def admitRecord (py : PyRuntime) (observations : Observations) (repository : String)
    (record : PrivateRecord) : Outcome PrivateOutcome :=
  let status := observations.compare.lookup repository
  if status = some "behind" ∨ status = some "diverged" then
    .ok (.failed (.refused "PRIVATE_HEAD_SPLIT" (repository ++ ": recorded head " ++
      py.str (ofText record.headSha) ++ " is " ++ py.str (ofText status) ++ " of the public head")
      record.headSha))
  else if mismatchedReceipts py record ≠ [] then
    .ok (.failed (.refused "PRIVATE_OBSERVATION_DIGEST_MISMATCH" (repository ++ ": " ++
      ",".intercalate (sorted (mismatchedReceipts py record))) record.headSha))
  else
    match parseTime py observations.observedAt, parseTime py (recordedAt observations record) with
    | some now, some then_ =>
      -- a date with an offset and one without cannot be subtracted, and only a `ValueError` is
      -- caught
      if now.aware = then_.aware then
        .ok (admitAged py observations repository record (now.micros - then_.micros))
      else .error (.error .typeError)
    | _, _ =>
      .ok (.failed (.blocked "OBSERVATION_STALE" (repository ++ ": unparseable observed_at") none))

/-- `admit_private` (lines 62–152). -/
def admitPrivate (py : PyRuntime) (observations : Observations) :
    Outcome (List (String × PrivateOutcome)) :=
  (observations.privateRepos.insertionSort fun a b => a.1 ≤ b.1).mapM fun item => do
    return (item.1, ← admitRecord py observations item.1 item.2)

/-- The heads, those of admitted private repositories among them (line 188). -/
def headsOf (py : PyRuntime) (observations : Observations) : Outcome Digests := do
  let records ← admitPrivate py observations
  let overlays := records.filterMap fun record => match record.2 with
    | .admitted head => some (record.1, some head)
    | _ => none
  let repos := ofPairs (observations.repos.map (fun repo => (repo.1, repo.2.headSha)) ++ overlays)
  return (repos.insertionSort fun a b => a.1 ≤ b.1).filterMap fun repo =>
    repo.2.bind fun head => if head = "" then none else some (repo.1, head)

/-! ## What has moved -/

/-- The key of a repository. -/
def repoKey (repo : String) : String := "repo:" ++ repo

/-- `Requirement.locator_repo` (lines 402–408 of the model). -/
def Requirement.locatorRepo (req : Requirement) : Option String :=
  if startsWith req.evidenceLocator "local:" then none
  else
    let head := req.evidenceLocator.toList.takeWhile (· ≠ ':')
    if ':' ∈ req.evidenceLocator.toList ∧ '/' ∈ head then some (String.ofList head) else none

/-- The repositories that a row is about. -/
def Requirement.repos (req : Requirement) : List String :=
  (req.ownerRepo :: req.locatorRepo.toList).dedup

/-- The edge of `_new_head_impacts` between two nodes. -/
def newHeadEdge (producer consumer : String) : Edge :=
  ⟨producer, consumer, String.ofList (List.replicate 64 '0'), ""⟩

/-- The edges of `_new_head_impacts` (lines 84–102). -/
def newHeadEdges (reqs : List Requirement) : List Edge :=
  reqs.flatMap fun req =>
    req.repos.map (fun repo => newHeadEdge (repoKey repo) (reqKey req.id)) ++
      req.dependsOn.map fun dep => newHeadEdge (reqKey dep) (reqKey req.id)

/-- Heads of a receipt in which a repository can be looked up: a dictionary, or a list or a text
that it is not in. -/
def readable (prior : Value) (repo : String) : Bool :=
  match prior with
  | .dict _ => true
  | .list items => items.all fun item => !(item.eq (.str repo))
  | .str text => !(decide (repo.toList <:+: text.toList))
  | _ => false

/-- The heads of a receipt. -/
def priorHeads (previous : Dict) : Value := previous.getD "heads" (.dict [])

/-- A repository with another head than a receipt has for it. -/
def headMoved (prior : Value) (head : String × String) : Bool :=
  (prior.dict?.bind (·.lookup head.1)).any fun sha => !(sha.eq (.str head.2))

/-- The repositories whose heads have moved (lines 78–81). -/
def movedRepos (previous : Option Dict) (heads : Digests) : Outcome (List String) :=
  match previous with
  | none | some [] => .ok []
  | some previous => do
    ensure (heads.all fun head => readable (priorHeads previous) head.1) (.error .typeError)
    return sorted ((heads.filter (headMoved (priorHeads previous))).map Prod.fst)

/-- `_new_head_impacts` (lines 74–110). -/
def newHeadImpacts (reqs : List Requirement) (previous : Option Dict) (heads : Digests) :
    Outcome (List (String × List String)) := do
  let moved ← movedRepos previous heads
  let pairs ← moved.mapM fun repo => do
    let impact ← impactOf (newHeadEdges reqs) [repoKey repo]
    return ((impact.filter (startsWith · "req:")).map (dropText · "req:")).map (·, repo)
  return collect pairs.flatten

/-! ## Requirements -/

/-- An evaluator reads a row and the states so far. -/
abbrev Evaluator := Requirement → List (String × ReqState) → Except String ReqState

/-- The evaluators of each kind. -/
abbrev Evaluators := List (String × Evaluator)

/-- What a requirement comes to, its evaluator contained (lines 193–199). -/
def contained (registry : Evaluators) (states : List (String × ReqState)) (req : Requirement) :
    ReqState :=
  match registry.lookup req.evidenceKind with
  | none => .refused "UNKNOWN_EVIDENCE_KIND" req.evidenceKind none
  | some fn =>
    match fn req states with
    | .error crashed => .refused "VERIFIER_CRASHED" (req.id ++ ":" ++ crashed) none
    | .ok state => state

/-- A blocker needs a type (lines 200–201). -/
def typedState (py : PyRuntime) (req : Requirement) (state : ReqState) : ReqState :=
  if (state.state = .blocked ∨ state.state = .unknown) ∧ state.classified = none then
    .refused "BLOCKED_WITHOUT_TYPE" (req.id ++ ":" ++ py.str (ofText state.code)) none
  else state

/-- Evidence from the tree of the crown. -/
def ReqState.inTree (crownSha : String) (state : ReqState) : Bool :=
  state.binding.any (·.kind = "IN_TREE_DERIVED") && state.subjectSha = some crownSha

local instance lawfulSha : LawfulBEq (Option String) := inferInstance

/-- A head that moved takes the evidence with it (lines 202–216). -/
def afterMove (py : PyRuntime) (crownSha : String) (heads : Digests)
    (impacts : List (String × List String)) (req : Requirement) (state : ReqState) : ReqState :=
  match impacts.lookup req.id with
  | some moved =>
    if state.state = .pass ∧ (state.subjectSha ∉ moved.map fun repo => heads.lookup repo) ∧
        ¬ state.inTree crownSha then
      .unknown "NEW_HEAD_UNEVIDENCED" ("heads moved: " ++ ",".intercalate moved ++
        "; evidence bound to " ++ py.str (ofText state.subjectSha)) state.subjectSha
    else state
  | none => state

/-- `DEFERRED`. -/
def deferredKinds : List String := ["crown_self"]

/-- The rows, the deferred ones last (line 190). -/
def orderedRows (reqs : List Requirement) : List Requirement :=
  reqs.filter (·.evidenceKind ∉ deferredKinds) ++ reqs.filter (·.evidenceKind ∈ deferredKinds)

/-- The states of the rows (lines 189–217). -/
def evaluateRows (py : PyRuntime) (registry : Evaluators) (crownSha : String) (heads : Digests)
    (impacts : List (String × List String)) (reqs : List Requirement) : List (String × ReqState) :=
  (orderedRows reqs).foldl (fun states req => setItem states req.id
    (afterMove py crownSha heads impacts req (typedState py req (contained registry states req))))
    []

/-! ## Terms -/

/-- The name of a state. -/
def State.text : State → String
  | .pass => "PASS"
  | .blocked => "BLOCKED"
  | .refused => "REFUSED"
  | .unknown => "UNKNOWN"

/-- The state of a term. -/
structure TermState where
  state : String
  requirements : List String
  detail : String
  deriving DecidableEq

/-- The state of a row. -/
def stateOf (states : List (String × ReqState)) (rid : String) : State :=
  ((states.lookup rid).map ReqState.state).getD .unknown

/-- The rows that are not passed, of those that are required (`require_complete`, lines 32–36). -/
def incomplete (states : List (String × ReqState)) (members : List Requirement) :
    List (String × String) :=
  let required := (members.filter Requirement.required).map Requirement.id
  let coverage := ofPairs (members.map fun req => (req.id, stateOf states req.id))
  (coverage.filter fun item => item.1 ∈ required ∧ item.2 ≠ .pass).map fun item =>
    (item.1, item.2.text)

/-- The text of a list of pairs of texts. -/
def pairsText (py : PyRuntime) (pairs : List (String × String)) : String :=
  "[" ++ ", ".intercalate (pairs.map fun pair =>
    "(" ++ py.repr (.str pair.1) ++ ", " ++ py.repr (.str pair.2) ++ ")") ++ "]"

/-- The state of a term (lines 219–233). -/
def termState (py : PyRuntime) (states : List (String × ReqState)) (reqs : List Requirement)
    (term : String) : TermState :=
  let members := reqs.filter (·.term = term)
  if members = [] then ⟨"BLOCKED", [], "no requirement binds term " ++ term⟩
  else
    let missing := incomplete states members
    let ids := sortedTexts (members.map Requirement.id)
    if missing = [] then ⟨"PASS", ids, ""⟩
    else
      let refused := members.any fun req => req.required && stateOf states req.id = .refused
      ⟨if refused then "REFUSED" else "BLOCKED", ids, "REFUSED[INCOMPLETE_CURRENT_FRONTIER]:" ++
        pairsText py (missing.insertionSort fun a b => a.1 ≤ b.1)⟩

/-! ## The verdict -/

/-- A refusal of the release as a whole, with its class. -/
structure GlobalRefusal where
  refusal : String
  code : String
  failureClass : Option String
  brokenTerm : Option String
  deriving DecidableEq

/-- A row that is not passed. -/
structure Remaining where
  id : String
  term : String
  state : ReqState

/-- What the receipt says (lines 254–286). -/
structure Receipt where
  release : String
  crownSha : String
  rootRepository : String
  previousReceiptDigest : Value
  genesis : Bool
  requirements : List (String × ReqState)
  terms : List (String × TermState)
  globalRefusals : List GlobalRefusal
  heads : Digests
  /-- What is to be observed next: repositories, locators, rows of the cascade. -/
  nextRepos : List String
  nextLocators : List String
  cascade : List String

/-- `class Verdict`. -/
structure Verdict where
  standing : String
  terms : List (String × String)
  refusals : List String
  remaining : List Remaining
  receipt : Receipt

/-- The modes (`MODES`). -/
inductive Mode
  | preTag
  | postTag
  deriving DecidableEq

/-- A release, and what `evaluate` is given with it. -/
structure Release where
  name : String
  doc : RequirementsDoc
  /-- The repositories that are pinned. -/
  pinned : List String
  rootRepository : String
  rfcText : String
  premiseSet : List (String × String)
  crownSha : String
  mode : Mode
  registry : Evaluators
  /-- What `projector.check` finds, or how it crashes. -/
  drift : Except String (List String)
  /-- What the terminality policy refuses. -/
  policyRefusals : List String

/-- `SCHEMA_RECEIPTS`. -/
def receiptSchemas : List String :=
  ["https://chatman.dev/root-crown/receipt/v1", "https://chatman.dev/root-crown/receipt/v2"]

/-- A receipt of a known schema. -/
def knownSchema (receipt : Dict) : Bool :=
  receiptSchemas.any fun schema =>
    (receipt.getD "schema" (.str "https://chatman.dev/root-crown/receipt/v1")).eq (.str schema)

/-- What the digest of a receipt is of. -/
def receiptBody (receipt : Dict) : Value := .dict (receipt.filter (·.1 ≠ "receipt_digest"))

/-- `verify_receipt` (lines 56–62). -/
def verifyReceipt (py : PyRuntime) (receipt : Dict) : Outcome Bool :=
  if knownSchema receipt then do
    return (receipt.get "receipt_digest").eq (.str (← canonicalDigest py (receiptBody receipt)))
  else .ok false

/-- The refusals of the receipt before (lines 164–168). -/
def chainRefusals (py : PyRuntime) (release : String) (previous : Option Dict) :
    Outcome (List String) :=
  match previous with
  | none => .ok []
  | some previous => do
    let verified ← verifyReceipt py previous
    return if verified ∧ (previous.get "release").eq (.str release) then [] else
      ["REFUSED:RECEIPT_CHAIN_BROKEN:previous receipt digest does not recompute"]

/-- What the rows are admitted against (lines 150–157). -/
def Release.premise (release : Release) : Premise where
  owners := release.pinned
  rfcText := release.rfcText
  evidenceKinds := release.registry.map Prod.fst
  premiseSet := release.premiseSet
  release := some release.name

/-- The refusals of the projection (lines 161–162). -/
def Release.driftRefusals (release : Release) : List String :=
  match release.drift with
  | .ok refusals => refusals
  | .error crashed => ["REFUSED:VERIFIER_CRASHED:projector.check:" ++ crashed]

/-- The crown is at the head that is observed of its repository (lines 170–173). -/
def Release.splitRefusals (release : Release) (observations : Observations) : List String :=
  let observed := ((observations.repos.lookup release.rootRepository).bind
    RepoObservation.headSha).getD ""
  if release.mode = .preTag ∧ observed ≠ "" ∧ observed ≠ release.crownSha then
    ["REFUSED:CROWN_SHA_SPLIT:observed=" ++ observed ++ ":crown=" ++ release.crownSha]
  else []

/-- `code_of`. -/
def codeOf (refusal : String) : String :=
  match refusal.toList.splitOn ':' with
  | _ :: code :: _ => String.ofList code
  | _ => refusal

/-- The items of a dictionary, by their keys. -/
def sortedItems {β : Type} (items : List (String × β)) : List (String × β) :=
  items.insertionSort fun a b => a.1 ≤ b.1

/-- A verdict on the states of the rows (lines 219–294). -/
def judgeRows (py : PyRuntime) (release : Release) (previous : Option Dict) (refusals : List String)
    (heads : Digests) (impacts : List (String × List String)) (states : List (String × ReqState)) :
    Verdict :=
  let reqs := release.doc.rows
  let terms := (releaseTerms py release.doc (some release.name)).1.map fun term =>
    (term, termState py states reqs term)
  let refused := (sortedItems states).filterMap fun item =>
    if item.2.state = .refused then
      some ("REFUSED:" ++ py.str (ofText item.2.code) ++ ":" ++ item.1) else none
  let all := sortedTexts (refusals ++ refused)
  let remaining := ((sortedItems states).filter (·.2.state ≠ .pass)).map fun item =>
    ⟨item.1, ((reqs.find? (·.id = item.1)).map Requirement.term).getD "", item.2⟩
  { standing := if all ≠ [] then "REFUSED"
      else if terms.all (·.2.state = "PASS") then "ALIVE" else "BLOCKED"
    terms := terms.map fun term => (term.1, term.2.state)
    refusals := all
    remaining
    receipt :=
      { release := release.name
        crownSha := release.crownSha
        rootRepository := release.rootRepository
        previousReceiptDigest := (previous.map (·.get "receipt_digest")).getD .null
        genesis := previous.isNone
        requirements := sortedItems states
        terms
        globalRefusals := (sortedTexts refusals).map fun refusal =>
          ⟨refusal, codeOf refusal, (failureClass.lookup (codeOf refusal)).map Prod.fst,
            (failureClass.lookup (codeOf refusal)).map Prod.snd⟩
        heads
        nextRepos := sorted release.pinned
        nextLocators := sortedTexts (remaining.filterMap fun item =>
          (reqs.find? (·.id = item.id)).map Requirement.evidenceLocator)
        cascade := sorted (impacts.map Prod.fst) } }

/-- `evaluate` (lines 113–294). -/
def evaluate (py : PyRuntime) (release : Release) (observations : Observations)
    (previous : Option Dict) : Outcome Verdict := do
  let chain ← chainRefusals py release.name previous
  let heads ← headsOf py observations
  let impacts ← newHeadImpacts release.doc.rows previous heads
  let refusals := validateRequirements py release.premise release.doc ++ release.driftRefusals ++
    chain ++ release.splitRefusals observations ++ release.policyRefusals
  return judgeRows py release previous refusals heads impacts
    (evaluateRows py release.registry release.crownSha heads impacts release.doc.rows)

end ChatmanEcosystem.RootCrown
