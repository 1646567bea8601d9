import ChatmanEcosystem.RootCrown.DurableLocators
import ChatmanEcosystem.RootCrown.Types
import ChatmanEcosystem.Rust.Result

/-!
# Evidence bindings

Model of `git_locator`, `path_admitted`, `classify_delta`, `_lineage` and `admit`
(`scripts/release_train/root_crown/binding.py`, lines 66–143 and 281–341). Bytes are lists, the
allowlist of a release has its three lists of texts.

`checkBinding_eq_none` says which bindings pass the checks of a binding by itself.
-/

namespace ChatmanEcosystem.RootCrown

open Common Py Rust Pattern

/-! ## Locators and digests -/

/-- `HEX40`. -/
def hex40Rx : Pattern := seqs [start, hex40, stop]

/-- `HEX40.fullmatch`. -/
def isCommit (sha : String) : Bool := hex40Rx.fullMatch sha

/-- `git_locator` (lines 66–70). -/
def gitLocator (repository sha : Option String) (path : String) : Option String :=
  match repository.filter (· ≠ ""), sha.filter (isCommit ·) with
  | some repository, some sha => some ("git:" ++ repository ++ "@" ++ sha ++ ":" ++ path)
  | _, _ => none

/-- `sha256_tag` (lines 73–74). -/
def sha256Tag (py : PyRuntime) (data : List UInt8) : String := "sha256:" ++ py.sha256Bytes data

/-! ## Classes of a delta -/

/-- `delta-allowlist.json`. -/
structure Allowlist where
  allow : List String
  denySegments : List String
  denyExtensions : List String
  deriving DecidableEq

/-- The loop of `_glob_rx` (lines 92–104). -/
def globFrom : List Char → Pattern
  | '*' :: '*' :: glob => seq (many (· ≠ '\n')) (globFrom glob)
  | '*' :: glob => seq (many (· ≠ '/')) (globFrom glob)
  | c :: glob => seq (one (· = c)) (globFrom glob)
  | [] => stop

/-- `_glob_rx`. -/
def globRx (glob : String) : Pattern := seq start (globFrom glob.toList)

local instance lawfulSegment : LawfulBEq (List Char) := inferInstance

/-- `path_admitted` (lines 107–119). -/
def pathAdmitted (py : PyRuntime) (allowlist : Allowlist) : Value → Bool
  | .str path =>
    let segments := path.toList.splitOn '/'
    let lowered := (py.lower path).toList
    !(path = "" || path.toList.head? = some '/' || '\\' ∈ path.toList) &&
      !segments.any (fun segment => segment = [] || segment = ['.'] || segment = dots) &&
      !allowlist.denyExtensions.any (fun extension => extension.toList <:+ lowered) &&
      !allowlist.denySegments.any (fun segment => segment.toList ∈ segments) &&
      allowlist.allow.any fun glob => (globRx glob).fullMatch path
  | _ => false

/-- `DELTA_CLASSES`. -/
inductive DeltaClass
  | empty
  | receiptOnly
  | unbounded
  deriving DecidableEq

/-- The name of a class. -/
def DeltaClass.name : DeltaClass → String
  | empty => "EMPTY"
  | receiptOnly => "RECEIPT_ONLY"
  | unbounded => "UNBOUNDED"

/-- `classify_delta` (lines 122–134). -/
def classifyDelta (py : PyRuntime) (allowlist : Allowlist) :
    Option (List Value) → Except PyError (Option DeltaClass × List Value)
  | none => .ok (none, [])
  | some paths => do
    let items ← (Value.list paths).sortedSet
    if items = [] then return (some .empty, [])
    let offending := items.filter fun path => !pathAdmitted py allowlist path
    return (some (if offending = [] then .receiptOnly else .unbounded), offending)

/-- `_lineage` (lines 140–143). -/
def lineage (py : PyRuntime) (allowlist : Allowlist) (status paths claimed : Value) :
    Except PyError LineageProof := do
  let items ← match paths with
    | .null => pure none
    | paths => some <$> paths.sortedSet
  let (computed, _) ← classifyDelta py allowlist items
  let deltaClass := match claimed with
    | .null => ofText (computed.map DeltaClass.name)
    | claimed => claimed
  return { status, deltaPaths := items, deltaClass }

/-! ## Admission -/

/-- `a or b`. -/
def orElse (a b : Value) : Value := if a.truthy then a else b

/-- `LINEAGE_OK`. -/
def lineageOk : List String := ["identical", "ahead"]

/-- `LINEAGE_BAD`. -/
def lineageBad : List String := ["behind", "diverged"]

/-- `value in texts`. -/
def isAmong (value : Value) (texts : List String) : Bool := texts.any fun text =>
    value.eq (.str text)

/-- `where` (line 291), with the colon that follows it. -/
def whereText (py : PyRuntime) (binding : EvidenceBinding) : String :=
  binding.requirementId ++ ":" ++
    py.str (orElse (ofText binding.evidenceLocator) (ofText binding.containerRepository)) ++ ": "

/-- The commits that have to be exact (lines 296–299). -/
def mutableCommit (binding : EvidenceBinding) : Option (String × Option String) :=
  [("evaluated_subject", binding.evaluatedSubjectSha),
    ("container", binding.evidenceContainerSha)].find? fun commit => !commit.2.any (isCommit ·)

/-- The checks of a binding by itself, its digest computed again (lines 294–307). -/
def checkSealed (py : PyRuntime) (binding : EvidenceBinding) (content : Option (List UInt8))
    (recomputed : String) : Option ReqState :=
  let place := whereText py binding
  if binding.bindingDigest ≠ recomputed then
    some (.refused "EVIDENCE_DIGEST_MISMATCH"
      (place ++ "binding_digest does not recompute") none)
  else match mutableCommit binding with
  | some (label, value) =>
    some (.refused "EVIDENCE_SUBJECT_MUTABLE"
      (place ++ label ++ "=" ++ py.repr (ofText value) ++ " is not an exact commit") none)
  | none =>
    if !binding.evidenceLocator.any (isDurable ·) then
      some (.refused "EVIDENCE_NOT_DURABLE"
        (place ++ "locator " ++ py.repr (ofText binding.evidenceLocator)) none)
    else match content.filter fun bytes => binding.evidenceDigest ≠ some (sha256Tag py bytes) with
    | some bytes =>
      some (.refused "EVIDENCE_DIGEST_MISMATCH"
        (place ++ "recorded " ++ py.str (ofText binding.evidenceDigest) ++ " != bytes " ++
          sha256Tag py bytes) none)
    | none =>
      if binding.evidenceDigest.getD "" = "" then
        some (.refused "EVIDENCE_DIGEST_MISMATCH" (place ++ "no evidence digest") none)
      else none

/-- The checks of a binding by itself (lines 292–307). -/
def checkBinding (py : PyRuntime) (binding : EvidenceBinding) (content : Option (List UInt8)) :
    Except PyError (Option ReqState) := do
  if binding.kind ∉ bindingKinds then
    return some (.refused "EVIDENCE_NOT_DURABLE"
      (whereText py binding ++ "unknown binding kind " ++ binding.kind) none)
  return checkSealed py binding content (← binding.computedDigest py)

/-- The subject of evidence derived in the tree (lines 308–311). -/
def checkInTree (py : PyRuntime) (binding : EvidenceBinding) (crownSha : String) :
    Option ReqState :=
  if binding.evaluatedSubjectSha ≠ binding.evidenceContainerSha ∨
      binding.evaluatedSubjectSha ≠ some crownSha then
    some (.refused "EVIDENCE_SUBJECT_SPLIT" (whereText py binding ++
      "in-tree evidence evaluated " ++
      py.str (ofText binding.evaluatedSubjectSha) ++ " in " ++
      py.str (ofText binding.evidenceContainerSha)) none)
  else none

/-- The subject of a receipt (lines 312–318). -/
def checkSubject (py : PyRuntime) (binding : EvidenceBinding) (crownSha : String)
    (rootRepository : Option String) : Option ReqState :=
  if binding.evaluatedSubjectKind = "producer_commit" ∧
      (binding.evaluatedSubjectSha = binding.evidenceContainerSha ∨
        binding.containerRepository ≠ rootRepository ∧
          binding.evaluatedSubjectSha = some crownSha) then
    some (.refused "EVIDENCE_CONTAINER_CLAIMS_SUBJECT" (whereText py binding ++ "receipt names " ++
      py.str (ofText binding.evaluatedSubjectSha) ++ " (its container " ++
      py.str (ofText binding.evidenceContainerSha) ++ ", crown " ++ crownSha ++
      ") as its subject") none)
  else none

/-- The lineage of a receipt (lines 319–341). -/
def checkLineage (py : PyRuntime) (binding : EvidenceBinding) (allowlist : Allowlist) :
    Except PyError (Option ReqState) := do
  let proof := binding.lineageProof
  let place := whereText py binding ++ py.str (ofText binding.evaluatedSubjectSha) ++ ".." ++
    py.str (ofText binding.evidenceContainerSha)
  if binding.evaluatedSubjectSha = binding.evidenceContainerSha then return none
  if isAmong proof.status lineageBad then
    return some (.refused "EVIDENCE_SUBJECT_SPLIT" (place ++ " " ++ py.str proof.status) none)
  if !isAmong proof.status lineageOk || proof.deltaPaths.isNone then
    return some (.refused "EVIDENCE_LINEAGE_MISSING" (place ++ " status=" ++ py.str proof.status ++
      " delta_paths=" ++ if proof.deltaPaths.isNone then "unobserved" else "observed") none)
  let (computed, offending) ← classifyDelta py allowlist proof.deltaPaths
  let computedName := ofText (computed.map DeltaClass.name)
  if !proof.deltaClass.eq computedName then
    return some (.refused "EVIDENCE_DELTA_MISCLAIMED" (whereText py binding ++ "claimed " ++
      py.str proof.deltaClass ++ " computed " ++ py.str computedName) none)
  if computed = some .unbounded then
    let named ← okOr ((offending.take 6).mapM Value.text?) .typeError
    return some (.blocked "EVIDENCE_DELTA_UNBOUNDED"
      (place ++ " changes non-receipt paths " ++ ",".intercalate named) binding.evaluatedSubjectSha)
  return none

/-- `admit` (lines 281–341): the refusal, or nothing. -/
def EvidenceBinding.admit (py : PyRuntime) (binding : EvidenceBinding) (crownSha : String)
    (rootRepository : Option String) (allowlist : Allowlist) (content : Option (List UInt8)) :
    Except PyError (Option ReqState) := do
  match ← checkBinding py binding content with
  | some refusal => return some refusal
  | none =>
    if binding.kind = "IN_TREE_DERIVED" then return checkInTree py binding crownSha
    match checkSubject py binding crownSha rootRepository with
    | some refusal => return some refusal
    | none => checkLineage py binding allowlist

/-! ## What passes the checks -/

variable {py : PyRuntime} {bound binding : EvidenceBinding} {content : Option (List UInt8)}

theorem EvidenceBinding.sealed_eq_ok {binding : EvidenceBinding} :
    binding.sealed py = .ok bound ↔ ∃ digest, binding.computedDigest py = .ok digest ∧
      binding.withDigest digest = bound := by
  simp only [EvidenceBinding.sealed, bind_eq_ok, pure_eq_ok]

theorem checkSealed_eq_none : checkSealed py binding content binding.bindingDigest = none ↔
    mutableCommit binding = none ∧ binding.evidenceLocator.any (isDurable ·) = true ∧
      (∀ bytes ∈ content, binding.evidenceDigest = some (sha256Tag py bytes)) ∧
      binding.evidenceDigest.getD "" ≠ "" := by
  have hcontent : (∀ bytes ∈ content, binding.evidenceDigest = some (sha256Tag py bytes)) ↔
      content.filter (fun bytes => binding.evidenceDigest ≠ some (sha256Tag py bytes)) = none := by
    simp [Option.filter_eq_none_iff]
  rw [hcontent, checkSealed, if_neg (not_not.mpr rfl)]
  cases mutableCommit binding with
  | some commit => simp
  | none =>
    by_cases hlocator : binding.evidenceLocator.any (isDurable ·) = true
    swap
    · simp [hlocator]
    simp only [hlocator, Bool.not_true, Bool.false_eq_true, if_false, true_and]
    cases content.filter fun bytes => binding.evidenceDigest ≠ some (sha256Tag py bytes) with
    | some bytes => simp
    | none => simp

theorem checkBinding_eq_none (hdigest : binding.computedDigest py = .ok binding.bindingDigest) :
    checkBinding py binding content = .ok none ↔ binding.kind ∈ bindingKinds ∧
      mutableCommit binding = none ∧ binding.evidenceLocator.any (isDurable ·) = true ∧
      (∀ bytes ∈ content, binding.evidenceDigest = some (sha256Tag py bytes)) ∧
      binding.evidenceDigest.getD "" ≠ "" := by
  rw [checkBinding, hdigest, ← checkSealed_eq_none]
  by_cases hkind : binding.kind ∈ bindingKinds
  · simp [hkind, bind, Except.bind, pure, Except.pure]
  · simp [hkind, pure, Except.pure]

theorem exists_checkBinding (binding : EvidenceBinding) (content : Option (List UInt8))
    (hdigest : binding.computedDigest py = .ok binding.bindingDigest) :
    ∃ outcome, checkBinding py binding content = .ok outcome := by
  rw [checkBinding, hdigest]
  by_cases hkind : binding.kind ∈ bindingKinds
  · exact ⟨_, by rw [if_neg (not_not.mpr hkind)]; rfl⟩
  · exact ⟨_, by rw [if_pos hkind]; rfl⟩

end ChatmanEcosystem.RootCrown
