import ChatmanEcosystem.Common.CycleSearch
import ChatmanEcosystem.RootCrown.DurableLocators

/-!
# Release manifests

Model of `validate_manifest` and `_detect_cycles` (`scripts/verify_release.py`, lines 31–59 and
72–251), without a path and an expected version. A manifest is what `tomllib` loads. The digits of
all scripts are a parameter, and so is the text of a value: an integer may have too many digits
for one, and a list may be nested too deep.

What may stand in a set, what can be iterated and what a pattern is matched against are questions
of the language: where the validator does not ask them first, it raises.
-/

namespace ChatmanEcosystem.ReleaseTrain.ReleaseManifest

open Common Py Rust RootCrown
  Pattern

/-! ## Patterns and tables -/

/-- `SHA_RE` (line 31). -/
def shaRx : Pattern := seqs [start, hex40, stop]

/-- `REPO_RE` (line 32). -/
def repositoryRx : Pattern := seqs [start, repoRx, stop]

/-- `VERSION_RE` of `verify_calendar_release`. -/
def versionRx (py : PyRuntime) : Pattern :=
  let digit (c : Char) : Bool := (py.digit c).isSome
  let upToTwo : Pattern := alt (times digit 2) (times digit 1)
  seqs [start, opt (lit "v"), times digit 2, lit ".", upToTwo, lit ".", upToTwo, stop]

/-- `ALLOWED_STANDINGS` (lines 33–40). -/
def allowedStandings : List String :=
  ["UNKNOWN", "PARTIAL_ALIVE", "ALIVE", "BLOCKED", "BUILD_BROKEN", "UNSUPPORTED"]

/-- `ALLOWED_REF_CHECKS` (line 41). -/
def allowedRefChecks : List String := ["github", "external"]

/-- `ALLOWED_DISPOSITIONS` (lines 42–49). -/
def allowedDispositions : List String :=
  ["CROWN", "REQUIRED", "ADAPTER", "BENCH_GYM", "SOURCE_ARCHAEOLOGY", "OUT_OF_RELEASE"]

/-- `required_fields` (lines 115–126). -/
def requiredFields : List String :=
  ["id", "repository", "ref", "ref_check", "sha", "role", "disposition", "standing", "required",
    "depends_on"]

/-- `class Finding` (lines 52–59). What a finding is about may be any value of the manifest. -/
structure Finding where
  code : String
  subject : Value
  detail : Value

/-- `findings.append(...)` under a condition. -/
def report (condition : Prop) [Decidable condition] (code : String) (subject detail : Value) :
    List Finding :=
  if condition then [⟨code, subject, detail⟩] else []

/-- `value in texts`, for a set of texts. -/
def among (value : Value) (texts : List String) : Except PyError Bool := do
  ensure (value.hashable = true) .typeError
  return texts.any fun text => value.eq (.str text)

/-- A text for a pattern. -/
def textOf (value : Value) : Except PyError String := okOr value.text? .typeError

/-- A text that is not blank. -/
def isFilled (value : Value) : Bool :=
  match value with
  | .str text => strip text.toList ≠ []
  | _ => false

/-- `set.add`. -/
def insertValue (values : List Value) (value : Value) : List Value :=
  if values.any (·.eq value) then values else values ++ [value]

/-- `str(value)`. -/
def textFor (print : Value → Except PyError String) : Value → Except PyError String
  | .str text => .ok text
  | value => print value

/-- A finding about a value that is not one of the texts allowed, with the text of the value. -/
def reportOther (print : Value → Except PyError String) (allowed : Bool) (code : String)
    (subject value : Value) : Except PyError (List Finding) :=
  if allowed = true then .ok []
  else do
    let text ← textFor print value
    return [⟨code, subject, .str text⟩]

/-- `by_id`: the keys in order of insertion, each with its component. -/
abbrev ById := List (Value × Dict)

/-- `by_id[id] = component`. A key that is there stays. -/
def ById.set (byId : ById) (id : Value) (component : Dict) : ById :=
  if byId.any (·.1.eq id) then
    byId.map fun entry => if entry.1.eq id then (entry.1, component) else entry
  else byId ++ [(id, component)]

/-! ## Components -/

/-- A component with all its fields. -/
def isComplete (component : Dict) : Bool := requiredFields.all fun field =>
  (component.lookup field).isSome

/-- What a component does to `by_id`. -/
def place (byId : ById) (component : Dict) : ById := byId.set (Dict.get component "id") component

/-- What the loop over the components has gathered (lines 110–113). -/
structure Gathered where
  ids : List Value
  repositories : List Value
  roles : List Value
  byId : ById
  findings : List Finding

section

variable (py : PyRuntime) (print : Value → Except PyError String)

/-- The checks of the fields of a component (lines 153–172). -/
def fieldFindings (component : Dict) : Except PyError (List Finding) := do
  let id := Dict.get component "id"
  let ref := Dict.get component "ref"
  let refCheck := Dict.get component "ref_check"
  let disposition := Dict.get component "disposition"
  let standing := Dict.get component "standing"
  let required := Dict.get component "required"
  let repository ← textOf (Dict.get component "repository")
  let refFindings ← reportOther print (isFilled ref) "ECOSYSTEM_REF_INVALID" id ref
  let refCheckAllowed ← among refCheck allowedRefChecks
  let refCheckFindings ← reportOther print refCheckAllowed "ECOSYSTEM_REF_CHECK_MODE_INVALID" id
    refCheck
  let sha ← textOf (Dict.get component "sha")
  let dispositionAllowed ← among disposition allowedDispositions
  let dispositionFindings ← reportOther print dispositionAllowed "ECOSYSTEM_DISPOSITION_INVALID" id
    disposition
  let standingAllowed ← among standing allowedStandings
  let standingFindings ← reportOther print standingAllowed "ECOSYSTEM_STANDING_INVALID" id standing
  return report (repositoryRx.fullMatch repository = false) "ECOSYSTEM_REPOSITORY_INVALID" id
      (.str repository) ++
    refFindings ++ refCheckFindings ++
    report (shaRx.fullMatch sha = false) "ECOSYSTEM_SHA_INVALID" id (.str sha) ++
    dispositionFindings ++ standingFindings ++
    report (required.isBool true = false ∧ required.isBool false = false)
      "ECOSYSTEM_REQUIRED_INVALID" id (.str "required must be boolean") ++
    report ((Dict.get component "depends_on").texts? = none) "ECOSYSTEM_DEPENDENCIES_INVALID" id
      (.str "depends_on must be an array of component ids") ++
    report (required.truthy = true ∧ disposition.eq (.str "OUT_OF_RELEASE") = true)
      "ECOSYSTEM_REQUIRED_OUT_OF_RELEASE" id
      (.str "required component cannot be OUT_OF_RELEASE") ++
    report (required.truthy = true ∧ standing.eq (.str "UNSUPPORTED") = true)
      "ECOSYSTEM_REQUIRED_UNSUPPORTED" id (.str "required component cannot be UNSUPPORTED")

/-- One round of the loop over the components (lines 128–172). -/
def gather (gathered : Gathered) (entry : Value × ℕ) : Except PyError Gathered :=
  let subject : Value := .str ("components[" ++ toString entry.2 ++ "]")
  match entry.1 with
  | .dict component =>
    if isComplete component = false then
      let missing := sorted (requiredFields.filter fun field => (component.lookup field).isNone)
      .ok { gathered with findings := gathered.findings ++
        [⟨"ECOSYSTEM_COMPONENT_FIELDS_MISSING", Dict.getD component "id" subject,
          .str (",".intercalate missing)⟩] }
    else do
      let id := Dict.get component "id"
      let repository := Dict.get component "repository"
      let role := Dict.get component "role"
      ensure (id.hashable = true ∧ role.hashable = true ∧ repository.hashable = true) .typeError
      let fields ← fieldFindings print component
      return {
        ids := insertValue gathered.ids id
        repositories := insertValue gathered.repositories repository
        roles := insertValue gathered.roles role
        byId := place gathered.byId component
        findings := gathered.findings ++
          report (gathered.ids.any (·.eq id)) "ECOSYSTEM_DUPLICATE_COMPONENT_ID" id
            (.str "component id must be unique") ++
          report (gathered.repositories.any (·.eq repository)) "ECOSYSTEM_DUPLICATE_REPOSITORY"
            repository (.str "repository may appear only once") ++ fields }
  | _ =>
    .ok { gathered with findings := gathered.findings ++
      [⟨"ECOSYSTEM_COMPONENT_INVALID", subject, .str "component must be a table"⟩] }

/-! ## Dependencies and roles -/

/-- `by_id` with the dependencies of each component. -/
abbrev Edges := List (Value × List Value)

/-- What a component depends on. All of it can be looked up. -/
def dependenciesOf (component : Dict) : Except PyError (List Value) := do
  let dependencies ← (Dict.getD component "depends_on" (.list [])).iterate
  ensure (∀ dependency ∈ dependencies, dependency.hashable = true) .typeError
  return dependencies

/-- The edges of the components. They are read once here, the source reads them for the findings and
again for the cycles. -/
def edgesOf (byId : ById) : Except PyError Edges := byId.mapM fun entry => do
  let dependencies ← dependenciesOf entry.2
  return (entry.1, dependencies)

/-- The findings of the dependencies (lines 174–179). -/
def dependencyFindings (edges : Edges) : List Finding :=
  edges.flatMap fun entry => entry.2.flatMap fun dependency =>
    report (edges.any (·.1.eq dependency) = false) "ECOSYSTEM_DEPENDENCY_NOT_ADMITTED" entry.1
      dependency ++
    report (dependency.eq entry.1 = true) "ECOSYSTEM_SELF_DEPENDENCY" entry.1 dependency

/-- The findings of the required roles (lines 181–187). -/
def roleFindings (release : Dict) (roles : List Value) : List Finding :=
  match (Dict.getD release "required_roles" (.list [])).texts? with
  | none => [⟨"ECOSYSTEM_REQUIRED_ROLES_INVALID", .str "release.required_roles",
      .str "must be an array of strings"⟩]
  | some expected => expected.flatMap fun role =>
      report (roles.any (·.eq (.str role)) = false) "ECOSYSTEM_REQUIRED_ROLE_MISSING" (.str role)
        (.str "no component provides required role")

/-! ## Observations -/

/-- What the loop over the observations has gathered. -/
structure Observed where
  byComponent : List (String × Dict)
  findings : List Finding

/-- One round of the loop over the observations (lines 194–205). -/
def observe (byId : ById) (observed : Observed) (observation : Value) :
    Except PyError Observed :=
  match observation with
  | .dict observation => do
    let component := Dict.get observation "component"
    match component.text?.filter fun name => byId.any (·.1.eq (.str name)) with
    | none => do
      let text ← textFor print component
      return { observed with findings := observed.findings ++
        [⟨"ECOSYSTEM_EXTERNAL_REF_COMPONENT_INVALID", .str text,
          .str "observation must name an admitted component"⟩] }
    | some name =>
      if (observed.byComponent.lookup name).isSome then
        return { observed with findings := observed.findings ++
          [⟨"ECOSYSTEM_EXTERNAL_REF_DUPLICATE", .str name,
            .str "only one external observation is admitted per component"⟩] }
      else return { observed with byComponent := observed.byComponent ++ [(name, observation)] }
  | _ =>
    .ok { observed with findings := observed.findings ++
      [⟨"ECOSYSTEM_EXTERNAL_REF_OBSERVATION_INVALID", .str "external_ref_observations",
        .str "observation must be a table"⟩] }

/-- The observations of a manifest, none where they are no list (lines 189–192). -/
def observationsOf (data : Dict) : List Value :=
  (Dict.getD data "external_ref_observations" (.list [])).items?.getD []

/-- The finding about a field that an observation has otherwise than its component
(lines 214–216). -/
def mismatch (id : Value) (component observation : Dict) (field : String) :
    Except PyError (List Finding) :=
  if (Dict.get observation field).eq (Dict.get component field) = true then .ok []
  else do
    let admitted ← textFor print (Dict.get component field)
    let observed ← textFor print (Dict.get observation field)
    return [⟨"ECOSYSTEM_EXTERNAL_REF_EVIDENCE_MISMATCH", id,
      .str (field ++ ": admitted=" ++ admitted ++ " observed=" ++ observed)⟩]

/-- What an observation has to have as its component has it (line 214). -/
def observedFields : List String := ["repository", "ref", "sha"]

/-- The findings about the observation of a component (lines 207–220). -/
def externalFindings (byComponent : List (String × Dict)) (entry : Value × Dict) :
    Except PyError (List Finding) :=
  if (Dict.get entry.2 "ref_check").eq (.str "external") = false then .ok []
  else match entry.1.text?.bind (byComponent.lookup ·) with
    | none => .ok [⟨"ECOSYSTEM_EXTERNAL_REF_EVIDENCE_MISSING", entry.1,
        .str "external ref check requires an exact observation"⟩]
    | some observation => do
      let mismatches ← observedFields.mapM (mismatch print entry.1 entry.2 observation)
      return mismatches.flatten ++
        report (isFilled (Dict.get observation "authority") = false)
          "ECOSYSTEM_EXTERNAL_REF_AUTHORITY_MISSING" entry.1
          (.str "external observation requires authority") ++
        report (isFilled (Dict.get observation "observed_at") = false)
          "ECOSYSTEM_EXTERNAL_REF_TIME_MISSING" entry.1
          (.str "external observation requires observed_at")

/-! ## Cycles -/

/-- The places in `by_id` that a place depends on. A key that equals no value is found by its
identity alone, as `for key in by_id` has it. -/
def nexts (edges : Edges) (place : ℕ) : List ℕ :=
  (edges[place]?.elim [] Prod.snd).filterMap fun dependency =>
    edges.findIdx? (·.1.eq dependency)

/-- The key of a place. -/
def keyAt (edges : Edges) (place : ℕ) : Value := edges[place]?.elim .null Prod.fst

/-- The cycle that a trail closes at one of its nodes. -/
def cycleOf (trail : List ℕ) (node : ℕ) : List ℕ := trail.dropWhile (· ≠ node) ++ [node]

/-- The finding of a cycle (lines 234–238). -/
def closeCycle (edges : Edges) (trail : List ℕ) (node : ℕ) (findings : List Finding) :
    Except PyError (List Finding) := do
  let names ← (cycleOf trail node).mapM fun place => textOf (keyAt edges place)
  return findings ++ [⟨"ECOSYSTEM_DEPENDENCY_CYCLE", keyAt edges node,
    .str (" -> ".intercalate names)⟩]

/-- `_detect_cycles` (lines 226–251), at most `limit` calls deep. -/
def detectCycles (limit : ℕ) (edges : Edges) : Except PyError (List Finding) := do
  let (_, findings) ← (List.range edges.length).foldlM
    (enter (nexts edges) .recursionError (closeCycle edges) limit []) ([], [])
  return findings

/-! ## The validator -/

/-- The version has the form of a calendar release (line 96). -/
def isVersion (version : Value) : Bool :=
  match version with
  | .str text => !text.startsWith "v" && (versionRx py).fullMatch text
  | _ => false

/-- The findings of the header (lines 95–108). -/
def headerFindings (release : Dict) : Except PyError (List Finding) := do
  let version := Dict.get release "version"
  let standing := Dict.get release "standing"
  let versionFindings ← reportOther print (isVersion py version) "ECOSYSTEM_VERSION_INVALID"
    (.str "release.version") version
  let standingAllowed ← among standing allowedStandings
  let standingFindings ← reportOther print standingAllowed "ECOSYSTEM_RELEASE_STANDING_INVALID"
    (.str "release.standing") standing
  return versionFindings ++ standingFindings

/-- The validator on a manifest with its two sections. -/
def validateSections (data release : Dict) (components : List Value) :
    Except PyError (List Finding) := do
  let header ← headerFindings py print release
  let gathered ← components.zipIdx.foldlM (gather print) ⟨[], [], [], [], header⟩
  let edges ← edgesOf gathered.byId
  let observed ← (observationsOf data).foldlM (observe print gathered.byId)
    ⟨[], report ((Dict.getD data "external_ref_observations" (.list [])).items? = none)
      "ECOSYSTEM_EXTERNAL_REF_OBSERVATIONS_INVALID" (.str "external_ref_observations")
      (.str "must be an array of tables")⟩
  let externals ← gathered.byId.mapM (externalFindings print observed.byComponent)
  let cycles ← detectCycles py.recursionLimit edges
  return gathered.findings ++ dependencyFindings edges ++ roleFindings release gathered.roles ++
    observed.findings ++ externals.flatten ++ cycles

/-- `validate_manifest` (lines 72–223), without a path and an expected version. -/
def validateManifest (data : Dict) : Except PyError (List Finding) :=
  match Dict.get data "release", Dict.get data "components" with
  | .dict release, .list (component :: components) =>
    validateSections py print data release (component :: components)
  | .dict _, _ => .ok [⟨"ECOSYSTEM_COMPONENTS_MISSING", .str "components",
      .str "at least one [[components]] entry is required"⟩]
  | _, _ => .ok [⟨"ECOSYSTEM_RELEASE_SECTION_MISSING", .str "release",
      .str "[release] is required"⟩]

end

end ChatmanEcosystem.ReleaseTrain.ReleaseManifest
