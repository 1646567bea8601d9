import ChatmanEcosystem.Common.Regex
import ChatmanEcosystem.Py.Dict
import ChatmanEcosystem.Py.Text
import ChatmanEcosystem.RootCrown.Types

/-!
# Admission of the requirements

Model of `calver` and `release_terms` (`scripts/release_train/root_crown/model.py`, lines 50–101)
and of `scripts/release_train/root_crown/requirements.py`. The rows are the typed ones: what
`to_requirement` reads from a document that has the fields it asks for.
-/

namespace ChatmanEcosystem.RootCrown

open Common Py Pattern

/-! ## Sections of a premise -/

/-- `\d`. -/
def isDigit (py : PyRuntime) (c : Char) : Bool := (py.digit c).isSome

/-- The number that digits write. -/
def number (py : PyRuntime) (digits : List Char) : ℕ :=
  digits.foldl (fun value c => 10 * value + (py.digit c).getD 0) 0

/-- `_HEADING`. -/
def headingRx (py : PyRuntime) : Pattern :=
  seqs [alt (lit "##") (lit "#"), lit " ",
    group "number" (seqs [plus (isDigit py), opt (seqs [lit ".", plus (isDigit py)])]),
    opt (lit "."), lit " "]

/-- The number of a heading. -/
def headingNumber (py : PyRuntime) (line : List Char) : Option (List Char) :=
  ((headingRx py).prefixMatch (String.ofList line)).bind fun place => place.groups.lookup "number"

/-- The lines of each numbered section. -/
def sectionLines (py : PyRuntime) : List (List Char) → List (List Char × List (List Char))
  | [] => []
  | line :: lines =>
    match headingNumber py line with
    | some number =>
      (number, line :: lines.takeWhile fun line => (headingNumber py line).isNone) ::
        sectionLines py lines
    | none => sectionLines py lines

/-- The text of a section, without spaces at the ends of its lines. -/
def normalized (lines : List (List Char)) : String :=
  String.ofList (['\n'].intercalate
    ((splitLines (strip (['\n'].intercalate lines))).map rstrip))

/-- `premise_sections` (lines 37–51). -/
def premiseSections (py : PyRuntime) (text : String) : List (String × String) :=
  (sectionLines py (text.toList.splitOn '\n')).foldl (fun sections found =>
    let key := "§" ++ String.ofList found.1
    match sections.lookup key with
    | some earlier => setItem sections key (earlier ++ "\n" ++ normalized found.2)
    | none => setItem sections key (normalized found.2)) []

/-- `_AC`. -/
def acRx (py : PyRuntime) : Pattern :=
  seqs [lit "AC-", group "number" (times (isDigit py) 2), lit " "]

/-- The numbered items of the falsifiers. -/
def itemRx (py : PyRuntime) : Pattern := seqs [group "number" (plus (isDigit py)), lit ". "]

/-- A number with two digits at least. -/
def twoDigits (value : ℕ) : String := if value < 10 then "0" ++ toString value else toString value

/-- `rfc_requirement_ids` (lines 54–62). -/
def rfcRequirementIds (py : PyRuntime) (text : String) : List String :=
  let sections := premiseSections py text
  let criteria := ((sections.lookup "§48").getD "").toList.splitOn '\n' |>.filterMap fun line =>
    ((acRx py).prefixMatch (String.ofList line)).bind fun place =>
      (place.groups.lookup "number").map fun number => "AC-" ++ String.ofList number
  let falsifiers := (splitLines ((sections.lookup "§47").getD "").toList).filterMap fun line =>
    ((itemRx py).prefixMatch (String.ofList line)).bind fun place =>
      (place.groups.lookup "number").map fun digits => "F-" ++ twoDigits (number py digits)
  criteria ++ falsifiers

/-- `split_ref` (lines 85–91). -/
def splitRef (ref : String) : Option String × String :=
  let head := ref.toList.takeWhile (· ≠ '§')
  let tail := ref.toList.dropWhile (· ≠ '§')
  if tail ≠ [] ∧ head ≠ [] then (some (String.ofList head), String.ofList tail) else (none, ref)

/-! ## Terms of a release -/

/-- `TERMS`. -/
def terms : List String := ["C", "A", "R", "X", "F", "M"]

/-- `TERM_REGISTRY`. -/
def termRegistry : List String := terms ++ ["U"]

/-- `TERM_PREMISE`. -/
def termPremise : List (String × String) := [("U", "RFC-0005")]

/-- `TERM_FROM_RELEASE`. -/
def termFromRelease : List (String × List ℕ) := [("U", [26, 9, 26])]

/-- `_CALVER`. -/
def calverRx (py : PyRuntime) : Pattern :=
  seqs [start, lit "v", group "year" (plus (isDigit py)), lit ".",
    group "month" (plus (isDigit py)), lit ".", group "day" (plus (isDigit py)), stop]

/-- `calver` (lines 53–56). -/
def calver (py : PyRuntime) (release : String) : Option (List ℕ) :=
  (((calverRx py).run (.start release.toList)).find? (·.rest.isEmpty)).map fun place =>
    ["year", "month", "day"].map fun name => number py ((place.groups.lookup name).getD [])

/-- A member of the premise set. -/
structure PremiseEntry where
  rfcId : Option String
  sha256 : Option String
  deriving DecidableEq

/-- What `requirements.json` declares. -/
structure RequirementsDoc where
  /-- The symbols of the `terms` table. -/
  declared : Option (List String)
  release : Option String
  primary : Option String
  members : List PremiseEntry
  rows : List Requirement
  deriving DecidableEq

/-- A term that binds from a release on is added or refused (lines 90–100). -/
def gateTerm (version : List ℕ) (state : List String × List String)
    (entry : String × List ℕ) : List String × List String :=
  let since := "v" ++ ".".intercalate (entry.2.map toString)
  if entry.1 ∈ state.1 ∧ version < entry.2 then
    (state.1, state.2 ++ ["REFUSED:REQ_TERM_UNBOUND:" ++ entry.1 ++ ":premature(binds-from-" ++
      since ++ ")"])
  else if entry.1 ∉ state.1 ∧ entry.2 ≤ version then
    (state.1 ++ [entry.1], state.2 ++ ["REFUSED:REQ_TERM_UNBOUND:" ++ entry.1 ++
      ":required-from-" ++ since])
  else state

/-- `release_terms` (lines 59–101). -/
def releaseTerms (py : PyRuntime) (doc : RequirementsDoc) (release : Option String) :
    List String × List String :=
  let malformed := if doc.declared = some [] then
    ["REFUSED:REQ_MALFORMED:terms:not-a-non-empty-object"] else []
  let declared := (doc.declared.filter (· ≠ [])).getD terms
  let unknown := (declared.filter (· ∉ termRegistry)).map fun term =>
    "REFUSED:REQ_TERM_UNBOUND:" ++ term ++ ":not-in-registry"
  let known := declared.filter (· ∈ termRegistry)
  let omitted := terms.filter (· ∉ known)
  let renamed := match release, doc.release with
    | some release, some named => if named ≠ release then
        ["REFUSED:REQ_MALFORMED:release:premise-names-" ++ named ++ "-for-" ++ release] else []
    | _, _ => []
  let line := release.orElse fun _ => doc.release
  let version := line.bind (calver py)
  let unversioned := match line, version with
    | some line, none => ["REFUSED:REQ_MALFORMED:release:not-calver:" ++ line]
    | _, _ => []
  let before := malformed ++ unknown ++ omitted.map (fun term =>
    "REFUSED:REQ_TERM_UNBOUND:" ++ term ++ ":base-term-omitted") ++ renamed ++ unversioned
  let gated := match version with
    | some version => termFromRelease.foldl (gateTerm version) (known ++ omitted, before)
    | none => (known ++ omitted, before)
  (termRegistry.filter (· ∈ gated.1), sorted gated.2)

/-! ## Admission -/

/-- The refusals of the premise set (lines 93–123). -/
def premiseSetRefusals (py : PyRuntime) (doc : RequirementsDoc)
    (premiseSet : List (String × String))
    (evaluated : List String) : List String :=
  let ids := doc.members.map PremiseEntry.rfcId
  let name := fun rfcId : Option String => py.str (ofText rfcId)
  let duplicates := (sortedTexts ((ids.filter (ids.count · > 1)).map name)).map fun rfc =>
    "REFUSED:REQ_PREMISE_UNBOUND:" ++ rfc ++ ":duplicate-set-member"
  let shadowed := match doc.primary with
    | some primary => if some primary ∈ ids then
        ["REFUSED:REQ_PREMISE_UNBOUND:" ++ primary ++ ":primary-premise-in-set"] else []
    | none => []
  let unbound := evaluated.filterMap fun term => (termPremise.lookup term).bind fun rfc =>
    match doc.members.reverse.find? (·.rfcId = some rfc), premiseSet.lookup rfc with
    | some entry, some text => if some (py.sha256 text) ≠ entry.sha256 then
        some ("REFUSED:REQ_PREMISE_UNBOUND:" ++ term ++ ":" ++ rfc ++ "-sha256-mismatch") else none
    | _, _ => some ("REFUSED:REQ_PREMISE_UNBOUND:" ++ term ++ ":" ++ rfc ++ "-not-imported")
  duplicates ++ shadowed ++ unbound

/-- What a release is admitted against. -/
structure Premise where
  /-- The repositories that are pinned. -/
  owners : List String
  rfcText : String
  evidenceKinds : List String
  premiseSet : List (String × String)
  release : Option String
  deriving DecidableEq

/-- `KINDS`. -/
def kinds : List String := ["AC", "FALSIFIER"]

/-- A text that is not blank. -/
def isBlank (text : String) : Bool := strip text.toList = []

/-- The fields of a row that are wrong (lines 154–164). -/
def badFields (row : Requirement) : List String :=
  let blank := ([("id", row.id), ("kind", row.kind), ("term", row.term),
    ("owner_repo", row.ownerRepo), ("acceptance", row.acceptance),
    ("evidence_kind", row.evidenceKind), ("evidence_locator", row.evidenceLocator)].filter
      fun field => isBlank field.2).map Prod.fst
  let unreferenced := if blank = [] ∧ row.premiseRefs = [] then ["premise_refs"] else blank
  if unreferenced = [] ∧ row.kind ∉ kinds then ["kind"] else unreferenced

/-- The refusals of a row by itself (lines 170–186). -/
def rowRefusals (py : PyRuntime) (premise : Premise) (evaluated : List String)
    (row : Requirement) : List String :=
  let unbound := if row.term ∈ evaluated then [] else
    ["REFUSED:REQ_TERM_UNBOUND:" ++ row.id ++ ":" ++ row.term]
  let unowned := if row.ownerRepo ∈ premise.owners then [] else
    ["REFUSED:REQ_OWNER_UNADMITTED:" ++ row.id ++ ":" ++ row.ownerRepo]
  let uncited := match termPremise.lookup row.term with
    | some rfc => if row.premiseRefs.any fun ref => (splitRef ref).1 = some rfc then [] else
        ["REFUSED:REQ_PREMISE_UNBOUND:" ++ row.id ++ ":term " ++ row.term ++ " cites no " ++ rfc ++
          " section"]
    | none => []
  let missing := row.premiseRefs.filterMap fun ref =>
    let (rfc, found) := splitRef ref
    let sections := match rfc with
      | none => premiseSections py premise.rfcText
      | some rfc => ((premise.premiseSet.lookup rfc).map (premiseSections py)).getD []
    if found ∈ sections.map Prod.fst then none else
      some ("REFUSED:REQ_PREMISE_UNBOUND:" ++ row.id ++ ":" ++ ref)
  let unsupported := if row.evidenceKind ∈ premise.evidenceKinds then [] else
    ["REFUSED:REQ_KIND_UNKNOWN:" ++ row.id ++ ":" ++ row.evidenceKind]
  unbound ++ unowned ++ uncited ++ missing ++ unsupported

/-- `validate_requirements` (lines 126–204). -/
def validateRequirements (py : PyRuntime) (premise : Premise) (doc : RequirementsDoc) :
    List String :=
  if doc.rows = [] then ["REFUSED:REQ_MALFORMED:requirements:empty"]
  else
    let (evaluated, termRefusals) := releaseTerms py doc premise.release
    let malformed := doc.rows.flatMap fun row => (badFields row).map fun field =>
      "REFUSED:REQ_MALFORMED:" ++ row.id ++ ":" ++ field
    let wellFormed := doc.rows.filter (badFields · = [])
    let ids := wellFormed.map Requirement.id
    let duplicates := (ids.filter (ids.count · > 1)).map fun rid =>
      "REFUSED:REQ_DUPLICATE_ID:" ++ rid
    let uncovered := (evaluated.filter fun term => wellFormed.all (·.term ≠ term)).map fun term =>
      "REFUSED:REQ_TERM_UNBOUND:" ++ term ++ ":no-requirement"
    let expected := rfcRequirementIds py premise.rfcText
    let missing := (expected.filter (· ∉ ids)).map fun rid =>
      "REFUSED:REQ_COVERAGE_GAP:" ++ rid ++ ":not-in-requirements"
    let bound := (wellFormed.filter fun row => (termPremise.lookup row.term).isSome).map
      Requirement.id
    let extra := (ids.filter fun rid => rid ∉ expected ∧ rid ∉ bound).map fun rid =>
      "REFUSED:REQ_COVERAGE_GAP:" ++ rid ++ ":not-in-premise"
    let dangling := wellFormed.flatMap fun row => (row.dependsOn.filter (· ∉ ids)).map fun dep =>
      "REFUSED:REQ_MALFORMED:" ++ row.id ++ ":depends_on=" ++ dep
    sortedTexts (termRefusals ++ premiseSetRefusals py doc premise.premiseSet evaluated ++
      malformed ++ wellFormed.flatMap (rowRefusals py premise evaluated) ++ duplicates ++
      uncovered ++ missing ++ extra ++ dangling)

end ChatmanEcosystem.RootCrown
