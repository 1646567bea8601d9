import ChatmanEcosystem.RootCrown.Berthier

/-!
# Compiling the Berthier graph

Model of `packets` (`scripts/release_train/root_crown/berthier.py`, lines 199–237), and of
`render_ttl` and `compile_graph` (`scripts/release_train/root_crown/projector.py`, lines 204–281).
The graph that was committed before is typed, as is the graph that is written.
-/

namespace ChatmanEcosystem.RootCrown

open Common Py Rust

/-- What the pin of a repository is read for. -/
structure Pin where
  repository : String
  ref : Value
  sha : Value

/-- `berthier.json`. -/
structure BerthierGraph where
  edges : List Edge
  baseline : Digests
  compiled : Digests
  deriving DecidableEq

/-- What a graph is compiled from, but for the premises. -/
structure CompileInputs where
  version : String
  premiseId : String
  requirements : List Requirement
  pins : List Pin
  prior : Option BerthierGraph

/-- `_premise_nodes`. -/
def premiseNodes (req : Requirement) : List String := req.premiseRefs.map premiseRefKey

/-- Texts in order, each once. -/
def textSet (texts : List String) : Value := .list ((sortedTexts texts).map .str)

/-- One packet of `packets` (lines 211–236). -/
def packetDocument (py : PyRuntime) (pins : List Pin) (changed : List String)
    (mine : List Requirement) (owner : String) : Value :=
  let pin := pins.reverse.find? (·.repository = owner)
  let ref := (pin.map Pin.ref).getD .null
  let sha := (pin.map Pin.sha).getD .null
  let falsifiers := (mine.filter (·.kind = "FALSIFIER")).map Requirement.id
  .dict [("subject", .dict [("repository", .str owner), ("ref", ref), ("sha", sha)]),
    ("action", .str "CONSTRUCT evidence satisfying the listed requirements; no actuation"),
    ("acceptance", .list (mine.map fun req => .str (req.id ++ ": " ++ req.acceptance))),
    ("falsifier", .list ((if falsifiers = [] then ["root crown refuses the requirement state"]
      else falsifiers).map .str)),
    ("dependencies", textSet (mine.flatMap Requirement.dependsOn)),
    ("authority", .str "CONSTRUCT"), ("authority_ceiling", .str "CONSTRUCT"),
    ("verification", textSet (mine.map fun req => req.evidenceKind ++ "@" ++ req.evidenceLocator)),
    ("receipt_requirement",
      .str "root-crown receipt with every listed requirement PASS on a merged SHA"),
    ("strategic_delta", .list ((sorted (changed.filter fun key => mine.any fun req =>
      key = reqKey req.id || key ∈ premiseNodes req)).map .str)),
    ("exact_subject", .str (owner ++ "@" ++ py.str sha)),
    ("changed_edge", .list ((sorted (mine.flatMap fun req =>
      ((premiseNodes req).filter (· ∈ changed)).map fun node => node ++ "->" ++ reqKey req.id)).map
        .str)),
    ("preserved_invariants",
      .list [.str "authority ceiling CONSTRUCT", .str "SELECT != DECOMPOSE != DO"]),
    ("required_capability", .list ((sorted (mine.map Requirement.id)).map .str)),
    ("successor", .null), ("mode", .str "normal")]

/-- `packets` (lines 199–237): the owners and their packets. -/
def packetsOf (py : PyRuntime) (reqs : List Requirement) (impact changed : List String)
    (pins : List Pin) : List (String × Value) :=
  let impacted := (impact.filter (startsWith · "req:")).map (dropText · "req:")
  (ownersOf impact).map fun owner =>
    (owner, packetDocument py pins changed
      (reqs.filter fun req => req.ownerRepo = owner ∧ req.id ∈ impacted) owner)

/-- `text.replace(old, new)`, for characters. -/
def replaceChar (old new : Char) (text : String) : String :=
  String.ofList (text.toList.map fun c => if c = old then new else c)

/-- `_ttl_literal`. -/
def ttlLiteral (py : PyRuntime) (text : String) : Outcome String :=
  (py.dumps (.str text)).mapError .error

/-- The lines of a requirement in `render_ttl` (lines 216–231). -/
def ttlLines (py : PyRuntime) (req : Requirement) : Outcome (List String) := do
  let class_ := if req.kind = "AC" then "AcceptanceCriterion" else "Falsifier"
  let fields ← [("dcterms:identifier", req.id), ("rc:term", req.term), ("rc:owner", req.ownerRepo),
    ("rc:evidenceKind", req.evidenceKind), ("rc:evidenceLocator", req.evidenceLocator)].mapM
      fun field => do return "  " ++ field.1 ++ " " ++ (← ttlLiteral py field.2) ++ " ;"
  let refs ← req.premiseRefs.mapM fun ref => do
    return "  rc:premiseRef " ++ (← ttlLiteral py ref) ++ " ;"
  let deps := req.dependsOn.map fun dep => "  rc:dependsOn rc:" ++ replaceChar '-' '_' dep ++ " ;"
  let acceptance ← ttlLiteral py req.acceptance
  return ["rc:" ++ replaceChar '-' '_' req.id ++ " a rc:" ++ class_ ++ " ;"] ++ fields ++ refs ++
    deps ++ ["  rc:acceptance " ++ acceptance ++ " .", ""]

/-- `render_ttl` (lines 204–232). -/
def renderTtl (py : PyRuntime) (inputs : CompileInputs) : Outcome String := do
  let premise ← ttlLiteral py inputs.premiseId
  let rows ← inputs.requirements.mapM (ttlLines py)
  return "\n".intercalate (["# GENERATED by scripts/release_train/root_crown/projector.py -- " ++
    "one-way view; requirements.json is the source.",
    "@prefix rc: <https://chatman.dev/root-crown#> .",
    "@prefix dcterms: <http://purl.org/dc/terms/> .", "",
    "rc:" ++ replaceChar '.' '_' inputs.version ++ " a rc:Release ;",
    "  rc:premise " ++ premise ++ " .", ""] ++ rows.flatten)

/-- `_json_bytes`. -/
def jsonBytes (py : PyRuntime) (value : Value) : Outcome String := do
  return (← (py.dumpsIndented value).mapError .error) ++ "\n"

/-- `==` of two dictionaries of texts. -/
def sameDigests (a b : Digests) : Bool :=
  a.length = b.length && a.all fun item => b.lookup item.1 = some item.2

/-- The sources of the compile before (lines 242–248). -/
def baselineOf (prior : Option BerthierGraph) (sources : Digests) : Digests :=
  match prior with
  | none => []
  | some prior => if sameDigests prior.compiled sources then prior.baseline else prior.compiled

/-- An edge is taken from the compile before, and renewed (lines 268–272). -/
def renewFrom (prior : List Edge) (edge : Edge) : Outcome Edge :=
  match prior.reverse.find? fun old => old.producer = edge.producer ∧
    old.consumer = edge.consumer with
  | some old => if old.compiledFrom ≠ edge.compiledFrom then
      renewProjection old edge.compiledFrom edge.consumerDigest else .ok edge
  | none => .ok edge

/-- What is projected. -/
structure Projection where
  graph : BerthierGraph
  packets : String
  ttl : String
  deriving DecidableEq

/-- `compile_graph` (lines 237–281). -/
def compileGraph (py : PyRuntime) (inputs : CompileInputs) (texts : List (String × String)) :
    Outcome Projection := do
  let reqs := inputs.requirements
  let sources ← sourceDigests py texts reqs
  let baseline := baselineOf inputs.prior sources
  let probe ← buildEdges reqs sources []
  let changed := delta baseline sources
  let impact ← impactOf probe changed
  let packetList := packetsOf py reqs impact changed inputs.pins
  let packets ← jsonBytes py (.dict [("release", .str inputs.version),
    ("premise", .str primaryPremise), ("strategic_delta", .list (changed.map .str)),
    ("packets", .list (packetList.map Prod.snd))])
  let ttl ← renderTtl py inputs
  let digests ← packetList.mapM fun packet => do
    return (packetKey packet.1, py.sha256 (← jsonBytes py packet.2))
  let consumers := ofPairs ([(projKey "out/packets.json", py.sha256 packets),
    (projKey "out/requirements.ttl", py.sha256 ttl)] ++ digests)
  let fresh ← buildEdges reqs sources consumers
  let edges ← fresh.mapM (renewFrom ((inputs.prior.map BerthierGraph.edges).getD []))
  return { graph := { edges, baseline, compiled := sources }, packets, ttl }

end ChatmanEcosystem.RootCrown
