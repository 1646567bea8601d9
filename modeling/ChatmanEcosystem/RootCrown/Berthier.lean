import ChatmanEcosystem.Common.Graph
import ChatmanEcosystem.RootCrown.Requirements
import ChatmanEcosystem.Rust.Result

/-!
# The Berthier graph

Model of the recompile court (`scripts/release_train/root_crown/berthier.py`, lines 30–321), of
`compile_graph` (`scripts/release_train/root_crown/projector.py`, lines 204–281), and of what both
use of `scripts/release_train/invalidation_promotion`. A graph and its packets are typed; the
schema of the edges, the same for all, is left out.
-/

namespace ChatmanEcosystem.RootCrown

open Common Py Rust

/-- A computation that can refuse. -/
abbrev Outcome (α : Type) := Except (Raised String) α

/-! ## Keys -/

/-- `PREMISE`. -/
def primaryPremise : String := "RFC-0004"

/-- `PROJECTED_OUTPUTS`. -/
def projectedOutputs : List String := ["out/packets.json", "out/requirements.ttl"]

/-- `UNOBSERVED`. -/
def unobserved : String := "UNOBSERVED"

/-- `premise_key` (lines 93–94). -/
def premiseKey (number rfc : String) : String := "premise:" ++ (rfc ++ "#" ++ number)

/-- `premise_ref_key` (lines 97–99). -/
def premiseRefKey (ref : String) : String :=
  premiseKey (splitRef ref).2 ((splitRef ref).1.getD primaryPremise)

/-- `req_key` (lines 107–108). -/
def reqKey (rid : String) : String := "req:" ++ rid

/-- `packet_key` (lines 111–112). -/
def packetKey (owner : String) : String := "packet:" ++ owner

/-- `artifact_key` (lines 115–116). -/
def artifactKey (locator : String) : String := "artifact:" ++ locator

/-- The key of a projected output. -/
def projKey (name : String) : String := "proj:" ++ name

theorem reqKey_inj {rid rid' : String} : reqKey rid = reqKey rid' ↔ rid = rid' := by
  simp [reqKey]

/-- `text.startswith(start)`. -/
def startsWith (text start : String) : Bool := start.toList.isPrefixOf text.toList

/-- `text[len(start):]`. -/
def dropText (text start : String) : String := String.ofList (text.toList.drop start.toList.length)

/-! ## Edges -/

/-- `class Edge`. -/
structure Edge where
  producer : String
  consumer : String
  compiledFrom : String
  consumerDigest : String
  deriving DecidableEq

/-- A digest for each node. -/
abbrev Digests := List (String × String)

/-- `Requirement.row` (lines 388–400 of the model). -/
def Requirement.row (req : Requirement) : Value :=
  .dict [("id", .str req.id), ("kind", .str req.kind), ("term", .str req.term),
    ("owner_repo", .str req.ownerRepo), ("acceptance", .str req.acceptance),
    ("evidence_kind", .str req.evidenceKind), ("evidence_locator", .str req.evidenceLocator),
    ("premise_refs", .list (req.premiseRefs.map .str)),
    ("depends_on", .list (req.dependsOn.map .str)), ("required", .bool req.required)]

/-- `digest(value)`. -/
def canonicalDigest (py : PyRuntime) (value : Value) : Outcome String :=
  ((py.dumps value).mapError .error).map py.sha256

/-- The digests of the sections of the premises. -/
def sectionDigests (py : PyRuntime) (texts : List (String × String)) : Digests :=
  (texts.insertionSort fun a b => a.1 ≤ b.1).flatMap fun text =>
    (premiseSections py text.2).map fun found => (premiseKey found.1 text.1, py.sha256 found.2)

/-- The digest of a row. -/
def rowDigest (py : PyRuntime) (req : Requirement) : Outcome (String × String) := do
  return (reqKey req.id, ← canonicalDigest py req.row)

/-- `source_digests` (lines 119–133). -/
def sourceDigests (py : PyRuntime) (texts : List (String × String)) (reqs : List Requirement) :
    Outcome Digests := do
  let rows ← reqs.mapM (rowDigest py)
  return ofPairs (sectionDigests py texts ++ rows)

/-- The edges of one row (lines 138–144). -/
def rowSpecs (req : Requirement) : List (String × String) :=
  req.premiseRefs.map (fun ref => (premiseRefKey ref, reqKey req.id)) ++
    projectedOutputs.map (fun name => (reqKey req.id, projKey name)) ++
    [(reqKey req.id, packetKey req.ownerRepo), (reqKey req.id, artifactKey req.evidenceLocator)]

/-- `edge_specs` (lines 136–145). -/
def edgeSpecs (reqs : List Requirement) : List (String × String) :=
  (reqs.flatMap rowSpecs).dedup.insertionSort fun a b => a.1 < b.1 ∨ a.1 = b.1 ∧ a.2 ≤ b.2

/-- The graph of some edges. -/
def graphOf (edges : List Edge) : Edges String := edges.map fun edge =>
    (edge.producer, edge.consumer)

/-- `DependencyGraph(edges)`. -/
def dependencyGraph (edges : List Edge) : Outcome Unit :=
  ensure ((graphOf edges).accepts sorted) (.refusal "REFUSED[DEPENDENCY_CYCLE]")

/-- An edge with the digests of its ends. -/
def freshEdge (digests consumers : Digests) (spec : String × String) : Edge where
  producer := spec.1
  consumer := spec.2
  compiledFrom := (digests.lookup spec.1).getD unobserved
  consumerDigest := (consumers.lookup spec.2).getD unobserved

/-- `build_edges` (lines 148–165). -/
def buildEdges (reqs : List Requirement) (digests consumers : Digests) : Outcome (List Edge) := do
  let edges := (edgeSpecs reqs).map (freshEdge digests consumers)
  dependencyGraph edges
  return edges

/-- `renew_projection` (lines 168–171). -/
def renewProjection (edge : Edge) (producerDigest consumerDigest : String) : Outcome Edge := do
  let receipt := if producerDigest = "" then edge.compiledFrom else producerDigest
  ensure (receipt ≠ edge.compiledFrom) (.refusal "REFUSED[NO_RENEWAL_DELTA]")
  return { edge with compiledFrom := receipt, consumerDigest }

/-! ## Impact -/

/-- `delta` (lines 181–183). -/
def delta (baseline current : Digests) : List String :=
  sorted ((current.filter fun item => baseline.lookup item.1 ≠ some item.2).map Prod.fst)

/-- What a node's change reaches (lines 189–191). -/
def cascade (edges : List Edge) (key : String) : Outcome (List String) := do
  dependencyGraph edges
  return key :: ((graphOf edges).descendants sorted key).map Prod.fst

/-- `impact_of` (lines 186–192). -/
def impactOf (edges : List Edge) (changed : List String) : Outcome (List String) := do
  return sortedTexts (← changed.mapM (cascade edges)).flatten

/-- What a change reaches in a graph without a cycle. -/
theorem exists_impactOf {edges : List Edge} (h : dependencyGraph edges = .ok ())
    (changed : List String) : ∃ impact, impactOf edges changed = .ok impact ∧
      ∀ key, key ∈ impact ↔
        ∃ source ∈ changed, Relation.ReflTransGen (graphOf edges).Step source key := by
  have hcascade : ∀ source ∈ changed, cascade edges source =
      .ok (source :: ((graphOf edges).descendants sorted source).map Prod.fst) := by
    intro source _
    rw [cascade, h]
    rfl
  refine ⟨_, by rw [impactOf, mapM_ok hcascade]; rfl, fun key => ?_⟩
  simp only [mem_sortedTexts, List.mem_flatten, List.mem_map, exists_exists_and_eq_and]
  refine exists_congr fun source => and_congr_right fun _ => ?_
  rw [List.mem_cons, Edges.mem_descendants sorted_perm]
  constructor
  · rintro (rfl | ⟨hreach, -⟩)
    · exact .refl
    · exact hreach
  · intro hreach
    by_cases hself : key = source
    · exact .inl hself
    · exact .inr ⟨hreach, hself⟩

/-- `owners_of` (lines 195–196). -/
def ownersOf (impact : List String) : List String :=
  sorted ((impact.filter (startsWith · "packet:")).map (dropText · "packet:"))

/-! ## The court -/

/-- What a declared packet has that the court reads. -/
structure Packet where
  repository : Option String
  authorityCeiling : Option String
  mode : Option String
  deriving DecidableEq

/-- `require_authority`. -/
def requireAuthority (action : String) : Except String Unit :=
  if action ∈ ["OBSERVE", "SELECT", "CONSTRUCT", "VERIFY"] then .ok ()
  else if action ∈ ["DO", "MERGE", "RELEASE", "DEPLOY", "MESSAGE", "SPEND", "DELETE",
    "LIVE_CLOUD"] then .error "REFUSED[BRCE_REQUIRED]"
  else .error "REFUSED[UNKNOWN_ACTION]"

/-- `class BerthierVerdict`. -/
structure BerthierVerdict where
  standing : String
  refusals : List String
  stale : List String
  impact : List String
  requiredOwners : List String
  deriving DecidableEq

/-- What a graph is judged against, besides the sources. -/
structure Observed where
  artifacts : Option Digests
  failures : List String
  deriving DecidableEq

/-- A producer whose digest has moved. -/
def isStale (current : Digests) (edge : Edge) : Bool :=
  (current.lookup edge.producer).any (· ≠ edge.compiledFrom)

/-- A premise that is not in the sources any more. -/
def isUnbound (current : Digests) (edge : Edge) : Bool :=
  startsWith edge.producer "premise:" && (current.lookup edge.producer).isNone

/-- The refusals of a consumer (lines 276–284). -/
def consumerRefusals (current : Digests) (observed : Observed) (stale : List String) (edge : Edge) :
    List String :=
  let projected := if startsWith edge.consumer "proj:" ∧
      (current.lookup edge.consumer).any (edge.consumerDigest ≠ ·) ∧ edge.consumer ∉ stale then
    ["REFUSED:STALE_PROJECTION:" ++ edge.consumer] else []
  let seen := (observed.artifacts.getD []).lookup edge.consumer
  let mismatched := if startsWith edge.consumer "artifact:" ∧ edge.consumerDigest ≠ unobserved ∧
      seen.any (· ≠ edge.consumerDigest) then
    ["REFUSED:ARTIFACT_DIGEST_MISMATCH:" ++ edge.consumer] else []
  projected ++ mismatched

/-- The refusals of a packet (lines 296–303). -/
def packetRefusals (py : PyRuntime) (observed : Observed) (packet : Packet) : List String :=
  let owner := py.str (ofText packet.repository)
  let amplified := match requireAuthority (packet.authorityCeiling.getD "UNKNOWN") with
    | .ok () => []
    | .error refusal => ["REFUSED:AUTHORITY_INCREASE:" ++ owner ++ ":" ++ refusal]
  let unlawful := if packet.mode = some "break_glass" ∧
      ¬ packet.repository.any (· ∈ observed.failures) then
    ["REFUSED:BREAK_GLASS_AS_NORMAL:" ++ owner] else []
  amplified ++ unlawful

/-- The digests that the edges were compiled from (line 286). -/
def compiledOf (edges : List Edge) : Digests :=
  ofPairs ((edges.filter fun edge => startsWith edge.producer "premise:" ||
    startsWith edge.producer "req:").map fun edge => (edge.producer, edge.compiledFrom))

local instance lawfulOwner : LawfulBEq (Option String) := inferInstance

/-- `judge` (lines 263–311), for a graph without a cycle. -/
def judgeAcyclic (py : PyRuntime) (edges : List Edge) (current : Digests) (packets : List Packet)
    (baseline : Digests) (observed : Observed) : Outcome BerthierVerdict := do
  let unbound := (edges.filter (isUnbound current)).map fun edge =>
    "REFUSED:PREMISE_UNBOUND:" ++ edge.producer
  let roots := (edges.filter (isStale current)).map Edge.producer
  let stale ← impactOf edges (sortedTexts roots)
  let staleConsumers := stale.filter (· ∉ roots)
  let impact ← impactOf edges (delta baseline (compiledOf edges))
  let required := ownersOf impact
  let declared := packets.map Packet.repository
  let omitted := (required.filter fun owner => some owner ∉ declared).map
    ("REFUSED:OMITTED_SUBJECT:" ++ ·)
  let unevidenced := (declared.reduceOption.filter (· ∉ required)).map
    ("REFUSED:UNEVIDENCED_WORK:" ++ ·)
  let refusals := sortedTexts (unbound ++ staleConsumers.map ("REFUSED:STALE_PROJECTION:" ++ ·) ++
    edges.flatMap (consumerRefusals current observed staleConsumers) ++ omitted ++ unevidenced ++
    packets.flatMap (packetRefusals py observed))
  let standing := if refusals = [] then "ALIVE" else "REFUSED"
  return ⟨standing, refusals, staleConsumers, impact, sortedTexts required⟩

/-- `judge` (lines 244–311). -/
def judge (py : PyRuntime) (edges : List Edge) (current : Digests) (packets : List Packet)
    (baseline : Digests) (observed : Observed) : Outcome BerthierVerdict :=
  match dependencyGraph edges with
  | .error (.refusal refusal) =>
    .ok ⟨"REFUSED", ["REFUSED:DEPENDENCY_CYCLE:" ++ refusal], [], [], []⟩
  | .error raised => .error raised
  | .ok () => judgeAcyclic py edges current packets baseline observed

end ChatmanEcosystem.RootCrown
