import ChatmanEcosystem.Py.Json
import ChatmanEcosystem.RootCrown.RecompileCourt

/-!
# The generated files of a release

Model of the manifest, of `load_inputs`, `project`, `check` and `write`
(`scripts/release_train/root_crown/projector.py`, lines 46–202 and 284–309), of `graph_document`
(`scripts/release_train/root_crown/berthier.py`, lines 314–321), and of `judge_committed`
(`scripts/release_train/root_crown/evidence.py`, lines 653–678).

The inputs are written by hand and none of them is a generated file. `json.loads`, the closure court
and the verifier of the manifest are parameters. A generated document that is read again has the
parts and the texts that the projector writes.
-/

namespace ChatmanEcosystem.RootCrown

open Common Py Rust

/-! ## Documents -/

/-- `value.get(key, default)`. -/
def getOr (value : Value) (key : String) (default : Value) : Outcome Value :=
  match value with
  | .dict members => .ok (Dict.getD members key default)
  | _ => .error (.error .attributeError)

/-- `value[key]`. -/
def itemOf (value : Value) (key : String) : Outcome Value := (value.item key).mapError .error

/-- `list(value)`. -/
def iterateOver (value : Value) : Outcome (List Value) := value.iterate.mapError .error

/-- A text of a document. -/
def textOf : Value → Outcome String
  | .str text => .ok text
  | _ => .error (.error .typeError)

/-- A text of a document, or `None`. -/
def optionalText : Value → Outcome (Option String)
  | .null => .ok none
  | value => some <$> textOf value

/-- The digests of a document. -/
def digestsOf : Value → Outcome Digests
  | .dict members => members.mapM fun member => do return (member.1, ← textOf member.2)
  | _ => .error (.error .typeError)

/-! ## Inputs -/

/-- `class Inputs`, without the graph that was compiled before. -/
structure HandWritten where
  version : String
  /-- The `rfc_id` of the premise of `requirements.json`. -/
  premiseId : String
  requirements : List Requirement
  pins : Value
  closure : Value
  imports : Value
  rfcText : String
  premiseSet : List (String × String)
  inputDigests : Digests

/-- `premise_input` (lines 83–94): the premises that are compiled. -/
def premiseInput (inputs : HandWritten) : List (String × String) :=
  setItem inputs.premiseSet primaryPremise inputs.rfcText

/-- What `packets` reads of a pin; a repository that is no text is not looked up. -/
def pinOf (pin : Value) : Outcome (Option Pin) := do
  let repository ← itemOf pin "repository"
  ensure repository.hashable (.error .typeError)
  let ref ← getOr pin "ref" .null
  let sha ← getOr pin "sha" .null
  return repository.text?.map fun repository => ⟨repository, ref, sha⟩

/-- `pins.get("repos", {}).values()`. -/
def pinsOf (pins : Value) : Outcome (List Pin) := do
  match ← getOr pins "repos" (.dict []) with
  | .dict repos => return (← repos.mapM fun entry => pinOf entry.2).reduceOption
  | _ => .error (.error .attributeError)

/-- What a graph is compiled from, with the graph that was compiled before. -/
def compileInputs (inputs : HandWritten) (prior : Option BerthierGraph) : Outcome CompileInputs :=
  do
  let pins ← pinsOf inputs.pins
  return { version := inputs.version, premiseId := inputs.premiseId,
           requirements := inputs.requirements, pins, prior }

/-! ## The manifest -/

/-- `_IMPL_TO_COMPONENT`. -/
def implToComponent : List (String × String) :=
  [("ALIVE", "ALIVE"), ("PARTIAL_ALIVE", "PARTIAL_ALIVE"), ("BLOCKED", "BLOCKED"),
    ("REFUSED", "BLOCKED"), ("UNSUPPORTED", "BLOCKED"), ("PLANNED", "UNKNOWN"),
    ("NOT_CLAIMED", "UNKNOWN"), ("SUPERSEDED", "UNKNOWN")]

/-- The courts that a manifest is written with. -/
structure ManifestCourts where
  /-- `closure_evaluate(closure).standing`. -/
  closureStanding : Value → Outcome String
  /-- `crown_standing(data, validate_manifest(data, expected_version=version))`. -/
  crownStanding : Value → String → Outcome String

/-- The standing of a row's implementation (lines 141–143). -/
def implOf (row : Value) : Outcome (Option (Value × Value)) := do
  if (← getOr row "spec_standing" .null).eq (.str "NOT_A_SPEC") then
    let repository ← getOr row "repository" .null
    let standing ← getOr row "impl_standing" (.str "UNKNOWN")
    ensure repository.hashable (.error .typeError)
    return some (repository, standing)
  else return none

/-- `_IMPL_TO_COMPONENT.get(impl_by_repo.get(repository, ""), "UNKNOWN")`. -/
def componentStanding (impls : List (Value × Value)) (repository : Value) : Outcome String := do
  ensure repository.hashable (.error .typeError)
  let found := impls.reverse.find? fun impl => impl.1.eq repository
  let impl := (found.map Prod.snd).getD (.str "")
  ensure impl.hashable (.error .typeError)
  return (impl.text?.bind fun text => implToComponent.lookup text).getD "UNKNOWN"

/-- A component of the manifest (lines 149–162). -/
def componentOf (impls : List (Value × Value)) (pin : String × Value) : Outcome Dict := do
  let repository ← itemOf pin.2 "repository"
  let ref ← itemOf pin.2 "ref"
  let refCheck ← getOr pin.2 "ref_check" (.str "github")
  let sha ← itemOf pin.2 "sha"
  let role ← itemOf pin.2 "role"
  let disposition ← itemOf pin.2 "disposition"
  let standing ← componentStanding impls repository
  let required ← itemOf pin.2 "required"
  let dependsOn ← iterateOver (← getOr pin.2 "depends_on" (.list []))
  return [("id", .str pin.1), ("repository", repository), ("ref", ref), ("ref_check", refCheck),
    ("sha", sha), ("role", role), ("disposition", disposition), ("standing", .str standing),
    ("required", .bool required.truthy), ("depends_on", .list dependsOn)]

/-- An observation of the manifest (lines 163–173). -/
def observationOf (pins : Value) (pin : String × Value) : Outcome (Option Dict) := do
  if (← getOr pin.2 "ref_check" .null).eq (.str "external") then
    let repository ← itemOf pin.2 "repository"
    let ref ← itemOf pin.2 "ref"
    let sha ← itemOf pin.2 "sha"
    let authority ← itemOf pins "authority"
    let observedAt ← itemOf pins "observed_at"
    return some [("component", .str pin.1), ("repository", repository), ("ref", ref), ("sha", sha),
      ("authority", authority), ("observed_at", observedAt)]
  else return none

/-- The pins of the manifest, in the order of their keys (lines 146–148). -/
def manifestPins (pins : Value) : Outcome (List (String × Value)) := do
  match ← itemOf pins "repos" with
  | .dict repos => (orderItems repos).filterM fun pin => do
      return !(← getOr pin.2 "root" .null).truthy
  | _ => .error (.error .attributeError)

/-- The data of a manifest: its release, its components and its observations. -/
structure ManifestData where
  release : Dict
  components : List Dict
  observations : List Dict

/-- The document of a manifest. -/
def ManifestData.document (data : ManifestData) : Value :=
  .dict ([("release", .dict data.release), ("components", .list (data.components.map .dict))] ++
    if data.observations = [] then [] else
      [("external_ref_observations", .list (data.observations.map .dict))])

/-- `manifest_data` (lines 138–191). -/
def manifestData (py : PyRuntime) (courts : ManifestCourts) (inputs : HandWritten) :
    Outcome ManifestData := do
  let subjects ← iterateOver (← getOr inputs.closure "subjects" (.list []))
  let impls := (← subjects.mapM implOf).reduceOption
  let pins ← manifestPins inputs.pins
  let components ← pins.mapM (componentOf impls)
  let observations := (← pins.mapM (observationOf inputs.pins)).reduceOption
  let root ← itemOf inputs.pins "root_repository"
  let imported ← match ← itemOf inputs.imports "imports" with
    | .list (first :: _) => .ok first
    | _ => .error (.error .keyError)
  let repo ← itemOf imported "source_repo"
  let sha ← itemOf imported "source_sha"
  let closure ← courts.closureStanding inputs.closure
  let required := components.filter fun component => (component.get "required").truthy
  let roles ← (Value.sortedSet (.list (required.map (·.get "role")))).mapError .error
  let release : String → Dict := fun standing => [("name", .str "Chatman Ecosystem"),
    ("version", .str (String.ofList (inputs.version.toList.drop 1))), ("root_repository", root),
    ("standing", .str standing),
    ("premise", .str (py.str repo ++ ":RFC-0004@" ++ py.str sha)),
      ("closure_standing", .str closure),
    ("required_roles", .list roles)]
  let standing ← courts.crownStanding
    (ManifestData.mk (release "UNKNOWN") components observations).document inputs.version
  return ⟨release standing, components, observations⟩

mutual

/-- `_toml_value`. -/
def tomlValue (py : PyRuntime) : Value → Outcome String
  | .bool flag => .ok (if flag then "true" else "false")
  | .str text => (py.dumps (.str text)).mapError .error
  | .list items => do return "[" ++ ", ".intercalate (← tomlValues py items) ++ "]"
  | _ => .error (.error .typeError)

def tomlValues (py : PyRuntime) : List Value → Outcome (List String)
  | [] => .ok []
  | item :: items => do return (← tomlValue py item) :: (← tomlValues py items)

end

/-- `_toml_table`. -/
def tomlTable (py : PyRuntime) (head : String) (table : Dict) : Outcome String := do
  let lines ← table.mapM fun member => do
    return member.1 ++ " = " ++ (← tomlValue py member.2) ++ "\n"
  return head ++ "\n" ++ String.join lines

/-- `render_manifest` (lines 194–202). -/
def renderManifest (py : PyRuntime) (inputs : HandWritten) (data : ManifestData) :
    Outcome String := do
  let digests := (orderItems inputs.inputDigests).map fun item =>
    item.1 ++ "=" ++ String.ofList (item.2.toList.take 16)
  let release ← tomlTable py "[release]" data.release
  let components ← data.components.mapM (tomlTable py "[[components]]")
  let observations ← data.observations.mapM (tomlTable py "[[external_ref_observations]]")
  return String.join (["# GENERATED by scripts/release_train/root_crown/projector.py -- do not " ++
    "edit; edit the inputs and run --write.\n", "# inputs: ", ", ".intercalate digests, "\n\n",
    release] ++ components.map ("\n" ++ ·) ++ observations.map ("\n" ++ ·))

/-! ## The generated documents -/

/-- `Edge.as_dict`. -/
def Edge.document (edge : Edge) : Value :=
  .dict [("producer", .str edge.producer), ("consumer", .str edge.consumer),
    ("compiled_from", .str edge.compiledFrom), ("consumer_digest", .str edge.consumerDigest)]

/-- The document of some digests, in the order of their keys. -/
def digestsDocument (digests : Digests) : Value :=
  .dict ((orderItems digests).map fun item => (item.1, .str item.2))

/-- `graph_document` (lines 314–321). -/
def graphDocument (graph : BerthierGraph) : Value :=
  .dict [("schema", .str "https://chatman.dev/root-crown/berthier/v1"),
    ("premise", .str primaryPremise), ("baseline", digestsDocument graph.baseline),
    ("compiled", digestsDocument graph.compiled), ("edges", .list (graph.edges.map Edge.document))]

/-- A row of `edges_from_json` (lines 174–178). -/
def edgeOf (row : Value) : Outcome Edge := do
  let producer ← textOf (← itemOf row "producer")
  let consumer ← textOf (← itemOf row "consumer")
  let compiledFrom ← textOf (← itemOf row "compiled_from")
  let consumerDigest ← textOf (← getOr row "consumer_digest" (.str unobserved))
  return { producer, consumer, compiledFrom, consumerDigest }

/-- The graph of a document. -/
def graphIn : Value → Outcome (Option BerthierGraph)
  | .null => .ok none
  | .dict [] => .ok (some ⟨[], [], []⟩)
  | document => do
    let edges ← (← iterateOver (← itemOf document "edges")).mapM edgeOf
    let baseline ← digestsOf (← itemOf document "baseline")
    let compiled ← digestsOf (← itemOf document "compiled")
    return some { edges, baseline, compiled }

/-- What the court reads of a packet. -/
def packetIn (packet : Value) : Outcome Packet := do
  let repository ← optionalText (← getOr (← getOr packet "subject" (.dict [])) "repository" .null)
  let authorityCeiling ← optionalText (← getOr packet "authority_ceiling" .null)
  let mode ← optionalText (← getOr packet "mode" .null)
  return { repository, authorityCeiling, mode }

/-- The packets of a document. -/
def packetsIn (document : Value) : Outcome (List Packet) := do
  (← iterateOver (← itemOf document "packets")).mapM packetIn

/-! ## Reading, projecting, checking and writing -/

/-- What the projector reads and writes: the inputs, and the texts of the generated files. -/
structure ReleaseDir where
  inputs : HandWritten
  generated : List (String × String)

section Projector

variable (py : PyRuntime) (courts : ManifestCourts) (loads : String → Outcome Value)

/-- The graph that was compiled before (line 121 of `load_inputs`). -/
def loadPrior (dir : ReleaseDir) : Outcome (Option BerthierGraph) :=
  match dir.generated.lookup "berthier.json" with
  | none => .ok none
  | some text => do graphIn (← loads text)

/-- `compile_graph` of the inputs. -/
def compileFor (inputs : HandWritten) (prior : Option BerthierGraph) : Outcome Projection := do
  compileGraph py (← compileInputs inputs prior) (premiseInput inputs)

/-- `project` (lines 284–287). -/
def project (inputs : HandWritten) (prior : Option BerthierGraph) :
    Outcome (List (String × String)) := do
  let projection ← compileFor py inputs prior
  let berthier ← jsonBytes py (graphDocument projection.graph)
  let manifest ← renderManifest py inputs (← manifestData py courts inputs)
  return [("berthier.json", berthier), ("manifest.toml", manifest),
    ("out/packets.json", projection.packets), ("out/requirements.ttl", projection.ttl)]

/-- `check` (lines 290–300), for a release that has its inputs. -/
def checkProjection (dir : ReleaseDir) : Outcome (List String) := do
  let outputs ← project py courts dir.inputs (← loadPrior loads dir)
  return (outputs.filter fun output => dir.generated.lookup output.1 ≠ some output.2).map
    fun output => "REFUSED:PROJECTION_DRIFT:" ++ output.1

/-- `write` (lines 303–309). -/
def writeProjection (dir : ReleaseDir) : Outcome ReleaseDir := do
  let outputs ← project py courts dir.inputs (← loadPrior loads dir)
  let generated := outputs.foldl (fun files output => setItem files output.1 output.2) dir.generated
  return { dir with generated }

/-- The packets that a release declares. -/
def declaredPackets (dir : ReleaseDir) : Outcome (List Packet) :=
  match dir.generated.lookup "out/packets.json" with
  | none => .ok []
  | some text => do packetsIn (← loads text)

/-- `judge_committed` (lines 653–678). -/
def judgeCommitted (dir : ReleaseDir) (observed : Observed) : Outcome BerthierVerdict := do
  let graph := (← loadPrior loads dir).getD ⟨[], [], []⟩
  let sources ← sourceDigests py (premiseInput dir.inputs) dir.inputs.requirements
  let projected := projectedOutputs.filterMap fun name =>
    (dir.generated.lookup name).map fun text => (name, py.sha256 text)
  let declared ← declaredPackets loads dir
  judge py graph.edges (currentOf sources projected) declared graph.baseline observed

end Projector

end ChatmanEcosystem.RootCrown
