import ChatmanEcosystem.Common.Dependencies
import ChatmanEcosystem.Py.Value
import ChatmanEcosystem.Rust.Result

/-!
# The components of a manifest

Model of `_components` and `_assert_acyclic` (`scripts/dfcm_autonomic_finish.py`, lines 102–167).

Results:

* `admitted_of_components`: the components of an admitted manifest have distinct ids, depend on
  components of the manifest, and do not depend on themselves.
-/

namespace ChatmanEcosystem.Dfcm

open Common Py Rust

/-- `class Refusal` (lines 38–44). -/
structure Refusal where
  code : String
  detail : String
  deriving DecidableEq

abbrev Outcome := Except (Raised Refusal)

def refused (code detail : String) : Raised Refusal := .refusal ⟨code, detail⟩

/-- `digest` (lines 88–90). -/
def digest (py : PyRuntime) (value : Value) : Outcome String :=
  ((py.dumps value).mapError .error).map py.sha256

/-! ## Standings -/

/-- `STANDINGS` (lines 26–33). -/
inductive Standing
  | unknown
  | partialAlive
  | alive
  | blocked
  | buildBroken
  | unsupported
  deriving DecidableEq

namespace Standing

def text : Standing → String
  | unknown => "UNKNOWN"
  | partialAlive => "PARTIAL_ALIVE"
  | alive => "ALIVE"
  | blocked => "BLOCKED"
  | buildBroken => "BUILD_BROKEN"
  | unsupported => "UNSUPPORTED"

def all : List Standing := [unknown, partialAlive, alive, blocked, buildBroken, unsupported]

/-- `value in STANDINGS`. -/
def read (value : Value) (raised : Raised Refusal) : Outcome Standing :=
  if value.hashable then okOr (all.find? fun standing => value.eq (.str standing.text)) raised
  else .error (.error .typeError)

end Standing

/-- `REPAIRABLE` (line 34). -/
def repairable : List Standing := [.unknown, .partialAlive, .blocked, .buildBroken]

/-! ## Rows -/

/-- A row of the manifest: the fields that are checked, and the others that are read. -/
structure Component where
  id : String
  standing : Standing
  sha : String
  repository : String
  ref : String
  role : String
  dependsOn : List String
  /-- `row.get("required", False)`. -/
  required : Bool
  blocker : Option Value
  executionReceipt : Value
  executedSha : Value

/-- Forty lower-case hexadecimal digits. -/
def isSha (text : String) : Bool :=
  text.length = 40 && text.toList.all (· ∈ "0123456789abcdef".toList)

/-- `by_id[cid]`. -/
def row? (byId : List Component) (cid : String) : Option Component := byId.find? (·.id = cid)

/-- A row after those of `by_id` (lines 109–141). -/
def readRow (py : PyRuntime) (byId : List Component) (row : Value) : Outcome (List Component) := do
  let row ← okOr row.dict? (refused "COMPONENT_INVALID" (py.repr row))
  let cid ← okOr ((row.get "id").text?.filter (· ≠ ""))
    (refused "COMPONENT_ID_INVALID" (py.repr (row.get "id")))
  ensure (row? byId cid = none) (refused "DUPLICATE_COMPONENT" cid)
  let standing ← Standing.read (row.get "standing")
    (refused "STANDING_INVALID" (cid ++ ":" ++ py.str (row.get "standing")))
  let sha ← okOr ((row.get "sha").text?.filter isSha)
    (refused "SHA_INVALID" (cid ++ ":" ++ py.str (row.get "sha")))
  let repository ← okOr ((row.get "repository").text?.filter ('/' ∈ ·.toList))
    (refused "REPOSITORY_INVALID" cid)
  let ref ← okOr ((row.get "ref").text?.filter (· ≠ "")) (refused "REF_INVALID" cid)
  let role ← okOr ((row.get "role").text?.filter (· ≠ "")) (refused "ROLE_INVALID" cid)
  let deps ← okOr (row.get "depends_on").texts? (refused "DEPENDENCIES_INVALID" cid)
  return byId ++ [{
    id := cid
    standing := standing
    sha := sha
    repository := repository
    ref := ref
    role := role
    dependsOn := deps
    required := (row.getD "required" (.bool false)).truthy
    blocker := row.lookup "blocker"
    executionReceipt := row.get "execution_receipt"
    executedSha := row.get "executed_sha" }]

/-- The row that a component without a blocker is read from. -/
def Component.document (row : Component) : Value :=
  .dict [("id", .str row.id), ("standing", .str row.standing.text), ("sha", .str row.sha),
    ("repository", .str row.repository), ("ref", .str row.ref), ("role", .str row.role),
    ("depends_on", .list (row.dependsOn.map .str)), ("required", .bool row.required),
    ("execution_receipt", row.executionReceipt), ("executed_sha", row.executedSha)]

/-- A component to run the model with. -/
def sampleComponent (cid : String) (standing : Standing) (required : Bool) (deps : List String) :
    Component where
  id := cid
  standing := standing
  sha := "0123456789abcdef0123456789abcdef01234567"
  repository := "chatman/" ++ cid
  ref := "main"
  role := "research"
  dependsOn := deps
  required := required
  blocker := none
  executionReceipt := .str "run-1"
  executedSha := .str "0123456789abcdef0123456789abcdef01234567"

def sampleManifest (rows : List Component) : Dict :=
  [("components", .list (rows.map Component.document))]

/-! ## Dependencies -/

/-- The ids, in the order of the rows. -/
def ids (byId : List Component) : List String := byId.map Component.id

/-- `by_id[cid]["depends_on"]`. -/
def depsOf (byId : List Component) (cid : String) : List String :=
  ((row? byId cid).map Component.dependsOn).getD []

/-- The dependencies of a row that are not in the manifest (line 144). -/
def missing (byId : List Component) (row : Component) : List String :=
  sorted (row.dependsOn.filter fun dep => row? byId dep = none)

/-- `_assert_acyclic` (lines 151–167). -/
def assertAcyclic (py : PyRuntime) (byId : List Component) : Outcome Unit :=
  match check (depsOf byId) py.recursionLimit (sorted (ids byId)) with
  | .ok _ => .ok ()
  | .error (.cycle cid) => .error (refused "DEPENDENCY_CYCLE" cid)
  | .error .tooDeep => .error (.error .recursionError)

/-- `_components` (lines 102–148). -/
def components (py : PyRuntime) (manifest : Dict) : Outcome (List Component) := do
  let rows ← okOr ((manifest.get "components").items?.filter (!·.isEmpty))
    (refused "MANIFEST_EMPTY" "components")
  let byId ← rows.foldlM (readRow py) []
  byId.forM fun row => ensure (missing byId row = [])
    (refused "DEPENDENCY_NOT_ADMITTED" (row.id ++ ":" ++ ",".intercalate (missing byId row)))
  assertAcyclic py byId
  return byId

/-- What `_components` admits. -/
structure Admitted (byId : List Component) : Prop where
  distinct : (ids byId).Nodup
  admits : ∀ row ∈ byId, ∀ dep ∈ row.dependsOn, dep ∈ ids byId
  founded : ∀ cid ∈ ids byId, Acc (flip (Depends (depsOf byId))) cid

variable {py : PyRuntime} {manifest : Dict} {byId : List Component} {row : Component} {cid : String}

theorem row?_eq_none : row? byId cid = none ↔ cid ∉ ids byId := by
  simp [row?, ids]

theorem Admitted.row? (h : Admitted byId) (hrow : row ∈ byId) : row? byId row.id = some row := by
  obtain ⟨found, hfound⟩ : ∃ found, Dfcm.row? byId row.id = some found := by
    rw [← Option.isSome_iff_exists, ← Option.ne_none_iff_isSome, ne_eq, row?_eq_none, not_not]
    exact List.mem_map_of_mem hrow
  have hid : found.id = row.id := by simpa using List.find?_some hfound
  have hmem : found ∈ byId := List.mem_of_find?_eq_some hfound
  rw [hfound, List.inj_on_of_nodup_map h.distinct hmem hrow hid]

theorem Admitted.depsOf (h : Admitted byId) (hrow : row ∈ byId) :
    depsOf byId row.id = row.dependsOn := by
  rw [Dfcm.depsOf, h.row? hrow]
  rfl

/-- What a component of the manifest needs is in the manifest. -/
theorem Admitted.mem_ids (h : Admitted byId) {below : String} (hcid : cid ∈ ids byId)
    (hreach : Relation.ReflTransGen (Depends (Dfcm.depsOf byId)) cid below) : below ∈ ids byId := by
  induction hreach with
  | refl => exact hcid
  | tail _ hdep ih =>
    obtain ⟨row, hrow, rfl⟩ := List.mem_map.mp ih
    rw [Depends, h.depsOf hrow] at hdep
    exact h.admits row hrow _ hdep

theorem distinct_of_readRow {value : Value} {byId' : List Component}
    (h : readRow py byId value = .ok byId') (hdistinct : (ids byId).Nodup) : (ids byId').Nodup := by
  simp only [readRow, bind_eq_ok, pure_eq_ok, ensure_eq_ok] at h
  obtain ⟨_, _, cid, _, _, hfresh, _, _, _, _, _, _, _, _, _, _, _, _, rfl⟩ := h
  have hnew : cid ∉ ids byId := row?_eq_none.mp hfresh
  simp only [ids, List.map_append, List.map_singleton]
  exact List.nodup_append.mpr ⟨hdistinct, List.nodup_singleton _, fun a ha b hb hab => by
    simp only [List.mem_singleton] at hb
    exact hnew (hb ▸ hab ▸ ha)⟩

theorem distinct_of_rows {rows : List Value} {byId' : List Component}
    (h : rows.foldlM (readRow py) byId = .ok byId') (hdistinct : (ids byId).Nodup) :
    (ids byId').Nodup := by
  induction rows generalizing byId with
  | nil =>
    obtain rfl := Except.ok.inj h
    exact hdistinct
  | cons value rows ih =>
    rw [List.foldlM_cons, bind_eq_ok] at h
    obtain ⟨middle, hvalue, hrows⟩ := h
    exact ih hrows (distinct_of_readRow hvalue hdistinct)

theorem founded_of_assertAcyclic (h : assertAcyclic py byId = .ok ()) (hcid : cid ∈ ids byId) :
    Acc (flip (Depends (depsOf byId))) cid := by
  rw [assertAcyclic] at h
  cases hcheck : check (depsOf byId) py.recursionLimit (sorted (ids byId)) with
  | ok marks => exact acc_of_check hcheck (mem_sorted.mpr hcid)
  | error stop =>
    rw [hcheck] at h
    cases stop <;> exact absurd h (by simp)

theorem admitted_of_components (h : components py manifest = .ok byId) : Admitted byId := by
  simp only [components, bind_eq_ok, pure_eq_ok, forM_eq_ok, ensure_eq_ok] at h
  obtain ⟨rows, -, byId, hrows, _, hmissing, _, hacyclic, rfl⟩ := h
  refine ⟨distinct_of_rows hrows List.nodup_nil, ?_, fun cid => founded_of_assertAcyclic hacyclic⟩
  intro row hrow dep hdep
  by_contra habsent
  have hmem : dep ∈ missing byId row := by
    rw [missing, mem_sorted, List.mem_filter]
    exact ⟨hdep, by simpa using row?_eq_none.mpr habsent⟩
  rw [hmissing row hrow] at hmem
  exact List.not_mem_nil hmem

end ChatmanEcosystem.Dfcm
