import Mathlib.Data.List.Destutter
import Mathlib.Data.List.Sort
import Mathlib.Data.Prod.Lex
import ChatmanEcosystem.Core.Subject
import ChatmanEcosystem.Rust.Result

/-!
# Worlds, constraints and mutations

Model of the data that the DO path admits (`crates/hditc/src/lib.rs`, lines
17–212): the typed errors, the content digest, observed worlds, constraints over
their dimensions, and mutations of them. A `BTreeMap` is a `Std.ExtTreeMap` and
a `BTreeSet` a `Std.ExtTreeSet`, both in key order.

Results:

* `normalizeConstraints_idem`: normal constraint lists stay as they are.
* `canonicalDigest_valid`: every digest that the crate writes is a valid one.
-/

namespace ChatmanEcosystem.Hditc

open Core Rust

/-! ## Errors -/

/-- `enum RefusalCode` (lines 21–35). -/
inductive RefusalCode
  | invalidSubject
  | subjectMismatch
  | criticalUnknown
  | staleObservation
  | irreversibleCandidate
  | constraintClosure
  | authorityMismatch
  | authorityBound
  | missingIdempotency
  | missingPostcondition
  | invalidReservation
  | receiptIntegrity
  | noLawfulCandidate
  deriving DecidableEq

/-- `{:?}` of a refusal code. -/
def RefusalCode.debug : RefusalCode → String
  | invalidSubject => "InvalidSubject"
  | subjectMismatch => "SubjectMismatch"
  | criticalUnknown => "CriticalUnknown"
  | staleObservation => "StaleObservation"
  | irreversibleCandidate => "IrreversibleCandidate"
  | constraintClosure => "ConstraintClosure"
  | authorityMismatch => "AuthorityMismatch"
  | authorityBound => "AuthorityBound"
  | missingIdempotency => "MissingIdempotency"
  | missingPostcondition => "MissingPostcondition"
  | invalidReservation => "InvalidReservation"
  | receiptIntegrity => "ReceiptIntegrity"
  | noLawfulCandidate => "NoLawfulCandidate"

/-- `enum Error` (lines 38–49). -/
inductive Error
  | refused (code : RefusalCode) (detail : String)
  | journal (detail : String)
  | finalizeAfterActuation (reservation detail : String)
  | serialization (detail : String)
  | replay (detail : String)
  deriving DecidableEq

/-- `Error::to_string`: the `#[error(..)]` texts of lines 39–48. -/
def Error.toText : Error → String
  | refused code detail => "REFUSED:" ++ code.debug ++ ":" ++ detail
  | journal detail => "BLOCKED:JOURNAL:" ++ detail
  | finalizeAfterActuation reservation detail =>
    "BLOCKED:FINALIZE_AFTER_ACTUATION reservation=" ++ reservation ++ ": " ++ detail
  | serialization detail => "BLOCKED:SERIALIZATION:" ++ detail
  | replay detail => "BLOCKED:REPLAY:" ++ detail

/-- A name between backticks. -/
def ticked (name : String) : String := "\x60" ++ name ++ "\x60"

/-- `nonempty` (lines 70–79). -/
def nonempty (value field : String) : Except Error Unit :=
  ensure (!isBlank value) (.refused .constraintClosure (field ++ " must be non-empty"))

/-- The refusal that a subject's `validate` is mapped to (lines 98–100). -/
def validateSubject (prim : Primitives) (subject : ExactSubject) : Except Error Unit :=
  match subject.validate prim with
  | .ok () => .ok ()
  | .error error => .error (.refused .invalidSubject error.toText)

/-! ## Digests -/

/-- `canonical_digest` (lines 58–62). The types it is used at have string keys
and no floats, so `serde_json::to_vec` does not fail on them. -/
def canonicalDigest (prim : Primitives) (value : Json) : String :=
  "blake3:" ++ prim.blake3Hex (asBytes value.render)

@[simp] theorem canonicalDigest_valid (prim : Primitives) (value : Json) :
    validDigest (canonicalDigest prim value) = true :=
  validDigest_blake3Hex prim _

/-! ## Worlds -/

/-- `type Dimensions` (line 17). -/
abbrev Dimensions := Std.ExtTreeMap String String

/-- The JSON of a map. -/
def Dimensions.toJson (dimensions : Dimensions) : Json :=
  .obj (dimensions.toList.map fun (k, v) => (k, .str v))

/-- The JSON of a set of names. -/
def namesToJson (names : Std.ExtTreeSet String) : Json := .arr (names.toList.map .str)

/-- `struct World` (lines 82–90). -/
structure World where
  subject : ExactSubject
  dimensions : Dimensions
  criticalUnknown : Std.ExtTreeSet String
  evidenceDigests : Std.ExtTreeSet String
  deriving DecidableEq

namespace World

def toJson (world : World) : Json :=
  .obj [("subject", world.subject.toJson), ("dimensions", world.dimensions.toJson),
    ("critical_unknown", namesToJson world.criticalUnknown),
    ("evidence_digests", namesToJson world.evidenceDigests)]

/-- `World::validate` (lines 97–113). -/
def validate (prim : Primitives) (world : World) : Except Error Unit := do
  validateSubject prim world.subject
  (world.dimensions.keys ++ world.criticalUnknown.toList).forM fun key => nonempty key "dimension"
  world.evidenceDigests.toList.forM fun digest =>
    ensure (validDigest digest)
      (.refused .constraintClosure ("invalid evidence digest " ++ ticked digest))

/-- `World::digest` (lines 119–121). -/
def digest (prim : Primitives) (world : World) : String := canonicalDigest prim world.toJson

/-- `World::knows` (lines 123–125). -/
def knows (world : World) (dimensions : Std.ExtTreeSet String) : Bool :=
  world.criticalUnknown.toList.all fun key => !dimensions.contains key

end World

/-! ## Constraints -/

/-- `enum Constraint` (lines 130–135). -/
inductive Constraint
  | present (dimension : String)
  | absent (dimension : String)
  | equals (dimension value : String)
  | notEquals (dimension value : String)
  deriving DecidableEq

namespace Constraint

def toJson : Constraint → Json
  | present d => .obj [("kind", .str "present"), ("dimension", .str d)]
  | absent d => .obj [("kind", .str "absent"), ("dimension", .str d)]
  | equals d v => .obj [("kind", .str "equals"), ("dimension", .str d), ("value", .str v)]
  | notEquals d v => .obj [("kind", .str "not_equals"), ("dimension", .str d), ("value", .str v)]

/-- `Constraint::dimension` (lines 139–146). -/
def dimension : Constraint → String
  | present d | absent d | equals d _ | notEquals d _ => d

/-- `Constraint::holds` (lines 149–160). -/
def holds (dimensions : Dimensions) : Constraint → Bool
  | present d => dimensions.contains d
  | absent d => !dimensions.contains d
  | equals d v => dimensions[d]?.any (· == v)
  | notEquals d v => dimensions[d]?.any (· != v)

/-- What the derived `Ord` compares: the variant, then its members in order. -/
def key : Constraint → ℕ ×ₗ String ×ₗ String
  | present d => toLex (0, toLex (d, ""))
  | absent d => toLex (1, toLex (d, ""))
  | equals d v => toLex (2, toLex (d, v))
  | notEquals d v => toLex (3, toLex (d, v))

theorem key_injective : Function.Injective key := by
  intro a b h
  cases a <;> cases b <;> simp_all [key]

instance : LinearOrder Constraint := LinearOrder.lift' key key_injective

end Constraint

/-- The JSON of a list of constraints. -/
def constraintsToJson (values : List Constraint) : Json := .arr (values.map Constraint.toJson)

/-- `normalize_constraints` (lines 163–168): `sort`, then `dedup`. -/
def normalizeConstraints (values : List Constraint) : List Constraint :=
  (values.insertionSort (· ≤ ·)).destutter (· ≠ ·)

/-- A normal list is sorted. -/
theorem normalizeConstraints_sorted (values : List Constraint) :
    (normalizeConstraints values).Pairwise (· ≤ ·) :=
  (List.pairwise_insertionSort (· ≤ ·) values).sublist (List.destutter_sublist _ _)

theorem normalizeConstraints_idem (values : List Constraint) :
    normalizeConstraints (normalizeConstraints values) = normalizeConstraints values := by
  have hsorted := (normalizeConstraints_sorted values).insertionSort_eq
  rw [normalizeConstraints, hsorted, normalizeConstraints, List.destutter_idem]

/-- `constraints_hold` (lines 170–172). -/
def constraintsHold (values : List Constraint) (dimensions : Dimensions) : Bool :=
  values.all (·.holds dimensions)

/-- `constraint_dimensions` (lines 174–179). -/
def constraintDimensions (values : List Constraint) : Std.ExtTreeSet String :=
  values.foldl (fun names constraint => names.insert constraint.dimension) ∅

/-! ## Mutations -/

/-- `struct Mutation` (lines 182–186). -/
structure Mutation where
  dimension : String
  before : Option String
  after : Option String
  deriving DecidableEq

namespace Mutation

def toJson (mutation : Mutation) : Json :=
  .obj [("dimension", .str mutation.dimension), ("before", .opt .str mutation.before),
    ("after", .opt .str mutation.after)]

/-- `Mutation::apply` (lines 189–211). -/
def apply (prim : Primitives) (mutation : Mutation) (dimensions : Dimensions) :
    Except Error Dimensions := do
  nonempty mutation.dimension "mutation dimension"
  ensure (dimensions[mutation.dimension]? = mutation.before)
    (.refused .staleObservation ("dimension " ++ ticked mutation.dimension ++ " expected " ++
      prim.debugOption mutation.before ++ ", observed " ++
      prim.debugOption dimensions[mutation.dimension]?))
  match mutation.after with
  | some after => return dimensions.insert mutation.dimension after
  | none => return dimensions.erase mutation.dimension

end Mutation

end ChatmanEcosystem.Hditc
