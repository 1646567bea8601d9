import ChatmanEcosystem.Hditc.World

/-!
# Candidates, grants and prepared carriers

Model of the SELECT/CONSTRUCT side of the DO path (`crates/hditc/src/lib.rs`,
lines 215–300, 367–494 and 497–622): projecting a candidate, verifying an
authority grant, and manufacturing a `PreparedDo` with its receipt reservation.

Results:

* `PreparedDo.prepare_verify`: a carrier that `prepare` made passes `verify`.
-/

namespace ChatmanEcosystem.Hditc

open Core Rust

/-! ## Candidates -/

/-- `struct Candidate` (lines 215–231). -/
structure Candidate where
  id : String
  subject : ExactSubject
  command : String
  idempotencyKey : String
  requiredAuthority : Authority
  reversible : Bool
  optionPreservation : UInt64
  informationGainMillibits : UInt64
  costMicrounits : UInt64
  requiresKnown : Std.ExtTreeSet String
  mutations : List Mutation
  constructionConstraints : List Constraint
  deriving DecidableEq

namespace Candidate

def toJson (candidate : Candidate) : Json :=
  .obj [("id", .str candidate.id), ("subject", candidate.subject.toJson),
    ("command", .str candidate.command), ("idempotency_key", .str candidate.idempotencyKey),
    ("required_authority", candidate.requiredAuthority.toJson),
    ("reversible", .bool candidate.reversible),
    ("option_preservation", .num candidate.optionPreservation.toNat),
    ("information_gain_millibits", .num candidate.informationGainMillibits.toNat),
    ("cost_microunits", .num candidate.costMicrounits.toNat),
    ("requires_known", namesToJson candidate.requiresKnown),
    ("mutations", .arr (candidate.mutations.map Mutation.toJson)),
    ("construction_constraints", constraintsToJson candidate.constructionConstraints)]

/-- `Candidate::project` (lines 239–291). -/
def project (prim : Primitives) (candidate : Candidate) (world : World) :
    Except Error Dimensions := do
  world.validate prim
  validateSubject prim candidate.subject
  ensure (candidate.subject = world.subject)
    (.refused .subjectMismatch "candidate and world subjects differ")
  nonempty candidate.id "candidate id"
  nonempty candidate.command "command"
  ensure (!isBlank candidate.idempotencyKey)
    (.refused .missingIdempotency "DO candidates require an idempotency key")
  ensure candidate.reversible (.refused .irreversibleCandidate
    ("candidate " ++ ticked candidate.id ++ " is not admitted during reversible search"))
  ensure (world.knows candidate.requiresKnown) (.refused .criticalUnknown
    ("candidate " ++ ticked candidate.id ++ " depends on UNKNOWN " ++ prim.debugList
      (world.criticalUnknown.toList.filter (candidate.requiresKnown.contains ·))))
  let projected ← candidate.mutations.foldlM (fun dimensions mutation =>
    mutation.apply prim dimensions) world.dimensions
  ensure (constraintsHold (normalizeConstraints candidate.constructionConstraints) projected)
    (.refused .constraintClosure
      ("candidate " ++ ticked candidate.id ++ " violates construction constraints"))
  return projected

/-- `Candidate::digest` (lines 297–299). -/
def digest (prim : Primitives) (candidate : Candidate) : String :=
  canonicalDigest prim candidate.toJson

end Candidate

/-! ## Authority grants -/

/-- `struct AuthorityGrant` (lines 367–377). -/
structure AuthorityGrant where
  id : String
  subject : ExactSubject
  authority : Authority
  consequenceBound : List Constraint
  nonce : String
  issuedAt : String
  digest : String
  deriving DecidableEq

namespace AuthorityGrant

def toJson (grant : AuthorityGrant) : Json :=
  .obj [("id", .str grant.id), ("subject", grant.subject.toJson),
    ("authority", grant.authority.toJson),
    ("consequence_bound", constraintsToJson grant.consequenceBound), ("nonce", .str grant.nonce),
    ("issued_at", .str grant.issuedAt), ("digest", .str grant.digest)]

/-- `AuthorityGrant::unsigned` (lines 380–385). -/
def unsigned (grant : AuthorityGrant) : AuthorityGrant :=
  { grant with digest := "", consequenceBound := normalizeConstraints grant.consequenceBound }

/-- `AuthorityGrant::seal` (lines 391–401). -/
def sealGrant (prim : Primitives) (grant : AuthorityGrant) : Except Error AuthorityGrant := do
  validateSubject prim grant.subject
  nonempty grant.id "authority grant id"
  nonempty grant.nonce "authority nonce"
  nonempty grant.issuedAt "authority issued_at"
  let grant := { grant with consequenceBound := normalizeConstraints grant.consequenceBound }
  return { grant with digest := canonicalDigest prim grant.unsigned.toJson }

/-- `AuthorityGrant::verify_for` (lines 407–430). -/
def verifyFor (prim : Primitives) (grant : AuthorityGrant) (candidate : Candidate) :
    Except Error Unit := do
  ensure (grant.subject = candidate.subject)
    (.refused .subjectMismatch "authority grant subject differs from candidate")
  ensure (grant.authority.permits candidate.requiredAuthority)
    (.refused .authorityMismatch ("grant has " ++ grant.authority.debug ++
      ", candidate requires " ++ candidate.requiredAuthority.debug))
  ensure (validDigest grant.digest ∧ grant.digest = canonicalDigest prim grant.unsigned.toJson)
    (.refused .authorityMismatch "authority grant digest mismatch")

end AuthorityGrant

/-! ## Reservations -/

/-- `struct ReceiptReservation` (lines 434–444). -/
structure ReceiptReservation where
  id : String
  subject : ExactSubject
  candidateDigest : String
  grantDigest : String
  beforeDigest : String
  expectedDigest : String
  idempotencyKey : String
  digest : String
  deriving DecidableEq

namespace ReceiptReservation

def toJson (reservation : ReceiptReservation) : Json :=
  .obj [("id", .str reservation.id), ("subject", reservation.subject.toJson),
    ("candidate_digest", .str reservation.candidateDigest),
    ("grant_digest", .str reservation.grantDigest),
    ("before_digest", .str reservation.beforeDigest),
    ("expected_digest", .str reservation.expectedDigest),
    ("idempotency_key", .str reservation.idempotencyKey), ("digest", .str reservation.digest)]

/-- `ReceiptReservation::unsigned` (lines 447–451). -/
def unsigned (reservation : ReceiptReservation) : ReceiptReservation :=
  { reservation with digest := "" }

/-- `ReceiptReservation::seal` (lines 453–456). -/
def sealReservation (prim : Primitives) (reservation : ReceiptReservation) : ReceiptReservation :=
  { reservation with digest := canonicalDigest prim reservation.unsigned.toJson }

/-- `ReceiptReservation::verify` (lines 462–493). -/
def verify (prim : Primitives) (reservation : ReceiptReservation) : Except Error Unit := do
  validateSubject prim reservation.subject
  ensure (!isBlank reservation.idempotencyKey)
    (.refused .missingIdempotency "reservation idempotency key is empty")
  [reservation.candidateDigest, reservation.grantDigest, reservation.beforeDigest,
      reservation.expectedDigest, reservation.digest].forM fun digest =>
    ensure (validDigest digest)
      (.refused .invalidReservation ("invalid reservation digest " ++ ticked digest))
  ensure (reservation.digest = canonicalDigest prim reservation.unsigned.toJson)
    (.refused .invalidReservation "reservation digest mismatch")

end ReceiptReservation

/-! ## Prepared carriers -/

/-- `struct PreparedDo` (lines 497–503). -/
structure PreparedDo where
  candidate : Candidate
  grant : AuthorityGrant
  expectedPostconditions : List Constraint
  projectedDimensions : Dimensions
  reservation : ReceiptReservation
  deriving DecidableEq

namespace PreparedDo

/-- The union of two sets of names. -/
def unionNames (a b : Std.ExtTreeSet String) : Std.ExtTreeSet String :=
  b.toList.foldl (·.insert ·) a

/-- The sealed reservation that `prepare` manufactures (lines 550–577). -/
def manufacture (prim : Primitives) (world : World) (candidate : Candidate)
    (grant : AuthorityGrant) (expectedPostconditions : List Constraint) : ReceiptReservation :=
  let candidateDigest := candidate.digest prim
  let beforeDigest := world.digest prim
  let expectedDigest := canonicalDigest prim (constraintsToJson expectedPostconditions)
  let reservationSeed := canonicalDigest prim (.arr [.str candidateDigest, .str grant.digest,
    .str beforeDigest, .str expectedDigest, .str candidate.idempotencyKey])
  let reservationId := match stripPrefix reservationSeed "blake3:" with
    | none => "receipt:invalid"
    | some hex => "receipt:" ++ String.ofList (hex.take 32)
  ReceiptReservation.sealReservation prim
    { id := reservationId, subject := candidate.subject, candidateDigest
      grantDigest := grant.digest, beforeDigest, expectedDigest
      idempotencyKey := candidate.idempotencyKey, digest := "" }

variable {prim : Primitives} {world : World} {candidate : Candidate} {grant : AuthorityGrant}
  {expected : List Constraint}

/-- The manufactured reservation verifies. -/
theorem manufacture_verify (hsubject : validateSubject prim candidate.subject = .ok ())
    (hkey : isBlank candidate.idempotencyKey = false) (hgrant : validDigest grant.digest = true) :
    (manufacture prim world candidate grant expected).verify prim = .ok () := by
  simp only [ReceiptReservation.verify, bind_eq_ok, ensure_eq_ok, forM_eq_ok]
  refine ⟨(), hsubject, (), by rw [Bool.not_eq_true']; exact hkey, (), fun digest hmem => ?_, rfl⟩
  simp only [manufacture, ReceiptReservation.sealReservation, Candidate.digest, World.digest,
    List.mem_cons, List.not_mem_nil, or_false] at hmem
  rcases hmem with rfl | rfl | rfl | rfl | rfl
  · exact canonicalDigest_valid prim _
  · exact hgrant
  · exact canonicalDigest_valid prim _
  · exact canonicalDigest_valid prim _
  · exact canonicalDigest_valid prim _

/-- `PreparedDo::prepare` (lines 514–587). -/
def prepare (prim : Primitives) (world : World) (candidate : Candidate) (grant : AuthorityGrant)
    (expectedPostconditions : List Constraint) : Except Error PreparedDo := do
  let projectedDimensions ← candidate.project prim world
  grant.verifyFor prim candidate
  let expectedPostconditions := normalizeConstraints expectedPostconditions
  ensure (expectedPostconditions ≠ [])
    (.refused .missingPostcondition "DO requires at least one observed postcondition")
  ensure (world.knows (unionNames (constraintDimensions expectedPostconditions)
      (constraintDimensions grant.consequenceBound)))
    (.refused .criticalUnknown "postcondition or authority bound depends on UNKNOWN")
  ensure (constraintsHold expectedPostconditions projectedDimensions)
    (.refused .constraintClosure "projected world does not satisfy expected postconditions")
  ensure (constraintsHold grant.consequenceBound projectedDimensions)
    (.refused .authorityBound "projected consequence exceeds authority grant")
  let reservation := manufacture prim world candidate grant expectedPostconditions
  reservation.verify prim
  return { candidate, grant, expectedPostconditions, projectedDimensions, reservation }

/-- The bindings between the members of a carrier (lines 600–606). -/
structure Bound (prim : Primitives) (prepared : PreparedDo) : Prop where
  subject : prepared.reservation.subject = prepared.candidate.subject
  candidateDigest : prepared.reservation.candidateDigest = prepared.candidate.digest prim
  grantDigest : prepared.reservation.grantDigest = prepared.grant.digest
  expectedDigest : prepared.reservation.expectedDigest = canonicalDigest prim
    (constraintsToJson (normalizeConstraints prepared.expectedPostconditions))
  idempotencyKey : prepared.reservation.idempotencyKey = prepared.candidate.idempotencyKey

instance (prim : Primitives) (prepared : PreparedDo) : Decidable (prepared.Bound prim) :=
  decidable_of_iff
    (prepared.reservation.subject = prepared.candidate.subject ∧
      prepared.reservation.candidateDigest = prepared.candidate.digest prim ∧
      prepared.reservation.grantDigest = prepared.grant.digest ∧
      prepared.reservation.expectedDigest = canonicalDigest prim
        (constraintsToJson (normalizeConstraints prepared.expectedPostconditions)) ∧
      prepared.reservation.idempotencyKey = prepared.candidate.idempotencyKey)
    ⟨fun ⟨a, b, c, d, e⟩ => ⟨a, b, c, d, e⟩, fun ⟨a, b, c, d, e⟩ => ⟨a, b, c, d, e⟩⟩

/-- `PreparedDo::verify` (lines 593–621). -/
def verify (prim : Primitives) (prepared : PreparedDo) : Except Error Unit := do
  validateSubject prim prepared.candidate.subject
  prepared.grant.verifyFor prim prepared.candidate
  prepared.reservation.verify prim
  ensure (prepared.Bound prim) (.refused .invalidReservation "prepared DO bindings drifted")
  ensure (constraintsHold prepared.expectedPostconditions prepared.projectedDimensions ∧
      constraintsHold prepared.grant.consequenceBound prepared.projectedDimensions)
    (.refused .constraintClosure "prepared projected world no longer closes")

variable {prepared : PreparedDo}

theorem verify_reservation (h : prepared.verify prim = .ok ()) :
    prepared.reservation.verify prim = .ok () := by
  simp only [verify, bind_eq_ok] at h
  obtain ⟨_, -, _, -, _, hreservation, -⟩ := h
  exact hreservation

theorem verify_subject (h : prepared.verify prim = .ok ()) :
    prepared.reservation.subject = prepared.candidate.subject := by
  simp only [verify, bind_eq_ok, ensure_eq_ok] at h
  obtain ⟨_, -, _, -, _, -, _, hbound, -⟩ := h
  exact hbound.subject

/-- A carrier that `prepare` made passes `verify`. -/
theorem prepare_verify (h : prepare prim world candidate grant expected = .ok prepared) :
    prepared.verify prim = .ok () := by
  simp only [prepare, bind_eq_ok, pure_eq_ok, ensure_eq_ok] at h
  obtain ⟨projected, hproject, _, hgrant, _, -, _, -, _, hexpected, _, hbound, _, hres, rfl⟩ := h
  have hsubject : validateSubject prim candidate.subject = .ok () := by
    simp only [Candidate.project, bind_eq_ok] at hproject
    exact hproject.choose_spec.2.choose_spec.1
  have hdigest : normalizeConstraints (normalizeConstraints expected) =
      normalizeConstraints expected := normalizeConstraints_idem expected
  simp only [verify, bind_eq_ok, ensure_eq_ok]
  refine ⟨(), hsubject, (), hgrant, (), hres, (), ⟨rfl, rfl, rfl, ?_, rfl⟩, hexpected, hbound⟩
  rw [hdigest]
  rfl

end PreparedDo

end ChatmanEcosystem.Hditc
