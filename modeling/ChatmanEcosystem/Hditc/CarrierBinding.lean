import ChatmanEcosystem.Hditc.AtMostOnce
import ChatmanEcosystem.Hditc.Documents

/-!
# What a prepared carrier binds

`PreparedDo::verify` (`crates/hditc/src/lib.rs`, lines 593–621) recomputes the
digests of the reservation from the other members of the carrier. A carrier with the
reservation digest of another verified one agrees with it in everything that is
hashed, or two of the hashed documents collide. The projected dimensions are not
hashed: `verify` asks of them only that the constraints hold.

Results:

* `SameCarrier.of_verify`: what the digest of the reservation binds.
* `SameCarrier.verify_iff`: carriers that agree in that verify exactly if they close.
* `prepare_binds`: both, for the carriers that `prepare` makes.
-/

namespace ChatmanEcosystem.Hditc

open Core Rust

namespace PreparedDo

/-- The documents that `verify` hashes. -/
def documents (prepared : PreparedDo) : List Json :=
  [prepared.candidate.toJson, prepared.grant.unsigned.toJson,
    constraintsToJson (normalizeConstraints prepared.expectedPostconditions),
    prepared.reservation.unsigned.toJson]

/-- Two documents at one place of the two carriers collide. -/
def Collision (prim : Primitives) (prepared other : PreparedDo) : Prop :=
  ∃ pair ∈ prepared.documents.zip other.documents, DocumentsCollide prim pair.1 pair.2

/-- The carriers agree up to the projected dimensions and the normal form of constraints. -/
structure SameCarrier (prepared other : PreparedDo) : Prop where
  candidate : prepared.candidate = other.candidate
  grant : prepared.grant.unsigned = other.grant.unsigned
  grantDigest : prepared.grant.digest = other.grant.digest
  expected : normalizeConstraints prepared.expectedPostconditions =
    normalizeConstraints other.expectedPostconditions
  reservation : prepared.reservation = other.reservation

/-- The projected dimensions satisfy the postconditions and the bound of the grant. -/
def Closes (prepared : PreparedDo) : Prop :=
  constraintsHold prepared.expectedPostconditions prepared.projectedDimensions = true ∧
    constraintsHold prepared.grant.consequenceBound prepared.projectedDimensions = true

variable {prim : Primitives}

/-! ## What the parts of `verify` say -/

variable {prepared : PreparedDo}

theorem verify_iff : prepared.verify prim = .ok () ↔
    validateSubject prim prepared.candidate.subject = .ok () ∧
      prepared.grant.verifyFor prim prepared.candidate = .ok () ∧
      prepared.reservation.verify prim = .ok () ∧ prepared.Bound prim ∧ prepared.Closes := by
  simp only [verify, bind_eq_ok, ensure_eq_ok, Unique.exists_iff, Closes]

variable {grant : AuthorityGrant} {candidate : Candidate}

theorem verifyFor_iff :
    grant.verifyFor prim candidate = .ok () ↔ grant.subject = candidate.subject ∧
      grant.authority.permits candidate.requiredAuthority = true ∧
      validDigest grant.digest = true ∧ grant.digest =
        canonicalDigest prim grant.unsigned.toJson := by
  simp only [AuthorityGrant.verifyFor, bind_eq_ok, ensure_eq_ok, exists_const]

theorem reservation_digest {reservation : ReceiptReservation}
    (h : reservation.verify prim = .ok ()) :
    reservation.digest = canonicalDigest prim reservation.unsigned.toJson := by
  simp only [ReceiptReservation.verify, bind_eq_ok, ensure_eq_ok] at h
  obtain ⟨_, -, _, -, _, -, hdigest⟩ := h
  exact hdigest

/-- A reservation is its unsigned form with its digest. -/
theorem reservation_eq {a b : ReceiptReservation} (hunsigned : a.unsigned = b.unsigned)
    (hdigest : a.digest = b.digest) : a = b := by
  cases a
  cases b
  simp only [ReceiptReservation.unsigned, ReceiptReservation.mk.injEq] at hunsigned hdigest ⊢
  obtain ⟨hid, hsubject, hcandidate, hgrant, hbefore, hexpected, hkey, -⟩ := hunsigned
  exact ⟨hid, hsubject, hcandidate, hgrant, hbefore, hexpected, hkey, hdigest⟩

/-! ## What the digest of the reservation binds -/

variable {other : PreparedDo}

theorem collision_of_mem {a b : Json} (hmem : (a, b) ∈ prepared.documents.zip other.documents)
    (h : DocumentsCollide prim a b) :
    Collision prim prepared other :=
  ⟨(a, b), hmem, h⟩

theorem mem_documents (prepared other : PreparedDo) :
    (prepared.candidate.toJson, other.candidate.toJson) ∈
        prepared.documents.zip other.documents ∧
      (prepared.grant.unsigned.toJson, other.grant.unsigned.toJson) ∈
        prepared.documents.zip other.documents ∧
      (constraintsToJson (normalizeConstraints prepared.expectedPostconditions),
          constraintsToJson (normalizeConstraints other.expectedPostconditions)) ∈
        prepared.documents.zip other.documents ∧
      (prepared.reservation.unsigned.toJson, other.reservation.unsigned.toJson) ∈
        prepared.documents.zip other.documents := by
  simp [documents]

theorem SameCarrier.of_verify (hother : other.verify prim = .ok ())
    (hprepared : prepared.verify prim = .ok ())
    (hdigest : other.reservation.digest = prepared.reservation.digest) :
    other.SameCarrier prepared ∨ Collision prim other prepared := by
  obtain ⟨hmemCandidate, hmemGrant, hmemExpected, hmemReservation⟩ := mem_documents other prepared
  obtain ⟨-, hgrant, hreservation, hbound, -⟩ := verify_iff.mp hother
  obtain ⟨-, hgrant', hreservation', hbound', -⟩ := verify_iff.mp hprepared
  obtain ⟨-, -, -, hgrant⟩ := verifyFor_iff.mp hgrant
  obtain ⟨-, -, -, hgrant'⟩ := verifyFor_iff.mp hgrant'
  -- the reservations agree, so the digests in them do
  have hunsigned : canonicalDigest prim other.reservation.unsigned.toJson =
      canonicalDigest prim prepared.reservation.unsigned.toJson := by
    rw [← reservation_digest hreservation, ← reservation_digest hreservation', hdigest]
  rcases canonicalDigest_eq hunsigned with hdocument | hcollide
  swap
  · exact .inr (collision_of_mem hmemReservation hcollide)
  have hsame := reservation_eq (ReceiptReservation.toJson_inj hdocument) hdigest
  have hcandidate : canonicalDigest prim other.candidate.toJson =
      canonicalDigest prim prepared.candidate.toJson := by
    have hreserved := hbound.candidateDigest
    rw [hsame, hbound'.candidateDigest] at hreserved
    exact hreserved.symm
  have hgrantDigest : other.grant.digest = prepared.grant.digest := by
    rw [← hbound.grantDigest, ← hbound'.grantDigest, hsame]
  have hexpected : canonicalDigest prim
      (constraintsToJson (normalizeConstraints other.expectedPostconditions)) =
      canonicalDigest prim
        (constraintsToJson (normalizeConstraints prepared.expectedPostconditions)) := by
    rw [← hbound.expectedDigest, ← hbound'.expectedDigest, hsame]
  have hgranted : canonicalDigest prim other.grant.unsigned.toJson =
      canonicalDigest prim prepared.grant.unsigned.toJson := by
    rw [← hgrant, ← hgrant', hgrantDigest]
  rcases canonicalDigest_eq hcandidate with hcandidate | hcollide
  swap
  · exact .inr (collision_of_mem hmemCandidate hcollide)
  rcases canonicalDigest_eq hgranted with hgranted | hcollide
  swap
  · exact .inr (collision_of_mem hmemGrant hcollide)
  rcases canonicalDigest_eq hexpected with hexpected | hcollide
  swap
  · exact .inr (collision_of_mem hmemExpected hcollide)
  exact .inl ⟨Candidate.toJson_inj hcandidate, AuthorityGrant.toJson_inj hgranted, hgrantDigest,
    constraintsToJson_inj hexpected, hsame⟩

/-! ## What it leaves open -/

theorem verifyFor_congr {other : AuthorityGrant} (hunsigned : grant.unsigned = other.unsigned)
    (hdigest : grant.digest = other.digest) (candidate : Candidate) :
    grant.verifyFor prim candidate = .ok () ↔ other.verifyFor prim candidate = .ok () := by
  have hsubject : grant.subject = other.subject := by
    show grant.unsigned.subject = other.unsigned.subject
    rw [hunsigned]
  have hauthority : grant.authority = other.authority := by
    show grant.unsigned.authority = other.unsigned.authority
    rw [hunsigned]
  rw [verifyFor_iff, verifyFor_iff, hsubject, hauthority, hunsigned, hdigest]

theorem SameCarrier.verify_iff (h : other.SameCarrier prepared)
    (hprepared : prepared.verify prim = .ok ()) : other.verify prim = .ok () ↔ other.Closes := by
  obtain ⟨hsubject, hgrant, hreservation, hbound, -⟩ := PreparedDo.verify_iff.mp hprepared
  rw [PreparedDo.verify_iff, h.candidate, verifyFor_congr h.grant h.grantDigest, h.reservation]
  have hsame : other.Bound prim := by
    constructor
    · rw [h.reservation, h.candidate, hbound.subject]
    · rw [h.reservation, h.candidate, hbound.candidateDigest]
    · rw [h.reservation, h.grantDigest, hbound.grantDigest]
    · rw [h.reservation, h.expected, hbound.expectedDigest]
    · rw [h.reservation, h.candidate, hbound.idempotencyKey]
  constructor
  · intro hverify
    exact hverify.2.2.2.2
  · intro hcloses
    exact ⟨hsubject, hgrant, hreservation, hsame, hcloses⟩

/-- A reservation with another digest is refused. -/
theorem verify_digest (hprepared : prepared.verify prim = .ok ()) {digest : String}
    (h : digest ≠ prepared.reservation.digest) :
    { prepared with reservation := { prepared.reservation with digest } }.verify prim ≠ .ok () := by
  intro hverify
  have hreservation := reservation_digest (verify_reservation hverify)
  have hsealed := reservation_digest (verify_reservation hprepared)
  apply h
  rw [hsealed]
  exact hreservation

/-- The carrier that `prepare` makes verifies. Any other carrier with the digest of its
reservation that verifies agrees with it up to the projected dimensions and the normal form of the
constraints, or documents of the two collide; carriers that agree so verify exactly if they close;
and the digest of the reservation cannot be changed alone. -/
theorem prepare_binds {world : World} {candidate : Candidate} {grant : AuthorityGrant}
    {expected : List Constraint} {prepared : PreparedDo}
    (h : prepare prim world candidate grant expected = .ok prepared) :
    prepared.verify prim = .ok () ∧
      (∀ other : PreparedDo, other.reservation.digest = prepared.reservation.digest →
        other.verify prim = .ok () →
          other.SameCarrier prepared ∨ Collision prim other prepared) ∧
      (∀ other : PreparedDo, other.SameCarrier prepared →
        (other.verify prim = .ok () ↔ other.Closes)) ∧
      ∀ digest, digest ≠ prepared.reservation.digest →
        { prepared with reservation := { prepared.reservation with digest } }.verify prim ≠
          .ok () := by
  have hverify := prepare_verify h
  exact ⟨hverify, fun _ hdigest hother => SameCarrier.of_verify hother hverify hdigest,
    fun _ hsame => hsame.verify_iff hverify, fun _ hdigest => verify_digest hverify hdigest⟩

/-- The carrier of the tests is bound so. -/
theorem fixture_binds :
    ∃ prepared grant, prepare samplePrimitives (fixtureWorld "pending") fixtureCandidate grant
        [.equals "service.state" "ready"] = .ok prepared ∧
      ∀ other : PreparedDo, other.reservation.digest = prepared.reservation.digest →
        other.verify samplePrimitives = .ok () →
          other.SameCarrier prepared ∨ Collision samplePrimitives other prepared := by
  obtain ⟨prepared, hprepared, -⟩ := fixturePrepare_ok samplePrimitives
  obtain ⟨grant, -, hprepare⟩ := bind_eq_ok.mp hprepared
  exact ⟨prepared, grant, hprepare, (prepare_binds hprepare).2.1⟩

/-! ## Projected dimensions -/

theorem prepare_projected {world : World} {expected : List Constraint}
    (h : prepare prim world candidate grant expected = .ok prepared) :
    candidate.project prim world = .ok prepared.projectedDimensions := by
  simp only [prepare, bind_eq_ok, pure_eq_ok] at h
  obtain ⟨projected, hproject, _, -, _, -, _, -, _, -, _, -, _, -, rfl⟩ := h
  exact hproject

/-- A dimension that no constraint names can be added to the projected ones. -/
theorem projected_dimensions_unbound :
    ∃ prepared : PreparedDo, fixturePrepare samplePrimitives = .ok prepared ∧
      prepared.verify samplePrimitives = .ok () ∧
      prepared.projectedDimensions.insert "unobserved" "anything" ≠ prepared.projectedDimensions ∧
      { prepared with projectedDimensions :=
        prepared.projectedDimensions.insert "unobserved" "anything" }.verify samplePrimitives =
          .ok () := by
  obtain ⟨prepared, hprepared, hverify⟩ := fixturePrepare_ok samplePrimitives
  obtain ⟨-, hexpected, hbound⟩ := fixturePrepare_fields hprepared
  obtain ⟨grant, -, hprepare⟩ := bind_eq_ok.mp hprepared
  have hprojected := prepare_projected hprepare
  rw [fixtureCandidate_project, Except.ok.injEq] at hprojected
  have hsame : { prepared with projectedDimensions :=
      prepared.projectedDimensions.insert "unobserved" "anything" }.SameCarrier prepared :=
    ⟨rfl, rfl, rfl, rfl, rfl⟩
  refine ⟨prepared, hprepared, hverify, ?_, (hsame.verify_iff hverify).mpr ?_⟩
  · rw [← hprojected]
    decide +kernel
  · have hcloses : constraintsHold (normalizeConstraints [.equals "service.state" "ready"])
          (((fixtureWorld "pending").dimensions.insert "service.state" "ready").insert "unobserved"
            "anything") = true ∧
        constraintsHold (normalizeConstraints fixtureGrant.consequenceBound)
          (((fixtureWorld "pending").dimensions.insert "service.state" "ready").insert "unobserved"
            "anything") = true := by
      decide +kernel
    rwa [← hexpected, ← hbound, hprojected] at hcloses

end PreparedDo

end ChatmanEcosystem.Hditc
