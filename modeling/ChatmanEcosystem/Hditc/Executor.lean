import ChatmanEcosystem.Hditc.Admission

/-!
# The exclusive DO path

Model of `DoReceipt`, `MemoryReceiptJournal` and `BrceExecutor::execute`
(`crates/hditc/src/lib.rs`, lines 625–864 and 903–955). The answers of the
actuator are inputs of a call; `Executor` keeps the journal and, as the
actuator's own record, the carriers it was called with.

Results:

* `reserve_eq_ok`: when the journal accepts a reservation, and what it holds
  then.
* `execute_of_refused`, `execute_of_reserved`: what a call leaves in the journal
  and with the actuator, whatever it returns.
* `receiptOf_verify`: the receipt of an attempt verifies.
-/

namespace ChatmanEcosystem.Hditc

open Core Rust

/-! ## Receipts -/

/-- `enum ActuationSignal` (lines 626–630). -/
inductive ActuationSignal
  | acknowledged (token : String)
  | refused (reason : String)
  | ambiguous (reason : String)
  deriving DecidableEq

def ActuationSignal.toJson : ActuationSignal → Json
  | acknowledged token => .obj [("kind", .str "acknowledged"), ("token", .str token)]
  | refused reason => .obj [("kind", .str "refused"), ("reason", .str reason)]
  | ambiguous reason => .obj [("kind", .str "ambiguous"), ("reason", .str reason)]

/-- `matches!(actuation, ActuationSignal::Acknowledged { .. })`. -/
def ActuationSignal.isAcknowledged : ActuationSignal → Bool
  | acknowledged _ => true
  | _ => false

/-- `enum DoOutcome` (lines 634–639). -/
inductive DoOutcome
  | done
  | blocked
  | ambiguous
  | refused
  deriving DecidableEq

namespace DoOutcome

def toJson : DoOutcome → Json
  | done => .str "DONE"
  | blocked => .str "BLOCKED"
  | ambiguous => .str "AMBIGUOUS"
  | refused => .str "REFUSED"

/-- `DoOutcome::standing` (lines 643–649). -/
def standing : DoOutcome → Standing
  | done => .alive
  | blocked | ambiguous => .blocked
  | refused => .rejected

end DoOutcome

/-- `struct DoReceipt` (lines 653–669). -/
structure DoReceipt where
  reservationId : String
  reservationDigest : String
  subject : ExactSubject
  candidateDigest : String
  grantDigest : String
  beforeDigest : String
  expectedPostconditions : List Constraint
  admittedConsequenceBound : List Constraint
  actuation : ActuationSignal
  observedDigest : Option String
  verified : List String
  outcome : DoOutcome
  replayKey : String
  digest : String
  deriving DecidableEq

namespace DoReceipt

def toJson (receipt : DoReceipt) : Json :=
  .obj [("reservation_id", .str receipt.reservationId),
    ("reservation_digest", .str receipt.reservationDigest), ("subject", receipt.subject.toJson),
    ("candidate_digest", .str receipt.candidateDigest), ("grant_digest", .str receipt.grantDigest),
    ("before_digest", .str receipt.beforeDigest),
    ("expected_postconditions", constraintsToJson receipt.expectedPostconditions),
    ("admitted_consequence_bound", constraintsToJson receipt.admittedConsequenceBound),
    ("actuation", receipt.actuation.toJson), ("observed_digest", .opt .str receipt.observedDigest),
    ("verified", .arr (receipt.verified.map .str)), ("outcome", receipt.outcome.toJson),
    ("replay_key", .str receipt.replayKey), ("digest", .str receipt.digest)]

/-- `DoReceipt::unsigned` (lines 672–678). -/
def unsigned (receipt : DoReceipt) : DoReceipt :=
  { receipt with
    digest := ""
    expectedPostconditions := normalizeConstraints receipt.expectedPostconditions
    admittedConsequenceBound := normalizeConstraints receipt.admittedConsequenceBound }

/-- `DoReceipt::seal` (lines 680–685). -/
def sealReceipt (prim : Primitives) (receipt : DoReceipt) : DoReceipt :=
  let receipt := { receipt with
    expectedPostconditions := normalizeConstraints receipt.expectedPostconditions
    admittedConsequenceBound := normalizeConstraints receipt.admittedConsequenceBound }
  { receipt with digest := canonicalDigest prim receipt.unsigned.toJson }

/-- What a receipt must hold to claim `Done` (lines 718–723). -/
def doneIsSupported (receipt : DoReceipt) : Bool :=
  receipt.actuation.isAcknowledged && receipt.observedDigest.any validDigest &&
    !receipt.verified.isEmpty

/-- `DoReceipt::verify` (lines 692–732). -/
def verify (prim : Primitives) (receipt : DoReceipt) : Except Error Unit := do
  ensure (validDigest receipt.digest ∧ receipt.digest =
    canonicalDigest prim receipt.unsigned.toJson)
    (.refused .receiptIntegrity "DO receipt digest mismatch")
  [receipt.reservationDigest, receipt.candidateDigest, receipt.grantDigest,
      receipt.beforeDigest].forM fun digest =>
    ensure (validDigest digest)
      (.refused .receiptIntegrity ("invalid bound digest " ++ ticked digest))
  ensure (!isBlank receipt.replayKey) (.refused .receiptIntegrity "replay key is empty")
  ensure (receipt.outcome = .done → receipt.doneIsSupported) (.refused .receiptIntegrity
    "DONE requires acknowledged actuation, observed digest, and verification")

end DoReceipt

/-! ## The journal -/

/-- `struct MemoryReceiptJournal` (lines 904–907). -/
structure MemoryReceiptJournal where
  reservations : Std.ExtTreeMap String ReceiptReservation
  receipts : Std.ExtTreeMap String DoReceipt
  deriving DecidableEq

namespace MemoryReceiptJournal

/-- `MemoryReceiptJournal::default`. -/
def empty : MemoryReceiptJournal := { reservations := ∅, receipts := ∅ }

variable (prim : Primitives)

/-- The message under which `map_err(|error| error.to_string())` passes an error on. -/
def textError {α : Type} : Except Error α → Except String α
  | .ok a => .ok a
  | .error error => .error error.toText

/-- `MemoryReceiptJournal::reserve` (lines 921–932). -/
def reserve (journal : MemoryReceiptJournal) (reservation : ReceiptReservation) :
    Except String MemoryReceiptJournal := do
  textError (reservation.verify prim)
  match journal.reservations[reservation.id]? with
  | some existing =>
    ensure (existing = reservation) "reservation id collision"
    return journal
  | none =>
    return { journal with reservations := journal.reservations.insert reservation.id reservation }

/-- `MemoryReceiptJournal::finalize` (lines 934–954). -/
def finalize (journal : MemoryReceiptJournal) (receipt : DoReceipt) :
    Except String MemoryReceiptJournal := do
  textError (receipt.verify prim)
  match journal.reservations[receipt.reservationId]? with
  | none => .error "finalize without reservation"
  | some reservation =>
    ensure (reservation.digest = receipt.reservationDigest)
      "receipt does not bind reserved digest"
    match journal.receipts[receipt.reservationId]? with
    | some existing =>
      ensure (existing = receipt) "non-idempotent final receipt"
      return journal
    | none =>
      return { journal with receipts := journal.receipts.insert receipt.reservationId receipt }

theorem textError_eq_ok {α : Type} {x : Except Error α} {a : α} :
    textError x = .ok a ↔ x = .ok a := by
  cases x <;> simp [textError]

variable {journal journal' : MemoryReceiptJournal}

/-- The journal accepts a reservation it already holds and one whose id is new.
It holds the reservation then, and what it held before. -/
theorem reserve_eq_ok {reservation : ReceiptReservation} :
    journal.reserve prim reservation = .ok journal' ↔
      reservation.verify prim = .ok () ∧
      (journal.reservations[reservation.id]? = some reservation ∧ journal' = journal ∨
       journal.reservations[reservation.id]? = none ∧ journal' = { journal with
         reservations := journal.reservations.insert reservation.id reservation }) := by
  unfold reserve
  rw [bind_eq_ok]
  simp only [textError_eq_ok]
  cases hheld : journal.reservations[reservation.id]? with
  | none =>
    simp only [pure_eq_ok, reduceCtorEq, false_and, true_and, false_or]
    constructor
    · rintro ⟨_, hverify, rfl⟩
      exact ⟨hverify, rfl⟩
    · rintro ⟨hverify, rfl⟩
      exact ⟨(), hverify, rfl⟩
  | some existing =>
    simp only [bind_eq_ok, ensure_eq_ok, pure_eq_ok, Option.some.injEq, reduceCtorEq,
      false_and, or_false]
    constructor
    · rintro ⟨_, hverify, _, rfl, rfl⟩
      exact ⟨hverify, rfl, rfl⟩
    · rintro ⟨hverify, rfl, rfl⟩
      exact ⟨(), hverify, (), rfl, rfl⟩

/-- Finalizing touches no reservation. -/
theorem finalize_reservations {receipt : DoReceipt}
    (h : journal.finalize prim receipt = .ok journal') :
    journal'.reservations = journal.reservations := by
  unfold finalize at h
  obtain ⟨_, -, h⟩ := bind_eq_ok.mp h
  cases hres : journal.reservations[receipt.reservationId]? with
  | none => rw [hres] at h; cases h
  | some reservation =>
    rw [hres] at h
    obtain ⟨_, -, h⟩ := bind_eq_ok.mp h
    cases hheld : journal.receipts[receipt.reservationId]? with
    | none =>
      rw [hheld] at h
      rw [← pure_eq_ok.mp h]
    | some existing =>
      rw [hheld] at h
      obtain ⟨_, -, h⟩ := bind_eq_ok.mp h
      rw [← pure_eq_ok.mp h]

/-- The first receipt for a reservation is taken. -/
theorem finalize_of_new (journal : MemoryReceiptJournal) (receipt : DoReceipt)
    (reservation : ReceiptReservation) (hverify : receipt.verify prim = .ok ())
    (hheld : journal.reservations[receipt.reservationId]? = some reservation)
    (hdigest : reservation.digest = receipt.reservationDigest)
    (hnew : journal.receipts[receipt.reservationId]? = none) :
    journal.finalize prim receipt = .ok { journal with
      receipts := journal.receipts.insert receipt.reservationId receipt } := by
  unfold finalize
  rw [bind_eq_ok]
  refine ⟨(), textError_eq_ok.mpr hverify, ?_⟩
  rw [hheld, hnew]
  exact bind_eq_ok.mpr ⟨(), ensure_eq_ok.mpr hdigest, rfl⟩

end MemoryReceiptJournal

/-! ## The executor -/

/-- What the actuator answers to one call: `Actuator::actuate` and
`Actuator::observe` (lines 745–751). -/
structure Response where
  actuation : ActuationSignal
  observation : Except String World

/-- `struct BrceExecutor` (lines 754–757) over a `MemoryReceiptJournal`, with the
carriers that `Actuator::actuate` was called with, latest first. -/
structure Executor where
  journal : MemoryReceiptJournal
  actuated : List PreparedDo

namespace Executor

/-- A new executor: nothing reserved, nothing actuated. -/
def new : Executor := { journal := .empty, actuated := [] }

variable (prim : Primitives)

/-- Whether the observed world closes the carrier (lines 802–809). -/
def reconciled (prepared : PreparedDo) (world : World) : Bool :=
  world.subject == prepared.candidate.subject && (world.validate prim).isOk &&
    world.knows (constraintDimensions prepared.expectedPostconditions) &&
    world.knows (constraintDimensions prepared.grant.consequenceBound) &&
    constraintsHold prepared.expectedPostconditions world.dimensions &&
    constraintsHold prepared.grant.consequenceBound world.dimensions

/-- The outcome of an attempt (lines 811–819). -/
def outcome (response : Response) (reconciled : Bool) : DoOutcome :=
  match response.actuation, response.observation with
  | .refused _, _ => .refused
  | .ambiguous _, _ => .ambiguous
  | .acknowledged _, .error _ => .ambiguous
  | .acknowledged _, .ok _ => if reconciled then .done else .blocked

/-- The sealed receipt of an attempt (lines 788–854). -/
def receiptOf (prepared : PreparedDo) (response : Response) : DoReceipt :=
  let observedDigest := response.observation.toOption.map (·.digest prim)
  let reconciled := response.observation.toOption.any (reconciled prim prepared)
  let outcome := outcome response reconciled
  let verified :=
    (if response.actuation.isAcknowledged then ["actuation_acknowledged"] else []) ++
    (if reconciled then
      ["postconditions_observed", "authority_bound_observed", "exact_subject_reconciled"]
    else []) ++
    (if response.observation.isOk then [] else ["post_actuation_observation_failed"])
  let replayKey := canonicalDigest prim
    (.arr [.str prepared.reservation.digest, .opt .str observedDigest, outcome.toJson])
  DoReceipt.sealReceipt prim
    { reservationId := prepared.reservation.id
      reservationDigest := prepared.reservation.digest
      subject := prepared.candidate.subject
      candidateDigest := prepared.reservation.candidateDigest
      grantDigest := prepared.reservation.grantDigest
      beforeDigest := prepared.reservation.beforeDigest
      expectedPostconditions := prepared.expectedPostconditions
      admittedConsequenceBound := prepared.grant.consequenceBound
      actuation := response.actuation
      observedDigest, verified, outcome, replayKey, digest := "" }

/-- `BrceExecutor::execute` (lines 780–863). -/
def execute (executor : Executor) (prepared : PreparedDo) (response : Response) :
    Except Error DoReceipt × Executor :=
  match prepared.verify prim with
  | .error error => (.error error, executor)
  | .ok () =>
    match executor.journal.reserve prim prepared.reservation with
    | .error detail => (.error (.journal detail), executor)
    | .ok journal =>
      let executor := { journal, actuated := prepared :: executor.actuated }
      let receipt := receiptOf prim prepared response
      match receipt.verify prim with
      | .error error => (.error error, executor)
      | .ok () =>
        match journal.finalize prim receipt with
        | .error detail =>
          (.error (.finalizeAfterActuation receipt.reservationId detail), executor)
        | .ok journal => (.ok receipt, { executor with journal })

variable {prim}

variable {executor : Executor} {prepared : PreparedDo} {response : Response}

/-- A carrier that does not verify, or whose reservation the journal refuses,
leaves everything as it is. -/
theorem execute_of_refused (h : prepared.verify prim ≠ .ok () ∨
      ∀ journal, executor.journal.reserve prim prepared.reservation ≠ .ok journal) :
    (executor.execute prim prepared response).2 = executor := by
  unfold execute
  cases hverify : prepared.verify prim with
  | error error => rfl
  | ok u =>
    cases hreserve : executor.journal.reserve prim prepared.reservation with
    | error detail => rfl
    | ok journal => simp [hverify, hreserve] at h

/-- An accepted carrier reaches the actuator, whatever comes after, and leaves
the reservations as the journal took them. -/
theorem execute_of_reserved {journal : MemoryReceiptJournal} (response : Response)
    (hverify : prepared.verify prim = .ok ())
    (hreserve : executor.journal.reserve prim prepared.reservation = .ok journal) :
    (executor.execute prim prepared response).2.actuated = prepared :: executor.actuated ∧
    (executor.execute prim prepared response).2.journal.reservations = journal.reservations := by
  unfold execute
  simp only [hverify, hreserve]
  cases (receiptOf prim prepared response).verify prim with
  | error error => exact ⟨rfl, rfl⟩
  | ok u =>
    cases hfinalize : journal.finalize prim (receiptOf prim prepared response) with
    | error detail => exact ⟨rfl, rfl⟩
    | ok journal' => exact ⟨rfl, MemoryReceiptJournal.finalize_reservations prim hfinalize⟩

/-! ## The receipt of an attempt -/

theorem not_isBlank_canonicalDigest (value : Json) :
    isBlank (canonicalDigest prim value) = false := by
  rw [canonicalDigest]
  exact not_isBlank_append _ (by decide)

/-- The digest of a sealed receipt is the one `verify` recomputes. -/
theorem sealReceipt_digest (prim : Primitives) (receipt : DoReceipt) :
    (receipt.sealReceipt prim).digest =
      canonicalDigest prim (receipt.sealReceipt prim).unsigned.toJson := by
  simp only [DoReceipt.sealReceipt, DoReceipt.unsigned, normalizeConstraints_idem]

theorem receiptOf_done (h : (receiptOf prim prepared response).outcome = .done) :
    (receiptOf prim prepared response).doneIsSupported = true := by
  obtain ⟨actuation, observation⟩ := response
  cases actuation with
  | refused reason => cases h
  | ambiguous reason => cases h
  | acknowledged token =>
    cases observation with
    | error error => cases h
    | ok world =>
      have hvalid : validDigest (world.digest prim) = true := canonicalDigest_valid prim _
      simp [DoReceipt.doneIsSupported, receiptOf, DoReceipt.sealReceipt,
        ActuationSignal.isAcknowledged, Except.toOption, hvalid]

/-- The receipt of an attempt under a verifying carrier verifies. -/
theorem receiptOf_verify (h : prepared.verify prim = .ok ()) (response : Response) :
    (receiptOf prim prepared response).verify prim = .ok () := by
  have hres := prepared.verify_reservation h
  simp only [ReceiptReservation.verify, bind_eq_ok, ensure_eq_ok, forM_eq_ok] at hres
  obtain ⟨_, -, _, -, _, hdigests, -⟩ := hres
  have hseal := sealReceipt_digest prim
  simp only [DoReceipt.verify, bind_eq_ok, ensure_eq_ok, forM_eq_ok]
  refine ⟨(), ⟨?_, hseal _⟩, (), ?_, (), ?_, receiptOf_done⟩
  · rw [receiptOf, hseal]
    exact canonicalDigest_valid prim _
  · intro digest hmem
    refine hdigests digest ?_
    simp only [receiptOf, DoReceipt.sealReceipt, List.mem_cons, List.not_mem_nil,
      or_false] at hmem ⊢
    tauto
  · rw [Bool.not_eq_true', receiptOf, DoReceipt.sealReceipt]
    exact not_isBlank_canonicalDigest _

/-- The first attempt of a verifying carrier is receipted. -/
theorem execute_new (h : prepared.verify prim = .ok ()) (response : Response) :
    (new.execute prim prepared response).1 = .ok (receiptOf prim prepared response) := by
  let journal : MemoryReceiptJournal := { MemoryReceiptJournal.empty with
    reservations := MemoryReceiptJournal.empty.reservations.insert prepared.reservation.id
      prepared.reservation }
  have hreserve : MemoryReceiptJournal.empty.reserve prim prepared.reservation = .ok journal :=
    (MemoryReceiptJournal.reserve_eq_ok prim).mpr
      ⟨prepared.verify_reservation h, .inr ⟨by simp [MemoryReceiptJournal.empty], rfl⟩⟩
  have hfinalize := MemoryReceiptJournal.finalize_of_new prim journal
    (receiptOf prim prepared response) prepared.reservation (receiptOf_verify h response)
    Std.ExtTreeMap.getElem?_insert_self rfl (by simp [journal, MemoryReceiptJournal.empty])
  simp only [execute, h, new, hreserve, receiptOf_verify h response, hfinalize]

end Executor

end ChatmanEcosystem.Hditc
