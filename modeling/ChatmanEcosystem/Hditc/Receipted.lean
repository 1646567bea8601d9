import ChatmanEcosystem.Hditc.AtMostOnce

/-!
# Zero unreceipted actuation

What a call of `BrceExecutor::execute` that reaches the actuator leaves behind
(`crates/hditc/src/lib.rs`, lines 780–863). `accept` is the part of `execute` up
to the call of the actuator and `conclude` the part after it, which other calls
on the journal can precede.

Results:

* `execute_eq`: `execute` is `accept`, then `conclude`.
* `conclude_accounted`: after the actuator was called, only two results remain.
* `execute_receipted`: a call that reaches the actuator has its reservation in
  the journal by then and ends in one of the two.
-/

namespace ChatmanEcosystem.Hditc

open Core Rust

/-- The digest of the reservation covers the carrier: the reservation is sealed
over the subject, the idempotency key and the digests of the candidate, of the
grant and of the postconditions. -/
structure ReceiptReservation.Covers (prim : Primitives) (reservation : ReceiptReservation)
    (prepared : PreparedDo) : Prop where
  digest : reservation.digest = canonicalDigest prim reservation.unsigned.toJson
  subject : reservation.subject = prepared.candidate.subject
  idempotencyKey : reservation.idempotencyKey = prepared.candidate.idempotencyKey
  candidate : reservation.candidateDigest = canonicalDigest prim prepared.candidate.toJson
  grant : reservation.grantDigest = canonicalDigest prim prepared.grant.unsigned.toJson
  expected : reservation.expectedDigest = canonicalDigest prim
    (constraintsToJson (normalizeConstraints prepared.expectedPostconditions))

/-- A verifying carrier is covered by its own reservation. -/
theorem PreparedDo.verify_covers {prim : Primitives} {prepared : PreparedDo}
    (h : prepared.verify prim = .ok ()) : prepared.reservation.Covers prim prepared := by
  have hreservation := prepared.verify_reservation h
  simp only [ReceiptReservation.verify, bind_eq_ok, ensure_eq_ok] at hreservation
  obtain ⟨_, -, _, -, _, -, hdigest⟩ := hreservation
  simp only [PreparedDo.verify, bind_eq_ok, ensure_eq_ok] at h
  obtain ⟨_, -, _, hgrant, _, -, _, hbound, -⟩ := h
  simp only [AuthorityGrant.verifyFor, bind_eq_ok, ensure_eq_ok] at hgrant
  obtain ⟨_, -, _, -, -, hgrant⟩ := hgrant
  exact
    { digest := hdigest
      subject := hbound.subject
      idempotencyKey := hbound.idempotencyKey
      candidate := hbound.candidateDigest
      grant := hbound.grantDigest.trans hgrant
      expected := hbound.expectedDigest }

namespace MemoryReceiptJournal

/-- What is finalized is in the journal. -/
theorem finalize_receipts {prim : Primitives} {journal journal' : MemoryReceiptJournal}
    {receipt : DoReceipt} (h : journal.finalize prim receipt = .ok journal') :
    journal'.receipts[receipt.reservationId]? = some receipt := by
  unfold finalize at h
  obtain ⟨_, -, h⟩ := bind_eq_ok.mp h
  cases hres : journal.reservations[receipt.reservationId]? with
  | none => rw [hres] at h; cases h
  | some reservation =>
    rw [hres] at h
    obtain ⟨_, -, h⟩ := bind_eq_ok.mp h
    cases hheld : journal.receipts[receipt.reservationId]? with
    | none =>
      rw [hheld] at h
      rw [← pure_eq_ok.mp h]
      exact Std.ExtTreeMap.getElem?_insert_self
    | some existing =>
      rw [hheld] at h
      obtain ⟨_, hsame, h⟩ := bind_eq_ok.mp h
      rw [← pure_eq_ok.mp h, hheld, ensure_eq_ok.mp hsame]

end MemoryReceiptJournal

namespace Executor

variable (prim : Primitives)

/-- `execute` up to the call of the actuator (lines 781–787). -/
def accept (executor : Executor) (prepared : PreparedDo) : Except Error Executor :=
  match prepared.verify prim with
  | .error error => .error error
  | .ok () =>
    match executor.journal.reserve prim prepared.reservation with
    | .error detail => .error (.journal detail)
    | .ok journal => .ok { journal, actuated := prepared :: executor.actuated }

/-- `execute` from the answers of the actuator on (lines 788–862). -/
def conclude (executor : Executor) (prepared : PreparedDo) (response : Response) :
    Except Error DoReceipt × Executor :=
  let receipt := receiptOf prim prepared response
  match receipt.verify prim with
  | .error error => (.error error, executor)
  | .ok () =>
    match executor.journal.finalize prim receipt with
    | .error detail =>
      (.error (.finalizeAfterActuation receipt.reservationId detail), executor)
    | .ok journal => (.ok receipt, { executor with journal })

/-- How a call may end once the actuator was called: with a receipt of the
carrier's reservation that the journal holds, or with the error that names the
reservation. -/
def Accounted (prepared : PreparedDo) (ended : Except Error DoReceipt × Executor) : Prop :=
  (∃ receipt, ended.1 = .ok receipt ∧
    receipt.reservationDigest = prepared.reservation.digest ∧
    ended.2.journal.receipts[prepared.reservation.id]? = some receipt) ∨
  ∃ detail, ended.1 = .error (.finalizeAfterActuation prepared.reservation.id detail)

variable {prim}

/-- `execute` is `accept`, then `conclude`. -/
theorem execute_eq (executor : Executor) (prepared : PreparedDo) (response : Response) :
    executor.execute prim prepared response = match executor.accept prim prepared with
      | .error error => (.error error, executor)
      | .ok accepted => accepted.conclude prim prepared response := by
  unfold execute accept
  cases prepared.verify prim with
  | error error => rfl
  | ok u => cases executor.journal.reserve prim prepared.reservation <;> rfl

/-- What is true when the actuator is called. -/
theorem accept_eq_ok {executor accepted : Executor} {prepared : PreparedDo}
    (h : executor.accept prim prepared = .ok accepted) :
    prepared.verify prim = .ok () ∧ accepted.actuated = prepared :: executor.actuated ∧
      accepted.journal.reservations[prepared.reservation.id]? = some prepared.reservation := by
  unfold accept at h
  cases hverify : prepared.verify prim with
  | error error => rw [hverify] at h; cases h
  | ok u =>
    cases hreserve : executor.journal.reserve prim prepared.reservation with
    | error detail => simp [hverify, hreserve] at h
    | ok journal =>
      simp only [hverify, hreserve, Except.ok.injEq] at h
      subst h
      refine ⟨rfl, rfl, ?_⟩
      obtain ⟨-, ⟨hheld, rfl⟩ | ⟨-, rfl⟩⟩ := (MemoryReceiptJournal.reserve_eq_ok prim).mp hreserve
      · exact hheld
      · exact Std.ExtTreeMap.getElem?_insert_self

/-- Over any journal, what follows the actuator is a receipt or the error that
names the reservation. -/
theorem conclude_accounted {prepared : PreparedDo} (h : prepared.verify prim = .ok ())
    (executor : Executor) (response : Response) :
    Accounted prepared (executor.conclude prim prepared response) := by
  have hreceipt := receiptOf_verify h response
  unfold conclude
  simp only [hreceipt]
  cases hfinalize : executor.journal.finalize prim (receiptOf prim prepared response) with
  | error detail => exact .inr ⟨detail, rfl⟩
  | ok journal =>
    have hheld := MemoryReceiptJournal.finalize_receipts hfinalize
    exact .inl ⟨_, rfl, rfl, hheld⟩

/-- A call of `execute` that reaches the actuator has a reservation in the
journal by then whose digest covers the carrier, and ends in a receipt that the
journal holds or in the error that names the reservation. The same holds when
other calls have left any other journal by the time the receipt is finalized. -/
theorem execute_receipted (executor : Executor) (prepared : PreparedDo) (response : Response)
    (h : (executor.execute prim prepared response).2.actuated ≠ executor.actuated) :
    ∃ accepted, executor.accept prim prepared = .ok accepted ∧
      accepted.actuated = prepared :: executor.actuated ∧
      accepted.journal.reservations[prepared.reservation.id]? = some prepared.reservation ∧
      prepared.reservation.Covers prim prepared ∧
      Accounted prepared (executor.execute prim prepared response) ∧
      ∀ journal, Accounted prepared
        (conclude prim { accepted with journal } prepared response) := by
  rw [execute_eq] at h
  rw [execute_eq]
  cases haccepted : executor.accept prim prepared with
  | error error => simp [haccepted] at h
  | ok accepted =>
    obtain ⟨hverify, hactuated, hheld⟩ := accept_eq_ok haccepted
    have haccounted := conclude_accounted hverify
    exact ⟨accepted, rfl, hactuated, hheld, prepared.verify_covers hverify,
      haccounted accepted response, fun journal => haccounted _ response⟩

/-- The attempt of the ambiguity test reaches the actuator and is accounted for. -/
theorem ambiguous_attempt_receipted :
    ∃ prepared, fixturePrepare samplePrimitives = .ok prepared ∧
      (new.execute samplePrimitives prepared ambiguousResponse).2.actuated = [prepared] ∧
      Accounted prepared (new.execute samplePrimitives prepared ambiguousResponse) := by
  obtain ⟨prepared, hprepared, hverify⟩ := fixturePrepare_ok samplePrimitives
  have hactuated : (new.execute samplePrimitives prepared ambiguousResponse).2.actuated =
      [prepared] :=
    (next_of_verified new (prepared, ambiguousResponse) hverify
      (.inl (by simp [new, MemoryReceiptJournal.empty]))).1
  have hinvoked : (new.execute samplePrimitives prepared ambiguousResponse).2.actuated ≠
      new.actuated := by
    rw [hactuated]
    exact List.cons_ne_nil _ _
  obtain ⟨accepted, -, -, -, -, haccounted, -⟩ :=
    execute_receipted new prepared ambiguousResponse hinvoked
  exact ⟨prepared, hprepared, hactuated, haccounted⟩

end Executor

end ChatmanEcosystem.Hditc
