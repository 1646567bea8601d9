import ChatmanEcosystem.Common.Concurrent
import ChatmanEcosystem.Hditc.AtMostOnce

/-!
# Calls on the memory journal

Model of `MemoryReceiptJournal` (`crates/hditc/src/lib.rs`, lines 903–955) under
calls that run at once. `reserve` works under the lock of the reservations.
`finalize` looks the reservation up under that lock, drops it, and awaits the lock
of the receipts.

Results:

* `keeps_next`: nothing that the journal holds changes.
* `agreement_iff`: runs in which the receipts agree with their reservations.
-/

namespace ChatmanEcosystem.Hditc

open Core Rust
open Common Common.Concurrent

/-! ## The two halves of `finalize` -/

namespace MemoryReceiptJournal

variable (prim : Primitives)

/-- `finalize` under the lock of the reservations (lines 935–942). -/
def bindsReserved (journal : MemoryReceiptJournal) (receipt : DoReceipt) : Except String Unit := do
  textError (receipt.verify prim)
  match journal.reservations[receipt.reservationId]? with
  | none => .error "finalize without reservation"
  | some reservation =>
    ensure (reservation.digest = receipt.reservationDigest) "receipt does not bind reserved digest"

/-- `finalize` under the lock of the receipts (lines 944–953). -/
def store (journal : MemoryReceiptJournal) (receipt : DoReceipt) :
    Except String MemoryReceiptJournal :=
  match journal.receipts[receipt.reservationId]? with
  | some existing =>
    if existing = receipt then .ok journal else .error "non-idempotent final receipt"
  | none => .ok { journal with receipts := journal.receipts.insert receipt.reservationId receipt }

variable {prim}

/-- The first receipt under an id is stored, and no other receipt. -/
theorem store_cases (journal : MemoryReceiptJournal) (receipt : DoReceipt) :
    (journal.receipts[receipt.reservationId]? = none ∧ journal.store receipt = .ok { journal with
      receipts := journal.receipts.insert receipt.reservationId receipt }) ∨
    (journal.receipts[receipt.reservationId]? ≠ none ∧
      (journal.store receipt = .ok journal ∨ ∃ detail, journal.store receipt = .error detail)) := by
  unfold store
  cases journal.receipts[receipt.reservationId]? with
  | none => exact .inl ⟨rfl, rfl⟩
  | some existing =>
    refine .inr ⟨nofun, ?_⟩
    by_cases hsame : existing = receipt
    · exact .inl (if_pos hsame)
    · exact .inr ⟨_, if_neg hsame⟩

/-- A later journal holds what the journal holds. -/
structure Keeps (journal later : MemoryReceiptJournal) : Prop where
  reservations : ∀ (id : String) reservation,
    journal.reservations[id]? = some reservation → later.reservations[id]? = some reservation
  receipts : ∀ (id : String) receipt,
    journal.receipts[id]? = some receipt → later.receipts[id]? = some receipt

theorem Keeps.refl (journal : MemoryReceiptJournal) : journal.Keeps journal :=
  ⟨fun _ _ => id, fun _ _ => id⟩

/-- An insertion under a new id keeps what the map holds. -/
theorem getElem?_insert_of_new {α : Type} {entries : Std.ExtTreeMap String α} {id key : String}
    {a b : α} (hnew : entries[key]? = none) (h : entries[id]? = some a) :
    (entries.insert key b)[id]? = some a := by
  have hne : key ≠ id := by
    rintro rfl
    rw [hnew] at h
    cases h
  rw [Std.ExtTreeMap.getElem?_insert, if_neg (by simpa using hne)]
  exact h

theorem reserve_keeps {journal journal' : MemoryReceiptJournal} {reservation : ReceiptReservation}
    (h : journal.reserve prim reservation = .ok journal') : journal.Keeps journal' := by
  obtain ⟨-, ⟨-, rfl⟩ | ⟨hnew, rfl⟩⟩ := (reserve_eq_ok prim).mp h
  · exact .refl journal'
  · exact ⟨fun _ _ hheld => getElem?_insert_of_new hnew hheld, fun _ _ hheld => hheld⟩

end MemoryReceiptJournal

/-- A receipt carries the subject and the digests of a reservation. -/
structure DoReceipt.Agrees (receipt : DoReceipt) (reservation : ReceiptReservation) : Prop where
  subject : receipt.subject = reservation.subject
  candidateDigest : receipt.candidateDigest = reservation.candidateDigest
  grantDigest : receipt.grantDigest = reservation.grantDigest
  beforeDigest : receipt.beforeDigest = reservation.beforeDigest

/-- The receipt carries what the reservation has that the journal holds under the id it names. -/
def MemoryReceiptJournal.Carries (journal : MemoryReceiptJournal) (receipt : DoReceipt) : Prop :=
  ∃ reservation, journal.reservations[receipt.reservationId]? = some reservation ∧
    receipt.Agrees reservation

/-- Every stored receipt agrees with the stored reservation it names. -/
def MemoryReceiptJournal.Agreement (journal : MemoryReceiptJournal) : Prop :=
  ∀ (id : String) receipt, journal.receipts[id]? = some receipt → journal.Carries receipt

/-! ## Calls -/

/-- A call on the journal. -/
inductive JournalRequest
  | reserve (reservation : ReceiptReservation)
  | finalize (receipt : DoReceipt)

/-- Where a call stands. -/
inductive JournalCall
  /-- `finalize` awaits the lock of the receipts (line 944). -/
  | bound (receipt : DoReceipt)
  | returned (result : Except String Unit)

namespace JournalCall

variable (prim : Primitives)

/-- A call under the lock of the reservations. -/
def enter (journal : MemoryReceiptJournal) : JournalRequest → JournalCall × MemoryReceiptJournal
  | .reserve reservation =>
    match journal.reserve prim reservation with
    | .ok journal => (returned (.ok ()), journal)
    | .error detail => (returned (.error detail), journal)
  | .finalize receipt =>
    match journal.bindsReserved prim receipt with
    | .ok () => (bound receipt, journal)
    | .error detail => (returned (.error detail), journal)

/-- A call of `finalize` under the lock of the receipts. -/
def resume (journal : MemoryReceiptJournal) :
    JournalCall → Unit → Option (JournalCall × MemoryReceiptJournal)
  | bound receipt, () =>
    match journal.store receipt with
    | .ok journal => some (returned (.ok ()), journal)
    | .error detail => some (returned (.error detail), journal)
  | returned _, () => none

end JournalCall

/-- `reserve` and `finalize`; an answer is the lock of the receipts. -/
def journalProgram (prim : Primitives) :
    Program MemoryReceiptJournal JournalCall JournalRequest Unit Empty where
  enter := JournalCall.enter prim
  resume := JournalCall.resume
  move journal _ := journal

/-- The journal and the calls. -/
abbrev JournalSystem := System MemoryReceiptJournal JournalCall

/-- A step of the system. -/
abbrev JournalEvent := Event JournalRequest Unit Empty

/-- An empty journal, before any call. -/
def emptyJournal : JournalSystem := { shared := .empty, calls := [] }

/-- A call of `finalize` that is about to store the first receipt under its id stores one that
carries what was reserved. -/
def StoresReserved (system : JournalSystem) : JournalEvent → Prop
  | .answer i () => ∀ receipt, system.calls[i]? = some (.bound receipt) →
    system.shared.receipts[receipt.reservationId]? = none → system.shared.Carries receipt
  | _ => True

/-! ## What a step does -/

section

open MemoryReceiptJournal

variable {prim : Primitives}

variable (prim) in
/-- What a call does to the journal before it awaits. -/
theorem enter_cases (journal : MemoryReceiptJournal) (request : JournalRequest) :
    (JournalCall.enter prim journal request).2 = journal ∨
    ∃ reservation, journal.reserve prim reservation =
      .ok (JournalCall.enter prim journal request).2 := by
  cases request with
  | reserve reservation =>
    cases hreserve : journal.reserve prim reservation with
    | error detail => exact .inl (by simp only [JournalCall.enter, hreserve])
    | ok journal' => exact .inr ⟨reservation, by simp only [JournalCall.enter, hreserve]⟩
  | finalize receipt =>
    cases hbinds : journal.bindsReserved prim receipt with
    | error detail => exact .inl (by simp only [JournalCall.enter, hbinds])
    | ok u => exact .inl (by simp only [JournalCall.enter, hbinds])

/-- A call that goes on stores its receipt, or leaves the journal as it is. -/
theorem resume_cases {journal : MemoryReceiptJournal} {call : JournalCall}
    {after : JournalCall × MemoryReceiptJournal}
    (h : JournalCall.resume journal call () = some after) :
    ∃ receipt, call = .bound receipt ∧
      ((journal.receipts[receipt.reservationId]? = none ∧ after.2 = { journal with
          receipts := journal.receipts.insert receipt.reservationId receipt }) ∨
        (journal.receipts[receipt.reservationId]? ≠ none ∧ after.2 = journal)) := by
  cases call with
  | returned result => cases h
  | bound receipt =>
    refine ⟨receipt, rfl, ?_⟩
    rcases journal.store_cases receipt with ⟨hnew, hstore⟩ | ⟨hheld, hstore | ⟨detail, hstore⟩⟩
    · simp only [JournalCall.resume, hstore, Option.some.injEq] at h
      exact .inl ⟨hnew, by rw [← h]⟩
    · simp only [JournalCall.resume, hstore, Option.some.injEq] at h
      exact .inr ⟨hheld, by rw [← h]⟩
    · simp only [JournalCall.resume, hstore, Option.some.injEq] at h
      exact .inr ⟨hheld, by rw [← h]⟩

/-- No event changes or removes what the journal holds. -/
theorem keeps_next (system : JournalSystem) (event : JournalEvent) :
    system.shared.Keeps ((journalProgram prim).next system event).shared := by
  cases event with
  | call request =>
    show system.shared.Keeps (JournalCall.enter prim system.shared request).2
    rcases enter_cases prim system.shared request with h | ⟨reservation, h⟩
    · rw [h]
      exact .refl _
    · exact reserve_keeps h
  | move change => exact change.elim
  | answer i answer =>
    rcases (journalProgram prim).next_answer_cases system i answer with
      h | ⟨call, after, -, hgo, h⟩
    · rw [h]
      exact .refl _
    · rw [h]
      obtain ⟨receipt, -, ⟨hnew, hafter⟩ | ⟨-, hafter⟩⟩ := resume_cases hgo
      · show system.shared.Keeps after.2
        rw [hafter]
        exact ⟨fun _ _ hheld => hheld, fun _ _ hheld => getElem?_insert_of_new hnew hheld⟩
      · show system.shared.Keeps after.2
        rw [hafter]
        exact .refl _

theorem carries_of_keeps {journal later : MemoryReceiptJournal} (h : journal.Keeps later)
    {receipt : DoReceipt} (hcarries : journal.Carries receipt) : later.Carries receipt := by
  obtain ⟨reservation, hheld, hagrees⟩ := hcarries
  exact ⟨reservation, h.reservations _ _ hheld, hagrees⟩

/-- A reservation adds no receipt. -/
theorem reserve_agreement {journal journal' : MemoryReceiptJournal}
    {reservation : ReceiptReservation} (h : journal.reserve prim reservation = .ok journal')
    (hq : journal.Agreement) : journal'.Agreement := by
  have hkeeps := reserve_keeps h
  have hreceipts : journal'.receipts = journal.receipts := by
    obtain ⟨-, ⟨-, rfl⟩ | ⟨-, rfl⟩⟩ := (reserve_eq_ok prim).mp h <;> rfl
  intro id receipt hheld
  rw [hreceipts] at hheld
  exact carries_of_keeps hkeeps (hq id receipt hheld)

/-- A new receipt agrees exactly when it carries what was reserved. -/
theorem insert_agreement {journal : MemoryReceiptJournal} {receipt : DoReceipt}
    (hq : journal.Agreement) :
    MemoryReceiptJournal.Agreement { journal with
      receipts := journal.receipts.insert receipt.reservationId receipt } ↔
      journal.Carries receipt := by
  constructor
  · intro h
    exact h receipt.reservationId receipt Std.ExtTreeMap.getElem?_insert_self
  · intro h id other hother
    by_cases heq : receipt.reservationId = id
    · subst heq
      obtain rfl := Option.some.inj (Std.ExtTreeMap.getElem?_insert_self.symm.trans hother)
      exact h
    · have hheld : journal.receipts[id]? = some other := by
        rw [← hother, Std.ExtTreeMap.getElem?_insert, if_neg (by simpa using heq)]
      exact hq id other hheld

/-- An event keeps the agreement exactly when what it stores carries what was reserved. -/
theorem agreement_next (system : JournalSystem) (event : JournalEvent)
    (hq : system.shared.Agreement) :
    ((journalProgram prim).next system event).shared.Agreement ↔ StoresReserved system event := by
  refine (journalProgram prim).next_iff (Q := fun system => system.shared.Agreement) ?_ ?_ ?_
    (fun change => change.elim) event
  · intro request
    refine iff_of_true ?_ trivial
    show MemoryReceiptJournal.Agreement (JournalCall.enter prim system.shared request).2
    rcases enter_cases prim system.shared request with h | ⟨reservation, h⟩
    · rw [h]
      exact hq
    · exact reserve_agreement h hq
  · intro i answer call after hcall hgo
    obtain ⟨receipt, rfl, ⟨hnew, hafter⟩ | ⟨hheld, hafter⟩⟩ := resume_cases hgo
    · show MemoryReceiptJournal.Agreement after.2 ↔ _
      rw [hafter, insert_agreement hq]
      constructor
      · intro h other hother _
        rw [hcall] at hother
        cases hother
        exact h
      · intro h
        exact h receipt hcall hnew
    · refine iff_of_true ?_ ?_
      · show MemoryReceiptJournal.Agreement after.2
        rw [hafter]
        exact hq
      · intro other hother hnone
        rw [hcall] at hother
        cases hother
        exact absurd hnone hheld
  · intro i answer hignored
    refine iff_of_true hq fun receipt hcall _ => ?_
    have hwaits := hignored _ hcall
    show system.shared.Carries receipt
    rcases system.shared.store_cases receipt with ⟨-, h⟩ | ⟨-, h | ⟨detail, h⟩⟩ <;>
      simp [journalProgram, JournalCall.resume, h] at hwaits

instance : Std.Refl fun system later : JournalSystem => system.shared.Keeps later.shared :=
  ⟨fun system => .refl system.shared⟩

instance : IsTrans JournalSystem fun system later => system.shared.Keeps later.shared :=
  ⟨fun _ _ _ h h' => ⟨fun id r hr => h'.reservations id r (h.reservations id r hr),
    fun id r hr => h'.receipts id r (h.receipts id r hr)⟩⟩

/-- Runs of calls on an empty journal change and remove nothing it holds, and every stored receipt
agrees with the reservation it names in all their states exactly when each first receipt that is
stored under an id carries what was reserved under it. -/
theorem agreement_iff (prim : Primitives) (events : List JournalEvent) :
    (Always (journalProgram prim).next (fun system => system.shared.Agreement) emptyJournal events ∧
      ∀ before later, events = before ++ later →
        (run (journalProgram prim).next emptyJournal before).shared.Keeps
          (run (journalProgram prim).next emptyJournal events).shared) ↔
      Along (journalProgram prim).next StoresReserved emptyJournal events := by
  have hiff : Always (journalProgram prim).next (fun system => system.shared.Agreement)
      emptyJournal events ↔ Along (journalProgram prim).next StoresReserved emptyJournal events :=
    always_iff_along (I := fun _ => True) (fun _ _ _ => trivial)
      (fun system event _ hq => agreement_next system event hq) trivial
      (fun id receipt hheld => by simp [emptyJournal, MemoryReceiptJournal.empty] at hheld)
  have hkeeps : ∀ before later, events = before ++ later →
      (run (journalProgram prim).next emptyJournal before).shared.Keeps
        (run (journalProgram prim).next emptyJournal events).shared := by
    rintro before later rfl
    rw [run_append]
    exact run_rel (I := fun _ => True)
      (R := fun system later : JournalSystem => system.shared.Keeps later.shared)
      (fun _ _ _ => trivial) (fun system event _ => keeps_next system event) trivial later
  rw [hiff]
  exact and_iff_left hkeeps

/-! ## A receipt for another subject -/

/-- The receipt of the tests' ambiguous attempt, sealed anew for another subject. -/
def forgedReceipt (prim : Primitives) (prepared : PreparedDo) : DoReceipt :=
  DoReceipt.sealReceipt prim { Executor.receiptOf prim prepared ambiguousResponse with
    subject := .gitCommit ⟨"repository:other"⟩ "0123456789abcdef0123456789abcdef01234567" }

/-- `verify` does not see that the subject was changed. -/
theorem forgedReceipt_verify {prepared : PreparedDo} (h : prepared.verify prim = .ok ()) :
    (forgedReceipt prim prepared).verify prim = .ok () := by
  have hseal := Executor.sealReceipt_digest prim
  have hreceipt := Executor.receiptOf_verify h ambiguousResponse
  simp only [DoReceipt.verify, bind_eq_ok, ensure_eq_ok, forM_eq_ok] at hreceipt ⊢
  obtain ⟨_, -, _, hdigests, _, hkey, -⟩ := hreceipt
  refine ⟨(), ⟨?_, hseal _⟩, (), hdigests, (), hkey, fun h => by cases h⟩
  rw [forgedReceipt, hseal]
  exact canonicalDigest_valid prim _

/-- A reservation is made, and a receipt for another subject is finalized against it. -/
def forgedEvents (prepared : PreparedDo) (receipt : DoReceipt) : List JournalEvent :=
  [.call (.reserve prepared.reservation), .call (.finalize receipt), .answer 1 ()]

/-- The journal stores the receipt for another subject under the reservation. -/
theorem forged_receipt_stored :
    ∃ prepared receipt, fixturePrepare samplePrimitives = .ok prepared ∧
      receipt.verify samplePrimitives = .ok () ∧ ¬ receipt.Agrees prepared.reservation ∧
      (run (journalProgram samplePrimitives).next emptyJournal
        (forgedEvents prepared receipt)).shared.receipts[prepared.reservation.id]? = some receipt ∧
      ¬ Always (journalProgram samplePrimitives).next (fun system => system.shared.Agreement)
        emptyJournal (forgedEvents prepared receipt) := by
  obtain ⟨prepared, hprepared, hverify⟩ := fixturePrepare_ok samplePrimitives
  have hforged := forgedReceipt_verify hverify
  have hdisagrees : ¬ (forgedReceipt samplePrimitives prepared).Agrees prepared.reservation := by
    intro h
    have hsubject := PreparedDo.verify_subject hverify
    rw [(fixturePrepare_fields hprepared).1] at hsubject
    have hother : (ExactSubject.gitCommit ⟨"repository:other"⟩
        "0123456789abcdef0123456789abcdef01234567") ≠ fixtureSubject := by decide
    exact hother (h.subject.trans hsubject)
  let journal : MemoryReceiptJournal := { MemoryReceiptJournal.empty with
    reservations := MemoryReceiptJournal.empty.reservations.insert prepared.reservation.id
      prepared.reservation }
  have hheld : journal.reservations[prepared.reservation.id]? = some prepared.reservation :=
    Std.ExtTreeMap.getElem?_insert_self
  have hreserve : MemoryReceiptJournal.empty.reserve samplePrimitives prepared.reservation =
      .ok journal := by
    rw [reserve_eq_ok]
    exact ⟨prepared.verify_reservation hverify, .inr ⟨by simp [MemoryReceiptJournal.empty], rfl⟩⟩
  have hbinds : journal.bindsReserved samplePrimitives
      (forgedReceipt samplePrimitives prepared) = .ok () := by
    rw [bindsReserved, bind_eq_ok]
    refine ⟨(), textError_eq_ok.mpr hforged, ?_⟩
    show (match journal.reservations[prepared.reservation.id]? with
      | none => _
      | some reservation => _) = _
    rw [hheld]
    exact ensure_eq_ok.mpr rfl
  have hnew : journal.receipts[prepared.reservation.id]? = none := by
    simp [journal, MemoryReceiptJournal.empty]
  let stored : MemoryReceiptJournal := { journal with
    receipts := journal.receipts.insert prepared.reservation.id
      (forgedReceipt samplePrimitives prepared) }
  have hstore : journal.store (forgedReceipt samplePrimitives prepared) = .ok stored := by
    rcases journal.store_cases (forgedReceipt samplePrimitives prepared) with
      ⟨-, h⟩ | ⟨hnot, -⟩
    · exact h
    · exact absurd hnew hnot
  have hrun : run (journalProgram samplePrimitives).next emptyJournal
      (forgedEvents prepared (forgedReceipt samplePrimitives prepared)) =
      { shared := stored, calls := [.returned (.ok ()), .returned (.ok ())] } := by
    simp [forgedEvents, emptyJournal, Program.next, journalProgram, JournalCall.enter,
      JournalCall.resume, hreserve, hbinds, hstore]
  have hreceipt : (run (journalProgram samplePrimitives).next emptyJournal
      (forgedEvents prepared (forgedReceipt samplePrimitives prepared))).shared.receipts[
        prepared.reservation.id]? = some (forgedReceipt samplePrimitives prepared) := by
    rw [hrun]
    exact Std.ExtTreeMap.getElem?_insert_self
  refine ⟨prepared, _, hprepared, hforged, hdisagrees, hreceipt, fun halways => ?_⟩
  have hlast := always_iff.mp halways _ [] (List.append_nil _).symm
  obtain ⟨reservation, hreserved, hagrees⟩ := hlast _ _ hreceipt
  rw [hrun] at hreserved
  obtain rfl := Option.some.inj (hheld.symm.trans hreserved)
  exact hdisagrees hagrees

end

end ChatmanEcosystem.Hditc
