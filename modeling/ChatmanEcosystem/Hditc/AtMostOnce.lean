import ChatmanEcosystem.Common.Run
import ChatmanEcosystem.Hditc.Executor

/-!
# How often a reservation is actuated

Sequences of `BrceExecutor::execute` calls over one journal. The journal's
answer to a reservation it already holds is `Ok`, so `execute` goes on to the
actuator a second time.

Results:

* `journal_run`: the reservations in the journal are exactly those of the carriers
  the actuator was called with.
* `atMostOnce_iff`: the actuator is called at most once for every reservation
  id exactly when no verifying carrier is presented whose reservation the
  journal holds.
-/

namespace ChatmanEcosystem.Hditc

open Common Rust Core

variable (prim : Primitives)

/-- One call of `execute`: the carrier and what the actuator answers. -/
abbrev Call := PreparedDo × Response

/-- The executor after a call. -/
def Executor.next (executor : Executor) (call : Call) : Executor :=
  (executor.execute prim call.1 call.2).2

/-- For every reservation id the actuator was called at most once. -/
def AtMostOnce (executor : Executor) : Prop :=
  ∀ id, (executor.actuated.map (·.reservation.id)).count id ≤ 1

/-- The journal does not hold the reservation of the carrier that the call
presents, if that carrier verifies. -/
def NotHeld (executor : Executor) (call : Call) : Prop :=
  call.1.verify prim = .ok () →
    executor.journal.reservations[call.1.reservation.id]? ≠ some call.1.reservation

/-- The journal and the actuator agree. -/
structure Inv (executor : Executor) : Prop where
  held : ∀ prepared ∈ executor.actuated,
    executor.journal.reservations[prepared.reservation.id]? = some prepared.reservation
  actuated : ∀ id reservation, executor.journal.reservations[id]? = some reservation →
    ∃ prepared ∈ executor.actuated, prepared.reservation.id = id

theorem inv_new : Inv Executor.new where
  held := by simp [Executor.new]
  actuated := by simp [Executor.new, MemoryReceiptJournal.empty]

variable {prim}

/-- What a call can do: nothing, actuate again under a held reservation, or
reserve a new id and actuate. -/
theorem next_cases (prim : Primitives) (executor : Executor) (call : Call) :
    executor.next prim call = executor ∧ NotHeld prim executor call ∨
    (executor.next prim call).actuated = call.1 :: executor.actuated ∧
      (executor.next prim call).journal.reservations = executor.journal.reservations ∧
      executor.journal.reservations[call.1.reservation.id]? = some call.1.reservation ∧
      ¬ NotHeld prim executor call ∨
    (executor.next prim call).actuated = call.1 :: executor.actuated ∧
      (executor.next prim call).journal.reservations =
        executor.journal.reservations.insert call.1.reservation.id call.1.reservation ∧
      executor.journal.reservations[call.1.reservation.id]? = none ∧
      NotHeld prim executor call := by
  by_cases hverify : call.1.verify prim = .ok ()
  · by_cases hreserve : ∃ journal, executor.journal.reserve prim call.1.reservation = .ok journal
    · obtain ⟨journal, hreserve⟩ := hreserve
      obtain ⟨hactuated, hres⟩ :=
        Executor.execute_of_reserved call.2 hverify hreserve
      obtain ⟨-, ⟨hheld, rfl⟩ | ⟨hnew, rfl⟩⟩ :=
        (MemoryReceiptJournal.reserve_eq_ok prim).mp hreserve
      · exact .inr (.inl ⟨hactuated, hres, hheld, fun h => h hverify hheld⟩)
      · exact .inr (.inr ⟨hactuated, hres, hnew, fun _ => by simp [hnew]⟩)
    · have hrefused := not_exists.mp hreserve
      refine .inl ⟨Executor.execute_of_refused (.inr hrefused), fun _ hheld => ?_⟩
      -- a held reservation is accepted again
      exact hrefused _ ((MemoryReceiptJournal.reserve_eq_ok prim).mpr
        ⟨call.1.verify_reservation hverify, .inl ⟨hheld, rfl⟩⟩)
  · exact .inl ⟨Executor.execute_of_refused (.inl hverify), fun h => absurd h hverify⟩

/-- A verifying carrier whose reservation id is new, or whose reservation is held,
is actuated and its reservation is held afterwards. -/
theorem next_of_verified (executor : Executor) (call : Call)
    (hverify : call.1.verify prim = .ok ())
    (h : executor.journal.reservations[call.1.reservation.id]? = none ∨
      executor.journal.reservations[call.1.reservation.id]? = some call.1.reservation) :
    (executor.next prim call).actuated = call.1 :: executor.actuated ∧
    (executor.next prim call).journal.reservations[call.1.reservation.id]? =
      some call.1.reservation := by
  have hres := call.1.verify_reservation hverify
  rcases h with hnew | hheld
  · obtain ⟨hactuated, hjournal⟩ := Executor.execute_of_reserved call.2 hverify
      ((MemoryReceiptJournal.reserve_eq_ok prim).mpr ⟨hres, .inr ⟨hnew, rfl⟩⟩)
    exact ⟨hactuated, by rw [Executor.next, hjournal, Std.ExtTreeMap.getElem?_insert_self]⟩
  · obtain ⟨hactuated, hjournal⟩ := Executor.execute_of_reserved call.2 hverify
      ((MemoryReceiptJournal.reserve_eq_ok prim).mpr ⟨hres, .inl ⟨hheld, rfl⟩⟩)
    exact ⟨hactuated, by rw [Executor.next, hjournal, hheld]⟩

theorem inv_next (executor : Executor) (call : Call) (h : Inv executor) :
    Inv (executor.next prim call) := by
  rcases next_cases prim executor call with ⟨heq, -⟩ | ⟨hact, hres, hheld, -⟩ |
    ⟨hact, hres, hnew, -⟩
  · rw [heq]; exact h
  · refine ⟨fun prepared hmem => ?_, fun id reservation hid => ?_⟩
    · rw [hres]
      rw [hact] at hmem
      rcases List.mem_cons.mp hmem with rfl | hmem
      · exact hheld
      · exact h.held prepared hmem
    · rw [hres] at hid
      obtain ⟨prepared, hmem, hid⟩ := h.actuated id reservation hid
      exact ⟨prepared, by rw [hact]; exact .tail _ hmem, hid⟩
  · refine ⟨fun prepared hmem => ?_, fun id reservation hid => ?_⟩
    · rw [hact] at hmem
      rw [hres, Std.ExtTreeMap.getElem?_insert]
      rcases List.mem_cons.mp hmem with rfl | hmem
      · simp
      · have hne : call.1.reservation.id ≠ prepared.reservation.id := by
          intro heq
          have := h.held prepared hmem
          rw [← heq, hnew] at this
          cases this
        simp [hne, h.held prepared hmem]
    · by_cases heq : call.1.reservation.id = id
      · exact ⟨call.1, by rw [hact]; exact .head _, heq⟩
      · rw [hres, Std.ExtTreeMap.getElem?_insert] at hid
        simp only [compare_eq_iff_eq, heq, if_false] at hid
        obtain ⟨prepared, hmem, hid⟩ := h.actuated id reservation hid
        exact ⟨prepared, by rw [hact]; exact .tail _ hmem, hid⟩

/-- The journal and the actuator agree after every sequence of calls. -/
theorem journal_run (calls : List Call) : Inv (run (Executor.next prim) Executor.new calls) :=
  run_invariant inv_next inv_new calls

/-- A call keeps `AtMostOnce` exactly when it presents no held reservation. -/
theorem atMostOnce_next (executor : Executor) (call : Call) (h : Inv executor)
    (honce : AtMostOnce executor) :
    AtMostOnce (executor.next prim call) ↔ NotHeld prim executor call := by
  rcases next_cases prim executor call with ⟨heq, hnot⟩ | ⟨hact, -, hheld, hnot⟩ |
    ⟨hact, -, hnew, hnot⟩
  · rw [heq]
    exact iff_of_true honce hnot
  · refine iff_of_false (fun hnext => ?_) hnot
    obtain ⟨prepared, hmem, hid⟩ := h.actuated _ _ hheld
    have hcount := hnext call.1.reservation.id
    have hpos : 0 < (executor.actuated.map (·.reservation.id)).count call.1.reservation.id :=
      List.count_pos_iff.mpr (hid ▸ List.mem_map_of_mem hmem)
    rw [hact, List.map_cons, List.count_cons_self] at hcount
    omega
  · refine iff_of_true (fun id => ?_) hnot
    rw [hact, List.map_cons, List.count_cons]
    split_ifs with heq
    · have hzero : (executor.actuated.map (·.reservation.id)).count id = 0 := by
        refine List.count_eq_zero.mpr fun hmem => ?_
        obtain ⟨prepared, hmem, hid⟩ := List.mem_map.mp hmem
        have := h.held prepared hmem
        rw [hid, ← beq_iff_eq.mp heq, hnew] at this
        cases this
      omega
    · exact honce id

/-- Sequences of calls over an empty journal call the actuator at most once for
each reservation id exactly when no call presents a verifying carrier whose very
reservation the journal holds by then. -/
theorem atMostOnce_iff (prim : Primitives) (calls : List Call) :
    Always (Executor.next prim) AtMostOnce Executor.new calls ↔
      Along (Executor.next prim) (NotHeld prim) Executor.new calls :=
  always_iff_along inv_next atMostOnce_next inv_new (fun _ => by simp [Executor.new])

/-! ## An ambiguous attempt, presented again -/

/-- `subject` of the crate's tests (lines 964–971). -/
def fixtureSubject : ExactSubject :=
  .gitCommit ⟨"repository:fixture"⟩ "0123456789abcdef0123456789abcdef01234567"

/-- `world` of the crate's tests (lines 977–987). -/
def fixtureWorld (state : String) : World where
  subject := fixtureSubject
  dimensions := (Std.ExtTreeMap.insert ∅ "service.state" state).insert "blast.radius" "bounded"
  criticalUnknown := ∅
  evidenceDigests := Std.ExtTreeSet.insert ∅
    "blake3:0000000000000000000000000000000000000000000000000000000000000000"

/-- `candidate` of the crate's tests (lines 989–1011). -/
def fixtureCandidate : Candidate where
  id := "best"
  subject := fixtureSubject
  command := "set service.state=ready"
  idempotencyKey := "idem-best"
  requiredAuthority := .modifyExternalObject
  reversible := true
  optionPreservation := 100
  informationGainMillibits := 1000
  costMicrounits := 10
  requiresKnown := Std.ExtTreeSet.insert ∅ "service.state"
  mutations := [{ dimension := "service.state", before := some "pending", after := some "ready" }]
  constructionConstraints := [.equals "blast.radius" "bounded"]

/-- `grant` of the crate's tests before it is sealed (lines 1013–1034). -/
def fixtureGrant : AuthorityGrant where
  id := "authority:hditc-fixture"
  subject := fixtureSubject
  authority := .modifyExternalObject
  consequenceBound := [.equals "service.state" "ready", .equals "blast.radius" "bounded"]
  nonce := "nonce-1"
  issuedAt := "2026-08-19T23:00:00Z"
  digest := ""

/-- `prepare` of the crate's tests (lines 1036–1046). -/
def fixturePrepare (prim : Primitives) : Except Error PreparedDo := do
  let grant ← fixtureGrant.sealGrant prim
  PreparedDo.prepare prim (fixtureWorld "pending") fixtureCandidate grant
    [.equals "service.state" "ready"]

theorem fixtureSubject_valid (prim : Primitives) :
    validateSubject prim fixtureSubject = .ok () := by
  have hshape : fixtureSubject.wellShaped = true := by decide
  rw [validateSubject, (ExactSubject.validate_eq_ok prim).mpr hshape]

theorem fixtureGrant_seal (prim : Primitives) :
    ∃ grant, fixtureGrant.sealGrant prim = .ok grant ∧ grant.subject = fixtureSubject ∧
      grant.authority = .modifyExternalObject ∧
      grant.consequenceBound = normalizeConstraints fixtureGrant.consequenceBound ∧
      grant.digest = canonicalDigest prim grant.unsigned.toJson := by
  simp only [AuthorityGrant.sealGrant, bind_eq_ok, nonempty, ensure_eq_ok, pure_eq_ok]
  refine ⟨_, ⟨(), fixtureSubject_valid prim, (), by decide, (), by decide, (), by decide, rfl⟩,
    rfl, rfl, rfl, ?_⟩
  simp only [AuthorityGrant.unsigned, normalizeConstraints_idem]

theorem fixtureCandidate_project (prim : Primitives) :
    fixtureCandidate.project prim (fixtureWorld "pending") =
      .ok ((fixtureWorld "pending").dimensions.insert "service.state" "ready") := by
  have hvalid : (fixtureWorld "pending").validate prim = .ok () := by
    simp only [World.validate, bind_eq_ok, forM_eq_ok, nonempty, ensure_eq_ok]
    exact ⟨(), fixtureSubject_valid prim, (), by decide +kernel, by decide +kernel⟩
  have happly : (fixtureCandidate.mutations.foldlM (fun dimensions mutation =>
      mutation.apply prim dimensions) (fixtureWorld "pending").dimensions) =
      .ok ((fixtureWorld "pending").dimensions.insert "service.state" "ready") := by
    simp only [fixtureCandidate, List.foldlM, Mutation.apply, bind_eq_ok, nonempty, ensure_eq_ok]
    exact ⟨_, ⟨(), by decide, (), by decide +kernel, rfl⟩, rfl⟩
  simp only [Candidate.project, bind_eq_ok, nonempty, ensure_eq_ok, pure_eq_ok]
  exact ⟨(), hvalid, (), fixtureSubject_valid prim, (), rfl, (), by decide, (), by decide, (),
    by decide, (), rfl, (), by decide +kernel, _, happly, (), by decide +kernel, rfl⟩

/-- The carrier of the tests is admitted, whatever the hash function. -/
theorem fixturePrepare_ok (prim : Primitives) :
    ∃ prepared, fixturePrepare prim = .ok prepared ∧ prepared.verify prim = .ok () := by
  obtain ⟨grant, hseal, hsubject, hauthority, hbound, hdigest⟩ := fixtureGrant_seal prim
  have hproject := fixtureCandidate_project prim
  have hgrant : grant.verifyFor prim fixtureCandidate = .ok () := by
    simp only [AuthorityGrant.verifyFor, bind_eq_ok, ensure_eq_ok]
    refine ⟨(), hsubject, (), by rw [hauthority]; rfl, ?_, hdigest⟩
    rw [hdigest]
    exact canonicalDigest_valid prim _
  have hprepare : ∃ prepared, PreparedDo.prepare prim (fixtureWorld "pending") fixtureCandidate
      grant [.equals "service.state" "ready"] = .ok prepared := by
    simp only [PreparedDo.prepare, bind_eq_ok, ensure_eq_ok, pure_eq_ok, hbound]
    have hvalid : validDigest grant.digest = true := by
      rw [hdigest]
      exact canonicalDigest_valid prim _
    refine ⟨_, _, hproject, (), hgrant, (), by decide +kernel, (), by decide +kernel,
      (), by decide +kernel,
      (), by decide +kernel, (), ?_, rfl⟩
    exact PreparedDo.manufacture_verify (fixtureSubject_valid prim) (by decide) hvalid
  obtain ⟨prepared, hprepare⟩ := hprepare
  exact ⟨prepared, bind_eq_ok.mpr ⟨grant, hseal, hprepare⟩, PreparedDo.prepare_verify hprepare⟩

/-- The carrier of the tests has the fixtures' candidate and normal constraints. -/
theorem fixturePrepare_fields {prim : Primitives} {prepared : PreparedDo}
    (h : fixturePrepare prim = .ok prepared) :
    prepared.candidate = fixtureCandidate ∧
    prepared.expectedPostconditions = normalizeConstraints [.equals "service.state" "ready"] ∧
    prepared.grant.consequenceBound = normalizeConstraints fixtureGrant.consequenceBound := by
  obtain ⟨grant, hgrant, hprepare⟩ := bind_eq_ok.mp h
  obtain ⟨sealed, hseal, -, -, hbound, -⟩ := fixtureGrant_seal prim
  obtain rfl := Except.ok.inj (hgrant.symm.trans hseal)
  simp only [PreparedDo.prepare, bind_eq_ok, pure_eq_ok] at hprepare
  obtain ⟨_, -, _, -, _, -, _, -, _, -, _, -, _, -, rfl⟩ := hprepare
  exact ⟨rfl, rfl, hbound⟩

/-- The answers of the actuator in `ambiguous_actuation_is_not_retried_or_promoted`. -/
def ambiguousResponse : Response where
  actuation := .ambiguous "transport timeout after dispatch"
  observation := .ok (fixtureWorld "ready")

/-- The attempt of the ambiguity test ends `Ambiguous`, and the same carrier
presented again is actuated again. -/
theorem ambiguous_attempt_actuated_again :
    ∃ prepared receipt, fixturePrepare samplePrimitives = .ok prepared ∧
      (Executor.new.execute samplePrimitives prepared ambiguousResponse).1 = .ok receipt ∧
      receipt.outcome = .ambiguous ∧
      (run (Executor.next samplePrimitives) Executor.new
        [(prepared, ambiguousResponse), (prepared, ambiguousResponse)]).actuated =
        [prepared, prepared] ∧
      ¬ AtMostOnce (run (Executor.next samplePrimitives) Executor.new
        [(prepared, ambiguousResponse), (prepared, ambiguousResponse)]) := by
  obtain ⟨prepared, hprepared, hverify⟩ := fixturePrepare_ok samplePrimitives
  have hreceipt := Executor.execute_new hverify ambiguousResponse
  obtain ⟨hfirst, hheld⟩ := next_of_verified Executor.new (prepared, ambiguousResponse) hverify
    (.inl (by simp [Executor.new, MemoryReceiptJournal.empty]))
  obtain ⟨hsecond, -⟩ := next_of_verified _ (prepared, ambiguousResponse) hverify (.inr hheld)
  have hrun : (run (Executor.next samplePrimitives) Executor.new
      [(prepared, ambiguousResponse), (prepared, ambiguousResponse)]).actuated =
      [prepared, prepared] := by
    rw [run_cons, run_cons, run_nil, hsecond, hfirst]
    rfl
  refine ⟨prepared, _, hprepared, hreceipt, rfl, hrun, fun honce => ?_⟩
  have hcount := honce prepared.reservation.id
  rw [hrun] at hcount
  simp at hcount

end ChatmanEcosystem.Hditc
