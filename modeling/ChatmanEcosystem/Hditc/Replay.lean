import ChatmanEcosystem.Hditc.Receipted

/-!
# `Done`, and its replay

Model of `replay` (`crates/hditc/src/lib.rs`, lines 866–901) beside the
classification of an attempt in `BrceExecutor::execute` (lines 802–819). The
executor is generic in its journal: `executeWith` is `execute` over a journal
that answers as it likes.

`replay` derives anew what `execute` has seen. It reads the constraints off the
receipt, where they are normal, and asks for the dimensions of the
postconditions and of the bound at once.

Results:

* `execute_eq_executeWith`: `Executor.execute` is an instance.
* `executeWith_done_iff`: when an attempt ends `Done`, and what replay says of
  its receipt.
-/

namespace ChatmanEcosystem.Hditc

open Core Rust

/-! ## Constraints and names -/

/-- Adjacent duplicates go, their values stay. -/
theorem mem_destutter' (a x : Constraint) (l : List Constraint) :
    x ∈ l.destutter' (· ≠ ·) a ↔ x = a ∨ x ∈ l := by
  induction l generalizing a with
  | nil => simp
  | cons b l ih =>
    by_cases hab : a = b
    · have hskip : (b :: l).destutter' (· ≠ ·) a = l.destutter' (· ≠ ·) a :=
        List.destutter'_cons_neg _ (by simpa using hab)
      rw [hskip, ih, List.mem_cons, hab]
      tauto
    · have hkeep : (b :: l).destutter' (· ≠ ·) a = a :: l.destutter' (· ≠ ·) b :=
        List.destutter'_cons_pos _ hab
      rw [hkeep, List.mem_cons, ih, List.mem_cons]

/-- Normalizing neither adds nor loses a constraint. -/
theorem mem_normalizeConstraints (x : Constraint) (values : List Constraint) :
    x ∈ normalizeConstraints values ↔ x ∈ values := by
  have hperm : x ∈ values.insertionSort (· ≤ ·) ↔ x ∈ values :=
    (List.perm_insertionSort (· ≤ ·) values).mem_iff
  rw [← hperm, normalizeConstraints]
  cases values.insertionSort (· ≤ ·) with
  | nil => simp
  | cons a l => rw [List.destutter_cons', mem_destutter', List.mem_cons]

variable {values : List Constraint}

theorem constraintsHold_iff {dimensions : Dimensions} :
    constraintsHold values dimensions = true ↔ ∀ c ∈ values, c.holds dimensions = true := by
  rw [constraintsHold, List.all_eq_true]

theorem mem_foldl_insert {α : Type} (f : α → String) (k : String) (values : List α)
    (names : Std.ExtTreeSet String) :
    k ∈ values.foldl (fun names a => names.insert (f a)) names ↔
      k ∈ names ∨ ∃ a ∈ values, f a = k := by
  induction values generalizing names with
  | nil => simp
  | cons a values ih =>
    rw [List.foldl_cons, ih, Std.ExtTreeSet.mem_insert, List.exists_mem_cons_iff, compare_eq_iff_eq]
    tauto

theorem mem_constraintDimensions {k : String} :
    k ∈ constraintDimensions values ↔ ∃ c ∈ values, c.dimension = k := by
  rw [constraintDimensions, mem_foldl_insert]
  simp

theorem mem_unionNames {k : String} {a b : Std.ExtTreeSet String} :
    k ∈ PreparedDo.unionNames a b ↔ k ∈ a ∨ k ∈ b := by
  have h := mem_foldl_insert id k b.toList a
  rw [PreparedDo.unionNames]
  simpa [Std.ExtTreeSet.mem_toList] using h

theorem World.knows_iff {world : World} {names : Std.ExtTreeSet String} :
    world.knows names = true ↔ ∀ k ∈ names, k ∉ world.criticalUnknown := by
  rw [World.knows, List.all_eq_true]
  constructor
  · intro h k hk hunknown
    have hnot := h k (Std.ExtTreeSet.mem_toList.mpr hunknown)
    rw [Std.ExtTreeSet.mem_iff_contains.mp hk] at hnot
    cases hnot
  · intro h k hk
    have hunknown := Std.ExtTreeSet.mem_toList.mp hk
    have hnot : k ∉ names := fun hmem => h k hmem hunknown
    have hcontains : names.contains k = false := by
      rw [← Bool.not_eq_true, ← Std.ExtTreeSet.mem_iff_contains]
      exact hnot
    rw [hcontains]
    rfl

/-! ## Replay -/

/-- `{:?}` of an outcome. -/
def DoOutcome.debug : DoOutcome → String
  | done => "Done"
  | blocked => "Blocked"
  | ambiguous => "Ambiguous"
  | refused => "Refused"

/-- `replay` (lines 874–901). -/
def replay (prim : Primitives) (receipt : DoReceipt) (observed : World) :
    Except Error Standing := do
  receipt.verify prim
  observed.validate prim
  ensure (receipt.outcome = .done) (.replay
    ("receipt outcome " ++ receipt.outcome.debug ++ " has no ALIVE replay standing"))
  ensure (observed.subject = receipt.subject) (.replay "exact subject changed")
  ensure (receipt.observedDigest = some (observed.digest prim))
    (.replay "observed world digest changed")
  ensure (observed.knows (PreparedDo.unionNames
        (constraintDimensions receipt.expectedPostconditions)
        (constraintDimensions receipt.admittedConsequenceBound)) ∧
      constraintsHold receipt.expectedPostconditions observed.dimensions ∧
      constraintsHold receipt.admittedConsequenceBound observed.dimensions)
    (.replay "replay postcondition closure failed")
  return .alive

/-- The observed world closes constraints on a subject: it is a valid world of the subject, no
dimension of a constraint is a critical unknown of it, and the constraints hold in it. -/
structure World.Closes (prim : Primitives) (world : World) (subject : ExactSubject)
    (constraints : List Constraint) : Prop where
  subject : world.subject = subject
  valid : world.validate prim = .ok ()
  known : ∀ c ∈ constraints, c.dimension ∉ world.criticalUnknown
  holds : ∀ c ∈ constraints, c.holds world.dimensions = true

/-- When replay answers `Alive`. -/
theorem replay_eq_alive {prim : Primitives} {receipt : DoReceipt} {observed : World} :
    replay prim receipt observed = .ok .alive ↔
      receipt.verify prim = .ok () ∧ receipt.outcome = .done ∧
      receipt.observedDigest = some (observed.digest prim) ∧
      observed.Closes prim receipt.subject
        (receipt.expectedPostconditions ++ receipt.admittedConsequenceBound) := by
  simp only [replay, bind_eq_ok, ensure_eq_ok, pure_eq_ok, World.knows_iff, mem_unionNames,
    mem_constraintDimensions, constraintsHold_iff]
  constructor
  · rintro ⟨_, hverify, _, hvalid, _, hdone, _, hsubject, _, hdigest, _, ⟨hknown, hpost, hbound⟩, -⟩
    refine ⟨hverify, hdone, hdigest, hsubject, hvalid, fun c hc => ?_, fun c hc => ?_⟩
    · rcases List.mem_append.mp hc with hc | hc
      · exact hknown _ (.inl ⟨c, hc, rfl⟩)
      · exact hknown _ (.inr ⟨c, hc, rfl⟩)
    · rcases List.mem_append.mp hc with hc | hc
      · exact hpost c hc
      · exact hbound c hc
  · rintro ⟨hverify, hdone, hdigest, hcloses⟩
    refine ⟨(), hverify, (), hcloses.valid, (), hdone, (), hcloses.subject, (), hdigest, (),
      ⟨?_, fun c hc => hcloses.holds c (List.mem_append_left _ hc),
        fun c hc => hcloses.holds c (List.mem_append_right _ hc)⟩, trivial⟩
    rintro k (⟨c, hc, rfl⟩ | ⟨c, hc, rfl⟩)
    · exact hcloses.known c (List.mem_append_left _ hc)
    · exact hcloses.known c (List.mem_append_right _ hc)

/-! ## Execution over any journal -/

namespace Executor

variable (prim : Primitives)

/-- `BrceExecutor::execute` (lines 780–863) over a journal that answers `reserve` and `finalize` as
it likes. -/
def executeWith (reserve : ReceiptReservation → Except String Unit)
    (finalize : DoReceipt → Except String Unit) (prepared : PreparedDo) (response : Response) :
    Except Error DoReceipt := do
  prepared.verify prim
  (reserve prepared.reservation).mapError .journal
  let receipt := receiptOf prim prepared response
  receipt.verify prim
  (finalize receipt).mapError (.finalizeAfterActuation receipt.reservationId)
  return receipt

/-- The constraints that an attempt has to close. -/
def obligations (prepared : PreparedDo) : List Constraint :=
  prepared.expectedPostconditions ++ prepared.grant.consequenceBound

variable {prim}

/-- Over the journal of an executor, `executeWith` is what `execute` returns. -/
theorem execute_eq_executeWith (executor : Executor) (prepared : PreparedDo)
    (response : Response) :
    (executor.execute prim prepared response).1 =
      executeWith prim
        (fun reservation => (executor.journal.reserve prim reservation).map fun _ => ())
        (fun receipt => (executor.journal.reserve prim prepared.reservation).bind fun journal =>
          (journal.finalize prim receipt).map fun _ => ())
        prepared response := by
  unfold execute executeWith
  cases prepared.verify prim with
  | error error => rfl
  | ok u =>
    cases hreserve : executor.journal.reserve prim prepared.reservation with
    | error detail => simp [hreserve, bind, Except.bind, Except.map, Except.mapError]
    | ok journal =>
      cases hverify : (receiptOf prim prepared response).verify prim with
      | error error => simp [hreserve, hverify, bind, Except.bind, Except.map, Except.mapError]
      | ok u =>
        cases hfinalize : journal.finalize prim (receiptOf prim prepared response) with
        | error detail =>
          simp [hreserve, hverify, hfinalize, bind, Except.bind, Except.map, Except.mapError]
        | ok journal' =>
          simp [hreserve, hverify, hfinalize, bind, Except.bind, Except.map, Except.mapError,
            pure, Except.pure]

variable {prepared : PreparedDo} {world : World}

/-- What `execute` sees as reconciled is that the observed world closes the carrier. -/
theorem reconciled_iff :
    reconciled prim prepared world = true ↔
      world.Closes prim prepared.candidate.subject (obligations prepared) := by
  simp only [reconciled, Bool.and_eq_true, beq_iff_eq, World.knows_iff, mem_constraintDimensions,
    constraintsHold_iff, obligations]
  constructor
  · rintro ⟨⟨⟨⟨⟨hsubject, hvalid⟩, hknown⟩, hknown'⟩, hpost⟩, hbound⟩
    refine ⟨hsubject, ?_, fun c hc => ?_, fun c hc => ?_⟩
    · cases hworld : world.validate prim with
      | error error => rw [hworld] at hvalid; cases hvalid
      | ok u => rfl
    · rcases List.mem_append.mp hc with hc | hc
      · exact hknown _ ⟨c, hc, rfl⟩
      · exact hknown' _ ⟨c, hc, rfl⟩
    · rcases List.mem_append.mp hc with hc | hc
      · exact hpost c hc
      · exact hbound c hc
  · intro h
    refine ⟨⟨⟨⟨⟨h.subject, by rw [h.valid]; rfl⟩, ?_⟩, ?_⟩,
      fun c hc => h.holds c (List.mem_append_left _ hc)⟩,
      fun c hc => h.holds c (List.mem_append_right _ hc)⟩
    · rintro k ⟨c, hc, rfl⟩
      exact h.known c (List.mem_append_left _ hc)
    · rintro k ⟨c, hc, rfl⟩
      exact h.known c (List.mem_append_right _ hc)

/-- The classification of an attempt. -/
theorem receiptOf_outcome_eq_done {response : Response} :
    (receiptOf prim prepared response).outcome = .done ↔
      ∃ token world, response.actuation = .acknowledged token ∧
        response.observation = .ok world ∧ reconciled prim prepared world = true := by
  have houtcome : (receiptOf prim prepared response).outcome =
      outcome response (response.observation.toOption.any (reconciled prim prepared)) := rfl
  rw [houtcome]
  obtain ⟨actuation, observation⟩ := response
  cases actuation with
  | refused reason => simp [outcome]
  | ambiguous reason => simp [outcome]
  | acknowledged token =>
    cases observation with
    | error error => simp [outcome]
    | ok world =>
      cases hworld : reconciled prim prepared world <;> simp [outcome, Except.toOption, hworld]

/-- The normal constraints of a receipt are closed when the carrier's are. -/
theorem receiptOf_closes {response : Response}
    (h : world.Closes prim prepared.candidate.subject (obligations prepared)) :
    world.Closes prim (receiptOf prim prepared response).subject
      ((receiptOf prim prepared response).expectedPostconditions ++
        (receiptOf prim prepared response).admittedConsequenceBound) := by
  have hmem : ∀ c, c ∈ (receiptOf prim prepared response).expectedPostconditions ++
      (receiptOf prim prepared response).admittedConsequenceBound → c ∈ obligations prepared := by
    intro c hc
    rw [obligations, List.mem_append]
    refine (List.mem_append.mp hc).imp ?_ ?_
    · exact (mem_normalizeConstraints c _).mp
    · exact (mem_normalizeConstraints c _).mp
  exact ⟨h.subject, h.valid, fun c hc => h.known c (hmem c hc), fun c hc => h.holds c (hmem c hc)⟩

/-- A returned receipt says `Done` exactly when the actuator acknowledged and the observed world
closes the carrier. Then replay in that world answers `Alive`, and in no world with another
digest. -/
theorem executeWith_done_iff {reserve : ReceiptReservation → Except String Unit}
    {finalize : DoReceipt → Except String Unit} {prepared : PreparedDo} {response : Response}
    {receipt : DoReceipt} (h : executeWith prim reserve finalize prepared response = .ok receipt) :
    (receipt.outcome = .done ↔
      ∃ token world, response.actuation = .acknowledged token ∧ response.observation = .ok world ∧
        world.Closes prim prepared.candidate.subject (obligations prepared)) ∧
    (receipt.outcome = .done → ∀ world, response.observation = .ok world →
      replay prim receipt world = .ok .alive ∧
      ∀ other, other.digest prim ≠ world.digest prim → replay prim receipt other ≠ .ok .alive) := by
  simp only [executeWith, bind_eq_ok, pure_eq_ok] at h
  obtain ⟨_, -, _, -, _, hverify, _, -, rfl⟩ := h
  have hdone : (receiptOf prim prepared response).outcome = .done ↔
      ∃ token world, response.actuation = .acknowledged token ∧ response.observation = .ok world ∧
        world.Closes prim prepared.candidate.subject (obligations prepared) := by
    simp only [receiptOf_outcome_eq_done, reconciled_iff]
  refine ⟨hdone, fun houtcome world hworld => ?_⟩
  obtain ⟨token, seen, -, hseen, hcloses⟩ := hdone.mp houtcome
  obtain rfl : seen = world := Except.ok.inj (hseen.symm.trans hworld)
  have hdigest : (receiptOf prim prepared response).observedDigest = some (seen.digest prim) := by
    show response.observation.toOption.map (·.digest prim) = _
    rw [hworld]
    rfl
  refine ⟨replay_eq_alive.mpr ⟨hverify, houtcome, hdigest, receiptOf_closes hcloses⟩, ?_⟩
  intro other hother halive
  obtain ⟨-, -, hsame, -⟩ := replay_eq_alive.mp halive
  exact hother (Option.some.inj (hsame.symm.trans hdigest))

/-! ## An acknowledged attempt -/

/-- The tests' world with other critical unknowns closes the carrier when they are apart from its
two dimensions. -/
theorem fixtureWorld_closes (h : fixturePrepare prim = .ok prepared)
    (unknown : Std.ExtTreeSet String)
    (hvalid : World.validate prim { fixtureWorld "ready" with criticalUnknown := unknown } = .ok ())
    (hstate : "service.state" ∉ unknown) (hradius : "blast.radius" ∉ unknown) :
    World.Closes prim { fixtureWorld "ready" with criticalUnknown := unknown }
      prepared.candidate.subject (obligations prepared) := by
  obtain ⟨hcandidate, hpost, hbound⟩ := fixturePrepare_fields h
  have hmem : ∀ c ∈ obligations prepared,
      c = .equals "service.state" "ready" ∨ c = .equals "blast.radius" "bounded" := by
    intro c hc
    rw [obligations, List.mem_append, hpost, hbound, mem_normalizeConstraints,
      mem_normalizeConstraints] at hc
    simp only [fixtureGrant, List.mem_cons, List.not_mem_nil, or_false] at hc
    tauto
  refine ⟨by rw [hcandidate]; rfl, hvalid, fun c hc => ?_, fun c hc => ?_⟩
  · rcases hmem c hc with rfl | rfl
    · exact hstate
    · exact hradius
  · rcases hmem c hc with rfl | rfl
    · show constraintsHold [.equals "service.state" "ready"] (fixtureWorld "ready").dimensions =
        true
      decide +kernel
    · show constraintsHold [.equals "blast.radius" "bounded"] (fixtureWorld "ready").dimensions =
        true
      decide +kernel

/-- The answers of the actuator in the tests' acknowledged attempts, over a world with the given
critical unknowns. -/
def acknowledgedResponse (unknown : Std.ExtTreeSet String) : Response where
  actuation := .acknowledged "ack-replay"
  observation := .ok { fixtureWorld "ready" with criticalUnknown := unknown }

theorem acknowledgedResponse_valid (prim : Primitives) {unknown : Std.ExtTreeSet String}
    (h : unknown.toList.all (!isBlank ·) = true) :
    World.validate prim { fixtureWorld "ready" with criticalUnknown := unknown } = .ok () := by
  have hdimensions : (fixtureWorld "ready").dimensions.keys.all (!isBlank ·) = true := by
    decide +kernel
  simp only [World.validate, bind_eq_ok, forM_eq_ok, nonempty, ensure_eq_ok]
  refine ⟨(), fixtureSubject_valid prim, (), fun key hkey => ?_, by decide +kernel⟩
  rcases List.mem_append.mp hkey with hkey | hkey
  · exact List.all_eq_true.mp hdimensions key hkey
  · exact List.all_eq_true.mp h key hkey

/-- A new executor receipts the tests' acknowledged attempt. -/
theorem acknowledged_executeWith (h : prepared.verify prim = .ok ())
    (unknown : Std.ExtTreeSet String) :
    executeWith prim (fun _ => .ok ()) (fun _ => .ok ()) prepared (acknowledgedResponse unknown) =
      .ok (receiptOf prim prepared (acknowledgedResponse unknown)) := by
  simp only [executeWith, bind_eq_ok, pure_eq_ok, mapError_eq_ok]
  exact ⟨(), h, (), trivial, (), receiptOf_verify h _, (), trivial, trivial⟩

/-- The attempt of the replay test ends `Done`, and replays in the world it observed. -/
theorem acknowledged_attempt_replays :
    ∃ prepared receipt, fixturePrepare samplePrimitives = .ok prepared ∧
      executeWith samplePrimitives (fun _ => .ok ()) (fun _ => .ok ()) prepared
        (acknowledgedResponse ∅) = .ok receipt ∧
      receipt.outcome = .done ∧
      replay samplePrimitives receipt (fixtureWorld "ready") = .ok .alive := by
  obtain ⟨prepared, hprepared, hverify⟩ := fixturePrepare_ok samplePrimitives
  have hcloses := fixtureWorld_closes hprepared ∅
    (acknowledgedResponse_valid samplePrimitives (by decide +kernel)) (by simp) (by simp)
  have hreceipt := acknowledged_executeWith hverify ∅
  obtain ⟨hiff, hreplay⟩ := executeWith_done_iff hreceipt
  have hdone := hiff.mpr ⟨_, _, rfl, rfl, hcloses⟩
  exact ⟨prepared, _, hprepared, hreceipt, hdone, (hreplay hdone _ rfl).1⟩

/-- An attempt ends `Done`, and replays, in a world with a critical unknown that no constraint of
the carrier is about. -/
theorem done_with_critical_unknown :
    ∃ prepared world receipt, fixturePrepare samplePrimitives = .ok prepared ∧
      (acknowledgedResponse (Std.ExtTreeSet.insert ∅ "weather")).observation = .ok world ∧
      executeWith samplePrimitives (fun _ => .ok ()) (fun _ => .ok ()) prepared
        (acknowledgedResponse (Std.ExtTreeSet.insert ∅ "weather")) = .ok receipt ∧
      receipt.outcome = .done ∧ "weather" ∈ world.criticalUnknown := by
  obtain ⟨prepared, hprepared, hverify⟩ := fixturePrepare_ok samplePrimitives
  have hcloses := fixtureWorld_closes hprepared (Std.ExtTreeSet.insert ∅ "weather")
    (acknowledgedResponse_valid samplePrimitives (by decide +kernel)) (by decide +kernel)
    (by decide +kernel)
  have hdone : (receiptOf samplePrimitives prepared
      (acknowledgedResponse (Std.ExtTreeSet.insert ∅ "weather"))).outcome = .done :=
    receiptOf_outcome_eq_done.mpr ⟨_, _, rfl, rfl, reconciled_iff.mpr hcloses⟩
  exact ⟨prepared, _, _, hprepared, rfl, acknowledged_executeWith hverify _, hdone,
    Std.ExtTreeSet.mem_insert_self⟩

end Executor

end ChatmanEcosystem.Hditc
