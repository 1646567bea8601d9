import ChatmanEcosystem.Gall.WasmRuntime

/-!
# What a skill submits

`interpret` (`crates/gall/src/lib.rs`, lines 984–1078) with the submissions to the
broker on record. A skill has one input and one host function, so its operand
stack holds copies of the input and nothing else.

Results:

* `recordedLoop_snd`: the record does not change what the loop returns.
* `run_recordedLoop`: it holds the calls that bring the broker to where it ends.
* `recordedLoop_echoes`: what a run that returns a value has submitted.
* `interpret_echoes_iff`: the value is the input, every submission is the action of
  the execution, and their receipts replay exactly if the broker's count did not wrap.
-/

namespace ChatmanEcosystem.Gall

open Common Rust Reader

/-! ## The loop on record -/

/-- An action that was submitted without a token, and what the broker returned. -/
structure Submission where
  action : Action
  outcome : BrokerOutcome

section Recorded

variable (sha256Hex : List UInt8 → String) (overflowChecks : Bool) (imports : ℕ) (input : Int32)
  (policy : Policy) (action : Action)

/-- The loop of `interpret` with its submissions. -/
def recordedLoop : ℕ → Reader → List Int32 → Option BrokerOutcome → Broker →
    List Submission × Option (Interpreted × Broker)
  | 0, _, _, brokerOutcome, broker => ([], some (.error ⟨.fuelExceeded, brokerOutcome⟩, broker))
  | remainingFuel + 1, reader, stack, brokerOutcome, broker =>
    match nextInstruction reader with
    | (.truncated, _) => ([], some (.error ⟨.malformedWasm, none⟩, broker))
    | (.unknown, _) => ([], some (.error ⟨.unsupportedWasm, brokerOutcome⟩, broker))
    | (.localGet index, rest) =>
      if index ≠ 0 then ([], some (.error ⟨.unsupportedWasm, brokerOutcome⟩, broker))
      else recordedLoop remainingFuel rest (input :: stack) brokerOutcome broker
    | (.call index, rest) =>
      if index ≠ 0 ∨ imports ≠ 1 then ([], some (.error ⟨.unsupportedWasm, brokerOutcome⟩, broker))
      else
        match stack with
        | [] => ([], some (.error ⟨.malformedWasm, brokerOutcome⟩, broker))
        | argument :: stack =>
          let callAction := { action with arguments := [i32Text argument] }
          match broker.submit sha256Hex overflowChecks policy callAction none with
          | none => ([], none)
          | some (outcome, broker) =>
            let (later, returned) :=
              match outcome.result with
              | .ok (.number value) =>
                recordedLoop remainingFuel rest (value :: stack) (some outcome) broker
              | .ok (.text _) => ([], some (.error ⟨.unsupportedWasm, some outcome⟩, broker))
              | .error refusal => ([], some (.error ⟨refusal, some outcome⟩, broker))
            ({ action := callAction, outcome } :: later, returned)
    | (.finish last, _) =>
      if last = true then ([], some (finished stack brokerOutcome, broker))
      else ([], some (.error ⟨.malformedWasm, brokerOutcome⟩, broker))

/-- The record does not change what the loop returns. -/
theorem recordedLoop_snd (fuel : ℕ) (reader : Reader) (stack : List Int32)
    (brokerOutcome : Option BrokerOutcome) (broker : Broker) :
    (recordedLoop sha256Hex overflowChecks imports input policy action fuel reader stack
      brokerOutcome broker).2 =
      interpretLoop sha256Hex overflowChecks imports input policy action fuel reader stack
        brokerOutcome broker := by
  induction fuel generalizing reader stack brokerOutcome broker with
  | zero => rfl
  | succ fuel ih =>
    rw [interpretLoop_succ]
    unfold recordedLoop
    obtain ⟨instruction, rest⟩ := nextInstruction reader
    cases instruction with
    | truncated => rfl
    | unknown => rfl
    | localGet index =>
      dsimp only
      split_ifs with hindex
      · rfl
      · exact ih rest (input :: stack) brokerOutcome broker
    | call index =>
      dsimp only
      split_ifs with hindex
      · rfl
      · unfold callHost
        cases stack with
        | nil => rfl
        | cons argument stack =>
          dsimp only
          cases hsubmit : broker.submit sha256Hex overflowChecks policy
              { action with arguments := [i32Text argument] } none with
          | none => rfl
          | some returned =>
            obtain ⟨outcome, after⟩ := returned
            dsimp only
            cases outcome.result with
            | error refusal => rfl
            | ok consequence =>
              cases consequence with
              | text value => rfl
              | number value => exact ih rest (value :: stack) (some outcome) after
    | finish last =>
      dsimp only
      split_ifs with hlast
      · rfl
      · rfl

end Recorded

section Returned

variable {sha256Hex : List UInt8 → String} {overflowChecks : Bool} {imports : ℕ} {input : Int32}
  {policy : Policy} {action : Action} {fuel : ℕ} {reader : Reader} {stack : List Int32}
  {brokerOutcome : Option BrokerOutcome} {broker after : Broker} {submissions : List Submission}
  {value : Int32} {outcome : BrokerOutcome}

/-- A call of the host function that the broker answers with a number. -/
structure Called (sha256Hex : List UInt8 → String) (overflowChecks : Bool) (policy : Policy)
    (action : Action) (argument : Int32) (broker next : Broker) (submission : Submission)
    (value : Int32) : Prop where
  action : submission.action = { action with arguments := [i32Text argument] }
  submitted : broker.submit sha256Hex overflowChecks policy submission.action none =
    some (submission.outcome, next)
  result : submission.outcome.result = .ok (.number value)

/-- What one turn of a loop that returns a value has done. -/
theorem recordedLoop_succ_ok
    (h : recordedLoop sha256Hex overflowChecks imports input policy action (fuel + 1) reader stack
      brokerOutcome broker = (submissions, some (.ok (value, outcome), after))) :
    (∃ rest, nextInstruction reader = (.localGet 0, rest) ∧
      recordedLoop sha256Hex overflowChecks imports input policy action fuel rest (input :: stack)
        brokerOutcome broker = (submissions, some (.ok (value, outcome), after))) ∨
    (∃ rest argument below submission later echoed next,
      nextInstruction reader = (.call 0, rest) ∧ stack = argument :: below ∧
      submissions = submission :: later ∧
      Called sha256Hex overflowChecks policy action argument broker next submission echoed ∧
      recordedLoop sha256Hex overflowChecks imports input policy action fuel rest
        (echoed :: below) (some submission.outcome) next =
          (later, some (.ok (value, outcome), after))) ∨
    (∃ rest, nextInstruction reader = (.finish true, rest) ∧ value ∈ stack ∧ submissions = [] ∧
      after = broker) := by
  unfold recordedLoop at h
  generalize nextInstruction reader = read at h ⊢
  obtain ⟨instruction, rest⟩ := read
  cases instruction with
  | truncated => simp at h
  | unknown => simp at h
  | localGet index =>
    dsimp only at h
    split_ifs at h with hindex
    · simp at h
    · rw [not_not.mp hindex]
      exact .inl ⟨rest, rfl, h⟩
  | call index =>
    dsimp only at h
    split_ifs at h with hindex
    · simp at h
    · obtain rfl : index = 0 := not_not.mp fun hne => hindex (.inl hne)
      cases stack with
      | nil => simp at h
      | cons argument below =>
        dsimp only at h
        cases hsubmit : broker.submit sha256Hex overflowChecks policy
            { action with arguments := [i32Text argument] } none with
        | none => simp [hsubmit] at h
        | some returned =>
          obtain ⟨answered, next⟩ := returned
          rw [hsubmit] at h
          dsimp only at h
          cases hresult : answered.result with
          | error refusal => simp [hresult] at h
          | ok consequence =>
            cases consequence with
            | text text => simp [hresult] at h
            | number echoed =>
              rw [hresult] at h
              dsimp only at h
              obtain ⟨hsubmissions, hreturned⟩ := Prod.mk.inj h
              exact .inr (.inl ⟨rest, argument, below, _, _, echoed, next, rfl, rfl,
                hsubmissions.symm, ⟨rfl, hsubmit, hresult⟩, Prod.ext rfl hreturned⟩)
  | finish last =>
    dsimp only at h
    split_ifs at h with hlast
    · rw [hlast]
      right
      right
      cases stack with
      | nil => simp [finished] at h
      | cons top below =>
        cases brokerOutcome with
        | none => simp [finished] at h
        | some called =>
          simp only [finished, Prod.mk.injEq, Option.some.injEq, Except.ok.injEq] at h
          obtain ⟨hsubmissions, ⟨hvalue, -⟩, hafter⟩ := h
          exact ⟨rest, rfl, hvalue ▸ List.mem_cons_self, hsubmissions.symm, hafter.symm⟩
    · simp at h

variable {next : Broker}

/-- The broker echoes the argument of a call. -/
theorem Called.echoes {argument echoed : Int32} {submission : Submission}
    (h : Called sha256Hex overflowChecks policy action argument broker next submission echoed) :
    echoed = argument := by
  have hsettle := h.submitted
  rw [Broker.submit_eq] at hsettle
  obtain ⟨sequence, -, houtcome, -⟩ :=
    (Broker.settle_eq_some sha256Hex overflowChecks).mp hsettle
  have hverdict : verdict sha256Hex policy submission.action none = .ok (.number echoed) := by
    rw [← h.result, houtcome]
  have hactuate := ((verdict_eq_ok sha256Hex).mp hverdict).2.2.2
  rw [h.action] at hactuate
  unfold Broker.actuate at hactuate
  split at hactuate
  · simp at hactuate
  · simpa [parseI32_i32Text] using hactuate.symm
  · simp at hactuate

/-- The action that a skill submits with an argument. -/
def Action.withArgument (action : Action) (argument : Int32) : Action :=
  { action with arguments := [i32Text argument] }

/-- A stack of copies of the input leads to the input, which is all that is submitted. -/
theorem recordedLoop_echoes (hstack : ∀ operand ∈ stack, operand = input)
    (h : recordedLoop sha256Hex overflowChecks imports input policy action fuel reader stack
      brokerOutcome broker = (submissions, some (.ok (value, outcome), after))) :
    value = input ∧ ∀ submission ∈ submissions, submission.action = action.withArgument input := by
  induction fuel generalizing reader stack brokerOutcome broker submissions with
  | zero => simp [recordedLoop] at h
  | succ fuel ih =>
    rcases recordedLoop_succ_ok h with ⟨rest, -, hloop⟩ |
      ⟨rest, argument, below, submission, later, echoed, next, -, hargument, hsubmissions, hcalled,
        hloop⟩ | ⟨rest, -, hvalue, hsubmissions, -⟩
    · exact ih (List.forall_mem_cons.mpr ⟨rfl, hstack⟩) hloop
    · rw [hargument, List.forall_mem_cons] at hstack
      obtain ⟨hargument, hbelow⟩ := hstack
      have hechoed : echoed = input := hcalled.echoes.trans hargument
      obtain ⟨hvalue, hlater⟩ := ih (List.forall_mem_cons.mpr ⟨hechoed, hbelow⟩) hloop
      refine ⟨hvalue, ?_⟩
      rw [hsubmissions, List.forall_mem_cons]
      refine ⟨?_, hlater⟩
      rw [hcalled.action, hargument]
      rfl
    · rw [hsubmissions]
      exact ⟨hstack value hvalue, List.forall_mem_nil _⟩

/-- There is one submission for each call in the code. -/
theorem length_recordedLoop
    (h : recordedLoop sha256Hex overflowChecks imports input policy action fuel reader stack
      brokerOutcome broker = (submissions, some (.ok (value, outcome), after))) :
    submissions.length = (straight fuel reader).1.count (.call 0) := by
  induction fuel generalizing reader stack brokerOutcome broker submissions with
  | zero => simp [recordedLoop] at h
  | succ fuel ih =>
    rcases recordedLoop_succ_ok h with ⟨rest, hnext, hloop⟩ |
      ⟨rest, argument, below, submission, later, echoed, next, hnext, -, hsubmissions, -, hloop⟩ |
      ⟨rest, hnext, -, hsubmissions, -⟩
    · rw [straight_of_step fuel hnext (.inl rfl), ih hloop]
      simp
    · rw [straight_of_step fuel hnext (.inr rfl), hsubmissions, List.length_cons, ih hloop]
      simp
    · rw [straight_of_stop hnext (by simp), hsubmissions]
      simp

/-- The submissions are the calls that bring the broker to where it ends. -/
theorem run_recordedLoop (journal : List (BrokerCall × BrokerOutcome))
    (h : recordedLoop sha256Hex overflowChecks imports input policy action fuel reader stack
      brokerOutcome broker = (submissions, some (.ok (value, outcome), after))) :
    run (Session.next sha256Hex overflowChecks) ⟨broker, journal⟩
        (submissions.map fun submission => .submit policy submission.action none) =
      ⟨after, journal ++ submissions.map fun submission =>
        (.submit policy submission.action none, submission.outcome)⟩ := by
  induction fuel generalizing reader stack brokerOutcome broker submissions journal with
  | zero => simp [recordedLoop] at h
  | succ fuel ih =>
    rcases recordedLoop_succ_ok h with ⟨rest, -, hloop⟩ |
      ⟨rest, argument, below, submission, later, echoed, next, -, -, hsubmissions, hcalled,
        hloop⟩ | ⟨rest, -, -, hsubmissions, hafter⟩
    · exact ih journal hloop
    · have hnext : Session.next sha256Hex overflowChecks ⟨broker, journal⟩
          (.submit policy submission.action none) =
          ⟨next, journal ++ [(.submit policy submission.action none, submission.outcome)]⟩ := by
        have hcall : broker.call sha256Hex overflowChecks (.submit policy submission.action none) =
            some (submission.outcome, next) := hcalled.submitted
        unfold Session.next
        rw [hcall]
      rw [hsubmissions, List.map_cons, run_cons, hnext, ih _ hloop, List.map_cons,
        List.append_assoc, List.singleton_append]
    · rw [hsubmissions, hafter]
      simp

/-! ## The broker's count -/

/-- So many calls do not wrap the count of the broker. -/
def Countable (overflowChecks : Bool) (broker : Broker) (calls : ℕ) : Prop :=
  overflowChecks = true ∨ broker.sequence.toNat + calls < 2 ^ 64

theorem increment_of_not_checks {a : UInt64} (h : ¬ overflowChecks = true) :
    increment overflowChecks a = some (a + 1) := by
  rw [Bool.eq_false_of_not_eq_true h]
  exact increment_unchecked a

/-- A replay counts from the number before the receipt's, so it never ends at 0. -/
theorem Broker.sequence_ne_zero_of_replay {receipt : Receipt} {action : Action}
    (h : Broker.replay sha256Hex overflowChecks receipt policy action = some true) :
    receipt.sequence ≠ 0 := by
  intro hzero
  unfold Broker.replay at h
  split_ifs at h with hhashes
  · exact absurd (Option.some.inj h) Bool.false_ne_true
  obtain ⟨⟨answered, next⟩, hsubmit, hreceipt⟩ := Option.map_eq_some_iff.mp h
  rw [Broker.submit_eq] at hsubmit
  obtain ⟨sequence, hincrement, hanswered, -⟩ :=
    (Broker.settle_eq_some sha256Hex overflowChecks).mp hsubmit
  have hsequence : sequence = 0 := by
    rw [← hzero, ← of_decide_eq_true hreceipt, hanswered]
    rfl
  have hseed : (replaySeed receipt).sequence = 0 := by
    unfold replaySeed
    rw [hzero]
    rfl
  have hcount : sequence.toNat = (replaySeed receipt).sequence.toNat + 1 :=
    toNat_of_increment (.inr (by rw [hseed]; decide)) hincrement
  rw [hsequence] at hcount
  exact absurd hcount.symm (Nat.succ_ne_zero _)

variable {answered : BrokerOutcome}

/-- The receipt of a submission replays exactly if its number did not wrap. -/
theorem Broker.replay_submit_iff {action : Action}
    (h : broker.submit sha256Hex overflowChecks policy action none = some (answered, next)) :
    Broker.replay sha256Hex overflowChecks answered.receipt policy action = some true ↔
      Countable overflowChecks broker 1 := by
  rw [Broker.submit_eq] at h
  obtain ⟨sequence, hincrement, hanswered, -⟩ :=
    (Broker.settle_eq_some sha256Hex overflowChecks).mp h
  have hsequence : answered.receipt.sequence = sequence := by
    rw [hanswered]
    rfl
  constructor
  · intro hreplay
    by_contra hwraps
    obtain ⟨hchecks, hfull⟩ := not_or.mp hwraps
    have hlt := broker.sequence.toNat_lt
    have hwrapped : broker.sequence + 1 = sequence :=
      Option.some.inj ((increment_of_not_checks hchecks).symm.trans hincrement)
    refine Broker.sequence_ne_zero_of_replay hreplay ?_
    rw [hsequence, ← hwrapped, ← UInt64.toNat_inj, UInt64.toNat_add, UInt64.toNat_one]
    show (broker.sequence.toNat + 1) % 2 ^ 64 = 0
    omega
  · intro hfits
    refine Broker.replay_settle sha256Hex overflowChecks h ?_
    rw [hsequence]
    exact toNat_of_increment hfits hincrement

/-- The calls after the first are counted from where it leaves the broker. -/
theorem countable_succ {action : Action} (calls : ℕ)
    (h : broker.submit sha256Hex overflowChecks policy action none = some (answered, next)) :
    Countable overflowChecks broker (calls + 1) ↔
      Countable overflowChecks broker 1 ∧ Countable overflowChecks next calls := by
  rw [Broker.submit_eq] at h
  obtain ⟨sequence, hincrement, -, hnext⟩ :=
    (Broker.settle_eq_some sha256Hex overflowChecks).mp h
  unfold Countable
  rw [hnext]
  by_cases hfits : overflowChecks = true ∨ broker.sequence.toNat + 1 < 2 ^ 64
  · have hcount : sequence.toNat = broker.sequence.toNat + 1 := toNat_of_increment hfits hincrement
    rw [hcount]
    cases overflowChecks with
    | true => simp
    | false =>
      simp only [Bool.false_eq_true, false_or] at hfits ⊢
      omega
  · have hchecks : ¬ overflowChecks = true := fun hchecks => hfits (.inl hchecks)
    simp only [hchecks, Bool.false_eq_true, false_or] at hfits ⊢
    omega

/-- The receipts of a loop replay exactly if no number wrapped. -/
theorem recordedLoop_replay_iff
    (h : recordedLoop sha256Hex overflowChecks imports input policy action fuel reader stack
      brokerOutcome broker = (submissions, some (.ok (value, outcome), after))) :
    (∀ submission ∈ submissions, Broker.replay sha256Hex overflowChecks submission.outcome.receipt
      policy submission.action = some true) ↔
      Countable overflowChecks broker submissions.length := by
  induction fuel generalizing reader stack brokerOutcome broker submissions with
  | zero => simp [recordedLoop] at h
  | succ fuel ih =>
    rcases recordedLoop_succ_ok h with ⟨rest, -, hloop⟩ |
      ⟨rest, argument, below, submission, later, echoed, next, -, -, hsubmissions, hcalled,
        hloop⟩ | ⟨rest, -, -, hsubmissions, -⟩
    · exact ih hloop
    · rw [hsubmissions, List.forall_mem_cons, Broker.replay_submit_iff hcalled.submitted,
        ih hloop, List.length_cons, countable_succ later.length hcalled.submitted]
    · have hlt := broker.sequence.toNat_lt
      rw [hsubmissions]
      exact iff_of_true (List.forall_mem_nil _) (.inr hlt)

end Returned

/-! ## Executions -/

/-- The action of an execution (lines 807–813). -/
def SkillManifest.actuation (manifest : SkillManifest) (input : Int32) (nonce : UInt64) : Action :=
  { subject := manifest.subject, capability := "wasm.actuate", arguments := [i32Text input],
    workingDirectory := "/skill", nonce }

section Execution

variable (sha256Hex : List UInt8 → String) (overflowChecks : Bool)

/-- What `execute` hands to the interpreter. -/
theorem execute_of_parsed {broker : Broker} {policy : Policy} {module : List UInt8}
    {manifest : SkillManifest} {parsed : ParsedModule} (input : Int32) (nonce : UInt64)
    (hdigest : sha256Hex module = manifest.moduleDigest)
    (hparse : ParsedModule.parse module = .ok parsed)
    (hchecks : checkImports manifest parsed.imports = .ok ()) :
    execute sha256Hex overflowChecks broker policy module manifest input nonce =
      skillOutcome sha256Hex overflowChecks policy (manifest.actuation input nonce)
        (parsed.interpret sha256Hex overflowChecks input manifest.fuel broker policy
          (manifest.actuation input nonce)) := by
  unfold execute
  simp only [hdigest, hparse, hchecks, ne_eq, not_true_eq_false, if_false]
  rfl

/-- What `interpret` submits to the broker. -/
def ParsedModule.submissions (parsed : ParsedModule) (input : Int32) (fuel : UInt64)
    (broker : Broker) (policy : Policy) (action : Action) : List Submission :=
  match readLebU32 parsed.runBody with
  | .error _ => []
  | .ok (_, code) =>
    (recordedLoop sha256Hex overflowChecks parsed.imports.length input policy action fuel.toNat code
      [] none broker).1

/-- The calls of the host function that a body comes to. -/
def ParsedModule.hostCalls (parsed : ParsedModule) (fuel : UInt64) : ℕ :=
  match readLebU32 parsed.runBody with
  | .error _ => 0
  | .ok (_, code) => (straight fuel.toNat code).1.count (.call 0)

variable {sha256Hex overflowChecks} {parsed : ParsedModule} {input value : Int32} {fuel : UInt64}
  {broker after : Broker} {policy : Policy} {action : Action} {outcome : BrokerOutcome}

/-- An interpretation that returns a value is a loop with its submissions on record. -/
theorem ParsedModule.interpret_ok
    (h : parsed.interpret sha256Hex overflowChecks input fuel broker policy action =
      some (.ok (value, outcome), after)) :
    ∃ code, recordedLoop sha256Hex overflowChecks parsed.imports.length input policy action
        fuel.toNat code [] none broker =
          (parsed.submissions sha256Hex overflowChecks input fuel broker policy action,
            some (.ok (value, outcome), after)) ∧
      parsed.hostCalls fuel = (straight fuel.toNat code).1.count (.call 0) := by
  unfold interpret at h
  unfold submissions hostCalls
  cases hgroups : readLebU32 parsed.runBody with
  | error refusal => simp [hgroups] at h
  | ok read =>
    obtain ⟨localGroups, code⟩ := read
    rw [hgroups] at h
    dsimp only at h
    split_ifs at h with hzero
    · simp at h
    · rw [← recordedLoop_snd] at h
      exact ⟨code, Prod.ext rfl h, rfl⟩

/-- The submissions of an interpretation are its calls of the broker. -/
theorem ParsedModule.run_submissions (journal : List (BrokerCall × BrokerOutcome))
    (h : parsed.interpret sha256Hex overflowChecks input fuel broker policy action =
      some (.ok (value, outcome), after)) :
    run (Session.next sha256Hex overflowChecks) ⟨broker, journal⟩
        ((parsed.submissions sha256Hex overflowChecks input fuel broker policy action).map
          fun submission => .submit policy submission.action none) =
      ⟨after, journal ++
        (parsed.submissions sha256Hex overflowChecks input fuel broker policy action).map
          fun submission => (.submit policy submission.action none, submission.outcome)⟩ := by
  obtain ⟨code, hloop, -⟩ := ParsedModule.interpret_ok h
  exact run_recordedLoop journal hloop

/-- A skill returns its input and submits nothing but copies of its action with the input. -/
theorem ParsedModule.submissions_echo
    (h : parsed.interpret sha256Hex overflowChecks input fuel broker policy action =
      some (.ok (value, outcome), after)) :
    value = input ∧
      ∀ submission ∈ parsed.submissions sha256Hex overflowChecks input fuel broker policy action,
        submission.action = action.withArgument input := by
  obtain ⟨code, hloop, -⟩ := ParsedModule.interpret_ok h
  exact recordedLoop_echoes (List.forall_mem_nil _) hloop

/-- The receipts of a skill replay exactly if the broker can number its calls. -/
theorem ParsedModule.submissions_replay_iff
    (h : parsed.interpret sha256Hex overflowChecks input fuel broker policy action =
      some (.ok (value, outcome), after)) :
    (∀ submission ∈ parsed.submissions sha256Hex overflowChecks input fuel broker policy action,
      Broker.replay sha256Hex overflowChecks submission.outcome.receipt policy
        submission.action = some true) ↔
      Countable overflowChecks broker (parsed.hostCalls fuel) := by
  obtain ⟨code, hloop, hcalls⟩ := ParsedModule.interpret_ok h
  rw [hcalls, ← length_recordedLoop hloop]
  exact recordedLoop_replay_iff hloop

/-- A skill returns its input, submits nothing but the action of its execution, and the receipts
replay, exactly if the broker can number its calls. -/
theorem interpret_echoes_iff (manifest : SkillManifest) (nonce : UInt64)
    (h : parsed.interpret sha256Hex overflowChecks input fuel broker policy
      (manifest.actuation input nonce) = some (.ok (value, outcome), after)) :
    (value = input ∧
      ∀ submission ∈ parsed.submissions sha256Hex overflowChecks input fuel broker policy
          (manifest.actuation input nonce),
        submission.action = manifest.actuation input nonce ∧
        Broker.replay sha256Hex overflowChecks submission.outcome.receipt policy
          submission.action = some true) ↔
      Countable overflowChecks broker (parsed.hostCalls fuel) := by
  obtain ⟨hvalue, hactions⟩ := parsed.submissions_echo h
  rw [← parsed.submissions_replay_iff h]
  constructor
  · rintro ⟨-, hsubmitted⟩ submission hsubmission
    exact (hsubmitted submission hsubmission).2
  · intro hreplays
    exact ⟨hvalue, fun submission hsubmission =>
      ⟨hactions submission hsubmission, hreplays submission hsubmission⟩⟩

end Execution

/-! ## The skill of the crate -/

section Skill

variable (sha256Hex : List UInt8 → String)

/-- What `gall_skill_module` parses to. -/
def gallSkill : ParsedModule :=
  { imports := [{ module := "fabric", name := "actuate" }], runFunctionIndex := 1,
    runBody := [0x00, 0x20, 0x00, 0x10, 0x00, 0x0b] }

/-- A permitted skill calls its host once and returns. -/
theorem gallSkill_interpret {policy : Policy} {action : Action}
    (hcapability : action.capability = "wasm.actuate")
    (hpermits : policy.Permits action.subject "wasm.actuate") (input : Int32) (broker : Broker) :
    ∃ outcome after, gallSkill.interpret sha256Hex false input 100 broker policy action =
      some (.ok (input, outcome), after) := by
  have hcall := callHost_permitted sha256Hex false 1 input hcapability hpermits 98 [0x0b] input []
    none broker
  obtain ⟨-, hchecks, -⟩ | ⟨outcome, after, -, -, hcall⟩ := hcall
  · exact absurd hchecks (by decide)
  · refine ⟨outcome, after, ?_⟩
    have hgroups : readLebU32 gallSkill.runBody = .ok (0, [0x20, 0x00, 0x10, 0x00, 0x0b]) := rfl
    have hlocal : nextInstruction [0x20, 0x00, 0x10, 0x00, 0x0b] =
        (.localGet 0, [0x10, 0x00, 0x0b]) := by decide
    have hhost : nextInstruction [0x10, 0x00, 0x0b] = (.call 0, [0x0b]) := by decide
    have hend : nextInstruction [0x0b] = (.finish true, []) := by decide
    unfold ParsedModule.interpret
    rw [hgroups]
    dsimp only
    rw [if_neg (not_not.mpr rfl)]
    show interpretLoop sha256Hex false 1 input policy action (98 + 1 + 1) _ [] none broker = _
    rw [interpretLoop_succ, hlocal]
    dsimp only
    rw [if_neg (not_not.mpr rfl), interpretLoop_succ, hhost]
    dsimp only
    rw [if_neg (by simp), hcall, interpretLoop_succ, hend]
    rfl

/-- The policy of the crate's skill, and its manifest. -/
def gallSkillPolicy : Policy := (Policy.new "phase-3").allow "skill:echo" "wasm.actuate"

local instance equivImport : EquivBEq (String × String) := inferInstance

local instance hashImport : LawfulHashable (String × String) := inferInstance

def gallSkillManifest : SkillManifest :=
  { moduleDigest := sha256Hex gallSkillModule, subject := "skill:echo",
    allowedImports := {("fabric", "actuate")}, fuel := 100 }

theorem gallSkillPolicy_permits : gallSkillPolicy.Permits "skill:echo" "wasm.actuate" := by
  have hknown : startsWith "skill:echo" "unknown:" = false := by decide
  refine ⟨hknown, ?_, Policy.mem_permissions.mpr ?_⟩
  · simp [gallSkillPolicy, Policy.allow, Policy.new]
  · simp [gallSkillPolicy, Policy.allow, Policy.new]

/-- The skill of the crate echoes on a new broker. -/
theorem gallSkill_echoes :
    ∃ parsed outcome after, ParsedModule.parse gallSkillModule = .ok parsed ∧
      parsed.interpret (fun _ => "") false 41 100 .new gallSkillPolicy
          ((gallSkillManifest fun _ => "").actuation 41 33) = some (.ok (41, outcome), after) ∧
      ∀ submission ∈ parsed.submissions (fun _ => "") false 41 100 .new gallSkillPolicy
          ((gallSkillManifest fun _ => "").actuation 41 33),
        submission.action = (gallSkillManifest fun _ => "").actuation 41 33 ∧
        Broker.replay (fun _ => "") false submission.outcome.receipt gallSkillPolicy
          submission.action = some true := by
  have hcapability : ((gallSkillManifest fun _ => "").actuation 41 33).capability =
      "wasm.actuate" := rfl
  obtain ⟨outcome, after, hreturned⟩ :=
    gallSkill_interpret (fun _ => "") hcapability gallSkillPolicy_permits 41 .new
  have hcount : Countable false Broker.new (gallSkill.hostCalls 100) := .inr (by decide)
  exact ⟨gallSkill, outcome, after, gallSkillModule_parse, hreturned,
    ((interpret_echoes_iff _ 33 hreturned).mpr hcount).2⟩

theorem gallSkill_submissions :
    let action := (gallSkillManifest fun _ => "").actuation 41 33
    ∃ outcome after, gallSkill.interpret (fun _ => "") false 41 100 .new gallSkillPolicy action =
        some (.ok (41, outcome), after) ∧
      (run (Session.next (fun _ => "") false) .new ((gallSkill.submissions (fun _ => "") false 41
        100 .new gallSkillPolicy action).map fun submission =>
          .submit gallSkillPolicy submission.action none)).broker = after := by
  intro action
  have hcapability : action.capability = "wasm.actuate" := rfl
  obtain ⟨outcome, after, hreturned⟩ :=
    gallSkill_interpret (fun _ => "") hcapability gallSkillPolicy_permits 41 .new
  exact ⟨outcome, after, hreturned, congrArg Session.broker (gallSkill.run_submissions [] hreturned)⟩

/-- A broker that has recorded `2 ^ 64 - 1` refusals gives the receipt of the skill the number 0,
which no replay comes to, whatever the hashes are. -/
theorem skill_past_the_numbers :
    ¬ ∃ sha256Hex : List UInt8 → String, ∀ value outcome after,
      let action := (gallSkillManifest sha256Hex).actuation 41 33
      let broker := (run (Session.next sha256Hex false) .new (List.replicate (2 ^ 64 - 1)
        (.recordRefusal gallSkillPolicy action .malformedWasm))).broker
      gallSkill.interpret sha256Hex false 41 100 broker gallSkillPolicy action =
        some (.ok (value, outcome), after) →
      value = 41 ∧
        ∀ submission ∈ gallSkill.submissions sha256Hex false 41 100 broker gallSkillPolicy action,
          submission.action = action ∧
          Broker.replay sha256Hex false submission.outcome.receipt gallSkillPolicy
            submission.action = some true := by
  rintro ⟨sha256Hex, h⟩
  dsimp only at h
  generalize hcalls : List.replicate (2 ^ 64 - 1) (BrokerCall.recordRefusal gallSkillPolicy
    ((gallSkillManifest sha256Hex).actuation 41 33) .malformedWasm) = calls at h
  have hlength : calls.length = 2 ^ 64 - 1 := by rw [← hcalls, List.length_replicate]
  have hfits : Along (Session.next sha256Hex false) (Session.Fits false) .new calls :=
    Session.along_fits (.inr (by omega))
  have hkept := always_of_along Session.kept_next Session.kept_new hfits
  have hsequence := (always_iff.mp hkept calls [] (List.append_nil calls).symm).sequence
  rw [Session.length_run_unchecked, hlength] at hsequence
  have hcapability : ((gallSkillManifest sha256Hex).actuation 41 33).capability =
      "wasm.actuate" := rfl
  obtain ⟨outcome, after, hreturned⟩ := gallSkill_interpret sha256Hex hcapability
    gallSkillPolicy_permits 41 (run (Session.next sha256Hex false) .new calls).broker
  have hreplays := (h 41 outcome after hreturned).2
  have hcount := (gallSkill.submissions_replay_iff hreturned).mp fun submission hsubmission =>
    (hreplays submission hsubmission).2
  have hhost : gallSkill.hostCalls 100 = 1 := by decide
  rw [hhost] at hcount
  rcases hcount with hchecks | hroom
  · exact absurd hchecks (by decide)
  · rw [hsequence] at hroom
    have hnew : Session.new.journal.length = 0 := rfl
    omega

end Skill

end ChatmanEcosystem.Gall
