import ChatmanEcosystem.Common.Chain
import ChatmanEcosystem.Common.Run
import ChatmanEcosystem.Gall.Policy
import ChatmanEcosystem.Rust.U64

/-!
# The broker and its receipts

Model of `Consequence`, `Receipt` and `Broker` (`crates/gall/src/lib.rs`, lines
12–79 and 436–651), with the hash function `sha256_hex` as a parameter.

Every call of the broker, accepted or refused, appends one receipt: it counts
`sequence` up and hashes the hash of the receipt before. `sequence += 1` is the
one place where a call can panic, and then the broker is as before.

Results:

* `Broker.call_eq`: every call settles its verdict in the same way.
* `Broker.replay_settle`: a receipt whose number did not wrap names the broker
  that wrote it, so the replay of its call gives the receipt again.
* `Session.kept_next`: a call that does not wrap keeps the journal sound.
* `Session.always_sound_iff`: the journal of a run is sound exactly when the run
  is shorter than `2 ^ 64` calls or the build checks for overflows.
-/

namespace ChatmanEcosystem.Gall

open Common Rust

/-! ## Model -/

/-- `enum Standing` (lines 14–22). -/
inductive Standing
  | unknown
  | partialAlive
  | alive
  | blocked
  | buildBroken
  | unsupported
  | refused
  deriving DecidableEq

/-- `Display` for `Standing` (lines 24–38). -/
def Standing.text : Standing → String
  | .unknown => "UNKNOWN"
  | .partialAlive => "PARTIAL_ALIVE"
  | .alive => "ALIVE"
  | .blocked => "BLOCKED"
  | .buildBroken => "BUILD_BROKEN"
  | .unsupported => "UNSUPPORTED"
  | .refused => "REFUSED"

/-- `Display` for `Refusal` (lines 58–79). -/
def Refusal.text : Refusal → String
  | .invalidSourcePin => "INVALID_SOURCE_PIN"
  | .duplicateSource => "DUPLICATE_SOURCE"
  | .authorityMultiplicity => "AUTHORITY_MULTIPLICITY"
  | .authorityOwnerMismatch => "AUTHORITY_OWNER_MISMATCH"
  | .subjectUnknown => "SUBJECT_UNKNOWN"
  | .subjectRevoked => "SUBJECT_REVOKED"
  | .capabilityDenied => "CAPABILITY_DENIED"
  | .policyDigestMismatch => "POLICY_DIGEST_MISMATCH"
  | .actionDigestMismatch => "ACTION_DIGEST_MISMATCH"
  | .importNotDeclared => "IMPORT_NOT_DECLARED"
  | .unsupportedWasm => "UNSUPPORTED_WASM"
  | .moduleDigestMismatch => "MODULE_DIGEST_MISMATCH"
  | .fuelExceeded => "FUEL_EXCEEDED"
  | .malformedWasm => "MALFORMED_WASM"

/-- `enum Consequence` (lines 439–442). -/
inductive Consequence
  | text (value : String)
  | number (value : Int32)
  deriving DecidableEq

/-- `Consequence::canonical_bytes` (lines 445–458). -/
def Consequence.canonicalBytes : Consequence → List UInt8
  | .text value => asBytes "text:" ++ asBytes value
  | .number value => asBytes "number:" ++ beBytes 4 value.toUInt32.toNat

/-- `struct Receipt` (lines 463–472). -/
structure Receipt where
  receiptHash : String
  previousHash : String
  sequence : UInt64
  actionHash : String
  policyHash : String
  standing : Standing
  outcomeCode : String
  consequenceHash : String
  deriving DecidableEq

/-- `struct BrokerOutcome` (lines 476–479). -/
structure BrokerOutcome where
  result : Except Refusal Consequence
  receipt : Receipt

/-- `struct Broker` (lines 483–486). -/
structure Broker where
  previousHash : String
  sequence : UInt64
  deriving DecidableEq

/-- `Broker::new` (lines 496–501). -/
def Broker.new : Broker := { previousHash := "GENESIS", sequence := 0 }

/-- `Broker::replay_seed` (lines 503–508). -/
def Broker.replaySeed (receipt : Receipt) : Broker :=
  { previousHash := receipt.previousHash, sequence := saturatingSub receipt.sequence 1 }

/-- The text that `finish` and `verify_receipt` hash (lines 600–609 and 628–637). -/
def receiptText (previousHash : String) (sequence : UInt64) (actionHash policyHash : String)
    (standing : Standing) (outcomeCode consequenceHash : String) : String :=
  "|".intercalate [previousHash, sequence.toNat.repr, actionHash, policyHash, standing.text,
    outcomeCode, consequenceHash]

/-- `Broker::actuate` (lines 568–583). -/
def Broker.actuate (action : Action) : Except Refusal Consequence :=
  match action.capability with
  | "echo" => .ok (.text (action.arguments.head?.getD ""))
  | "wasm.actuate" =>
    match action.arguments.head?.bind parseI32 with
    | some value => .ok (.number value)
    | none => .error .capabilityDenied
  | _ => .error .capabilityDenied

section Hash

variable (sha256Hex : List UInt8 → String)

/-- The hash of what a call leads to (lines 596–599). -/
def consequenceHash : Except Refusal Consequence → String
  | .ok consequence => sha256Hex consequence.canonicalBytes
  | .error refusal => sha256Hex (asBytes refusal.text)

/-- `Broker::verify_receipt` (lines 627–639). -/
def Broker.verifyReceipt (receipt : Receipt) : Bool :=
  sha256Hex (asBytes (receiptText receipt.previousHash receipt.sequence receipt.actionHash
    receipt.policyHash receipt.standing receipt.outcomeCode receipt.consequenceHash)) ==
    receipt.receiptHash

variable (overflowChecks : Bool)

/-- `Broker::finish` (lines 585–624). -/
def Broker.finish (broker : Broker) (policy : Policy) (action : Action)
    (result : Except Refusal Consequence) (standing : Standing) (outcomeCode : String) :
    Option (BrokerOutcome × Broker) := do
  let sequence ← increment overflowChecks broker.sequence
  let actionHash := action.digest sha256Hex
  let policyHash := policy.digest sha256Hex
  let consequenceHash := consequenceHash sha256Hex result
  let canonical := receiptText broker.previousHash sequence actionHash policyHash standing
    outcomeCode consequenceHash
  let receiptHash := sha256Hex (asBytes canonical)
  let receipt :=
    { receiptHash, previousHash := broker.previousHash, sequence, actionHash, policyHash, standing,
      outcomeCode, consequenceHash }
  some ({ result, receipt }, { previousHash := receiptHash, sequence })

/-- `Broker::submit` (lines 511–540). -/
def Broker.submit (broker : Broker) (policy : Policy) (action : Action)
    (token : Option AdmissionToken) : Option (BrokerOutcome × Broker) :=
  let admission := match token with
    | some token => policy.validateToken sha256Hex action token
    | none => policy.admitAction sha256Hex action
  match admission with
  | .ok _ =>
    match actuate action with
    | .ok consequence =>
      broker.finish sha256Hex overflowChecks policy action (.ok consequence) .alive "ACTUATED"
    | .error refusal =>
      broker.finish sha256Hex overflowChecks policy action (.error refusal) .refused refusal.text
  | .error refusal =>
    broker.finish sha256Hex overflowChecks policy action (.error refusal) .refused refusal.text

/-- `Broker::record_refusal` (lines 543–551). -/
def Broker.recordRefusal (broker : Broker) (policy : Policy) (action : Action)
    (refusal : Refusal) : Option (BrokerOutcome × Broker) :=
  broker.finish sha256Hex overflowChecks policy action (.error refusal) .refused refusal.text

/-- `Broker::replay` (lines 643–650). -/
def Broker.replay (receipt : Receipt) (policy : Policy) (action : Action) : Option Bool :=
  if receipt.actionHash ≠ action.digest sha256Hex ∨
    receipt.policyHash ≠ policy.digest sha256Hex then
    some false
  else
    ((replaySeed receipt).submit sha256Hex overflowChecks policy action none).map fun replay =>
      decide (replay.1.receipt = receipt)

end Hash

/-- A call that extends the chain. -/
inductive BrokerCall
  | submit (policy : Policy) (action : Action) (token : Option AdmissionToken)
  | recordRefusal (policy : Policy) (action : Action) (refusal : Refusal)

/-- A broker, and the calls that returned with what they returned. -/
structure Session where
  broker : Broker
  journal : List (BrokerCall × BrokerOutcome)

/-- The session of a new broker. -/
def Session.new : Session := { broker := .new, journal := [] }

section Runs

variable (sha256Hex : List UInt8 → String) (overflowChecks : Bool)

def Broker.call (broker : Broker) : BrokerCall → Option (BrokerOutcome × Broker)
  | .submit policy action token => broker.submit sha256Hex overflowChecks policy action token
  | .recordRefusal policy action refusal =>
    broker.recordRefusal sha256Hex overflowChecks policy action refusal

/-- One call; a panic leaves the broker as it is. -/
def Session.next (session : Session) (call : BrokerCall) : Session :=
  match session.broker.call sha256Hex overflowChecks call with
  | some (outcome, broker) => { broker, journal := session.journal ++ [(call, outcome)] }
  | none => session

/-- What the receipts of a run promise. -/
structure SoundJournal (journal : List (BrokerCall × BrokerOutcome)) : Prop where
  numbered : journal.map (fun entry => entry.2.receipt.sequence.toNat) =
    List.range' 1 journal.length
  linked : Linked Receipt.receiptHash Receipt.previousHash "GENESIS" (journal.map (·.2.receipt))
  verified : ∀ entry ∈ journal, Broker.verifyReceipt sha256Hex entry.2.receipt = true
  alive : ∀ entry ∈ journal,
    entry.2.receipt.standing = .alive ↔ ∃ consequence, entry.2.result = .ok consequence
  replayed : ∀ policy action outcome, (.submit policy action none, outcome) ∈ journal →
    Broker.replay sha256Hex overflowChecks outcome.receipt policy action = some true

/-- The receipts of the calls so far are as promised. -/
def Session.Sound (session : Session) : Prop :=
  SoundJournal sha256Hex overflowChecks session.journal

end Runs

/-! ## One call -/

/-- The standing that goes with a verdict. -/
def standingOf : Except Refusal Consequence → Standing
  | .ok _ => .alive
  | .error _ => .refused

/-- The outcome code that goes with a verdict. -/
def codeOf : Except Refusal Consequence → String
  | .ok _ => "ACTUATED"
  | .error refusal => refusal.text

theorem standingOf_eq_alive {result : Except Refusal Consequence} :
    standingOf result = .alive ↔ ∃ consequence, result = .ok consequence := by
  cases result with
  | ok consequence => simp [standingOf]
  | error refusal => simp [standingOf]

section Calls

variable (sha256Hex : List UInt8 → String)

/-- What a policy and the kernel say to an action. -/
def verdict (policy : Policy) (action : Action) (token : Option AdmissionToken) :
    Except Refusal Consequence :=
  (token.elim (policy.admitAction sha256Hex action) (policy.validateToken sha256Hex action)).bind
    fun _ => Broker.actuate action

/-- An untokened action is actuated if the policy permits it and the kernel knows it. -/
theorem verdict_eq_ok {policy : Policy} {action : Action} {consequence : Consequence} :
    verdict sha256Hex policy action none = .ok consequence ↔
      startsWith action.subject "unknown:" = false ∧ action.subject ∉ policy.revoked ∧
      (action.subject, action.capability) ∈ policy.permissions ∧
      Broker.actuate action = .ok consequence := by
  rw [Policy.mem_permissions]
  unfold verdict Policy.admitAction
  simp only [Option.elim_none]
  by_cases hunknown : startsWith action.subject "unknown:" = true
  · simp [hunknown, Except.bind]
  by_cases hrevoked : action.subject ∈ policy.revoked
  · simp [hunknown, hrevoked, Except.bind]
  by_cases hallowed : (policy.allowed[action.subject]?).any (·.contains action.capability) = true
  · simp [hunknown, hrevoked, hallowed, Except.bind]
  · simp [hunknown, hrevoked, hallowed, Except.bind]

namespace BrokerCall

def policy : BrokerCall → Policy
  | .submit policy _ _ => policy
  | .recordRefusal policy _ _ => policy

def action : BrokerCall → Action
  | .submit _ action _ => action
  | .recordRefusal _ action _ => action

/-- What a call returns. -/
def result : BrokerCall → Except Refusal Consequence
  | .submit policy action token => verdict sha256Hex policy action token
  | .recordRefusal _ _ refusal => .error refusal

end BrokerCall

variable (overflowChecks : Bool)

/-- A verdict is receipted with its own standing and code. -/
def Broker.settle (broker : Broker) (policy : Policy) (action : Action)
    (result : Except Refusal Consequence) : Option (BrokerOutcome × Broker) :=
  broker.finish sha256Hex overflowChecks policy action result (standingOf result) (codeOf result)

theorem Broker.submit_eq (broker : Broker) (policy : Policy) (action : Action)
    (token : Option AdmissionToken) :
    broker.submit sha256Hex overflowChecks policy action token =
      broker.settle sha256Hex overflowChecks policy action
        (verdict sha256Hex policy action token) := by
  have hadmission : (match token with
      | some token => policy.validateToken sha256Hex action token
      | none => policy.admitAction sha256Hex action) =
      token.elim (policy.admitAction sha256Hex action) (policy.validateToken sha256Hex action) := by
    cases token <;> rfl
  unfold submit settle verdict
  simp only [hadmission]
  cases token.elim (policy.admitAction sha256Hex action)
      (policy.validateToken sha256Hex action) with
  | error refusal => rfl
  | ok accepted =>
    show (match actuate action with
      | .ok consequence => _
      | .error refusal => _) = _
    cases actuate action with
    | ok consequence => simp [Except.bind, standingOf, codeOf]
    | error refusal => simp [Except.bind, standingOf, codeOf]

/-- Every call settles its result. -/
theorem Broker.call_eq (broker : Broker) (call : BrokerCall) :
    broker.call sha256Hex overflowChecks call =
      broker.settle sha256Hex overflowChecks call.policy call.action (call.result sha256Hex) := by
  cases call with
  | submit policy action token =>
    exact broker.submit_eq sha256Hex overflowChecks policy action token
  | recordRefusal policy action refusal => rfl

/-- The receipt of a verdict. -/
def receiptOf (previousHash : String) (sequence : UInt64) (policy : Policy) (action : Action)
    (result : Except Refusal Consequence) : Receipt where
  receiptHash := sha256Hex (asBytes (receiptText previousHash sequence (action.digest sha256Hex)
    (policy.digest sha256Hex) (standingOf result) (codeOf result)
    (consequenceHash sha256Hex result)))
  previousHash := previousHash
  sequence := sequence
  actionHash := action.digest sha256Hex
  policyHash := policy.digest sha256Hex
  standing := standingOf result
  outcomeCode := codeOf result
  consequenceHash := consequenceHash sha256Hex result

/-- What a broker that settles a verdict returns, and what it becomes. -/
theorem Broker.settle_eq_some {broker after : Broker} {policy : Policy} {action : Action}
    {result : Except Refusal Consequence} {outcome : BrokerOutcome} :
    broker.settle sha256Hex overflowChecks policy action result = some (outcome, after) ↔
      ∃ sequence, increment overflowChecks broker.sequence = some sequence ∧
        outcome = ⟨result, receiptOf sha256Hex broker.previousHash sequence policy action result⟩ ∧
        after = ⟨outcome.receipt.receiptHash, sequence⟩ := by
  unfold settle finish
  rw [Option.bind_eq_bind, Option.bind_eq_some_iff]
  refine exists_congr fun sequence => and_congr_right fun _ => ?_
  rw [Option.some.injEq, Prod.mk.injEq]
  constructor
  · rintro ⟨houtcome, hafter⟩
    rw [← houtcome, ← hafter]
    exact ⟨rfl, rfl⟩
  · rintro ⟨houtcome, hafter⟩
    rw [hafter, houtcome]
    exact ⟨rfl, rfl⟩

theorem Broker.settle_eq_none {broker : Broker} {policy : Policy} {action : Action}
    {result : Except Refusal Consequence} :
    broker.settle sha256Hex overflowChecks policy action result = none ↔
      increment overflowChecks broker.sequence = none := by
  unfold settle finish
  rw [Option.bind_eq_bind, Option.bind_eq_none_iff]
  constructor
  · intro h
    cases hsequence : increment overflowChecks broker.sequence with
    | none => rfl
    | some sequence => exact absurd (h sequence hsequence) (Option.some_ne_none _)
  · intro h sequence hsequence
    rw [h] at hsequence
    exact absurd hsequence.symm (Option.some_ne_none _)

/-- Without overflow checks every verdict is settled. -/
theorem Broker.exists_settle_unchecked (broker : Broker) (policy : Policy) (action : Action)
    (result : Except Refusal Consequence) :
    ∃ returned, broker.settle sha256Hex false policy action result = some returned :=
  ⟨_, (settle_eq_some sha256Hex false).mpr ⟨_, increment_unchecked broker.sequence, rfl, rfl⟩⟩

theorem Broker.verifyReceipt_receiptOf (previousHash : String) (sequence : UInt64)
    (policy : Policy) (action : Action) (result : Except Refusal Consequence) :
    Broker.verifyReceipt sha256Hex
      (receiptOf sha256Hex previousHash sequence policy action result) = true :=
  beq_self_eq_true _

/-- A receipt whose number did not wrap names the broker that wrote it. -/
theorem Broker.replaySeed_receiptOf {broker : Broker} {sequence : UInt64} {policy : Policy}
    {action : Action} {result : Except Refusal Consequence}
    (hsequence : sequence.toNat = broker.sequence.toNat + 1) :
    replaySeed (receiptOf sha256Hex broker.previousHash sequence policy action result) =
      broker := by
  have hseed : saturatingSub sequence 1 = broker.sequence := by
    rw [← UInt64.toNat_inj, toNat_saturatingSub, hsequence]
    rfl
  unfold replaySeed receiptOf
  rw [hseed]

/-- The replay of a submission that did not wrap gives its receipt again. -/
theorem Broker.replay_settle {broker after : Broker} {policy : Policy} {action : Action}
    {outcome : BrokerOutcome}
    (h : broker.settle sha256Hex overflowChecks policy action
      (verdict sha256Hex policy action none) = some (outcome, after))
    (hsequence : outcome.receipt.sequence.toNat = broker.sequence.toNat + 1) :
    Broker.replay sha256Hex overflowChecks outcome.receipt policy action = some true := by
  obtain ⟨sequence, -, houtcome, -⟩ := (settle_eq_some sha256Hex overflowChecks).mp h
  have hreceipt : outcome.receipt = receiptOf sha256Hex broker.previousHash sequence policy action
      (verdict sha256Hex policy action none) := by rw [houtcome]
  have hseed : replaySeed outcome.receipt = broker := by
    rw [hreceipt] at hsequence ⊢
    exact replaySeed_receiptOf sha256Hex hsequence
  have haction : outcome.receipt.actionHash = action.digest sha256Hex := by rw [hreceipt]; rfl
  have hpolicy : outcome.receipt.policyHash = policy.digest sha256Hex := by rw [hreceipt]; rfl
  unfold replay
  rw [if_neg (by simp [haction, hpolicy]), hseed, submit_eq, h]
  simp

end Calls

/-! ## Runs -/

section Runs

variable {sha256Hex : List UInt8 → String} {overflowChecks : Bool}

namespace Session

/-- The journal is sound, and the broker is where it ends. -/
structure Kept (sha256Hex : List UInt8 → String) (overflowChecks : Bool) (session : Session) :
    Prop where
  sound : SoundJournal sha256Hex overflowChecks session.journal
  sequence : session.broker.sequence.toNat = session.journal.length
  previousHash : session.broker.previousHash =
    tip Receipt.receiptHash "GENESIS" (session.journal.map (·.2.receipt))

theorem soundJournal_nil : SoundJournal sha256Hex overflowChecks [] where
  numbered := rfl
  linked := trivial
  verified _ hentry := absurd hentry List.not_mem_nil
  alive _ hentry := absurd hentry List.not_mem_nil
  replayed _ _ _ hentry := absurd hentry List.not_mem_nil

theorem kept_new : Session.new.Kept sha256Hex overflowChecks where
  sound := soundJournal_nil
  sequence := rfl
  previousHash := rfl

/-- What a call that does not wrap appends. -/
theorem Kept.soundJournal_concat {session : Session} {after : Broker} {call : BrokerCall}
    {outcome : BrokerOutcome} (h : session.Kept sha256Hex overflowChecks)
    (hcall : session.broker.settle sha256Hex overflowChecks call.policy call.action
      (call.result sha256Hex) = some (outcome, after))
    (hcount : outcome.receipt.sequence.toNat = session.broker.sequence.toNat + 1) :
    SoundJournal sha256Hex overflowChecks (session.journal ++ [(call, outcome)]) := by
  obtain ⟨sequence, -, houtcome, -⟩ := (Broker.settle_eq_some sha256Hex overflowChecks).mp hcall
  have hresult : outcome.result = call.result sha256Hex := by rw [houtcome]
  have hreceipt : outcome.receipt = receiptOf sha256Hex session.broker.previousHash sequence
      call.policy call.action (call.result sha256Hex) := by rw [houtcome]
  constructor
  · rw [List.map_append, List.map_singleton, h.sound.numbered, List.length_append,
      List.length_singleton, List.range'_concat, hcount, h.sequence, Nat.one_mul, Nat.add_comm 1]
  · have hprevious : outcome.receipt.previousHash = session.broker.previousHash := by
      rw [hreceipt]
      rfl
    rw [List.map_append, List.map_singleton, linked_concat, ← h.previousHash]
    exact ⟨h.sound.linked, hprevious⟩
  · intro entry hentry
    rcases List.mem_append.mp hentry with hentry | hentry
    · exact h.sound.verified entry hentry
    · rw [List.mem_singleton.mp hentry, hreceipt]
      exact Broker.verifyReceipt_receiptOf sha256Hex _ _ _ _ _
  · intro entry hentry
    rcases List.mem_append.mp hentry with hentry | hentry
    · exact h.sound.alive entry hentry
    · rw [List.mem_singleton.mp hentry, hreceipt, hresult]
      exact standingOf_eq_alive
  · intro policy action earlier hentry
    rcases List.mem_append.mp hentry with hentry | hentry
    · exact h.sound.replayed policy action earlier hentry
    · obtain ⟨hsubmitted, hearlier⟩ := Prod.mk.inj (List.mem_singleton.mp hentry)
      rw [← hsubmitted] at hcall
      rw [hearlier]
      exact Broker.replay_settle sha256Hex overflowChecks hcall hcount

/-- The next call does not wrap. -/
def Fits (overflowChecks : Bool) (session : Session) (_ : BrokerCall) : Prop :=
  overflowChecks = true ∨ session.journal.length + 1 < 2 ^ 64

/-- A call that does not wrap keeps the journal sound. -/
theorem kept_next (session : Session) (call : BrokerCall)
    (h : session.Kept sha256Hex overflowChecks) (hfits : session.Fits overflowChecks call) :
    (session.next sha256Hex overflowChecks call).Kept sha256Hex overflowChecks := by
  unfold next
  rw [Broker.call_eq]
  cases hcall : session.broker.settle sha256Hex overflowChecks call.policy call.action
      (call.result sha256Hex) with
  | none => exact h
  | some returned =>
    obtain ⟨outcome, after⟩ := returned
    obtain ⟨sequence, hincrement, houtcome, hafter⟩ :=
      (Broker.settle_eq_some sha256Hex overflowChecks).mp hcall
    have hsequence : outcome.receipt.sequence = sequence := by
      rw [houtcome]
      rfl
    have hcount : sequence.toNat = session.broker.sequence.toNat + 1 := by
      unfold Fits at hfits
      rw [← h.sequence] at hfits
      exact toNat_of_increment hfits hincrement
    constructor
    · exact h.soundJournal_concat hcall (by rw [hsequence, hcount])
    · show after.sequence.toNat = (session.journal ++ [(call, outcome)]).length
      rw [hafter, hcount, h.sequence, List.length_append, List.length_singleton]
    · show after.previousHash = tip _ _ ((session.journal ++ [(call, outcome)]).map _)
      rw [List.map_append, List.map_singleton, tip_concat, hafter]

/-- A call journals at most one entry. -/
theorem length_next_le (sha256Hex : List UInt8 → String) (overflowChecks : Bool) (session : Session)
    (call : BrokerCall) :
    (session.next sha256Hex overflowChecks call).journal.length ≤ session.journal.length + 1 := by
  unfold next
  cases session.broker.call sha256Hex overflowChecks call with
  | none => exact Nat.le_succ _
  | some returned => simp

theorem length_run_le (sha256Hex : List UInt8 → String) (overflowChecks : Bool) (session : Session)
    (calls : List BrokerCall) :
    (run (next sha256Hex overflowChecks) session calls).journal.length ≤
      session.journal.length + calls.length := by
  induction calls generalizing session with
  | nil => exact le_rfl
  | cons call calls ih =>
    have hnext := length_next_le sha256Hex overflowChecks session call
    have hrun := ih (session.next sha256Hex overflowChecks call)
    rw [run_cons, List.length_cons]
    omega

/-- Without overflow checks every call returns. -/
theorem length_next_unchecked (session : Session) (call : BrokerCall) :
    (session.next sha256Hex false call).journal.length = session.journal.length + 1 := by
  obtain ⟨returned, hcall⟩ := Broker.exists_settle_unchecked sha256Hex session.broker call.policy
    call.action (call.result sha256Hex)
  unfold next
  rw [Broker.call_eq, hcall]
  exact List.length_append

theorem length_run_unchecked (session : Session) (calls : List BrokerCall) :
    (run (next sha256Hex false) session calls).journal.length =
      session.journal.length + calls.length := by
  induction calls generalizing session with
  | nil => rfl
  | cons call calls ih =>
    rw [run_cons, ih, length_next_unchecked, List.length_cons]
    omega

/-- A short run does not wrap. -/
theorem along_fits {calls : List BrokerCall}
    (hfits : overflowChecks = true ∨ calls.length < 2 ^ 64) :
    Along (next sha256Hex overflowChecks) (Fits overflowChecks) new calls := by
  refine along_iff.mpr fun earlier call later hcalls => ?_
  rcases hfits with hchecks | hshort
  · exact .inl hchecks
  · have hrun := length_run_le sha256Hex overflowChecks new earlier
    have hnew : new.journal.length = 0 := rfl
    have hlength : calls.length = earlier.length + (later.length + 1) := by
      rw [hcalls, List.length_append, List.length_cons]
    unfold Fits
    right
    omega

/-- The numbers of a sound journal are numbers of 64 bits. -/
theorem length_lt_of_sound {session : Session} (h : session.Sound sha256Hex overflowChecks) :
    session.journal.length < 2 ^ 64 := by
  by_contra hlong
  have hlast : session.journal.length ∈ List.range' 1 session.journal.length :=
    List.mem_range'_1.mpr ⟨by omega, by omega⟩
  rw [← SoundJournal.numbered h] at hlast
  obtain ⟨entry, -, hentry⟩ := List.mem_map.mp hlast
  have hlt := entry.2.receipt.sequence.toNat_lt
  omega

/-- A long run without overflow checks ends in a journal that is not sound. -/
theorem not_always_sound {calls : List BrokerCall} (hlong : 2 ^ 64 ≤ calls.length) :
    ¬ Always (next sha256Hex false) (Sound sha256Hex false) new calls := by
  intro h
  have hsound := always_iff.mp h calls [] (List.append_nil calls).symm
  have hlt := length_lt_of_sound hsound
  rw [length_run_unchecked] at hlt
  omega

/-- The receipts of a run are numbered without gap, linked, verified, Alive exactly with an `Ok`
and replayed at every point of it, exactly when `sequence` does not wrap. -/
theorem always_sound_iff (sha256Hex : List UInt8 → String) (overflowChecks : Bool)
    (calls : List BrokerCall) :
    Always (next sha256Hex overflowChecks) (Sound sha256Hex overflowChecks) new calls ↔
      overflowChecks = true ∨ calls.length < 2 ^ 64 := by
  constructor
  · intro h
    cases overflowChecks with
    | true => exact .inl rfl
    | false =>
      right
      by_contra hlong
      exact not_always_sound (by omega) h
  · intro hfits
    have hkept : Always (next sha256Hex overflowChecks) (Kept sha256Hex overflowChecks) new calls :=
      always_of_along kept_next kept_new (along_fits hfits)
    exact hkept.mono fun _ h => h.sound

/-- The refusal that is recorded as number `2 ^ 64` gets the number 0, whatever the hashes are. -/
theorem recorded_past_the_numbers :
    ¬ ∃ sha256Hex : List UInt8 → String,
      Always (next sha256Hex false) (Sound sha256Hex false) new
        (List.replicate (2 ^ 64) (.recordRefusal (.new "phase-1")
          { subject := "operator", capability := "echo", arguments := ["hello"],
            workingDirectory := "/", nonce := 1 } .malformedWasm)) := by
  rintro ⟨sha256Hex, h⟩
  exact not_always_sound List.length_replicate.ge h

end Session

end Runs

end ChatmanEcosystem.Gall
