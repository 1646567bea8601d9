import ChatmanEcosystem.Gall.Broker
import ChatmanEcosystem.Gall.WasmModule
import Std.Data.ExtHashSet

/-!
# Running a skill

Model of `SkillManifest`, `WasmRuntime::execute`, `skill_refusal` and
`ParsedModule::interpret` (`crates/gall/src/lib.rs`, lines 748–847, 855–869 and
984–1078). The code of `run` has no jumps: it is read once from its first byte,
with at most `fuel` instructions.

A failed read leaves the receipts of the calls before it aside and has a refusal
recorded. Every other failure returns the receipt of the last call.

Results:

* `interpretLoop_succ`: one turn of the loop, by the instruction that is read.
* `agrees_interpretLoop_iff`: when what the loop returns agrees with its receipt.
* `execute_agrees_iff`: the receipt of an execution is Alive exactly with an `Ok`,
  unless the code of `run` stops after an admitted call on something else than a
  truncated instruction or its last `end`.
-/

namespace ChatmanEcosystem.Gall

open Common Rust Reader

/-! ## Model -/

/-- `struct SkillManifest` (lines 750–755). -/
structure SkillManifest where
  moduleDigest : String
  subject : String
  allowedImports : Std.ExtHashSet (String × String)
  fuel : UInt64

/-- `struct SkillOutcome` (lines 759–763). -/
structure SkillOutcome where
  result : Except Refusal Int32
  receipt : Receipt
  action : Action

/-- `struct InterpretFailure` (lines 856–859). -/
structure InterpretFailure where
  refusal : Refusal
  outcome : Option BrokerOutcome

/-- What `interpret` returns. -/
abbrev Interpreted := Except InterpretFailure (Int32 × BrokerOutcome)

/-- The checks of the imports (lines 795–805). -/
def checkImports (manifest : SkillManifest) (imports : List WasmImport) : Except Refusal Unit :=
  imports.forM fun wasmImport => do
    ensure ((wasmImport.module, wasmImport.name) ∈ manifest.allowedImports) .importNotDeclared
    ensure (wasmImport.module = "fabric" ∧ wasmImport.name = "actuate") .unsupportedWasm

section Hash

variable (sha256Hex : List UInt8 → String) (overflowChecks : Bool)

/-- The loop of `interpret` (lines 1006–1077); no result is a panic of the broker. -/
def interpretLoop (imports : ℕ) (input : Int32) (policy : Policy) (action : Action) :
    ℕ → Reader → List Int32 → Option BrokerOutcome → Broker → Option (Interpreted × Broker)
  | 0, _, _, brokerOutcome, broker => some (.error ⟨.fuelExceeded, brokerOutcome⟩, broker)
  | remainingFuel + 1, reader, stack, brokerOutcome, broker =>
    match readU8 reader with
    | .error refusal => some (.error ⟨refusal, none⟩, broker)
    | .ok (opcode, reader) =>
      if opcode = 0x20 then
        match readLebU32 reader with
        | .error refusal => some (.error ⟨refusal, none⟩, broker)
        | .ok (localIndex, reader) =>
          if localIndex ≠ 0 then some (.error ⟨.unsupportedWasm, brokerOutcome⟩, broker)
          else
            interpretLoop imports input policy action remainingFuel reader (input :: stack)
              brokerOutcome broker
      else if opcode = 0x10 then
        match readLebU32 reader with
        | .error refusal => some (.error ⟨refusal, none⟩, broker)
        | .ok (functionIndex, reader) =>
          if functionIndex ≠ 0 ∨ imports ≠ 1 then
            some (.error ⟨.unsupportedWasm, brokerOutcome⟩, broker)
          else
            match stack with
            | [] => some (.error ⟨.malformedWasm, brokerOutcome⟩, broker)
            | argument :: stack =>
              let callAction := { action with arguments := [i32Text argument] }
              match broker.submit sha256Hex overflowChecks policy callAction none with
              | none => none
              | some (outcome, broker) =>
                match outcome.result with
                | .ok (.number value) =>
                  interpretLoop imports input policy action remainingFuel reader (value :: stack)
                    (some outcome) broker
                | .ok (.text _) => some (.error ⟨.unsupportedWasm, some outcome⟩, broker)
                | .error refusal => some (.error ⟨refusal, some outcome⟩, broker)
      else if opcode = 0x0b then
        if reader ≠ [] then some (.error ⟨.malformedWasm, brokerOutcome⟩, broker)
        else
          match stack, brokerOutcome with
          | [], _ => some (.error ⟨.malformedWasm, brokerOutcome⟩, broker)
          | _ :: _, none => some (.error ⟨.malformedWasm, none⟩, broker)
          | value :: _, some outcome => some (.ok (value, outcome), broker)
      else some (.error ⟨.unsupportedWasm, brokerOutcome⟩, broker)

/-- `ParsedModule::interpret` (lines 984–1078). -/
def ParsedModule.interpret (parsed : ParsedModule) (input : Int32) (fuel : UInt64)
    (broker : Broker) (policy : Policy) (action : Action) : Option (Interpreted × Broker) :=
  match readLebU32 parsed.runBody with
  | .error refusal => some (.error ⟨refusal, none⟩, broker)
  | .ok (localGroups, reader) =>
    if localGroups ≠ 0 then some (.error ⟨.unsupportedWasm, none⟩, broker)
    else
      interpretLoop sha256Hex overflowChecks parsed.imports.length input policy action fuel.toNat
        reader [] none broker

/-- `skill_refusal` (lines 835–847). -/
def skillRefusal (broker : Broker) (policy : Policy) (action : Action) (refusal : Refusal) :
    Option (SkillOutcome × Broker) :=
  (broker.recordRefusal sha256Hex overflowChecks policy action refusal).map fun (outcome, broker) =>
    ({ result := .error refusal, receipt := outcome.receipt, action }, broker)

/-- What `execute` makes of the result of `interpret` (lines 815–831). -/
def skillOutcome (policy : Policy) (action : Action) :
    Option (Interpreted × Broker) → Option (SkillOutcome × Broker)
  | none => none
  | some (.ok (value, outcome), broker) =>
    some ({ result := .ok value, receipt := outcome.receipt, action }, broker)
  | some (.error { refusal, outcome := some outcome }, broker) =>
    some ({ result := .error refusal, receipt := outcome.receipt, action }, broker)
  | some (.error { refusal, outcome := none }, broker) =>
    skillRefusal sha256Hex overflowChecks broker policy action refusal

/-- `WasmRuntime::execute` (lines 769–832). -/
def execute (broker : Broker) (policy : Policy) (module : List UInt8) (manifest : SkillManifest)
    (input : Int32) (nonce : UInt64) : Option (SkillOutcome × Broker) :=
  let loadAction : Action :=
    { subject := manifest.subject, capability := "wasm.load", arguments := [sha256Hex module],
      workingDirectory := "/skill", nonce }
  if sha256Hex module ≠ manifest.moduleDigest then
    skillRefusal sha256Hex overflowChecks broker policy loadAction .moduleDigestMismatch
  else
    match ParsedModule.parse module with
    | .error refusal => skillRefusal sha256Hex overflowChecks broker policy loadAction refusal
    | .ok parsed =>
      match checkImports manifest parsed.imports with
      | .error refusal => skillRefusal sha256Hex overflowChecks broker policy loadAction refusal
      | .ok _ =>
        let action : Action :=
          { subject := manifest.subject, capability := "wasm.actuate", arguments := [i32Text input],
            workingDirectory := "/skill", nonce }
        skillOutcome sha256Hex overflowChecks policy action
          (parsed.interpret sha256Hex overflowChecks input manifest.fuel broker policy action)

end Hash

/-! ## The code of `run` as instructions -/

/-- An instruction, or what is read instead of one. -/
inductive Instruction
  | localGet (index : UInt32)
  | call (index : UInt32)
  | finish (last : Bool)
  | unknown
  | truncated
  deriving DecidableEq

/-- The next instruction, and the bytes after it. -/
def nextInstruction (reader : Reader) : Instruction × Reader :=
  match readU8 reader with
  | .error _ => (.truncated, [])
  | .ok (opcode, reader) =>
    if opcode = 0x20 then
      match readLebU32 reader with
      | .error _ => (.truncated, [])
      | .ok (localIndex, reader) => (.localGet localIndex, reader)
    else if opcode = 0x10 then
      match readLebU32 reader with
      | .error _ => (.truncated, [])
      | .ok (functionIndex, reader) => (.call functionIndex, reader)
    else if opcode = 0x0b then (.finish (reader = []), reader)
    else (.unknown, reader)

/-- The `local.get 0` and `call 0` at the beginning of at most `fuel` instructions, and what stops
them before the fuel is spent. -/
def straight : ℕ → Reader → List Instruction × Option Instruction
  | 0, _ => ([], none)
  | fuel + 1, reader =>
    let (instruction, reader) := nextInstruction reader
    if instruction = .localGet 0 ∨ instruction = .call 0 then
      (instruction :: (straight fuel reader).1, (straight fuel reader).2)
    else ([], some instruction)

section Turns

variable (sha256Hex : List UInt8 → String) (overflowChecks : Bool) (imports : ℕ) (input : Int32)
  (policy : Policy) (action : Action)

/-- A call of the host function, and the turns after it. -/
def callHost (remainingFuel : ℕ) (reader : Reader) (stack : List Int32)
    (brokerOutcome : Option BrokerOutcome) (broker : Broker) : Option (Interpreted × Broker) :=
  match stack with
  | [] => some (.error ⟨.malformedWasm, brokerOutcome⟩, broker)
  | argument :: stack =>
    match broker.submit sha256Hex overflowChecks policy
      { action with arguments := [i32Text argument] } none with
    | none => none
    | some (outcome, broker) =>
      match outcome.result with
      | .ok (.number value) =>
        interpretLoop sha256Hex overflowChecks imports input policy action remainingFuel reader
          (value :: stack) (some outcome) broker
      | .ok (.text _) => some (.error ⟨.unsupportedWasm, some outcome⟩, broker)
      | .error refusal => some (.error ⟨refusal, some outcome⟩, broker)

/-- What the last `end` returns. -/
def finished (stack : List Int32) (brokerOutcome : Option BrokerOutcome) : Interpreted :=
  match stack, brokerOutcome with
  | [], _ => .error ⟨.malformedWasm, brokerOutcome⟩
  | _ :: _, none => .error ⟨.malformedWasm, none⟩
  | value :: _, some outcome => .ok (value, outcome)

/-- One turn of the loop, by the instruction that is read. -/
theorem interpretLoop_succ (remainingFuel : ℕ) (reader : Reader) (stack : List Int32)
    (brokerOutcome : Option BrokerOutcome) (broker : Broker) :
    interpretLoop sha256Hex overflowChecks imports input policy action (remainingFuel + 1) reader
        stack brokerOutcome broker =
      match nextInstruction reader with
      | (.truncated, _) => some (.error ⟨.malformedWasm, none⟩, broker)
      | (.unknown, _) => some (.error ⟨.unsupportedWasm, brokerOutcome⟩, broker)
      | (.localGet index, rest) =>
        if index ≠ 0 then some (.error ⟨.unsupportedWasm, brokerOutcome⟩, broker)
        else
          interpretLoop sha256Hex overflowChecks imports input policy action remainingFuel rest
            (input :: stack) brokerOutcome broker
      | (.call index, rest) =>
        if index ≠ 0 ∨ imports ≠ 1 then some (.error ⟨.unsupportedWasm, brokerOutcome⟩, broker)
        else
          callHost sha256Hex overflowChecks imports input policy action remainingFuel rest stack
            brokerOutcome broker
      | (.finish last, _) =>
        if last = true then some (finished stack brokerOutcome, broker)
        else some (.error ⟨.malformedWasm, brokerOutcome⟩, broker) := by
  rw [interpretLoop.eq_def]
  unfold nextInstruction
  cases reader with
  | nil => rfl
  | cons opcode reader =>
    simp only [readU8]
    by_cases hlocal : opcode = 0x20
    · simp only [hlocal, if_true]
      cases hindex : readLebU32 reader with
      | error refusal => rw [readLebLoop_error hindex]
      | ok read => rfl
    by_cases hcall : opcode = 0x10
    · simp only [hcall, if_true]
      cases hindex : readLebU32 reader with
      | error refusal => rw [readLebLoop_error hindex]; rfl
      | ok read => rfl
    by_cases hend : opcode = 0x0b
    · simp only [hend, if_true]
      by_cases hlast : reader = []
      · cases stack with
        | nil => simp [hlast, finished]
        | cons value stack => cases brokerOutcome <;> simp [hlast, finished]
      · simp [hlast]
    · simp [hlocal, hcall, hend]

end Turns

/-! ## Agreement of the loop with its receipt -/

/-- A policy permits a capability to a subject. -/
def Policy.Permits (policy : Policy) (subject capability : String) : Prop :=
  startsWith subject "unknown:" = false ∧ subject ∉ policy.revoked ∧
    (subject, capability) ∈ policy.permissions

/-- What is returned goes with an Alive receipt exactly if it is a value. -/
def Interpreted.Agrees : Interpreted → Prop
  | .ok (_, outcome) => outcome.receipt.standing = .alive
  | .error failure => ∀ outcome, failure.outcome = some outcome → outcome.receipt.standing ≠ .alive

/-- Whatever is returned agrees with its receipt. -/
def AlwaysAgrees (returned : Option (Interpreted × Broker)) : Prop :=
  ∀ result after, returned = some (result, after) → result.Agrees

theorem alwaysAgrees_none : AlwaysAgrees none := fun _ _ h => nomatch h

@[simp] theorem alwaysAgrees_some {result : Interpreted} {broker : Broker} :
    AlwaysAgrees (some (result, broker)) ↔ result.Agrees := by
  constructor
  · intro h
    exact h result broker rfl
  · intro h result' after hreturned
    rw [← (Prod.mk.inj (Option.some.inj hreturned)).1]
    exact h

@[simp] theorem agrees_failed {refusal : Refusal} {brokerOutcome : Option BrokerOutcome} :
    Interpreted.Agrees (.error ⟨refusal, brokerOutcome⟩) ↔
      ∀ outcome, brokerOutcome = some outcome → outcome.receipt.standing ≠ .alive := Iff.rfl

/-- A stop that is neither a truncated instruction nor the last `end`. -/
def Premature (stop : Option Instruction) : Prop :=
  stop ≠ some .truncated ∧ stop ≠ some (.finish true)

/-- The broker can number so many calls. -/
def HasRoom (overflowChecks : Bool) (broker : Broker) (calls : ℕ) : Prop :=
  overflowChecks = true → broker.sequence.toNat + calls < 2 ^ 64

theorem hasRoom_zero (overflowChecks : Bool) (broker : Broker) :
    HasRoom overflowChecks broker 0 := fun _ => broker.sequence.toNat_lt

/-- The code calls its host after a `local.get`, and stops prematurely after that. -/
def StopsAfterCall (overflowChecks : Bool) (broker : Broker) (fuel : ℕ) (reader : Reader) : Prop :=
  (straight fuel reader).1.head? = some (.localGet 0) ∧ .call 0 ∈ (straight fuel reader).1 ∧
    Premature (straight fuel reader).2 ∧
    HasRoom overflowChecks broker ((straight fuel reader).1.count (.call 0))

section Loop

variable {sha256Hex : List UInt8 → String} {overflowChecks : Bool} {imports : ℕ} {input : Int32}
  {policy : Policy} {action : Action}

/-- A permitted call of the host actuates its argument. -/
theorem verdict_permitted (hcapability : action.capability = "wasm.actuate")
    (hpermits : policy.Permits action.subject "wasm.actuate") (argument : Int32) :
    verdict sha256Hex policy { action with arguments := [i32Text argument] } none =
      .ok (.number argument) := by
  refine (verdict_eq_ok sha256Hex).mpr ⟨hpermits.1, hpermits.2.1, ?_, ?_⟩
  · rw [hcapability]
    exact hpermits.2.2
  · unfold Broker.actuate
    rw [hcapability]
    simp [parseI32_i32Text]

variable (sha256Hex) in
/-- Another call is refused. -/
theorem verdict_denied (hcapability : action.capability = "wasm.actuate")
    (hdenied : ¬ policy.Permits action.subject "wasm.actuate") (argument : Int32) :
    ∃ refusal, verdict sha256Hex policy { action with arguments := [i32Text argument] } none =
      .error refusal := by
  cases hverdict : verdict sha256Hex policy
    { action with arguments := [i32Text argument] } none with
  | error refusal => exact ⟨refusal, rfl⟩
  | ok consequence =>
    obtain ⟨hknown, hrevoked, hpermitted, -⟩ := (verdict_eq_ok sha256Hex).mp hverdict
    rw [hcapability] at hpermitted
    exact absurd ⟨hknown, hrevoked, hpermitted⟩ hdenied

variable (sha256Hex overflowChecks imports input) in
/-- A permitted call goes on with an Alive outcome, if the broker does not panic. -/
theorem callHost_permitted (hcapability : action.capability = "wasm.actuate")
    (hpermits : policy.Permits action.subject "wasm.actuate") (fuel : ℕ) (reader : Reader)
    (argument : Int32) (stack : List Int32) (brokerOutcome : Option BrokerOutcome)
    (broker : Broker) :
    (callHost sha256Hex overflowChecks imports input policy action fuel reader (argument :: stack)
        brokerOutcome broker = none ∧ overflowChecks = true ∧
        broker.sequence.toNat + 1 = 2 ^ 64) ∨
      ∃ outcome after, outcome.receipt.standing = .alive ∧
        (overflowChecks = true → after.sequence.toNat = broker.sequence.toNat + 1) ∧
        callHost sha256Hex overflowChecks imports input policy action fuel reader
          (argument :: stack) brokerOutcome broker =
            interpretLoop sha256Hex overflowChecks imports input policy action fuel reader
              (argument :: stack) (some outcome) after := by
  simp only [callHost, Broker.submit_eq, verdict_permitted hcapability hpermits]
  cases hsettle : broker.settle sha256Hex overflowChecks policy
      { action with arguments := [i32Text argument] } (.ok (.number argument)) with
  | none =>
    left
    exact ⟨rfl, increment_eq_none.mp ((Broker.settle_eq_none sha256Hex overflowChecks).mp hsettle)⟩
  | some returned =>
    right
    obtain ⟨outcome, after⟩ := returned
    obtain ⟨sequence, hsequence, houtcome, hafter⟩ :=
      (Broker.settle_eq_some sha256Hex overflowChecks).mp hsettle
    refine ⟨outcome, after, by rw [houtcome]; rfl, fun hchecks => ?_, by simp [houtcome]⟩
    rw [hafter]
    exact toNat_of_increment (.inl hchecks) hsequence

/-- A call that is not permitted is refused. -/
theorem callHost_denied (hcapability : action.capability = "wasm.actuate")
    (hdenied : ¬ policy.Permits action.subject "wasm.actuate") (fuel : ℕ) (reader : Reader)
    (stack : List Int32) (broker : Broker) :
    AlwaysAgrees (callHost sha256Hex overflowChecks imports input policy action fuel reader stack
      none broker) := by
  cases stack with
  | nil => simp [callHost]
  | cons argument stack =>
    obtain ⟨refusal, hverdict⟩ := verdict_denied sha256Hex hcapability hdenied argument
    simp only [callHost, Broker.submit_eq, hverdict]
    cases hsettle : broker.settle sha256Hex overflowChecks policy
        { action with arguments := [i32Text argument] } (.error refusal) with
    | none => exact alwaysAgrees_none
    | some returned =>
      obtain ⟨outcome, after⟩ := returned
      obtain ⟨sequence, -, houtcome, -⟩ :=
        (Broker.settle_eq_some sha256Hex overflowChecks).mp hsettle
      have hresult : outcome.result = .error refusal := by rw [houtcome]
      have hstanding : outcome.receipt.standing = .refused := by rw [houtcome]; rfl
      simp [hresult, hstanding]

/-- Without an admitted call nothing Alive is returned. -/
theorem agrees_interpretLoop_denied (hcapability : action.capability = "wasm.actuate")
    (hdenied : imports ≠ 1 ∨ ¬ policy.Permits action.subject "wasm.actuate") (fuel : ℕ)
    (reader : Reader) (stack : List Int32) (broker : Broker) :
    AlwaysAgrees (interpretLoop sha256Hex overflowChecks imports input policy action fuel reader
      stack none broker) := by
  induction fuel generalizing reader stack with
  | zero => simp [interpretLoop]
  | succ fuel ih =>
    rw [interpretLoop_succ]
    cases nextInstruction reader with
    | mk instruction rest =>
      cases instruction with
      | truncated => simp
      | unknown => simp
      | localGet index =>
        dsimp only
        split_ifs with hindex
        · simp
        · exact ih rest (input :: stack)
      | call index =>
        dsimp only
        split_ifs with hindex
        · simp
        · have hforbidden := hdenied.resolve_left fun himports => hindex (.inr himports)
          exact callHost_denied hcapability hforbidden fuel rest stack broker
      | finish last =>
        dsimp only
        split_ifs with hlast
        · cases stack <;> simp [finished]
        · simp

variable {rest : Reader} {instruction : Instruction}

theorem straight_of_step (fuel : ℕ) {reader : Reader}
    (hnext : nextInstruction reader = (instruction, rest))
    (hstep : instruction = .localGet 0 ∨ instruction = .call 0) :
    straight (fuel + 1) reader =
      (instruction :: (straight fuel rest).1, (straight fuel rest).2) := by
  simp only [straight, hnext, if_pos hstep]

theorem straight_of_stop {fuel : ℕ} {reader : Reader}
    (hnext : nextInstruction reader = (instruction, rest))
    (hstop : ¬ (instruction = .localGet 0 ∨ instruction = .call 0)) :
    straight (fuel + 1) reader = ([], some instruction) := by
  simp only [straight, hnext, if_neg hstop]

/-- A failure that passes the last outcome on agrees with its receipt if there was no call. -/
theorem agrees_passed_on {refusal : Refusal} {brokerOutcome : Option BrokerOutcome}
    (halive : ∀ outcome, brokerOutcome = some outcome → outcome.receipt.standing = .alive) :
    Interpreted.Agrees (.error ⟨refusal, brokerOutcome⟩) ↔ brokerOutcome = none := by
  cases brokerOutcome with
  | none => simp
  | some outcome => simp [halive outcome rfl]

theorem agrees_finished {stack : List Int32} {brokerOutcome : Option BrokerOutcome}
    (halive : ∀ outcome, brokerOutcome = some outcome → outcome.receipt.standing = .alive)
    (hstack : brokerOutcome ≠ none → stack ≠ []) : (finished stack brokerOutcome).Agrees := by
  cases stack with
  | nil =>
    have hnone : brokerOutcome = none := by
      by_contra hcalled
      exact hstack hcalled rfl
    simp [finished, hnone]
  | cons value stack =>
    cases brokerOutcome with
    | none => simp [finished]
    | some outcome => exact halive outcome rfl

/-- A call is behind the loop when it stops prematurely. -/
def PassesOn (overflowChecks : Bool) (stack : List Int32) (brokerOutcome : Option BrokerOutcome)
    (broker : Broker) (fuel : ℕ) (reader : Reader) : Prop :=
  (brokerOutcome ≠ none ∨ (stack ≠ [] ∨ (straight fuel reader).1.head? = some (.localGet 0)) ∧
      .call 0 ∈ (straight fuel reader).1) ∧
    Premature (straight fuel reader).2 ∧
    HasRoom overflowChecks broker ((straight fuel reader).1.count (.call 0))

theorem agrees_interpretLoop_iff (hcapability : action.capability = "wasm.actuate")
    (himports : imports = 1) (hpermits : policy.Permits action.subject "wasm.actuate") (fuel : ℕ)
    (reader : Reader) (stack : List Int32) (brokerOutcome : Option BrokerOutcome)
    (broker : Broker)
    (halive : ∀ outcome, brokerOutcome = some outcome → outcome.receipt.standing = .alive)
    (hstack : brokerOutcome ≠ none → stack ≠ []) :
    AlwaysAgrees (interpretLoop sha256Hex overflowChecks imports input policy action fuel reader
      stack brokerOutcome broker) ↔
      ¬ PassesOn overflowChecks stack brokerOutcome broker fuel reader := by
  induction fuel generalizing reader stack brokerOutcome broker with
  | zero =>
    rw [interpretLoop, alwaysAgrees_some, agrees_passed_on halive]
    simp [PassesOn, straight, Premature, hasRoom_zero]
  | succ fuel ih =>
    rw [interpretLoop_succ]
    cases hnext : nextInstruction reader with
    | mk instruction rest =>
      by_cases hstep : instruction = .localGet 0 ∨ instruction = .call 0
      · have hstraight := straight_of_step fuel hnext hstep
        unfold PassesOn
        rw [hstraight]
        rcases hstep with rfl | rfl
        · have hloop := ih rest (input :: stack) brokerOutcome broker halive
            fun _ => List.cons_ne_nil _ _
          simpa [PassesOn] using hloop
        · rw [himports]
          cases stack with
          | nil =>
            have hnone : brokerOutcome = none := by
              by_contra hcalled
              exact hstack hcalled rfl
            simp [callHost, hnone]
          | cons argument stack =>
            have hcall := callHost_permitted sha256Hex overflowChecks 1 input hcapability
              hpermits fuel rest argument stack brokerOutcome broker
            rcases hcall with ⟨hpanic, hchecks, hfull⟩ | ⟨outcome, after, hstanding, hcount, hcall⟩
            · refine iff_of_true (by simp [hpanic, alwaysAgrees_none]) fun hpasses => ?_
              have hroom := hpasses.2.2 hchecks
              rw [List.count_cons_self] at hroom
              omega
            · have hloop := ih rest (argument :: stack) (some outcome) after
                (fun outcome' houtcome => Option.some.inj houtcome ▸ hstanding)
                fun _ => List.cons_ne_nil _ _
              have hroom : HasRoom overflowChecks after ((straight fuel rest).1.count (.call 0)) ↔
                  HasRoom overflowChecks broker
                    ((.call 0 :: (straight fuel rest).1).count (.call 0)) := by
                refine forall_congr' fun hchecks => ?_
                rw [hcount hchecks, List.count_cons_self]
                omega
              rw [himports] at hloop
              unfold PassesOn at hloop
              rw [hroom] at hloop
              simpa [hcall] using hloop
      · unfold PassesOn
        rw [straight_of_stop hnext hstep]
        cases instruction with
        | truncated => simp [Premature]
        | unknown => simp [Premature, hasRoom_zero, agrees_passed_on halive]
        | localGet index =>
          have hindex : index ≠ 0 := fun hzero => hstep (.inl (by rw [hzero]))
          simp [Premature, hasRoom_zero, agrees_passed_on halive, hindex]
        | call index =>
          have hindex : index ≠ 0 := fun hzero => hstep (.inr (by rw [hzero]))
          simp [Premature, hasRoom_zero, agrees_passed_on halive, hindex]
        | finish last =>
          cases last with
          | true => simp [Premature, agrees_finished halive hstack]
          | false => simp [Premature, hasRoom_zero, agrees_passed_on halive]

end Loop

/-! ## Agreement of an execution with its receipt -/

/-- The execution comes to code of `run` that stops prematurely after an admitted call. -/
def StopsAfterActuation (sha256Hex : List UInt8 → String) (overflowChecks : Bool) (broker : Broker)
    (policy : Policy) (module : List UInt8) (manifest : SkillManifest) : Prop :=
  sha256Hex module = manifest.moduleDigest ∧
    policy.Permits manifest.subject "wasm.actuate" ∧
    ∃ parsed code, ParsedModule.parse module = .ok parsed ∧
      checkImports manifest parsed.imports = .ok () ∧ parsed.imports.length = 1 ∧
      readLebU32 parsed.runBody = .ok (0, code) ∧
      StopsAfterCall overflowChecks broker manifest.fuel.toNat code

section Execute

variable {sha256Hex : List UInt8 → String} {overflowChecks : Bool}

/-- A result agrees with its receipt. -/
def SkillOutcome.Agrees (outcome : SkillOutcome) : Prop :=
  outcome.receipt.standing = .alive ↔ ∃ value, outcome.result = .ok value

theorem skillRefusal_agrees {broker after : Broker} {policy : Policy} {action : Action}
    {refusal : Refusal} {outcome : SkillOutcome}
    (h : skillRefusal sha256Hex overflowChecks broker policy action refusal =
      some (outcome, after)) : outcome.Agrees := by
  obtain ⟨⟨recorded, next⟩, hrecorded, hreturned⟩ := Option.map_eq_some_iff.mp h
  obtain ⟨sequence, -, houtcome, -⟩ :=
    (Broker.settle_eq_some sha256Hex overflowChecks).mp hrecorded
  obtain ⟨rfl, -⟩ := Prod.mk.inj hreturned
  unfold SkillOutcome.Agrees
  rw [houtcome]
  simp [receiptOf, standingOf]

/-- What the receipt of an execution agrees with, the receipt of `interpret` agrees with. -/
theorem skillOutcome_agrees_iff {policy : Policy} {action : Action}
    {returned : Option (Interpreted × Broker)} :
    (∀ outcome after, skillOutcome sha256Hex overflowChecks policy action returned =
      some (outcome, after) → outcome.Agrees) ↔ AlwaysAgrees returned := by
  match returned with
  | none => exact iff_of_true (fun _ _ h => nomatch h) alwaysAgrees_none
  | some (.ok (value, outcome), broker) =>
    simp [skillOutcome, SkillOutcome.Agrees, Interpreted.Agrees]
  | some (.error { refusal, outcome := some outcome }, broker) =>
    simp [skillOutcome, SkillOutcome.Agrees]
  | some (.error { refusal, outcome := none }, broker) =>
    exact iff_of_true (fun _ _ h => skillRefusal_agrees h) (by simp)

/-- The loop of `interpret` starts without a value and without a call. -/
theorem passesOn_start {broker : Broker} {fuel : ℕ} {code : Reader} :
    PassesOn overflowChecks [] none broker fuel code ↔
      StopsAfterCall overflowChecks broker fuel code := by
  simp [PassesOn, StopsAfterCall, and_assoc]

variable {parsed : ParsedModule}

theorem interpret_agrees_iff {input : Int32} {fuel : UInt64} {broker : Broker} {policy : Policy}
    {action : Action} (hcapability : action.capability = "wasm.actuate") :
    AlwaysAgrees (parsed.interpret sha256Hex overflowChecks input fuel broker policy action) ↔
      ¬ (policy.Permits action.subject "wasm.actuate" ∧ parsed.imports.length = 1 ∧
        ∃ code, readLebU32 parsed.runBody = .ok (0, code) ∧
          StopsAfterCall overflowChecks broker fuel.toNat code) := by
  unfold ParsedModule.interpret
  cases hgroups : readLebU32 parsed.runBody with
  | error refusal => simp
  | ok read =>
    obtain ⟨localGroups, code⟩ := read
    by_cases hzero : localGroups = 0
    · have hcode : (∃ code', (Except.ok (localGroups, code) : Except Refusal _) = .ok (0, code') ∧
          StopsAfterCall overflowChecks broker fuel.toNat code') ↔
          StopsAfterCall overflowChecks broker fuel.toNat code := by simp [hzero]
      rw [hcode]
      simp only [hzero, ne_eq, not_true_eq_false, if_false]
      by_cases hadmitted : policy.Permits action.subject "wasm.actuate" ∧ parsed.imports.length = 1
      · obtain ⟨hpermits, himports⟩ := hadmitted
        have hnone : ∀ outcome : BrokerOutcome, none = some outcome →
            outcome.receipt.standing = .alive := fun _ h => nomatch h
        have hcalled : (none : Option BrokerOutcome) ≠ none → ([] : List Int32) ≠ [] :=
          fun h => absurd rfl h
        rw [agrees_interpretLoop_iff hcapability himports hpermits _ _ _ _ _ hnone hcalled,
          passesOn_start]
        simp [hpermits, himports]
      · have hdenied : parsed.imports.length ≠ 1 ∨
            ¬ policy.Permits action.subject "wasm.actuate" := by tauto
        refine iff_of_true (agrees_interpretLoop_denied hcapability hdenied _ _ _ _) ?_
        rintro ⟨hpermits, himports, -⟩
        exact hadmitted ⟨hpermits, himports⟩
    · simp [hzero]

/-- An execution that passes the checks before `interpret`. -/
theorem execute_agrees_of_parsed {broker : Broker} {policy : Policy} {module : List UInt8}
    {manifest : SkillManifest} (input : Int32) (nonce : UInt64)
    (hdigest : sha256Hex module = manifest.moduleDigest)
    (hparse : ParsedModule.parse module = .ok parsed)
    (hchecks : checkImports manifest parsed.imports = .ok ()) :
    (∀ outcome after, execute sha256Hex overflowChecks broker policy module manifest input nonce =
      some (outcome, after) → outcome.Agrees) ↔
      ¬ (policy.Permits manifest.subject "wasm.actuate" ∧ parsed.imports.length = 1 ∧
        ∃ code, readLebU32 parsed.runBody = .ok (0, code) ∧
          StopsAfterCall overflowChecks broker manifest.fuel.toNat code) := by
  unfold execute
  simp only [hdigest, hparse, hchecks, ne_eq, not_true_eq_false, if_false]
  rw [skillOutcome_agrees_iff, interpret_agrees_iff rfl]

/-- The receipt of an execution is Alive exactly with an `Ok`, for whatever is executed, unless the
code of `run` stops prematurely after an admitted call. -/
theorem execute_agrees_iff (sha256Hex : List UInt8 → String) (overflowChecks : Bool)
    (broker : Broker) (policy : Policy) (module : List UInt8) (manifest : SkillManifest)
    (input : Int32) (nonce : UInt64) :
    (∀ outcome after, execute sha256Hex overflowChecks broker policy module manifest input nonce =
      some (outcome, after) → outcome.Agrees) ↔
      ¬ StopsAfterActuation sha256Hex overflowChecks broker policy module manifest := by
  by_cases hdigest : sha256Hex module = manifest.moduleDigest
  swap
  · unfold execute
    rw [if_pos hdigest]
    exact iff_of_true (fun _ _ h => skillRefusal_agrees h) fun hstops => hdigest hstops.1
  cases hparse : ParsedModule.parse module with
  | error refusal =>
    unfold execute
    simp only [hdigest, hparse, ne_eq, not_true_eq_false, if_false]
    refine iff_of_true (fun _ _ h => skillRefusal_agrees h) ?_
    rintro ⟨-, -, parsed, code, hparsed, -⟩
    rw [hparse] at hparsed
    exact absurd hparsed (by simp)
  | ok parsed =>
    have hstops : StopsAfterActuation sha256Hex overflowChecks broker policy module manifest ↔
        checkImports manifest parsed.imports = .ok () ∧
          policy.Permits manifest.subject "wasm.actuate" ∧ parsed.imports.length = 1 ∧
          ∃ code, readLebU32 parsed.runBody = .ok (0, code) ∧
            StopsAfterCall overflowChecks broker manifest.fuel.toNat code := by
      constructor
      · rintro ⟨-, hpermits, parsed', code, hparsed, hchecks, himports, hcode, hstops⟩
        obtain rfl : parsed = parsed' := Except.ok.inj (hparse.symm.trans hparsed)
        exact ⟨hchecks, hpermits, himports, code, hcode, hstops⟩
      · rintro ⟨hchecks, hpermits, himports, code, hcode, hstops⟩
        exact ⟨hdigest, hpermits, parsed, code, hparse, hchecks, himports, hcode, hstops⟩
    rw [hstops]
    cases hchecks : checkImports manifest parsed.imports with
    | error refusal =>
      unfold execute
      simp only [hdigest, hparse, hchecks, ne_eq, not_true_eq_false, if_false]
      exact iff_of_true (fun _ _ h => skillRefusal_agrees h) (by simp)
    | ok checked =>
      rw [execute_agrees_of_parsed input nonce hdigest hparse hchecks]
      simp

/-- `gall_skill_module` (lines 1139–1152). -/
def gallSkillModule : List UInt8 :=
  [0x00, 0x61, 0x73, 0x6d, 0x01, 0x00, 0x00, 0x00,
    0x01, 0x06, 0x01, 0x60, 0x01, 0x7f, 0x01, 0x7f,
    0x02, 0x12, 0x01, 0x06, 0x66, 0x61, 0x62, 0x72, 0x69, 0x63, 0x07, 0x61, 0x63, 0x74, 0x75,
    0x61, 0x74, 0x65, 0x00, 0x00,
    0x03, 0x02, 0x01, 0x00,
    0x07, 0x07, 0x01, 0x03, 0x72, 0x75, 0x6e, 0x00, 0x01,
    0x0a, 0x08, 0x01, 0x06, 0x00, 0x20, 0x00, 0x10, 0x00, 0x0b]

theorem gallSkillModule_parse : ParsedModule.parse gallSkillModule =
    .ok { imports := [{ module := "fabric", name := "actuate" }], runFunctionIndex := 1,
          runBody := [0x00, 0x20, 0x00, 0x10, 0x00, 0x0b] } :=
  toOption_eq_some.mp (by decide +kernel)

/-- With fuel for the call but not for the `end` after it, the skill of the crate fails with an
Alive receipt, whatever the hashes are. -/
theorem starved_after_actuation :
    ¬ ∃ sha256Hex : List UInt8 → String, ∀ outcome after,
      execute sha256Hex false .new ((Policy.new "phase-3").allow "skill:echo" "wasm.actuate")
        gallSkillModule
        { moduleDigest := sha256Hex gallSkillModule, subject := "skill:echo",
          allowedImports := {("fabric", "actuate")}, fuel := 2 } 41 33 = some (outcome, after) →
      outcome.Agrees := by
  rintro ⟨sha256Hex, h⟩
  refine (execute_agrees_of_parsed 41 33 rfl gallSkillModule_parse ?_).mp h ⟨?_, rfl, ?_⟩
  · refine forM_eq_ok.mpr fun wasmImport himport => ?_
    rw [List.mem_singleton.mp himport]
    simp [bind_eq_ok]
  · have hknown : startsWith "skill:echo" "unknown:" = false := by decide
    refine ⟨hknown, ?_, Policy.mem_permissions.mpr ?_⟩
    · simp [Policy.allow, Policy.new]
    · simp [Policy.allow, Policy.new]
  · refine ⟨[0x20, 0x00, 0x10, 0x00, 0x0b], rfl, ?_⟩
    have hstraight : straight 2 [0x20, 0x00, 0x10, 0x00, 0x0b] =
      ([.localGet 0, .call 0], none) := by
      decide
    unfold StopsAfterCall
    rw [show (2 : UInt64).toNat = 2 from rfl, hstraight]
    exact ⟨rfl, by simp, by simp [Premature], fun h => by cases h⟩

end Execute

end ChatmanEcosystem.Gall
