import ChatmanEcosystem.Common.Run
import ChatmanEcosystem.Common.Tasks
import ChatmanEcosystem.Core.Subject

/-!
# The governor runtime

Model of `GovernorRuntime::execute` (`crates/ecosystem-runtime/src/lib.rs`,
lines 218–319) as a system of concurrent calls. A call runs without interruption
between its await points, of which it has three: the lock of `completed` for
the look-up, the operation under its timeout, and the lock for the insertion.
Nothing is awaited while the lock is held.

Results:

* `next_cases`: what one step of the system does.
-/

namespace ChatmanEcosystem.Governor

open Common Core

/-- `enum Error` (lines 17–28). -/
inductive Error
  | conflict (key : String)
  | storage (detail : String)
  | refused (detail : String)
  | mcp (detail : String)
  | connector (detail : String)
  deriving DecidableEq

/-- `enum JobState` (lines 220–231). -/
inductive JobState
  | planned
  | admitted
  | running
  | awaitingInput
  | awaitingAuthority
  | succeeded
  | failed
  | ambiguous
  | refused
  | superseded
  deriving DecidableEq

/-- `struct GovernorJob` (lines 234–241). -/
structure GovernorJob where
  id : String
  state : JobState
  idempotencyKey : String
  requiredAuthority : Authority
  attempts : UInt32
  result : Option String
  deriving DecidableEq

/-- `GovernorJob::new` (lines 244–253). -/
def GovernorJob.new (id key : String) (authority : Authority) : GovernorJob :=
  { id, state := .planned, idempotencyKey := key, requiredAuthority := authority, attempts := 0
    result := none }

/-- How the awaited operation ends: with its own result, or by the timeout. -/
inductive Answer
  | done (outcome : Except Error String)
  | timeout
  deriving DecidableEq

/-- Where a call stands. -/
inductive Phase
  /-- Waiting for the lock of `completed`, to look the key up. -/
  | lookup
  /-- Waiting for the operation. -/
  | operating
  /-- Waiting for the lock of `completed`, to insert the result. -/
  | storing (result : String)
  | returned (outcome : Except Error String)
  deriving DecidableEq

/-- The call has started its operation and has not returned. -/
def Phase.pending : Phase → Bool
  | .operating | .storing _ => true
  | .lookup | .returned _ => false

/-- A call of `execute`. The job is the caller's `&mut`; `answer` is what the
call's operation has answered. -/
structure Call where
  job : GovernorJob
  phase : Phase
  answer : Option Answer
  deriving DecidableEq

namespace Call

/-- The idempotency key of the call. -/
def key (call : Call) : String := call.job.idempotencyKey

/-- `execute` up to its first await (lines 276–283). -/
def execute (job : GovernorJob) (granted : Authority) : Call :=
  if job.idempotencyKey.isEmpty then
    { job := { job with state := .refused }
      phase := .returned (.error (.refused "idempotency key required")), answer := none }
  else if !granted.permits job.requiredAuthority then
    { job := { job with state := .awaitingAuthority }
      phase := .returned (.error (.refused "authority denied")), answer := none }
  else
    { job, phase := .lookup, answer := none }

/-- `u32::saturating_add(1)`. -/
def nextAttempt (attempts : UInt32) : UInt32 :=
  UInt32.ofNat (min (attempts.toNat + 1) (2 ^ 32 - 1))

/-- The recorded result is returned (lines 284–294). -/
def replay (call : Call) (result : String) : Call :=
  { call with
    job := { call.job with state := .succeeded, result := some result }
    phase := .returned (.ok result) }

/-- The operation is started (lines 295–297). -/
def operate (call : Call) : Call :=
  { call with
    job := { call.job with state := .running, attempts := nextAttempt call.job.attempts }
    phase := .operating }

/-- The operation ends (lines 297–317), up to the lock of `completed` if it succeeded. -/
def answered (call : Call) (answer : Answer) : Call :=
  match answer with
  | .done (.ok result) => { call with phase := .storing result, answer := some answer }
  | .done (.error error) =>
    { job := { call.job with state := .failed }, phase := .returned (.error error)
      answer := some answer }
  | .timeout =>
    { job := { call.job with state := .ambiguous }
      phase := .returned (.error (.refused "timeout is ambiguous; automatic retry refused"))
      answer := some answer }

/-- The result is inserted and returned (lines 299–305). -/
def stored (call : Call) (result : String) : Call :=
  { call with
    job := { call.job with state := .succeeded, result := some result }
    phase := .returned (.ok result) }

end Call

/-- `struct GovernorRuntime` (lines 257–259), with the calls made to it. -/
structure System where
  completed : Std.ExtTreeMap String String
  calls : List Call

/-- `GovernorRuntime::default`. -/
def System.default : System := { completed := ∅, calls := [] }

/-- One step: a call arrives, a call that waits for the lock gets it, or the
operation that a call waits for ends. -/
inductive Event
  | execute (job : GovernorJob) (granted : Authority)
  | lock (call : ℕ)
  | answer (call : ℕ) (answer : Answer)

namespace System

/-- The call number `i` goes on as `call`. -/
def goesOn (system : System) (i : ℕ) (call : Call) : System :=
  { system with calls := system.calls.set i call }

/-- The system after a step. A step that the call is not waiting for does not happen. -/
def next (system : System) : Event → System
  | .execute job granted => { system with calls := system.calls ++ [Call.execute job granted] }
  | .lock i =>
    match system.calls[i]? with
    | none => system
    | some call =>
      match call.phase with
      | .lookup =>
        match system.completed[call.key]? with
        | some result => system.goesOn i (call.replay result)
        | none => system.goesOn i call.operate
      | .storing result =>
        { system with
          completed := system.completed.insert call.key result
          calls := system.calls.set i (call.stored result) }
      | .operating | .returned _ => system
  | .answer i answer =>
    match system.calls[i]? with
    | none => system
    | some call =>
      match call.phase with
      | .operating => system.goesOn i (call.answered answer)
      | .lookup | .storing _ | .returned _ => system

theorem goesOn_self {system : System} {i : ℕ} {call : Call} (h : system.calls[i]? = some call)
    (new : Call) : (system.goesOn i new).calls[i]? = some new := by
  have hlt : i < system.calls.length := (List.getElem?_eq_some_iff.mp h).1
  rw [goesOn, List.getElem?_set_self hlt]

theorem goesOn_ne {system : System} {i j : ℕ} (h : j ≠ i) (new : Call) :
    (system.goesOn i new).calls[j]? = system.calls[j]? := by
  rw [goesOn, List.getElem?_set_ne (Ne.symm h)]

theorem next_answer {system : System} {i : ℕ} {call : Call} (h : system.calls[i]? = some call)
    (hphase : call.phase = .operating) (answer : Answer) :
    system.next (.answer i answer) = system.goesOn i (call.answered answer) := by
  simp only [next, h, hphase]

/-- What a step does: nothing, an arrival, or one of the four ways a call goes on. -/
theorem next_cases (system : System) (event : Event) :
    system.next event = system ∨
    (∃ job granted, event = .execute job granted ∧
      system.next event = { system with calls := system.calls ++ [Call.execute job granted] }) ∨
    (∃ i call, system.calls[i]? = some call ∧
      ((∃ result, call.phase = .lookup ∧ system.completed[call.key]? = some result ∧
          system.next event = system.goesOn i (call.replay result)) ∨
        (event = .lock i ∧ call.phase = .lookup ∧ system.completed[call.key]? = none ∧
          system.next event = system.goesOn i call.operate) ∨
        (∃ answer, call.phase = .operating ∧
          system.next event = system.goesOn i (call.answered answer)) ∨
        (∃ result, call.phase = .storing result ∧
          system.next event = { system with
            completed := system.completed.insert call.key result
            calls := system.calls.set i (call.stored result) }))) := by
  cases event with
  | execute job granted => exact .inr (.inl ⟨job, granted, rfl, rfl⟩)
  | lock i =>
    cases hcall : system.calls[i]? with
    | none => exact .inl (by simp only [next, hcall])
    | some call =>
      cases hphase : call.phase with
      | lookup =>
        cases hrecord : system.completed[call.key]? with
        | some result =>
          refine .inr (.inr ⟨i, call, hcall, .inl ⟨result, hphase, hrecord, ?_⟩⟩)
          simp only [next, hcall, hphase, hrecord]
        | none =>
          refine .inr (.inr ⟨i, call, hcall, .inr (.inl ⟨rfl, hphase, hrecord, ?_⟩)⟩)
          simp only [next, hcall, hphase, hrecord]
      | storing result =>
        refine .inr (.inr ⟨i, call, hcall, .inr (.inr (.inr ⟨result, hphase, ?_⟩))⟩)
        simp only [next, hcall, hphase]
      | operating => exact .inl (by simp only [next, hcall, hphase])
      | returned outcome => exact .inl (by simp only [next, hcall, hphase])
  | answer i answer =>
    cases hcall : system.calls[i]? with
    | none => exact .inl (by simp only [next, hcall])
    | some call =>
      cases hphase : call.phase with
      | operating =>
        refine .inr (.inr ⟨i, call, hcall, .inr (.inr (.inl ⟨answer, hphase, ?_⟩))⟩)
        simp only [next, hcall, hphase]
      | lookup => exact .inl (by simp only [next, hcall, hphase])
      | storing result => exact .inl (by simp only [next, hcall, hphase])
      | returned outcome => exact .inl (by simp only [next, hcall, hphase])

end System

end ChatmanEcosystem.Governor
