import ChatmanEcosystem.Common.Run
import ChatmanEcosystem.Common.Tasks
import ChatmanEcosystem.Console.OverageBilling

/-!
# Concurrent overage calls

The calls of `platform-console/app/lib/overage-billing.ts` for one namespace as a
system of concurrent calls: ticks of the poller and charges that share the store
and Stripe. A call runs without interruption between its await points: the read
of the subscription, the read of the stored record, the rest of the estimate, the
call of Stripe, and the write. A failed write stores nothing. Stripe creates one
item for each call it answers, with an id of its own. The clock does not go back.

Results:

* `step_cases`: the ways a call goes on.
* `next_cases`: what one step of the system does.
-/

namespace ChatmanEcosystem.Console.Overage

open Common Rust

/-- Who awaits an estimate: a tick, or a charge. -/
inductive Caller
  | recompute
  | bill (subscription : ActiveSubscription)
  deriving DecidableEq

/-- A record on its way to the store. -/
inductive Write
  /-- Of a tick, or of a charge that finds no overage. -/
  | refresh (caller : Caller) (estimate : NamespaceOverageEstimate) (record : StoredOverage)
  /-- Of a charge, with the id of the invoice item. -/
  | charged (record : StoredOverage)
  deriving DecidableEq

/-- The record that is written. -/
def Write.record : Write → StoredOverage
  | .refresh _ _ record => record
  | .charged record => record

/-- What a call returns. -/
inductive Outcome
  | recomputed (result : K8sResult (List NamespaceOverageEstimate))
  | billed (result : K8sResult BilledOverage)
  deriving DecidableEq

/-- What the call returns after its write. -/
def Write.outcome (write : Write) (result : K8sResult Unit) : Outcome :=
  match write with
  | .refresh .recompute estimate _ => .recomputed (result.map fun _ => [estimate])
  | .refresh (.bill _) _ record => .billed (result.map fun _ => storedResult record)
  | .charged record => .billed (result.map fun _ => storedResult record)

/-- Where a call stands: the await point that it waits at, with what it has read. -/
inductive Phase
  | subscription
  | stored (caller : Caller)
  | metering (caller : Caller) (storedResult : K8sResult (Option StoredOverage))
  | item (subscription : ActiveSubscription) (estimate : NamespaceOverageEstimate) (periodStart : ℤ)
  | write (write : Write)
  | returned (outcome : Outcome)
  deriving DecidableEq

/-- What an awaited call answers. -/
inductive Answer
  | subscription (result : K8sResult (Option StoredSubscription))
  | stored (read : K8sResult Unit)
  | metering (metering : Metering)
  | item (result : K8sResult InvoiceItemId)
  | write (result : K8sResult Unit)

namespace Phase

/-- `billNamespaceOverage` up to its first await (line 520). -/
def bill (credentials : Bool) : Phase :=
  if credentials then .subscription
  else .returned (.billed (.error "STRIPE_SECRET_KEY not configured"))

/-- Both calls from the estimate to the next await: lines 470–498 and 529–582. -/
def estimated (clock : ℤ) (caller : Caller) (result : K8sResult NamespaceOverageEstimate) : Phase :=
  match caller, result with
  | .recompute, .error _ => .returned (.recomputed (.ok []))
  | .recompute, .ok estimate =>
    .write (.refresh .recompute estimate (recomputedRecord estimate clock))
  | .bill _, .error error => .returned (.billed (.error error))
  | .bill active, .ok estimate =>
    match billDecision estimate clock with
    | .alreadyBilled existing id => .returned (.billed (.ok (alreadyBilledResult existing id)))
    | .noOverage record => .write (.refresh (.bill active) estimate record)
    | .charge => .item active estimate (currentPeriodStart clock)

/-- The call goes on with an answer, if it waits for such an answer. -/
def step (tenant : String) (clock : ℤ) (billing : Billing) :
    Phase → Answer → Option (Phase × Billing)
  | .subscription, .subscription result =>
    match activeSubscription tenant true result with
    | .error error => some (.returned (.billed (.error error)), billing)
    | .ok active => some (.stored (.bill active), billing)
  | .stored caller, .stored read => some (.metering caller (getStoredOverage billing read), billing)
  | .metering caller storedResult, .metering measured =>
    some (estimated clock caller (estimateNamespaceOverage measured storedResult), billing)
  | .item active estimate periodStart, .item result =>
    match createOverageInvoiceItem estimate.overageCostUsd result with
    | .error error => some (.returned (.billed (.error error)), billing)
    | .ok id =>
      if id ∈ billing.items.map (·.id) then none
      else
        some (.write (.charged (chargedRecord estimate periodStart id clock)),
          { billing with
            items := newInvoiceItem active estimate periodStart id :: billing.items })
  | .write pending, .write result =>
    some (.returned (pending.outcome result),
      if result.isOk then { billing with record := some pending.record } else billing)
  | _, _ => none

/-- The call has decided to charge, and has not stored the marker. -/
def inFlight : Phase → Bool
  | .item _ _ _ | .write (.charged _) => true
  | _ => false

end Phase

/-- The record that a tick or a charge without overage stores: for the present window, with the
marker of the record read, if that counts as billed for it. -/
def Refreshes (clock : ℤ) (estimate : NamespaceOverageEstimate) (record : StoredOverage) : Prop :=
  record.periodStart = currentPeriodStart clock ∧
    record.lastInvoiceItemId = priorSamePeriod estimate.stored (currentPeriodStart clock)

/-- Where an estimate takes the call that awaits it. -/
theorem Phase.estimated_cases (clock : ℤ) (caller : Caller)
    (result : K8sResult NamespaceOverageEstimate) :
    (∃ outcome, Phase.estimated clock caller result = .returned outcome) ∨
    (∃ estimate record, result = .ok estimate ∧ Refreshes clock estimate record ∧
      Phase.estimated clock caller result = .write (.refresh caller estimate record)) ∨
    (∃ active estimate, caller = .bill active ∧ result = .ok estimate ∧
      billDecision estimate clock = .charge ∧
      Phase.estimated clock caller result = .item active estimate (currentPeriodStart clock)) := by
  cases result with
  | error error => cases caller <;> exact .inl ⟨_, rfl⟩
  | ok estimate =>
    cases caller with
    | recompute => exact .inr (.inl ⟨estimate, _, rfl, ⟨rfl, rfl⟩, rfl⟩)
    | bill active =>
      simp only [Phase.estimated]
      rcases billDecision_cases estimate clock with ⟨existing, id, hdecision, -⟩ |
        ⟨hprior, -, record, hdecision, hmarker, hperiod⟩ | ⟨-, -, hdecision⟩
      · exact .inl ⟨_, by rw [hdecision]⟩
      · refine .inr (.inl ⟨estimate, record, rfl, ⟨hperiod, ?_⟩, by rw [hdecision]⟩)
        rw [hmarker, hprior]
      · exact .inr (.inr ⟨active, estimate, rfl, rfl, hdecision, by rw [hdecision]⟩)

/-- The ways a call goes on. -/
theorem Phase.step_cases {tenant : String} {clock : ℤ} {billing : Billing} {phase : Phase}
    {answer : Answer} {after : Phase × Billing}
    (h : phase.step tenant clock billing answer = some after) :
    -- it returns without a write, or waits for the read
    ((∀ pending, phase ≠ .write pending) ∧
      ((∃ outcome, after = (.returned outcome, billing)) ∨
        ∃ caller, after = (.stored caller, billing))) ∨
    -- it reads the stored record
    (∃ caller read, phase = .stored caller ∧
      after = (.metering caller (getStoredOverage billing read), billing)) ∨
    -- its estimate is made, and it writes or charges
    (∃ caller storedResult measured estimate, phase = .metering caller storedResult ∧
      answer = .metering measured ∧ estimateNamespaceOverage measured storedResult = .ok estimate ∧
      ((∃ record, Refreshes clock estimate record ∧
          after = (.write (.refresh caller estimate record), billing)) ∨
        ∃ active, caller = .bill active ∧ billDecision estimate clock = .charge ∧
          after = (.item active estimate (currentPeriodStart clock), billing))) ∨
    -- Stripe creates the item
    (∃ active estimate periodStart id, phase = .item active estimate periodStart ∧
      id ∉ billing.items.map (·.id) ∧
      after = (.write (.charged (chargedRecord estimate periodStart id clock)),
        { billing with
          items := newInvoiceItem active estimate periodStart id :: billing.items })) ∨
    -- its write ends
    ∃ pending result, phase = .write pending ∧ answer = .write result ∧
      after = (.returned (pending.outcome result),
        if result.isOk then { billing with record := some pending.record } else billing) := by
  unfold Phase.step at h
  split at h
  · refine .inl ⟨fun _ hwrite => (by cases hwrite), ?_⟩
    split at h
    · exact .inl ⟨_, (Option.some.inj h).symm⟩
    · exact .inr ⟨_, (Option.some.inj h).symm⟩
  · exact .inr (.inl ⟨_, _, rfl, (Option.some.inj h).symm⟩)
  · rename_i caller storedResult measured
    obtain rfl := Option.some.inj h
    rcases Phase.estimated_cases clock caller (estimateNamespaceOverage measured storedResult) with
      ⟨outcome, hphase⟩ | ⟨estimate, record, hresult, hrefreshes, hphase⟩ |
      ⟨active, estimate, rfl, hresult, hdecision, hphase⟩
    · exact .inl ⟨fun _ hwrite => (by cases hwrite), .inl ⟨outcome, by rw [hphase]⟩⟩
    · refine .inr (.inr (.inl ⟨caller, storedResult, measured, estimate, rfl, rfl, hresult,
        .inl ?_⟩))
      exact ⟨record, hrefreshes, by rw [hphase]⟩
    · refine .inr (.inr (.inl ⟨_, storedResult, measured, estimate, rfl, rfl, hresult, .inr ?_⟩))
      exact ⟨active, rfl, hdecision, by rw [hphase]⟩
  · split at h
    · exact .inl ⟨fun _ hwrite => (by cases hwrite), .inl ⟨_, (Option.some.inj h).symm⟩⟩
    · split_ifs at h with hused
      exact .inr (.inr (.inr (.inl ⟨_, _, _, _, rfl, hused, (Option.some.inj h).symm⟩)))
  · exact .inr (.inr (.inr (.inr ⟨_, _, rfl, rfl, (Option.some.inj h).symm⟩)))
  · cases h

/-- The store and Stripe, with the calls under way. -/
structure System where
  clock : ℤ
  billing : Billing
  calls : List Phase

/-- Before the first call. -/
def System.init (clock : ℤ) : System := { clock, billing := .empty, calls := [] }

/-- Time passes, a call is made, or a call gets an answer. -/
inductive Event
  | elapse (ms : ℕ)
  | recompute
  | bill (credentials : Bool)
  | answer (call : ℕ) (answer : Answer)

namespace System

/-- The system after a step. An answer that the call does not wait for does not happen. -/
def next (tenant : String) (system : System) : Event → System
  | .elapse ms => { system with clock := system.clock + ms }
  | .recompute => { system with calls := system.calls ++ [.stored .recompute] }
  | .bill credentials => { system with calls := system.calls ++ [.bill credentials] }
  | .answer i answer =>
    match system.calls[i]? with
    | none => system
    | some phase =>
      match phase.step tenant system.clock system.billing answer with
      | none => system
      | some (phase, billing) => { system with billing, calls := system.calls.set i phase }

/-- What a step does: nothing, or time passes, or a call arrives, or one goes on. -/
theorem next_cases (tenant : String) (system : System) (event : Event) :
    system.next tenant event = system ∨
    (∃ ms : ℕ, system.next tenant event = { system with clock := system.clock + ms }) ∨
    (∃ phase, phase.inFlight = false ∧ (∀ caller result, phase ≠ .metering caller result) ∧
      (∀ pending, phase ≠ .write pending) ∧
      system.next tenant event = { system with calls := system.calls ++ [phase] }) ∨
    (∃ i answer phase after, event = .answer i answer ∧ system.calls[i]? = some phase ∧
      phase.step tenant system.clock system.billing answer = some after ∧
      system.next tenant event =
        { system with billing := after.2, calls := system.calls.set i after.1 }) := by
  cases event with
  | elapse ms => exact .inr (.inl ⟨ms, rfl⟩)
  | recompute => exact .inr (.inr (.inl ⟨.stored .recompute,
    rfl, fun _ _ hphase => (by cases hphase),
    fun _ hphase => (by cases hphase), rfl⟩))
  | bill credentials =>
    refine .inr (.inr (.inl ⟨.bill credentials, ?_, fun _ _ hphase => ?_, fun _ hphase => ?_, rfl⟩))
    · cases credentials <;> rfl
    · cases credentials <;> cases hphase
    · cases credentials <;> cases hphase
  | answer i answer =>
    cases hcall : system.calls[i]? with
    | none => exact .inl (by simp only [next, hcall])
    | some phase =>
      cases hstep : phase.step tenant system.clock system.billing answer with
      | none => exact .inl (by simp only [next, hcall, hstep])
      | some after =>
        refine .inr (.inr (.inr ⟨i, answer, phase, after, rfl, hcall, hstep, ?_⟩))
        simp only [next, hcall, hstep]

end System

end ChatmanEcosystem.Console.Overage
