import ChatmanEcosystem.Common.Concurrent
import ChatmanEcosystem.Console.OverageBilling
import ChatmanEcosystem.Js.Runtime
import Std.Data.ExtTreeMap

/-!
# Invoice reconciliations

Model of `platform-console/app/lib/invoice-reconciliation.ts`, lines 62–341: the
records of the ConfigMap, `recordInvoiceReconciliation` that files one and
`decideInvoiceReconciliation` that decides it. A record is stored as JSON; the
model stores the record. The period keeps its text, of which the key is made, and
the other instants are milliseconds since 1970. Amounts are rationals. The calls
run concurrently; each stops at its awaits: the read, the write, and the audit
entry, which may be rejected when the record is already written.

Results:

* `resume_cases`: the ways a call goes on.
* `undisturbed_keeps`: a step that is `Undisturbed` leaves every decided record as it is.
* `decisionsFinal_of_undisturbed`: in every run whose steps are all undisturbed, decisions are
  final.
-/

namespace ChatmanEcosystem.Console.Reconciliation

open Common Common.Concurrent Js
  Rust

/-- `InvoiceReconciliationStatus` (lines 62–66). -/
inductive Status
  | pendingReview
  | pendingApproval
  | approvedForPayment
  | rejected
  deriving DecidableEq

/-- Approved or rejected. -/
def Status.decided : Status → Bool
  | .approvedForPayment | .rejected => true
  | _ => false

/-- `InvoiceReconciliation` (lines 68–95). -/
structure InvoiceReconciliation where
  id : String
  orgId : String
  ns : String
  poNumber : String
  contractCapUsd : ℚ
  overageCostUsd : ℚ
  varianceUsd : ℚ
  periodStart : String
  status : Status
  filedBy : String
  filedAt : ℤ
  decidedBy : Option String
  decidedAt : Option ℤ
  decisionReason : Option String
  deriving DecidableEq

/-- The data of the ConfigMap. -/
abbrev Store := Std.ExtTreeMap String InvoiceReconciliation

/-- `reconciliationKey` (lines 97–104). -/
def reconciliationKey (orgId periodStart : String) : String :=
  orgId ++ "." ++ String.ofList (periodStart.toList.map fun c => if c = ':' then '-' else c)

/-- `Number(amount.toFixed(2))`: the nearest amount of whole cents, ties away from zero. -/
def toCents (amount : ℚ) : ℚ :=
  if amount < 0 then -(((-amount * 100 + 1 / 2).floor : ℚ) / 100)
  else ((amount * 100 + 1 / 2).floor : ℚ) / 100

/-- The input of `recordInvoiceReconciliation`. -/
structure FilingInput where
  orgId : String
  ns : String
  poNumber : String
  contractCapUsd : ℚ
  filedBy : String
  deriving DecidableEq

/-- The input of `decideInvoiceReconciliation`; `approve` is the decision. -/
structure DecisionInput where
  id : String
  approve : Bool
  decidedBy : String
  reason : Option String
  deriving DecidableEq

/-- The record that `recordInvoiceReconciliation` files (lines 238–254). -/
def filedRecord (js : JsRuntime) (input : FilingInput) (overage : Option Overage.StoredOverage)
    (now : ℤ) : InvoiceReconciliation :=
  let overageCostUsd := (overage.map (·.overageCostUsd)).getD 0
  let periodStart := js.toISOString ((overage.map (·.periodStart)).getD now)
  let varianceUsd := toCents (overageCostUsd - input.contractCapUsd)
  { id := reconciliationKey input.orgId periodStart
    orgId := input.orgId
    ns := input.ns
    poNumber := trim input.poNumber
    contractCapUsd := input.contractCapUsd
    overageCostUsd
    varianceUsd
    periodStart
    status := if 0 < varianceUsd then .pendingApproval else .pendingReview
    filedBy := input.filedBy
    filedAt := now
    decidedBy := none
    decidedAt := none
    decisionReason := none }

/-- The record that `decideInvoiceReconciliation` writes (lines 312–318). -/
def decidedRecord (input : DecisionInput) (existing : InvoiceReconciliation) (now : ℤ) :
    InvoiceReconciliation :=
  { existing with
    status := if input.approve then .approvedForPayment else .rejected
    decidedBy := some input.decidedBy
    decidedAt := some now
    decisionReason := input.reason }

/-- `decideInvoiceReconciliation` up to its write (lines 307–318); `existing` is what
`getInvoiceReconciliation` finds. -/
def decide? (input : DecisionInput) (existing : Option InvoiceReconciliation) (now : ℤ) :
    K8sResult InvoiceReconciliation :=
  match existing with
  | none => .error "not_found"
  | some record =>
    if record.status = .pendingApproval then .ok (decidedRecord input record now)
    else .error "not_decidable"

/-! ## The calls -/

/-- A call of the module. -/
inductive Request
  | record (input : FilingInput)
  | decide (input : DecisionInput)

/-- How a call ends. -/
inductive Outcome
  | recorded (result : K8sResult InvoiceReconciliation)
  | decided (result : K8sResult InvoiceReconciliation)
  | thrown (error : String)
  deriving DecidableEq

/-- Where a call stands: what it awaits, with the record that it files or decides. -/
inductive Phase
  | overage (input : FilingInput)
  | existing (input : DecisionInput)
  | write (decision : Bool) (record : InvoiceReconciliation)
  | audit (decision : Bool) (record : InvoiceReconciliation)
  | done (outcome : Outcome)
  deriving DecidableEq

/-- What an awaited operation answers, with the instant at which the call goes on. -/
inductive Answer
  | overage (result : K8sResult (Option Overage.StoredOverage)) (now : ℤ)
  | existing (read : K8sResult Unit) (now : ℤ)
  | write (result : K8sResult Unit)
  | audit (result : Except String Unit)

namespace Phase

/-- What a call returns. -/
def returned (decision : Bool) (result : K8sResult InvoiceReconciliation) : Phase :=
  .done (if decision then .decided result else .recorded result)

/-- A call up to its first await. -/
def enter : Request → Phase
  | .record input => .overage input
  | .decide input => .existing input

/-- The call goes on with an answer, if it waits for such an answer. -/
def resume (js : JsRuntime) (store : Store) : Phase → Answer → Option (Phase × Store)
  | .overage _, .overage (.error error) _ => some (returned false (.error error), store)
  | .overage input, .overage (.ok stored) now =>
    some (.write false (filedRecord js input stored now), store)
  | .existing _, .existing (.error error) _ => some (returned true (.error error), store)
  | .existing input, .existing (.ok ()) now =>
    match decide? input store[input.id]? now with
    | .error error => some (returned true (.error error), store)
    | .ok updated => some (.write true updated, store)
  | .write decision _, .write (.error error) => some (returned decision (.error error), store)
  | .write decision record, .write (.ok ()) =>
    some (.audit decision record, store.insert record.id record)
  | .audit _ _, .audit (.error error) => some (.done (.thrown error), store)
  | .audit decision record, .audit (.ok ()) => some (returned decision (.ok record), store)
  | _, _ => none

end Phase

/-- The module as a program of concurrent calls. Nobody else writes the ConfigMap. -/
def program (js : JsRuntime) : Program Store Phase Request Answer Empty where
  enter store request := (Phase.enter request, store)
  resume := Phase.resume js
  move store _ := store

/-- No call, no record. -/
def init : System Store Phase := { shared := ∅, calls := [] }

/-- The state that a run reaches. -/
abbrev reached (js : JsRuntime) (events : List (Event Request Answer Empty)) : System Store Phase :=
  run (program js).next init events

/-! ## The property and the condition -/

/-- The later record has the status, the decider, the purchase order and the amounts of the
earlier one. -/
structure Kept (record later : InvoiceReconciliation) : Prop where
  status : later.status = record.status
  decidedBy : later.decidedBy = record.decidedBy
  poNumber : later.poNumber = record.poNumber
  contractCapUsd : later.contractCapUsd = record.contractCapUsd
  overageCostUsd : later.overageCostUsd = record.overageCostUsd
  varianceUsd : later.varianceUsd = record.varianceUsd

/-- From any point of a run to any later one, the decided records are kept; and no two calls have
decided the same record. -/
structure DecisionsFinal (js : JsRuntime) (events : List (Event Request Answer Empty)) : Prop where
  kept : ∀ earlier later rest, events = earlier ++ later ++ rest → ∀ key : String,
    ∀ record ∈ (reached js earlier).shared[key]?, record.status.decided = true →
      ∃ after ∈ (reached js (earlier ++ later)).shared[key]?, Kept record after
  once : ∀ (i j : ℕ) a b, i ≠ j → (reached js events).calls[i]? = some (.done (.decided (.ok a))) →
    (reached js events).calls[j]? = some (.done (.decided (.ok b))) → a.id ≠ b.id

/-- The write does not find a decided record under its key. -/
def Phase.WritesUndecided (store : Store) : Phase → Prop
  | .write _ record => ∀ stored ∈ store[record.id]?, stored.status.decided = false
  | _ => True

instance (store : Store) (phase : Phase) : Decidable (phase.WritesUndecided store) := by
  unfold Phase.WritesUndecided; split <;> infer_instance

/-- A write that succeeds does not find a decided record under its key. -/
def Undisturbed (system : System Store Phase) : Event Request Answer Empty → Prop
  | .answer i (.write (.ok ())) => ∀ phase ∈ system.calls[i]?, phase.WritesUndecided system.shared
  | _ => True

instance (system : System Store Phase) (event : Event Request Answer Empty) :
    Decidable (Undisturbed system event) := by
  unfold Undisturbed; split <;> infer_instance

/-! ## How a call goes on -/

/-- The key of the record that the call has decided. -/
def Phase.decides : Phase → Option String
  | .audit true record | .done (.decided (.ok record)) => some record.id
  | _ => none

/-- A call that is about to write a decision has decided. -/
def Phase.Sound : Phase → Prop
  | .write decision record => decision = true → record.status.decided = true
  | _ => True

/-- A decision is an approval or a rejection of a record that is pending. -/
theorem decide?_eq_ok {input : DecisionInput} {existing : Option InvoiceReconciliation} {now : ℤ}
    {updated : InvoiceReconciliation} (h : decide? input existing now = .ok updated) :
    ∃ record, existing = some record ∧ record.status = .pendingApproval ∧ updated.id = record.id ∧
      updated.status.decided = true := by
  cases existing with
  | none => cases h
  | some record =>
    simp only [decide?] at h
    split_ifs at h with hstatus
    obtain rfl := Except.ok.inj h
    refine ⟨record, rfl, hstatus, rfl, ?_⟩
    show (if input.approve = true then Status.approvedForPayment else .rejected).decided = true
    split_ifs <;> rfl

variable {js : JsRuntime} {store : Store}

/-- The ways a call goes on: it reads, it writes, or its audit entry ends. -/
theorem Phase.resume_cases {phase : Phase} {answer : Answer} {after : Phase × Store}
    (h : phase.resume js store answer = some after) :
    (∃ new, after = (new, store) ∧ new.Sound ∧ ∀ key, new.decides = some key →
      phase.decides = some key) ∨
    ∃ decision record, phase = .write decision record ∧ answer = .write (.ok ()) ∧
      after = (.audit decision record, store.insert record.id record) := by
  unfold Phase.resume at h
  split at h
  · exact .inl ⟨_, (Option.some.inj h).symm, trivial, fun _ hkey => (by cases hkey)⟩
  · exact .inl ⟨_, (Option.some.inj h).symm, fun hfalse => (by cases hfalse),
      fun _ hkey => (by cases hkey)⟩
  · exact .inl ⟨_, (Option.some.inj h).symm, trivial, fun _ hkey => (by cases hkey)⟩
  · split at h
    · exact .inl ⟨_, (Option.some.inj h).symm, trivial, fun _ hkey => (by cases hkey)⟩
    · rename_i updated hupdated
      obtain ⟨_, -, -, -, hdecided⟩ := decide?_eq_ok hupdated
      exact .inl ⟨_, (Option.some.inj h).symm, fun _ => hdecided, fun _ hkey => (by cases hkey)⟩
  · rename_i decision _ error
    refine .inl ⟨_, (Option.some.inj h).symm, trivial, fun _ hkey => ?_⟩
    cases decision <;> cases hkey
  · exact .inr ⟨_, _, rfl, rfl, (Option.some.inj h).symm⟩
  · exact .inl ⟨_, (Option.some.inj h).symm, trivial, fun _ hkey => (by cases hkey)⟩
  · rename_i decision record
    refine .inl ⟨_, (Option.some.inj h).symm, trivial, fun _ hkey => ?_⟩
    cases decision with
    | false => cases hkey
    | true => exact hkey
  · cases h

/-! ## Decided records stay -/

/-- Every decided record of the first store is in the second. -/
def KeepsDecided (before after : System Store Phase) : Prop :=
  ∀ (key : String) record, before.shared[key]? = some record → record.status.decided = true →
    after.shared[key]? = some record

instance : Std.Refl KeepsDecided := ⟨fun _ _ _ hrecord _ => hrecord⟩

instance : IsTrans (System Store Phase) KeepsDecided :=
  ⟨fun _ _ _ h h' key record hrecord hdecided =>
    h' key record (h key record hrecord hdecided) hdecided⟩

theorem insert_keeps {new : InvoiceReconciliation}
    (h : ∀ stored ∈ store[new.id]?, stored.status.decided = false) {key : String}
    {record : InvoiceReconciliation} (hrecord : store[key]? = some record)
    (hdecided : record.status.decided = true) :
    (store.insert new.id new)[key]? = some record := by
  have hne : new.id ≠ key := by
    rintro rfl
    rw [h record hrecord] at hdecided
    cases hdecided
  rw [Std.ExtTreeMap.getElem?_insert, if_neg (by simpa using hne)]
  exact hrecord

/-- An undisturbed step leaves every decided record as it is. -/
theorem undisturbed_keeps (js : JsRuntime) (system : System Store Phase)
    (event : Event Request Answer Empty) (h : Undisturbed system event) :
    KeepsDecided system ((program js).next system event) := by
  intro key record hrecord hdecided
  cases event with
  | call request => exact hrecord
  | move change => exact change.elim
  | answer i answer =>
    rcases (program js).next_answer_cases system i answer with
      hnext | ⟨phase, after, hcall, hresume, hnext⟩
    · rw [hnext]
      exact hrecord
    · rw [hnext]
      rcases Phase.resume_cases hresume with ⟨new, rfl, -, -⟩ | ⟨decision, new, rfl, rfl, rfl⟩
      · exact hrecord
      · exact insert_keeps (h _ hcall) hrecord hdecided

/-! ## No record is decided twice -/

/-- The records that calls have decided are decided in the store, and no two calls have decided
the same. -/
def assertions : Assertions Store Phase Empty where
  shared _ := True
  call store phase := phase.Sound ∧
    ∀ key, phase.decides = some key → ∃ record ∈ store[key]?, record.status.decided = true
  apart a b := ∀ key, a.decides = some key → b.decides ≠ some key
  symm _ _ h key hb ha := h key ha hb
  settled _ _ := True
  owes _ _ _ := False

theorem hold_init : assertions.Hold init where
  shared := trivial
  call i phase hcall := by cases hcall
  apart i j a b _ hcall := by cases hcall
  accounted k := k.elim

/-- An undisturbed step keeps the assertions. -/
theorem hold_next (js : JsRuntime) (system : System Store Phase)
    (event : Event Request Answer Empty) (h : assertions.Hold system)
    (hundisturbed : Undisturbed system event) :
    assertions.Hold ((program js).next system event) := by
  refine Assertions.hold_next (C := Undisturbed) ?_ ?_ ?_ system event h hundisturbed
  · intro system request h _
    have hnew : (Phase.enter request).Sound ∧ (Phase.enter request).decides = none := by
      cases request <;> exact ⟨trivial, rfl⟩
    refine h.enter trivial ⟨hnew.1, fun key hkey => ?_⟩ (fun j call _ key hkey => ?_)
      (fun j call _ => .refl _ _ _) fun k => k.elim
    · cases hnew.2.symm.trans hkey
    · cases hnew.2.symm.trans hkey
  · intro system i answer phase after h hundisturbed hcall hresume
    obtain ⟨hsound, hdecides⟩ := h.call i phase hcall
    rcases Phase.resume_cases hresume with ⟨new, rfl, hnew, hsame⟩ | ⟨decision, new, rfl, rfl, rfl⟩
    · refine h.goesOn hcall ⟨hnew, fun key hkey => hdecides key (hsame key hkey)⟩ ?_
        fun k => k.elim
      intro j call hj hother key hkey
      exact h.apart i j phase call (Ne.symm hj) hcall hother key (hsame key hkey)
    · have hfree := hundisturbed _ hcall
      have hdecided : ∀ key, (Phase.audit decision new).decides = some key →
          new.id = key ∧ new.status.decided = true := by
        intro key hkey
        cases decision with
        | false => cases hkey
        | true => exact ⟨Option.some.inj hkey, hsound rfl⟩
      refine h.resume hcall trivial ⟨trivial, fun key hkey => ?_⟩ ?_ ?_ fun k => k.elim
      · obtain ⟨rfl, hstatus⟩ := hdecided key hkey
        exact ⟨new, by rw [Std.ExtTreeMap.getElem?_insert_self]; rfl, hstatus⟩
      · -- another call that has decided this record would have left it decided
        intro j call hj hother key hkey hcalls
        obtain ⟨rfl, -⟩ := hdecided key hkey
        obtain ⟨stored, hstored, hstatus⟩ := (h.call j call hother).2 _ hcalls
        rw [hfree stored hstored] at hstatus
        cases hstatus
      · intro j call _ _
        refine ⟨fun hcall => ⟨hcall.1, fun key hkey => ?_⟩, fun k => k.elim⟩
        obtain ⟨stored, hstored, hstatus⟩ := hcall.2 key hkey
        exact ⟨stored, insert_keeps hfree hstored hstatus, hstatus⟩
  · intro system change
    exact change.elim

/-! ## Runs -/

/-- In every run whose steps are all undisturbed, decisions are final. -/
theorem decisionsFinal_of_undisturbed (js : JsRuntime) (events : List (Event Request Answer Empty))
    (h : Along (program js).next Undisturbed init events) : DecisionsFinal js events where
  kept := by
    intro earlier later rest hevents key record hrecord hdecided
    rw [hevents] at h
    have hlater := (along_append.mp (along_append.mp h).1).2
    have hkeeps : KeepsDecided (reached js earlier) (reached js (earlier ++ later)) := by
      rw [reached, reached, run_append]
      exact run_rel_of_along (undisturbed_keeps js) hlater
    exact ⟨record, hkeeps key record hrecord hdecided, rfl, rfl, rfl, rfl, rfl, rfl⟩
  once := by
    intro i j a b hij ha hb hid
    have hhold : assertions.Hold (reached js events) :=
      always_iff.mp (always_of_along (hold_next js) hold_init h) events [] (by simp)
    refine hhold.apart i j _ _ hij ha hb a.id rfl ?_
    rw [hid]
    rfl

/-- A filing of a hundred dollars against a cap of fifty. -/
def filing (filedBy : String) : FilingInput where
  orgId := "acme"
  ns := "gymact"
  poNumber := "PO-1"
  contractCapUsd := 50
  filedBy

/-- The overage of the period that begins in 1970. -/
def overage : Overage.StoredOverage where
  periodStart := 0
  cpuCoreHoursOverage := 5000
  memoryGiBHoursOverage := 0
  overageCostUsd := 100
  lastInvoiceItemId := none
  computedAt := 0

/-- The key of that period. -/
def acmeKey : String := "acme.1970-01-01T00-00-00.000Z"

/-- A filing, the call numbered `i`. -/
def files (i : ℕ) (filedBy : String) : List (Event Request Answer Empty) :=
  [.call (.record (filing filedBy)), .answer i (.overage (.ok (some overage)) 0),
    .answer i (.write (.ok ())), .answer i (.audit (.ok ()))]

/-- A decision, the call numbered `i`, up to its write. -/
def decides (i : ℕ) (approve : Bool) (decidedBy : String) : List (Event Request Answer Empty) :=
  [.call (.decide { id := acmeKey, approve, decidedBy, reason := none }),
    .answer i (.existing (.ok ()) 1)]

/-- The answers to the write and to the audit entry. -/
def writes (i : ℕ) : List (Event Request Answer Empty) :=
  [.answer i (.write (.ok ())), .answer i (.audit (.ok ()))]

/-- A record that is filed and rejected, and a second decision that is refused. -/
theorem decisionsFinal_sequential :
    let events := files 0 "ann" ++ decides 1 false "bob" ++ writes 1 ++ decides 2 true "cy"
    ((reached gregorian events).shared[acmeKey]?.map (·.status) = some .rejected ∧
      (reached gregorian events).calls[2]? = some (.done (.decided (.error "not_decidable")))) ∧
    DecisionsFinal gregorian events := by
  intro events
  exact ⟨by decide +kernel,
    decisionsFinal_of_undisturbed gregorian events (by decide +kernel)⟩

/-- A status that changes after a decision. -/
theorem not_decisionsFinal {earlier later : List (Event Request Answer Empty)} (key : String)
    (status other : Status)
    (hearlier : (reached js earlier).shared[key]?.map (·.status) = some status)
    (hlater : (reached js (earlier ++ later)).shared[key]?.map (·.status) = some other)
    (hdecided : status.decided = true) (hne : other ≠ status) :
    ¬ DecisionsFinal js (earlier ++ later) := by
  intro h
  obtain ⟨record, hrecord, rfl⟩ := Option.map_eq_some_iff.mp hearlier
  obtain ⟨after, hafter, rfl⟩ := Option.map_eq_some_iff.mp hlater
  obtain ⟨kept, hkept, hsame⟩ :=
    h.kept earlier later [] (List.append_nil _).symm key record hrecord hdecided
  obtain rfl := Option.some.inj (hafter.symm.trans hkept)
  exact hne hsame.status

/-- A second filing for the period makes a rejected record pending again, and of two decisions
that overlap both succeed, the second over the first. -/
theorem decision_overwritten :
    let decided := files 0 "ann" ++ decides 1 false "bob" ++ writes 1
    let overlapping := files 0 "ann" ++ decides 1 false "bob" ++ decides 2 true "cy" ++ writes 1
    ¬ DecisionsFinal gregorian (decided ++ files 2 "ann") ∧
    (¬ DecisionsFinal gregorian (overlapping ++ writes 2) ∧
      (reached gregorian (overlapping ++ writes 2)).calls.map Phase.decides =
        [none, some acmeKey, some acmeKey]) := by
  intro decided overlapping
  refine ⟨?_, ?_, by decide +kernel⟩
  · exact not_decisionsFinal acmeKey .rejected .pendingApproval (by decide +kernel)
      (by decide +kernel) rfl (by decide)
  · exact not_decisionsFinal acmeKey .rejected .approvedForPayment (by decide +kernel)
      (by decide +kernel) rfl (by decide)

end ChatmanEcosystem.Console.Reconciliation
