import ChatmanEcosystem.Common.Concurrent
import ChatmanEcosystem.Console.ApprovalWorkflow

/-!
# Concurrent approval decisions

`createApprovalRequest` and `recordApprovalDecision`
(`platform-console/app/lib/approval-workflow.ts`, lines 940–999), any number of
which run at once over one ConfigMap. A decision reads the row, checks that it is
pending, and then overwrites it, whatever is stored by then.

Results:

* `inv_next`: a row that is decided was decided by two persons, in a call that
  returned success.
* `final_next`: a write keeps the decisions exactly when it finds no decided row.
* `final_iff`: runs in which decisions are final.
-/

namespace ChatmanEcosystem.Console

open Common Common.Concurrent Js
open Rust

variable (js : JsRuntime)

/-! ## Calls -/

/-- Where a call stands. -/
inductive ApprovalCall
  /-- `createApprovalRequest` awaits the write of its row (line 956). -/
  | filing (request : ApprovalRequest)
  | filed (request : ApprovalRequest)
  /-- `recordApprovalDecision` awaits the rows (line 981). -/
  | reading (input : DecisionInput)
  /-- It awaits the write of the updated row (line 994). -/
  | deciding (requestId : String) (updated : ApprovalRequest)
  | decided (requestId : String) (updated : ApprovalRequest)
  | failed (error : String)
  deriving DecidableEq

/-- A call of one of the two functions; a creation comes with the id and the time that it takes
before its first await. -/
inductive ApprovalCallRequest
  | create (input : ApprovalInput) (requestId : String) (now : ℤ)
  | decide (input : DecisionInput)

/-- What an awaited call answers; with the rows comes the time that a decision takes next. -/
inductive ApprovalAnswer
  | read (succeeded : Bool) (now : ℤ)
  | written (succeeded : Bool)

/-- A call up to its first await. -/
def ApprovalCallRequest.start : ApprovalCallRequest → ApprovalCall
  | create input requestId now => .filing (newRequest js input requestId now)
  | decide input => .reading input

/-- The two functions from an answer on. -/
def resumeApproval (store : ApprovalStore) : ApprovalCall → ApprovalAnswer →
    Option (ApprovalCall × ApprovalStore)
  | .filing request, .written true =>
    some (.filed request, store.insert request.requestId request)
  | .filing _, .written false => some (.failed "write failed", store)
  | .reading input, .read succeeded now =>
    let read := if succeeded then .ok (some store) else .error "read failed"
    match recordApprovalDecision js input read now with
    | .ok updated => some (.deciding input.requestId updated, store)
    | .error error => some (.failed error, store)
  | .deciding requestId updated, .written true =>
    some (.decided requestId updated, store.insert requestId updated)
  | .deciding _ _, .written false => some (.failed "write failed", store)
  | _, _ => none

/-- The two functions over one ConfigMap. -/
def approvalProgram :
    Program ApprovalStore ApprovalCall ApprovalCallRequest ApprovalAnswer Empty where
  enter store request := (request.start js, store)
  resume := resumeApproval js
  move store _ := store

/-- The rows and the calls. -/
abbrev ApprovalSystem := System ApprovalStore ApprovalCall

/-- A step of the system. -/
abbrev ApprovalEvent := Event ApprovalCallRequest ApprovalAnswer Empty

/-! ## What decisions are to be -/

/-- The decision is by somebody else than the requester. -/
def ApprovalRequest.TwoPerson (row : ApprovalRequest) : Prop :=
  ∃ approver, row.approvedBy = some approver ∧ row.requestedBy ≠ approver

/-- The decision, the approver and the time are the same. -/
def SameDecision (a b : ApprovalRequest) : Prop :=
  a.status = b.status ∧ a.approvedBy = b.approvedBy ∧ a.approvedAt = b.approvedAt

/-- The request for which a decision has returned success. -/
def ApprovalCall.decidedId : ApprovalCall → Option String
  | decided requestId _ => some requestId
  | _ => none

/-- Approvals are by two persons, what a decision has returned stays stored, and no two decisions
for one request return success. -/
structure Final (system : ApprovalSystem) : Prop where
  twoPerson : ∀ (requestId : String) row, system.shared[requestId]? = some row →
    row.status = .approved → row.TwoPerson
  kept : ∀ requestId row, .decided requestId row ∈ system.calls →
    ∃ stored, system.shared[requestId]? = some stored ∧ SameDecision stored row
  once : ∀ (i j : ℕ) a b, i ≠ j → system.calls[i]? = some a → system.calls[j]? = some b →
    ∀ requestId, a.decidedId = some requestId → b.decidedId ≠ some requestId

/-- The row under an id, if there is one, is pending. -/
def PendingAt (store : ApprovalStore) (requestId : String) : Prop :=
  ∀ row, store[requestId]? = some row → row.status = .pending

/-- A write that succeeds finds no decided row under its id. -/
def FindsPending (system : ApprovalSystem) : ApprovalEvent → Prop
  | .answer i (.written true) =>
    match system.calls[i]? with
    | some (.filing request) => PendingAt system.shared request.requestId
    | some (.deciding requestId _) => PendingAt system.shared requestId
    | _ => True
  | _ => True

variable {js}

/-! ## Steps -/

/-- What a call can do when it goes on: write a row, or leave the rows alone. -/
inductive ApprovalStep (store : ApprovalStore) :
    ApprovalCall → ApprovalAnswer → ApprovalCall → ApprovalStore → Prop
  | stops {call answer} (hanswer : answer ≠ .written true) (hcall : call.decidedId = none) (error) :
      ApprovalStep store call answer (.failed error) store
  | decides {input answer updated} (hanswer : answer ≠ .written true)
      (hstatus : updated.status ≠ .pending) (htwo : updated.TwoPerson) :
      ApprovalStep store (.reading input) answer (.deciding input.requestId updated) store
  | files (request) : ApprovalStep store (.filing request) (.written true) (.filed request)
      (store.insert request.requestId request)
  | records (requestId updated) : ApprovalStep store (.deciding requestId updated) (.written true)
      (.decided requestId updated) (store.insert requestId updated)

/-- A decision that passes the checks is one of two persons. -/
theorem recordApprovalDecision_decided {input : DecisionInput}
    {read : K8sResult (Option ApprovalStore)} {now : ℤ} {updated : ApprovalRequest}
    (h : recordApprovalDecision js input read now = .ok updated) :
    updated.status ≠ .pending ∧ updated.TwoPerson := by
  obtain ⟨hby, hdistinct⟩ := recordApprovalDecision_distinct h
  refine ⟨?_, input.approvedBy, hby, hdistinct⟩
  obtain ⟨found, -, h⟩ := bind_eq_ok.mp h
  cases found with
  | none => cases h
  | some existing =>
    simp only [bind_eq_ok, ensure_eq_ok, pure_eq_ok] at h
    obtain ⟨_, -, _, -, rfl⟩ := h
    show (if input.approve then ApprovalStatus.approved else .rejected) ≠ .pending
    split_ifs <;> simp

variable {store : ApprovalStore} {call : ApprovalCall} {answer : ApprovalAnswer}

theorem approvalStep_of_resume {after : ApprovalCall × ApprovalStore}
    (h : resumeApproval js store call answer = some after) :
    ApprovalStep store call answer after.1 after.2 := by
  unfold resumeApproval at h
  split at h
  · obtain rfl := Option.some.inj h
    exact .files _
  · obtain rfl := Option.some.inj h
    exact .stops (by simp) rfl _
  · simp only at h
    split at h
    · next hdecision =>
      obtain rfl := Option.some.inj h
      obtain ⟨hstatus, htwo⟩ := recordApprovalDecision_decided hdecision
      exact .decides (by simp) hstatus htwo
    · obtain rfl := Option.some.inj h
      exact .stops (by simp) rfl _
  · obtain rfl := Option.some.inj h
    exact .records _ _
  · obtain rfl := Option.some.inj h
    exact .stops (by simp) rfl _
  · cases h

/-! ## What holds without a condition -/

/-- What a call is about to write, or has written. -/
def ApprovalCall.WellMade : ApprovalCall → Prop
  | filing request => request.status = .pending
  | deciding _ row | decided _ row => row.status ≠ .pending ∧ row.TwoPerson
  | _ => True

/-- A stored row is pending, or was decided by two persons in a call that returned success. -/
structure ApprovalInv (system : ApprovalSystem) : Prop where
  calls : ∀ call ∈ system.calls, call.WellMade
  rows : ∀ (requestId : String) row, system.shared[requestId]? = some row →
    row.status = .pending ∨
      row.TwoPerson ∧ ∃ call ∈ system.calls, call.decidedId = some requestId

theorem inv_next (system : ApprovalSystem) (event : ApprovalEvent) (h : ApprovalInv system) :
    ApprovalInv ((approvalProgram js).next system event) := by
  have hdecided : ∀ requestId, (∃ call ∈ system.calls, call.decidedId = some requestId) →
      ∃ call ∈ ((approvalProgram js).next system event).calls,
        call.decidedId = some requestId := by
    intro requestId
    refine Program.exists_call_next ?_ event
    rintro store call answer after hresume hid
    cases call with
    | decided requestId row => cases hresume
    | _ => cases hid
  cases event with
  | call request =>
    refine ⟨fun call hcall => ?_, fun requestId row hrow => ?_⟩
    · rcases List.mem_append.mp hcall with hcall | hcall
      · exact h.calls call hcall
      · rw [List.mem_singleton.mp hcall]
        cases request with
        | create input requestId now => exact rfl
        | decide input => trivial
    · exact (h.rows requestId row hrow).imp_right fun ⟨htwo, hcall⟩ => ⟨htwo, hdecided _ hcall⟩
  | move change => exact change.elim
  | answer i answer =>
    rcases (approvalProgram js).next_answer_cases system i answer with
      hnext | ⟨call, ⟨next, store⟩, hcall, hresume, hnext⟩
    · rw [hnext]
      exact h
    · rw [hnext] at hdecided ⊢
      have hmade := h.calls call (List.mem_of_getElem? hcall)
      have hlt : i < system.calls.length := (List.getElem?_eq_some_iff.mp hcall).1
      have hcalls : next.WellMade → ∀ call ∈ system.calls.set i next, call.WellMade := by
        intro hnew call hmem
        rcases List.mem_or_eq_of_mem_set hmem with hold | rfl
        · exact h.calls call hold
        · exact hnew
      have hrows : ∀ (requestId : String) row, system.shared[requestId]? = some row →
          row.status = .pending ∨ row.TwoPerson ∧
            ∃ call ∈ system.calls.set i next, call.decidedId = some requestId := fun _ _ hrow =>
        (h.rows _ _ hrow).imp_right fun ⟨htwo, hcall⟩ => ⟨htwo, hdecided _ hcall⟩
      have hstep : ApprovalStep system.shared call answer next store :=
        approvalStep_of_resume hresume
      cases hstep with
      | stops hanswer hnone error => exact ⟨hcalls trivial, hrows⟩
      | decides hanswer hstatus htwo => exact ⟨hcalls ⟨hstatus, htwo⟩, hrows⟩
      | files request =>
        refine ⟨hcalls trivial, fun requestId row hrow => ?_⟩
        rw [Std.ExtTreeMap.getElem?_insert] at hrow
        split_ifs at hrow with hid
        · obtain rfl := Option.some.inj hrow
          exact .inl hmade
        · exact hrows requestId row hrow
      | records requestId updated =>
        refine ⟨hcalls hmade, fun other row hrow => ?_⟩
        rw [Std.ExtTreeMap.getElem?_insert] at hrow
        split_ifs at hrow with hid
        · obtain rfl := Std.LawfulEqCmp.compare_eq_iff_eq.mp hid
          obtain rfl := Option.some.inj hrow
          exact .inr ⟨hmade.2, _, List.mem_set hlt _, rfl⟩
        · exact hrows other row hrow

variable {system : ApprovalSystem} {requestId : String}

/-- Only a decided row is found decided. -/
theorem ApprovalInv.exists_decided (h : ApprovalInv system)
    (hnot : ¬ PendingAt system.shared requestId) :
    ∃ call ∈ system.calls, call.decidedId = some requestId := by
  unfold PendingAt at hnot
  push Not at hnot
  obtain ⟨row, hrow, hstatus⟩ := hnot
  exact ((h.rows requestId row hrow).resolve_left hstatus).2

theorem eq_decided (h : call.decidedId = some requestId) :
    ∃ row, call = .decided requestId row := by
  cases call with
  | decided other row =>
    obtain rfl := Option.some.inj h
    exact ⟨row, rfl⟩
  | _ => cases h

/-- No call has decided a request whose row is pending. -/
theorem Final.not_decided (h : Final system) (hinv : ApprovalInv system)
    (hpending : PendingAt system.shared requestId) (hcall : call ∈ system.calls) :
    call.decidedId ≠ some requestId := by
  intro hid
  obtain ⟨row, rfl⟩ := eq_decided hid
  obtain ⟨stored, hstored, hsame⟩ := h.kept requestId row hcall
  have hmade : row.status ≠ .pending := (hinv.calls _ hcall).1
  exact hmade (hsame.1 ▸ hpending stored hstored)

variable {i : ℕ} {next : ApprovalCall}

/-- A call that has not decided goes on to one that has not. -/
theorem Final.set (h : Final system) (hcall : system.calls[i]? = some call)
    (hold : call.decidedId = none) (hnext : next.decidedId = none)
    (htwo : ∀ (requestId : String) row, store[requestId]? = some row → row.status = .approved →
      row.TwoPerson) (hkept : ∀ requestId row, .decided requestId row ∈ system.calls →
      ∃ stored, store[requestId]? = some stored ∧ SameDecision stored row) :
    Final { shared := store, calls := system.calls.set i next } where
  twoPerson := htwo
  kept requestId row hmem := by
    have hne : ApprovalCall.decided requestId row ≠ call := by
      rintro rfl
      cases hold
    rcases (mem_set_iff_of_ne hcall hne).mp hmem with rfl | hmem
    · cases hnext
    · exact hkept requestId row hmem
  once := by
    refine pairwise_set (fun a b hab id hb ha => hab id ha hb) h.once ?_
    intro j other _ _ id hid
    rw [hnext] at hid
    cases hid

theorem findsPending_of_ne (h : answer ≠ .written true) :
    FindsPending system (.answer i answer) := by
  match answer, h with
  | .read _ _, _ => trivial
  | .written false, _ => trivial

/-- A call goes on: the decisions are kept exactly when a write that succeeds finds no decided
row. -/
theorem final_resume (hinv : ApprovalInv system) (h : Final system)
    (hcall : system.calls[i]? = some call)
    (hstep : ApprovalStep system.shared call answer next store) :
    Final { shared := store, calls := system.calls.set i next } ↔
      FindsPending system (.answer i answer) := by
  have hmade := hinv.calls call (List.mem_of_getElem? hcall)
  have hlt : i < system.calls.length := (List.getElem?_eq_some_iff.mp hcall).1
  cases hstep with
  | stops hanswer hnone error =>
    exact iff_of_true (h.set hcall hnone rfl h.twoPerson h.kept) (findsPending_of_ne hanswer)
  | decides hanswer hstatus htwo =>
    exact iff_of_true (h.set hcall rfl rfl h.twoPerson h.kept) (findsPending_of_ne hanswer)
  | files request =>
    have hfinds : FindsPending system (.answer i (.written true)) ↔
        PendingAt system.shared request.requestId := by
      simp only [FindsPending, hcall]
    rw [hfinds]
    constructor
    · intro hnext
      by_contra hnot
      -- the new row replaces a decision that was returned
      obtain ⟨other, hother, hid⟩ := hinv.exists_decided hnot
      obtain ⟨row, rfl⟩ := eq_decided hid
      have hmem : .decided request.requestId row ∈ system.calls.set i (.filed request) :=
        (mem_set_iff_of_ne hcall (by simp)).mpr (.inr hother)
      obtain ⟨stored, hstored, hsame⟩ := hnext.kept _ _ hmem
      rw [Std.ExtTreeMap.getElem?_insert_self] at hstored
      obtain rfl := Option.some.inj hstored
      have hrow : row.status ≠ .pending := (hinv.calls _ hother).1
      exact hrow (hsame.1 ▸ hmade)
    · intro hpending
      refine h.set hcall rfl rfl (fun id row hrow happroved => ?_) fun id row hmem => ?_
      · rw [Std.ExtTreeMap.getElem?_insert] at hrow
        split_ifs at hrow
        · obtain rfl := Option.some.inj hrow
          have hpendingRow : request.status = .pending := hmade
          rw [hpendingRow] at happroved
          cases happroved
        · exact h.twoPerson id row hrow happroved
      · have hne : request.requestId ≠ id := by
          rintro rfl
          exact h.not_decided hinv hpending hmem rfl
        rw [Std.ExtTreeMap.getElem?_insert, if_neg (by simpa using hne)]
        exact h.kept id row hmem
  | records requestId updated =>
    have hfinds : FindsPending system (.answer i (.written true)) ↔
        PendingAt system.shared requestId := by
      simp only [FindsPending, hcall]
    rw [hfinds]
    constructor
    · intro hnext
      by_contra hnot
      -- another call has decided the request
      obtain ⟨other, hother, hid⟩ := hinv.exists_decided hnot
      obtain ⟨j, hj⟩ := List.mem_iff_getElem?.mp hother
      have hji : j ≠ i := by
        rintro rfl
        obtain rfl := Option.some.inj (hcall.symm.trans hj)
        cases hid
      refine hnext.once i j _ other (Ne.symm hji) (List.getElem?_set_self hlt) ?_ requestId rfl hid
      rw [List.getElem?_set_ne (Ne.symm hji)]
      exact hj
    · intro hpending
      refine ⟨fun id row hrow happroved => ?_, fun id row hmem => ?_, ?_⟩
      · rw [Std.ExtTreeMap.getElem?_insert] at hrow
        split_ifs at hrow
        · obtain rfl := Option.some.inj hrow
          exact hmade.2
        · exact h.twoPerson id row hrow happroved
      · rcases (mem_set_iff_of_ne hcall (by simp)).mp hmem with hnew | hold
        · obtain ⟨rfl, rfl⟩ := ApprovalCall.decided.inj hnew
          exact ⟨row, Std.ExtTreeMap.getElem?_insert_self, rfl, rfl, rfl⟩
        · have hne : requestId ≠ id := by
            rintro rfl
            exact h.not_decided hinv hpending hold rfl
          rw [Std.ExtTreeMap.getElem?_insert, if_neg (by simpa using hne)]
          exact h.kept id row hold
      · refine pairwise_set (fun a b hab id hb ha => hab id ha hb) h.once ?_
        intro j other _ hj id hid
        obtain rfl := Option.some.inj hid
        exact h.not_decided hinv hpending (List.mem_of_getElem? hj)

/-- An event keeps the decisions exactly when, as a write that succeeds, it finds no decided row. -/
theorem final_next (system : ApprovalSystem) (event : ApprovalEvent) (hinv : ApprovalInv system)
    (h : Final system) :
    Final ((approvalProgram js).next system event) ↔ FindsPending system event := by
  refine Program.next_iff ?_ ?_ ?_ (fun change => change.elim) event
  · intro request
    have hnone : ((approvalProgram js).enter system.shared request).1.decidedId = none := by
      cases request <;> rfl
    refine iff_of_true ⟨h.twoPerson, fun id row hmem => ?_, ?_⟩ trivial
    · rcases List.mem_append.mp hmem with hold | hnew
      · exact h.kept id row hold
      · rw [← List.mem_singleton.mp hnew] at hnone
        cases hnone
    · refine pairwise_concat (fun a b hab id hb ha => hab id ha hb) h.once ?_
      intro j other _ id hid
      rw [hnone] at hid
      cases hid
  · intro i answer call after hcall hresume
    exact final_resume hinv h hcall (approvalStep_of_resume hresume)
  · intro i answer hnone
    refine iff_of_true h ?_
    by_cases hanswer : answer = .written true
    · subst hanswer
      cases hcall : system.calls[i]? with
      | none => simp [FindsPending, hcall]
      | some call =>
        have hignored := hnone call hcall
        cases call with
        | filing request => cases hignored
        | deciding requestId updated => cases hignored
        | _ => simp [FindsPending, hcall]
    · exact findsPending_of_ne hanswer

/-- In runs of creations and decisions by any actors, with reads and writes that fail, approvals are
by two persons and decisions final exactly when every write that succeeds finds no decided row under
its id. -/
theorem final_iff (js : JsRuntime) (events : List ApprovalEvent) :
    Always (approvalProgram js).next Final { shared := ∅, calls := [] } events ↔
      Along (approvalProgram js).next FindsPending { shared := ∅, calls := [] } events := by
  refine always_iff_along inv_next final_next ?_ ?_
  · exact ⟨by simp, by simp⟩
  · exact ⟨by simp, by simp, by simp⟩

/-! ## Two deciders -/

/-- A decision on the request `r1`. -/
def decisionOn (approve : Bool) (approvedBy : String) : DecisionInput where
  requestId := "r1"
  approve
  approvedBy
  reason := none

/-- Bob approves and Carol rejects, having both read the request while it was pending: both calls
return success, and the stored decision is Carol's. -/
theorem overlapping_decisions_not_final :
    let input : ApprovalInput :=
      { action := .orgDelete, targetId := "org-1", requestedBy := "alice", resourcePayload := none }
    let events : List ApprovalEvent :=
      [.call (.create input "r1" 1798664400000), .answer 0 (.written true),
       .call (.decide (decisionOn true "bob")), .call (.decide (decisionOn false "carol")),
       .answer 1 (.read true 1798668000000), .answer 2 (.read true 1798668000001),
       .answer 1 (.written true), .answer 2 (.written true)]
    let system := run (approvalProgram gregorian).next { shared := ∅, calls := [] } events
    system.calls.map ApprovalCall.decidedId = [none, some "r1", some "r1"] ∧
    (system.shared["r1"]?.map fun row => (row.status, row.approvedBy)) =
      some (.rejected, some "carol") ∧
    ¬ Final system := by
  intro input events system
  have hcalls : system.calls.map ApprovalCall.decidedId = [none, some "r1", some "r1"] := by
    decide +kernel
  refine ⟨hcalls, by decide +kernel, fun hfinal => ?_⟩
  have hdecided : ∀ i : ℕ, (system.calls.map ApprovalCall.decidedId)[i]? = some (some "r1") →
      ∃ call, system.calls[i]? = some call ∧ call.decidedId = some "r1" := by
    intro i hi
    rw [List.getElem?_map] at hi
    exact Option.map_eq_some_iff.mp hi
  obtain ⟨bob, hbob, hbobId⟩ := hdecided 1 (by rw [hcalls]; rfl)
  obtain ⟨carol, hcarol, hcarolId⟩ := hdecided 2 (by rw [hcalls]; rfl)
  exact hfinal.once 1 2 bob carol (by decide) hbob hcarol "r1" hbobId hcarolId

end ChatmanEcosystem.Console
