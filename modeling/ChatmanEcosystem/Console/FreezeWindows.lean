import ChatmanEcosystem.Console.ApprovalWorkflow

/-!
# Change-freeze windows

Model of `platform-console/app/lib/freeze-windows.ts`, lines 49–278: the stored
windows, the one that is taken as the active freeze, and the guard that a
mutating action passes. A window is stored as JSON; the model stores the window,
and keeps of `isFreezeWindow` the check that the two dates can be read.

Results:

* `getActiveFreeze_eq_some`: which of several active windows is selected.
* `checkFreezeGuard_blocked_iff`: during a hard freeze the guard blocks exactly when no approval
  is on file where it looks for one.
-/

namespace ChatmanEcosystem.Console

open Common Js Rust

/-- `FreezeWindow` (lines 49–64). -/
structure FreezeWindow where
  id : String
  orgId : String
  startsAt : String
  endsAt : String
  reason : String
  createdBy : String
  createdAt : String
  allowEmergencyOverride : Bool
  deriving DecidableEq

/-- The data of the freeze-windows ConfigMap: one list for every organisation. -/
abbrev FreezeStore := Std.ExtTreeMap String (List FreezeWindow)

variable (js : JsRuntime)

/-- `isFreezeWindow` (lines 66–81) on a value with the fields of a window. -/
def isFreezeWindow (window : FreezeWindow) : Bool :=
  (js.dateParse window.startsAt).isSome && (js.dateParse window.endsAt).isSome

/-- `listFreezeWindows` (lines 100–106): a failed read is an empty list. -/
def listFreezeWindows (orgId : String) (read : K8sResult (Option FreezeStore)) :
    List FreezeWindow :=
  match read with
  | .error _ => []
  | .ok store => (((store.getD ∅)[orgId]?).getD []).filter (isFreezeWindow js)

/-- `Date.parse(window.endsAt)`, of a window whose dates can be read. -/
def endOf (window : FreezeWindow) : ℤ := (js.dateParse window.endsAt).getD 0

/-- `isFreezeActive` (lines 189–192). A comparison with `NaN` is false. -/
def isFreezeActive (window : FreezeWindow) (instant : ℤ) : Bool :=
  (js.dateParse window.startsAt).any (fun start => start ≤ instant) &&
    (js.dateParse window.endsAt).any fun finish => instant ≤ finish

/-- The order that `getActiveFreeze` sorts by (line 207): the later end first. -/
def endsLater (a b : FreezeWindow) : Bool := endOf js b - endOf js a ≤ 0

/-- `getActiveFreeze` (lines 202–210). -/
def getActiveFreeze (orgId : String) (read : K8sResult (Option FreezeStore)) (now : ℤ) :
    Option FreezeWindow :=
  (((listFreezeWindows js orgId read).filter fun window =>
    isFreezeActive js window now).mergeSort (endsLater js)).head?

/-- `FreezeGuardResult` (lines 221–231). -/
inductive FreezeGuardResult
  | notBlocked
  | blocked (freeze : FreezeWindow) (overrideRequest : Option ApprovalRequest)
  deriving DecidableEq

/-- What the awaited calls and the clock answer in one run of `checkFreezeGuard`, in
the order in which they are asked. -/
structure Answers where
  freezes : K8sResult (Option FreezeStore)
  now : ℤ
  approvals : K8sResult (Option ApprovalStore)
  clock : ℤ
  approvalsAgain : K8sResult (Option ApprovalStore)
  clockAgain : ℤ
  requestId : String
  requestedAt : ℤ
  write : K8sResult Unit

/-- `checkFreezeGuard` (lines 252–278). -/
def checkFreezeGuard (orgId requestedBy : String) (answers : Answers) :
    K8sResult FreezeGuardResult := do
  match getActiveFreeze js orgId answers.freezes answers.now with
  | none => return .notBlocked
  | some freeze =>
    match ← findApprovedRequest js .freezeOverride orgId answers.approvals answers.clock with
    | some _ => return .notBlocked
    | none =>
      if !freeze.allowEmergencyOverride then return .blocked freeze none
      else
        let input : ApprovalInput :=
          { action := .freezeOverride, targetId := orgId, requestedBy
            resourcePayload := some
              { requestedFreezeId := freeze.id, requestedFreezeReason := freeze.reason } }
        match ← requireApproval js input answers.approvalsAgain answers.clockAgain
          answers.requestId answers.requestedAt answers.write with
        | .inl _ => return .notBlocked
        | .inr request => return .blocked freeze (some request)

/-! ## The selected window -/

variable {js}

theorem endsLater_iff {a b : FreezeWindow} :
    endsLater js a b = true ↔ endOf js b ≤ endOf js a := by
  unfold endsLater
  rw [decide_eq_true_iff]
  omega

variable {orgId : String} {read : K8sResult (Option FreezeStore)} {now : ℤ} {window : FreezeWindow}

/-- The active freeze is the first active window, in the order they are stored, of
those that end last. -/
theorem getActiveFreeze_eq_some :
    getActiveFreeze js orgId read now = some window ↔
      FirstLeast (endsLater js)
        ((listFreezeWindows js orgId read).filter fun window => isFreezeActive js window now)
        window := by
  refine head?_mergeSort_eq_some ?_ ?_
  · intro a b c hab hbc
    rw [endsLater_iff] at hab hbc ⊢
    exact hbc.trans hab
  · intro a b
    rw [Bool.or_eq_true, endsLater_iff, endsLater_iff]
    exact Int.le_total _ _

/-- While a window is active, some active window is selected. -/
theorem exists_activeFreeze (hmem : window ∈ listFreezeWindows js orgId read)
    (hactive : isFreezeActive js window now = true) :
    ∃ freeze, getActiveFreeze js orgId read now = some freeze := by
  rw [← Option.isSome_iff_exists, Option.isSome_iff_ne_none]
  intro h
  have hnil := head?_mergeSort_eq_none.mp h
  have hin : window ∈ (listFreezeWindows js orgId read).filter fun window =>
      isFreezeActive js window now := List.mem_filter.mpr ⟨hmem, hactive⟩
  rw [hnil] at hin
  cases hin

/-! ## The guard during a hard freeze -/

/-- During a hard freeze, with the reads succeeding, the guard blocks exactly when it
finds no approval at its first look, and the selected window is hard or it finds
none at its second look either and can write the new request. -/
theorem checkFreezeGuard_blocked_iff (js : JsRuntime) (orgId requestedBy : String)
    (answers : Answers)
    (approvals approvalsAgain : Option ApprovalStore)
    (happrovals : answers.approvals = .ok approvals)
    (hagain : answers.approvalsAgain = .ok approvalsAgain)
    (hhard : ∃ window ∈ listFreezeWindows js orgId answers.freezes,
      isFreezeActive js window answers.now = true ∧ window.allowEmergencyOverride = false) :
    (∃ freeze request, checkFreezeGuard js orgId requestedBy answers =
      .ok (.blocked freeze request)) ↔
    ¬ HasFresh js .freezeOverride orgId approvals answers.clock ∧
      ((∃ window, FirstLeast (endsLater js)
          ((listFreezeWindows js orgId answers.freezes).filter fun window =>
            isFreezeActive js window answers.now) window ∧
          window.allowEmergencyOverride = false) ∨
        ¬ HasFresh js .freezeOverride orgId approvalsAgain answers.clockAgain ∧
          answers.write = .ok ()) := by
  obtain ⟨hard, hmem, hactive, -⟩ := hhard
  obtain ⟨freeze, hfreeze⟩ := exists_activeFreeze hmem hactive
  obtain ⟨found, hfound, hfresh⟩ :=
    findApprovedRequest_ok js .freezeOverride orgId approvals answers.clock
  obtain ⟨again, hfoundAgain, hfreshAgain⟩ :=
    findApprovedRequest_ok js .freezeOverride orgId approvalsAgain answers.clockAgain
  have hselected : (∃ window, FirstLeast (endsLater js)
      ((listFreezeWindows js orgId answers.freezes).filter fun window =>
        isFreezeActive js window answers.now) window ∧ window.allowEmergencyOverride = false) ↔
      freeze.allowEmergencyOverride = false := by
    simp only [← getActiveFreeze_eq_some, hfreeze, Option.some.injEq, exists_eq_left']
  rw [hselected, ← hfresh, ← hfreshAgain]
  unfold checkFreezeGuard
  simp only [hfreeze, happrovals, hfound, hagain]
  cases found with
  | some approval =>
    refine iff_of_false ?_ (fun h => by cases h.1)
    rintro ⟨_, _, h⟩
    cases h
  | none =>
    cases hallow : freeze.allowEmergencyOverride with
    | false => exact iff_of_true ⟨freeze, none, rfl⟩ ⟨rfl, .inl rfl⟩
    | true =>
      -- the second look, and the write of the request
      simp only [true_and, reduceCtorEq, false_or]
      unfold requireApproval
      simp only [hfoundAgain]
      cases again with
      | some approval =>
        refine iff_of_false ?_ (fun h => by cases h.1)
        rintro ⟨_, _, h⟩
        cases h
      | none =>
        cases hwrite : answers.write with
        | error error =>
          refine iff_of_false ?_ (fun h => by cases h.2)
          rintro ⟨_, _, h⟩
          cases h
        | ok _ => exact iff_of_true ⟨freeze, _, rfl⟩ ⟨rfl, rfl⟩

/-! ## A quarter close -/

/-- A hard window over the end of the year. -/
def quarterClose : FreezeWindow where
  id := "w1"
  orgId := "org-1"
  startsAt := "2026-12-28T00:00:00.000Z"
  endsAt := "2027-01-04T00:00:00.000Z"
  reason := "quarter close"
  createdBy := "owner@org-1"
  createdAt := "2026-12-01T00:00:00.000Z"
  allowEmergencyOverride := false

/-- The answers at 2026-12-31T00:00:00Z with the hard window stored. -/
def quarterCloseAnswers (approvals : ApprovalStore) : Answers where
  freezes := .ok (some (Std.ExtTreeMap.ofList [("org-1", [quarterClose])]))
  now := 1798675200000
  approvals := .ok (some approvals)
  clock := 1798675200000
  approvalsAgain := .ok (some approvals)
  clockAgain := 1798675200000
  requestId := "r2"
  requestedAt := 1798675200000
  write := .ok ()

/-- Without an approval the quarter close blocks. -/
theorem blocked_without_approval : ∃ freeze request,
    checkFreezeGuard gregorian "org-1" "alice" (quarterCloseAnswers ∅) =
      .ok (.blocked freeze request) := by
  have hactive : (listFreezeWindows gregorian "org-1" (quarterCloseAnswers ∅).freezes).filter
      (fun window => isFreezeActive gregorian window (quarterCloseAnswers ∅).now) =
      [quarterClose] := by decide +kernel
  have hmem : quarterClose ∈ (listFreezeWindows gregorian "org-1"
      (quarterCloseAnswers ∅).freezes).filter
      (fun window => isFreezeActive gregorian window (quarterCloseAnswers ∅).now) := by
    rw [hactive]
    exact List.mem_singleton_self _
  obtain ⟨hstored, hnow⟩ := List.mem_filter.mp hmem
  refine (checkFreezeGuard_blocked_iff gregorian "org-1" "alice" (quarterCloseAnswers ∅) _ _ rfl rfl
    ⟨quarterClose, hstored, hnow, rfl⟩).mpr ⟨?_, .inl ⟨quarterClose, ?_, rfl⟩⟩
  · rintro ⟨requestId, request, hrow, -⟩
    rw [Option.getD_some, Std.ExtTreeMap.getElem?_empty] at hrow
    cases hrow
  · rw [hactive]
    exact ⟨[], [], rfl, by simp, by simp⟩

/-- Alice files a freeze override and Bob approves it an hour later; the quarter close,
which allows no override, no longer blocks. -/
theorem approved_override_lifts_hard_freeze :
    let input : ApprovalInput :=
      { action := .freezeOverride, targetId := "org-1", requestedBy := "alice"
        resourcePayload := none }
    let decision : DecisionInput :=
      { requestId := "r1", approve := true, approvedBy := "bob", reason := none }
    ∃ filed approved,
      createApprovalRequest gregorian input "r1" 1798664400000 (.ok ()) = .ok filed ∧
      recordApprovalDecision gregorian decision
        (.ok (some (Std.ExtTreeMap.ofList [("r1", filed)]))) 1798668000000 = .ok approved ∧
      isFreezeActive gregorian quarterClose 1798675200000 = true ∧
      quarterClose.allowEmergencyOverride = false ∧
      checkFreezeGuard gregorian "org-1" "alice"
        (quarterCloseAnswers (Std.ExtTreeMap.ofList [("r1", approved)])) = .ok .notBlocked := by
  intro input decision
  refine ⟨newRequest gregorian input "r1" 1798664400000,
    { newRequest gregorian input "r1" 1798664400000 with
      status := .approved, approvedBy := some "bob"
      approvedAt := some (gregorian.toISOString 1798668000000) }, rfl, ?_, ?_, rfl, ?_⟩
  · decide +kernel
  · decide +kernel
  · decide +kernel

end ChatmanEcosystem.Console
