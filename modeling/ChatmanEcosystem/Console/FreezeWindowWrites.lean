import ChatmanEcosystem.Common.Concurrent
import ChatmanEcosystem.Console.FreezeWindows

/-!
# Writes of the freeze-window list

Model of `createFreezeWindow` and `deleteFreezeWindow`
(`platform-console/app/lib/freeze-windows.ts`, lines 108–184), any number of which
run at once. Both read the list of an organisation, change it in memory and write
the whole list back; a failed read is the empty list.

Results:

* `noneLost_next`: a write keeps what is to be kept exactly when the list that it
  was made from has it.
* `noneLost_iff`: runs in which no window is lost.
* `noneLost_of_foundAsRead`: writes that find the list as it was read lose nothing.
-/

namespace ChatmanEcosystem.Console

open Common Common.Concurrent Js

/-! ## Calls -/

/-- `CreateFreezeWindowInput` (lines 123–130). -/
structure CreateFreezeWindowInput where
  orgId : String
  startsAt : String
  endsAt : String
  reason : String
  createdBy : String
  allowEmergencyOverride : Bool
  deriving DecidableEq

variable (js : JsRuntime)

/-- The window that `createFreezeWindow` makes (lines 156–165). -/
def newFreezeWindow (input : CreateFreezeWindowInput) (id : String) (now : ℤ) : FreezeWindow where
  id
  orgId := input.orgId
  startsAt := input.startsAt
  endsAt := input.endsAt
  reason := input.reason
  createdBy := input.createdBy
  createdAt := js.toISOString now
  allowEmergencyOverride := input.allowEmergencyOverride

/-- Where a call stands. -/
inductive FreezeCall
  /-- `createFreezeWindow` awaits the list (line 153). -/
  | creating (input : CreateFreezeWindowInput)
  /-- It awaits the write of the list with the window (line 166). -/
  | adding (existing : List FreezeWindow) (window : FreezeWindow)
  | created (window : FreezeWindow)
  | createFailed
  /-- `deleteFreezeWindow` awaits the list (line 177). -/
  | deleting (orgId id : String)
  /-- It awaits the write of the list without the window (line 181). -/
  | removing (orgId id : String) (existing : List FreezeWindow)
  | deleted (orgId id : String)
  | notFound (orgId id : String)
  | deleteFailed (orgId id : String)
  deriving DecidableEq

/-- A call of one of the two functions. -/
inductive FreezeRequest
  | create (input : CreateFreezeWindowInput)
  | delete (orgId id : String)

/-- What an awaited call answers; with the list come the id and the time that
`createFreezeWindow` takes next. -/
inductive FreezeAnswer
  | read (succeeded : Bool) (id : String) (now : ℤ)
  | written (succeeded : Bool)

/-- A call up to the read that it awaits. -/
def FreezeRequest.start : FreezeRequest → FreezeCall
  | create input => .creating input
  | delete orgId id => .deleting orgId id

/-- The answer of `getConfigMap`. -/
def readFreezeStore (store : FreezeStore) (succeeded : Bool) : K8sResult (Option FreezeStore) :=
  if succeeded then .ok (some store) else .error "unreachable"

/-- `setFreezeWindows` (lines 113–121), where its write succeeds. -/
def setFreezeWindows (store : FreezeStore) (orgId : String) (windows : List FreezeWindow) :
    FreezeStore :=
  store.insert orgId windows

/-- `createFreezeWindow` and `deleteFreezeWindow` from an answer on. -/
def resumeFreeze (store : FreezeStore) : FreezeCall → FreezeAnswer →
    Option (FreezeCall × FreezeStore)
  | .creating input, .read succeeded id now =>
    let existing := listFreezeWindows js input.orgId (readFreezeStore store succeeded)
    some (.adding existing (newFreezeWindow js input id now), store)
  | .adding existing window, .written true =>
    some (.created window, setFreezeWindows store window.orgId (existing ++ [window]))
  | .adding _ _, .written false => some (.createFailed, store)
  | .deleting orgId id, .read succeeded _ _ =>
    let existing := listFreezeWindows js orgId (readFreezeStore store succeeded)
    if existing.any (·.id == id) then some (.removing orgId id existing, store)
    else some (.notFound orgId id, store)
  | .removing orgId id existing, .written true =>
    some (.deleted orgId id, setFreezeWindows store orgId (existing.filter (·.id ≠ id)))
  | .removing orgId id _, .written false => some (.deleteFailed orgId id, store)
  | _, _ => none

/-- The two functions. -/
def freezeProgram : Program FreezeStore FreezeCall FreezeRequest FreezeAnswer Empty where
  enter store request := (request.start, store)
  resume := resumeFreeze js
  move store _ := store

/-- The store and the calls. -/
abbrev FreezeSystem := System FreezeStore FreezeCall

/-- A step of the system. -/
abbrev FreezeEvent := Event FreezeRequest FreezeAnswer Empty

/-! ## What is to be kept -/

/-- The window whose deletion a call requests. -/
def FreezeCall.target : FreezeCall → Option (String × String)
  | deleting orgId id | removing orgId id _ | deleted orgId id | notFound orgId id
  | deleteFailed orgId id => some (orgId, id)
  | _ => none

/-- The creation of the window returned success, and no call requests its deletion. -/
def ToKeep (system : FreezeSystem) (window : FreezeWindow) : Prop :=
  .created window ∈ system.calls ∧
    some (window.orgId, window.id) ∉ system.calls.map FreezeCall.target

/-- The stored list of an organisation. -/
def storedWindows (store : FreezeStore) (orgId : String) : List FreezeWindow :=
  (store[orgId]?).getD []

/-- Every window that is to be kept is stored. -/
def NoneLost (system : FreezeSystem) : Prop :=
  ∀ window, ToKeep system window → window ∈ storedWindows system.shared window.orgId

/-- The list has every window of the organisation that is to be kept. -/
def Covers (system : FreezeSystem) (orgId : String) (windows : List FreezeWindow) : Prop :=
  ∀ window, ToKeep system window → window.orgId = orgId → window ∈ windows

/-- A write that succeeds was made from a list with every window that is to be kept. -/
def CoveringWrite (system : FreezeSystem) : FreezeEvent → Prop
  | .answer i (.written true) =>
    match system.calls[i]? with
    | some (.adding existing window) => Covers system window.orgId (existing ++ [window])
    | some (.removing orgId _ existing) => Covers system orgId existing
    | _ => True
  | _ => True

variable {js}

/-! ## Steps -/

/-- What a call can do when it goes on: write a list, or leave the store alone. -/
inductive FreezeStep (store : FreezeStore) :
    FreezeCall → FreezeAnswer → FreezeCall → FreezeStore → Prop
  | goesOn {call answer next} (hanswer : answer ≠ .written true)
    (htarget : next.target = call.target)
      (hcall : ∀ window, FreezeCall.created window ≠ call)
      (hnext : ∀ window, FreezeCall.created window ≠ next) : FreezeStep store call answer next store
  | adds (existing window) : FreezeStep store (.adding existing window) (.written true)
      (.created window) (setFreezeWindows store window.orgId (existing ++ [window]))
  | removes (orgId id existing) : FreezeStep store (.removing orgId id existing) (.written true)
      (.deleted orgId id) (setFreezeWindows store orgId (existing.filter (·.id ≠ id)))

variable {store : FreezeStore} {call : FreezeCall} {answer : FreezeAnswer}

theorem freezeStep_of_resume {after : FreezeCall × FreezeStore}
    (h : resumeFreeze js store call answer = some after) :
    FreezeStep store call answer after.1 after.2 := by
  unfold resumeFreeze at h
  split at h
  · obtain rfl := Option.some.inj h
    exact .goesOn (by simp) rfl (by simp) (by simp)
  · obtain rfl := Option.some.inj h
    exact .adds _ _
  · obtain rfl := Option.some.inj h
    exact .goesOn (by simp) rfl (by simp) (by simp)
  · simp only at h
    split_ifs at h with hfound
    · obtain rfl := Option.some.inj h
      exact .goesOn (by simp) rfl (by simp) (by simp)
    · obtain rfl := Option.some.inj h
      exact .goesOn (by simp) rfl (by simp) (by simp)
  · obtain rfl := Option.some.inj h
    exact .removes _ _ _
  · obtain rfl := Option.some.inj h
    exact .goesOn (by simp) rfl (by simp) (by simp)
  · cases h

theorem storedWindows_set (store : FreezeStore) (orgId : String) (windows : List FreezeWindow)
    (other : String) : storedWindows (setFreezeWindows store orgId windows) other =
      if orgId = other then windows else storedWindows store other := by
  unfold storedWindows setFreezeWindows
  rw [Std.ExtTreeMap.getElem?_insert]
  by_cases horg : orgId = other
  · simp [horg]
  · simp [horg]

variable {system : FreezeSystem} {i : ℕ}

theorem coveringWrite_of_ne (h : answer ≠ .written true) :
    CoveringWrite system (.answer i answer) := by
  match answer, h with
  | .read _ _ _, _ => trivial
  | .written false, _ => trivial

/-- What is to be kept after a call went on that requests the same deletion as before. -/
theorem toKeep_set_iff {next : FreezeCall} (hcall : system.calls[i]? = some call)
    (htarget : next.target = call.target) {window : FreezeWindow}
    (hne : FreezeCall.created window ≠ call) :
    ToKeep { shared := store, calls := system.calls.set i next } window ↔
      (.created window = next ∨ .created window ∈ system.calls) ∧
        some (window.orgId, window.id) ∉ system.calls.map FreezeCall.target := by
  unfold ToKeep
  rw [mem_set_iff_of_ne hcall hne, map_set_of_eq hcall htarget]

/-- A call goes on: nothing is lost exactly when a write that succeeds was made from a list with
every window that is to be kept. -/
theorem noneLost_resume {next : FreezeCall} (h : NoneLost system)
    (hcall : system.calls[i]? = some call)
    (hstep : FreezeStep system.shared call answer next store) :
    NoneLost { shared := store, calls := system.calls.set i next } ↔
      CoveringWrite system (.answer i answer) := by
  cases hstep with
  | goesOn hanswer htarget hne hnext =>
    refine iff_of_true (fun window hkeep => ?_) (coveringWrite_of_ne hanswer)
    obtain ⟨hcreated, hrequested⟩ := (toKeep_set_iff hcall htarget (hne window)).mp hkeep
    exact h window ⟨hcreated.resolve_left (hnext window), hrequested⟩
  | adds existing new =>
    have htarget : (FreezeCall.created new).target = (FreezeCall.adding existing new).target := rfl
    have hkeep : ∀ store window,
        ToKeep { shared := store, calls := system.calls.set i (.created new) } window ↔
          (.created window = FreezeCall.created new ∨ .created window ∈ system.calls) ∧
            some (window.orgId, window.id) ∉ system.calls.map FreezeCall.target := fun _ _ =>
      toKeep_set_iff hcall htarget (by simp)
    have hcovering : CoveringWrite system (.answer i (.written true)) ↔
        Covers system new.orgId (existing ++ [new]) := by
      simp only [CoveringWrite, hcall]
    rw [hcovering]
    constructor
    · intro hnext window hwindow horg
      have hstored := hnext window ((hkeep _ window).mpr ⟨.inr hwindow.1, hwindow.2⟩)
      rw [storedWindows_set, if_pos horg.symm] at hstored
      exact hstored
    · intro hcovers window hwindow
      obtain ⟨hcreated, hrequested⟩ := (hkeep _ window).mp hwindow
      rw [storedWindows_set]
      split_ifs with horg
      · rcases hcreated with hnew | hold
        · obtain rfl := FreezeCall.created.inj hnew
          exact List.mem_append_right _ (List.mem_singleton_self _)
        · exact hcovers window ⟨hold, hrequested⟩ horg.symm
      · have hold : .created window ∈ system.calls := hcreated.resolve_left fun hnew =>
          horg (congrArg FreezeWindow.orgId (FreezeCall.created.inj hnew)).symm
        exact h window ⟨hold, hrequested⟩
  | removes orgId id existing =>
    have htarget : (FreezeCall.deleted orgId id).target =
        (FreezeCall.removing orgId id existing).target := rfl
    have hkeep : ∀ store window,
        ToKeep { shared := store, calls := system.calls.set i (.deleted orgId id) } window ↔
          (.created window = FreezeCall.deleted orgId id ∨ .created window ∈ system.calls) ∧
            some (window.orgId, window.id) ∉ system.calls.map FreezeCall.target := fun _ _ =>
      toKeep_set_iff hcall htarget (by simp)
    have hcovering : CoveringWrite system (.answer i (.written true)) ↔
        Covers system orgId existing := by
      simp only [CoveringWrite, hcall]
    have hrequest : some (orgId, id) ∈ system.calls.map FreezeCall.target :=
      List.mem_map.mpr ⟨_, List.mem_of_getElem? hcall, rfl⟩
    rw [hcovering]
    constructor
    · intro hnext window hwindow horg
      have hstored := hnext window ((hkeep _ window).mpr ⟨.inr hwindow.1, hwindow.2⟩)
      rw [storedWindows_set, if_pos horg.symm] at hstored
      exact (List.mem_filter.mp hstored).1
    · intro hcovers window hwindow
      obtain ⟨hcreated, hrequested⟩ := (hkeep _ window).mp hwindow
      have hold : ToKeep system window := ⟨hcreated.resolve_left (by simp), hrequested⟩
      rw [storedWindows_set]
      split_ifs with horg
      · -- the deletion is of another window, since this one's is not requested
        have hid : window.id ≠ id := by
          rintro rfl
          rw [horg] at hrequest
          exact hrequested hrequest
        exact List.mem_filter.mpr ⟨hcovers window hold horg.symm, decide_eq_true hid⟩
      · exact h window hold

/-- An event loses nothing exactly when, as a write that succeeds, it was made from a list with
every window that is to be kept. -/
theorem noneLost_next (system : FreezeSystem) (event : FreezeEvent) (h : NoneLost system) :
    NoneLost ((freezeProgram js).next system event) ↔ CoveringWrite system event := by
  refine Program.next_iff ?_ ?_ ?_ (fun change => change.elim) event
  · intro request
    refine iff_of_true (fun window hkeep => ?_) trivial
    obtain ⟨hcreated, hrequested⟩ := hkeep
    have hold : .created window ∈ system.calls := by
      rcases List.mem_append.mp hcreated with hold | hnew
      · exact hold
      · cases request with
        | create input => cases List.mem_singleton.mp hnew
        | delete orgId id => cases List.mem_singleton.mp hnew
    refine h window ⟨hold, fun hmem => hrequested ?_⟩
    show _ ∈ (system.calls ++ [_]).map FreezeCall.target
    rw [List.map_append]
    exact List.mem_append_left _ hmem
  · intro i answer call after hcall hresume
    exact noneLost_resume h hcall (freezeStep_of_resume hresume)
  · intro i answer hnone
    refine iff_of_true h ?_
    by_cases hanswer : answer = .written true
    · subst hanswer
      cases hcall : system.calls[i]? with
      | none => simp [CoveringWrite, hcall]
      | some call =>
        have hignored := hnone call hcall
        cases call with
        | adding existing window => cases hignored
        | removing orgId id existing => cases hignored
        | _ => simp [CoveringWrite, hcall]
    · exact coveringWrite_of_ne hanswer

/-- In runs of creations and deletions over any store, with reads and writes that fail, no window is
lost exactly when every write that succeeds was made from a list with every window that is to be
kept by then. -/
theorem noneLost_iff (js : JsRuntime) (store : FreezeStore) (events : List FreezeEvent) :
    Always (freezeProgram js).next NoneLost { shared := store, calls := [] } events ↔
      Along (freezeProgram js).next CoveringWrite { shared := store, calls := [] } events := by
  refine always_iff_along (I := fun _ => True) (fun _ _ _ => trivial)
    (fun system event _ h => noneLost_next system event h) trivial ?_
  rintro window ⟨hcreated, -⟩
  cases hcreated

/-! ## Writes that find what was read -/

/-- A write that succeeds finds the list as it was read, which is so in no run where two calls
overlap or a read fails while windows are stored. -/
def FoundAsRead (system : FreezeSystem) : FreezeEvent → Prop
  | .answer i (.written true) =>
    match system.calls[i]? with
    | some (.adding existing window) => storedWindows system.shared window.orgId = existing
    | some (.removing orgId _ existing) => storedWindows system.shared orgId = existing
    | _ => True
  | _ => True

/-- Where nothing is lost, the stored list has every window that is to be kept. -/
theorem covers_stored (h : NoneLost system) (orgId : String) :
    Covers system orgId (storedWindows system.shared orgId) := by
  intro window hkeep horg
  rw [← horg]
  exact h window hkeep

theorem coveringWrite_of_foundAsRead {event : FreezeEvent} (h : NoneLost system)
    (hfound : FoundAsRead system event) : CoveringWrite system event := by
  match event with
  | .call _ => trivial
  | .answer _ (.read _ _ _) => trivial
  | .answer _ (.written false) => trivial
  | .answer i (.written true) =>
    cases hcall : system.calls[i]? with
    | none => simp [CoveringWrite, hcall]
    | some call =>
      simp only [FoundAsRead, hcall] at hfound
      simp only [CoveringWrite, hcall]
      cases call with
      | adding existing window =>
        intro other hkeep horg
        rw [← hfound]
        exact List.mem_append_left _ (covers_stored h _ other hkeep horg)
      | removing orgId id existing =>
        show Covers system orgId existing
        rw [← hfound]
        exact covers_stored h orgId
      | _ => trivial

/-- Where every write that succeeds finds the list as it was read, no window is lost. -/
theorem noneLost_of_foundAsRead {events : List FreezeEvent}
    (h : Along (freezeProgram js).next FoundAsRead { shared := store, calls := [] } events) :
    Always (freezeProgram js).next NoneLost { shared := store, calls := [] } events := by
  refine always_of_along (P := FoundAsRead) (fun system event hkept hfound => ?_) ?_ h
  · exact (noneLost_next system event hkept).mpr (coveringWrite_of_foundAsRead hkept hfound)
  · rintro window ⟨hcreated, -⟩
    cases hcreated

/-! ## A read that fails -/

/-- A freeze of an organisation in 2027. -/
def freezeInput (reason : String) : CreateFreezeWindowInput where
  orgId := "org-1"
  startsAt := "2027-01-04T00:00:00.000Z"
  endsAt := "2027-01-08T00:00:00.000Z"
  reason
  createdBy := "owner@org-1"
  allowEmergencyOverride := false

theorem noneLost_created :
    Always (freezeProgram gregorian).next NoneLost { shared := ∅, calls := [] }
      [.call (.create (freezeInput "audit")), .answer 0 (.read true "w1" 1798761600000),
        .answer 0 (.written true)] :=
  noneLost_of_foundAsRead ⟨trivial, trivial, rfl, trivial⟩

/-- A creation whose read fails writes the list with its own window alone. -/
theorem failed_read_loses_window :
    let first := newFreezeWindow gregorian (freezeInput "audit") "w1" 1798761600000
    let events : List FreezeEvent :=
      [.call (.create (freezeInput "audit")), .answer 0 (.read true "w1" 1798761600000),
       .answer 0 (.written true), .call (.create (freezeInput "migration")),
       .answer 1 (.read false "w2" 1798761700000), .answer 1 (.written true)]
    let system := run (freezeProgram gregorian).next { shared := ∅, calls := [] } events
    ToKeep system first ∧ ¬ NoneLost system := by
  intro first events system
  have hkeep : ToKeep system first := by
    constructor <;> decide +kernel
  refine ⟨hkeep, fun hnone => ?_⟩
  have hlost : first ∉ storedWindows system.shared first.orgId := by decide +kernel
  exact hlost (hnone first hkeep)

end ChatmanEcosystem.Console
