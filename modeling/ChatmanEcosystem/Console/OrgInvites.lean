import ChatmanEcosystem.Common.Concurrent
import ChatmanEcosystem.Console.OrgRoles
import ChatmanEcosystem.Js.Runtime
import ChatmanEcosystem.Rust.Result

/-!
# Invites

Model of `createOrgInviteIn`, `acceptOrgInviteIn` and `revokeOrgInviteIn`
(`platform-console/app/lib/authz.ts`, lines 397–604), any number of which run at
once over the ConfigMap of one namespace, beside `removeOrgRoleIn`. An accepted
invite is two writes, the role and then the status of the invite, and each is made
without another look at the invite.

The state has, beside the ConfigMap, the role writes of invites and the revocations
that returned success, in the order in which they happened.

Results:

* `grantInv_next`: as long as every role write finds its invite pending and nobody to
  owe its mark, a pending invite was neither granted nor revoked.
* `owed_next`: an invite that is no longer pending was granted or revoked.
* `grantsOnce_iff`: runs in which an invite grants at most once, and not after its
  revocation.
-/

namespace ChatmanEcosystem.Console

open Common Common.Concurrent Js
open Rust

/-! ## The invites of a namespace -/

/-- `INVITE_TTL_MS` (line 410). -/
def inviteTtlMs : ℤ := 7 * 24 * 60 * 60 * 1000

/-- `inviteKey` (lines 412–414). -/
def inviteKey (token : Utf16) : Utf16 := utf16 "invite-" ++ token

/-- The invite that a value is, `parseInvite` (lines 424–446). -/
def OrgRolesValue.invite? : OrgRolesValue → Option OrgInvite
  | role _ => none
  | invite i => some i

/-- `getOrgInviteIn` (lines 468–478). -/
def getOrgInviteIn (data : Option OrgRolesData) (token : Utf16) : Option OrgInvite :=
  (data.getD ∅)[inviteKey token]?.bind OrgRolesValue.invite?

/-- A write of one value of the ConfigMap, where it succeeds. -/
def putOrgRolesValue (data : Option OrgRolesData) (key : Utf16) (value : OrgRolesValue) :
    Option OrgRolesData :=
  some ((data.getD ∅).insert key value)

variable (js : JsRuntime) (toLowerCase : Utf16 → Utf16) (localeCompare : Utf16 → Utf16 → ℤ)

/-- The input of `createOrgInviteIn`. -/
structure InviteInput where
  email : Utf16
  role : Role
  invitedBy : Utf16

/-- The invite that `createOrgInviteIn` makes (lines 521–530). -/
def newInvite (input : InviteInput) (token : Utf16) (now : ℤ) : OrgInvite where
  token
  email := input.email
  role := input.role
  invitedBy := input.invitedBy
  invitedAt := js.toISOString now
  expiresAt := js.toISOString (now + inviteTtlMs)
  status := .pending

/-- The name of a status. -/
def InviteStatus.toText : InviteStatus → String
  | pending => "pending"
  | accepted => "accepted"
  | revoked => "revoked"

/-- `invite not found` and `invite is already …` (lines 554–557 and 592–595). -/
def checkPending (invite : Option OrgInvite) : K8sResult OrgInvite :=
  match invite with
  | none => .error "invite not found"
  | some invite =>
    if invite.status ≠ .pending then .error ("invite is already " ++ invite.status.toText)
    else .ok invite

/-- The checks of `acceptOrgInviteIn` (lines 554–563). A date that cannot be read is not past. -/
def checkAcceptable (invite : Option OrgInvite) (acceptingIdentifier : Utf16) (now : ℤ) :
    K8sResult OrgInvite := do
  let invite ← checkPending invite
  if (js.dateParse invite.expiresAt).any (· ≤ now) then throw "invite has expired"
  if toLowerCase invite.email ≠ toLowerCase acceptingIdentifier then
    throw "invite email does not match the authenticated identity"
  return invite

/-! ## Calls -/

/-- A role write of an invite, or a revocation that returned success. -/
inductive InviteRecord
  | granted (token : Utf16)
  | revoked (token : Utf16)
  deriving DecidableEq

/-- The ConfigMap, and what happened to the invites. -/
structure InviteState where
  data : Option OrgRolesData
  records : List InviteRecord

/-- Where a call stands. -/
inductive InviteCall
  /-- `createOrgInviteIn` awaits the write of its invite (line 531). -/
  | creating (invite : OrgInvite)
  | created (invite : OrgInvite)
  /-- `acceptOrgInviteIn` awaits the invite (line 552). -/
  | accepting (token acceptingIdentifier : Utf16)
  /-- It awaits the write of the role (line 565). -/
  | granting (token acceptingIdentifier : Utf16) (invite : OrgInvite)
  /-- It awaits the write of the status (line 569). -/
  | marking (token : Utf16) (invite : OrgInvite)
  | accepted (token : Utf16) (invite : OrgInvite)
  /-- The role was written, but the write of the status failed (line 572). -/
  | unmarked (token : Utf16)
  /-- `revokeOrgInviteIn` awaits the invite (line 590). -/
  | revoking (token : Utf16)
  /-- It awaits the write of the status (line 599). -/
  | voiding (token : Utf16) (invite : OrgInvite)
  | revoked (token : Utf16) (invite : OrgInvite)
  /-- `removeOrgRoleIn` awaits the assignments (line 241). -/
  | removing (identifier : Utf16)
  /-- It awaits the removal (line 249). -/
  | erasing (identifier : Utf16)
  | removed (had : Bool)
  | failed (error : String)

/-- A call of one of the functions; a creation comes with the token and the time that it takes
before its first await. -/
inductive InviteRequest
  | create (input : InviteInput) (token : Utf16) (now : ℤ)
  | accept (token acceptingIdentifier : Utf16)
  | revoke (token : Utf16)
  | remove (identifier : Utf16)

/-- What an awaited call answers; with the ConfigMap comes the time that an acceptance takes
next. -/
inductive InviteAnswer
  | read (succeeded : Bool) (now : ℤ)
  | written (succeeded : Bool)

/-- A call up to its first await. -/
def InviteRequest.start : InviteRequest → InviteCall
  | create input token now => .creating (newInvite js input token now)
  | accept token acceptingIdentifier => .accepting token acceptingIdentifier
  | revoke token => .revoking token
  | remove identifier => .removing identifier

/-- A read of the ConfigMap. -/
def readOrgRoles {α : Type} (succeeded : Bool) (value : α) : K8sResult α :=
  if succeeded then .ok value else .error "read failed"

/-- The functions from an answer on. -/
def resumeInvite (state : InviteState) : InviteCall → InviteAnswer →
    Option (InviteCall × InviteState)
  | .creating invite, .written true =>
    some (.created invite,
      { state with data := putOrgRolesValue state.data (inviteKey invite.token) (.invite invite) })
  | .creating _, .written false => some (.failed "write failed", state)
  | .accepting token identifier, .read succeeded now =>
    match (readOrgRoles succeeded (getOrgInviteIn state.data token)).bind
        (checkAcceptable js toLowerCase · identifier now) with
    | .ok invite => some (.granting token identifier invite, state)
    | .error error => some (.failed error, state)
  | .granting token identifier invite, .written true =>
    some (.marking token invite,
      { data := setOrgRoleIn state.data identifier invite.role
        records := state.records ++ [.granted token] })
  | .granting _ _ _, .written false => some (.failed "write failed", state)
  | .marking token invite, .written true =>
    let accepted := { invite with status := .accepted }
    some (.accepted token accepted,
      { state with data := putOrgRolesValue state.data (inviteKey token) (.invite accepted) })
  | .marking token _, .written false => some (.unmarked token, state)
  | .revoking token, .read succeeded _ =>
    match (readOrgRoles succeeded (getOrgInviteIn state.data token)).bind checkPending with
    | .ok invite => some (.voiding token invite, state)
    | .error error => some (.failed error, state)
  | .voiding token invite, .written true =>
    let revoked := { invite with status := .revoked }
    some (.revoked token revoked,
      { data := putOrgRolesValue state.data (inviteKey token) (.invite revoked)
        records := state.records ++ [.revoked token] })
  | .voiding _ _, .written false => some (.failed "write failed", state)
  | .removing identifier, .read succeeded _ =>
    match readOrgRoles succeeded (getOrgRoleAssignmentsIn localeCompare state.data) with
    | .error error => some (.failed error, state)
    | .ok existing =>
      if existing.any (·.identifier == identifier) then some (.erasing identifier, state)
      else some (.removed false, state)
  | .erasing identifier, .written true =>
    some (.removed true,
      { state with data := state.data.map (·.erase (encodeIdentifierKey identifier)) })
  | .erasing _, .written false => some (.failed "write failed", state)
  | _, _ => none

/-- The functions over the ConfigMap of one namespace. -/
def inviteProgram : Program InviteState InviteCall InviteRequest InviteAnswer Empty where
  enter state request := (request.start js, state)
  resume := resumeInvite js toLowerCase localeCompare
  move state _ := state

/-- The ConfigMap and the calls. -/
abbrev InviteSystem := System InviteState InviteCall

/-- A step of the system. -/
abbrev InviteEvent := Event InviteRequest InviteAnswer Empty

/-- A namespace before the first call. -/
def noInvites : InviteSystem := { shared := { data := none, records := [] }, calls := [] }

/-! ## What invites are to grant -/

/-- Every role write of an invite is the first of its token, and no revocation of the token has
returned success before it. -/
def GrantsOnce (system : InviteSystem) : Prop :=
  ∀ before token after, system.shared.records = before ++ .granted token :: after →
    .granted token ∉ before ∧ .revoked token ∉ before

/-- The stored invite of a token is pending. -/
def PendingInvite (data : Option OrgRolesData) (token : Utf16) : Prop :=
  ∃ invite, getOrgInviteIn data token = some invite ∧ invite.status = .pending

/-- The token of the invite whose role a call has written, and whose status it has not. -/
def InviteCall.owed : InviteCall → Option Utf16
  | marking token _ | unmarked token => some token
  | _ => none

/-- The token of an invite whose role a call is about to write. -/
def InviteCall.claimed : InviteCall → Option Utf16
  | granting token _ _ => some token
  | _ => none

/-- A role write that succeeds finds the invite pending, and no call that has written the role of
the invite and not its status. -/
def FindsUnclaimed (system : InviteSystem) : InviteEvent → Prop
  | .answer i (.written true) =>
    ∀ token ∈ (system.calls[i]?).bind InviteCall.claimed,
      PendingInvite system.shared.data token ∧ some token ∉ system.calls.map InviteCall.owed
  | _ => True

/-- The token that a call of `createOrgInviteIn` has drawn. -/
def InviteCall.drawn : InviteCall → Option Utf16
  | creating invite | created invite => some invite.token
  | _ => none

/-- `crypto.randomUUID` draws a token that no other call has drawn. -/
def DrawsNew (system : InviteSystem) : InviteEvent → Prop
  | .call (.create _ token _) => some token ∉ system.calls.map InviteCall.drawn
  | _ => True

/-- A role is not written or removed under the key of an invite. -/
def SparesInvites (_ : InviteSystem) : InviteEvent → Prop
  | .call (.accept _ identifier) | .call (.remove identifier) =>
    ∀ token, encodeIdentifierKey identifier ≠ inviteKey token
  | _ => True

variable {js toLowerCase localeCompare}

/-! ## Writes -/

theorem inviteKey_inj {a b : Utf16} (h : inviteKey a = inviteKey b) : a = b :=
  List.append_cancel_left h

theorem getOrgInviteIn_put (data : Option OrgRolesData) (key : Utf16) (value : OrgRolesValue)
    (token : Utf16) : getOrgInviteIn (putOrgRolesValue data key value) token =
      if key = inviteKey token then value.invite? else getOrgInviteIn data token := by
  unfold getOrgInviteIn putOrgRolesValue
  rw [Option.getD_some, Std.ExtTreeMap.getElem?_insert]
  by_cases hkey : key = inviteKey token
  · simp [hkey]
  · simp [hkey]

theorem pendingInvite_put {data : Option OrgRolesData} {token other : Utf16} {invite : OrgInvite} :
    PendingInvite (putOrgRolesValue data (inviteKey token) (.invite invite)) other ↔
      if token = other then invite.status = .pending else PendingInvite data other := by
  unfold PendingInvite
  rw [getOrgInviteIn_put]
  by_cases htoken : token = other
  · simp [htoken, OrgRolesValue.invite?]
  · have hkey : inviteKey token ≠ inviteKey other := fun h => htoken (inviteKey_inj h)
    simp [htoken, hkey]

/-- An invite that is stored as accepted or revoked is not pending. -/
theorem pendingInvite_settle {data : Option OrgRolesData} {token other : Utf16} {invite : OrgInvite}
    (hstatus : invite.status ≠ .pending)
    (h : PendingInvite (putOrgRolesValue data (inviteKey token) (.invite invite)) other) :
    token ≠ other ∧ PendingInvite data other := by
  rw [pendingInvite_put] at h
  split_ifs at h with htoken
  · exact absurd h hstatus
  · exact ⟨htoken, h⟩

/-- A role write makes no invite pending, and leaves them alone under a key of its own. -/
theorem pendingInvite_setRole {data : Option OrgRolesData} {identifier : Utf16} {role : Role}
    {token : Utf16} : PendingInvite (setOrgRoleIn data identifier role) token ↔
      encodeIdentifierKey identifier ≠ inviteKey token ∧ PendingInvite data token := by
  have hput : setOrgRoleIn data identifier role =
      putOrgRolesValue data (encodeIdentifierKey identifier) (.role role) := rfl
  unfold PendingInvite
  rw [hput, getOrgInviteIn_put]
  by_cases hkey : encodeIdentifierKey identifier = inviteKey token
  · simp [hkey, OrgRolesValue.invite?]
  · simp [hkey]

theorem pendingInvite_erase {data : Option OrgRolesData} {key token : Utf16} :
    PendingInvite (data.map (·.erase key)) token ↔
      key ≠ inviteKey token ∧ PendingInvite data token := by
  unfold PendingInvite getOrgInviteIn
  cases data with
  | none => simp
  | some data =>
    rw [Option.map_some, Option.getD_some, Option.getD_some, Std.ExtTreeMap.getElem?_erase]
    by_cases hkey : key = inviteKey token
    · simp [hkey]
    · simp [hkey]

/-! ## Steps -/

/-- What a call can do when it goes on. -/
inductive InviteStep (state : InviteState) :
    InviteCall → InviteAnswer → InviteCall → InviteState → Prop
  | fails {call answer} (hanswer : answer ≠ .written true) (howed : call.owed = none)
      (hcreated : ∀ invite, call ≠ .created invite) (error) :
      InviteStep state call answer (.failed error) state
  | creates (invite) : InviteStep state (.creating invite) (.written true) (.created invite)
      { state with data := putOrgRolesValue state.data (inviteKey invite.token) (.invite invite) }
  | accepts {token answer} (hanswer : answer ≠ .written true)
      (hpending : PendingInvite state.data token) (identifier invite) :
      InviteStep state (.accepting token identifier) answer
        (.granting token identifier invite) state
  | grants (token identifier invite) :
      InviteStep state (.granting token identifier invite) (.written true) (.marking token invite)
        { data := setOrgRoleIn state.data identifier invite.role
          records := state.records ++ [.granted token] }
  | marks {accepted} (hstatus : accepted.status ≠ .pending) (token invite) :
      InviteStep state (.marking token invite) (.written true) (.accepted token accepted)
        { state with data := putOrgRolesValue state.data (inviteKey token) (.invite accepted) }
  | misses (token invite) :
      InviteStep state (.marking token invite) (.written false) (.unmarked token) state
  | revokes {token answer} (hanswer : answer ≠ .written true)
      (hpending : PendingInvite state.data token) (invite) :
      InviteStep state (.revoking token) answer (.voiding token invite) state
  | voids {revoked} (hstatus : revoked.status ≠ .pending) (token invite) :
      InviteStep state (.voiding token invite) (.written true) (.revoked token revoked)
        { data := putOrgRolesValue state.data (inviteKey token) (.invite revoked)
          records := state.records ++ [.revoked token] }
  | removes {identifier answer next} (hanswer : answer ≠ .written true)
      (hnext : next = .erasing identifier ∨ next = .removed false) :
      InviteStep state (.removing identifier) answer next state
  | erases (identifier) :
      InviteStep state (.erasing identifier) (.written true) (.removed true)
        { state with data := state.data.map (·.erase (encodeIdentifierKey identifier)) }

theorem pendingInvite_of_checkPending {data : Option OrgRolesData} {token : Utf16}
    {invite : OrgInvite} (h : checkPending (getOrgInviteIn data token) = .ok invite) :
    PendingInvite data token := by
  unfold checkPending at h
  cases hget : getOrgInviteIn data token with
  | none => rw [hget] at h; cases h
  | some found =>
    rw [hget] at h
    simp only at h
    split_ifs at h with hstatus
    exact ⟨found, hget, not_not.mp hstatus⟩

theorem readOrgRoles_bind_eq_ok {α β : Type} {succeeded : Bool} {value : α}
    {f : α → K8sResult β} {b : β} (h : (readOrgRoles succeeded value).bind f = .ok b) :
    f value = .ok b := by
  cases succeeded with
  | true => exact h
  | false => cases h

/-- What passes the checks of an acceptance passes those of a revocation. -/
theorem checkPending_of_checkAcceptable {invite : Option OrgInvite} {identifier : Utf16} {now : ℤ}
    {checked : OrgInvite}
    (h : checkAcceptable js toLowerCase invite identifier now = .ok checked) :
    ∃ found, checkPending invite = .ok found := by
  obtain ⟨found, hfound, -⟩ := bind_eq_ok.mp h
  exact ⟨found, hfound⟩

theorem inviteStep_of_resume {state : InviteState} {call : InviteCall} {answer : InviteAnswer}
    {next : InviteCall} {after : InviteState}
    (h : resumeInvite js toLowerCase localeCompare state call answer = some (next, after)) :
    InviteStep state call answer next after := by
  unfold resumeInvite at h
  split at h
  · obtain ⟨rfl, rfl⟩ := h
    exact .creates _
  · obtain ⟨rfl, rfl⟩ := h
    exact .fails (by simp) rfl (by simp) _
  · split at h
    · next hread =>
      obtain ⟨rfl, rfl⟩ := h
      have hchecked := readOrgRoles_bind_eq_ok hread
      obtain ⟨found, hfound⟩ := checkPending_of_checkAcceptable hchecked
      exact .accepts (by simp) (pendingInvite_of_checkPending hfound) _ _
    · obtain ⟨rfl, rfl⟩ := h
      exact .fails (by simp) rfl (by simp) _
  · obtain ⟨rfl, rfl⟩ := h
    exact .grants _ _ _
  · obtain ⟨rfl, rfl⟩ := h
    exact .fails (by simp) rfl (by simp) _
  · obtain ⟨rfl, rfl⟩ := h
    exact .marks (by simp) _ _
  · obtain ⟨rfl, rfl⟩ := h
    exact .misses _ _
  · split at h
    · next hread =>
      obtain ⟨rfl, rfl⟩ := h
      exact .revokes (by simp) (pendingInvite_of_checkPending (readOrgRoles_bind_eq_ok hread)) _
    · obtain ⟨rfl, rfl⟩ := h
      exact .fails (by simp) rfl (by simp) _
  · obtain ⟨rfl, rfl⟩ := h
    exact .voids (by simp) _ _
  · obtain ⟨rfl, rfl⟩ := h
    exact .fails (by simp) rfl (by simp) _
  · split at h
    · obtain ⟨rfl, rfl⟩ := h
      exact .fails (by simp) rfl (by simp) _
    · split_ifs at h
      · obtain ⟨rfl, rfl⟩ := h
        exact .removes (by simp) (.inl rfl)
      · obtain ⟨rfl, rfl⟩ := h
        exact .removes (by simp) (.inr rfl)
  · obtain ⟨rfl, rfl⟩ := h
    exact .erases _
  · obtain ⟨rfl, rfl⟩ := h
    exact .fails (by simp) rfl (by simp) _
  · cases h

/-! ## Invites that are pending -/

/-- The token of an invite that a call has created. -/
def InviteCall.createdToken : InviteCall → Option Utf16
  | created invite => some invite.token
  | _ => none

/-- The token of an invite whose revocation a call awaits. -/
def InviteCall.voided : InviteCall → Option Utf16
  | voiding token _ => some token
  | _ => none

/-- The invite of the token is pending, was granted or revoked, or is about to be revoked. -/
def KnownInvite (system : InviteSystem) (token : Utf16) : Prop :=
  PendingInvite system.shared.data token ∨ .granted token ∈ system.shared.records ∨
    .revoked token ∈ system.shared.records ∨ some token ∈ system.calls.map InviteCall.voided

/-- Each invite was created once, and one that is pending was not revoked, and not granted
unless some call owes its mark. -/
structure GrantInv (system : InviteSystem) : Prop where
  distinct : ∀ (i j : ℕ) a b, i ≠ j → system.calls[i]? = some a → system.calls[j]? = some b →
    ∀ token, a.drawn = some token → b.drawn ≠ some token
  known : ∀ token, KnownInvite system token → some token ∈ system.calls.map InviteCall.createdToken
  granted : ∀ token, .granted token ∈ system.shared.records →
    PendingInvite system.shared.data token → some token ∈ system.calls.map InviteCall.owed
  revoked : ∀ token, .revoked token ∈ system.shared.records →
    ¬ PendingInvite system.shared.data token
  once : GrantsOnce system

section Step

variable {system : InviteSystem} {i : ℕ} {call next : InviteCall} {state : InviteState}

/-- A call goes on. What is left to show: no invite gets pending but one that the call has created,
what the call owed is not pending, and what it records was known. -/
theorem GrantInv.resume (h : GrantInv system) (hcall : system.calls[i]? = some call)
    (hdrawn : ∀ token, next.drawn = some token → call.drawn = some token)
    (hcreated : call.createdToken = none)
    (hvoided : ∀ token, next.voided = some token → KnownInvite system token)
    (hpending : ∀ token, PendingInvite state.data token → PendingInvite system.shared.data token ∨
      next.createdToken = some token ∧ ¬ KnownInvite system token)
    (howed : ∀ token, call.owed = some token → PendingInvite state.data token →
      next.owed = some token)
    (hgranted : ∀ token, .granted token ∈ state.records → .granted token ∈ system.shared.records ∨
      KnownInvite system token ∧ next.owed = some token)
    (hrevoked : ∀ token, .revoked token ∈ state.records → .revoked token ∈ system.shared.records ∨
      KnownInvite system token ∧ ¬ PendingInvite state.data token)
    (honce : GrantsOnce { shared := state, calls := system.calls.set i next }) :
    GrantInv { shared := state, calls := system.calls.set i next } where
  distinct := by
    refine pairwise_set (fun a b hab token hb ha => hab token ha hb) h.distinct ?_
    intro j other hj hother token htoken
    exact h.distinct i j call other (Ne.symm hj) hcall hother token (hdrawn token htoken)
  known token hafter := by
    have hne : some token ≠ call.createdToken := by simp [hcreated]
    have hbefore : KnownInvite system token ∨ next.createdToken = some token := by
      rcases hafter with hafter | hafter | hafter | hafter
      · exact (hpending token hafter).imp (fun hp => Or.inl hp) And.left
      · exact .inl ((hgranted token hafter).elim (fun hr => .inr (.inl hr)) And.left)
      · exact .inl ((hrevoked token hafter).elim (fun hr => .inr (.inr (.inl hr))) And.left)
      · rcases mem_map_set hafter with hnew | hold
        · exact .inl (hvoided token hnew.symm)
        · exact .inl (.inr (.inr (.inr hold)))
    rw [mem_map_set_iff_of_ne hcall hne]
    exact hbefore.symm.imp Eq.symm (h.known token)
  granted token hrecord hafter := by
    rcases hgranted token hrecord with hold | ⟨-, hown⟩
    · rcases hpending token hafter with hbefore | ⟨-, hnew⟩
      · have howes := h.granted token hold hbefore
        by_cases hown : call.owed = some token
        · have hlt : i < system.calls.length := (List.getElem?_eq_some_iff.mp hcall).1
          exact List.mem_map.mpr ⟨next, List.mem_set hlt _, howed token hown hafter⟩
        · exact (mem_map_set_iff_of_ne hcall (Ne.symm hown)).mpr (.inr howes)
      · exact absurd (.inr (.inl hold)) hnew
    · have hlt : i < system.calls.length := (List.getElem?_eq_some_iff.mp hcall).1
      exact List.mem_map.mpr ⟨next, List.mem_set hlt _, hown⟩
  revoked token hrecord hafter := by
    rcases hrevoked token hrecord with hold | ⟨-, hnot⟩
    · rcases hpending token hafter with hbefore | ⟨-, hnew⟩
      · exact h.revoked token hold hbefore
      · exact hnew (.inr (.inr (.inl hold)))
    · exact hnot hafter
  once := honce

/-- A call goes on and leaves the ConfigMap and the records alone. -/
theorem GrantInv.goesOn (h : GrantInv system) (hcall : system.calls[i]? = some call)
    (hdrawn : next.drawn = none) (hcreated : call.createdToken = none)
    (howed : ∀ token, call.owed = some token →
      next.owed = some token)
    (hvoided : ∀ token, next.voided = some token → PendingInvite system.shared.data token) :
    GrantInv { shared := system.shared, calls := system.calls.set i next } :=
  h.resume hcall (by simp [hdrawn]) hcreated (fun token hv => .inl (hvoided token hv))
    (fun _ => .inl) (fun token hown _ => howed token hown) (fun _ => .inl) (fun _ => .inl) h.once

/-- The invite of a token that a call is creating is not known. -/
theorem GrantInv.not_known (h : GrantInv system) {invite : OrgInvite}
    (hcall : system.calls[i]? = some (.creating invite)) : ¬ KnownInvite system invite.token := by
  intro hknown
  obtain ⟨other, hother, htoken⟩ := List.mem_map.mp (h.known _ hknown)
  obtain ⟨j, hj⟩ := List.mem_iff_getElem?.mp hother
  cases other with
  | created found =>
    have hne : i ≠ j := by
      rintro rfl
      simp [hcall] at hj
    exact h.distinct i j _ _ hne hcall hj invite.token rfl htoken
  | _ => cases htoken

/-- A role write that finds its invite pending and not owed is the first of its token. -/
theorem GrantInv.not_recorded (h : GrantInv system) {token : Utf16}
    (hpending : PendingInvite system.shared.data token)
    (howed : some token ∉ system.calls.map InviteCall.owed) :
    .granted token ∉ system.shared.records ∧ .revoked token ∉ system.shared.records :=
  ⟨fun hgranted => howed (h.granted token hgranted hpending),
    fun hrevoked => h.revoked token hrevoked hpending⟩

end Step

/-- Another record leaves the role writes before it what they were. -/
theorem grantsOnce_concat {records : List InviteRecord} {record : InviteRecord}
    (h : ∀ before token after, records = before ++ .granted token :: after →
      .granted token ∉ before ∧ .revoked token ∉ before)
    (hnew : ∀ token, record = .granted token →
      .granted token ∉ records ∧ .revoked token ∉ records) :
    ∀ before token after, records ++ [record] = before ++ .granted token :: after →
      .granted token ∉ before ∧ .revoked token ∉ before := by
  intro before token after heq
  rcases List.eq_nil_or_concat after with rfl | ⟨rest, last, rfl⟩
  · obtain ⟨rfl, hrecord⟩ := List.append_inj' heq rfl
    exact hnew token (List.singleton_inj.mp hrecord)
  · have hassoc : before ++ .granted token :: (rest ++ [last]) =
        (before ++ .granted token :: rest) ++ [last] := by simp
    rw [List.concat_eq_append, hassoc] at heq
    obtain ⟨hrest, -⟩ := List.append_inj' heq rfl
    exact h before token rest hrest

/-- A call goes on: a role write has to find its invite pending, and not owed. -/
theorem grantInv_resume {system : InviteSystem} {i : ℕ} {call next : InviteCall}
    {answer : InviteAnswer} {state : InviteState} (h : GrantInv system)
    (hcall : system.calls[i]? = some call) (hfinds : FindsUnclaimed system (.answer i answer))
    (hstep : InviteStep system.shared call answer next state) :
    GrantInv { shared := state, calls := system.calls.set i next } := by
  have hno : ∀ {token : Utf16} {P : Prop}, none = some token → P := fun hnone => by cases hnone
  cases hstep with
  | fails hanswer howed hcreated error =>
    have hnone : call.createdToken = none := by
      cases call with
      | created invite => exact absurd rfl (hcreated invite)
      | _ => rfl
    exact h.goesOn hcall rfl hnone (by simp [howed]) fun _ => hno
  | accepts hanswer hpending identifier invite =>
    exact h.goesOn hcall rfl rfl (fun _ => hno) fun _ => hno
  | misses token invite => exact h.goesOn hcall rfl rfl (fun _ => id) fun _ => hno
  | revokes hanswer hpending invite =>
    refine h.goesOn hcall rfl rfl (fun _ => hno) fun token htoken => ?_
    obtain rfl := Option.some.inj htoken
    exact hpending
  | removes hanswer hnext =>
    rcases hnext with rfl | rfl
    · exact h.goesOn hcall rfl rfl (fun _ => hno) fun _ => hno
    · exact h.goesOn hcall rfl rfl (fun _ => hno) fun _ => hno
  | creates invite =>
    refine h.resume hcall (fun _ => id) rfl (fun _ => hno) (fun token hafter => ?_)
      (fun _ => hno) (fun _ => .inl) (fun _ => .inl) h.once
    rw [pendingInvite_put] at hafter
    split_ifs at hafter with htoken
    · subst htoken
      exact .inr ⟨rfl, h.not_known hcall⟩
    · exact .inl hafter
  | grants token identifier invite =>
    obtain ⟨hpending, howed⟩ := hfinds token (by rw [hcall]; rfl)
    refine h.resume hcall (fun _ => hno) rfl (fun _ => hno)
      (fun other hafter => .inl (pendingInvite_setRole.mp hafter).2) (fun _ => hno)
      (fun other hrecord => ?_) (fun other hrecord => ?_) ?_
    · refine (List.mem_append.mp hrecord).imp_right fun hnew => ?_
      obtain rfl := InviteRecord.granted.inj (List.mem_singleton.mp hnew)
      exact ⟨.inl hpending, rfl⟩
    · refine (List.mem_append.mp hrecord).imp_right fun hnew => ?_
      cases List.mem_singleton.mp hnew
    · refine grantsOnce_concat h.once fun other hother => ?_
      obtain rfl := InviteRecord.granted.inj hother
      exact h.not_recorded hpending howed
  | marks hstatus token invite =>
    refine h.resume hcall (fun _ => hno) rfl (fun _ => hno)
      (fun other hafter => .inl (pendingInvite_settle hstatus hafter).2)
      (fun other hown hafter => ?_) (fun _ => .inl) (fun _ => .inl) h.once
    exact absurd (Option.some.inj hown) (pendingInvite_settle hstatus hafter).1
  | voids hstatus token invite =>
    have hknown : KnownInvite system token :=
      .inr (.inr (.inr (List.mem_map.mpr ⟨_, List.mem_of_getElem? hcall, rfl⟩)))
    refine h.resume hcall (fun _ => hno) rfl (fun _ => hno)
      (fun other hafter => .inl (pendingInvite_settle hstatus hafter).2) (fun _ => hno)
      (fun other hrecord => ?_) (fun other hrecord => ?_) ?_
    · refine (List.mem_append.mp hrecord).imp_right fun hnew => ?_
      cases List.mem_singleton.mp hnew
    · refine (List.mem_append.mp hrecord).imp_right fun hnew => ?_
      obtain rfl := InviteRecord.revoked.inj (List.mem_singleton.mp hnew)
      exact ⟨hknown, fun hafter => (pendingInvite_settle hstatus hafter).1 rfl⟩
    · exact grantsOnce_concat h.once fun other hother => by cases hother
  | erases identifier =>
    exact h.resume hcall (fun _ => hno) rfl (fun _ => hno)
      (fun other hafter => .inl (pendingInvite_erase.mp hafter).2) (fun _ => hno) (fun _ => .inl)
      (fun _ => .inl) h.once

/-- A call that draws a new token, and a role write that finds its invite pending and not owed,
keep what is known of the invites. -/
theorem grantInv_next (system : InviteSystem) (event : InviteEvent) (h : GrantInv system)
    (hnew : DrawsNew system event) (hfinds : FindsUnclaimed system event) :
    GrantInv ((inviteProgram js toLowerCase localeCompare).next system event) := by
  cases event with
  | move change => exact change.elim
  | call request =>
    have hnone : (request.start js).createdToken = none ∧ (request.start js).voided = none := by
      cases request <;> exact ⟨rfl, rfl⟩
    have hgrow : ∀ {f : InviteCall → Option Utf16} {token : Utf16},
        some token ∈ system.calls.map f →
          some token ∈ (system.calls ++ [request.start js]).map f := by
      intro f token hmem
      rw [List.map_append]
      exact List.mem_append_left _ hmem
    refine ⟨?_, fun token hknown => hgrow (h.known token ?_),
      fun token hrecord hpending => hgrow (h.granted token hrecord hpending), h.revoked, h.once⟩
    · refine pairwise_concat (fun a b hab token hb ha => hab token ha hb) h.distinct ?_
      intro j other hother token htoken hsame
      cases request with
      | create input drawn now =>
        obtain rfl := Option.some.inj htoken
        exact hnew (List.mem_map.mpr ⟨other, List.mem_of_getElem? hother, hsame⟩)
      | _ => cases htoken
    · refine hknown.imp id (.imp id (.imp id fun hmem => ?_))
      change some token ∈ (system.calls ++ [request.start js]).map InviteCall.voided at hmem
      rw [List.map_append] at hmem
      refine (List.mem_append.mp hmem).resolve_right fun hlast => ?_
      simp [hnone.2] at hlast
  | answer i answer =>
    rcases (inviteProgram js toLowerCase localeCompare).next_answer_cases system i answer with
      hnext | ⟨call, ⟨next, state⟩, hcall, hresume, hnext⟩
    · rw [hnext]
      exact h
    · rw [hnext]
      exact grantInv_resume h hcall hfinds (inviteStep_of_resume hresume)

/-! ## Invites that are not pending -/

/-- The identifier under whose key a call writes or removes a role. -/
def InviteCall.identifier : InviteCall → Option Utf16
  | accepting _ identifier | granting _ identifier _ | removing identifier | erasing identifier =>
    some identifier
  | _ => none

/-- The invite of the token is pending, was granted or was revoked. -/
def AccountedInvite (state : InviteState) (token : Utf16) : Prop :=
  PendingInvite state.data token ∨ .granted token ∈ state.records ∨ .revoked token ∈ state.records

/-- Invites are left alone by the role writes, an invite whose mark is owed was granted, and one
that is about to be granted is not just gone. -/
structure OwedInv (system : InviteSystem) : Prop where
  made : ∀ invite, .creating invite ∈ system.calls → invite.status = .pending
  spares : ∀ call ∈ system.calls, ∀ identifier, call.identifier = some identifier →
    ∀ token, encodeIdentifierKey identifier ≠ inviteKey token
  owed : ∀ token, some token ∈ system.calls.map InviteCall.owed →
    .granted token ∈ system.shared.records
  claimed : ∀ token, some token ∈ system.calls.map InviteCall.claimed →
    AccountedInvite system.shared token

theorem OwedInv.resume {system : InviteSystem} {i : ℕ} {call next : InviteCall}
    {state : InviteState} (h : OwedInv system) (hcall : system.calls[i]? = some call)
    (hmade : ∀ invite, next ≠ .creating invite)
    (hidentifier : ∀ identifier, next.identifier = some identifier →
      call.identifier = some identifier)
    (howed : ∀ token, next.owed = some token →
      call.owed = some token ∨ .granted token ∈ state.records)
    (hclaimed : ∀ token, next.claimed = some token → PendingInvite state.data token)
    (hrecords : ∀ record ∈ system.shared.records, record ∈ state.records)
    (hpending : ∀ token, PendingInvite system.shared.data token → AccountedInvite state token) :
    OwedInv { shared := state, calls := system.calls.set i next } where
  made invite hmem := by
    rcases List.mem_or_eq_of_mem_set hmem with hold | hnew
    · exact h.made invite hold
    · exact absurd hnew.symm (hmade invite)
  spares other hmem identifier hother token := by
    rcases List.mem_or_eq_of_mem_set hmem with hold | rfl
    · exact h.spares other hold identifier hother token
    · exact h.spares call (List.mem_of_getElem? hcall) identifier (hidentifier _ hother) token
  owed token hmem := by
    rcases mem_map_set hmem with hnew | hold
    · rcases howed token hnew.symm with hown | hrecord
      · exact hrecords _ (h.owed token (List.mem_map.mpr ⟨call, List.mem_of_getElem? hcall, hown⟩))
      · exact hrecord
    · exact hrecords _ (h.owed token hold)
  claimed token hmem := by
    rcases mem_map_set hmem with hnew | hold
    · exact .inl (hclaimed token hnew.symm)
    · rcases h.claimed token hold with hbefore | hbefore | hbefore
      · exact hpending token hbefore
      · exact .inr (.inl (hrecords _ hbefore))
      · exact .inr (.inr (hrecords _ hbefore))

/-- A call goes on: an invite stops to be pending when it is marked or revoked. -/
theorem owedInv_resume {system : InviteSystem} {i : ℕ} {call next : InviteCall}
    {answer : InviteAnswer} {state : InviteState} (h : OwedInv system)
    (hcall : system.calls[i]? = some call)
    (hstep : InviteStep system.shared call answer next state) :
    OwedInv { shared := state, calls := system.calls.set i next } := by
  have hno : ∀ {token : Utf16} {P : Prop}, none = some token → P := fun hnone => by cases hnone
  have hspares := h.spares call (List.mem_of_getElem? hcall)
  cases hstep with
  | fails hanswer howed hcreated error =>
    exact h.resume hcall (by simp) (fun _ => hno) (fun _ => hno) (fun _ => hno)
      (fun _ => id) fun _ => .inl
  | accepts hanswer hpending identifier invite =>
    refine h.resume hcall (by simp) (fun _ => id) (fun _ => hno) (fun token htoken => ?_)
      (fun _ => id)
      fun _ => .inl
    obtain rfl := Option.some.inj htoken
    exact hpending
  | misses token invite =>
    exact h.resume hcall (by simp) (fun _ => hno) (fun _ => .inl) (fun _ => hno)
      (fun _ => id) fun _ => .inl
  | revokes hanswer hpending invite =>
    exact h.resume hcall (by simp) (fun _ => hno) (fun _ => hno) (fun _ => hno)
      (fun _ => id) fun _ => .inl
  | removes hanswer hnext =>
    rcases hnext with rfl | rfl
    · exact h.resume hcall (by simp) (fun _ => id) (fun _ => hno) (fun _ => hno)
        (fun _ => id) fun _ => .inl
    · exact h.resume hcall (by simp) (fun _ => hno) (fun _ => hno) (fun _ => hno)
        (fun _ => id) fun _ => .inl
  | creates invite =>
    refine h.resume hcall (by simp) (fun _ => hno) (fun _ => hno) (fun _ => hno) (fun _ => id)
      fun token hbefore => .inl ?_
    rw [pendingInvite_put]
    split_ifs
    · exact h.made invite (List.mem_of_getElem? hcall)
    · exact hbefore
  | grants token identifier invite =>
    refine h.resume hcall (by simp) (fun _ => hno) (fun other hown => ?_) (fun _ => hno)
      (fun _ => List.mem_append_left _) fun other hbefore => .inl ?_
    · obtain rfl := Option.some.inj hown
      exact .inr (List.mem_append_right _ (List.mem_singleton_self _))
    · exact pendingInvite_setRole.mpr ⟨hspares identifier rfl other, hbefore⟩
  | marks hstatus token invite =>
    refine h.resume hcall (by simp) (fun _ => hno) (fun _ => hno) (fun _ => hno) (fun _ => id)
      fun other hbefore => ?_
    by_cases htoken : token = other
    · subst htoken
      exact .inr (.inl (h.owed token (List.mem_map.mpr ⟨_, List.mem_of_getElem? hcall, rfl⟩)))
    · exact .inl (by rwa [pendingInvite_put, if_neg htoken])
  | voids hstatus token invite =>
    refine h.resume hcall (by simp) (fun _ => hno) (fun _ => hno) (fun _ => hno)
      (fun _ => List.mem_append_left _) fun other hbefore => ?_
    by_cases htoken : token = other
    · subst htoken
      exact .inr (.inr (List.mem_append_right _ (List.mem_singleton_self _)))
    · exact .inl (by rwa [pendingInvite_put, if_neg htoken])
  | erases identifier =>
    refine h.resume hcall (by simp) (fun _ => hno) (fun _ => hno) (fun _ => hno) (fun _ => id)
      fun other hbefore => .inl ?_
    exact pendingInvite_erase.mpr ⟨hspares identifier rfl other, hbefore⟩

theorem owedInv_next (system : InviteSystem) (event : InviteEvent) (h : OwedInv system)
    (hspares : SparesInvites system event) :
    OwedInv ((inviteProgram js toLowerCase localeCompare).next system event) := by
  cases event with
  | move change => exact change.elim
  | call request =>
    have hnone : (request.start js).owed = none ∧ (request.start js).claimed = none := by
      cases request <;> exact ⟨rfl, rfl⟩
    have hshrink : ∀ {f : InviteCall → Option Utf16} {token : Utf16}, f (request.start js) = none →
        some token ∈ (system.calls ++ [request.start js]).map f →
          some token ∈ system.calls.map f := by
      intro f token hf hmem
      rw [List.map_append] at hmem
      exact (List.mem_append.mp hmem).resolve_right (by simp [hf])
    refine ⟨fun invite hmem => ?_, fun call hmem identifier hcall token => ?_,
      fun token hmem => h.owed token (hshrink hnone.1 hmem),
      fun token hmem => h.claimed token (hshrink hnone.2 hmem)⟩
    · rcases List.mem_append.mp hmem with hold | hlast
      · exact h.made invite hold
      · cases request with
        | create input token now =>
          obtain rfl := InviteCall.creating.inj (List.mem_singleton.mp hlast)
          rfl
        | _ => cases List.mem_singleton.mp hlast
    · rcases List.mem_append.mp hmem with hold | hlast
      · exact h.spares call hold identifier hcall token
      · rw [List.mem_singleton.mp hlast] at hcall
        cases request with
        | accept other accepting =>
          obtain rfl := Option.some.inj hcall
          exact hspares token
        | remove removed =>
          obtain rfl := Option.some.inj hcall
          exact hspares token
        | _ => cases hcall
  | answer i answer =>
    rcases (inviteProgram js toLowerCase localeCompare).next_answer_cases system i answer with
      hnext | ⟨call, ⟨next, state⟩, hcall, hresume, hnext⟩
    · rw [hnext]
      exact h
    · rw [hnext]
      exact owedInv_resume h hcall (inviteStep_of_resume hresume)

/-- A role write that is the first of its token found the invite pending, and not owed. -/
theorem findsUnclaimed_of_grantsOnce (system : InviteSystem) (event : InviteEvent)
    (h : OwedInv system)
    (hnext : GrantsOnce ((inviteProgram js toLowerCase localeCompare).next system event)) :
    FindsUnclaimed system event := by
  match event with
  | .call _ => trivial
  | .move change => exact change.elim
  | .answer _ (.read _ _) => trivial
  | .answer _ (.written false) => trivial
  | .answer i (.written true) =>
    intro token hmem
    obtain ⟨call, hcall, hclaims⟩ := Option.bind_eq_some_iff.mp hmem
    have hclaimed := h.claimed token
      (List.mem_map.mpr ⟨call, List.mem_of_getElem? hcall, hclaims⟩)
    cases call with
    | granting granted identifier invite =>
      obtain rfl := Option.some.inj hclaims
      rw [Program.next_answer hcall rfl] at hnext
      obtain ⟨hgranted, hrevoked⟩ := hnext system.shared.records granted [] rfl
      have hpending : PendingInvite system.shared.data granted :=
        hclaimed.resolve_right (not_or.mpr ⟨hgranted, hrevoked⟩)
      exact ⟨hpending, fun howed => hgranted (h.owed granted howed)⟩
    | _ => cases hclaims

/-! ## Runs -/

theorem grantInv_noInvites : GrantInv noInvites where
  distinct _ _ _ _ _ h := by cases h
  known token h := by
    rcases h with ⟨invite, hget, -⟩ | h | h | h
    · simp [noInvites, getOrgInviteIn] at hget
    · cases h
    · cases h
    · cases h
  granted _ h := by cases h
  revoked _ h := by cases h
  once before token after h := by cases before <;> cases h

theorem owedInv_noInvites : OwedInv noInvites where
  made _ h := by cases h
  spares _ h := by cases h
  owed _ h := by cases h
  claimed _ h := by cases h

/-- In runs of creations, acceptances, revocations and removals in one namespace, with reads and
writes that fail, where each creation draws a new token: if every role write that succeeds finds its
invite pending and no other call that has written the role of the invite and not its status, then
each invite grants at most one role, and none after a revocation that returned success. Where no
role is written or removed under the key of an invite, exactly these runs are such. -/
theorem grantsOnce_iff (js : JsRuntime) (toLowerCase : Utf16 → Utf16)
    (localeCompare : Utf16 → Utf16 → ℤ) (events : List InviteEvent)
    (hnew : Along (inviteProgram js toLowerCase localeCompare).next DrawsNew noInvites events) :
    (Along (inviteProgram js toLowerCase localeCompare).next FindsUnclaimed noInvites events →
      Always (inviteProgram js toLowerCase localeCompare).next GrantsOnce noInvites events) ∧
    (Along (inviteProgram js toLowerCase localeCompare).next SparesInvites noInvites events →
      (Always (inviteProgram js toLowerCase localeCompare).next GrantsOnce noInvites events ↔
        Along (inviteProgram js toLowerCase localeCompare).next FindsUnclaimed noInvites
          events)) := by
  constructor
  · intro hfinds
    have hinv := always_of_along (fun system event h hC => grantInv_next system event h hC.1 hC.2)
      grantInv_noInvites (along_and.mpr ⟨hnew, hfinds⟩)
    exact hinv.mono fun _ h => h.once
  · intro hspares
    have hgiven := along_and.mpr ⟨hnew, hspares⟩
    refine always_iff_along_given (I := fun system => GrantInv system ∧ OwedInv system)
      (fun _ h => h.1.once) (fun system event h hD hP => ?_) (fun system event h hD hnext => ?_)
      ⟨grantInv_noInvites, owedInv_noInvites⟩ hgiven
    · exact ⟨grantInv_next system event h.1 hD.1 hP, owedInv_next system event h.2 hD.2⟩
    · exact findsUnclaimed_of_grantsOnce system event h.2 hnext

/-! ## Conditions that can be run -/

instance (data : Option OrgRolesData) (token : Utf16) : Decidable (PendingInvite data token) :=
  decidable_of_iff (∃ invite ∈ getOrgInviteIn data token, invite.status = .pending) Iff.rfl

instance (system : InviteSystem) : (event : InviteEvent) → Decidable (FindsUnclaimed system event)
  | .answer _ (.written true) => inferInstanceAs (Decidable (∀ token ∈ _, _))
  | .answer _ (.written false) | .answer _ (.read _ _) | .call _ => .isTrue trivial
  | .move change => change.elim

instance (system : InviteSystem) : (event : InviteEvent) → Decidable (DrawsNew system event)
  | .call (.create _ _ _) => inferInstanceAs (Decidable (_ ∉ _))
  | .call (.accept _ _) | .call (.revoke _) | .call (.remove _) | .answer _ _ => .isTrue trivial
  | .move change => change.elim

/-- An invitation of Bob. -/
def inviteBob : InviteInput where
  email := utf16 "bob@corp"
  role := .member
  invitedBy := utf16 "admin"

/-- Bob is invited, and his acceptance gets the invite. -/
def invitedRun : List InviteEvent :=
  [.call (.create inviteBob (utf16 "t1") 1798664400000), .answer 0 (.written true),
    .call (.accept (utf16 "t1") (utf16 "bob@corp")), .answer 1 (.read true 1798668000000)]

/-- The acceptance goes through. -/
def acceptedRun : List InviteEvent :=
  invitedRun ++ [.answer 1 (.written true), .answer 1 (.written true)]

/-- Bob's role is written once. -/
theorem grantsOnce_acceptedRun :
    let next := (inviteProgram gregorian id fun _ _ => 0).next
    (run next noInvites acceptedRun).shared.records = [.granted (utf16 "t1")] ∧
    Always next GrantsOnce noInvites acceptedRun := by
  intro next
  have hnew : Along next DrawsNew noInvites acceptedRun := by decide +kernel
  have hfinds : Along next FindsUnclaimed noInvites acceptedRun := by decide +kernel
  exact ⟨by decide +kernel, (grantsOnce_iff gregorian id _ acceptedRun hnew).1 hfinds⟩

/-- The write of the status fails, and Bob accepts again. -/
def retriedRun : List InviteEvent :=
  invitedRun ++ [.answer 1 (.written true), .answer 1 (.written false),
    .call (.accept (utf16 "t1") (utf16 "bob@corp")), .answer 2 (.read true 1798668000000),
    .answer 2 (.written true)]

/-- The invite is revoked before the role is written. -/
def revokedRun : List InviteEvent :=
  invitedRun ++ [.call (.revoke (utf16 "t1")), .answer 2 (.read true 1798668000000),
    .answer 2 (.written true), .answer 1 (.written true)]

/-- The retry writes Bob's role a second time, and the acceptance that was under way writes it after
the revocation has returned success. -/
theorem invite_grants_again :
    let next := (inviteProgram gregorian id fun _ _ => 0).next
    Along next DrawsNew noInvites retriedRun ∧
    (run next noInvites retriedRun).shared.records =
      [.granted (utf16 "t1"), .granted (utf16 "t1")] ∧
    ¬ GrantsOnce (run next noInvites retriedRun) ∧
    Along next DrawsNew noInvites revokedRun ∧
    (run next noInvites revokedRun).shared.records =
      [.revoked (utf16 "t1"), .granted (utf16 "t1")] ∧
    ¬ GrantsOnce (run next noInvites revokedRun) := by
  intro next
  have hretried : (run next noInvites retriedRun).shared.records =
      [.granted (utf16 "t1"), .granted (utf16 "t1")] := by decide +kernel
  have hrevoked : (run next noInvites revokedRun).shared.records =
      [.revoked (utf16 "t1"), .granted (utf16 "t1")] := by decide +kernel
  refine ⟨by decide +kernel, hretried, fun h => ?_, by decide +kernel, hrevoked, fun h => ?_⟩
  · rw [GrantsOnce, hretried] at h
    exact (h [.granted (utf16 "t1")] _ [] rfl).1 (List.mem_singleton_self _)
  · rw [GrantsOnce, hrevoked] at h
    exact (h [.revoked (utf16 "t1")] _ [] rfl).2 (List.mem_singleton_self _)

end ChatmanEcosystem.Console
