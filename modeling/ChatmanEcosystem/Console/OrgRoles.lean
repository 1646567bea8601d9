import ChatmanEcosystem.Common.Run
import ChatmanEcosystem.Console.IdentifierKeys
import ChatmanEcosystem.Console.K8s
import Std.Data.ExtTreeMap

/-!
# Role assignments

Model of `platform-console/app/lib/authz.ts`, lines 66–270 and 397–414: the roles
ConfigMap of a namespace, the calls that write it and the roles that are resolved from
it. The invites of a namespace are stored in the same ConfigMap.

Results:

* `tracks_next`: as long as the identifiers can be read back, the ConfigMap has the
  last role that was set for each.
* `perIdentity_iff`: runs in which role assignments are per identity.
-/

namespace ChatmanEcosystem.Console

open Common Js

/-! ## The ConfigMap -/

/-- `Role` (line 66). -/
inductive Role
  | viewer
  | member
  | owner
  deriving DecidableEq

/-- `InviteStatus` (line 397). -/
inductive InviteStatus
  | pending
  | accepted
  | revoked
  deriving DecidableEq

/-- `OrgInvite` (lines 399–407). -/
structure OrgInvite where
  token : Utf16
  email : Utf16
  role : Role
  invitedBy : Utf16
  invitedAt : String
  expiresAt : String
  status : InviteStatus
  deriving DecidableEq

/-- A value of the roles ConfigMap: a role, or an invite as JSON. -/
inductive OrgRolesValue
  | role (role : Role)
  | invite (invite : OrgInvite)
  deriving DecidableEq

/-- The data of the roles ConfigMap. -/
abbrev OrgRolesData := Std.ExtTreeMap Utf16 OrgRolesValue

/-- The role that a value is, `isRole` (lines 73–75). -/
def OrgRolesValue.role? : OrgRolesValue → Option Role
  | role r => some r
  | invite _ => none

/-- `OrgRoleAssignment` (lines 103–106). -/
structure OrgRoleAssignment where
  identifier : Utf16
  role : Role
  deriving DecidableEq

variable (localeCompare : Utf16 → Utf16 → ℤ)

/-- `toAssignments` (lines 108–113). -/
def toAssignments (data : OrgRolesData) : List OrgRoleAssignment :=
  (data.toList.filterMap fun (key, value) =>
    value.role?.map fun role => { identifier := decodeIdentifierKey key, role }).mergeSort
    fun a b => localeCompare a.identifier b.identifier ≤ 0

/-- `ADMIN_IDENTIFIER` (line 71). -/
def adminIdentifier : Utf16 := utf16 "admin"

/-- `getOrgRoleAssignments` (lines 124–137), and the data that it leaves. -/
def getOrgRoleAssignments (data : Option OrgRolesData) : List OrgRoleAssignment × OrgRolesData :=
  let seeded := data.getD
    (Std.ExtTreeMap.insert ∅ (encodeIdentifierKey adminIdentifier) (.role .owner))
  (toAssignments localeCompare seeded, seeded)

/-- `getOrgRoleAssignmentsIn` (lines 196–203). -/
def getOrgRoleAssignmentsIn (data : Option OrgRolesData) : List OrgRoleAssignment :=
  match data with
  | none => []
  | some data => toAssignments localeCompare data

/-- `setOrgRole` and `setOrgRoleIn` (lines 144–153 and 213–223), where their write succeeds. -/
def setOrgRoleIn (data : Option OrgRolesData) (identifier : Utf16) (role : Role) :
    Option OrgRolesData :=
  some ((data.getD ∅).insert (encodeIdentifierKey identifier) (.role role))

/-- `removeOrgRoleIn` (lines 237–256), where its write succeeds. -/
def removeOrgRoleIn (data : Option OrgRolesData) (identifier : Utf16) : Option OrgRolesData :=
  if (getOrgRoleAssignmentsIn localeCompare data).any (·.identifier == identifier) then
    some ((data.getD ∅).erase (encodeIdentifierKey identifier))
  else data

/-! ## Sessions -/

/-- `SessionPayload` (`lib/session.ts`, lines 56–115), with the claims that roles are resolved
from. -/
inductive SessionPayload
  | localAdmin (sub : Utf16)
  | gotrue (sub email : Utf16)
  | oidcExternal (sub email : Utf16)
  | apiKey (sub : Utf16) (boundRole : Role)

/-- `roleIdentifierFor` (lines 97–101). -/
def roleIdentifierFor : SessionPayload → Utf16
  | .gotrue _ email | .oidcExternal _ email => email
  | .localAdmin sub | .apiKey sub _ => sub

/-- The role of the first assignment for an identifier, if there is one. -/
def assignedRole (assignments : List OrgRoleAssignment) (identifier : Utf16) : Option Role :=
  (assignments.find? (·.identifier == identifier)).map (·.role)

/-- `getRoleFor` (lines 165–185). -/
def getRoleFor (session : SessionPayload)
    (assignments : K8sResult (List OrgRoleAssignment)) : Role :=
  match session with
  | .apiKey _ boundRole => boundRole
  | _ =>
    let default := match session with
      | .localAdmin _ => .owner
      | _ => .viewer
    match assignments with
    | .error _ => default
    | .ok assignments => (assignedRole assignments (roleIdentifierFor session)).getD default

/-- `getRoleForIn` (lines 258–270). -/
def getRoleForIn (session : SessionPayload) (assignments : K8sResult (List OrgRoleAssignment)) :
    Role :=
  match session with
  | .apiKey _ boundRole => boundRole
  | _ =>
    match assignments with
    | .error _ => .viewer
    | .ok assignments => (assignedRole assignments (roleIdentifierFor session)).getD .viewer

/-! ## Runs -/

/-- A call on one namespace, and whether its write succeeds. -/
inductive RoleCall
  | set (identifier : Utf16) (role : Role) (succeeded : Bool)
  | remove (identifier : Utf16) (succeeded : Bool)

/-- The ConfigMap, and the last role set for each identifier that was not removed since. -/
structure RoleRun where
  data : Option OrgRolesData
  last : Std.ExtTreeMap Utf16 Role

/-- The run after a call. -/
def RoleRun.next (state : RoleRun) : RoleCall → RoleRun
  | .set identifier role true =>
    { data := setOrgRoleIn state.data identifier role, last := state.last.insert identifier role }
  | .remove identifier true =>
    { data := removeOrgRoleIn localeCompare state.data identifier
      last := state.last.erase identifier }
  | _ => state

/-- Before the first call: no ConfigMap, or the one that `getOrgRoleAssignments` seeds. -/
def RoleRun.start (seeded : Bool) : RoleRun :=
  if seeded then
    { data := some (getOrgRoleAssignments localeCompare none).2
      last := Std.ExtTreeMap.insert ∅ adminIdentifier .owner }
  else { data := none, last := ∅ }

/-- The role list has exactly the last role of each identifier, and this is what is resolved. -/
structure PerIdentity (state : RoleRun) : Prop where
  assigned : ∀ identifier role,
    { identifier, role } ∈ getOrgRoleAssignmentsIn localeCompare state.data ↔
      state.last[identifier]? = some role
  nodup : ((getOrgRoleAssignmentsIn localeCompare state.data).map (·.identifier)).Nodup
  resolved : ∀ identifier,
    assignedRole (getOrgRoleAssignmentsIn localeCompare state.data) identifier =
      state.last[identifier]?

/-- The identifier that a call is about. -/
def RoleCall.identifier : RoleCall → Utf16
  | set identifier _ _ | remove identifier _ => identifier

/-- The call does not change the role that is resolved for anybody else. -/
def IsolatesRoles (state : RoleRun) (call : RoleCall) : Prop :=
  ∀ session, roleIdentifierFor session ≠ call.identifier →
    getRoleForIn session (.ok (getOrgRoleAssignmentsIn localeCompare
      (state.next localeCompare call).data)) =
        getRoleForIn session (.ok (getOrgRoleAssignmentsIn localeCompare state.data)) ∧
    ∀ data, state.data = some data →
      getRoleFor session (.ok (getOrgRoleAssignments localeCompare
        (state.next localeCompare call).data).1) =
          getRoleFor session (.ok (getOrgRoleAssignments localeCompare state.data).1)

/-- A role that is set with success is set for a clean identifier. -/
def SetsClean (_ : RoleRun) : RoleCall → Prop
  | .set identifier _ true => Clean identifier
  | _ => True

variable {localeCompare}

/-! ## Role lists -/

variable {data : OrgRolesData} {identifier : Utf16} {role : Role}

theorem mem_toAssignments :
    { identifier, role } ∈ toAssignments localeCompare data ↔
      ∃ key : Utf16, data[key]? = some (.role role) ∧ decodeIdentifierKey key = identifier := by
  unfold toAssignments
  rw [List.mem_mergeSort, List.mem_filterMap]
  constructor
  · rintro ⟨⟨key, value⟩, hentry, hassigned⟩
    rw [Std.ExtTreeMap.mem_toList_iff_getElem?_eq_some] at hentry
    cases value with
    | invite invite => cases hassigned
    | role r =>
      obtain ⟨rfl, rfl⟩ := OrgRoleAssignment.mk.inj (Option.some.inj hassigned)
      exact ⟨key, hentry, rfl⟩
  · rintro ⟨key, hentry, rfl⟩
    exact ⟨(key, .role role), Std.ExtTreeMap.mem_toList_iff_getElem?_eq_some.mpr hentry, rfl⟩

theorem mem_getOrgRoleAssignmentsIn {data : Option OrgRolesData} :
    { identifier, role } ∈ getOrgRoleAssignmentsIn localeCompare data ↔
      ∃ key : Utf16, (data.getD ∅)[key]? = some (.role role) ∧
        decodeIdentifierKey key = identifier := by
  cases data with
  | none => simp [getOrgRoleAssignmentsIn]
  | some data => exact mem_toAssignments

theorem encodeIdentifierKey_inj {a b : Utf16} (ha : Clean a) (hb : Clean b)
    (h : encodeIdentifierKey a = encodeIdentifierKey b) : a = b := by
  rw [← (decode_encode_iff a).mpr ha, h, (decode_encode_iff b).mpr hb]

/-- The ConfigMap has the last roles, each under the key of a clean identifier. -/
structure Tracks (state : RoleRun) : Prop where
  clean : ∀ (identifier : Utf16) role, state.last[identifier]? = some role → Clean identifier
  stored : ∀ (key : Utf16) role, (state.data.getD ∅)[key]? = some (.role role) ↔
    ∃ identifier : Utf16, state.last[identifier]? = some role ∧ encodeIdentifierKey identifier = key

variable {state : RoleRun}

theorem Tracks.mem_iff (h : Tracks state) :
    { identifier, role } ∈ getOrgRoleAssignmentsIn localeCompare state.data ↔
      state.last[identifier]? = some role := by
  rw [mem_getOrgRoleAssignmentsIn]
  constructor
  · rintro ⟨key, hkey, rfl⟩
    obtain ⟨identifier, hlast, rfl⟩ := (h.stored key role).mp hkey
    rw [(decode_encode_iff identifier).mpr (h.clean identifier role hlast)]
    exact hlast
  · intro hlast
    exact ⟨_, (h.stored _ role).mpr ⟨identifier, hlast, rfl⟩,
      (decode_encode_iff identifier).mpr (h.clean identifier role hlast)⟩

theorem Tracks.nodup (h : Tracks state) :
    ((getOrgRoleAssignmentsIn localeCompare state.data).map (·.identifier)).Nodup := by
  cases hdata : state.data with
  | none => simp [getOrgRoleAssignmentsIn]
  | some data =>
    have hstored := h.stored
    simp only [hdata, Option.getD_some] at hstored
    have hclean : ∀ (key : Utf16) role, data[key]? = some (.role role) →
        ∃ identifier, Clean identifier ∧ key = encodeIdentifierKey identifier := by
      intro key role hkey
      obtain ⟨identifier, hlast, hencode⟩ := (hstored key role).mp hkey
      exact ⟨identifier, h.clean identifier role hlast, hencode.symm⟩
    show ((toAssignments localeCompare data).map (·.identifier)).Nodup
    unfold toAssignments
    rw [((List.mergeSort_perm _ _).map _).nodup_iff, List.map_filterMap, List.nodup_iff_pairwise_ne,
      List.pairwise_filterMap]
    refine Std.ExtTreeMap.distinct_keys_toList.imp_of_mem ?_
    rintro ⟨a, va⟩ ⟨b, vb⟩ hamem hbmem hne ida hida idb hidb
    rw [Std.ExtTreeMap.mem_toList_iff_getElem?_eq_some] at hamem hbmem
    cases va with
    | invite invite => cases hida
    | role ra =>
      cases vb with
      | invite invite => cases hidb
      | role rb =>
        obtain ⟨sa, hsa, rfl⟩ := hclean a ra hamem
        obtain ⟨sb, hsb, rfl⟩ := hclean b rb hbmem
        obtain rfl : decodeIdentifierKey (encodeIdentifierKey sa) = ida := Option.some.inj hida
        obtain rfl : decodeIdentifierKey (encodeIdentifierKey sb) = idb := Option.some.inj hidb
        rw [(decode_encode_iff sa).mpr hsa, (decode_encode_iff sb).mpr hsb]
        rintro rfl
        exact hne Std.ReflCmp.compare_self

/-- What a list of distinct assignments resolves is what is in it. -/
theorem assignedRole_eq {assignments : List OrgRoleAssignment} {last : Option Role}
    (h : ∀ role, { identifier, role } ∈ assignments ↔ last = some role) :
    assignedRole assignments identifier = last := by
  unfold assignedRole
  cases hfind : assignments.find? (·.identifier == identifier) with
  | none =>
    cases last with
    | none => rfl
    | some role =>
      have hnone := List.find?_eq_none.mp hfind _ ((h role).mpr rfl)
      simp at hnone
  | some found =>
    have hmem := List.mem_of_find?_eq_some hfind
    have hidentifier : found.identifier = identifier := by
      simpa using List.find?_some hfind
    subst hidentifier
    exact ((h found.role).mp hmem).symm

theorem Tracks.perIdentity (h : Tracks state) :
    PerIdentity localeCompare state where
  assigned _ _ := h.mem_iff
  nodup := h.nodup
  resolved _ := assignedRole_eq fun _ => h.mem_iff

/-! ## Steps -/

theorem Tracks.set (h : Tracks state) (hclean : Clean identifier) (role : Role) :
    Tracks { data := setOrgRoleIn state.data identifier role
             last := state.last.insert identifier role } where
  clean other found hfound := by
    rw [Std.ExtTreeMap.getElem?_insert] at hfound
    split_ifs at hfound with heq
    · rw [← Std.LawfulEqCmp.compare_eq_iff_eq.mp heq]
      exact hclean
    · exact h.clean other found hfound
  stored key found := by
    simp only [setOrgRoleIn, Option.getD_some, Std.ExtTreeMap.getElem?_insert,
      Std.LawfulEqCmp.compare_eq_iff_eq]
    by_cases hkey : encodeIdentifierKey identifier = key
    · rw [if_pos hkey]
      constructor
      · intro hrole
        exact ⟨identifier, by simpa using hrole, hkey⟩
      · rintro ⟨other, hlast, hother⟩
        split_ifs at hlast with heq
        · simpa using hlast
        · have hsame := encodeIdentifierKey_inj hclean (h.clean other found hlast)
            (hkey.trans hother.symm)
          exact absurd hsame heq
    · rw [if_neg hkey, h.stored]
      refine exists_congr fun other => ?_
      by_cases heq : identifier = other
      · subst heq
        simp [hkey]
      · simp [heq]

theorem Tracks.remove (h : Tracks state) (identifier : Utf16) :
    Tracks { data := removeOrgRoleIn localeCompare state.data identifier
             last := state.last.erase identifier } := by
  have hhad : (getOrgRoleAssignmentsIn localeCompare state.data).any
      (·.identifier == identifier) = true ↔ ∃ role, state.last[identifier]? = some role := by
    rw [List.any_eq_true]
    constructor
    · rintro ⟨⟨found, role⟩, hmem, heq⟩
      rw [beq_iff_eq] at heq
      subst heq
      exact ⟨role, h.mem_iff.mp hmem⟩
    · rintro ⟨role, hlast⟩
      exact ⟨_, h.mem_iff.mpr hlast, by simp⟩
  unfold removeOrgRoleIn
  split_ifs with hfound
  · obtain ⟨role, hlast⟩ := hhad.mp hfound
    have hclean := h.clean identifier role hlast
    refine ⟨fun other found hother => ?_, fun key found => ?_⟩
    · rw [Std.ExtTreeMap.getElem?_erase] at hother
      split_ifs at hother
      exact h.clean other found hother
    · simp only [Option.getD_some, Std.ExtTreeMap.getElem?_erase,
        Std.LawfulEqCmp.compare_eq_iff_eq]
      by_cases hkey : encodeIdentifierKey identifier = key
      · rw [if_pos hkey]
        refine iff_of_false (by simp) ?_
        rintro ⟨other, hother, hencode⟩
        split_ifs at hother with heq
        exact heq (encodeIdentifierKey_inj hclean (h.clean other found hother)
          (hkey.trans hencode.symm))
      · rw [if_neg hkey, h.stored]
        refine exists_congr fun other => ?_
        by_cases heq : identifier = other
        · subst heq
          simp [hkey]
        · simp [heq]
  · -- nothing is removed, and nothing was assigned
    have hnone : state.last[identifier]? = none := by
      rw [Option.eq_none_iff_forall_ne_some]
      intro role hrole
      exact hfound (hhad.mpr ⟨role, hrole⟩)
    have hlast : state.last.erase identifier = state.last := by
      refine Std.ExtTreeMap.ext_getElem? fun other => ?_
      rw [Std.ExtTreeMap.getElem?_erase]
      split_ifs with heq
      · rw [← Std.LawfulEqCmp.compare_eq_iff_eq.mp heq, hnone]
      · rfl
    rw [hlast]
    exact h

theorem tracks_next (state : RoleRun) (call : RoleCall) (h : Tracks state)
    (hclean : SetsClean state call) : Tracks (state.next localeCompare call) := by
  match call with
  | .set _ role true => exact h.set hclean role
  | .set _ _ false => exact h
  | .remove identifier true => exact h.remove identifier
  | .remove _ false => exact h

/-- The role that is set for an identifier that is not clean is not found under it. -/
theorem setsClean_of_perIdentity (state : RoleRun) (call : RoleCall) (h : Tracks state)
    (hnext : PerIdentity localeCompare (state.next localeCompare call)) : SetsClean state call := by
  match call with
  | .set _ _ false => trivial
  | .remove _ _ => trivial
  | .set identifier role true =>
    have hlast : (state.last.insert identifier role)[identifier]? = some role :=
      Std.ExtTreeMap.getElem?_insert_self
    obtain ⟨key, hkey, hdecode⟩ :=
      mem_getOrgRoleAssignmentsIn.mp ((hnext.assigned identifier role).mpr hlast)
    show Clean identifier
    simp only [RoleRun.next, setOrgRoleIn, Option.getD_some, Std.ExtTreeMap.getElem?_insert,
      Std.LawfulEqCmp.compare_eq_iff_eq] at hkey
    split_ifs at hkey with heq
    · rw [← decode_encode_iff, heq]
      exact hdecode
    · obtain ⟨other, hother, rfl⟩ := (h.stored key role).mp hkey
      have hclean := h.clean other role hother
      rw [(decode_encode_iff other).mpr hclean] at hdecode
      exact hdecode ▸ hclean

theorem tracks_start (seeded : Bool) : Tracks (RoleRun.start localeCompare seeded) := by
  cases seeded with
  | false => exact ⟨by simp [RoleRun.start], by simp [RoleRun.start]⟩
  | true =>
    have hempty : Tracks { data := none, last := ∅ } := ⟨by simp, by simp⟩
    exact hempty.set (by decide) .owner

/-! ## Resolved roles -/

variable {a b : List OrgRoleAssignment} {session : SessionPayload}

/-- What is resolved for a session follows from the assignments. -/
theorem getRoleForIn_congr
    (h : assignedRole a (roleIdentifierFor session) = assignedRole b (roleIdentifierFor session)) :
    getRoleForIn session (.ok a) = getRoleForIn session (.ok b) := by
  cases session with
  | apiKey sub boundRole => rfl
  | _ => exact congrArg (·.getD Role.viewer) h

theorem getRoleFor_congr
    (h : assignedRole a (roleIdentifierFor session) = assignedRole b (roleIdentifierFor session)) :
    getRoleFor session (.ok a) = getRoleFor session (.ok b) := by
  cases session with
  | apiKey sub boundRole => rfl
  | localAdmin sub => exact congrArg (·.getD Role.owner) h
  | _ => exact congrArg (·.getD Role.viewer) h

/-- A call changes nothing about the other identifiers. -/
theorem last_next_of_ne (state : RoleRun) (call : RoleCall) (h : identifier ≠ call.identifier) :
    (state.next localeCompare call).last[identifier]? = state.last[identifier]? := by
  match call, h with
  | .set other role true, h =>
    have hne : other ≠ identifier := Ne.symm h
    simp [RoleRun.next, Std.ExtTreeMap.getElem?_insert, hne]
  | .set _ _ false, _ => rfl
  | .remove other true, h =>
    have hne : other ≠ identifier := Ne.symm h
    simp [RoleRun.next, Std.ExtTreeMap.getElem?_erase, hne]
  | .remove _ false, _ => rfl

/-- The ConfigMap does not go away. -/
theorem data_next (h : state.data = some data) (call : RoleCall) :
    ∃ after, (state.next localeCompare call).data = some after := by
  match call with
  | .set _ _ true => exact ⟨_, rfl⟩
  | .set _ _ false => exact ⟨data, h⟩
  | .remove _ false => exact ⟨data, h⟩
  | .remove identifier true =>
    show ∃ after, removeOrgRoleIn localeCompare state.data identifier = some after
    unfold removeOrgRoleIn
    split_ifs
    · exact ⟨_, rfl⟩
    · exact ⟨data, h⟩

/-- Where the roles are per identity before and after a call, it changes nobody else's role. -/
theorem isolatesRoles_of_perIdentity {call : RoleCall} (h : PerIdentity localeCompare state)
    (hnext : PerIdentity localeCompare (state.next localeCompare call)) :
    IsolatesRoles localeCompare state call := by
  intro session hne
  have hassigned : assignedRole (getOrgRoleAssignmentsIn localeCompare
      (state.next localeCompare call).data) (roleIdentifierFor session) =
      assignedRole (getOrgRoleAssignmentsIn localeCompare state.data)
        (roleIdentifierFor session) := by
    rw [hnext.resolved, h.resolved, last_next_of_ne state call hne]
  refine ⟨getRoleForIn_congr hassigned, fun data hdata => getRoleFor_congr ?_⟩
  obtain ⟨after, hafter⟩ : ∃ after, (state.next localeCompare call).data = some after :=
    data_next hdata call
  rw [hdata, hafter] at hassigned
  rw [hdata, hafter]
  exact hassigned

/-- An identifier is read back from its key exactly when it is clean; and a run of calls on one
namespace, with writes that fail, keeps the role list exact and every call from changing the role of
another identifier exactly when every role that is set with success is set for a clean
identifier. -/
theorem perIdentity_iff (localeCompare : Utf16 → Utf16 → ℤ) :
    (∀ identifier, decodeIdentifierKey (encodeIdentifierKey identifier) = identifier ↔
      Clean identifier) ∧
    ∀ seeded calls,
      Always (RoleRun.next localeCompare) (PerIdentity localeCompare)
          (RoleRun.start localeCompare seeded) calls ∧
        Along (RoleRun.next localeCompare) (IsolatesRoles localeCompare)
          (RoleRun.start localeCompare seeded) calls ↔
      Along (RoleRun.next localeCompare) SetsClean (RoleRun.start localeCompare seeded) calls := by
  refine ⟨decode_encode_iff, fun seeded calls => ?_⟩
  rw [always_iff_along_of (fun _ => Tracks.perIdentity) tracks_next setsClean_of_perIdentity
    (tracks_start seeded)]
  refine and_iff_left_of_imp fun hclean => ?_
  refine along_of_along tracks_next (fun state call h hcall => ?_) (tracks_start seeded) hclean
  exact isolatesRoles_of_perIdentity h.perIdentity (tracks_next state call h hcall).perIdentity

/-- A role that is set for `root-x40-corp` surfaces as a role of `root@corp`. -/
theorem role_surfaces_elsewhere :
    let other : SessionPayload := .gotrue (utf16 "user-1") (utf16 "root@corp")
    let call : RoleCall := .set (utf16 "root-x40-corp") .owner true
    let state := RoleRun.start (fun _ _ => 0) false
    getRoleForIn other (.ok (getOrgRoleAssignmentsIn (fun _ _ => 0) state.data)) = .viewer ∧
    getRoleForIn other (.ok (getOrgRoleAssignmentsIn (fun _ _ => 0)
      (run (RoleRun.next fun _ _ => 0) state [call]).data)) = .owner ∧
    ¬ PerIdentity (fun _ _ => 0) (run (RoleRun.next fun _ _ => 0) state [call]) ∧
    decodeIdentifierKey (encodeIdentifierKey (utf16 "root-x40-corp")) ≠ utf16 "root-x40-corp" := by
  intro other call state
  have hunclean : ¬ Clean (utf16 "root-x40-corp") := by decide +kernel
  refine ⟨by decide +kernel, by decide +kernel, fun h => hunclean ?_, ?_⟩
  · exact setsClean_of_perIdentity state call (tracks_start false) h
  · rw [ne_eq, decode_encode_iff]
    exact hunclean

end ChatmanEcosystem.Console
