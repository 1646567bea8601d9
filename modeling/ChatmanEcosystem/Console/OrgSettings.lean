import ChatmanEcosystem.Console.OrgRoles
import ChatmanEcosystem.Console.OverageBilling
import ChatmanEcosystem.Console.SlaCredits

/-!
# Settings of an organisation

Model of the setters and of `deleteOrg` of `platform-console/app/lib/orgs.ts`, any
number of which run at once over the registry of organisations. A setter reads the
entry of the organisation, changes its own fields in memory and writes the whole
entry back. The entries of the audit log are left out.

The state has, beside the registry, the settings that were written with success.

Results:

* `setting_updatedEntry_of_ne`: a setter changes its own fields only.
* `settingsKept_next`: a write of a setter keeps the settings exactly when the entry
  that it was made from is stored still, the setter's own fields apart.
* `settingsKept_iff`: runs in which settings do not overwrite each other.
-/

namespace ChatmanEcosystem.Console

open Common Common.Concurrent Js

/-! ## The registry -/

/-- `OrgBranding` (lines 60–64). -/
structure OrgBranding where
  productName : String
  logoUrl : String
  accentColor : String
  deriving DecidableEq

/-- `SamlConfigStatus` (`lib/saml-config.ts`, line 25). -/
inductive SamlConfigStatus
  | unconfigured
  | configured
  | validated
  deriving DecidableEq

/-- `SamlConfig` (`lib/saml-config.ts`, lines 27–36). -/
structure SamlConfig where
  entityId : String
  ssoUrl : String
  certificatePem : String
  status : SamlConfigStatus
  updatedAt : String
  deriving DecidableEq

/-- `SsoGroupRoleMapping` (`lib/sso-role-mapping.ts`, lines 27–37). -/
structure SsoGroupRoleMapping where
  ssoGroup : String
  role : Role
  deriving DecidableEq

/-- `customDomainStatus` (line 291). -/
inductive CustomDomainStatus
  | pending
  | issued
  | failed
  deriving DecidableEq

/-- `fixedUnitPrice` (line 1036). -/
structure FixedUnitPrice where
  cpuPerCoreHour : ℚ
  memoryPerGiBHour : ℚ
  deriving DecidableEq

/-- `OrgPricingOverride` (lines 1034–1041). -/
structure OrgPricingOverride where
  discountPercent : Option ℚ
  fixedUnitPrice : Option FixedUnitPrice
  effectiveFrom : String
  effectiveUntil : String
  contractRef : String
  approvedBy : String
  deriving DecidableEq

/-- `CmekProvider` (line 1331). -/
inductive CmekProvider
  | awsKms
  | gcpKms
  | azureKeyvault
  | vault
  deriving DecidableEq

/-- `CmekKeyBinding` (lines 1333–1354). -/
structure CmekKeyBinding where
  provider : CmekProvider
  keyRef : String
  boundAt : String
  boundBy : String
  previousKeyRef : Option String
  reason : String
  deriving DecidableEq

/-- `OrgRegistryEntry` (lines 238–336). -/
structure OrgRegistryEntry where
  name : String
  ns : String
  ownerIdentifier : String
  createdAt : String
  branding : Option OrgBranding := none
  slaTier : Option SlaCredit.SlaTier := none
  slaResponseTimeHours : Option ℕ := none
  slaUptimeTargetPct : Option ℚ := none
  region : Option String := none
  autoRemediateCritical : Option Bool := none
  enableFaultScan : Option Bool := none
  lastSlaCreditAppliedMonth : Option String := none
  customDomain : Option String := none
  customDomainStatus : Option CustomDomainStatus := none
  patchSlaTier : Option SlaCredit.SlaTier := none
  managingPartnerId : Option String := none
  samlConfig : Option SamlConfig := none
  ssoGroupMappings : Option (List SsoGroupRoleMapping) := none
  pricingOverride : Option OrgPricingOverride := none
  rotationComplianceBlocked : Option Bool := none
  rotationComplianceBlockedAt : Option String := none
  cmekBinding : Option CmekKeyBinding := none
  awsMarketplaceCustomerId : Option String := none
  deriving DecidableEq

/-- The registry of organisations, `getRegistry` (lines 395–411). -/
abbrev OrgRegistry := Std.ExtTreeMap String OrgRegistryEntry

/-- The fields that are set together. -/
inductive OrgField
  | branding
  | samlConfig
  | ssoGroupMappings
  | region
  | customDomain
  | sla
  | patchSla
  | pricingOverride
  | lastSlaCreditAppliedMonth
  | rotationComplianceBlock
  | cmekBinding
  deriving DecidableEq

/-- The value of such fields. -/
inductive OrgSetting
  | branding (branding : Option OrgBranding)
  | samlConfig (samlConfig : Option SamlConfig)
  | ssoGroupMappings (mappings : Option (List SsoGroupRoleMapping))
  | region (region : Option String)
  | customDomain (hostname : Option String) (status : Option CustomDomainStatus)
  | sla (slaTier : Option SlaCredit.SlaTier) (responseTimeHours : Option ℕ)
    (uptimeTargetPct : Option ℚ)
  | patchSla (patchSlaTier : Option SlaCredit.SlaTier)
  | pricingOverride (override : Option OrgPricingOverride)
  | lastSlaCreditAppliedMonth (month : Option String)
  | rotationComplianceBlock (blocked : Option Bool) (blockedAt : Option String)
  | cmekBinding (binding : Option CmekKeyBinding)
  deriving DecidableEq

/-- The value of the fields in an entry. -/
def OrgRegistryEntry.setting (entry : OrgRegistryEntry) : OrgField → OrgSetting
  | .branding => .branding entry.branding
  | .samlConfig => .samlConfig entry.samlConfig
  | .ssoGroupMappings => .ssoGroupMappings entry.ssoGroupMappings
  | .region => .region entry.region
  | .customDomain => .customDomain entry.customDomain entry.customDomainStatus
  | .sla => .sla entry.slaTier entry.slaResponseTimeHours entry.slaUptimeTargetPct
  | .patchSla => .patchSla entry.patchSlaTier
  | .pricingOverride => .pricingOverride entry.pricingOverride
  | .lastSlaCreditAppliedMonth => .lastSlaCreditAppliedMonth entry.lastSlaCreditAppliedMonth
  | .rotationComplianceBlock =>
    .rotationComplianceBlock entry.rotationComplianceBlocked entry.rotationComplianceBlockedAt
  | .cmekBinding => .cmekBinding entry.cmekBinding

/-! ## The setters -/

/-- The input of `setOrgSamlConfig`. -/
structure SamlInput where
  entityId : String
  ssoUrl : String
  certificatePem : String
  deriving DecidableEq

/-- `slaResponseTimeHours` of `SLA_TIER_DEFAULTS` (`lib/tiers.ts`, lines 213–217). -/
def slaResponseTimeHours : SlaCredit.SlaTier → ℕ
  | .standard => 24
  | .priority => 4
  | .enterprise247 => 1

/-- A setter with its arguments. -/
inductive OrgSetter
  | setOrgBranding (branding : OrgBranding)
  | setOrgSamlConfig (input : SamlInput)
  | setOrgSsoGroupMappings (mappings : List SsoGroupRoleMapping)
  | setOrgRegion (region : String)
  | setOrgCustomDomain (hostname : String) (status : CustomDomainStatus)
  | setOrgSla (slaTier : SlaCredit.SlaTier)
  | setOrgPatchSla (patchSlaTier : Option SlaCredit.SlaTier)
  | setOrgPricingOverride (override : Option OrgPricingOverride)
  | setOrgLastSlaCreditAppliedMonth (month : String)
  | setOrgRotationComplianceBlock (blocked : Bool)
  | setOrgCmekBinding (binding : Option CmekKeyBinding)
  deriving DecidableEq

variable (js : JsRuntime) (now : ℤ)

/-- `samlConfig` of `setOrgSamlConfig` (lines 610–616). -/
def newSamlConfig (input : SamlInput) : SamlConfig where
  entityId := input.entityId
  ssoUrl := input.ssoUrl
  certificatePem := input.certificatePem
  status := .configured
  updatedAt := js.toISOString now

/-- `updatedEntry` of each setter (lines 565, 617, 661, 794, 868, 951–956, 992, 1153, 1219,
1293–1297 and 1455). -/
def OrgSetter.updatedEntry (entry : OrgRegistryEntry) : OrgSetter → OrgRegistryEntry
  | setOrgBranding branding => { entry with branding := some branding }
  | setOrgSamlConfig input => { entry with samlConfig := some (newSamlConfig js now input) }
  | setOrgSsoGroupMappings mappings => { entry with ssoGroupMappings := some mappings }
  | setOrgRegion region => { entry with region := some region }
  | setOrgCustomDomain hostname status =>
    { entry with customDomain := some hostname, customDomainStatus := some status }
  | setOrgSla slaTier =>
    { entry with
      slaTier := some slaTier
      slaResponseTimeHours := some (slaResponseTimeHours slaTier)
      slaUptimeTargetPct := some (SlaCredit.slaUptimeTargetPct slaTier) }
  | setOrgPatchSla patchSlaTier => { entry with patchSlaTier }
  | setOrgPricingOverride pricingOverride => { entry with pricingOverride }
  | setOrgLastSlaCreditAppliedMonth month => { entry with lastSlaCreditAppliedMonth := some month }
  | setOrgRotationComplianceBlock blocked =>
    { entry with
      rotationComplianceBlocked := some blocked
      rotationComplianceBlockedAt := if blocked then some (js.toISOString now) else none }
  | setOrgCmekBinding cmekBinding => { entry with cmekBinding }

/-- The fields of a setter. -/
def OrgSetter.field : OrgSetter → OrgField
  | setOrgBranding _ => .branding
  | setOrgSamlConfig _ => .samlConfig
  | setOrgSsoGroupMappings _ => .ssoGroupMappings
  | setOrgRegion _ => .region
  | setOrgCustomDomain _ _ => .customDomain
  | setOrgSla _ => .sla
  | setOrgPatchSla _ => .patchSla
  | setOrgPricingOverride _ => .pricingOverride
  | setOrgLastSlaCreditAppliedMonth _ => .lastSlaCreditAppliedMonth
  | setOrgRotationComplianceBlock _ => .rotationComplianceBlock
  | setOrgCmekBinding _ => .cmekBinding

/-- The value that a setter sets. -/
def OrgSetter.setting : OrgSetter → OrgSetting
  | setOrgBranding branding => .branding (some branding)
  | setOrgSamlConfig input => .samlConfig (some (newSamlConfig js now input))
  | setOrgSsoGroupMappings mappings => .ssoGroupMappings (some mappings)
  | setOrgRegion region => .region (some region)
  | setOrgCustomDomain hostname status => .customDomain (some hostname) (some status)
  | setOrgSla slaTier => .sla (some slaTier) (some (slaResponseTimeHours slaTier))
    (some (SlaCredit.slaUptimeTargetPct slaTier))
  | setOrgPatchSla patchSlaTier => .patchSla patchSlaTier
  | setOrgPricingOverride override => .pricingOverride override
  | setOrgLastSlaCreditAppliedMonth month => .lastSlaCreditAppliedMonth (some month)
  | setOrgRotationComplianceBlock blocked =>
    .rotationComplianceBlock (some blocked) (if blocked then some (js.toISOString now) else none)
  | setOrgCmekBinding binding => .cmekBinding binding

/-- The setter writes an entry of the audit log before it returns. -/
def OrgSetter.audited : OrgSetter → Bool
  | setOrgPricingOverride _ | setOrgRotationComplianceBlock _ | setOrgCmekBinding _ => true
  | _ => false

variable {js now}

/-- A setter sets its own fields. -/
theorem setting_updatedEntry (entry : OrgRegistryEntry) (setter : OrgSetter) :
    (setter.updatedEntry js now entry).setting setter.field = setter.setting js now := by
  cases setter <;> rfl

/-- A setter changes its own fields only. -/
theorem setting_updatedEntry_of_ne (entry : OrgRegistryEntry) (setter : OrgSetter)
    {field : OrgField} (h : field ≠ setter.field) :
    (setter.updatedEntry js now entry).setting field = entry.setting field := by
  cases setter <;> cases field <;> first | rfl | exact absurd rfl h

/-! ## Calls -/

/-- A setter of an organisation has set these fields to this value. -/
structure OrgWrite where
  id : String
  field : OrgField
  setting : OrgSetting
  deriving DecidableEq

/-- The registry, and what the setters have written, the newest first. -/
structure OrgState where
  registry : OrgRegistry
  writes : List OrgWrite

/-- Where a call stands. -/
inductive OrgCall
  /-- A setter awaits the registry. -/
  | reading (id : String) (setter : OrgSetter)
  /-- `setOrgRegion` awaits the tier of the organisation (line 779). -/
  | checkingTier (id region : String) (now : ℤ) (entry : OrgRegistryEntry)
  /-- It awaits the regions of the cluster (line 785). -/
  | checkingRegion (id region : String) (now : ℤ) (entry : OrgRegistryEntry)
  /-- A setter awaits the write of the entry that it makes from `entry`. -/
  | writing (id : String) (setter : OrgSetter) (now : ℤ) (entry : OrgRegistryEntry)
  /-- It awaits the entry of the audit log. -/
  | auditing (id : String) (updatedEntry : OrgRegistryEntry)
  | returned (id : String) (updatedEntry : Option OrgRegistryEntry)
  /-- `deleteOrg` awaits the registry (line 692). -/
  | deleting (id : String)
  /-- It awaits the deletion of the namespace (line 697). -/
  | emptying (id ns : String)
  /-- It awaits the removal of the entry (line 706). -/
  | erasing (id : String)
  | deleted (id : String)
  | failed (error : String)
  deriving DecidableEq

/-- A call of a setter or of `deleteOrg`. -/
inductive OrgRequest
  | set (id : String) (setter : OrgSetter)
  | delete (id : String)

/-- What an awaited call answers; with the registry comes the time that a setter takes next. The
deletion of a namespace also succeeds where the namespace is not found. -/
inductive OrgAnswer
  | registry (succeeded : Bool) (now : ℤ)
  | tier (tier : K8sResult Overage.ProjectTier)
  | regions (regions : K8sResult (List String))
  | emptied (result : K8sResult Unit)
  | written (succeeded : Bool)
  | logged

/-- A call up to its first await. -/
def OrgRequest.start : OrgRequest → OrgCall
  | set id setter => .reading id setter
  | delete id => .deleting id

/-- A setter that has read the entry, up to its next await. -/
def OrgSetter.proceed (id : String) (now : ℤ) (entry : OrgRegistryEntry) : OrgSetter → OrgCall
  | setOrgRegion region => .checkingTier id region now entry
  | setter => .writing id setter now entry

/-- The message of `setOrgRegion` for a region that the cluster does not have (line 790). -/
def noSuchRegion (regions : List String) : String :=
  let listed := ", ".intercalate regions
  "region must be one of the cluster's live node regions: " ++
    if listed = "" then "(none detected)" else listed

variable (js)

/-- The setters and `deleteOrg` from an answer on. -/
def resumeOrg (state : OrgState) : OrgCall → OrgAnswer → Option (OrgCall × OrgState)
  | .reading id setter, .registry true now =>
    match state.registry[id]? with
    | none => some (.returned id none, state)
    | some entry => some (setter.proceed id now entry, state)
  | .reading _ _, .registry false _ => some (.failed "read failed", state)
  | .checkingTier id region now entry, .tier (.ok tier) =>
    if tier ≠ .enterprise then
      some (.failed "region pinning requires this org's Project tier to be enterprise", state)
    else some (.checkingRegion id region now entry, state)
  | .checkingTier _ _ _ _, .tier (.error error) => some (.failed error, state)
  | .checkingRegion id region now entry, .regions (.ok regions) =>
    if region ∉ regions then some (.failed (noSuchRegion regions), state)
    else some (.writing id (.setOrgRegion region) now entry, state)
  | .checkingRegion _ _ _ _, .regions (.error error) => some (.failed error, state)
  | .writing id setter now entry, .written true =>
    let updatedEntry := setter.updatedEntry js now entry
    let next := if setter.audited then .auditing id updatedEntry
      else .returned id (some updatedEntry)
    some (next,
      { registry := state.registry.insert id updatedEntry
        writes := { id, field := setter.field, setting := setter.setting js now } :: state.writes })
  | .writing _ _ _ _, .written false => some (.failed "write failed", state)
  | .auditing id updatedEntry, .logged => some (.returned id (some updatedEntry), state)
  | .deleting id, .registry true _ =>
    match state.registry[id]? with
    | none => some (.deleted id, state)
    | some entry => some (.emptying id entry.ns, state)
  | .deleting _, .registry false _ => some (.failed "read failed", state)
  | .emptying id _, .emptied (.ok _) => some (.erasing id, state)
  | .emptying _ _, .emptied (.error error) => some (.failed error, state)
  | .erasing id, .written true =>
    some (.deleted id, { state with registry := state.registry.erase id })
  | .erasing _, .written false => some (.failed "write failed", state)
  | _, _ => none

/-- The setters and `deleteOrg` over one registry. -/
def orgProgram : Program OrgState OrgCall OrgRequest OrgAnswer Empty where
  enter state request := (request.start, state)
  resume := resumeOrg js
  move state _ := state

/-- The registry and the calls. -/
abbrev OrgSystem := System OrgState OrgCall

/-- A step of the system. -/
abbrev OrgEvent := Event OrgRequest OrgAnswer Empty

/-- A registry before the first call. -/
def orgStart (registry : OrgRegistry) : OrgSystem :=
  { shared := { registry, writes := [] }, calls := [] }

/-! ## What is to be kept -/

/-- The value that the last setter of the fields has written, or the one that they had at the
start. -/
def lastSetting (start : OrgRegistry) (writes : List OrgWrite) (id : String) (field : OrgField) :
    Option OrgSetting :=
  match writes.find? fun write => write.id = id ∧ write.field = field with
  | some write => some write.setting
  | none => start[id]?.map (·.setting field)

/-- Every field of a stored entry has the value of its last setter, and an organisation has no entry
once its deletion has returned success. -/
structure SettingsKept (start : OrgRegistry) (system : OrgSystem) : Prop where
  last : ∀ (id : String) entry, system.shared.registry[id]? = some entry →
    ∀ field, lastSetting start system.shared.writes id field = some (entry.setting field)
  deleted : ∀ id, .deleted id ∈ system.calls → system.shared.registry[id]? = none

/-- The entry that is stored, if there is one, differs from `entry` in the fields of the setter
only. -/
def EntryFoundAsRead (registry : OrgRegistry) (id : String) (setter : OrgSetter)
    (entry : OrgRegistryEntry) : Prop :=
  ∃ stored, registry[id]? = some stored ∧
    ∀ field, field ≠ setter.field → entry.setting field = stored.setting field

/-- A setter whose write succeeds finds the entry stored, and as it has read it in the fields that
it does not set. -/
def WritesAsRead (system : OrgSystem) : OrgEvent → Prop
  | .answer i (.written true) =>
    match system.calls[i]? with
    | some (.writing id setter _ entry) => EntryFoundAsRead system.shared.registry id setter entry
    | _ => True
  | _ => True

variable {js}

/-! ## Steps -/

/-- The organisation whose entry a call has read and may write. -/
def OrgCall.holds : OrgCall → Option String
  | checkingTier id _ _ _ | checkingRegion id _ _ _ | writing id _ _ _ => some id
  | _ => none

/-- What a call can do when it goes on: write an entry, remove one, or leave the registry alone. -/
inductive OrgStep (js : JsRuntime) (state : OrgState) :
    OrgCall → OrgAnswer → OrgCall → OrgState → Prop
  | goesOn {call answer next} (hanswer : answer ≠ .written true) (hcall : ∀ id, call ≠ .deleted id)
      (hholds : ∀ id, next.holds = some id →
        call.holds = some id ∨ ∃ entry, state.registry[id]? = some entry)
      (hdeleted : ∀ id, next = .deleted id → state.registry[id]? = none) :
      OrgStep js state call answer next state
  | sets (id setter now entry) {next} (hholds : next.holds = none)
      (hdeleted : ∀ other, next ≠ .deleted other) :
      OrgStep js state (.writing id setter now entry) (.written true) next
        { registry := state.registry.insert id (setter.updatedEntry js now entry)
          writes :=
            { id, field := setter.field, setting := setter.setting js now } :: state.writes }
  | erases (id) : OrgStep js state (.erasing id) (.written true) (.deleted id)
      { state with registry := state.registry.erase id }

theorem holds_proceed (id : String) (now : ℤ) (entry : OrgRegistryEntry) (setter : OrgSetter) :
    (setter.proceed id now entry).holds = some id := by
  cases setter <;> rfl

variable {state : OrgState} {call next : OrgCall} {answer : OrgAnswer}

/-- A call that stops without the registry. -/
theorem OrgStep.stops (hanswer : answer ≠ .written true) (hcall : ∀ id, call ≠ .deleted id)
    (hholds : next.holds = none ∨ next.holds = call.holds) (hdeleted : ∀ id, next ≠ .deleted id) :
    OrgStep js state call answer next state := by
  refine .goesOn hanswer hcall (fun id hid => ?_) fun id hid => absurd hid (hdeleted id)
  rcases hholds with hnone | hsame
  · rw [hnone] at hid
    cases hid
  · exact .inl (hsame ▸ hid)

theorem orgStep_of_resume {after : OrgState}
    (h : resumeOrg js state call answer = some (next, after)) :
    OrgStep js state call answer next after := by
  unfold resumeOrg at h
  split at h
  · split at h
    · obtain ⟨rfl, rfl⟩ := h
      exact .stops (by simp) (by simp) (.inl rfl) (by simp)
    · next hentry =>
      obtain ⟨rfl, rfl⟩ := h
      refine .goesOn (by simp) (by simp) (fun id hid => ?_) (fun id hid => ?_)
      · rw [holds_proceed] at hid
        obtain rfl := Option.some.inj hid
        exact .inr ⟨_, hentry⟩
      · have hholds := congrArg OrgCall.holds hid
        rw [holds_proceed] at hholds
        cases hholds
  · obtain ⟨rfl, rfl⟩ := h
    exact .stops (by simp) (by simp) (.inl rfl) (by simp)
  · split_ifs at h
    · obtain ⟨rfl, rfl⟩ := h
      exact .stops (by simp) (by simp) (.inl rfl) (by simp)
    · obtain ⟨rfl, rfl⟩ := h
      exact .stops (by simp) (by simp) (.inr rfl) (by simp)
  · obtain ⟨rfl, rfl⟩ := h
    exact .stops (by simp) (by simp) (.inl rfl) (by simp)
  · split_ifs at h
    · obtain ⟨rfl, rfl⟩ := h
      exact .stops (by simp) (by simp) (.inr rfl) (by simp)
    · obtain ⟨rfl, rfl⟩ := h
      exact .stops (by simp) (by simp) (.inl rfl) (by simp)
  · obtain ⟨rfl, rfl⟩ := h
    exact .stops (by simp) (by simp) (.inl rfl) (by simp)
  · next id setter now entry =>
    obtain ⟨rfl, rfl⟩ := h
    refine .sets id setter now entry ?_ fun other => ?_
    · split_ifs <;> rfl
    · split_ifs <;> simp
  · obtain ⟨rfl, rfl⟩ := h
    exact .stops (by simp) (by simp) (.inl rfl) (by simp)
  · obtain ⟨rfl, rfl⟩ := h
    exact .stops (by simp) (by simp) (.inl rfl) (by simp)
  · split at h
    · next id _ hentry =>
      obtain ⟨rfl, rfl⟩ := h
      refine .goesOn (by simp) (by simp) (fun other hid => by cases hid) fun other hid => ?_
      obtain rfl := OrgCall.deleted.inj hid
      exact hentry
    · obtain ⟨rfl, rfl⟩ := h
      exact .stops (by simp) (by simp) (.inl rfl) (by simp)
  · obtain ⟨rfl, rfl⟩ := h
    exact .stops (by simp) (by simp) (.inl rfl) (by simp)
  · obtain ⟨rfl, rfl⟩ := h
    exact .stops (by simp) (by simp) (.inl rfl) (by simp)
  · obtain ⟨rfl, rfl⟩ := h
    exact .stops (by simp) (by simp) (.inl rfl) (by simp)
  · obtain ⟨rfl, rfl⟩ := h
    exact .erases _
  · obtain ⟨rfl, rfl⟩ := h
    exact .stops (by simp) (by simp) (.inl rfl) (by simp)
  · cases h

/-! ## What holds without a condition -/

/-- The organisations are those of the start, and one without an entry was deleted. -/
structure OrgInv (start : OrgRegistry) (system : OrgSystem) : Prop where
  held : ∀ call ∈ system.calls, ∀ id, call.holds = some id → ∃ entry, start[id]? = some entry
  absent : ∀ id : String, start[id]? = none → system.shared.registry[id]? = none
  gone : ∀ id : String, system.shared.registry[id]? = none →
    start[id]? = none ∨ .deleted id ∈ system.calls

variable {start : OrgRegistry} {system : OrgSystem} {i : ℕ}

theorem OrgInv.resume (h : OrgInv start system) (hcall : system.calls[i]? = some call)
    (hstep : OrgStep js system.shared call answer next state) :
    OrgInv start { shared := state, calls := system.calls.set i next } := by
  have hlt : i < system.calls.length := (List.getElem?_eq_some_iff.mp hcall).1
  have hown := h.held call (List.mem_of_getElem? hcall)
  have hheld : (∀ id, next.holds = some id → ∃ entry, start[id]? = some entry) →
      ∀ other ∈ system.calls.set i next, ∀ id, other.holds = some id →
        ∃ entry, start[id]? = some entry := by
    intro hnew other hmem id hid
    rcases List.mem_or_eq_of_mem_set hmem with hold | rfl
    · exact h.held other hold id hid
    · exact hnew id hid
  have hkeep : ∀ id, call ≠ .deleted id → .deleted id ∈ system.calls →
      .deleted id ∈ system.calls.set i next := fun id hne hmem =>
    (mem_set_iff_of_ne hcall (Ne.symm hne)).mpr (.inr hmem)
  cases hstep with
  | goesOn hanswer hnot hholds hdeleted =>
    refine ⟨hheld fun id hid => ?_, h.absent, fun id hnone => ?_⟩
    · rcases hholds id hid with hcalls | ⟨entry, hentry⟩
      · exact hown id hcalls
      · refine Option.ne_none_iff_exists'.mp fun hnone => ?_
        rw [h.absent id hnone] at hentry
        cases hentry
    · exact (h.gone id hnone).imp_right (hkeep id (hnot id))
  | sets id setter now entry hholds hdeleted =>
    refine ⟨hheld fun other hother => ?_, fun other hnone => ?_, fun other hnone => ?_⟩
    · rw [hholds] at hother
      cases hother
    · have hne : id ≠ other := by
        rintro rfl
        obtain ⟨found, hfound⟩ := hown id rfl
        rw [hnone] at hfound
        cases hfound
      simpa [Std.ExtTreeMap.getElem?_insert, hne] using h.absent other hnone
    · rw [Std.ExtTreeMap.getElem?_insert] at hnone
      split_ifs at hnone
      exact (h.gone other hnone).imp_right (hkeep other (by simp))
  | erases id =>
    refine ⟨hheld fun other hother => (by cases hother), fun other hnone => ?_,
      fun other hnone => ?_⟩
    · rw [Std.ExtTreeMap.getElem?_erase, h.absent other hnone, ite_self]
    · by_cases hid : id = other
      · subst hid
        exact .inr (List.mem_set hlt _)
      · have hbefore : system.shared.registry[other]? = none := by
          simpa [Std.ExtTreeMap.getElem?_erase, hid] using hnone
        exact (h.gone other hbefore).imp_right (hkeep other (by simp))

theorem orgInv_next (system : OrgSystem) (event : OrgEvent) (h : OrgInv start system) :
    OrgInv start ((orgProgram js).next system event) := by
  cases event with
  | move change => exact change.elim
  | call request =>
    refine ⟨fun call hmem id hid => ?_, h.absent, fun id hnone => ?_⟩
    · rcases List.mem_append.mp hmem with hold | hnew
      · exact h.held call hold id hid
      · rw [List.mem_singleton.mp hnew] at hid
        cases request <;> cases hid
    · exact (h.gone id hnone).imp_right (List.mem_append_left _)
  | answer i answer =>
    rcases (orgProgram js).next_answer_cases system i answer with
      hnext | ⟨call, ⟨next, state⟩, hcall, hresume, hnext⟩
    · rw [hnext]
      exact h
    · rw [hnext]
      exact h.resume hcall (orgStep_of_resume hresume)

/-! ## What a write keeps -/

theorem lastSetting_cons (start : OrgRegistry) (write : OrgWrite) (writes : List OrgWrite)
    (id : String) (field : OrgField) : lastSetting start (write :: writes) id field =
      if write.id = id ∧ write.field = field then some write.setting
      else lastSetting start writes id field := by
  unfold lastSetting
  rw [List.find?_cons]
  by_cases hwrite : write.id = id ∧ write.field = field
  · simp [hwrite]
  · simp [hwrite]

/-- A setter writes: the settings are kept exactly when it finds the entry as it has read it. -/
theorem settingsKept_sets {id : String} {setter : OrgSetter} {now : ℤ} {entry : OrgRegistryEntry}
    (hinv : OrgInv start system) (h : SettingsKept start system)
    (hcall : system.calls[i]? = some (.writing id setter now entry))
    (hdeleted : ∀ other, next ≠ .deleted other) :
    SettingsKept start
      { shared :=
          { registry := system.shared.registry.insert id (setter.updatedEntry js now entry)
            writes := { id, field := setter.field, setting := setter.setting js now } ::
              system.shared.writes }
        calls := system.calls.set i next } ↔
      EntryFoundAsRead system.shared.registry id setter entry := by
  have hmem : ∀ other, OrgCall.deleted other ∈ system.calls.set i next ↔
      OrgCall.deleted other ∈ system.calls := by
    intro other
    rw [mem_set_iff_of_ne hcall (by simp)]
    exact or_iff_right (Ne.symm (hdeleted other))
  constructor
  · intro hafter
    -- the organisation is not deleted, since it has an entry afterwards
    obtain ⟨found, hstart⟩ := hinv.held _ (List.mem_of_getElem? hcall) id rfl
    obtain ⟨stored, hstored⟩ : ∃ stored, system.shared.registry[id]? = some stored := by
      refine Option.ne_none_iff_exists'.mp fun hnone => ?_
      rcases hinv.gone id hnone with hno | hgone
      · rw [hstart] at hno
        cases hno
      · have hentry := hafter.deleted id ((hmem id).mpr hgone)
        simp at hentry
    refine ⟨stored, hstored, fun field hfield => ?_⟩
    have hnew := hafter.last id (setter.updatedEntry js now entry)
      Std.ExtTreeMap.getElem?_insert_self field
    rw [lastSetting_cons, if_neg fun hsame => hfield hsame.2.symm, h.last id stored hstored field,
      setting_updatedEntry_of_ne entry setter hfield] at hnew
    exact (Option.some.inj hnew).symm
  · rintro ⟨stored, hstored, hsame⟩
    refine ⟨fun other found hfound field => ?_, fun other hgone => ?_⟩
    · simp only [Std.ExtTreeMap.getElem?_insert, Std.LawfulEqCmp.compare_eq_iff_eq] at hfound
      rw [lastSetting_cons]
      by_cases hid : id = other
      · subst hid
        rw [if_pos rfl] at hfound
        obtain rfl := Option.some.inj hfound
        by_cases hfield : field = setter.field
        · subst hfield
          rw [if_pos ⟨rfl, rfl⟩, setting_updatedEntry]
        · rw [if_neg fun heq => hfield heq.2.symm, setting_updatedEntry_of_ne entry setter hfield,
            hsame field hfield]
          exact h.last id stored hstored field
      · rw [if_neg hid] at hfound
        rw [if_neg fun heq => hid heq.1]
        exact h.last other found hfound field
    · have hnone := h.deleted other ((hmem other).mp hgone)
      have hne : id ≠ other := by
        rintro rfl
        rw [hstored] at hnone
        cases hnone
      simpa [Std.ExtTreeMap.getElem?_insert, hne] using hnone

theorem writesAsRead_of_ne (h : answer ≠ .written true) :
    WritesAsRead system (.answer i answer) := by
  match answer, h with
  | .registry _ _, _ | .tier _, _ | .regions _, _ | .emptied _, _ | .logged, _ => trivial
  | .written false, _ => trivial

/-- A call goes on: the settings are kept exactly when a setter that writes finds the entry as it
has read it. -/
theorem settingsKept_resume (hinv : OrgInv start system) (h : SettingsKept start system)
    (hcall : system.calls[i]? = some call)
    (hstep : OrgStep js system.shared call answer next state) :
    SettingsKept start { shared := state, calls := system.calls.set i next } ↔
      WritesAsRead system (.answer i answer) := by
  cases hstep with
  | goesOn hanswer hnot hholds hdeleted =>
    refine iff_of_true ⟨h.last, fun id hgone => ?_⟩ (writesAsRead_of_ne hanswer)
    rcases List.mem_or_eq_of_mem_set hgone with hold | hnew
    · exact h.deleted id hold
    · exact hdeleted id hnew.symm
  | sets id setter now entry hholds hdeleted =>
    have hwrites : WritesAsRead system (.answer i (.written true)) ↔
        EntryFoundAsRead system.shared.registry id setter entry := by
      simp only [WritesAsRead, hcall]
    rw [hwrites]
    exact settingsKept_sets hinv h hcall hdeleted
  | erases id =>
    have hwrites : WritesAsRead system (.answer i (.written true)) := by
      simp only [WritesAsRead, hcall]
    refine iff_of_true ⟨fun other entry hentry field => ?_, fun other hgone => ?_⟩ hwrites
    · rw [Std.ExtTreeMap.getElem?_erase] at hentry
      split_ifs at hentry
      exact h.last other entry hentry field
    · rw [Std.ExtTreeMap.getElem?_erase]
      split_ifs with hid
      · rfl
      · rcases List.mem_or_eq_of_mem_set hgone with hold | hnew
        · exact h.deleted other hold
        · exact absurd (OrgCall.deleted.inj hnew).symm (by simpa using hid)

/-- An event keeps the settings exactly when, as a write of a setter, it finds the entry as it was
read. -/
theorem settingsKept_next (system : OrgSystem) (event : OrgEvent) (hinv : OrgInv start system)
    (h : SettingsKept start system) :
    SettingsKept start ((orgProgram js).next system event) ↔ WritesAsRead system event := by
  refine Program.next_iff ?_ ?_ ?_ (fun change => change.elim) event
  · intro request
    refine iff_of_true ⟨h.last, fun id hgone => ?_⟩ trivial
    rcases List.mem_append.mp hgone with hold | hnew
    · exact h.deleted id hold
    · cases request <;> cases List.mem_singleton.mp hnew
  · intro i answer call after hcall hresume
    exact settingsKept_resume hinv h hcall (orgStep_of_resume hresume)
  · intro i answer hnone
    refine iff_of_true h ?_
    by_cases hanswer : answer = .written true
    · subst hanswer
      cases hcall : system.calls[i]? with
      | none => simp [WritesAsRead, hcall]
      | some call =>
        have hignored := hnone call hcall
        cases call with
        | writing id setter now entry => cases hignored
        | _ => simp [WritesAsRead, hcall]
    · exact writesAsRead_of_ne hanswer

/-- In runs of setters and deletions over any registry, with reads and writes that fail, every field
has the value of its last setter and deleted organisations stay deleted exactly when every setter
whose write succeeds finds the entry stored, and as it has read it in the fields that it does not
set. -/
theorem settingsKept_iff (js : JsRuntime) (registry : OrgRegistry) (events : List OrgEvent) :
    Always (orgProgram js).next (SettingsKept registry) (orgStart registry) events ↔
      Along (orgProgram js).next WritesAsRead (orgStart registry) events := by
  refine always_iff_along orgInv_next settingsKept_next ?_ ?_
  · exact ⟨by simp [orgStart], fun _ => id, fun _ => .inl⟩
  · refine ⟨fun id entry hentry field => ?_, by simp [orgStart]⟩
    simp only [orgStart] at hentry
    simp [lastSetting, orgStart, hentry]

/-! ## Overlapping calls -/

/-- What is stored in a field is what was last set. -/
theorem SettingsKept.lastSetting_eq (h : SettingsKept start system) {id : String} {field : OrgField}
    {setting : OrgSetting}
    (hstored : system.shared.registry[id]?.map (·.setting field) = some setting) :
    lastSetting start system.shared.writes id field = some setting := by
  obtain ⟨entry, hentry, rfl⟩ := Option.map_eq_some_iff.mp hstored
  exact h.last id entry hentry field

/-- An organisation without settings. -/
def acmeEntry : OrgRegistryEntry where
  name := "Acme"
  ns := "org-acme-0a1b2c3d"
  ownerIdentifier := "owner@acme"
  createdAt := "2026-01-01T00:00:00.000Z"

/-- Branding and a custom domain are set at the same time, and the branding is lost; and the entry
of an organisation is written again after its deletion has returned success. -/
theorem overlapping_setters_lose :
    let registry : OrgRegistry := Std.ExtTreeMap.insert ∅ "acme" acmeEntry
    let branding : OrgBranding :=
      { productName := "Acme", logoUrl := "https://acme/logo", accentColor := "#112233" }
    let next := (orgProgram gregorian).next
    let twoSetters : List OrgEvent :=
      [.call (.set "acme" (.setOrgBranding branding)),
       .call (.set "acme" (.setOrgCustomDomain "console.acme" .pending)),
       .answer 0 (.registry true 1798664400000), .answer 1 (.registry true 1798664400000),
       .answer 0 (.written true), .answer 1 (.written true)]
    let deletion : List OrgEvent :=
      [.call (.set "acme" (.setOrgBranding branding)), .answer 0 (.registry true 1798664400000),
       .call (.delete "acme"), .answer 1 (.registry true 1798664400000),
         .answer 1 (.emptied (.ok ())),
       .answer 1 (.written true), .answer 0 (.written true)]
    ((run next (orgStart registry) twoSetters).shared.registry["acme"]?.bind (·.branding)) = none ∧
    ¬ SettingsKept registry (run next (orgStart registry) twoSetters) ∧
    ((run next (orgStart registry) deletion).shared.registry["acme"]?.bind (·.branding)) =
      some branding ∧
    ¬ SettingsKept registry (run next (orgStart registry) deletion) := by
  intro registry branding next twoSetters deletion
  have hentry : (run next (orgStart registry) deletion).shared.registry["acme"]?.isSome := by
    decide +kernel
  have hdeleted : .deleted "acme" ∈ (run next (orgStart registry) deletion).calls := by
    decide +kernel
  refine ⟨by decide +kernel, fun h => ?_, by decide +kernel, fun h => ?_⟩
  · have hlast : lastSetting registry (run next (orgStart registry) twoSetters).shared.writes "acme"
        .branding = some (.branding none) := h.lastSetting_eq (by decide +kernel)
    have hset : lastSetting registry (run next (orgStart registry) twoSetters).shared.writes "acme"
        .branding = some (.branding (some branding)) := by decide +kernel
    rw [hset] at hlast
    cases hlast
  · rw [h.deleted "acme" hdeleted] at hentry
    cases hentry

end ChatmanEcosystem.Console
