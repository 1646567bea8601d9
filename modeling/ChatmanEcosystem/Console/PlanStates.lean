import ChatmanEcosystem.Console.SubscriptionEvents
import ChatmanEcosystem.Js.Runtime
import Std.Data.ExtTreeSet

/-!
# Plan-state enforcement

Model of `setPlanState` and `reconcilePlanState`
(`platform-console/app/lib/plan-state.ts`, lines 116–289 and 366–503) over the
ConfigMap of the plan states and the ResourceQuotas, with `getResourceQuotaRaw`
and `patchResourceQuotaHard` of `app/lib/k8s.ts` (lines 2539–2552 and 2649–2662).
Ticks come one after the other. A patch is an RFC 7386 merge patch, and a patch or
a write that fails changes nothing. Of a quota the tick reads `status.hard`, which
the quota controller copies from `spec.hard` in its own time. The annotations of
the namespaces are left out, since nothing reads them.

Results:

* `nodup_effective`: a tick considers a namespace at most once.
* `tick_cases`: what a tick does to one namespace.
-/

namespace ChatmanEcosystem.Console.PlanStates

open Common Js

/-- A `hard` map: quantities by resource. -/
abbrev HardMap := Std.ExtTreeMap String String

/-- `SUSPENDED_HARD` (lines 135–141). -/
def suspendedHard : HardMap :=
  .ofList [("pods", "0"), ("limits.cpu", "1m"), ("limits.memory", "1Mi"), ("requests.cpu", "1m"),
    ("requests.memory", "1Mi")]

/-- `PlanStateRecord` (lines 143–151). -/
structure PlanStateRecord where
  tenantNamespace : String
  planState : PlanState
  source : String
  setAt : String
  deriving DecidableEq

/-- The ConfigMap `platform-plan-state`: its `state.`, `saved-hard.` and `enforced.` keys by
namespace. -/
structure PlanStateConfigMap where
  state : Std.ExtTreeMap String PlanStateRecord
  savedHard : Std.ExtTreeMap String HardMap
  enforced : Std.ExtTreeSet String

/-- `PlanStateEnforcementAction.action` (line 339). -/
inductive EnforcementAction
  | suspended
  | restored
  deriving DecidableEq

/-- `PlanStateEnforcementAction` (lines 337–342). -/
structure PlanStateEnforcementAction where
  tenantNamespace : String
  action : EnforcementAction
  planState : PlanState
  enforcedAt : String
  deriving DecidableEq

/-! ## Quotas -/

/-- The first ResourceQuota of a namespace. -/
structure ResourceQuota where
  name : String
  spec : HardMap
  status : Option HardMap

/-- `getResourceQuotaRaw` (`k8s.ts`, lines 2539–2552): the name and `status.hard`. -/
def getResourceQuotaRaw (read : K8sResult (Option ResourceQuota)) :
    K8sResult (Option (String × HardMap)) :=
  read.map fun quota => quota.map fun quota => (quota.name, quota.status.getD ∅)

/-- `patchResourceQuotaHard` (`k8s.ts`, lines 2649–2662): a merge patch of `spec.hard`. -/
def patchResourceQuotaHard (quota : ResourceQuota) (hard : HardMap) : ResourceQuota :=
  { quota with spec := quota.spec ∪ hard }

/-- The quotas by namespace. -/
abbrev QuotaStore := Std.ExtTreeMap String ResourceQuota

/-- The plan states and the quotas. -/
structure Cluster where
  configMap : PlanStateConfigMap
  quotas : QuotaStore

/-! ## The plan states of a tick -/

/-- `PLATFORM_NAMESPACES` (lines 82–89). -/
def platformNamespaces : List String :=
  ["autofde-lab", "gymact", "ggen", "ggen-marketplace", "supabase-demo", "platform-console"]

/-- What the awaited operations of a tick answer, with the text of its instant. A tick reads and
patches a quota at most once. The store of the subscriptions is read where there are credentials. -/
structure Tick where
  read : K8sResult Unit
  credentials : Bool
  subscriptions : K8sResult SubscriptionStore
  quotaRead : String → K8sResult Unit
  quotaPatch : String → K8sResult Unit
  write : K8sResult Unit
  now : String

/-- The text of a Stripe status. -/
def statusText : SubscriptionStatus → String
  | .active => "active"
  | .canceled => "canceled"
  | .incomplete => "incomplete"
  | .incompleteExpired => "incomplete_expired"
  | .pastDue => "past_due"
  | .paused => "paused"
  | .trialing => "trialing"
  | .unpaid => "unpaid"
  | .noSubscription => "no_subscription"

/-- `effective.set(record.namespace, record)`. -/
def setRecord (records : List PlanStateRecord) (record : PlanStateRecord) : List PlanStateRecord :=
  if record.tenantNamespace ∈ records.map (·.tenantNamespace) then
    records.map fun old => if old.tenantNamespace = record.tenantNamespace then record else old
  else records ++ [record]

section Model

variable (js : JsRuntime)

/-- The records that `readRawConfigMap` parses (lines 211–232). -/
def readRecords (configMap : PlanStateConfigMap) : List PlanStateRecord :=
  ((configMap.state.toList.filter fun (key, _) => key ≠ "").map fun (key, record) =>
    { record with tenantNamespace := key }).mergeSort
      fun a b => js.localeCompare a.tenantNamespace b.tenantNamespace ≤ 0

/-- The record of a subscription (lines 393–398). -/
def subscribedRecord (sub : StoredSubscription) (tenantNamespace : String) : PlanStateRecord where
  tenantNamespace
  planState := mapStripeStatusToPlanState sub.status
  source := "stripe:" ++ statusText sub.status
  setAt := js.toISOString sub.updatedAt

/-- The records of the subscriptions of the platform's namespaces; none if they cannot be read. -/
def subscribedRecords (tick : Tick) : List PlanStateRecord :=
  match tick.credentials, tick.subscriptions with
  | true, .ok store => platformNamespaces.filterMap fun tenantNamespace =>
    store[tenantNamespace]?.map fun sub => subscribedRecord js sub tenantNamespace
  | _, _ => []

/-- `effective` (lines 382–401). -/
def effective (tick : Tick) (configMap : PlanStateConfigMap) : List PlanStateRecord :=
  (subscribedRecords js tick).foldl setRecord (readRecords js configMap)

end Model

/-! ## The tick -/

/-- A change of the two keys of a namespace in the closing write. -/
inductive KeyChange
  | suspended (hard : HardMap)
  | restored

/-- The quotas, the `patch` and the `actions` of a tick so far. -/
structure Progress where
  quotas : QuotaStore
  patch : List (String × KeyChange)
  actions : List PlanStateEnforcementAction

/-- One namespace of the loop (lines 409–489). -/
def enforce (configMap : PlanStateConfigMap) (tick : Tick) (progress : Progress)
    (record : PlanStateRecord) : Progress :=
  let tenantNamespace := record.tenantNamespace
  let quotaResult := getResourceQuotaRaw
    ((tick.quotaRead tenantNamespace).map fun _ => progress.quotas[tenantNamespace]?)
  if record.planState ≠ .active ∧ tenantNamespace ∉ configMap.enforced then
    match quotaResult, tick.quotaPatch tenantNamespace with
    | .ok (some (_, hard)), .ok () =>
      { quotas := progress.quotas.modify tenantNamespace (patchResourceQuotaHard · suspendedHard)
        patch := progress.patch ++ [(tenantNamespace, .suspended hard)]
        actions := progress.actions ++ [{ tenantNamespace, action := .suspended,
                                          planState := record.planState, enforcedAt := tick.now }] }
    | _, _ => progress
  else if record.planState = .active ∧ tenantNamespace ∈ configMap.enforced then
    match configMap.savedHard[tenantNamespace]?, quotaResult, tick.quotaPatch tenantNamespace with
    | some savedHard, .ok (some _), .ok () =>
      { quotas := progress.quotas.modify tenantNamespace (patchResourceQuotaHard · savedHard)
        patch := progress.patch ++ [(tenantNamespace, .restored)]
        actions := progress.actions ++ [{ tenantNamespace, action := .restored,
                                          planState := .active, enforcedAt := tick.now }] }
    | _, _, _ => progress
  else progress

/-- The closing write (lines 491–499) of one namespace. -/
def closeKey (configMap : PlanStateConfigMap) : String × KeyChange → PlanStateConfigMap
  | (tenantNamespace, .suspended hard) =>
    { configMap with
      savedHard := configMap.savedHard.insert tenantNamespace hard
      enforced := configMap.enforced.insert tenantNamespace }
  | (tenantNamespace, .restored) =>
    { configMap with
      savedHard := configMap.savedHard.erase tenantNamespace
      enforced := configMap.enforced.erase tenantNamespace }

/-- The loop of a tick (lines 404–489). -/
def progressOf (js : JsRuntime) (tick : Tick) (cluster : Cluster) : Progress :=
  (effective js tick cluster.configMap).foldl (enforce cluster.configMap tick)
    { quotas := cluster.quotas, patch := [], actions := [] }

/-- The end of a tick (lines 491–502). -/
def closeTick (tick : Tick) (cluster : Cluster) (progress : Progress) :
    K8sResult (List PlanStateEnforcementAction) × Cluster :=
  if progress.patch = [] then (.ok progress.actions, { cluster with quotas := progress.quotas })
  else
    match tick.write with
    | .error error => (.error error, { cluster with quotas := progress.quotas })
    | .ok () => (.ok progress.actions,
      { configMap := progress.patch.foldl closeKey cluster.configMap, quotas := progress.quotas })

/-- `reconcilePlanState` (lines 366–502). -/
def reconcilePlanState (js : JsRuntime) (tick : Tick) (cluster : Cluster) :
    K8sResult (List PlanStateEnforcementAction) × Cluster :=
  match tick.read with
  | .error error => (.error error, cluster)
  | .ok () => closeTick tick cluster (progressOf js tick cluster)

/-! ## Events -/

/-- A tick, a plan state that `setPlanState` stores (lines 264–275), or the quota controller, which
brings the status of a quota up to date. -/
inductive Event
  | tick (tick : Tick)
  | setPlanState (record : PlanStateRecord)
  | sync (tenantNamespace : String)

/-- The cluster after an event. -/
def Cluster.next (js : JsRuntime) (cluster : Cluster) : Event → Cluster
  | .tick tick => (reconcilePlanState js tick cluster).2
  | .setPlanState record =>
    { cluster with configMap := { cluster.configMap with
      state := cluster.configMap.state.insert record.tenantNamespace record } }
  | .sync tenantNamespace =>
    { cluster with quotas := cluster.quotas.modify tenantNamespace fun quota =>
      { quota with status := some quota.spec } }

/-! ## A tick considers a namespace at most once -/

theorem map_tenantNamespace_setRecord (records : List PlanStateRecord) (record : PlanStateRecord) :
    (setRecord records record).map (·.tenantNamespace) =
      if record.tenantNamespace ∈ records.map (·.tenantNamespace) then
        records.map (·.tenantNamespace)
      else records.map (·.tenantNamespace) ++ [record.tenantNamespace] := by
  unfold setRecord
  split_ifs with hmem
  · rw [List.map_map]
    refine List.map_congr_left fun old _ => ?_
    show (if old.tenantNamespace = record.tenantNamespace then record else old).tenantNamespace = _
    split_ifs with hsame
    · exact hsame.symm
    · rfl
  · rw [List.map_append]
    rfl

theorem nodup_setRecord {records : List PlanStateRecord}
    (h : (records.map (·.tenantNamespace)).Nodup) (record : PlanStateRecord) :
    ((setRecord records record).map (·.tenantNamespace)).Nodup := by
  rw [map_tenantNamespace_setRecord]
  split_ifs with hmem
  · exact h
  · exact List.nodup_append.mpr ⟨h, List.nodup_singleton _, fun a ha b hb hab =>
      hmem (List.mem_singleton.mp hb ▸ hab ▸ ha)⟩

theorem nodup_readRecords (js : JsRuntime) (configMap : PlanStateConfigMap) :
    ((readRecords js configMap).map (·.tenantNamespace)).Nodup := by
  have hkeys : (configMap.state.toList.map (·.1)).Nodup := by
    rw [show configMap.state.toList.map (·.1) = configMap.state.keys from
      Std.ExtTreeMap.map_fst_toList_eq_keys]
    exact Std.ExtTreeMap.nodup_keys
  refine ((List.mergeSort_perm _ _).map _).nodup_iff.mpr ?_
  rw [List.map_map]
  exact hkeys.sublist (List.filter_sublist.map _)

/-- The namespaces of a tick are different. -/
theorem nodup_effective (js : JsRuntime) (tick : Tick) (configMap : PlanStateConfigMap) :
    ((effective js tick configMap).map (·.tenantNamespace)).Nodup := by
  unfold effective
  generalize subscribedRecords js tick = subscribed
  have hrecords := nodup_readRecords js configMap
  generalize readRecords js configMap = records at hrecords
  induction subscribed generalizing records with
  | nil => exact hrecords
  | cons record rest ih => exact ih _ (nodup_setRecord hrecords record)

/-! ## What a tick does to a namespace -/

/-- The quota of a namespace, its changes and its actions. -/
def Progress.view (tenantNamespace : String) (progress : Progress) :
    Option ResourceQuota × List KeyChange × List PlanStateEnforcementAction :=
  (progress.quotas[tenantNamespace]?,
    (progress.patch.filter (·.1 = tenantNamespace)).map (·.2),
    progress.actions.filter (·.tenantNamespace = tenantNamespace))

variable {js : JsRuntime} {configMap : PlanStateConfigMap} {tick : Tick} {progress : Progress}
  {record : PlanStateRecord} {tenantNamespace : String}

/-- The namespace of a record is suspended. -/
structure Suspending (configMap : PlanStateConfigMap) (tick : Tick) (record : PlanStateRecord) :
    Prop where
  planState : record.planState ≠ .active
  enforced : record.tenantNamespace ∉ configMap.enforced
  quotaRead : tick.quotaRead record.tenantNamespace = .ok ()
  quotaPatch : tick.quotaPatch record.tenantNamespace = .ok ()

/-- A record changes nothing, or suspends the quota of its namespace, or restores it. -/
theorem enforce_cases (configMap : PlanStateConfigMap) (tick : Tick) (progress : Progress)
    (record : PlanStateRecord) :
    enforce configMap tick progress record = progress ∨
    (∃ quota action, Suspending configMap tick record ∧
      progress.quotas[record.tenantNamespace]? = some quota ∧
      action.tenantNamespace = record.tenantNamespace ∧ action.action = .suspended ∧
      enforce configMap tick progress record = {
        quotas := progress.quotas.modify record.tenantNamespace
          (patchResourceQuotaHard · suspendedHard)
        patch := progress.patch ++ [(record.tenantNamespace, .suspended (quota.status.getD ∅))]
        actions := progress.actions ++ [action] }) ∨
    ∃ quota hard action, record.tenantNamespace ∈ configMap.enforced ∧
      configMap.savedHard[record.tenantNamespace]? = some hard ∧
      progress.quotas[record.tenantNamespace]? = some quota ∧
      action.tenantNamespace = record.tenantNamespace ∧ action.action = .restored ∧
      enforce configMap tick progress record = {
        quotas := progress.quotas.modify record.tenantNamespace (patchResourceQuotaHard · hard)
        patch := progress.patch ++ [(record.tenantNamespace, .restored)]
        actions := progress.actions ++ [action] } := by
  unfold enforce
  extract_lets tenantNamespace quotaResult
  have hquota : ∀ name hard, quotaResult = .ok (some (name, hard)) →
      tick.quotaRead tenantNamespace = .ok () ∧
        ∃ quota, progress.quotas[tenantNamespace]? = some quota ∧ hard = quota.status.getD ∅ := by
    intro name hard hresult
    cases hread : tick.quotaRead tenantNamespace with
    | error error =>
      simp only [quotaResult, hread] at hresult
      cases hresult
    | ok _ =>
      simp only [quotaResult, hread] at hresult
      obtain ⟨quota, hquota, hpair⟩ := Option.map_eq_some_iff.mp (Except.ok.inj hresult)
      exact ⟨rfl, quota, hquota, (Prod.mk.inj hpair).2.symm⟩
  split_ifs with hsuspend hrestore
  · split
    · rename_i name hard hresult hpatch
      obtain ⟨hread, quota, hstored, rfl⟩ := hquota name hard hresult
      exact .inr (.inl ⟨quota, _, ⟨hsuspend.1, hsuspend.2, hread, hpatch⟩, hstored, rfl, rfl, rfl⟩)
    · exact .inl rfl
  · split
    · rename_i hard old hsaved hresult hpatch
      obtain ⟨-, quota, hstored, -⟩ := hquota _ _ hresult
      exact .inr (.inr ⟨quota, hard, _, hrestore.2, hsaved, hstored, rfl, rfl, rfl⟩)
    · exact .inl rfl
  · exact .inl rfl

/-- A record says nothing of another namespace. -/
theorem view_enforce_of_ne (configMap : PlanStateConfigMap) (tick : Tick) (progress : Progress)
    (h : record.tenantNamespace ≠ tenantNamespace) :
    (enforce configMap tick progress record).view tenantNamespace =
      progress.view tenantNamespace := by
  rcases enforce_cases configMap tick progress record with hsame | ⟨quota, action, -, -, haction, -,
    hnext⟩ |
    ⟨quota, hard, action, -, -, -, haction, -, hnext⟩
  · rw [hsame]
  · rw [hnext]
    simp [Progress.view, Std.ExtTreeMap.getElem?_modify, haction, h]
  · rw [hnext]
    simp [Progress.view, Std.ExtTreeMap.getElem?_modify, haction, h]

theorem view_foldl_of_notMem (configMap : PlanStateConfigMap) (tick : Tick)
    {records : List PlanStateRecord} (h : tenantNamespace ∉ records.map (·.tenantNamespace))
    (progress : Progress) :
    (records.foldl (enforce configMap tick) progress).view tenantNamespace =
      progress.view tenantNamespace := by
  induction records generalizing progress with
  | nil => rfl
  | cons record rest ih =>
    obtain ⟨hne, hrest⟩ := not_or.mp (List.mem_cons.not.mp h)
    rw [List.foldl_cons, ih hrest]
    exact view_enforce_of_ne configMap tick progress (Ne.symm hne)

variable (tenantNamespace) in
/-- What a tick says of a namespace is what its one record says, if there is one. -/
theorem view_foldl (configMap : PlanStateConfigMap) (tick : Tick) {records : List PlanStateRecord}
    (hnodup : (records.map (·.tenantNamespace)).Nodup) (progress : Progress) :
    (records.foldl (enforce configMap tick) progress).view tenantNamespace =
        progress.view tenantNamespace ∨
      ∃ record ∈ records, record.tenantNamespace = tenantNamespace ∧ ∃ before : Progress,
        before.view tenantNamespace = progress.view tenantNamespace ∧
        (records.foldl (enforce configMap tick) progress).view tenantNamespace =
          (enforce configMap tick before record).view tenantNamespace := by
  by_cases hmem : tenantNamespace ∈ records.map (·.tenantNamespace)
  · obtain ⟨record, hrecord, htenant⟩ := List.mem_map.mp hmem
    obtain ⟨pre, post, rfl⟩ := List.append_of_mem hrecord
    rw [List.map_append, List.map_cons, htenant] at hnodup
    obtain ⟨-, hcons, hdisjoint⟩ := List.nodup_append.mp hnodup
    have hpre : tenantNamespace ∉ pre.map (·.tenantNamespace) :=
      fun hin => hdisjoint _ hin _ List.mem_cons_self rfl
    refine .inr ⟨record, hrecord, htenant, pre.foldl (enforce configMap tick) progress,
      view_foldl_of_notMem configMap tick hpre progress, ?_⟩
    rw [List.foldl_append, List.foldl_cons]
    exact view_foldl_of_notMem configMap tick (List.nodup_cons.mp hcons).1 _
  · exact .inl (view_foldl_of_notMem configMap tick hmem progress)

/-- The keys of a namespace. -/
def PlanStateConfigMap.keys (configMap : PlanStateConfigMap) (tenantNamespace : String) :
    Option HardMap × Bool :=
  (configMap.savedHard[tenantNamespace]?, decide (tenantNamespace ∈ configMap.enforced))

/-- The keys of a namespace after its change. -/
def KeyChange.keys : KeyChange → Option HardMap × Bool
  | .suspended hard => (some hard, true)
  | .restored => (none, false)

theorem keys_closeKey (configMap : PlanStateConfigMap) (other : String) (change : KeyChange) :
    (closeKey configMap (other, change)).keys tenantNamespace =
      if other = tenantNamespace then change.keys else configMap.keys tenantNamespace := by
  cases change with
  | suspended hard =>
    simp only [PlanStateConfigMap.keys, closeKey, Std.ExtTreeMap.getElem?_insert,
      Std.ExtTreeSet.mem_insert, Std.LawfulEqCmp.compare_eq_iff_eq]
    split_ifs with hsame
    · simp [KeyChange.keys, hsame]
    · simp [hsame]
  | restored =>
    simp only [PlanStateConfigMap.keys, closeKey, Std.ExtTreeMap.getElem?_erase,
      Std.ExtTreeSet.mem_erase, Std.LawfulEqCmp.compare_eq_iff_eq]
    split_ifs with hsame
    · simp [KeyChange.keys, hsame]
    · simp [hsame]

/-- The closing write leaves a namespace with the keys of its last change. -/
theorem keys_foldl_closeKey (patch : List (String × KeyChange)) (configMap : PlanStateConfigMap) :
    (patch.foldl closeKey configMap).keys tenantNamespace =
      (((patch.filter (·.1 = tenantNamespace)).map (·.2)).getLast?.map KeyChange.keys).getD
        (configMap.keys tenantNamespace) := by
  induction patch using List.reverseRecOn with
  | nil => rfl
  | append_singleton patch last ih =>
    obtain ⟨other, change⟩ := last
    rw [List.foldl_append, List.foldl_cons, List.foldl_nil, keys_closeKey, ih]
    by_cases hsame : other = tenantNamespace
    · simp [List.filter_append, hsame]
    · simp [List.filter_append, hsame]

/-! ## The tick of a namespace -/

/-- The tick reports that it has restored the namespace. -/
def Restored (js : JsRuntime) (tenantNamespace : String) (cluster : Cluster) (tick : Tick) : Prop :=
  ∃ actions ∈ (reconcilePlanState js tick cluster).1.toOption, ∃ action ∈ actions,
    action.tenantNamespace = tenantNamespace ∧ action.action = .restored

/-- The tick suspends the quota of the namespace. -/
def Suspends (js : JsRuntime) (tenantNamespace : String) (cluster : Cluster) (tick : Tick) : Prop :=
  tick.read = .ok () ∧ tick.quotaRead tenantNamespace = .ok () ∧
    tick.quotaPatch tenantNamespace = .ok () ∧ tenantNamespace ∉ cluster.configMap.enforced ∧
    ∃ record ∈ effective js tick cluster.configMap, record.tenantNamespace = tenantNamespace ∧
      record.planState ≠ .active

variable (tenantNamespace) in
/-- The end of a tick keeps the quotas, writes the keys, and reports no other actions. -/
theorem closeTick_spec (tick : Tick) (cluster : Cluster) (progress : Progress) :
    (closeTick tick cluster progress).2.quotas = progress.quotas ∧
      (closeTick tick cluster progress).2.configMap.keys tenantNamespace =
        (if tick.write = .ok () then
          ((progress.view tenantNamespace).2.1.getLast?.map KeyChange.keys).getD
            (cluster.configMap.keys tenantNamespace)
        else cluster.configMap.keys tenantNamespace) ∧
      ∀ actions ∈ (closeTick tick cluster progress).1.toOption, actions = progress.actions := by
  by_cases hpatch : progress.patch = []
  · have hview : (progress.view tenantNamespace).2.1 = [] := by simp [Progress.view, hpatch]
    rw [closeTick, if_pos hpatch, hview]
    exact ⟨rfl, (ite_self _).symm, fun actions hactions => (Option.some.inj hactions).symm⟩
  · rw [closeTick, if_neg hpatch]
    cases hwrite : tick.write with
    | error error =>
      refine ⟨rfl, ?_, fun actions hactions => (by cases hactions)⟩
      rw [if_neg fun hok => (by cases hok)]
    | ok _ =>
      refine ⟨rfl, ?_, fun actions hactions => (Option.some.inj hactions).symm⟩
      rw [if_pos rfl]
      exact keys_foldl_closeKey progress.patch cluster.configMap

/-- The loop of a tick says nothing of a namespace, or suspends its quota, or restores it. -/
theorem view_progressOf (js : JsRuntime) (tick : Tick) (cluster : Cluster)
    (tenantNamespace : String) :
    (progressOf js tick cluster).view tenantNamespace = (cluster.quotas[tenantNamespace]?, [], []) ∨
    (∃ quota action, (tick.quotaRead tenantNamespace = .ok () ∧
        tick.quotaPatch tenantNamespace = .ok () ∧ tenantNamespace ∉ cluster.configMap.enforced ∧
        ∃ record ∈ effective js tick cluster.configMap, record.tenantNamespace = tenantNamespace ∧
          record.planState ≠ .active) ∧
      cluster.quotas[tenantNamespace]? = some quota ∧ action.action = .suspended ∧
      (progressOf js tick cluster).view tenantNamespace =
        (some (patchResourceQuotaHard quota suspendedHard), [.suspended (quota.status.getD ∅)],
          [action])) ∨
    ∃ quota hard action, cluster.configMap.keys tenantNamespace = (some hard, true) ∧
      cluster.quotas[tenantNamespace]? = some quota ∧
      (progressOf js tick cluster).view tenantNamespace =
        (some (patchResourceQuotaHard quota hard), [.restored], [action]) := by
  rcases view_foldl tenantNamespace cluster.configMap tick
    (nodup_effective js tick cluster.configMap)
      { quotas := cluster.quotas, patch := [], actions := [] }
    with hview | ⟨record, hrecord, rfl, before, hbefore, hview⟩
  · exact .inl hview
  · have hquotas : before.quotas[record.tenantNamespace]? =
      cluster.quotas[record.tenantNamespace]? :=
      congrArg Prod.fst hbefore
    have hpatch : (before.patch.filter (·.1 = record.tenantNamespace)).map (·.2) = [] :=
      congrArg (·.2.1) hbefore
    have hactions : before.actions.filter (·.tenantNamespace = record.tenantNamespace) = [] :=
      congrArg (·.2.2) hbefore
    rcases enforce_cases cluster.configMap tick before record with hsame |
      ⟨quota, action, hsuspending, hstored, htenant, haction, hnext⟩ |
      ⟨quota, hard, action, henforced, hsaved, hstored, htenant, haction, hnext⟩
    · refine .inl ?_
      rw [progressOf, hview, hsame, hbefore]
      rfl
    · refine .inr (.inl ⟨quota, action, ⟨hsuspending.quotaRead, hsuspending.quotaPatch,
        hsuspending.enforced, record, hrecord, rfl, hsuspending.planState⟩, hquotas ▸ hstored,
          haction, ?_⟩)
      rw [progressOf, hview, hnext]
      simp [Progress.view, hpatch, hactions, htenant, hstored, List.filter_append]
    · refine .inr (.inr ⟨quota, hard, action, ?_, hquotas ▸ hstored, ?_⟩)
      · rw [PlanStateConfigMap.keys, hsaved, decide_eq_true henforced]
      · rw [progressOf, hview, hnext]
        simp [Progress.view, hpatch, hactions, htenant, hstored, List.filter_append]

/-- What a tick does to a namespace. -/
theorem tick_cases (js : JsRuntime) (tenantNamespace : String) (cluster : Cluster) (tick : Tick) :
    let next := (reconcilePlanState js tick cluster).2
    -- nothing
    (next.quotas[tenantNamespace]? = cluster.quotas[tenantNamespace]? ∧
      next.configMap.keys tenantNamespace = cluster.configMap.keys tenantNamespace ∧
      ¬ Restored js tenantNamespace cluster tick) ∨
    -- the quota is patched down
    (∃ quota, Suspends js tenantNamespace cluster tick ∧
      cluster.quotas[tenantNamespace]? = some quota ∧
      next.quotas[tenantNamespace]? = some (patchResourceQuotaHard quota suspendedHard) ∧
      next.configMap.keys tenantNamespace =
        (if tick.write = .ok () then (some (quota.status.getD ∅), true)
        else cluster.configMap.keys tenantNamespace) ∧
      ¬ Restored js tenantNamespace cluster tick) ∨
    -- the quota is patched back
    ∃ quota hard, cluster.configMap.keys tenantNamespace = (some hard, true) ∧
      cluster.quotas[tenantNamespace]? = some quota ∧
      next.quotas[tenantNamespace]? = some (patchResourceQuotaHard quota hard) ∧
      next.configMap.keys tenantNamespace =
        (if tick.write = .ok () then (none, false)
        else cluster.configMap.keys tenantNamespace) := by
  intro next
  cases hread : tick.read with
  | error error =>
    have hnext : reconcilePlanState js tick cluster = (.error error, cluster) := by
      rw [reconcilePlanState, hread]
    have hcluster : next = cluster := congrArg Prod.snd hnext
    refine .inl ⟨by rw [hcluster], by rw [hcluster], ?_⟩
    rintro ⟨actions, hactions, -⟩
    rw [hnext] at hactions
    cases hactions
  | ok _ =>
    have hclose : reconcilePlanState js tick cluster =
        closeTick tick cluster (progressOf js tick cluster) := by
      rw [reconcilePlanState, hread]
    obtain ⟨hquotas, hkeys, hactions⟩ :=
      closeTick_spec tenantNamespace tick cluster (progressOf js tick cluster)
    have hnext : next = (closeTick tick cluster (progressOf js tick cluster)).2 :=
      congrArg Prod.snd hclose
    have hrestored : Restored js tenantNamespace cluster tick →
        ∃ action ∈ ((progressOf js tick cluster).view tenantNamespace).2.2,
          action.action = .restored := by
      rintro ⟨actions, hreport, action, hmem, htenant, hrestored⟩
      rw [hclose] at hreport
      refine ⟨action, List.mem_filter.mpr ⟨?_, decide_eq_true htenant⟩, hrestored⟩
      exact hactions actions hreport ▸ hmem
    rw [← hnext] at hquotas hkeys
    have hquota : next.quotas[tenantNamespace]? =
        ((progressOf js tick cluster).view tenantNamespace).1 := by
      rw [hquotas]
      rfl
    rw [hquota, hkeys]
    rcases view_progressOf js tick cluster tenantNamespace with hview |
      ⟨quota, action, hsuspends, hstored, haction, hview⟩ |
      ⟨quota, hard, action, hkept, hstored, hview⟩
    · rw [hview]
      refine .inl ⟨rfl, ite_self _, fun hreport => ?_⟩
      obtain ⟨action, hmem, -⟩ := hview ▸ hrestored hreport
      cases hmem
    · rw [hview]
      refine .inr (.inl ⟨quota, ⟨hread, hsuspends⟩, hstored, rfl, rfl, fun hreport => ?_⟩)
      obtain ⟨other, hmem, hother⟩ := hview ▸ hrestored hreport
      rw [List.mem_singleton.mp hmem, haction] at hother
      cases hother
    · rw [hview]
      exact .inr (.inr ⟨quota, hard, hkept, hstored, rfl, rfl⟩)

end ChatmanEcosystem.Console.PlanStates
