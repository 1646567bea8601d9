import ChatmanEcosystem.Console.CapacityReservations
import ChatmanEcosystem.Console.PlanRestore

/-!
# Suspended quotas

Ticks of `reconcilePlanState` (`platform-console/app/lib/plan-state.ts`, lines
366–503), changes of plan states, and calls that patch ResourceQuotas for reserved
capacity. A tick reads the plan states, goes through their namespaces one after the
other, and closes with a write of its markers; the calls, the changes and other
ticks happen in between. All reads and writes of a tick succeed.

The state has, beside the cluster, the namespaces whose quota has been patched
otherwise since a tick last suspended it.

Results:

* `quotaInv_next`: the quota of a namespace that is marked has the suspended values,
  unless it has been patched since.
* `tickSuspends_iff`: runs in which every tick leaves the namespaces suspended whose
  plan state is not active.
-/

namespace ChatmanEcosystem.Console.Capacity

open Common Common.Concurrent Js
open Console.PlanStates

/-! ## The system -/

/-- What a tick finds. -/
structure TickReads where
  credentials : Bool
  subscriptions : SubscriptionStore
  now : String

/-- A tick whose reads and writes succeed. -/
def TickReads.tick (reads : TickReads) : Tick where
  read := .ok ()
  credentials := reads.credentials
  subscriptions := .ok reads.subscriptions
  quotaRead _ := .ok ()
  quotaPatch _ := .ok ()
  write := .ok ()
  now := reads.now

/-- A tick under way: the ConfigMap that it has read, the records that it has gone through and those
to come, and its `patch` and its `actions`. -/
structure RunningTick where
  reads : TickReads
  configMap : PlanStateConfigMap
  passed : List PlanStateRecord
  pending : List PlanStateRecord
  patch : List (String × KeyChange)
  actions : List PlanStateEnforcementAction

/-- The cluster, the ticks under way, and the namespaces whose quota has been patched otherwise
since a tick last suspended it. -/
structure QuotaState where
  cluster : Cluster
  running : List RunningTick
  patched : List String

/-- What happens besides the calls: a tick starts, goes on to its next namespace or ends, a plan
state is stored, or the quota controller brings the status of a quota up to date. -/
inductive QuotaChange
  | startTick (reads : TickReads)
  | stepTick (tick : ℕ)
  | endTick (tick : ℕ)
  | setPlanState (record : PlanStateRecord)
  | sync (tenantNamespace : String)

variable (js : JsRuntime) (decimals : Decimals)

/-- A tick up to its first namespace (lines 367–404). -/
def TickReads.start (reads : TickReads) (configMap : PlanStateConfigMap) : RunningTick where
  reads
  configMap
  passed := []
  pending := effective js reads.tick configMap
  patch := []
  actions := []

/-- The namespaces patched otherwise, after those that a tick has patched. -/
def patchedAfter (patched : List String) : List (String × KeyChange) → List String
  | [] => patched
  | (tenantNamespace, .suspended _) :: rest =>
    patchedAfter (patched.filter (· ≠ tenantNamespace)) rest
  | (tenantNamespace, .restored) :: rest => patchedAfter (tenantNamespace :: patched) rest

/-- What a tick has done after its next namespace (lines 409–489). -/
def RunningTick.progress (running : RunningTick) (quotas : QuotaStore) (record : PlanStateRecord) :
    Progress :=
  enforce running.configMap running.reads.tick
    { quotas, patch := running.patch, actions := running.actions } record

/-- The tick after its next namespace. -/
def RunningTick.step (running : RunningTick) (quotas : QuotaStore) (record : PlanStateRecord)
    (pending : List PlanStateRecord) : RunningTick :=
  { running with
    passed := running.passed ++ [record], pending
    patch := (running.progress quotas record).patch
    actions := (running.progress quotas record).actions }

/-- The state after the next namespace of a tick. -/
def QuotaState.proceed (state : QuotaState) (tick : ℕ) (running : RunningTick)
    (record : PlanStateRecord) (pending : List PlanStateRecord) : QuotaState :=
  let progress := running.progress state.cluster.quotas record
  { cluster := { state.cluster with quotas := progress.quotas }
    running := state.running.set tick (running.step state.cluster.quotas record pending)
    patched := patchedAfter state.patched (progress.patch.drop running.patch.length) }

/-- The tick of a number, if it has gone through its namespaces. -/
def QuotaState.ending (state : QuotaState) (tick : ℕ) : Option RunningTick :=
  state.running[tick]?.filter (·.pending.isEmpty)

/-- The state after a change. -/
def QuotaState.next (state : QuotaState) : QuotaChange → QuotaState
  | .startTick reads =>
    { state with running := state.running ++ [reads.start js state.cluster.configMap] }
  | .stepTick tick =>
    match state.running[tick]?.map fun running => (running, running.pending) with
    | some (running, record :: pending) => state.proceed tick running record pending
    | _ => state
  | .endTick tick =>
    match state.ending tick with
    | some running => { state with
        cluster := { state.cluster with
          configMap := running.patch.foldl closeKey state.cluster.configMap }
        running := state.running.eraseIdx tick }
    | none => state
  | .setPlanState record => { state with cluster := state.cluster.next js (.setPlanState record) }
  | .sync tenantNamespace => { state with cluster := state.cluster.next js (.sync tenantNamespace) }

/-- The state after the patch that a call awaits. -/
def QuotaState.patchAwaited (state : QuotaState) (call : CapacityCall) : QuotaState :=
  match call.awaitedPatch decimals with
  | none => state
  | some (tenantNamespace, hard) => { state with
      cluster := { state.cluster with
        quotas := state.cluster.quotas.modify tenantNamespace (patchResourceQuotaHard · hard) }
      patched := tenantNamespace :: state.patched }

/-- The calls over the quotas. -/
def quotaProgram : Program QuotaState CapacityCall CapacityRequest CapacityAnswer QuotaChange where
  enter state request := (request.start, state)
  resume state call answer :=
    (call.resume js decimals state.cluster.quotas answer).map fun (next, patches) =>
      (next, if patches then state.patchAwaited decimals call else state)
  move state change := state.next js change

/-- The cluster and the calls. -/
abbrev QuotaSystem := System QuotaState CapacityCall

/-- A step of the system. -/
abbrev QuotaEvent := Event CapacityRequest CapacityAnswer QuotaChange

/-- Any plan states and any quotas, before the first tick. -/
def quotaStart (state : Std.ExtTreeMap String PlanStateRecord) (quotas : QuotaStore) :
    QuotaSystem :=
  { shared := { cluster := .init state quotas, running := [], patched := [] }, calls := [] }

/-! ## What ticks are to leave -/

/-- The hard map has the values of `SUSPENDED_HARD`. -/
def SuspendedHard (hard : HardMap) : Prop :=
  ∀ key ∈ suspendedHard.keys, hard[key]? = suspendedHard[key]?

instance (hard : HardMap) : Decidable (SuspendedHard hard) :=
  inferInstanceAs (Decidable (∀ key ∈ suspendedHard.keys, _))

/-- A tick that ends leaves the quotas suspended of the namespaces whose plan state is not
active. -/
def TickSuspends (system : QuotaSystem) : QuotaEvent → Prop
  | .move (.endTick tick) => ∀ running ∈ system.shared.ending tick, ∀ record ∈ running.passed,
      record.planState ≠ .active → ∀ quota ∈
        (system.shared.next js (.endTick tick)).cluster.quotas[record.tenantNamespace]?,
          SuspendedHard quota.spec
  | _ => True

instance (system : QuotaSystem) (event : QuotaEvent) : Decidable (TickSuspends js system event) :=
  match event with
  | .call _ | .answer _ _ => .isTrue trivial
  | .move (.endTick _) => inferInstanceAs (Decidable (∀ running ∈ _, ∀ record ∈ _, _))
  | .move (.startTick _) | .move (.stepTick _) => .isTrue trivial
  | .move (.setPlanState _) | .move (.sync _) => .isTrue trivial

/-- When a tick ends, the quotas of the namespaces whose plan state is not active have not been
patched otherwise since a tick suspended them. -/
def Unpatched (system : QuotaSystem) : QuotaEvent → Prop
  | .move (.endTick tick) => ∀ running ∈ system.shared.ending tick, ∀ record ∈ running.passed,
      record.planState ≠ .active → record.tenantNamespace ∈ system.shared.cluster.quotas →
        record.tenantNamespace ∉ system.shared.patched
  | _ => True

instance (system : QuotaSystem) (event : QuotaEvent) : Decidable (Unpatched system event) :=
  match event with
  | .call _ | .answer _ _ => .isTrue trivial
  | .move (.endTick _) => inferInstanceAs (Decidable (∀ running ∈ _, ∀ record ∈ _, _))
  | .move (.startTick _) | .move (.stepTick _) => .isTrue trivial
  | .move (.setPlanState _) | .move (.sync _) => .isTrue trivial

/-- A tick that restores a quota gives it a value that is not a suspended one. -/
def RestoresMore (system : QuotaSystem) : QuotaEvent → Prop
  | .move (.stepTick tick) => ∀ running ∈ system.shared.running[tick]?,
      ∀ record ∈ running.pending.head?, record.planState = .active → ∀ hard ∈
        running.configMap.savedHard[record.tenantNamespace]?,
          ∀ quota ∈ system.shared.cluster.quotas[record.tenantNamespace]?,
            ¬ SuspendedHard (patchResourceQuotaHard quota hard).spec
  | _ => True

variable {js decimals}

/-! ## Patches -/

theorem getElem?_modify_eq (quotas : QuotaStore) (tenantNamespace other : String)
    (f : ResourceQuota → ResourceQuota) : (quotas.modify tenantNamespace f)[other]? =
      if tenantNamespace = other then quotas[other]?.map f else quotas[other]? := by
  rw [Std.ExtTreeMap.getElem?_modify]
  by_cases h : tenantNamespace = other
  · subst h
    simp
  · simp [h]

/-- A quota that is patched down has the suspended values. -/
theorem suspendedHard_patch (quota : ResourceQuota) :
    SuspendedHard (patchResourceQuotaHard quota suspendedHard).spec := by
  intro key hkey
  show (quota.spec ∪ suspendedHard)[key]? = suspendedHard[key]?
  rw [Std.ExtTreeMap.getElem?_union]
  obtain ⟨value, hvalue⟩ := Option.isSome_iff_exists.mp
    (Std.ExtTreeMap.mem_iff_isSome_getElem?.mp (Std.ExtTreeMap.mem_keys.mp hkey))
  rw [hvalue]
  rfl

/-- A number is not a quantity with a unit, as far as the suspended one goes. -/
def Decimals.Plain (decimals : Decimals) : Prop := ∀ value, decimals.text value ≠ "1m"

/-- The cores of a patch are those that it names. -/
theorem quantityPatch_requestsCpu (limitsCpu requestsCpu limitsMemory requestsMemory : ℚ) :
    (quantityPatch decimals limitsCpu requestsCpu limitsMemory requestsMemory)["requests.cpu"]? =
      some (decimals.text requestsCpu) := by
  unfold quantityPatch
  refine Std.ExtTreeMap.getElem?_ofList_of_mem (k := "requests.cpu") (by decide +kernel) ?_
    (by simp)
  simp only [List.pairwise_cons, List.mem_cons, List.not_mem_nil, or_false, forall_eq_or_imp,
    forall_eq, IsEmpty.forall_iff, implies_true, List.Pairwise.nil, and_true]
  decide +kernel

variable {tenantNamespace : String}

/-- A quota that a call has patched does not have the suspended values. -/
theorem not_suspendedHard_patch (hplain : decimals.Plain) {call : CapacityCall} {hard : HardMap}
    (hpatch : call.awaitedPatch decimals = some (tenantNamespace, hard)) (quota : ResourceQuota) :
    ¬ SuspendedHard (patchResourceQuotaHard quota hard).spec := by
  have hcpu : ∃ value, hard["requests.cpu"]? = some value ∧ value ≠ "1m" := by
    unfold CapacityCall.awaitedPatch at hpatch
    split at hpatch
    · obtain ⟨-, rfl⟩ := Prod.mk.inj (Option.some.inj hpatch)
      exact ⟨_, quantityPatch_requestsCpu _ _ _ _, hplain _⟩
    · next tier _ =>
      obtain ⟨-, rfl⟩ := Prod.mk.inj (Option.some.inj hpatch)
      cases tier with
      | starter => exact ⟨"500m", by decide +kernel, by decide⟩
      | pro => exact ⟨"1", by decide +kernel, by decide⟩
      | enterprise => exact ⟨"1500m", by decide +kernel, by decide⟩
    · obtain ⟨-, rfl⟩ := Prod.mk.inj (Option.some.inj hpatch)
      exact ⟨_, quantityPatch_requestsCpu _ _ _ _, hplain _⟩
    · cases hpatch
  obtain ⟨value, hvalue, hne⟩ := hcpu
  intro hsuspended
  have hspec : (quota.spec ∪ hard)["requests.cpu"]? = suspendedHard["requests.cpu"]? :=
    hsuspended "requests.cpu" (by decide +kernel)
  rw [Std.ExtTreeMap.getElem?_union, hvalue] at hspec
  have hone : suspendedHard["requests.cpu"]? = some "1m" := by decide +kernel
  rw [hone] at hspec
  exact hne (Option.some.inj hspec)

/-! ## Records of a tick -/

section Enforce

variable {configMap : PlanStateConfigMap} {tick : Tick} {progress : Progress}
  {record : PlanStateRecord}

/-- A record that is not active suspends a quota that is not marked. -/
theorem enforce_suspends (hstate : record.planState ≠ .active)
    (hmark : record.tenantNamespace ∉ configMap.enforced)
    (hread : tick.quotaRead record.tenantNamespace = .ok ())
    (hwrite : tick.quotaPatch record.tenantNamespace = .ok ()) {quota : ResourceQuota}
    (hquota : progress.quotas[record.tenantNamespace]? = some quota) :
    (enforce configMap tick progress record).quotas =
        progress.quotas.modify record.tenantNamespace (patchResourceQuotaHard · suspendedHard) ∧
      (enforce configMap tick progress record).patch =
        progress.patch ++ [(record.tenantNamespace, .suspended (quota.status.getD ∅))] := by
  unfold enforce
  simp only [hread, hwrite, hquota]
  rw [if_pos ⟨hstate, hmark⟩]
  exact ⟨rfl, rfl⟩

/-- A record that is not active leaves a quota alone that is marked, or that there is not. -/
theorem enforce_eq_self (hstate : record.planState ≠ .active)
    (h : record.tenantNamespace ∈ configMap.enforced ∨
      progress.quotas[record.tenantNamespace]? = none)
    (hread : tick.quotaRead record.tenantNamespace = .ok ()) :
    enforce configMap tick progress record = progress := by
  unfold enforce
  simp only [hread]
  rcases h with hmark | hnone
  · rw [if_neg fun hsuspend => hsuspend.2 hmark, if_neg fun hrestore => hstate hrestore.1]
  · rw [hnone]
    split_ifs with hsuspend hrestore
    · rfl
    · exact absurd hrestore.1 hstate
    · rfl

end Enforce

/-- What a tick has marked is still marked, or patched by it. -/
theorem mem_enforced_foldl {patch : List (String × KeyChange)} {configMap : PlanStateConfigMap}
    (h : tenantNamespace ∈ (patch.foldl closeKey configMap).enforced) :
    tenantNamespace ∈ configMap.enforced ∨ ∃ hard, (tenantNamespace, .suspended hard) ∈ patch := by
  induction patch generalizing configMap with
  | nil => exact .inl h
  | cons entry rest ih =>
    obtain ⟨other, change⟩ := entry
    rcases ih h with hmem | ⟨hard, hmem⟩
    · cases change with
      | suspended hard =>
        rcases Std.ExtTreeSet.mem_insert.mp hmem with hsame | hold
        · obtain rfl := Std.LawfulEqCmp.compare_eq_iff_eq.mp hsame
          exact .inr ⟨hard, List.mem_cons_self⟩
        · exact .inl hold
      | restored => exact .inl (Std.ExtTreeSet.mem_erase.mp hmem).2
    · exact .inr ⟨hard, List.mem_cons_of_mem _ hmem⟩

/-! ## What a step does to the quotas -/

/-- No hard map changes, or a quota is patched otherwise, to values that are not the suspended ones
if `D` holds, or it is suspended. -/
inductive QuotaStep (D : Prop) (state next : QuotaState) : Prop
  | same (hspec : ∀ tenantNamespace : String,
        next.cluster.quotas[tenantNamespace]?.map (·.spec) =
          state.cluster.quotas[tenantNamespace]?.map (·.spec))
      (hpatched : next.patched = state.patched)
  | otherwise (tenantNamespace : String) (hard : HardMap)
      (hquotas : next.cluster.quotas =
        state.cluster.quotas.modify tenantNamespace (patchResourceQuotaHard · hard))
      (hpatched : next.patched = tenantNamespace :: state.patched)
      (hdiffers : D → ∀ quota, state.cluster.quotas[tenantNamespace]? = some quota →
        ¬ SuspendedHard (patchResourceQuotaHard quota hard).spec)
  | suspended (tenantNamespace : String)
      (hquotas : next.cluster.quotas =
        state.cluster.quotas.modify tenantNamespace (patchResourceQuotaHard · suspendedHard))
      (hpatched : next.patched = state.patched.filter (· ≠ tenantNamespace))

/-- The quota of a namespace has the suspended values, unless it has been patched since. -/
def QuotaState.Keeps (state : QuotaState) (tenantNamespace : String) : Prop :=
  tenantNamespace ∉ state.patched → ∀ quota,
    state.cluster.quotas[tenantNamespace]? = some quota → SuspendedHard quota.spec

/-- The quotas that have been patched otherwise do not have the suspended values. -/
def QuotaState.Differ (state : QuotaState) : Prop :=
  ∀ tenantNamespace ∈ state.patched, ∀ quota,
    state.cluster.quotas[tenantNamespace]? = some quota → ¬ SuspendedHard quota.spec

section Step

variable {D : Prop} {state next : QuotaState}

theorem QuotaStep.mono {D' : Prop} (h : QuotaStep D state next) (hD : D' → D) :
    QuotaStep D' state next := by
  cases h with
  | same hspec hpatched => exact .same hspec hpatched
  | otherwise tenantNamespace hard hquotas hpatched hdiffers =>
    exact .otherwise tenantNamespace hard hquotas hpatched fun h => hdiffers (hD h)
  | suspended tenantNamespace hquotas hpatched =>
    exact .suspended tenantNamespace hquotas hpatched

theorem QuotaStep.refl (state : QuotaState) : QuotaStep D state state := .same (fun _ => rfl) rfl

variable {tenantNamespace : String}

/-- What is kept stays kept. -/
theorem QuotaState.Keeps.step (h : state.Keeps tenantNamespace) (hstep : QuotaStep D state next) :
    next.Keeps tenantNamespace := by
  intro hnot quota hquota
  cases hstep with
  | same hspec hpatched =>
    have hmap := hspec tenantNamespace
    rw [hquota, Option.map_some] at hmap
    obtain ⟨old, hold, hsame⟩ := Option.map_eq_some_iff.mp hmap.symm
    rw [← hsame]
    exact h (hpatched ▸ hnot) old hold
  | otherwise other hard hquotas hpatched _ =>
    rw [hpatched, List.mem_cons, not_or] at hnot
    rw [hquotas, getElem?_modify_eq, if_neg (Ne.symm hnot.1)] at hquota
    exact h hnot.2 quota hquota
  | suspended other hquotas hpatched =>
    rw [hquotas, getElem?_modify_eq] at hquota
    by_cases hother : other = tenantNamespace
    · rw [if_pos hother] at hquota
      obtain ⟨old, -, rfl⟩ := Option.map_eq_some_iff.mp hquota
      exact suspendedHard_patch old
    · rw [if_neg hother] at hquota
      refine h (fun hmem => hnot ?_) quota hquota
      rw [hpatched]
      exact List.mem_filter.mpr ⟨hmem, decide_eq_true (Ne.symm hother)⟩

/-- A quota that is suspended is kept. -/
theorem keeps_suspended (hquotas : next.cluster.quotas =
      state.cluster.quotas.modify tenantNamespace (patchResourceQuotaHard · suspendedHard)) :
    next.Keeps tenantNamespace := by
  intro _ quota hquota
  rw [hquotas, getElem?_modify_eq, if_pos rfl] at hquota
  obtain ⟨old, -, rfl⟩ := Option.map_eq_some_iff.mp hquota
  exact suspendedHard_patch old

theorem QuotaState.Differ.step (h : state.Differ) (hD : D) (hstep : QuotaStep D state next) :
    next.Differ := by
  intro tenantNamespace hmem quota hquota
  cases hstep with
  | same hspec hpatched =>
    have hmap := hspec tenantNamespace
    rw [hquota, Option.map_some] at hmap
    obtain ⟨old, hold, hsame⟩ := Option.map_eq_some_iff.mp hmap.symm
    rw [← hsame]
    exact h tenantNamespace (hpatched ▸ hmem) old hold
  | otherwise other hard hquotas hpatched hdiffers =>
    rw [hquotas, getElem?_modify_eq] at hquota
    by_cases hother : other = tenantNamespace
    · subst hother
      rw [if_pos rfl] at hquota
      obtain ⟨old, hold, rfl⟩ := Option.map_eq_some_iff.mp hquota
      exact hdiffers hD old hold
    · rw [if_neg hother] at hquota
      rw [hpatched] at hmem
      exact h tenantNamespace ((List.mem_cons.mp hmem).resolve_left (Ne.symm hother)) quota hquota
  | suspended other hquotas hpatched =>
    rw [hpatched, List.mem_filter] at hmem
    have hother : other ≠ tenantNamespace := Ne.symm (of_decide_eq_true hmem.2)
    rw [hquotas, getElem?_modify_eq, if_neg hother] at hquota
    exact h tenantNamespace hmem.1 quota hquota

end Step

/-- A call patches a quota. -/
theorem quotaStep_patchAwaited (state : QuotaState) (call : CapacityCall) :
    QuotaStep decimals.Plain state (state.patchAwaited decimals call) := by
  unfold QuotaState.patchAwaited
  cases hawaited : call.awaitedPatch decimals with
  | none => exact .refl state
  | some patch =>
    obtain ⟨tenantNamespace, hard⟩ := patch
    exact .otherwise tenantNamespace hard rfl rfl fun hplain quota _ =>
      not_suspendedHard_patch hplain hawaited quota

variable (decimals) in
theorem patchAwaited_same (state : QuotaState) (call : CapacityCall) :
    (state.patchAwaited decimals call).cluster.configMap = state.cluster.configMap ∧
      (state.patchAwaited decimals call).running = state.running := by
  unfold QuotaState.patchAwaited
  split <;> exact ⟨rfl, rfl⟩

/-- A tick goes on to a namespace. -/
theorem quotaStep_proceed (state : QuotaState) (tick : ℕ) (running : RunningTick)
    (record : PlanStateRecord) (pending : List PlanStateRecord) :
    QuotaStep (record.planState = .active → ∀ hard ∈
        running.configMap.savedHard[record.tenantNamespace]?,
          ∀ quota ∈ state.cluster.quotas[record.tenantNamespace]?,
            ¬ SuspendedHard (patchResourceQuotaHard quota hard).spec)
      state (state.proceed tick running record pending) := by
  have hquotas : (state.proceed tick running record pending).cluster.quotas =
      (running.progress state.cluster.quotas record).quotas := rfl
  have hpatched : (state.proceed tick running record pending).patched =
      patchedAfter state.patched
        ((running.progress state.cluster.quotas record).patch.drop running.patch.length) := rfl
  unfold RunningTick.progress at hquotas hpatched
  rcases enforce_cases running.configMap running.reads.tick
      { quotas := state.cluster.quotas, patch := running.patch, actions := running.actions } record
    with hsame | ⟨quota, action, -, -, -, -, hnext⟩ |
      ⟨quota, hard, action, hmark, hsaved, -, -, -, hnext⟩
  · rw [hsame] at hquotas hpatched
    rw [List.drop_length] at hpatched
    exact .same (fun _ => by rw [hquotas]) hpatched
  · rw [hnext] at hquotas hpatched
    rw [List.drop_left] at hpatched
    exact .suspended record.tenantNamespace hquotas hpatched
  · have hactive : record.planState = .active := by
      by_contra hstate
      rw [enforce_eq_self hstate (.inl hmark) rfl] at hnext
      simpa using congrArg (fun progress => progress.patch.length) hnext
    rw [hnext] at hquotas hpatched
    rw [List.drop_left] at hpatched
    exact .otherwise record.tenantNamespace hard hquotas hpatched fun hD quota hquota =>
      hD hactive hard hsaved quota hquota

/-! ## The invariant -/

/-- The namespaces that a tick knows to be suspended, or has suspended, are kept. -/
structure RunningTick.Kept (running : RunningTick) (state : QuotaState) : Prop where
  enforced : ∀ tenantNamespace ∈ running.configMap.enforced, state.Keeps tenantNamespace
  patch : ∀ tenantNamespace hard, (tenantNamespace, .suspended hard) ∈ running.patch →
    state.Keeps tenantNamespace
  passed : ∀ record ∈ running.passed, record.planState ≠ .active →
    state.Keeps record.tenantNamespace

/-- The namespaces that are marked, and those of the ticks under way, are kept. -/
structure QuotaInv (state : QuotaState) : Prop where
  enforced : ∀ tenantNamespace ∈ state.cluster.configMap.enforced, state.Keeps tenantNamespace
  running : ∀ running ∈ state.running, running.Kept state

section Invariant

variable {D : Prop} {state next : QuotaState}

variable {running : RunningTick}

theorem RunningTick.Kept.step (h : running.Kept state) (hstep : QuotaStep D state next) :
    running.Kept next where
  enforced tenantNamespace hmem := (h.enforced tenantNamespace hmem).step hstep
  patch tenantNamespace hard hmem := (h.patch tenantNamespace hard hmem).step hstep
  passed record hmem hstate := (h.passed record hmem hstate).step hstep

/-- The markers and the ticks under way stay. -/
theorem QuotaInv.step (h : QuotaInv state) (hstep : QuotaStep D state next)
    (henforced : next.cluster.configMap.enforced = state.cluster.configMap.enforced)
    (hrunning : next.running = state.running) : QuotaInv next where
  enforced tenantNamespace hmem := (h.enforced tenantNamespace (henforced ▸ hmem)).step hstep
  running running hmem := (h.running running (hrunning ▸ hmem)).step hstep

theorem quotaInv_startTick (h : QuotaInv state) (reads : TickReads) :
    QuotaInv (state.next js (.startTick reads)) := by
  have hkeeps : ∀ tenantNamespace, state.Keeps tenantNamespace →
      (state.next js (.startTick reads)).Keeps tenantNamespace := fun _ h => h
  refine ⟨h.enforced, fun running hmem => ?_⟩
  rcases List.mem_append.mp hmem with hold | hnew
  · obtain ⟨henforced, hpatch, hpassed⟩ := h.running running hold
    exact ⟨henforced, hpatch, hpassed⟩
  · obtain rfl := List.mem_singleton.mp hnew
    refine ⟨h.enforced, fun _ _ hpatch => ?_, fun _ hpassed => ?_⟩
    · cases hpatch
    · cases hpassed

/-- The tick that has gone on to a namespace. -/
theorem RunningTick.Kept.kept_step (h : running.Kept state) (hstep : QuotaStep D state next)
    {record : PlanStateRecord}
    (hquotas : next.cluster.quotas = (running.progress state.cluster.quotas record).quotas)
    (pending : List PlanStateRecord) :
    (running.step state.cluster.quotas record pending).Kept next := by
  have hkept := h.step hstep
  unfold RunningTick.progress at hquotas
  have hpatched := enforce_cases running.configMap running.reads.tick
    { quotas := state.cluster.quotas, patch := running.patch, actions := running.actions } record
  refine ⟨hkept.enforced, fun tenantNamespace hard hmem => ?_, fun other hmem hstate => ?_⟩
  · simp only [RunningTick.step, RunningTick.progress] at hmem
    rcases hpatched with hsame | ⟨quota, action, -, -, -, -, hnext⟩ |
      ⟨quota, saved, action, -, -, -, -, -, hnext⟩
    · rw [hsame] at hmem
      exact hkept.patch tenantNamespace hard hmem
    · rw [hnext] at hmem hquotas
      rcases List.mem_append.mp hmem with hold | hnew
      · exact hkept.patch tenantNamespace hard hold
      · obtain ⟨rfl, -⟩ := Prod.mk.inj (List.mem_singleton.mp hnew)
        exact keeps_suspended hquotas
    · rw [hnext] at hmem
      rcases List.mem_append.mp hmem with hold | hnew
      · exact hkept.patch tenantNamespace hard hold
      · cases (Prod.mk.inj (List.mem_singleton.mp hnew)).2
  · rcases List.mem_append.mp hmem with hold | hnew
    · exact hkept.passed other hold hstate
    · obtain rfl := List.mem_singleton.mp hnew
      by_cases hmark : other.tenantNamespace ∈ running.configMap.enforced
      · exact hkept.enforced other.tenantNamespace hmark
      · cases hquota : state.cluster.quotas[other.tenantNamespace]? with
        | some quota =>
          have hsuspends : (running.progress state.cluster.quotas other).quotas =
              state.cluster.quotas.modify other.tenantNamespace
                (patchResourceQuotaHard · suspendedHard) :=
            (enforce_suspends hstate hmark rfl rfl hquota).1
          exact keeps_suspended (hquotas.trans hsuspends)
        | none =>
          have hself :
              (running.progress state.cluster.quotas other).quotas = state.cluster.quotas :=
            congrArg Progress.quotas (enforce_eq_self hstate (.inr hquota) rfl)
          intro _ quota hsome
          rw [hquotas, show (enforce running.configMap running.reads.tick _ other).quotas = _
            from hself, hquota] at hsome
          cases hsome

theorem quotaInv_proceed (h : QuotaInv state) {tick : ℕ}
    (hrunning : state.running[tick]? = some running) (record : PlanStateRecord)
    (pending : List PlanStateRecord) : QuotaInv (state.proceed tick running record pending) := by
  have hstep := quotaStep_proceed state tick running record pending
  have hkept := h.running running (List.mem_of_getElem? hrunning)
  refine ⟨fun tenantNamespace hmem => (h.enforced tenantNamespace hmem).step hstep, ?_⟩
  intro other hmem
  rcases List.mem_or_eq_of_mem_set hmem with hold | rfl
  · exact (h.running other hold).step hstep
  · exact hkept.kept_step hstep rfl pending

variable (js) in
theorem quotaInv_stepTick (h : QuotaInv state) (tick : ℕ) :
    QuotaInv (state.next js (.stepTick tick)) := by
  simp only [QuotaState.next]
  split
  · next running record pending hmap =>
    obtain ⟨running', hget, hpair⟩ := Option.map_eq_some_iff.mp hmap
    obtain ⟨rfl, -⟩ := Prod.mk.inj hpair
    exact quotaInv_proceed h hget record pending
  · exact h

variable (js) in
theorem quotaInv_endTick (h : QuotaInv state) (tick : ℕ) :
    QuotaInv (state.next js (.endTick tick)) := by
  simp only [QuotaState.next]
  split
  · next running hending =>
    have hget := Option.eq_some_of_filter_eq_some hending
    have hkept := h.running running (List.mem_of_getElem? hget)
    refine ⟨fun tenantNamespace hmem => ?_, fun other hmem => ?_⟩
    · rcases mem_enforced_foldl hmem with hold | ⟨hard, hnew⟩
      · exact h.enforced tenantNamespace hold
      · exact hkept.patch tenantNamespace hard hnew
    · obtain ⟨henforced, hpatch, hpassed⟩ := h.running other (List.mem_of_mem_eraseIdx hmem)
      exact ⟨henforced, hpatch, hpassed⟩
  · exact h

end Invariant

/-- What a change does to the quotas. -/
theorem quotaStep_next (system : QuotaSystem) (change : QuotaChange) :
    QuotaStep (RestoresMore system (.move change)) system.shared
      (system.shared.next js change) := by
  cases change with
  | startTick reads => exact .same (fun _ => rfl) rfl
  | setPlanState record => exact .same (fun _ => rfl) rfl
  | sync tenantNamespace =>
    refine .same (fun other => ?_) rfl
    show ((system.shared.cluster.quotas.modify tenantNamespace _)[other]?).map _ = _
    rw [getElem?_modify_eq]
    split_ifs
    · rw [Option.map_map]
      rfl
    · rfl
  | endTick tick =>
    simp only [QuotaState.next]
    split
    · exact .same (fun _ => rfl) rfl
    · exact .refl _
  | stepTick tick =>
    simp only [QuotaState.next]
    split
    · next running record pending hmap =>
      obtain ⟨running', hget, hpair⟩ := Option.map_eq_some_iff.mp hmap
      obtain ⟨rfl, hpending⟩ := Prod.mk.inj hpair
      have hstep := quotaStep_proceed system.shared tick running' record pending
      refine hstep.mono fun hrestores => hrestores running' hget record ?_
      rw [hpending]
      rfl
    · exact .refl _

theorem quotaInv_patchAwaited {state : QuotaState} (h : QuotaInv state) (call : CapacityCall) :
    QuotaInv (state.patchAwaited decimals call) := by
  obtain ⟨hconfigMap, hrunning⟩ := patchAwaited_same decimals state call
  exact h.step (quotaStep_patchAwaited state call) (by rw [hconfigMap]) hrunning

theorem quotaInv_next (system : QuotaSystem) (event : QuotaEvent) (h : QuotaInv system.shared) :
    QuotaInv ((quotaProgram js decimals).next system event).shared := by
  cases event with
  | call request => exact h
  | answer i answer =>
    rcases (quotaProgram js decimals).next_answer_cases system i answer with hnext |
      ⟨call, after, -, hresume, hnext⟩
    · rw [hnext]
      exact h
    · rw [hnext]
      obtain ⟨⟨resumed, patches⟩, -, rfl⟩ := Option.map_eq_some_iff.mp hresume
      cases patches with
      | true => exact quotaInv_patchAwaited h call
      | false => exact h
  | move change =>
    cases change with
    | startTick reads => exact quotaInv_startTick h reads
    | stepTick tick => exact quotaInv_stepTick js h tick
    | endTick tick => exact quotaInv_endTick js h tick
    | setPlanState record => exact h.step (quotaStep_next system (.setPlanState record)) rfl rfl
    | sync tenantNamespace => exact h.step (quotaStep_next system (.sync tenantNamespace)) rfl rfl

theorem differ_next (hplain : decimals.Plain) (system : QuotaSystem) (event : QuotaEvent)
    (h : system.shared.Differ) (hrestores : RestoresMore system event) :
    ((quotaProgram js decimals).next system event).shared.Differ := by
  cases event with
  | call request => exact h
  | answer i answer =>
    rcases (quotaProgram js decimals).next_answer_cases system i answer with hnext |
      ⟨call, after, -, hresume, hnext⟩
    · rw [hnext]
      exact h
    · rw [hnext]
      obtain ⟨⟨resumed, patches⟩, -, rfl⟩ := Option.map_eq_some_iff.mp hresume
      cases patches with
      | true => exact h.step hplain (quotaStep_patchAwaited system.shared call)
      | false => exact h
  | move change => exact h.step hrestores (quotaStep_next system change)

/-! ## Ticks that end -/

/-- The end of a tick leaves the quotas alone. -/
theorem quotas_endTick (state : QuotaState) (tick : ℕ) :
    (state.next js (.endTick tick)).cluster.quotas = state.cluster.quotas := by
  simp only [QuotaState.next]
  split <;> rfl

theorem tickSuspends_of_unpatched (system : QuotaSystem) (event : QuotaEvent)
    (h : QuotaInv system.shared) (hunpatched : Unpatched system event) :
    TickSuspends js system event := by
  cases event with
  | call request => trivial
  | answer i answer => trivial
  | move change =>
    cases change with
    | endTick tick =>
      intro running hending record hrecord hstate quota hquota
      rw [quotas_endTick] at hquota
      have hget := Option.eq_some_of_filter_eq_some hending
      have hkeeps := (h.running running (List.mem_of_getElem? hget)).passed record hrecord hstate
      have hstored : record.tenantNamespace ∈ system.shared.cluster.quotas := by
        rw [Std.ExtTreeMap.mem_iff_isSome_getElem?, hquota]
        rfl
      exact hkeeps (hunpatched running hending record hrecord hstate hstored) quota hquota
    | startTick reads => trivial
    | stepTick tick => trivial
    | setPlanState record => trivial
    | sync tenantNamespace => trivial

theorem unpatched_of_tickSuspends (system : QuotaSystem) (event : QuotaEvent)
    (h : system.shared.Differ) (hsuspends : TickSuspends js system event) :
    Unpatched system event := by
  cases event with
  | call request => trivial
  | answer i answer => trivial
  | move change =>
    cases change with
    | endTick tick =>
      intro running hending record hrecord hstate hstored hpatched
      obtain ⟨quota, hquota⟩ := Option.isSome_iff_exists.mp
        (Std.ExtTreeMap.mem_iff_isSome_getElem?.mp hstored)
      refine h record.tenantNamespace hpatched quota hquota ?_
      have hend : quota ∈ (system.shared.next js
          (.endTick tick)).cluster.quotas[record.tenantNamespace]? := by
        rw [quotas_endTick]
        exact hquota
      exact hsuspends running hending record hrecord hstate quota hend
    | startTick reads => trivial
    | stepTick tick => trivial
    | setPlanState record => trivial
    | sync tenantNamespace => trivial

/-- In every run in which, whenever a tick ends, the quotas of the namespaces whose plan state is
not active have not been patched otherwise since a tick suspended them, every tick leaves them
suspended. It does in no other run whose restorations change something, if no number is written as
the suspended quantity of cores. -/
theorem tickSuspends_iff (js : JsRuntime) (decimals : Decimals)
    (state : Std.ExtTreeMap String PlanStateRecord) (quotas : QuotaStore)
    (events : List QuotaEvent) :
    (Along (quotaProgram js decimals).next Unpatched (quotaStart state quotas) events →
      Along (quotaProgram js decimals).next (TickSuspends js) (quotaStart state quotas) events) ∧
    (decimals.Plain →
      Along (quotaProgram js decimals).next RestoresMore (quotaStart state quotas) events →
      (Along (quotaProgram js decimals).next (TickSuspends js) (quotaStart state quotas) events ↔
        Along (quotaProgram js decimals).next Unpatched (quotaStart state quotas) events)) := by
  have hinv : QuotaInv (quotaStart state quotas).shared := by
    refine ⟨fun tenantNamespace hmem => ?_, fun running hmem => ?_⟩
    · exact absurd hmem Std.ExtTreeSet.not_mem_empty
    · cases hmem
  have hsuspends :
      Along (quotaProgram js decimals).next Unpatched (quotaStart state quotas) events →
      Along (quotaProgram js decimals).next (TickSuspends js) (quotaStart state quotas) events :=
    along_of_along (fun system event h _ => quotaInv_next system event h)
      tickSuspends_of_unpatched hinv
  refine ⟨hsuspends, fun hplain hrestores => ⟨fun hsuspended => ?_, hsuspends⟩⟩
  have hdiffer : (quotaStart state quotas).shared.Differ := by
    intro tenantNamespace hmem
    cases hmem
  exact along_of_along (I := fun system => system.shared.Differ)
    (fun system event h hboth => differ_next hplain system event h hboth.1)
    (fun system event h hboth => unpatched_of_tickSuspends system event h hboth.2) hdiffer
    (along_and.mpr ⟨hrestores, hsuspended⟩)

/-! ## Runs -/

/-- Decimals that are exact where they are whole. -/
def wholeDecimals : Decimals where
  number text := (digits? text.toList).map fun value => (value : ℚ)
  text value := numberToString ⌊value⌋

/-- A tick from its start to its end. -/
def fullTick : List QuotaEvent :=
  [.move (.startTick
      { credentials := false, subscriptions := ∅, now := "2026-01-31T00:00:00.000Z" }),
    .move (.stepTick 0), .move (.endTick 0)]

/-- The plan state of the namespace `gymact` is suspended. -/
def gymactSuspended : Std.ExtTreeMap String PlanStateRecord :=
  Std.ExtTreeMap.insert ∅ "gymact"
    { tenantNamespace := "gymact", planState := .suspended, source := "admin:ann",
      setAt := "2026-01-31T00:00:00.000Z" }

/-- Capacity is reserved for a namespace, the call being the first one. -/
def reserves (tenantNamespace : String) : List QuotaEvent :=
  [.call (.create { orgId := "acme", tenantNamespace, committedCpuCores := some 4,
                    committedMemoryGi := some 8, termMonths := 12, createdBy := "ann" }),
    .answer 0 (.tier (.ok .pro)), .answer 0 (.patched (.ok ()) 1798664400000)]

/-- A namespace stays suspended while capacity is reserved for another. -/
theorem tickSuspends_quiet :
    let events := fullTick ++ reserves "ggen" ++ fullTick
    Along (quotaProgram gregorian wholeDecimals).next (TickSuspends gregorian)
      (quotaStart gymactSuspended (quotaOf fullHard (some fullHard))) events := by
  intro events
  exact (tickSuspends_iff gregorian wholeDecimals gymactSuspended
    (quotaOf fullHard (some fullHard)) events).1 (by decide +kernel)

/-- A reservation lifts the suspension of a namespace, and the next tick leaves it so. -/
theorem reservation_lifts_suspension :
    let events := fullTick ++ reserves "gymact" ++ fullTick
    ¬ Along (quotaProgram gregorian wholeDecimals).next (TickSuspends gregorian)
      (quotaStart gymactSuspended (quotaOf fullHard (some fullHard))) events := by
  decide +kernel

end ChatmanEcosystem.Console.Capacity
